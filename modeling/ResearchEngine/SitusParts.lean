import ResearchEngine.ProjectedReads

/-! The parts of a composed situs: no field of the parcel is in it twice, and no excluded or
mailing field at all. -/
namespace ResearchEngine
namespace Situs

open PyText FirstMatch

section Parts

variable [PyText]

/-- The fields behind a composed address. -/
structure Parts where
  num : String × Value
  predir : Option (String × Value)
  name : String × Value
  suftype : Option (String × Value)
  sufdir : Option (String × Value)

namespace Parts

/-- In the order of the passes. -/
def picks (parts : Parts) : List (Option (String × Value)) :=
  [some parts.num, parts.predir, some parts.name, parts.suftype, parts.sufdir]

def fields (parts : Parts) : List (String × Value) := parts.picks.reduceOption

/-- The house number without a trailing `.0`, then what there is of the others. -/
def texts (parts : Parts) : List String :=
  dropPointZero (strip parts.num.2.text) ::
    [parts.predir, some parts.name, parts.suftype, parts.sufdir].reduceOption.map
      fun f => strip f.2.text

def text (parts : Parts) : String := " ".intercalate parts.texts

/-- The fields are the parcel's, no two of them have one normalised name, and none is excluded or a
mailing field. Each has the kind of name that its pass looks for, and a text to show. -/
structure Sound (parts : Parts) (attrs : Attrs) (exclude : List String) : Prop where
  mem : ∀ f ∈ parts.fields, f ∈ attrs
  distinct : (parts.fields.map fun f => norm f.1).Nodup
  unexcluded : ∀ f ∈ parts.fields, norm f.1 ∉ exclude.map norm
  unmailed : ∀ f ∈ parts.fields, isMail (norm f.1) = false
  suits : List.Forall₂ (fun p pick => ∀ f, pick = some f → p (norm f.1) = true) addressPasses
    parts.picks
  shown : ∀ t ∈ parts.texts, t ≠ ""

end Parts

/-- A field that was taken, if it has a text. -/
def withText (pick : Option (String × Value)) : Option (String × Value) :=
  pick.filter fun f => nonempty (strip f.2.text)

theorem withText_eq_some_iff {pick : Option (String × Value)} {f : String × Value} :
    withText pick = some f ↔ pick = some f ∧ strip f.2.text ≠ "" := by
  simp [withText, Option.filter_eq_some_iff, nonempty]

theorem withText_blank {f : String × Value} (h : strip f.2.text = "") :
    withText (some f) = none := by
  simp [withText, nonempty, h]

theorem withText_some {f : String × Value} (h : strip f.2.text ≠ "") :
    withText (some f) = some f := withText_eq_some_iff.mpr ⟨rfl, h⟩

/-- The texts that are joined are those of the fields that have one. -/
theorem filter_pickText (picks : List (Option (String × Value))) :
    (picks.map pickText).filter nonempty =
      (picks.map withText).reduceOption.map fun f => strip f.2.text := by
  induction picks with
  | nil => rfl
  | cons pick picks ih =>
    cases pick with
    | none => simpa [pickText, withText, nonempty] using ih
    | some f =>
      by_cases hf : strip f.2.text = ""
      · simpa [pickText, nonempty, hf, withText_blank hf] using ih
      · simpa [pickText, nonempty, hf, withText_some hf] using ih

theorem withText_sublist (picks : List (Option (String × Value))) :
    (picks.map withText).reduceOption.Sublist picks.reduceOption := by
  induction picks with
  | nil => simp
  | cons pick picks ih =>
    cases pick with
    | none => simpa [withText] using ih
    | some f =>
      by_cases hf : strip f.2.text = ""
      · simpa [withText_blank hf] using ih.cons f
      · simpa [withText_some hf] using ih

omit [PyText] in
/-- Every pass leaves the mailing fields out. -/
theorem addressPasses_unmailed {kl : String} (h : ∃ p ∈ addressPasses, p kl = true) :
    isMail kl = false := by
  obtain ⟨p, hp, hkl⟩ := h
  obtain ⟨q, -, rfl⟩ := List.mem_map.mp hp
  simp at hkl
  exact hkl.1

/-- What the passes took, where it has a text. -/
theorem sound_of_passes {attrs : Attrs} {exclude : List String} {parts : Parts}
    {picks : List (Option (String × Value))}
    (h : Choice (fun f => norm f.1) (usable attrs (exclude.map norm)) addressPasses [] picks)
    (hparts : parts.picks = picks.map withText) (hshown : ∀ t ∈ parts.texts, t ≠ "") :
    parts.Sound attrs exclude := by
  have hsub : parts.fields.Sublist picks.reduceOption := by
    rw [Parts.fields, hparts]
    exact withText_sublist picks
  have husable : ∀ f ∈ parts.fields, f ∈ attrs ∧ norm f.1 ∉ exclude.map norm := by
    intro f hf
    obtain ⟨hmem, hkeep⟩ := List.mem_filter.mp (h.mem f (hsub.subset hf)).1
    exact ⟨hmem, (of_decide_eq_true hkeep).1⟩
  have hsuits : List.Forall₂ (fun p pick => ∀ f, pick = some f → p (norm f.1) = true) addressPasses
      parts.picks := by
    rw [hparts, List.forall₂_map_right_iff]
    exact h.suits.imp fun p pick hp f hf => hp f (withText_eq_some_iff.mp hf).1
  exact {
    mem := fun f hf => (husable f hf).1
    distinct := h.keys_nodup.sublist (hsub.map _)
    unexcluded := fun f hf => (husable f hf).2
    unmailed := fun f hf => addressPasses_unmailed (h.suits_one f (hsub.subset hf))
    suits := hsuits
    shown := hshown }

omit [PyText] in
theorem picks_of_composes {α : Type} {picks : List (Option α)} (h : composes picks = true) :
    ∃ num predir name suftype sufdir, picks = [some num, predir, some name, suftype, sufdir] := by
  unfold composes at h
  split at h
  · rename_i num predir name suftype sufdir
    obtain ⟨hnum, hname⟩ := Bool.and_eq_true_iff.mp h
    obtain ⟨f, rfl⟩ := Option.isSome_iff_exists.mp hnum
    obtain ⟨g, rfl⟩ := Option.isSome_iff_exists.mp hname
    exact ⟨f, predir, g, suftype, sufdir, rfl⟩
  · cases h

/-- A house number and a street name that show make an address with parts. -/
theorem joinPicks_parts {num name : String × Value} {predir suftype sufdir : Option (String × Value)}
    (hnum : dropPointZero (strip num.2.text) ≠ "") (hname : strip name.2.text ≠ "") :
    ∃ parts : Parts, parts.picks = [some num, predir, some name, suftype, sufdir].map withText ∧
      (∀ t ∈ parts.texts, t ≠ "") ∧
      joinPicks [some num, predir, some name, suftype, sufdir] = parts.text := by
  have hwhole : strip num.2.text ≠ "" := by
    intro hempty
    rw [hempty] at hnum
    exact hnum rfl
  let parts : Parts :=
    { num := num, predir := withText predir, name := name, suftype := withText suftype,
      sufdir := withText sufdir }
  have htexts : (dropPointZero (strip num.2.text) ::
      [predir, some name, suftype, sufdir].map pickText).filter nonempty = parts.texts := by
    rw [List.filter_cons_of_pos (by simpa [nonempty] using hnum), filter_pickText]
    simp only [List.map_cons, List.map_nil, withText_some hname, parts, Parts.texts]
  refine ⟨parts, ?_, ?_, ?_⟩
  · simp [parts, Parts.picks, withText_some hwhole, withText_some hname]
  · intro t ht
    rw [← htexts] at ht
    simpa [nonempty] using (List.mem_filter.mp ht).2
  · rw [Parts.text, ← htexts]
    simp [joinPicks, pickText, hnum, hname]

/-- A composed address is made of a house number and a street name, and perhaps directionals and a
type, each from a field of its own. -/
theorem situs_of_parts (attrs : Attrs) (exclude : List String)
    (h : composeSitus attrs exclude ≠ "") :
    ∃ parts : Parts, parts.Sound attrs exclude ∧ composeSitus attrs exclude = parts.text := by
  have hchoice : Choice (fun f => norm f.1) (usable attrs (exclude.map norm)) addressPasses []
      (passes (fun f => norm f.1) (usable attrs (exclude.map norm)) addressPasses []) :=
    passes_choice _ _ _
  rw [composeSitus_eq] at h ⊢
  generalize passes (fun f => norm f.1) (usable attrs (exclude.map norm)) addressPasses [] = picks
    at h hchoice ⊢
  have hcomposes : composes picks = true := by
    by_contra hno
    exact h (joinPicks_eq_empty (eq_false_of_ne_true hno))
  obtain ⟨num, predir, name, suftype, sufdir, rfl⟩ := picks_of_composes hcomposes
  have hboth : dropPointZero (pickText (some num)) ≠ "" ∧ pickText (some name) ≠ "" := by
    by_contra hno
    apply h
    unfold joinPicks
    exact if_neg hno
  obtain ⟨parts, hpicks, hshown, htext⟩ := joinPicks_parts hboth.1 hboth.2
  exact ⟨parts, sound_of_passes hchoice hpicks hshown, htext⟩

end Parts

section Concrete

open scoped PyText.Ascii

/-- The field with the house number has a name that the street pass would take too. -/
def worthFields : Attrs :=
  [("ADDRESS_NU", .float "201.0" false), ("OWNER_STREET", .str "BANK RD"), ("PRE_DIR", .str "N"),
    ("ADDRESS", .str "ELM"), ("ST_TYPE", .str "NULL")]

theorem situs_of_parts_worth : ∃ parts : Parts, parts.Sound worthFields ["mailadd"] ∧
    "201 N ELM" = parts.text := by
  have hsitus : composeSitus worthFields ["mailadd"] = "201 N ELM" := by decide +kernel
  exact hsitus ▸ situs_of_parts worthFields ["mailadd"] (by decide +kernel)

end Concrete

end Situs
end ResearchEngine
