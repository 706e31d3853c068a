import ResearchEngine.ProjectionGaps
import ResearchEngine.SitusOrder

/-! A parcel's mailing fields and excluded fields: when their values never show in the situs. -/
namespace ResearchEngine
namespace Situs

open PyText FirstMatch Parcel

section Join

variable {α : Type}

/-- Joined parts of known lengths can be told apart. -/
theorem intercalate_inj {sep : List α} {xs ys : List (List α)}
    (hlen : List.Forall₂ (fun x y => x.length = y.length) xs ys)
    (h : sep.intercalate xs = sep.intercalate ys) : xs = ys := by
  induction hlen with
  | nil => rfl
  | @cons x y xs ys hxy hrest ih =>
    cases hrest with
    | nil => simpa using h
    | cons hnext hrest =>
      rw [List.intercalate_cons_cons, List.intercalate_cons_cons, List.append_assoc,
        List.append_assoc] at h
      obtain ⟨rfl, htail⟩ := List.append_inj h hxy
      rw [ih (List.append_cancel_left htail)]

/-- The same for texts, where empty ones are left out. -/
theorem join_inj {xs ys : List String}
    (hlen : List.Forall₂ (fun s t => s.toList.length = t.toList.length) xs ys)
    (h : " ".intercalate (xs.filter nonempty) = " ".intercalate (ys.filter nonempty)) :
    xs = ys := by
  have hnonempty : ∀ s t : String, s.toList.length = t.toList.length → nonempty s = nonempty t := by
    intro s t hst
    simp only [nonempty, ← String.toList_eq_nil_iff, ← List.length_eq_zero_iff, ne_eq, hst]
  have hchars : (xs.filter nonempty).map String.toList = (ys.filter nonempty).map String.toList := by
    refine intercalate_inj ?_ (by
      rw [← String.toList_intercalate, ← String.toList_intercalate, h])
    clear h
    induction hlen with
    | nil => exact .nil
    | @cons s t xs ys hst _ ih =>
      cases hs : nonempty s with
      | true =>
        rw [List.filter_cons_of_pos hs, List.filter_cons_of_pos (hnonempty s t hst ▸ hs)]
        exact .cons hst ih
      | false =>
        rw [List.filter_cons_of_neg (by simp [hs]),
          List.filter_cons_of_neg (by simp [← hnonempty s t hst, hs])]
        exact ih
  have htexts : xs.filter nonempty = ys.filter nonempty :=
    List.map_injective_iff.mpr (fun _ _ => String.toList_inj.mp) hchars
  clear h hchars
  induction hlen with
  | nil => rfl
  | @cons s t xs ys hst _ ih =>
    cases hs : nonempty s with
    | true =>
      rw [List.filter_cons_of_pos hs, List.filter_cons_of_pos (hnonempty s t hst ▸ hs)] at htexts
      obtain ⟨rfl, htail⟩ := List.cons.inj htexts
      rw [ih htail]
    | false =>
      have ht : nonempty t = false := hnonempty s t hst ▸ hs
      rw [List.filter_cons_of_neg (by simp [hs]), List.filter_cons_of_neg (by simp [ht])] at htexts
      obtain rfl : s = "" := by simpa [nonempty] using hs
      obtain rfl : t = "" := by simpa [nonempty] using ht
      rw [ih htexts]

end Join

section Shield

variable [PyText]

/-- The words in the names of owner-mailing fields. -/
def mailMarkers : List String := ["mail", "owner", "billing", "taxpayer", "pstl", "postal"]

/-- The fields whose values are not to show in the situs. -/
def isShielded (exclude : List String) (f : String × Value) : Bool :=
  hasAny mailMarkers (norm f.1) ∨ norm f.1 ∈ exclude.map norm

/-- A field with another value, if it is a shielded one. -/
def refill (exclude : List String) (v : String × Value → Value) (f : String × Value) :
    String × Value :=
  (f.1, if isShielded exclude f then v f else f.2)

/-- The fields that the component searches go through when some of the shielded ones are filled. -/
def seen (exclude : List String) (filled : String × Value → Bool) (attrs : Attrs) : Attrs :=
  attrs.filter fun f => norm f.1 ∉ exclude.map norm ∧
    (if isShielded exclude f then filled f else !isBlank f.2)

/-- What the component searches take. -/
def addressPicks (fields : Attrs) : List (Option (String × Value)) :=
  passes (fun f => norm f.1) fields addressPasses []

/-- A shielded field, which may have any text, or a field with a text of its own. -/
def yields (exclude : List String) (trim : String → String) : Option (String × Value) → Bool
  | none => false
  | some f => isShielded exclude f ∨ trim (strip f.2.text) ≠ ""

/-- A house number and a street name were taken. -/
def completes (exclude : List String) : List (Option (String × Value)) → Bool
  | [num, _, name, _, _] => yields exclude dropPointZero num && yields exclude id name
  | _ => false

/-- No shielded field has a part in the situs: a direct search ends before the components are
searched, or no address is composed when a component search takes one, with or without them. -/
def Unleaking (exclude : List String) (compose : Bool) (attrs : Attrs) : Prop :=
  (compose = false ∧ directFields attrs (exclude.map norm) ≠ []) ∨
    ∀ filled, (∃ f, some f ∈ addressPicks (seen exclude filled attrs) ∧ isShielded exclude f = true) →
      completes exclude (addressPicks (seen exclude filled attrs)) = false ∧
        completes exclude (addressPicks (seen exclude (fun _ => false) attrs)) = false

/-! The direct searches skip the shielded fields. -/

variable {exclude : List String} {attrs : Attrs} {v : String × Value → Value}

theorem isStreetField_shielded {f : String × Value} (hf : isShielded exclude f = true)
    (p : String → Bool) (w : Value) : isStreetField (exclude.map norm) p (f.1, w) = false := by
  refine decide_eq_false fun hstreet => ?_
  obtain ⟨hexcl, -, hskip, -⟩ := hstreet
  obtain hmark | hin := of_decide_eq_true hf
  · have hmarked : hasAny skipped (norm f.1) = true := by
      obtain ⟨marker, hmem, hcontains⟩ := List.any_eq_true.mp hmark
      have hsub : mailMarkers ⊆ skipped := by decide
      exact List.any_eq_true.mpr ⟨marker, hsub hmem, hcontains⟩
    rw [hmarked] at hskip
    cases hskip
  · exact hexcl hin

theorem refill_open {f : String × Value} (hf : isShielded exclude f = false) :
    refill exclude v f = f := by
  unfold refill
  rw [hf]
  rfl

theorem isStreetField_refill (p : String → Bool) (f : String × Value) :
    isStreetField (exclude.map norm) p (refill exclude v f) =
      isStreetField (exclude.map norm) p f := by
  cases hf : isShielded exclude f with
  | true => exact (isStreetField_shielded hf p _).trans (isStreetField_shielded hf p f.2).symm
  | false => rw [refill_open hf]

theorem directFields_refill (exclude : List String) (v : String × Value → Value) (attrs : Attrs) :
    directFields (attrs.map (refill exclude v)) (exclude.map norm) =
      directFields attrs (exclude.map norm) := by
  have hfields : ∀ p, (attrs.map (refill exclude v)).filter (isStreetField (exclude.map norm) p) =
      attrs.filter (isStreetField (exclude.map norm) p) := by
    intro p
    have hcomp : isStreetField (exclude.map norm) p ∘ refill exclude v =
        isStreetField (exclude.map norm) p := funext fun f => isStreetField_refill p f
    rw [List.filter_map, hcomp]
    refine (List.map_congr_left fun f hf => refill_open ?_).trans (List.map_id _)
    by_contra hshield
    have hnot := isStreetField_shielded (eq_true_of_ne_false hshield) p f.2
    have hstreet : isStreetField (exclude.map norm) p f = true := (List.mem_filter.mp hf).2
    rw [hstreet] at hnot
    cases hnot
  unfold directFields
  simp only [hfields]

/-! The component searches go by the names, and by which fields have a value. -/

theorem isUsable_refill (exclude : List String) (v : String × Value → Value) (f : String × Value) :
    decide (norm (refill exclude v f).1 ∉ exclude.map norm ∧ !isBlank (refill exclude v f).2) =
      decide (norm f.1 ∉ exclude.map norm ∧
        (if isShielded exclude f then !isBlank (v f) else !isBlank f.2)) := by
  have hvalue : (!isBlank (refill exclude v f).2) =
      if isShielded exclude f then !isBlank (v f) else !isBlank f.2 := by
    unfold refill
    cases isShielded exclude f with
    | true => simp only [if_true]
    | false => simp only [Bool.false_eq_true, if_false]
  rw [hvalue]
  unfold refill
  dsimp only

theorem usable_refill (exclude : List String) (v : String × Value → Value) (attrs : Attrs) :
    usable (attrs.map (refill exclude v)) (exclude.map norm) =
      (seen exclude (fun f => !isBlank (v f)) attrs).map (refill exclude v) := by
  unfold usable seen
  rw [List.filter_map]
  refine congrArg (List.map (refill exclude v)) ?_
  apply List.filter_congr
  intro f _
  exact isUsable_refill exclude v f

theorem addressPicks_refill (exclude : List String) (v : String × Value → Value) (fields : Attrs) :
    addressPicks (fields.map (refill exclude v)) =
      (addressPicks fields).map (Option.map (refill exclude v)) := by
  unfold addressPicks
  generalize addressPasses = ps
  refine passes_map (refill exclude v) (fun f => ?_) fields ps []
  unfold refill
  dsimp only

theorem composeSitus_picks (attrs : Attrs) (exclude : List String) : composeSitus attrs exclude =
    joinPicks (addressPicks (usable attrs (exclude.map norm))) := composeSitus_eq attrs exclude

theorem composeSitus_refill (exclude : List String) (v : String × Value → Value) (attrs : Attrs) :
    composeSitus (attrs.map (refill exclude v)) exclude =
      joinPicks ((addressPicks (seen exclude (fun f => !isBlank (v f)) attrs)).map
        (Option.map (refill exclude v))) := by
  rw [composeSitus_picks, usable_refill, addressPicks_refill]

theorem seen_open (exclude : List String) (filled : String × Value → Bool) (attrs : Attrs) :
    (seen exclude filled attrs).filter (fun f => !isShielded exclude f) =
      seen exclude (fun _ => false) attrs := by
  unfold seen
  rw [List.filter_filter]
  refine List.filter_congr fun f _ => ?_
  cases isShielded exclude f <;> simp

theorem mem_addressPicks {fields : Attrs} {f : String × Value} (h : some f ∈ addressPicks fields) :
    f ∈ fields := mem_of_mem_passes h

theorem seen_unshielded (f : String × Value)
    (h : some f ∈ addressPicks (seen exclude (fun _ => false) attrs)) :
    isShielded exclude f = false := by
  have hseen := (List.mem_filter.mp (mem_addressPicks h)).2
  by_contra hshield
  simp [eq_true_of_ne_false hshield] at hseen

/-- Searches that take no shielded field take what they take without them. -/
theorem picks_open {filled : String × Value → Bool}
    (h : ∀ f, some f ∈ addressPicks (seen exclude filled attrs) → isShielded exclude f = false) :
    (addressPicks (seen exclude filled attrs)).map (Option.map (refill exclude v)) =
      addressPicks (seen exclude (fun _ => false) attrs) := by
  have hleft : addressPicks (seen exclude (fun _ => false) attrs) =
      addressPicks (seen exclude filled attrs) := by
    rw [← seen_open exclude filled]
    exact passes_left fun f hf => by rw [h f hf]; rfl
  rw [hleft]
  refine (List.map_congr_left fun pick hpick => ?_).trans (List.map_id _)
  cases pick with
  | none => rfl
  | some f => exact congrArg some (refill_open (h f hpick))

/-- What no fields could complete is no address, whatever the shielded fields hold. -/
theorem joinPicks_incomplete {picks : List (Option (String × Value))}
    (h : completes exclude picks = false) (v : String × Value → Value) :
    joinPicks (picks.map (Option.map (refill exclude v))) = "" := by
  have htext : ∀ {trim : String → String} {pick}, trim "" = "" → yields exclude trim pick = false →
      trim (pickText (pick.map (refill exclude v))) = "" := by
    intro trim pick htrim hno
    cases pick with
    | none => exact htrim
    | some f =>
      obtain ⟨hopen, hempty⟩ : isShielded exclude f = false ∧ trim (strip f.2.text) = "" := by
        simpa [yields] using hno
      rw [Option.map_some, refill_open hopen]
      exact hempty
  unfold completes at h
  split at h
  · rename_i num predir name suftype sufdir
    simp only [List.map_cons, List.map_nil, joinPicks]
    obtain hnum | hname := Bool.and_eq_false_iff.mp h
    · rw [if_neg fun hboth => hboth.1 (htext rfl hnum)]
    · rw [if_neg fun hboth => hboth.2 (htext rfl hname)]
  · rename_i hfive
    exact joinPicks_eq_empty (by
      rw [composes_map]
      unfold composes
      split
      · exact absurd rfl (hfive _ _ _ _ _)
      · rfl)

/-! Two texts in the shielded fields make two addresses. -/

/-- The texts of what was taken, in the address's order. -/
def pieces : List (Option (String × Value)) → List String
  | [num, predir, name, suftype, sufdir] =>
    [dropPointZero (pickText num), pickText predir, pickText name, pickText suftype, pickText sufdir]
  | _ => []

/-- The shielded fields all hold one text. -/
def marksAll (exclude : List String) (mark : String) : String × Value → String × Value :=
  refill exclude fun _ => .str mark

variable [PyFloat] {picks : List (Option (String × Value))} {mark : String}

theorem pickText_marks (h : PlainTables) (hmark : mark ∈ ["1A", "2A"])
    (pick : Option (String × Value)) : pickText (pick.map (marksAll exclude mark)) =
      if pick.any (isShielded exclude) then mark else pickText pick := by
  cases pick with
  | none => rfl
  | some f =>
    cases hf : isShielded exclude f with
    | true =>
      simp only [Option.any_some, hf, if_true, Option.map_some, marksAll, refill]
      exact strip_mark h hmark
    | false =>
      rw [Option.map_some, marksAll, refill_open hf]
      simp [hf]

omit [PyText] [PyFloat] in
theorem dropPointZero_mark (hmark : mark ∈ ["1A", "2A"]) : dropPointZero mark = mark := by
  obtain rfl | rfl : mark = "1A" ∨ mark = "2A" := by simpa using hmark
  · decide
  · decide

theorem pieces_length (h : PlainTables) (picks : List (Option (String × Value))) :
    List.Forall₂ (fun s t => s.toList.length = t.toList.length)
      (pieces (picks.map (Option.map (marksAll exclude "1A"))))
      (pieces (picks.map (Option.map (marksAll exclude "2A")))) := by
  have hsame : ∀ (trim : String → String) (pick : Option (String × Value)),
      trim "1A" = "1A" → trim "2A" = "2A" →
      (trim (pickText (pick.map (marksAll exclude "1A")))).toList.length =
        (trim (pickText (pick.map (marksAll exclude "2A")))).toList.length := by
    intro trim pick htrim1 htrim2
    rw [pickText_marks h (by simp), pickText_marks h (by simp)]
    split
    · rw [htrim1, htrim2]
      rfl
    · rfl
  match picks with
  | [num, predir, name, suftype, sufdir] =>
    have hrest := fun pick => hsame id pick rfl rfl
    exact .cons (hsame dropPointZero num (dropPointZero_mark (by simp)) (dropPointZero_mark (by simp)))
      (.cons (hrest _) (.cons (hrest _) (.cons (hrest _) (.cons (hrest _) .nil))))
  | [] | [_] | [_, _] | [_, _, _] | [_, _, _, _] | _ :: _ :: _ :: _ :: _ :: _ :: _ => exact .nil

/-- An address is composed as soon as all shielded fields have a text. -/
theorem joinPicks_marks (h : PlainTables) (hmark : mark ∈ ["1A", "2A"])
    (hc : completes exclude picks = true) : ∃ num texts, num ≠ "" ∧
      pieces (picks.map (Option.map (marksAll exclude mark))) = num :: texts ∧
      joinPicks (picks.map (Option.map (marksAll exclude mark))) =
        " ".intercalate ((num :: texts).filter nonempty) := by
  have hne : mark ≠ "" := by
    rintro rfl
    simp at hmark
  have hyields : ∀ {trim : String → String} {pick}, trim mark = mark →
      yields exclude trim pick = true → trim (pickText (pick.map (marksAll exclude mark))) ≠ "" := by
    intro trim pick htrim hsome
    rw [pickText_marks h hmark]
    cases pick with
    | none => cases hsome
    | some f =>
      cases hf : isShielded exclude f with
      | true => simpa [hf, htrim] using hne
      | false => simpa [yields, hf, pickText] using hsome
  unfold completes at hc
  split at hc
  · rename_i num predir name suftype sufdir
    obtain ⟨hnum, hname⟩ := Bool.and_eq_true_iff.mp hc
    have hnum' := hyields (dropPointZero_mark hmark) hnum
    refine ⟨_, _, hnum', rfl, ?_⟩
    simp only [List.map_cons, List.map_nil, joinPicks]
    rw [if_pos ⟨hnum', hyields rfl hname⟩]
  · cases hc

theorem joinPicks_marks_ne_empty (h : PlainTables) (hmark : mark ∈ ["1A", "2A"])
    (hc : completes exclude picks = true) :
    joinPicks (picks.map (Option.map (marksAll exclude mark))) ≠ "" := by
  obtain ⟨num, texts, hnum, -, hjoin⟩ := joinPicks_marks h hmark hc
  obtain ⟨c, hc⟩ := List.exists_mem_of_ne_nil num.toList (by simpa using hnum)
  rw [hjoin, List.filter_cons_of_pos (show nonempty num = true from decide_eq_true hnum)]
  intro hempty
  have hchars := congrArg String.toList hempty
  rw [String.toList_intercalate, List.map_cons, String.toList_empty] at hchars
  exact List.ne_nil_of_mem (mem_intercalate_of_mem List.mem_cons_self hc) hchars

/-- An address with a shielded field in it shows the text of that field. -/
theorem joinPicks_marks_ne (h : PlainTables) (hc : completes exclude picks = true)
    {f : String × Value} (hf : some f ∈ picks) (hshield : isShielded exclude f = true) :
    joinPicks (picks.map (Option.map (marksAll exclude "1A"))) ≠
      joinPicks (picks.map (Option.map (marksAll exclude "2A"))) := by
  have h1 : "1A" ∈ ["1A", "2A"] := by simp
  have h2 : "2A" ∈ ["1A", "2A"] := by simp
  have htext : ∀ (trim : String → String) (pick : Option (String × Value)),
      trim "1A" = "1A" → trim "2A" = "2A" →
      trim (pickText (pick.map (marksAll exclude "1A"))) =
        trim (pickText (pick.map (marksAll exclude "2A"))) → some f ≠ pick := by
    rintro trim pick htrim1 htrim2 hsame rfl
    rw [pickText_marks h h1, pickText_marks h h2, Option.any_some, hshield, if_pos rfl, if_pos rfl,
      htrim1, htrim2] at hsame
    exact absurd hsame (by decide)
  intro hjoin
  obtain ⟨num, texts, -, hpieces, hjoin1⟩ := joinPicks_marks h h1 hc
  obtain ⟨num', texts', -, hpieces', hjoin2⟩ := joinPicks_marks h h2 hc
  rw [hjoin1, hjoin2, ← hpieces, ← hpieces'] at hjoin
  have hsame := join_inj (pieces_length h picks) hjoin
  unfold completes at hc
  split at hc
  · simp only [List.map_cons, List.map_nil, pieces, List.cons.injEq, and_true] at hsame
    obtain ⟨hnum, hpredir, hname, hsuftype, hsufdir⟩ := hsame
    simp only [List.mem_cons, List.not_mem_nil, or_false] at hf
    obtain hf | hf | hf | hf | hf := hf
    · exact htext _ _ (dropPointZero_mark h1) (dropPointZero_mark h2) hnum hf
    · exact htext id _ rfl rfl hpredir hf
    · exact htext id _ rfl rfl hname hf
    · exact htext id _ rfl rfl hsuftype hf
    · exact htext id _ rfl rfl hsufdir hf
  · cases hc

/-- Values that fill in some of the shielded fields with one text. -/
theorem composeSitus_marks (h : PlainTables) (hmark : mark ∈ ["1A", "2A"])
    (filled : String × Value → Bool) (attrs : Attrs) :
    composeSitus (attrs.map (refill exclude fun f => if filled f then .str mark else .null)) exclude =
      joinPicks ((addressPicks (seen exclude filled attrs)).map
        (Option.map (marksAll exclude mark))) := by
  have hfilled : (fun f => !isBlank (if filled f then .str mark else .null)) = filled := by
    funext f
    cases filled f with
    | true => simp [isBlank_mark h hmark]
    | false => simp [isBlank]
  rw [composeSitus_refill, hfilled]
  refine congrArg joinPicks (List.map_congr_left fun pick hpick => ?_)
  cases pick with
  | none => rw [Option.map_none, Option.map_none]
  | some f =>
    have hseen := (of_decide_eq_true (List.mem_filter.mp (mem_addressPicks hpick)).2).2
    cases hf : isShielded exclude f with
    | true =>
      have hfill : filled f = true := by simpa [hf] using hseen
      simp [marksAll, refill, hf, hfill]
    | false => rw [Option.map_some, Option.map_some, marksAll, refill_open hf, refill_open hf]

/-- Other values in the shielded fields compose to the same address exactly when no shielded field
that a search takes is part of an address. -/
theorem composeSitus_shield_iff (h : PlainTables) (exclude : List String) (attrs : Attrs) :
    (∀ v, composeSitus (attrs.map (refill exclude v)) exclude = composeSitus attrs exclude) ↔
      ∀ filled, (∃ f, some f ∈ addressPicks (seen exclude filled attrs) ∧
          isShielded exclude f = true) →
        completes exclude (addressPicks (seen exclude filled attrs)) = false ∧
          completes exclude (addressPicks (seen exclude (fun _ => false) attrs)) = false := by
  have h1 : "1A" ∈ ["1A", "2A"] := by simp
  have h2 : "2A" ∈ ["1A", "2A"] := by simp
  constructor
  · rintro hsame filled ⟨f, hf, hshield⟩
    have hpart : completes exclude (addressPicks (seen exclude filled attrs)) = false := by
      by_contra hc
      refine joinPicks_marks_ne h (eq_true_of_ne_false hc) hf hshield ?_
      rw [← composeSitus_marks h h1, ← composeSitus_marks h h2, hsame, hsame]
    refine ⟨hpart, ?_⟩
    by_contra hc
    refine joinPicks_marks_ne_empty h h1 (eq_true_of_ne_false hc) ?_
    rw [← composeSitus_marks h h1, hsame, ← hsame, composeSitus_marks h h1 filled]
    exact joinPicks_incomplete hpart _
  · intro hfree v
    have hopen : ∀ v, composeSitus (attrs.map (refill exclude v)) exclude =
        joinPicks (addressPicks (seen exclude (fun _ => false) attrs)) := by
      intro v
      rw [composeSitus_refill]
      by_cases hleak : ∃ f, some f ∈ addressPicks (seen exclude (fun f => !isBlank (v f)) attrs) ∧
          isShielded exclude f = true
      · obtain ⟨hpart, hrest⟩ := hfree _ hleak
        rw [joinPicks_incomplete hpart, ← joinPicks_incomplete hrest v, picks_open seen_unshielded]
      · rw [picks_open fun f hf => ?_]
        by_contra hshield
        exact hleak ⟨f, hf, eq_true_of_ne_false hshield⟩
    have hself : attrs.map (refill exclude Prod.snd) = attrs := by
      refine (List.map_congr_left fun f _ => ?_).trans (List.map_id _)
      simp only [refill, ite_self, id_eq]
    calc composeSitus (attrs.map (refill exclude v)) exclude
        = joinPicks (addressPicks (seen exclude (fun _ => false) attrs)) := hopen v
      _ = composeSitus (attrs.map (refill exclude Prod.snd)) exclude := (hopen Prod.snd).symm
      _ = composeSitus attrs exclude := by rw [hself]

/-- Other values in a parcel's mailing fields and excluded fields never change the situs exactly
when these fields have no part in it. -/
theorem situs_shielded_iff (h : PlainTables) (exclude : List String) (compose : Bool)
    (attrs : Attrs) :
    (∀ v, situsOf exclude compose (attrs.map (refill exclude v)) = situsOf exclude compose attrs) ↔
      Unleaking exclude compose attrs := by
  unfold Unleaking
  rw [← composeSitus_shield_iff h]
  cases compose with
  | true => simp [situsOf]
  | false =>
    simp only [situsOf_direct, directFields_refill, true_and]
    cases directFields attrs (exclude.map norm) with
    | nil => simp
    | cons f fields => simp

end Shield

section Concrete

open scoped PyText.Ascii PyFloat.Whole

/-- A direct search finds the street, so the tax bill's address is no matter. -/
theorem situs_shielded_sample : situsOf [] false ([("SITE_ADDR", .str "12 ELM ST"),
    ("BILLING_STREETNUM", .str "7"), ("BILLING_STREET", .str "BANK RD")].map
      (refill [] fun _ => .str "9")) =
      situsOf [] false [("SITE_ADDR", .str "12 ELM ST"), ("BILLING_STREETNUM", .str "7"),
        ("BILLING_STREET", .str "BANK RD")] :=
  (situs_shielded_iff plainTables_ascii [] false _).mpr (.inl ⟨rfl, by decide +kernel⟩) _

/-- The owner's mail goes to 7 Bank, or to number 9, and the parcel goes with it. -/
theorem billing_street_leaks : ¬ ∀ (exclude : List String) (compose : Bool) (attrs : Attrs)
    (v : String × Value → Value),
    situsOf exclude compose (attrs.map (refill exclude v)) = situsOf exclude compose attrs := by
  intro hall
  have hsame := hall [] false [("PSTL_STNUM", .str "7"), ("PSTL_ROAD", .str "BANK"),
    ("STNUM", .str "12"), ("ROAD", .str "ELM")] fun f => if f.1 = "PSTL_STNUM" then .str "9" else f.2
  exact absurd hsame (by decide +kernel)

end Concrete

end Situs
end ResearchEngine
