import ResearchEngine.ProjectedReads

/-! The order of a parcel's fields: when every order gives one situs. -/
namespace ResearchEngine
namespace Situs

open PyText FirstMatch

section Join

variable {α : Type} {sep a b : List α}

/-- A part that is added to joined parts shows. -/
theorem intercalate_insert {xs ys : List (List α)}
    (h : sep.intercalate (xs ++ a :: ys) = sep.intercalate (xs ++ ys)) : a = [] := by
  induction xs with
  | nil =>
    cases ys with
    | nil => simpa using h
    | cons y ys =>
      have hlen := congrArg List.length h
      rw [List.nil_append, List.nil_append, List.intercalate_cons_cons, List.length_append,
        List.length_append] at hlen
      exact List.length_eq_zero_iff.mp (by omega)
  | cons x xs ih =>
    rw [List.cons_append, List.cons_append, List.intercalate_cons_of_ne_nil (by simp)] at h
    by_cases hrest : xs ++ ys = []
    · have hlen := congrArg List.length h
      obtain ⟨rfl, rfl⟩ := List.append_eq_nil_iff.mp hrest
      simp at hlen
      exact hlen.2
    · rw [List.intercalate_cons_of_ne_nil hrest] at h
      exact ih (List.append_cancel_left h)

/-- Joined parts that differ in one place are told apart. -/
theorem intercalate_replace {xs ys : List (List α)}
    (h : sep.intercalate (xs ++ a :: ys) = sep.intercalate (xs ++ b :: ys)) : a = b := by
  induction xs with
  | nil =>
    cases ys with
    | nil => simpa using h
    | cons y ys =>
      rw [List.nil_append, List.nil_append, List.intercalate_cons_cons,
        List.intercalate_cons_cons] at h
      exact List.append_cancel_right (List.append_cancel_right h)
  | cons x xs ih =>
    rw [List.cons_append, List.cons_append, List.intercalate_cons_of_ne_nil (by simp),
      List.intercalate_cons_of_ne_nil (by simp)] at h
    exact ih (List.append_cancel_left h)

/-- Joined parts go on with the separator, if they go on. -/
theorem intercalate_cons (s : α) (x : List α) (xs : List (List α)) :
    ∃ rest, [s].intercalate (x :: xs) = x ++ rest ∧ (rest = [] ∨ ∃ w, rest = s :: w) := by
  cases xs with
  | nil => exact ⟨[], by simp, .inl rfl⟩
  | cons y ys =>
    refine ⟨s :: [s].intercalate (y :: ys), ?_, .inr ⟨_, rfl⟩⟩
    rw [List.intercalate_cons_cons, List.append_assoc, List.singleton_append]

theorem front_of_rest {s : α} {rest c v : List α} (hrest : rest = [] ∨ ∃ w, rest = s :: w)
    (h : rest = c ++ v) : c = [] ∨ ∃ w, c = s :: w := by
  cases c with
  | nil => exact .inl rfl
  | cons d c =>
    rcases hrest with rfl | ⟨w, rfl⟩
    · cases h
    · obtain ⟨rfl, -⟩ := List.cons.inj h
      exact .inr ⟨c, rfl⟩

/-- Where joined parts agree and all before one place is the same, the part there is the same, or it
begins with the other and a separator. -/
theorem intercalate_first {s : α} {xs ys zs : List (List α)}
    (h : [s].intercalate (xs ++ a :: ys) = [s].intercalate (xs ++ b :: zs)) :
    a = b ∨ (a ++ [s]) <+: b ∨ (b ++ [s]) <+: a := by
  induction xs with
  | nil =>
    obtain ⟨u, hu, hu'⟩ := intercalate_cons s a ys
    obtain ⟨v, hv, hv'⟩ := intercalate_cons s b zs
    rw [List.nil_append, List.nil_append, hu, hv] at h
    rcases List.append_eq_append_iff.mp h with ⟨c, rfl, hc⟩ | ⟨c, rfl, hc⟩
    · rcases front_of_rest hu' hc with rfl | ⟨w, rfl⟩
      · exact .inl (List.append_nil a).symm
      · exact .inr (.inl ⟨w, by simp⟩)
    · rcases front_of_rest hv' hc with rfl | ⟨w, rfl⟩
      · exact .inl (List.append_nil b)
      · exact .inr (.inr ⟨w, by simp⟩)
  | cons x xs ih =>
    rw [List.cons_append, List.cons_append, List.intercalate_cons_of_ne_nil (by simp),
      List.intercalate_cons_of_ne_nil (by simp)] at h
    exact ih (List.append_cancel_left h)

/-- Neither text is empty or begins with the words of the other. -/
def ToldAtStart (s t : String) : Prop :=
  s ≠ "" ∧ t ≠ "" ∧ s ≠ t ∧ ¬ (s ++ " ").toList <+: t.toList ∧ ¬ (t ++ " ").toList <+: s.toList

instance : DecidableRel ToldAtStart := fun s t =>
  inferInstanceAs (Decidable (s ≠ "" ∧ t ≠ "" ∧ s ≠ t ∧ ¬ (s ++ " ").toList <+: t.toList ∧
    ¬ (t ++ " ").toList <+: s.toList))

/-- Texts that are told apart do not begin a common text. -/
theorem join_first {xs ys zs : List String} {s t : String}
    (h : " ".intercalate ((xs ++ s :: ys).filter nonempty) =
      " ".intercalate ((xs ++ t :: zs).filter nonempty)) : ¬ ToldAtStart s t := by
  rintro ⟨hs, ht, hne, hst, hts⟩
  have hchars := congrArg String.toList h
  rw [String.toList_intercalate, String.toList_intercalate, List.filter_append, List.filter_append,
    List.filter_cons_of_pos (by simp [nonempty, hs]),
    List.filter_cons_of_pos (by simp [nonempty, ht])] at hchars
  simp only [List.map_append, List.map_cons] at hchars
  rcases intercalate_first (s := ' ') hchars with heq | hpre | hpre
  · exact hne (String.toList_inj.mp heq)
  · exact hst (by simpa using hpre)
  · exact hts (by simpa using hpre)

/-- Texts that are joined but for one are told apart by it. -/
theorem join_replace {xs ys : List String} {s t : String}
    (h : " ".intercalate ((xs ++ s :: ys).filter nonempty) =
      " ".intercalate ((xs ++ t :: ys).filter nonempty)) : s = t := by
  have hchars := congrArg String.toList h
  rw [String.toList_intercalate, String.toList_intercalate, List.filter_append,
    List.filter_append] at hchars
  by_cases hs : s = ""
  · by_cases ht : t = ""
    · rw [hs, ht]
    · rw [List.filter_cons_of_neg (by simp [nonempty, hs]),
        List.filter_cons_of_pos (by simp [nonempty, ht])] at hchars
      simp only [List.map_append, List.map_cons] at hchars
      exact (ht (String.toList_eq_nil_iff.mp (intercalate_insert hchars.symm))).elim
  · rw [List.filter_cons_of_pos (by simp [nonempty, hs])] at hchars
    by_cases ht : t = ""
    · rw [List.filter_cons_of_neg (by simp [nonempty, ht])] at hchars
      simp only [List.map_append, List.map_cons] at hchars
      exact (hs (String.toList_eq_nil_iff.mp (intercalate_insert hchars))).elim
    · rw [List.filter_cons_of_pos (by simp [nonempty, ht])] at hchars
      simp only [List.map_append, List.map_cons] at hchars
      exact String.toList_inj.mp (intercalate_replace hchars)

theorem join_ne_empty {s : String} (hs : s ≠ "") (ss : List String) :
    " ".intercalate (s :: ss) ≠ "" := by
  cases ss with
  | nil => simpa using hs
  | cons t ss => simp [String.intercalate_cons_cons, hs]

end Join

section Order

variable [PyText]

/-- A field that a direct search for names with `p` may return. -/
def isStreetField (excl : List String) (p : String → Bool) (f : String × Value) : Bool :=
  norm f.1 ∉ excl ∧ p (norm f.1) ∧ !hasAny skipped (norm f.1) ∧ hasStreet f.2

/-- The text of a field as a direct search returns it. -/
def streetText (f : String × Value) : String := " ".intercalate (words f.2.text)

/-- The direct searches in their order: the full address, then the aliases. -/
def directSearches : List (String → Bool) := isFullAddress :: aliases.map fun a kl => contains kl a

/-- The fields that the first direct search with any of them may return. -/
def directFields (attrs : Attrs) (excl : List String) : Attrs :=
  ((directSearches.map fun p => attrs.filter (isStreetField excl p)).find?
    fun fields => !fields.isEmpty).getD []

theorem findStreet_eq (attrs : Attrs) (excl : List String) (p : String → Bool) :
    findStreet attrs excl p = (attrs.find? (isStreetField excl p)).map streetText :=
  findSome?_ite _ streetText attrs

theorem findSome?_direct (attrs : Attrs) (excl : List String) (searches : List (String → Bool)) :
    searches.findSome? (findStreet attrs excl) =
      (((searches.map fun p => attrs.filter (isStreetField excl p)).find?
        fun fields => !fields.isEmpty).getD []).head?.map streetText := by
  induction searches with
  | nil => rfl
  | cons p searches ih =>
    rw [List.findSome?_cons, findStreet_eq, ← List.head?_filter, List.map_cons]
    cases hfields : attrs.filter (isStreetField excl p) with
    | nil =>
      rw [List.find?_cons_of_neg (by simp)]
      exact ih
    | cons f fields =>
      rw [List.find?_cons_of_pos (by simp)]
      rfl

/-- The direct searches return the first of the fields that the deciding one may return. -/
theorem situsOf_direct (attrs : Attrs) (exclude : List String) :
    situsOf exclude false attrs =
      ((directFields attrs (exclude.map norm)).head?.map streetText).getD
        (composeSitus attrs exclude) := by
  unfold directFields
  rw [← findSome?_direct, directSearches, List.findSome?_cons, List.findSome?_map]
  unfold situsOf
  rw [if_neg (by simp)]
  dsimp only
  cases findStreet attrs (exclude.map norm) isFullAddress with
  | some street => rfl
  | none =>
    have hcomp : (findStreet attrs (exclude.map norm) ∘ fun a kl => contains kl a) =
        fun a => findStreet attrs (exclude.map norm) (contains · a) := rfl
    rw [hcomp]
    cases aliases.findSome? fun a => findStreet attrs (exclude.map norm) (contains · a) <;> rfl

/-- What each component search makes of the field that it takes. -/
def componentTexts : List (String × Value → String) :=
  [fun f => dropPointZero (strip f.2.text), fun f => strip f.2.text, fun f => strip f.2.text,
    fun f => strip f.2.text, fun f => strip f.2.text]

/-- The component searches, as readers of a field. -/
def addressReaders : List (String × Value → Option String) :=
  List.zipWith (suitReader fun f => norm f.1) addressPasses componentTexts

/-- No field has a house number to show beside a street in another field. -/
def NoAddress (fields : Attrs) : Prop :=
  match addressReaders with
  | [number, _, street, _, _] =>
    ∀ f ∈ fields, ∀ g ∈ fields, norm f.1 ≠ norm g.1 →
      (number f).getD "" = "" ∨ (street g).getD "" = ""
  | _ => True

/-- The fields that compete do not differ: all fields of the deciding direct search have one text;
or, where the components are searched, there is no address in them, or the fields that compete for
a component show the same there and are alike to the searches after it. -/
def OrderFree (exclude : List String) (compose : Bool) (attrs : Attrs) : Prop :=
  if compose = false ∧ directFields attrs (exclude.map norm) ≠ [] then
    ∀ f ∈ directFields attrs (exclude.map norm), ∀ g ∈ directFields attrs (exclude.map norm),
      streetText f = streetText g
  else
    NoAddress (usable attrs (exclude.map norm)) ∨
      Uncontested addressReaders (usable attrs (exclude.map norm))

/-- `situs_of` returns the same for every order of the fields. -/
def SameInEveryOrder (exclude : List String) (compose : Bool) (attrs : Attrs) : Prop :=
  ∀ attrs', attrs.Perm attrs' → situsOf exclude compose attrs' = situsOf exclude compose attrs

/-- The address that is made of what the component searches show. -/
def joinTexts : List (Option String) → String
  | [num, predir, name, suftype, sufdir] =>
    if num.getD "" ≠ "" ∧ name.getD "" ≠ "" then
      " ".intercalate (([num, predir, name, suftype, sufdir].map fun t => t.getD "").filter nonempty)
    else ""
  | _ => ""

/-! Every order of the fields. -/

theorem directFields_perm {attrs attrs' : Attrs} (h : attrs.Perm attrs') (excl : List String) :
    (directFields attrs excl).Perm (directFields attrs' excl) := by
  unfold directFields
  induction directSearches with
  | nil => exact .refl _
  | cons p searches ih =>
    have hp := h.filter (isStreetField excl p)
    rw [List.map_cons, List.map_cons]
    cases hfields : attrs.filter (isStreetField excl p) with
    | nil =>
      rw [hfields, List.nil_perm] at hp
      rw [List.find?_cons_of_neg (by simp), hp, List.find?_cons_of_neg (by simp)]
      exact ih
    | cons f fields =>
      rw [hfields] at hp
      have hne : attrs'.filter (isStreetField excl p) ≠ [] := by
        intro hnil
        rw [hnil] at hp
        exact List.cons_ne_nil _ _ hp.eq_nil
      rw [List.find?_cons_of_pos (by simp), List.find?_cons_of_pos (by simpa using hne)]
      exact hp

theorem directFields_subset {attrs : Attrs} {excl : List String} {f : String × Value}
    (h : f ∈ directFields attrs excl) : f ∈ attrs := by
  unfold directFields at h
  cases hfind : (directSearches.map fun p => attrs.filter (isStreetField excl p)).find?
      fun fields => !fields.isEmpty with
  | none =>
    rw [hfind] at h
    cases h
  | some fields =>
    obtain ⟨p, -, rfl⟩ := List.mem_map.mp (List.mem_of_find?_eq_some hfind)
    rw [hfind] at h
    exact (List.mem_filter.mp h).1

/-- A field that stands in front is the one that the deciding search returns. -/
theorem directFields_front {attrs rest : Attrs} {excl : List String} {f : String × Value}
    (hperm : attrs.Perm (f :: rest)) (h : f ∈ directFields attrs excl) :
    (directFields (f :: rest) excl).head? = some f := by
  unfold directFields at h ⊢
  generalize directSearches = searches at h ⊢
  induction searches with
  | nil => cases h
  | cons p searches ih =>
    have hp := hperm.filter (isStreetField excl p)
    rw [List.map_cons] at h ⊢
    cases hfields : attrs.filter (isStreetField excl p) with
    | nil =>
      rw [hfields, List.nil_perm] at hp
      rw [hfields, List.find?_cons_of_neg (by simp)] at h
      rw [hp, List.find?_cons_of_neg (by simp)]
      exact ih h
    | cons g fields =>
      rw [List.find?_cons_of_pos (by simp [hfields])] at h
      have hstreet : isStreetField excl p f = true := (List.mem_filter.mp h).2
      rw [List.filter_cons_of_pos hstreet, List.find?_cons_of_pos (by simp)]
      rfl

theorem usable_perm {attrs attrs' : Attrs} (h : attrs.Perm attrs') (excl : List String) :
    (usable attrs excl).Perm (usable attrs' excl) := h.filter _

/-- Every order of the usable fields comes from an order of all the fields. -/
theorem exists_usable {attrs l : Attrs} {excl : List String} (h : (usable attrs excl).Perm l) :
    ∃ attrs', attrs.Perm attrs' ∧ usable attrs' excl = l := by
  unfold usable at h ⊢
  generalize (fun f : String × Value => decide (norm f.1 ∉ excl ∧ (!isBlank f.2) = true)) = p at *
  refine ⟨l ++ attrs.filter fun f => !p f, ?_, ?_⟩
  · exact (List.filter_append_perm p attrs).symm.trans (h.append_right _)
  · have hl : l.filter p = l := List.filter_eq_self.mpr fun f hf =>
      (List.mem_filter.mp (h.mem_iff.mpr hf)).2
    rw [List.filter_append, hl, List.filter_filter]
    simp

theorem usable_nodup {attrs : Attrs} (h : (attrs.map fun f => norm f.1).Nodup) (excl : List String) :
    ((usable attrs excl).map fun f => norm f.1).Nodup := h.sublist (List.filter_sublist.map _)

theorem dropPointZero_pickText (num : Option (String × Value)) :
    dropPointZero (pickText num) = (num.map fun f => dropPointZero (strip f.2.text)).getD "" := by
  cases num with
  | none =>
    have hnone : dropPointZero "" = "" := by decide
    simpa [pickText] using hnone
  | some f => simp [pickText]

theorem joinPicks_eq_texts (num predir name suftype sufdir : Option (String × Value)) :
    joinPicks [num, predir, name, suftype, sufdir] =
      joinTexts ((num.map fun f => dropPointZero (strip f.2.text)) ::
        [predir, name, suftype, sufdir].map (Option.map fun f => strip f.2.text)) := by
  unfold joinPicks joinTexts
  simp only [dropPointZero_pickText, List.map_cons, List.map_nil]
  rfl

/-- `_compose_situs` joins what its searches show. -/
theorem composeSitus_eq_texts {attrs : Attrs} (hkeys : (attrs.map fun f => norm f.1).Nodup)
    (exclude : List String) : composeSitus attrs exclude =
      joinTexts (readEach addressReaders (usable attrs (exclude.map norm))) := by
  have hlen : addressPasses.length = componentTexts.length := rfl
  have hnodup := usable_nodup hkeys (exclude.map norm)
  have hread := readEach_passes hnodup addressPasses componentTexts hlen []
  have hall : (usable attrs (exclude.map norm)).filter (fun f => norm f.1 ∉ []) =
      usable attrs (exclude.map norm) := by simp
  rw [hall] at hread
  rw [composeSitus_eq, addressReaders, hread]
  exact joinPicks_eq_texts _ _ _ _ _

omit [PyText] in
theorem joinTexts_of_ne {ts : List (Option String)} (h : joinTexts ts ≠ "") :
    joinTexts ts = " ".intercalate ((ts.map fun t => t.getD "").filter nonempty) := by
  unfold joinTexts at h ⊢
  split at h
  · rename_i num predir name suftype sufdir
    split at h
    · rename_i hshown
      exact if_pos hshown
    · exact (h rfl).elim
  · exact (h rfl).elim

omit [PyText] in
/-- Two addresses that differ in one component are told apart. -/
theorem joinTexts_replace {pre post : List (Option String)} {s t : String}
    (h : joinTexts (pre ++ some s :: post) = joinTexts (pre ++ some t :: post))
    (hne : joinTexts (pre ++ some s :: post) ≠ "") : s = t := by
  have hne' : joinTexts (pre ++ some t :: post) ≠ "" := h ▸ hne
  rw [joinTexts_of_ne hne, joinTexts_of_ne hne'] at h
  simp only [List.map_append, List.map_cons, Option.getD_some] at h
  exact join_replace h

omit [PyText] in
/-- Two addresses do not differ first in components that are told apart. -/
theorem joinTexts_first {pre post post' : List (Option String)} {s t : String}
    (h : joinTexts (pre ++ some s :: post) = joinTexts (pre ++ some t :: post'))
    (hne : joinTexts (pre ++ some s :: post) ≠ "") : ¬ ToldAtStart s t := by
  have hne' : joinTexts (pre ++ some t :: post') ≠ "" := h ▸ hne
  rw [joinTexts_of_ne hne, joinTexts_of_ne hne'] at h
  simp only [List.map_append, List.map_cons, Option.getD_some] at h
  exact join_first h

omit [PyText] in
theorem isStreetName_not_dir {kl frag : String} (h : isStreetName kl = true)
    (hfrag : "dir".toList <:+: frag.toList) : contains kl frag = false := by
  have hno : contains kl "dir" = false := by
    have hwords := (of_decide_eq_true h).2
    simp only [hasAny, List.any_cons, List.any_nil, Bool.not_eq_true', Bool.or_eq_false_iff] at hwords
    exact hwords.2.1
  by_contra hc
  have hin : frag.toList <:+: kl.toList := of_decide_eq_true (eq_true_of_ne_false hc)
  rw [contains, decide_eq_false_iff_not] at hno
  exact hno (hfrag.trans hin)

/-- The five searches, of which the second takes no field that suits the third. -/
theorem addressReaders_parts : ∃ number predir street suftype sufdir,
    addressReaders = [number, predir, street, suftype, sufdir] ∧
      ∀ f, (street f).isSome → predir f = none := by
  refine ⟨_, _, _, _, _, rfl, fun f hf => ?_⟩
  have hstreet : isStreetName (norm f.1) = true := by
    by_contra hno
    simp [suitReader, hno] at hf
  have hdir : hasAny ["predir", "prefixdir", "streetdir", "stdir", "direction1", "situsdir"]
      (norm f.1) = false := by
    rw [hasAny, List.any_eq_false]
    intro frag hfrag
    rw [isStreetName_not_dir hstreet]
    · exact Bool.false_ne_true
    · revert frag
      decide +kernel
  exact if_neg (by simp [hdir])

/-- Without a number and a street in different fields no order makes an address. -/
theorem joinTexts_of_noAddress {fields l : Attrs} (h : NoAddress fields)
    (hkeys : (fields.map fun f => norm f.1).Nodup) (hperm : fields.Perm l) :
    joinTexts (readEach addressReaders l) = "" := by
  obtain ⟨number, predir, street, suftype, sufdir, hreaders, -⟩ := addressReaders_parts
  unfold NoAddress at h
  rw [hreaders] at h ⊢
  simp only [readEach, joinTexts]
  refine if_neg fun hshown => ?_
  obtain ⟨hnum, hname⟩ := hshown
  rcases read_cases number l with ⟨hnone, -⟩ | ⟨f, -, hfirst, hsplit⟩
  · simp [hnone] at hnum
  rw [hfirst] at hnum
  generalize hleft : l.eraseP (fun a => (number a).isSome) = left at hname hsplit
  cases hfound : (left.eraseP fun a => (predir a).isSome).findSome? street with
  | none => simp [hfound] at hname
  | some text =>
    obtain ⟨g, hg, htext⟩ := List.exists_of_findSome?_eq_some hfound
    have hgl : g ∈ left := List.mem_of_mem_eraseP hg
    have hnodup : ((f :: left).map fun e => norm e.1).Nodup :=
      ((hperm.trans hsplit).map _).nodup_iff.mp hkeys
    have hne : norm f.1 ≠ norm g.1 := fun he =>
      (List.nodup_cons.mp hnodup).1 (List.mem_map.mpr ⟨g, hgl, he.symm⟩)
    have hmem : ∀ e ∈ f :: left, e ∈ fields := fun e he => (hperm.trans hsplit).mem_iff.mpr he
    rcases h f (hmem f List.mem_cons_self) g (hmem g (List.mem_cons_of_mem f hgl)) hne with hf | hg'
    · exact hnum hf
    · rw [hfound] at hname
      rw [htext] at hg'
      exact hname hg'

/-- With them some order makes one. -/
theorem exists_address {fields : Attrs} (h : ¬ NoAddress fields) :
    ∃ l, fields.Perm l ∧ joinTexts (readEach addressReaders l) ≠ "" := by
  obtain ⟨number, predir, street, suftype, sufdir, hreaders, hdir⟩ := addressReaders_parts
  unfold NoAddress at h
  rw [hreaders] at h ⊢
  simp only [not_forall, not_or] at h
  obtain ⟨f, hf, g, hg, hne, hnum, hname⟩ := h
  have hfnum : (number f).isSome := by
    cases hnumber : number f with
    | none => simp [hnumber] at hnum
    | some t => rfl
  have hgname : (street g).isSome := by
    cases hstreet : street g with
    | none => simp [hstreet] at hname
    | some t => rfl
  have hg' : g ∈ fields.erase f := (List.mem_erase_of_ne fun he => hne (by rw [he])).mpr hg
  refine ⟨f :: g :: (fields.erase f).erase g,
    (List.perm_cons_erase hf).trans ((List.perm_cons_erase hg').cons f), ?_⟩
  rw [readEach_cons hfnum]
  simp only [readEach]
  rw [List.eraseP_cons_of_neg (by simp [hdir g hgname]), List.findSome?_cons (f := street)]
  obtain ⟨t, ht⟩ := Option.isSome_iff_exists.mp hgname
  rw [ht] at hname ⊢
  simp only [joinTexts]
  rw [if_pos ⟨hnum, hname⟩, List.map_cons, List.filter_cons_of_pos (by simpa [nonempty] using hnum)]
  exact join_ne_empty hnum _

theorem situsOf_direct_perm {attrs attrs' : Attrs} (exclude : List String)
    (h : attrs.Perm attrs') (hnil : directFields attrs (exclude.map norm) = []) :
    situsOf exclude false attrs' = composeSitus attrs' exclude := by
  have hnil' := directFields_perm h (exclude.map norm)
  rw [hnil, List.nil_perm] at hnil'
  rw [situsOf_direct, hnil']
  rfl

theorem same_compose_iff {attrs : Attrs} {exclude : List String} {compose : Bool}
    (h : ¬ (compose = false ∧ directFields attrs (exclude.map norm) ≠ [])) :
    SameInEveryOrder exclude compose attrs ↔
      ∀ attrs', attrs.Perm attrs' → composeSitus attrs' exclude = composeSitus attrs exclude := by
  cases compose with
  | true => rfl
  | false =>
    have hnil : directFields attrs (exclude.map norm) = [] := by simpa using h
    refine forall₂_congr fun attrs' hperm => ?_
    rw [situsOf_direct_perm exclude hperm hnil, situsOf_direct_perm exclude (.refl attrs) hnil]

theorem same_direct_iff {attrs : Attrs} {exclude : List String}
    (hne : directFields attrs (exclude.map norm) ≠ []) :
    SameInEveryOrder exclude false attrs ↔
      ∀ f ∈ directFields attrs (exclude.map norm), ∀ g ∈ directFields attrs (exclude.map norm),
        streetText f = streetText g := by
  constructor
  · intro h
    have hall : ∀ f ∈ directFields attrs (exclude.map norm),
        streetText f = situsOf exclude false attrs := by
      intro f hf
      have hperm := List.perm_cons_erase (directFields_subset hf)
      rw [← h _ hperm, situsOf_direct, directFields_front hperm hf]
      rfl
    intro f hf g hg
    rw [hall f hf, hall g hg]
  · intro h attrs' hperm
    have hfields := directFields_perm hperm (exclude.map norm)
    obtain ⟨f, fields, hf⟩ := List.exists_cons_of_ne_nil hne
    have hne' : directFields attrs' (exclude.map norm) ≠ [] := by
      intro hnil
      rw [hnil] at hfields
      exact hne hfields.eq_nil
    obtain ⟨g, fields', hg⟩ := List.exists_cons_of_ne_nil hne'
    have hmem : g ∈ directFields attrs (exclude.map norm) := by
      rw [hfields.mem_iff, hg]
      exact List.mem_cons_self
    rw [situsOf_direct, situsOf_direct, hg, hf]
    exact h g hmem f (by rw [hf]; exact List.mem_cons_self)

section Compose

variable {attrs : Attrs} {exclude : List String}

/-- Fields that do not compete compose to one address. -/
theorem composeSitus_same (hkeys : (attrs.map fun f => norm f.1).Nodup)
    (h : NoAddress (usable attrs (exclude.map norm)) ∨
      Uncontested addressReaders (usable attrs (exclude.map norm)))
    {attrs' : Attrs} (hperm : attrs.Perm attrs') :
    composeSitus attrs' exclude = composeSitus attrs exclude := by
  have hkeys' : (attrs'.map fun f => norm f.1).Nodup := (hperm.map _).nodup_iff.mp hkeys
  have husable := usable_perm hperm (exclude.map norm)
  rw [composeSitus_eq_texts hkeys', composeSitus_eq_texts hkeys]
  rcases h with hno | hfree
  · have hnodup := usable_nodup hkeys (exclude.map norm)
    rw [joinTexts_of_noAddress hno hnodup husable, joinTexts_of_noAddress hno hnodup (.refl _)]
  · rw [hfree.readEach_eq (husable.map _)]

/-- Telling fields that compose to one address do not compete. -/
theorem uncontested_of_same (hkeys : (attrs.map fun f => norm f.1).Nodup)
    (htell : Telling ToldAtStart addressReaders (usable attrs (exclude.map norm)))
    (h : ∀ attrs', attrs.Perm attrs' → composeSitus attrs' exclude = composeSitus attrs exclude) :
    NoAddress (usable attrs (exclude.map norm)) ∨
      Uncontested addressReaders (usable attrs (exclude.map norm)) := by
  have hread : ∀ l, (usable attrs (exclude.map norm)).Perm l →
      joinTexts (readEach addressReaders l) = composeSitus attrs exclude := by
    intro l hl
    obtain ⟨attrs', hperm, rfl⟩ := exists_usable hl
    rw [← composeSitus_eq_texts ((hperm.map _).nodup_iff.mp hkeys), h attrs' hperm]
  refine or_iff_not_imp_left.mpr fun haddress => ?_
  obtain ⟨l, hl, hne⟩ := exists_address haddress
  rw [hread l hl] at hne
  have joined : ∀ l ts, (usable attrs (exclude.map norm)).Perm l → readEach addressReaders l = ts →
      joinTexts ts = composeSitus attrs exclude := fun l _ hl hts => hts ▸ hread l hl
  refine htell.uncontested (fun l₁ l₂ pre post s t h₁ h₂ hread₁ hread₂ => ?_)
    fun l₁ l₂ pre post post' s t h₁ h₂ hread₁ hread₂ => ?_
  · have heq := joined l₁ _ h₁ hread₁
    exact joinTexts_replace (heq.trans (joined l₂ _ h₂ hread₂).symm) (heq ▸ hne)
  · have heq := joined l₁ _ h₁ hread₁
    exact joinTexts_first (heq.trans (joined l₂ _ h₂ hread₂).symm) (heq ▸ hne)

end Compose

/-- `situs_of` returns the same for every order of fields that do not compete; and where it does, no
fields compete, if those that suit one component are told apart by it or suit no later one. -/
theorem situs_order (attrs : Attrs) (exclude : List String) (compose : Bool)
    (hkeys : (attrs.map fun f => norm f.1).Nodup) :
    (OrderFree exclude compose attrs → SameInEveryOrder exclude compose attrs) ∧
      ((compose = false ∧ directFields attrs (exclude.map norm) ≠ []) ∨
          Telling ToldAtStart addressReaders (usable attrs (exclude.map norm)) →
        SameInEveryOrder exclude compose attrs → OrderFree exclude compose attrs) := by
  unfold OrderFree
  by_cases hdirect : compose = false ∧ directFields attrs (exclude.map norm) ≠ []
  · rw [if_pos hdirect]
    obtain ⟨rfl, hne⟩ := hdirect
    exact ⟨(same_direct_iff hne).mpr, fun _ => (same_direct_iff hne).mp⟩
  · rw [if_neg hdirect, same_compose_iff hdirect]
    refine ⟨fun h attrs' hperm => composeSitus_same hkeys h hperm, fun htell h => ?_⟩
    rcases htell with hd | htell
    · exact (hdirect hd).elim
    · exact uncontested_of_same hkeys htell h

end Order

section Concrete

open scoped PyText.Ascii

/-- Two fields show the same house number. -/
def sharedNumber : Attrs :=
  [("HOUSE_NUM", .str "2407"), ("HOUSENO", .float "2407.0" false), ("STREETNAME", .str "ELM"),
    ("ST_TYPE", .str "ST")]

/-- Either direction may stand before the street, and the second one after it too. -/
def twoDirections : Attrs :=
  [("HOUSENO", .str "1"), ("STREETNAME", .str "ELM"), ("STREET_DIRECTION_1", .str "N"),
    ("STREET_DIRECTION_2", .str "S")]

theorem situs_order_sample :
    SameInEveryOrder [] true sharedNumber ∧ ¬ SameInEveryOrder [] true twoDirections := by
  have hskip : ∀ {P : Prop}, ¬ (true = false ∧ P) := fun h => by cases h.1
  constructor
  · refine (situs_order sharedNumber [] true (by decide +kernel)).1 ?_
    unfold OrderFree
    rw [if_neg hskip]
    exact .inr (by decide +kernel)
  · intro h
    have hfree := (situs_order twoDirections [] true (by decide +kernel)).2 (.inr (by decide +kernel)) h
    unfold OrderFree at hfree
    rw [if_neg hskip] at hfree
    rcases hfree with hno | hcontested
    · have hone := hno ("HOUSENO", .str "1") (by decide +kernel) ("STREETNAME", .str "ELM")
        (by decide +kernel) (by decide +kernel)
      revert hone
      decide +kernel
    · revert hcontested
      decide +kernel

/-- Two address fields, and the second one first. -/
theorem situs_depends_on_order :
    ¬ ∀ (attrs attrs' : Attrs) (exclude : List String) (compose : Bool),
      (attrs.map fun f => norm f.1).Nodup → attrs.Perm attrs' →
      situsOf exclude compose attrs' = situsOf exclude compose attrs := by
  intro hall
  have hsame := hall [("SITUS_ADDR_1", .str "1 ELM ST"), ("SITUS_ADDR_2", .str "2 OAK ST")]
    [("SITUS_ADDR_2", .str "2 OAK ST"), ("SITUS_ADDR_1", .str "1 ELM ST")] [] false
    (by decide +kernel) (.swap _ _ _)
  exact absurd hsame (by decide +kernel)

end Concrete

end Situs
end ResearchEngine
