import ResearchEngine.ProjectedReads

/-! Where the requested fields are too few: a field that is left out and that a reader takes
gives a feature that is read differently. -/
namespace ResearchEngine
namespace Parcel

open PyText Situs FirstMatch Context Adapters

section Join

variable {α : Type}

theorem mem_intercalate_of_mem {sep x : List α} {xs : List (List α)} {c : α} (hx : x ∈ xs)
    (hc : c ∈ x) : c ∈ sep.intercalate xs := by
  induction xs with
  | nil => cases hx
  | cons y xs ih =>
    cases xs with
    | nil =>
      obtain rfl := List.mem_singleton.mp hx
      rwa [List.intercalate_singleton]
    | cons z xs =>
      rw [List.intercalate_cons_cons]
      obtain rfl | hx := List.mem_cons.mp hx
      · simp [hc]
      · simp [ih hx]

theorem mem_of_mem_intercalate {sep : List α} {xs : List (List α)} {c : α}
    (h : c ∈ sep.intercalate xs) : c ∈ sep ∨ ∃ x ∈ xs, c ∈ x := by
  induction xs with
  | nil => cases h
  | cons y xs ih =>
    cases xs with
    | nil =>
      rw [List.intercalate_singleton] at h
      exact .inr ⟨y, List.mem_cons_self, h⟩
    | cons z xs =>
      rw [List.intercalate_cons_cons] at h
      obtain h | h := List.mem_append.mp h
      · obtain h | h := List.mem_append.mp h
        · exact .inr ⟨y, List.mem_cons_self, h⟩
        · exact .inl h
      · exact (ih h).imp_right fun ⟨x, hx, hc⟩ => ⟨x, List.mem_cons_of_mem y hx, hc⟩

end Join

section Converse

variable [PyText]

/-- What the converse needs of the character tables and of `float`. -/
structure PlainTables [PyText] [PyFloat] : Prop where
  notSpace : ∀ c ∈ "12A".toList, isSpace c = false
  digit : isDigit '1' = true
  letter : isAlpha 'A' = true
  upper : ∀ s ∈ ["1A", "2A"], upper s = s
  noFloat : PyFloat.ofValue .null = none
  float : ∃ x, PyFloat.ofValue (.int 1) = some x ∧ x.truthy = true

variable [PyFloat]

theorem words_mark (h : PlainTables) : words "1A" = ["1A"] := by
  have h1 := h.notSpace '1' (by decide)
  have hA := h.notSpace 'A' (by decide)
  simp [words, List.splitOnP_cons_eq_if_modifyHead, h1, hA]

theorem strip_mark (h : PlainTables) {s : String} (hs : s ∈ ["1A", "2A"]) : strip s = s := by
  have h1 := h.notSpace '1' (by decide)
  have h2 := h.notSpace '2' (by decide)
  have hA := h.notSpace 'A' (by decide)
  obtain rfl | rfl : s = "1A" ∨ s = "2A" := by simpa using hs
  · simp [strip, h1, hA]
  · simp [strip, h2, hA]

theorem isBlank_mark (h : PlainTables) {s : String} (hs : s ∈ ["1A", "2A"]) :
    isBlank (.str s) = false := by
  have hup := h.upper s hs
  simp only [isBlank, Value.text, strip_mark h hs, hup]
  obtain rfl | rfl : s = "1A" ∨ s = "2A" := by simpa using hs
  · decide
  · decide

theorem hasStreet_mark (h : PlainTables) : hasStreet (.str "1A") = true := by
  simp [hasStreet, Value.text, Value.isBlankOrZero, Value.isEmpty, Value.isZero, h.digit, h.letter]

/-! A field without a value is passed over. -/

omit [PyText] [PyFloat] in
@[simp] theorem isEmpty_null : Value.null.isEmpty = true := by decide

omit [PyText] [PyFloat] in
@[simp] theorem isAbsent_null : Value.null.isAbsent = true := by decide

omit [PyText] [PyFloat] in
@[simp] theorem isBlankOrZero_null : Value.null.isBlankOrZero = true := by decide

omit [PyFloat] in
@[simp] theorem hasStreet_null : hasStreet .null = false := by simp [hasStreet]

/-- A feature with a value in one field. -/
def only (names : List String) (n : String) (v : Value) : Attrs :=
  names.map fun m => (m, if m = n then v else .null)

def blank (names : List String) : Attrs := names.map fun m => (m, .null)

omit [PyText] [PyFloat] in
theorem only_left {names : List String} {keep : String → Bool} {n : String} (v : Value)
    (hn : keep n = false) :
    (only names n v).filter (fun f => keep f.1) = blank (names.filter keep) := by
  simp only [only, blank, List.filter_map]
  refine List.map_congr_left fun m hm => ?_
  have hmn : m ≠ n := by
    rintro rfl
    have hreq := (List.mem_filter.mp hm).2
    simp [hn] at hreq
  rw [if_neg hmn]

omit [PyText] [PyFloat] in
/-- The one value is found when its field suits. -/
theorem find?_only {names : List String} {n : String} (hn : n ∈ names) {v : Value}
    {p : String × Value → Bool} (hnull : ∀ m, p (m, .null) = false) :
    (only names n v).find? p = if p (n, v) then some (n, v) else none := by
  have hmem : ∀ f ∈ only names n v, p f = true → f = (n, v) := by
    intro f hf hp
    obtain ⟨m, -, rfl⟩ := List.mem_map.mp hf
    by_cases hmn : m = n
    · rw [if_pos hmn, hmn]
    · rw [if_neg hmn, hnull] at hp
      cases hp
  cases hp : p (n, v) with
  | true =>
    have hin : (n, v) ∈ only names n v := List.mem_map.mpr ⟨n, hn, by simp⟩
    obtain ⟨f, hf⟩ := Option.isSome_iff_exists.mp (List.find?_isSome.mpr ⟨(n, v), hin, hp⟩)
    rw [hf, hmem f (List.mem_of_find?_eq_some hf) (List.find?_some hf)]
    rfl
  | false =>
    refine List.find?_eq_none.mpr fun f hf hpf => ?_
    rw [hmem f hf hpf, hp] at hpf
    cases hpf

omit [PyText] [PyFloat] in
theorem find?_blank (names : List String) {p : String × Value → Bool}
    (hnull : ∀ m, p (m, .null) = false) : (blank names).find? p = none := by
  refine List.find?_eq_none.mpr fun f hf => ?_
  obtain ⟨m, -, rfl⟩ := List.mem_map.mp hf
  simp [hnull]

variable {names : List String} {keep : String → Bool} {n : String}

omit [PyFloat] in
theorem findStreet_only (hn : n ∈ names) {v : Value} (p : String → Bool) :
    findStreet (only names n v) [] p =
      if p (norm n) = true ∧ hasAny skipped (norm n) = false ∧ hasStreet v = true then
        some (" ".intercalate (words v.text)) else none := by
  unfold findStreet
  refine (findSome?_ite _ (fun f : String × Value => " ".intercalate (words f.2.text)) _).trans ?_
  rw [find?_only hn fun m => by simp]
  by_cases h : p (norm n) = true ∧ hasAny skipped (norm n) = false ∧ hasStreet v = true
  · rw [if_pos h, if_pos (by simpa using h)]
    rfl
  · rw [if_neg h, if_neg (by simpa using h)]
    rfl

omit [PyFloat] in
theorem findStreet_blank (names : List String) (p : String → Bool) :
    findStreet (blank names) [] p = none := by
  unfold findStreet
  refine (findSome?_ite _ (fun f : String × Value => " ".intercalate (words f.2.text)) _).trans ?_
  rw [find?_blank names fun m => by simp]
  rfl

omit [PyFloat] in
theorem situsOf_blank (names : List String) : situsOf [] false (blank names) = "" := by
  have husable : usable (blank names) [] = [] := by
    refine List.filter_eq_nil_iff.mpr fun f hf => ?_
    obtain ⟨m, -, rfl⟩ := List.mem_map.mp hf
    simp [isBlank]
  have hcompose : composeSitus (blank names) [] = "" := by
    rw [composeSitus_eq, List.map_nil, husable]
    exact joinPicks_eq_empty rfl
  have halias : (aliases.findSome? fun _ => (none : Option String)) = none :=
    List.findSome?_eq_none_iff.mpr fun _ _ => rfl
  simp only [situsOf, Bool.false_eq_true, if_false, List.map_nil, findStreet_blank, halias, hcompose]

/-- A field that may hold the whole address, with an address in it. -/
theorem situsOf_only (h : PlainTables) (hn : n ∈ names) (hread : holdsAddress n = true) :
    situsOf [] false (only names n (.str "1A")) = "1A" := by
  have hjoin : " ".intercalate (words (Value.str "1A").text) = "1A" := by
    show " ".intercalate (words "1A") = "1A"
    rw [words_mark h]
    rfl
  have hstreet := hasStreet_mark h
  simp only [holdsAddress, decide_eq_true_eq, Bool.not_eq_true'] at hread
  obtain ⟨hname, hskip⟩ := hread
  simp only [situsOf, Bool.false_eq_true, if_false, List.map_nil, findStreet_only hn, hskip, hstreet,
    hjoin, and_true]
  by_cases hfull : isFullAddress (norm n) = true
  · rw [if_pos hfull]
  · obtain ⟨a, ha, hc⟩ := List.any_eq_true.mp (hname.resolve_left hfull)
    rw [if_neg hfull, findSome?_ite _ fun _ => "1A"]
    have hsome : (aliases.find? fun a => decide (contains (norm n) a = true)).isSome = true :=
      List.find?_isSome.mpr ⟨a, ha, decide_eq_true hc⟩
    obtain ⟨b, hb⟩ := Option.isSome_iff_exists.mp hsome
    rw [hb]
    rfl

omit [PyFloat] in
theorem attr_only (hn : n ∈ names) {v : Value} (hv : v.isBlankOrZero = false) (keys : List String) :
    attr (only names n v) keys = if hasAny keys (norm n) then v else .null := by
  unfold attr
  rw [find?_only hn fun m => by simp]
  by_cases h : hasAny keys (norm n) = true <;> simp [h, hv]

/-- `land_area_of` makes nothing only of a feature without areas. -/
theorem landAreaOf_null {attrs : Attrs} (h : landAreaOf attrs = .ok (.null, .null)) :
    ((PyFloat.ofValue (attr attrs ["lndsqfoot", "landsqft", "landsquare", "sqfoot"])).getD
      .null).truthy = false ∧
    ((PyFloat.ofValue (attr attrs ["gisacres", "acres", "acreage"])).getD .null).truthy = false := by
  unfold landAreaOf at h
  simp only at h
  generalize (PyFloat.ofValue (attr attrs ["lndsqfoot", "landsqft", "landsquare", "sqfoot"])).getD
    .null = sqft at h ⊢
  generalize (PyFloat.ofValue (attr attrs ["gisacres", "acres", "acreage"])).getD .null = acres at h ⊢
  cases hs : sqft.truthy with
  | true =>
    have hsqft : sqft = .null := by
      split at h <;> obtain ⟨acres', -, h⟩ := bind_eq_ok.mp h <;>
        (rw [if_neg (by simp [hs])] at h; exact (Prod.mk.inj (Except.ok.inj h)).1)
    rw [hsqft] at hs
    cases hs
  | false =>
    refine ⟨rfl, ?_⟩
    rw [if_neg (by simp [hs])] at h
    obtain ⟨acres', hacres, h⟩ := bind_eq_ok.mp h
    obtain rfl := Except.ok.inj hacres
    cases ha : acres.truthy with
    | false => rfl
    | true =>
      rw [if_pos (by simp [hs, ha])] at h
      obtain ⟨_, -, h⟩ := bind_eq_ok.mp h
      rw [(Prod.mk.inj (Except.ok.inj h)).2] at ha
      cases ha

theorem landAreaOf_blank (h : PlainTables) (names : List String) :
    landAreaOf (blank names) = .ok (.null, .null) := by
  have hattr : ∀ keys, attr (blank names) keys = .null := by
    intro keys
    unfold attr
    rw [find?_blank names fun m => by simp]
    rfl
  unfold landAreaOf
  simp only [hattr, h.noFloat]
  rfl

theorem landAreaOf_only (h : PlainTables) (hn : n ∈ names) (hread : readsArea n = true) :
    landAreaOf (only names n (.int 1)) ≠ .ok (.null, .null) := by
  intro hnull
  obtain ⟨x, hx, htruthy⟩ := h.float
  have hone : ∀ keys, hasAny keys (norm n) = true →
      ((PyFloat.ofValue (attr (only names n (.int 1)) keys)).getD .null).truthy = true := by
    intro keys hk
    rw [attr_only hn (by simp [Value.isBlankOrZero, Value.isEmpty, Value.isZero]), if_pos hk, hx]
    exact htruthy
  obtain ⟨hsqft, hacres⟩ := landAreaOf_null hnull
  simp only [readsArea, decide_eq_true_eq] at hread
  obtain hk | hk := hread
  · rw [hone _ hk] at hsqft
    cases hsqft
  · rw [hone _ hk] at hacres
    cases hacres

omit [PyFloat] in
theorem findParcelId_blank (names : List String) : findParcelId [blank names] = "" := by
  unfold findParcelId
  rw [List.flatten_singleton, find?_blank names fun m => by simp]
  rfl

omit [PyFloat] in
theorem findParcelId_only (hn : n ∈ names) (hread : readsParcelId n = true) :
    findParcelId [only names n (.str "1A")] = "1A" := by
  simp only [readsParcelId, decide_eq_true_eq] at hread
  unfold findParcelId
  rw [List.flatten_singleton, find?_only hn fun m => by simp]
  simp only [hread, and_true]
  rw [if_pos (by simp [Value.isAbsent, Value.isZero])]
  rfl

omit [PyFloat] in
theorem extractHints_blank (names : List String) : extractHints [blank names] = [] := by
  unfold extractHints
  rw [List.flatten_singleton]
  induction names with
  | nil => rfl
  | cons m names ih => simpa [blank] using ih

omit [PyText] [PyFloat] in
theorem setDefault_ne_nil (attrs : Attrs) (key : String) (v : Value) : attrs.setDefault key v ≠ [] := by
  unfold Attrs.setDefault
  split
  · rintro rfl
    rename_i hkey
    cases hkey
  · simp

omit [PyFloat] in
theorem extractHints_only (hn : n ∈ names) (hread : readsHint n = true) :
    extractHints [only names n (.str "1A")] ≠ [] := by
  have hin : (n, Value.str "1A") ∈ only names n (.str "1A") := List.mem_map.mpr ⟨n, hn, by simp⟩
  obtain ⟨before, after, hsplit⟩ := List.append_of_mem hin
  have hgrow : ∀ attrs hints : Attrs, hints ≠ [] → attrs.foldl (fun hints f =>
      if !f.2.isAbsent ∧ hasAny hintKeys (lower f.1) then hints.setDefault f.1 f.2 else hints)
        hints ≠ [] := by
    intro attrs
    induction attrs with
    | nil => exact fun _ => id
    | cons f attrs ih =>
      intro hints hne
      rw [List.foldl_cons]
      refine ih _ ?_
      split
      · exact setDefault_ne_nil _ _ _
      · exact hne
  unfold extractHints
  rw [List.flatten_singleton, hsplit, List.foldl_append, List.foldl_cons]
  refine hgrow _ _ ?_
  rw [if_pos ⟨by simp [Value.isAbsent, Value.isZero], hread⟩]
  exact setDefault_ne_nil _ _ _

omit [PyFloat] in
theorem attrText_blank (names needles : List String) : attrText (blank names) needles = "" := by
  unfold attrText
  rw [find?_blank names fun m => by simp]
  rfl

theorem attrText_only (h : PlainTables) (hn : n ∈ names) {needles : List String}
    (hread : hasAny needles (without '_' (lower n)) = true) :
    attrText (only names n (.str "1A")) needles = "1A" := by
  unfold attrText
  rw [find?_only hn fun m => by simp,
    if_pos (by simp [hread, Value.isEmpty, Value.isZero])]
  exact strip_mark h (show "1A" ∈ ["1A", "2A"] by simp)

omit [PyFloat] in
theorem numref_blank (names : List String) (name : String) :
    numref (fieldText (blank names) name) = "" := by
  unfold fieldText
  rw [find?_blank names fun m => by simp]
  have hstrip : strip "" = "" := rfl
  simp [numref, hstrip]

theorem numref_only (h : PlainTables) (hn : n ∈ names) :
    numref (fieldText (only names n (.str "1A")) (upper n)) = "1A" := by
  unfold fieldText
  rw [find?_only hn fun m => by simp, if_pos (by simp [Value.isEmpty])]
  have hstrip := strip_mark h (s := "1A") (by simp)
  have htext : ((some (n, Value.str "1A")).map fun f : String × Value => strip f.2.text).getD "" =
      "1A" := hstrip
  rw [htext]
  simp [numref, hstrip, h.digit]

theorem deedReads_only (h : PlainTables) (hn : n ∈ names) (hread : readsDeed n = true)
    (names' : List String) : deedReads (blank names') ≠ deedReads (only names n (.str "1A")) := by
  intro hsame
  simp only [deedReads, attrText_blank, numref_blank, DeedReads.mk.injEq] at hsame
  obtain ⟨hlegal, howner, hbook, hpage, hclerk⟩ := hsame
  have hne : "" ≠ "1A" := by decide
  have hnumref := numref_only h hn
  simp only [readsDeed, decide_eq_true_eq, List.mem_cons, List.not_mem_nil, or_false] at hread
  obtain hr | hr | hr | hr | hr := hread
  · exact hne (hlegal.trans (attrText_only h hn hr))
  · exact hne (howner.trans (attrText_only h hn hr))
  · exact hne (hbook.trans (hr ▸ hnumref))
  · exact hne (hpage.trans (hr ▸ hnumref))
  · exact hne (hclerk.trans (hr ▸ hnumref))

/-- A kept field has another value than the rest. -/
def mark (keep : String → Bool) (m : String) : String := if keep m then "2A" else "1A"

omit [PyText] [PyFloat] in
theorem mark_mem (keep : String → Bool) (m : String) : mark keep m ∈ ["1A", "2A"] := by
  unfold mark
  split <;> simp

omit [PyText] [PyFloat] in
theorem one_mem_mark {m : String} : '1' ∈ (mark keep m).toList ↔ keep m = false := by
  unfold mark
  cases keep m <;> decide

/-- What was taken, with its marks. -/
def marked (keep : String → Bool) (taken : List (Option String)) : List (Option (String × Value)) :=
  taken.map (Option.map fun m => (m, .str (mark keep m)))

theorem pickText_mark (h : PlainTables) (m : String) :
    pickText (some (m, .str (mark keep m))) = mark keep m :=
  strip_mark h (mark_mem keep m)

def markText (keep : String → Bool) (pick : Option String) : String :=
  (pick.map (mark keep)).getD ""

theorem pickText_marked (h : PlainTables) (pick : Option String) :
    pickText (pick.map fun m => (m, .str (mark keep m))) = markText keep pick := by
  cases pick with
  | none => rfl
  | some m => exact pickText_mark h m

theorem joinPicks_marked (h : PlainTables) {taken : List (Option String)}
    (hc : composes taken = true) : joinPicks (marked keep taken) =
      " ".intercalate ((taken.map (markText keep)).filter nonempty) := by
  unfold composes at hc
  split at hc
  · rename_i num predir name suftype sufdir
    obtain ⟨hnum, hname⟩ := Bool.and_eq_true_iff.mp hc
    obtain ⟨m, rfl⟩ := Option.isSome_iff_exists.mp hnum
    obtain ⟨s, rfl⟩ := Option.isSome_iff_exists.mp hname
    have hdrop : dropPointZero (markText keep (some m)) = markText keep (some m) := by
      show dropPointZero (mark keep m) = mark keep m
      unfold mark
      split <;> decide
    have hne : ∀ m, markText keep (some m) ≠ "" := by
      intro m
      show mark keep m ≠ ""
      unfold mark
      split <;> decide
    simp only [marked, List.map_cons, List.map_nil, joinPicks, pickText_marked h, hdrop]
    rw [if_pos ⟨hne m, hne s⟩]
  · cases hc

/-- The address of marked fields shows the marks of all that was taken. -/
theorem mem_joinPicks (h : PlainTables) {taken : List (Option String)} (hc : composes taken = true)
    {m : String} (hm : some m ∈ taken) {c : Char} (hmark : c ∈ (mark keep m).toList) :
    c ∈ (joinPicks (marked keep taken)).toList := by
  rw [joinPicks_marked h hc, String.toList_intercalate]
  refine mem_intercalate_of_mem (List.mem_map_of_mem (List.mem_filter.mpr ⟨List.mem_map_of_mem hm, ?_⟩))
    hmark
  refine decide_eq_true ?_
  rintro hnil
  have hlist : (mark keep m).toList = [] := by
    rw [show mark keep m = "" from hnil]
    rfl
  rw [hlist] at hmark
  cases hmark

theorem joinPicks_ne_empty (h : PlainTables) {taken : List (Option String)}
    (hc : composes taken = true) : joinPicks (marked keep taken) ≠ "" := by
  have hsome : ∃ m, some m ∈ taken := by
    unfold composes at hc
    split at hc
    · obtain ⟨m, rfl⟩ := Option.isSome_iff_exists.mp (Bool.and_eq_true_iff.mp hc).1
      exact ⟨m, List.mem_cons_self⟩
    · cases hc
  obtain ⟨m, hm⟩ := hsome
  have hletter : 'A' ∈ (mark keep m).toList := by
    unfold mark
    split <;> decide
  intro hnil
  have hmem := mem_joinPicks h hc hm hletter
  rw [hnil] at hmem
  cases hmem

/-- It shows no other marks. -/
theorem of_mem_joinPicks (h : PlainTables) {taken : List (Option String)} {c : Char}
    (hmem : c ∈ (joinPicks (marked keep taken)).toList) :
    c = ' ' ∨ ∃ m, some m ∈ taken ∧ c ∈ (mark keep m).toList := by
  cases hc : composes taken with
  | false =>
    have hmarked : composes (marked keep taken) = false := (composes_map _ taken).trans hc
    rw [joinPicks_eq_empty hmarked] at hmem
    cases hmem
  | true =>
    rw [joinPicks_marked h hc, String.toList_intercalate] at hmem
    obtain hsep | ⟨part, hpart, hin⟩ := mem_of_mem_intercalate hmem
    · exact .inl (List.mem_singleton.mp hsep)
    · obtain ⟨text, htext, rfl⟩ := List.mem_map.mp hpart
      obtain ⟨pick, hpick, rfl⟩ := List.mem_map.mp (List.mem_filter.mp htext).1
      cases pick with
      | none => cases hin
      | some m => exact .inr ⟨m, hpick, hin⟩

/-- A feature with the marks in some of its fields. -/
def markedFeature (keep : String → Bool) (names part : List String) : Attrs :=
  names.map fun m => (m, if m ∈ part then .str (mark keep m) else .null)

theorem composeSitus_marked (h : PlainTables) {part : List String} (hpart : part.Sublist names)
    (hnames : names.Nodup) : composeSitus (markedFeature keep names part) [] =
      joinPicks (marked keep (picks part)) := by
  have husable : usable (markedFeature keep names part) [] =
      part.map fun m => (m, .str (mark keep m)) := by
    have hfilter : usable (markedFeature keep names part) [] =
        (names.filter (· ∈ part)).map fun m => (m, if m ∈ part then .str (mark keep m) else .null) := by
      simp only [usable, markedFeature, List.filter_map]
      congr 1
      refine List.filter_congr fun m _ => ?_
      by_cases hm : m ∈ part
      · simp [hm, isBlank_mark h (mark_mem keep m)]
      · simp [hm, isBlank]
    rw [hfilter, filter_mem_of_sublist hpart hnames]
    exact List.map_congr_left fun m hm => by rw [if_pos hm]
  rw [composeSitus_eq, List.map_nil, husable]
  exact congrArg joinPicks (passes_map _ (fun _ => rfl) part addressPasses [])

omit [PyText] [PyFloat] in
theorem markedFeature_left (names part : List String) :
    (markedFeature keep names part).filter (fun f => keep f.1) =
      markedFeature keep (names.filter keep) (part.filter keep) := by
  simp only [markedFeature, List.filter_map]
  refine List.map_congr_left fun m hm => ?_
  have hreq : keep m = true := by simpa using (List.mem_filter.mp hm).2
  simp [List.mem_filter, hreq]

/-- When all features are read the same, what the readers take by itself is kept. -/
theorem requested_of_same (h : PlainTables)
    (hsame : ∀ attrs : Attrs, attrs.map Prod.fst = names →
      SameReads (attrs.filter fun f => keep f.1) attrs)
    (hn : n ∈ names) (hread : readsName n = true) : keep n = true := by
  by_contra hreq
  have hsees : ∀ v, SameReads (blank (names.filter keep)) (only names n v) := by
    intro v
    rw [← only_left v (eq_false_of_ne_true hreq)]
    exact hsame _ (by simp [only, Function.comp_def])
  simp only [readsName, decide_eq_true_eq] at hread
  obtain hr | hr | hr | hr | hr := hread
  · have hsitus := (hsees (.str "1A")).situs [] false
    rw [situsOf_blank, situsOf_only h hn hr] at hsitus
    exact absurd hsitus (by decide)
  · have harea := (hsees (.int 1)).area
    rw [landAreaOf_blank h] at harea
    exact landAreaOf_only h hn hr harea.symm
  · have hid := (hsees (.str "1A")).parcelId
    rw [findParcelId_blank, findParcelId_only hn hr] at hid
    exact absurd hid (by decide)
  · have hhints := (hsees (.str "1A")).hints
    rw [extractHints_blank] at hhints
    exact extractHints_only hn hr hhints.symm
  · exact deedReads_only h hn hr _ (hsees (.str "1A")).deed

theorem composesAlike_of_same (h : PlainTables) (hnames : names.Nodup)
    (hsame : ∀ attrs : Attrs, attrs.map Prod.fst = names →
      SameReads (attrs.filter fun f => keep f.1) attrs) : ComposesAlike names keep := by
  rintro part hpart ⟨n, hn, hreq⟩
  have hsitus : joinPicks (marked keep (picks (part.filter keep))) =
      joinPicks (marked keep (picks part)) := by
    have hread := (hsame (markedFeature keep names part)
      (by simp [markedFeature, Function.comp_def])).situs [] true
    rw [markedFeature_left] at hread
    rw [← composeSitus_marked h hpart hnames,
      ← composeSitus_marked h (hpart.filter keep) (hnames.filter keep)]
    exact hread
  have hfull : composes (picks part) = false := by
    by_contra hc
    have hone := mem_joinPicks h (eq_true_of_ne_false hc) hn (one_mem_mark.mpr hreq)
    rw [← hsitus] at hone
    obtain hsep | ⟨m, hm, hin⟩ := of_mem_joinPicks h hone
    · cases hsep
    · have hreq' := (List.mem_filter.mp (mem_of_mem_passes hm)).2
      rw [one_mem_mark.mp hin] at hreq'
      cases hreq'
  refine ⟨hfull, ?_⟩
  by_contra hc
  have hmarked : composes (marked keep (picks part)) = false := (composes_map _ _).trans hfull
  rw [joinPicks_eq_empty hmarked] at hsitus
  exact joinPicks_ne_empty h (eq_true_of_ne_false hc) hsitus

/-- Every feature of a layer is read the same off its requested fields exactly when these have
all that a reader takes by itself, and no other field has a part in a composed address. -/
theorem projection_unseen_iff (schema : LayerSchema) (h : PlainTables) :
    (∀ attrs : Attrs, attrs.map Prod.fst = schema.attributes →
        SameReads (project schema attrs) attrs) ↔
      (∀ n ∈ schema.attributes, readsName n = true → requested schema.attributes n = true) ∧
        ComposesAlike schema.attributes (requested schema.attributes) := by
  constructor
  · intro hsame
    have hleft : ∀ attrs : Attrs, attrs.map Prod.fst = schema.attributes →
        SameReads (attrs.filter fun f => requested schema.attributes f.1) attrs := by
      intro attrs hattrs
      rw [← project_eq schema hattrs]
      exact hsame attrs hattrs
    exact ⟨fun n hn hread => requested_of_same h hleft hn hread,
      composesAlike_of_same h schema.attributes_nodup hleft⟩
  · rintro ⟨hreads, hcompose⟩ attrs hattrs
    rw [project_eq schema hattrs]
    rw [← hattrs] at hreads hcompose ⊢
    exact sameReads_left hreads hcompose

end Converse

section Concrete

open scoped PyText.Ascii PyFloat.Whole

theorem plainTables_ascii : PlainTables where
  notSpace c hc := by
    obtain rfl | rfl | rfl : c = '1' ∨ c = '2' ∨ c = 'A' := by simpa using hc
    · rfl
    · rfl
    · rfl
  digit := rfl
  letter := rfl
  upper := by decide +kernel
  noFloat := rfl
  float := ⟨_, rfl, rfl⟩

/-- The fields of a statewide tax roll that names its deeds by book and page. -/
def taxRoll : LayerSchema where
  fields := ["OBJECTID", "PARCEL_ID", "OWN_NAME", "PHY_ADDR1", "S_LEGAL", "OR_BOOK1", "OR_PAGE1",
    "LND_SQFOOT"].map fun name => { name := name }
  distinct := by decide

/-- One parcel of the roll. -/
def taxParcel : Attrs :=
  [("OBJECTID", .int 1), ("PARCEL_ID", .str "A-1"), ("OWN_NAME", .str "ROE"),
    ("PHY_ADDR1", .str "9 OAK AVE"), ("S_LEGAL", .str "LOT 4 PB 12 PG 3"), ("OR_BOOK1", .str "881"),
    ("OR_PAGE1", .str "17"), ("LND_SQFOOT", .int 9000)]

theorem tax_roll_unseen : SameReads (project taxRoll taxParcel) taxParcel := by
  have hall : ∀ n ∈ taxRoll.attributes, requested taxRoll.attributes n = true := by decide +kernel
  refine (projection_unseen_iff taxRoll plainTables_ascii).mpr ⟨fun n hn _ => hall n hn, ?_⟩
    taxParcel (by decide)
  rintro part hpart ⟨n, hn, hreq⟩
  rw [hall n (hpart.subset (mem_of_mem_passes hn))] at hreq
  cases hreq

/-- The roll names its deeds by the clerk's instrument number. -/
def clerkRoll : LayerSchema where
  fields := ["OBJECTID", "PARCEL_ID", "OWN_NAME", "CLERK_NO1"].map fun name => { name := name }
  distinct := by decide

/-- The clerk's number is not requested, and the deed is looked up without it. -/
theorem clerk_number_unread : ¬ ∀ (schema : LayerSchema) (attrs : Attrs),
    attrs.map Prod.fst = schema.attributes → SameReads (project schema attrs) attrs := by
  intro hall
  have hsame := hall clerkRoll [("OBJECTID", .int 1), ("PARCEL_ID", .str "A-1"),
    ("OWN_NAME", .str "ROE"), ("CLERK_NO1", .str "2019123456")] (by decide)
  have hdeed := congrArg DeedReads.clerkNo hsame.deed
  exact absurd hdeed (by decide +kernel)

end Concrete
end Parcel
end ResearchEngine
