import ResearchEngine.LegalReferences

/-! The orchestrator's plat reference beside the appraiser's: one looks for a book and for a page
anywhere in a legal, the other for both next to each other. -/
namespace ResearchEngine
namespace Legal

open PyText Regex

/-- What the two parsers rely on in Python's character tables. -/
structure LegalTables [PyText] : Prop where
  decimal : ∀ c, isDecimal c = true → isSpace c = false
  letters : ∀ c, isSpace c = true ∨ isDecimal c = true → ∀ l ∈ "pb".toList, isLetter l c = false
  marks : ∀ c ∈ ".,/".toList, isSpace c = false ∧ isDecimal c = false ∧
    ∀ l ∈ "pb".toList, isLetter l c = false

section Pairs

variable [PyText]

theorem letters_apart {l l' : Char} (h : l ≠ l') : Apart (isLetter l) (isLetter l') := by
  intro c hl
  have hl : lower (String.singleton c) = String.singleton l := of_decide_eq_true hl
  refine decide_eq_false fun hl' => h ?_
  simpa using hl.symm.trans hl'

theorem number_blocks {p : Char → Bool} (h : Apart p isDecimal) (n : ℕ) : (number n).Blocks p :=
  blocks_group (blocks_plus h) n

section Tables

variable (tables : LegalTables)

include tables

theorem LegalTables.space_decimal : Apart isSpace isDecimal := by
  intro c hc
  refine eq_false_of_ne_true fun hd => ?_
  rw [tables.decimal c hd] at hc
  cases hc

theorem LegalTables.dot_space : Apart isDot isSpace := by
  intro c hc
  obtain rfl : c = '.' := of_decide_eq_true hc
  exact (tables.marks '.' (by decide)).1

theorem LegalTables.dot_decimal : Apart isDot isDecimal := by
  intro c hc
  obtain rfl : c = '.' := of_decide_eq_true hc
  exact (tables.marks '.' (by decide)).2.1

theorem LegalTables.dot_letter : Apart isDot (isLetter 'b') := by
  intro c hc
  obtain rfl : c = '.' := of_decide_eq_true hc
  exact (tables.marks '.' (by decide)).2.2 'b' (by decide)

theorem LegalTables.space_letter : Apart isSpace (isLetter 'b') :=
  fun c hc => tables.letters c (Or.inl hc) 'b' (by decide)

theorem LegalTables.decimal_letter : Apart isDecimal (isLetter 'p') :=
  fun c hc => tables.letters c (Or.inr hc) 'p' (by decide)

theorem LegalTables.decimal_separator : Apart isDecimal fun c => c = ',' ∨ c = '/' := by
  intro c hc
  refine decide_eq_false fun hsep => ?_
  have hmark : c ∈ ".,/".toList := by
    rcases hsep with rfl | rfl <;> decide
  rw [(tables.marks c hmark).2.1] at hc
  cases hc

/-- `\.?\s*(\d+)` starts with neither letters nor other marks, and its digits are all taken. -/
theorem pageNumber_sure (n : ℕ) : (pageNumber n).Sure isDecimal := by
  have hnumber := sure_group (sure_plus isDecimal) n
  have hspaces := sure_seq (sure_star isSpace) (number_blocks tables.space_decimal n) hnumber
  have hblocks := blocks_seq (skips_star tables.dot_space) (number_blocks tables.dot_decimal n)
  exact sure_seq (sure_opt isDot) hblocks hspaces

/-- A plat book reference can be read in one way only, if no digit follows. -/
theorem bookPattern_sure : bookPattern.Sure isDecimal := by
  have hb := sure_seq (sure_one never (isLetter 'b')) (blocks_never _) (pageNumber_sure tables 1)
  have hspace := sure_seq (sure_opt isSpace)
    (blocks_seq_left (blocks_one tables.space_letter) (pageNumber 1)) hb
  have hdot := sure_seq (sure_opt isDot) (blocks_seq (skips_opt (blocks_one tables.dot_space))
    (blocks_seq_left (blocks_one tables.dot_letter) (pageNumber 1))) hspace
  have hp := sure_seq (sure_one never (isLetter 'p')) (blocks_never _) hdot
  exact sure_seq (sure_boundary never isWord) (blocks_never _) hp

theorem pairGap_skips : pairGap.Skips isDecimal := by
  have hspaces := skips_star tables.decimal
  exact skips_seq hspaces (skips_seq (skips_opt (blocks_one tables.decimal_separator)) hspaces)

theorem pairPage_blocks : pairPage.Blocks isDecimal :=
  blocks_seq_left (blocks_one tables.decimal_letter) _

end Tables

theorem pageLetters_sure : pageLetters.Sure never := by
  have hword : word "age" = .seq (letter 'a') (.seq (letter 'g') (letter 'e')) := rfl
  have hge := sure_seq (sure_one never (isLetter 'g')) (blocks_never _)
    (sure_one never (isLetter 'e'))
  have hage := sure_seq (sure_one never (isLetter 'a')) (blocks_never _) hge
  refine sure_alt (hword ▸ hage) ?_
  rw [hword]
  exact blocks_seq_left (blocks_one (letters_apart (by decide))) _

/-- Where the digits of a page start and end. -/
def pageRead (s : Place) : Option (Place × Place) :=
  dot.run s fun m => spaces.run m fun a => (plus isDecimal).run a fun x => some (a, x)

theorem pageNumber_run (n : ℕ) (s : Place) :
    (pageNumber n).run s some = (pageRead s).map fun ax => ax.2.capture n ax.1 := by
  unfold pageRead
  rw [run_map]
  simp only [run_map]
  rfl

/-- The page of a pair and a page of its own, read at one place, have one number. -/
theorem page_numbers {s e e' : Place} (h : pairPage.run s some = some e)
    (h' : pagePattern.run s some = some e') :
    ∃ t, e.group 2 = some t ∧ e'.group 1 = some t := by
  have hpair : pairPage.run s some = if s.next (isLetter 'p') then
      (pageLetters.run s.step fun m => (pageNumber 2).run m some).or
        ((pageNumber 2).run s.step some) else none := rfl
  have hpage : pagePattern.run s some = if s.prev.any isWord ≠ s.next isWord then
      if s.next (isLetter 'p') then
        pageLetters.run s.step fun m => (pageNumber 1).run m some
      else none else none := rfl
  rw [hpage] at h'
  split at h'
  · split at h'
    · rename_i hp
      rw [pageLetters_sure Place s.step _ (rejects_never _)] at h'
      obtain ⟨m, hm, h'⟩ := Option.bind_eq_some_iff.mp h'
      rw [pageNumber_run] at h'
      obtain ⟨⟨a, x⟩, hread, rfl⟩ := Option.map_eq_some_iff.mp h'
      rw [hpair, if_pos hp, pageLetters_sure Place s.step _ (rejects_never _), hm,
        Option.bind_some, pageNumber_run, hread] at h
      obtain rfl := Option.some.inj h
      exact ⟨_, Place.group_capture x 2 a, Place.group_capture x 1 a⟩
    · cases h'
  · cases h'

/-- Where a pair starts in a text, and where its page does. -/
def pairAt (text : List Char) : Option (ℕ × ℕ) := do
  let (i, _) ← pairPattern.searchAt text
  let m ← (Regex.seq bookPattern pairGap).run (placeAt text i) fun m =>
    (pairPage.run m some).map fun _ => m
  return (i, text.length - m.rest.length)

/-- The references before a pair and, where the pair's own page is not written `PG` or `PAGE` as a
word of its own, after it: they do not carry other numbers than the pair. -/
structure Undisturbed (text : List Char) (start page : ℕ) (b p : List Char) : Prop where
  books : ∀ e, (bookPattern.found text 0 start).head? = some e → e.group 1 = some b
  pages : ∀ e, (pagePattern.found text 0 page).head? = some e → e.group 1 = some p
  own : pagePattern.found text 0 page = [] → pagePattern.matchAt text page = none →
    ∃ e, (pagePattern.found text (page + 1) (text.length + 1)).head? = some e ∧ e.group 1 = some p

/-- A run of the gap that keeps the place where the page starts, and the end of the page. -/
def gapRun (m : Place) : Option (Place × Place) :=
  pairGap.run m fun q => (pairPage.run q some).map fun e => (q, e)

theorem gapRun_rejects (tables : LegalTables) : Rejects isDecimal gapRun := by
  intro m hm
  apply pairGap_skips tables _ m _ hm
  rw [pairPage_blocks tables _ m some hm]
  rfl

/-- The parts of a pair: its book, the place where its page starts, and the page. -/
theorem pair_parts (tables : LegalTables) {text : List Char} {i : ℕ} {e : Place}
    (h : pairPattern.matchAt text i = some e) (hi : i ≤ text.length) :
    ∃ m q page, bookPattern.matchAt text i = some m ∧ m.group 1 = e.group 1 ∧
      ((Regex.seq bookPattern pairGap).run (placeAt text i) fun m =>
        (pairPage.run m some).map fun _ => m) = some q ∧
      q.At text page ∧ page ≤ text.length ∧ pairPage.run q some = some e := by
  have hsnd : pairPattern.matchAt text i = (bookPattern.run (placeAt text i) gapRun).map Prod.snd := by
    rw [run_map]
    unfold gapRun
    simp only [run_map, Option.map_map, Function.comp_def, Option.map_id_fun', id_eq]
    rfl
  have hfst : ((Regex.seq bookPattern pairGap).run (placeAt text i) fun m =>
      (pairPage.run m some).map fun _ => m) =
        (bookPattern.run (placeAt text i) gapRun).map Prod.fst := by
    rw [run_map]
    unfold gapRun
    simp only [run_map, Option.map_map, Function.comp_def]
    rfl
  rw [hsnd] at h
  obtain ⟨⟨q, e'⟩, hrun, rfl⟩ := Option.map_eq_some_iff.mp h
  rw [hrun] at hfst
  rw [bookPattern_sure tables _ _ _ (gapRun_rejects tables)] at hrun
  obtain ⟨m, hm, hgap⟩ := Option.bind_eq_some_iff.mp hrun
  obtain ⟨q', hq', hmq, hgroups⟩ := run_sound hgap
  obtain ⟨e'', he'', heq⟩ := Option.map_eq_some_iff.mp hq'
  obtain ⟨rfl, rfl⟩ := Prod.mk.inj heq
  obtain ⟨m', hm', hsm, -⟩ := run_sound hm
  obtain rfl := Option.some.inj hm'
  obtain ⟨e', he', -, hpage⟩ := run_sound he''
  obtain rfl := Option.some.inj he'
  obtain ⟨page, -, hlen, hat⟩ := (placeAt_at text i).reaches (hsm.trans hmq) hi
  refine ⟨m', q', page, hm, ?_, hfst, hat, hlen, he''⟩
  have hown : pairPage.captures = [2] := rfl
  have hnone : pairGap.captures = [] := rfl
  rw [hpage 1 (by simp [hown]), hgroups 1 (by simp [hnone])]

omit [PyText] in
theorem groupOf_some {m : Place} {n : ℕ} {s : String} :
    groupOf (some m) n = some s ↔ m.group n = some s.toList := by
  unfold groupOf
  rw [Option.bind_some, Option.map_eq_some_iff]
  constructor
  · rintro ⟨t, ht, rfl⟩
    rw [ht, String.toList_ofList]
  · intro h
    exact ⟨s.toList, h, String.ofList_toList⟩

/-- A page written at the place of the pair's page has the pair's number. -/
theorem own_page {text : List Char} {page : ℕ} {q e own : Place} {p : List Char}
    (hq : q.At text page) (hpage : pairPage.run q some = some e) (hp : e.group 2 = some p)
    (hown : pagePattern.matchAt text page = some own) : own.group 1 = some p := by
  have hmap : (pairPage.run (placeAt text page) some).map (fun e => e.under q.groups) = some e := by
    rw [run_map, ← hpage, run_at pairPage hq some]
    rfl
  obtain ⟨e', he', rfl⟩ := Option.map_eq_some_iff.mp hmap
  obtain ⟨t, ht, hown⟩ := page_numbers he' hown
  rw [Place.group_under ht] at hp
  rw [hown, hp]

theorem first_book_iff {text : List Char} {i : ℕ} {m : Place} {b : String} (hi : i ≤ text.length)
    (hm : bookPattern.matchAt text i = some m) (hb : m.group 1 = some b.toList) :
    groupOf ((bookPattern.search text).or (platBookPattern.search text)) 1 = some b ↔
      ∀ e, (bookPattern.found text 0 i).head? = some e → e.group 1 = some b.toList := by
  have hsearch : (bookPattern.search text).or (platBookPattern.search text) =
      (bookPattern.found text 0 i).head?.or (some m) := by
    rw [search_eq_found, found_append bookPattern text (Nat.zero_le i) (by omega),
      found_append bookPattern text (Nat.le_succ i) (by omega), found_one, hm, List.head?_append]
    simp
  rw [hsearch]
  cases hfirst : (bookPattern.found text 0 i).head? with
  | none => simpa [groupOf_some] using hb
  | some e => simp [groupOf_some]

theorem first_page_iff {text : List Char} {page : ℕ} {p : String} (hpage : page ≤ text.length)
    (hown : ∀ own, pagePattern.matchAt text page = some own → own.group 1 = some p.toList) :
    groupOf (pagePattern.search text) 1 = some p ↔
      (∀ e, (pagePattern.found text 0 page).head? = some e → e.group 1 = some p.toList) ∧
      (pagePattern.found text 0 page = [] → pagePattern.matchAt text page = none →
        ∃ e, (pagePattern.found text (page + 1) (text.length + 1)).head? = some e ∧
          e.group 1 = some p.toList) := by
  rw [search_eq_found, found_append pagePattern text (Nat.zero_le page) (by omega),
    found_append pagePattern text (Nat.le_succ page) (by omega), found_one, List.head?_append,
    List.head?_append]
  cases hfirst : pagePattern.found text 0 page with
  | cons e es => simp [groupOf_some]
  | nil =>
    cases hmatch : pagePattern.matchAt text page with
    | some own => simpa [groupOf_some] using hown own hmatch
    | none =>
      cases hafter : (pagePattern.found text (page + 1) (text.length + 1)).head? with
      | none => simp [groupOf]
      | some e => simp [groupOf_some]

/-- The two parsers agree on a pair exactly when the references before it, and those after a page
that is not a reference of its own, leave its numbers alone. -/
theorem plat_refs_agree_iff (tables : LegalTables) {legal b p : String}
    (h : platRefFromHtml legal = (some b, some p)) :
    ∃ start page, pairAt legal.toList = some (start, page) ∧
      (platRef legal = (some b, some p) ↔
        Undisturbed legal.toList start page b.toList p.toList) := by
  obtain ⟨hb, hp⟩ := Prod.mk.inj h
  cases hsearch : pairPattern.searchAt legal.toList with
  | none => simp [search, hsearch, groupOf] at hb
  | some found =>
    obtain ⟨i, e⟩ := found
    have hfound : pairPattern.search legal.toList = some e := by rw [search, hsearch]; rfl
    rw [hfound, groupOf_some] at hb hp
    obtain ⟨hi, hmatch⟩ := matchAt_of_searchAt hsearch
    obtain ⟨m, q, page, hm, hgroup, hrun, hq, hlen, hpage⟩ := pair_parts tables hmatch hi
    refine ⟨i, page, ?_, ?_⟩
    · have hrest : legal.toList.length - q.rest.length = page := by
        rw [hq.2]
        show legal.toList.length - (legal.toList.drop page).length = page
        rw [List.length_drop]
        omega
      unfold pairAt
      rw [hsearch]
      simp only [Option.bind_eq_bind, Option.bind_some, hrun, hrest]
      rfl
    · have hbooks := first_book_iff hi hm (hgroup.trans hb)
      have hpages := first_page_iff hlen fun own hown => own_page hq hpage hp hown
      unfold platRef
      simp only [Prod.mk.injEq, hbooks, hpages]
      exact ⟨fun ⟨hbook, hbefore, hafter⟩ => ⟨hbook, hbefore, hafter⟩,
        fun h => ⟨h.books, h.pages, h.own⟩⟩

end Pairs

section Concrete

open scoped PyText.Ascii

/-- Below the letters no character is one in either case. -/
theorem ascii_notLetter {c l : Char} (hc : c.toNat < 65) (hl : 65 ≤ l.toNat) :
    isLetter l c = false := by
  have hlow : c.toLower = c := by
    unfold Char.toLower
    refine dif_neg fun h => ?_
    have hA : 65 ≤ c.toNat := UInt32.le_iff_toNat_le.mp h.1
    omega
  refine decide_eq_false fun h => ?_
  have hsame : String.ofList ((String.singleton c).toList.map Char.toLower) = String.singleton l := h
  rw [String.toList_singleton, List.map_singleton, hlow] at hsame
  have hlist := congrArg String.toList hsame
  rw [String.toList_ofList, String.toList_singleton] at hlist
  rw [(List.cons.inj hlist).1] at hc
  omega

theorem ascii_small {c : Char} (h : isSpace c = true ∨ isDecimal c = true) : c.toNat < 65 := by
  rcases h with h | h
  · rcases (of_decide_eq_true h : c = ' ' ∨ _) with rfl | h | h
    · decide
    · omega
    · omega
  · have hrange : Char.isDigit c = true := h
    simp only [Char.isDigit, ge_iff_le, Bool.and_eq_true, decide_eq_true_eq] at hrange
    have h9 := UInt32.le_iff_toNat_le.mp hrange.2
    have hnat : c.val.toNat = c.toNat := rfl
    rw [hnat] at h9
    exact Nat.lt_of_le_of_lt h9 (by decide)

theorem ascii_legalTables : LegalTables where
  decimal := by
    intro c hc
    have hrange : Char.isDigit c = true := hc
    simp only [Char.isDigit, ge_iff_le, Bool.and_eq_true, decide_eq_true_eq] at hrange
    have h0 : 48 ≤ c.toNat := UInt32.le_iff_toNat_le.mp hrange.1
    refine decide_eq_false ?_
    rintro (rfl | h | h)
    · exact absurd h0 (by decide)
    · omega
    · omega
  letters c hc l hl := by
    apply ascii_notLetter (ascii_small hc)
    rcases List.mem_pair.mp hl with rfl | rfl <;> decide
  marks c hc := by
    have hmark : c = '.' ∨ c = ',' ∨ c = '/' := by simpa using hc
    have hsmall : c.toNat < 65 := by rcases hmark with rfl | rfl | rfl <;> decide
    refine ⟨?_, ?_, fun l hl => ascii_notLetter hsmall ?_⟩
    · rcases hmark with rfl | rfl | rfl <;> decide
    · rcases hmark with rfl | rfl | rfl <;> decide
    · rcases List.mem_pair.mp hl with rfl | rfl <;> decide

theorem plat_refs_agree_sample :
    platRef "LOT 1 PB 89 PG 6" = (some "89", some "6") := by
  obtain ⟨start, page, hpair, hiff⟩ := plat_refs_agree_iff ascii_legalTables
    (show platRefFromHtml "LOT 1 PB 89 PG 6" = (some "89", some "6") by decide +kernel)
  have hat : pairAt "LOT 1 PB 89 PG 6".toList = some (6, 12) := by decide +kernel
  obtain ⟨rfl, rfl⟩ := Prod.mk.inj (Option.some.inj (hpair.symm.trans hat))
  have hbooks : bookPattern.found "LOT 1 PB 89 PG 6".toList 0 6 = [] := by decide +kernel
  have hpages : pagePattern.found "LOT 1 PB 89 PG 6".toList 0 12 = [] := by decide +kernel
  have hown : pagePattern.matchAt "LOT 1 PB 89 PG 6".toList 12 ≠ none := by decide +kernel
  refine hiff.mpr ⟨?_, ?_, fun _ h => (hown h).elim⟩
  · rw [hbooks]
    exact fun e he => by cases he
  · rw [hpages]
    exact fun e he => by cases he

/-- The page of an official records reference is paired with the plat book. -/
theorem plat_refs_disagree :
    ¬ ∀ legal b p, platRefFromHtml legal = (some b, some p) → platRef legal = (some b, some p) := by
  intro hall
  have hpair : platRefFromHtml "OR 123 PG 45 PB 89 PG 6" = (some "89", some "6") := by
    decide +kernel
  exact absurd (hall _ _ _ hpair) (by decide +kernel)

end Concrete

end Legal
end ResearchEngine
