import ResearchEngine.Regex
import Mathlib.Data.List.Infix

/-! All the numbers that stand behind one of some fixed texts, as `re.findall` finds them from left to
right: where the texts cannot run into each other, it finds the number at every position. -/
namespace ResearchEngine
namespace Regex

/-- The matches of a pattern that matches no empty text, each behind the one before. -/
def findFrom (r : Regex) : ℕ → Place → List Place
  | 0, _ => []
  | fuel + 1, s =>
    match r.run { s with groups := [] } some with
    | some e => e :: findFrom r fuel e
    | none => findFrom r fuel s.step

/-- `re.finditer` -/
def findAll (r : Regex) (text : List Char) : List Place :=
  r.findFrom text.length ⟨none, text, []⟩

/-- A text to the letter. -/
def word : List Char → Regex
  | [] => eps
  | c :: cs => seq (one fun d => d = c) (word cs)

/-- `(\d+)` behind a pattern, for a class of digits. -/
def numbered (r : Regex) (digit : Char → Bool) : Regex := seq r (group 1 (plus digit))

section Words

variable {α : Type}

/-- The place some characters on. -/
def Place.skip : ℕ → Place → Place
  | 0, s => s
  | n + 1, s => Place.skip n s.step

@[simp] theorem Place.step_rest (s : Place) : s.step.rest = s.rest.tail := by
  unfold step
  cases h : s.rest <;> simp [h]

@[simp] theorem Place.step_groups (s : Place) : s.step.groups = s.groups := by
  unfold step
  cases s.rest <;> rfl

@[simp] theorem Place.skip_rest (n : ℕ) (s : Place) : (s.skip n).rest = s.rest.drop n := by
  induction n generalizing s with
  | zero => rfl
  | succ n ih => simp [skip, ih, List.drop_tail]

@[simp] theorem Place.skip_groups (n : ℕ) (s : Place) : (s.skip n).groups = s.groups := by
  induction n generalizing s with
  | zero => rfl
  | succ n ih => simp [skip, ih]

theorem Place.skip_skip (m n : ℕ) (s : Place) : (s.skip m).skip n = s.skip (m + n) := by
  induction m generalizing s with
  | zero => simp [skip]
  | succ m ih => simpa [skip, Nat.succ_add] using ih s.step

/-- A pattern reads one of some texts, the first of them with which the rest succeeds. -/
def Reads (r : Regex) (words : List (List Char)) : Prop :=
  ∀ (α : Type) (s : Place) (k : Place → Option α),
    r.run s k = words.findSome? fun w => if w <+: s.rest then k (s.skip w.length) else none

theorem reads_word (w : List Char) : (word w).Reads [w] := by
  intro α s k
  induction w generalizing s with
  | nil => simp [word, run, Place.skip]
  | cons c w ih =>
    have hrun : (word (c :: w)).run s k = if s.next (fun d => d = c) then (word w).run s.step k else none :=
      rfl
    rw [hrun, ih]
    obtain ⟨prev, rest, groups⟩ := s
    cases rest with
    | nil => simp [Place.next]
    | cons d rest =>
      by_cases hd : d = c
      · simp [Place.next, hd, Place.skip, Place.step]
      · simp [Place.next, hd, Ne.symm hd]

theorem Reads.opt {r : Regex} {words : List (List Char)} (h : r.Reads words) :
    (opt r).Reads (words ++ [[]]) := by
  intro α s k
  have hrun : (Regex.opt r).run s k = (r.run s k).or (k s) := rfl
  rw [hrun, h, List.findSome?_append]
  simp [Place.skip]

theorem append_prefix_iff {w v l : List α} : w ++ v <+: l ↔ w <+: l ∧ v <+: l.drop w.length := by
  constructor
  · rintro ⟨t, rfl⟩
    simp
  · rintro ⟨⟨t, rfl⟩, ⟨u, hu⟩⟩
    rw [List.drop_left] at hu
    exact ⟨u, by rw [List.append_assoc, hu]⟩

theorem Reads.seq {r t : Regex} {ws vs : List (List Char)} (hr : r.Reads ws) (ht : t.Reads vs) :
    (seq r t).Reads (ws.flatMap fun w => vs.map fun v => w ++ v) := by
  intro α s k
  have hrun : (Regex.seq r t).run s k = r.run s fun m => t.run m k := rfl
  rw [hrun, hr]
  clear hr hrun
  induction ws with
  | nil => rfl
  | cons w ws ih =>
    have hhead : (vs.map fun v => w ++ v).findSome?
        (fun u => if u <+: s.rest then k (s.skip u.length) else none) =
          if w <+: s.rest then t.run (s.skip w.length) k else none := by
      rw [List.findSome?_map, ht]
      by_cases hw : w <+: s.rest
      · simp [Function.comp_def, append_prefix_iff, hw, Place.skip_skip]
      · simp [Function.comp_def, append_prefix_iff, hw]
    rw [List.findSome?_cons, List.flatMap_cons, List.findSome?_append, hhead, ih]
    cases (if w <+: s.rest then t.run (s.skip w.length) k else none) <;> rfl

/-- Two characters that come together do so before a part without the first of them. -/
theorem pair_infix_left {a b : Char} {x y : List Char} (hy : a ∉ y) (h : [a, b] <:+: x ++ y) :
    [a, b] <:+: x ∨ x.getLast? = some a := by
  obtain ⟨s, t, h⟩ := h
  rw [List.append_assoc] at h
  obtain ⟨m, rfl, hm⟩ | ⟨m, rfl, hm⟩ := List.append_eq_append_iff.mp h
  · match m with
    | [] =>
      obtain rfl : [a, b] ++ t = y := hm
      simp at hy
    | [c] =>
      obtain ⟨rfl, -⟩ := List.cons.inj hm
      exact .inr (by simp)
    | c :: d :: m =>
      obtain ⟨hc, hm⟩ := List.cons.inj hm
      obtain ⟨hd, -⟩ := List.cons.inj hm
      exact .inl ⟨s, m, by rw [hc, hd]; simp⟩
  · simp [hm] at hy

/-- The longest run of a class, when the rest succeeds after it. -/
theorem starRun_longest {p : Char → Bool} {k : Place → Option α} (hk : ∀ e, (k e).isSome = true)
    (groups : List (ℕ × List Char)) (prev : Option Char) (cs : List Char) :
    ∃ prev', starRun p k groups prev cs = k ⟨prev', cs.dropWhile p, groups⟩ := by
  induction cs generalizing prev with
  | nil => exact ⟨prev, rfl⟩
  | cons c cs ih =>
    unfold starRun
    by_cases hc : p c = true
    · obtain ⟨prev', h⟩ := ih (some c)
      refine ⟨prev', ?_⟩
      obtain ⟨x, hx⟩ := Option.isSome_iff_exists.mp (hk ⟨prev', cs.dropWhile p, groups⟩)
      simp [hc, h, hx]
    · exact ⟨prev, by simp [hc]⟩

/-- The number that a text starts with. -/
def numberOf (digit : Char → Bool) (text : List Char) : Option (List Char) :=
  if text.head?.any digit then some (text.takeWhile digit) else none

/-- `(\d+)` at a place. -/
theorem run_number (digit : Char → Bool) (s : Place) :
    ∃ prev, (group 1 (plus digit)).run s some = (numberOf digit s.rest).map fun n =>
      ⟨prev, s.rest.drop n.length, (1, n) :: s.groups⟩ := by
  obtain ⟨prev, rest, groups⟩ := s
  cases rest with
  | nil => exact ⟨none, rfl⟩
  | cons c cs =>
    have hrun : (group 1 (plus digit)).run ⟨prev, c :: cs, groups⟩ some =
        if digit c then starRun digit (fun e => some (e.capture 1 ⟨prev, c :: cs, groups⟩)) groups (some c) cs
        else none := rfl
    by_cases hc : digit c = true
    · obtain ⟨prev', h⟩ := starRun_longest (p := digit)
        (k := fun e => some (e.capture 1 ⟨prev, c :: cs, groups⟩)) (fun _ => rfl) groups (some c) cs
      refine ⟨prev', ?_⟩
      have hlen : cs.length = (cs.takeWhile digit).length + (cs.dropWhile digit).length := by
        rw [← List.length_append, List.takeWhile_append_dropWhile]
      have hcs : cs = cs.takeWhile digit ++ cs.dropWhile digit :=
        List.takeWhile_append_dropWhile.symm
      have htake : (c :: cs).take (cs.length + 1 - (cs.dropWhile digit).length) =
          c :: cs.takeWhile digit := by
        have hn : cs.length + 1 - (cs.dropWhile digit).length = (cs.takeWhile digit).length + 1 := by
          omega
        rw [hn, List.take_succ_cons]
        nth_rewrite 2 [hcs]
        rw [List.take_left]
      have hdrop : cs.drop (cs.takeWhile digit).length = cs.dropWhile digit := by
        nth_rewrite 2 [hcs]
        rw [List.drop_left]
      rw [hrun, if_pos hc, h]
      simp [numberOf, hc, Place.capture, htake, hdrop]
    · exact ⟨none, by simp [hrun, hc, numberOf]⟩

end Words

section Links

variable {words : List (List Char)} {digit : Char → Bool} {r : Regex}

/-- The number behind one of the texts, where a text starts with it. -/
def linkAt (words : List (List Char)) (digit : Char → Bool) (text : List Char) : Option (List Char) :=
  words.findSome? fun w => if w <+: text then numberOf digit (text.drop w.length) else none

/-- No two of the texts, with numbers behind them, can run into each other: they start with two
characters that no number has and that do not come again in them. -/
def Marked (words : List (List Char)) (digit : Char → Bool) : Prop :=
  ∃ a b, digit a = false ∧ digit b = false ∧
    ∀ w ∈ words, [a, b] <+: w ∧ ¬ [a, b] <:+: w.tail

variable (digit) in
/-- One match: where it ends, and the number that it captures. -/
theorem run_numbered (h : r.Reads words) (s : Place) :
    (linkAt words digit s.rest = none ∧ (numbered r digit).run s some = none) ∨
      ∃ w ∈ words, ∃ n e, w <+: s.rest ∧ numberOf digit (s.rest.drop w.length) = some n ∧
        linkAt words digit s.rest = some n ∧ (numbered r digit).run s some = some e ∧
        e.rest = s.rest.drop (w.length + n.length) ∧ e.group 1 = some n := by
  have hrun : (numbered r digit).run s some = r.run s fun m => (group 1 (plus digit)).run m some := rfl
  rw [hrun, h, linkAt]
  clear h hrun
  induction words with
  | nil => exact .inl ⟨rfl, rfl⟩
  | cons w ws ih =>
    rw [List.findSome?_cons, List.findSome?_cons]
    obtain ⟨prev, hnumber⟩ := run_number digit (s.skip w.length)
    rw [Place.skip_rest] at hnumber
    by_cases hw : w <+: s.rest
    · rw [if_pos hw, if_pos hw, hnumber]
      cases hn : numberOf digit (s.rest.drop w.length) with
      | none => exact ih.imp_right fun ⟨w', hw', h⟩ => ⟨w', List.mem_cons_of_mem w hw', h⟩
      | some n =>
        refine .inr ⟨w, List.mem_cons_self, n, _, hw, hn, rfl, rfl, ?_, ?_⟩
        · simp
        · simp [Place.group]
    · rw [if_neg hw, if_neg hw]
      exact ih.imp_right fun ⟨w', hw', h⟩ => ⟨w', List.mem_cons_of_mem w hw', h⟩

theorem digits_of_numberOf {text n : List Char} (h : numberOf digit text = some n) :
    n <+: text ∧ n ≠ [] ∧ ∀ c ∈ n, digit c = true := by
  cases text with
  | nil => simp [numberOf] at h
  | cons c cs =>
    by_cases hc : digit c = true
    · obtain rfl : (c :: cs).takeWhile digit = n := by simpa [numberOf, hc] using h
      exact ⟨List.takeWhile_prefix digit, by simp [hc], List.all_eq_true.mp List.all_takeWhile⟩
    · simp [numberOf, hc] at h

/-- No link starts inside another one. -/
theorem linkAt_inside (hwords : Marked words digit) {text w n : List Char} (hw : w ∈ words)
    (hstart : w <+: text) (hn : numberOf digit (text.drop w.length) = some n) {k : ℕ} (hpos : 0 < k)
    (hk : k < w.length + n.length) : linkAt words digit (text.drop k) = none := by
  obtain ⟨a, b, ha, hb, hmarks⟩ := hwords
  obtain ⟨hnstart, hne, hdigits⟩ := digits_of_numberOf hn
  have hlen : 0 < n.length := List.length_pos_iff.mpr hne
  by_contra hlink
  obtain ⟨m, hm⟩ := Option.ne_none_iff_exists'.mp hlink
  obtain ⟨w', hw', hfound⟩ := List.exists_of_findSome?_eq_some hm
  have hmark : [a, b] <+: text.drop k := by
    by_cases h : w' <+: text.drop k
    · exact (hmarks w' hw').1.trans h
    · simp [h] at hfound
  obtain ⟨t, rfl⟩ := hstart
  rw [List.drop_left] at hnstart
  obtain ⟨u, rfl⟩ := hnstart
  obtain ⟨x, hx⟩ := hmark
  have hfirst : (w ++ (n ++ u))[k]? = some a := by
    rw [← List.head?_drop, ← hx]
    rfl
  have hsecond : (w ++ (n ++ u))[k + 1]? = some b := by
    rw [← List.head?_drop, ← List.drop_drop, ← hx]
    rfl
  by_cases hin : k + 1 < w.length
  · -- both characters are inside the text
    refine (hmarks w hw).2 ?_
    have hdrop : [a, b] <+: w.drop k := by
      have hfront : [a, b] <+: (w ++ (n ++ u)).drop k := ⟨x, hx⟩
      refine List.prefix_of_prefix_length_le hfront ?_ (by simp; omega)
      rw [List.drop_append_of_le_length (by omega)]
      exact List.prefix_append _ _
    obtain ⟨j, rfl⟩ : ∃ j, k = j + 1 := ⟨k - 1, by omega⟩
    rw [← List.drop_tail] at hdrop
    exact hdrop.isInfix.trans (List.drop_suffix j w.tail).isInfix
  · -- one of them is a digit
    have hdigit {i : ℕ} {c : Char} (hi : w.length ≤ i) (hlt : i < w.length + n.length)
        (hc : (w ++ (n ++ u))[i]? = some c) : digit c = true := by
      rw [List.getElem?_append_right hi, List.getElem?_append_left (by omega)] at hc
      exact hdigits c (List.mem_of_getElem? hc)
    by_cases hlast : k < w.length
    · have := hdigit (i := k + 1) (by omega) (by omega) hsecond
      simp [hb] at this
    · have := hdigit (Nat.le_of_not_lt hlast) hk hfirst
      simp [ha] at this

/-- The numbers at all positions of a text, from left to right. -/
def links (words : List (List Char)) (digit : Char → Bool) (text : List Char) : List (List Char) :=
  text.tails.filterMap (linkAt words digit)

@[simp] theorem linkAt_nil : linkAt words digit [] = none := by
  simp [linkAt, numberOf]

@[simp] theorem links_nil : links words digit [] = [] := by simp [links]

theorem links_cons (c : Char) (text : List Char) :
    links words digit (c :: text) = (linkAt words digit (c :: text)).toList ++ links words digit text := by
  cases h : linkAt words digit (c :: text) <;> simp [links, h]

theorem links_skip {text : List Char} {m : ℕ}
    (h : ∀ k < m, linkAt words digit (text.drop k) = none) :
    links words digit text = links words digit (text.drop m) := by
  induction m generalizing text with
  | zero => rfl
  | succ m ih =>
    cases text with
    | nil => rfl
    | cons c text =>
      have hhead : linkAt words digit (c :: text) = none := h 0 (Nat.succ_pos m)
      rw [links_cons, hhead, List.drop_succ_cons]
      exact ih fun k hk => h (k + 1) (Nat.succ_lt_succ hk)

/-- `re.findall` of a number behind one of the texts finds the number at every position. -/
theorem findFrom_numbered (hr : r.Reads words) (hwords : Marked words digit) {fuel : ℕ} {s : Place}
    (hfuel : s.rest.length ≤ fuel) :
    (findFrom (numbered r digit) fuel s).filterMap (Place.group · 1) = links words digit s.rest := by
  induction fuel generalizing s with
  | zero =>
    obtain ⟨prev, rest, groups⟩ := s
    obtain rfl : rest = [] := List.length_eq_zero_iff.mp (Nat.le_zero.mp hfuel)
    exact links_nil.symm
  | succ fuel ih =>
    obtain ⟨hlink, hrun⟩ | ⟨w, hw, n, e, hstart, hn, hlink, hrun, hrest, hgroup⟩ :=
      run_numbered digit hr { s with groups := [] }
    · have hnext := ih (s := s.step) (by simp; omega)
      rw [findFrom, hrun]
      refine hnext.trans ?_
      rw [Place.step_rest]
      cases h : s.rest with
      | nil => rfl
      | cons c cs =>
        have hlink : linkAt words digit (c :: cs) = none := by simpa [h] using hlink
        simp [links_cons, hlink]
    · have hne := (digits_of_numberOf hn).2.1
      have hlen : 0 < n.length := List.length_pos_iff.mpr hne
      have hnext := ih (s := e) (by simp [hrest]; omega)
      rw [findFrom, hrun]
      simp only [List.filterMap_cons, hgroup, hnext, hrest]
      cases h : s.rest with
      | nil => simp [h] at hlink
      | cons c cs =>
        have hlink' : linkAt words digit (c :: cs) = some n := by simpa [h] using hlink
        obtain ⟨m, hm⟩ : ∃ m, w.length + n.length = m + 1 := ⟨w.length + n.length - 1, by omega⟩
        rw [links_cons, hlink', hm, List.drop_succ_cons]
        have hskip : links words digit cs = links words digit (cs.drop m) := by
          refine links_skip fun k hk => ?_
          have hinside := linkAt_inside hwords hw hstart hn (Nat.succ_pos k) (by omega)
          simpa [h] using hinside
        simp [hskip]

theorem findAll_numbered (hr : r.Reads words) (hwords : Marked words digit) (text : List Char) :
    (findAll (numbered r digit) text).filterMap (Place.group · 1) = links words digit text :=
  findFrom_numbered hr hwords (Nat.le_refl text.length)

/-! What stands in a text. -/

/-- At a position of a text stands one of the texts, and right behind it a whole number. -/
def StandsAt (words : List (List Char)) (digit : Char → Bool) (text : List Char) (k : ℕ)
    (n : List Char) : Prop :=
  ∃ w ∈ words, ∃ pre post, pre.length = k ∧ text = pre ++ (w ++ (n ++ post)) ∧ n ≠ [] ∧
    (∀ c ∈ n, digit c = true) ∧ post.head?.any digit = false

/-- The number behind one of the texts, wherever it is. -/
def Stands (words : List (List Char)) (digit : Char → Bool) (text n : List Char) : Prop :=
  ∃ k, StandsAt words digit text k n

/-- The number that stands before all the others. -/
def StandsFirst (words : List (List Char)) (digit : Char → Bool) (text n : List Char) : Prop :=
  ∃ k, StandsAt words digit text k n ∧ ∀ j m, StandsAt words digit text j m → k ≤ j

theorem numberOf_iff {text n : List Char} :
    numberOf digit text = some n ↔ ∃ post, text = n ++ post ∧ n ≠ [] ∧
      (∀ c ∈ n, digit c = true) ∧ post.head?.any digit = false := by
  constructor
  · intro h
    obtain ⟨⟨post, hpost⟩, hne, hdigits⟩ := digits_of_numberOf h
    refine ⟨post, hpost.symm, hne, hdigits, ?_⟩
    obtain ⟨-, rfl⟩ : text.head?.any digit = true ∧ text.takeWhile digit = n := by
      simpa [numberOf] using h
    have hrest : post = text.dropWhile digit :=
      List.append_cancel_left (hpost.trans List.takeWhile_append_dropWhile.symm)
    rw [hrest]
    cases hdrop : text.dropWhile digit with
    | nil => rfl
    | cons c cs =>
      have hc := List.head_dropWhile_not digit (l := text) (by simp [hdrop])
      simpa [hdrop] using hc
  · rintro ⟨post, rfl, hne, hdigits, hpost⟩
    have htake : (n ++ post).takeWhile digit = n := by
      rw [List.takeWhile_append_of_pos hdigits]
      cases post with
      | nil => simp
      | cons c cs =>
        have hc : digit c = false := by simpa using hpost
        simp [hc]
    cases n with
    | nil => exact absurd rfl hne
    | cons c cs =>
      have hc : digit c = true := hdigits c List.mem_cons_self
      rw [numberOf, htake]
      simp [hc]

/-- None of the texts goes on as another one. -/
def Unambiguous (words : List (List Char)) : Prop := ∀ w ∈ words, ∀ w' ∈ words, w <+: w' → w = w'

theorem linkAt_iff (hwords : Unambiguous words) {text n : List Char} :
    linkAt words digit text = some n ↔
      ∃ w ∈ words, w <+: text ∧ numberOf digit (text.drop w.length) = some n := by
  constructor
  · intro h
    obtain ⟨w, hw, hfound⟩ := List.exists_of_findSome?_eq_some h
    by_cases hstart : w <+: text
    · exact ⟨w, hw, hstart, by simpa [hstart] using hfound⟩
    · simp [hstart] at hfound
  · rintro ⟨w, hw, hstart, hn⟩
    have hfound : ∃ m, linkAt words digit text = some m := by
      refine Option.isSome_iff_exists.mp (List.findSome?_isSome_iff.mpr ⟨w, hw, ?_⟩)
      simp [hstart, hn]
    obtain ⟨m, hm⟩ := hfound
    obtain ⟨w', hw', hm'⟩ := List.exists_of_findSome?_eq_some hm
    by_cases hstart' : w' <+: text
    · have hsame : w' = w := by
        obtain h | h := List.prefix_or_prefix_of_prefix hstart' hstart
        · exact hwords w' hw' w hw h
        · exact (hwords w hw w' hw' h).symm
      rw [hm, ← hn, ← hsame]
      simpa [hstart'] using hm'.symm
    · simp [hstart'] at hm'

theorem standsAt_iff (hwords : Unambiguous words) {text n : List Char} {k : ℕ} :
    StandsAt words digit text k n ↔ linkAt words digit (text.drop k) = some n := by
  rw [linkAt_iff hwords]
  constructor
  · rintro ⟨w, hw, pre, post, rfl, rfl, hne, hdigits, hpost⟩
    refine ⟨w, hw, ?_, ?_⟩
    · rw [List.drop_left]
      exact List.prefix_append _ _
    · rw [List.drop_left, List.drop_left]
      exact numberOf_iff.mpr ⟨post, rfl, hne, hdigits, hpost⟩
  · rintro ⟨w, hw, ⟨rest, hrest⟩, hn⟩
    rw [← hrest, List.drop_left] at hn
    obtain ⟨post, rfl, hne, hdigits, hpost⟩ := numberOf_iff.mp hn
    have hk : k ≤ text.length := by
      by_contra hk
      rw [List.drop_eq_nil_of_le (by omega)] at hrest
      simp [hne] at hrest
    refine ⟨w, hw, text.take k, post, by simp [hk], ?_, hne, hdigits, hpost⟩
    rw [hrest, List.take_append_drop]

theorem mem_links_iff {text n : List Char} :
    n ∈ links words digit text ↔ ∃ k, linkAt words digit (text.drop k) = some n := by
  unfold links
  rw [List.mem_filterMap]
  constructor
  · rintro ⟨suffix, hsuffix, hn⟩
    obtain ⟨pre, rfl⟩ := (List.mem_tails _ _).mp hsuffix
    exact ⟨pre.length, by rwa [List.drop_left]⟩
  · rintro ⟨k, hn⟩
    exact ⟨text.drop k, (List.mem_tails _ _).mpr (List.drop_suffix k text), hn⟩

theorem head?_links_iff {text n : List Char} :
    (links words digit text).head? = some n ↔
      ∃ k, linkAt words digit (text.drop k) = some n ∧
        ∀ j < k, linkAt words digit (text.drop j) = none := by
  constructor
  · intro h
    induction text with
    | nil => simp at h
    | cons c text ih =>
      rw [links_cons] at h
      cases hlink : linkAt words digit (c :: text) with
      | some m =>
        rw [hlink] at h
        exact ⟨0, hlink.trans h, fun j hj => absurd hj (Nat.not_lt_zero j)⟩
      | none =>
        rw [hlink] at h
        obtain ⟨k, hn, hbefore⟩ := ih h
        refine ⟨k + 1, hn, fun j hj => ?_⟩
        cases j with
        | zero => exact hlink
        | succ j => exact hbefore j (Nat.lt_of_succ_lt_succ hj)
  · rintro ⟨k, hn, hbefore⟩
    rw [links_skip hbefore]
    cases h : text.drop k with
    | nil => simp [h] at hn
    | cons c cs =>
      rw [h] at hn
      simp [links_cons, hn]

/-- `re.findall` finds exactly what stands in the text. -/
theorem mem_links_stands (hwords : Unambiguous words) {text n : List Char} :
    n ∈ links words digit text ↔ Stands words digit text n := by
  rw [mem_links_iff]
  exact exists_congr fun k => (standsAt_iff hwords).symm

theorem head?_links_stands (hwords : Unambiguous words) {text n : List Char} :
    (links words digit text).head? = some n ↔ StandsFirst words digit text n := by
  rw [head?_links_iff]
  refine exists_congr fun k => and_congr (standsAt_iff hwords).symm ⟨fun h j m hm => ?_, fun h j hj => ?_⟩
  · by_contra hlt
    have hnone := h j (Nat.lt_of_not_le hlt)
    rw [(standsAt_iff hwords).mp hm] at hnone
    cases hnone
  · by_contra hlink
    obtain ⟨m, hm⟩ := Option.ne_none_iff_exists'.mp hlink
    exact absurd (h j m ((standsAt_iff hwords).mpr hm)) (Nat.not_le_of_lt hj)

end Links

end Regex
end ResearchEngine
