import Mathlib.Data.List.Sort
import Mathlib.Data.List.TakeWhile
import Mathlib.Tactic.Common

/-! The place that a stable sort by a rank gives to an entry of a list. -/
namespace ResearchEngine
namespace StableSort

variable {α : Type} {rank : α → ℕ}

theorem insertionSort_pairwise {κ : Type} [LinearOrder κ] (key : α → κ) (l : List α) :
    (l.insertionSort fun a b => key a ≤ key b).Pairwise fun a b => key a ≤ key b := by
  have : Std.Total fun a b : α => key a ≤ key b := ⟨fun a b => le_total (key a) (key b)⟩
  have : IsTrans α fun a b => key a ≤ key b := ⟨fun _ _ _ => le_trans⟩
  exact List.pairwise_insertionSort _ l

/-- The stable sort by a rank. -/
def sortByRank (rank : α → ℕ) (l : List α) : List α := l.insertionSort fun a b => rank a ≤ rank b

theorem sortByRank_perm (rank : α → ℕ) (l : List α) : (sortByRank rank l).Perm l :=
  List.perm_insertionSort _ l

theorem sortByRank_pairwise (rank : α → ℕ) (l : List α) :
    (sortByRank rank l).Pairwise fun a b => rank a ≤ rank b := insertionSort_pairwise rank l

/-- An entry goes before what it may precede, whatever follows. -/
theorem orderedInsert_append_le {x n : α} {p q : List α} (h : rank x ≤ rank n) :
    List.orderedInsert (fun a b => rank a ≤ rank b) x (p ++ n :: q) =
      List.orderedInsert (fun a b => rank a ≤ rank b) x p ++ n :: q := by
  induction p with
  | nil => simp [h]
  | cons a p ih =>
    by_cases ha : rank x ≤ rank a
    · simp [ha]
    · simp only [List.cons_append, List.orderedInsert_cons, if_neg ha, ih]

theorem orderedInsert_append_gt {x : α} {p : List α} (h : ∀ a ∈ p, rank a < rank x) (q : List α) :
    List.orderedInsert (fun a b => rank a ≤ rank b) x (p ++ q) =
      p ++ List.orderedInsert (fun a b => rank a ≤ rank b) x q := by
  induction p with
  | nil => rfl
  | cons a p ih =>
    have ha : ¬ rank x ≤ rank a := not_le.mpr (h a List.mem_cons_self)
    rw [List.cons_append, List.orderedInsert_cons, if_neg ha,
      ih fun b hb => h b (List.mem_cons_of_mem a hb), List.cons_append]

/-- In a sorted list the entries below a bound come first. -/
theorem takeWhile_length {l : List α} (h : l.Pairwise fun a b => rank a ≤ rank b) (r : ℕ) :
    (l.takeWhile fun a => rank a < r).length = l.countP fun a => rank a < r := by
  induction l with
  | nil => rfl
  | cons a l ih =>
    obtain ⟨ha, hl⟩ := List.pairwise_cons.mp h
    by_cases har : rank a < r
    · rw [List.takeWhile_cons_of_pos (by simpa using har), List.countP_cons_of_pos (by simpa using har),
        List.length_cons, ih hl]
    · rw [List.takeWhile_cons_of_neg (by simpa using har)]
      refine (List.countP_eq_zero.mpr fun b hb => ?_).symm
      obtain rfl | hb := List.mem_cons.mp hb
      · simpa using har
      · have hab := ha b hb
        simp only [decide_eq_true_eq]
        omega

/-- An entry comes after those that were before it and have no higher rank, and after all of a
lower rank. -/
theorem sortByRank_split (rank : α → ℕ) (before : List α) (n : α) (after : List α) : ∃ p q,
    sortByRank rank (before ++ n :: after) = p ++ n :: q ∧ (∀ a ∈ p, rank a ≤ rank n) ∧
      p.length = (before.countP fun a => rank a ≤ rank n) + after.countP fun a => rank a < rank n := by
  induction before with
  | nil =>
    have hsplit := List.insertionSort_cons_eq_take_drop (fun a b => rank a ≤ rank b) n after
    simp only [not_le] at hsplit
    refine ⟨_, _, hsplit, fun a ha => ?_, ?_⟩
    · have hlt := List.mem_takeWhile_imp ha
      simp only [decide_eq_true_eq] at hlt
      exact hlt.le
    · have hcount := takeWhile_length (sortByRank_pairwise rank after) (rank n)
      rw [(sortByRank_perm rank after).countP_eq] at hcount
      simpa [sortByRank] using hcount
  | cons x before ih =>
    obtain ⟨p, q, hsorted, hp, hlen⟩ := ih
    have hx : sortByRank rank (x :: before ++ n :: after) =
        List.orderedInsert (fun a b => rank a ≤ rank b) x (p ++ n :: q) := by
      rw [← hsorted]
      rfl
    by_cases h : rank x ≤ rank n
    · refine ⟨_, q, hx.trans (orderedInsert_append_le h), fun a ha => ?_, ?_⟩
      · obtain rfl | ha := (List.mem_orderedInsert _).mp ha
        · exact h
        · exact hp a ha
      · rw [List.orderedInsert_length, hlen, List.countP_cons_of_pos (by simpa using h)]
        omega
    · have hlt : ∀ a ∈ p ++ [n], rank a < rank x := by
        intro a ha
        obtain ha | ha := List.mem_append.mp ha
        · exact (hp a ha).trans_lt (not_le.mp h)
        · obtain rfl := List.mem_singleton.mp ha
          exact not_le.mp h
      have hgt := orderedInsert_append_gt hlt q
      rw [List.append_assoc, List.singleton_append, List.append_assoc, List.singleton_append] at hgt
      refine ⟨p, _, hx.trans hgt, hp, ?_⟩
      rw [hlen, List.countP_cons_of_neg (by simpa using h)]

/-- Whether an entry is among the first of the sorted list. -/
theorem mem_take_sortByRank {before after : List α} {n : α} (h : (before ++ n :: after).Nodup)
    (k : ℕ) : n ∈ (sortByRank rank (before ++ n :: after)).take k ↔
      ((before.countP fun a => rank a ≤ rank n) + after.countP fun a => rank a < rank n) < k := by
  obtain ⟨p, q, hsorted, -, hlen⟩ := sortByRank_split rank before n after
  have hnodup : (p ++ n :: q).Nodup := hsorted ▸ (sortByRank_perm rank _).nodup_iff.mpr h
  have hnp : n ∉ p := fun hn => (List.nodup_append.mp hnodup).2.2 n hn n List.mem_cons_self rfl
  rw [hsorted, ← hlen]
  constructor
  · intro hn
    by_contra hk
    rw [List.take_append_of_le_length (not_lt.mp hk)] at hn
    exact hnp (List.mem_of_mem_take hn)
  · intro hk
    obtain ⟨j, rfl⟩ := Nat.exists_eq_add_of_lt hk
    rw [Nat.add_assoc, List.take_length_add_append]
    simp

section Keys

variable {κ : Type} [LinearOrder κ] {key : α → κ}

theorem find?_orderedInsert (x : α) (l : List α) (k : κ) :
    (List.orderedInsert (fun a b => key a ≤ key b) x l).find? (fun a => key a = k) =
      (x :: l).find? fun a => key a = k := by
  induction l with
  | nil => rfl
  | cons a l ih =>
    by_cases h : key x ≤ key a
    · rw [List.orderedInsert_cons, if_pos h]
    · rw [List.orderedInsert_cons, if_neg h]
      by_cases ha : key a = k
      · have hx : ¬ key x = k := fun hx => h (by rw [hx, ha])
        rw [List.find?_cons_of_pos (by simpa using ha), List.find?_cons_of_neg (by simpa using hx),
          List.find?_cons_of_pos (by simpa using ha)]
      · rw [List.find?_cons_of_neg (by simpa using ha), ih]
        by_cases hx : key x = k
        · rw [List.find?_cons_of_pos (by simpa using hx), List.find?_cons_of_pos (by simpa using hx)]
        · rw [List.find?_cons_of_neg (by simpa using hx), List.find?_cons_of_neg (by simpa using hx),
            List.find?_cons_of_neg (by simpa using ha)]

/-- The first entry of a key stays the first. -/
theorem find?_insertionSort (l : List α) (k : κ) :
    (l.insertionSort fun a b => key a ≤ key b).find? (fun a => key a = k) =
      l.find? fun a => key a = k := by
  induction l with
  | nil => rfl
  | cons x l ih =>
    rw [List.insertionSort_cons, find?_orderedInsert]
    by_cases hx : key x = k
    · rw [List.find?_cons_of_pos (by simpa using hx), List.find?_cons_of_pos (by simpa using hx)]
    · rw [List.find?_cons_of_neg (by simpa using hx), List.find?_cons_of_neg (by simpa using hx), ih]

end Keys

end StableSort
end ResearchEngine
