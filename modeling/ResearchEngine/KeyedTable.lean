import Mathlib.Data.List.Nodup
import Mathlib.Tactic.Common

/-! Tables of rows under a primary key, in insertion order. The uniqueness of
the key is part of the type, so no later proof has to carry it. -/
namespace ResearchEngine

structure Table (K V : Type) where
  rows : List (K × V)
  nodup : (rows.map Prod.fst).Nodup

namespace Table

variable {K V : Type}

def empty : Table K V := ⟨[], List.nodup_nil⟩

instance : Inhabited (Table K V) := ⟨empty⟩

def keys (t : Table K V) : List K := t.rows.map Prod.fst

/-- Rewrite every row in place, the key being fixed. -/
def adjust (t : Table K V) (f : K → V → V) : Table K V where
  rows := t.rows.map fun p => (p.1, f p.1 p.2)
  nodup := by simpa [List.map_map, Function.comp_def] using t.nodup

/-- The rows that satisfy a predicate, in table order. -/
def select (t : Table K V) (p : V → Bool) : List (K × V) := t.rows.filter fun r => p r.2

/-- The part of a table whose rows satisfy a predicate. -/
def filter (t : Table K V) (p : K → V → Bool) : Table K V where
  rows := t.rows.filter fun r => p r.1 r.2
  nodup := t.nodup.sublist ((List.filter_sublist).map Prod.fst)

@[simp] theorem adjust_id (t : Table K V) : (t.adjust fun _ v => v) = t := by
  cases t
  simp [adjust]

theorem adjust_adjust (t : Table K V) (f g : K → V → V) :
    (t.adjust f).adjust g = t.adjust fun k v => g k (f k v) := by
  simp [adjust, List.map_map, Function.comp_def]

@[simp] theorem adjust_keys (t : Table K V) (f : K → V → V) : (t.adjust f).keys = t.keys := by
  simp [keys, adjust, List.map_map, Function.comp_def]

theorem select_keys_nodup (t : Table K V) (p : V → Bool) :
    ((t.select p).map Prod.fst).Nodup :=
  t.nodup.sublist ((List.filter_sublist).map Prod.fst)

/-- A predicate that `adjust` does not disturb selects the adjusted rows. -/
theorem select_adjust (t : Table K V) (f : K → V → V) (p : V → Bool)
    (h : ∀ r ∈ t.rows, p (f r.1 r.2) = p r.2) :
    (t.adjust f).select p = (t.select p).map fun r => (r.1, f r.1 r.2) := by
  simp only [select, adjust, List.filter_map]
  congr 1
  exact List.filter_congr h

/-- A predicate that `adjust` does not disturb keeps the same rows. -/
theorem filter_adjust (t : Table K V) (f : K → V → V) (p : K → V → Bool)
    (h : ∀ k v, p k (f k v) = p k v) : (t.adjust f).filter p = (t.filter p).adjust f := by
  have hp : ((fun r : K × V => p r.1 r.2) ∘ fun r : K × V => (r.1, f r.1 r.2)) =
      fun r => p r.1 r.2 := funext fun r => h r.1 r.2
  simp only [filter, adjust, List.filter_map, hp]

theorem select_filter (t : Table K V) (p : K → V → Bool) (q : V → Bool)
    (h : ∀ k v, q v = true → p k v = true) : (t.filter p).select q = t.select q := by
  simp only [select, filter, List.filter_filter]
  refine List.filter_congr fun r _ => ?_
  cases hq : q r.2 with
  | false => simp
  | true => simp [h r.1 r.2 hq]

theorem filter_congr {t : Table K V} {p q : K → V → Bool} (h : ∀ r ∈ t.rows, p r.1 r.2 = q r.1 r.2) :
    t.filter p = t.filter q := by
  have hrows : (t.rows.filter fun r => p r.1 r.2) = t.rows.filter fun r => q r.1 r.2 :=
    List.filter_congr h
  simp only [filter, hrows]

/-- Add a row under a key the table does not hold yet. -/
def insert (t : Table K V) (k : K) (v : V) (h : k ∉ t.keys) : Table K V where
  rows := t.rows ++ [(k, v)]
  nodup := by
    rw [List.map_append, List.nodup_append]
    refine ⟨t.nodup, by simp, ?_⟩
    intro a ha b hb hab
    simp only [List.map_cons, List.map_nil, List.mem_singleton] at hb
    subst hb
    exact h (hab ▸ ha)

variable [DecidableEq K]

def get (t : Table K V) (k : K) : Option V := (t.rows.find? fun r => r.1 = k).map Prod.snd

/-- Update the row under one key; a missing key leaves the table as it is. -/
def modify (t : Table K V) (k : K) (f : V → V) : Table K V :=
  t.adjust fun k' v => if k' = k then f v else v

/-- The primary-key check of an `INSERT`: `none` when the key is taken. -/
def insert? (t : Table K V) (k : K) (v : V) : Option (Table K V) :=
  if h : k ∈ t.keys then none else some (t.insert k v h)

@[simp] theorem get_empty (k : K) : (empty : Table K V).get k = none := rfl

@[simp] theorem get_adjust (t : Table K V) (f : K → V → V) (k : K) :
    (t.adjust f).get k = (t.get k).map (f k) := by
  unfold get adjust
  simp only [List.find?_map, Function.comp_def, Option.map_map]
  cases h : t.rows.find? fun r => decide (r.1 = k) with
  | none => rfl
  | some r =>
    have hk : r.1 = k := by simpa using List.find?_some h
    simp [hk]

@[simp] theorem get_modify_self (t : Table K V) (k : K) (f : V → V) :
    (t.modify k f).get k = (t.get k).map f := by
  simp [modify]

theorem get_modify_other (t : Table K V) {k k' : K} (f : V → V) (h : k' ≠ k) :
    (t.modify k f).get k' = t.get k' := by
  simp [modify, h]

theorem get_modify (t : Table K V) (k k' : K) (f : V → V) :
    (t.modify k f).get k' = (t.get k').map fun v => if k' = k then f v else v := by
  simp [modify]

theorem modify_modify (t : Table K V) (k : K) (f g : V → V) :
    (t.modify k f).modify k g = t.modify k fun v => g (f v) := by
  simp only [modify, adjust_adjust]
  congr 1
  funext k' v
  split <;> rfl

@[simp] theorem modify_id (t : Table K V) (k : K) : (t.modify k fun v => v) = t := by
  simp [modify]

@[simp] theorem modify_keys (t : Table K V) (k : K) (f : V → V) : (t.modify k f).keys = t.keys :=
  adjust_keys t _

theorem mem_rows_iff (t : Table K V) (k : K) (v : V) : (k, v) ∈ t.rows ↔ t.get k = some v := by
  unfold get
  constructor
  · intro h
    have hfind : ∀ rows : List (K × V), (rows.map Prod.fst).Nodup → (k, v) ∈ rows →
        rows.find? (fun r => decide (r.1 = k)) = some (k, v) := by
      intro rows
      induction rows with
      | nil => simp
      | cons r rows ih =>
        intro hnd hmem
        simp only [List.map_cons, List.nodup_cons] at hnd
        rcases List.mem_cons.mp hmem with rfl | hmem
        · simp
        · have hne : r.1 ≠ k := fun he => hnd.1 (he ▸ List.mem_map_of_mem (f := Prod.fst) hmem)
          simpa [List.find?_cons, hne] using ih hnd.2 hmem
    simp [hfind t.rows t.nodup h]
  · intro h
    obtain ⟨r, hr, rfl⟩ := Option.map_eq_some_iff.mp h
    have hk : r.1 = k := by simpa using List.find?_some hr
    subst hk
    exact List.mem_of_find?_eq_some hr

theorem mem_keys_iff (t : Table K V) (k : K) : k ∈ t.keys ↔ ∃ v, t.get k = some v := by
  simp only [keys, List.mem_map, ← mem_rows_iff]
  constructor
  · rintro ⟨r, hr, rfl⟩
    exact ⟨r.2, hr⟩
  · rintro ⟨v, hv⟩
    exact ⟨(k, v), hv, rfl⟩

theorem get_eq_none_iff (t : Table K V) (k : K) : t.get k = none ↔ k ∉ t.keys := by
  rw [mem_keys_iff]
  cases t.get k <;> simp

theorem modify_of_get_none {t : Table K V} {k : K} {f : V → V} (h : t.get k = none) :
    t.modify k f = t := by
  have hk := (get_eq_none_iff t k).mp h
  have hrows : (t.rows.map fun p => (p.1, if p.1 = k then f p.2 else p.2)) = t.rows := by
    conv_rhs => rw [← List.map_id t.rows]
    refine List.map_congr_left fun r hr => ?_
    have hne : r.1 ≠ k := fun he => hk (he ▸ List.mem_map_of_mem hr)
    simp [hne]
  simp only [modify, adjust, hrows]

theorem get_insert (t : Table K V) (k k' : K) (v : V) (h : k ∉ t.keys) :
    (t.insert k v h).get k' = if k' = k then some v else t.get k' := by
  have hnone := (get_eq_none_iff t k).mpr h
  unfold get insert at *
  rw [List.find?_append, Option.map_or]
  split
  · rename_i he
    subst he
    simp [hnone]
  · rename_i hne
    have hne' : k ≠ k' := fun he => hne he.symm
    simp [hne']

theorem get_filter (t : Table K V) (p : K → V → Bool) (k : K) :
    (t.filter p).get k = (t.get k).filter (p k) := by
  refine Option.ext fun v => ?_
  rw [← mem_rows_iff, Option.filter_eq_some_iff, ← mem_rows_iff]
  simp [filter, List.mem_filter]

theorem filter_modify (t : Table K V) (p : K → V → Bool) (k : K) (f : V → V)
    (h : ∀ k v, p k (f v) = p k v) : (t.modify k f).filter p = (t.filter p).modify k f := by
  refine filter_adjust t _ p fun k' v => ?_
  split
  · exact h k' v
  · rfl

theorem insert?_eq_some_iff (t u : Table K V) (k : K) (v : V) :
    t.insert? k v = some u ↔ ∃ h : k ∉ t.keys, u = t.insert k v h := by
  unfold insert?
  split <;> simp_all [eq_comm]

/-- A row that passes a filter is inserted into the filtered table just the same. -/
theorem insert?_filter {t u : Table K V} {k : K} {v : V} {p : K → V → Bool}
    (h : t.insert? k v = some u) (hp : p k v = true) :
    (t.filter p).insert? k v = some (u.filter p) := by
  obtain ⟨hk, rfl⟩ := (insert?_eq_some_iff _ _ _ _).mp h
  have hk' : k ∉ (t.filter p).keys := fun hmem =>
    hk ((List.filter_sublist.map Prod.fst).subset hmem)
  refine (insert?_eq_some_iff _ _ _ _).mpr ⟨hk', ?_⟩
  simp [filter, insert, List.filter_append, hp]

/-- A row that does not pass a filter is not seen in the filtered table. -/
theorem filter_insert?_of_false {t u : Table K V} {k : K} {v : V} {p : K → V → Bool}
    (h : t.insert? k v = some u) (hp : p k v = false) : u.filter p = t.filter p := by
  obtain ⟨hk, rfl⟩ := (insert?_eq_some_iff _ _ _ _).mp h
  simp [filter, insert, List.filter_append, hp]

theorem mem_select_iff (t : Table K V) (p : V → Bool) (k : K) (v : V) :
    (k, v) ∈ t.select p ↔ t.get k = some v ∧ p v = true := by
  simp [select, List.mem_filter, mem_rows_iff]

end Table
end ResearchEngine
