import ResearchEngine.KeyedTable

/-! Tables that are filled from one another, row by row: which of the layers a key's value comes
from. -/
namespace ResearchEngine
namespace Table

variable {K V W : Type} [DecidableEq K]

/-- `t[k] = v` -/
def set (t : Table K V) (k : K) (v : V) : Table K V :=
  if h : k ∈ t.keys then t.modify k fun _ => v else t.insert k v h

/-- `t.setdefault(k, v)` -/
def setDefault (t : Table K V) (k : K) (v : V) : Table K V :=
  if h : k ∈ t.keys then t else t.insert k v h

theorem get_set (t : Table K V) (k k' : K) (v : V) :
    (t.set k v).get k' = if k' = k then some v else t.get k' := by
  unfold set
  split
  · next h =>
    obtain ⟨w, hw⟩ := (mem_keys_iff t k).mp h
    rw [get_modify]
    split
    · next he =>
      subst he
      simp [hw]
    · simp
  · next h => exact get_insert t k k' v h

theorem get_setDefault (t : Table K V) (k k' : K) (v : V) :
    (t.setDefault k v).get k' = if k' = k then some ((t.get k).getD v) else t.get k' := by
  unfold setDefault
  split
  · next h =>
    obtain ⟨w, hw⟩ := (mem_keys_iff t k).mp h
    split
    · next he =>
      subst he
      simp [hw]
    · rfl
  · next h =>
    rw [get_insert, (get_eq_none_iff t k).mpr h]
    rfl

/-- A row that is left out touches no key. -/
theorem get_untouched (t : Table K V) (k k' : K) :
    t.get k' = if k' = k then t.get k else t.get k' := by
  split
  · next he => rw [he]
  · rfl

/-- A table that is filled row by row, where a row only touches its own key: every key's value comes
from the row of the key, and from nothing else. -/
theorem get_foldl_rows {step : Table K V → K × W → Table K V} {g : K → Option V → W → Option V}
    (hstep : ∀ t k w k', (step t (k, w)).get k' = if k' = k then g k (t.get k) w else t.get k')
    (t : Table K V) (u : Table K W) (k : K) :
    (u.rows.foldl step t).get k = ((u.get k).map (g k (t.get k))).getD (t.get k) := by
  obtain ⟨rows, hnodup⟩ := u
  unfold get
  simp only
  induction rows generalizing t with
  | nil => rfl
  | cons r rows ih =>
    obtain ⟨k₀, w⟩ := r
    obtain ⟨hfresh, hrest⟩ := List.nodup_cons.mp hnodup
    have hget := hstep t k₀ w k
    unfold get at hget
    rw [List.foldl_cons, ih (step t (k₀, w)) hrest, hget]
    by_cases hk : k = k₀
    · subst hk
      have hnone : rows.find? (fun r => decide (r.1 = k)) = none := by
        rw [List.find?_eq_none]
        intro r hr he
        exact hfresh (List.mem_map.mpr ⟨r, hr, by simpa using he⟩)
      simp [hnone]
    · simp [hk, Ne.symm hk]

/-- A table that a list of parts is put into: the last part that has a key gives its value. -/
theorem get_foldl_last {S P : Type} {step : S → P → S} {table : S → Table K V}
    {part : P → K → Option V}
    (hstep : ∀ s p k, (table (step s p)).get k = (part p k).or ((table s).get k)) (s : S) (ps : List P)
    (k : K) :
    (table (ps.foldl step s)).get k =
      (ps.reverse.findSome? fun p => part p k).or ((table s).get k) := by
  induction ps generalizing s with
  | nil => rfl
  | cons p ps ih =>
    rw [List.foldl_cons, ih, hstep, List.reverse_cons, List.findSome?_append, Option.or_assoc]
    cases hp : part p k <;> simp [hp]

/-- `t.update(u)` -/
def update (t u : Table K V) : Table K V := u.rows.foldl (fun t r => t.set r.1 r.2) t

theorem get_update (t u : Table K V) (k : K) : (t.update u).get k = (u.get k).or (t.get k) := by
  unfold update
  rw [get_foldl_rows (g := fun _ _ v => some v) fun t k v k' => get_set t k k' v]
  cases u.get k <;> rfl

end Table
end ResearchEngine
