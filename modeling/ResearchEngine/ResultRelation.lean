import Mathlib.Tactic.Common

/-! Two computations that fail alike, or succeed with results in a relation. -/
namespace ResearchEngine

inductive ResultRel {ε α β : Type} (R : α → β → Prop) : Except ε α → Except ε β → Prop
  | error (e : ε) : ResultRel R (.error e) (.error e)
  | ok {a : α} {b : β} (h : R a b) : ResultRel R (.ok a) (.ok b)

namespace ResultRel

variable {ε α β γ δ : Type} {R : α → β → Prop} {S : γ → δ → Prop}

theorem refl {R : α → α → Prop} (h : ∀ a, R a a) (x : Except ε α) : ResultRel R x x := by
  cases x with
  | error e => exact .error e
  | ok a => exact .ok (h a)

theorem bind {x : Except ε α} {y : Except ε β} {f : α → Except ε γ} {g : β → Except ε δ}
    (h : ResultRel R x y) (hf : ∀ a b, R a b → ResultRel S (f a) (g b)) :
    ResultRel S (x >>= f) (y >>= g) := by
  cases h with
  | error e => exact .error e
  | ok hab => exact hf _ _ hab

theorem map {x : Except ε α} {y : Except ε β} {f : α → γ} {g : β → δ}
    (h : ResultRel R x y) (hf : ∀ a b, R a b → S (f a) (g b)) : ResultRel S (x.map f) (y.map g) := by
  cases h with
  | error e => exact .error e
  | ok hab => exact .ok (hf _ _ hab)

/-- Computations with the same image are related by having the same image. -/
theorem of_map_eq {x : Except ε α} {y : Except ε β} {f : α → γ} {g : β → γ}
    (h : x.map f = y.map g) : ResultRel (fun a b => f a = g b) x y := by
  cases x with
  | error e =>
    cases y with
    | error e' =>
      obtain rfl := Except.error.inj h
      exact .error _
    | ok b => cases h
  | ok a =>
    cases y with
    | error e => cases h
    | ok b => exact .ok (Except.ok.inj h)

theorem map_eq {x : Except ε α} {y : Except ε β} {f : α → γ} {g : β → γ}
    (h : ResultRel (fun a b => f a = g b) x y) : x.map f = y.map g := by
  cases h with
  | error e => rfl
  | ok hab => exact congrArg Except.ok hab

end ResultRel

section Lists

variable {ε α β : Type} {f : α → Except ε β}

theorem mapM_cons_ok {a : α} {as : List α} {bs : List β} (h : (a :: as).mapM f = .ok bs) :
    ∃ b bs', f a = .ok b ∧ as.mapM f = .ok bs' ∧ bs = b :: bs' := by
  rw [List.mapM_cons] at h
  cases ha : f a with
  | error e =>
    rw [ha] at h
    cases h
  | ok b =>
    cases hrest : as.mapM f with
    | error e =>
      rw [ha, hrest] at h
      cases h
    | ok bs' =>
      rw [ha, hrest] at h
      exact ⟨b, bs', rfl, rfl, (Except.ok.inj h).symm⟩

/-- A filter that can be read off the results may be applied before the computation. -/
theorem mapM_filter {p : α → Bool} {q : β → Bool} (h : ∀ a b, f a = .ok b → q b = p a)
    {as : List α} {bs : List β} (hall : as.mapM f = .ok bs) :
    (as.filter p).mapM f = .ok (bs.filter q) := by
  induction as generalizing bs with
  | nil =>
    obtain rfl := Except.ok.inj hall
    rfl
  | cons a as ih =>
    obtain ⟨b, bs', ha, hrest, rfl⟩ := mapM_cons_ok hall
    have hb := h a b ha
    by_cases hp : p a = true
    · rw [List.filter_cons_of_pos hp, List.filter_cons_of_pos (hb.trans hp), List.mapM_cons, ha,
        ih hrest]
      rfl
    · rw [List.filter_cons_of_neg hp, List.filter_cons_of_neg (by rwa [hb])]
      exact ih hrest

/-- Every result is the result of an item. -/
theorem mem_of_mapM {as : List α} {bs : List β} (hall : as.mapM f = .ok bs) {b : β} (hb : b ∈ bs) :
    ∃ a ∈ as, f a = .ok b := by
  induction as generalizing bs with
  | nil =>
    obtain rfl := Except.ok.inj hall
    cases hb
  | cons a as ih =>
    obtain ⟨b', bs', ha, hrest, rfl⟩ := mapM_cons_ok hall
    obtain rfl | hb := List.mem_cons.mp hb
    · exact ⟨a, List.mem_cons_self, ha⟩
    · obtain ⟨a', ha', hf⟩ := ih hrest hb
      exact ⟨a', List.mem_cons_of_mem a ha', hf⟩

theorem exists_of_mapM {as : List α} {bs : List β} (hall : as.mapM f = .ok bs) {a : α}
    (ha : a ∈ as) : ∃ b ∈ bs, f a = .ok b := by
  induction as generalizing bs with
  | nil => cases ha
  | cons a' as ih =>
    obtain ⟨b', bs', hb', hrest, rfl⟩ := mapM_cons_ok hall
    obtain rfl | ha := List.mem_cons.mp ha
    · exact ⟨b', List.mem_cons_self, hb'⟩
    · obtain ⟨b, hb, hf⟩ := ih hrest ha
      exact ⟨b, List.mem_cons_of_mem b' hb, hf⟩

/-- A computation that succeeds on every item succeeds on the list. -/
theorem mapM_total (h : ∀ a, ∃ b, f a = .ok b) (as : List α) : ∃ bs, as.mapM f = .ok bs := by
  induction as with
  | nil => exact ⟨[], rfl⟩
  | cons a as ih =>
    obtain ⟨b, hb⟩ := h a
    obtain ⟨bs, hbs⟩ := ih
    refine ⟨b :: bs, ?_⟩
    rw [List.mapM_cons, hb, hbs]
    rfl

theorem mapM_of_forall {as : List α} (h : ∀ a ∈ as, ∃ b, f a = .ok b) :
    ∃ bs, as.mapM f = .ok bs := by
  induction as with
  | nil => exact ⟨[], rfl⟩
  | cons a as ih =>
    obtain ⟨b, hb⟩ := h a List.mem_cons_self
    obtain ⟨bs, hbs⟩ := ih fun a' ha' => h a' (List.mem_cons_of_mem a ha')
    refine ⟨b :: bs, ?_⟩
    rw [List.mapM_cons, hb, hbs]
    rfl

end Lists

end ResearchEngine
