import Mathlib.Data.List.Basic
import Mathlib.Tactic.Common

/-! Runs of a labelled step function, with a side condition on every step.
`step s a = none` means that action `a` is not enabled in `s`. -/
namespace ResearchEngine
namespace TransitionRuns

variable {S A : Type}

/-- A run whose every step is enabled and meets the condition `ok`, which may
look at the state before the step and at the action only. -/
inductive Runs (step : S → A → Option S) (ok : S → A → Prop) : S → List A → S → Prop
  | refl (s) : Runs step ok s [] s
  | cons {s a t as u} : step s a = some t → ok s a → Runs step ok t as u →
      Runs step ok s (a :: as) u

/-- The condition that every step meets. -/
def Always : S → A → Prop := fun _ _ => True

/-- Execute a list of actions; `none` as soon as one of them is not enabled. -/
def exec (step : S → A → Option S) : S → List A → Option S
  | s, [] => some s
  | s, a :: as => (step s a).bind fun t => exec step t as

@[simp] theorem exec_nil (step : S → A → Option S) (s : S) : exec step s [] = some s := rfl

@[simp] theorem exec_cons (step : S → A → Option S) (s : S) (a : A) (as : List A) :
    exec step s (a :: as) = (step s a).bind fun t => exec step t as := rfl

/-- The state after a list of actions that are all enabled. -/
def outcome (step : S → A → Option S) (s : S) (as : List A) : S := (exec step s as).getD s

theorem exec_outcome {step : S → A → Option S} {s : S} {as : List A}
    (h : (exec step s as).isSome = true) : exec step s as = some (outcome step s as) := by
  obtain ⟨t, ht⟩ := Option.isSome_iff_exists.mp h
  simp [outcome, ht]

theorem step_outcome {step : S → A → Option S} {s : S} {a : A} (h : (step s a).isSome = true) :
    step s a = some (outcome step s [a]) := by
  obtain ⟨t, ht⟩ := Option.isSome_iff_exists.mp h
  simp [outcome, ht]

/-- Execute a list of actions, checking a condition before every step. -/
def check (step : S → A → Option S) (ok : S → A → Bool) : S → List A → Bool
  | _, [] => true
  | s, a :: as => ok s a && match step s a with
    | none => false
    | some t => check step ok t as

namespace Runs

variable {step : S → A → Option S} {ok ok' : S → A → Prop}

theorem single {s t : S} {a : A} (h : step s a = some t) (hok : ok s a) :
    Runs step ok s [a] t := .cons h hok (.refl t)

theorem append {s t u : S} {as bs : List A} (h : Runs step ok s as t)
    (h' : Runs step ok t bs u) : Runs step ok s (as ++ bs) u := by
  induction h with
  | refl s => exact h'
  | cons hs hok _ ih => exact .cons hs hok (ih h')

theorem mono (himp : ∀ s a, ok s a → ok' s a) {s t : S} {as : List A}
    (h : Runs step ok s as t) : Runs step ok' s as t := by
  induction h with
  | refl s => exact .refl s
  | cons hs hok _ ih => exact .cons hs (himp _ _ hok) ih

/-- The invariant rule: what one step preserves, a whole run preserves. -/
theorem invariant {I : S → Prop} (hstep : ∀ s a t, I s → ok s a → step s a = some t → I t)
    {s t : S} {as : List A} (h : Runs step ok s as t) (hs : I s) : I t := by
  induction h with
  | refl s => exact hs
  | cons hstep' hok _ ih => exact ih (hstep _ _ _ hs hok hstep')

/-- Along a run that keeps an invariant, a condition may be replaced by one that the
invariant makes weaker. -/
theorem weaken {I : S → Prop} (hstep : ∀ s a t, I s → ok s a → step s a = some t → I t)
    (himp : ∀ s a, I s → ok s a → ok' s a) {s t : S} {as : List A}
    (h : Runs step ok s as t) (hs : I s) : Runs step ok' s as t := by
  induction h with
  | refl s => exact .refl s
  | cons hst hok _ ih => exact .cons hst (himp _ _ hs hok) (ih (hstep _ _ _ hs hok hst))

/-- A relation that every step respects from an invariant state, and that is
reflexive and transitive, holds between the two ends of a run. -/
theorem relation {I : S → Prop} {R : S → S → Prop} (hrefl : ∀ s, R s s)
    (htrans : ∀ {a b c}, R a b → R b c → R a c)
    (hstep : ∀ s a t, I s → ok s a → step s a = some t → I t ∧ R s t)
    {s t : S} {as : List A} (h : Runs step ok s as t) (hs : I s) : R s t := by
  induction h with
  | refl s => exact hrefl s
  | cons hstep' hok _ ih =>
    obtain ⟨hi, hr⟩ := hstep _ _ _ hs hok hstep'
    exact htrans hr (ih hi)

theorem exec_eq {s t : S} {as : List A} (h : Runs step ok s as t) :
    exec step s as = some t := by
  induction h with
  | refl s => rfl
  | cons hs _ _ ih => simpa [hs] using ih

theorem of_exec {s t : S} {as : List A} (h : exec step s as = some t) :
    Runs step Always s as t := by
  induction as generalizing s with
  | nil =>
    obtain rfl : s = t := by simpa using h
    exact .refl s
  | cons a as ih =>
    simp only [exec_cons] at h
    obtain ⟨u, hu, hrest⟩ := Option.bind_eq_some_iff.mp h
    exact .cons hu trivial (ih hrest)

/-- A list of actions that passes a check of the condition is a run. -/
theorem of_check {b : S → A → Bool} (hb : ∀ s a, b s a = true → ok s a) {s : S} {as : List A}
    (h : check step b s as = true) : Runs step ok s as (outcome step s as) := by
  induction as generalizing s with
  | nil => exact .refl s
  | cons a as ih =>
    simp only [check, Bool.and_eq_true] at h
    obtain ⟨hok, hrest⟩ := h
    cases hs : step s a with
    | none => simp [hs] at hrest
    | some t =>
      simp only [hs] at hrest
      have ht := ih hrest
      have hout : outcome step s (a :: as) = outcome step t as := by
        have hex := ht.exec_eq
        simp only [outcome, exec_cons, hs, Option.bind_some]
        rw [hex]
        rfl
      rw [hout]
      exact .cons hs (hb s a hok) ht

/-- Split a run at a point of its action list. -/
theorem split {s u : S} {as bs : List A} (h : Runs step ok s (as ++ bs) u) :
    ∃ t, Runs step ok s as t ∧ Runs step ok t bs u := by
  induction as generalizing s with
  | nil => exact ⟨s, .refl s, h⟩
  | cons a as ih =>
    cases h with
    | cons hs hok hrest =>
      obtain ⟨t, ht, hu⟩ := ih hrest
      exact ⟨t, .cons hs hok ht, hu⟩

end Runs

/-- Every state that the actions lead through, the first one included. -/
def Throughout (step : S → A → Option S) (P : S → Prop) (s : S) (as : List A) : Prop :=
  ∀ bs cs t, as = bs ++ cs → exec step s bs = some t → P t

theorem throughout_cons {step : S → A → Option S} {P : S → Prop} {s t : S} {a : A} {as : List A}
    (hs : step s a = some t) :
    Throughout step P s (a :: as) ↔ P s ∧ Throughout step P t as := by
  constructor
  · intro h
    refine ⟨h [] (a :: as) s rfl rfl, fun bs cs u heq hu => ?_⟩
    exact h (a :: bs) cs u (by rw [heq]; rfl) (by rw [exec_cons, hs]; exact hu)
  · rintro ⟨hP, h⟩ bs cs u heq hu
    cases bs with
    | nil =>
      obtain rfl := Option.some.inj hu
      exact hP
    | cons b bs =>
      obtain ⟨rfl, rfl⟩ := List.cons.inj heq
      rw [exec_cons, hs] at hu
      exact h bs cs u rfl hu

/-- When a condition on a step says exactly whether the step keeps a property, a run keeps the
property throughout exactly when all its steps meet the condition. -/
theorem Runs.throughout_iff {step : S → A → Option S} {ok : S → A → Prop} {I P : S → Prop}
    (hI : ∀ s a t, I s → step s a = some t → I t)
    (hexact : ∀ s a t, I s → P s → step s a = some t → (P t ↔ ok s a)) {s u : S} {as : List A}
    (h : Runs step Always s as u) (hs : I s) (hP : P s) :
    Throughout step P s as ↔ Runs step ok s as u := by
  induction h with
  | refl s =>
    refine iff_of_true (fun bs cs t heq ht => ?_) (.refl s)
    obtain ⟨rfl, rfl⟩ := List.append_eq_nil_iff.mp heq.symm
    obtain rfl := Option.some.inj ht
    exact hP
  | @cons s a t as u hst _ hrest ih =>
    rw [throughout_cons hst]
    constructor
    · rintro ⟨-, hrun⟩
      have ht : P t := hrun [] as t rfl rfl
      exact .cons hst ((hexact s a t hs hP hst).mp ht) ((ih (hI s a t hs hst) ht).mp hrun)
    · intro hrun
      cases hrun with
      | @cons _ _ t' _ _ hst' hok hrun' =>
        obtain rfl := Option.some.inj (hst.symm.trans hst')
        have ht := (hexact s a t hs hP hst).mpr hok
        exact ⟨hP, (ih (hI s a t hs hst) ht).mpr hrun'⟩

end TransitionRuns
end ResearchEngine
