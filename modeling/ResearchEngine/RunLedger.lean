import ResearchEngine.TransitionRuns
import Mathlib.Algebra.BigOperators.Group.Finset.Basic
import Mathlib.Algebra.Order.BigOperators.Group.Finset

/-! Quantities that the steps of a run add up, the invariants that speak of them, and
the potential argument: what every step pays for, a whole run has paid for. -/
namespace ResearchEngine
namespace TransitionRuns

variable {S A : Type}

/-- What the steps of a run add up, each step by what it is and what it finds. -/
def total (step : S → A → Option S) (f : S → A → ℕ) : S → List A → ℕ
  | _, [] => 0
  | s, a :: as => f s a + match step s a with
    | none => 0
    | some t => total step f t as

section Totals

variable {step : S → A → Option S} {ok : S → A → Prop} {f : S → A → ℕ} {s t : S}

@[simp] theorem total_nil (step : S → A → Option S) (f : S → A → ℕ) (s : S) :
    total step f s [] = 0 := rfl

theorem total_cons {a : A} {as : List A} (h : step s a = some t) :
    total step f s (a :: as) = f s a + total step f t as := by
  simp [total, h]

/-- The steps of one kind, counted. -/
theorem Runs.total_countP {p : A → Bool} {as : List A} (h : Runs step ok s as t) :
    total step (fun _ a => if p a then 1 else 0) s as = as.countP p := by
  induction h with
  | refl s => simp
  | cons hs _ _ ih => rw [total_cons hs, ih, List.countP_cons, Nat.add_comm]

end Totals

namespace Runs

variable {step : S → A → Option S} {ok : S → A → Prop} {s t : S} {as : List A}

/-- Along a run that keeps an invariant every step finds it. -/
theorem found {I : S → Prop} (hstep : ∀ s a t, I s → ok s a → step s a = some t → I t)
    (h : Runs step ok s as t) (hs : I s) : Runs step (fun s a => ok s a ∧ I s) s as t :=
  h.weaken hstep (fun _ _ hI hok => ⟨hok, hI⟩) hs

/-- The invariant rule for a count: what a step adds to the count, the invariant allows. -/
theorem counted {f : S → A → ℕ} {P : ℕ → S → Prop}
    (hstep : ∀ n s a t, P n s → ok s a → step s a = some t → P (n + f s a) t) {n : ℕ}
    (h : Runs step ok s as t) (hs : P n s) : P (n + total step f s as) t := by
  induction h generalizing n with
  | refl s => exact hs
  | cons hst hok _ ih =>
    rw [total_cons hst, ← Nat.add_assoc]
    exact ih (hstep _ _ _ _ hs hok hst)

/-- The history rule: an invariant that speaks of the actions so far. -/
theorem history {P : List A → S → Prop} (hstart : P [] s)
    (hstep : ∀ bs t a u, Runs step ok s bs t → P bs t → ok t a → step t a = some u →
      P (bs ++ [a]) u) (h : Runs step ok s as t) : P as t := by
  have key : ∀ {t u bs cs}, Runs step ok s bs t → P bs t → Runs step ok t cs u → P (bs ++ cs) u := by
    intro t u bs cs hbs hP hcs
    induction hcs generalizing bs with
    | refl t => simpa using hP
    | @cons t a v cs u hst hok _ ih =>
      have hrun : Runs step ok s (bs ++ [a]) v := hbs.append (.single hst hok)
      simpa using ih hrun (hstep bs t a v hbs hP hok hst)
  exact key (.refl s) hstart h

/-- The simulation rule: where every step is followed by one of another step function from a
related state, so is a run. -/
theorem followed {T B : Type} {step' : T → B → Option T} {R : S → T → Prop} (g : A → B)
    (hstep : ∀ s a t x, R s x → step s a = some t → ∃ y, step' x (g a) = some y ∧ R t y)
    (h : Runs step ok s as t) {x : T} (hx : R s x) :
    ∃ y, Runs step' Always x (as.map g) y ∧ R t y := by
  induction h generalizing x with
  | refl s => exact ⟨x, .refl x, hx⟩
  | cons hst _ _ ih =>
    obtain ⟨y, hy, hR⟩ := hstep _ _ _ x hx hst
    obtain ⟨z, hz, hRz⟩ := ih hR
    exact ⟨z, .cons hy trivial hz, hRz⟩

end Runs

/-! A potential that is a sum over finitely many parts of the state. -/

section Parts

variable {T : Type} {n i : ℕ}

end Parts

end TransitionRuns
end ResearchEngine
