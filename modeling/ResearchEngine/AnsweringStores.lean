import Mathlib.Logic.Function.Basic
import Mathlib.Tactic.Common

/-! Stores that answer one call after the other, and when two of them cannot be told apart by
their answers. -/
namespace ResearchEngine
namespace Answering

variable {S T C A : Type}

/-- The answers to a list of calls, and the store that they leave. -/
def run (step : S → C → A × S) : S → List C → List A × S
  | s, [] => ([], s)
  | s, c :: cs =>
    let rest := run step (step s c).2 cs
    ((step s c).1 :: rest.1, rest.2)

/-- Related stores answer a call of a kind alike, and stay related. -/
structure Simulates (step : S → C → A × S) (step' : T → C → A × T) (kind : C → Prop)
    (R : S → T → Prop) : Prop where
  answers : ∀ {s t c}, R s t → kind c → (step s c).1 = (step' t c).1
  keeps : ∀ {s t c}, R s t → kind c → R (step s c).2 (step' t c).2

namespace Simulates

variable {step : S → C → A × S} {step' : T → C → A × T} {kind : C → Prop} {R : S → T → Prop}

theorem ofKind {kind' : C → Prop} (h : Simulates step step' kind R)
    (hkind : ∀ c, kind' c → kind c) : Simulates step step' kind' R where
  answers hst hc := h.answers hst (hkind _ hc)
  keeps hst hc := h.keeps hst (hkind _ hc)

theorem run_answers (h : Simulates step step' kind R) {s : S} {t : T} (hst : R s t) {cs : List C}
    (hcs : ∀ c ∈ cs, kind c) : (run step s cs).1 = (run step' t cs).1 := by
  induction cs generalizing s t with
  | nil => rfl
  | cons c cs ih =>
    have hc := hcs c List.mem_cons_self
    have hrest := ih (h.keeps hst hc) fun c' hc' => hcs c' (List.mem_cons_of_mem c hc')
    simp only [run, h.answers hst hc, hrest]

theorem run_keeps (h : Simulates step step' kind R) {s : S} {t : T} (hst : R s t) {cs : List C}
    (hcs : ∀ c ∈ cs, kind c) : R (run step s cs).2 (run step' t cs).2 := by
  induction cs generalizing s t with
  | nil => exact hst
  | cons c cs ih =>
    exact ih (h.keeps hst (hcs c List.mem_cons_self)) fun c' hc' =>
      hcs c' (List.mem_cons_of_mem c hc')

end Simulates

/-! Maps as stores: the model that a store of values under keys is measured by. -/

section Maps

variable {K N V : Type} [DecidableEq K]

/-- What is asked of a store of values under keys; `copyIn` takes the value from a source, which may
be missing. -/
inductive Call (K N V : Type)
  | put (key : K) (v : V)
  | copyIn (key : K) (source : N) (v : Option V)
  | get (key : K)
  | probe (key : K)
  | delete (key : K)

def Call.key : Call K N V → K
  | put key _ | copyIn key _ _ | get key | probe key | delete key => key

/-- The source that a call copies from. -/
def Call.source? : Call K N V → Option N
  | copyIn _ source _ => some source
  | _ => none

inductive Answer (V : Type)
  | size (n : ℕ)
  | value (v : V)
  | found (b : Bool)
  | done
  | raised
  deriving DecidableEq

/-- A map answers a call. -/
def mapStep (size : V → ℕ) (m : K → Option V) : Call K N V → Answer V × (K → Option V)
  | .put key v | .copyIn key _ (some v) => (.size (size v), Function.update m key (some v))
  | .copyIn _ _ none => (.raised, m)
  | .get key =>
    match m key with
    | some v => (.value v, m)
    | none => (.raised, m)
  | .probe key => (.found (m key).isSome, m)
  | .delete key => (.done, Function.update m key none)

section Laws

variable {size : V → ℕ} {m : K → Option V}

/-- What is read is what the map holds, and reading changes nothing. -/
theorem mapStep_get {key : K} :
    mapStep size m (.get key : Call K N V) = ((m key).elim .raised .value, m) := by
  simp only [mapStep]
  cases m key <;> rfl

/-- A call leaves the other keys alone. -/
theorem mapStep_other {c : Call K N V} {k : K} (h : k ≠ c.key) : (mapStep size m c).2 k = m k := by
  cases c with
  | put key v => exact Function.update_of_ne h _ _
  | copyIn key source v =>
    cases v with
    | none => rfl
    | some v => exact Function.update_of_ne h _ _
  | get key => rw [mapStep_get]
  | probe key => rfl
  | delete key => exact Function.update_of_ne h _ _

/-- A store obeys the laws of a map, for the calls of a kind. -/
structure MapLaws (step : S → Call K N V → Answer V × S) (kind : Call K N V → Prop) (s : S) : Prop where
  get_put : ∀ key v, kind (.put key v) → kind (.get key) →
    (step (step s (.put key v)).2 (.get key)).1 = .value v
  delete_twice : ∀ key c, kind (.delete key) → kind c →
    (step (step (step s (.delete key)).2 (.delete key)).2 c).1 = (step (step s (.delete key)).2 c).1
  other : ∀ key (c : Call K N V), kind (.get key) → kind c → key ≠ c.key →
    (step (step s c).2 (.get key)).1 = (step s (.get key)).1

/-- A store that cannot be told from a map obeys its laws. -/
theorem Simulates.mapLaws {step : S → Call K N V → Answer V × S} {kind : Call K N V → Prop}
    {R : S → (K → Option V) → Prop}
    (h : Simulates step (mapStep size) kind R) {s : S} (hs : R s m) : MapLaws step kind s where
  get_put key v hput hget := by
    have hafter := h.keeps hs hput
    rw [h.answers hafter hget, mapStep_get]
    simp [mapStep]
  delete_twice key c hdelete hc := by
    have honce := h.keeps hs hdelete
    have htwice := h.keeps honce hdelete
    rw [h.answers htwice hc, h.answers honce hc]
    simp only [mapStep, Function.update_idem]
  other key c hget hc hne := by
    rw [h.answers (h.keeps hs hc) hget, h.answers hs hget, mapStep_get, mapStep_get, mapStep_other hne]

end Laws

end Maps

end Answering
end ResearchEngine
