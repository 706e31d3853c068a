import Mathlib.Data.Set.Basic

/-! Programs that read and write a state and may raise: what they have written when they raise stays
written. Rules for what holds when such a program returns and what holds when it raises. -/
namespace ResearchEngine

/-- A program over a state, with its exceptions. -/
def Program (S E A : Type) : Type := S → Except E A × S

namespace Program

variable {S E A B : Type}

def run (p : Program S E A) (s : S) : Except E A × S := p s

/-- Leave the state alone and return. -/
def done (a : A) : Program S E A := fun s => (.ok a, s)

def raise (e : E) : Program S E A := fun s => (.error e, s)

/-- Go on with what the first program returned. -/
def andThen (p : Program S E A) (f : A → Program S E B) : Program S E B := fun s =>
  match p s with
  | (.ok a, s) => f a s
  | (.error e, s) => (.error e, s)

/-- `try` with one handler for whatever is raised. -/
def attempt (p : Program S E A) (handler : E → Program S E A) : Program S E A := fun s =>
  match p s with
  | (.ok a, s) => (.ok a, s)
  | (.error e, s) => handler e s

/-- Read the state. -/
def inspect (f : S → A) : Program S E A := fun s => (.ok (f s), s)

/-- Write the state. -/
def update (f : S → S) : Program S E Unit := fun s => (.ok (), f s)

/-- Return or raise what was computed elsewhere. -/
def ofExcept : Except E A → Program S E A
  | .ok a => done a
  | .error e => raise e

instance : Monad (Program S E) where
  pure := done
  bind := andThen

/-- What has to hold of a result and the state it comes with. -/
def Outcome (returns : A → S → Prop) (raises : E → S → Prop) : Except E A × S → Prop
  | (.ok a, s) => returns a s
  | (.error e, s) => raises e s

/-- Started in a state of `pre`, the program returns as `returns` or raises as `raises`. -/
def Ensures (pre : S → Prop) (p : Program S E A) (returns : A → S → Prop)
    (raises : E → S → Prop) : Prop :=
  ∀ s, pre s → Outcome returns raises (p.run s)

section Rules

variable {pre pre' : S → Prop} {p : Program S E A} {returns returns' : A → S → Prop}
  {raises raises' : E → S → Prop}

theorem Ensures.weaken (h : Ensures pre p returns raises) (hpre : ∀ s, pre' s → pre s)
    (hreturns : ∀ a s, returns a s → returns' a s) (hraises : ∀ e s, raises e s → raises' e s) :
    Ensures pre' p returns' raises' := by
  intro s hs
  have hrun := h s (hpre s hs)
  revert hrun
  rcases p.run s with ⟨result, t⟩
  cases result with
  | ok a => exact hreturns a t
  | error e => exact hraises e t

theorem Ensures.imp_returns (h : Ensures pre p returns raises)
    (hreturns : ∀ a s, returns a s → returns' a s) : Ensures pre p returns' raises :=
  h.weaken (fun _ hs => hs) hreturns fun _ _ hs => hs

theorem Ensures.imp_raises (h : Ensures pre p returns raises)
    (hraises : ∀ e s, raises e s → raises' e s) : Ensures pre p returns raises' :=
  h.weaken (fun _ hs => hs) (fun _ _ hs => hs) hraises

/-- Two facts about one program. -/
theorem Ensures.and (h : Ensures pre p returns raises) (h' : Ensures pre' p returns' raises') :
    Ensures (fun s => pre s ∧ pre' s) p (fun a s => returns a s ∧ returns' a s)
      (fun e s => raises e s ∧ raises' e s) := by
  intro s hs
  have hrun := h s hs.1
  have hrun' := h' s hs.2
  revert hrun hrun'
  rcases p.run s with ⟨result, t⟩
  cases result with
  | ok a => exact fun hrun hrun' => ⟨hrun, hrun'⟩
  | error e => exact fun hrun hrun' => ⟨hrun, hrun'⟩

/-- A fact that does not depend on the state is assumed once. -/
theorem Ensures.given {P : Prop} (h : P → Ensures pre p returns raises) :
    Ensures (fun s => pre s ∧ P) p returns raises := fun s hs => h hs.2 s hs.1

theorem ensures_pure {a : A} (h : ∀ s, pre s → returns a s) :
    Ensures pre (pure a : Program S E A) returns raises := h

theorem ensures_raise {e : E} (h : ∀ s, pre s → raises e s) :
    Ensures pre (raise e : Program S E A) returns raises := h

theorem ensures_inspect {f : S → A} (h : ∀ s, pre s → returns (f s) s) :
    Ensures pre (inspect f : Program S E A) returns raises := h

theorem ensures_update {f : S → S} {after : Unit → S → Prop} (h : ∀ s, pre s → after () (f s)) :
    Ensures pre (update f : Program S E Unit) after raises := h

theorem ensures_ofExcept {x : Except E A} (hok : ∀ a, x = .ok a → ∀ s, pre s → returns a s)
    (herror : ∀ e, x = .error e → ∀ s, pre s → raises e s) :
    Ensures pre (ofExcept x) returns raises := by
  cases x with
  | ok a => exact hok a rfl
  | error e => exact herror e rfl

/-- Sequencing: what the first program returns with is what the second starts from. -/
theorem Ensures.bind {f : A → Program S E B} {Q : A → S → Prop} {after : B → S → Prop}
    (hp : Ensures pre p Q raises) (hf : ∀ a, Ensures (Q a) (f a) after raises) :
    Ensures pre (p >>= f) after raises := by
  intro s hs
  have hrun := hp s hs
  show Outcome after raises (andThen p f s)
  unfold andThen
  revert hrun
  unfold run
  rcases p s with ⟨result, t⟩
  cases result with
  | ok a => exact hf a t
  | error e => exact fun h => h

/-- Two programs that go on alike after the same beginning. -/
theorem Ensures.bind_congr {f g : A → Program S E B} (hp : Ensures pre p returns raises)
    (h : ∀ a s, returns a s → (f a).run s = (g a).run s) :
    ∀ s, pre s → (p >>= f).run s = (p >>= g).run s := by
  intro s hs
  have hrun := hp s hs
  show andThen p f s = andThen p g s
  unfold andThen
  revert hrun
  unfold run
  rcases p s with ⟨result, t⟩
  cases result with
  | ok a => exact h a t
  | error e => exact fun _ => rfl

/-- A handler starts from the state in which the program raised. -/
theorem Ensures.attempt {handler : E → Program S E A} {R : E → S → Prop}
    (hp : Ensures pre p returns R) (hh : ∀ e, Ensures (R e) (handler e) returns raises) :
    Ensures pre (attempt p handler) returns raises := by
  intro s hs
  have hrun := hp s hs
  show Outcome returns raises (Program.attempt p handler s)
  unfold Program.attempt
  revert hrun
  unfold run
  rcases p s with ⟨result, t⟩
  cases result with
  | ok a => exact fun h => h
  | error e => exact hh e t

theorem ensures_ite {c : Prop} [Decidable c] {q : Program S E A}
    (hp : c → Ensures pre p returns raises) (hq : ¬ c → Ensures pre q returns raises) :
    Ensures pre (if c then p else q) returns raises := by
  split
  · exact hp ‹_›
  · exact hq ‹_›

end Rules

end Program
end ResearchEngine
