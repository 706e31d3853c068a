import ResearchEngine.PyText
import ResearchEngine.Vocabulary

/-! What the external services answer: JSON scalars, attribute dictionaries, and
the exceptions a call can end with. -/
namespace ResearchEngine

/-- A JSON value as Python sees it: its `str`, its truth and whether it equals 0.
Floats are kept as their text. -/
inductive Value
  | null
  | bool (b : Bool)
  | int (n : ℤ)
  | float (text : String) (zero : Bool)
  | str (s : String)
  /-- A list or an object. -/
  | nested (text : String) (empty : Bool)
  deriving DecidableEq, Repr, Inhabited

namespace Value

/-- `str(v)`. -/
def text : Value → String
  | null => "None"
  | bool true => "True"
  | bool false => "False"
  | int n => toString n
  | float text _ => text
  | str s => s
  | nested text _ => text

/-- `v == 0`; `False` is `0` too. -/
def isZero : Value → Bool
  | bool b => !b
  | int n => n = 0
  | float _ zero => zero
  | _ => false

/-- `bool(v)`. -/
def truthy : Value → Bool
  | null => false
  | bool b => b
  | int n => n ≠ 0
  | float _ zero => !zero
  | str s => s ≠ ""
  | nested _ empty => !empty

/-- `v in (None, "", " ")`. -/
def isEmpty (v : Value) : Bool := v = null ∨ v = str "" ∨ v = str " "

/-- `v in (None, "", 0)`. -/
def isAbsent (v : Value) : Bool := v = null ∨ v = str "" ∨ v.isZero

/-- `v in (None, "", " ", 0, "0")`. -/
def isBlankOrZero (v : Value) : Bool := v.isEmpty ∨ v.isZero ∨ v = str "0"

end Value

/-- A dictionary, in insertion order. -/
abbrev Attrs := List (String × Value)

namespace Attrs

/-- `attrs.get(key)`; a missing key is `None`. -/
def get (attrs : Attrs) (key : String) : Value :=
  ((attrs.find? fun p => p.1 = key).map Prod.snd).getD .null

def hasKey (attrs : Attrs) (key : String) : Bool := attrs.any fun p => p.1 = key

/-- `attrs[key] = v`. -/
def set (attrs : Attrs) (key : String) (v : Value) : Attrs :=
  if attrs.hasKey key then attrs.map fun p => if p.1 = key then (key, v) else p
  else attrs ++ [(key, v)]

/-- `attrs.setdefault(key, v)`. -/
def setDefault (attrs : Attrs) (key : String) (v : Value) : Attrs :=
  if attrs.hasKey key then attrs else attrs ++ [(key, v)]

end Attrs

/-- The exceptions that the engine tells apart. -/
inductive PyErr
  /-- `SourceError` -/
  | source (outcome : SourceOutcome) (code message : String) (retryable : Bool)
  /-- `requests.exceptions.HTTPError` -/
  | http (status : Option ℕ) (text : String)
  /-- `requests.exceptions.Timeout` or `ConnectionError` -/
  | network (text : String)
  | other (text : String)
  deriving DecidableEq, Repr

def SourceOutcome.value : SourceOutcome → String
  | .auto => "auto"
  | .linkOnly => "link_only"
  | .blocked => "blocked"
  | .broken => "broken"
  | .retryable => "retryable"
  | .manualReview => "manual_review"

/-- `str(e)`. -/
def PyErr.text : PyErr → String
  | .source outcome code message _ => PyText.orElse message (PyText.orElse code outcome.value)
  | .http _ text | .network text | .other text => text

/-- The float arithmetic the engine does on JSON values. -/
class PyFloat where
  /-- `float(v)`; `none` when it raises. -/
  ofValue : Value → Option Value
  /-- `round(sqft / 43560.0, 3)` -/
  acresOf : Value → Except PyErr Value
  /-- `round(acres * 43560.0)` -/
  sqftOf : Value → Except PyErr Value
  /-- `f"{int(v):,}"` -/
  grouped : Value → Except PyErr String

/-- Floats that are whole numbers, enough to run the model on them. -/
@[reducible] def PyFloat.whole : PyFloat where
  ofValue
    | .int n => some (.float (toString n ++ ".0") (n = 0))
    | .float text zero => some (.float text zero)
    | _ => none
  acresOf _ := .error (.other "not a whole number")
  sqftOf _ := .error (.other "not a whole number")
  grouped v := .ok v.text

namespace PyFloat.Whole

scoped instance instWhole : PyFloat := whole

end PyFloat.Whole

/-- A computation that succeeds got through every one of its parts. -/
theorem bind_eq_ok {ε α β : Type} {x : Except ε α} {f : α → Except ε β} {b : β} :
    (x >>= f) = .ok b ↔ ∃ a, x = .ok a ∧ f a = .ok b := by
  cases x with
  | error e =>
    refine iff_of_false (fun h => ?_) ?_
    · cases h
    · rintro ⟨a, h, -⟩
      cases h
  | ok a =>
    constructor
    · exact fun h => ⟨a, rfl, h⟩
    · rintro ⟨a', h, h'⟩
      obtain rfl := Except.ok.inj h
      exact h'

theorem bind_eq_error {ε α β : Type} {x : Except ε α} {f : α → Except ε β} {e : ε} :
    (x >>= f) = .error e ↔ x = .error e ∨ ∃ a, x = .ok a ∧ f a = .error e := by
  cases x with
  | error e' =>
    constructor
    · intro h
      obtain rfl := Except.error.inj h
      exact .inl rfl
    · rintro (h | ⟨a, h, -⟩)
      · obtain rfl := Except.error.inj h
        rfl
      · cases h
  | ok a =>
    constructor
    · exact fun h => .inr ⟨a, rfl, h⟩
    · rintro (h | ⟨a', h, h'⟩)
      · cases h
      · obtain rfl := Except.ok.inj h
        exact h'

theorem map_eq_ok {ε α β : Type} {x : Except ε α} {f : α → β} {b : β} :
    x.map f = .ok b ↔ ∃ a, x = .ok a ∧ f a = b := by
  cases x with
  | error e =>
    refine iff_of_false (fun h => ?_) ?_
    · cases h
    · rintro ⟨a, h, -⟩
      cases h
  | ok a =>
    constructor
    · exact fun h => ⟨a, rfl, Except.ok.inj h⟩
    · rintro ⟨a', h, rfl⟩
      obtain rfl := Except.ok.inj h
      rfl

end ResearchEngine
