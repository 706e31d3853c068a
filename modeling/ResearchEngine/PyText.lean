import Mathlib.Data.List.Infix
import Mathlib.Tactic.Common

/-! The parts of Python's `str` that the engine's text handling is written in.
The Unicode tables (which characters are spaces, digits, letters, and how case is
mapped) are a parameter; everything else is defined on top of them. -/
namespace ResearchEngine

/-- Python's character tables. -/
class PyText where
  /-- what `str.split()`, `str.strip()` and `\s` treat as white space -/
  isSpace : Char → Bool
  /-- what `\d` matches -/
  isDecimal : Char → Bool
  isDigit : Char → Bool
  isAlpha : Char → Bool
  isAlnum : Char → Bool
  lower : String → String
  upper : String → String

namespace PyText

/-- The tables restricted to ASCII, where Lean's own functions agree with Python. -/
@[reducible] def ascii : PyText where
  isSpace c := c = ' ' ∨ (9 ≤ c.toNat ∧ c.toNat ≤ 13) ∨ (28 ≤ c.toNat ∧ c.toNat ≤ 31)
  isDecimal := Char.isDigit
  isDigit := Char.isDigit
  isAlpha := Char.isAlpha
  isAlnum := Char.isAlphanum
  lower s := String.ofList (s.toList.map Char.toLower)
  upper s := String.ofList (s.toList.map Char.toUpper)

namespace Ascii

scoped instance instAscii : PyText := ascii

end Ascii

/-- `s.split(c)`. -/
def splitOn (c : Char) (s : String) : List String := (s.toList.splitOn c).map String.ofList

/-- `needle in s`. -/
def contains (s needle : String) : Bool := needle.toList <:+: s.toList

/-- `s.replace(c, "")`. -/
def without (c : Char) (s : String) : String := String.ofList (s.toList.filter (· ≠ c))

/-- `s.rstrip(c)`. -/
def rstripChar (c : Char) (s : String) : String :=
  String.ofList (s.toList.reverse.dropWhile (· = c)).reverse

section Tables

variable [PyText]

/-- `s.split()`. -/
def words (s : String) : List String :=
  ((s.toList.splitOnP isSpace).filter fun w => !w.isEmpty).map String.ofList

/-- `s.strip()`. -/
def strip (s : String) : String :=
  String.ofList ((s.toList.dropWhile isSpace).reverse.dropWhile isSpace).reverse

end Tables

/-- `PurePath(path).name`. -/
def pathName (path : String) : String :=
  (((splitOn '/' path).filter fun p => p ≠ "" ∧ p ≠ ".").getLast?).getD ""

/-- `PurePath(path).suffix`. -/
def pathSuffix (path : String) : String :=
  let rev := (pathName path).toList.reverse
  let ext := rev.takeWhile (· ≠ '.')
  let stem := (rev.dropWhile (· ≠ '.')).drop 1
  if ext.isEmpty ∨ stem.isEmpty then "" else String.ofList ('.' :: ext.reverse)

/-- Truth of a string value. -/
def nonempty (s : String) : Bool := s ≠ ""

/-- `a or b` on strings. -/
def orElse (a b : String) : String := if a = "" then b else a

end PyText
end ResearchEngine
