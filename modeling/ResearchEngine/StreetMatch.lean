import ResearchEngine.AddressMatch

/-! Addresses by their parts (street names, directionals, suffixes and unit parts), and when
`_addr_match` tells two streets apart. -/
namespace ResearchEngine
namespace Situs

open PyText

/-- Words with a blank between them. -/
def spaced (ws : List String) : List Char := [' '].intercalate (ws.map String.toList)

section Words

variable [PyText]

/-- A word of an address: not empty, without white space and without a comma. -/
def Plain (w : String) : Prop := w.toList ≠ [] ∧ ∀ c ∈ w.toList, isSpace c = false ∧ c ≠ ','

instance (w : String) : Decidable (Plain w) :=
  decidable_of_iff (w.toList ≠ [] ∧ w.toList.all (fun c => !isSpace c && c ≠ ',') = true)
    (by simp [Plain])

variable {ws : List String}

/-- The first character of a plain word is no white space. -/
theorem Plain.head {w : String} (h : Plain w) : ∃ c cs, w.toList = c :: cs ∧ isSpace c = false := by
  obtain ⟨c, cs, hw⟩ := List.exists_cons_of_ne_nil h.1
  exact ⟨c, cs, hw, (h.2 c (hw ▸ List.mem_cons_self)).1⟩

theorem Plain.last {w : String} (h : Plain w) : ∃ cs c, w.toList = cs ++ [c] ∧ isSpace c = false := by
  obtain ⟨cs, c, hw⟩ := List.eq_nil_or_concat w.toList |>.resolve_left h.1
  rw [List.concat_eq_append] at hw
  exact ⟨cs, c, hw, (h.2 c (by rw [hw]; simp)).1⟩

end Words

/-! The parts of a street address after its house number. -/

inductive Part
  | name (w : String)
  | directional (w : String)
  | suffix (w : String)
  | unit (designator : String) (values : List String)
  deriving DecidableEq, Repr

namespace Part

def words : Part → List String
  | .name w | .directional w | .suffix w => [w]
  | .unit designator values => designator :: values

/-- The words of a name, and those of a unit part, as they are compared. -/
def nameWords : Part → List String
  | .name w => [cleanToken w]
  | _ => []

def unitWords : Part → List String
  | .unit designator values => ((designator :: values).map cleanToken).filter
      fun t => t ≠ "" ∧ t ∉ suffixes ∧ t ∉ directionals
  | _ => []

/-- Each part is what it is called, and no name is a directional, a suffix or a designator. -/
def Fits [PyText] (designators : List String) : Part → Prop
  | .name w => Plain w ∧ cleanToken w ≠ "" ∧ cleanToken w ∉ suffixes ∧ cleanToken w ∉ directionals ∧
      cleanToken w ∉ designators
  | .directional w => Plain w ∧ cleanToken w ∈ directionals
  | .suffix w => Plain w ∧ cleanToken w ∈ suffixes
  | .unit designator values => Plain designator ∧ cleanToken designator ∈ designators ∧
      ∀ v ∈ values, Plain v

instance [PyText] (designators : List String) : DecidablePred (Fits designators)
  | .name w => inferInstanceAs (Decidable (Plain w ∧ cleanToken w ≠ "" ∧ cleanToken w ∉ suffixes ∧
      cleanToken w ∉ directionals ∧ cleanToken w ∉ designators))
  | .directional w => inferInstanceAs (Decidable (Plain w ∧ cleanToken w ∈ directionals))
  | .suffix w => inferInstanceAs (Decidable (Plain w ∧ cleanToken w ∈ suffixes))
  | .unit designator values => inferInstanceAs (Decidable (Plain designator ∧
      cleanToken designator ∈ designators ∧ ∀ v ∈ values, Plain v))

theorem Fits.plain [PyText] {designators : List String} {p : Part} (h : p.Fits designators) :
    ∀ w ∈ p.words, Plain w := by
  intro w hw
  cases p with
  | unit designator values =>
    obtain rfl | hv := List.mem_cons.mp hw
    · exact h.1
    · exact h.2.2 w hv
  | _ =>
    obtain rfl := List.mem_singleton.mp hw
    exact h.1

/-- The words of a part that `_street_tokens` keeps. -/
theorem Fits.kept [PyText] {designators : List String} {p : Part} (h : p.Fits designators) :
    (p.words.map cleanToken).filter (fun t => t ≠ "" ∧ t ∉ suffixes ∧ t ∉ directionals) =
      p.nameWords ++ p.unitWords := by
  cases p with
  | name w =>
    obtain ⟨-, hne, hsuffix, hdir, -⟩ := h
    simp [words, nameWords, unitWords, hne, hsuffix, hdir]
  | directional w => simp [words, nameWords, unitWords, h.2]
  | suffix w => simp [words, nameWords, unitWords, h.2]
  | unit designator values => simp [words, nameWords, unitWords]

end Part

/-- An address after its house number: at least one name among its parts, and whatever
follows the first comma. -/
structure StreetAddress [PyText] (designators : List String) where
  parts : List Part
  rest : Option String := none
  fits : ∀ p ∈ parts, p.Fits designators
  named : ∃ w, .name w ∈ parts

namespace StreetAddress

variable [PyText] {designators : List String}

/-- The address as it is written behind a house number. -/
def text (h : String) (a : StreetAddress designators) : String :=
  String.ofList (spaced (h :: a.parts.flatMap Part.words) ++
    (a.rest.elim [] fun r => ',' :: r.toList))

/-- The words of the street name, as they are compared. -/
def names (a : StreetAddress designators) : List String := a.parts.flatMap Part.nameWords

end StreetAddress

section Tokens

variable [PyText] {designators : List String}

namespace StreetAddress

variable {h : String} (a : StreetAddress designators)

end StreetAddress

end Tokens

section Concrete

open scoped PyText.Ascii

end Concrete

end Situs
end ResearchEngine
