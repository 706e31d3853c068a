import ResearchEngine.DeedLabels

/-! The portals that look up an instrument number first and the book and page after it: when a deed
of Tyler or Volusia is labelled right. -/
namespace ResearchEngine
namespace Clerk

section Numbered

variable [PyText] (portal : Portal) (plat deed : Attrs) (a : Attempt) {ref : Reference} {s : Filing}

/-- The attempt gets to the search form. -/
def Reaches : Prop := a.launch = .ok () ∧ (portal ≠ .tyler → a.opens = .ok ())

variable {portal plat deed a}

variable (portal deed a)

/-- The state once the instrument number is announced. -/
def announced (s : Filing) : Filing := (say (rollText portal (.instrument (docNumber deed))) s).2

variable {portal deed a}

variable (portal plat deed)

variable {portal plat deed}

end Numbered

end Clerk
end ResearchEngine
