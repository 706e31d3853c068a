import ResearchEngine.NumberedLabels

/-! Manatee names the file before it knows which lookup will find the deed: when the deed is labelled
right. -/
namespace ResearchEngine
namespace Clerk

open PyText

section Manatee

variable [PyText] {m : ManateeAnswers} {plat deed : Attrs} {s : Filing}

variable (m deed)

variable {m deed}

/-- There is no deed, or one that is filed under the reference that `deed_ref` names. -/
def Kept (s : Filing) : Prop :=
  Unfiled .manatee s ∨
    ∃ ref, FiledAs .manatee ref s ∧ s.result.deedRef = rollText .manatee ref

end Manatee

end Clerk
end ResearchEngine
