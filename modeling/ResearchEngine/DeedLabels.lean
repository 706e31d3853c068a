import ResearchEngine.PortalFetch

/-! The labels of fetched documents: when a deed's file name and `deed_ref` both name the reference
that its bytes were found under. -/
namespace ResearchEngine
namespace Clerk

open PyText

section Names

end Names

section Files

end Files

section Labels

variable [PyText]

/-- There is no deed, and no file of one. -/
def Unfiled (portal : Portal) (s : Filing) : Prop :=
  s.result.deed = none ∧ ∀ ref, s.file (deedName portal ref) = none

/-- There is a deed that was found under a reference. -/
def FiledAs (portal : Portal) (ref : Reference) (s : Filing) : Prop :=
  s.result.deed = some (deedName portal ref) ∧
    ∃ bytes, s.file (deedName portal ref) = some ⟨ref, bytes⟩

variable {portal : Portal} {ref : Reference} {s s' : Filing}

end Labels

/-! What the parts of a driver leave as it is. -/

section Steps

/-- Two states of the result and the folder agree on the deed. -/
structure SameDeed (s s' : Filing) : Prop where
  deed : s'.result.deed = s.result.deed
  said : s'.result.deedRef = s.result.deedRef
  files : ∀ portal ref, s'.file (deedName portal ref) = s.file (deedName portal ref)

/-- A step leaves the deed alone. -/
def KeepsDeed (step : Step) : Prop := ∀ s, SameDeed s (step s).2

theorem SameDeed.refl (s : Filing) : SameDeed s s := ⟨rfl, rfl, fun _ _ => rfl⟩

theorem seq_snd (first rest : Step) (s : Filing) :
    (seq first rest s).2 = (first s).2 ∨ (seq first rest s).2 = (rest (first s).2).2 := by
  unfold seq
  cases first s with
  | mk r s' =>
    cases r with
    | error e => exact .inl rfl
    | ok u => exact .inr rfl

/-- What comes after the deed leaves it as it was filed. -/
theorem KeepsDeed.after {rest : Step} (h : KeepsDeed rest) (first : Step) (s : Filing) :
    SameDeed (first s).2 (seq first rest s).2 := by
  obtain heq | heq := seq_snd first rest s
  · rw [heq]
    exact .refl _
  · rw [heq]
    exact h _

variable {portal : Portal} {ref : Reference} {s s' : Filing}

end Steps

/-! The retry. -/

section Retry

variable [PyText] {α : Type} {run : α → Step} {first second : α} {portal : Portal} {s : Filing}

end Retry

end Clerk
end ResearchEngine
