import ResearchEngine.EvidenceGrowth
import ResearchEngine.OneContext

/-! What becomes of a source that could not be reached: the exception is caught, the
adapter's fallback makes the step, and only the fallback's status travels on to the
document and to the job. -/
namespace ResearchEngine

namespace Fetching

open Context TransitionRuns JobMachine EvidenceUpload

section Step

variable [PyText] {A : Type} {eng : Engine A} {input : ResearchInput A} {order : OrderData}
  {docType : DocType} {adapter : SourceAdapter} {ctx : PropertyContext} {e : PyErr}

omit [PyText] in
/-- Without an answer of the fallback, a source that raised is a link. -/
theorem runOne_raised {d : ResidentialDoc} {step : StepResult} (h : (adapter.fetch ctx).1 = .error e)
    (hstep : (Steps.runOne d adapter ctx).1 = .ok step) (hlink : step.status ≠ .link) :
    ∃ fs, (adapter.fallback (adapter.fetch ctx).2).1 = .ok fs ∧ fs.status = step.status := by
  have hcase := Steps.runOne_cases d adapter ctx
  generalize Steps.runOne d adapter ctx = r at hcase hstep
  cases hcase with
  | fetched hf => rw [hf] at h; cases h
  | fallback hf hb =>
    obtain rfl := Except.ok.inj hstep
    rw [hf]
    exact ⟨_, congrArg Prod.fst hb, rfl⟩
  | escaped => cases hstep
  | lastResort =>
    obtain rfl := Except.ok.inj hstep
    exact absurd rfl hlink

variable [PyFloat]

end Step

/-! From the document to the job. -/

section Run

variable [PyText] [PyFloat] {A : Type} {eng : Engine A} {cfg : Settings}

omit [PyText] [PyFloat] in
theorem readRetry_failed {s : Store} {tenant actor job doc : Uuid} {j : Job} {row : Doc}
    (hj : s.getJob job tenant = some j) (hstatus : j.status.retryable = true)
    (hrow : s.docs.get doc = some row) (hown : row.jobId = job) (hlive : row.deletedAt = none)
    (hf : row.status = .failed) :
    ∃ req, readRetry s tenant actor job none = .checking req ∧ row.docType.name ∈ req.docTypes := by
  have hmem : row.docType.name ∈ (s.listFailed job).map fun d => d.2.docType.name := by
    refine List.mem_map.mpr ⟨(doc, row), (Table.mem_select_iff _ _ _ _).mpr ⟨hrow, ?_⟩, rfl⟩
    exact decide_eq_true ⟨hown, hf, hlive⟩
  have hne : ((s.listFailed job).map fun d => d.2.docType.name).isEmpty = false := by
    cases hl : (s.listFailed job).map fun d => d.2.docType.name with
    | nil => rw [hl] at hmem; cases hmem
    | cons => rfl
  simp only [readRetry, hj, hstatus, if_true, hne, Bool.false_eq_true, if_false]
  exact ⟨_, rfl, hmem⟩

variable {run : ℕ} {task : Task} {started : Time} {first listing : List Uuid} {o : OrderData}
  {inputs : List (ResearchInput A)} {σ τ : State World} {as : List (Action (ResearchInput A))}

/-- No fallback of the shipped adapters calls its step an error. -/
theorem shipped_fallback_status {dep : Deployment} {src : SourceAnswers} {key : StepKey}
    {adapter : SourceAdapter} {ctx : PropertyContext} {fs : FetchedSource}
    (h : Adapters.shipped dep src key = some adapter)
    (hb : (adapter.fallback ctx).1 = .ok fs) : fs.status ≠ .error := by
  cases key <;> obtain rfl := Option.some.inj h <;> obtain rfl := Except.ok.inj hb <;>
    exact StepStatus.noConfusion

end Run

section Concrete

open scoped PyText.Ascii PyFloat.Whole

def mainStreet : ResearchInput SourceAnswers := sampleInput "1 MAIN ST" "A-1"

end Concrete

end Fetching
end ResearchEngine
