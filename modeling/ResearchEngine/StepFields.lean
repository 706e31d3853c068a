import ResearchEngine.UploadedEvidence
import ResearchEngine.JobSchema

/-! The way of a step's fields from the pipeline through the worker's commit to the API:
the texts, the warnings and the provenance arrive, the source outcome and the confidence
are never written. -/
namespace ResearchEngine

open EvidenceUpload

/-- The API document carries what the step says. -/
structure DocumentSchema.Carries (d : DocumentSchema) (step : StepResult) : Prop where
  summary : d.summary = step.summary
  link : d.link = step.link
  linkLabel : d.linkLabel = step.linkLabel
  warnings : d.warnings = step.warnings
  provenance : d.provenance = step.provenance
  sourceOutcome : d.sourceOutcome = some step.sourceOutcome
  confidence : d.confidence = some step.confidence

/-- A fetched document says of a source what its step says. -/
structure FetchedDocument.Tells (f : FetchedDocument) (step : StepResult) : Prop where
  summary : f.summary = step.summary
  link : f.link = step.link
  linkLabel : f.linkLabel = step.linkLabel
  warnings : f.warnings = step.warnings
  provenance : f.provenance = step.provenance

namespace Fetching

theorem documentOf_tells (docType : DocType) (step : StepResult) :
    (documentOf docType step).Tells step := by
  unfold documentOf
  split <;> exact ⟨rfl, rfl, rfl, rfl, rfl⟩

variable [PyText] {A : Type} (eng : Engine A) (input : ResearchInput A) (order : OrderData)

/-- An upload, whether it works or not, changes nothing of that. -/
theorem settleStep_tells (tenantId : Option Uuid) (docType : DocType) (step : StepResult)
    (ev : Evidence) : (settleStep eng input order tenantId docType step ev).1.Tells step := by
  have htells := documentOf_tells docType step
  have hcase := uploadArtifact_cases eng.sha256 (uploadOf input order tenantId docType step)
    (documentOf docType step) ev
  unfold settleStep
  dsimp only
  split
  · generalize uploadArtifact _ _ _ _ = uploaded at hcase ⊢
    cases hcase with
    | absent h => exact htells
    | failed hg =>
      exact ⟨htells.summary, htells.link, htells.linkLabel, htells.warnings, htells.provenance⟩
    | stored hg hfile horder hblob =>
      exact ⟨htells.summary, htells.link, htells.linkLabel, htells.warnings, htells.provenance⟩
  · exact htells

variable [PyFloat]

/-- The step that the pipeline returns in one fetcher call. -/
def ReturnedStep (call : FetchCall) (step : StepResult) : Prop :=
  ∃ order ctx, call.order = some order ∧ resolveOrder eng input order [call.docType] = .ok ctx ∧
    stepOn eng input call.docType ctx = .ok step

theorem documentFetcher_tells {call : FetchCall} {step : StepResult}
    (h : ReturnedStep eng input call step) (w : World) :
    ∃ f, (documentFetcher eng input call w).1 = .ok f ∧ f.Tells step := by
  obtain ⟨order, ctx, horder, hctx, hstep⟩ := h
  obtain ⟨order', docType, tenantId⟩ := call
  obtain rfl : order' = some order := horder
  rw [documentFetcher_call]
  simp only [outcomeOn, hctx, Except.bind, hstep]
  exact ⟨_, rfl, settleStep_tells eng input order (some tenantId) docType step w.evidence⟩

end Fetching

/-- The row has no source outcome and no confidence. -/
def Doc.Unrated (row : Doc) : Prop := row.sourceOutcome = none ∧ row.confidence = none

section Rows

variable {row : Doc}

theorem Run.skipRow_unrated (skipped : List Uuid) (d : Uuid) (h : row.Unrated) :
    (Run.skipRow skipped d row).Unrated := by
  unfold Run.skipRow
  split <;> exact h

theorem Run.fetchingRow_unrated (doc d : Uuid) (h : row.Unrated) :
    (Run.fetchingRow doc d row).Unrated := by
  unfold Run.fetchingRow
  split <;> exact h

theorem Doc.applyOutcome_unrated (outcome : FetchOutcome) (retries : ℕ) (stamps : Stamps)
    (h : row.Unrated) : (row.applyOutcome outcome retries stamps).Unrated := by
  cases outcome with
  | error message => exact h
  | ok f =>
    unfold Doc.applyOutcome Doc.applyFetched
    dsimp only
    split
    · exact h
    · split <;> exact h

/-- No write of a run rates a row. -/
theorem Run.docWrite_unrated {I : Type} (r : Run) (now : Time) (act : WorkerAct I) (d : Uuid)
    (h : row.Unrated) : (r.docWrite now act d row).Unrated := by
  unfold Run.docWrite
  split
  · exact Run.skipRow_unrated _ d h
  · exact Run.fetchingRow_unrated _ d (Run.skipRow_unrated _ d h)
  · unfold Run.settleRow
    split
    · exact Doc.applyOutcome_unrated _ _ _ h
    · exact h
  · exact Run.skipRow_unrated _ d h
  · exact h

theorem Doc.applyFetched_shown (f : FetchedDocument) (retries : ℕ) (stamps : Stamps) (row : Doc) :
    let d := row.applyFetched f retries stamps
    d.summary = f.summary ∧ d.link = f.link ∧ d.linkLabel = f.linkLabel ∧
      d.warnings = f.warnings ∧ d.provenance = f.provenance := by
  unfold Doc.applyFetched
  dsimp only
  split
  · exact ⟨rfl, rfl, rfl, rfl, rfl⟩
  · split <;> exact ⟨rfl, rfl, rfl, rfl, rfl⟩

end Rows

/-- What arrives of a step: everything but the source outcome and the confidence. -/
structure DocumentSchema.ShowsUnrated (d : DocumentSchema) (step : StepResult) : Prop where
  summary : d.summary = step.summary
  link : d.link = step.link
  linkLabel : d.linkLabel = step.linkLabel
  warnings : d.warnings = step.warnings
  provenance : d.provenance = step.provenance
  sourceOutcome : d.sourceOutcome = none
  confidence : d.confidence = none

theorem DocumentSchema.ShowsUnrated.not_carries {d : DocumentSchema} {step : StepResult}
    (h : d.ShowsUnrated step) : ¬ d.Carries step := by
  intro hc
  have hnone := h.confidence
  rw [hc.confidence] at hnone
  cases hnone

theorem Doc.applyFetched_showsUnrated {f : FetchedDocument} {step : StepResult} (hf : f.Tells step)
    {row : Doc} (hrow : row.Unrated) (retries : ℕ) (stamps : Stamps) (files : Uuid → Option FileRow)
    (id : Uuid) : (toDocumentSchema files id (row.applyFetched f retries stamps)).ShowsUnrated step := by
  have hunrated : (row.applyFetched f retries stamps).Unrated :=
    Doc.applyOutcome_unrated (.ok f) retries stamps hrow
  obtain ⟨hsummary, hlink, hlabel, hwarnings, hprovenance⟩ :=
    Doc.applyFetched_shown f retries stamps row
  exact ⟨hsummary.trans hf.summary, hlink.trans hf.link, hlabel.trans hf.linkLabel,
    hwarnings.trans hf.warnings, hprovenance.trans hf.provenance, hunrated.1, hunrated.2⟩

namespace JobMachine

open Fetching TransitionRuns

section Steps

variable [PyText] {I W : Type} {F : Fetcher I W} {cfg : Settings} {σ τ : State W}

/-- No row is ever rated. -/
theorem Reachable.unrated (h : Reachable F cfg σ) :
    ∀ d row, σ.store.docs.get d = some row → row.Unrated := by
  refine h.invariant (P := fun σ => ∀ d row, σ.store.docs.get d = some row → row.Unrated)
    (fun w now d row hrow => by cases hrow) fun σ a τ hσ hs d row' hrow' => ?_
  obtain ⟨row, hrow, rfl⟩ | ⟨job, orderId, docType, -, rfl⟩ := hs.doc_origin hrow'
  · cases a with
    | worker run act => exact Run.docWrite_unrated _ _ _ _ (hσ d row hrow)
    | _ => exact hσ d row hrow
  · exact ⟨rfl, rfl⟩

/-- The commit of one document's result, to the row as it is by then. -/
theorem settle_commits (hσ : Reachable F cfg σ) {run : ℕ} {doc : Uuid} {todo : List Uuid}
    {outcome : FetchOutcome} (hp : (σ.runs run).phase = .settling doc todo outcome)
    (hs : step F cfg σ (.worker run .settle) = some τ) : ∃ row, σ.store.docs.get doc = some row ∧
      τ.store.docs.get doc =
        some (row.applyOutcome outcome (Run.retriesOf (σ.runs run).docs doc) ⟨(σ.runs run).fetchedAt, σ.now⟩) := by
  have hmem : doc ∈ (σ.runs run).docIds :=
    (hσ.listed run).pending.subset (by simp [hp, Phase.pending])
  obtain ⟨row, hrow, -⟩ := (hσ.listed run).row (by rw [hp]; rfl) hmem
  refine ⟨row, hrow, ?_⟩
  rw [(step_cases F cfg hs).doc hrow]
  simp [Action.docWrite, Run.docWrite, hp, Run.settleRow]

end Steps

section Pipeline

variable [PyText] [PyFloat] {A : Type} {cfg : Settings}

/-- The step of a fetch never arrives whole: once the worker has committed it, the API shows its
texts, its warnings and its provenance, but no source outcome and no confidence. -/
theorem step_arrives_unrated (eng : Engine A) (cfg : Settings) (σ σ₁ σ₂ τ : State World)
    (hσ : Reachable (documentFetcher eng) cfg σ) (run : ℕ) (doc : Uuid) (todo : List Uuid) (d : Doc)
    (hp : (σ.runs run).phase = .awaiting doc todo) (hd : Run.copyOf (σ.runs run).docs doc = some d)
    (input : ResearchInput A) (made : StepResult)
    (hmade : ReturnedStep eng input
      ⟨(σ.runs run).order, d.docType, (σ.runs run).task.tenantId⟩ made)
    (hreceive : step (documentFetcher eng) cfg σ (.worker run (.receive input)) = some σ₁)
    (as : List (Action (ResearchInput A))) (has : ∀ a ∈ as, a.actor ≠ some run)
    (hrest : Runs (step (documentFetcher eng) cfg) Always σ₁ as σ₂)
    (hsettle : step (documentFetcher eng) cfg σ₂ (.worker run .settle) = some τ) :
    ∃ row, τ.store.docs.get doc = some row ∧ ∀ files,
      (toDocumentSchema files doc row).ShowsUnrated made ∧
        ¬ (toDocumentSchema files doc row).Carries made := by
  obtain ⟨f, hf, htells⟩ := documentFetcher_tells eng input hmade σ.outside
  have hrun : (σ₁.runs run).phase = .settling doc todo (.ok f) := by
    have heq : σ₁ = σ.afterWorker run (receiveOutcome (documentFetcher eng) σ.now σ.store σ.outside
        (σ.runs run) input doc todo d) := by
      simpa [step, workerStep, hp, hd] using hreceive.symm
    rw [heq, afterWorker_runs_self, ← hf]
    rfl
  have hsame : σ₂.runs run = σ₁.runs run := runs_other hrest has
  have hfirst : Runs (step (documentFetcher eng) cfg) Always σ [.worker run (.receive input)] σ₁ :=
    .single hreceive trivial
  have hreach : Reachable (documentFetcher eng) cfg σ₂ := (hσ.extend hfirst).extend hrest
  obtain ⟨row, hrow, hτ⟩ := settle_commits hreach (by rw [hsame]; exact hrun) hsettle
  refine ⟨_, hτ, fun files => ?_⟩
  have hshown := Doc.applyFetched_showsUnrated htells (hreach.unrated doc row hrow)
    (Run.retriesOf (σ₂.runs run).docs doc) ⟨(σ₂.runs run).fetchedAt, σ₂.now⟩ files doc
  exact ⟨hshown, hshown.not_carries⟩

end Pipeline

section Concrete

open scoped PyText.Ascii PyFloat.Whole

/-- The document whose fetch a run waits for, and those after it. -/
def Phase.awaited : Phase → Option (Uuid × List Uuid)
  | .awaiting doc todo => some (doc, todo)
  | _ => none

theorem Phase.awaited_eq {p : Phase} {doc : Uuid} {todo : List Uuid}
    (h : Phase.awaited p = some (doc, todo)) : p = .awaiting doc todo := by
  cases p <;> simp_all [Phase.awaited]

/-- The parcel step of the sample call. -/
def parcelStep : Except PyErr StepResult :=
  (resolveOrder sampleEngine stagedInput sampleOrder [.parcelRecord]).bind
    (stepOn sampleEngine stagedInput .parcelRecord)

/-- The parcel step is automatic and of high confidence. -/
theorem parcelStep_made : ∃ made, parcelStep = .ok made ∧ made.sourceOutcome = .auto ∧
    made.confidence = .high := by
  have hrated : parcelStep.toOption.map (fun made => (made.sourceOutcome, made.confidence)) =
      some (.auto, .high) := by decide +kernel
  obtain ⟨made, hmade, hpair⟩ := Option.map_eq_some_iff.mp hrated
  obtain ⟨houtcome, hconfidence⟩ := Prod.mk.inj hpair
  cases hstep : parcelStep with
  | error e =>
    rw [hstep] at hmade
    cases hmade
  | ok made' =>
    rw [hstep] at hmade
    obtain rfl := Option.some.inj hmade
    exact ⟨made', rfl, houtcome, hconfidence⟩

/-- What a fetch of the sample call returns to the run that waits for it. -/
theorem sample_call : ∃ d made,
    ((calledState "parcel").runs 0).phase = .awaiting 10 [] ∧
      Run.copyOf ((calledState "parcel").runs 0).docs 10 = some d ∧ parcelStep = .ok made ∧
      ReturnedStep sampleEngine stagedInput ⟨((calledState "parcel").runs 0).order, d.docType,
        ((calledState "parcel").runs 0).task.tenantId⟩ made := by
  have hphase := Phase.awaited_eq
    (show Phase.awaited ((calledState "parcel").runs 0).phase = some (10, []) by decide +kernel)
  have hcopy : (Run.copyOf ((calledState "parcel").runs 0).docs 10).map Doc.docType =
      some .parcelRecord := by decide +kernel
  obtain ⟨d, hd, htype⟩ := Option.map_eq_some_iff.mp hcopy
  obtain ⟨made, hmade, -⟩ := parcelStep_made
  have horder : ((calledState "parcel").runs 0).order = some sampleOrder := by decide +kernel
  obtain ⟨ctx, hctx, hstep⟩ := bind_eq_ok.mp hmade
  generalize (calledState "parcel").runs 0 = r at hphase hd horder ⊢
  refine ⟨d, made, hphase, hd, hmade, sampleOrder, ctx, horder, ?_, ?_⟩
  · rw [htype]
    exact hctx
  · rw [htype]
    exact hstep

theorem called_reachable : Reachable (documentFetcher sampleEngine) {} (calledState "parcel") :=
  ⟨default, 0, calledActs "parcel", .of_exec (exec_outcome (by decide +kernel))⟩

theorem step_arrives_unrated_parcel : ∃ made row, parcelStep = .ok made ∧
    (committedState "parcel" stagedInput).store.docs.get 10 = some row ∧ ∀ files,
      (toDocumentSchema files 10 row).ShowsUnrated made ∧
        ¬ (toDocumentSchema files 10 row).Carries made := by
  obtain ⟨d, made, hp, hd, hmade, hreturned⟩ := sample_call
  obtain ⟨row, hrow, hshown⟩ := step_arrives_unrated sampleEngine {} _
    (receivedState "parcel" stagedInput) _ (committedState "parcel" stagedInput) called_reachable 0 10
    [] d hp hd stagedInput made hreturned (step_outcome (by decide +kernel)) [] (fun _ ha => by cases ha)
    (.refl _) (step_outcome (by decide +kernel))
  exact ⟨made, row, hmade, hrow, hshown⟩

/-- The parcel step is automatic and of high confidence, and its committed document has neither
to show. -/
theorem parcel_step_loses_outcome : (∃ made row, parcelStep = .ok made ∧
      made.sourceOutcome = .auto ∧ made.confidence = .high ∧
      (committedState "parcel" stagedInput).store.docs.get 10 = some row ∧
      row.status = .uploaded ∧ row.sourceOutcome = none ∧ row.confidence = none) ∧
    ¬ ∀ (σ σ₁ τ : State World) (run : ℕ) (doc : Uuid) (todo : List Uuid) (d : Doc)
      (input : ResearchInput SourceAnswers) (made : StepResult) (row : Doc),
      Reachable (documentFetcher sampleEngine) {} σ → (σ.runs run).phase = .awaiting doc todo →
      Run.copyOf (σ.runs run).docs doc = some d →
      ReturnedStep sampleEngine input ⟨(σ.runs run).order, d.docType, (σ.runs run).task.tenantId⟩
        made →
      step (documentFetcher sampleEngine) {} σ (.worker run (.receive input)) = some σ₁ →
      step (documentFetcher sampleEngine) {} σ₁ (.worker run .settle) = some τ →
      τ.store.docs.get doc = some row → ∀ files, (toDocumentSchema files doc row).Carries made := by
  have hcommitted : ((committedState "parcel" stagedInput).store.docs.get 10).map
      (fun row => (row.status, row.sourceOutcome, row.confidence)) = some (.uploaded, none, none) := by
    decide +kernel
  obtain ⟨row, hrow, hfields⟩ := Option.map_eq_some_iff.mp hcommitted
  obtain ⟨hst, hfields⟩ := Prod.mk.inj hfields
  obtain ⟨houtcome, hconfidence⟩ := Prod.mk.inj hfields
  obtain ⟨made, hmade, hauto, hhigh⟩ := parcelStep_made
  refine ⟨⟨made, row, hmade, hauto, hhigh, hrow, hst, houtcome, hconfidence⟩, fun hall => ?_⟩
  obtain ⟨d, made', hp, hd, -, hreturned⟩ := sample_call
  have hcarries := hall _ (receivedState "parcel" stagedInput) (committedState "parcel" stagedInput)
    0 10 [] d stagedInput made' row called_reachable hp hd hreturned
    (step_outcome (by decide +kernel)) (step_outcome (by decide +kernel)) hrow fun _ => none
  have hlost : (toDocumentSchema (fun _ => none) 10 row).confidence = some made'.confidence :=
    hcarries.confidence
  rw [show (toDocumentSchema (fun _ => none) 10 row).confidence = none from hconfidence] at hlost
  cases hlost

end Concrete

end JobMachine
end ResearchEngine
