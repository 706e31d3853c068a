import ResearchEngine.UploadedEvidence
import ResearchEngine.JobCallbacks
import ResearchEngine.TenantIsolation

/-! Where `cancelled_documents` comes from: it counts the skipped documents, and without a cancel
the only way to skip one is to ask the NGS for control marks and be told that there are none. -/
namespace ResearchEngine

namespace Adapters

variable (dep : Deployment) (src : SourceAnswers) (ctx : PropertyContext)

/-- A plain adapter whose fetch and whose fallback never come back empty. -/
theorem runOne_plain_ne_empty {d : ResidentialDoc}
    {fetch : PropertyContext → Except PyErr FetchedSource}
    {fallback : PropertyContext → FetchedSource} {step : StepResult}
    (h : (Steps.runOne d (plainAdapter fetch fallback) ctx).1 = .ok step)
    (hfetch : ∀ fs, fetch ctx = .ok fs → fs.status ≠ .empty)
    (hfallback : (fallback ctx).status ≠ .empty) : step.status ≠ .empty := by
  obtain ⟨fs, hfs, hst, -⟩ | ⟨e, -, hst⟩ := runOne_plain ctx h
  · rw [hst]
    exact hfetch fs hfs
  · rw [hst]
    exact hfallback

theorem parcelFetch_ne_empty [PyFloat] {fs : FetchedSource} (h : parcelFetch src ctx = .ok fs) :
    fs.status ≠ .empty := by
  unfold parcelFetch at h
  split at h
  · obtain rfl := Except.ok.inj h
    unfold parcelUnconfirmed
    split <;> simp [parcelFallback]
  · obtain ⟨area, -, h⟩ := bind_eq_ok.mp h
    obtain rfl := Except.ok.inj h
    simp

theorem floodFetch_ne_empty {fs : FetchedSource} (h : floodFetch src ctx = .ok fs) :
    fs.status ≠ .empty := by
  obtain ⟨f, -, h⟩ := bind_eq_ok.mp h
  obtain rfl := Except.ok.inj h
  dsimp only
  split <;> simp

theorem appraiserFetch_ne_empty : (appraiserFetch src ctx).status ≠ .empty := by
  simp only [appraiserFetch]
  split <;> simp

/-- An NGS step is empty when the NGS knows no mark around the property. -/
theorem ngs_empty_iff [PyText] {d : ResidentialDoc} {step : StepResult}
    (h : (Steps.runOne d (plainAdapter (fun _ => ngsFetch src) fun _ => ngsFallback) ctx).1 =
      .ok step) : step.status = .empty ↔ src.marks = .ok [] := by
  obtain ⟨fs, hfs, hst, -⟩ | ⟨e, he, hst⟩ := runOne_plain ctx h
  · obtain ⟨marks, hmarks, hstatus, -⟩ := ngsFetch_ok src hfs
    rw [hst, hstatus, hmarks]
    cases marks <;> simp
  · refine iff_of_false (by simp [hst, ngsFallback]) fun hmarks => ?_
    rw [ngsFetch, benchmarks, hmarks] at he
    cases he

/-- Of the steps behind the document types only the NGS step may be empty. -/
theorem turn_empty_iff [PyText] [PyFloat] {docType : DocType} {step : StepResult}
    (h : (Steps.turn (shipped dep src) (docTypeToStep docType) ctx).1 = .ok step) :
    step.status = .empty ↔ docType = .ngsControl ∧ src.marks = .ok [] := by
  have never : ∀ {p : Prop}, step.status ≠ .empty → docType ≠ .ngsControl →
      (step.status = .empty ↔ docType = .ngsControl ∧ p) := fun hst hne =>
    iff_of_false hst fun hp => hne hp.1
  cases docType with
  | ngsControl =>
    rw [ngs_empty_iff src ctx h]
    simp
  | parcelRecord =>
    refine never (runOne_plain_ne_empty ctx h (fun fs => parcelFetch_ne_empty src ctx) ?_) (by simp)
    simp [parcelFallback]
  | propertyAppraiserTaxRecord =>
    refine never (runOne_plain_ne_empty ctx h (fun fs hfs => ?_) ?_) (by simp)
    · obtain rfl := Except.ok.inj hfs
      exact appraiserFetch_ne_empty src ctx
    · simp [appraiserFallback]
  | femaFloodZoneFirm =>
    refine never (runOne_plain_ne_empty ctx h (fun fs => floodFetch_ne_empty src ctx) ?_) (by simp)
    simp [floodFallback]
  | recordedPlatSubdivisionMap =>
    obtain ⟨hst, -⟩ := runOne_fetched ctx h rfl
    exact never (by simp [hst, platFetch]) (by simp)
  | deedSubjectParcel =>
    obtain ⟨hst, -⟩ := runOne_fetched ctx h rfl
    exact never (by simp [hst, deedFetch]) (by simp)

end Adapters

namespace Fetching

open Adapters EvidenceUpload

theorem mapStepStatus_eq_skipped {status : StepStatus} :
    mapStepStatus status = .skipped ↔ status = .empty := by
  cases status <;> simp [mapStepStatus]

section Call

variable [PyText] {A : Type}

/-- An upload does not skip a document, nor does it take a skip back. -/
theorem settleStep_skipped_iff (eng : Engine A) (input : ResearchInput A) (order : OrderData)
    (tenantId : Option Uuid) (docType : DocType) (step : StepResult) (ev : Evidence) :
    (settleStep eng input order tenantId docType step ev).1.status = .skipped ↔
      step.status = .empty := by
  have hstatus : (documentOf docType step).status = mapStepStatus step.status :=
    documentOf_status docType step
  unfold settleStep
  dsimp only
  split
  · rename_i hup
    have hempty : step.status ≠ .empty := by
      intro he
      rw [hstatus, he] at hup
      cases hup
    have hcase := uploadArtifact_cases eng.sha256 (uploadOf input order tenantId docType step)
      (documentOf docType step) ev
    refine iff_of_false (fun h => ?_) hempty
    generalize uploadArtifact eng.sha256 _ _ ev = done at hcase h
    cases hcase with
    | absent =>
      rw [hup] at h
      cases h
    | failed => cases h
    | stored => cases h
  · rw [hstatus]
    exact mapStepStatus_eq_skipped

variable [PyFloat] (dep : Deployment) (sha256 : Blob → String)

/-- The call gets through to the NGS, and it knows no control mark around the property. -/
structure FindsNoMarks (input : ResearchInput SourceAnswers) (order : OrderData)
    (docType : DocType) : Prop where
  control : docType = .ngsControl
  resolved : (resolveOrder (shippedEngine dep sha256) input order [docType]).isOk = true
  folder : input.staging.docsDir = .ok ()
  manifest : input.staging.writeManifest = .ok ()
  result : input.staging.writeResult = .ok ()
  marks : input.sources.marks = .ok []

theorem documentFetcher_skipped_iff (input : ResearchInput SourceAnswers) (order : OrderData)
    (docType : DocType) (tenantId : Uuid) (w : World) :
    outcomeStatus (documentFetcher (shippedEngine dep sha256) input
        ⟨some order, docType, tenantId⟩ w).1 = .skipped ↔
      FindsNoMarks dep sha256 input order docType := by
  rw [documentFetcher_call]
  simp only [outcomeOn]
  cases hres : resolveOrder (shippedEngine dep sha256) input order [docType] with
  | error e =>
    refine iff_of_false (fun h => by cases h) fun h => ?_
    have hok := h.resolved
    rw [hres] at hok
    cases hok
  | ok ctx =>
    simp only [Except.bind]
    cases hstep : stepOn (shippedEngine dep sha256) input docType ctx with
    | error e =>
      refine iff_of_false (fun h => by cases h) fun h => ?_
      obtain ⟨step, hturn⟩ := turn_total dep input.sources ctx docType
      have hok := (stepOn_eq_ok_iff (shippedEngine dep sha256)).mpr
        ⟨h.folder, hturn, h.manifest, h.result⟩
      rw [hstep] at hok
      cases hok
    | ok step =>
      obtain ⟨hdir, hturn, hmanifest, hresult⟩ := (stepOn_eq_ok_iff _).mp hstep
      simp only [outcomeStatus]
      rw [settleStep_skipped_iff, turn_empty_iff dep input.sources ctx hturn]
      constructor
      · rintro ⟨hcontrol, hmarks⟩
        exact ⟨hcontrol, by rw [hres]; rfl, hdir, hmanifest, hresult, hmarks⟩
      · intro h
        exact ⟨h.control, h.marks⟩

/-- Without the order the call fails. -/
theorem documentFetcher_no_order (eng : Engine A) (input : ResearchInput A) (docType : DocType)
    (tenantId : Uuid) (w : World) :
    outcomeStatus (documentFetcher eng input ⟨none, docType, tenantId⟩ w).1 = .failed := rfl

end Call

end Fetching

/-! What a job that nobody cancels looks like to the database and to its runs. -/

/-- The row of a job without a cancel. -/
structure Job.Uncancelled (j : Job) : Prop where
  status : j.status.isCancel = false
  counter : j.cancelledDocuments = 0

/-- A run that has seen no cancel and no skipped document. -/
structure Run.Unskipped (r : Run) : Prop where
  job : r.job.status.isCancel = false
  docs : ∀ p ∈ r.docs, p.2.status ≠ .skipped
  flags : r.skipped = []
  phase : r.phase ≠ .draining
  answer : ∀ doc todo outcome, r.phase = .settling doc todo outcome →
    outcomeStatus outcome ≠ .skipped

theorem Run.idle_unskipped : Run.idle.Unskipped where
  job := rfl
  docs p hp := by cases hp
  flags := rfl
  phase h := by cases h
  answer _ _ _ h := by cases h

theorem startRun_unskipped (task : Task) (now : Time) : (JobMachine.startRun task now).Unskipped where
  job := rfl
  docs p hp := by cases hp
  flags := rfl
  phase h := by cases h
  answer _ _ _ h := by cases h

theorem resolveJobTerminalStatus_isCancel {status : JobStatus} (h : status.isCancel = false)
    (docs : List Doc) : (resolveJobTerminalStatus status docs).isCancel = false := by
  have hne : status ≠ .cancelling := by
    rintro rfl
    cases h
  obtain h | h | h := resolveJobTerminalStatus_cases hne docs
  all_goals rw [h]; rfl

section Counters

variable {docs : List (Uuid × Doc)}

/-- Without a skipped document the counter is zero. -/
theorem recalcJobCounters_cancelled (h : ∀ p ∈ docs, p.2.status ≠ .skipped) (j : Job) :
    (recalcJobCounters (docs.map Prod.snd) j).cancelledDocuments = 0 := by
  refine List.countP_eq_zero.mpr fun d hd => ?_
  obtain ⟨p, hp, rfl⟩ := List.mem_map.mp hd
  simpa using h p hp

theorem updateDoc_unskipped {doc : Uuid} {f : Doc → Doc} (h : ∀ p ∈ docs, p.2.status ≠ .skipped)
    (hf : ∀ d, (f d).status ≠ .skipped) : ∀ p ∈ Run.updateDoc docs doc f, p.2.status ≠ .skipped := by
  intro p hp
  obtain ⟨q, hq, rfl⟩ := Run.mem_updateDoc.mp hp
  dsimp only
  split
  · exact hf q.2
  · exact h q hq

end Counters

section RunStep

variable {I W : Type} {F : Fetcher I W} {now : Time} {s : Store} {w : W} {r : Run}
  {act : WorkerAct I} {e : Effect W}

/-- The fetches of the run skip no document. -/
def SkipsNothing (F : Fetcher I W) (w : W) (r : Run) : WorkerAct I → Prop
  | .receive input => ∀ doc todo d, r.phase = .awaiting doc todo → Run.copyOf r.docs doc = some d →
      outcomeStatus (F input ⟨r.order, d.docType, r.task.tenantId⟩ w).1 ≠ .skipped
  | _ => True

theorem workerStep_unskipped (h : workerStep F now s w r act = some e) (hr : r.Unskipped)
    (hok : SkipsNothing F w r act)
    (hrow : ∀ j, s.jobs.get r.task.jobId = some j → j.Uncancelled)
    (hdocs : ∀ d row, s.docs.get d = some row → row.jobId = r.task.jobId → row.status ≠ .skipped) :
    e.run.Unskipped := by
  have found : ∀ {j}, s.getJob r.task.jobId r.task.tenantId = some j → j.status.isCancel = false :=
    fun hj => (hrow _ ((s.getJob_eq_some_iff _ _ _).mp hj).1).status
  have listing : ∀ {order rows}, s.listForJob r.task.jobId order = some rows →
      ∀ p ∈ rows, p.2.status ≠ .skipped := by
    intro order rows hl p hp
    obtain ⟨hget, hown⟩ := Store.listForJob_mem hl p hp
    exact hdocs p.1 p.2 hget hown
  -- a step that only moves on in its phase
  have move : ∀ {p : Phase}, p ≠ .draining → (∀ doc todo outcome, p ≠ .settling doc todo outcome) →
      Run.Unskipped { r with phase := p } := fun hd hs =>
    ⟨hr.job, hr.docs, hr.flags, hd, fun _ _ _ hp => (hs _ _ _ hp).elim⟩
  cases workerStep_cases F now s w r h with
  | readGone => exact move (by simp) (by simp)
  | rereadGone => exact move (by simp) (by simp)
  | call => exact move (by simp) (by simp)
  | notify => exact move (by simp) (by simp)
  | abort => exact move (by simp) (by simp)
  | lose => exact move (by simp) (by simp)
  | readFound _ hj => exact ⟨found hj, hr.docs, hr.flags, by simp, by simp⟩
  | rereadLive _ hj => exact ⟨found hj, hr.docs, hr.flags, by simp, by simp⟩
  | listLive _ hl => exact ⟨hr.job, listing hl, hr.flags, by simp, by simp⟩
  | claim => exact ⟨rfl, hr.docs, hr.flags, by simp [claim], by simp [claim]⟩
  | listCancelled _ _ hc => exact absurd (hr.job.symm.trans hc) (by simp)
  | rereadCancelled _ hj hc => exact absurd ((found hj).symm.trans hc) (by simp)
  | drain hp => exact (hr.phase hp).elim
  | enter _ hl =>
    refine ⟨hr.job, fun p hp => ?_, hr.flags, by simp [enterLoop], by simp [enterLoop]⟩
    obtain ⟨q, hq, rfl⟩ := List.mem_map.mp hp
    cases hcopy : Run.copyOf r.docs q.1 with
    | none => simpa [hcopy] using listing hl q hq
    | some d => simpa [hcopy] using hr.docs _ (Run.mem_of_copyOf hcopy)
  | mark =>
    refine ⟨hr.job, ?_, rfl, by simp [markFetching], by simp [markFetching]⟩
    exact updateDoc_unskipped hr.docs fun d => by simp [Doc.setStatus]
  | @receive input doc todo d hp hd =>
    refine ⟨hr.job, hr.docs, hr.flags, by simp [receiveOutcome], ?_⟩
    rintro _ _ _ ⟨⟩
    exact hok doc todo d hp hd
  | @settle doc todo outcome hp =>
    refine ⟨hr.job, ?_, hr.flags, by simp [settleDoc], by simp [settleDoc]⟩
    refine updateDoc_unskipped hr.docs fun d => ?_
    rw [Doc.applyOutcome_status]
    exact hr.answer doc todo outcome hp
  | finish =>
    have hphase : (finishJob now s w r).run.phase = .notifying ∨
        (finishJob now s w r).run.phase = .ended := by
      simp only [finishJob]
      split
      · exact Or.inl rfl
      · exact Or.inr rfl
    refine ⟨resolveJobTerminalStatus_isCancel hr.job _, hr.docs, rfl, ?_,
      fun doc todo outcome hp => ?_⟩
    · obtain h | h := hphase
      all_goals rw [h]; simp
    · obtain h | h := hphase
      all_goals rw [hp] at h; cases h

/-- The row of the job after a step of such a run. -/
theorem workerStep_uncancelled (h : workerStep F now s w r act = some e) (hr : r.Unskipped) {j j' : Job}
    (hj : s.jobs.get r.task.jobId = some j) (hu : j.Uncancelled)
    (hj' : e.store.jobs.get r.task.jobId = some j') : j'.Uncancelled := by
  have same : s.jobs.get r.task.jobId = some j' → j'.Uncancelled := fun hget =>
    Option.some.inj (hj.symm.trans hget) ▸ hu
  have written : ∀ {g : Job → Job}, (s.jobs.modify r.task.jobId g).get r.task.jobId = some j' →
      j' = g j := by
    intro g hget
    rw [Table.get_modify_self, hj] at hget
    exact (Option.some.inj hget).symm
  cases workerStep_cases F now s w r h with
  | drain hp => exact (hr.phase hp).elim
  | claim =>
    rw [written hj']
    exact ⟨rfl, hu.counter⟩
  | finish =>
    rw [written hj']
    exact ⟨resolveJobTerminalStatus_isCancel hr.job _, recalcJobCounters_cancelled hr.docs j⟩
  | @notify delivered =>
    cases delivered with
    | false => exact same hj'
    | true =>
      rw [written hj']
      exact ⟨hu.status, hu.counter⟩
  | _ => exact same hj'

/-- Such a run skips no document. -/
theorem docWrite_unskipped (hr : r.Unskipped) (d : Uuid) {row : Doc} (hrow : row.status ≠ .skipped) :
    (r.docWrite now act d row).status ≠ .skipped := by
  unfold Run.docWrite
  split
  · rename_i hp
    exact (hr.phase hp).elim
  · rw [hr.flags]
    simp only [Run.fetchingRow, Run.skipRow, List.not_mem_nil, if_false]
    split
    · simp [Doc.setStatus]
    · exact hrow
  · rename_i doc todo outcome hp
    simp only [Run.settleRow]
    split
    · rw [Doc.applyOutcome_status]
      exact hr.answer doc todo outcome hp
    · exact hrow
  · rw [hr.flags]
    simpa [Run.skipRow] using hrow
  · exact hrow

end RunStep

namespace JobMachine

open TransitionRuns ReaperSweep Fetching

section Conditions

variable {I W : Type}

/-- No `cancel_job` on the job commits. -/
def NeverCancels (job : Uuid) (σ : State W) : Action I → Prop
  | .api n .commit => ∀ seen reason, σ.sessions n ≠ .cancelling job seen reason
  | _ => True

/-- The fetches for the job skip no document. -/
def SkipsNone (F : Fetcher I W) (job : Uuid) (σ : State W) : Action I → Prop
  | .worker run act => (σ.runs run).task.jobId = job → SkipsNothing F σ.outside (σ.runs run) act
  | _ => True

/-- The row, the documents and the runs of a job that nobody cancels. -/
structure Unskipped (job : Uuid) (σ : State W) : Prop where
  listed : WellFormed σ ∧ Listed σ
  row : ∀ j, σ.store.jobs.get job = some j → j.Uncancelled
  docs : ∀ d row, σ.store.docs.get d = some row → row.jobId = job → row.status ≠ .skipped
  runs : ∀ r, (σ.runs r).task.jobId = job → (σ.runs r).Unskipped

theorem unskipped_start (w : W) (now : Time) (job : Uuid) : Unskipped job (State.start w now) where
  listed := ⟨wellFormed_start w now, listed_start w now⟩
  row j hj := by cases hj
  docs d row hrow := by cases hrow
  runs _ _ := Run.idle_unskipped

end Conditions

section Steps

variable [PyText] {I W : Type} {F : Fetcher I W} {cfg : Settings} {job : Uuid} {σ τ : State W}
  {a : Action I}

omit [PyText] in
/-- The columns of a new row. -/
theorem newJob_uncancelled (now : Time) (req : CreateRequest) (orderId key : Uuid)
    (docTypes : List DocType) : (newJob now req orderId key docTypes).Uncancelled := ⟨rfl, rfl⟩

/-- The row of the job after a step. -/
theorem Unskipped.row_step (h : Unskipped job σ) (hs : StepCase F cfg σ a τ)
    (hcancel : NeverCancels job σ a) {j' : Job} (hj' : τ.store.jobs.get job = some j') :
    j'.Uncancelled := by
  cases hs with
  | @worker run act e hw =>
    replace hj' : e.store.jobs.get job = some j' := hj'
    obtain ⟨g, hjobs, -⟩ := workerStep_jobs hw
    by_cases hjob : (σ.runs run).task.jobId = job
    · obtain ⟨j, hj⟩ : ∃ j, σ.store.jobs.get job = some j := by
        rw [hjobs, Table.get_modify] at hj'
        obtain ⟨j, hj, -⟩ := Option.map_eq_some_iff.mp hj'
        exact ⟨j, hj⟩
      subst hjob
      exact workerStep_uncancelled hw (h.runs run rfl) hj (h.row j hj) hj'
    · rw [hjobs, Table.get_modify_other _ _ fun he => hjob he.symm] at hj'
      exact h.row j' hj'
  | @api n act e ha =>
    replace hj' : e.store.jobs.get job = some j' := hj'
    have written : ∀ {id : Uuid} {st : JobStatus}, st.isCancel = false →
        (σ.store.modifyJob id (Job.setStatus st)).jobs.get job = some j' → j'.Uncancelled := by
      intro id st hst hget
      rw [Store.modifyJob_jobs, Table.get_modify] at hget
      obtain ⟨j, hj, rfl⟩ := Option.map_eq_some_iff.mp hget
      split
      · exact ⟨hst, (h.row j hj).counter⟩
      · exact h.row j hj
    generalize hsession : σ.sessions n = session at ha
    cases ha with
    | insert fresh hlen hdocs =>
      rw [Table.get_insert] at hj'
      split at hj'
      · obtain rfl := Option.some.inj hj'
        exact newJob_uncancelled _ _ _ _ _
      · exact h.row j' hj'
    | @commitCancel id seen reason =>
      rw [Store.modifyJob_jobs, Table.get_modify_other] at hj'
      · exact h.row j' hj'
      · rintro rfl
        exact hcancel seen reason hsession
    | commitReview => exact written rfl hj'
    | commitArchive => exact written rfl hj'
    | _ => exact h.row j' hj'
  | sweepFail =>
    obtain ⟨j, hj, rfl⟩ : ∃ j, σ.store.jobs.get job = some j ∧ failRow j = j' := by simpa using hj'
    unfold failRow
    split
    · exact ⟨rfl, (h.row j hj).counter⟩
    · exact h.row j hj
  | _ => exact h.row j' hj'

/-- The documents of the job after a step. -/
theorem Unskipped.docs_step (h : Unskipped job σ) (hs : StepCase F cfg σ a τ) {d : Uuid} {row' : Doc}
    (hrow' : τ.store.docs.get d = some row') (hjob : row'.jobId = job) : row'.status ≠ .skipped := by
  obtain ⟨row, hrow, rfl⟩ | ⟨id, orderId, docType, -, rfl⟩ := hs.doc_origin hrow'
  · have hown : row.jobId = job := (hs.extends.sameDoc hrow hrow').jobId.symm.trans hjob
    have hold := h.docs d row hrow hown
    cases hs with
    | @worker run act e hw =>
      by_cases hrun : (σ.runs run).task.jobId = job
      · exact docWrite_unskipped (h.runs run hrun) d hold
      · have hother : row.jobId ≠ (σ.runs run).task.jobId := fun he => hrun (he.symm.trans hown)
        show ((σ.runs run).docWrite σ.now act d row).status ≠ .skipped
        rw [workerStep_docWrite_other hw (h.listed.2 run) hrow (Or.inr hother)]
        exact hold
    | _ => exact hold
  · simp [newDoc]

/-- One step keeps a job without a cancel free of skipped documents. -/
theorem Unskipped.step (h : Unskipped job σ) (hs : StepCase F cfg σ a τ)
    (hcancel : NeverCancels job σ a) (hfetch : SkipsNone F job σ a) : Unskipped job τ where
  listed := ⟨hs.wellFormed h.listed.1, hs.listed h.listed.1 h.listed.2⟩
  row j' hj' := h.row_step hs hcancel hj'
  docs d row' hrow' hjob := h.docs_step hs hrow' hjob
  runs := by
    intro r hjob
    rcases hs.run_cases r with he | ⟨task, he⟩ | ⟨act, e, rfl, rfl, hw⟩
    · rw [he] at hjob ⊢
      exact h.runs r hjob
    · rw [he]
      exact startRun_unskipped task σ.now
    · rw [afterWorker_runs_self] at hjob ⊢
      rw [(workerStep_task hw).1] at hjob
      refine workerStep_unskipped hw (h.runs r hjob) (hfetch hjob) ?_ ?_
      · rw [hjob]
        exact h.row
      · rw [hjob]
        exact h.docs

variable [PyFloat] (dep : Deployment) (sha256 : Blob → String)

/-- No fetch for the job gets through to the NGS and is told of no control mark. -/
def MarksFound (job : Uuid) (σ : State World) : Action (ResearchInput SourceAnswers) → Prop
  | .worker run (.receive input) => (σ.runs run).task.jobId = job → ∀ doc todo d order,
      (σ.runs run).phase = .awaiting doc todo → Run.copyOf (σ.runs run).docs doc = some d →
      (σ.runs run).order = some order → ¬ FindsNoMarks dep sha256 input order d.docType
  | _ => True

variable {dep sha256}

theorem MarksFound.skipsNone {σ : State World} {a : Action (ResearchInput SourceAnswers)}
    (h : MarksFound dep sha256 job σ a) :
    SkipsNone (documentFetcher (shippedEngine dep sha256)) job σ a := by
  cases a with
  | worker run act =>
    intro hjob
    cases act with
    | receive input =>
      intro doc todo d hp hd
      cases horder : (σ.runs run).order with
      | none =>
        rw [documentFetcher_no_order]
        simp
      | some order =>
        rw [ne_eq, documentFetcher_skipped_iff]
        exact h hjob doc todo d order hp hd horder
    | _ => trivial
  | _ => trivial

/-- In every run in which no cancel of the job commits and the NGS knows a mark whenever a fetch
for the job asks it, the job never counts a cancelled document. -/
theorem cancelled_counter_zero (dep : Deployment) (sha256 : Blob → String) (cfg : Settings)
    (w : World) (now : Time) (job : Uuid) (as : List (Action (ResearchInput SourceAnswers)))
    (τ : State World)
    (h : Runs (step (documentFetcher (shippedEngine dep sha256)) cfg)
      (fun σ a => NeverCancels job σ a ∧ MarksFound dep sha256 job σ a) (State.start w now) as τ) :
    ∀ j, τ.store.jobs.get job = some j → j.cancelledDocuments = 0 := by
  have hτ : Unskipped job τ := h.invariant
    (fun s a t hs hok hst => hs.step (step_cases _ _ hst) hok.1 hok.2.skipsNone)
    (unskipped_start w now job)
  exact fun j hj => (hτ.row j hj).counter

end Steps

section Concrete

open scoped PyText.Ascii PyFloat.Whole

/-- The job 7 for the NGS document, at its end. -/
def finishedState (input : ResearchInput SourceAnswers) : State World :=
  outcome (step (documentFetcher sampleEngine) {}) (committedState "benchmarks" input)
    [.worker 0 .finish]

/-- No mark near the property. -/
def unmarkedInput : ResearchInput SourceAnswers := sampleInput "1 MAIN ST" "A-1"

def sampleMark : NgsMark :=
  { pid := "AL0215", name := "TAMPA 2", lat := .null, lon := .null, datum := "NAD 83"
    vertSource := "" }

/-- A mark near the property. -/
def markedInput : ResearchInput SourceAnswers :=
  { unmarkedInput with sources := { sampleSources with marks := .ok [sampleMark] } }

/-- Neither the commit of a service call nor the return of a fetch. -/
def countsAlone : Action (ResearchInput SourceAnswers) → Bool
  | .api _ .commit | .worker _ (.receive _) => false
  | _ => true

theorem neverCancels_of_alone {job : Uuid} {σ : State World}
    {a : Action (ResearchInput SourceAnswers)} (h : countsAlone a = true) :
    NeverCancels job σ a := by
  unfold NeverCancels
  split
  · cases h
  · trivial

theorem countsOnly_of_alone {dep : Deployment} {sha256 : Blob → String} {job : Uuid}
    {σ : State World} {a : Action (ResearchInput SourceAnswers)} (h : countsAlone a = true) :
    NeverCancels job σ a ∧ MarksFound dep sha256 job σ a := by
  refine ⟨neverCancels_of_alone h, ?_⟩
  unfold MarksFound
  split
  · cases h
  · trivial

/-- A job with a mark near the property counts nothing. -/
theorem marked_job_counts_zero :
    ∃ j, (finishedState markedInput).store.jobs.get 7 = some j ∧ j.status = .completed ∧
      j.cancelledDocuments = 0 := by
  obtain ⟨j, hj, hst⟩ := Option.map_eq_some_iff.mp
    (show ((finishedState markedInput).store.jobs.get 7).map Job.status = some .completed by
      decide +kernel)
  have hcalled : Runs (step (documentFetcher sampleEngine) {})
      (fun σ a => NeverCancels 7 σ a ∧
        MarksFound Context.sampleDeployment sampleEngine.sha256 7 σ a) (State.start default 0)
      (calledActs "benchmarks") (calledState "benchmarks") :=
    .of_check (b := fun _ => countsAlone) (fun _ _ => countsOnly_of_alone) (by decide +kernel)
  have hrest : Runs (step (documentFetcher sampleEngine) {})
      (fun σ a => NeverCancels 7 σ a ∧
        MarksFound Context.sampleDeployment sampleEngine.sha256 7 σ a)
      (receivedState "benchmarks" markedInput) [.worker 0 .settle, .worker 0 .finish]
      (finishedState markedInput) :=
    .cons (t := committedState "benchmarks" markedInput) (step_outcome (by decide +kernel))
      (countsOnly_of_alone rfl)
      (.single (step_outcome (by decide +kernel)) (countsOnly_of_alone rfl))
  have hreceive : NeverCancels 7 (calledState "benchmarks")
        (.worker 0 (.receive markedInput) : Action (ResearchInput SourceAnswers)) ∧
      MarksFound Context.sampleDeployment sampleEngine.sha256 7 (calledState "benchmarks")
        (.worker 0 (.receive markedInput)) := by
    refine ⟨trivial, ?_⟩
    intro _ _ _ _ _ _ _ _ hnone
    exact absurd hnone.marks (by simp [markedInput])
  have hrun := hcalled.append (.cons (step_outcome (by decide +kernel)) hreceive hrest)
  exact ⟨j, hj, hst, cancelled_counter_zero _ _ _ _ _ 7 _ _ hrun j hj⟩

/-- The NGS knows no mark near the property: the job completes with one cancelled document,
and nobody has cancelled it. -/
theorem completed_job_counts_cancelled :
    ((finishedState unmarkedInput).store.jobs.get 7).map (fun j => (j.status, j.cancelledDocuments)) =
        some (.completed, 1) ∧
      ¬ ∀ (dep : Deployment) (sha256 : Blob → String) (cfg : Settings) (w : World) (now : Time)
        (job : Uuid) (as : List (Action (ResearchInput SourceAnswers))) (τ : State World),
        Runs (step (documentFetcher (shippedEngine dep sha256)) cfg) (NeverCancels job)
          (State.start w now) as τ →
        ∀ j, τ.store.jobs.get job = some j → j.cancelledDocuments = 0 := by
  have hjob : ((finishedState unmarkedInput).store.jobs.get 7).map
      (fun j => (j.status, j.cancelledDocuments)) = some (.completed, 1) := by decide +kernel
  refine ⟨hjob, fun hall => ?_⟩
  have hcalled : Runs (step (documentFetcher sampleEngine) {}) (NeverCancels 7)
      (State.start default 0) (calledActs "benchmarks") (calledState "benchmarks") :=
    .of_check (b := fun _ => countsAlone)
      (fun _ _ => neverCancels_of_alone) (by decide +kernel)
  have hrun := hcalled.append (.cons (t := receivedState "benchmarks" unmarkedInput)
    (step_outcome (by decide +kernel)) trivial
    (.cons (t := committedState "benchmarks" unmarkedInput) (step_outcome (by decide +kernel)) trivial
      (.single (t := finishedState unmarkedInput) (step_outcome (by decide +kernel)) trivial)))
  obtain ⟨j, hj, hpair⟩ := Option.map_eq_some_iff.mp hjob
  have hzero := hall Context.sampleDeployment sampleEngine.sha256 _ _ _ 7 _ _ hrun j hj
  rw [hzero] at hpair
  exact absurd (congrArg Prod.snd hpair) (by simp)

end Concrete

end JobMachine
end ResearchEngine
