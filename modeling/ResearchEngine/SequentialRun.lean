import ResearchEngine.UndisturbedRun
import ResearchEngine.JobAccounts

/-! A run of `research_job` that has the job to itself, from the queued job to its terminal row:
that it comes to its end, and what it leaves. -/
namespace ResearchEngine
namespace JobMachine

open TransitionRuns

section Alone

variable [PyText] {I W : Type} {F : Fetcher I W} {cfg : Settings} {run : ℕ}

/-! Every step of such a run can be taken. -/

section Progress

theorem exec_append {σ τ : State W} {as bs : List (Action I)} (h : exec (step F cfg) σ as = some τ) :
    exec (step F cfg) σ (as ++ bs) = exec (step F cfg) τ bs := by
  induction as generalizing σ with
  | nil => rw [← Option.some.inj h, List.nil_append]
  | cons a as ih =>
    obtain ⟨υ, hυ, hrest⟩ := Option.bind_eq_some_iff.mp h
    rw [List.cons_append, exec_cons, hυ]
    exact ih hrest

theorem exec_worker {σ : State W} {act : WorkerAct I} {acts : List (WorkerAct I)} {e : Effect W}
    (h : workerStep F σ.now σ.store σ.outside (σ.runs run) act = some e) :
    exec (step F cfg) σ ((act :: acts).map (.worker run)) =
      exec (step F cfg) (σ.afterWorker run e) (acts.map (.worker run)) := by
  rw [List.map_cons, exec_cons]
  simp only [step, h, Option.map_some, Option.bind_some]

/-- The run is at a point of its loop, with a live job and copies of the documents. -/
structure At (run : ℕ) (σ : State W) (phase : Phase) (docs : List Uuid) : Prop where
  phase : (σ.runs run).phase = phase
  live : ∃ j, σ.store.getJob (σ.runs run).task.jobId (σ.runs run).task.tenantId = some j ∧
    j.status.isCancel = false
  copies : ∀ d ∈ docs, d ∈ (σ.runs run).docs.map Prod.fst

omit [PyText] in
/-- A step that leaves the job rows alone keeps the run on its way. -/
theorem At.after {σ : State W} {phase : Phase} {docs : List Uuid} {e : Effect W}
    (h : At run σ phase docs) (hjobs : e.store.jobs = σ.store.jobs)
    (htask : e.run.task = (σ.runs run).task)
    (hdocs : e.run.docs.map Prod.fst = (σ.runs run).docs.map Prod.fst) :
    At run (σ.afterWorker run e) e.run.phase docs where
  phase := by rw [afterWorker_runs_self]
  live := by
    obtain ⟨j, hj, hlive⟩ := h.live
    refine ⟨j, ?_, hlive⟩
    rw [afterWorker_runs_self, htask]
    show (e.store.jobs.get _).filter _ = some j
    rw [hjobs]
    exact hj
  copies d hd := by
    rw [afterWorker_runs_self, hdocs]
    exact h.copies d hd

variable (cfg) in
/-- One document is marked, and the fetcher is called for it. -/
theorem called_exec {σ : State W} {doc : Uuid} {todo : List Uuid}
    (h : At run σ (.looping (doc :: todo)) (doc :: todo)) :
    ∃ τ, (∀ acts : List (WorkerAct I), exec (step F cfg) σ
        ((.reread :: .mark :: .call :: acts).map (.worker run)) =
          exec (step F cfg) τ (acts.map (.worker run))) ∧
      At run τ (.awaiting doc todo) (doc :: todo) := by
  obtain ⟨j, hj, hlive⟩ := h.live
  have hread : rereadJob σ.store σ.outside (σ.runs run) doc todo =
      { store := σ.store, outside := σ.outside,
        run := { σ.runs run with job := j, phase := .marking doc todo } } := by
    simp [rereadJob, hj, hlive]
  have h₁ : workerStep F σ.now σ.store σ.outside (σ.runs run) .reread =
      some (rereadJob σ.store σ.outside (σ.runs run) doc todo) := by
    simp [workerStep, h.phase]
  have hat₁ := h.after (e := rereadJob σ.store σ.outside (σ.runs run) doc todo)
    (by rw [hread]) (by rw [hread]) (by rw [hread])
  rw [show (rereadJob σ.store σ.outside (σ.runs run) doc todo).run.phase = .marking doc todo by
    rw [hread]] at hat₁
  generalize hσ₁ : σ.afterWorker run _ = σ₁ at hat₁
  have h₂ : workerStep F σ₁.now σ₁.store σ₁.outside (σ₁.runs run) .mark =
      some (markFetching σ₁.store σ₁.outside (σ₁.runs run) doc todo) := by
    simp [workerStep, hat₁.phase]
  have hat₂ := hat₁.after (e := markFetching σ₁.store σ₁.outside (σ₁.runs run) doc todo) rfl rfl
    (Run.updateDoc_keys _ _ _)
  generalize hσ₂ : σ₁.afterWorker run _ = σ₂ at hat₂
  have h₃ : workerStep F σ₂.now σ₂.store σ₂.outside (σ₂.runs run) .call =
      some (callFetcher σ₂.store σ₂.outside (σ₂.runs run) doc todo) := by
    simp [workerStep, hat₂.phase, markFetching]
  have hat₃ := hat₂.after (e := callFetcher σ₂.store σ₂.outside (σ₂.runs run) doc todo) rfl rfl rfl
  refine ⟨_, fun acts => ?_, hat₃⟩
  rw [exec_worker h₁, hσ₁, exec_worker h₂, hσ₂, exec_worker h₃]

variable (cfg) in
/-- The answer of a fetcher is received and settled. -/
theorem answered_exec {σ : State W} {doc : Uuid} {todo : List Uuid}
    (h : At run σ (.awaiting doc todo) (doc :: todo)) (input : I) :
    ∃ τ, exec (step F cfg) σ ([.receive input, .settle].map (.worker run)) = some τ ∧
      At run τ (.looping todo) todo := by
  obtain ⟨d, hd⟩ := Run.copyOf_isSome (h.copies doc List.mem_cons_self)
  have h₁ : workerStep F σ.now σ.store σ.outside (σ.runs run) (.receive input) =
      some (receiveOutcome F σ.now σ.store σ.outside (σ.runs run) input doc todo d) := by
    simp [workerStep, h.phase, hd]
  have hat₁ := h.after
    (e := receiveOutcome F σ.now σ.store σ.outside (σ.runs run) input doc todo d) rfl rfl rfl
  generalize hσ₁ : σ.afterWorker run _ = σ₁ at hat₁
  obtain ⟨outcome, hphase⟩ : ∃ outcome, (σ₁.runs run).phase = .settling doc todo outcome :=
    ⟨_, hat₁.phase⟩
  have h₂ : workerStep F σ₁.now σ₁.store σ₁.outside (σ₁.runs run) .settle =
      some (settleDoc σ₁.now σ₁.store σ₁.outside (σ₁.runs run) doc todo outcome) := by
    simp [workerStep, hphase]
  have hat₂ := hat₁.after
    (e := settleDoc σ₁.now σ₁.store σ₁.outside (σ₁.runs run) doc todo outcome) rfl rfl
    (Run.updateDoc_keys _ _ _)
  refine ⟨_, ?_, hat₂.phase, hat₂.live, fun d hd => hat₂.copies d (List.mem_cons_of_mem _ hd)⟩
  rw [exec_worker h₁, hσ₁, exec_worker h₂]
  rfl

variable (cfg) in
/-- One document is fetched and settled. -/
theorem visit_exec {σ : State W} {doc : Uuid} {todo : List Uuid}
    (h : At run σ (.looping (doc :: todo)) (doc :: todo)) (input : I) :
    ∃ τ, exec (step F cfg) σ ((visit input).map (.worker run)) = some τ ∧
      At run τ (.looping todo) todo := by
  obtain ⟨σ₁, hcalled, hat₁⟩ := called_exec (F := F) cfg h
  obtain ⟨τ, hanswered, hat⟩ := answered_exec (F := F) cfg hat₁ input
  exact ⟨τ, (hcalled _).trans hanswered, hat⟩

variable (cfg) in
/-- The loop comes to its end, and the last commit is made. -/
theorem loop_exec {σ : State W} {todo : List Uuid} {inputs : List I}
    (h : At run σ (.looping todo) todo) (hlen : inputs.length = todo.length) :
    ∃ τ, exec (step F cfg) σ ((inputs.flatMap visit ++ [WorkerAct.finish]).map (.worker run)) = some τ := by
  induction inputs generalizing σ todo with
  | nil =>
    obtain rfl := List.length_eq_zero_iff.mp hlen.symm
    have hfin : workerStep F σ.now σ.store σ.outside (σ.runs run) .finish =
        some (finishJob σ.now σ.store σ.outside (σ.runs run)) := by
      simp [workerStep, h.phase]
    exact ⟨_, exec_worker hfin⟩
  | cons input inputs ih =>
    cases todo with
    | nil => cases hlen
    | cons doc todo =>
      obtain ⟨τ, hτ, hat⟩ := visit_exec (F := F) cfg h input
      obtain ⟨υ, hυ⟩ := ih hat (Nat.succ.inj hlen)
      refine ⟨υ, ?_⟩
      rw [List.flatMap_cons, List.append_assoc, List.map_append, exec_append hτ]
      exact hυ

/-- The run of a job whose documents are listed. -/
def listedRun (task : Task) (started : Time) (j : Job) (rows : List (Uuid × Doc)) : Run :=
  { startRun task started with job := j, docs := rows, phase := .claiming }

/-- The run of a job that is claimed. -/
def claimedRun (task : Task) (started : Time) (j : Job) (rows : List (Uuid × Doc)) : Run :=
  { startRun task started with job := runningRow started j, docs := rows, phase := .claimed }

variable (cfg) in
/-- A queued job is read and its documents are listed. -/
theorem listed_exec {σ : State W} {task : Task} {started : Time} {first : List Uuid}
    {rows : List (Uuid × Doc)} {j : Job} (hfresh : σ.runs run = startRun task started)
    (hj : σ.store.getJob task.jobId task.tenantId = some j) (hqueued : j.status = .queued)
    (hfirst : σ.store.listForJob task.jobId first = some rows) :
    ∃ τ, (∀ acts : List (WorkerAct I), exec (step F cfg) σ
        ((.read :: .list first :: acts).map (.worker run)) =
          exec (step F cfg) τ (acts.map (.worker run))) ∧
      τ.store = σ.store ∧ τ.runs run = listedRun task started j rows := by
  have hread : readJob σ.store σ.outside (σ.runs run) =
      { store := σ.store, outside := σ.outside,
        run := { σ.runs run with job := j, phase := .loaded } } := by
    simp [readJob, hfresh, startRun, hj]
  have h₁ : workerStep F σ.now σ.store σ.outside (σ.runs run) .read =
      some (readJob σ.store σ.outside (σ.runs run)) := by
    simp [workerStep, hfresh, startRun]
  generalize hσ₁ : σ.afterWorker run (readJob σ.store σ.outside (σ.runs run)) = σ₁
  have hstore₁ : σ₁.store = σ.store := by rw [← hσ₁, hread]; rfl
  have hrun₁ : σ₁.runs run = { startRun task started with job := j, phase := .loaded } := by
    rw [← hσ₁, afterWorker_runs_self, hread, hfresh]
  have hlist : listDocs σ₁.store σ₁.outside (σ₁.runs run) rows =
      { store := σ₁.store, outside := σ₁.outside,
        run := { σ₁.runs run with docs := rows, phase := .claiming } } := by
    simp [listDocs, hrun₁, hqueued, JobStatus.isCancel]
  have h₂ : workerStep F σ₁.now σ₁.store σ₁.outside (σ₁.runs run) (.list first) =
      some (listDocs σ₁.store σ₁.outside (σ₁.runs run) rows) := by
    simp [workerStep, hrun₁, hstore₁, startRun, hfirst]
  refine ⟨σ₁.afterWorker run (listDocs σ₁.store σ₁.outside (σ₁.runs run) rows), fun acts => ?_, ?_, ?_⟩
  · rw [exec_worker h₁, hσ₁, exec_worker h₂]
  · rw [hlist, ← hstore₁]
    rfl
  · rw [afterWorker_runs_self, hlist, hrun₁]
    rfl

variable (cfg) in
/-- The job is claimed, and its row is a running one. -/
theorem claimed_exec {σ : State W} {task : Task} {started : Time} {rows : List (Uuid × Doc)} {j : Job}
    (hrun : σ.runs run = listedRun task started j rows)
    (hj : σ.store.getJob task.jobId task.tenantId = some j) :
    ∃ τ, (∀ acts : List (WorkerAct I), exec (step F cfg) σ ((.claim :: acts).map (.worker run)) =
        exec (step F cfg) τ (acts.map (.worker run))) ∧
      τ.store.docs = σ.store.docs ∧
      τ.store.getJob task.jobId task.tenantId = some (runningRow started j) ∧
      τ.runs run = claimedRun task started j rows := by
  have hclaim : workerStep F σ.now σ.store σ.outside (σ.runs run) .claim =
      some (claim σ.store σ.outside (σ.runs run)) := by
    simp [workerStep, hrun, listedRun]
  have hrow : (claim σ.store σ.outside (σ.runs run)).store =
      σ.store.modifyJob task.jobId (runningRow started) := by
    show σ.store.modifyJob (σ.runs run).task.jobId (σ.runs run).claimRow = _
    rw [hrun]
    rfl
  refine ⟨σ.afterWorker run (claim σ.store σ.outside (σ.runs run)), fun acts => exec_worker hclaim, rfl,
    ?_, ?_⟩
  · show (claim σ.store σ.outside (σ.runs run)).store.getJob task.jobId task.tenantId = _
    obtain ⟨hget, hown⟩ := (Store.getJob_eq_some_iff _ _ _ _).mp hj
    rw [hrow, Store.getJob_eq_some_iff, Store.modifyJob_jobs, Table.get_modify_self, hget]
    exact ⟨rfl, hown⟩
  · rw [afterWorker_runs_self]
    show { σ.runs run with job := (σ.runs run).claimRow (σ.runs run).job, phase := .claimed } = _
    rw [hrun]
    rfl

variable (cfg) in
/-- The loop over the documents is entered. -/
theorem entered_exec {σ : State W} {task : Task} {started : Time} {listing : List Uuid}
    {rows rows' : List (Uuid × Doc)} {order : Option OrderData} {j : Job}
    (hrun : σ.runs run = claimedRun task started j rows)
    (hj : σ.store.getJob task.jobId task.tenantId = some (runningRow started j))
    (hlisting : σ.store.listForJob task.jobId listing = some rows')
    (horder : ∀ o, order = some o → o.id = j.orderId) :
    ∃ τ, exec (step F cfg) σ (([.enter listing order] : List (WorkerAct I)).map (.worker run)) =
        some τ ∧
      At run τ (.looping (rows'.map Prod.fst)) (rows'.map Prod.fst) := by
  have hown : (order.all fun o => o.id = j.orderId) = true := by
    cases order with
    | none => rfl
    | some o => exact decide_eq_true (horder o rfl)
  have henter : workerStep F σ.now σ.store σ.outside (σ.runs run) (.enter listing order) =
      some (enterLoop σ.store σ.outside (σ.runs run) rows' order) := by
    simp [workerStep, hrun, claimedRun, startRun, runningRow, hown, hlisting]
  refine ⟨_, exec_worker henter, ?_⟩
  have htask : (enterLoop σ.store σ.outside (σ.runs run) rows' order).run.task = task := by
    show (σ.runs run).task = task
    rw [hrun]
    rfl
  refine ⟨by rw [afterWorker_runs_self]; rfl, ⟨runningRow started j, ?_, rfl⟩, fun d hd => ?_⟩
  · rw [afterWorker_runs_self, htask]
    exact hj
  · rw [afterWorker_runs_self]
    show d ∈ (rows'.map _).map Prod.fst
    rw [List.map_map]
    exact hd

variable (cfg) in
/-- A queued job is read, claimed and listed. -/
theorem opening_exec {σ : State W} {task : Task} {started : Time} {first listing : List Uuid}
    {rows rows' : List (Uuid × Doc)} {order : Option OrderData} {j : Job}
    (hfresh : σ.runs run = startRun task started)
    (hj : σ.store.getJob task.jobId task.tenantId = some j) (hqueued : j.status = .queued)
    (hfirst : σ.store.listForJob task.jobId first = some rows)
    (hlisting : σ.store.listForJob task.jobId listing = some rows')
    (horder : ∀ o, order = some o → o.id = j.orderId) :
    ∃ τ, exec (step F cfg) σ
        (([.read, .list first, .claim, .enter listing order] : List (WorkerAct I)).map
          (.worker run)) = some τ ∧
      At run τ (.looping (rows'.map Prod.fst)) (rows'.map Prod.fst) := by
  obtain ⟨σ₁, hexec₁, hstore₁, hrun₁⟩ := listed_exec (F := F) cfg hfresh hj hqueued hfirst
  rw [← hstore₁] at hj hlisting
  obtain ⟨σ₂, hexec₂, hdocs₂, hj₂, hrun₂⟩ := claimed_exec (F := F) cfg hrun₁ hj
  have hlisting₂ : σ₂.store.listForJob task.jobId listing = some rows' := by
    rw [← hlisting]
    unfold Store.listForJob Store.docsForJob
    rw [hdocs₂]
  rw [hexec₁, hexec₂]
  exact entered_exec cfg hrun₂ hj₂ hlisting₂ horder

/-- A queued job with two listings of its documents is researched to the end. -/
theorem sitting_exec {σ : State W} {task : Task} {started : Time} {first listing : List Uuid}
    {rows rows' : List (Uuid × Doc)} {order : Option OrderData} {inputs : List I} {j : Job}
    (hfresh : σ.runs run = startRun task started)
    (hj : σ.store.getJob task.jobId task.tenantId = some j) (hqueued : j.status = .queued)
    (hfirst : σ.store.listForJob task.jobId first = some rows)
    (hlisting : σ.store.listForJob task.jobId listing = some rows')
    (horder : ∀ o, order = some o → o.id = j.orderId) (hlen : inputs.length = listing.length) :
    ∃ τ, exec (step F cfg) σ ((sitting first listing order inputs).map (.worker run)) = some τ := by
  obtain ⟨υ, hυ, hat⟩ := opening_exec (F := F) cfg hfresh hj hqueued hfirst hlisting horder
  have hlen' : inputs.length = (rows'.map Prod.fst).length := by
    rw [(Store.listForJob_eq_some hlisting).1]
    exact hlen
  obtain ⟨τ, hτ⟩ := loop_exec (F := F) cfg hat hlen'
  refine ⟨τ, ?_⟩
  unfold sitting
  rw [List.map_append, exec_append hυ]
  exact hτ

end Progress

/-! What the run leaves. -/

section Result

/-- The columns that a returned document fills in whatever its status. -/
structure Copied (fetched : FetchedDocument) (row : Doc) : Prop where
  status : row.status = fetched.status
  summary : row.summary = fetched.summary
  link : row.link = fetched.link
  linkLabel : row.linkLabel = fetched.linkLabel
  provenance : row.provenance = fetched.provenance
  warnings : row.warnings = fetched.warnings
  fetchedAt : row.fetchedAt ≠ none

/-- What one answer of the fetcher makes of the row of its document. -/
inductive DocEnded (row : Doc) : FetchOutcome → Doc → Prop
  | returned {fetched row'} (hok : fetched.status ≠ .failed) (copied : Copied fetched row')
      (retryCount : row'.retryCount = row.retryCount)
      (file : fetched.status = .uploaded → truthy fetched.fileKey = true →
        row'.fileId = fetched.fileId ∧ row'.orderFileId = fetched.orderFileId ∧
          row'.uploadedAt ≠ none) : DocEnded row (.ok fetched) row'
  | failed {fetched row'} (hfailed : fetched.status = .failed) (copied : Copied fetched row')
      (errorCode : row'.errorCode = fetched.errorCode.map ErrorCode.value)
      (errorMessage : row'.errorMessage = fetched.errorMessage)
      (retryable : row'.retryable = fetched.retryable)
      (retryCount : row'.retryCount = row.retryCount + 1) : DocEnded row (.ok fetched) row'
  | raised {message row'} (status : row'.status = .failed)
      (errorCode : row'.errorCode = some "INTERNAL_ERROR")
      (errorMessage : row'.errorMessage = some message) (retryable : row'.retryable = true)
      (retryCount : row'.retryCount = row.retryCount + 1) : DocEnded row (.error message) row'

omit [PyText] in
theorem settledRow_ended (outcome : FetchOutcome) (stamps : Stamps) (row : Doc) :
    DocEnded row outcome (settledRow outcome stamps row) := by
  cases outcome with
  | error message => exact .raised rfl rfl rfl rfl rfl
  | ok fetched =>
    unfold settledRow Doc.applyOutcome Doc.applyFetched
    dsimp only
    split
    · rename_i hfile
      refine .returned (by rw [hfile.1]; decide) ⟨rfl, rfl, rfl, rfl, rfl, rfl, by simp⟩ rfl fun _ _ => ?_
      exact ⟨rfl, rfl, by simp⟩
    · rename_i hfile
      split
      · rename_i hfailed
        exact .failed hfailed ⟨rfl, rfl, rfl, rfl, rfl, rfl, by simp⟩ rfl rfl rfl rfl
      · rename_i hok
        refine .returned hok ⟨rfl, rfl, rfl, rfl, rfl, rfl, by simp⟩ rfl fun hup hkey => ?_
        exact absurd ⟨hup, hkey⟩ hfile

omit [PyText] in
theorem settledRow_status (outcome : FetchOutcome) (stamps : Stamps) (row : Doc) :
    (settledRow outcome stamps row).status = outcomeStatus outcome :=
  Doc.applyOutcome_status _ _ _ _

/-- The counters and the status of a job whose documents ended with these statuses. -/
structure JobEnded (statuses : List DocStatus) (j : Job) : Prop where
  total : j.totalDocuments = statuses.length
  fetched : j.fetchedDocuments = statuses.countP fun st => st = .fetched ∨ st = .uploaded
  failed : j.failedDocuments = statuses.countP fun st => st = .failed
  cancelled : j.cancelledDocuments = statuses.countP fun st => st = .skipped
  sum : j.fetchedDocuments + j.failedDocuments + j.cancelledDocuments = j.totalDocuments
  completed : j.status = .completed ↔ statuses ≠ [] ∧ DocStatus.failed ∉ statuses
  jobFailed : j.status = .failed ↔ statuses = [] ∨
    (DocStatus.failed ∈ statuses ∧ DocStatus.fetched ∉ statuses ∧ DocStatus.uploaded ∉ statuses)
  partially : j.status = .partialResult ↔ DocStatus.failed ∈ statuses ∧
    (DocStatus.fetched ∈ statuses ∨ DocStatus.uploaded ∈ statuses)
  startedAt : j.startedAt ≠ none
  completedAt : j.completedAt ≠ none

omit [PyText] in
theorem mem_statuses {docs : List Doc} {st : DocStatus} :
    st ∈ docs.map Doc.status ↔ docs.countP (fun d => d.status = st) ≠ 0 := by
  rw [← Nat.pos_iff_ne_zero, List.countP_pos_iff, List.mem_map]
  simp only [decide_eq_true_eq]

omit [PyText] in
/-- The terminal status of a run that was not cancelled, by what the documents came to. -/
theorem resolve_settled {docs : List Doc} (hset : ∀ d ∈ docs, d.status.settled = true) :
    resolveJobTerminalStatus .running docs =
      if docs.map Doc.status = [] then .failed
      else if DocStatus.failed ∉ docs.map Doc.status then .completed
      else if DocStatus.fetched ∈ docs.map Doc.status ∨ DocStatus.uploaded ∈ docs.map Doc.status then
        .partialResult
      else .failed := by
  have hcounts := counts_of_settled hset
  have hsome : (docs.countP fun d => d.status = .fetched ∨ d.status = .uploaded) = 0 ↔
      ¬ (DocStatus.fetched ∈ docs.map Doc.status ∨ DocStatus.uploaded ∈ docs.map Doc.status) := by
    rw [List.countP_eq_zero]
    simp only [decide_eq_true_eq, List.mem_map]
    constructor
    · rintro h (⟨d, hd, hst⟩ | ⟨d, hd, hst⟩)
      · exact h d hd (Or.inl hst)
      · exact h d hd (Or.inr hst)
    · rintro h d hd (hst | hst)
      · exact h (Or.inl ⟨d, hd, hst⟩)
      · exact h (Or.inr ⟨d, hd, hst⟩)
  have hnone : docs.countP (fun d => d.status = .failed) = 0 ↔ DocStatus.failed ∉ docs.map Doc.status := by
    rw [mem_statuses, not_not]
  simp only [resolveJobTerminalStatus, reduceCtorEq, if_false, List.length_eq_zero_iff]
  by_cases hnil : docs = []
  · rw [if_pos hnil, if_pos (List.map_eq_nil_iff.mpr hnil)]
  rw [if_neg hnil, if_neg fun h => hnil (List.map_eq_nil_iff.mp h)]
  by_cases hfailed : docs.countP (fun d => d.status = .failed) = 0
  · rw [if_pos hfailed, if_pos (hnone.mp hfailed)]
  rw [if_neg hfailed, if_neg fun h => hfailed (hnone.mpr h)]
  by_cases hok : docs.length - docs.countP (fun d => d.status = .failed) -
      docs.countP (fun d => d.status = .skipped) = 0
  · rw [if_pos hok, if_neg (hsome.mp (by omega))]
  · rw [if_neg hok, if_pos]
    by_contra h
    exact hok (by have := hsome.mpr h; omega)

omit [PyText] in
theorem terminalRow_ended {docs : List Doc} (hset : ∀ d ∈ docs, d.status.settled = true)
    (started now : Time) (j : Job) : JobEnded (docs.map Doc.status) (terminalRow docs started now j) := by
  have hstatus : (terminalRow docs started now j).status = _ := resolve_settled hset
  refine
    { total := (List.length_map Doc.status).symm
      fetched := countP_status (fun st => st = .fetched ∨ st = .uploaded) docs
      failed := countP_status (fun st => st = .failed) docs
      cancelled := countP_status (fun st => st = .skipped) docs
      sum := counts_of_settled hset
      completed := ?_
      jobFailed := ?_
      partially := ?_
      startedAt := by simp [terminalRow, runningRow, recalcJobCounters]
      completedAt := by simp [terminalRow] }
  all_goals
    rw [hstatus]
    clear hstatus
    generalize docs.map Doc.status = statuses
    split_ifs <;> simp_all <;> tauto

/-- What a run that has its job to itself leaves, document by document and in the row of the job. -/
structure SequentialResult (F : Fetcher I W) (task : Task) (order : Option OrderData)
    (ms : List (Moment W × WorkerAct I)) (visits : List (Visit I W)) (σ τ : State W) : Prop where
  /-- The fetcher is called once for every document, with its type. -/
  listed : (visits.map Visit.doc).Perm (σ.store.docKeys task.jobId)
  rows : ∀ v ∈ visits, σ.store.docs.get v.doc = some v.row
  fetched : fetches ms = visits.map fun v => (v.before, (v.result F order task.tenantId).2)
  /-- The row of a document depends on its old row and its own answer only. -/
  settled : ∀ v ∈ visits, ∃ stamps, τ.store.docs.get v.doc =
    some (settledRow (v.result F order task.tenantId).1 stamps v.row)
  ended : ∀ v ∈ visits, ∃ row, τ.store.docs.get v.doc = some row ∧
    DocEnded v.row (v.result F order task.tenantId).1 row
  job : ∃ j, τ.store.getJob task.jobId task.tenantId = some j ∧
    JobEnded (visits.map fun v => outcomeStatus (v.result F order task.tenantId).1) j

omit [PyText] in
theorem Concluded.sequential {task : Task} {started : Time} {order : Option OrderData}
    {ms : List (Moment W × WorkerAct I)} {visits : List (Visit I W)} {j : Job} {σ τ : State W}
    (hF : Settles F) (h : Concluded F task started order ms visits j σ τ) :
    SequentialResult F task order ms visits σ τ := by
  obtain ⟨docs, now, hdocs, hget, hjob⟩ := h.job
  have hstatuses : (docs.map Prod.snd).map Doc.status =
      visits.map fun v => outcomeStatus (v.result F order task.tenantId).1 := by
    apply List.map_injective_iff.mpr (Option.some_injective DocStatus)
    calc ((docs.map Prod.snd).map Doc.status).map some
        = (docs.map Prod.fst).map fun d => (τ.store.docs.get d).map Doc.status := by
          rw [List.map_map, List.map_map, List.map_map]
          refine List.map_congr_left fun p hp => ?_
          simp [hget p hp]
      _ = (visits.map fun v => outcomeStatus (v.result F order task.tenantId).1).map some := by
          rw [hdocs, List.map_map, List.map_map]
          refine List.map_congr_left fun v hv => ?_
          obtain ⟨now, hrow⟩ := h.settled v hv
          simp [hrow, settledRow_status]
  have hset : ∀ d ∈ docs.map Prod.snd, d.status.settled = true := by
    intro d hd
    have hmem : d.status ∈ (docs.map Prod.snd).map Doc.status := List.mem_map_of_mem hd
    rw [hstatuses] at hmem
    obtain ⟨v, -, hv⟩ := List.mem_map.mp hmem
    exact hv ▸ hF v.input ⟨order, v.row.docType, task.tenantId⟩ v.before
  refine ⟨h.listed, h.rows, h.fetched, h.settled, fun v hv => ?_, _, hjob, ?_⟩
  · obtain ⟨now, hrow⟩ := h.settled v hv
    exact ⟨_, hrow, settledRow_ended _ _ _⟩
  · rw [← hstatuses]
    exact terminalRow_ended hset started now j

/-- A queued job that nobody else writes to is researched to the end: its run can take all its
steps, it fetches every document once, every document ends with its own answer, and the row of the
job with the counters and the status of its documents. -/
theorem sequential_run (hF : Settles F) {σ : State W} {task : Task} {started : Time}
    {first listing : List Uuid} {rows rows' : List (Uuid × Doc)} {order : Option OrderData}
    {inputs : List I} {j : Job} (hfresh : σ.runs run = startRun task started)
    (hj : σ.store.getJob task.jobId task.tenantId = some j) (hqueued : j.status = .queued)
    (hfirst : σ.store.listForJob task.jobId first = some rows)
    (hlisting : σ.store.listForJob task.jobId listing = some rows')
    (horder : ∀ o, order = some o → o.id = j.orderId) (hlen : inputs.length = listing.length) :
    (∃ τ, exec (step F cfg) σ ((sitting first listing order inputs).map (.worker run)) = some τ) ∧
      ∀ as τ, Runs (step F cfg) (Undisturbed F cfg run) σ as τ →
        as.filterMap (Action.ofRun run) = sitting first listing order inputs →
        ∃ visits, visits.map Visit.doc = listing ∧ visits.map Visit.input = inputs ∧
          SequentialResult F task order (moments F cfg run σ as) visits σ τ := by
  refine ⟨sitting_exec hfresh hj hqueued hfirst hlisting horder hlen, fun as τ h hm => ?_⟩
  obtain ⟨visits, j', hdocs, hinputs, hc⟩ := concluded_of_runs hfresh h hm
  exact ⟨visits, hdocs, hinputs, hc.sequential hF⟩

end Result

end Alone

section Concrete

open scoped PyText.Ascii

/-- A queued job and its documents, just delivered to run 0. -/
def queuedState (docs : List (Uuid × DocType)) (h : (docs.map Prod.fst).Nodup) : State Unit where
  store :=
    { jobs := ⟨[(7, newJob 1 sampleRequest 3 8 (docs.map Prod.snd))], by simp⟩
      docs := ⟨docs.map fun p => (p.1, newDoc 1 7 3 p.2), by simpa [Function.comp_def] using h⟩ }
  outside := ()
  queue := []
  runs := fun _ => startRun { jobId := 7, tenantId := 1, actorId := 2 } 5
  sessions := fun _ => .idle
  log := []
  now := 5

/-- One document is linked, the call for the other raises. -/
def switchedFetcher : Fetcher Bool Unit := fun up call w =>
  (if up then .ok { docType := call.docType, status := .fetched } else .error "no answer", w)

def twoDocs : State Unit :=
  queuedState [(10, .deedSubjectParcel), (11, .ngsControl)] (by decide +kernel)

theorem sequential_two_docs :
    (exec (step switchedFetcher {}) twoDocs
      ((sitting [10, 11] [11, 10] (some sampleOrder) [true, false]).map (.worker 0))).isSome = true := by
  have hF : Settles switchedFetcher := by
    rintro (_ | _) call w <;> rfl
  have hlisted (listing : List Uuid) (h : (twoDocs.store.listForJob 7 listing).isSome = true) :
      twoDocs.store.listForJob 7 listing = some ((twoDocs.store.listForJob 7 listing).get h) :=
    (Option.some_get h).symm
  have hfresh : twoDocs.runs 0 = startRun { jobId := 7, tenantId := 1, actorId := 2 } _ := rfl
  have hj : twoDocs.store.getJob 7 1 =
      some (newJob 1 sampleRequest 3 8 [.deedSubjectParcel, .ngsControl]) := by decide +kernel
  obtain ⟨τ, hτ⟩ : ∃ τ, exec (step switchedFetcher {}) twoDocs
      ((sitting [10, 11] [11, 10] (some sampleOrder) [true, false]).map (.worker 0)) = some τ :=
    (sequential_run hF hfresh hj rfl (hlisted [10, 11] (by decide +kernel))
      (hlisted [11, 10] (by decide +kernel)) (fun o ho => Option.some.inj ho ▸ rfl) rfl).1
  rw [hτ]
  rfl

/-- Without documents no document fails, and the job does not complete. -/
theorem no_documents_failed :
    ((exec (step switchedFetcher {}) (queuedState [] List.nodup_nil)
        ((sitting [] [] (some sampleOrder) []).map (.worker 0))).bind fun τ =>
      (τ.store.getJob 7 1).map Job.status) = some .failed ∧
      (queuedState [] List.nodup_nil).store.docsForJob 7 = [] := by
  decide +kernel

end Concrete

end JobMachine
end ResearchEngine
