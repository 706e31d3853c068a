import ResearchEngine.JobStore

/-! One `research_job` task run as a sequence of its reads, commits and
`document_fetcher` calls. A run keeps its session's copies of the rows it has
read (`expire_on_commit=False`): the copy of the job row changes only when the
run writes it or expires and reads it again. A commit updates the columns the run
assigned, whatever the row holds by then. -/
namespace ResearchEngine

/-- The Celery message of one job. -/
structure Task where
  jobId : Uuid
  tenantId : Uuid
  actorId : Uuid
  retries : ℕ := 0
  deriving DecidableEq, Repr, Inhabited

/-- The next thing a run is about to do. -/
inductive Phase
  | idle
  | delivered
  | loaded
  | draining
  | claiming
  | claimed
  | looping (todo : List Uuid)
  | marking (doc : Uuid) (todo : List Uuid)
  | calling (doc : Uuid) (todo : List Uuid)
  | awaiting (doc : Uuid) (todo : List Uuid)
  | settling (doc : Uuid) (todo : List Uuid) (outcome : FetchOutcome)
  | notifying
  | ended
  deriving Inhabited

structure Run where
  task : Task
  started : Time
  /-- The session's copy of the job row. -/
  job : Job
  /-- The session's copies of the document rows, in listing order. -/
  docs : List (Uuid × Doc)
  /-- Documents flushed as `skipped` but not committed yet. -/
  skipped : List Uuid
  order : Option OrderData
  /-- The clock when the last fetch returned. -/
  fetchedAt : Time
  phase : Phase
  deriving Inhabited

def Run.idle : Run := { (default : Run) with phase := .idle }

/-- What an observer outside the database sees a run do. -/
inductive Event
  /-- The `running` commit of a run whose session had read `read`. -/
  | claim (job : Uuid) (read : JobStatus)
  | fetch (job doc : Uuid)
  | callback (job : Uuid) (status : JobStatus)
  deriving DecidableEq, Repr

def Event.job : Event → Uuid
  | .claim job _ | .fetch job _ | .callback job _ => job

/-- The argument list of one `document_fetcher` call. -/
structure FetchCall where
  order : Option OrderData
  docType : DocType
  tenantId : Uuid

/-- The injected `document_fetcher`: `I` is what the external sources do during
one call, `W` the evidence store that the call reads and writes. -/
abbrev Fetcher (I W : Type) := I → FetchCall → W → FetchOutcome × W

inductive WorkerAct (I : Type)
  | read
  | list (order : List Uuid)
  | drain
  | claim
  | enter (listing : List Uuid) (order : Option OrderData)
  | reread
  | mark
  | call
  | receive (input : I)
  | settle
  | finish
  | notify (delivered : Bool)
  /-- An exception reached the outer handler: roll back and `self.retry`. -/
  | abort
  /-- The worker died; the broker may hand the task out again. -/
  | lose (requeued : Bool)

structure Effect (W : Type) where
  store : Store
  outside : W
  run : Run
  publish : List Task := []
  events : List Event := []

/-- `max_retries` of the task. -/
def maxRetries : ℕ := 3

/-- The two readings of the clock that a result is dated with: when the document was there, and when its
file is recorded. -/
structure Stamps where
  fetchedAt : Time
  uploadedAt : Time

/-- The columns written from a returned document; `retries` is the session's
copy of `retry_count`. -/
def Doc.applyFetched (fetched : FetchedDocument) (retries : ℕ) (stamps : Stamps) (d : Doc) : Doc :=
  let d := { d with
    status := fetched.status
    summary := fetched.summary
    link := fetched.link
    linkLabel := fetched.linkLabel
    provenance := fetched.provenance
    warnings := fetched.warnings
    fetchedAt := some stamps.fetchedAt }
  if fetched.status = .uploaded ∧ truthy fetched.fileKey then
    { d with
      fileId := fetched.fileId
      orderFileId := fetched.orderFileId
      uploadedAt := some stamps.uploadedAt }
  else if fetched.status = .failed then
    { d with
      errorCode := fetched.errorCode.map ErrorCode.value
      errorMessage := fetched.errorMessage
      retryable := fetched.retryable
      retryCount := retries + 1 }
  else d

/-- The columns written when the call raised. -/
def Doc.applyError (message : String) (retries : ℕ) (d : Doc) : Doc :=
  { d with
    status := .failed
    errorCode := some "INTERNAL_ERROR"
    errorMessage := some message
    retryable := true
    retryCount := retries + 1 }

def Doc.applyOutcome (outcome : FetchOutcome) (retries : ℕ) (stamps : Stamps) (d : Doc) : Doc :=
  match outcome with
  | .ok fetched => d.applyFetched fetched retries stamps
  | .error message => d.applyError message retries

def Doc.setStatus (status : DocStatus) (d : Doc) : Doc := { d with status := status }

namespace Run

/-- Update the session's copy of one document. -/
def updateDoc (docs : List (Uuid × Doc)) (doc : Uuid) (f : Doc → Doc) : List (Uuid × Doc) :=
  docs.map fun p => if p.1 = doc then (p.1, f p.2) else p

/-- The session's copy of one document. -/
def copyOf (docs : List (Uuid × Doc)) (doc : Uuid) : Option Doc :=
  (docs.find? fun p => p.1 = doc).map Prod.snd

def skipRow (skipped : List Uuid) (d : Uuid) (row : Doc) : Doc :=
  if d ∈ skipped then row.setStatus .skipped else row

/-- Commit the pending `skipped` flags. -/
def flushSkipped (skipped : List Uuid) (s : Store) : Store := s.adjustDocs (skipRow skipped)

/-- The job columns of the drain commit. -/
def drainRow (r : Run) (j : Job) : Job :=
  { recalcJobCounters (r.docs.map Prod.snd) j with
    status := .cancelled
    completedAt := some r.started }

/-- The job columns of the `running` commit. -/
def claimRow (r : Run) (j : Job) : Job := { j with status := .running, startedAt := some r.started }

/-- The job columns of the final commit. -/
def finishRow (r : Run) (now : Time) (j : Job) : Job :=
  { recalcJobCounters (r.docs.map Prod.snd) j with
    status := resolveJobTerminalStatus r.job.status (r.docs.map Prod.snd)
    completedAt := some now }

/-- The session's copy of `retry_count`. -/
def retriesOf (docs : List (Uuid × Doc)) (doc : Uuid) : ℕ :=
  ((docs.find? fun p => p.1 = doc).map fun p => p.2.retryCount).getD 0

/-- The document columns of one document's result commit. -/
def settleRow (r : Run) (now : Time) (doc : Uuid) (outcome : FetchOutcome) (d : Uuid)
    (row : Doc) : Doc :=
  if d = doc then row.applyOutcome outcome (retriesOf r.docs doc) ⟨r.fetchedAt, now⟩ else row

def fetchingRow (doc d : Uuid) (row : Doc) : Doc :=
  if d = doc then row.setStatus .fetching else row

end Run

section Step

variable {I W : Type} (F : Fetcher I W) (now : Time) (s : Store) (w : W) (r : Run)

/-- First read: `ResearchJobRepository.get`. -/
def readJob : Effect W :=
  match s.getJob r.task.jobId r.task.tenantId with
  | none => { store := s, outside := w, run := { r with phase := .ended } }
  | some j => { store := s, outside := w, run := { r with job := j, phase := .loaded } }

/-- First listing of the documents, and the cancel check on the copy just read. -/
def listDocs (rows : List (Uuid × Doc)) : Effect W :=
  if r.job.status.isCancel then
    { store := s, outside := w
      run := { r with
        docs := rows.map fun p => (p.1, p.2.setStatus .skipped)
        phase := .draining } }
  else { store := s, outside := w, run := { r with docs := rows, phase := .claiming } }

/-- The drain commit: every document skipped, the job cancelled. -/
def drain : Effect W :=
  { store := (Run.flushSkipped (r.docs.map Prod.fst) s).modifyJob r.task.jobId r.drainRow
    outside := w
    run := { r with job := r.drainRow r.job, phase := .ended } }

/-- The `running` commit. It writes over whatever status the row holds by now. -/
def claim : Effect W :=
  { store := s.modifyJob r.task.jobId r.claimRow
    outside := w
    run := { r with job := r.claimRow r.job, phase := .claimed }
    events := [.claim r.task.jobId r.job.status] }

/-- Second listing (known rows keep the session's copies) and the order read. -/
def enterLoop (rows : List (Uuid × Doc)) (order : Option OrderData) : Effect W :=
  { store := s, outside := w
    run := { r with
      docs := rows.map fun p => (p.1, (Run.copyOf r.docs p.1).getD p.2)
      order := order
      phase := .looping (rows.map Prod.fst) } }

/-- Head of one iteration: expire the job row and read it again. -/
def rereadJob (doc : Uuid) (todo : List Uuid) : Effect W :=
  match s.getJob r.task.jobId r.task.tenantId with
  | none => { store := s, outside := w, run := { r with phase := .ended } }
  | some j =>
    if j.status.isCancel then
      { store := s, outside := w
        run := { r with
          job := j
          docs := Run.updateDoc r.docs doc (Doc.setStatus .skipped)
          skipped := doc :: r.skipped
          phase := .looping todo } }
    else { store := s, outside := w, run := { r with job := j, phase := .marking doc todo } }

/-- Commit `fetching`, with any `skipped` flags flushed before it. -/
def markFetching (doc : Uuid) (todo : List Uuid) : Effect W :=
  { store := (Run.flushSkipped r.skipped s).adjustDocs (Run.fetchingRow doc)
    outside := w
    run := { r with
      docs := Run.updateDoc r.docs doc (Doc.setStatus .fetching)
      skipped := []
      phase := .calling doc todo } }

/-- The fetcher starts working on one document. -/
def callFetcher (doc : Uuid) (todo : List Uuid) : Effect W :=
  { store := s, outside := w
    run := { r with phase := .awaiting doc todo }
    events := [.fetch r.task.jobId doc] }

/-- The fetcher returned or raised; what it stored outside is there already. -/
def receiveOutcome (input : I) (doc : Uuid) (todo : List Uuid) (d : Doc) : Effect W :=
  let out := F input ⟨r.order, d.docType, r.task.tenantId⟩ w
  { store := s, outside := out.2
    run := { r with fetchedAt := now, phase := .settling doc todo out.1 } }

/-- Commit one document's result. -/
def settleDoc (doc : Uuid) (todo : List Uuid) (outcome : FetchOutcome) : Effect W :=
  { store := s.adjustDocs (r.settleRow now doc outcome)
    outside := w
    run := { r with
      docs := Run.updateDoc r.docs doc
        (Doc.applyOutcome outcome (Run.retriesOf r.docs doc) ⟨r.fetchedAt, now⟩)
      phase := .looping todo } }

/-- The final commit: counters, terminal status, completion time. -/
def finishJob : Effect W :=
  { store := (Run.flushSkipped r.skipped s).modifyJob r.task.jobId (r.finishRow now)
    outside := w
    run := { r with
      job := r.finishRow now r.job
      skipped := []
      phase := if truthy r.job.callbackUrl then .notifying else .ended } }

/-- `_fire_callback`, seen from the job row: an attempt, and the delivered flag. -/
def notifyCallback (delivered : Bool) : Effect W :=
  { store := if delivered then
      s.modifyJob r.task.jobId fun j => { j with callbackDelivered := true } else s
    outside := w
    run := { r with phase := .ended }
    events := [.callback r.task.jobId r.job.status] }

/-- Roll back and `self.retry(countdown=30)`, until the retries are used up. -/
def abortRun : Effect W :=
  { store := s, outside := w
    run := { r with phase := .ended }
    publish := if r.task.retries < maxRetries
      then [{ r.task with retries := r.task.retries + 1 }] else [] }

def loseRun (requeued : Bool) : Effect W :=
  { store := s, outside := w
    run := { r with phase := .ended }
    publish := if requeued then [r.task] else [] }

/-- A run that holds a task and has not returned. -/
def Phase.live : Phase → Bool
  | .idle | .ended => false
  | _ => true

/-- One step of one run. -/
def workerStep (act : WorkerAct I) : Option (Effect W) :=
  match act, r.phase with
  | .read, .delivered => some (readJob s w r)
  | .list order, .loaded => (s.listForJob r.task.jobId order).map (listDocs s w r)
  | .drain, .draining => some (drain s w r)
  | .claim, .claiming => some (claim s w r)
  | .enter listing order, .claimed =>
    -- the order provider looks the row up by the job's order id
    if order.all fun o => o.id = r.job.orderId then
      (s.listForJob r.task.jobId listing).map fun rows => enterLoop s w r rows order
    else none
  | .reread, .looping (doc :: todo) => some (rereadJob s w r doc todo)
  | .mark, .marking doc todo => some (markFetching s w r doc todo)
  | .call, .calling doc todo => some (callFetcher s w r doc todo)
  | .receive input, .awaiting doc todo =>
    (Run.copyOf r.docs doc).map (receiveOutcome F now s w r input doc todo)
  | .settle, .settling doc todo outcome => some (settleDoc now s w r doc todo outcome)
  | .finish, .looping [] => some (finishJob now s w r)
  | .notify delivered, .notifying => some (notifyCallback s w r delivered)
  | .abort, _ => if r.phase.live then some (abortRun s w r) else none
  | .lose requeued, _ => if r.phase.live then some (loseRun s w r requeued) else none
  | _, _ => none

/-- Everything a run can do in one step, with the guards it passed. -/
inductive WorkerCase : WorkerAct I → Effect W → Prop
  | readGone (hp : r.phase = .delivered) (hj : s.getJob r.task.jobId r.task.tenantId = none) :
      WorkerCase .read { store := s, outside := w, run := { r with phase := .ended } }
  | readFound {j : Job} (hp : r.phase = .delivered)
      (hj : s.getJob r.task.jobId r.task.tenantId = some j) :
      WorkerCase .read { store := s, outside := w, run := { r with job := j, phase := .loaded } }
  | listCancelled {order : List Uuid} {rows : List (Uuid × Doc)} (hp : r.phase = .loaded)
      (hl : s.listForJob r.task.jobId order = some rows) (hc : r.job.status.isCancel = true) :
      WorkerCase (.list order)
        { store := s, outside := w
          run := { r with
            docs := rows.map fun p => (p.1, p.2.setStatus .skipped)
            phase := .draining } }
  | listLive {order : List Uuid} {rows : List (Uuid × Doc)} (hp : r.phase = .loaded)
      (hl : s.listForJob r.task.jobId order = some rows) (hc : r.job.status.isCancel = false) :
      WorkerCase (.list order)
        { store := s, outside := w, run := { r with docs := rows, phase := .claiming } }
  | drain (hp : r.phase = .draining) : WorkerCase .drain (drain s w r)
  | claim (hp : r.phase = .claiming) : WorkerCase .claim (claim s w r)
  | enter {listing : List Uuid} {rows : List (Uuid × Doc)} {order : Option OrderData}
      (hp : r.phase = .claimed) (hl : s.listForJob r.task.jobId listing = some rows)
      (ho : ∀ o, order = some o → o.id = r.job.orderId) :
      WorkerCase (.enter listing order) (enterLoop s w r rows order)
  | rereadGone {doc : Uuid} {todo : List Uuid} (hp : r.phase = .looping (doc :: todo))
      (hj : s.getJob r.task.jobId r.task.tenantId = none) :
      WorkerCase .reread { store := s, outside := w, run := { r with phase := .ended } }
  | rereadCancelled {doc : Uuid} {todo : List Uuid} {j : Job}
      (hp : r.phase = .looping (doc :: todo))
      (hj : s.getJob r.task.jobId r.task.tenantId = some j) (hc : j.status.isCancel = true) :
      WorkerCase .reread
        { store := s, outside := w
          run := { r with
            job := j
            docs := Run.updateDoc r.docs doc (Doc.setStatus .skipped)
            skipped := doc :: r.skipped
            phase := .looping todo } }
  | rereadLive {doc : Uuid} {todo : List Uuid} {j : Job}
      (hp : r.phase = .looping (doc :: todo))
      (hj : s.getJob r.task.jobId r.task.tenantId = some j) (hc : j.status.isCancel = false) :
      WorkerCase .reread
        { store := s, outside := w, run := { r with job := j, phase := .marking doc todo } }
  | mark {doc : Uuid} {todo : List Uuid} (hp : r.phase = .marking doc todo) :
      WorkerCase .mark (markFetching s w r doc todo)
  | call {doc : Uuid} {todo : List Uuid} (hp : r.phase = .calling doc todo) :
      WorkerCase .call (callFetcher s w r doc todo)
  | receive {input : I} {doc : Uuid} {todo : List Uuid} {d : Doc}
      (hp : r.phase = .awaiting doc todo) (hd : Run.copyOf r.docs doc = some d) :
      WorkerCase (.receive input) (receiveOutcome F now s w r input doc todo d)
  | settle {doc : Uuid} {todo : List Uuid} {outcome : FetchOutcome}
      (hp : r.phase = .settling doc todo outcome) :
      WorkerCase .settle (settleDoc now s w r doc todo outcome)
  | finish (hp : r.phase = .looping []) : WorkerCase .finish (finishJob now s w r)
  | notify {delivered : Bool} (hp : r.phase = .notifying) :
      WorkerCase (.notify delivered) (notifyCallback s w r delivered)
  | abort (hp : r.phase.live = true) : WorkerCase .abort (abortRun s w r)
  | lose {requeued : Bool} (hp : r.phase.live = true) :
      WorkerCase (.lose requeued) (loseRun s w r requeued)

theorem workerStep_cases {act : WorkerAct I} {e : Effect W}
    (h : workerStep F now s w r act = some e) : WorkerCase F now s w r act e := by
  unfold workerStep at h
  split at h
  case h_1 hp =>
    obtain rfl := Option.some.inj h
    unfold readJob
    split
    · exact .readGone hp ‹_›
    · exact .readFound hp ‹_›
  case h_2 hp =>
    obtain ⟨rows, hl, rfl⟩ := Option.map_eq_some_iff.mp h
    unfold listDocs
    split
    · exact .listCancelled hp hl ‹_›
    · exact .listLive hp hl (Bool.eq_false_of_not_eq_true ‹_›)
  case h_3 hp => exact Option.some.inj h ▸ .drain hp
  case h_4 hp => exact Option.some.inj h ▸ .claim hp
  case h_5 hp =>
    split at h
    · rename_i ho
      obtain ⟨rows, hl, rfl⟩ := Option.map_eq_some_iff.mp h
      refine .enter hp hl fun o hsome => ?_
      subst hsome
      simpa using ho
    · cases h
  case h_6 hp =>
    obtain rfl := Option.some.inj h
    unfold rereadJob
    split
    · exact .rereadGone hp ‹_›
    · split
      · exact .rereadCancelled hp ‹_› ‹_›
      · exact .rereadLive hp ‹_› (Bool.eq_false_of_not_eq_true ‹_›)
  case h_7 hp => exact Option.some.inj h ▸ .mark hp
  case h_8 hp => exact Option.some.inj h ▸ .call hp
  case h_9 hp =>
    obtain ⟨d, hd, rfl⟩ := Option.map_eq_some_iff.mp h
    exact .receive hp hd
  case h_10 hp => exact Option.some.inj h ▸ .settle hp
  case h_11 hp => exact Option.some.inj h ▸ .finish hp
  case h_12 hp => exact Option.some.inj h ▸ .notify hp
  case h_13 =>
    split at h
    · exact Option.some.inj h ▸ .abort ‹_›
    · cases h
  case h_14 =>
    split at h
    · exact Option.some.inj h ▸ .lose ‹_›
    · cases h
  case h_15 => cases h

end Step

/-! What every step of a run leaves alone. -/

/-- The columns of a job row that no operation ever rewrites. -/
structure Job.SameIdentity (a b : Job) : Prop where
  tenantId : b.tenantId = a.tenantId
  orderId : b.orderId = a.orderId
  idempotencyKey : b.idempotencyKey = a.idempotencyKey
  requestedDocTypes : b.requestedDocTypes = a.requestedDocTypes
  callbackUrl : b.callbackUrl = a.callbackUrl
  createdAt : b.createdAt = a.createdAt
  deletedAt : b.deletedAt = a.deletedAt

/-- The columns of a document row that no operation ever rewrites. -/
structure Doc.SameIdentity (a b : Doc) : Prop where
  jobId : b.jobId = a.jobId
  orderId : b.orderId = a.orderId
  docType : b.docType = a.docType
  createdAt : b.createdAt = a.createdAt
  deletedAt : b.deletedAt = a.deletedAt

theorem Job.SameIdentity.refl (a : Job) : Job.SameIdentity a a := ⟨rfl, rfl, rfl, rfl, rfl, rfl, rfl⟩

theorem Doc.SameIdentity.refl (a : Doc) : Doc.SameIdentity a a := ⟨rfl, rfl, rfl, rfl, rfl⟩

theorem Job.SameIdentity.trans {a b c : Job} (h : Job.SameIdentity a b)
    (h' : Job.SameIdentity b c) : Job.SameIdentity a c :=
  ⟨h'.tenantId.trans h.tenantId, h'.orderId.trans h.orderId,
    h'.idempotencyKey.trans h.idempotencyKey, h'.requestedDocTypes.trans h.requestedDocTypes,
    h'.callbackUrl.trans h.callbackUrl, h'.createdAt.trans h.createdAt,
    h'.deletedAt.trans h.deletedAt⟩

theorem Doc.SameIdentity.trans {a b c : Doc} (h : Doc.SameIdentity a b)
    (h' : Doc.SameIdentity b c) : Doc.SameIdentity a c :=
  ⟨h'.jobId.trans h.jobId, h'.orderId.trans h.orderId, h'.docType.trans h.docType,
    h'.createdAt.trans h.createdAt, h'.deletedAt.trans h.deletedAt⟩

theorem Doc.setStatus_sameIdentity (status : DocStatus) (d : Doc) :
    Doc.SameIdentity d (d.setStatus status) := ⟨rfl, rfl, rfl, rfl, rfl⟩

theorem Doc.applyOutcome_sameIdentity (outcome : FetchOutcome) (retries : ℕ) (stamps : Stamps)
    (d : Doc) : Doc.SameIdentity d (d.applyOutcome outcome retries stamps) := by
  cases outcome with
  | error message => exact ⟨rfl, rfl, rfl, rfl, rfl⟩
  | ok fetched =>
    simp only [Doc.applyOutcome, Doc.applyFetched]
    split
    · exact ⟨rfl, rfl, rfl, rfl, rfl⟩
    · split <;> exact ⟨rfl, rfl, rfl, rfl, rfl⟩

theorem workerStep_live {I W : Type} {F : Fetcher I W} {now : Time} {s : Store} {w : W} {r : Run}
    {act : WorkerAct I} {e : Effect W} (h : workerStep F now s w r act = some e) :
    r.phase.live = true := by
  cases workerStep_cases F now s w r h with
  | abort hp => exact hp
  | lose hp => exact hp
  | readGone hp => rw [hp]; rfl
  | readFound hp => rw [hp]; rfl
  | listCancelled hp => rw [hp]; rfl
  | listLive hp => rw [hp]; rfl
  | rereadGone hp => rw [hp]; rfl
  | rereadCancelled hp => rw [hp]; rfl
  | rereadLive hp => rw [hp]; rfl
  | drain hp => rw [hp]; rfl
  | claim hp => rw [hp]; rfl
  | enter hp => rw [hp]; rfl
  | mark hp => rw [hp]; rfl
  | call hp => rw [hp]; rfl
  | receive hp => rw [hp]; rfl
  | settle hp => rw [hp]; rfl
  | finish hp => rw [hp]; rfl
  | notify hp => rw [hp]; rfl

/-- A run keeps its task; what it publishes is about the same job. -/
theorem workerStep_task {I W : Type} {F : Fetcher I W} {now : Time} {s : Store} {w : W} {r : Run}
    {act : WorkerAct I} {e : Effect W} (h : workerStep F now s w r act = some e) :
    e.run.task = r.task ∧
      ∀ t ∈ e.publish, t.jobId = r.task.jobId ∧ t.tenantId = r.task.tenantId := by
  cases workerStep_cases F now s w r h with
  | abort hp =>
    refine ⟨rfl, fun t ht => ?_⟩
    simp only [abortRun] at ht
    split at ht
    · obtain rfl := List.mem_singleton.mp ht
      exact ⟨rfl, rfl⟩
    · cases ht
  | lose hp =>
    refine ⟨rfl, fun t ht => ?_⟩
    simp only [loseRun] at ht
    split at ht
    · obtain rfl := List.mem_singleton.mp ht
      exact ⟨rfl, rfl⟩
    · cases ht
  | _ => exact ⟨rfl, by simp [drain, claim, enterLoop, markFetching, callFetcher, receiveOutcome,
      settleDoc, finishJob, notifyCallback]⟩

/-- A run only ever reports on its own job, and one thing at a time. -/
theorem workerStep_events {I W : Type} {F : Fetcher I W} {now : Time} {s : Store} {w : W} {r : Run}
    {act : WorkerAct I} {e : Effect W} (h : workerStep F now s w r act = some e) :
    e.events.length ≤ 1 ∧ ∀ x ∈ e.events, x.job = r.task.jobId := by
  cases workerStep_cases F now s w r h with
  | call hp => simp [callFetcher, Event.job]
  | claim hp => simp [claim, Event.job]
  | notify hp => simp [notifyCallback, Event.job]
  | _ => simp [drain, enterLoop, markFetching, receiveOutcome, settleDoc, finishJob, abortRun,
      loseRun]

/-- The status a step of the run commits to its job row, if it commits one. -/
def Run.statusWrite {I : Type} (r : Run) : WorkerAct I → Option JobStatus
  | .drain => some .cancelled
  | .claim => some .running
  | .finish => some (resolveJobTerminalStatus r.job.status (r.docs.map Prod.snd))
  | _ => none

/-- The job row of the task is the only one a step of the run can touch. -/
theorem workerStep_jobs {I W : Type} {F : Fetcher I W} {now : Time} {s : Store} {w : W} {r : Run}
    {act : WorkerAct I} {e : Effect W} (h : workerStep F now s w r act = some e) :
    ∃ g : Job → Job, e.store.jobs = s.jobs.modify r.task.jobId g ∧
      ∀ row, Job.SameIdentity row (g row) ∧ (g row).status = (r.statusWrite act).getD row.status := by
  have same : ∃ g : Job → Job, s.jobs = s.jobs.modify r.task.jobId g ∧
      ∀ row, Job.SameIdentity row (g row) ∧ (g row).status = row.status :=
    ⟨fun row => row, (Table.modify_id _ _).symm, fun row => ⟨.refl row, rfl⟩⟩
  cases workerStep_cases F now s w r h with
  | drain hp => exact ⟨r.drainRow, rfl, fun row => ⟨⟨rfl, rfl, rfl, rfl, rfl, rfl, rfl⟩, rfl⟩⟩
  | claim hp => exact ⟨r.claimRow, rfl, fun row => ⟨⟨rfl, rfl, rfl, rfl, rfl, rfl, rfl⟩, rfl⟩⟩
  | finish hp =>
    exact ⟨r.finishRow now, rfl, fun row => ⟨⟨rfl, rfl, rfl, rfl, rfl, rfl, rfl⟩, rfl⟩⟩
  | @notify delivered hp =>
    cases delivered with
    | false => exact same
    | true =>
      exact ⟨fun j => { j with callbackDelivered := true }, rfl,
        fun row => ⟨⟨rfl, rfl, rfl, rfl, rfl, rfl, rfl⟩, rfl⟩⟩
  | _ => exact same

theorem Run.skipRow_sameIdentity (skipped : List Uuid) (d : Uuid) (row : Doc) :
    Doc.SameIdentity row (Run.skipRow skipped d row) := by
  unfold Run.skipRow
  split
  · exact row.setStatus_sameIdentity .skipped
  · exact .refl row

theorem Run.fetchingRow_sameIdentity (doc d : Uuid) (row : Doc) :
    Doc.SameIdentity row (Run.fetchingRow doc d row) := by
  unfold Run.fetchingRow
  split
  · exact row.setStatus_sameIdentity .fetching
  · exact .refl row

theorem Run.settleRow_sameIdentity (r : Run) (now : Time) (doc : Uuid) (outcome : FetchOutcome)
    (d : Uuid) (row : Doc) : Doc.SameIdentity row (r.settleRow now doc outcome d row) := by
  unfold Run.settleRow
  split
  · exact row.applyOutcome_sameIdentity _ _ _
  · exact .refl row

/-- No step of a run creates, deletes or moves a document row. -/
theorem workerStep_docs {I W : Type} {F : Fetcher I W} {now : Time} {s : Store} {w : W} {r : Run}
    {act : WorkerAct I} {e : Effect W} (h : workerStep F now s w r act = some e) :
    ∃ f : Uuid → Doc → Doc, e.store.docs = s.docs.adjust f ∧
      ∀ d row, Doc.SameIdentity row (f d row) := by
  have same : ∃ f : Uuid → Doc → Doc, s.docs = s.docs.adjust f ∧
      ∀ d row, Doc.SameIdentity row (f d row) :=
    ⟨fun _ row => row, (Table.adjust_id _).symm, fun _ row => .refl row⟩
  cases workerStep_cases F now s w r h with
  | drain hp => exact ⟨Run.skipRow _, rfl, Run.skipRow_sameIdentity _⟩
  | finish hp => exact ⟨Run.skipRow _, rfl, Run.skipRow_sameIdentity _⟩
  | @mark doc todo hp =>
    refine ⟨_, Table.adjust_adjust s.docs (Run.skipRow r.skipped) (Run.fetchingRow doc),
      fun d row => ?_⟩
    exact (Run.skipRow_sameIdentity _ d row).trans (Run.fetchingRow_sameIdentity _ d _)
  | @settle doc todo outcome hp =>
    exact ⟨r.settleRow now doc outcome, rfl, r.settleRow_sameIdentity now doc outcome⟩
  | @notify delivered hp => cases delivered <;> exact same
  | _ => exact same

end ResearchEngine
