import ResearchEngine.DocumentOrder
import ResearchEngine.RaisingPrograms
import ResearchEngine.ServiceCalls

/-! The five writing calls of the service, statement by statement: what a call has committed and
enqueued when it raises, wherever the database or the broker fails. -/
namespace ResearchEngine

/-- An exception of a database statement. -/
inductive DbError
  /-- `IntegrityError` -/
  | integrity
  | other (message : String)
  deriving DecidableEq, Repr

inductive CallError
  | service (e : ApiError)
  | database (e : DbError)
  deriving DecidableEq, Repr

/-- Every error of the service but the broker's is a `ResearchEngineError`. -/
def CallError.isResearchEngineError : CallError → Bool
  | .service .enqueueFailed | .database _ => false
  | .service _ => true

/-- A database session: the committed rows, the rows as its transaction sees them, the statements
so far, and the tasks that the broker has been given. -/
structure Connection where
  committed : Store
  working : Store
  statements : ℕ := 0
  published : List Task := []

def Connection.opened (s : Store) : Connection := { committed := s, working := s }

/-- What a call meets outside itself. -/
structure Surroundings where
  /-- The exception that a statement of the call raises whatever it says. -/
  fault : ℕ → Option DbError
  orderProvider : Option (Uuid → Uuid → Except CallError (Option OrderData))
  /-- Whether the broker accepts a task, when one is configured. -/
  enqueue : Option Bool
  now : Time
  /-- The generated ids. -/
  job : Uuid
  key : Uuid
  docId : ℕ → Uuid

namespace Transactions

open Program

/-- A call of the service. -/
abbrev Call (A : Type) : Type := Program Connection CallError A

variable (out : Surroundings)

/-- Send one statement to the database. -/
def execute : Call Unit := fun c =>
  let c' := { c with statements := c.statements + 1 }
  match out.fault c.statements with
  | none => (.ok (), c')
  | some e => (.error (.database e), c')

/-- A query of the rows that the transaction sees. -/
def select {A : Type} (f : Store → A) : Call A := do
  execute out
  inspect fun c => f c.working

/-- `db.flush()`; `none` is a violated constraint. -/
def flush (f : Store → Option Store) : Call Unit := do
  execute out
  match ← inspect fun c => f c.working with
  | none => raise (.database .integrity)
  | some s => update fun c => { c with working := s }

def commit : Call Unit := do
  execute out
  update fun c => { c with committed := c.working }

def rollback : Call Unit := do
  execute out
  update fun c => { c with working := c.committed }

/-- `db.refresh(job)` -/
def refresh : Call Unit := execute out

/-! `create_job` -/

/-- The `INSERT` of a job, with the primary key and the key of the tenant checked. -/
def addJob (job : Uuid) (row : Job) (s : Store) : Option Store :=
  if s.jobs.rows.any fun r => r.2.idempotencyKey = row.idempotencyKey ∧ r.2.tenantId = row.tenantId
  then none
  else (s.jobs.insert? job row).map fun jobs => { s with jobs := jobs }

/-- The `INSERT` of a document, with the primary key and the type within the job checked. -/
def addDoc (d : Uuid) (row : Doc) (s : Store) : Option Store :=
  if s.docs.rows.any fun r => r.2.jobId = row.jobId ∧ r.2.docType = row.docType then none
  else (s.docs.insert? d row).map fun docs => { s with docs := docs }

/-- The loop of `create_job` over the document types. -/
def createDocs (orderId : Uuid) : List (Uuid × DocType) → Call Unit
  | [] => pure ()
  | (d, docType) :: rest => do
    flush out (addDoc d (newDoc out.now out.job orderId docType))
    createDocs orderId rest

/-- The generated ids of the documents. -/
def docIds (docTypes : List DocType) : List Uuid := (List.range docTypes.length).map out.docId

/-- The `try` block of `create_job`. -/
def insertAll (req : CreateRequest) (orderId : Uuid) (docTypes : List DocType) : Call Unit := do
  flush out (addJob out.job (newJob out.now req orderId (req.idempotencyKey.getD out.key) docTypes))
  createDocs out orderId ((docIds out docTypes).zip docTypes)
  commit out

/-- `get_by_idempotency`, when there is a key. -/
def existingJob (req : CreateRequest) : Call (Option Uuid) :=
  match req.idempotencyKey with
  | none => pure none
  | some key => do
    let found ← select out fun s => s.getByIdempotency key req.tenantId
    return found.map Prod.fst

/-- The `except IntegrityError` block of `create_job`. -/
def recoverJob (req : CreateRequest) : Call (Option Uuid) := do
  rollback out
  match ← existingJob out req with
  | some job => return some job
  | none => raise (.service .idempotencyConflict)

/-- Anything but an `IntegrityError` is raised on. -/
def onIntegrity {A : Type} (handler : Call A) : CallError → Call A
  | .database .integrity => handler
  | e => raise e

section Calls

variable [PyText]

/-- `_resolve_order` and `_validate_doc_types` -/
def resolveCall (req : CreateRequest) : Call (Uuid × List DocType) :=
  match out.orderProvider with
  | none => raise (.service (.orderNotResearchable "Order provider not configured"))
  | some provider => do
    let order ← ofExcept (provider req.orderId req.tenantId)
    ofExcept ((resolveRequest req order).mapError .service)

/-- `self.enqueue` -/
def enqueueJob (req : CreateRequest) : Call Unit :=
  match out.enqueue with
  | none => pure ()
  | some false => raise (.service .enqueueFailed)
  | some true => update fun c =>
      { c with published :=
          c.published ++ [{ jobId := out.job, tenantId := req.tenantId, actorId := req.actorId }] }

/-- `create_job` -/
def createJob (req : CreateRequest) : Call Uuid := do
  let (orderId, docTypes) ← resolveCall out req
  match ← existingJob out req with
  | some job => return job
  | none =>
    let inserted : Call (Option Uuid) := do
      insertAll out req orderId docTypes
      return none
    match ← attempt inserted (onIntegrity (recoverJob out req)) with
    | some job => return job
    | none =>
      refresh out
      enqueueJob out req
      return out.job

omit [PyText] in
/-- `get_job` -/
def getJob (tenantId job : Uuid) : Call Job := do
  match ← select out fun s => s.getJob job tenantId with
  | none => raise (.service .jobNotFound)
  | some j => return j

/-- `retry_job` -/
def retryJob (tenantId actorId job : Uuid) (docTypes : Option (List String)) : Call Uuid := do
  let original ← getJob out tenantId job
  if original.status.retryable then
    let failed ← select out fun s => s.listFailed job
    let failedTypes := failed.map fun d => d.2.docType.name
    let wanted := match docTypes with
      | none => failedTypes
      | some ts => ts.filter fun t => t ∈ failedTypes
    if wanted.isEmpty then raise (.service (.jobNotRetryable "No failed documents to retry"))
    else
      createJob out {
        tenantId := tenantId
        actorId := actorId
        orderId := original.orderId
        docTypes := wanted
        idempotencyKey := none }
  else raise (.service (.jobNotRetryable "Original job is not in a retryable state"))

end Calls

/-- `ResearchJobRepository.save`, the commit and the refresh of a changed job. -/
def saveJob (job : Uuid) (f : Job → Job) : Call Uuid := do
  flush out fun s => some (s.modifyJob job f)
  commit out
  refresh out
  return job

/-- `cancel_job` -/
def cancelJob (tenantId job : Uuid) (reason : Option String) : Call Uuid := do
  let j ← getJob out tenantId job
  if j.status = .queued ∨ j.status = .running ∨ j.status = .cancelling then
    saveJob out job (applyCancel j.status reason)
  else raise (.service .jobNotCancellable)

/-- `mark_reviewed` -/
def markReviewed (tenantId job : Uuid) : Call Uuid := do
  let j ← getJob out tenantId job
  if j.status = .completed ∨ j.status = .partialResult then
    saveJob out job (Job.setStatus .reviewed)
  else
    raise (.service (.orderNotResearchable "Only completed/partial jobs can be marked reviewed"))

/-- `archive_job` -/
def archiveJob (tenantId job : Uuid) : Call Uuid := do
  let j ← getJob out tenantId job
  if j.status = .reviewed then saveJob out job (Job.setStatus .archived)
  else raise (.service (.orderNotResearchable "Only reviewed jobs can be archived"))

/-! What holds when a call has returned or raised. -/

/-- Nothing has been committed or enqueued. -/
def Unwritten (s : Store) (c : Connection) : Prop := c.committed = s ∧ c.published = []

/-- Moreover the transaction sees these rows. -/
def Writing (s w : Store) (c : Connection) : Prop := Unwritten s c ∧ c.working = w

/-- If every job had its full set of documents before, every job has it now. -/
def KeepsSets (s : Store) (c : Connection) : Prop := s.Complete → c.committed.Complete

/-- What a call that raises leaves behind. -/
def Failed (s : Store) (e : CallError) (c : Connection) : Prop :=
  (e.isResearchEngineError = true → Unwritten s c) ∧ KeepsSets s c

/-- Statements are not counted. -/
def Stable (I : Connection → Prop) : Prop := ∀ c n, I c → I { c with statements := n }

section Statements

variable {out : Surroundings} {s w : Store} {I J : Connection → Prop}

theorem Unwritten.stable : Stable (Unwritten s) := fun _ _ h => h

theorem Writing.stable : Stable (Writing s w) := fun _ _ h => h

theorem KeepsSets.stable : Stable (KeepsSets s) := fun _ _ h => h

theorem Unwritten.keepsSets {c : Connection} (h : Unwritten s c) : KeepsSets s c := by
  intro hs
  rw [h.1]
  exact hs

theorem Unwritten.failed {c : Connection} (h : Unwritten s c) (e : CallError) : Failed s e c :=
  ⟨fun _ => h, h.keepsSets⟩

/-- A statement that fails raises no error of the service. -/
theorem execute_ensures (hI : Stable I) :
    Ensures I (execute out) (fun _ => I) (fun e c => e.isResearchEngineError = false ∧ I c) := by
  intro c hc
  show Outcome _ _ (execute out c)
  unfold execute
  cases out.fault c.statements with
  | none => exact hI c _ hc
  | some e => exact ⟨rfl, hI c _ hc⟩

theorem execute_within (hI : Stable I) : Ensures I (execute out) (fun _ => I) (fun _ => I) :=
  (execute_ensures hI).imp_raises (fun _ _ h => h.2)

theorem select_ensures (hI : Stable I) {A : Type} (f : Store → A) :
    Ensures I (select out f) (fun _ => I) (fun _ => I) := by
  apply Ensures.bind (execute_within hI)
  intro _
  exact ensures_inspect fun c hc => hc

theorem flush_ensures (hI : Stable I) {f : Store → Option Store}
    (hJ : ∀ c w, I c → f c.working = some w → J { c with working := w }) :
    Ensures I (flush out f) (fun _ => J) (fun _ => I) := by
  apply Ensures.bind (execute_within hI)
  intro _
  apply Ensures.bind (Q := fun found c => I c ∧ f c.working = found)
  · exact ensures_inspect fun c hc => ⟨hc, rfl⟩
  · intro found
    cases found with
    | none => exact ensures_raise fun c hc => hc.1
    | some w => exact ensures_update fun c hc => hJ c w hc.1 hc.2

theorem commit_ensures (hI : Stable I) (hJ : ∀ c, I c → J { c with committed := c.working }) :
    Ensures I (commit out) (fun _ => J) (fun _ => I) := by
  apply Ensures.bind (execute_within hI)
  intro _
  exact ensures_update hJ

theorem rollback_ensures :
    Ensures (Unwritten s) (rollback out) (fun _ => Unwritten s) (fun _ => Unwritten s) := by
  apply Ensures.bind (execute_within Unwritten.stable)
  intro _
  exact ensures_update fun c hc => hc

end Statements

/-! The `try` block is the insert transaction. -/

section Insert

variable {out : Surroundings} {s w : Store}

theorem addDoc_eq_some {d : Uuid} {row : Doc} {w' : Store} (h : addDoc d row w = some w') :
    (∀ r ∈ w.docs.rows, r.2.jobId = row.jobId → r.2.docType ≠ row.docType) ∧
      ∃ table, w.docs.insert? d row = some table ∧ w' = { w with docs := table } := by
  unfold addDoc at h
  split at h
  · cases h
  · rename_i hfree
    obtain ⟨table, htable, rfl⟩ := Option.map_eq_some_iff.mp h
    refine ⟨fun r hr hjob htype => hfree (List.any_eq_true.mpr ⟨r, hr, ?_⟩), table, htable, rfl⟩
    exact decide_eq_true ⟨hjob, htype⟩

theorem addJob_eq_some {job : Uuid} {row : Job} {w' : Store} (h : addJob job row w = some w') :
    (w.jobs.rows.any fun r => r.2.idempotencyKey = row.idempotencyKey ∧
        r.2.tenantId = row.tenantId) = false ∧
      ∃ table, w.jobs.insert? job row = some table ∧ w' = { w with jobs := table } := by
  unfold addJob at h
  split at h
  · cases h
  · rename_i hfree
    obtain ⟨table, htable, rfl⟩ := Option.map_eq_some_iff.mp h
    exact ⟨eq_false_of_ne_true hfree, table, htable, rfl⟩

/-- The loop has inserted the documents it went through, of distinct types. -/
theorem createDocs_ensures (orderId : Uuid) (ds : List (Uuid × DocType)) (w : Store) :
    Ensures (Writing s w) (createDocs out orderId ds)
      (fun _ c => (ds.map Prod.snd).Nodup ∧
        (∀ r ∈ w.docs.rows, r.2.jobId = out.job → r.2.docType ∉ ds.map Prod.snd) ∧
        ∃ table, insertDocs out.now out.job orderId ds w.docs = some table ∧
          Writing s { w with docs := table } c)
      (fun _ => Unwritten s) := by
  induction ds generalizing w with
  | nil =>
    apply ensures_pure
    intro c hc
    exact ⟨List.nodup_nil, fun _ _ _ => List.not_mem_nil, w.docs, rfl, hc⟩
  | cons p ds ih =>
    obtain ⟨d, docType⟩ := p
    apply Ensures.bind (Q := fun _ c => ∃ w',
      addDoc d (newDoc out.now out.job orderId docType) w = some w' ∧ Writing s w' c)
    · refine (flush_ensures Writing.stable fun c w' hc hf => ?_).imp_raises fun _ _ h => h.1
      rw [hc.2] at hf
      exact ⟨w', hf, hc.1, rfl⟩
    · intro _ c hc
      obtain ⟨w', hw', hc⟩ := hc
      obtain ⟨hfree, table, htable, rfl⟩ := addDoc_eq_some hw'
      refine (ih { w with docs := table }).imp_returns (fun _ c h => ?_) c hc
      obtain ⟨hnodup, hother, table', htable', hc⟩ := h
      obtain ⟨hd, rfl⟩ := (Table.insert?_eq_some_iff _ _ _ _).mp htable
      refine ⟨?_, fun r hr hjob => ?_, table', ?_, hc⟩
      · refine List.nodup_cons.mpr ⟨?_, hnodup⟩
        exact hother (d, newDoc out.now out.job orderId docType) (by simp [Table.insert]) rfl
      · rw [List.map_cons, List.mem_cons, not_or]
        exact ⟨hfree r hr hjob, hother r (by simp [Table.insert, hr]) hjob⟩
      · rw [insertDocs, htable]
        exact htable'

/-- What the `try` block commits is what the insert step of a session commits. -/
theorem insertAll_ensures (req : CreateRequest) (orderId : Uuid) (docTypes : List DocType) :
    Ensures (Writing s s) (insertAll out req orderId docTypes)
      (fun _ c => insertJob out.now s req orderId docTypes out.job out.key (docIds out docTypes) =
        some { store := c.committed, session := .created out.job req })
      (fun _ => Unwritten s) := by
  have hlen : (docIds out docTypes).length = docTypes.length := by simp [docIds]
  have htypes : ((docIds out docTypes).zip docTypes).map Prod.snd = docTypes :=
    List.map_snd_zip hlen.ge
  generalize hrow : newJob out.now req orderId (req.idempotencyKey.getD out.key) docTypes = row
  apply Ensures.bind (Q := fun _ c => ∃ w', addJob out.job row s = some w' ∧ Writing s w' c)
  · rw [hrow]
    refine (flush_ensures Writing.stable fun c w' hc hf => ?_).imp_raises fun _ _ h => h.1
    rw [hc.2] at hf
    exact ⟨w', hf, hc.1, rfl⟩
  · intro _ c hc
    obtain ⟨w', hw', hc⟩ := hc
    obtain ⟨hfree, jobs, hjobs, rfl⟩ := addJob_eq_some hw'
    revert c
    show Ensures (Writing s { s with jobs := jobs }) _ _ _
    apply Ensures.bind (createDocs_ensures orderId _ _)
    intro _ c hc
    obtain ⟨hnodup, -, table, htable, hc⟩ := hc
    refine (commit_ensures Writing.stable fun c hc => ?_).imp_raises (fun _ _ h => h.1) c hc
    have hunique : violatesUnique s (req.idempotencyKey.getD out.key) req.tenantId docTypes = false := by
      rw [htypes] at hnodup
      subst hrow
      refine decide_eq_false ?_
      rintro (htaken | hdup)
      · exact absurd (htaken.symm.trans hfree) (by simp)
      · exact hdup hnodup
    unfold insertJob
    simp only [hunique, Bool.false_eq_true, if_false, hlen, if_true, hrow, hjobs, Option.bind_some,
      htable, Option.map_some]
    rw [hc.2]

end Insert

/-! The calls. -/

section Calls

variable {out : Surroundings} {s : Store}

/-- A program that neither commits nor enqueues anything. -/
def Reads {A : Type} (s : Store) (p : Call A) : Prop :=
  Ensures (Unwritten s) p (fun _ => Unwritten s) (fun _ => Unwritten s)

theorem existingJob_reads {I : Connection → Prop} (hI : Stable I) (req : CreateRequest) :
    Ensures I (existingJob out req) (fun _ => I) (fun _ => I) := by
  unfold existingJob
  split
  · exact ensures_pure fun c hc => hc
  · apply Ensures.bind (select_ensures hI _)
    intro _
    exact ensures_pure fun c hc => hc

theorem recoverJob_reads (req : CreateRequest) : Reads s (recoverJob out req) := by
  apply Ensures.bind rollback_ensures
  intro _
  apply Ensures.bind (existingJob_reads Unwritten.stable req)
  intro found
  cases found with
  | none => exact ensures_raise fun c hc => hc
  | some job => exact ensures_pure fun c hc => hc

theorem onIntegrity_reads {A : Type} {handler : Call A} (h : Reads s handler) (e : CallError) :
    Reads s (onIntegrity handler e) := by
  unfold onIntegrity
  split
  · exact h
  · exact ensures_raise fun c hc => hc

theorem getJob_reads {I : Connection → Prop} (hI : Stable I) (tenantId job : Uuid) :
    Ensures I (getJob out tenantId job) (fun _ => I) (fun _ => I) := by
  apply Ensures.bind (select_ensures hI _)
  intro found
  cases found with
  | none => exact ensures_raise fun c hc => hc
  | some j => exact ensures_pure fun c hc => hc

theorem refresh_ensures :
    Ensures (KeepsSets s) (refresh out) (fun _ => KeepsSets s) (Failed s) := by
  refine (execute_ensures KeepsSets.stable).imp_raises ?_
  intro e c h
  exact ⟨fun he => absurd (he.symm.trans h.1) (by simp), h.2⟩

/-- The commit of a changed job: every error after it is one of the database. -/
theorem saveJob_ensures (job : Uuid) {f : Job → Job} (hf : ∀ j, Job.SameIdentity j (f j)) :
    Ensures (Writing s s) (saveJob out job f) (fun _ => KeepsSets s) (Failed s) := by
  have hsets : s.Complete → (s.modifyJob job f).Complete := fun hs =>
    hs.extends (s.extends_modifyJob job hf) (Table.modify_keys _ _ _) rfl
  apply Ensures.bind (Q := fun _ => Writing s (s.modifyJob job f))
  · refine (flush_ensures Writing.stable fun c w' hc hw' => ?_).imp_raises fun e _ h => h.1.failed e
    rw [hc.2] at hw'
    exact ⟨hc.1, (Option.some.inj hw').symm⟩
  · intro _
    apply Ensures.bind (Q := fun _ => KeepsSets s)
    · refine (commit_ensures Writing.stable fun c hc hs => ?_).imp_raises fun e _ h => h.1.failed e
      show c.working.Complete
      rw [hc.2]
      exact hsets hs
    · intro _
      apply Ensures.bind refresh_ensures
      intro _
      exact ensures_pure fun c hc => hc

variable [PyText]

theorem resolveCall_reads {I : Connection → Prop} (req : CreateRequest) :
    Ensures I (resolveCall out req) (fun _ => I) (fun _ => I) := by
  unfold resolveCall
  split
  · exact ensures_raise fun c hc => hc
  · apply Ensures.bind (ensures_ofExcept (fun _ _ c hc => hc) fun _ _ c hc => hc)
    intro _
    exact ensures_ofExcept (fun _ _ c hc => hc) fun _ _ c hc => hc

omit [PyText] in
theorem enqueueJob_ensures (req : CreateRequest) :
    Ensures (KeepsSets s) (enqueueJob out req) (fun _ => KeepsSets s) (Failed s) := by
  unfold enqueueJob
  split
  · exact ensures_pure fun c hc => hc
  · exact ensures_raise fun c hc => ⟨fun he => (by cases he), hc⟩
  · exact ensures_update fun c hc => hc

/-- The job is committed with all its documents or not at all. -/
theorem createJob_ensures (req : CreateRequest) :
    Ensures (Writing s s) (createJob out req) (fun _ => KeepsSets s) (Failed s) := by
  apply Ensures.bind (Q := fun _ => Writing s s)
  · exact (resolveCall_reads req).imp_raises fun e _ h => h.1.failed e
  · rintro ⟨orderId, docTypes⟩
    apply Ensures.bind (Q := fun _ => Writing s s)
    · exact (existingJob_reads Writing.stable req).imp_raises fun e _ h => h.1.failed e
    · intro found
      cases found with
      | some job => exact ensures_pure fun c hc => hc.1.keepsSets
      | none =>
        apply Ensures.bind (Q := fun _ => KeepsSets s)
        · apply Ensures.attempt (R := fun _ => Unwritten s)
          · apply Ensures.bind (insertAll_ensures req orderId docTypes)
            intro _
            exact ensures_pure fun c hc hs => insertJob_complete hs hc
          · intro e
            refine ((onIntegrity_reads (recoverJob_reads req) e).imp_returns ?_).imp_raises ?_
            · exact fun _ _ h => h.keepsSets
            · exact fun e _ h => h.failed e
        · intro created
          cases created with
          | some job => exact ensures_pure fun c hc => hc
          | none =>
            apply Ensures.bind refresh_ensures
            intro _
            apply Ensures.bind (enqueueJob_ensures req)
            intro _
            exact ensures_pure fun c hc => hc

theorem retryJob_ensures (tenantId actorId job : Uuid) (docTypes : Option (List String)) :
    Ensures (Writing s s) (retryJob out tenantId actorId job docTypes) (fun _ => KeepsSets s)
      (Failed s) := by
  apply Ensures.bind (Q := fun _ => Writing s s)
  · exact (getJob_reads Writing.stable tenantId job).imp_raises fun e _ h => h.1.failed e
  · intro original
    apply ensures_ite
    · intro _
      apply Ensures.bind (Q := fun _ => Writing s s)
      · exact (select_ensures Writing.stable _).imp_raises fun e _ h => h.1.failed e
      · intro failed
        apply ensures_ite
        · intro _
          exact ensures_raise fun c hc => hc.1.failed _
        · intro _
          exact createJob_ensures _
    · intro _
      exact ensures_raise fun c hc => hc.1.failed _

omit [PyText] in
/-- A call that reads the job, checks its status and saves it. -/
theorem guarded_ensures {tenantId job : Uuid} {allowed : Job → Prop} [DecidablePred allowed]
    {f : Job → Job → Job} {e : ApiError} (hf : ∀ j row, Job.SameIdentity row (f j row)) :
    Ensures (Writing s s)
      (getJob out tenantId job >>= fun j =>
        if allowed j then saveJob out job (f j) else raise (.service e))
      (fun _ => KeepsSets s) (Failed s) := by
  apply Ensures.bind (Q := fun _ => Writing s s)
  · exact (getJob_reads Writing.stable tenantId job).imp_raises fun e _ h => h.1.failed e
  · intro j
    apply ensures_ite
    · intro _
      exact saveJob_ensures job (hf j)
    · intro _
      exact ensures_raise fun c hc => hc.1.failed _

/-- A writing call of the service. -/
inductive WritingCall
  | createJob (req : CreateRequest)
  | retryJob (tenantId actorId job : Uuid) (docTypes : Option (List String))
  | cancelJob (tenantId job : Uuid) (reason : Option String)
  | markReviewed (tenantId job : Uuid)
  | archiveJob (tenantId job : Uuid)
  deriving DecidableEq, Repr

def perform (out : Surroundings) : WritingCall → Call Uuid
  | .createJob req => createJob out req
  | .retryJob tenantId actorId job docTypes => retryJob out tenantId actorId job docTypes
  | .cancelJob tenantId job reason => cancelJob out tenantId job reason
  | .markReviewed tenantId job => markReviewed out tenantId job
  | .archiveJob tenantId job => archiveJob out tenantId job

theorem perform_ensures (call : WritingCall) :
    Ensures (Writing s s) (perform out call) (fun _ => KeepsSets s) (Failed s) := by
  cases call with
  | createJob req => exact createJob_ensures req
  | retryJob tenantId actorId job docTypes => exact retryJob_ensures tenantId actorId job docTypes
  | cancelJob tenantId job reason =>
    exact guarded_ensures fun j row => applyCancel_sameIdentity j.status reason row
  | markReviewed tenantId job =>
    exact guarded_ensures fun j row => ⟨rfl, rfl, rfl, rfl, rfl, rfl, rfl⟩
  | archiveJob tenantId job =>
    exact guarded_ensures fun j row => ⟨rfl, rfl, rfl, rfl, rfl, rfl, rfl⟩

/-- A call that raises an error of the service has committed and enqueued nothing, wherever it
failed; and whatever a call comes to, every job still has its full set of documents. -/
theorem service_errors_atomic (out : Surroundings) (s : Store) (call : WritingCall) :
    (∀ e, ((perform out call).run (.opened s)).1 = .error e → e.isResearchEngineError = true →
      ((perform out call).run (.opened s)).2.committed = s ∧
        ((perform out call).run (.opened s)).2.published = []) ∧
      (s.Complete → ((perform out call).run (.opened s)).2.committed.Complete) := by
  have h : Outcome (fun _ => KeepsSets s) (Failed s) ((perform out call).run (.opened s)) :=
    perform_ensures call (.opened s) ⟨⟨rfl, rfl⟩, rfl⟩
  revert h
  rcases (perform out call).run (.opened s) with ⟨result, c⟩
  cases result with
  | ok job => exact fun h => ⟨fun e he => (by cases he), h⟩
  | error e =>
    intro h
    refine ⟨fun e' he' hservice => ?_, h.2⟩
    obtain rfl := Except.error.inj he'
    exact h.1 hservice

end Calls

section Concrete

open JobMachine
open scoped PyText.Ascii

/-- The insert of the second document violates a constraint. -/
def faultyDatabase : Surroundings where
  fault n := if n = 2 then some .integrity else none
  orderProvider := some fun _ _ => .ok (some sampleOrder)
  enqueue := some true
  now := 5
  job := 40
  key := 41
  docId n := 50 + n

/-- A request for three documents, without a key. -/
def threeDocuments : WritingCall :=
  .createJob { sampleRequest with
    docTypes := ["deed", "plat", "flood"]
    idempotencyKey := none }

theorem second_document_rejected :
    ((perform faultyDatabase threeDocuments).run (.opened submittedState.store)).1 =
        .error (.service .idempotencyConflict) ∧
      ((perform faultyDatabase threeDocuments).run (.opened submittedState.store)).2.committed =
        submittedState.store ∧
      ((perform faultyDatabase threeDocuments).run (.opened submittedState.store)).2.published = [] ∧
      ((perform faultyDatabase threeDocuments).run
        (.opened submittedState.store)).2.committed.Complete := by
  have hraised : ((perform faultyDatabase threeDocuments).run (.opened submittedState.store)).1 =
      .error (.service .idempotencyConflict) := by decide +kernel
  obtain ⟨hatomic, hsets⟩ := service_errors_atomic faultyDatabase submittedState.store threeDocuments
  obtain ⟨hstore, hqueue⟩ := hatomic _ hraised rfl
  have hreach : Reachable linkFetcher {} submittedState :=
    ⟨(), 0, _, .of_exec (TransitionRuns.exec_outcome (by decide +kernel))⟩
  exact ⟨hraised, hstore, hqueue, hsets hreach.together.toComplete⟩

end Concrete

end Transactions
end ResearchEngine
