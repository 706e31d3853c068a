import ResearchEngine.WorkerRun
import ResearchEngine.PyText
import Mathlib.Data.List.Dedup

/-! The API operations on jobs, each as the reads and commits of one request
session. The guards look at the copy of the row that the session has read; the
commits write unconditionally. -/
namespace ResearchEngine

inductive ApiError
  | orderNotFound | orderNotResearchable (message : String) | invalidDocTypes (message : String)
  | jobNotFound | jobNotRetryable (message : String) | jobNotCancellable
  | idempotencyConflict | enqueueFailed
  deriving DecidableEq, Repr

structure CreateRequest where
  tenantId : Uuid
  actorId : Uuid
  orderId : Uuid
  docTypes : List String
  idempotencyKey : Option Uuid
  callbackUrl : Option String := none
  deriving DecidableEq, Repr

section DocTypes

variable [PyText]

def DocType.all : List DocType :=
  [.parcelRecord, .propertyAppraiserTaxRecord, .recordedPlatSubdivisionMap, .deedSubjectParcel,
    .femaFloodZoneFirm, .ngsControl]

/-- `t in DOC_TYPE_TO_STEP`. -/
def DocType.ofName (t : String) : Option DocType := DocType.all.find? fun d => d.name = t

/-- The step short names that the API accepts as aliases. -/
def StepKey.aliases : List (String × DocType) :=
  [("parcel", .parcelRecord), ("appraiser", .propertyAppraiserTaxRecord),
    ("plat", .recordedPlatSubdivisionMap), ("deed", .deedSubjectParcel),
    ("flood", .femaFloodZoneFirm), ("benchmarks", .ngsControl)]

/-- `t.lower() in STEP_TO_DOC_TYPE`. -/
def DocType.ofAlias (t : String) : Option DocType :=
  (StepKey.aliases.find? fun p => p.1 = PyText.lower t).map Prod.snd

def DocType.parse (t : String) : Option DocType := (DocType.ofName t).or (DocType.ofAlias t)

def sortedNames (names : List String) : String :=
  ", ".intercalate (names.mergeSort (fun a b => a ≤ b))

/-- `_validate_doc_types`: normalise, reject unknown names, keep first occurrences. -/
def validateDocTypes (docTypes : List String) : Except ApiError (List DocType) :=
  if docTypes.isEmpty then .ok DocType.all
  else
    let unknown := docTypes.filter fun t => (DocType.parse t).isNone
    if unknown.isEmpty then
      .ok ((docTypes.filterMap DocType.parse).reverse.dedup.reverse)
    else .error (.invalidDocTypes ("unsupported document_types: " ++ sortedNames unknown ++
      " (supported: " ++ sortedNames (DocType.all.map DocType.name) ++ ")"))

end DocTypes

/-- Where one API request stands. -/
inductive Session
  | idle
  | checking (req : CreateRequest)
  | inserting (req : CreateRequest) (orderId : Uuid) (docTypes : List DocType)
  | recovering (req : CreateRequest)
  | created (job : Uuid) (req : CreateRequest)
  | enqueueing (job : Uuid) (req : CreateRequest) (status : JobStatus)
  | cancelling (job : Uuid) (seen : JobStatus) (reason : Option String)
  | reviewing (job : Uuid) (seen : JobStatus)
  | archiving (job : Uuid) (seen : JobStatus)
  | refreshing (job : Uuid)
  | returned (job : Uuid) (status : JobStatus)
  | raised (error : ApiError)
  deriving Inhabited

inductive ApiAct
  | create (req : CreateRequest)
  | retry (tenantId actorId job : Uuid) (docTypes : Option (List String))
  | cancel (tenantId job : Uuid) (reason : Option String)
  | review (tenantId job : Uuid)
  | archive (tenantId job : Uuid)
  /-- `create_job` up to the idempotency pre-check; the order provider's answer. -/
  | check (order : Option OrderData)
  /-- Insert the job and its documents and commit; the server-generated ids. -/
  | insert (job freshKey : Uuid) (docs : List Uuid)
  | recover
  | enqueue (accepted : Bool)
  | commit
  /-- `db.refresh(job)`. -/
  | refresh
  deriving DecidableEq, Repr

structure ApiEffect where
  store : Store
  session : Session
  publish : List Task := []

section Step

variable [PyText] (now : Time) (s : Store)

/-- `_resolve_order` followed by `_validate_doc_types`. -/
def resolveRequest (req : CreateRequest) : Option OrderData → Except ApiError (Uuid × List DocType)
  | none => .error .orderNotFound
  | some order =>
    if order.addressLine1 = "" then
      .error (.orderNotResearchable "Order has no address — cannot research")
    else (validateDocTypes req.docTypes).map (order.id, ·)

/-- The checks of `create_job` and its idempotency pre-check. -/
def checkCreate (req : CreateRequest) (order : Option OrderData) : Session :=
  match resolveRequest req order with
  | .error e => .raised e
  | .ok (orderId, docTypes) =>
    match req.idempotencyKey.bind fun key => s.getByIdempotency key req.tenantId with
    | some (job, row) => .returned job row.status
    | none => .inserting req orderId docTypes

/-- The job row that `create_job` inserts. -/
def newJob (req : CreateRequest) (orderId key : Uuid) (docTypes : List DocType) : Job :=
  { tenantId := req.tenantId
    orderId := orderId
    createdBy := some req.actorId
    idempotencyKey := key
    requestedDocTypes := docTypes
    totalDocuments := docTypes.length
    createdAt := now
    callbackUrl := req.callbackUrl }

def newDoc (job orderId : Uuid) (docType : DocType) : Doc :=
  { jobId := job, orderId := orderId, docType := docType, createdAt := now }

/-- Insert one document row after another. -/
def insertDocs (job orderId : Uuid) : List (Uuid × DocType) → Table Uuid Doc → Option (Table Uuid Doc)
  | [], t => some t
  | (d, docType) :: rest, t =>
    (t.insert? d (newDoc now job orderId docType)).bind fun t' => insertDocs job orderId rest t'

/-- `uq_research_job_idempotency_per_tenant` and `uq_research_doc_per_job_type`. -/
def violatesUnique (key tenant : Uuid) (docTypes : List DocType) : Bool :=
  (s.jobs.rows.any fun r => r.2.idempotencyKey = key ∧ r.2.tenantId = tenant) ∨ ¬ docTypes.Nodup

/-- The insert transaction. The generated ids must be fresh. -/
def insertJob (req : CreateRequest) (orderId : Uuid) (docTypes : List DocType)
    (job freshKey : Uuid) (docs : List Uuid) : Option ApiEffect :=
  let key := req.idempotencyKey.getD freshKey
  if violatesUnique s key req.tenantId docTypes then
    some { store := s, session := .recovering req }
  else if docs.length = docTypes.length then
    (s.jobs.insert? job (newJob now req orderId key docTypes)).bind fun jobs =>
      (insertDocs now job orderId (docs.zip docTypes) s.docs).map fun docs =>
        { store := { jobs := jobs, docs := docs }, session := .created job req }
  else none

/-- After the unique constraint rejected the insert: return the winner's job. -/
def recoverCreate (req : CreateRequest) : Session :=
  match req.idempotencyKey.bind fun key => s.getByIdempotency key req.tenantId with
  | some (job, row) => .returned job row.status
  | none => .raised .idempotencyConflict

/-- The statuses from which a job may be retried. -/
def JobStatus.retryable : JobStatus → Bool
  | .completed | .partialResult | .failed | .cancelled => true
  | _ => false

/-- `retry_job` up to its call of `create_job`. -/
def readRetry (tenantId actorId job : Uuid) (docTypes : Option (List String)) : Session :=
  match s.getJob job tenantId with
  | none => .raised .jobNotFound
  | some original =>
    if original.status.retryable then
      let failedTypes := (s.listFailed job).map fun d => d.2.docType.name
      let wanted := match docTypes with
        | none => failedTypes
        | some ts => ts.filter fun t => t ∈ failedTypes
      if wanted.isEmpty then .raised (.jobNotRetryable "No failed documents to retry")
      else .checking
        { tenantId := tenantId
          actorId := actorId
          orderId := original.orderId
          docTypes := wanted
          idempotencyKey := none }
    else .raised (.jobNotRetryable "Original job is not in a retryable state")

/-- `cancel_job` up to its write. -/
def readCancel (tenantId job : Uuid) (reason : Option String) : Session :=
  match s.getJob job tenantId with
  | none => .raised .jobNotFound
  | some j =>
    if j.status = .queued ∨ j.status = .running ∨ j.status = .cancelling then
      .cancelling job j.status reason
    else .raised .jobNotCancellable

/-- The status `cancel_job` writes for the status it read. -/
def cancelTarget (seen : JobStatus) : JobStatus :=
  if seen = .queued then .cancelled else .cancelling

/-- The columns `cancel_job` commits. -/
def applyCancel (seen : JobStatus) (reason : Option String) (j : Job) : Job :=
  { j with
    status := cancelTarget seen
    cancelReason := if truthy reason then reason else j.cancelReason
    completedAt := none }

def readReview (tenantId job : Uuid) : Session :=
  match s.getJob job tenantId with
  | none => .raised .jobNotFound
  | some j =>
    if j.status = .completed ∨ j.status = .partialResult then .reviewing job j.status
    else .raised (.orderNotResearchable "Only completed/partial jobs can be marked reviewed")

def readArchive (tenantId job : Uuid) : Session :=
  match s.getJob job tenantId with
  | none => .raised .jobNotFound
  | some j =>
    if j.status = .reviewed then .archiving job j.status
    else .raised (.orderNotResearchable "Only reviewed jobs can be archived")

/-- The commit of the three operations that write a job's status. -/
def commitApi : Session → Option ApiEffect
  | .cancelling job seen reason =>
    some { store := s.modifyJob job (applyCancel seen reason), session := .refreshing job }
  | .reviewing job _ =>
    some
      { store := s.modifyJob job (Job.setStatus .reviewed)
        session := .refreshing job }
  | .archiving job _ =>
    some
      { store := s.modifyJob job (Job.setStatus .archived)
        session := .refreshing job }
  | _ => none

/-- One step of one API session. -/
def apiStep (session : Session) : ApiAct → Option ApiEffect
  | .create req =>
    match session with
    | .idle => some { store := s, session := .checking req }
    | _ => none
  | .retry tenantId actorId job docTypes =>
    match session with
    | .idle => some { store := s, session := readRetry s tenantId actorId job docTypes }
    | _ => none
  | .cancel tenantId job reason =>
    match session with
    | .idle => some { store := s, session := readCancel s tenantId job reason }
    | _ => none
  | .review tenantId job =>
    match session with
    | .idle => some { store := s, session := readReview s tenantId job }
    | _ => none
  | .archive tenantId job =>
    match session with
    | .idle => some { store := s, session := readArchive s tenantId job }
    | _ => none
  | .check order =>
    match session with
    | .checking req => some { store := s, session := checkCreate s req order }
    | _ => none
  | .insert job freshKey docs =>
    match session with
    | .inserting req orderId docTypes => insertJob now s req orderId docTypes job freshKey docs
    | _ => none
  | .recover =>
    match session with
    | .recovering req => some { store := s, session := recoverCreate s req }
    | _ => none
  | .enqueue accepted =>
    match session with
    | .enqueueing job req status =>
      if accepted then
        some
          { store := s
            session := .returned job status
            publish := [{ jobId := job, tenantId := req.tenantId, actorId := req.actorId }] }
      else some { store := s, session := .raised .enqueueFailed }
    | _ => none
  | .commit => commitApi s session
  | .refresh =>
    match session with
    | .refreshing job =>
      (s.jobs.get job).map fun j => { store := s, session := .returned job j.status }
    | .created job req =>
      (s.jobs.get job).map fun j => { store := s, session := .enqueueing job req j.status }
    | _ => none

end Step

/-! What one step of a session can do. -/

section Cases

variable [PyText] {now : Time} {s : Store}

theorem validateDocTypes_ne_nil {names : List String} {docTypes : List DocType}
    (h : validateDocTypes names = .ok docTypes) : docTypes ≠ [] := by
  unfold validateDocTypes at h
  split at h
  · obtain rfl := Except.ok.inj h
    simp [DocType.all]
  · rename_i hne
    simp only at h
    split at h
    · rename_i hknown
      obtain rfl := Except.ok.inj h
      cases names with
      | nil => simp at hne
      | cons t names =>
        have ht : (DocType.parse t).isSome = true := by
          by_contra hnone
          simp only [List.isEmpty_iff, List.filter_eq_nil_iff] at hknown
          exact hknown t (by simp) (by simpa using hnone)
        obtain ⟨d, hd⟩ := Option.isSome_iff_exists.mp ht
        intro hnil
        have hmem : d ∈ ((t :: names).filterMap DocType.parse).reverse.dedup.reverse := by
          rw [List.mem_reverse, List.mem_dedup, List.mem_reverse]
          exact List.mem_filterMap.mpr ⟨t, by simp, hd⟩
        rw [hnil] at hmem
        cases hmem
    · cases h

/-- A request that resolves has an order with an address, and the types of its own list. -/
theorem resolveRequest_ok {req : CreateRequest} {order : Option OrderData} {orderId : Uuid}
    {docTypes : List DocType} (h : resolveRequest req order = .ok (orderId, docTypes)) :
    (∃ o, order = some o ∧ o.addressLine1 ≠ "") ∧ validateDocTypes req.docTypes = .ok docTypes := by
  unfold resolveRequest at h
  split at h
  · cases h
  · rename_i o
    split at h
    · cases h
    · rename_i haddr
      cases hv : validateDocTypes req.docTypes with
      | error e => simp [hv, Except.map] at h
      | ok types =>
        simp only [hv, Except.map, Except.ok.injEq, Prod.mk.injEq] at h
        exact ⟨⟨o, rfl, haddr⟩, congrArg Except.ok h.2⟩

theorem checkCreate_inserting {req req' : CreateRequest} {order : Option OrderData}
    {orderId : Uuid} {docTypes : List DocType}
    (h : checkCreate s req order = .inserting req' orderId docTypes) : docTypes ≠ [] := by
  unfold checkCreate at h
  split at h
  · cases h
  · rename_i id types hres
    split at h
    · cases h
    · cases h
      exact validateDocTypes_ne_nil (resolveRequest_ok hres).2

omit [PyText] in
theorem insertDocs_rows {job orderId : Uuid} {ds : List (Uuid × DocType)} {t t' : Table Uuid Doc}
    (h : insertDocs now job orderId ds t = some t') :
    t'.rows = t.rows ++ ds.map fun p => (p.1, newDoc now job orderId p.2) := by
  induction ds generalizing t with
  | nil =>
    obtain rfl := Option.some.inj h
    simp
  | cons p ds ih =>
    obtain ⟨u, hu, hrest⟩ := Option.bind_eq_some_iff.mp h
    obtain ⟨hk, rfl⟩ := (Table.insert?_eq_some_iff _ _ _ _).mp hu
    rw [ih hrest]
    simp [Table.insert]

/-- The steps of a session, with the guards they passed. -/
inductive ApiCase (now : Time) (s : Store) : Session → ApiAct → ApiEffect → Prop
  | create {req} : ApiCase now s .idle (.create req) { store := s, session := .checking req }
  | retry {tenantId actorId job docTypes} : ApiCase now s .idle (.retry tenantId actorId job docTypes)
      { store := s, session := readRetry s tenantId actorId job docTypes }
  | cancelRefused {tenantId job reason error} :
      ApiCase now s .idle (.cancel tenantId job reason) { store := s, session := .raised error }
  | cancelRead {tenantId job reason j} (hj : s.getJob job tenantId = some j)
      (hs : j.status = .queued ∨ j.status = .running ∨ j.status = .cancelling) :
      ApiCase now s .idle (.cancel tenantId job reason)
        { store := s, session := .cancelling job j.status reason }
  | review {tenantId job} : ApiCase now s .idle (.review tenantId job)
      { store := s, session := readReview s tenantId job }
  | archive {tenantId job} : ApiCase now s .idle (.archive tenantId job)
      { store := s, session := readArchive s tenantId job }
  | check {req order} : ApiCase now s (.checking req) (.check order)
      { store := s, session := checkCreate s req order }
  | insertRefused {req orderId docTypes job freshKey docs} :
      ApiCase now s (.inserting req orderId docTypes) (.insert job freshKey docs)
        { store := s, session := .recovering req }
  | insert {req orderId docTypes job freshKey docs table} (fresh : job ∉ s.jobs.keys)
      (hlen : docs.length = docTypes.length)
      (hdocs : insertDocs now job orderId (docs.zip docTypes) s.docs = some table) :
      ApiCase now s (.inserting req orderId docTypes) (.insert job freshKey docs)
        { store :=
            { jobs := s.jobs.insert job
                (newJob now req orderId (req.idempotencyKey.getD freshKey) docTypes) fresh
              docs := table }
          session := .created job req }
  | recover {req} : ApiCase now s (.recovering req) .recover
      { store := s, session := recoverCreate s req }
  | enqueue {job req status} : ApiCase now s (.enqueueing job req status) (.enqueue true)
      { store := s
        session := .returned job status
        publish := [{ jobId := job, tenantId := req.tenantId, actorId := req.actorId }] }
  | enqueueFailed {job req status} : ApiCase now s (.enqueueing job req status) (.enqueue false)
      { store := s, session := .raised .enqueueFailed }
  | commitCancel {job seen reason} : ApiCase now s (.cancelling job seen reason) .commit
      { store := s.modifyJob job (applyCancel seen reason), session := .refreshing job }
  | commitReview {job seen} : ApiCase now s (.reviewing job seen) .commit
      { store := s.modifyJob job (Job.setStatus .reviewed)
        session := .refreshing job }
  | commitArchive {job seen} : ApiCase now s (.archiving job seen) .commit
      { store := s.modifyJob job (Job.setStatus .archived)
        session := .refreshing job }
  | refresh {job j} (hj : s.jobs.get job = some j) : ApiCase now s (.refreshing job) .refresh
      { store := s, session := .returned job j.status }
  | refreshCreated {job req j} (hj : s.jobs.get job = some j) :
      ApiCase now s (.created job req) .refresh
        { store := s, session := .enqueueing job req j.status }

omit [PyText] in
/-- The insert transaction is rejected by the constraint, or it is not and the rows
are there. -/
theorem insertJob_split {req : CreateRequest} {orderId job freshKey : Uuid} {docTypes : List DocType}
    {docs : List Uuid} {e : ApiEffect}
    (h : insertJob now s req orderId docTypes job freshKey docs = some e) :
    (violatesUnique s (req.idempotencyKey.getD freshKey) req.tenantId docTypes = true ∧
        e = { store := s, session := .recovering req }) ∨
      violatesUnique s (req.idempotencyKey.getD freshKey) req.tenantId docTypes = false ∧
        docs.length = docTypes.length ∧ ∃ (fresh : job ∉ s.jobs.keys) (table : Table Uuid Doc),
          insertDocs now job orderId (docs.zip docTypes) s.docs = some table ∧
            e = { store :=
                    { jobs := s.jobs.insert job
                        (newJob now req orderId (req.idempotencyKey.getD freshKey) docTypes) fresh
                      docs := table }
                  session := .created job req } := by
  simp only [insertJob] at h
  split at h
  · exact .inl ⟨‹_›, (Option.some.inj h).symm⟩
  · rename_i hfalse
    split at h
    · rename_i hlen
      obtain ⟨jobs, hjobs, hrest⟩ := Option.bind_eq_some_iff.mp h
      obtain ⟨fresh, rfl⟩ := (Table.insert?_eq_some_iff _ _ _ _).mp hjobs
      obtain ⟨table, htable, rfl⟩ := Option.map_eq_some_iff.mp hrest
      exact .inr ⟨by simpa using hfalse, hlen, fresh, table, htable, rfl⟩
    · cases h

theorem insertJob_cases {req : CreateRequest} {orderId job freshKey : Uuid}
    {docTypes : List DocType} {docs : List Uuid} {e : ApiEffect}
    (h : insertJob now s req orderId docTypes job freshKey docs = some e) :
    ApiCase now s (.inserting req orderId docTypes) (.insert job freshKey docs) e := by
  obtain ⟨-, rfl⟩ | ⟨-, hlen, fresh, table, htable, rfl⟩ := insertJob_split h
  · exact .insertRefused
  · exact .insert fresh hlen htable

theorem commitApi_cases {session : Session} {e : ApiEffect}
    (h : commitApi s session = some e) : ApiCase now s session .commit e := by
  unfold commitApi at h
  split at h
  · exact Option.some.inj h ▸ .commitCancel
  · exact Option.some.inj h ▸ .commitReview
  · exact Option.some.inj h ▸ .commitArchive
  · cases h

theorem readCancel_cases (tenantId job : Uuid) (reason : Option String) :
    ApiCase now s .idle (.cancel tenantId job reason)
      { store := s, session := readCancel s tenantId job reason } := by
  unfold readCancel
  split
  · exact .cancelRefused
  · split
    · exact .cancelRead ‹_› ‹_›
    · exact .cancelRefused

theorem apiStep_cases {session : Session} {act : ApiAct} {e : ApiEffect}
    (h : apiStep now s session act = some e) : ApiCase now s session act e := by
  cases act with
  | create req =>
    cases session with
    | idle => exact Option.some.inj h ▸ .create
    | _ => cases h
  | retry tenantId actorId job docTypes =>
    cases session with
    | idle => exact Option.some.inj h ▸ .retry
    | _ => cases h
  | cancel tenantId job reason =>
    cases session with
    | idle => exact Option.some.inj h ▸ readCancel_cases tenantId job reason
    | _ => cases h
  | review tenantId job =>
    cases session with
    | idle => exact Option.some.inj h ▸ .review
    | _ => cases h
  | archive tenantId job =>
    cases session with
    | idle => exact Option.some.inj h ▸ .archive
    | _ => cases h
  | check order =>
    cases session with
    | checking req => exact Option.some.inj h ▸ .check
    | _ => cases h
  | insert job freshKey docs =>
    cases session with
    | inserting req orderId docTypes => exact insertJob_cases h
    | _ => cases h
  | recover =>
    cases session with
    | recovering req => exact Option.some.inj h ▸ .recover
    | _ => cases h
  | enqueue accepted =>
    cases session with
    | enqueueing job req status =>
      cases accepted with
      | true => exact Option.some.inj h ▸ .enqueue
      | false => exact Option.some.inj h ▸ .enqueueFailed
    | _ => cases h
  | commit => exact commitApi_cases h
  | refresh =>
    cases session with
    | refreshing job =>
      obtain ⟨j, hj, rfl⟩ := Option.map_eq_some_iff.mp h
      exact .refresh hj
    | created job req =>
      obtain ⟨j, hj, rfl⟩ := Option.map_eq_some_iff.mp h
      exact .refreshCreated hj
    | _ => cases h

end Cases

end ResearchEngine
