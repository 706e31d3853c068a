import ResearchEngine.ApiSession
import ResearchEngine.JobSchema

/-! Whole calls of the API, one after the other: what a caller who waits for each answer
sees, and the database that the calls leave. -/
namespace ResearchEngine

/-- One row of `orders`. -/
structure OrderRow where
  tenantId : Uuid
  addressLine1 : String
  addressLine2 : Option String := none
  city : Option String := none
  state : Option String := none
  zipCode : Option String := none
  county : Option String := none
  parcelId : Option String := none
  surveyType : Option String := none
  deletedAt : Option Time := none
  deriving DecidableEq, Repr

/-- `order_provider`. -/
def orderProvider (orders : Uuid → Option OrderRow) (orderId tenant : Uuid) : Option OrderData :=
  ((orders orderId).filter fun o => o.tenantId = tenant ∧ o.deletedAt = none).map fun o =>
    { id := orderId
      addressLine1 := o.addressLine1
      addressLine2 := o.addressLine2
      city := o.city
      state := o.state
      zipCode := o.zipCode
      county := o.county
      parcelId := o.parcelId
      surveyType := o.surveyType }

/-- The shared database. -/
structure Db where
  store : Store
  orders : Uuid → Option OrderRow
  files : Uuid → Option FileRow

/-- A call of the service by some tenant. -/
inductive ServiceCall
  | createJob (actorId orderId : Uuid) (docTypes : List String) (idempotencyKey : Option Uuid)
      (callbackUrl : Option String)
  | getJob (job : Uuid)
  | listOrderJobs (orderId : Uuid)
  | retryJob (actorId job : Uuid) (docTypes : Option (List String))
  | cancelJob (job : Uuid) (reason : Option String)
  | markReviewed (job : Uuid)
  | archiveJob (job : Uuid)
  deriving DecidableEq, Repr

/-- What a call gets from elsewhere: the clock, the generated ids, the broker's answer, the
`updated_at` of the job row and the row order of the listing that it returns. -/
structure Supply where
  now : Time
  job : Uuid
  key : Uuid
  docs : List Uuid
  accepted : Bool := true
  updatedAt : Time := now
  order : List Uuid
  deriving DecidableEq, Repr

inductive ServiceResult
  | job (schema : JobSchema)
  | jobs (summaries : List JobSummary)
  | error (e : ApiError)
  deriving DecidableEq, Repr

/-- What a call returns, and the tasks that it has published. -/
structure Answer where
  result : ServiceResult
  published : List Task := []
  deriving DecidableEq, Repr

/-- A call on its way. -/
structure Request where
  db : Db
  session : Session
  published : List Task := []

section Service

variable [PyText]

/-- The step that a request in this session takes next. -/
def nextAct (db : Db) (sup : Supply) : Session → Option ApiAct
  | .checking req => some (.check (orderProvider db.orders req.orderId req.tenantId))
  | .inserting _ _ _ => some (.insert sup.job sup.key sup.docs)
  | .recovering _ => some .recover
  | .created _ _ | .refreshing _ => some .refresh
  | .enqueueing _ _ _ => some (.enqueue sup.accepted)
  | .cancelling _ _ _ | .reviewing _ _ | .archiving _ _ => some .commit
  | .idle | .returned _ _ | .raised _ => none

/-- One step of a request, committed. -/
def serviceStep (sup : Supply) (r : Request) (act : ApiAct) : Option Request :=
  (apiStep sup.now r.db.store r.session act).map fun e =>
    { db := { r.db with store := e.store }
      session := e.session
      published := r.published ++ e.publish }

/-- Run a request on, for at most `fuel` steps. -/
def drive (sup : Supply) : ℕ → Request → Option Request
  | 0, r => some r
  | fuel + 1, r =>
    match nextAct r.db sup r.session with
    | none => some r
    | some act => (serviceStep sup r act).bind (drive sup fuel)

/-- How a call begins that goes through a session. -/
def ServiceCall.beginAct (tenant : Uuid) : ServiceCall → Option ApiAct
  | .createJob actorId orderId docTypes idempotencyKey callbackUrl =>
    some (.create
      { tenantId := tenant
        actorId := actorId
        orderId := orderId
        docTypes := docTypes
        idempotencyKey := idempotencyKey
        callbackUrl := callbackUrl })
  | .retryJob actorId job docTypes => some (.retry tenant actorId job docTypes)
  | .cancelJob job reason => some (.cancel tenant job reason)
  | .markReviewed job => some (.review tenant job)
  | .archiveJob job => some (.archive tenant job)
  | .getJob _ | .listOrderJobs _ => none

/-- `to_job_schema` on a job that a call returns. -/
def jobResult (db : Db) (sup : Supply) (job : Uuid) : Option ServiceResult :=
  (db.store.jobs.get job).bind fun row =>
    (toJobSchema db.store db.files sup.updatedAt job row sup.order).map .job

/-- The answer to a request that has come to its end. -/
def sessionResult (db : Db) (sup : Supply) : Session → Option ServiceResult
  | .returned job _ => jobResult db sup job
  | .raised e => some (.error e)
  | _ => none

/-- The most steps a request takes after its first. -/
def callSteps : ℕ := 4

/-- A request from its first step to its end. -/
def runRequest (sup : Supply) (db : Db) (act : ApiAct) : Option (Answer × Db) :=
  (serviceStep sup { db := db, session := .idle } act).bind fun r =>
    (drive sup callSteps r).bind fun r =>
      (sessionResult r.db sup r.session).map fun result =>
        ({ result := result, published := r.published }, r.db)

/-- One call from beginning to end. -/
def serviceCall (tenant : Uuid) (sup : Supply) (db : Db) (call : ServiceCall) :
    Option (Answer × Db) :=
  match call with
  | .getJob job =>
    match db.store.getJob job tenant with
    | none => some ({ result := .error .jobNotFound }, db)
    | some _ => (jobResult db sup job).map fun result => ({ result := result }, db)
  | .listOrderJobs orderId =>
    (db.store.listForOrder orderId tenant sup.order).map fun rows =>
      ({ result := .jobs (rows.map fun r => toJobSummarySchema r.1 r.2) }, db)
  | call => (call.beginAct tenant).bind (runRequest sup db)

/-- Call after call. -/
def serviceCalls (tenant : Uuid) :
    List (ServiceCall × Supply) → Db → Option (List Answer × Db)
  | [], db => some ([], db)
  | (call, sup) :: rest, db =>
    (serviceCall tenant sup db call).bind fun r =>
      (serviceCalls tenant rest r.2).map fun rs => (r.1 :: rs.1, rs.2)

end Service

end ResearchEngine
