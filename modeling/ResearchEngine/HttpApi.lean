import ResearchEngine.RateLimit
import ResearchEngine.ReplayedCreate
import ResearchEngine.RetriedJobs

/-! The HTTP interface: the routes over the service, what they show of a job, and the exception
handlers that turn every error into a reply. -/
namespace ResearchEngine
namespace HttpApi

open Transactions Program RateLimit MovingWindow

/-- The `error` of an `ErrorEnvelope`. -/
structure ErrorBody where
  code : String
  message : String
  deriving DecidableEq, Repr

/-- A `DataEnvelope` or an `ErrorEnvelope`. -/
inductive Body
  | job (data : JobSchema)
  | jobs (data : List JobSummary)
  | error (error : ErrorBody)
  deriving DecidableEq, Repr

structure Reply where
  status : ℕ
  body : Body
  deriving DecidableEq, Repr

/-! The exception handlers. -/

/-- The `code` and the `http_status` of an exception's class, when it is a
`ResearchEngineError`. -/
def errorClass : ApiError → Option (ErrorCode × ℕ)
  | .orderNotFound => some (.orderNotFound, 404)
  | .orderNotResearchable _ => some (.orderNotResearchable, 422)
  | .invalidDocTypes _ => some (.invalidDocTypes, 422)
  | .jobNotFound => some (.jobNotFound, 404)
  | .jobNotRetryable _ => some (.jobNotRetryable, 409)
  | .jobNotCancellable => some (.jobNotCancellable, 409)
  | .idempotencyConflict => some (.idempotencyConflict, 409)
  | .enqueueFailed => none

/-- `research_error_handler`. The constructors hand their text to `Exception`; `exc.message` is the
attribute of the base class. -/
def researchErrorHandler (cls : ErrorCode × ℕ) : Reply :=
  { status := cls.2, body := .error { code := cls.1.value, message := "Internal error" } }

/-- `http_exception_handler` -/
def httpExceptionHandler (status : ℕ) (detail : String) : Reply :=
  { status := status
    body := .error
      { code := if status = 429 then "RATE_LIMIT_EXCEEDED" else "HTTP_" ++ toString status
        message := detail } }

/-- `unhandled_exception_handler` -/
def unhandledExceptionHandler : Reply :=
  { status := 500, body := .error { code := "INTERNAL_ERROR", message := "Internal server error" } }

def handleGate : GateError → Reply
  | .http status detail => httpExceptionHandler status detail
  | .raised => unhandledExceptionHandler

def handleCall : CallError → Reply
  | .service e => ((errorClass e).map researchErrorHandler).getD unhandledExceptionHandler
  | .database _ => unhandledExceptionHandler

/-! The routes. -/

/-- The rows of a listing in an order that the database may choose. -/
structure Listing where
  docs : Store → Uuid → List Uuid
  listed : ∀ (s : Store) job, (s.listForJob job (docs s job)).isSome
  jobs : Store → Uuid → Uuid → List Uuid
  jobsListed : ∀ (s : Store) orderId tenant, (s.listForOrder orderId tenant (jobs s orderId tenant)).isSome

namespace Listing

variable (L : Listing)

/-- `to_job_schema` over these rows. -/
def jobSchema (s : Store) (files : Uuid → Option FileRow) (updatedAt : Uuid → Time) (id : Uuid)
    (job : Job) : JobSchema :=
  (toJobSchema s files (updatedAt id) id job (L.docs s id)).get (by simpa [toJobSchema] using L.listed s id)

/-- `list_for_order` and `to_job_summary_schema` -/
def summaries (s : Store) (orderId tenant : Uuid) : List JobSummary :=
  ((s.listForOrder orderId tenant (L.jobs s orderId tenant)).get
    (L.jobsListed s orderId tenant)).map fun r => toJobSummarySchema r.1 r.2

theorem toJobSchema_eq (s : Store) (files : Uuid → Option FileRow) (updatedAt : Uuid → Time) (id : Uuid)
    (job : Job) : toJobSchema s files (updatedAt id) id job (L.docs s id) =
      some (L.jobSchema s files updatedAt id job) := by
  simp [jobSchema]

@[simp] theorem jobSchema_id (s : Store) (files : Uuid → Option FileRow) (updatedAt : Uuid → Time)
    (id : Uuid) (job : Job) : (L.jobSchema s files updatedAt id job).id = id := by
  have h := L.toJobSchema_eq s files updatedAt id job
  obtain ⟨rows, -, hrows⟩ := Option.map_eq_some_iff.mp h
  rw [← hrows]

end Listing

/-- What a request meets outside the service. -/
structure Outside extends Surroundings where
  files : Uuid → Option FileRow
  /-- `updated_at` of the job rows: the database sets it by itself at every `INSERT` and `UPDATE`. -/
  updatedAt : Uuid → Time
  listing : Listing

/-- The endpoints with what the path, the headers and the body say, as the framework has validated
them: what it refuses by itself (a 422 for a malformed value, a 404 for another path) is no route. -/
inductive Route
  | createResearchJob (payload : CreateResearchJobRequest) (xIdempotencyKey : Option Uuid)
  | getResearchJob (jobId : Uuid)
  /-- The body is the list of types, if there is one. -/
  | retryResearchJob (jobId : Uuid) (request : Option (Option (List String)))
  /-- The body is the reason, if there is one. -/
  | cancelResearchJob (jobId : Uuid) (request : Option (Option String))
  | listOrderJobs (orderId : Uuid)
  deriving DecidableEq, Repr

section Routes

variable (out : Outside)

/-- The file rows of the documents, each read in a session of its own. -/
def readFiles : List (Uuid × Doc) → Call Unit
  | [] => pure ()
  | (_, doc) :: docs => do
    if doc.fileId.isSome ∧ doc.orderFileId.isSome then execute out.toSurroundings
    readFiles docs

/-- `to_job_schema` -/
def showJob (id : Uuid) (job : Job) : Call JobSchema := do
  let docs ← select out.toSurroundings fun s => s.listForJob id (out.listing.docs s id)
  readFiles out (docs.getD [])
  inspect fun c => out.listing.jobSchema c.working out.files out.updatedAt id job

/-- The row of the job that a call returns. It has one: see `perform_holds`. -/
def jobObject (id : Uuid) : Call Job := do
  match ← inspect fun c => c.working.jobs.get id with
  | some job => return job
  | none => raise (.database (.other "Instance has no row"))

variable [PyText]

/-- A writing call, and the job it returns. -/
def callAndShow (call : WritingCall) : Call Body := do
  let id ← perform out.toSurroundings call
  let job ← jobObject id
  let data ← showJob out id job
  return .job data

/-- The bodies of the endpoints. -/
def endpoint (actor tenant : Uuid) : Route → Call Body
  | .createResearchJob payload xKey =>
    callAndShow out (.createJob (Post.request ⟨tenant, actor, xKey, payload⟩))
  | .getResearchJob jobId => do
    let job ← getJob out.toSurroundings tenant jobId
    let data ← showJob out jobId job
    return .job data
  | .retryResearchJob jobId request => callAndShow out (.retryJob tenant actor jobId request.join)
  | .cancelResearchJob jobId request => callAndShow out (.cancelJob tenant jobId request.join)
  | .listOrderJobs orderId => do
    let data ← select out.toSurroundings fun s => out.listing.summaries s orderId tenant
    return .jobs data

/-- The reply to what an endpoint returns or raises. -/
def respond : Except CallError Body → Reply
  | .ok body => { status := 200, body := body }
  | .error e => handleCall e

end Routes

/-- The database, the limiter and the broker. -/
structure Site where
  store : Store
  past : List (MovingWindow.Hit String) := []
  queue : List Task := []

/-- One request, with the clock of the limiter. -/
structure Incoming where
  now : ℕ
  http : HttpRequest
  route : Route
  out : Outside

section Server

variable [PyText] (cfg : GateSettings) (svc : GateServices)

/-- The dependencies of a route: only `create_research_job` has the limiter. -/
def dependencies (past : List (MovingWindow.Hit String)) (now : ℕ) (r : HttpRequest) :
    Route → Except GateError (Uuid × Uuid) × List (MovingWindow.Hit String)
  | .createResearchJob _ _ => gate cfg svc past now r
  | _ => (authenticate cfg svc r, past)

/-- One request from its headers to its reply. -/
def serve (site : Site) (q : Incoming) : Reply × Site :=
  match dependencies cfg svc site.past q.now q.http q.route with
  | (.error e, past) => (handleGate e, { site with past := past })
  | (.ok (actor, tenant), past) =>
    match (endpoint q.out actor tenant q.route).run (.opened site.store) with
    | (result, c) =>
      (respond result, { store := c.committed, past := past, queue := site.queue ++ c.published })

/-- A request, its reply, and the site before and after. -/
structure Exchange where
  before : Site
  request : Incoming
  reply : Reply
  after : Site

/-- Request after request. -/
def exchanges : Site → List Incoming → List Exchange
  | _, [] => []
  | site, q :: qs =>
    let r := serve cfg svc site q
    ⟨site, q, r.1, r.2⟩ :: exchanges r.2 qs

/-- The site after all of them. -/
def serveAll : Site → List Incoming → Site
  | site, [] => site
  | site, q :: qs => serveAll (serve cfg svc site q).2 qs

end Server

end HttpApi
end ResearchEngine
