import ResearchEngine.EvidenceUpload
import ResearchEngine.StepAssembly
import ResearchEngine.WorkerRun

/-! `build_document_fetcher`: one research run for the requested documents of an
order, its steps turned into documents, and its staged files uploaded. -/
namespace ResearchEngine

/-- What the outside does during one `document_fetcher` call. `A` is what the
source adapters see of it. -/
structure ResearchInput (A : Type) where
  geocoders : GeocoderAnswers
  parcels : ParcelServices
  staging : Staging
  sources : A
  /-- The staged files that are on disk when the run is over. -/
  disk : String → Option Blob
  backend : DocType → EvidenceUpload.Backend

/-- The deployment, its adapter registry and the digest function. -/
structure Engine (A : Type) where
  deployment : Deployment
  adapters : A → StepKey → Option SourceAdapter
  sha256 : Blob → String

/-- The evidence store, and the outcome of every `resolve_property_context` call so
far, latest first. -/
structure World where
  evidence : Evidence
  resolutions : List (Except PyErr PropertyContext)
  deriving Inhabited

namespace Fetching

open PyText EvidenceUpload

/-- The arguments that `fetch` passes to `run_research`. -/
def researchArgs (order : OrderData) (docTypes : List DocType) : ResearchArgs :=
  { jobNumber := ""
    address := order.addressLine1
    surveyType := orElse (order.surveyType.getD "") "Residential Land Survey"
    wanted := some (docTypes.map docTypeToStep)
    selectedState := order.state.getD ""
    selectedCountyFips := order.county.getD ""
    orderNumber := toString order.id
    searchParcelId := order.parcelId.getD "" }

/-- `_map_step_status` -/
def mapStepStatus : StepStatus → DocStatus
  | .ok => .uploaded
  | .link => .fetched
  | .empty => .skipped
  | .error => .failed

/-- `_error_code_for` -/
def errorCodeFor (outcome : SourceOutcome) (code : String) : ErrorCode :=
  match outcome with
  | .blocked | .broken => .sourceUnavailable
  | .retryable => .timeout
  | _ =>
    if code = "PARCEL_NOT_FOUND" then .parcelNotFound
    else if code = "LINK_ONLY" then .sourceUnavailable
    else .internalError

/-- The document made from one step, before any upload. -/
def documentOf (docType : DocType) (step : StepResult) : FetchedDocument :=
  let doc : FetchedDocument :=
    { docType := docType
      status := mapStepStatus step.status
      summary := step.summary
      link := step.link
      linkLabel := step.linkLabel
      provenance := step.provenance
      warnings := step.warnings }
  match step.error with
  | none => doc
  | some error =>
    { doc with
      errorCode := some (errorCodeFor step.sourceOutcome error.code)
      errorMessage := some (orElse error.message error.code)
      retryable := error.retryable }

section Fetch

variable [PyText] {A : Type} (eng : Engine A) (input : ResearchInput A) (order : OrderData)
  (tenantId : Option Uuid)

/-- What `_upload_artifact` is called with for one step. -/
def uploadOf (docType : DocType) (step : StepResult) : Upload :=
  { downloaded := step.downloaded
    disk := input.disk
    orderId := order.id
    docType := docType.name
    tenantId := tenantId
    backend := input.backend docType }

/-- One turn of the loop over the steps of the result. -/
def settleStep (docType : DocType) (step : StepResult) (ev : Evidence) :
    FetchedDocument × Evidence :=
  let doc := documentOf docType step
  if doc.status = .uploaded then
    uploadArtifact eng.sha256 (uploadOf input order tenantId docType step) doc ev
  else (doc, ev)

/-- The loop over the steps of the result; later steps of one type win. -/
def settleSteps (docTypes : List DocType) : List StepResult → Evidence →
    (DocType → Option FetchedDocument) × Evidence
  | [], ev => (fun _ => none, ev)
  | step :: steps, ev =>
    match (stepToDocType step.key).filter (· ∈ docTypes) with
    | none => settleSteps docTypes steps ev
    | some docType =>
      let (doc, ev) := settleStep eng input order tenantId docType step ev
      let (out, ev) := settleSteps docTypes steps ev
      (fun d => (out d).or (if d = docType then some doc else none), ev)

/-- `fetch` from the resolved context on. -/
def fetchOn (docTypes : List DocType) (ctx : PropertyContext) (ev : Evidence) :
    Except PyErr (DocType → Option FetchedDocument) × Evidence :=
  let wanted := some (docTypes.map docTypeToStep)
  match Steps.researchOn (eng.adapters input.sources) input.staging wanted ctx with
  | .error e => (.error e, ev)
  | .ok result =>
    let (out, ev) := settleSteps eng input order tenantId docTypes result.steps ev
    (.ok out, ev)

variable [PyFloat]

/-- `resolve_property_context` for the order. -/
def resolveOrder (docTypes : List DocType) : Except PyErr PropertyContext :=
  Context.resolvePropertyContext eng.deployment input.geocoders input.parcels input.staging
    (researchArgs order docTypes)

/-- `fetch` -/
def fetch (docTypes : List DocType) (w : World) :
    Except PyErr (DocType → Option FetchedDocument) × World :=
  if docTypes.isEmpty then (.ok fun _ => none, w)
  else
    let resolved := resolveOrder eng input order docTypes
    let w := { w with resolutions := resolved :: w.resolutions }
    match resolved with
    | .error e => (.error e, w)
    | .ok ctx =>
      let (out, ev) := fetchOn eng input order tenantId docTypes ctx w.evidence
      (out, { w with evidence := ev })

end Fetch

variable [PyText] [PyFloat] {A : Type}

/-- The fetcher that the worker is given: one type, and the document stored under it. -/
def documentFetcher (eng : Engine A) : Fetcher (ResearchInput A) World := fun input call w =>
  match call.order with
  | none => (.error "'NoneType' object has no attribute 'address_line_1'", w)
  | some order =>
    match fetch eng input order (some call.tenantId) [call.docType] w with
    | (.error e, w) => (.error e.text, w)
    | (.ok out, w) =>
      match out call.docType with
      | some doc => (.ok doc, w)
      | none => (.error ("'" ++ call.docType.name ++ "'"), w)

end Fetching
end ResearchEngine
