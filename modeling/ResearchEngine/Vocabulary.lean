import Mathlib.Data.Nat.Notation
import Mathlib.Tactic.TypeStar

/-! The status, outcome and error vocabulary shared by every module, and the
plain data records that cross module boundaries. -/
namespace ResearchEngine

/-- Row identifiers. Only equality of identifiers matters above the blob store. -/
abbrev Uuid := ℕ

/-- Clock readings in seconds. -/
abbrev Time := ℕ

/-- `ResearchJobStatus`. -/
inductive JobStatus
  | queued | running | completed | partialResult | failed | cancelling | cancelled
  | reviewed | archived
  deriving DecidableEq, Repr

/-- `ResearchDocStatus`. -/
inductive DocStatus
  | queued | fetching | fetched | uploading | uploaded | failed | skipped
  deriving DecidableEq, Repr

/-- `StepStatus`, frozen for the frontend. -/
inductive StepStatus
  | ok | link | empty | error
  deriving DecidableEq, Repr

inductive SourceOutcome
  | auto | linkOnly | blocked | broken | retryable | manualReview
  deriving DecidableEq, Repr

inductive Confidence
  | high | medium | low | none
  deriving DecidableEq, Repr

/-- `ResearchErrorCode`. -/
inductive ErrorCode
  | orderNotFound | orderNotResearchable | invalidDocTypes | jobNotFound | jobNotRetryable
  | jobNotCancellable | idempotencyConflict | missingAddress
  | geocodeFailed | parcelNotFound | deedUnavailable | platUnavailable | floodUnavailable
  | appraiserUnavailable | sourceUnavailable | s3UploadFailed | timeout
  | internalError | rateLimited
  deriving DecidableEq, Repr

def ErrorCode.value : ErrorCode → String
  | .orderNotFound => "ORDER_NOT_FOUND"
  | .orderNotResearchable => "ORDER_NOT_RESEARCHABLE"
  | .invalidDocTypes => "INVALID_DOC_TYPES"
  | .jobNotFound => "JOB_NOT_FOUND"
  | .jobNotRetryable => "JOB_NOT_RETRYABLE"
  | .jobNotCancellable => "JOB_NOT_CANCELLABLE"
  | .idempotencyConflict => "IDEMPOTENCY_CONFLICT"
  | .missingAddress => "MISSING_ADDRESS"
  | .geocodeFailed => "GEOCODE_FAILED"
  | .parcelNotFound => "PARCEL_NOT_FOUND"
  | .deedUnavailable => "DEED_UNAVAILABLE"
  | .platUnavailable => "PLAT_UNAVAILABLE"
  | .floodUnavailable => "FLOOD_UNAVAILABLE"
  | .appraiserUnavailable => "APPRAISER_UNAVAILABLE"
  | .sourceUnavailable => "SOURCE_UNAVAILABLE"
  | .s3UploadFailed => "S3_UPLOAD_FAILED"
  | .timeout => "TIMEOUT"
  | .internalError => "INTERNAL_ERROR"
  | .rateLimited => "RATE_LIMITED"

/-- The document types a caller can request. -/
inductive DocType
  | parcelRecord | propertyAppraiserTaxRecord | recordedPlatSubdivisionMap | deedSubjectParcel
  | femaFloodZoneFirm | ngsControl
  deriving DecidableEq, Repr

def DocType.name : DocType → String
  | .parcelRecord => "PARCEL_RECORD"
  | .propertyAppraiserTaxRecord => "PROPERTY_APPRAISER_TAX_RECORD"
  | .recordedPlatSubdivisionMap => "RECORDED_PLAT_SUBDIVISION_MAP"
  | .deedSubjectParcel => "DEED_SUBJECT_PARCEL"
  | .femaFloodZoneFirm => "FEMA_FLOOD_ZONE_FIRM"
  | .ngsControl => "NGS_CONTROL"

/-- The step keys of `RESIDENTIAL_DOCS`. -/
inductive StepKey
  | parcel | appraiser | deed | plat | adjoiners | easements | priorSurvey | flood | benchmarks
  | glo | condo | zoning
  deriving DecidableEq, Repr

/-- `STEP_TO_DOC_TYPE`: only six of the orchestrated steps can be requested. -/
def stepToDocType : StepKey → Option DocType
  | .parcel => some .parcelRecord
  | .appraiser => some .propertyAppraiserTaxRecord
  | .plat => some .recordedPlatSubdivisionMap
  | .deed => some .deedSubjectParcel
  | .flood => some .femaFloodZoneFirm
  | .benchmarks => some .ngsControl
  | _ => none

/-- `DOC_TYPE_TO_STEP`, the inverse map. -/
def docTypeToStep : DocType → StepKey
  | .parcelRecord => .parcel
  | .propertyAppraiserTaxRecord => .appraiser
  | .recordedPlatSubdivisionMap => .plat
  | .deedSubjectParcel => .deed
  | .femaFloodZoneFirm => .flood
  | .ngsControl => .benchmarks

@[simp] theorem stepToDocType_docTypeToStep (d : DocType) :
    stepToDocType (docTypeToStep d) = some d := by cases d <;> rfl

/-- Where a piece of data came from. -/
structure ProvenanceRecord where
  sourceId : String
  provider : String := ""
  url : String := ""
  retrievedUtc : String := ""
  attempt : ℕ := 1
  fallbackChain : List String := []
  file : Option String := none
  sha256 : Option String := none
  deriving DecidableEq, Repr

/-- `OrderData`: the order context the engine needs. -/
structure OrderData where
  id : Uuid
  addressLine1 : String
  addressLine2 : Option String := none
  city : Option String := none
  state : Option String := none
  zipCode : Option String := none
  county : Option String := none
  parcelId : Option String := none
  surveyType : Option String := none
  deriving DecidableEq, Repr

/-- Result of fetching one document type via the orchestrator. -/
structure FetchedDocument where
  docType : DocType
  status : DocStatus
  summary : String := ""
  link : String := ""
  linkLabel : String := ""
  fileKey : Option String := none
  fileName : Option String := none
  fileSize : Option ℕ := none
  sha256 : String := ""
  fileId : Option Uuid := none
  orderFileId : Option Uuid := none
  provenance : List ProvenanceRecord := []
  warnings : List String := []
  errorCode : Option ErrorCode := none
  errorMessage : Option String := none
  retryable : Bool := true
  deriving DecidableEq, Repr

/-- What one `document_fetcher` call gives for the requested type: a document,
or the text of the exception (a missing key is a `KeyError`). -/
abbrev FetchOutcome := Except String FetchedDocument

end ResearchEngine
