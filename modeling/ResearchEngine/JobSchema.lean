import ResearchEngine.JobStore
import ResearchEngine.EvidenceUpload

/-! What the API shows of a job: the rows mapped to the response schemas. -/
namespace ResearchEngine

def ErrorCode.all : List ErrorCode :=
  [.orderNotFound, .orderNotResearchable, .invalidDocTypes, .jobNotFound, .jobNotRetryable,
    .jobNotCancellable, .idempotencyConflict, .missingAddress, .geocodeFailed, .parcelNotFound,
    .deedUnavailable, .platUnavailable, .floodUnavailable, .appraiserUnavailable,
    .sourceUnavailable, .s3UploadFailed, .timeout, .internalError, .rateLimited]

/-- `_to_error_code`: stored values outside the enumeration are dropped. -/
def toErrorCode (value : String) : Option ErrorCode :=
  ErrorCode.all.find? fun c => c.value = value

/-- Every code the engine stores comes back from its column. -/
theorem toErrorCode_value (c : ErrorCode) : toErrorCode c.value = some c := by
  cases c <;> decide +kernel

/-- `value or fallback` on a text. -/
def textOr (value : Option String) (fallback : String) : String :=
  if truthy value then value.getD fallback else fallback

structure FileReference where
  fileId : Uuid
  orderFileId : Uuid
  key : String
  filename : String
  sizeBytes : ℕ
  sha256 : String
  mimeType : String
  deriving DecidableEq, Repr

/-- `_s3_key`. -/
def s3Key (doc : Doc) (fileId : Uuid) : String :=
  "orders/" ++ toString doc.orderId ++ "/research/" ++ toString fileId ++ "/" ++
    textOr (some doc.linkLabel) "document.pdf"

/-- `_to_file_reference`. -/
def toFileReference (files : Uuid → Option FileRow) (doc : Doc) : Option FileReference :=
  match doc.fileId, doc.orderFileId with
  | some fileId, some orderFileId =>
    let file := files fileId
    some
      { fileId := fileId
        orderFileId := orderFileId
        key := textOr (file.bind FileRow.contentKey) (s3Key doc fileId)
        filename := textOr (file.map FileRow.filename) (doc.docType.name ++ ".pdf")
        sizeBytes := (file.bind FileRow.size).getD 0
        sha256 := textOr (file.bind FileRow.sha256) ""
        mimeType := textOr (file.bind FileRow.mimeType) "application/pdf" }
  | _, _ => none

/-- `ResearchDocument` of the response schemas. -/
structure DocumentSchema where
  id : Uuid
  docType : DocType
  status : DocStatus
  sourceOutcome : Option SourceOutcome
  confidence : Option Confidence
  file : Option FileReference
  summary : String
  link : String
  linkLabel : String
  provenance : List ProvenanceRecord
  warnings : List String
  errorCode : Option ErrorCode
  errorMessage : Option String
  retryable : Bool
  retryCount : ℕ
  fetchedAt : Option Time
  deriving DecidableEq, Repr

/-- `to_document_schema`. -/
def toDocumentSchema (files : Uuid → Option FileRow) (id : Uuid) (doc : Doc) : DocumentSchema where
  id := id
  docType := doc.docType
  status := doc.status
  sourceOutcome := doc.sourceOutcome
  confidence := doc.confidence
  file := toFileReference files doc
  summary := doc.summary
  link := doc.link
  linkLabel := doc.linkLabel
  provenance := doc.provenance
  warnings := doc.warnings
  errorCode := if truthy doc.errorCode then doc.errorCode.bind toErrorCode else none
  errorMessage := doc.errorMessage
  retryable := doc.retryable
  retryCount := doc.retryCount
  fetchedAt := doc.fetchedAt

/-- `ResearchJob` of the response schemas. -/
structure JobSchema where
  id : Uuid
  orderId : Uuid
  status : JobStatus
  requestedDocTypes : List DocType
  totalDocuments : ℕ
  fetchedDocuments : ℕ
  uploadedDocuments : ℕ
  failedDocuments : ℕ
  cancelledDocuments : ℕ
  documents : List DocumentSchema
  startedAt : Option Time
  completedAt : Option Time
  createdAt : Time
  updatedAt : Time
  createdBy : Uuid
  errorCode : Option ErrorCode
  errorMessage : Option String
  cancelReason : Option String
  deriving DecidableEq, Repr

/-- `to_job_schema`, with the `updated_at` that the database keeps of the row and the row order that
`list_for_job` got from it. -/
def toJobSchema (s : Store) (files : Uuid → Option FileRow) (updatedAt : Time) (id : Uuid) (job : Job)
    (order : List Uuid) : Option JobSchema :=
  (s.listForJob id order).map fun docs =>
    { id := id
      orderId := job.orderId
      status := job.status
      requestedDocTypes := job.requestedDocTypes
      totalDocuments := job.totalDocuments
      fetchedDocuments := job.fetchedDocuments
      uploadedDocuments := job.uploadedDocuments
      failedDocuments := job.failedDocuments
      cancelledDocuments := job.cancelledDocuments
      documents := docs.map fun d => toDocumentSchema files d.1 d.2
      startedAt := job.startedAt
      completedAt := job.completedAt
      createdAt := job.createdAt
      updatedAt := updatedAt
      createdBy := job.createdBy.getD job.tenantId
      errorCode := if truthy job.errorCode then job.errorCode.bind toErrorCode else none
      errorMessage := job.errorMessage
      cancelReason := job.cancelReason }

/-- `ResearchJobSummary`. -/
structure JobSummary where
  id : Uuid
  orderId : Uuid
  status : JobStatus
  totalDocuments : ℕ
  fetchedDocuments : ℕ
  uploadedDocuments : ℕ
  failedDocuments : ℕ
  cancelledDocuments : ℕ
  createdAt : Time
  completedAt : Option Time
  cancelReason : Option String
  deriving DecidableEq, Repr

/-- `to_job_summary_schema`. -/
def toJobSummarySchema (id : Uuid) (job : Job) : JobSummary where
  id := id
  orderId := job.orderId
  status := job.status
  totalDocuments := job.totalDocuments
  fetchedDocuments := job.fetchedDocuments
  uploadedDocuments := job.uploadedDocuments
  failedDocuments := job.failedDocuments
  cancelledDocuments := job.cancelledDocuments
  createdAt := job.createdAt
  completedAt := job.completedAt
  cancelReason := job.cancelReason

namespace Store

/-- The rows `ResearchJobRepository.list_for_order` ranges over. -/
def jobsForOrder (s : Store) (orderId tenant : Uuid) : List (Uuid × Job) :=
  s.jobs.select fun j => j.orderId = orderId ∧ j.tenantId = tenant ∧ j.deletedAt = none

/-- `list_for_order`, newest first; the database chooses the order of equal timestamps. -/
def listForOrder (s : Store) (orderId tenant : Uuid) (order : List Uuid) :
    Option (List (Uuid × Job)) :=
  let rows := order.filterMap fun id => (s.jobs.get id).map (id, ·)
  if order.Perm ((s.jobsForOrder orderId tenant).map Prod.fst) ∧
      rows.Pairwise fun a b => b.2.createdAt ≤ a.2.createdAt
  then some rows else none

theorem listForOrder_mem {s : Store} {orderId tenant : Uuid} {order : List Uuid}
    {rows : List (Uuid × Job)} (h : s.listForOrder orderId tenant order = some rows) :
    ∀ r ∈ rows, s.jobs.get r.1 = some r.2 ∧ r.2.tenantId = tenant := by
  simp only [listForOrder] at h
  split at h
  · rename_i hp
    obtain rfl := Option.some.inj h
    intro r hr
    obtain ⟨id, hid, hrow⟩ := List.mem_filterMap.mp hr
    obtain ⟨row, hget, rfl⟩ := Option.map_eq_some_iff.mp hrow
    obtain ⟨r', hr', rfl⟩ := List.mem_map.mp (hp.1.mem_iff.mp hid)
    obtain ⟨hget', hsel⟩ := (Table.mem_select_iff _ _ _ _).mp hr'
    obtain rfl := Option.some.inj (hget.symm.trans hget')
    exact ⟨hget, (of_decide_eq_true hsel).2.1⟩
  · cases h

end Store

end ResearchEngine
