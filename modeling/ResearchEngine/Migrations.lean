import ResearchEngine.SchemaRevisions
import ResearchEngine.JobStore
import ResearchEngine.ServiceValues

/-! The Alembic scripts of the engine, and the rows that its models insert. -/
namespace ResearchEngine
namespace Migrations

open Ddl

/-- `revision` of the scripts, by their names: `0002_dev_base_tables`, `0001_research_tables`,
`0003_cancel_reason`, `0004_callback_delivered`. -/
inductive Revision
  | devBaseTables | researchTables | cancelReason | callbackDelivered
  deriving DecidableEq, Repr

/-- What the scripts say in SQL: a `server_default` is a string, that is quoted, or a piece of SQL, and
`nonempty` is the condition `jsonb_array_length(column) > 0`. -/
inductive SqlExpr
  | quoted (text : String)
  | sql (text : String)
  | nonempty (column : String)
  deriving DecidableEq, Repr

abbrev SaColumn := Column String SqlExpr
abbrev SaTable := Ddl.Table String SqlExpr
abbrev Op := Statement String SqlExpr

def column (name type : String) (nullable : Bool) (default : Option SqlExpr := none) : SaColumn :=
  ⟨name, .system type, nullable, default⟩

def enumColumn (name type : String) (nullable : Bool) : SaColumn := ⟨name, .enum type, nullable, none⟩

def now : Option SqlExpr := some (.sql "now()")

def timestamps : List SaColumn :=
  [column "created_at" "timestamptz" false now, column "updated_at" "timestamptz" false now]

/-! `0002_dev_base_tables` -/

def tenants : SaTable where
  name := "tenants"
  columns := column "id" "uuid" false :: timestamps
  primaryKey := ["id"]

def orders : SaTable where
  name := "orders"
  columns :=
    [column "id" "uuid" false, column "tenant_id" "uuid" false,
     column "order_number" "varchar(100)" true, column "address_line_1" "varchar(255)" false,
     column "address_line_2" "varchar(255)" true, column "city" "varchar(120)" true,
     column "state" "varchar(2)" true, column "zip_code" "varchar(10)" true,
     column "county" "varchar(120)" true, column "parcel_id" "varchar(100)" true,
     column "lat" "float" true, column "lon" "float" true, column "survey_type" "varchar(100)" true,
     column "created_by" "uuid" true, column "updated_by" "uuid" true,
     column "deleted_at" "timestamptz" true] ++ timestamps
  primaryKey := ["id"]
  foreignKeys := [⟨"tenant_id", "tenants", "id"⟩]

def files : SaTable where
  name := "files"
  columns :=
    [column "id" "uuid" false, column "filename" "varchar(255)" false,
     column "content_key" "varchar(512)" true, column "mime_type" "varchar(100)" true,
     column "size" "bigint" true, column "sha256" "varchar(64)" true,
     column "deleted_at" "timestamptz" true] ++ timestamps
  primaryKey := ["id"]

def orderFiles : SaTable where
  name := "order_files"
  columns :=
    [column "id" "uuid" false, column "order_id" "uuid" false, column "file_id" "uuid" false,
     column "deleted_at" "timestamptz" true] ++ timestamps
  primaryKey := ["id"]
  foreignKeys := [⟨"file_id", "files", "id"⟩, ⟨"order_id", "orders", "id"⟩]

def indexOn (table column : String) : Index String where
  name := "ix_" ++ table ++ "_" ++ column
  table := table
  columns := [column]

def devBaseTables : Script Revision String SqlExpr where
  revision := .devBaseTables
  downRevision := none
  upgrade :=
    [.createTable tenants, .createTable orders, .createIndex (indexOn "orders" "tenant_id"),
     .createTable files, .createTable orderFiles]
  downgrade :=
    [.dropTable "order_files", .dropTable "files", .dropTable "orders", .dropTable "tenants"]

/-! `0001_research_tables` -/

def jobStatuses : List String :=
  ["queued", "running", "completed", "partial", "failed", "cancelling", "cancelled"]

def docStatuses : List String :=
  ["queued", "fetching", "fetched", "uploading", "uploaded", "failed", "skipped"]

def sourceOutcomes : List String :=
  ["auto", "link_only", "blocked", "broken", "retryable", "manual_review"]

def confidences : List String := ["high", "medium", "low", "none"]

/-- `server_default="0"` -/
def counter (name : String) : SaColumn := column name "integer" false (some (.quoted "0"))

def researchJobs : SaTable where
  name := "research_jobs"
  columns :=
    [column "id" "uuid" false, column "tenant_id" "uuid" false, column "order_id" "uuid" false,
     column "idempotency_key" "uuid" false, column "requested_doc_types" "jsonb" false,
     enumColumn "status" "research_job_status_enum" false, counter "total_documents",
     counter "fetched_documents", counter "uploaded_documents", counter "failed_documents",
     counter "cancelled_documents", column "started_at" "timestamptz" true,
     column "completed_at" "timestamptz" true, column "error_code" "varchar(100)" true,
     column "error_message" "text" true, column "callback_url" "varchar(2048)" true,
     column "created_by" "uuid" true, column "updated_by" "uuid" true,
     column "deleted_at" "timestamptz" true] ++ timestamps
  primaryKey := ["id"]
  foreignKeys := [⟨"order_id", "orders", "id"⟩, ⟨"tenant_id", "tenants", "id"⟩]
  uniques := [("uq_research_job_idempotency_per_tenant", ["tenant_id", "idempotency_key"])]
  checks :=
    [⟨"ck_research_job_nonempty_doc_types", ["requested_doc_types"], .nonempty "requested_doc_types"⟩]

def researchDocuments : SaTable where
  name := "research_documents"
  columns :=
    [column "id" "uuid" false, column "job_id" "uuid" false, column "order_id" "uuid" false,
     column "doc_type" "varchar(100)" false, enumColumn "status" "research_doc_status_enum" false,
     enumColumn "source_outcome" "source_outcome_enum" true,
     enumColumn "confidence" "confidence_enum" true, column "file_id" "uuid" true,
     column "order_file_id" "uuid" true, column "summary" "text" false (some (.quoted "")),
     column "link" "varchar(2048)" false (some (.quoted "")),
     column "link_label" "varchar(255)" false (some (.quoted "")),
     column "provenance" "jsonb" true, column "warnings" "jsonb" true,
     column "error_code" "varchar(100)" true, column "error_message" "text" true,
     column "retryable" "boolean" false (some (.quoted "true")), counter "retry_count",
     column "fetched_at" "timestamptz" true, column "uploaded_at" "timestamptz" true,
     column "deleted_at" "timestamptz" true] ++ timestamps
  primaryKey := ["id"]
  foreignKeys :=
    [⟨"file_id", "files", "id"⟩, ⟨"job_id", "research_jobs", "id"⟩,
     ⟨"order_file_id", "order_files", "id"⟩, ⟨"order_id", "orders", "id"⟩]
  uniques := [("uq_research_doc_per_job_type", ["job_id", "doc_type"])]

/-- `op.create_table` creates the enumerations of the columns before the table. -/
def researchTables : Script Revision String SqlExpr where
  revision := .researchTables
  downRevision := some .devBaseTables
  upgrade :=
    [.createType "research_job_status_enum" jobStatuses, .createTable researchJobs,
     .createIndex (indexOn "research_jobs" "tenant_id"),
     .createIndex (indexOn "research_jobs" "order_id"),
     .createIndex (indexOn "research_jobs" "status"),
     .createType "research_doc_status_enum" docStatuses,
     .createType "source_outcome_enum" sourceOutcomes, .createType "confidence_enum" confidences,
     .createTable researchDocuments, .createIndex (indexOn "research_documents" "job_id"),
     .createIndex (indexOn "research_documents" "order_id"),
     .createIndex (indexOn "research_documents" "status")]
  downgrade :=
    [.dropTable "research_documents", .dropTable "research_jobs",
     .dropType "research_job_status_enum", .dropType "research_doc_status_enum",
     .dropType "source_outcome_enum", .dropType "confidence_enum"]

/-! `0003_cancel_reason` -/

def cancelReasonColumn : SaColumn := column "cancel_reason" "text" true

def cancelReason : Script Revision String SqlExpr where
  revision := .cancelReason
  downRevision := some .researchTables
  upgrade :=
    [.addColumn "research_jobs" cancelReasonColumn,
     .addValue "research_job_status_enum" "reviewed", .addValue "research_job_status_enum" "archived"]
  downgrade := [.dropColumn "research_jobs" "cancel_reason"]

/-! `0004_callback_delivered` -/

def callbackDeliveredColumn : SaColumn :=
  column "callback_delivered" "boolean" false (some (.sql "false"))

def callbackDelivered : Script Revision String SqlExpr where
  revision := .callbackDelivered
  downRevision := some .cancelReason
  upgrade := [.addColumn "research_jobs" callbackDeliveredColumn]
  downgrade := [.dropColumn "research_jobs" "callback_delivered"]

/-- `alembic/versions`, by the names of the files. -/
def versions : List (Script Revision String SqlExpr) :=
  [researchTables, devBaseTables, cancelReason, callbackDelivered]

/-! `models.py`: the columns that an `INSERT` of the two models gives. `SQLEnum` stores the name of a
member; `created_at` and `updated_at` are left to the server. -/

def jobStatusName : JobStatus → String
  | .queued => "queued"
  | .running => "running"
  | .completed => "completed"
  | .partialResult => "partial"
  | .failed => "failed"
  | .cancelling => "cancelling"
  | .cancelled => "cancelled"
  | .reviewed => "reviewed"
  | .archived => "archived"

def docStatusName : DocStatus → String
  | .queued => "queued"
  | .fetching => "fetching"
  | .fetched => "fetched"
  | .uploading => "uploading"
  | .uploaded => "uploaded"
  | .failed => "failed"
  | .skipped => "skipped"

def confidenceName : Confidence → String
  | .high => "high"
  | .medium => "medium"
  | .low => "low"
  | .none => "none"

/-- A value of a column. -/
inductive SqlValue
  | number (n : ℕ)
  | text (s : String)
  | flag (b : Bool)
  | names (ns : List String)
  | records (rs : List ProvenanceRecord)
  deriving DecidableEq, Repr

abbrev SqlCell := Option (Cell String SqlValue)

def given (v : SqlValue) : SqlCell := some (.value v)

/-- Whether a cell passes `jsonb_array_length(column) > 0`: null does, and the length of what is no array
is an error. -/
def nonemptyArray : SqlCell → Bool
  | none => true
  | some (.value (.names ns)) => ns ≠ []
  | some (.value (.records rs)) => rs ≠ []
  | some _ => false

/-- Whether a row passes a condition of the scripts. -/
def passes : SqlExpr → Row String SqlValue → Bool
  | .nonempty column, row => nonemptyArray (row column)
  | .quoted _, _ | .sql _, _ => false

/-- `ResearchJob` -/
def jobInsert (id : Uuid) (updatedBy : Option Uuid) (j : Job) : List (String × SqlCell) :=
  [("id", given (.number id)), ("tenant_id", given (.number j.tenantId)),
   ("order_id", given (.number j.orderId)), ("idempotency_key", given (.number j.idempotencyKey)),
   ("requested_doc_types", given (.names (j.requestedDocTypes.map DocType.name))),
   ("status", some (.label (jobStatusName j.status))),
   ("total_documents", given (.number j.totalDocuments)),
   ("fetched_documents", given (.number j.fetchedDocuments)),
   ("uploaded_documents", given (.number j.uploadedDocuments)),
   ("failed_documents", given (.number j.failedDocuments)),
   ("cancelled_documents", given (.number j.cancelledDocuments)),
   ("started_at", j.startedAt.map fun t => .value (.number t)),
   ("completed_at", j.completedAt.map fun t => .value (.number t)),
   ("error_code", j.errorCode.map fun t => .value (.text t)),
   ("error_message", j.errorMessage.map fun t => .value (.text t)),
   ("cancel_reason", j.cancelReason.map fun t => .value (.text t)),
   ("callback_url", j.callbackUrl.map fun t => .value (.text t)),
   ("callback_delivered", given (.flag j.callbackDelivered)),
   ("created_by", j.createdBy.map fun u => .value (.number u)),
   ("updated_by", updatedBy.map fun u => .value (.number u)),
   ("deleted_at", j.deletedAt.map fun t => .value (.number t))]

/-- `ResearchDocument` -/
def docInsert (id : Uuid) (d : Doc) : List (String × SqlCell) :=
  [("id", given (.number id)), ("job_id", given (.number d.jobId)),
   ("order_id", given (.number d.orderId)), ("doc_type", given (.text d.docType.name)),
   ("status", some (.label (docStatusName d.status))),
   ("source_outcome", d.sourceOutcome.map fun o => .label o.value),
   ("confidence", d.confidence.map fun o => .label (confidenceName o)),
   ("file_id", d.fileId.map fun u => .value (.number u)),
   ("order_file_id", d.orderFileId.map fun u => .value (.number u)),
   ("summary", given (.text d.summary)), ("link", given (.text d.link)),
   ("link_label", given (.text d.linkLabel)), ("provenance", given (.records d.provenance)),
   ("warnings", given (.names d.warnings)),
   ("error_code", d.errorCode.map fun t => .value (.text t)),
   ("error_message", d.errorMessage.map fun t => .value (.text t)),
   ("retryable", given (.flag d.retryable)), ("retry_count", given (.number d.retryCount)),
   ("fetched_at", d.fetchedAt.map fun t => .value (.number t)),
   ("uploaded_at", d.uploadedAt.map fun t => .value (.number t)),
   ("deleted_at", d.deletedAt.map fun t => .value (.number t))]

end Migrations
end ResearchEngine
