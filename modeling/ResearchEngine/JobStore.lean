import ResearchEngine.KeyedTable
import ResearchEngine.Vocabulary
import Mathlib.Data.List.Perm.Basic
import Mathlib.Data.List.Sort

/-! The `research_jobs` and `research_documents` tables, the repository queries
over them, and the two helpers that derive a job's counters and terminal status
from its documents. -/
namespace ResearchEngine

/-- One row of `research_jobs`; the primary key is the table key. -/
structure Job where
  tenantId : Uuid
  orderId : Uuid
  createdBy : Option Uuid
  idempotencyKey : Uuid
  requestedDocTypes : List DocType
  status : JobStatus := .queued
  totalDocuments : ℕ := 0
  fetchedDocuments : ℕ := 0
  uploadedDocuments : ℕ := 0
  failedDocuments : ℕ := 0
  cancelledDocuments : ℕ := 0
  createdAt : Time
  startedAt : Option Time := none
  completedAt : Option Time := none
  errorCode : Option String := none
  errorMessage : Option String := none
  cancelReason : Option String := none
  callbackUrl : Option String := none
  callbackDelivered : Bool := false
  deletedAt : Option Time := none
  deriving DecidableEq, Repr, Inhabited

/-- One row of `research_documents`. -/
structure Doc where
  jobId : Uuid
  orderId : Uuid
  docType : DocType
  status : DocStatus := .queued
  sourceOutcome : Option SourceOutcome := none
  confidence : Option Confidence := none
  fileId : Option Uuid := none
  orderFileId : Option Uuid := none
  summary : String := ""
  link : String := ""
  linkLabel : String := ""
  provenance : List ProvenanceRecord := []
  warnings : List String := []
  errorCode : Option String := none
  errorMessage : Option String := none
  retryable : Bool := true
  retryCount : ℕ := 0
  createdAt : Time
  fetchedAt : Option Time := none
  uploadedAt : Option Time := none
  deletedAt : Option Time := none
  deriving DecidableEq, Repr

structure Store where
  jobs : Table Uuid Job
  docs : Table Uuid Doc
  deriving Inhabited

def Job.setStatus (status : JobStatus) (j : Job) : Job := { j with status := status }

/-- `status in (cancelled, cancelling)`. -/
def JobStatus.isCancel : JobStatus → Bool
  | .cancelled | .cancelling => true
  | _ => false

/-- A text column that Python would treat as true. -/
def truthy : Option String → Bool
  | some s => s ≠ ""
  | none => false

namespace Store

/-- `ResearchJobRepository.get`. -/
def getJob (s : Store) (job tenant : Uuid) : Option Job :=
  (s.jobs.get job).filter fun j => j.tenantId = tenant ∧ j.deletedAt = none

/-- `ResearchJobRepository.get_by_idempotency`. -/
def getByIdempotency (s : Store) (key tenant : Uuid) : Option (Uuid × Job) :=
  (s.jobs.select fun j =>
    j.idempotencyKey = key ∧ j.tenantId = tenant ∧ j.deletedAt = none).head?

/-- `ResearchJobRepository.list_stale_queued`. -/
def listStaleQueued (s : Store) (now minutes : ℕ) : List (Uuid × Job) :=
  s.jobs.select fun j =>
    j.status = .queued ∧ j.createdAt + 60 * minutes < now ∧ j.deletedAt = none

/-- The rows `ResearchDocumentRepository.list_for_job` ranges over. -/
def docsForJob (s : Store) (job : Uuid) : List (Uuid × Doc) :=
  s.docs.select fun d => d.jobId = job ∧ d.deletedAt = none

/-- `list_for_job` with the row order the database chose: `ORDER BY created_at`
leaves the order of equal timestamps open, so any order of the rows that is
sorted by `created_at` may come back. -/
def listForJob (s : Store) (job : Uuid) (order : List Uuid) : Option (List (Uuid × Doc)) :=
  let rows := order.filterMap fun d => (s.docs.get d).map (d, ·)
  if order.Perm ((s.docsForJob job).map Prod.fst) ∧
      rows.Pairwise fun a b => a.2.createdAt ≤ b.2.createdAt
  then some rows else none

/-- `ResearchDocumentRepository.list_failed`. -/
def listFailed (s : Store) (job : Uuid) : List (Uuid × Doc) :=
  s.docs.select fun d => d.jobId = job ∧ d.status = .failed ∧ d.deletedAt = none

/-- Commit an update of one job row. -/
def modifyJob (s : Store) (job : Uuid) (f : Job → Job) : Store :=
  { s with jobs := s.jobs.modify job f }

/-- Commit an update of the document rows, key by key. -/
def adjustDocs (s : Store) (f : Uuid → Doc → Doc) : Store :=
  { s with docs := s.docs.adjust f }

@[simp] theorem modifyJob_docs (s : Store) (job : Uuid) (f : Job → Job) :
    (s.modifyJob job f).docs = s.docs := rfl
@[simp] theorem adjustDocs_jobs (s : Store) (f : Uuid → Doc → Doc) :
    (s.adjustDocs f).jobs = s.jobs := rfl
@[simp] theorem modifyJob_jobs (s : Store) (job : Uuid) (f : Job → Job) :
    (s.modifyJob job f).jobs = s.jobs.modify job f := rfl
@[simp] theorem adjustDocs_docs (s : Store) (f : Uuid → Doc → Doc) :
    (s.adjustDocs f).docs = s.docs.adjust f := rfl

theorem getJob_eq_some_iff (s : Store) (job tenant : Uuid) (j : Job) :
    s.getJob job tenant = some j ↔
      s.jobs.get job = some j ∧ j.tenantId = tenant ∧ j.deletedAt = none := by
  simp [getJob, Option.filter_eq_some_iff]

theorem listForJob_eq_some {s : Store} {job : Uuid} {order : List Uuid}
    {rows : List (Uuid × Doc)} (h : s.listForJob job order = some rows) :
    rows.map Prod.fst = order ∧ order.Perm ((s.docsForJob job).map Prod.fst) ∧
      ∀ r ∈ rows, s.docs.get r.1 = some r.2 := by
  simp only [listForJob] at h
  split at h
  · rename_i hp
    obtain rfl := Option.some.inj h
    have hget : ∀ d ∈ order, ∃ v, s.docs.get d = some v := by
      intro d hd
      obtain ⟨r, hr, rfl⟩ := List.mem_map.mp (hp.1.mem_iff.mp hd)
      exact ⟨r.2, ((Table.mem_select_iff _ _ _ _).mp hr).1⟩
    refine ⟨?_, hp.1, ?_⟩
    · clear hp h
      induction order with
      | nil => rfl
      | cons d order ih =>
        obtain ⟨v, hv⟩ := hget d (by simp)
        have ht := ih fun e he => hget e (by simp [he])
        simpa [List.filterMap_cons, hv] using ht
    · intro r hr
      obtain ⟨d, _, hd⟩ := List.mem_filterMap.mp hr
      obtain ⟨v, hv, rfl⟩ := Option.map_eq_some_iff.mp hd
      exact hv
  · simp at h

/-- Another store lists the documents of a job alike if it has the same ones. -/
theorem listForJob_congr {s t : Store} {job : Uuid} {order : List Uuid} {rows : List (Uuid × Doc)}
    (hdocs : t.docsForJob job = s.docsForJob job)
    (hget : ∀ d row, s.docs.get d = some row → row.jobId = job → t.docs.get d = some row)
    (h : s.listForJob job order = some rows) : t.listForJob job order = some rows := by
  obtain ⟨-, hperm, -⟩ := listForJob_eq_some h
  have hrows : order.filterMap (fun d => (t.docs.get d).map (d, ·)) =
      order.filterMap fun d => (s.docs.get d).map (d, ·) := by
    refine List.filterMap_congr fun d hd => ?_
    obtain ⟨r, hr, rfl⟩ := List.mem_map.mp (hperm.mem_iff.mp hd)
    obtain ⟨hrow, hjob⟩ := (Table.mem_select_iff _ _ _ _).mp hr
    rw [hrow, hget r.1 r.2 hrow (of_decide_eq_true hjob).1]
  unfold listForJob at h ⊢
  rw [hdocs, hrows]
  exact h

end Store

/-- Recompute the job's denormalized counters from its documents. -/
def recalcJobCounters (docs : List Doc) (j : Job) : Job :=
  { j with
    totalDocuments := docs.length
    fetchedDocuments := docs.countP fun d => d.status = .fetched ∨ d.status = .uploaded
    uploadedDocuments := docs.countP fun d => d.status = .uploaded
    failedDocuments := docs.countP fun d => d.status = .failed
    cancelledDocuments := docs.countP fun d => d.status = .skipped }

/-- The job's terminal status; `status` is the status the session last read. -/
def resolveJobTerminalStatus (status : JobStatus) (docs : List Doc) : JobStatus :=
  if status = .cancelling then .cancelled
  else
    let total := docs.length
    if total = 0 then .failed
    else
      let failed := docs.countP fun d => d.status = .failed
      let uploadedOk := total - failed - docs.countP fun d => d.status = .skipped
      if failed = 0 then .completed
      else if uploadedOk = 0 then .failed
      else .partialResult

@[simp] theorem recalcJobCounters_status (docs : List Doc) (j : Job) :
    (recalcJobCounters docs j).status = j.status := rfl
@[simp] theorem recalcJobCounters_tenantId (docs : List Doc) (j : Job) :
    (recalcJobCounters docs j).tenantId = j.tenantId := rfl
@[simp] theorem recalcJobCounters_deletedAt (docs : List Doc) (j : Job) :
    (recalcJobCounters docs j).deletedAt = j.deletedAt := rfl

@[simp] theorem resolveJobTerminalStatus_cancelling (docs : List Doc) :
    resolveJobTerminalStatus .cancelling docs = .cancelled := rfl

/-- What the documents of a run resolve to, unless it saw `cancelling`. -/
inductive Resolves (docs : List Doc) : JobStatus → Prop
  | empty (h : docs = []) : Resolves docs .failed
  | completed (h : ∀ d ∈ docs, d.status ≠ .failed) : Resolves docs .completed
  | failed (h : ∃ d ∈ docs, d.status = .failed) : Resolves docs .failed
  | mixed (h : ∃ d ∈ docs, d.status = .failed)
      (hok : docs.length - docs.countP (fun d => d.status = .failed) -
        docs.countP (fun d => d.status = .skipped) ≠ 0) : Resolves docs .partialResult

theorem resolveJobTerminalStatus_resolves {status : JobStatus} (h : status ≠ .cancelling)
    (docs : List Doc) : Resolves docs (resolveJobTerminalStatus status docs) := by
  have failing (hcount : docs.countP (fun d => d.status = .failed) ≠ 0) :
      ∃ d ∈ docs, d.status = .failed := by
    obtain ⟨d, hd, hst⟩ := List.countP_pos_iff.mp (Nat.pos_of_ne_zero hcount)
    exact ⟨d, hd, of_decide_eq_true hst⟩
  simp only [resolveJobTerminalStatus, h, if_false]
  split
  · exact .empty (List.length_eq_zero_iff.mp ‹_›)
  · split
    · rename_i hnone
      exact .completed fun d hd => by simpa using List.countP_eq_zero.mp hnone d hd
    · rename_i hcount
      split
      · exact .failed (failing hcount)
      · exact .mixed (failing hcount) ‹_›

/-- A run that did not see `cancelling` lands on one of three statuses. -/
theorem resolveJobTerminalStatus_cases {status : JobStatus} (h : status ≠ .cancelling)
    (docs : List Doc) :
    resolveJobTerminalStatus status docs = .completed ∨
      resolveJobTerminalStatus status docs = .partialResult ∨
      resolveJobTerminalStatus status docs = .failed := by
  have hr := resolveJobTerminalStatus_resolves h docs
  generalize resolveJobTerminalStatus status docs = st at hr ⊢
  cases hr with
  | completed => exact Or.inl rfl
  | mixed => exact Or.inr (Or.inl rfl)
  | empty | failed => exact Or.inr (Or.inr rfl)

/-- A run never resolves its job to a status that is still open. -/
theorem resolveJobTerminalStatus_ne_open (status : JobStatus) (docs : List Doc) :
    resolveJobTerminalStatus status docs ≠ .running ∧
      resolveJobTerminalStatus status docs ≠ .cancelling := by
  by_cases hc : status = .cancelling
  · simp [hc]
  · rcases resolveJobTerminalStatus_cases hc docs with h | h | h <;> simp [h]

end ResearchEngine
