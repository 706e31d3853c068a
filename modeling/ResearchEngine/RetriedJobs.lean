import ResearchEngine.DocumentTypes

/-! What `retry_job` asks for and what it leaves: a new job for the failed documents, or nothing. -/
namespace ResearchEngine
namespace Transactions

open Program FirstOccurrences

variable {out : Surroundings} {s : Store} {tenantId actorId job : Uuid}
  {docTypes : Option (List String)}

/-- The job has a failed document of this type that is not deleted. -/
def FailedType (s : Store) (job : Uuid) (d : DocType) : Prop :=
  ∃ id row, s.docs.get id = some row ∧ row.jobId = job ∧ row.status = .failed ∧
    row.deletedAt = none ∧ row.docType = d

/-- The type may be retried: it has failed, and it is named when types are. -/
def Selected (s : Store) (job : Uuid) (docTypes : Option (List String)) (d : DocType) : Prop :=
  FailedType s job d ∧ ∀ names, docTypes = some names → d.name ∈ names

/-- The names that `retry_job` hands to `create_job`. -/
def wantedNames (s : Store) (job : Uuid) (docTypes : Option (List String)) : List String :=
  let failedTypes := (s.listFailed job).map fun d => d.2.docType.name
  match docTypes with
  | none => failedTypes
  | some ts => ts.filter fun t => t ∈ failedTypes

/-- The request that `retry_job` hands to `create_job`. -/
def retryRequest (s : Store) (tenantId actorId job : Uuid) (docTypes : Option (List String))
    (original : Job) : CreateRequest where
  tenantId := tenantId
  actorId := actorId
  orderId := original.orderId
  docTypes := wantedNames s job docTypes
  idempotencyKey := none

theorem mem_failedNames {t : String} :
    t ∈ (s.listFailed job).map (fun d => d.2.docType.name) ↔ ∃ d, FailedType s job d ∧ t = d.name := by
  rw [List.mem_map]
  constructor
  · rintro ⟨⟨id, row⟩, hrow, rfl⟩
    obtain ⟨hget, hfailed⟩ := (Table.mem_select_iff _ _ _ _).mp hrow
    obtain ⟨hjob, hstatus, hdeleted⟩ := of_decide_eq_true hfailed
    exact ⟨row.docType, ⟨id, row, hget, hjob, hstatus, hdeleted, rfl⟩, rfl⟩
  · rintro ⟨d, ⟨id, row, hget, hjob, hstatus, hdeleted, rfl⟩, rfl⟩
    refine ⟨(id, row), (Table.mem_select_iff _ _ _ _).mpr ⟨hget, ?_⟩, rfl⟩
    exact decide_eq_true ⟨hjob, hstatus, hdeleted⟩

theorem mem_wantedNames {t : String} :
    t ∈ wantedNames s job docTypes ↔ ∃ d, Selected s job docTypes d ∧ t = d.name := by
  unfold wantedNames Selected
  cases docTypes with
  | none =>
    simp only [mem_failedNames]
    exact exists_congr fun d => and_congr_left fun _ => ⟨fun h => ⟨h, fun _ h => (by cases h)⟩, And.left⟩
  | some ts =>
    simp only [List.mem_filter, decide_eq_true_eq, mem_failedNames]
    constructor
    · rintro ⟨hts, d, hd, rfl⟩
      refine ⟨d, ⟨hd, fun names hnames => ?_⟩, rfl⟩
      obtain rfl := Option.some.inj hnames
      exact hts
    · rintro ⟨d, ⟨hd, hnamed⟩, rfl⟩
      exact ⟨hnamed ts rfl, d, hd, rfl⟩

section Retry

variable [PyText]

/-- `create_job` gets a non-empty list of names, which stands for the selected types. -/
theorem wantedNames_types {types : List DocType} (hwanted : wantedNames s job docTypes ≠ [])
    (h : validateDocTypes (wantedNames s job docTypes) = .ok types) (d : DocType) :
    d ∈ types ↔ Selected s job docTypes d := by
  rw [(canonical_of_ok h).mem d, or_iff_right hwanted]
  constructor
  · rintro ⟨t, ht, hspells⟩
    obtain ⟨d', hd', rfl⟩ := mem_wantedNames.mp ht
    obtain rfl := hspells.unique (spells_name d')
    exact hd'
  · exact fun hd => ⟨d.name, mem_wantedNames.mpr ⟨d, hd, rfl⟩, spells_name d⟩

/-- The job that is retried, and what it is retried for. -/
structure Retrying (s : Store) (tenantId job : Uuid) (docTypes : Option (List String))
    (original : Job) : Prop where
  found : s.getJob job tenantId = some original
  retryable : original.status.retryable = true
  wanted : wantedNames s job docTypes ≠ []

omit [PyText] in
theorem getJob_found {w : Store} :
    Ensures (Writing s w) (getJob out tenantId job)
      (fun j c => Writing s w c ∧ w.getJob job tenantId = some j) (fun _ => Unwritten s) := by
  apply Ensures.bind (select_working _)
  intro found
  cases found with
  | none => exact ensures_raise fun c hc => hc.1.1
  | some j => exact ensures_pure fun c hc => ⟨hc.1, hc.2.symm⟩

variable (out s tenantId actorId job) in
/-- A retry creates a job as `create_job` does, for the names that it wants. -/
theorem retryJob_returned (docTypes : Option (List String)) :
    Ensures (Writing s s) (retryJob out tenantId actorId job docTypes)
      (fun id c => ∃ original, Retrying s tenantId job docTypes original ∧
        Returned out s (retryRequest s tenantId actorId job docTypes original) id c)
      (fun e c => Unwritten s c ∨ ∃ original, Retrying s tenantId job docTypes original ∧
        Raised out s (retryRequest s tenantId actorId job docTypes original) e c) := by
  apply Ensures.bind (getJob_found.imp_raises fun _ _ h => Or.inl h)
  intro original
  refine Ensures.given fun hfound => ?_
  apply ensures_ite
  · intro hretryable
    apply Ensures.bind ((select_working _).imp_raises fun _ _ h => Or.inl h)
    intro failed
    refine Ensures.given fun hfailed => ?_
    subst hfailed
    apply ensures_ite
    · intro _
      exact ensures_raise fun c hc => Or.inl hc.1
    · intro hwanted
      have hretrying : Retrying s tenantId job docTypes original :=
        ⟨hfound, hretryable, fun hnil => hwanted (List.isEmpty_iff.mpr hnil)⟩
      refine ((createJob_returned (retryRequest s tenantId actorId job docTypes
        original)).imp_returns ?_).imp_raises ?_
      · exact fun _ _ h => ⟨original, hretrying, h⟩
      · exact fun e c h => Or.inr ⟨original, hretrying, h⟩
  · intro _
    exact ensures_raise fun c hc => Or.inl hc.1

/-- The store after a retry: one queued job more, and its queued documents. -/
structure Retried (out : Surroundings) (s : Store) (tenantId actorId job : Uuid)
    (docTypes : Option (List String)) (original row : Job) (added : List (Uuid × Doc))
    (t : Store) : Prop where
  found : s.getJob job tenantId = some original
  status : original.status = .completed ∨ original.status = .partialResult ∨
    original.status = .failed ∨ original.status = .cancelled
  jobs : t.jobs.rows = s.jobs.rows ++ [(out.job, row)]
  docs : t.docs.rows = s.docs.rows ++ added
  fresh : out.job ∉ s.jobs.keys
  freshKey : ∀ r ∈ s.jobs.rows, r.2.tenantId = tenantId → r.2.idempotencyKey ≠ row.idempotencyKey
  queued : row.status = .queued ∧ row.deletedAt = none
  owner : row.tenantId = tenantId ∧ row.createdBy = some actorId
  order : ∀ provider, out.orderProvider = some provider →
    (∀ id tenant o, provider id tenant = .ok (some o) → o.id = id) → row.orderId = original.orderId
  types : added.map (fun d => d.2.docType) = row.requestedDocTypes
  distinct : row.requestedDocTypes.Nodup
  nonempty : row.requestedDocTypes ≠ []
  selected : ∀ d, d ∈ row.requestedDocTypes ↔ Selected s job docTypes d
  own : ∀ d ∈ added, d.2.jobId = out.job ∧ d.2.orderId = row.orderId ∧ d.2.status = .queued ∧
    d.2.deletedAt = none

theorem retried_of_inserted {original : Job} {t : Store}
    (h : Retrying s tenantId job docTypes original)
    (hrows : Inserted out s (retryRequest s tenantId actorId job docTypes original) t) :
    ∃ row added, Retried out s tenantId actorId job docTypes original row added t := by
  obtain ⟨orderId, types, ⟨provider, o, hprovider, horder, -, rfl, htypes⟩, hadded⟩ := hrows
  refine ⟨_, _, h.found, ?_, hadded.jobs, hadded.docs, hadded.freshJob, hadded.freshKey, ⟨rfl, rfl⟩,
    ⟨rfl, rfl⟩, ?_, ?_, (canonical_of_ok htypes).nodup, validateDocTypes_ne_nil htypes,
    wantedNames_types h.wanted htypes, ?_⟩
  · have hretryable := h.retryable
    cases hstatus : original.status <;> simp [hstatus, JobStatus.retryable] at hretryable ⊢
  · intro provider' hprovider' hsame
    obtain rfl := Option.some.inj (hprovider.symm.trans hprovider')
    exact hsame _ _ o horder
  · rw [List.map_map]
    exact List.map_snd_zip (by simp [docIds])
  · intro d hd
    obtain ⟨p, -, rfl⟩ := List.mem_map.mp hd
    exact ⟨rfl, rfl, rfl, rfl⟩

/-- How a call of `retry_job` may end. -/
inductive RetryEnded (out : Surroundings) (s : Store) (tenantId actorId job : Uuid)
    (docTypes : Option (List String)) : Except CallError Uuid → Connection → Prop
  | refused {e c} (unchanged : c.committed = s) (unpublished : c.published = []) :
      RetryEnded out s tenantId actorId job docTypes (.error e) c
  | retried {c original row added}
      (rows : Retried out s tenantId actorId job docTypes original row added c.committed)
      (published : c.published = if out.enqueue = some true then
        [{ jobId := out.job, tenantId := tenantId, actorId := actorId }] else []) :
      RetryEnded out s tenantId actorId job docTypes (.ok out.job) c
  /-- The new job is committed, and the refresh or the broker fails after that. -/
  | unannounced {e c original row added} (error : OutsideError out e)
      (rows : Retried out s tenantId actorId job docTypes original row added c.committed)
      (unpublished : c.published = []) :
      RetryEnded out s tenantId actorId job docTypes (.error e) c

/-- A retry either raises and leaves the store as it is, or adds one queued job with the failed
documents that were asked for and nothing else, and enqueues it; an error of the database or the
broker after that commit leaves the new job without its task. -/
theorem retryJob_ends (out : Surroundings) (s : Store) (tenantId actorId job : Uuid)
    (docTypes : Option (List String)) :
    RetryEnded out s tenantId actorId job docTypes
      ((retryJob out tenantId actorId job docTypes).run (.opened s)).1
      ((retryJob out tenantId actorId job docTypes).run (.opened s)).2 := by
  have h := retryJob_returned out s tenantId actorId job docTypes (.opened s) ⟨⟨rfl, rfl⟩, rfl⟩
  revert h
  rcases (retryJob out tenantId actorId job docTypes).run (.opened s) with ⟨result, c⟩
  cases result with
  | ok id =>
    rintro ⟨original, hretrying, hreturned⟩
    cases hreturned with
    | existing hkey => cases hkey
    | created hid hrows hpublished =>
      subst hid
      obtain ⟨row, added, hretried⟩ := retried_of_inserted hretrying hrows
      exact .retried hretried hpublished
  | error e =>
    rintro (hunwritten | ⟨original, hretrying, hraised⟩)
    · exact .refused hunwritten.1 hunwritten.2
    · cases hraised with
      | unwritten hunwritten => exact .refused hunwritten.1 hunwritten.2
      | afterCommit herror hrows hpublished =>
        obtain ⟨row, added, hretried⟩ := retried_of_inserted hretrying hrows
        exact .unannounced herror hretried hpublished

end Retry

section Concrete

open JobMachine
open scoped PyText.Ascii

/-- One failed job with one failed document. -/
def failedStore : Store where
  jobs := ⟨[(7, { newJob 1 sampleRequest 3 8 [.deedSubjectParcel] with status := .failed })],
    by decide +kernel⟩
  docs := ⟨[(10, { newDoc 1 7 3 .deedSubjectParcel with status := .failed })], by decide +kernel⟩

/-- The broker is down. -/
def brokerDown : Surroundings where
  fault _ := none
  orderProvider := some fun _ _ => .ok (some sampleOrder)
  enqueue := some false
  now := 5
  job := 40
  key := 41
  docId n := 50 + n

/-- The retry raises, and its job is there. -/
theorem refused_after_commit :
    ((retryJob brokerDown 1 2 7 none).run (.opened failedStore)).1 =
        .error (.service .enqueueFailed) ∧
      failedStore.jobs.keys = [7] ∧
      ((retryJob brokerDown 1 2 7 none).run (.opened failedStore)).2.committed.jobs.keys = [7, 40] ∧
      ((retryJob brokerDown 1 2 7 none).run (.opened failedStore)).2.published = [] := by
  decide +kernel

end Concrete

end Transactions
end ResearchEngine
