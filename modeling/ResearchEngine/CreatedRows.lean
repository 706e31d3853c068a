import ResearchEngine.ServiceTransactions

/-! What a call of `create_job` or `retry_job` has committed and enqueued, row by row, when it
returns and when it raises. -/
namespace ResearchEngine
namespace Transactions

open Program

/-- The tasks that a created job puts on the queue. -/
def enqueued (out : Surroundings) (req : CreateRequest) : List Task :=
  if out.enqueue = some true then
    [{ jobId := out.job, tenantId := req.tenantId, actorId := req.actorId }]
  else []

/-- The key that the new job gets. -/
def keyFor (out : Surroundings) (req : CreateRequest) : Uuid := req.idempotencyKey.getD out.key

/-- The rows of one job and of its documents have been added, and no other row is touched. -/
structure Added (out : Surroundings) (s : Store) (req : CreateRequest) (orderId : Uuid)
    (types : List DocType) (t : Store) : Prop where
  freshJob : out.job ∉ s.jobs.keys
  freshKey : ∀ r ∈ s.jobs.rows, r.2.tenantId = req.tenantId → r.2.idempotencyKey ≠ keyFor out req
  jobs : t.jobs.rows =
    s.jobs.rows ++ [(out.job, newJob out.now req orderId (keyFor out req) types)]
  docs : t.docs.rows = s.docs.rows ++
    ((docIds out types).zip types).map fun p => (p.1, newDoc out.now out.job orderId p.2)

variable {out : Surroundings} {s : Store} {req : CreateRequest} {orderId : Uuid}
  {types : List DocType}

theorem added_of_insertJob {t : Store}
    (h : insertJob out.now s req orderId types out.job out.key (docIds out types) =
      some { store := t, session := .created out.job req }) : Added out s req orderId types t := by
  unfold insertJob at h
  simp only at h
  split at h
  · obtain ⟨-, hsession⟩ := ApiEffect.mk.inj (Option.some.inj h)
    cases hsession.1
  · rename_i hunique
    split at h
    · obtain ⟨jobs, hjobs, hrest⟩ := Option.bind_eq_some_iff.mp h
      obtain ⟨fresh, rfl⟩ := (Table.insert?_eq_some_iff _ _ _ _).mp hjobs
      obtain ⟨table, htable, heffect⟩ := Option.map_eq_some_iff.mp hrest
      obtain ⟨rfl, -⟩ := ApiEffect.mk.inj heffect
      have hfree : (s.jobs.rows.any fun r => r.2.idempotencyKey = keyFor out req ∧
          r.2.tenantId = req.tenantId) = false := by
        by_contra htaken
        exact hunique (decide_eq_true (Or.inl (Bool.eq_true_of_not_eq_false htaken)))
      refine ⟨fresh, fun r hr htenant hkey => ?_, rfl, insertDocs_rows htable⟩
      exact List.any_eq_false.mp hfree r hr (decide_eq_true ⟨hkey, htenant⟩)
    · cases h

/-- A store with the rows added, before the job is enqueued. -/
def Written (out : Surroundings) (s : Store) (req : CreateRequest) (orderId : Uuid)
    (types : List DocType) (c : Connection) : Prop :=
  Added out s req orderId types c.committed ∧ c.published = []

theorem Written.stable : Stable (Written out s req orderId types) := fun _ _ h => h

/-- A query sees the rows of the transaction. -/
theorem select_working {w : Store} {A : Type} (f : Store → A) :
    Ensures (Writing s w) (select out f) (fun a c => Writing s w c ∧ a = f w)
      (fun _ => Unwritten s) := by
  apply Ensures.bind ((execute_within Writing.stable).imp_raises fun _ _ h => h.1)
  intro _
  exact ensures_inspect fun c hc => ⟨hc, by rw [hc.2]⟩

/-- Nothing has been enqueued yet. -/
def Quiet (c : Connection) : Prop := c.published = []

theorem Quiet.stable : Stable Quiet := fun _ _ h => h

theorem createDocs_quiet (orderId : Uuid) (ds : List (Uuid × DocType)) :
    Ensures Quiet (createDocs out orderId ds) (fun _ => Quiet) (fun _ => Quiet) := by
  induction ds with
  | nil => exact ensures_pure fun c hc => hc
  | cons p ds ih =>
    obtain ⟨d, docType⟩ := p
    apply Ensures.bind (flush_ensures (J := Quiet) Quiet.stable fun c w hc _ => hc)
    intro _
    exact ih

theorem insertAll_quiet (req : CreateRequest) (orderId : Uuid) (types : List DocType) :
    Ensures Quiet (insertAll out req orderId types) (fun _ => Quiet) (fun _ => Quiet) := by
  apply Ensures.bind (flush_ensures (J := Quiet) Quiet.stable fun c w hc _ => hc)
  intro _
  apply Ensures.bind (createDocs_quiet orderId _)
  intro _
  exact commit_ensures Quiet.stable fun c hc => hc

/-- What the `try` block leaves when it comes to its end. -/
theorem insertAll_written (req : CreateRequest) (orderId : Uuid) (types : List DocType) :
    Ensures (Writing s s) (insertAll out req orderId types)
      (fun _ => Written out s req orderId types) (fun _ => Unwritten s) := by
  refine ((insertAll_ensures req orderId types).and (insertAll_quiet req orderId types)).weaken
    (fun c hc => ⟨hc, hc.1.2⟩) (fun _ c hc => ⟨added_of_insertJob hc.1, hc.2⟩) fun _ c hc => hc.1

variable [PyText]

/-- The order and the document types that a request resolves to. -/
def ResolvesTo (out : Surroundings) (req : CreateRequest) (orderId : Uuid) (types : List DocType) :
    Prop :=
  ∃ provider o, out.orderProvider = some provider ∧
    provider req.orderId req.tenantId = .ok (some o) ∧ o.addressLine1 ≠ "" ∧ orderId = o.id ∧
    validateDocTypes req.docTypes = .ok types

theorem resolveCall_resolves {I : Connection → Prop} (req : CreateRequest) :
    Ensures I (resolveCall out req) (fun found c => I c ∧ ResolvesTo out req found.1 found.2)
      (fun _ => I) := by
  unfold resolveCall
  split
  · exact ensures_raise fun c hc => hc
  · rename_i provider hprovider
    apply Ensures.bind (Q := fun order c => I c ∧ provider req.orderId req.tenantId = .ok order)
    · exact ensures_ofExcept (fun order horder c hc => ⟨hc, horder⟩) fun _ _ c hc => hc
    · intro order
      refine ensures_ofExcept (fun found hfound c hc => ⟨hc.1, ?_⟩) fun _ _ c hc => hc.1
      obtain ⟨orderId, types⟩ := found
      cases hres : resolveRequest req order with
      | error e => simp [hres, Except.mapError] at hfound
      | ok pair =>
        simp only [hres, Except.mapError, Except.ok.injEq] at hfound
        subst hfound
        obtain ⟨⟨o, rfl, haddr⟩, htypes⟩ := resolveRequest_ok hres
        refine ⟨provider, o, hprovider, hc.2, haddr, ?_, htypes⟩
        simp only [resolveRequest, haddr, if_false, htypes, Except.map, Except.ok.injEq,
          Prod.mk.injEq] at hres
        exact hres.1.symm

/-- What a call of `create_job` leaves when it has inserted a job. -/
def Inserted (out : Surroundings) (s : Store) (req : CreateRequest) (t : Store) : Prop :=
  ∃ orderId types, ResolvesTo out req orderId types ∧ Added out s req orderId types t

omit [PyText] in
theorem existingJob_keyed {I : Connection → Prop} (hI : Stable I) (req : CreateRequest) :
    Ensures I (existingJob out req)
      (fun found c => I c ∧ (found.isSome = true → req.idempotencyKey.isSome = true))
      (fun _ => I) := by
  unfold existingJob
  split
  · exact ensures_pure fun c hc => ⟨hc, fun h => (by cases h)⟩
  · rename_i key hkey
    apply Ensures.bind (select_ensures hI _)
    intro _
    exact ensures_pure fun c hc => ⟨hc, fun _ => by rw [hkey]; rfl⟩

omit [PyText] in
theorem recoverJob_keyed (req : CreateRequest) :
    Ensures (Unwritten s) (recoverJob out req)
      (fun found c => Unwritten s c ∧ found.isSome = true ∧ req.idempotencyKey.isSome = true)
      (fun _ => Unwritten s) := by
  apply Ensures.bind rollback_ensures
  intro _
  apply Ensures.bind (existingJob_keyed Unwritten.stable req)
  intro found
  cases found with
  | none => exact ensures_raise fun c hc => hc.1
  | some job => exact ensures_pure fun c hc => ⟨hc.1, rfl, hc.2 rfl⟩

omit [PyText] in
theorem onIntegrity_ensures {A : Type} {handler : Call A} {returns : A → Connection → Prop}
    (h : Ensures (Unwritten s) handler returns (fun _ => Unwritten s)) (e : CallError) :
    Ensures (Unwritten s) (onIntegrity handler e) returns (fun _ => Unwritten s) := by
  unfold onIntegrity
  split
  · exact h
  · exact ensures_raise fun c hc => hc

/-- How a call of `create_job` that returns has ended. -/
inductive Returned (out : Surroundings) (s : Store) (req : CreateRequest) (id : Uuid)
    (c : Connection) : Prop
  /-- with the job that has the key -/
  | existing (key : req.idempotencyKey.isSome = true) (unwritten : Unwritten s c)
  | created (id : id = out.job) (rows : Inserted out s req c.committed)
      (published : c.published = enqueued out req)

/-- The broker refuses the task, or a statement of the database fails. -/
def OutsideError (out : Surroundings) (e : CallError) : Prop :=
  (out.enqueue = some false ∧ e = .service .enqueueFailed) ∨
    ∃ n d, out.fault n = some d ∧ e = .database d

omit [PyText] in
theorem execute_outside {I : Connection → Prop} (hI : Stable I) :
    Ensures I (execute out) (fun _ => I) (fun e c => OutsideError out e ∧ I c) := by
  intro c hc
  show Outcome _ _ (execute out c)
  unfold execute
  cases hfault : out.fault c.statements with
  | none => exact hI c _ hc
  | some d => exact ⟨Or.inr ⟨c.statements, d, hfault, rfl⟩, hI c _ hc⟩

/-- How a call of `create_job` that raises has ended. -/
inductive Raised (out : Surroundings) (s : Store) (req : CreateRequest) (e : CallError)
    (c : Connection) : Prop
  | unwritten (h : Unwritten s c)
  /-- in the refresh or the enqueueing of the committed job -/
  | afterCommit (error : OutsideError out e) (rows : Inserted out s req c.committed)
      (published : c.published = [])

omit [PyText] in
theorem enqueueJob_published {J : Connection → Prop} (req : CreateRequest)
    (hJ : ∀ c p, J c → J { c with published := p }) :
    Ensures (fun c => J c ∧ c.published = []) (enqueueJob out req)
      (fun _ c => J c ∧ c.published = enqueued out req)
      (fun e c => OutsideError out e ∧ J c ∧ c.published = []) := by
  unfold enqueueJob
  split
  · rename_i hnone
    exact ensures_pure fun c hc => ⟨hc.1, by rw [hc.2, enqueued, hnone]; rfl⟩
  · rename_i hrefused
    exact ensures_raise fun c hc => ⟨Or.inl ⟨hrefused, rfl⟩, hc⟩
  · rename_i hsome
    refine ensures_update fun c hc => ⟨hJ c _ hc.1, ?_⟩
    rw [hc.2, enqueued, if_pos hsome]
    rfl

/-- The rows are inserted and committed, or the job of the key is found instead. -/
theorem attempt_inserts (req : CreateRequest) (orderId : Uuid) (types : List DocType) :
    Ensures (Writing s s)
      (attempt (do insertAll out req orderId types; return none) (onIntegrity (recoverJob out req)))
      (fun created c => (created = none ∧ Written out s req orderId types c) ∨
        (created.isSome = true ∧ Unwritten s c ∧ req.idempotencyKey.isSome = true))
      (Raised out s req) := by
  apply Ensures.attempt (R := fun _ => Unwritten s)
  · apply Ensures.bind (insertAll_written req orderId types)
    intro _
    exact ensures_pure fun c hc => Or.inl ⟨rfl, hc⟩
  · intro e
    refine ((onIntegrity_ensures (recoverJob_keyed req) e).imp_returns ?_).imp_raises ?_
    · exact fun created _ h => Or.inr ⟨h.2.1, h.1, h.2.2⟩
    · exact fun e _ h => .unwritten h

/-- Once the rows are committed the job is enqueued and returned. -/
theorem publish_returned {req : CreateRequest} {orderId : Uuid} {types : List DocType}
    (hres : ResolvesTo out req orderId types) :
    Ensures (Written out s req orderId types) (do refresh out; enqueueJob out req; return out.job)
      (Returned out s req) (Raised out s req) := by
  have hrows (c : Connection) (h : Added out s req orderId types c.committed) :
      Inserted out s req c.committed := ⟨orderId, types, hres, h⟩
  apply Ensures.bind (Q := fun _ => Written out s req orderId types)
  · refine (execute_outside Written.stable).imp_raises ?_
    exact fun e c h => .afterCommit h.1 (hrows c h.2.1) h.2.2
  · intro _
    apply Ensures.bind (Q := fun _ c =>
      Added out s req orderId types c.committed ∧ c.published = enqueued out req)
    · refine (enqueueJob_published (J := fun c => Added out s req orderId types c.committed) req
        fun _ _ h => h).imp_raises ?_
      exact fun e c h => .afterCommit h.1 (hrows c h.2.1) h.2.2
    · intro _
      exact ensures_pure fun c hc => .created rfl (hrows c hc.1) hc.2

theorem createJob_returned (req : CreateRequest) :
    Ensures (Writing s s) (createJob out req) (Returned out s req) (Raised out s req) := by
  apply Ensures.bind (Q := fun found c => Writing s s c ∧ ResolvesTo out req found.1 found.2)
  · exact (resolveCall_resolves req).imp_raises fun e _ h => .unwritten h.1
  rintro ⟨orderId, types⟩
  refine Ensures.given fun hres => ?_
  apply Ensures.bind (Q := fun found c =>
    Writing s s c ∧ (found.isSome = true → req.idempotencyKey.isSome = true))
  · exact (existingJob_keyed Writing.stable req).imp_raises fun e _ h => .unwritten h.1
  intro found
  cases found with
  | some job => exact ensures_pure fun c hc => .existing (hc.2 rfl) hc.1.1
  | none =>
    refine Ensures.given fun _ => ?_
    apply Ensures.bind (attempt_inserts req orderId types)
    intro created
    cases created with
    | some job =>
      refine ensures_pure fun c hc => ?_
      rcases hc with ⟨hnone, -⟩ | ⟨-, hc, hkey⟩
      · cases hnone
      · exact .existing hkey hc
    | none =>
      refine (publish_returned hres).weaken (fun c hc => ?_) (fun _ _ h => h) (fun _ _ h => h)
      rcases hc with ⟨-, hc⟩ | ⟨hsome, -⟩
      · exact hc
      · cases hsome

end Transactions
end ResearchEngine
