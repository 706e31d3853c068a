import ResearchEngine.HttpApi
import ResearchEngine.StableSort

/-! What a client of the HTTP interface may rely on: a reply shows what is committed, a refusal
leaves nothing behind, and a job that has been shown stays. -/
namespace ResearchEngine
namespace Transactions

open Program

/-- Every job is still there, with what identifies it. -/
def KeepsJobs (s t : Store) : Prop :=
  ∀ id row, s.jobs.get id = some row → ∃ row', t.jobs.get id = some row' ∧ Job.SameIdentity row row'

theorem KeepsJobs.refl (s : Store) : KeepsJobs s s :=
  fun _ row hrow => ⟨row, hrow, rfl, rfl, rfl, rfl, rfl, rfl, rfl⟩

theorem KeepsJobs.trans {s t u : Store} (h : KeepsJobs s t) (h' : KeepsJobs t u) : KeepsJobs s u := by
  intro id row hrow
  obtain ⟨row', hrow', hsame⟩ := h id row hrow
  obtain ⟨row'', hrow'', hsame'⟩ := h' id row' hrow'
  exact ⟨row'', hrow'', hsame.trans hsame'⟩

/-- A job that the tenant can read stays readable. -/
theorem KeepsJobs.getJob {s t : Store} (h : KeepsJobs s t) {id tenant : Uuid} {row : Job}
    (hrow : s.getJob id tenant = some row) :
    ∃ row', t.getJob id tenant = some row' ∧ Job.SameIdentity row row' := by
  obtain ⟨hget, howner, hlive⟩ := (Store.getJob_eq_some_iff _ _ _ _).mp hrow
  obtain ⟨row', hget', hsame⟩ := h id row hget
  refine ⟨row', (Store.getJob_eq_some_iff _ _ _ _).mpr ⟨hget', ?_, ?_⟩, hsame⟩
  · rw [hsame.tenantId, howner]
  · rw [hsame.deletedAt, hlive]

theorem keepsJobs_modifyJob (s : Store) (job : Uuid) {f : Job → Job}
    (hf : ∀ j, Job.SameIdentity j (f j)) : KeepsJobs s (s.modifyJob job f) := by
  intro id row hrow
  refine ⟨if id = job then f row else row, ?_, ?_⟩
  · simp [Table.get_modify, hrow]
  · split
    · exact hf row
    · exact ⟨rfl, rfl, rfl, rfl, rfl, rfl, rfl⟩

theorem Added.keepsJobs {out : Surroundings} {s t : Store} {req : CreateRequest} {orderId : Uuid}
    {types : List DocType} (h : Added out s req orderId types t) : KeepsJobs s t := by
  intro id row hrow
  refine ⟨row, ?_, rfl, rfl, rfl, rfl, rfl, rfl, rfl⟩
  rw [← Table.mem_rows_iff, h.jobs]
  exact List.mem_append_left _ ((Table.mem_rows_iff _ _ _).mpr hrow)

/-- Nothing is open in the transaction, and the tenant has the job. -/
structure Holds (tenant id : Uuid) (c : Connection) : Prop where
  settled : c.working = c.committed
  row : ∃ row, c.committed.getJob id tenant = some row

theorem Holds.stable {tenant id : Uuid} : Stable (Holds tenant id) := fun _ _ h => ⟨h.settled, h.row⟩

/-- The tenant of a writing call. -/
def WritingCall.tenantId : WritingCall → Uuid
  | .createJob req => req.tenantId
  | .retryJob tenantId _ _ _ | .cancelJob tenantId _ _ | .markReviewed tenantId _
  | .archiveJob tenantId _ => tenantId

/-- The job that a writing call changes. -/
def WritingCall.jobId : WritingCall → Option Uuid
  | .createJob _ | .retryJob _ _ _ _ => none
  | .cancelJob _ job _ | .markReviewed _ job | .archiveJob _ job => some job

section Calls

variable {out : Surroundings} {s : Store}

theorem rollback_writing :
    Ensures (Unwritten s) (rollback out) (fun _ => Writing s s) (fun _ => Unwritten s) := by
  apply Ensures.bind (execute_within Unwritten.stable)
  intro _
  exact ensures_update fun c hc => ⟨hc, hc.1⟩

theorem getJob_of_idempotency {key tenant : Uuid} {p : Uuid × Job}
    (h : s.getByIdempotency key tenant = some p) : s.getJob p.1 tenant = some p.2 := by
  obtain ⟨hrow, hp⟩ := (Table.mem_select_iff _ _ _ _).mp (List.mem_of_head? h)
  obtain ⟨-, howner, hlive⟩ := of_decide_eq_true hp
  exact (Store.getJob_eq_some_iff _ _ _ _).mpr ⟨hrow, howner, hlive⟩

theorem existingJob_holds (req : CreateRequest) :
    Ensures (Writing s s) (existingJob out req)
      (fun found c => Writing s s c ∧ ∀ id, found = some id → Holds req.tenantId id c)
      (fun _ => Unwritten s) := by
  unfold existingJob
  split
  · exact ensures_pure fun c hc => ⟨hc, fun id hid => (by cases hid)⟩
  · apply Ensures.bind (select_working _)
    intro found
    refine ensures_pure fun c hc => ⟨hc.1, fun id hid => ?_⟩
    obtain ⟨p, hp, rfl⟩ := Option.map_eq_some_iff.mp hid
    obtain ⟨⟨hcommitted, -⟩, hworking⟩ := hc.1
    refine ⟨hworking.trans hcommitted.symm, p.2, ?_⟩
    rw [hcommitted]
    exact getJob_of_idempotency (hc.2.symm.trans hp)

theorem recoverJob_holds (req : CreateRequest) :
    Ensures (Unwritten s) (recoverJob out req)
      (fun found c => ∃ id, found = some id ∧ Holds req.tenantId id c) (fun _ => Unwritten s) := by
  apply Ensures.bind rollback_writing
  intro _
  apply Ensures.bind (existingJob_holds req)
  intro found
  cases found with
  | none => exact ensures_raise fun c hc => hc.1.1
  | some id => exact ensures_pure fun c hc => ⟨id, rfl, hc.2 id rfl⟩

theorem insertAll_settled (req : CreateRequest) (orderId : Uuid) (types : List DocType) :
    Ensures (fun _ => True) (insertAll out req orderId types) (fun _ c => c.working = c.committed)
      (fun _ _ => True) := by
  have hdocs (ds : List (Uuid × DocType)) : Ensures (fun _ => True) (createDocs out orderId ds)
      (fun _ _ => True) (fun _ _ => True) := by
    intro c _
    unfold Outcome
    split <;> trivial
  apply Ensures.bind (flush_ensures (J := fun _ => True) (fun _ _ _ => trivial) fun _ _ _ _ => trivial)
  intro _
  apply Ensures.bind (hdocs _)
  intro _
  exact commit_ensures (fun _ _ _ => trivial) fun _ _ => rfl

theorem insertAll_holds (req : CreateRequest) (orderId : Uuid) (types : List DocType) :
    Ensures (Writing s s) (insertAll out req orderId types) (fun _ => Holds req.tenantId out.job)
      (fun _ => Unwritten s) := by
  refine ((insertAll_written req orderId types).and (insertAll_settled req orderId types)).weaken
    (fun c hc => ⟨hc, trivial⟩) (fun _ c hc => ?_) fun _ c hc => hc.1
  obtain ⟨⟨hadded, -⟩, hsettled⟩ := hc
  exact ⟨hsettled, _, (Store.getJob_eq_some_iff _ _ _ _).mpr ⟨hadded.getNew, rfl, rfl⟩⟩

theorem saveJob_holds {tenantId job : Uuid} {j : Job} {f : Job → Job}
    (hj : s.getJob job tenantId = some j) (hf : ∀ j, Job.SameIdentity j (f j)) :
    Ensures (Writing s s) (saveJob out job f)
      (fun id c => id = job ∧ Holds tenantId job c ∧ KeepsJobs s c.committed ∧ c.published = [])
      (fun _ c => KeepsJobs s c.committed ∧ c.published = []) := by
  have hkeeps := keepsJobs_modifyJob s job hf
  have hunwritten (c : Connection) (hc : Unwritten s c) :
      KeepsJobs s c.committed ∧ c.published = [] := by
    rw [hc.1]
    exact ⟨.refl s, hc.2⟩
  let saved (c : Connection) : Prop := c.working = c.committed ∧ c.committed = s.modifyJob job f ∧ c.published = []
  apply Ensures.bind (Q := fun _ => Writing s (s.modifyJob job f))
  · refine (flush_ensures Writing.stable fun c w hc hw => ?_).imp_raises fun _ c h => hunwritten c h.1
    rw [hc.2] at hw
    exact ⟨hc.1, (Option.some.inj hw).symm⟩
  intro _
  apply Ensures.bind (Q := fun _ => saved)
  · refine (commit_ensures Writing.stable fun c hc => ?_).imp_raises fun _ c h => hunwritten c h.1
    exact ⟨rfl, hc.2, hc.1.2⟩
  intro _
  apply Ensures.bind (Q := fun _ => saved)
  · refine (execute_within fun c n h => h).imp_raises fun _ c h => ?_
    obtain ⟨-, hc, hquiet⟩ := h
    rw [hc]
    exact ⟨hkeeps, hquiet⟩
  intro _
  refine ensures_pure fun c ⟨hsettled, hc, hquiet⟩ => ?_
  obtain ⟨row', hrow', -⟩ := hkeeps.getJob hj
  exact ⟨rfl, ⟨hsettled, row', hc ▸ hrow'⟩, hc ▸ hkeeps, hquiet⟩

variable [PyText]

theorem createJob_holds (req : CreateRequest) :
    Ensures (Writing s s) (createJob out req) (Holds req.tenantId) (fun _ _ => True) := by
  apply Ensures.bind ((resolveCall_reads req).imp_raises fun _ _ _ => trivial)
  rintro ⟨orderId, types⟩
  apply Ensures.bind ((existingJob_holds req).imp_raises fun _ _ _ => trivial)
  intro found
  cases found with
  | some id => exact ensures_pure fun c hc => hc.2 id rfl
  | none =>
    apply Ensures.bind (Q := fun created c => (created = none ∧ Holds req.tenantId out.job c) ∨
      ∃ id, created = some id ∧ Holds req.tenantId id c)
    · apply Ensures.attempt (R := fun _ => Unwritten s)
      · apply Ensures.bind
        · exact (insertAll_holds req orderId types).weaken (fun c hc => hc.1) (fun _ _ h => h) fun _ _ h => h
        intro _
        exact ensures_pure fun c hc => .inl ⟨rfl, hc⟩
      · intro e
        exact ((onIntegrity_ensures (recoverJob_holds req) e).imp_returns fun _ _ h => .inr h).imp_raises
          fun _ _ _ => trivial
    intro created
    cases created with
    | some job =>
      refine ensures_pure fun c hc => ?_
      rcases hc with ⟨hnone, -⟩ | ⟨id, hid, hc⟩
      · cases hnone
      · exact Option.some.inj hid ▸ hc
    | none =>
      apply Ensures.bind (Q := fun _ => Holds req.tenantId out.job)
      · refine (execute_within Holds.stable).weaken (fun c hc => ?_) (fun _ _ h => h) fun _ _ _ => trivial
        rcases hc with ⟨-, hc⟩ | ⟨id, hid, -⟩
        · exact hc
        · cases hid
      intro _
      apply Ensures.bind (Q := fun _ => Holds req.tenantId out.job)
      · unfold enqueueJob
        split
        · exact ensures_pure fun c hc => hc
        · exact ensures_raise fun c hc => trivial
        · exact ensures_update fun c hc => ⟨hc.settled, hc.row⟩
      intro _
      exact ensures_pure fun c hc => hc

end Calls

/-- What a call leaves, however it ends: every job that was there, and a task for a new job of the
tenant at most. -/
structure Leaves (s : Store) (tenant : Uuid) (c : Connection) : Prop where
  keeps : KeepsJobs s c.committed
  tasks : c.published = [] ∨ ∃ task row, c.published = [task] ∧ task.tenantId = tenant ∧
    task.jobId ∉ s.jobs.keys ∧ c.committed.getJob task.jobId tenant = some row

theorem Leaves.stable {s : Store} {tenant : Uuid} : Stable (Leaves s tenant) :=
  fun _ _ h => ⟨h.keeps, h.tasks⟩

/-- What a call has put on the queue. -/
theorem Leaves.added {s : Store} {tenant : Uuid} {c : Connection} (h : Leaves s tenant c) :
    c.published.length ≤ 1 ∧ ∀ task ∈ c.published, task.jobId ∉ s.jobs.keys ∧
      ∃ row, c.committed.getJob task.jobId task.tenantId = some row := by
  obtain hnil | ⟨task, row, htask, rfl, hnew, hrow⟩ := h.tasks
  · simp [hnil]
  · simp only [htask, List.length_singleton, le_refl, List.mem_singleton, forall_eq, true_and]
    exact ⟨hnew, row, hrow⟩

/-- A new job goes on the queue of a broker before it is returned. -/
def Announced (out : Surroundings) (s : Store) (id : Uuid) (c : Connection) : Prop :=
  id ∉ s.jobs.keys → out.enqueue = some true → ∃ task, c.published = [task] ∧ task.jobId = id

theorem Announced.stable {out : Surroundings} {s : Store} {id : Uuid} : Stable (Announced out s id) :=
  fun _ _ h => h

section Leaving

variable {out : Surroundings} {s : Store} {req : CreateRequest} {c : Connection} {id : Uuid}

theorem Unwritten.leaves (h : Unwritten s c) (tenant : Uuid) : Leaves s tenant c :=
  ⟨h.1 ▸ .refl s, .inl h.2⟩

theorem Holds.known {tenant : Uuid} (h : Holds tenant id c) (hc : c.committed = s) : id ∈ s.jobs.keys := by
  obtain ⟨row, hrow⟩ := h.row
  rw [hc] at hrow
  exact (Table.mem_keys_iff _ _).mpr ⟨row, ((Store.getJob_eq_some_iff _ _ _ _).mp hrow).1⟩

variable [PyText]

theorem Returned.leaves (h : Returned out s req id c) (hholds : Holds req.tenantId id c) :
    Leaves s req.tenantId c ∧ Announced out s id c := by
  cases h with
  | existing _ hc => exact ⟨hc.leaves _, fun hnew => absurd (hholds.known hc.1) hnew⟩
  | created hid hrows hpublished =>
    obtain ⟨orderId, types, -, hadded⟩ := hrows
    subst hid
    unfold enqueued at hpublished
    split at hpublished
    · obtain ⟨row, hrow⟩ := hholds.row
      refine ⟨⟨hadded.keepsJobs, .inr ⟨_, row, hpublished, rfl, hadded.freshJob, hrow⟩⟩, fun _ _ => ?_⟩
      exact ⟨_, hpublished, rfl⟩
    · exact ⟨⟨hadded.keepsJobs, .inl hpublished⟩, fun _ hbroker => absurd hbroker ‹_›⟩

theorem Raised.leaves {e : CallError} (h : Raised out s req e c) (tenant : Uuid) : Leaves s tenant c := by
  cases h with
  | unwritten hc => exact hc.leaves _
  | afterCommit _ hrows hpublished =>
    obtain ⟨orderId, types, -, hadded⟩ := hrows
    exact ⟨hadded.keepsJobs, .inl hpublished⟩

theorem createJob_leaves (req : CreateRequest) :
    Ensures (Writing s s) (createJob out req)
      (fun id c => Holds req.tenantId id c ∧ Leaves s req.tenantId c ∧ Announced out s id c)
      (fun _ => Leaves s req.tenantId) :=
  ((createJob_returned req).and (createJob_holds req)).weaken (fun _ hc => ⟨hc, hc⟩)
    (fun _ _ h => ⟨h.2, h.1.leaves h.2⟩) fun _ _ h => h.1.leaves _

theorem retryJob_leaves (tenantId actorId job : Uuid) (docTypes : Option (List String)) :
    Ensures (Writing s s) (retryJob out tenantId actorId job docTypes)
      (fun id c => Holds tenantId id c ∧ Leaves s tenantId c ∧ Announced out s id c)
      (fun _ => Leaves s tenantId) := by
  have hunwritten (c : Connection) (hc : Unwritten s c) : Leaves s tenantId c := hc.leaves _
  apply Ensures.bind (getJob_found.imp_raises fun _ => hunwritten)
  intro original
  apply ensures_ite
  · intro _
    apply Ensures.bind
    · exact (select_working _).weaken (fun c hc => hc.1) (fun _ _ h => h) fun _ => hunwritten
    intro failed
    apply ensures_ite
    · intro _
      exact ensures_raise fun c hc => hunwritten c hc.1.1
    · intro _
      exact (createJob_leaves _).weaken (fun c hc => hc.1) (fun _ _ h => h) fun _ _ h => h
  · intro _
    exact ensures_raise fun c hc => hunwritten c hc.1.1

omit [PyText] in
/-- A call that reads the job, checks its status and saves it. -/
theorem guarded_leaves {tenantId job : Uuid} {allowed : Job → Prop} [DecidablePred allowed]
    {f : Job → Job → Job} {e : ApiError} (hf : ∀ j row, Job.SameIdentity row (f j row)) :
    Ensures (Writing s s)
      (getJob out tenantId job >>= fun j =>
        if allowed j then saveJob out job (f j) else raise (.service e))
      (fun id c => id = job ∧ Holds tenantId id c ∧ Leaves s tenantId c ∧ Announced out s id c)
      (fun _ => Leaves s tenantId) := by
  apply Ensures.bind (getJob_found.imp_raises fun _ _ h => h.leaves _)
  intro j
  refine Ensures.given fun hj => ?_
  have hknown : job ∈ s.jobs.keys :=
    (Table.mem_keys_iff _ _).mpr ⟨j, ((Store.getJob_eq_some_iff _ _ _ _).mp hj).1⟩
  apply ensures_ite
  · intro _
    refine (saveJob_holds hj (hf j)).weaken (fun _ h => h) (fun id c h => ?_) fun _ c h => ⟨h.1, .inl h.2⟩
    obtain ⟨rfl, hholds, hkeeps, hquiet⟩ := h
    exact ⟨rfl, hholds, ⟨hkeeps, .inl hquiet⟩, fun hnew => absurd hknown hnew⟩
  · intro _
    exact ensures_raise fun c hc => hc.1.leaves _

/-- What a writing call that returns leaves. -/
structure Answers (out : Surroundings) (s : Store) (call : WritingCall) (id : Uuid)
    (c : Connection) : Prop where
  named : ∀ job, call.jobId = some job → id = job
  holds : Holds call.tenantId id c
  leaves : Leaves s call.tenantId c
  announced : Announced out s id c

omit [PyText] in
theorem Answers.stable {call : WritingCall} : Stable (Answers out s call id) :=
  fun _ _ h => ⟨h.named, ⟨h.holds.settled, h.holds.row⟩, ⟨h.leaves.keeps, h.leaves.tasks⟩, h.announced⟩

/-- The spec of the writing calls. -/
theorem perform_answers (call : WritingCall) :
    Ensures (Writing s s) (perform out call) (Answers out s call) (fun _ => Leaves s call.tenantId) := by
  have hnamed (id job : Uuid) (h : id = job) (k : Uuid) (hk : some job = some k) : id = k :=
    h.trans (Option.some.inj hk)
  cases call with
  | createJob req =>
    exact (createJob_leaves req).imp_returns fun _ _ h => ⟨fun _ hk => (by cases hk), h.1, h.2.1, h.2.2⟩
  | retryJob tenantId actorId job docTypes =>
    exact (retryJob_leaves tenantId actorId job docTypes).imp_returns fun _ _ h =>
      ⟨fun _ hk => (by cases hk), h.1, h.2.1, h.2.2⟩
  | cancelJob tenantId job reason =>
    exact (guarded_leaves fun j row => applyCancel_sameIdentity j.status reason row).imp_returns
      fun _ _ h => ⟨hnamed _ _ h.1, h.2.1, h.2.2.1, h.2.2.2⟩
  | markReviewed tenantId job =>
    exact (guarded_leaves (f := fun _ => Job.setStatus .reviewed)
      fun j row => ⟨rfl, rfl, rfl, rfl, rfl, rfl, rfl⟩).imp_returns
      fun _ _ h => ⟨hnamed _ _ h.1, h.2.1, h.2.2.1, h.2.2.2⟩
  | archiveJob tenantId job =>
    exact (guarded_leaves (f := fun _ => Job.setStatus .archived)
      fun j row => ⟨rfl, rfl, rfl, rfl, rfl, rfl, rfl⟩).imp_returns
      fun _ _ h => ⟨hnamed _ _ h.1, h.2.1, h.2.2.1, h.2.2.2⟩

end Leaving

end Transactions

namespace HttpApi

open Transactions Program RateLimit MovingWindow

/-- The job that a request is about. -/
def Route.jobId : Route → Option Uuid
  | .getResearchJob jobId | .cancelResearchJob jobId _ => some jobId
  | .createResearchJob _ _ | .retryResearchJob _ _ | .listOrderJobs _ => none

def Route.reads : Route → Bool
  | .getResearchJob _ | .listOrderJobs _ => true
  | .createResearchJob _ _ | .retryResearchJob _ _ | .cancelResearchJob _ _ => false

/-- The body is a job of the tenant, or the tenant's list, as the store has it. -/
def Shows (out : Outside) (tenant : Uuid) (route : Route) (t : Store) : Body → Prop
  | .job data => (∀ id, route.jobId = some id → data.id = id) ∧
      ∃ row, t.getJob data.id tenant = some row ∧
        data = out.listing.jobSchema t out.files out.updatedAt data.id row
  | .jobs data => ∃ orderId, route = .listOrderJobs orderId ∧
      data = out.listing.summaries t orderId tenant
  | .error _ => False

/-- A new job that the body shows is on the queue of the broker. -/
def Queued (out : Outside) (s : Store) (c : Connection) : Body → Prop
  | .job data => Announced out.toSurroundings s data.id c
  | .jobs _ | .error _ => True

/-- A statement of the database has failed. -/
def Faulted (out : Surroundings) (e : CallError) : Prop :=
  e.isResearchEngineError = false ∧ ∃ n d, out.fault n = some d

section Endpoints

variable {out : Outside} {s : Store} {I : Connection → Prop} {tenant id : Uuid}

theorem execute_faulted (hI : Stable I) :
    Ensures I (execute out.toSurroundings) (fun _ => I)
      (fun e c => Faulted out.toSurroundings e ∧ I c) := by
  intro c hc
  show Outcome _ _ (execute out.toSurroundings c)
  unfold execute
  cases hfault : out.fault c.statements with
  | none => exact hI c _ hc
  | some d => exact ⟨⟨rfl, _, d, hfault⟩, hI c _ hc⟩

theorem readFiles_within (hI : Stable I) (docs : List (Uuid × Doc)) :
    Ensures I (readFiles out docs) (fun _ => I)
      (fun e c => Faulted out.toSurroundings e ∧ I c) := by
  induction docs with
  | nil => exact ensures_pure fun c hc => hc
  | cons d docs ih =>
    obtain ⟨id, doc⟩ := d
    unfold readFiles
    apply ensures_ite
    · intro _
      apply Ensures.bind (execute_faulted hI)
      intro _
      exact ih
    · intro _
      exact ih

/-- `to_job_schema` writes nothing and shows the rows of the transaction. -/
theorem showJob_shows (hI : Stable I) (id : Uuid) (job : Job) :
    Ensures I (showJob out id job)
      (fun data c => I c ∧ data = out.listing.jobSchema c.working out.files out.updatedAt id job)
      (fun e c => Faulted out.toSurroundings e ∧ I c) := by
  apply Ensures.bind (Q := fun _ => I)
  · apply Ensures.bind (execute_faulted hI)
    intro _
    exact ensures_inspect fun c hc => hc
  intro docs
  apply Ensures.bind (readFiles_within hI _)
  intro _
  exact ensures_inspect fun c hc => ⟨hc, rfl⟩

theorem jobObject_finds :
    Ensures (fun c => Holds tenant id c ∧ I c) (jobObject id)
      (fun row c => (Holds tenant id c ∧ c.committed.getJob id tenant = some row) ∧ I c)
      (fun _ _ => False) := by
  apply Ensures.bind (Q := fun found c => (Holds tenant id c ∧ I c) ∧ found = c.working.jobs.get id)
  · exact ensures_inspect fun c hc => ⟨hc, rfl⟩
  intro found c ⟨⟨hholds, hc⟩, hfound⟩
  obtain ⟨row, hrow⟩ := hholds.row
  obtain ⟨hget, -⟩ := (Store.getJob_eq_some_iff _ _ _ _).mp hrow
  rw [hholds.settled, hget] at hfound
  subst hfound
  exact ⟨⟨hholds, hrow⟩, hc⟩

/-- What an endpoint that returns leaves. -/
structure Delivers (out : Outside) (s : Store) (tenant : Uuid) (route : Route) (body : Body)
    (c : Connection) : Prop where
  shows : Shows out tenant route c.committed body
  queued : Queued out s c body
  leaves : Leaves s tenant c
  sets : KeepsSets s c

/-- What an endpoint that raises leaves. -/
structure Refuses (s : Store) (tenant : Uuid) (e : CallError) (c : Connection) : Prop where
  leaves : Leaves s tenant c
  failed : Failed s e c

theorem refuses_of_unwritten {c : Connection} (h : Unwritten s c) (e : CallError) :
    Refuses s tenant e c := ⟨h.leaves _, h.failed e⟩

variable [PyText]

theorem callAndShow_delivers {call : WritingCall} {route : Route}
    (hroute : ∀ id, route.jobId = some id → call.jobId = some id) :
    Ensures (Writing s s) (callAndShow out call) (Delivers out s call.tenantId route)
      (Refuses s call.tenantId) := by
  let done (id : Uuid) (c : Connection) : Prop := Answers out.toSurroundings s call id c ∧ KeepsSets s c
  have hdone (id : Uuid) : Stable (done id) := fun c n h => ⟨Answers.stable c n h.1, h.2⟩
  have hraised (id : Uuid) (e : CallError) (c : Connection)
      (h : Faulted out.toSurroundings e ∧ done id c) : Refuses s call.tenantId e c :=
    ⟨h.2.1.leaves, fun he => absurd (he.symm.trans h.1.1) (by simp), h.2.2⟩
  apply Ensures.bind (Q := done)
  · exact ((perform_answers call).and (perform_ensures call)).weaken (fun _ hc => ⟨hc, hc⟩)
      (fun _ _ h => h) fun _ _ h => ⟨h.1, h.2⟩
  intro id
  apply Ensures.bind (Q := fun row c => (Holds call.tenantId id c ∧
    c.committed.getJob id call.tenantId = some row) ∧ done id c)
  · exact jobObject_finds.weaken (fun c h => ⟨h.1.holds, h⟩) (fun _ _ h => h) fun _ _ h => h.elim
  intro row
  apply Ensures.bind
  · refine (showJob_shows (fun c n h => ?_) id row).imp_raises fun e c h => hraised id e c ⟨h.1, h.2.2⟩
    exact ⟨⟨Holds.stable c n h.1.1, h.1.2⟩, hdone id c n h.2⟩
  intro data
  refine ensures_pure fun c ⟨⟨⟨hholds, hrow⟩, hanswers, hsets⟩, hdata⟩ => ?_
  have hid : data.id = id := by rw [hdata, Listing.jobSchema_id]
  rw [hholds.settled] at hdata
  refine ⟨⟨fun k hk => hid.trans (hanswers.named k (hroute k hk)), row, ?_, ?_⟩, ?_, hanswers.leaves, hsets⟩
  · rw [hid]
    exact hrow
  · rw [hid]
    exact hdata
  · show Announced _ s data.id c
    rw [hid]
    exact hanswers.announced

/-- The spec of the endpoints. -/
theorem endpoint_delivers (out : Outside) (s : Store) (actor tenant : Uuid) (route : Route) :
    Ensures (Writing s s) (endpoint out actor tenant route) (Delivers out s tenant route)
      (Refuses s tenant) := by
  cases route with
  | createResearchJob payload xKey => exact callAndShow_delivers fun id h => (by cases h)
  | retryResearchJob jobId request => exact callAndShow_delivers fun id h => (by cases h)
  | cancelResearchJob jobId request => exact callAndShow_delivers fun id h => h
  | getResearchJob jobId =>
    apply Ensures.bind (getJob_found.imp_raises fun e _ h => refuses_of_unwritten h e)
    intro job
    refine Ensures.given fun hjob => ?_
    apply Ensures.bind
    · exact (showJob_shows Writing.stable jobId job).imp_raises fun e c h => refuses_of_unwritten h.2.1 e
    intro data
    refine ensures_pure fun c ⟨⟨hc, hworking⟩, hdata⟩ => ?_
    have hid : data.id = jobId := by rw [hdata, Listing.jobSchema_id]
    refine ⟨⟨fun k hk => hid.trans (Option.some.inj hk), job, ?_, ?_⟩, ?_, hc.leaves _, hc.keepsSets⟩
    · rw [hc.1, hid]
      exact hjob
    · rw [hc.1, hid, ← hworking]
      exact hdata
    · intro hnew
      refine absurd ((Table.mem_keys_iff _ _).mpr ⟨job, ?_⟩) hnew
      rw [hid]
      exact ((Store.getJob_eq_some_iff _ _ _ _).mp hjob).1
  | listOrderJobs orderId =>
    apply Ensures.bind ((select_working _).imp_raises fun e _ h => refuses_of_unwritten h e)
    intro data
    refine ensures_pure fun c ⟨⟨hc, _⟩, hdata⟩ => ?_
    exact ⟨⟨orderId, rfl, hc.1.symm ▸ hdata⟩, trivial, hc.leaves _, hc.keepsSets⟩

/-- Reading leaves everything as it is. -/
theorem endpoint_reads (out : Outside) (s : Store) (actor tenant : Uuid) {route : Route}
    (hroute : route.reads = true) :
    Ensures (Writing s s) (endpoint out actor tenant route) (fun _ => Unwritten s)
      (fun _ => Unwritten s) := by
  cases route with
  | createResearchJob | retryResearchJob | cancelResearchJob => cases hroute
  | getResearchJob jobId =>
    apply Ensures.bind (getJob_reads Writing.stable tenant jobId |>.imp_raises fun _ _ h => h.1)
    intro job
    apply Ensures.bind ((showJob_shows Writing.stable jobId job).imp_raises fun _ _ h => h.2.1)
    intro data
    exact ensures_pure fun c hc => hc.1.1
  | listOrderJobs orderId =>
    apply Ensures.bind ((select_working _).imp_raises fun _ _ h => h)
    intro data
    exact ensures_pure fun c hc => hc.1.1

/-- Without a failing statement a job of the tenant is shown. -/
theorem endpoint_gets (actor : Uuid) {jobId : Uuid} {row : Job} (hout : ∀ n, out.fault n = none)
    (hrow : s.getJob jobId tenant = some row) :
    Ensures (Writing s s) (endpoint out actor tenant (.getResearchJob jobId))
      (fun body c => body = .job (out.listing.jobSchema s out.files out.updatedAt jobId row) ∧ Unwritten s c)
      (fun _ _ => False) := by
  have hnone (e : CallError) : ¬ Faulted out.toSurroundings e := fun ⟨_, n, d, hd⟩ => by
    rw [hout n] at hd
    cases hd
  apply Ensures.bind (Q := fun job c => Writing s s c ∧ job = row)
  · apply Ensures.bind (Q := fun found c => Writing s s c ∧ found = some row)
    · apply Ensures.bind ((execute_faulted Writing.stable).imp_raises fun e _ h => hnone e h.1)
      intro _
      refine ensures_inspect fun c hc => ⟨hc, ?_⟩
      rw [hc.2]
      exact hrow
    intro found
    refine Ensures.given fun hfound => ?_
    subst hfound
    exact ensures_pure fun c hc => ⟨hc, rfl⟩
  intro job
  refine Ensures.given fun hjob => ?_
  subst hjob
  apply Ensures.bind ((showJob_shows Writing.stable jobId job).imp_raises fun e _ h => hnone e h.1)
  intro data
  refine ensures_pure fun c ⟨hc, hdata⟩ => ⟨?_, hc.1⟩
  rw [hdata, hc.2]

end Endpoints

/-! The replies. -/

/-- The codes of the error replies, with their statuses. -/
def errorTable : List (String × ℕ) :=
  [("ORDER_NOT_FOUND", 404), ("ORDER_NOT_RESEARCHABLE", 422), ("INVALID_DOC_TYPES", 422),
    ("JOB_NOT_FOUND", 404), ("JOB_NOT_RETRYABLE", 409), ("JOB_NOT_CANCELLABLE", 409),
    ("IDEMPOTENCY_CONFLICT", 409), ("HTTP_401", 401), ("RATE_LIMIT_EXCEEDED", 429),
    ("INTERNAL_ERROR", 500)]

/-- The reply is an error of the table. -/
def Reply.Tabled (r : Reply) : Prop :=
  ∃ e, r.body = .error e ∧ (e.code, r.status) ∈ errorTable

theorem Reply.Tabled.ne_ok {r : Reply} (h : r.Tabled) : r.status ≠ 200 := by
  obtain ⟨e, -, he⟩ := h
  intro hstatus
  rw [hstatus] at he
  simp [errorTable] at he

theorem unhandled_tabled : unhandledExceptionHandler.Tabled := ⟨_, rfl, by decide +kernel⟩

theorem httpException_tabled {status : ℕ} (h : status = 401 ∨ status = 429) (detail : String) :
    (httpExceptionHandler status detail).Tabled := by
  refine ⟨_, rfl, ?_⟩
  show ((if status = 429 then "RATE_LIMIT_EXCEEDED" else "HTTP_" ++ toString status), status) ∈ errorTable
  obtain rfl | rfl := h <;> decide +kernel

theorem errorClass_tabled {e : ApiError} {cls : ErrorCode × ℕ} (h : errorClass e = some cls) :
    (researchErrorHandler cls).Tabled := by
  refine ⟨_, rfl, ?_⟩
  show (cls.1.value, cls.2) ∈ errorTable
  cases e <;> cases h <;> decide +kernel

theorem handleCall_tabled (e : CallError) : (handleCall e).Tabled := by
  cases e with
  | service e =>
    cases h : errorClass e with
    | none => simpa [handleCall, h] using unhandled_tabled
    | some cls => simpa [handleCall, h] using errorClass_tabled h
  | database e => exact unhandled_tabled

/-- Only the errors of the service have a reply of their own. -/
theorem handleCall_status {e : CallError} (h : (handleCall e).status ≠ 500) :
    e.isResearchEngineError = true := by
  cases e with
  | service e => cases e <;> first | rfl | exact absurd rfl h
  | database e => exact absurd rfl h

/-- The errors of the dependencies. -/
def GateError.Expected (e : GateError) : Prop :=
  e = .raised ∨ ∃ detail, e = .http 401 detail ∨ e = .http 429 detail

theorem handleGate_tabled {e : GateError} (h : GateError.Expected e) : (handleGate e).Tabled := by
  obtain rfl | ⟨detail, rfl | rfl⟩ := h
  · exact unhandled_tabled
  · exact httpException_tabled (.inl rfl) detail
  · exact httpException_tabled (.inr rfl) detail

section Server

variable [PyText] {cfg : GateSettings} {svc : GateServices}

theorem headerUuid_error {name : String} {header : Option String} {e : GateError}
    (h : headerUuid name header = .error e) : GateError.Expected e := by
  unfold headerUuid at h
  split at h
  · exact .inr ⟨_, .inl (Except.error.inj h).symm⟩
  · split at h
    · cases h
    · exact .inr ⟨_, .inl (Except.error.inj h).symm⟩

theorem getActorId_error {r : HttpRequest} {e : GateError} (h : getActorId cfg svc r = .error e) :
    GateError.Expected e := by
  unfold getActorId at h
  split at h
  · split at h
    · exact .inr ⟨_, .inl (Except.error.inj h).symm⟩
    · split at h
      · exact .inr ⟨_, .inl (Except.error.inj h).symm⟩
      · exact .inl (Except.error.inj h).symm
      · split at h
        · exact .inr ⟨_, .inl (Except.error.inj h).symm⟩
        · split at h
          · cases h
          · exact .inr ⟨_, .inl (Except.error.inj h).symm⟩
  · cases hheader : headerUuid "X-Actor-Id" r.actorHeader with
    | ok actor => simp [hheader, Except.map] at h
    | error e' =>
      rw [hheader] at h
      exact Except.error.inj h ▸ headerUuid_error hheader

theorem getTenantId_error {payload : Option TokenClaims} {r : HttpRequest} {e : GateError}
    (h : getTenantId cfg payload r = .error e) : GateError.Expected e := by
  unfold getTenantId at h
  split at h
  · split at h
    · exact .inr ⟨_, .inl (Except.error.inj h).symm⟩
    · split at h
      · exact .inr ⟨_, .inl (Except.error.inj h).symm⟩
      · split at h
        · cases h
        · exact .inr ⟨_, .inl (Except.error.inj h).symm⟩
  · exact headerUuid_error h

theorem authenticate_error {r : HttpRequest} {e : GateError}
    (h : authenticate cfg svc r = .error e) : GateError.Expected e := by
  unfold authenticate at h
  cases hactor : getActorId cfg svc r with
  | error e' =>
    rw [hactor] at h
    exact Except.error.inj h ▸ getActorId_error hactor
  | ok found =>
    obtain ⟨actor, payload⟩ := found
    rw [hactor] at h
    cases htenant : getTenantId cfg payload r with
    | error e' =>
      simp only [bind, Except.bind, htenant] at h
      exact Except.error.inj h ▸ getTenantId_error htenant
    | ok tenant =>
      simp only [bind, Except.bind, htenant] at h
      cases h

omit [PyText] in
theorem rateLimit_error {past : List (MovingWindow.Hit String)} {now : ℕ} {r : HttpRequest} {e : GateError}
    (h : (rateLimit cfg svc past now r).1 = .error e) : GateError.Expected e := by
  unfold rateLimit at h
  split at h
  · split at h
    · exact .inl (Except.error.inj h).symm
    · simp only at h
      split at h
      · cases h
      · exact .inr ⟨_, .inr (Except.error.inj h).symm⟩
  · cases h

variable (cfg svc) in
/-- The dependencies give the caller of the request, or refuse it. -/
theorem dependencies_cases (past : List (MovingWindow.Hit String)) (now : ℕ) (r : HttpRequest) (route : Route) :
    (∃ e, (dependencies cfg svc past now r route).1 = .error e ∧ GateError.Expected e) ∨
      ∃ ids, (dependencies cfg svc past now r route).1 = .ok ids ∧ authenticate cfg svc r = .ok ids := by
  have hauth : (∃ e, authenticate cfg svc r = .error e ∧ GateError.Expected e) ∨
      ∃ ids, authenticate cfg svc r = .ok ids ∧ authenticate cfg svc r = .ok ids := by
    cases h : authenticate cfg svc r with
    | error e => exact .inl ⟨e, rfl, authenticate_error h⟩
    | ok ids => exact .inr ⟨ids, rfl, rfl⟩
  cases route with
  | createResearchJob =>
    show (∃ e, (rateLimit cfg svc past now r).1.bind (fun _ => authenticate cfg svc r) = _ ∧ _) ∨
      ∃ ids, (rateLimit cfg svc past now r).1.bind (fun _ => authenticate cfg svc r) = _ ∧ _
    cases h : (rateLimit cfg svc past now r).1 with
    | error e => exact .inl ⟨e, rfl, rateLimit_error h⟩
    | ok _ => exact hauth
  | getResearchJob | retryResearchJob | cancelResearchJob | listOrderJobs => exact hauth

/-- What a reply says is so, and a refusal has left nothing behind. -/
structure Exchange.Truthful (cfg : GateSettings) (svc : GateServices) (x : Exchange) : Prop where
  error : x.reply.status ≠ 200 → x.reply.Tabled
  refused : x.reply.status ≠ 200 → x.reply.status ≠ 500 →
    x.after.store = x.before.store ∧ x.after.queue = x.before.queue
  read : x.request.route.reads = true →
    x.after.store = x.before.store ∧ x.after.queue = x.before.queue
  shown : x.reply.status = 200 → ∃ ids, authenticate cfg svc x.request.http = .ok ids ∧
    Shows x.request.out ids.2 x.request.route x.after.store x.reply.body
  queued : ∀ data, x.reply.body = .job data → data.id ∉ x.before.store.jobs.keys →
    x.request.out.enqueue = some true →
      ∃ task, x.after.queue = x.before.queue ++ [task] ∧ task.jobId = data.id
  kept : KeepsJobs x.before.store x.after.store
  tasks : ∃ added, x.after.queue = x.before.queue ++ added ∧ added.length ≤ 1 ∧
    ∀ task ∈ added, task.jobId ∉ x.before.store.jobs.keys ∧
      ∃ row, x.after.store.getJob task.jobId task.tenantId = some row
  whole : x.before.store.Complete → x.after.store.Complete

/-- The spec of the server. -/
theorem serve_truthful (cfg : GateSettings) (svc : GateServices) (site : Site) (q : Incoming) :
    Exchange.Truthful cfg svc ⟨site, q, (serve cfg svc site q).1, (serve cfg svc site q).2⟩ := by
  have hdeps := dependencies_cases cfg svc site.past q.now q.http q.route
  unfold serve
  generalize dependencies cfg svc site.past q.now q.http q.route = deps at hdeps ⊢
  obtain ⟨found, past⟩ := deps
  obtain ⟨e, he, hexpected⟩ | ⟨⟨actor, tenant⟩, hids, hauth⟩ := hdeps
  · obtain rfl : found = .error e := he
    have htabled := handleGate_tabled hexpected
    refine ⟨fun _ => htabled, fun _ _ => ⟨rfl, rfl⟩, fun _ => ⟨rfl, rfl⟩, fun h => absurd h htabled.ne_ok,
      fun data hdata => ?_, .refl _, ⟨[], (List.append_nil _).symm, Nat.zero_le 1, by simp⟩, fun h => h⟩
    obtain ⟨b, hb, -⟩ := htabled
    cases hb.symm.trans hdata
  · obtain rfl : found = .ok (actor, tenant) := hids
    have hstart : Writing site.store site.store (.opened site.store) := ⟨⟨rfl, rfl⟩, rfl⟩
    have hends := endpoint_delivers q.out site.store actor tenant q.route _ hstart
    have hreads := fun (h : q.route.reads = true) => endpoint_reads q.out site.store actor tenant h _ hstart
    simp only
    generalize (endpoint q.out actor tenant q.route).run (.opened site.store) = r at hends hreads ⊢
    obtain ⟨result, c⟩ := r
    have hquiet (h : Unwritten site.store c) : c.committed = site.store ∧
        site.queue ++ c.published = site.queue := ⟨h.1, by rw [h.2, List.append_nil]⟩
    cases result with
    | ok body =>
      have hends : Delivers q.out site.store tenant q.route body c := hends
      obtain ⟨hlen, hadded⟩ := hends.leaves.added
      refine ⟨fun h => absurd rfl h, fun h => absurd rfl h, fun h => hquiet (hreads h),
        fun _ => ⟨_, hauth, hends.shows⟩, fun data hdata hnew hbroker => ?_, hends.leaves.keeps,
        ⟨_, rfl, hlen, hadded⟩, hends.sets⟩
      obtain rfl : body = .job data := hdata
      obtain ⟨task, htask, hid⟩ := hends.queued hnew hbroker
      exact ⟨task, congrArg _ htask, hid⟩
    | error e =>
      have hends : Refuses site.store tenant e c := hends
      obtain ⟨hlen, hadded⟩ := hends.leaves.added
      have htabled := handleCall_tabled e
      refine ⟨fun _ => htabled, fun _ h => ?_, fun h => hquiet (hreads h), fun h => absurd h htabled.ne_ok,
        fun data hdata => ?_, hends.leaves.keeps, ⟨_, rfl, hlen, hadded⟩, hends.failed.2⟩
      · exact hquiet (hends.failed.1 (handleCall_status h))
      · obtain ⟨b, hb, -⟩ := htabled
        cases hb.symm.trans hdata

/-- Every task on the queue is for a job that its tenant can read. -/
def Site.Backed (site : Site) : Prop :=
  ∀ task ∈ site.queue, ∃ row, site.store.getJob task.jobId task.tenantId = some row

theorem Exchange.Truthful.backed {x : Exchange} (h : x.Truthful cfg svc) (hx : x.before.Backed) :
    x.after.Backed := by
  obtain ⟨added, hqueue, -, hadded⟩ := h.tasks
  intro task htask
  rw [hqueue] at htask
  rcases List.mem_append.mp htask with hold | hnew
  · obtain ⟨row, hrow⟩ := hx task hold
    obtain ⟨row', hrow', -⟩ := h.kept.getJob hrow
    exact ⟨row', hrow'⟩
  · exact (hadded task hnew).2

theorem serveAll_keeps (site : Site) (qs : List Incoming) :
    KeepsJobs site.store (serveAll cfg svc site qs).store := by
  induction qs generalizing site with
  | nil => exact .refl _
  | cons q qs ih => exact (serve_truthful cfg svc site q).kept.trans (ih _)

/-- The job that a reply has shown is still the tenant's, in this store. -/
def Exchange.Lasts (cfg : GateSettings) (svc : GateServices) (x : Exchange) (t : Store) : Prop :=
  ∀ data, x.reply.body = .job data → ∃ tenant row, tenantOf cfg svc x.request.http = some tenant ∧
    t.getJob data.id tenant = some row ∧ row.orderId = data.orderId ∧
    row.requestedDocTypes = data.requestedDocTypes ∧ row.createdAt = data.createdAt

theorem Exchange.Truthful.lasts {x : Exchange} (h : x.Truthful cfg svc) {t : Store}
    (ht : KeepsJobs x.after.store t) : x.Lasts cfg svc t := by
  intro data hdata
  have hok : x.reply.status = 200 := by
    by_contra hstatus
    obtain ⟨e, he, -⟩ := h.error hstatus
    cases he.symm.trans hdata
  obtain ⟨ids, hauth, hshown⟩ := h.shown hok
  rw [hdata] at hshown
  obtain ⟨-, row, hrow, hschema⟩ := hshown
  obtain ⟨row', hrow', hsame⟩ := ht.getJob hrow
  obtain ⟨rows, -, hrows⟩ := Option.map_eq_some_iff.mp
    (x.request.out.listing.toJobSchema_eq x.after.store x.request.out.files x.request.out.updatedAt
      data.id row)
  rw [← hschema] at hrows
  refine ⟨ids.2, row', by simp [tenantOf, hauth, Except.toOption], hrow', ?_, ?_, ?_⟩
  · rw [hsame.orderId, ← hrows]
  · rw [hsame.requestedDocTypes, ← hrows]
  · rw [hsame.createdAt, ← hrows]

/-- Any well-formed requests of any callers to the endpoints, one after the other, whatever the
database and the broker do. Every reply is truthful, the job that a reply has shown stays its tenant's
to the end, every job keeps its full set of documents, and every task is for a job that is there. -/
theorem exchanges_truthful (cfg : GateSettings) (svc : GateServices) (site : Site)
    (qs : List Incoming) (hsets : site.store.Complete) (hqueue : site.Backed) :
    (∀ x ∈ exchanges cfg svc site qs, x.Truthful cfg svc ∧
        x.Lasts cfg svc (serveAll cfg svc site qs).store) ∧
      (serveAll cfg svc site qs).store.Complete ∧ (serveAll cfg svc site qs).Backed := by
  induction qs generalizing site with
  | nil => exact ⟨fun x hx => (by cases hx), hsets, hqueue⟩
  | cons q qs ih =>
    have hfirst := serve_truthful cfg svc site q
    obtain ⟨hrest, hsets', hqueue'⟩ := ih (serve cfg svc site q).2 (hfirst.whole hsets) (hfirst.backed hqueue)
    refine ⟨List.forall_mem_cons.mpr ⟨⟨hfirst, hfirst.lasts ?_⟩, hrest⟩, hsets', hqueue'⟩
    exact serveAll_keeps (serve cfg svc site q).2 qs

/-- A job that a reply shows is what its tenant reads next, word for word, where the file rows are the
same and the database lists documents of one time in the same order. -/
theorem shown_then_read {site : Site} {q q' : Incoming} {data : JobSchema}
    (hshown : (serve cfg svc site q).1.body = .job data)
    (hroute : q'.route = .getResearchJob data.id)
    (htenant : tenantOf cfg svc q'.http = tenantOf cfg svc q.http)
    (hfiles : q'.out.files = q.out.files) (hupdated : q'.out.updatedAt = q.out.updatedAt)
    (hlisting : q'.out.listing = q.out.listing)
    (hout : ∀ n, q'.out.fault n = none) :
    (serve cfg svc (serve cfg svc site q).2 q').1 = { status := 200, body := .job data } := by
  have htruth := serve_truthful cfg svc site q
  have hok : (serve cfg svc site q).1.status = 200 := by
    by_contra hstatus
    obtain ⟨e, he, -⟩ := htruth.error hstatus
    cases he.symm.trans hshown
  obtain ⟨⟨actor, tenant⟩, hauth, hbody⟩ := htruth.shown hok
  simp only [hshown] at hbody
  obtain ⟨-, row, hrow, hdata⟩ := hbody
  obtain ⟨actor', hauth'⟩ : ∃ actor', authenticate cfg svc q'.http = .ok (actor', tenant) :=
    tenantOf_eq_some (htenant.trans (by simp [tenantOf, hauth, Except.toOption]))
  generalize (serve cfg svc site q).2 = site' at hrow hdata ⊢
  have hgets := endpoint_gets actor' hout hrow (.opened site'.store) ⟨⟨rfl, rfl⟩, rfl⟩
  unfold serve
  rw [hroute]
  simp only [dependencies, hauth']
  generalize (endpoint q'.out actor' tenant (.getResearchJob data.id)).run (.opened site'.store) = r at hgets ⊢
  obtain ⟨result, c⟩ := r
  cases result with
  | ok body =>
    obtain ⟨hbody, -⟩ : body = .job _ ∧ _ := hgets
    rw [hfiles, hupdated, hlisting, ← hdata] at hbody
    simp [respond, hbody]
  | error e => exact hgets.elim

end Server

section Concrete

open scoped PyText.Ascii

theorem filterMap_get {V : Type} {t : Table Uuid V} {rows : List (Uuid × V)}
    (h : ∀ r ∈ rows, t.get r.1 = some r.2) :
    ((rows.map Prod.fst).filterMap fun k => (t.get k).map (k, ·)) = rows := by
  induction rows with
  | nil => rfl
  | cons r rows ih =>
    obtain ⟨hr, hrows⟩ := List.forall_mem_cons.mp h
    simp [hr, ih hrows]

/-- Rows with the same time stamp come in the order in which they were inserted. -/
def stableListing : Listing where
  docs s job := ((s.docsForJob job).insertionSort fun a b => a.2.createdAt ≤ b.2.createdAt).map Prod.fst
  listed s job := by
    have hperm := List.perm_insertionSort (fun a b : Uuid × Doc => a.2.createdAt ≤ b.2.createdAt)
      (s.docsForJob job)
    have hrows := filterMap_get (t := s.docs) fun r hr =>
      ((Table.mem_select_iff _ _ _ _).mp (hperm.mem_iff.mp hr)).1
    simp only [Store.listForJob, hrows]
    rw [if_pos ⟨hperm.map _, StableSort.insertionSort_pairwise (fun r : Uuid × Doc => r.2.createdAt) _⟩]
    rfl
  jobs s orderId tenant :=
    ((s.jobsForOrder orderId tenant).insertionSort fun a b => b.2.createdAt ≤ a.2.createdAt).map Prod.fst
  jobsListed s orderId tenant := by
    have hperm := List.perm_insertionSort (fun a b : Uuid × Job => b.2.createdAt ≤ a.2.createdAt)
      (s.jobsForOrder orderId tenant)
    have hrows := filterMap_get (t := s.jobs) fun r hr =>
      ((Table.mem_select_iff _ _ _ _).mp (hperm.mem_iff.mp hr)).1
    have hsorted := StableSort.insertionSort_pairwise (fun r : Uuid × Job => OrderDual.toDual r.2.createdAt)
      (s.jobsForOrder orderId tenant)
    simp only [Store.listForOrder, hrows]
    rw [if_pos ⟨hperm.map _, hsorted⟩]
    rfl

/-- One order of one tenant; the database fails where it is told to. -/
def sampleOutside (fault : ℕ → Option DbError) (job : Uuid) : Outside where
  fault := fault
  orderProvider := some fun order tenant =>
    .ok (if order = 3 ∧ tenant = 10 then some JobMachine.sampleOrder else none)
  enqueue := some true
  now := 100
  job := job
  key := job + 1
  docId n := 10 * job + n
  files _ := none
  updatedAt _ := 0
  listing := stableListing

def sampleIncoming (header : String) (route : Route) (fault : ℕ → Option DbError) (job : Uuid) :
    Incoming :=
  { now := 0, http := tenantRequest header, route := route, out := sampleOutside fault job }

def owner : String := "0000000000000000000000000000000a"

/-- The tenant creates a job, reads it, retries it too early and cancels it; then another tenant
asks for it, somebody without a tenant does, and the connection is lost after the commit of a
second job. -/
def sampleSession : List Incoming :=
  let healthy : ℕ → Option DbError := fun _ => none
  [sampleIncoming owner (.createResearchJob { orderId := 3, documentTypes := ["flood"] } none) healthy 7,
    sampleIncoming owner (.getResearchJob 7) healthy 0,
    sampleIncoming owner (.retryResearchJob 7 none) healthy 9,
    sampleIncoming owner (.cancelResearchJob 7 (some (some "duplicate"))) healthy 0,
    sampleIncoming "0000000000000000000000000000000b" (.getResearchJob 7) healthy 0,
    sampleIncoming "" (.getResearchJob 7) healthy 0,
    sampleIncoming owner (.createResearchJob { orderId := 3, documentTypes := ["flood"] } none)
      (fun n => if n = 3 then some (.other "connection lost") else none) 17]

def emptySite : Site := { store := default }

theorem emptySite_complete : emptySite.store.Complete :=
  ⟨fun d row h => (by cases h), fun job j h => (by cases h)⟩

theorem session_truthful :
    (exchanges {} sampleServices emptySite sampleSession).map (fun x => x.reply.status) =
        [200, 200, 409, 200, 404, 401, 500] ∧
      ((serveAll {} sampleServices emptySite sampleSession).queue.map Task.jobId = [7]) ∧
      (∀ x ∈ exchanges {} sampleServices emptySite sampleSession, x.Truthful {} sampleServices ∧
        x.Lasts {} sampleServices (serveAll {} sampleServices emptySite sampleSession).store) ∧
      (serveAll {} sampleServices emptySite sampleSession).store.Complete ∧
      (serveAll {} sampleServices emptySite sampleSession).Backed := by
  refine ⟨by decide +kernel, by decide +kernel, ?_⟩
  exact exchanges_truthful {} sampleServices emptySite sampleSession emptySite_complete
    fun task h => (by cases h)

/-- The site when the job has been created. -/
def createdSite : Site := serveAll {} sampleServices emptySite (sampleSession.take 1)

def cancelIncoming : Incoming :=
  sampleIncoming owner (.cancelResearchJob 7 (some (some "duplicate"))) (fun _ => none) 0

/-- The body is a job that passes a check. -/
def Body.isJobWith (body : Body) (p : JobSchema → Bool) : Bool :=
  match body with
  | .job data => p data
  | .jobs _ | .error _ => false

theorem isJobWith_iff {body : Body} {p : JobSchema → Bool} :
    body.isJobWith p = true ↔ ∃ data, body = .job data ∧ p data = true := by
  cases body <;> simp [Body.isJobWith]

/-- The cancelled job is read as the cancellation has shown it. -/
theorem cancelled_then_read :
    ∃ data, data.status = .cancelled ∧ data.cancelReason = some "duplicate" ∧
      (serve {} sampleServices (serve {} sampleServices createdSite cancelIncoming).2
        (sampleIncoming owner (.getResearchJob 7) (fun _ => none) 0)).1 =
          { status := 200, body := .job data } := by
  have hshows : (serve {} sampleServices createdSite cancelIncoming).1.body.isJobWith
      (fun data => (data.id, data.status, data.cancelReason) = (7, .cancelled, some "duplicate")) = true := by
    decide +kernel
  obtain ⟨data, hshown, hdata⟩ := isJobWith_iff.mp hshows
  obtain ⟨hid, hstatus, hreason⟩ := by simpa using hdata
  have hroute : (sampleIncoming owner (.getResearchJob 7) (fun _ => none) 0).route =
      .getResearchJob data.id := by
    rw [hid]
    rfl
  exact ⟨data, hstatus, hreason, shown_then_read hshown hroute rfl rfl rfl rfl fun _ => rfl⟩

end Concrete

end HttpApi
end ResearchEngine
