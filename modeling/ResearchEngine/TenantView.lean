import ResearchEngine.IdempotencyKeys

/-! The rows of one tenant. A request of the tenant reads and writes no others, so its
steps on the whole store are steps on the tenant's rows. -/
namespace ResearchEngine

namespace Store

/-- The tenant that a job belongs to. -/
def tenantOf (s : Store) (job : Uuid) : Option Uuid := (s.jobs.get job).map Job.tenantId

/-- The tenant's jobs and their documents. -/
def ofTenant (s : Store) (tenant : Uuid) : Store where
  jobs := s.jobs.filter fun _ j => j.tenantId = tenant
  docs := s.docs.filter fun _ d => s.tenantOf d.jobId = some tenant

/-- The foreign key of `research_documents`. -/
def DocsHaveJobs (s : Store) : Prop :=
  ∀ d row, s.docs.get d = some row → row.jobId ∈ s.jobs.keys

variable {s : Store} {tenant job : Uuid}

theorem tenantOf_eq_some : s.tenantOf job = some tenant ↔
    ∃ row, s.jobs.get job = some row ∧ row.tenantId = tenant := by
  simp [tenantOf, Option.map_eq_some_iff]

theorem ofTenant_get (id : Uuid) :
    (s.ofTenant tenant).jobs.get id = (s.jobs.get id).filter fun j => j.tenantId = tenant :=
  Table.get_filter _ _ _

/-- The tenant's own rows are all there. -/
theorem ofTenant_get_own (h : s.tenantOf job = some tenant) :
    (s.ofTenant tenant).jobs.get job = s.jobs.get job := by
  obtain ⟨row, hrow, ht⟩ := tenantOf_eq_some.mp h
  simp [ofTenant_get, hrow, ht]

theorem ofTenant_getJob : (s.ofTenant tenant).getJob job tenant = s.getJob job tenant := by
  simp only [getJob, ofTenant_get]
  cases s.jobs.get job with
  | none => rfl
  | some row => by_cases ht : row.tenantId = tenant <;> simp

theorem ofTenant_getByIdempotency (key : Uuid) :
    (s.ofTenant tenant).getByIdempotency key tenant = s.getByIdempotency key tenant := by
  unfold getByIdempotency ofTenant
  rw [Table.select_filter]
  intro _ j h
  exact decide_eq_true (of_decide_eq_true h).2.1

theorem Extends.tenantOf {s' : Store} (h : s.Extends s') (ht : s.tenantOf job = some tenant) :
    s'.tenantOf job = some tenant := by
  obtain ⟨row, hrow, hrt⟩ := tenantOf_eq_some.mp ht
  obtain ⟨row', hrow', hsame⟩ := h.jobs job row hrow
  exact tenantOf_eq_some.mpr ⟨row', hrow', hsame.tenantId.trans hrt⟩

theorem tenantOf_of_getJob {row : Job} (h : s.getJob job tenant = some row) :
    s.tenantOf job = some tenant := by
  obtain ⟨hrow, ht, -⟩ := (s.getJob_eq_some_iff _ _ _).mp h
  exact tenantOf_eq_some.mpr ⟨row, hrow, ht⟩

/-- A query over the documents of one of the tenant's jobs. -/
theorem ofTenant_selectDocs (h : s.tenantOf job = some tenant) {q : Doc → Bool}
    (hq : ∀ d, q d = true → d.jobId = job) :
    (s.ofTenant tenant).docs.select q = s.docs.select q := by
  refine Table.select_filter _ _ _ fun _ d hd => ?_
  rw [hq d hd]
  exact decide_eq_true h

theorem ofTenant_listFailed (h : s.tenantOf job = some tenant) :
    (s.ofTenant tenant).listFailed job = s.listFailed job :=
  ofTenant_selectDocs h fun _ hd => (of_decide_eq_true hd).1

theorem ofTenant_docsForJob (h : s.tenantOf job = some tenant) :
    (s.ofTenant tenant).docsForJob job = s.docsForJob job :=
  ofTenant_selectDocs h fun _ hd => (of_decide_eq_true hd).1

theorem tenantOf_modifyJob {f : Job → Job} (hf : ∀ j, (f j).tenantId = j.tenantId) (id : Uuid) :
    (s.modifyJob job f).tenantOf id = s.tenantOf id := by
  simp only [tenantOf, modifyJob_jobs, Table.get_modify, Option.map_map]
  cases s.jobs.get id with
  | none => rfl
  | some row =>
    simp only [Option.map_some, Function.comp_apply, Option.some.injEq]
    split
    · exact hf row
    · rfl

theorem ofTenant_modifyJob {f : Job → Job} (hf : ∀ j, (f j).tenantId = j.tenantId) :
    (s.modifyJob job f).ofTenant tenant = (s.ofTenant tenant).modifyJob job f := by
  have hdocs : (fun (_ : Uuid) (d : Doc) =>
      decide ((s.modifyJob job f).tenantOf d.jobId = some tenant)) =
        fun _ d => decide (s.tenantOf d.jobId = some tenant) := by
    funext _ d
    rw [tenantOf_modifyJob hf]
  unfold ofTenant
  rw [hdocs, modifyJob_jobs, Table.filter_modify _ _ _ _ fun _ j => by rw [hf j]]
  rfl

theorem ofTenant_modifyJob_other {f : Job → Job} {other : Uuid}
    (hf : ∀ j, (f j).tenantId = j.tenantId) (h : s.tenantOf job = some other)
    (hne : other ≠ tenant) : (s.modifyJob job f).ofTenant tenant = s.ofTenant tenant := by
  obtain ⟨row, hrow, ht⟩ := tenantOf_eq_some.mp h
  rw [ofTenant_modifyJob hf, modifyJob, Table.modify_of_get_none]
  simp [ofTenant_get, hrow, ht, hne]

theorem violatesUnique_ofTenant (key : Uuid) (docTypes : List DocType) :
    violatesUnique (s.ofTenant tenant) key tenant docTypes =
      violatesUnique s key tenant docTypes := by
  have hrows : ((s.ofTenant tenant).jobs.rows.any fun r =>
      decide (r.2.idempotencyKey = key ∧ r.2.tenantId = tenant)) =
        s.jobs.rows.any fun r => decide (r.2.idempotencyKey = key ∧ r.2.tenantId = tenant) := by
    simp only [ofTenant, Table.filter, List.any_filter]
    refine List.any_congr rfl fun r => ?_
    by_cases ht : r.2.tenantId = tenant <;> simp [ht]
  unfold violatesUnique
  rw [hrows]

end Store

/-! Inserting a job and its documents. -/

section Insert

variable {now : Time} {s : Store} {orderId job tenant : Uuid} {row : Job}

theorem insertDocs_filter {ds : List (Uuid × DocType)} {t t' : Table Uuid Doc}
    {p : Uuid → Doc → Bool} (h : insertDocs now job orderId ds t = some t')
    (hp : ∀ d docType, p d (newDoc now job orderId docType) = true) :
    insertDocs now job orderId ds (t.filter p) = some (t'.filter p) := by
  induction ds generalizing t with
  | nil =>
    obtain rfl := Option.some.inj h
    rfl
  | cons q ds ih =>
    obtain ⟨u, hu, hrest⟩ := Option.bind_eq_some_iff.mp h
    exact Option.bind_eq_some_iff.mpr ⟨_, Table.insert?_filter hu (hp _ _), ih hrest⟩

theorem filter_insertDocs_of_false {ds : List (Uuid × DocType)} {t t' : Table Uuid Doc}
    {p : Uuid → Doc → Bool} (h : insertDocs now job orderId ds t = some t')
    (hp : ∀ d docType, p d (newDoc now job orderId docType) = false) : t'.filter p = t.filter p := by
  induction ds generalizing t with
  | nil =>
    obtain rfl := Option.some.inj h
    rfl
  | cons q ds ih =>
    obtain ⟨u, hu, hrest⟩ := Option.bind_eq_some_iff.mp h
    rw [ih hrest, Table.filter_insert?_of_false hu (hp _ _)]

theorem tenantOf_insert {fresh : job ∉ s.jobs.keys} {table : Table Uuid Doc} (id : Uuid) :
    Store.tenantOf { jobs := s.jobs.insert job row fresh, docs := table } id =
      if id = job then some row.tenantId else s.tenantOf id := by
  simp only [Store.tenantOf, Table.get_insert]
  split <;> rfl

/-- The rows that were there keep their tenant when a job is inserted. -/
theorem filter_tenantOf_insert {fresh : job ∉ s.jobs.keys} {table : Table Uuid Doc}
    (hdocs : s.DocsHaveJobs) :
    (s.docs.filter fun _ d => Store.tenantOf
        { jobs := s.jobs.insert job row fresh, docs := table } d.jobId = some tenant) =
      s.docs.filter fun _ d => s.tenantOf d.jobId = some tenant := by
  refine Table.filter_congr fun r hr => ?_
  have hmem := hdocs r.1 r.2 ((Table.mem_rows_iff _ _ _).mp hr)
  have hne : r.2.jobId ≠ job := fun he => fresh (he ▸ hmem)
  rw [tenantOf_insert, if_neg hne]

/-- The insert of another tenant's job. -/
theorem ofTenant_insert_other {fresh : job ∉ s.jobs.keys} {table : Table Uuid Doc}
    {ds : List (Uuid × DocType)} (hdocs : s.DocsHaveJobs)
    (h : insertDocs now job orderId ds s.docs = some table) (hne : row.tenantId ≠ tenant) :
    Store.ofTenant { jobs := s.jobs.insert job row fresh, docs := table } tenant =
      s.ofTenant tenant := by
  have hjobs : (s.jobs.insert job row fresh).filter (fun _ j => j.tenantId = tenant) =
      s.jobs.filter fun _ j => j.tenantId = tenant := by
    refine Table.filter_insert?_of_false ((Table.insert?_eq_some_iff _ _ _ _).mpr ⟨fresh, rfl⟩) ?_
    simp [hne]
  unfold Store.ofTenant
  rw [hjobs, filter_insertDocs_of_false h, filter_tenantOf_insert hdocs]
  intro d docType
  simp [newDoc, tenantOf_insert, hne]

/-- The insert of the tenant's own job. -/
theorem ofTenant_insert_own (row : Job) (fresh : job ∉ s.jobs.keys) {table : Table Uuid Doc}
    {ds : List (Uuid × DocType)} (hdocs : s.DocsHaveJobs)
    (h : insertDocs now job orderId ds s.docs = some table) (ht : row.tenantId = tenant) :
    (s.ofTenant tenant).jobs.insert? job row =
        some (Store.ofTenant { jobs := s.jobs.insert job row fresh, docs := table } tenant).jobs ∧
      insertDocs now job orderId ds (s.ofTenant tenant).docs =
        some (Store.ofTenant { jobs := s.jobs.insert job row fresh, docs := table } tenant).docs := by
  constructor
  · refine Table.insert?_filter ((Table.insert?_eq_some_iff _ _ _ _).mpr ⟨fresh, rfl⟩) ?_
    simp [ht]
  · have htable := insertDocs_filter (p := fun _ d => Store.tenantOf
      { jobs := s.jobs.insert job row fresh, docs := table } d.jobId = some tenant) h
      fun d docType => by simp [newDoc, tenantOf_insert, ht]
    rwa [filter_tenantOf_insert hdocs] at htable

end Insert

/-! The steps of a tenant's requests. -/

/-- The request is the tenant's, and so is the job it has found or made. -/
def Session.OwnedBy (s : Store) (tenant : Uuid) : Session → Prop
  | .checking req | .inserting req _ _ | .recovering req => req.tenantId = tenant
  | .created job req | .enqueueing job req _ =>
    req.tenantId = tenant ∧ s.tenantOf job = some tenant
  | .cancelling job _ _ | .reviewing job _ | .archiving job _ | .refreshing job
  | .returned job _ => s.tenantOf job = some tenant
  | .idle | .raised _ => True

/-- A request that is begun comes from the tenant. -/
def ApiAct.By (tenant : Uuid) : ApiAct → Prop
  | .create req => req.tenantId = tenant
  | .retry t _ _ _ | .cancel t _ _ | .review t _ | .archive t _ => t = tenant
  | _ => True

section Reads

variable [PyText] {s : Store} {tenant job : Uuid}

omit [PyText] in
theorem readRetry_ofTenant (actor : Uuid) (docTypes : Option (List String)) :
    readRetry (s.ofTenant tenant) tenant actor job docTypes =
      readRetry s tenant actor job docTypes := by
  unfold readRetry
  rw [Store.ofTenant_getJob]
  cases hj : s.getJob job tenant with
  | none => rfl
  | some row => rw [Store.ofTenant_listFailed (Store.tenantOf_of_getJob hj)]

omit [PyText] in
theorem readRetry_owned (actor : Uuid) (docTypes : Option (List String)) :
    (readRetry s tenant actor job docTypes).OwnedBy s tenant := by
  unfold readRetry
  split
  · trivial
  · split
    · cases docTypes <;> dsimp only <;> split <;> trivial
    · trivial

omit [PyText] in
theorem readCancel_ofTenant (reason : Option String) :
    readCancel (s.ofTenant tenant) tenant job reason = readCancel s tenant job reason := by
  unfold readCancel
  rw [Store.ofTenant_getJob]

omit [PyText] in
theorem readReview_owned : (readReview s tenant job).OwnedBy s tenant := by
  unfold readReview
  split
  · trivial
  · split
    · exact Store.tenantOf_of_getJob ‹_›
    · trivial

omit [PyText] in
theorem readArchive_owned : (readArchive s tenant job).OwnedBy s tenant := by
  unfold readArchive
  split
  · trivial
  · split
    · exact Store.tenantOf_of_getJob ‹_›
    · trivial

omit [PyText] in
/-- The lookup under the key, as `create_job` makes it twice. -/
theorem lookup_ofTenant {req : CreateRequest} (ht : req.tenantId = tenant) :
    (req.idempotencyKey.bind fun key => (s.ofTenant tenant).getByIdempotency key req.tenantId) =
      req.idempotencyKey.bind fun key => s.getByIdempotency key req.tenantId := by
  subst ht
  simp only [Store.ofTenant_getByIdempotency]

theorem checkCreate_ofTenant {req : CreateRequest} (ht : req.tenantId = tenant)
    (order : Option OrderData) :
    checkCreate (s.ofTenant tenant) req order = checkCreate s req order := by
  unfold checkCreate
  rw [lookup_ofTenant ht]

omit [PyText] in
theorem recoverCreate_ofTenant {req : CreateRequest} (ht : req.tenantId = tenant) :
    recoverCreate (s.ofTenant tenant) req = recoverCreate s req := by
  unfold recoverCreate
  rw [lookup_ofTenant ht]

omit [PyText] in
/-- What the lookup finds is the tenant's. -/
theorem lookup_owned {req : CreateRequest} {row : Job}
    (h : (req.idempotencyKey.bind fun key => s.getByIdempotency key req.tenantId) =
      some (job, row)) : s.tenantOf job = some req.tenantId := by
  obtain ⟨key, -, hrow⟩ := Option.bind_eq_some_iff.mp h
  obtain ⟨row', hget, ht, -⟩ := (Store.getByIdempotency_some hrow).2
  exact Store.tenantOf_eq_some.mpr ⟨row', hget, ht⟩

theorem checkCreate_owned {req : CreateRequest} (order : Option OrderData) :
    (checkCreate s req order).OwnedBy s req.tenantId := by
  unfold checkCreate
  split
  · trivial
  · split
    · exact lookup_owned ‹_›
    · rfl

omit [PyText] in
theorem recoverCreate_owned {req : CreateRequest} :
    (recoverCreate s req).OwnedBy s req.tenantId := by
  unfold recoverCreate
  split
  · exact lookup_owned ‹_›
  · trivial

end Reads

section Steps

variable [PyText] {now : Time} {s : Store} {tenant : Uuid} {session : Session} {act : ApiAct}
  {e : ApiEffect}

omit [PyText] in
theorem insertJob_ofTenant {req : CreateRequest} {orderId job freshKey : Uuid}
    {docTypes : List DocType} {docs : List Uuid} (hdocs : s.DocsHaveJobs)
    (ht : req.tenantId = tenant)
    (h : insertJob now s req orderId docTypes job freshKey docs = some e) :
    insertJob now (s.ofTenant tenant) req orderId docTypes job freshKey docs =
        some { e with store := e.store.ofTenant tenant } ∧
      e.session.OwnedBy e.store tenant ∧ e.publish = [] := by
  subst ht
  obtain ⟨hviolates, rfl⟩ | ⟨hfree, hlen, fresh, table, htable, rfl⟩ := insertJob_split h
  · refine ⟨?_, rfl, rfl⟩
    simp only [insertJob, Store.violatesUnique_ofTenant, hviolates, if_true]
  · refine ⟨?_, ⟨rfl, ?_⟩, rfl⟩
    · obtain ⟨hjobs, htable'⟩ := ofTenant_insert_own
        (newJob now req orderId (req.idempotencyKey.getD freshKey) docTypes) fresh hdocs htable rfl
      change (s.ofTenant req.tenantId).jobs.insert? _ _ = _ at hjobs
      change insertDocs _ _ _ _ (s.ofTenant req.tenantId).docs = _ at htable'
      simp only [insertJob, Store.violatesUnique_ofTenant, hfree, hlen, if_true,
        Bool.false_eq_true, if_false, hjobs, htable', Option.bind_some, Option.map_some]
      rfl
    · rw [tenantOf_insert, if_pos rfl]
      rfl

omit [PyText] in
/-- A write to one of the tenant's jobs. -/
theorem modify_owned {job : Uuid} {f : Job → Job} (hf : ∀ j, (f j).tenantId = j.tenantId)
    (hown : s.tenantOf job = some tenant) :
    (Session.refreshing job).OwnedBy (s.modifyJob job f) tenant := by
  change (s.modifyJob job f).tenantOf job = some tenant
  rw [Store.tenantOf_modifyJob hf]
  exact hown

/-- A step of a tenant's request is a step on the tenant's rows. -/
theorem apiStep_ofTenant (hdocs : s.DocsHaveJobs) (hown : session.OwnedBy s tenant)
    (hact : act.By tenant) (h : apiStep now s session act = some e) :
    apiStep now (s.ofTenant tenant) session act =
        some { e with store := e.store.ofTenant tenant } ∧
      e.session.OwnedBy e.store tenant ∧ ∀ t ∈ e.publish, t.tenantId = tenant := by
  cases apiStep_cases h with
  | create => exact ⟨rfl, hact, by simp⟩
  | @retry t actorId job docTypes =>
    obtain rfl : t = tenant := hact
    refine ⟨?_, readRetry_owned _ _, by simp⟩
    simp only [apiStep, readRetry_ofTenant]
  | @cancelRefused t job reason error =>
    obtain rfl : t = tenant := hact
    have hread : readCancel s t job reason = .raised error :=
      congrArg ApiEffect.session (Option.some.inj h)
    refine ⟨?_, trivial, by simp⟩
    simp only [apiStep, readCancel_ofTenant, hread]
  | @cancelRead t job reason j hj hs =>
    obtain rfl : t = tenant := hact
    have hread : readCancel s t job reason = .cancelling job j.status reason :=
      congrArg ApiEffect.session (Option.some.inj h)
    refine ⟨?_, Store.tenantOf_of_getJob hj, by simp⟩
    simp only [apiStep, readCancel_ofTenant, hread]
  | @review t job =>
    obtain rfl : t = tenant := hact
    refine ⟨?_, readReview_owned, by simp⟩
    simp only [apiStep, readReview, Store.ofTenant_getJob]
  | @archive t job =>
    obtain rfl : t = tenant := hact
    refine ⟨?_, readArchive_owned, by simp⟩
    simp only [apiStep, readArchive, Store.ofTenant_getJob]
  | @check req order =>
    obtain rfl : req.tenantId = tenant := hown
    refine ⟨?_, checkCreate_owned _, by simp⟩
    simp only [apiStep, checkCreate_ofTenant]
  | insertRefused =>
    obtain ⟨hstep, howned, hpublish⟩ := insertJob_ofTenant hdocs hown h
    exact ⟨hstep, howned, by simp⟩
  | insert =>
    obtain ⟨hstep, howned, hpublish⟩ := insertJob_ofTenant hdocs hown h
    exact ⟨hstep, howned, by simp⟩
  | @recover req =>
    obtain rfl : req.tenantId = tenant := hown
    refine ⟨?_, recoverCreate_owned, by simp⟩
    simp only [apiStep, recoverCreate_ofTenant]
  | enqueue =>
    refine ⟨rfl, hown.2, fun t ht => ?_⟩
    obtain rfl := List.mem_singleton.mp ht
    exact hown.1
  | enqueueFailed => exact ⟨rfl, trivial, by simp⟩
  | commitCancel =>
    refine ⟨?_, modify_owned (fun _ => rfl) hown, by simp⟩
    simp only [apiStep, commitApi, Store.ofTenant_modifyJob (f := applyCancel _ _) fun _ => rfl]
  | commitReview =>
    refine ⟨?_, modify_owned (fun _ => rfl) hown, by simp⟩
    simp only [apiStep, commitApi, Store.ofTenant_modifyJob (f := Job.setStatus _) fun _ => rfl]
  | commitArchive =>
    refine ⟨?_, modify_owned (fun _ => rfl) hown, by simp⟩
    simp only [apiStep, commitApi, Store.ofTenant_modifyJob (f := Job.setStatus _) fun _ => rfl]
  | refresh hj =>
    refine ⟨?_, hown, by simp⟩
    simp only [apiStep, Store.ofTenant_get_own hown, hj, Option.map_some]
  | refreshCreated hj =>
    refine ⟨?_, hown, by simp⟩
    simp only [apiStep, Store.ofTenant_get_own hown.2, hj, Option.map_some]

/-- A step of another tenant's request does not touch the tenant's rows. -/
theorem apiStep_ofTenant_other {other : Uuid} (hdocs : s.DocsHaveJobs)
    (hown : session.OwnedBy s other) (hne : other ≠ tenant)
    (h : apiStep now s session act = some e) :
    e.store.ofTenant tenant = s.ofTenant tenant ∧ ∀ t ∈ e.publish, t.tenantId ≠ tenant := by
  cases apiStep_cases h with
  | insert fresh hlen htable =>
    refine ⟨ofTenant_insert_other hdocs htable ?_, by simp⟩
    change _ = other at hown
    simpa [newJob, hown] using hne
  | enqueue =>
    refine ⟨rfl, fun t ht => ?_⟩
    obtain rfl := List.mem_singleton.mp ht
    exact fun he => hne (hown.1.symm.trans he)
  | commitCancel => exact ⟨Store.ofTenant_modifyJob_other (fun _ => rfl) hown hne, by simp⟩
  | commitReview => exact ⟨Store.ofTenant_modifyJob_other (fun _ => rfl) hown hne, by simp⟩
  | commitArchive => exact ⟨Store.ofTenant_modifyJob_other (fun _ => rfl) hown hne, by simp⟩
  | _ => exact ⟨rfl, by simp⟩

omit [PyText] in
/-- A session keeps its owner while others write. -/
theorem Session.OwnedBy.extends {s' : Store} (h : session.OwnedBy s tenant) (he : s.Extends s') :
    session.OwnedBy s' tenant := by
  cases session with
  | created | enqueueing => exact ⟨h.1, he.tenantOf h.2⟩
  | cancelling | reviewing | archiving | refreshing | returned => exact he.tenantOf h
  | _ => exact h

theorem apiStep_docsHaveJobs (hdocs : s.DocsHaveJobs) (h : apiStep now s session act = some e) :
    e.store.DocsHaveJobs := by
  cases apiStep_cases h with
  | @insert req orderId docTypes job freshKey docs table fresh hlen htable =>
    intro d row hrow
    rw [← Table.mem_rows_iff, insertDocs_rows htable, List.mem_append] at hrow
    simp only [Table.keys, Table.insert, List.map_append, List.mem_append, List.map_cons,
      List.map_nil, List.mem_singleton]
    obtain hold | hnew := hrow
    · exact .inl (hdocs d row ((Table.mem_rows_iff _ _ _).mp hold))
    · obtain ⟨q, -, hq⟩ := List.mem_map.mp hnew
      exact .inr (by rw [← (Prod.mk.inj hq).2]; rfl)
  | commitCancel => exact fun d row hrow => by simpa using hdocs d row hrow
  | commitReview => exact fun d row hrow => by simpa using hdocs d row hrow
  | commitArchive => exact fun d row hrow => by simpa using hdocs d row hrow
  | _ => exact hdocs

theorem apiStep_live (hlive : s.Live) (h : apiStep now s session act = some e) : e.store.Live := by
  have hext := apiCase_extends (apiStep_cases h)
  have hold : ∀ id ∈ s.jobs.keys, ∀ j, e.store.jobs.get id = some j → j.deletedAt = none := by
    intro id hid j hj
    obtain ⟨row, hrow⟩ := (Table.mem_keys_iff _ _).mp hid
    exact (hext.sameJob hrow hj).deletedAt.trans (hlive id row hrow)
  intro id j hj
  by_cases hid : id ∈ s.jobs.keys
  · exact hold id hid j hj
  · have hnew : id ∈ e.store.jobs.keys := (Table.mem_keys_iff _ _).mpr ⟨j, hj⟩
    cases apiStep_cases h with
    | insert fresh hlen htable =>
      rw [Table.get_insert] at hj
      split at hj
      · obtain rfl := Option.some.inj hj
        rfl
      · exact hlive id j hj
    | commitCancel | commitReview | commitArchive => exact (hid (by simpa using hnew)).elim
    | _ => exact (hid hnew).elim

end Steps

end ResearchEngine
