import ResearchEngine.TenantView
import ResearchEngine.ServiceCalls

/-! The tenants of one database: what a tenant's calls return depends on the tenant's rows
only, and they write no others. -/
namespace ResearchEngine

/-! The part of the database that one tenant's calls depend on. -/

namespace Store

/-- A document of the tenant refers to the file. -/
def refers (s : Store) (tenant file : Uuid) : Bool :=
  s.docs.rows.any fun r => s.tenantOf r.2.jobId = some tenant ∧ r.2.fileId = some file

variable {s : Store} {tenant job : Uuid}

theorem refers_of_get {d file : Uuid} {row : Doc} (h : s.docs.get d = some row)
    (ht : s.tenantOf row.jobId = some tenant) (hf : row.fileId = some file) :
    s.refers tenant file = true :=
  List.any_eq_true.mpr ⟨(d, row), (Table.mem_rows_iff _ _ _).mpr h, decide_eq_true ⟨ht, hf⟩⟩

theorem ofTenant_getDoc {d : Uuid} {row : Doc} (h : s.docs.get d = some row)
    (ht : s.tenantOf row.jobId = some tenant) :
    (s.ofTenant tenant).docs.get d = some row := by
  simp [ofTenant, Table.get_filter, h, ht]

/-- The listing holds documents of the job only. -/
theorem listForJob_mem {order : List Uuid} {rows : List (Uuid × Doc)}
    (h : s.listForJob job order = some rows) :
    ∀ r ∈ rows, s.docs.get r.1 = some r.2 ∧ r.2.jobId = job := by
  obtain ⟨hkeys, hperm, hget⟩ := listForJob_eq_some h
  intro r hr
  have hmem : r.1 ∈ (s.docsForJob job).map Prod.fst :=
    hperm.mem_iff.mp (hkeys ▸ List.mem_map_of_mem hr)
  obtain ⟨r', hr', heq⟩ := List.mem_map.mp hmem
  obtain ⟨hrow, hjob⟩ := (Table.mem_select_iff _ _ _ _).mp hr'
  rw [heq] at hrow
  have hsame : r'.2 = r.2 := Option.some.inj (hrow.symm.trans (hget r hr))
  rw [hsame] at hjob
  exact ⟨hget r hr, (of_decide_eq_true hjob).1⟩

theorem ofTenant_listForJob {order : List Uuid} {rows : List (Uuid × Doc)}
    (ht : s.tenantOf job = some tenant) (h : s.listForJob job order = some rows) :
    (s.ofTenant tenant).listForJob job order = some rows := by
  refine listForJob_congr (ofTenant_docsForJob ht) (fun d row hrow hjob => ?_) h
  exact ofTenant_getDoc hrow (hjob ▸ ht)

theorem ofTenant_listForOrder {orderId : Uuid} {order : List Uuid} {rows : List (Uuid × Job)}
    (h : s.listForOrder orderId tenant order = some rows) :
    (s.ofTenant tenant).listForOrder orderId tenant order = some rows := by
  have hselect : (s.ofTenant tenant).jobsForOrder orderId tenant = s.jobsForOrder orderId tenant := by
    refine Table.select_filter s.jobs (fun _ j => j.tenantId = tenant) _ fun _ j hj => ?_
    exact decide_eq_true (of_decide_eq_true hj).2.1
  have hperm : order.Perm ((s.jobsForOrder orderId tenant).map Prod.fst) := by
    simp only [listForOrder] at h
    split at h
    · rename_i hp
      exact hp.1
    · cases h
  have hrows : order.filterMap (fun id => ((s.ofTenant tenant).jobs.get id).map (id, ·)) =
      order.filterMap fun id => (s.jobs.get id).map (id, ·) := by
    refine List.filterMap_congr fun id hid => ?_
    obtain ⟨r, hr, rfl⟩ := List.mem_map.mp (hperm.mem_iff.mp hid)
    obtain ⟨hrow, hsel⟩ := (Table.mem_select_iff _ _ _ _).mp hr
    rw [ofTenant_get_own (tenantOf_eq_some.mpr ⟨r.2, hrow, (of_decide_eq_true hsel).2.1⟩)]
  unfold listForOrder at h ⊢
  rw [hselect, hrows]
  exact h

end Store

namespace Db

/-- The tenant's orders, jobs, documents and evidence files. -/
def ofTenant (db : Db) (tenant : Uuid) : Db where
  store := db.store.ofTenant tenant
  orders := fun id => (db.orders id).filter fun o => o.tenantId = tenant
  files := fun file => if db.store.refers tenant file then db.files file else none

end Db

/-- The request with the tenant's part of the database only. -/
def Request.ofTenant (r : Request) (tenant : Uuid) : Request :=
  { r with db := r.db.ofTenant tenant }

section Reads

variable {db : Db} {tenant : Uuid} {sup : Supply}

theorem orderProvider_ofTenant (orderId : Uuid) :
    orderProvider (db.ofTenant tenant).orders orderId tenant =
      orderProvider db.orders orderId tenant := by
  have hrow : (db.ofTenant tenant).orders orderId =
      (db.orders orderId).filter fun o => o.tenantId = tenant := rfl
  unfold orderProvider
  rw [hrow]
  cases db.orders orderId with
  | none => rfl
  | some o => by_cases ht : o.tenantId = tenant <;> simp

theorem nextAct_ofTenant {session : Session} (hown : session.OwnedBy db.store tenant) :
    nextAct (db.ofTenant tenant) sup session = nextAct db sup session := by
  cases session with
  | checking req =>
    obtain rfl : req.tenantId = tenant := hown
    simp only [nextAct, orderProvider_ofTenant]
  | _ => rfl

theorem nextAct_by {session : Session} {act : ApiAct} (h : nextAct db sup session = some act) :
    act.By tenant := by
  cases session <;> cases h <;> trivial

/-- A document of the tenant is shown the same from the tenant's rows. -/
theorem toDocumentSchema_ofTenant {d : Uuid} {row : Doc} (h : db.store.docs.get d = some row)
    (ht : db.store.tenantOf row.jobId = some tenant) :
    toDocumentSchema (db.ofTenant tenant).files d row = toDocumentSchema db.files d row := by
  have hfile : toFileReference (db.ofTenant tenant).files row = toFileReference db.files row := by
    cases hf : row.fileId with
    | none => simp only [toFileReference, hf]
    | some file =>
      have hsame : (db.ofTenant tenant).files file = db.files file := by
        simp only [Db.ofTenant, Store.refers_of_get h ht hf, if_true]
      cases ho : row.orderFileId with
      | none => simp only [toFileReference, hf, ho]
      | some orderFile => simp only [toFileReference, hf, ho, hsame]
  simp only [toDocumentSchema, hfile]

theorem toJobSchema_ofTenant {updatedAt : Time} {job : Uuid} {row : Job} {schema : JobSchema}
    {order : List Uuid} (ht : db.store.tenantOf job = some tenant)
    (h : toJobSchema db.store db.files updatedAt job row order = some schema) :
    toJobSchema (db.ofTenant tenant).store (db.ofTenant tenant).files updatedAt job row order =
      some schema := by
  obtain ⟨docs, hdocs, rfl⟩ := Option.map_eq_some_iff.mp h
  refine Option.map_eq_some_iff.mpr ⟨docs, Store.ofTenant_listForJob ht hdocs, ?_⟩
  have hschemas : docs.map (fun d => toDocumentSchema (db.ofTenant tenant).files d.1 d.2) =
      docs.map fun d => toDocumentSchema db.files d.1 d.2 := by
    refine List.map_congr_left fun r hr => ?_
    obtain ⟨hget, hjob⟩ := Store.listForJob_mem hdocs r hr
    exact toDocumentSchema_ofTenant hget (by rw [hjob]; exact ht)
  rw [hschemas]

theorem jobResult_ofTenant {job : Uuid} {result : ServiceResult}
    (ht : db.store.tenantOf job = some tenant) (h : jobResult db sup job = some result) :
    jobResult (db.ofTenant tenant) sup job = some result := by
  obtain ⟨row, hrow, hmap⟩ := Option.bind_eq_some_iff.mp h
  obtain ⟨schema, hschema, rfl⟩ := Option.map_eq_some_iff.mp hmap
  refine Option.bind_eq_some_iff.mpr ⟨row, ?_, ?_⟩
  · exact (Store.ofTenant_get_own ht).trans hrow
  · rw [toJobSchema_ofTenant ht hschema]
    rfl

end Reads

/-! The steps of the tenant's calls. -/

namespace Store

variable {s : Store} {tenant : Uuid}

theorem refers_modifyJob {job : Uuid} {f : Job → Job} (hf : ∀ j, (f j).tenantId = j.tenantId)
    (file : Uuid) : (s.modifyJob job f).refers tenant file = s.refers tenant file := by
  unfold refers
  simp only [tenantOf_modifyJob hf, modifyJob_docs]

/-- New documents refer to no file. -/
theorem refers_insert {now : Time} {orderId job file : Uuid} {row : Job}
    {fresh : job ∉ s.jobs.keys} {table : Table Uuid Doc} {ds : List (Uuid × DocType)}
    (hdocs : s.DocsHaveJobs) (h : insertDocs now job orderId ds s.docs = some table) :
    Store.refers { jobs := s.jobs.insert job row fresh, docs := table } tenant file =
      s.refers tenant file := by
  have hnew : ((ds.map fun d => (d.1, newDoc now job orderId d.2)).any fun r =>
      decide (tenantOf { jobs := s.jobs.insert job row fresh, docs := table } r.2.jobId =
        some tenant ∧ r.2.fileId = some file)) = false := by
    simp [List.any_eq_false, newDoc]
  have hold : (s.docs.rows.any fun r =>
      decide (tenantOf { jobs := s.jobs.insert job row fresh, docs := table } r.2.jobId =
        some tenant ∧ r.2.fileId = some file)) = s.refers tenant file := by
    unfold refers
    rw [Bool.eq_iff_iff, List.any_eq_true, List.any_eq_true]
    refine exists_congr fun r => and_congr_right fun hr => ?_
    have hmem := hdocs r.1 r.2 ((Table.mem_rows_iff _ _ _).mp hr)
    have hne : r.2.jobId ≠ job := fun he => fresh (he ▸ hmem)
    rw [tenantOf_insert, if_neg hne]
  unfold refers at hold ⊢
  rw [insertDocs_rows h, List.any_append, hold, hnew, Bool.or_false]

end Store

namespace Db

/-- What the tenant's calls may do to the database. -/
structure WrittenBy (tenant : Uuid) (db db' : Db) : Prop where
  rows : db.store.Extends db'.store
  docsHaveJobs : db.store.DocsHaveJobs → db'.store.DocsHaveJobs
  others : ∀ other, other ≠ tenant → db'.ofTenant other = db.ofTenant other

theorem WrittenBy.refl (tenant : Uuid) (db : Db) : WrittenBy tenant db db where
  rows := .refl _
  docsHaveJobs := id
  others := fun _ _ => rfl

theorem WrittenBy.trans {tenant : Uuid} {db db' db'' : Db} (h : WrittenBy tenant db db')
    (h' : WrittenBy tenant db' db'') : WrittenBy tenant db db'' where
  rows := h.rows.trans h'.rows
  docsHaveJobs := h'.docsHaveJobs ∘ h.docsHaveJobs
  others := fun other hne => (h'.others other hne).trans (h.others other hne)

end Db

section Steps

variable [PyText] {tenant : Uuid} {sup : Supply}

theorem apiStep_refers {now : Time} {s : Store} {session : Session} {act : ApiAct} {e : ApiEffect}
    (hdocs : s.DocsHaveJobs) (h : apiStep now s session act = some e) (file : Uuid) :
    e.store.refers tenant file = s.refers tenant file := by
  cases apiStep_cases h with
  | insert fresh hlen htable => exact Store.refers_insert hdocs htable
  | commitCancel => exact Store.refers_modifyJob (f := applyCancel _ _) (fun _ => rfl) file
  | commitReview => exact Store.refers_modifyJob (f := Job.setStatus _) (fun _ => rfl) file
  | commitArchive => exact Store.refers_modifyJob (f := Job.setStatus _) (fun _ => rfl) file
  | _ => rfl

/-- The request is the tenant's. -/
structure Request.OwnedBy (r : Request) (tenant : Uuid) : Prop where
  docsHaveJobs : r.db.store.DocsHaveJobs
  session : r.session.OwnedBy r.db.store tenant
  published : ∀ t ∈ r.published, t.tenantId = tenant

/-- One step of a tenant's request: a step on the tenant's rows, and the other tenants' rows
stay as they are. -/
theorem serviceStep_ofTenant {r r' : Request} {act : ApiAct} (hr : r.OwnedBy tenant)
    (hact : act.By tenant) (h : serviceStep sup r act = some r') :
    serviceStep sup (r.ofTenant tenant) act = some (r'.ofTenant tenant) ∧ r'.OwnedBy tenant ∧
      Db.WrittenBy tenant r.db r'.db := by
  obtain ⟨e, he, rfl⟩ := Option.map_eq_some_iff.mp h
  obtain ⟨hview, howned, hpublish⟩ := apiStep_ofTenant hr.docsHaveJobs hr.session hact he
  have hrefers : ∀ t file, e.store.refers t file = r.db.store.refers t file :=
    fun t file => apiStep_refers hr.docsHaveJobs he file
  refine ⟨?_, ⟨?_, howned, ?_⟩, ⟨?_, ?_, ?_⟩⟩
  · refine Option.map_eq_some_iff.mpr ⟨_, hview, ?_⟩
    simp only [Request.ofTenant, Db.ofTenant, hrefers]
  · exact apiStep_docsHaveJobs hr.docsHaveJobs he
  · intro t ht
    obtain hold | hnew := List.mem_append.mp ht
    · exact hr.published t hold
    · exact hpublish t hnew
  · exact apiCase_extends (apiStep_cases he)
  · exact fun hdocs => apiStep_docsHaveJobs hdocs he
  · intro other hne
    obtain ⟨hstore, -⟩ := apiStep_ofTenant_other hr.docsHaveJobs hr.session (Ne.symm hne) he
    simp only [Db.ofTenant, hstore, hrefers]

theorem drive_ofTenant {fuel : ℕ} {r r' : Request} (hr : r.OwnedBy tenant)
    (h : drive sup fuel r = some r') :
    drive sup fuel (r.ofTenant tenant) = some (r'.ofTenant tenant) ∧ r'.OwnedBy tenant ∧
      Db.WrittenBy tenant r.db r'.db := by
  induction fuel generalizing r with
  | zero =>
    obtain rfl := Option.some.inj h
    exact ⟨rfl, hr, .refl _ _⟩
  | succ fuel ih =>
    have hnext : nextAct (r.ofTenant tenant).db sup (r.ofTenant tenant).session =
        nextAct r.db sup r.session := nextAct_ofTenant hr.session
    cases ha : nextAct r.db sup r.session with
    | none =>
      simp only [drive, ha, Option.some.injEq] at h
      subst h
      refine ⟨?_, hr, .refl _ _⟩
      simp only [drive, hnext, ha]
    | some act =>
      simp only [drive, ha] at h
      obtain ⟨r₁, hstep, hrest⟩ := Option.bind_eq_some_iff.mp h
      obtain ⟨hview, hr₁, hw⟩ := serviceStep_ofTenant hr (nextAct_by ha) hstep
      obtain ⟨hviews, hr', hw'⟩ := ih hr₁ hrest
      refine ⟨?_, hr', hw.trans hw'⟩
      simp only [drive, hnext, ha]
      exact Option.bind_eq_some_iff.mpr ⟨_, hview, hviews⟩

end Steps

/-! Whole calls, and calls in sequence. -/

/-- The rows that a result shows are the tenant's jobs and their documents. -/
def ServiceResult.BelongsTo (s : Store) (tenant : Uuid) : ServiceResult → Prop
  | .job schema => s.tenantOf schema.id = some tenant ∧
      ∀ d ∈ schema.documents, ∃ row, s.docs.get d.id = some row ∧ row.jobId = schema.id
  | .jobs summaries => ∀ j ∈ summaries, s.tenantOf j.id = some tenant
  | .error _ => True

structure Answer.BelongsTo (a : Answer) (s : Store) (tenant : Uuid) : Prop where
  result : a.result.BelongsTo s tenant
  published : ∀ t ∈ a.published, t.tenantId = tenant

/-- What an answer shows is still the tenant's after later calls. -/
theorem Answer.BelongsTo.extends {a : Answer} {s s' : Store} {tenant : Uuid}
    (h : a.BelongsTo s tenant) (he : s.Extends s') : a.BelongsTo s' tenant := by
  refine ⟨?_, h.published⟩
  have hresult := h.result
  cases ha : a.result with
  | job schema =>
    rw [ha] at hresult
    refine ⟨he.tenantOf hresult.1, fun d hd => ?_⟩
    obtain ⟨row, hrow, hjob⟩ := hresult.2 d hd
    obtain ⟨row', hrow', hsame⟩ := he.docs d.id row hrow
    exact ⟨row', hrow', hsame.jobId.trans hjob⟩
  | jobs summaries =>
    rw [ha] at hresult
    exact fun j hj => he.tenantOf (hresult j hj)
  | error e => trivial

theorem jobResult_belongs {db : Db} {sup : Supply} {job tenant : Uuid} {result : ServiceResult}
    (ht : db.store.tenantOf job = some tenant) (h : jobResult db sup job = some result) :
    result.BelongsTo db.store tenant := by
  obtain ⟨row, hrow, hmap⟩ := Option.bind_eq_some_iff.mp h
  obtain ⟨schema, hschema, rfl⟩ := Option.map_eq_some_iff.mp hmap
  obtain ⟨docs, hdocs, rfl⟩ := Option.map_eq_some_iff.mp hschema
  refine ⟨ht, fun d hd => ?_⟩
  obtain ⟨r, hr, rfl⟩ := List.mem_map.mp hd
  exact ⟨r.2, Store.listForJob_mem hdocs r hr⟩

theorem sessionResult_ofTenant {db : Db} {sup : Supply} {session : Session} {tenant : Uuid}
    {result : ServiceResult} (hown : session.OwnedBy db.store tenant)
    (h : sessionResult db sup session = some result) :
    sessionResult (db.ofTenant tenant) sup session = some result ∧
      result.BelongsTo db.store tenant := by
  cases session with
  | returned job status => exact ⟨jobResult_ofTenant hown h, jobResult_belongs hown h⟩
  | raised e =>
    obtain rfl := Option.some.inj h
    exact ⟨rfl, trivial⟩
  | _ => cases h

section Calls

variable [PyText] {tenant : Uuid} {sup : Supply} {db db' : Db} {answer : Answer}

theorem runRequest_ofTenant {act : ApiAct} (hdocs : db.store.DocsHaveJobs) (hact : act.By tenant)
    (h : runRequest sup db act = some (answer, db')) :
    runRequest sup (db.ofTenant tenant) act = some (answer, db'.ofTenant tenant) ∧
      Db.WrittenBy tenant db db' ∧ answer.BelongsTo db'.store tenant := by
  obtain ⟨r₁, hstep, hrest⟩ := Option.bind_eq_some_iff.mp h
  obtain ⟨r₂, hdrive, hend⟩ := Option.bind_eq_some_iff.mp hrest
  obtain ⟨result, hresult, heq⟩ := Option.map_eq_some_iff.mp hend
  obtain ⟨rfl, rfl⟩ := Prod.mk.inj heq
  have hidle : Request.OwnedBy { db := db, session := .idle } tenant := ⟨hdocs, trivial, by simp⟩
  obtain ⟨hview₁, hown₁, hw₁⟩ := serviceStep_ofTenant hidle hact hstep
  obtain ⟨hview₂, hown₂, hw₂⟩ := drive_ofTenant hown₁ hdrive
  obtain ⟨hview₃, hbelongs⟩ := sessionResult_ofTenant hown₂.session hresult
  refine ⟨?_, hw₁.trans hw₂, hbelongs, hown₂.published⟩
  refine Option.bind_eq_some_iff.mpr ⟨_, hview₁, Option.bind_eq_some_iff.mpr ⟨_, hview₂, ?_⟩⟩
  exact Option.map_eq_some_iff.mpr ⟨result, hview₃, rfl⟩

omit [PyText] in
theorem beginAct_by {call : ServiceCall} {act : ApiAct} (h : call.beginAct tenant = some act) :
    act.By tenant := by
  cases call <;> cases h <;> rfl

/-- A call of the tenant: the same call on the tenant's rows. -/
theorem serviceCall_ofTenant {call : ServiceCall} (hdocs : db.store.DocsHaveJobs)
    (h : serviceCall tenant sup db call = some (answer, db')) :
    serviceCall tenant sup (db.ofTenant tenant) call = some (answer, db'.ofTenant tenant) ∧
      Db.WrittenBy tenant db db' ∧ answer.BelongsTo db'.store tenant := by
  have hrequest : ∀ {act}, call.beginAct tenant = some act →
      runRequest sup db act = some (answer, db') →
      runRequest sup (db.ofTenant tenant) act = some (answer, db'.ofTenant tenant) ∧
        Db.WrittenBy tenant db db' ∧ answer.BelongsTo db'.store tenant :=
    fun hact hrun => runRequest_ofTenant hdocs (beginAct_by hact) hrun
  cases call with
  | getJob job =>
    have hget : (db.ofTenant tenant).store.getJob job tenant = db.store.getJob job tenant :=
      Store.ofTenant_getJob
    simp only [serviceCall, hget] at h ⊢
    cases hj : db.store.getJob job tenant with
    | none =>
      rw [hj] at h
      obtain ⟨rfl, rfl⟩ := Prod.mk.inj (Option.some.inj h)
      exact ⟨rfl, .refl _ _, trivial, by simp⟩
    | some row =>
      rw [hj] at h
      obtain ⟨result, hresult, heq⟩ := Option.map_eq_some_iff.mp h
      obtain ⟨rfl, rfl⟩ := Prod.mk.inj heq
      have ht := Store.tenantOf_of_getJob hj
      refine ⟨?_, .refl _ _, jobResult_belongs ht hresult, by simp⟩
      exact Option.map_eq_some_iff.mpr ⟨result, jobResult_ofTenant ht hresult, rfl⟩
  | listOrderJobs orderId =>
    obtain ⟨rows, hrows, heq⟩ := Option.map_eq_some_iff.mp h
    obtain ⟨rfl, rfl⟩ := Prod.mk.inj heq
    refine ⟨?_, .refl _ _, ?_, by simp⟩
    · exact Option.map_eq_some_iff.mpr ⟨rows, Store.ofTenant_listForOrder hrows, rfl⟩
    · intro j hj
      obtain ⟨r, hr, rfl⟩ := List.mem_map.mp hj
      obtain ⟨hrow, ht⟩ := Store.listForOrder_mem hrows r hr
      exact Store.tenantOf_eq_some.mpr ⟨r.2, hrow, ht⟩
  | createJob | retryJob | cancelJob | markReviewed | archiveJob => exact hrequest rfl h

theorem serviceCalls_ofTenant {calls : List (ServiceCall × Supply)} {answers : List Answer}
    (hdocs : db.store.DocsHaveJobs) (h : serviceCalls tenant calls db = some (answers, db')) :
    serviceCalls tenant calls (db.ofTenant tenant) = some (answers, db'.ofTenant tenant) ∧
      Db.WrittenBy tenant db db' ∧ ∀ a ∈ answers, a.BelongsTo db'.store tenant := by
  induction calls generalizing db answers with
  | nil =>
    obtain ⟨rfl, rfl⟩ := Prod.mk.inj (Option.some.inj h)
    exact ⟨rfl, .refl _ _, by simp⟩
  | cons call calls ih =>
    obtain ⟨⟨answer, db₁⟩, hcall, hrest⟩ := Option.bind_eq_some_iff.mp h
    obtain ⟨⟨answers', db₂⟩, hcalls, heq⟩ := Option.map_eq_some_iff.mp hrest
    obtain ⟨rfl, rfl⟩ := Prod.mk.inj heq
    obtain ⟨hview, hw, hbelongs⟩ := serviceCall_ofTenant hdocs hcall
    obtain ⟨hviews, hw', hbelongs'⟩ := ih (hw.docsHaveJobs hdocs) hcalls
    refine ⟨?_, hw.trans hw', ?_⟩
    · refine Option.bind_eq_some_iff.mpr ⟨_, hview, ?_⟩
      exact Option.map_eq_some_iff.mpr ⟨_, hviews, rfl⟩
    · intro a ha
      obtain rfl | ha := List.mem_cons.mp ha
      · exact hbelongs.extends hw'.rows
      · exact hbelongs' a ha

/-- Whatever a tenant calls, the other tenants' rows stay as they are and none of them shows
in an answer; two databases with the same rows of the tenant give it the same answers. -/
theorem tenants_isolated (tenant : Uuid) (calls : List (ServiceCall × Supply)) :
    (∀ db answers db', db.store.DocsHaveJobs →
      serviceCalls tenant calls db = some (answers, db') →
      (∀ other, other ≠ tenant → db'.ofTenant other = db.ofTenant other) ∧
        ∀ a ∈ answers, a.BelongsTo db'.store tenant) ∧
    ∀ db₁ db₂ answers₁ answers₂ db₁' db₂',
      db₁.store.DocsHaveJobs → db₂.store.DocsHaveJobs →
      db₁.ofTenant tenant = db₂.ofTenant tenant →
      serviceCalls tenant calls db₁ = some (answers₁, db₁') →
      serviceCalls tenant calls db₂ = some (answers₂, db₂') →
      answers₁ = answers₂ ∧ db₁'.ofTenant tenant = db₂'.ofTenant tenant := by
  constructor
  · intro db answers db' hdocs h
    obtain ⟨-, hw, hbelongs⟩ := serviceCalls_ofTenant hdocs h
    exact ⟨hw.others, hbelongs⟩
  · intro db₁ db₂ answers₁ answers₂ db₁' db₂' hdocs₁ hdocs₂ hagree h₁ h₂
    obtain ⟨hview₁, -⟩ := serviceCalls_ofTenant hdocs₁ h₁
    obtain ⟨hview₂, -⟩ := serviceCalls_ofTenant hdocs₂ h₂
    rw [hagree] at hview₁
    exact Prod.mk.inj (Option.some.inj (hview₁.symm.trans hview₂))

end Calls

section Concrete

open scoped PyText.Ascii

/-- A job of tenant 1, with the key that tenant 2 is about to use. -/
def ownJob : Job :=
  { tenantId := 1
    orderId := 10
    createdBy := some 8
    idempotencyKey := 77
    requestedDocTypes := [.deedSubjectParcel]
    status := .running
    createdAt := 50 }

def ownDoc : Doc := { jobId := 1, orderId := 10, docType := .deedSubjectParcel, createdAt := 50 }

def sharedOrders (id : Uuid) : Option OrderRow :=
  if id = 10 then some { tenantId := 1, addressLine1 := "1 First St" }
  else if id = 20 then some { tenantId := 2, addressLine1 := "2 Second St" }
  else none

/-- Both tenants have an order, and tenant 1 has a job. -/
def sharedDb : Db where
  store := { jobs := ⟨[(1, ownJob)], by decide⟩, docs := ⟨[(11, ownDoc)], by decide⟩ }
  orders := sharedOrders
  files := fun _ => none

/-- Tenant 2 has the database for itself. -/
def soleDb : Db where
  store := { jobs := .empty, docs := .empty }
  orders := fun id => (sharedOrders id).filter fun o => o.tenantId = 2
  files := fun _ => none

/-- Tenant 2 reuses the key of tenant 1, and asks for and cancels the job of tenant 1. -/
def secondTenantCalls : List (ServiceCall × Supply) :=
  [(.createJob 9 20 ["deed"] (some 77) none,
      { now := 100, job := 2, key := 0, docs := [21], order := [21] }),
    (.getJob 1, { now := 101, job := 0, key := 0, docs := [], order := [] }),
    (.cancelJob 1 none, { now := 102, job := 0, key := 0, docs := [], order := [] }),
    (.cancelJob 2 none, { now := 103, job := 0, key := 0, docs := [], order := [21] }),
    (.listOrderJobs 10, { now := 104, job := 0, key := 0, docs := [], order := [] })]

def answersIn (db : Db) : List Answer :=
  ((serviceCalls 2 secondTenantCalls db).map Prod.fst).getD []

theorem calls_answersIn (db : Db) (h : (serviceCalls 2 secondTenantCalls db).isSome = true) :
    ∃ db', serviceCalls 2 secondTenantCalls db = some (answersIn db, db') := by
  obtain ⟨⟨answers, db'⟩, hcalls⟩ := Option.isSome_iff_exists.mp h
  refine ⟨db', ?_⟩
  simp only [answersIn, hcalls, Option.map_some, Option.getD_some]

theorem sharedDb_agrees : sharedDb.ofTenant 2 = soleDb.ofTenant 2 := by
  have hstore : sharedDb.store.ofTenant 2 = soleDb.store.ofTenant 2 := rfl
  have horders : (fun id => (sharedDb.orders id).filter fun o => o.tenantId = 2) =
      fun id => (soleDb.orders id).filter fun o => o.tenantId = 2 := by
    funext id
    simp [sharedDb, soleDb, Option.filter_filter]
  have hfiles : (fun file => if sharedDb.store.refers 2 file then sharedDb.files file else none) =
      fun file => if soleDb.store.refers 2 file then soleDb.files file else none := by
    funext file
    split <;> split <;> rfl
  simp only [Db.ofTenant, hstore, horders, hfiles]

/-- The calls of `secondTenantCalls` are answered alike with and without the job of
tenant 1, which stays as it was. -/
theorem shared_key_answers : ∃ db db',
    serviceCalls 2 secondTenantCalls sharedDb = some (answersIn sharedDb, db) ∧
      serviceCalls 2 secondTenantCalls soleDb = some (answersIn soleDb, db') ∧
      (∀ other, other ≠ 2 → db.ofTenant other = sharedDb.ofTenant other) ∧
      answersIn sharedDb = answersIn soleDb ∧ db.ofTenant 2 = db'.ofTenant 2 := by
  obtain ⟨db, hshared⟩ := calls_answersIn sharedDb (by decide +kernel)
  obtain ⟨db', hsole⟩ := calls_answersIn soleDb (by decide +kernel)
  have hdocs : sharedDb.store.DocsHaveJobs := by
    intro d row h
    obtain ⟨-, rfl⟩ : d = 11 ∧ ownDoc = row := by
      simpa [sharedDb, Table.get, eq_comm] using h
    decide
  have hnone : soleDb.store.DocsHaveJobs := fun d row h => by cases h
  have hisolated := tenants_isolated 2 secondTenantCalls
  obtain ⟨hothers, -⟩ := hisolated.1 sharedDb _ db hdocs hshared
  exact ⟨db, db', hshared, hsole, hothers,
    hisolated.2 sharedDb soleDb _ _ db db' hdocs hnone sharedDb_agrees hshared hsole⟩

end Concrete

end ResearchEngine
