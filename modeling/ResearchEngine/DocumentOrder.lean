import ResearchEngine.IdempotentCreate
import ResearchEngine.JobSchema

/-! The order in which the documents of a job are read back: they are inserted in one
transaction, so all of them have one `created_at`, and that is the only sort key. -/
namespace ResearchEngine

/-- A list with distinct images shows them in the same order however it is permuted exactly
when it has at most one element. -/
theorem forall_perm_map_eq_iff {α β : Type} {f : α → β} {l : List α} (h : (l.map f).Nodup) :
    (∀ l' : List α, l'.Perm l → l'.map f = l.map f) ↔ l.length ≤ 1 := by
  constructor
  · intro hall
    match l, h with
    | [], _ => exact Nat.zero_le 1
    | [a], _ => exact le_refl 1
    | a :: b :: l, h =>
      obtain ⟨hab, -⟩ := List.cons.inj (hall (b :: a :: l) (List.Perm.swap a b l))
      rw [List.map_cons, List.nodup_cons, ← hab] at h
      exact absurd List.mem_cons_self h.1
  · intro hlen l' hperm
    match l, hlen with
    | [], _ => rw [hperm.eq_nil]
    | [a], _ => rw [List.perm_singleton.mp hperm]

namespace Store

/-- Every job has its full set of documents, one for each requested type. -/
structure Complete (s : Store) : Prop where
  docs : s.DocsHaveJobs
  types : ∀ job j, s.jobs.get job = some j → s.docTypesOf job = j.requestedDocTypes

/-- What the insert transaction leaves of every job: its full set of documents, of distinct types
and with the time stamp of the job. -/
structure InsertedTogether (s : Store) : Prop extends s.Complete where
  distinct : ∀ job j, s.jobs.get job = some j → j.requestedDocTypes.Nodup
  stamps : ∀ job j d row, s.jobs.get job = some j → s.docs.get d = some row → row.jobId = job →
    row.createdAt = j.createdAt

variable {s s' : Store}

theorem docTypesOf_eq (s : Store) (job : Uuid) :
    s.docTypesOf job = (s.docKeys job).filterMap fun d => (s.docs.get d).map Doc.docType := by
  unfold docTypesOf docKeys
  rw [List.filterMap_map, ← List.filterMap_eq_map]
  refine List.filterMap_congr fun r hr => ?_
  have hget := ((Table.mem_select_iff _ _ _ _).mp hr).1
  simp [hget]

theorem Extends.docTypesOf (he : s.Extends s') {id : Uuid} (hid : id ∈ s.jobs.keys) :
    s'.docTypesOf id = s.docTypesOf id := by
  rw [docTypesOf_eq, docTypesOf_eq, he.listing id hid]
  refine List.filterMap_congr fun d hd => ?_
  obtain ⟨r, hr, rfl⟩ := List.mem_map.mp hd
  have hrow := ((Table.mem_select_iff _ _ _ _).mp hr).1
  obtain ⟨row', hrow', hsame⟩ := he.docs r.1 r.2 hrow
  rw [hrow, hrow', Option.map_some, Option.map_some, hsame.docType]

theorem Extends.old_job (he : s.Extends s') (hjobs : s'.jobs.keys = s.jobs.keys) {job : Uuid} {j' : Job}
    (hj' : s'.jobs.get job = some j') : ∃ j, s.jobs.get job = some j ∧ Job.SameIdentity j j' := by
  have hmem : job ∈ s.jobs.keys := hjobs ▸ (Table.mem_keys_iff _ _).mpr ⟨j', hj'⟩
  obtain ⟨j, hj⟩ := (Table.mem_keys_iff _ _).mp hmem
  exact ⟨j, hj, he.sameJob hj hj'⟩

theorem Extends.old_doc (he : s.Extends s') (hdocs : s'.docs.keys = s.docs.keys) {d : Uuid} {row' : Doc}
    (hrow' : s'.docs.get d = some row') :
    ∃ row, s.docs.get d = some row ∧ Doc.SameIdentity row row' := by
  have hmem : d ∈ s.docs.keys := hdocs ▸ (Table.mem_keys_iff _ _).mpr ⟨row', hrow'⟩
  obtain ⟨row, hrow⟩ := (Table.mem_keys_iff _ _).mp hmem
  exact ⟨row, hrow, he.sameDoc hrow hrow'⟩

/-- An update in place keeps the document sets. -/
theorem Complete.extends (hs : s.Complete) (he : s.Extends s')
    (hjobs : s'.jobs.keys = s.jobs.keys) (hdocs : s'.docs.keys = s.docs.keys) : s'.Complete := by
  refine ⟨fun d row' hrow' => ?_, fun job j' hj' => ?_⟩
  · obtain ⟨row, hrow, hsame⟩ := he.old_doc hdocs hrow'
    rw [hjobs, hsame.jobId]
    exact hs.docs d row hrow
  · obtain ⟨j, hj, hsame⟩ := he.old_job hjobs hj'
    rw [he.docTypesOf ((Table.mem_keys_iff _ _).mpr ⟨j, hj⟩), hsame.requestedDocTypes]
    exact hs.types job j hj

/-- An update in place keeps what the insert transactions left. -/
theorem InsertedTogether.extends (hs : s.InsertedTogether) (he : s.Extends s')
    (hjobs : s'.jobs.keys = s.jobs.keys) (hdocs : s'.docs.keys = s.docs.keys) :
    s'.InsertedTogether := by
  refine ⟨hs.toComplete.extends he hjobs hdocs, fun job j' hj' => ?_,
    fun job j' d row' hj' hrow' hown => ?_⟩
  · obtain ⟨j, hj, hsame⟩ := he.old_job hjobs hj'
    rw [hsame.requestedDocTypes]
    exact hs.distinct job j hj
  · obtain ⟨j, hj, hsame⟩ := he.old_job hjobs hj'
    obtain ⟨row, hrow, hsame'⟩ := he.old_doc hdocs hrow'
    rw [hsame.createdAt, hsame'.createdAt]
    exact hs.stamps job j d row hj hrow (hsame'.jobId.symm.trans hown)

end Store

section Insert

variable {now : Time} {s : Store} {req : CreateRequest} {orderId job freshKey : Uuid}
  {docTypes : List DocType} {docs : List Uuid} {e : ApiEffect}

/-- Every row of the new document table is an old one or one of the new job. -/
theorem insertDocs_get {ds : List (Uuid × DocType)} {table : Table Uuid Doc} {d : Uuid} {row : Doc}
    (h : insertDocs now job orderId ds s.docs = some table) (hrow : table.get d = some row) :
    s.docs.get d = some row ∨ row.jobId = job ∧ row.createdAt = now := by
  rw [← Table.mem_rows_iff, insertDocs_rows h, List.mem_append] at hrow
  obtain hold | hnew := hrow
  · exact Or.inl ((Table.mem_rows_iff _ _ _).mp hold)
  · obtain ⟨q, -, hq⟩ := List.mem_map.mp hnew
    obtain ⟨-, rfl⟩ := Prod.mk.inj hq
    exact Or.inr ⟨rfl, rfl⟩

/-- A row of the new job table is the new row, or it was there before. -/
theorem get_insert_cases {row : Job} (fresh : job ∉ s.jobs.keys) {id : Uuid} {j : Job}
    (hj : (s.jobs.insert job row fresh).get id = some j) :
    id = job ∧ j = row ∨ id ≠ job ∧ s.jobs.get id = some j := by
  rw [Table.get_insert] at hj
  by_cases hid : id = job
  · rw [if_pos hid] at hj
    exact Or.inl ⟨hid, (Option.some.inj hj).symm⟩
  · rw [if_neg hid] at hj
    exact Or.inr ⟨hid, hj⟩

theorem insertJob_complete [PyText] (hs : s.Complete)
    (h : insertJob now s req orderId docTypes job freshKey docs = some e) : e.store.Complete := by
  have hdocs : e.store.DocsHaveJobs := apiStep_docsHaveJobs hs.docs
    (show apiStep now s (.inserting req orderId docTypes) (.insert job freshKey docs) = some e from h)
  obtain ⟨-, rfl⟩ | ⟨-, hlen, fresh, table, htable, rfl⟩ := insertJob_split h
  · exact hs
  have hext := insert_extends fresh
    (newJob now req orderId (req.idempotencyKey.getD freshKey) docTypes) htable
  refine ⟨hdocs, fun id j hj => ?_⟩
  obtain ⟨rfl, rfl⟩ | ⟨-, hj⟩ := get_insert_cases fresh hj
  · exact docTypesOf_insert_self hs.docs fresh hlen htable _
  · rw [hext.docTypesOf ((Table.mem_keys_iff _ _).mpr ⟨j, hj⟩)]
    exact hs.types id j hj

theorem insertJob_together [PyText] (hs : s.InsertedTogether)
    (h : insertJob now s req orderId docTypes job freshKey docs = some e) :
    e.store.InsertedTogether := by
  have hcomplete := insertJob_complete hs.toComplete h
  obtain ⟨-, rfl⟩ | ⟨hfree, -, fresh, table, htable, rfl⟩ := insertJob_split h
  · exact hs
  -- no document was there before its job
  have hold : ∀ d row, s.docs.get d = some row → row.jobId ≠ job := by
    rintro d row hrow rfl
    exact fresh (hs.docs d row hrow)
  refine ⟨hcomplete, fun id j hj => ?_, fun id j d row hj hrow hown => ?_⟩
  · obtain ⟨-, rfl⟩ | ⟨-, hj⟩ := get_insert_cases fresh hj
    · exact (violatesUnique_false hfree).2
    · exact hs.distinct id j hj
  · obtain ⟨rfl, rfl⟩ | ⟨hid, hj⟩ := get_insert_cases fresh hj
    · obtain hrow | ⟨-, hnow⟩ := insertDocs_get htable hrow
      · exact absurd hown (hold d row hrow)
      · exact hnow
    · obtain hrow | ⟨hjob, -⟩ := insertDocs_get htable hrow
      · exact hs.stamps id j d row hj hrow hown
      · exact absurd (hown.symm.trans hjob) hid

variable [PyText] {session : Session} {act : ApiAct}

/-- Only the insert adds document rows. -/
theorem apiCase_docs_keys (h : ApiCase now s session act e)
    (hact : ∀ job key docs, act ≠ .insert job key docs) : e.store.docs = s.docs := by
  cases h with
  | insert => exact (hact _ _ _ rfl).elim
  | _ => rfl

theorem apiStep_together (hs : s.InsertedTogether) (h : apiStep now s session act = some e) :
    e.store.InsertedTogether := by
  have hcase := apiStep_cases h
  by_cases hact : ∀ job key docs, act ≠ .insert job key docs
  · exact hs.extends (apiCase_extends hcase) (apiCase_keys hcase hact)
      (congrArg Table.keys (apiCase_docs_keys hcase hact))
  · simp only [not_forall, not_not] at hact
    obtain ⟨job, freshKey, docs, rfl⟩ := hact
    cases session with
    | inserting req orderId docTypes => exact insertJob_together hs h
    | _ => cases h

end Insert

namespace JobMachine

open TransitionRuns ReaperSweep

section Runs

variable [PyText] {I W : Type} {F : Fetcher I W} {cfg : Settings} {σ τ : State W} {a : Action I}

theorem StepCase.docs_keys (h : StepCase F cfg σ a τ) (ha : ∀ n act, a ≠ .api n act) :
    τ.store.docs.keys = σ.store.docs.keys := by
  cases h with
  | worker hw =>
    obtain ⟨f, hdocs, -⟩ := workerStep_docs hw
    exact (congrArg Table.keys hdocs).trans (Table.adjust_keys _ _)
  | api => exact (ha _ _ rfl).elim
  | _ => rfl

theorem step_together (hs : σ.store.InsertedTogether) (h : step F cfg σ a = some τ) :
    τ.store.InsertedTogether := by
  have hcase := step_cases F cfg h
  by_cases ha : ∀ n act, a ≠ .api n act
  · exact hs.extends hcase.extends (hcase.keys ha) (hcase.docs_keys ha)
  · simp only [not_forall, not_not] at ha
    obtain ⟨n, act, rfl⟩ := ha
    obtain ⟨e, he, rfl⟩ := Option.map_eq_some_iff.mp h
    exact apiStep_together hs he

theorem Reachable.together (h : Reachable F cfg σ) : σ.store.InsertedTogether := by
  obtain ⟨outside, now, as, has⟩ := h
  refine has.invariant (I := fun σ => σ.store.InsertedTogether)
    (fun s a t hs _ hst => step_together hs hst) ?_
  exact ⟨⟨fun d row h => (by cases h), fun job j h => (by cases h)⟩, fun job j h => (by cases h),
    fun job j d row h => (by cases h)⟩

end Runs

end JobMachine

/-! Reading the documents back. -/

section Reads

variable {s : Store} {job : Uuid} {j : Job}

/-- Every read of the job has its documents in the order of the request, whatever order the
database picks among equal time stamps. -/
structure InRequestOrder (s : Store) (job : Uuid) (j : Job) : Prop where
  listed : ∀ order rows, s.listForJob job order = some rows →
    rows.map (fun d => d.2.docType) = j.requestedDocTypes
  shown : ∀ files updatedAt order schema, toJobSchema s files updatedAt job j order = some schema →
    schema.documents.map DocumentSchema.docType = schema.requestedDocTypes

/-- Rows of the table are what their keys lead to. -/
theorem filterMap_get {l : List (Uuid × Doc)} (hl : ∀ r ∈ l, s.docs.get r.1 = some r.2) :
    (l.map Prod.fst).filterMap (fun d => (s.docs.get d).map (d, ·)) = l := by
  rw [List.filterMap_map]
  refine (List.filterMap_congr fun r hr => ?_).trans List.filterMap_some
  simp [hl r hr]

/-- What comes back is the job's documents in some order. -/
theorem listForJob_perm {order : List Uuid} {rows : List (Uuid × Doc)}
    (h : s.listForJob job order = some rows) : rows.Perm (s.docsForJob job) := by
  obtain ⟨hkeys, hperm, hget⟩ := Store.listForJob_eq_some h
  have hback := filterMap_get (l := s.docsForJob job) fun r hr =>
    ((Table.mem_select_iff _ _ _ _).mp hr).1
  rw [← filterMap_get hget, ← hback, hkeys]
  exact hperm.filterMap _

/-- Any order of the job's documents may come back. -/
theorem listForJob_of_perm (hs : s.InsertedTogether) (hj : s.jobs.get job = some j)
    {rows : List (Uuid × Doc)} (hperm : rows.Perm (s.docsForJob job)) :
    s.listForJob job (rows.map Prod.fst) = some rows := by
  have hget : ∀ r ∈ rows, s.docs.get r.1 = some r.2 ∧ r.2.createdAt = j.createdAt := by
    intro r hr
    obtain ⟨hrow, hp⟩ := (Table.mem_select_iff _ _ _ _).mp (hperm.mem_iff.mp hr)
    exact ⟨hrow, hs.stamps job j r.1 r.2 hj hrow (of_decide_eq_true hp).1⟩
  unfold Store.listForJob
  simp only [filterMap_get fun r hr => (hget r hr).1]
  refine if_pos ⟨hperm.map Prod.fst, List.pairwise_of_forall_mem_list fun a ha b hb => ?_⟩
  rw [(hget a ha).2, (hget b hb).2]

theorem toJobSchema_docTypes {files : Uuid → Option FileRow} {updatedAt : Time} {order : List Uuid}
    {schema : JobSchema} (h : toJobSchema s files updatedAt job j order = some schema) :
    ∃ rows, s.listForJob job order = some rows ∧
      schema.documents.map DocumentSchema.docType = rows.map (fun d => d.2.docType) ∧
      schema.requestedDocTypes = j.requestedDocTypes := by
  obtain ⟨rows, hrows, rfl⟩ := Option.map_eq_some_iff.mp h
  refine ⟨rows, hrows, ?_, rfl⟩
  rw [List.map_map]
  rfl

/-- In every reachable state a job is read in the order of its request exactly when it has at
most one document. -/
theorem request_order_iff [PyText] {I W : Type} (F : Fetcher I W) (cfg : Settings)
    (σ : JobMachine.State W) (hσ : JobMachine.Reachable F cfg σ) (job : Uuid) (j : Job)
    (hj : σ.store.jobs.get job = some j) :
    InRequestOrder σ.store job j ↔ j.requestedDocTypes.length ≤ 1 := by
  have hs := hσ.together
  have htypes : (σ.store.docsForJob job).map (fun d => d.2.docType) = j.requestedDocTypes :=
    hs.types job j hj
  have hnodup : ((σ.store.docsForJob job).map fun d => d.2.docType).Nodup := by
    rw [htypes]
    exact hs.distinct job j hj
  have hread : (∀ order rows, σ.store.listForJob job order = some rows →
      rows.map (fun d => d.2.docType) = j.requestedDocTypes) ↔
        j.requestedDocTypes.length ≤ 1 := by
    rw [← htypes, List.length_map, ← forall_perm_map_eq_iff hnodup]
    constructor
    · intro h rows hperm
      exact h _ rows (listForJob_of_perm hs hj hperm)
    · intro h order rows hrows
      exact h rows (listForJob_perm hrows)
  constructor
  · exact fun h => hread.mp h.listed
  · intro hlen
    refine ⟨hread.mpr hlen, fun files updatedAt order schema hschema => ?_⟩
    obtain ⟨rows, hrows, hdocs, hreq⟩ := toJobSchema_docTypes hschema
    rw [hdocs, hreq]
    exact hread.mpr hlen order rows hrows

end Reads

namespace JobMachine

open TransitionRuns

section Concrete

open scoped PyText.Ascii

/-- Job 7 for one document type. -/
def singleState : State Unit :=
  outcome (step linkFetcher {}) (State.start () 0)
    [.api 0 (.create { sampleRequest with docTypes := ["deed"] }), .api 0 (.check (some sampleOrder)),
      .api 0 (.insert 7 8 [10])]

theorem single_document_in_order :
    ∃ j, singleState.store.jobs.get 7 = some j ∧ InRequestOrder singleState.store 7 j := by
  have hreach : Reachable linkFetcher {} singleState :=
    ⟨(), 0, _, .of_exec (exec_outcome (by decide +kernel))⟩
  obtain ⟨j, hj, hlen⟩ := Option.map_eq_some_iff.mp
    (show (singleState.store.jobs.get 7).map (fun j => j.requestedDocTypes.length) = some 1 by
      decide +kernel)
  exact ⟨j, hj, (request_order_iff linkFetcher {} singleState hreach 7 j hj).mpr hlen.le⟩

/-- Job 7 for every document type. -/
def submittedState : State Unit := outcome (step linkFetcher {}) (State.start () 0) submit

/-- The job may be read backwards. -/
theorem documents_read_backwards :
    ((submittedState.store.listForJob 7 sampleDocs.reverse).map fun rows =>
        rows.map fun d => d.2.docType) = some DocType.all.reverse ∧
      ¬ ∀ (σ : State Unit), Reachable linkFetcher {} σ → ∀ (job : Uuid) (j : Job),
        σ.store.jobs.get job = some j → InRequestOrder σ.store job j := by
  have hback : ((submittedState.store.listForJob 7 sampleDocs.reverse).map fun rows =>
      rows.map fun d => d.2.docType) = some DocType.all.reverse := by decide +kernel
  refine ⟨hback, fun hall => ?_⟩
  have hreach : Reachable linkFetcher {} submittedState :=
    ⟨(), 0, _, .of_exec (exec_outcome (by decide +kernel))⟩
  obtain ⟨j, hj, hreq⟩ := Option.map_eq_some_iff.mp
    (show (submittedState.store.jobs.get 7).map Job.requestedDocTypes = some DocType.all by
      decide +kernel)
  obtain ⟨rows, hrows, htypes⟩ := Option.map_eq_some_iff.mp hback
  have hsame := (hall submittedState hreach 7 j hj).listed _ rows hrows
  rw [htypes, hreq] at hsame
  exact absurd hsame (by decide)

end Concrete

end JobMachine
end ResearchEngine
