import ResearchEngine.OneContext
import ResearchEngine.SettledDocuments
import ResearchEngine.StagedFiles

/-! The evidence of the uploaded documents, over every run of the machine with the
shipped adapters. -/
namespace ResearchEngine

open EvidenceUpload

/-- The documents of a job carry the order of their job. -/
def Store.OrdersMatch (s : Store) : Prop :=
  ∀ d row, s.docs.get d = some row → ∃ j, s.jobs.get row.jobId = some j ∧ j.orderId = row.orderId

/-- The document's file and order file are those of its order, and the blob is there. -/
def Doc.Evidenced (ev : Evidence) (row : Doc) : Prop :=
  Backs ev row.orderId row.fileId row.orderFileId

/-- What a fetched document does for the evidence of the row it is written to: its own
ids are backed, or it has no key and the row keeps ids that are. -/
def FetchedDocument.Supports (ev : Evidence) (row : Doc) (f : FetchedDocument) : Prop :=
  f.status = .uploaded → if truthy f.fileKey = true then Backs ev row.orderId f.fileId f.orderFileId
    else row.Evidenced ev

namespace Store

variable {s s' : Store}

/-- An extension that adds no document row keeps the orders of the rows. -/
theorem OrdersMatch.extends (h : s.OrdersMatch) (he : s.Extends s')
    (hdocs : ∀ d row', s'.docs.get d = some row' → ∃ row, s.docs.get d = some row) :
    s'.OrdersMatch := by
  intro d row' hrow'
  obtain ⟨row, hrow⟩ := hdocs d row' hrow'
  have hsame := he.sameDoc hrow hrow'
  obtain ⟨j, hj, ho⟩ := h d row hrow
  obtain ⟨j', hj', hjob⟩ := he.jobs _ j hj
  exact ⟨j', hsame.jobId ▸ hj', hjob.orderId.trans (ho.trans hsame.orderId.symm)⟩

theorem ordersMatch_apiCase [PyText] {now : Time} {session : Session} {act : ApiAct} {e : ApiEffect}
    (h : s.OrdersMatch) (ha : ApiCase now s session act e) : e.store.OrdersMatch := by
  have he := apiCase_extends ha
  cases ha with
  | @insert req orderId docTypes job freshKey docs table fresh hlen htable =>
    intro d row hrow
    rw [← Table.mem_rows_iff, insertDocs_rows htable, List.mem_append] at hrow
    obtain hold | hnew := hrow
    · obtain ⟨j, hj, ho⟩ := h d row ((Table.mem_rows_iff _ _ _).mp hold)
      obtain ⟨j', hj', hjob⟩ := he.jobs _ j hj
      exact ⟨j', hj', hjob.orderId.trans ho⟩
    · obtain ⟨q, -, hq⟩ := List.mem_map.mp hnew
      obtain rfl := (Prod.mk.inj hq).2
      exact ⟨newJob now req orderId (req.idempotencyKey.getD freshKey) docTypes,
        by simp [Table.get_insert, newDoc], rfl⟩
  | _ => exact h.extends he fun d row' hrow' => ⟨row', hrow'⟩

end Store

namespace Run

/-- The run's copy of its job, and from the loop on its order, are of the job's order. -/
def OfOrder (s : Store) (r : Run) : Prop :=
  r.engaged = true → ∀ j, s.jobs.get r.task.jobId = some j → r.job.orderId = j.orderId ∧
    (r.phase.early = false → ∀ o, r.order = some o → o.id = j.orderId)

/-- The document that the run is about to commit supports its row. -/
def Settles (s : Store) (ev : Evidence) (r : Run) : Prop :=
  ∀ doc todo f, r.phase = .settling doc todo (.ok f) → ∀ row, s.docs.get doc = some row →
    f.Supports ev row

theorem OfOrder.extends {s s' : Store} {r : Run} (h : r.OfOrder s) (he : s.Extends s')
    (hk : r.engaged = true → r.task.jobId ∈ s.jobs.keys) : r.OfOrder s' := by
  intro hengaged j' hj'
  obtain ⟨j, hj⟩ := (Table.mem_keys_iff _ _).mp (hk hengaged)
  rw [(he.sameJob hj hj').orderId]
  exact h hengaged j hj

end Run

section Rows

variable {ev : Evidence} {row : Doc}

theorem Doc.Evidenced.grows {ev' : Evidence} (h : row.Evidenced ev) (hg : Grows ev ev') :
    row.Evidenced ev' := Backs.grows hg h

theorem FetchedDocument.Supports.grows {ev' : Evidence} {f : FetchedDocument}
    (h : f.Supports ev row) (hg : Grows ev ev') : f.Supports ev' row := by
  intro hst
  have hold := h hst
  split
  · rw [if_pos ‹_›] at hold
    exact hold.grows hg
  · rw [if_neg ‹_›] at hold
    exact hold.grows hg

/-- A write that loses no evidence: what the row had stays, and a row that the write
leaves uploaded has it. -/
structure Doc.Kept (ev : Evidence) (row row' : Doc) : Prop where
  orderId : row'.orderId = row.orderId
  evidenced : row.Evidenced ev → row'.Evidenced ev
  uploaded : row'.status = .uploaded → row.status = .uploaded ∨ row'.Evidenced ev

theorem Doc.Kept.refl (ev : Evidence) (row : Doc) : Doc.Kept ev row row := ⟨rfl, id, .inl⟩

theorem Doc.Kept.trans {row' row'' : Doc} (h : Doc.Kept ev row row') (h' : Doc.Kept ev row' row'') :
    Doc.Kept ev row row'' where
  orderId := h'.orderId.trans h.orderId
  evidenced he := h'.evidenced (h.evidenced he)
  uploaded hst := (h'.uploaded hst).elim
    (fun hst' => (h.uploaded hst').imp_right h'.evidenced) .inr

theorem FetchedDocument.Supports.kept {f : FetchedDocument} {row' : Doc} (h : f.Supports ev row)
    (hk : Doc.Kept ev row row') : f.Supports ev row' := by
  intro hst
  have hold := h hst
  rw [hk.orderId]
  split
  · rwa [if_pos ‹_›] at hold
  · rw [if_neg ‹_›] at hold
    exact hk.evidenced hold

theorem Doc.setStatus_kept {status : DocStatus} (hst : status ≠ .uploaded) :
    Doc.Kept ev row (row.setStatus status) := ⟨rfl, id, fun h => (hst h).elim⟩

theorem Run.skipRow_kept (skipped : List Uuid) (d : Uuid) :
    Doc.Kept ev row (Run.skipRow skipped d row) := by
  unfold Run.skipRow
  split
  · exact Doc.setStatus_kept (by simp)
  · exact .refl ev row

theorem Run.fetchingRow_kept (doc d : Uuid) : Doc.Kept ev row (Run.fetchingRow doc d row) := by
  unfold Run.fetchingRow
  split
  · exact Doc.setStatus_kept (by simp)
  · exact .refl ev row

theorem Doc.applyFetched_kept {f : FetchedDocument} (hf : f.Supports ev row) (retries : ℕ)
    (stamps : Stamps) : Doc.Kept ev row (row.applyFetched f retries stamps) := by
  unfold Doc.applyFetched
  by_cases hkey : f.status = .uploaded ∧ truthy f.fileKey = true
  · have hb := hf hkey.1
    rw [if_pos hkey.2] at hb
    rw [if_pos hkey]
    exact ⟨rfl, fun _ => hb, fun _ => .inr hb⟩
  · rw [if_neg hkey]
    have hold : f.status = .uploaded → row.Evidenced ev := fun hst => by
      have hb := hf hst
      rwa [if_neg fun hk => hkey ⟨hst, hk⟩] at hb
    split
    · exact ⟨rfl, id, fun hst => .inr (hold hst)⟩
    · exact ⟨rfl, id, fun hst => .inr (hold hst)⟩

theorem Doc.applyOutcome_kept {outcome : FetchOutcome} (hf : ∀ f, outcome = .ok f → f.Supports ev row)
    (retries : ℕ) (stamps : Stamps) : Doc.Kept ev row (row.applyOutcome outcome retries stamps) := by
  cases outcome with
  | error message => exact ⟨rfl, id, fun h => by cases h⟩
  | ok f => exact Doc.applyFetched_kept (hf f rfl) retries stamps

/-- A run that settles only what supports its row loses no evidence. -/
theorem Run.docWrite_kept {I : Type} {s : Store} {r : Run} (hr : r.Settles s ev) (now : Time)
    (act : WorkerAct I) {d : Uuid} (hrow : s.docs.get d = some row) :
    Doc.Kept ev row (r.docWrite now act d row) := by
  unfold Run.docWrite
  split
  · exact Run.skipRow_kept _ d
  · exact (Run.skipRow_kept _ d).trans (Run.fetchingRow_kept _ d)
  · rename_i doc todo outcome hp
    unfold Run.settleRow
    split
    · rename_i hd
      refine Doc.applyOutcome_kept (fun f hf => ?_) _ _
      exact hr doc todo f (by rw [hp, hf]) row (hd ▸ hrow)
    · exact .refl ev row
  · exact Run.skipRow_kept _ d
  · exact .refl ev row

end Rows

section RunStep

variable {I W : Type} {F : Fetcher I W} {now : Time} {s : Store} {w : W} {r : Run}
  {act : WorkerAct I} {e : Effect W}

/-- A run's copies stay those of its job's order. -/
theorem workerStep_ofOrder (h : workerStep F now s w r act = some e) (hr : r.OfOrder s) :
    e.run.OfOrder e.store := by
  intro hengaged j' hj'
  obtain ⟨g, hjobs, hg⟩ := workerStep_jobs h
  rw [(workerStep_task h).1, hjobs] at hj'
  obtain ⟨j, hj, rfl⟩ : ∃ j, s.jobs.get r.task.jobId = some j ∧ g j = j' := by
    simpa using hj'
  rw [(hg j).1.orderId]
  have hread : ∀ {row : Job}, s.getJob r.task.jobId r.task.tenantId = some row → j = row :=
    fun hget => Option.some.inj (hj.symm.trans ((s.getJob_eq_some_iff _ _ _).mp hget).1)
  cases workerStep_cases F now s w r h with
  | readGone | drain | rereadGone | notify | abort | lose => cases hengaged
  | @readFound row hp hget =>
    obtain rfl := hread hget
    exact ⟨rfl, fun hearly => by cases hearly⟩
  | listCancelled hp | listLive hp | claim hp =>
    exact ⟨(hr (by simp [Run.engaged, hp]) j hj).1, fun hearly => by cases hearly⟩
  | enter hp hl ho =>
    have hjob := (hr (by simp [Run.engaged, hp]) j hj).1
    exact ⟨hjob, fun _ o ho' => (ho o ho').trans hjob⟩
  | @rereadCancelled doc todo row hp hget | @rereadLive doc todo row hp hget =>
    obtain rfl := hread hget
    exact ⟨rfl, fun _ => (hr (by simp [Run.engaged, hp]) _ hj).2 (by simp [Phase.early, hp])⟩
  | mark hp | call hp | receive hp | settle hp =>
    obtain ⟨hjob, horder⟩ := hr (by simp [Run.engaged, hp]) j hj
    exact ⟨hjob, fun _ => horder (by simp [Phase.early, hp])⟩
  | finish hp =>
    by_cases hcb : truthy r.job.callbackUrl = true <;> simp [Run.engaged, finishJob, hcb] at hengaged

/-- Only a fetch brings a run to a document that it is about to commit. -/
theorem workerStep_settling (h : workerStep F now s w r act = some e) {doc : Uuid}
    {todo : List Uuid} {outcome : FetchOutcome} (hp : e.run.phase = .settling doc todo outcome) :
    ∃ input d, act = .receive input ∧ r.phase = .awaiting doc todo ∧
      Run.copyOf r.docs doc = some d ∧
      e = receiveOutcome F now s w r input doc todo d ∧
      outcome = (F input ⟨r.order, d.docType, r.task.tenantId⟩ w).1 := by
  cases workerStep_cases F now s w r h with
  | @receive input doc' todo' d hp' hd =>
    obtain ⟨rfl, rfl, rfl⟩ := Phase.settling.inj hp
    exact ⟨input, d, rfl, hp', hd, rfl, rfl⟩
  | finish hp' =>
    by_cases hcb : truthy r.job.callbackUrl = true <;> simp [finishJob, hcb] at hp
  | _ => cases hp

end RunStep

namespace JobMachine

open Fetching TransitionRuns

/-- A fetch stages a file if its source calls it ok, or the row that it is for has its
evidence already. -/
def KeepsEvidence [PyText] [PyFloat] (dep : Deployment) (sha256 : Blob → String)
    (σ : State World) : Action (ResearchInput SourceAnswers) → Prop
  | .worker run (.receive input) =>
    ∀ doc todo d order, (σ.runs run).phase = .awaiting doc todo →
      Run.copyOf (σ.runs run).docs doc = some d → (σ.runs run).order = some order →
      StagesFile dep sha256 input order d.docType ∨
        ∀ row, σ.store.docs.get doc = some row → row.Evidenced σ.outside.evidence
  | _ => True

/-- The invariant: the uploaded documents have their evidence, and what the runs are about
to commit supports theirs. -/
structure Evident (σ : State World) : Prop where
  wellFormed : WellFormed σ
  listed : Listed σ
  orders : σ.store.OrdersMatch
  runs : ∀ r, (σ.runs r).OfOrder σ.store
  settling : ∀ r, (σ.runs r).Settles σ.store σ.outside.evidence
  rows : ∀ d row, σ.store.docs.get d = some row → row.status = .uploaded →
    row.Evidenced σ.outside.evidence

theorem evident_start (w : World) (now : Time) : Evident (State.start w now) where
  wellFormed := wellFormed_start w now
  listed := listed_start w now
  orders d row hrow := by cases hrow
  runs r hr := by cases hr
  settling r doc todo f hp := by cases hp
  rows d row hrow := by cases hrow

section Steps

variable [PyText] [PyFloat] {dep : Deployment} {sha256 : Blob → String} {cfg : Settings}
  {σ τ : State World} {a : Action (ResearchInput SourceAnswers)}

theorem StepCase.ordersMatch (hs : StepCase (documentFetcher (shippedEngine dep sha256)) cfg σ a τ)
    (h : σ.store.OrdersMatch) : τ.store.OrdersMatch := by
  have he := hs.extends
  cases hs with
  | @worker run act e hw =>
    refine h.extends he fun d row' hrow' => ?_
    change e.store.docs.get d = some row' at hrow'
    rw [workerStep_docWrite hw, Table.get_adjust] at hrow'
    obtain ⟨row, hrow, -⟩ := Option.map_eq_some_iff.mp hrow'
    exact ⟨row, hrow⟩
  | api ha => exact Store.ordersMatch_apiCase h ha
  | _ => exact h.extends he fun d row' hrow' => ⟨row', hrow'⟩

/-- Rows and blobs are only added. -/
theorem StepCase.evidence_grows
    (hs : StepCase (documentFetcher (shippedEngine dep sha256)) cfg σ a τ) :
    Grows σ.outside.evidence τ.outside.evidence := by
  cases hs with
  | @worker run act e hw =>
    have hcase := workerStep_cases _ _ _ _ _ hw
    by_cases hact : ∃ input, act = .receive input
    · obtain ⟨input, rfl⟩ := hact
      cases hcase with
      | receive hp hd =>
        show Grows _ (documentFetcher (shippedEngine dep sha256) input _ σ.outside).2.evidence
        cases (σ.runs run).order with
        | none => exact .refl _
        | some order => exact (documentFetcher_evidence dep sha256 input order _ _ _).1
    · rw [show (σ.afterWorker run e).outside = e.outside from rfl,
        hcase.outside fun input hi => hact ⟨input, hi⟩]
      exact .refl _
  | _ => exact .refl _

/-- What a fetch returns supports the row that it is for. -/
theorem Evident.receive (h : Evident σ) {run : ℕ} {input : ResearchInput SourceAnswers}
    (hok : KeepsEvidence dep sha256 σ (.worker run (.receive input))) {doc : Uuid}
    {todo : List Uuid} {d : Doc} (hp : (σ.runs run).phase = .awaiting doc todo)
    (hd : Run.copyOf (σ.runs run).docs doc = some d) {row : Doc}
    (hrow : σ.store.docs.get doc = some row) :
    let out := documentFetcher (shippedEngine dep sha256) input
      ⟨(σ.runs run).order, d.docType, (σ.runs run).task.tenantId⟩ σ.outside
    ∀ f, out.1 = .ok f → f.Supports out.2.evidence row := by
  intro out f hf hst
  have hout : out = documentFetcher (shippedEngine dep sha256) input
    ⟨(σ.runs run).order, d.docType, (σ.runs run).task.tenantId⟩ σ.outside := rfl
  clear_value out
  cases horder : (σ.runs run).order with
  | none =>
    rw [horder] at hout
    rw [hout] at hf
    cases hf
  | some order =>
    obtain ⟨hg, hdoc⟩ := documentFetcher_evidence dep sha256 input order d.docType
      (σ.runs run).task.tenantId σ.outside
    rw [horder] at hout
    rw [← hout] at hg hdoc
    have hmem : doc ∈ (σ.runs run).docIds :=
      List.mem_map_of_mem (f := Prod.fst) (Run.mem_of_copyOf hd)
    obtain ⟨row', hrow', hjob, -⟩ := (h.listed run).row (by rw [hp]; rfl) hmem
    obtain rfl := Option.some.inj (hrow.symm.trans hrow')
    obtain ⟨j, hj, ho⟩ := h.orders doc row hrow
    rw [hjob] at hj
    have hid : order.id = row.orderId :=
      ((h.runs run (by simp [Run.engaged, hp]) j hj).2 (by simp [Phase.early, hp]) order horder).trans
        ho
    obtain ⟨hkey, hb⟩ | ⟨hkey, -, hno⟩ := hdoc f hf hst
    · rw [if_pos hkey, ← hid]
      exact hb
    · rw [if_neg (by simp [hkey, truthy])]
      obtain hstages | hrows := hok doc todo d order hp hd horder
      · exact (hno hstages).elim
      · exact (hrows row hrow).grows hg

omit [PyText] [PyFloat] in
/-- No step takes a document its evidence. -/
theorem Evident.docWrite (h : Evident σ) (a : Action (ResearchInput SourceAnswers)) {d : Uuid}
    {row : Doc} (hrow : σ.store.docs.get d = some row) :
    Doc.Kept σ.outside.evidence row (a.docWrite σ d row) := by
  cases a with
  | worker run act => exact Run.docWrite_kept (h.settling run) σ.now act hrow
  | _ => exact .refl _ row

theorem Evident.step (h : Evident σ) (hok : KeepsEvidence dep sha256 σ a)
    (hs : StepCase (documentFetcher (shippedEngine dep sha256)) cfg σ a τ) : Evident τ where
  wellFormed := hs.wellFormed h.wellFormed
  listed := hs.listed h.wellFormed h.listed
  orders := hs.ordersMatch h.orders
  runs := by
    intro r
    obtain he | ⟨task, he⟩ | ⟨act, e, rfl, rfl, hw⟩ := hs.run_cases r
    · rw [he]
      exact (h.runs r).extends hs.extends fun hr => h.wellFormed.run_keys (engaged_ne_idle hr)
    · rw [he]
      intro hr
      cases hr
    · rw [afterWorker_runs_self]
      exact workerStep_ofOrder hw (h.runs r)
  settling := by
    intro r doc todo f hp row' hrow'
    obtain he | ⟨task, he⟩ | ⟨act, e, rfl, rfl, hw⟩ := hs.run_cases r
    · rw [he] at hp
      have hmem : doc ∈ (σ.runs r).docIds :=
        (h.listed r).pending.subset (by simp [hp, Phase.pending])
      obtain ⟨row, hrow, -⟩ := (h.listed r).row (by rw [hp]; rfl) hmem
      obtain rfl := Option.some.inj (hrow'.symm.trans (hs.doc hrow))
      exact ((h.settling r doc todo f hp row hrow).kept (h.docWrite a hrow)).grows hs.evidence_grows
    · rw [he] at hp
      cases hp
    · rw [afterWorker_runs_self] at hp
      obtain ⟨input, d, rfl, hp', hd, rfl, hout⟩ := workerStep_settling hw hp
      exact h.receive hok hp' hd hrow' f hout.symm
  rows := by
    intro d row' hrow' hst
    obtain ⟨row, hrow, rfl⟩ | ⟨job, orderId, docType, -, rfl⟩ := hs.doc_origin hrow'
    · have hk := h.docWrite a hrow
      refine Doc.Evidenced.grows ?_ hs.evidence_grows
      exact (hk.uploaded hst).elim (fun hold => hk.evidenced (h.rows d row hrow hold)) id
    · cases hst

omit [PyText] [PyFloat] in
/-- A document without a key that is called uploaded leaves the ids of its row alone. -/
theorem applyFetched_noKey {f : FetchedDocument} (hst : f.status = .uploaded)
    (hkey : f.fileKey = none) (retries : ℕ) (stamps : Stamps) (row : Doc) :
    (row.applyFetched f retries stamps).status = .uploaded ∧
      ∀ ev, (row.applyFetched f retries stamps).Evidenced ev ↔ row.Evidenced ev := by
  unfold Doc.applyFetched
  rw [if_neg (by simp [hkey, truthy]), if_neg (by simp [hst])]
  exact ⟨hst, fun ev => Iff.rfl⟩

/-- The condition leaves out only fetches that lose evidence: two steps after one of them
the document is uploaded without. -/
theorem unstaged_fetch_settles {run : ℕ} {input : ResearchInput SourceAnswers} {doc : Uuid}
    {todo : List Uuid} {d : Doc} {order : OrderData} {row : Doc}
    (hp : (σ.runs run).phase = .awaiting doc todo)
    (hd : Run.copyOf (σ.runs run).docs doc = some d) (horder : (σ.runs run).order = some order)
    (hno : ¬ StagesFile dep sha256 input order d.docType)
    (hrow : σ.store.docs.get doc = some row) (hev : ¬ row.Evidenced σ.outside.evidence) :
    ∃ τ row', exec (JobMachine.step (documentFetcher (shippedEngine dep sha256)) cfg) σ
        [.worker run (.receive input), .worker run .settle] = some τ ∧
      τ.store.docs.get doc = some row' ∧ row'.status = .uploaded ∧
        ¬ row'.Evidenced τ.outside.evidence := by
  obtain ⟨f, hf, hst, hkey, -, hsame⟩ := documentFetcher_unstaged dep sha256 input order d.docType
    (σ.runs run).task.tenantId σ.outside hno
  rw [← horder] at hf hsame
  have hreceive : JobMachine.step (documentFetcher (shippedEngine dep sha256)) cfg σ
      (.worker run (.receive input)) = some (σ.afterWorker run
        (receiveOutcome (documentFetcher (shippedEngine dep sha256)) σ.now σ.store σ.outside (σ.runs run)
          input doc todo d)) := by
    simp [JobMachine.step, workerStep, hp, hd]
  generalize hυ : σ.afterWorker run _ = υ at hreceive
  have hphase : (υ.runs run).phase = .settling doc todo (.ok f) := by
    rw [← hυ, afterWorker_runs_self, ← hf]
    rfl
  have hsettle : JobMachine.step (documentFetcher (shippedEngine dep sha256)) cfg υ
      (.worker run .settle) = some (υ.afterWorker run
        (settleDoc υ.now υ.store υ.outside (υ.runs run) doc todo (.ok f))) := by
    simp [JobMachine.step, workerStep, hphase]
  have hget : υ.store.docs.get doc = some row := by
    rw [← hυ]
    exact hrow
  obtain ⟨hstatus, hids⟩ := applyFetched_noKey hst hkey (Run.retriesOf (υ.runs run).docs doc) ⟨(υ.runs run).fetchedAt, υ.now⟩ row
  refine ⟨_, _, by rw [exec_cons, hreceive, Option.bind_some, exec_cons, hsettle]; rfl, ?_, hstatus, ?_⟩
  · show ((υ.store.docs).adjust _).get doc = _
    rw [Table.get_adjust, hget]
    simp [Run.settleRow, Doc.applyOutcome]
  · rw [hids]
    show ¬ row.Evidenced υ.outside.evidence
    rw [← hυ]
    exact hsame ▸ hev

/-- In every run in which no source calls a fetch ok without a staged file, every uploaded
document has its file and order file rows, for its order, and its blob. -/
theorem uploaded_evidenced {w : World} {now : Time} {as : List (Action (ResearchInput SourceAnswers))}
    (h : Runs (JobMachine.step (documentFetcher (shippedEngine dep sha256)) cfg)
      (KeepsEvidence dep sha256) (State.start w now) as σ) :
    ∀ d row, σ.store.docs.get d = some row → row.status = .uploaded →
      row.Evidenced σ.outside.evidence := by
  have hσ : Evident σ := h.invariant (fun s a t hs hok hst => hs.step hok (step_cases _ _ hst))
    (evident_start w now)
  exact hσ.rows

end Steps

section Concrete

open scoped PyText.Ascii PyFloat.Whole

/-- Job 7 for one document, up to the call of its fetcher. -/
def calledActs (type : String) : List (Action (ResearchInput SourceAnswers)) :=
  [.api 0 (.create { sampleRequest with docTypes := [type] }), .api 0 (.check (some sampleOrder)),
    .api 0 (.insert 7 8 [10]), .api 0 .refresh, .api 0 (.enqueue true), .deliver 0 0,
    .worker 0 .read, .worker 0 (.list [10]), .worker 0 .claim,
    .worker 0 (.enter [10] (some sampleOrder)), .worker 0 .reread, .worker 0 .mark, .worker 0 .call]

def calledState (type : String) : State World :=
  outcome (JobMachine.step (documentFetcher sampleEngine) {}) (State.start default 0) (calledActs type)

/-- The parcel record is saved, staged and uploaded. -/
def stagedInput : ResearchInput SourceAnswers :=
  { sampleInput "1 MAIN ST" "A-1" with
    sources := { sampleSources with parcelRecord := .ok (some "parcel.pdf") }
    disk := fun _ => some [1, 2]
    backend := fun _ => { probeOk := true, copy := .done, evidence := .ok (20, 21) } }

def receivedState (type : String) (input : ResearchInput SourceAnswers) : State World :=
  outcome (JobMachine.step (documentFetcher sampleEngine) {}) (calledState type)
    [.worker 0 (.receive input)]

def committedState (type : String) (input : ResearchInput SourceAnswers) : State World :=
  outcome (JobMachine.step (documentFetcher sampleEngine) {}) (receivedState type input)
    [.worker 0 .settle]

/-- Every action but the return of a fetch. -/
def noReceive : Action (ResearchInput SourceAnswers) → Bool
  | .worker _ (.receive _) => false
  | _ => true

theorem keepsEvidence_of_noReceive {dep : Deployment} {sha256 : Blob → String} {σ : State World}
    {a : Action (ResearchInput SourceAnswers)} (h : noReceive a = true) :
    KeepsEvidence dep sha256 σ a := by
  unfold KeepsEvidence
  split
  · cases h
  · trivial

/-- A parcel record that is uploaded, with its rows and its blob. -/
theorem parcel_record_evidenced : ∃ row,
    (committedState "parcel" stagedInput).store.docs.get 10 = some row ∧ row.status = .uploaded ∧
      row.Evidenced (committedState "parcel" stagedInput).outside.evidence := by
  have hdoc : ((committedState "parcel" stagedInput).store.docs.get 10).map Doc.status =
      some .uploaded := by decide +kernel
  obtain ⟨row, hrow, hst⟩ := Option.map_eq_some_iff.mp hdoc
  have hcalled : Runs (JobMachine.step (documentFetcher sampleEngine) {})
      (KeepsEvidence Context.sampleDeployment sampleEngine.sha256) (State.start default 0)
      (calledActs "parcel") (calledState "parcel") :=
    .of_check (b := fun _ => noReceive) (fun _ _ => keepsEvidence_of_noReceive) (by decide +kernel)
  have htypes : ∀ p ∈ ((calledState "parcel").runs 0).docs, p.2.docType = .parcelRecord := by
    decide +kernel
  have hreceive : KeepsEvidence Context.sampleDeployment sampleEngine.sha256 (calledState "parcel")
      (.worker 0 (.receive stagedInput)) := by
    intro doc todo d order _ hd _
    rw [htypes _ (Run.mem_of_copyOf hd)]
    exact .inl fun _ _ _ _ _ _ => rfl
  have hrun := hcalled.append (.cons (step_outcome (by decide +kernel)) hreceive
    (.single (t := committedState "parcel" stagedInput) (step_outcome (by decide +kernel)) trivial))
  exact ⟨row, hrow, hst, uploaded_evidenced hrun 10 row hrow hst⟩

/-- The deed adapter calls every fetch ok: without a deed the document is committed as
uploaded, with no file at all. -/
theorem deed_uploaded_without_file :
    ¬ ∀ (dep : Deployment) (sha256 : Blob → String) (cfg : Settings) (w : World) (now : Time)
        (as : List (Action (ResearchInput SourceAnswers))) (σ : State World),
      Runs (JobMachine.step (documentFetcher (shippedEngine dep sha256)) cfg) Always
        (State.start w now) as σ →
      ∀ d row, σ.store.docs.get d = some row → row.status = .uploaded →
        row.Evidenced σ.outside.evidence := by
  intro h
  have hdoc : ((committedState "deed" (sampleInput "1 MAIN ST" "A-1")).store.docs.get 10).map
      (fun d => (d.status, d.fileId)) = some (.uploaded, none) := by decide +kernel
  obtain ⟨row, hrow, hids⟩ := Option.map_eq_some_iff.mp hdoc
  obtain ⟨hst, hid⟩ := Prod.mk.inj hids
  have hcalled : Runs (JobMachine.step (documentFetcher sampleEngine) {}) Always
      (State.start default 0) (calledActs "deed") (calledState "deed") :=
    .of_exec (exec_outcome (by decide +kernel))
  have hrun := hcalled.append (.cons (t := receivedState "deed" (sampleInput "1 MAIN ST" "A-1"))
    (step_outcome (by decide +kernel)) trivial
    (.single (t := committedState "deed" (sampleInput "1 MAIN ST" "A-1"))
      (step_outcome (by decide +kernel)) trivial))
  obtain ⟨fileId, -, -, -, hsome, -⟩ := h Context.sampleDeployment sampleEngine.sha256 _ _ _ _ _ hrun
    10 row hrow hst
  rw [hid] at hsome
  cases hsome

end Concrete

end JobMachine

end ResearchEngine
