import ResearchEngine.MachineInvariant

/-! The documents a run has listed, against the rows of its job: in every reachable
state a run past its first listing holds a copy of each document of its job, looks at
them in listing order, and keeps the pending `skipped` flags apart from the documents
it has yet to look at. -/
namespace ResearchEngine

/-- The documents a run in its loop has not settled or skipped yet. -/
def Phase.pending : Phase → List Uuid
  | .looping todo => todo
  | .marking doc todo | .calling doc todo | .awaiting doc todo | .settling doc todo _ => doc :: todo
  | _ => []

/-- Between the first listing and the end of the run. -/
def Phase.listed : Phase → Bool
  | .idle | .delivered | .loaded | .ended => false
  | _ => true

/-- Before the loop. -/
def Phase.early : Phase → Bool
  | .idle | .delivered | .loaded | .draining | .claiming | .claimed => true
  | _ => false

namespace Run

/-- The documents the run holds a copy of. -/
def docIds (r : Run) : List Uuid := r.docs.map Prod.fst

theorem updateDoc_keys (docs : List (Uuid × Doc)) (doc : Uuid) (f : Doc → Doc) :
    (updateDoc docs doc f).map Prod.fst = docs.map Prod.fst := by
  simp only [updateDoc, List.map_map]
  refine List.map_congr_left fun p _ => ?_
  simp only [Function.comp_apply]
  split <;> rfl

theorem copyOf_updateDoc (docs : List (Uuid × Doc)) (doc : Uuid) (f : Doc → Doc) (d : Uuid) :
    copyOf (updateDoc docs doc f) d =
      (copyOf docs d).map fun row => if d = doc then f row else row := by
  induction docs with
  | nil => rfl
  | cons p docs ih =>
    simp only [copyOf, updateDoc, List.map_cons, List.find?_cons] at ih ⊢
    by_cases hpd : p.1 = d
    · subst hpd
      by_cases hdoc : p.1 = doc <;> simp [hdoc]
    · by_cases hdoc : p.1 = doc
      · have hne : ¬ doc = d := fun he => hpd (hdoc.trans he)
        simpa [hdoc, hne] using ih
      · simpa [hdoc, hpd] using ih

theorem copyOf_isSome {docs : List (Uuid × Doc)} {d : Uuid} (h : d ∈ docs.map Prod.fst) :
    ∃ row, copyOf docs d = some row := by
  obtain ⟨p, hp, rfl⟩ := List.mem_map.mp h
  have hfound : (docs.find? fun q => q.1 = p.1).isSome = true :=
    List.find?_isSome.mpr ⟨p, hp, by simp⟩
  obtain ⟨q, hq⟩ := Option.isSome_iff_exists.mp hfound
  exact ⟨q.2, by simp [copyOf, hq]⟩

theorem copyOf_of_mem {docs : List (Uuid × Doc)} (hnd : (docs.map Prod.fst).Nodup)
    {p : Uuid × Doc} (hp : p ∈ docs) : copyOf docs p.1 = some p.2 := by
  induction docs with
  | nil => cases hp
  | cons q docs ih =>
    obtain ⟨hq, hnd⟩ := List.nodup_cons.mp hnd
    rcases List.mem_cons.mp hp with rfl | hp
    · simp [copyOf]
    · have hne : q.1 ≠ p.1 := fun he => hq (he ▸ List.mem_map_of_mem hp)
      simpa [copyOf, List.find?_cons, hne] using ih hnd hp

theorem mem_of_copyOf {docs : List (Uuid × Doc)} {d : Uuid} {c : Doc} (h : copyOf docs d = some c) :
    (d, c) ∈ docs := by
  obtain ⟨p, hp, rfl⟩ := Option.map_eq_some_iff.mp h
  obtain rfl : p.1 = d := by simpa using List.find?_some hp
  exact List.mem_of_find?_eq_some hp

theorem retriesOf_eq (docs : List (Uuid × Doc)) (doc : Uuid) :
    retriesOf docs doc = ((copyOf docs doc).map Doc.retryCount).getD 0 := by
  simp only [retriesOf, copyOf, Option.map_map]
  rfl

theorem flushSkipped_nil (s : Store) : flushSkipped [] s = s := by
  have hid : skipRow [] = fun _ row => row := by
    funext d row
    simp [skipRow]
  simp [flushSkipped, hid, Store.adjustDocs]

structure Listing (s : Store) (r : Run) : Prop where
  keys : r.phase.listed = true → r.docIds.Perm (s.docKeys r.task.jobId)
  pending : r.phase.pending <:+ r.docIds
  skipped : ∀ d ∈ r.skipped, d ∈ r.docIds ∧ d ∉ r.phase.pending
  early : r.phase.early = true → r.skipped = []

theorem startRun_listing (s : Store) (task : Task) (now : Time) :
    (JobMachine.startRun task now).Listing s where
  keys h := by cases h
  pending := List.nil_suffix
  skipped d hd := by cases hd
  early _ := rfl

theorem idle_listing (s : Store) : Run.idle.Listing s where
  keys h := by cases h
  pending := List.nil_suffix
  skipped d hd := by cases hd
  early _ := rfl

namespace Listing

variable {s s' : Store} {r : Run}

theorem docIds_nodup (h : r.Listing s) (hp : r.phase.listed = true) : r.docIds.Nodup :=
  (h.keys hp).nodup_iff.mpr (s.docKeys_nodup _)

theorem pending_nodup (h : r.Listing s) : r.phase.pending.Nodup := by
  cases hp : r.phase.listed with
  | true => exact (h.docIds_nodup hp).sublist h.pending.sublist
  | false =>
    cases hr : r.phase with
    | idle | delivered | loaded | ended => exact List.nodup_nil
    | _ => simp [hr, Phase.listed] at hp

/-- A listed document is a live row of the run's job. -/
theorem row (h : r.Listing s) (hp : r.phase.listed = true) {d : Uuid} (hd : d ∈ r.docIds) :
    ∃ row, s.docs.get d = some row ∧ row.jobId = r.task.jobId ∧ row.deletedAt = none := by
  have hmem : d ∈ s.docKeys r.task.jobId := (h.keys hp).mem_iff.mp hd
  obtain ⟨q, hq, rfl⟩ := List.mem_map.mp hmem
  obtain ⟨hget, hrow⟩ := (Table.mem_select_iff _ _ _ _).mp hq
  exact ⟨q.2, hget, (of_decide_eq_true hrow).1, (of_decide_eq_true hrow).2⟩

/-- Steps of others do not disturb what a run has listed. -/
theorem extend (h : r.Listing s) (he : s.Extends s')
    (hb : r.phase.listed = true → r.task.jobId ∈ s.jobs.keys) : r.Listing s' where
  keys hp := by rw [he.listing _ (hb hp)]; exact h.keys hp
  pending := h.pending
  skipped := h.skipped
  early := h.early

end Listing
end Run

section RunStep

variable {I W : Type} {F : Fetcher I W} {now : Time} {s : Store} {w : W} {r : Run}
  {act : WorkerAct I} {e : Effect W}

/-- A run that moves on in its pending documents keeps its listing. -/
theorem Run.Listing.keep {s' : Store} {r' : Run} (hl : r.Listing s)
    (he : s'.docKeys r.task.jobId = s.docKeys r.task.jobId) (ht : r'.task = r.task)
    (hd : r'.docIds = r.docIds) (hp : r.phase.listed = true)
    (hpend : r'.phase.pending <:+ r.phase.pending) (hskip : ∀ d ∈ r'.skipped, d ∈ r.skipped)
    (hearly : r'.phase.early = true → r'.skipped = []) : r'.Listing s' := by
  refine ⟨fun _ => ?_, hd ▸ hpend.trans hl.pending, fun d hd' => ?_, hearly⟩
  · rw [hd, ht, he]
    exact hl.keys hp
  · obtain ⟨hmem, hnot⟩ := hl.skipped d (hskip d hd')
    exact ⟨hd ▸ hmem, fun hmem' => hnot (hpend.subset hmem')⟩

/-- A run that stops has nothing pending. -/
theorem Run.Listing.stop {s' : Store} {r' : Run} (hl : r.Listing s) (hp : r'.phase = .ended)
    (hd : r'.docIds = r.docIds) (hskip : r'.skipped = r.skipped) : r'.Listing s' := by
  refine ⟨fun h => ?_, ?_, fun d hmem => ?_, fun h => ?_⟩
  · rw [hp] at h
    cases h
  · rw [hp]
    exact List.nil_suffix
  · rw [hp, hd]
    exact ⟨(hl.skipped d (hskip ▸ hmem)).1, List.not_mem_nil⟩
  · rw [hp] at h
    cases h

/-- A listing gives the run a copy of every document of its job. -/
theorem Run.Listing.list {r' : Run} {order : List Uuid} {rows : List (Uuid × Doc)}
    (hrows : s.listForJob r.task.jobId order = some rows) (ht : r'.task = r.task)
    (hd : r'.docIds = rows.map Prod.fst) (hpend : r'.phase.pending <:+ r'.docIds)
    (hskip : r'.skipped = []) : r'.Listing s := by
  obtain ⟨hkeys, hperm, -⟩ := Store.listForJob_eq_some hrows
  refine ⟨fun _ => ?_, hpend, fun d hd => ?_, fun _ => hskip⟩
  · rw [hd, ht, hkeys]
    exact hperm
  · rw [hskip] at hd
    cases hd

/-- The document that a run skips is the first of the pending ones. -/
theorem Run.Listing.skip {s' : Store} (hl : r.Listing s)
    (he : s'.docKeys r.task.jobId = s.docKeys r.task.jobId) {doc : Uuid} {todo : List Uuid}
    (hp : r.phase = .looping (doc :: todo)) (j : Job) :
    Run.Listing s' { r with
      job := j
      docs := Run.updateDoc r.docs doc (Doc.setStatus .skipped)
      skipped := doc :: r.skipped
      phase := .looping todo } := by
  have hids : (Run.updateDoc r.docs doc (Doc.setStatus .skipped)).map Prod.fst = r.docIds :=
    Run.updateDoc_keys _ _ _
  have hpend : (doc :: todo) <:+ r.docIds := by simpa [hp, Phase.pending] using hl.pending
  have hnd : (doc :: todo).Nodup := by simpa [hp, Phase.pending] using hl.pending_nodup
  refine ⟨fun _ => ?_, ?_, fun d hd => ?_, fun hp => by cases hp⟩
  · show List.Perm (List.map Prod.fst _) _
    rw [hids, he]
    exact hl.keys (by rw [hp]; rfl)
  · show todo <:+ List.map Prod.fst _
    rw [hids]
    exact (List.suffix_cons doc todo).trans hpend
  · show d ∈ List.map Prod.fst _ ∧ d ∉ todo
    rw [hids]
    rcases List.mem_cons.mp hd with rfl | hd
    · exact ⟨hpend.subset List.mem_cons_self, (List.nodup_cons.mp hnd).1⟩
    · obtain ⟨hmem, hnot⟩ := hl.skipped d hd
      rw [hp] at hnot
      exact ⟨hmem, fun hmem' => hnot (List.mem_cons_of_mem _ hmem')⟩

theorem workerStep_listing (h : workerStep F now s w r act = some e) (hl : r.Listing s)
    (hb : r.task.jobId ∈ s.jobs.keys) : e.run.Listing e.store := by
  have he := (workerStep_extends h).listing _ hb
  cases workerStep_cases F now s w r h with
  | readGone hp hj => exact hl.stop rfl rfl rfl
  | readFound hp hj =>
    refine ⟨fun h => ?_, List.nil_suffix,
      fun d hd => ⟨(hl.skipped d hd).1, List.not_mem_nil⟩, fun _ => hl.early (by rw [hp]; rfl)⟩
    cases h
  | @listCancelled order rows hp hrows hc =>
    exact .list hrows rfl (by simp [Run.docIds, Function.comp_def]) List.nil_suffix
      (hl.early (by rw [hp]; rfl))
  | @listLive order rows hp hrows hc =>
    exact .list hrows rfl rfl List.nil_suffix (hl.early (by rw [hp]; rfl))
  | drain hp => exact hl.stop rfl rfl rfl
  | claim hp =>
    exact hl.keep he rfl rfl (by rw [hp]; rfl) List.nil_suffix (fun _ => id)
      fun _ => hl.early (by rw [hp]; rfl)
  | @enter listing rows order hp hrows ho =>
    have hids : (enterLoop s w r rows order).run.docIds = rows.map Prod.fst := by
      simp [enterLoop, Run.docIds, Function.comp_def]
    refine .list hrows rfl hids ?_ (hl.early (by rw [hp]; rfl))
    rw [hids]
    exact List.suffix_rfl
  | rereadGone hp hj => exact hl.stop rfl rfl rfl
  | rereadCancelled hp hj hc => exact hl.skip he hp _
  | rereadLive hp hj hc =>
    exact hl.keep he rfl rfl (by rw [hp]; rfl) (by rw [hp]; exact List.suffix_rfl) (fun _ => id)
      fun hp => by cases hp
  | mark hp =>
    exact hl.keep he rfl (Run.updateDoc_keys _ _ _) (by rw [hp]; rfl)
      (by rw [hp]; exact List.suffix_rfl) (fun d hd => by cases hd) fun hp => by cases hp
  | call hp =>
    exact hl.keep he rfl rfl (by rw [hp]; rfl) (by rw [hp]; exact List.suffix_rfl) (fun _ => id)
      fun hp => by cases hp
  | receive hp hd =>
    exact hl.keep he rfl rfl (by rw [hp]; rfl) (by rw [hp]; exact List.suffix_rfl) (fun _ => id)
      fun hp => by cases hp
  | settle hp =>
    exact hl.keep he rfl (Run.updateDoc_keys _ _ _) (by rw [hp]; rfl)
      (by rw [hp]; exact List.suffix_cons _ _) (fun _ => id) fun hp => by cases hp
  | finish hp =>
    have hphase : (finishJob now s w r).run.phase.early = false ∧
        (finishJob now s w r).run.phase.pending = [] := by
      by_cases hcb : truthy r.job.callbackUrl = true <;>
        simp [finishJob, hcb, Phase.early, Phase.pending]
    exact hl.keep he rfl rfl (by rw [hp]; rfl) (by rw [hphase.2]; exact List.nil_suffix)
      (fun d hd => by cases hd) fun _ => rfl
  | notify hp => exact hl.stop rfl rfl rfl
  | abort hp => exact hl.stop rfl rfl rfl
  | lose hp => exact hl.stop rfl rfl rfl

end RunStep

/-! What a step of a run commits to the document rows. -/

/-- The update of a document row in one step of the run. -/
def Run.docWrite {I : Type} (r : Run) (now : Time) (act : WorkerAct I) (d : Uuid) (row : Doc) : Doc :=
  match act, r.phase with
  | .drain, .draining => Run.skipRow r.docIds d row
  | .mark, .marking doc _ => Run.fetchingRow doc d (Run.skipRow r.skipped d row)
  | .settle, .settling doc _ outcome => r.settleRow now doc outcome d row
  | .finish, .looping [] => Run.skipRow r.skipped d row
  | _, _ => row

section RunStep

variable {I W : Type} {F : Fetcher I W} {now : Time} {s : Store} {w : W} {r : Run}
  {act : WorkerAct I} {e : Effect W}

theorem workerStep_docWrite (h : workerStep F now s w r act = some e) :
    e.store.docs = s.docs.adjust (r.docWrite now act) := by
  have same : s.docs = s.docs.adjust fun _ row => row := (Table.adjust_id _).symm
  have as : ∀ {f : Uuid → Doc → Doc}, (∀ d row, r.docWrite now act d row = f d row) →
      s.docs.adjust (r.docWrite now act) = s.docs.adjust f := fun hf =>
    congrArg s.docs.adjust (funext fun d => funext fun row => hf d row)
  cases workerStep_cases F now s w r h with
  | drain hp => exact (as fun d row => by simp [Run.docWrite, hp]; rfl).symm
  | mark hp =>
    rw [as fun d row => by simp only [Run.docWrite, hp]; rfl]
    exact Table.adjust_adjust _ _ _
  | settle hp => exact (as fun d row => by simp only [Run.docWrite, hp]).symm
  | finish hp => exact (as fun d row => by simp only [Run.docWrite, hp]).symm
  | @notify delivered hp => cases delivered <;> exact same
  | _ => exact same

theorem Run.skipRow_of_not_mem {skipped : List Uuid} {d : Uuid} (h : d ∉ skipped) (row : Doc) :
    Run.skipRow skipped d row = row := by simp [Run.skipRow, h]

/-- A run writes only documents that it has listed. -/
theorem Run.Listing.docWrite_of_not_mem (hl : r.Listing s) {d : Uuid} (hd : d ∉ r.docIds)
    (row : Doc) : r.docWrite now act d row = row := by
  have hskip : d ∉ r.skipped := fun hmem => hd (hl.skipped d hmem).1
  have hpend : d ∉ r.phase.pending := fun hmem => hd (hl.pending.subset hmem)
  unfold Run.docWrite
  split
  · exact Run.skipRow_of_not_mem hd row
  · rename_i hp
    have hne : d ≠ _ := fun he => hpend (by rw [hp, he]; exact List.mem_cons_self)
    simp [Run.fetchingRow, hne, Run.skipRow_of_not_mem hskip]
  · rename_i hp
    have hne : d ≠ _ := fun he => hpend (by rw [hp, he]; exact List.mem_cons_self)
    simp [Run.settleRow, hne]
  · exact Run.skipRow_of_not_mem hskip row
  · rfl

end RunStep

/-! What a step of a session does to the document rows. -/

section Api

variable [PyText] {now : Time} {s : Store} {session : Session} {act : ApiAct} {e : ApiEffect}
  {d : Uuid} {row row' : Doc}

theorem apiCase_doc (h : ApiCase now s session act e) (hrow : s.docs.get d = some row) :
    e.store.docs.get d = some row := by
  cases h with
  | insert fresh hlen hdocs =>
    refine (Table.mem_rows_iff _ _ _).mp ?_
    rw [insertDocs_rows hdocs]
    exact List.mem_append_left _ ((Table.mem_rows_iff _ _ _).mpr hrow)
  | _ => exact hrow

theorem apiCase_doc_new (h : ApiCase now s session act e) (hnone : s.docs.get d = none)
    (hrow' : e.store.docs.get d = some row') :
    ∃ job orderId docType, job ∉ s.jobs.keys ∧ row' = newDoc now job orderId docType := by
  cases h with
  | @insert req orderId docTypes job freshKey docs table fresh hlen hdocs =>
    have hmem := (Table.mem_rows_iff _ _ _).mpr hrow'
    rw [insertDocs_rows hdocs] at hmem
    rcases List.mem_append.mp hmem with hold | hnew
    · rw [(Table.mem_rows_iff _ _ _).mp hold] at hnone
      cases hnone
    · obtain ⟨q, -, hq⟩ := List.mem_map.mp hnew
      exact ⟨job, orderId, q.2, fresh, (Prod.mk.inj hq).2.symm⟩
  | _ => exact absurd (hrow'.symm.trans hnone) (by simp)

end Api

namespace JobMachine

variable {I W : Type}

/-- The update of the document rows in one step of the machine. -/
def Action.docWrite (σ : State W) : Action I → Uuid → Doc → Doc
  | .worker run act => (σ.runs run).docWrite σ.now act
  | _ => fun _ row => row

/-- Every run holds the documents of its job. -/
def Listed (σ : State W) : Prop := ∀ r, (σ.runs r).Listing σ.store

theorem listed_start (w : W) (now : Time) : Listed (State.start w now) := fun _ =>
  Run.idle_listing _

theorem WellFormed.run_keys {σ : State W} (h : WellFormed σ) {r : ℕ}
    (hr : (σ.runs r).phase ≠ .idle) : (σ.runs r).task.jobId ∈ σ.store.jobs.keys :=
  (h.runs r hr).mem_keys

variable [PyText] {F : Fetcher I W} {cfg : Settings} {σ τ : State W} {a : Action I}

theorem StepCase.doc (h : StepCase F cfg σ a τ) {d : Uuid} {row : Doc}
    (hrow : σ.store.docs.get d = some row) :
    τ.store.docs.get d = some (a.docWrite σ d row) := by
  cases h with
  | @worker run act e hw =>
    show e.store.docs.get d = _
    rw [workerStep_docWrite hw, Table.get_adjust, hrow]
    rfl
  | api ha => exact apiCase_doc ha hrow
  | _ => exact hrow

/-- A row that was not there before belongs to a job that was not there either. -/
theorem StepCase.doc_origin (h : StepCase F cfg σ a τ) {d : Uuid} {row' : Doc}
    (hrow' : τ.store.docs.get d = some row') :
    (∃ row, σ.store.docs.get d = some row ∧ row' = a.docWrite σ d row) ∨
      ∃ job orderId docType, job ∉ σ.store.jobs.keys ∧ row' = newDoc σ.now job orderId docType := by
  cases hrow : σ.store.docs.get d with
  | some row => exact Or.inl ⟨row, rfl, Option.some.inj (hrow'.symm.trans (h.doc hrow))⟩
  | none =>
    cases h with
    | @worker run act e hw =>
      replace hrow' : e.store.docs.get d = some row' := hrow'
      rw [workerStep_docWrite hw, Table.get_adjust, hrow] at hrow'
      cases hrow'
    | api ha => exact Or.inr (apiCase_doc_new ha hrow hrow')
    | _ => exact absurd (hrow'.symm.trans hrow) (by simp)

theorem StepCase.listed (hσ : WellFormed σ) (hl : Listed σ) (h : StepCase F cfg σ a τ) :
    Listed τ := by
  intro r
  rcases h.run_cases r with he | ⟨task, he⟩ | ⟨act, e, rfl, rfl, hw⟩
  · rw [he]
    refine (hl r).extend h.extends fun hp => hσ.run_keys fun hidle => ?_
    rw [hidle] at hp
    cases hp
  · rw [he]
    exact Run.startRun_listing _ task σ.now
  · rw [afterWorker_runs_self]
    refine workerStep_listing hw (hl r) (hσ.run_keys fun hidle => ?_)
    have hlive := workerStep_live hw
    rw [hidle] at hlive
    cases hlive

theorem Reachable.listed (h : Reachable F cfg σ) : Listed σ := by
  have hboth := h.invariant (P := fun σ => WellFormed σ ∧ Listed σ)
    (fun w now => ⟨wellFormed_start w now, listed_start w now⟩)
    fun _ _ _ hs hst => ⟨hst.wellFormed hs.1, hst.listed hs.1 hs.2⟩
  exact hboth.2

end JobMachine
end ResearchEngine
