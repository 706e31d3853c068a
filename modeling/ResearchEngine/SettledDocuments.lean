import ResearchEngine.RunListings
import ResearchEngine.SingleClaim

/-! The settled documents of a job over its deliveries, crashes, retries and cancels. -/
namespace ResearchEngine

/-- The statuses with no way out of them. -/
def DocStatus.settled : DocStatus → Bool
  | .fetched | .uploaded | .failed | .skipped => true
  | _ => false

namespace Run

/-- Past its first read of the job and not through with the documents. -/
def engaged (r : Run) : Bool :=
  match r.phase with
  | .idle | .delivered | .notifying | .ended => false
  | _ => true

/-- On its way to the drain commit. -/
def drains (r : Run) : Bool :=
  match r.phase with
  | .loaded => r.job.status.isCancel
  | .draining => true
  | _ => false

/-- The documents of its job whose status the run may still write. -/
def mayWrite (r : Run) (d : Uuid) : Prop :=
  match r.phase with
  | .idle | .delivered | .notifying | .ended => False
  | .loaded | .draining | .claiming | .claimed => True
  | _ => d ∈ r.phase.pending ∨ d ∈ r.skipped

/-- No document that the run may still write is settled, except for skipped ones that
a drain would skip. -/
def Spares (s : Store) (r : Run) : Prop :=
  ∀ d row, s.docs.get d = some row → row.jobId = r.task.jobId → r.mayWrite d →
    row.status.settled = true → r.drains = true ∧ row.status = .skipped

theorem Spares.of_not_engaged {s : Store} {r : Run} (h : r.engaged = false) : r.Spares s := by
  intro d row _ _ hm _
  unfold mayWrite at hm
  unfold engaged at h
  split at hm <;> simp_all

end Run

section RunStep

variable {I W : Type} {F : Fetcher I W} {now : Time} {s : Store} {w : W} {r : Run}
  {act : WorkerAct I} {e : Effect W}

/-- Only its first read engages a run. -/
theorem workerStep_engaged (h : workerStep F now s w r act = some e)
    (he : e.run.engaged = true) : r.engaged = true ∨ act = .read := by
  cases workerStep_cases F now s w r h with
  | readGone hp hj => exact Or.inr rfl
  | readFound hp hj => exact Or.inr rfl
  | notify hp => cases he
  | abort hp => cases he
  | lose hp => cases he
  | listCancelled hp | listLive hp | drain hp | claim hp | enter hp | rereadGone hp
  | rereadCancelled hp | rereadLive hp | mark hp | call hp | receive hp | settle hp | finish hp =>
    exact Or.inl (by simp [Run.engaged, hp])

/-- A run writes the documents of its own job only, and only while it is engaged. -/
theorem workerStep_docWrite_other (h : workerStep F now s w r act = some e) (hl : r.Listing s)
    {d : Uuid} {row : Doc} (hrow : s.docs.get d = some row)
    (ho : r.engaged = false ∨ row.jobId ≠ r.task.jobId) : r.docWrite now act d row = row := by
  by_cases hd : d ∈ r.docIds
  · rcases ho with hne | hne
    · unfold Run.engaged at hne
      unfold Run.docWrite
      split <;> simp_all
    · have hlisted : r.phase.listed = false := by
        by_contra hlisted
        obtain ⟨row', hrow', hjob, -⟩ := hl.row (by simpa using hlisted) hd
        obtain rfl := Option.some.inj (hrow.symm.trans hrow')
        exact hne hjob
      unfold Phase.listed at hlisted
      unfold Run.docWrite
      split <;> simp_all
  · exact hl.docWrite_of_not_mem hd row

/-- A run that spares the settled documents commits none of them another status. -/
theorem workerStep_settled (h : workerStep F now s w r act = some e) (hl : r.Listing s)
    (hsp : r.Spares s) {d : Uuid} {row : Doc} (hrow : s.docs.get d = some row)
    (hset : row.status.settled = true) : (r.docWrite now act d row).status = row.status := by
  by_cases hjob : row.jobId = r.task.jobId
  · have hno : r.drains = false → ¬ r.mayWrite d := fun hdr hm => by
      have hd := (hsp d row hrow hjob hm hset).1
      rw [hdr] at hd
      cases hd
    cases workerStep_cases F now s w r h with
    | drain hp =>
      have hst := (hsp d row hrow hjob (by simp [Run.mayWrite, hp]) hset).2
      simp only [Run.docWrite, hp, Run.skipRow]
      split
      · exact hst.symm
      · rfl
    | @mark doc todo hp =>
      have hnot := hno (by simp [Run.drains, hp])
      simp only [Run.mayWrite, hp, Phase.pending, List.mem_cons, not_or] at hnot
      simp [Run.docWrite, hp, Run.fetchingRow, Run.skipRow, hnot.1.1, hnot.2]
    | @settle doc todo outcome hp =>
      have hnot := hno (by simp [Run.drains, hp])
      simp only [Run.mayWrite, hp, Phase.pending, List.mem_cons, not_or] at hnot
      simp [Run.docWrite, hp, Run.settleRow, hnot.1.1]
    | finish hp =>
      have hnot := hno (by simp [Run.drains, hp])
      simp only [Run.mayWrite, hp, Phase.pending, List.not_mem_nil, false_or] at hnot
      simp [Run.docWrite, hp, Run.skipRow, hnot]
    | _ => rfl
  · rw [workerStep_docWrite_other h hl hrow (Or.inr hjob)]

/-- What a run may write later it may write now, and it is not settled in between. -/
theorem workerStep_mayWrite (h : workerStep F now s w r act = some e) (hl : r.Listing s)
    (hact : act ≠ .read) {d : Uuid} (hm : e.run.mayWrite d) :
    r.mayWrite d ∧ e.run.drains = r.drains ∧
      ∀ row, (r.docWrite now act d row).status.settled = true →
        (r.docWrite now act d row).status = row.status := by
  cases workerStep_cases F now s w r h with
  | readGone hp hj => exact (hact rfl).elim
  | readFound hp hj => exact (hact rfl).elim
  | listCancelled hp hrows hc =>
    exact ⟨by simp [Run.mayWrite, hp], by simp [Run.drains, hp, hc], fun _ _ => rfl⟩
  | listLive hp hrows hc =>
    exact ⟨by simp [Run.mayWrite, hp], by simp [Run.drains, hp, hc], fun _ _ => rfl⟩
  | claim hp => exact ⟨by simp [Run.mayWrite, hp], by simp [Run.drains, hp, claim], fun _ _ => rfl⟩
  | enter hp hrows ho =>
    exact ⟨by simp [Run.mayWrite, hp], by simp [Run.drains, hp, enterLoop], fun _ _ => rfl⟩
  | @rereadCancelled doc todo j hp hj hc =>
    refine ⟨?_, by simp [Run.drains, hp], fun _ _ => rfl⟩
    simp only [Run.mayWrite, hp, Phase.pending, List.mem_cons] at hm ⊢
    tauto
  | rereadLive hp hj hc =>
    refine ⟨?_, by simp [Run.drains, hp], fun _ _ => rfl⟩
    simpa only [Run.mayWrite, hp, Phase.pending] using hm
  | @mark doc todo hp =>
    have hpend : d ∈ doc :: todo := by simpa [Run.mayWrite, markFetching, Phase.pending] using hm
    have hskip : d ∉ r.skipped := fun hmem => (hl.skipped d hmem).2 (by rw [hp]; exact hpend)
    refine ⟨?_, by simp [Run.drains, hp, markFetching], fun row hset => ?_⟩
    · simp only [Run.mayWrite, hp, Phase.pending]
      exact Or.inl hpend
    · simp only [Run.docWrite, hp, Run.skipRow_of_not_mem hskip, Run.fetchingRow] at hset ⊢
      split at hset
      · cases hset
      · rename_i hne
        rw [if_neg hne]
  | call hp =>
    refine ⟨?_, by simp [Run.drains, hp, callFetcher], fun _ _ => rfl⟩
    simpa only [Run.mayWrite, hp, Phase.pending, callFetcher] using hm
  | receive hp hd =>
    refine ⟨?_, by simp [Run.drains, hp, receiveOutcome], fun _ _ => rfl⟩
    simpa only [Run.mayWrite, hp, Phase.pending, receiveOutcome] using hm
  | @settle doc todo outcome hp =>
    have hnd : (doc :: todo).Nodup := by simpa [hp, Phase.pending] using hl.pending_nodup
    have hne : d ≠ doc := by
      rintro rfl
      simp only [Run.mayWrite, settleDoc, Phase.pending] at hm
      rcases hm with hm | hm
      · exact (List.nodup_cons.mp hnd).1 hm
      · exact (hl.skipped d hm).2 (by rw [hp]; exact List.mem_cons_self)
    refine ⟨?_, by simp [Run.drains, hp, settleDoc], fun row _ => by
      simp [Run.docWrite, hp, Run.settleRow, hne]⟩
    simp only [Run.mayWrite, hp, Phase.pending, settleDoc, List.mem_cons] at hm ⊢
    tauto
  | finish hp =>
    by_cases hcb : truthy r.job.callbackUrl = true <;> simp [Run.mayWrite, finishJob, hcb] at hm
  | _ => exact hm.elim

theorem workerStep_spares (h : workerStep F now s w r act = some e) (hl : r.Listing s)
    (hsp : r.Spares s) (hact : act ≠ .read) : e.run.Spares e.store := by
  intro d row' hrow' hjob hm hset
  obtain ⟨hm', hdr, hkeep⟩ := workerStep_mayWrite h hl hact hm
  have hwritten := hrow'
  rw [workerStep_docWrite h, Table.get_adjust] at hwritten
  obtain ⟨row, hrow, rfl⟩ := Option.map_eq_some_iff.mp hwritten
  have hsame := hkeep row hset
  have hjob' : row.jobId = r.task.jobId := by
    rw [← ((workerStep_extends h).sameDoc hrow hrow').jobId, hjob, (workerStep_task h).1]
  rw [hsame] at hset ⊢
  rw [hdr]
  exact hsp d row hrow hjob' hm' hset

end RunStep

theorem Run.Spares.frame {s s' : Store} {r : Run} (h : r.Spares s)
    (hrows : r.engaged = true → ∀ d row, s'.docs.get d = some row → row.jobId = r.task.jobId →
      s.docs.get d = some row) : r.Spares s' := by
  cases he : r.engaged with
  | false => exact .of_not_engaged he
  | true => exact fun d row hrow hjob => h d row (hrows he d row hrow hjob) hjob

namespace JobMachine

open TransitionRuns

section Conditions

variable {I W : Type}

/-- A first read finds no other run at work on the job. -/
def SoleDelivery (job : Uuid) (σ : State W) : Action I → Prop
  | .worker run .read => (σ.runs run).task.jobId = job →
      ∀ r, (σ.runs r).task.jobId = job → (σ.runs r).engaged = false
  | _ => True

/-- Moreover it finds no settled document, except for the skipped ones of a cancelled job. -/
def FreshDelivery (job : Uuid) (σ : State W) (a : Action I) : Prop :=
  SoleDelivery job σ a ∧
    match a with
    | .worker run .read => (σ.runs run).task.jobId = job →
        ∀ d row, σ.store.docs.get d = some row → row.jobId = job → row.status.settled = true →
          row.status = .skipped ∧ ∀ st, σ.status job = some st → st.isCancel = true
    | _ => True

/-- The settled documents of the job keep their status. -/
def SettledKept (job : Uuid) (σ τ : State W) : Prop :=
  ∀ d row, σ.store.docs.get d = some row → row.jobId = job → row.status.settled = true →
    ∃ row', τ.store.docs.get d = some row' ∧ row'.jobId = job ∧ row'.status = row.status

/-- One run at a time is engaged, and it spares the settled documents. -/
structure Spared (job : Uuid) (σ : State W) : Prop where
  wellFormed : WellFormed σ
  listed : Listed σ
  sole : Exclusive Run.engaged job σ
  spares : ∀ r, (σ.runs r).task.jobId = job → (σ.runs r).Spares σ.store

theorem spared_start (w : W) (now : Time) (job : Uuid) : Spared job (State.start w now) where
  wellFormed := wellFormed_start w now
  listed := listed_start w now
  sole _ _ _ _ hr _ := by cases hr
  spares _ _ := .of_not_engaged rfl

theorem SettledKept.refl (job : Uuid) (σ : State W) : SettledKept job σ σ := fun _ row h hj _ =>
  ⟨row, h, hj, rfl⟩

theorem SettledKept.trans {job : Uuid} {σ τ υ : State W} (h : SettledKept job σ τ)
    (h' : SettledKept job τ υ) : SettledKept job σ υ := by
  intro d row hrow hjob hset
  obtain ⟨row', hrow', hjob', hst⟩ := h d row hrow hjob hset
  obtain ⟨row'', hrow'', hjob'', hst'⟩ := h' d row' hrow' hjob' (hst ▸ hset)
  exact ⟨row'', hrow'', hjob'', hst'.trans hst⟩

end Conditions

section Steps

variable {I W : Type} {F : Fetcher I W} {job : Uuid} {σ τ : State W}

theorem engaged_ne_idle {r : Run} (h : r.engaged = true) : r.phase ≠ .idle := by
  intro hidle
  simp [Run.engaged, hidle] at h

variable [PyText] {cfg : Settings} {a : Action I}

/-- A run that is engaged after a step was so before it, or has made its first read. -/
theorem StepCase.engaged (hs : StepCase F cfg σ a τ) {r : ℕ}
    (hr : (τ.runs r).engaged = true) :
    (τ.runs r).task = (σ.runs r).task ∧ ((σ.runs r).engaged = true ∨ a = .worker r .read) := by
  rcases hs.run_cases r with he | ⟨task, he⟩ | ⟨act, e, rfl, rfl, hw⟩
  · exact ⟨by rw [he], Or.inl (by rwa [he] at hr)⟩
  · rw [he] at hr
    cases hr
  · rw [afterWorker_runs_self] at hr ⊢
    refine ⟨(workerStep_task hw).1, ?_⟩
    rcases workerStep_engaged hw hr with h | rfl
    · exact Or.inl h
    · exact Or.inr rfl

/-- As long as no first read finds a run at work, at most one run is engaged. -/
theorem StepCase.sole_engaged (hs : StepCase F cfg σ a τ) (hok : SoleDelivery job σ a)
    (h : Exclusive Run.engaged job σ) : Exclusive Run.engaged job τ := by
  intro r r' hj hj' he he'
  obtain ⟨ht, hr⟩ := hs.engaged he
  obtain ⟨ht', hr'⟩ := hs.engaged he'
  rw [ht] at hj
  rw [ht'] at hj'
  rcases hr with hr | rfl
  · rcases hr' with hr' | rfl
    · exact h r r' hj hj' hr hr'
    · rw [hok hj' r hj] at hr
      cases hr
  · rcases hr' with hr' | hr'
    · rw [hok hj r' hj'] at hr'
      cases hr'
    · injection hr'

/-- No step writes the rows of a job at which another run is at work. -/
theorem StepCase.docWrite_undisturbed (hs : StepCase F cfg σ a τ) (hl : Listed σ)
    (hsole : Exclusive Run.engaged job σ) {r : ℕ} (hj : (σ.runs r).task.jobId = job)
    (he : (σ.runs r).engaged = true) (hr : a.actor ≠ some r) {d : Uuid} {row : Doc}
    (hrow : σ.store.docs.get d = some row) (hjob : row.jobId = job) :
    a.docWrite σ d row = row := by
  cases hs with
  | @worker run act e hw =>
    have hrun : run ≠ r := fun hr' => hr (congrArg some hr')
    refine workerStep_docWrite_other hw (hl run) hrow ?_
    by_contra hcon
    simp only [not_or, Bool.not_eq_false, not_not] at hcon
    exact hrun (hsole run r (hcon.2.symm.trans hjob) hj hcon.1 he)
  | _ => rfl

theorem StepCase.doc_undisturbed (hs : StepCase F cfg σ a τ) (hwf : WellFormed σ)
    (hl : Listed σ) (hsole : Exclusive Run.engaged job σ) {r : ℕ}
    (hj : (σ.runs r).task.jobId = job) (he : (σ.runs r).engaged = true)
    (hr : a.actor ≠ some r) {d : Uuid} {row' : Doc} (hrow' : τ.store.docs.get d = some row')
    (hjob : row'.jobId = job) : σ.store.docs.get d = some row' := by
  rcases hs.doc_origin hrow' with ⟨row, hrow, rfl⟩ | ⟨j, orderId, docType, hfresh, rfl⟩
  · have hid := hs.extends.sameDoc hrow hrow'
    rw [hs.docWrite_undisturbed hl hsole hj he hr hrow (hid.jobId.symm.trans hjob)]
    exact hrow
  · obtain rfl : j = job := hjob
    exact (hfresh (hj ▸ hwf.run_keys (engaged_ne_idle he))).elim

omit [PyText] in
/-- A first read under the condition spares the settled documents. -/
theorem FreshDelivery.spares {r : ℕ} {e : Effect W}
    (hok : FreshDelivery job σ (.worker r .read : Action I)) (hj : (σ.runs r).task.jobId = job)
    (hw : workerStep F σ.now σ.store σ.outside (σ.runs r) .read = some e) :
    e.run.Spares e.store := by
  cases workerStep_cases F _ _ _ _ hw with
  | readGone hp hget => exact .of_not_engaged rfl
  | @readFound j hp hget =>
    intro d row hrow hjob _ hset
    obtain ⟨hskip, hc⟩ := hok.2 hj d row hrow (hjob.trans hj) hset
    refine ⟨hc j.status ?_, hskip⟩
    rw [← hj]
    exact getJob_status hget

theorem Spared.step (h : Spared job σ) (hok : FreshDelivery job σ a) (hs : StepCase F cfg σ a τ) :
    Spared job τ where
  wellFormed := hs.wellFormed h.wellFormed
  listed := hs.listed h.wellFormed h.listed
  sole := hs.sole_engaged hok.1 h.sole
  spares := by
    intro r hj
    by_cases hr : a.actor = some r
    · rcases hs.actor_cases hr with ⟨task, he⟩ | ⟨act, e, rfl, rfl, hw⟩
      · exact .of_not_engaged (by rw [he]; rfl)
      · rw [afterWorker_runs_self, (workerStep_task hw).1] at hj
        rw [afterWorker_runs_self]
        by_cases hact : act = .read
        · subst hact
          exact hok.spares hj hw
        · exact workerStep_spares hw (h.listed r) (h.spares r hj) hact
    · have hrun := hs.runs_other hr
      rw [hrun] at hj ⊢
      refine (h.spares r hj).frame fun he d row hrow hjob => ?_
      exact hs.doc_undisturbed h.wellFormed h.listed h.sole hj he hr hrow (hjob.trans hj)

theorem Spared.kept (h : Spared job σ) (hs : StepCase F cfg σ a τ) : SettledKept job σ τ := by
  intro d row hrow hjob hset
  refine ⟨_, hs.doc hrow, ?_, ?_⟩
  · exact (hs.extends.sameDoc hrow (hs.doc hrow)).jobId.trans hjob
  · cases hs with
    | @worker run act e hw =>
      by_cases hj : (σ.runs run).task.jobId = job
      · exact workerStep_settled hw (h.listed run) (h.spares run hj) hrow hset
      · have hne : row.jobId ≠ (σ.runs run).task.jobId := fun he => hj (he.symm.trans hjob)
        simp only [Action.docWrite]
        rw [workerStep_docWrite_other hw (h.listed run) hrow (Or.inr hne)]
    | _ => rfl

/-- While no first read finds a run at work or a document that its run would overwrite,
the settled documents of the job stay settled. -/
theorem settled_kept {w : W} {now : Time} {as bs : List (Action I)}
    (h : Runs (step F cfg) (FreshDelivery job) (State.start w now) as σ)
    (h' : Runs (step F cfg) (FreshDelivery job) σ bs τ) : SettledKept job σ τ := by
  have hσ : Spared job σ := h.invariant (fun s a t hs hok hst => hs.step hok (step_cases F cfg hst))
    (spared_start w now job)
  refine h'.relation (I := Spared job) (SettledKept.refl job) (fun h h' => h.trans h') ?_ hσ
  intro s a t hs hok hst
  have hcase := step_cases F cfg hst
  exact ⟨hs.step hok hcase, hs.kept hcase⟩

end Steps

section Concrete

open scoped PyText.Ascii

/-- Every action but a first read. -/
def noRead : Action Unit → Bool
  | .worker _ .read => false
  | _ => true

theorem freshDelivery_of_noRead {job : Uuid} {σ : State Unit} {a : Action Unit}
    (h : noRead a = true) : FreshDelivery job σ a := by
  unfold FreshDelivery SoleDelivery
  split
  · cases h
  · exact ⟨trivial, trivial⟩

/-- The run of the only delivery fetches two documents; a cancel then skips the rest. -/
def firstFetched : List (Action Unit) :=
  [.worker 0 (.list sampleDocs), .worker 0 .claim, .worker 0 (.enter sampleDocs (some sampleOrder))] ++
    research 0 ()

def cancelledAfter : List (Action Unit) :=
  research 0 () ++ [.api 1 (.cancel 1 7 none), .api 1 .commit, .worker 0 .reread, .worker 0 .reread,
    .worker 0 .reread, .worker 0 .reread, .worker 0 .finish]

def fetchedState : State Unit := outcome (step linkFetcher {}) readState firstFetched

theorem sole_delivery_keeps :
    SettledKept 7 fetchedState (outcome (step linkFetcher {}) fetchedState cancelledAfter) := by
  have hfirst : Runs (step linkFetcher {}) (FreshDelivery 7) (State.start () 0) deliveredActs
      deliveredState :=
    .of_check (b := fun _ => noRead) (fun _ _ => freshDelivery_of_noRead) (by decide +kernel)
  have hread : FreshDelivery 7 deliveredState (.worker 0 .read : Action Unit) := by
    refine ⟨fun _ r _ => ?_, fun _ d row hrow _ hset => ?_⟩
    · by_cases h0 : r = 0
      · subst h0
        decide +kernel
      · rw [idle_of_sole hfirst (by decide) h0]
        rfl
    · have hnone : ∀ p ∈ deliveredState.store.docs.rows, p.2.status.settled = false := by
        decide +kernel
      rw [hnone _ ((Table.mem_rows_iff _ _ _).mpr hrow)] at hset
      cases hset
  have hrest : Runs (step linkFetcher {}) (FreshDelivery 7) readState firstFetched fetchedState :=
    .of_check (b := fun _ => noRead) (fun _ _ => freshDelivery_of_noRead) (by decide +kernel)
  exact settled_kept (hfirst.append (.cons (step_outcome (by decide +kernel)) hread hrest))
    (.of_check (b := fun _ => noRead) (fun _ _ => freshDelivery_of_noRead) (by decide +kernel))

/-- A fetcher that stores a file for every document. -/
def storingFetcher : Fetcher Unit Unit := fun _ call w =>
  (.ok
    { docType := call.docType, status := .uploaded, fileKey := some "k", fileId := some 20,
      orderFileId := some 21 }, w)

/-- The worker dies with one document uploaded; the task is requeued. -/
def crashedActs : List (Action Unit) :=
  deliveredActs ++ .worker 0 .read :: firstFetched ++ [.worker 0 (.lose true)]

def crashedState : State Unit := outcome (step storingFetcher {}) (State.start () 0) crashedActs

/-- The second delivery goes through every document again. -/
def redelivered : List (Action Unit) :=
  [.deliver 1 0, .worker 1 .read, .worker 1 (.list sampleDocs), .worker 1 .claim,
    .worker 1 (.enter sampleDocs (some sampleOrder)), .worker 1 .reread, .worker 1 .mark]

/-- Or it finds the job being cancelled and drains it. -/
def drainedAfter : List (Action Unit) :=
  [.api 1 (.cancel 1 7 none), .api 1 .commit, .deliver 1 0, .worker 1 .read,
    .worker 1 (.list sampleDocs), .worker 1 .drain]

theorem uploaded_document_reopened :
    ¬ ∀ (as bs : List (Action Unit)) (σ τ : State Unit) (job : Uuid),
      Runs (step storingFetcher {}) Always (State.start () 0) as σ →
      Runs (step storingFetcher {}) Always σ bs τ → SettledKept job σ τ := by
  intro h
  have hrun : Runs (step storingFetcher {}) Always (State.start () 0) crashedActs crashedState :=
    .of_exec (exec_outcome (by decide +kernel))
  have hrest : Runs (step storingFetcher {}) Always crashedState redelivered
      (outcome (step storingFetcher {}) crashedState redelivered) :=
    .of_exec (exec_outcome (by decide +kernel))
  have hbefore : (crashedState.store.docs.get 10).map (fun d => (d.jobId, d.status)) =
      some (7, .uploaded) := by decide +kernel
  obtain ⟨row, hrow, hkey⟩ := Option.map_eq_some_iff.mp hbefore
  obtain ⟨hjob, hst⟩ := Prod.mk.inj hkey
  obtain ⟨row', hrow', -, hkept⟩ := h _ _ _ _ 7 hrun hrest 10 row hrow hjob (by rw [hst]; rfl)
  have hafter : ((outcome (step storingFetcher {}) crashedState redelivered).store.docs.get 10).map
      Doc.status = some .fetching := by decide +kernel
  rw [hrow', Option.map_some, hkept, hst] at hafter
  cases hafter

/-- After a cancel the same crash turns the uploaded document into a skipped one. -/
example : ((outcome (step storingFetcher {}) crashedState drainedAfter).store.docs.get 10).map
    Doc.status = some .skipped := by decide +kernel

end Concrete

end JobMachine
end ResearchEngine
