import ResearchEngine.RunLength

/-! The timestamps of the rows. Whatever the order of the steps, nothing is dated before the
row it is about was created nor after the present, and an upload is dated no earlier than the fetch that
it comes from. -/
namespace ResearchEngine

/-- A timestamp of a row that was created at `created`. -/
def Dated (created now : Time) (t : Option Time) : Prop := ∀ x, t = some x → created ≤ x ∧ x ≤ now

structure Job.Timely (now : Time) (j : Job) : Prop where
  created : j.createdAt ≤ now
  started : Dated j.createdAt now j.startedAt
  completed : Dated j.createdAt now j.completedAt

structure Doc.Timely (now : Time) (d : Doc) : Prop where
  created : d.createdAt ≤ now
  fetched : Dated d.createdAt now d.fetchedAt
  uploaded : Dated d.createdAt now d.uploadedAt
  both : d.uploadedAt ≠ none → d.fetchedAt ≠ none

theorem Dated.later {created now now' : Time} {t : Option Time} (h : Dated created now t)
    (hnow : now ≤ now') : Dated created now' t := fun x hx =>
  ⟨(h x hx).1, (h x hx).2.trans hnow⟩

theorem Dated.none (created now : Time) : Dated created now none := fun x hx => by cases hx

theorem Dated.some {created now x : Time} (h : created ≤ x) (h' : x ≤ now) :
    Dated created now (some x) := fun y hy => by
  obtain rfl := Option.some.inj hy
  exact ⟨h, h'⟩

theorem Job.Timely.later {now now' : Time} {j : Job} (h : j.Timely now) (hnow : now ≤ now') :
    j.Timely now' := ⟨h.created.trans hnow, h.started.later hnow, h.completed.later hnow⟩

theorem Doc.Timely.later {now now' : Time} {d : Doc} (h : d.Timely now) (hnow : now ≤ now') :
    d.Timely now' :=
  ⟨h.created.trans hnow, h.fetched.later hnow, h.uploaded.later hnow, h.both⟩

section Writes

variable {now : Time}

/-- A run between the creation of its job and the present writes its job row in time. -/
theorem Job.Timely.runWrite {I : Type} {j : Job} (h : j.Timely now) {r : Run}
    (hcreated : j.createdAt ≤ r.started) (hstarted : r.started ≤ now) (act : WorkerAct I) :
    (r.jobWrite now act j).Timely now := by
  unfold Run.jobWrite
  split
  · exact ⟨h.created, h.started, .some hcreated hstarted⟩
  · exact ⟨h.created, .some hcreated hstarted, h.completed⟩
  · exact ⟨h.created, h.started, .some h.created le_rfl⟩
  · exact ⟨h.created, h.started, h.completed⟩
  · exact h

theorem Job.Timely.sessionWrite {j : Job} (h : j.Timely now) (session : Session) (act : ApiAct)
    (id : Uuid) : (session.jobWrite act id j).Timely now := by
  unfold Session.jobWrite
  split
  · split
    · exact ⟨h.created, h.started, .none _ _⟩
    · exact h
  · split
    · exact ⟨h.created, h.started, h.completed⟩
    · exact h
  · split
    · exact ⟨h.created, h.started, h.completed⟩
    · exact h
  · exact h

theorem Job.Timely.reaped {j : Job} (h : j.Timely now) : (ReaperSweep.failRow j).Timely now := by
  unfold ReaperSweep.failRow
  split
  · exact ⟨h.created, h.started, h.completed⟩
  · exact h

theorem Doc.Timely.setStatus {d : Doc} (h : d.Timely now) (status : DocStatus) :
    (d.setStatus status).Timely now := ⟨h.created, h.fetched, h.uploaded, h.both⟩

/-- Two readings of the clock between the creation of a row and the present. -/
structure Stamps.Between (created now : Time) (stamps : Stamps) : Prop where
  created : created ≤ stamps.fetchedAt
  ordered : stamps.fetchedAt ≤ stamps.uploadedAt
  past : stamps.uploadedAt ≤ now

theorem Doc.Timely.applyOutcome {d : Doc} (h : d.Timely now) (outcome : FetchOutcome)
    (retries : ℕ) {stamps : Stamps} (hs : stamps.Between d.createdAt now) :
    (d.applyOutcome outcome retries stamps).Timely now := by
  have hfetched : Dated d.createdAt now (some stamps.fetchedAt) :=
    .some hs.created (hs.ordered.trans hs.past)
  have huploaded : Dated d.createdAt now (some stamps.uploadedAt) :=
    .some (hs.created.trans hs.ordered) hs.past
  cases outcome with
  | error message => exact ⟨h.created, h.fetched, h.uploaded, h.both⟩
  | ok fetched =>
    simp only [Doc.applyOutcome, Doc.applyFetched]
    split
    · exact ⟨h.created, hfetched, huploaded, fun _ => Option.some_ne_none _⟩
    · split
      · exact ⟨h.created, hfetched, h.uploaded, fun _ => Option.some_ne_none _⟩
      · exact ⟨h.created, hfetched, h.uploaded, fun _ => Option.some_ne_none _⟩

/-- An outcome that dates an upload dates the fetch too. -/
theorem Doc.applyOutcome_uploadedAt {d : Doc} {outcome : FetchOutcome} {retries : ℕ} {stamps : Stamps}
    (h : (d.applyOutcome outcome retries stamps).uploadedAt ≠ d.uploadedAt) :
    (d.applyOutcome outcome retries stamps).fetchedAt = some stamps.fetchedAt ∧
      (d.applyOutcome outcome retries stamps).uploadedAt = some stamps.uploadedAt := by
  cases outcome with
  | error message => exact (h rfl).elim
  | ok fetched =>
    simp only [Doc.applyOutcome, Doc.applyFetched] at h ⊢
    split at h
    · rename_i hup
      rw [if_pos hup]
      exact ⟨rfl, rfl⟩
    · split at h <;> exact (h rfl).elim

/-- What a run that is about to commit a result knows of the time. -/
def Run.OnTime (now : Time) (r : Run) (doc : Uuid) (d : Doc) : Prop :=
  ∀ todo outcome, r.phase = .settling doc todo outcome → d.createdAt ≤ r.fetchedAt ∧ r.fetchedAt ≤ now

theorem Doc.Timely.docWrite {I : Type} {d : Doc} (h : d.Timely now) {r : Run} {id : Uuid}
    (hr : r.OnTime now id d) (act : WorkerAct I) : (r.docWrite now act id d).Timely now := by
  have skipped (skipped : List Uuid) : (Run.skipRow skipped id d).Timely now := by
    unfold Run.skipRow
    split
    · exact h.setStatus .skipped
    · exact h
  unfold Run.docWrite
  split
  · exact skipped _
  · unfold Run.fetchingRow
    split
    · exact (skipped _).setStatus .fetching
    · exact skipped _
  · rename_i doc todo outcome hp
    by_cases hid : id = doc
    · subst hid
      obtain ⟨hcreated, hpast⟩ := hr todo outcome hp
      simpa [Run.settleRow] using h.applyOutcome outcome _ ⟨hcreated, hpast, le_rfl⟩
    · simpa [Run.settleRow, hid] using h
  · exact skipped _
  · exact h

/-- Only the commit of a result dates an upload, and it dates the fetch before it. -/
theorem Run.docWrite_uploadedAt {I : Type} {d : Doc} {r : Run} {act : WorkerAct I} {id : Uuid}
    (hr : r.OnTime now id d) (h : (r.docWrite now act id d).uploadedAt ≠ d.uploadedAt) :
    ∃ t t', (r.docWrite now act id d).fetchedAt = some t ∧
      (r.docWrite now act id d).uploadedAt = some t' ∧ t ≤ t' := by
  have skipped (skipped : List Uuid) : (Run.skipRow skipped id d).uploadedAt = d.uploadedAt := by
    unfold Run.skipRow
    split <;> rfl
  unfold Run.docWrite at h ⊢
  split at h
  · exact (h (skipped _)).elim
  · unfold Run.fetchingRow at h
    split at h
    · exact (h (skipped _)).elim
    · exact (h (skipped _)).elim
  · rename_i doc todo outcome hp
    by_cases hid : id = doc
    · subst hid
      simp only [Run.settleRow, if_true] at h ⊢
      obtain ⟨hfetched, huploaded⟩ := Doc.applyOutcome_uploadedAt h
      exact ⟨_, _, hfetched, huploaded, (hr todo outcome hp).2⟩
    · simp [Run.settleRow, hid] at h
  · exact (h (skipped _)).elim
  · exact (h rfl).elim

end Writes

namespace JobMachine

open TransitionRuns

section Times

variable [PyText] {I W : Type} {F : Fetcher I W} {cfg : Settings} {σ τ : State W} {a : Action I}

/-- The rows are in time; a run has been handed its task after its job was created, and what it has
fetched was there after its document was. -/
structure Timely (σ : State W) : Prop where
  wellFormed : WellFormed σ
  listed : Listed σ
  jobs : ∀ id j, σ.store.jobs.get id = some j → j.Timely σ.now
  docs : ∀ d row, σ.store.docs.get d = some row → row.Timely σ.now
  started : ∀ run, (σ.runs run).phase ≠ .idle → (σ.runs run).started ≤ σ.now
  created : ∀ run, (σ.runs run).phase ≠ .idle →
    ∀ j, σ.store.jobs.get (σ.runs run).task.jobId = some j → j.createdAt ≤ (σ.runs run).started
  fetched : ∀ run doc todo outcome, (σ.runs run).phase = .settling doc todo outcome →
    ∃ row, σ.store.docs.get doc = some row ∧ row.createdAt ≤ (σ.runs run).fetchedAt ∧
      (σ.runs run).fetchedAt ≤ σ.now

omit [PyText] in
theorem timely_start (w : W) (now : Time) : Timely (State.start w now) where
  wellFormed := wellFormed_start w now
  listed := listed_start w now
  jobs id j hj := by cases hj
  docs d row hrow := by cases hrow
  started run hp := (hp rfl).elim
  created run hp := (hp rfl).elim
  fetched run doc todo outcome hp := by cases hp

/-- Time does not run backwards. -/
theorem StepCase.now_le (hs : StepCase F cfg σ a τ) : σ.now ≤ τ.now := by
  cases hs with
  | tick => exact Nat.le_add_right _ _
  | _ => exact le_rfl

omit [PyText] in
/-- A run keeps the time at which it was handed its task. -/
theorem workerStep_started_eq {now : Time} {s : Store} {w : W} {r : Run} {act : WorkerAct I}
    {e : Effect W} (h : workerStep F now s w r act = some e) : e.run.started = r.started := by
  cases workerStep_cases F now s w r h <;> rfl

theorem Timely.jobWrite (h : Timely σ) (hs : StepCase F cfg σ a τ) {id : Uuid} {j : Job}
    (hj : σ.store.jobs.get id = some j) : (a.jobWrite σ id j).Timely σ.now := by
  have htime := h.jobs id j hj
  cases hs with
  | @worker run act e hw =>
    have hidle : (σ.runs run).phase ≠ .idle := fun hp => by
      simpa [hp, Phase.live] using workerStep_live hw
    simp only [Action.jobWrite]
    split
    · rename_i hid
      exact htime.runWrite (h.created run hidle j (hid ▸ hj)) (h.started run hidle) act
    · exact htime
  | api ha => exact htime.sessionWrite _ _ _
  | sweepFail => exact htime.reaped
  | _ => exact htime

omit [PyText] in
/-- A run comes to commit a result by the return of its fetch, which it dates. -/
theorem workerStep_dates {now : Time} {s : Store} {w : W} {r : Run} {act : WorkerAct I}
    {e : Effect W} {doc : Uuid} {todo : List Uuid} {outcome : FetchOutcome}
    (h : workerStep F now s w r act = some e) (hp : e.run.phase = .settling doc todo outcome) :
    r.phase = .awaiting doc todo ∧ e.store = s ∧ e.run.fetchedAt = now := by
  cases workerStep_cases F now s w r h with
  | receive hawait hd =>
    obtain ⟨rfl, rfl, -⟩ := Phase.settling.inj hp
    exact ⟨hawait, rfl, rfl⟩
  | finish _ =>
    by_cases hcb : truthy r.job.callbackUrl = true <;> simp [finishJob, hcb] at hp
  | _ => simp [drain, claim, enterLoop, markFetching, callFetcher, settleDoc, notifyCallback, abortRun,
      loseRun] at hp

omit [PyText] in
/-- A document that a run waits for has a row. -/
theorem awaited_row {s : Store} {r : Run} (hl : r.Listing s) {doc : Uuid} {todo : List Uuid}
    (hp : r.phase = .awaiting doc todo) : ∃ row, s.docs.get doc = some row := by
  have hpending : doc ∈ r.docIds := hl.pending.subset (by rw [hp]; exact List.mem_cons_self)
  have hkey : doc ∈ s.docKeys r.task.jobId := ((hl.keys (by rw [hp]; rfl)).mem_iff).mp hpending
  obtain ⟨p, hrow, rfl⟩ := List.mem_map.mp hkey
  exact ⟨p.2, ((Table.mem_select_iff _ _ _ _).mp hrow).1⟩

omit [PyText] in
theorem Timely.onTime (h : Timely σ) {run : ℕ} {d : Uuid} {row : Doc}
    (hrow : σ.store.docs.get d = some row) : (σ.runs run).OnTime σ.now d row := by
  intro todo outcome hp
  obtain ⟨row', hrow', htimes⟩ := h.fetched run d todo outcome hp
  obtain rfl := Option.some.inj (hrow'.symm.trans hrow)
  exact htimes

theorem Timely.fetched_step (h : Timely σ) (hs : StepCase F cfg σ a τ) {run : ℕ} {doc : Uuid}
    {todo : List Uuid} {outcome : FetchOutcome} (hp : (τ.runs run).phase = .settling doc todo outcome) :
    ∃ row, τ.store.docs.get doc = some row ∧ row.createdAt ≤ (τ.runs run).fetchedAt ∧
      (τ.runs run).fetchedAt ≤ τ.now := by
  rcases hs.run_course run with ⟨-, heq⟩ | ⟨-, -, task, -, heq⟩ | ⟨act, e, -, rfl, hw⟩
  · rw [heq] at hp ⊢
    obtain ⟨row, hrow, hcreated, hpast⟩ := h.fetched run doc todo outcome hp
    refine ⟨_, hs.doc hrow, ?_, hpast.trans hs.now_le⟩
    rwa [(hs.extends.sameDoc hrow (hs.doc hrow)).createdAt]
  · rw [heq] at hp
    cases hp
  · rw [afterWorker_runs_self] at hp ⊢
    obtain ⟨hawait, hstore, hread⟩ := workerStep_dates hw hp
    obtain ⟨row, hrow⟩ := awaited_row (h.listed run) hawait
    have hsame : e.store.docs.get doc = some row := hstore ▸ hrow
    exact ⟨row, hsame, hread ▸ (h.docs doc row hrow).created, hread.le⟩

theorem Timely.step (h : Timely σ) (hs : StepCase F cfg σ a τ) : Timely τ := by
  have hnow := hs.now_le
  have hwf := hs.wellFormed h.wellFormed
  -- the row of a job that a run is about was there before the step
  have before {run : ℕ} (hp : (σ.runs run).phase ≠ .idle) {j' : Job}
      (hj' : τ.store.jobs.get (σ.runs run).task.jobId = some j') :
      ∃ j, σ.store.jobs.get (σ.runs run).task.jobId = some j ∧ j'.createdAt = j.createdAt := by
    obtain ⟨j, hj⟩ := (Table.mem_keys_iff _ _).mp (h.wellFormed.run_keys hp)
    exact ⟨j, hj, (hs.extends.sameJob hj hj').createdAt⟩
  refine ⟨hwf, hs.listed h.wellFormed h.listed, fun id j' hj' => ?_, fun d row' hrow' => ?_,
    fun run hp => ?_, fun run hp j' hj' => ?_, fun _ _ _ _ => h.fetched_step hs⟩
  · rcases hs.job_rows id with hold | ⟨-, req, orderId, key, docTypes, hnew⟩
    · obtain ⟨j, hj, rfl⟩ := Option.map_eq_some_iff.mp (hold.symm.trans hj')
      exact (h.jobWrite hs hj).later hnow
    · obtain rfl := Option.some.inj (hnew.symm.trans hj')
      exact ⟨hnow, .none _ _, .none _ _⟩
  · rcases hs.doc_origin hrow' with ⟨row, hrow, rfl⟩ | ⟨job, orderId, docType, -, rfl⟩
    · have htime := h.docs d row hrow
      cases a with
      | worker run act => exact (htime.docWrite (h.onTime hrow) act).later hnow
      | _ => exact htime.later hnow
    · exact ⟨hnow, .none _ _, .none _ _, fun h => (h rfl).elim⟩
  · rcases hs.run_course run with ⟨-, heq⟩ | ⟨-, -, task, -, heq⟩ | ⟨act, e, -, rfl, hw⟩
    · rw [heq] at hp ⊢
      exact (h.started run hp).trans hnow
    · rw [heq]
      exact hnow
    · have hidle : (σ.runs run).phase ≠ .idle := fun hp => by
        simpa [hp, Phase.live] using workerStep_live hw
      rw [afterWorker_runs_self, workerStep_started_eq hw]
      exact (h.started run hidle).trans hnow
  · rcases hs.run_course run with ⟨-, heq⟩ | ⟨-, -, task, htask, heq⟩ | ⟨act, e, -, rfl, hw⟩
    · rw [heq] at hp hj' ⊢
      obtain ⟨j, hj, hcreated⟩ := before hp hj'
      exact hcreated ▸ h.created run hp j hj
    · rw [heq] at hj' ⊢
      obtain ⟨j, hj⟩ := (Table.mem_keys_iff _ _).mp (h.wellFormed.queue task htask).mem_keys
      have hsame := (hs.extends.sameJob hj hj').createdAt
      rw [hsame]
      exact (h.jobs _ j hj).created
    · have hidle : (σ.runs run).phase ≠ .idle := fun hp => by
        simpa [hp, Phase.live] using workerStep_live hw
      rw [afterWorker_runs_self, (workerStep_task hw).1] at hj'
      obtain ⟨j, hj, hcreated⟩ := before hidle hj'
      rw [afterWorker_runs_self, workerStep_started_eq hw, hcreated]
      exact h.created run hidle j hj

/-- A step that dates an upload dates its fetch, and no later. -/
theorem Timely.uploaded_step (h : Timely σ) (hs : StepCase F cfg σ a τ) {d : Uuid} {row row' : Doc}
    (hrow : σ.store.docs.get d = some row) (hrow' : τ.store.docs.get d = some row')
    (hdated : row'.uploadedAt ≠ row.uploadedAt) :
    ∃ t t', row'.fetchedAt = some t ∧ row'.uploadedAt = some t' ∧ t ≤ t' := by
  obtain rfl := Option.some.inj (hrow'.symm.trans (hs.doc hrow))
  cases a with
  | worker run act => exact Run.docWrite_uploadedAt (h.onTime hrow) hdated
  | _ => exact (hdated rfl).elim

/-- In every reachable state a job was created before it was started or completed and neither
lies in the future; and a document was created before it was fetched or uploaded, and was fetched if it
was uploaded. Whatever step dates an upload next, it dates the fetch before it. -/
theorem timestamps_ordered (h : Reachable F cfg σ) :
    (∀ id j, σ.store.jobs.get id = some j → j.Timely σ.now) ∧
      (∀ d row, σ.store.docs.get d = some row → row.Timely σ.now) ∧
      ∀ a τ, step F cfg σ a = some τ → ∀ d row row', σ.store.docs.get d = some row →
        τ.store.docs.get d = some row' → row'.uploadedAt ≠ row.uploadedAt →
        ∃ t t', row'.fetchedAt = some t ∧ row'.uploadedAt = some t' ∧ t ≤ t' := by
  have htime : Timely σ := h.invariant timely_start fun _ _ _ hσ hs => hσ.step hs
  exact ⟨htime.jobs, htime.docs, fun a τ hs d row row' =>
    htime.uploaded_step (step_cases F cfg hs)⟩

end Times

section Concrete

open scoped PyText.Ascii

/-- The job of `wholeRun`, with time passing between its steps. -/
def slowRun : List (Action Unit) := wholeRun.flatMap fun a => [.tick 1, a]

def slowState : State Unit := outcome (step linkFetcher {}) (State.start () 0) slowRun

theorem slow_run_times : ∃ j, slowState.store.jobs.get 7 = some j ∧ j.createdAt = 3 ∧
    j.startedAt = some 6 ∧ j.completedAt = some 41 ∧ j.Timely slowState.now := by
  have htimes : (slowState.store.jobs.get 7).map (fun j => (j.createdAt, j.startedAt, j.completedAt)) =
      some (3, some 6, some 41) := by decide +kernel
  obtain ⟨j, hj, hkey⟩ := Option.map_eq_some_iff.mp htimes
  obtain ⟨hcreated, hrest⟩ := Prod.mk.inj hkey
  obtain ⟨hstarted, hcompleted⟩ := Prod.mk.inj hrest
  have hreach : Reachable linkFetcher {} slowState :=
    ⟨(), 0, slowRun, .of_exec (exec_outcome (by decide +kernel))⟩
  exact ⟨j, hj, hcreated, hstarted, hcompleted, (timestamps_ordered hreach).1 7 j hj⟩

end Concrete
end JobMachine
end ResearchEngine
