import ResearchEngine.CancelSafety

/-! Who will still see to an open job: a delivery of its task, or the reaper. -/
namespace ResearchEngine

/-- A job that is not at rest. -/
def JobStatus.isOpen : JobStatus → Bool
  | .queued | .running | .cancelling => true
  | _ => false

namespace JobMachine

open TransitionRuns ReaperSweep

section Conditions

variable {I W : Type}

/-- The broker holds a task of the job, or a run has not returned. -/
def Outstanding (σ : State W) (job : Uuid) : Prop :=
  (∃ t ∈ σ.queue, t.jobId = job) ∨
    ∃ r, (σ.runs r).task.jobId = job ∧ (σ.runs r).phase.live = true

/-- From some time on every sweep publishes the job again, or fails it. -/
def WillBeReaped (cfg : Settings) (s : Store) (job : Uuid) : Prop :=
  ∃ old, ∀ now, old ≤ now → job ∈ (staleTasks cfg now s).map Task.jobId ∨
    ∃ j, s.jobs.get job = some j ∧ matchesRunning j = true

def NotOrphaned (cfg : Settings) (job : Uuid) (σ : State W) : Prop :=
  ∀ j, σ.store.jobs.get job = some j → j.status.isOpen = true →
    Outstanding σ job ∨ WillBeReaped cfg σ.store job

/-- A cancel that had read `running` or `cancelling` commits while somebody is left to
make the job's last commit, and no run breaks off for good while the job is `cancelling`
unless another one is left. -/
def LeavesWorker (job : Uuid) (σ : State W) (a : Action I) : Prop :=
  (σ.status job = some .cancelling → LeavesServed job σ a) ∧
    match a with
    | .api n .commit => ∀ seen reason, σ.sessions n = .cancelling job seen reason →
        seen ≠ .queued → ServedBut σ job none
    | _ => True

/-- A running job has its start time, and a job being cancelled has somebody left. -/
structure Attended (job : Uuid) (σ : State W) : Prop where
  wellFormed : WellFormed σ
  started : ∀ j, σ.store.jobs.get job = some j → j.status = .running → j.startedAt ≠ none
  served : σ.status job = some .cancelling → ServedBut σ job none

theorem attended_start (w : W) (now : Time) (job : Uuid) : Attended job (State.start w now) where
  wellFormed := wellFormed_start w now
  started _ hj := by cases hj
  served hst := by cases hst

theorem ServedBut.outstanding {σ : State W} {job : Uuid} (h : ServedBut σ job none) :
    Outstanding σ job := by
  rcases h with ht | ⟨r, -, hj, hs⟩
  · exact Or.inl ht
  · refine Or.inr ⟨r, hj, ?_⟩
    unfold Run.serving at hs
    unfold Phase.live
    split at hs <;> simp_all

theorem Attended.notOrphaned {cfg : Settings} {job : Uuid} {σ : State W} (h : Attended job σ) :
    NotOrphaned cfg job σ := by
  intro j hj hopen
  have hlive := h.wellFormed.store.live job j hj
  cases hst : j.status with
  | queued =>
    refine Or.inr ⟨j.createdAt + 60 * cfg.reaperStaleQueuedMinutes + 1, fun now hnow => Or.inl ?_⟩
    exact (mem_staleTasks_iff cfg now σ.store job).mpr ⟨j, hj, hlive, hst, Nat.lt_of_succ_le hnow⟩
  | running =>
    refine Or.inr ⟨0, fun now _ => Or.inr ⟨j, hj, ?_⟩⟩
    exact decide_eq_true ⟨hst, Option.isSome_iff_ne_none.mpr (h.started j hj hst)⟩
  | cancelling => exact Or.inl (h.served (by simp [State.status, hj, hst])).outstanding
  | _ => simp [hst, JobStatus.isOpen] at hopen

end Conditions

section Steps

variable {I W : Type} {F : Fetcher I W} {job : Uuid} {σ τ : State W}

/-- Only the `running` commit makes a row running, and it sets the start time. -/
theorem workerStep_started {now : Time} {s : Store} {w : W} {r : Run} {act : WorkerAct I}
    {e : Effect W} (h : workerStep F now s w r act = some e) {j' : Job}
    (hj' : e.store.jobs.get r.task.jobId = some j') (hr : j'.status = .running) :
    j'.startedAt ≠ none ∨ ∃ j, s.jobs.get r.task.jobId = some j ∧ j.status = .running ∧
      j'.startedAt = j.startedAt := by
  have write : ∀ {t : Store} {g : Job → Job}, (t.modifyJob r.task.jobId g).jobs.get r.task.jobId =
      some j' → ∃ j, t.jobs.get r.task.jobId = some j ∧ g j = j' := by
    intro t g hget
    simpa using hget
  cases workerStep_cases F now s w r h with
  | drain hp =>
    obtain ⟨j, -, rfl⟩ := write hj'
    cases hr
  | claim hp =>
    obtain ⟨j, -, rfl⟩ := write hj'
    exact Or.inl (by simp [Run.claimRow])
  | finish hp =>
    obtain ⟨j, -, rfl⟩ := write hj'
    exact ((resolveJobTerminalStatus_ne_open _ _).1 hr).elim
  | @notify delivered hp =>
    cases delivered with
    | false => exact Or.inr ⟨j', hj', hr, rfl⟩
    | true =>
      obtain ⟨j, hj, rfl⟩ := write hj'
      exact Or.inr ⟨j, hj, hr, rfl⟩
  | _ => exact Or.inr ⟨j', hj', hr, rfl⟩

theorem Run.statusWrite_ne_cancelling (r : Run) (act : WorkerAct I) :
    r.statusWrite act ≠ some .cancelling := by
  cases act with
  | finish =>
    simp only [Run.statusWrite, ne_eq, Option.some.injEq]
    exact (resolveJobTerminalStatus_ne_open _ _).2
  | _ => simp [Run.statusWrite]

theorem Session.statusWrite_cancelling {id : Uuid} {session : Session}
    (h : session.statusWrite id = some .cancelling) :
    ∃ seen reason, session = .cancelling id seen reason ∧ seen ≠ .queued := by
  cases session with
  | cancelling j seen reason =>
    simp only [Session.statusWrite] at h
    split at h
    · rename_i hid
      subst hid
      refine ⟨seen, reason, rfl, ?_⟩
      rintro rfl
      cases h
    · cases h
  | reviewing j seen | archiving j seen =>
    simp only [Session.statusWrite] at h
    split at h <;> cases h
  | _ => cases h

variable [PyText] {cfg : Settings} {a : Action I}

theorem Attended.started_step (h : Attended job σ) (hs : StepCase F cfg σ a τ) {j' : Job}
    (hj' : τ.store.jobs.get job = some j') (hr : j'.status = .running) : j'.startedAt ≠ none := by
  cases hs with
  | @worker run act e hw =>
    replace hj' : e.store.jobs.get job = some j' := hj'
    by_cases hj : (σ.runs run).task.jobId = job
    · subst hj
      rcases workerStep_started hw hj' hr with hst | ⟨j, hj, hrun, hst⟩
      · exact hst
      · rw [hst]
        exact h.started j hj hrun
    · obtain ⟨g, hjobs, -⟩ := workerStep_jobs hw
      rw [hjobs, Table.get_modify_other _ _ fun he => hj he.symm] at hj'
      exact h.started j' hj' hr
  | @api n act e ha =>
    replace hj' : e.store.jobs.get job = some j' := hj'
    rcases apiCase_row ha hj' with hold | hq | ⟨-, hwr⟩
    · exact h.started j' hold hr
    · rw [hr] at hq
      cases hq
    · rw [hr] at hwr
      exact (Session.statusWrite_ne_running _ _ hwr).elim
  | sweepFail =>
    obtain ⟨j, hj, rfl⟩ : ∃ j, σ.store.jobs.get job = some j ∧ failRow j = j' := by simpa using hj'
    unfold failRow at hr ⊢
    split at hr
    · cases hr
    · rename_i hm
      rw [if_neg hm]
      exact h.started j hj hr
  | _ => exact h.started j' hj' hr

/-- A row that is `cancelling` was so before, or a cancel has committed it. -/
theorem StepCase.cancelling_cases (hs : StepCase F cfg σ a τ)
    (hst : τ.status job = some .cancelling) :
    (σ.status job = some .cancelling ∧ ∀ run act, a = .worker run act →
        (σ.runs run).task.jobId = job → ∀ st ∈ (σ.runs run).statusWrite act, st = .cancelling) ∨
      ∃ n seen reason, a = .api n .commit ∧ σ.sessions n = .cancelling job seen reason ∧
        seen ≠ .queued := by
  obtain ⟨j', hj', hc⟩ := State.status_eq_some hst
  have before : ∀ {j}, σ.store.jobs.get job = some j → j.status = .cancelling →
      σ.status job = some .cancelling := fun hj hcj => by simp [State.status, hj, hcj]
  cases hs with
  | @worker run act e hw =>
    replace hj' : e.store.jobs.get job = some j' := hj'
    obtain ⟨g, hjobs, hg⟩ := workerStep_jobs hw
    by_cases hj : (σ.runs run).task.jobId = job
    · rw [hjobs, hj, Table.get_modify_self] at hj'
      obtain ⟨j, hget, rfl⟩ := Option.map_eq_some_iff.mp hj'
      rw [(hg j).2] at hc
      cases hwr : (σ.runs run).statusWrite act with
      | none =>
        rw [hwr] at hc
        refine Or.inl ⟨before hget hc, fun run' act' ha _ st hst => ?_⟩
        cases ha
        rw [hwr] at hst
        cases hst
      | some st =>
        rw [hwr, Option.getD_some] at hc
        exact (Run.statusWrite_ne_cancelling _ _ (hc ▸ hwr)).elim
    · rw [hjobs, Table.get_modify_other _ _ fun he => hj he.symm] at hj'
      refine Or.inl ⟨before hj' hc, fun run' act' ha hjob => ?_⟩
      cases ha
      exact (hj hjob).elim
  | @api n act e ha =>
    replace hj' : e.store.jobs.get job = some j' := hj'
    rcases apiCase_row ha hj' with hold | hq | ⟨rfl, hwr⟩
    · exact Or.inl ⟨before hold hc, (fun _ _ ha => by cases ha)⟩
    · rw [hc] at hq
      cases hq
    · rw [hc] at hwr
      obtain ⟨seen, reason, hn, hq⟩ := Session.statusWrite_cancelling hwr
      exact Or.inr ⟨n, seen, reason, rfl, hn, hq⟩
  | sweepFail =>
    obtain ⟨j, hj, rfl⟩ : ∃ j, σ.store.jobs.get job = some j ∧ failRow j = j' := by simpa using hj'
    refine Or.inl ⟨before hj ?_, (fun _ _ ha => by cases ha)⟩
    unfold failRow at hc
    split at hc
    · cases hc
    · exact hc
  | _ => exact Or.inl ⟨before hj' hc, (fun _ _ ha => by cases ha)⟩

theorem Attended.step (h : Attended job σ) (hok : LeavesWorker job σ a)
    (hs : StepCase F cfg σ a τ) : Attended job τ where
  wellFormed := hs.wellFormed h.wellFormed
  started _ hj hr := h.started_step hs hj hr
  served hst := by
    rcases hs.cancelling_cases hst with ⟨hold, hwr⟩ | ⟨n, seen, reason, rfl, hn, hq⟩
    · exact hs.served h.wellFormed (hok.1 hold) (h.served hold)
        fun run act ha hj st hst => Or.inr (hwr run act ha hj st hst)
    · refine hs.served h.wellFormed trivial (hok.2 seen reason hn hq) fun run act ha => ?_
      cases ha

/-- While cancels come upon somebody who will finish the job, and nobody leaves it alone
in `cancelling`, an open job is never orphaned. -/
theorem never_orphaned {w : W} {now : Time} {as : List (Action I)}
    (h : Runs (step F cfg) (LeavesWorker job) (State.start w now) as σ) :
    NotOrphaned cfg job σ :=
  (h.invariant (I := Attended job) (fun _ _ _ hs hok hst => hs.step hok (step_cases F cfg hst))
    (attended_start w now job)).notOrphaned

end Steps

section Concrete

open scoped PyText.Ascii

/-- No cancel commit, and no run that breaks off. -/
def staysOn : Action Unit → Bool
  | .api _ .commit | .worker _ .abort | .worker _ (.lose _) => false
  | _ => true

theorem leavesWorker_of_staysOn {job : Uuid} {σ : State Unit} {a : Action Unit}
    (h : staysOn a = true) : LeavesWorker job σ a := by
  refine ⟨fun _ => ?_, ?_⟩
  · unfold LeavesServed
    split
    · cases h
    · cases h
    · trivial
  · split
    · cases h
    · trivial

theorem cancelled_run_outstanding : NotOrphaned {} 7 cancellingState := by
  have hbusy : Runs (step linkFetcher {}) (LeavesWorker 7) (State.start () 0) busyActs busyState :=
    .of_check (b := fun _ => staysOn) (fun _ _ => leavesWorker_of_staysOn) (by decide +kernel)
  have hcommit : step linkFetcher {} busyState (.api 1 .commit) = some cancellingState :=
    step_outcome (by decide +kernel)
  have hserved : ServedBut busyState 7 none := Or.inr ⟨0, by simp, by decide +kernel⟩
  exact never_orphaned (hbusy.append (.single hcommit ⟨fun _ => trivial, fun _ _ _ _ => hserved⟩))

/-- The worker is killed and its task not handed out again; then the job is cancelled. -/
def abandonedActs : List (Action Unit) :=
  submit ++ [.deliver 0 0, .worker 0 .read, .worker 0 (.list sampleDocs), .worker 0 .claim,
    .worker 0 (.lose false), .api 1 (.cancel 1 7 none), .api 1 .commit]

def abandonedState : State Unit := outcome (step linkFetcher {}) (State.start () 0) abandonedActs

theorem cancelling_job_orphaned :
    ¬ ∀ (as : List (Action Unit)) (σ : State Unit) (job : Uuid),
      Runs (step linkFetcher {}) Always (State.start () 0) as σ → NotOrphaned {} job σ := by
  intro h
  have hrun : Runs (step linkFetcher {}) Always (State.start () 0) abandonedActs abandonedState :=
    .of_exec (exec_outcome (by decide +kernel))
  have hst : abandonedState.status 7 = some .cancelling := by decide +kernel
  obtain ⟨j, hj, hc⟩ := State.status_eq_some hst
  rcases h _ _ 7 hrun j hj (by rw [hc]; rfl) with (⟨t, ht, -⟩ | ⟨r, -, hlive⟩) | ⟨old, hreap⟩
  · have hempty : abandonedState.queue = [] := by decide +kernel
    rw [hempty] at ht
    cases ht
  · by_cases h0 : r = 0
    · subst h0
      have hended : (abandonedState.runs 0).phase.live = false := by decide +kernel
      rw [hended] at hlive
      cases hlive
    · rw [idle_of_sole hrun (by decide) h0] at hlive
      cases hlive
  · rcases hreap old le_rfl with hstale | ⟨j', hj', hm⟩
    · obtain ⟨j', hj', -, hq, -⟩ := (mem_staleTasks_iff _ _ _ _).mp hstale
      obtain rfl := Option.some.inj (hj.symm.trans hj')
      rw [hc] at hq
      cases hq
    · obtain rfl := Option.some.inj (hj.symm.trans hj')
      simp [matchesRunning, hc] at hm

end Concrete

end JobMachine
end ResearchEngine
