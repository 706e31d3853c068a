import ResearchEngine.RowWrites
import ResearchEngine.RunLedger
import ResearchEngine.SequentialRun
import ResearchEngine.StableSort
import Mathlib.Data.Fintype.EquivFin

/-! How long a run of a worker can take, and that it never gets stuck: the steps a run has
left go down with each of its own steps, whatever else happens in between, and until it has
ended there is a step that it can take. -/
namespace ResearchEngine

/-- The steps that a run on `n` documents has left when nothing breaks it off. -/
def Phase.left (n : ℕ) : Phase → ℕ
  | .idle | .ended => 0
  | .delivered => 5 * n + 6
  | .loaded => 5 * n + 5
  | .claiming => 5 * n + 4
  | .claimed => 5 * n + 3
  | .looping todo => 5 * todo.length + 2
  | .marking _ todo => 5 * todo.length + 6
  | .calling _ todo => 5 * todo.length + 5
  | .awaiting _ todo => 5 * todo.length + 4
  | .settling _ todo _ => 5 * todo.length + 3
  | .draining | .notifying => 1

/-- The steps that break a run off. -/
def WorkerAct.breaks {I : Type} : WorkerAct I → Bool
  | .abort | .lose _ => true
  | _ => false

theorem Phase.left_pos {p : Phase} (h : p.live = true) (n : ℕ) : 0 < p.left n := by
  cases p <;> simp_all [Phase.live, Phase.left]

section RunStep

variable {I W : Type} {F : Fetcher I W} {now : Time} {s : Store} {w : W} {r : Run}
  {act : WorkerAct I} {e : Effect W}

theorem listing_length {job : Uuid} {order : List Uuid} {rows : List (Uuid × Doc)}
    (h : s.listForJob job order = some rows) : rows.length = (s.docKeys job).length := by
  obtain ⟨hkeys, hperm, -⟩ := Store.listForJob_eq_some h
  have hlen : (rows.map Prod.fst).length = rows.length := List.length_map _
  rw [← hlen, hkeys]
  exact hperm.length_eq

/-- Every step of a run takes one off the steps it has left. -/
theorem workerStep_left (h : workerStep F now s w r act = some e) :
    e.run.phase.left (s.docKeys r.task.jobId).length + 1 ≤
      r.phase.left (s.docKeys r.task.jobId).length := by
  cases workerStep_cases F now s w r h with
  | readGone hp hj => simp [hp, Phase.left]
  | readFound hp hj => simp [hp, Phase.left]
  | listCancelled hp hl hc => simp [hp, Phase.left]
  | listLive hp hl hc => simp [hp, Phase.left]
  | drain hp => simp [hp, drain, Phase.left]
  | claim hp => simp [hp, claim, Phase.left]
  | enter hp hl ho =>
    simp only [hp, enterLoop, Phase.left, List.length_map, listing_length hl]
    omega
  | rereadGone hp hj => simp [hp, Phase.left]
  | rereadCancelled hp hj hc =>
    simp only [hp, Phase.left, List.length_cons]
    omega
  | rereadLive hp hj hc =>
    simp only [hp, Phase.left, List.length_cons]
    omega
  | mark hp => simp [hp, markFetching, Phase.left]
  | call hp => simp [hp, callFetcher, Phase.left]
  | receive hp hd => simp [hp, receiveOutcome, Phase.left]
  | settle hp => simp [hp, settleDoc, Phase.left]
  | finish hp =>
    by_cases hcb : truthy r.job.callbackUrl = true <;> simp [hp, finishJob, hcb, Phase.left]
  | notify hp => simp [hp, notifyCallback, Phase.left]
  | abort hp => exact Phase.left_pos hp _
  | lose hp => exact Phase.left_pos hp _

/-- A run that has taken a step is not idle. -/
theorem workerStep_not_idle (h : workerStep F now s w r act = some e) : e.run.phase ≠ .idle := by
  cases workerStep_cases F now s w r h with
  | finish hp =>
    by_cases hcb : truthy r.job.callbackUrl = true <;> simp [finishJob, hcb]
  | _ => simp [drain, claim, enterLoop, markFetching, callFetcher, receiveOutcome, settleDoc,
      notifyCallback, abortRun, loseRun]

end RunStep

namespace JobMachine

open TransitionRuns

section Length

variable [PyText] {I W : Type} {F : Fetcher I W} {cfg : Settings} {σ τ : State W}

/-- What a step of the machine is to one run: a step of others, its delivery, or a step of
its own. -/
theorem StepCase.run_course {a : Action I} (hs : StepCase F cfg σ a τ) (run : ℕ) :
    (a.ofRun run = none ∧ τ.runs run = σ.runs run) ∨
      (a.ofRun run = none ∧ (σ.runs run).phase = .idle ∧
        ∃ task ∈ σ.queue, τ.runs run = startRun task σ.now) ∨
      ∃ act e, a.ofRun run = some act ∧ τ = σ.afterWorker run e ∧
        workerStep F σ.now σ.store σ.outside (σ.runs run) act = some e := by
  cases hs with
  | @deliver r i task hfree htask =>
    by_cases hr : r = run
    · subst hr
      exact .inr (.inl ⟨rfl, hfree, task, List.mem_of_getElem? htask, Function.update_self ..⟩)
    · exact .inl ⟨rfl, Function.update_of_ne (fun he => hr he.symm) _ _⟩
  | @worker r act e hw =>
    by_cases hr : r = run
    · subst hr
      exact .inr (.inr ⟨act, e, by simp [Action.ofRun], rfl, hw⟩)
    · exact .inl ⟨by simp [Action.ofRun, hr], Function.update_of_ne (fun he => hr he.symm) _ _⟩
  | _ => exact .inl ⟨rfl, rfl⟩

/-- The documents of the job that a run is about. -/
def State.documents (σ : State W) (run : ℕ) : ℕ :=
  (σ.store.docKeys (σ.runs run).task.jobId).length

/-- The documents of the job stay the same for as long as a run is about it. -/
theorem StepCase.documents {a : Action I} (hs : StepCase F cfg σ a τ) (hσ : WellFormed σ) {run : ℕ}
    (hidle : (σ.runs run).phase ≠ .idle) (htask : (τ.runs run).task = (σ.runs run).task) :
    τ.documents run = σ.documents run := by
  rw [State.documents, htask, hs.extends.listing _ (hσ.run_keys hidle)]
  rfl

/-- The steps taken and the steps left of a run, together never more than it had at first. -/
structure Measured (run taken : ℕ) (σ : State W) : Prop where
  wellFormed : WellFormed σ
  fresh : (σ.runs run).phase = .idle → taken = 0
  bound : taken + (σ.runs run).phase.left (σ.documents run) ≤ 5 * σ.documents run + 6

theorem Measured.step {run taken : ℕ} {a : Action I} (h : Measured run taken σ)
    (hs : StepCase F cfg σ a τ) :
    Measured run (taken + if (a.ofRun run).isSome then 1 else 0) τ := by
  have hwf := hs.wellFormed h.wellFormed
  have hbound := h.bound
  rcases hs.run_course run with ⟨hact, heq⟩ | ⟨hact, hidle, task, -, heq⟩ | ⟨act, e, hact, rfl, hw⟩
  · refine ⟨hwf, fun hp => by simpa [hact] using h.fresh (heq ▸ hp), ?_⟩
    by_cases hidle : (σ.runs run).phase = .idle
    · simp [hact, heq, hidle, h.fresh hidle, Phase.left]
    · simpa [hact, heq, hs.documents h.wellFormed hidle (congrArg Run.task heq)] using hbound
  · refine ⟨hwf, fun _ => by simpa [hact] using h.fresh hidle, ?_⟩
    simp [hact, heq, h.fresh hidle, startRun, Phase.left]
  · have hidle : (σ.runs run).phase ≠ .idle := fun hp => by
      simpa [hp, Phase.live] using workerStep_live hw
    have hdocs := hs.documents h.wellFormed hidle
      (by rw [afterWorker_runs_self]; exact (workerStep_task hw).1)
    have hleft := workerStep_left hw
    refine ⟨hwf, fun hp => ?_, ?_⟩
    · rw [afterWorker_runs_self] at hp
      exact (workerStep_not_idle hw hp).elim
    · rw [hdocs, afterWorker_runs_self, hact]
      simp only [State.documents] at hbound ⊢
      simp only [Option.isSome_some, if_true]
      omega

/-- The steps that a list of actions takes for one run. -/
def stepsOf (run : ℕ) (as : List (Action I)) : ℕ := (as.filterMap (Action.ofRun run)).length

/-- In every run of the machine, however the steps of runs, sessions, broker and reaper are
interleaved, a worker run takes at most five steps for each document of its job and six
more. -/
theorem run_steps_bounded {w : W} {now : Time} {as : List (Action I)}
    (h : Runs (step F cfg) Always (State.start w now) as σ) (run : ℕ) :
    stepsOf run as + (σ.runs run).phase.left (σ.documents run) ≤ 5 * σ.documents run + 6 := by
  have hstart : Measured run 0 (State.start w now) :=
    ⟨wellFormed_start w now, fun _ => rfl, by simp [State.start, Run.idle, Phase.left]⟩
  have hend := h.counted (f := fun _ a => if (a.ofRun run).isSome then 1 else 0)
    (P := Measured run) (fun n σ a τ hm _ hst => hm.step (step_cases F cfg hst)) hstart
  rw [h.total_countP (p := fun a => (a.ofRun run).isSome)] at hend
  have hbound := hend.bound
  rw [stepsOf, List.length_filterMap_eq_countP]
  omega

end Length

section Concrete

open scoped PyText.Ascii

/-- One worker takes job 7 from the queue to its final commit. -/
def wholeRun : List (Action Unit) :=
  submit ++ [.deliver 0 0, .worker 0 .read, .worker 0 (.list sampleDocs), .worker 0 .claim,
    .worker 0 (.enter sampleDocs (some sampleOrder))] ++
    (List.replicate 6 (research 0 ())).flatten ++ [.worker 0 .finish]

def wholeState : State Unit := outcome (step linkFetcher {}) (State.start () 0) wholeRun

theorem whole_run_steps : stepsOf 0 wholeRun = 35 ∧ wholeState.documents 0 = 6 ∧
    stepsOf 0 wholeRun + (wholeState.runs 0).phase.left (wholeState.documents 0) ≤
      5 * wholeState.documents 0 + 6 :=
  ⟨by decide, by decide +kernel, run_steps_bounded (.of_exec (exec_outcome (by decide +kernel))) 0⟩

end Concrete

/-! A run that is not broken off comes to its end. -/

section Progress

variable [PyText] {I W : Type} {F : Fetcher I W} {cfg : Settings} {σ τ : State W}

omit [PyText] in
/-- The database has an answer to every listing. -/
theorem exists_listing (s : Store) (job : Uuid) :
    ∃ order rows, s.listForJob job order = some rows := by
  let rows := StableSort.sortByRank (fun r : Uuid × Doc => r.2.createdAt) (s.docsForJob job)
  have hperm : rows.Perm (s.docsForJob job) := StableSort.sortByRank_perm _ _
  have hget : ∀ r ∈ rows, s.docs.get r.1 = some r.2 := fun r hr =>
    ((Table.mem_select_iff _ _ _ _).mp (hperm.mem_iff.mp hr)).1
  have hrows : ((rows.map Prod.fst).filterMap fun d => (s.docs.get d).map (d, ·)) = rows := by
    rw [List.filterMap_map]
    refine (List.filterMap_congr fun r hr => ?_).trans List.filterMap_some
    simp [hget r hr]
  refine ⟨rows.map Prod.fst, rows, ?_⟩
  unfold Store.listForJob
  rw [hrows, if_pos ⟨hperm.map Prod.fst, StableSort.sortByRank_pairwise _ _⟩]

omit [PyText] in
/-- A live run on a job that is there has a step to take. -/
theorem workerStep_progress {now : Time} {s : Store} {w : W} {r : Run} (input : I)
    (hl : r.Listing s) (hlive : r.phase.live = true) :
    ∃ act e, act.breaks = false ∧ workerStep F now s w r act = some e := by
  cases hp : r.phase with
  | idle => simp [hp, Phase.live] at hlive
  | ended => simp [hp, Phase.live] at hlive
  | delivered => exact ⟨.read, readJob s w r, rfl, by simp [workerStep, hp]⟩
  | loaded =>
    obtain ⟨order, rows, hrows⟩ := exists_listing s r.task.jobId
    exact ⟨.list order, listDocs s w r rows, rfl, by simp [workerStep, hp, hrows]⟩
  | draining => exact ⟨.drain, drain s w r, rfl, by simp [workerStep, hp]⟩
  | claiming => exact ⟨.claim, claim s w r, rfl, by simp [workerStep, hp]⟩
  | claimed =>
    obtain ⟨order, rows, hrows⟩ := exists_listing s r.task.jobId
    exact ⟨.enter order none, enterLoop s w r rows none, rfl, by simp [workerStep, hp, hrows]⟩
  | looping todo =>
    cases todo with
    | nil => exact ⟨.finish, finishJob now s w r, rfl, by simp [workerStep, hp]⟩
    | cons doc todo => exact ⟨.reread, rereadJob s w r doc todo, rfl, by simp [workerStep, hp]⟩
  | marking doc todo => exact ⟨.mark, markFetching s w r doc todo, rfl, by simp [workerStep, hp]⟩
  | calling doc todo => exact ⟨.call, callFetcher s w r doc todo, rfl, by simp [workerStep, hp]⟩
  | awaiting doc todo =>
    have hmem : doc ∈ r.docIds := hl.pending.subset (by simp [hp, Phase.pending])
    obtain ⟨d, hd⟩ := Run.copyOf_isSome hmem
    exact ⟨.receive input, receiveOutcome F now s w r input doc todo d, rfl,
      by simp [workerStep, hp, hd]⟩
  | settling doc todo outcome =>
    exact ⟨.settle, settleDoc now s w r doc todo outcome, rfl, by simp [workerStep, hp]⟩
  | notifying =>
    exact ⟨.notify true, notifyCallback s w r true, rfl, by simp [workerStep, hp]⟩

/-- The row of a run's job is in a terminal status. -/
def Rested (s : Store) (job : Uuid) : Prop :=
  ∃ j, s.jobs.get job = some j ∧ j.status.terminal = true

omit [PyText] in
theorem resolveJobTerminalStatus_terminal (status : JobStatus) (docs : List Doc) :
    (resolveJobTerminalStatus status docs).terminal = true := by
  by_cases hc : status = .cancelling
  · rw [hc, resolveJobTerminalStatus_cancelling]
    rfl
  · rcases resolveJobTerminalStatus_cases hc docs with h | h | h <;> rw [h] <;> rfl

omit [PyText] in
/-- A run that is not broken off ends, or turns to its callback, on a job it has put to rest. -/
theorem workerStep_rests {now : Time} {s : Store} {w : W} {r : Run} {act : WorkerAct I}
    {e : Effect W} (h : workerStep F now s w r act = some e) (hact : act.breaks = false)
    (hb : s.Backs r.task.jobId r.task.tenantId)
    (hrested : r.phase = .notifying → Rested s r.task.jobId)
    (hend : e.run.phase = .ended ∨ e.run.phase = .notifying) : Rested e.store r.task.jobId := by
  obtain ⟨j, hj⟩ := hb
  have hrow := ((s.getJob_eq_some_iff _ _ _).mp hj).1
  cases workerStep_cases F now s w r h with
  | readGone hp hj' => exact absurd (hj.symm.trans hj') (by simp)
  | rereadGone hp hj' => exact absurd (hj.symm.trans hj') (by simp)
  | drain hp =>
    refine ⟨r.drainRow j, ?_, rfl⟩
    simp [drain, Run.flushSkipped, hrow]
  | finish hp =>
    refine ⟨r.finishRow now j, ?_, resolveJobTerminalStatus_terminal _ _⟩
    simp [finishJob, Run.flushSkipped, hrow]
  | @notify delivered hp =>
    obtain ⟨j', hj', hst⟩ := hrested hp
    cases delivered with
    | false => exact ⟨j', hj', hst⟩
    | true => exact ⟨{ j' with callbackDelivered := true }, by simp [notifyCallback, hj'], hst⟩
  | abort hp => cases hact
  | lose hp => cases hact
  | _ => simp [claim, enterLoop, markFetching, callFetcher, receiveOutcome, settleDoc] at hend

/-- From every reachable state every live run can come to its end by its own steps, with no
crash and no retry, in as many steps as it has left at most; and then its job is at rest. -/
theorem live_run_ends (input : I) (h : Reachable F cfg σ) {run : ℕ}
    (hlive : (σ.runs run).phase.live = true)
    (hrested : (σ.runs run).phase = .notifying → Rested σ.store (σ.runs run).task.jobId) :
    ∃ (acts : List (WorkerAct I)) (τ : State W), acts.length ≤ (σ.runs run).phase.left (σ.documents run) ∧
      (∀ act ∈ acts, act.breaks = false) ∧
      exec (step F cfg) σ (acts.map (.worker run)) = some τ ∧ (τ.runs run).phase = .ended ∧
      Rested τ.store (σ.runs run).task.jobId := by
  generalize hleft : (σ.runs run).phase.left (σ.documents run) = left
  induction left using Nat.strong_induction_on generalizing σ with
  | _ left ih =>
    have hidle : (σ.runs run).phase ≠ .idle := fun hp => by simp [hp, Phase.live] at hlive
    obtain ⟨act, e, hact, hw⟩ : ∃ act e, act.breaks = false ∧
        workerStep F σ.now σ.store σ.outside (σ.runs run) act = some e :=
      workerStep_progress input (h.listed run) hlive
    have hst : step F cfg σ (.worker run act) = some (σ.afterWorker run e) := by
      simp [step, hw]
    have hone : Runs (step F cfg) Always σ [.worker run act] (σ.afterWorker run e) :=
      .single hst trivial
    have hreach := h.extend hone
    have htask : ((σ.afterWorker run e).runs run).task = (σ.runs run).task := by
      rw [afterWorker_runs_self]
      exact (workerStep_task hw).1
    have hdocs := (step_cases F cfg hst).documents h.wellFormed hidle htask
    have hdown := workerStep_left hw
    have hrests := workerStep_rests hw hact (h.wellFormed.runs run hidle) hrested
    rw [← afterWorker_runs_self σ run e] at hdown hrests
    have hfewer : ((σ.afterWorker run e).runs run).phase.left
        ((σ.afterWorker run e).documents run) < left := by
      rw [hdocs, ← hleft]
      simp only [State.documents]
      omega
    cases hnext : ((σ.afterWorker run e).runs run).phase.live with
    | false =>
      have hended : ((σ.afterWorker run e).runs run).phase = .ended := by
        have hstarted := workerStep_not_idle hw
        rw [← afterWorker_runs_self σ run e] at hstarted
        revert hnext hstarted
        cases ((σ.afterWorker run e).runs run).phase <;> simp [Phase.live]
      refine ⟨[act], σ.afterWorker run e, by simp only [List.length_singleton]; omega,
        by simpa using hact, ?_, hended, hrests (.inl hended)⟩
      simp [hst]
    | true =>
      obtain ⟨acts, τ, hlen, hacts, hexec, hτ, hrest⟩ := ih _ hfewer hreach hnext
        (fun hp => htask ▸ hrests (.inr hp)) rfl
      refine ⟨act :: acts, τ, by simp only [List.length_cons]; omega, ?_, ?_, hτ, htask ▸ hrest⟩
      · intro b hb
        rcases List.mem_cons.mp hb with rfl | hb
        · exact hact
        · exact hacts b hb
      · rw [exec_worker hw]
        exact hexec

/-- There is always another worker free to take a task. -/
theorem Reachable.exists_free (h : Reachable F cfg σ) : ∃ run, (σ.runs run).phase = .idle := by
  obtain ⟨w, now, as, has⟩ := h
  obtain ⟨run, hrun⟩ := Infinite.exists_notMem_finset (as.filterMap Action.actor).toFinset
  refine ⟨run, ?_⟩
  rw [runs_other has fun a ha he => hrun (by simpa using ⟨a, ha, he⟩)]
  rfl

/-- A job that has been claimed knows when. -/
theorem Reachable.running_started (h : Reachable F cfg σ) {id : Uuid} {j : Job}
    (hj : σ.store.jobs.get id = some j) (hst : j.status = .running) : j.startedAt ≠ none := by
  refine h.job_rows (P := fun j => j.status = .running → j.startedAt ≠ none)
    (fun _ _ _ _ _ hnew => by cases hnew) (fun σ a id j hj => ?_) id j hj hst
  refine Action.jobWrite_induction (P := fun j => j.status = .running → j.startedAt ≠ none) hj
    (fun r now act => ?_) (fun session act id => ?_) ?_ σ a id
  · unfold Run.jobWrite
    split
    · exact fun h => by cases h
    · exact fun _ => Option.some_ne_none _
    · exact fun h => ((resolveJobTerminalStatus_ne_open _ _).1 h).elim
    · exact hj
    · exact hj
  · unfold Session.jobWrite
    split
    · split
      · rename_i seen _ _
        intro h
        by_cases hq : seen = .queued <;> simp [applyCancel, cancelTarget, hq] at h
      · exact hj
    · split
      · exact fun h => by cases h
      · exact hj
    · split
      · exact fun h => by cases h
      · exact hj
    · exact hj
  · unfold ReaperSweep.failRow
    split
    · exact fun h => by cases h
    · exact hj

/-- A whole sweep of the reaper: it publishes every stale queued job and fails the running ones. -/
def reap (cfg : Settings) (now : Time) (s : Store) : List (Action I) :=
  [.sweepEnqueue (ReaperSweep.staleTasks cfg now s).length, .sweepFail]

/-- What helps a job of a status: a running one a sweep of the reaper, and a queued one a later sweep and
the steps of one free worker, none of which fails. No request is among them. -/
inductive Rescue (cfg : Settings) (σ : State W) : JobStatus → List (Action I) → Prop
  | running : Rescue cfg σ .running (reap cfg σ.now σ.store)
  | queued (wait run i : ℕ) (acts : List (WorkerAct I)) (sound : ∀ act ∈ acts, act.breaks = false) :
      Rescue cfg σ .queued
        (.tick wait :: reap cfg (σ.now + wait) σ.store ++ .deliver run i :: acts.map (.worker run))

/-- A job that is still queued is published by a later sweep, and a free worker puts it to
rest. -/
theorem queued_job_rests (input : I) (h : Reachable F cfg σ) {job : Uuid}
    (hq : σ.status job = some .queued) :
    ∃ as τ, Rescue cfg σ .queued as ∧ Runs (step F cfg) Always σ as τ ∧ Rested τ.store job := by
  obtain ⟨j, hj, hst⟩ := State.status_eq_some hq
  obtain ⟨run, hfree⟩ := h.exists_free
  generalize hwait : j.createdAt + 60 * cfg.reaperStaleQueuedMinutes + 1 = wait
  generalize hpublished : ReaperSweep.staleTasks cfg (σ.now + wait) σ.store = published
  have hstale : job ∈ published.map Task.jobId := by
    rw [← hpublished]
    refine (ReaperSweep.mem_staleTasks_iff cfg _ σ.store job).mpr
      ⟨j, hj, h.wellFormed.store.live job j hj, hst, ?_⟩
    rw [← hwait]
    exact Nat.lt_of_lt_of_le (Nat.lt_succ_self _) (Nat.le_add_left _ _)
  obtain ⟨task, htask, rfl⟩ := List.mem_map.mp hstale
  obtain ⟨i, hi⟩ := List.getElem?_of_mem (List.mem_append_right σ.queue htask)
  let swept : State W :=
    { σ with
      now := σ.now + wait, queue := σ.queue ++ published, store := ReaperSweep.failRunning σ.store }
  have hrun : Runs (step F cfg) Always σ
      (.tick wait :: reap cfg (σ.now + wait) σ.store ++ [.deliver run i])
      (swept.afterDeliver run i task) := by
    refine .of_exec ?_
    simp [step, reap, hpublished, hfree, Phase.fresh, hi, swept]
  have hhanded : (swept.afterDeliver run i task).runs run = startRun task (σ.now + wait) :=
    Function.update_self ..
  have hlive : ((swept.afterDeliver run i task).runs run).phase.live = true := by
    rw [hhanded]
    rfl
  obtain ⟨acts, τ, -, hacts, hexec, -, hrest⟩ := live_run_ends input (h.extend hrun) hlive
    (by rw [hhanded]; exact fun h => by cases h)
  refine ⟨_, τ, .queued wait run i acts hacts, ?_, ?_⟩
  · simpa using hrun.append (.of_exec hexec)
  · rwa [hhanded] at hrest

/-- No job that is queued or running is past help: from every reachable state the system can
still put it to rest, a running job by one sweep of the reaper, a queued one by a later sweep and
the steps of one worker. -/
theorem open_job_can_rest (input : I) (h : Reachable F cfg σ) {job : Uuid}
    (hopen : σ.status job = some .queued ∨ σ.status job = some .running) :
    ∃ st as τ, σ.status job = some st ∧ Rescue cfg σ st as ∧ Runs (step F cfg) Always σ as τ ∧
      Rested τ.store job := by
  rcases hopen with hq | hr
  · obtain ⟨as, τ, hrescue, hruns, hrest⟩ := queued_job_rests input h hq
    exact ⟨.queued, as, τ, hq, hrescue, hruns, hrest⟩
  · obtain ⟨j, hj, hst⟩ := State.status_eq_some hr
    have hmatch : ReaperSweep.matchesRunning j = true := by
      simp [ReaperSweep.matchesRunning, hst, Option.isSome_iff_ne_none, h.running_started hj hst]
    refine ⟨.running, _, _, hr, .running, .of_exec rfl, { j with status := .failed }, ?_, rfl⟩
    simp [hj, ReaperSweep.failRow_of_match hmatch]

end Progress

section Concrete

open scoped PyText.Ascii

/-- A worker claims job 7 and is killed; the broker has forgotten the task. -/
def killedRun : List (Action Unit) :=
  submit ++ [.deliver 0 0, .worker 0 .read, .worker 0 (.list sampleDocs), .worker 0 .claim,
    .worker 0 (.lose false)]

def killedState : State Unit := outcome (step linkFetcher {}) (State.start () 0) killedRun

theorem killed_job_can_rest :
    ∃ st as τ, killedState.status 7 = some st ∧ Rescue {} killedState st as ∧
      Runs (step linkFetcher {}) Always killedState as τ ∧ Rested τ.store 7 :=
  open_job_can_rest () ⟨(), 0, _, .of_exec (exec_outcome (by decide +kernel))⟩
    (.inr (by decide +kernel))

end Concrete

end JobMachine
end ResearchEngine
