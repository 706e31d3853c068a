import ResearchEngine.JobCallbacks
import ResearchEngine.RunLength

/-! What a callback says is true: in every run of the machine, the status that a callback
announces is terminal and was committed for that job, with that callback, before; and a job
that is marked as delivered has been called back about. -/
namespace ResearchEngine
namespace JobMachine

open TransitionRuns

section Truthful

variable [PyText] {I W : Type}

/-- At some point of the actions the row of the job had the status, and a callback to send. -/
def WasCommitted (F : Fetcher I W) (cfg : Settings) (start : State W) (as : List (Action I)) (job : Uuid)
    (st : JobStatus) : Prop :=
  ∃ bs cs υ, as = bs ++ cs ∧ exec (step F cfg) start bs = some υ ∧
    ∃ j, υ.store.jobs.get job = some j ∧ j.status = st ∧ truthy j.callbackUrl = true

variable {F : Fetcher I W} {cfg : Settings} {start σ τ : State W} {as : List (Action I)}
  {a : Action I} {job : Uuid} {st : JobStatus}

theorem WasCommitted.extend (h : WasCommitted F cfg start as job st) (bs : List (Action I)) :
    WasCommitted F cfg start (as ++ bs) job st := by
  obtain ⟨cs, ds, υ, rfl, hexec, hrow⟩ := h
  exact ⟨cs, ds ++ bs, υ, List.append_assoc _ _ _, hexec, hrow⟩

theorem WasCommitted.now {j : Job} (h : Runs (step F cfg) Always start as σ)
    (hj : σ.store.jobs.get job = some j) (hst : j.status = st)
    (hurl : truthy j.callbackUrl = true) : WasCommitted F cfg start as job st :=
  ⟨as, [], σ, (List.append_nil as).symm, h.exec_eq, j, hj, hst, hurl⟩

/-- What the callbacks so far, the callbacks to come and the delivered flags say is true. -/
structure Truthful (F : Fetcher I W) (cfg : Settings) (start : State W) (as : List (Action I))
    (σ : State W) : Prop where
  urls : SharesUrls σ
  log : ∀ run job st, (run, Event.callback job st) ∈ σ.log →
    st.terminal = true ∧ WasCommitted F cfg start as job st
  pending : ∀ run, (σ.runs run).phase = .notifying →
    (σ.runs run).job.status.terminal = true ∧
      WasCommitted F cfg start as (σ.runs run).task.jobId (σ.runs run).job.status
  delivered : ∀ job j, σ.store.jobs.get job = some j → j.callbackDelivered = true →
    ∃ run st, (run, Event.callback job st) ∈ σ.log

omit [PyText] in
/-- A run comes to its callback by its final commit only. -/
theorem workerStep_notifying {now : Time} {s : Store} {w : W} {r : Run} {act : WorkerAct I}
    {e : Effect W} (h : workerStep F now s w r act = some e) (hp : e.run.phase = .notifying) :
    r.phase.holding = true ∧ truthy r.job.callbackUrl = true ∧
      e.run.job.status.terminal = true ∧
      e.store.jobs = s.jobs.modify r.task.jobId (r.finishRow now) ∧
      e.run.job = r.finishRow now r.job := by
  cases workerStep_cases F now s w r h with
  | finish hph =>
    refine ⟨by rw [hph]; rfl, ?_, resolveJobTerminalStatus_terminal _ _, rfl, rfl⟩
    by_contra hurl
    simp [finishJob, hurl] at hp
  | _ => cases hp

omit [PyText] in
/-- A run calls back with the status of its copy, and only then. -/
theorem workerStep_callback {now : Time} {s : Store} {w : W} {r : Run} {act : WorkerAct I}
    {e : Effect W} (h : workerStep F now s w r act = some e) {job : Uuid} {st : JobStatus}
    (hx : .callback job st ∈ e.events) :
    r.phase = .notifying ∧ job = r.task.jobId ∧ st = r.job.status := by
  cases workerStep_cases F now s w r h with
  | notify hp =>
    obtain ⟨rfl, rfl⟩ : job = r.task.jobId ∧ st = r.job.status := by
      simpa [notifyCallback] using hx
    exact ⟨hp, rfl, rfl⟩
  | claim hp => simp [claim] at hx
  | call hp => simp [callFetcher] at hx
  | _ => cases hx

/-- A write sets the delivered flag only in the step that calls back. -/
theorem StepCase.delivered (hs : StepCase F cfg σ a τ) {j' : Job}
    (hj' : τ.store.jobs.get job = some j') (hd : j'.callbackDelivered = true) :
    (∃ j, σ.store.jobs.get job = some j ∧ j.callbackDelivered = true) ∨
      ∃ run st, (run, Event.callback job st) ∈ τ.log := by
  rcases hs.job_rows job with hold | ⟨-, req, orderId, key, docTypes, hnew⟩
  · obtain ⟨j, hj, rfl⟩ := Option.map_eq_some_iff.mp (hold.symm.trans hj')
    cases hs with
    | @worker run act e hw =>
      simp only [Action.jobWrite] at hd
      split at hd
      · rename_i hjob
        cases workerStep_cases F σ.now σ.store σ.outside (σ.runs run) hw with
        | notify hp =>
          refine .inr ⟨run, (σ.runs run).job.status, List.mem_append_left _ ?_⟩
          simp [notifyCallback, hjob]
        | drain hp =>
          exact .inl ⟨j, hj, by simpa [Run.jobWrite, hp, Run.drainRow, recalcJobCounters] using hd⟩
        | claim hp => exact .inl ⟨j, hj, by simpa [Run.jobWrite, hp, Run.claimRow] using hd⟩
        | finish hp =>
          exact .inl ⟨j, hj, by simpa [Run.jobWrite, hp, Run.finishRow, recalcJobCounters] using hd⟩
        | _ => exact .inl ⟨j, hj, hd⟩
      · exact .inl ⟨j, hj, hd⟩
    | @api session act e ha =>
      refine .inl ⟨j, hj, ?_⟩
      simp only [Action.jobWrite, Session.jobWrite] at hd
      split at hd
      · split at hd <;> exact hd
      · split at hd <;> exact hd
      · split at hd <;> exact hd
      · exact hd
    | sweepFail =>
      refine .inl ⟨j, hj, ?_⟩
      simp only [Action.jobWrite, ReaperSweep.failRow] at hd
      split at hd <;> exact hd
    | _ => exact .inl ⟨j, hj, hd⟩
  · obtain rfl := Option.some.inj (hnew.symm.trans hj')
    cases hd

theorem Truthful.step (h : Truthful F cfg start as σ) (hrun : Runs (step F cfg) Always start as σ)
    (hst : JobMachine.step F cfg σ a = some τ) : Truthful F cfg start (as ++ [a]) τ := by
  have hs := step_cases F cfg hst
  have hrun' : Runs (JobMachine.step F cfg) Always start (as ++ [a]) τ :=
    hrun.append (.single hst trivial)
  have logged : ∀ x ∈ σ.log, x ∈ τ.log := by
    intro x hx
    rcases hs.log_cases with heq | ⟨run, act, e, rfl, rfl, -⟩
    · rwa [heq]
    · exact List.mem_append_right _ hx
  refine ⟨hs.sharesUrls h.urls, fun run job st hx => ?_, fun run hp => ?_, fun job j hj hd => ?_⟩
  · have old : (run, Event.callback job st) ∈ σ.log →
        st.terminal = true ∧ WasCommitted F cfg start (as ++ [a]) job st := fun hx =>
      ⟨(h.log run job st hx).1, (h.log run job st hx).2.extend _⟩
    rcases hs.log_cases with heq | ⟨run', act, e, rfl, rfl, hw⟩
    · exact old (heq ▸ hx)
    · rcases List.mem_append.mp hx with hnew | hold
      · obtain ⟨x, hx', heq⟩ := List.mem_map.mp hnew
        obtain ⟨rfl, rfl⟩ := Prod.mk.inj heq
        obtain ⟨hp, rfl, rfl⟩ := workerStep_callback hw hx'
        exact ⟨(h.pending run' hp).1, (h.pending run' hp).2.extend _⟩
      · exact old hold
  · rcases hs.run_course run with ⟨-, heq⟩ | ⟨-, -, task, -, heq⟩ | ⟨act, e, hact, rfl, hw⟩
    · rw [heq] at hp ⊢
      exact ⟨(h.pending run hp).1, (h.pending run hp).2.extend _⟩
    · rw [heq] at hp
      cases hp
    · rw [afterWorker_runs_self] at hp ⊢
      obtain ⟨hhold, hurl, hterm, hjobs, hcopy⟩ := workerStep_notifying hw hp
      have hidle : (σ.runs run).phase ≠ .idle := fun hi => by
        rw [hi] at hhold
        cases hhold
      obtain ⟨j, hj⟩ := (Table.mem_keys_iff _ _).mp (h.urls.wellFormed.run_keys hidle)
      have hrow : (σ.afterWorker run e).store.jobs.get (σ.runs run).task.jobId =
          some ((σ.runs run).finishRow σ.now j) := by
        show e.store.jobs.get _ = _
        rw [hjobs, Table.get_modify_self, hj]
        rfl
      refine ⟨hterm, ?_⟩
      rw [(workerStep_task hw).1, hcopy]
      refine .now hrun' hrow rfl ?_
      have hshared := h.urls.runs run hhold j hj
      simpa [Run.finishRow, recalcJobCounters, hshared] using hurl
  · rcases hs.delivered hj hd with ⟨j₀, hj₀, hd₀⟩ | hnew
    · obtain ⟨run, st, hx⟩ := h.delivered job j₀ hj₀ hd₀
      exact ⟨run, st, logged _ hx⟩
    · exact hnew

end Truthful

section Truth

variable [PyText] {I W : Type} {F : Fetcher I W} {cfg : Settings} {σ : State W}

/-- In every run of the machine, whatever cancels, retries, crashes and sweeps it meets: the
status that a callback announces is terminal and was committed before in the row of that
job, which had a callback to send; and a job whose callback is marked as delivered has been
called back about. -/
theorem callbacks_truthful {w : W} {now : Time} {as : List (Action I)}
    (h : Runs (step F cfg) Always (State.start w now) as σ) :
    (∀ run job st, (run, Event.callback job st) ∈ σ.log →
        st.terminal = true ∧ WasCommitted F cfg (State.start w now) as job st) ∧
      ∀ job j, σ.store.jobs.get job = some j → j.callbackDelivered = true →
        ∃ run st, (run, Event.callback job st) ∈ σ.log := by
  have hend : Truthful F cfg (State.start w now) as σ :=
    h.history (P := Truthful F cfg (State.start w now))
      ⟨sharesUrls_start w now, (fun _ _ _ hx => by cases hx), (fun _ hp => by cases hp),
        fun _ _ hj => by cases hj⟩
      fun bs υ a τ hbs hP _ hst => hP.step hbs hst
  exact ⟨hend.log, hend.delivered⟩

end Truth

section Concrete

open scoped PyText.Ascii

/-- One delivery goes through all the documents and its callback is accepted. -/
def toldActs : List (Action Unit) := announcedActs.dropLast ++ [.worker 0 (.notify true)]

def toldState : State Unit := outcome (step linkFetcher {}) (State.start () 0) toldActs

theorem completed_told : (0, Event.callback 7 .completed) ∈ toldState.log ∧
    WasCommitted linkFetcher {} (State.start () 0) toldActs 7 .completed := by
  have hlog : (0, Event.callback 7 .completed) ∈ toldState.log := by decide +kernel
  have hrun : Runs (step linkFetcher {}) Always (State.start () 0) toldActs toldState :=
    .of_exec (exec_outcome (by decide +kernel))
  exact ⟨hlog, ((callbacks_truthful hrun).1 0 7 .completed hlog).2⟩

end Concrete
end JobMachine
end ResearchEngine
