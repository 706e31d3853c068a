import Mathlib.Algebra.GroupWithZero.Nat
import ResearchEngine.RunLength
import ResearchEngine.SingleClaim

/-! How much work the tasks of one job can cause. A task that the broker has been given is
handed to a worker, and handed out again by `self.retry` until its retries are used up; so
what a job costs is paid for by the tasks that the API, the reaper and the broker put on
the queue for it. -/
namespace ResearchEngine

section RunStep

variable {I W : Type} {F : Fetcher I W} {now : Time} {s : Store} {w : W} {r : Run}
  {act : WorkerAct I} {e : Effect W}

end RunStep

/-- The API publishes tasks that have not been retried. -/
theorem apiCase_retries [PyText] {now : Time} {s : Store} {session : Session} {act : ApiAct}
    {e : ApiEffect} (h : ApiCase now s session act e) : ∀ t ∈ e.publish, t.retries = 0 := by
  cases h with
  | enqueue => simp
  | _ => exact fun t ht => by cases ht

/-! A run fetches a document once at most, and calls back once at most. -/

section Reports

variable {I W : Type} {F : Fetcher I W} {now : Time} {s : Store} {w : W} {r : Run}
  {act : WorkerAct I} {e : Effect W}

end Reports

namespace JobMachine

open TransitionRuns ReaperSweep

section Attempts

variable {I W : Type}

/-- A step that hands a task of the job to a worker. -/
def attempt (job : Uuid) (σ : State W) : Action I → ℕ
  | .deliver _ i => if (σ.queue[i]?).any fun t => t.jobId = job then 1 else 0
  | _ => 0

/-- No task has been retried more often than it may be. -/
structure RetriesBounded (σ : State W) : Prop where
  queue : ∀ t ∈ σ.queue, t.retries ≤ maxRetries
  runs : ∀ r, (σ.runs r).task.retries ≤ maxRetries

variable [PyText] {F : Fetcher I W} {cfg : Settings} {σ τ : State W} {a : Action I} {job : Uuid}

omit [PyText] in
theorem workerStep_retries {now : Time} {s : Store} {w : W} {r : Run} {act : WorkerAct I}
    {e : Effect W} (h : workerStep F now s w r act = some e) (hr : r.task.retries ≤ maxRetries) :
    ∀ t ∈ e.publish, t.retries ≤ maxRetries := by
  intro t ht
  cases workerStep_cases F now s w r h with
  | abort hp =>
    simp only [abortRun] at ht
    split at ht
    · obtain rfl := List.mem_singleton.mp ht
      exact Nat.succ_le_of_lt ‹_›
    · cases ht
  | @lose requeued hp =>
    cases requeued with
    | false => cases ht
    | true =>
      obtain rfl := List.mem_singleton.mp ht
      exact hr
  | _ => cases ht

theorem RetriesBounded.step (hσ : RetriesBounded σ) (hs : StepCase F cfg σ a τ) :
    RetriesBounded τ := by
  refine ⟨fun t ht => ?_, fun r => ?_⟩
  · cases hs with
    | deliver => exact hσ.queue t (List.mem_of_mem_eraseIdx ht)
    | @redeliver run hlive =>
      rcases List.mem_append.mp ht with ht | ht
      · exact hσ.queue t ht
      · obtain rfl := List.mem_singleton.mp ht
        exact hσ.runs run
    | @worker run act e hw =>
      rcases List.mem_append.mp ht with ht | ht
      · exact hσ.queue t ht
      · exact workerStep_retries hw (hσ.runs run) t ht
    | api ha =>
      rcases List.mem_append.mp ht with ht | ht
      · exact hσ.queue t ht
      · exact (apiCase_retries ha t ht).le.trans (Nat.zero_le _)
    | sweepEnqueue =>
      rcases List.mem_append.mp ht with ht | ht
      · exact hσ.queue t ht
      · obtain ⟨r, -, rfl⟩ := List.mem_map.mp (List.mem_of_mem_take ht)
        exact Nat.zero_le _
    | _ => exact hσ.queue t ht
  · rcases hs.run_course r with ⟨-, heq⟩ | ⟨-, -, task, htask, heq⟩ | ⟨act, e, -, rfl, hw⟩
    · rw [heq]
      exact hσ.runs r
    · rw [heq]
      exact hσ.queue task htask
    · rw [afterWorker_runs_self, (workerStep_task hw).1]
      exact hσ.runs r

/-- How often an event of a kind has been seen. -/
def State.seen (σ : State W) (p : Event → Bool) : ℕ := (σ.log.map Prod.snd).countP p

/-- What has been reported and what the runs may still report. -/
def State.reports (σ : State W) (p : Event → Bool) (share : Run → ℕ) (n : ℕ) : ℕ :=
  σ.seen p + ∑ k ∈ Finset.range n, share (σ.runs k)

end Attempts

section Reports

variable {I W : Type}

end Reports

section Work

variable [PyText] {I W : Type} {F : Fetcher I W} {cfg : Settings} {σ : State W}

end Work

section Concrete

open scoped PyText.Ascii

end Concrete
end JobMachine
end ResearchEngine
