import ResearchEngine.RunListings

/-! What one step of the machine makes of a job row, said once: the columns that a worker's
commit, a session's commit and the reaper's bulk update write, and the row of a new job. -/
namespace ResearchEngine

/-- The update of its job row in one step of a run. -/
def Run.jobWrite {I : Type} (r : Run) (now : Time) (act : WorkerAct I) (j : Job) : Job :=
  match act, r.phase with
  | .drain, .draining => r.drainRow j
  | .claim, .claiming => r.claimRow j
  | .finish, .looping [] => r.finishRow now j
  | .notify true, .notifying => { j with callbackDelivered := true }
  | _, _ => j

/-- The update of a job row in the commit of a session. -/
def Session.jobWrite (session : Session) (act : ApiAct) (id : Uuid) (j : Job) : Job :=
  match act, session with
  | .commit, .cancelling job seen reason => if id = job then applyCancel seen reason j else j
  | .commit, .reviewing job _ => if id = job then j.setStatus .reviewed else j
  | .commit, .archiving job _ => if id = job then j.setStatus .archived else j
  | _, _ => j

theorem workerStep_jobWrite {I W : Type} {F : Fetcher I W} {now : Time} {s : Store} {w : W} {r : Run}
    {act : WorkerAct I} {e : Effect W} (h : workerStep F now s w r act = some e) :
    e.store.jobs = s.jobs.modify r.task.jobId (r.jobWrite now act) := by
  have same : s.jobs = s.jobs.modify r.task.jobId fun j => j := (Table.modify_id _ _).symm
  have as : ∀ {f : Job → Job}, (∀ j, r.jobWrite now act j = f j) →
      s.jobs.modify r.task.jobId (r.jobWrite now act) = s.jobs.modify r.task.jobId f := fun hf =>
    congrArg _ (funext hf)
  cases workerStep_cases F now s w r h with
  | drain hp => exact (as fun j => by simp only [Run.jobWrite, hp]).symm
  | claim hp => exact (as fun j => by simp only [Run.jobWrite, hp]).symm
  | finish hp => exact (as fun j => by simp only [Run.jobWrite, hp]).symm
  | @notify delivered hp =>
    cases delivered with
    | false => exact same
    | true =>
      exact (as (f := fun j => { j with callbackDelivered := true }) fun j => by
        simp only [Run.jobWrite, hp]).symm
  | _ => exact same

/-- A job row after a step of a session: what the commit writes of the row that was there, or
the row of the job that the session has created. -/
theorem apiCase_jobWrite [PyText] {now : Time} {s : Store} {session : Session} {act : ApiAct}
    {e : ApiEffect} (h : ApiCase now s session act e) (id : Uuid) :
    e.store.jobs.get id = (s.jobs.get id).map (session.jobWrite act id) ∨
      s.jobs.get id = none ∧ ∃ req orderId key docTypes,
        e.store.jobs.get id = some (newJob now req orderId key docTypes) := by
  cases h with
  | @insert req orderId docTypes job freshKey docs table fresh hlen hdocs =>
    by_cases hid : id = job
    · subst hid
      refine .inr ⟨(Table.get_eq_none_iff _ _).mpr fresh, req, orderId,
        req.idempotencyKey.getD freshKey, docTypes, ?_⟩
      rw [Table.get_insert, if_pos rfl]
    · refine .inl ?_
      rw [Table.get_insert, if_neg hid]
      exact Option.map_id'.symm
  | commitCancel => exact .inl (Table.get_modify _ _ _ _)
  | commitReview => exact .inl (Table.get_modify _ _ _ _)
  | commitArchive => exact .inl (Table.get_modify _ _ _ _)
  | _ => exact .inl Option.map_id'.symm

namespace JobMachine

variable {I W : Type}

/-- The update of the job rows in one step of the machine. -/
def Action.jobWrite (σ : State W) : Action I → Uuid → Job → Job
  | .worker run act, id, j =>
    if id = (σ.runs run).task.jobId then (σ.runs run).jobWrite σ.now act j else j
  | .api n act, id, j => (σ.sessions n).jobWrite act id j
  | .sweepFail, _, j => ReaperSweep.failRow j
  | _, _, j => j

variable [PyText] {F : Fetcher I W} {cfg : Settings} {σ τ : State W} {a : Action I}

/-- A job row after a step: what the step writes of the row that was there, or the row of a
job that the step has created. -/
theorem StepCase.job_rows (h : StepCase F cfg σ a τ) (id : Uuid) :
    τ.store.jobs.get id = (σ.store.jobs.get id).map (a.jobWrite σ id) ∨
      σ.store.jobs.get id = none ∧ ∃ req orderId key docTypes,
        τ.store.jobs.get id = some (newJob σ.now req orderId key docTypes) := by
  cases h with
  | @worker run act e hw =>
    refine .inl ?_
    show e.store.jobs.get id = _
    rw [workerStep_jobWrite hw, Table.get_modify]
    rfl
  | api ha => exact apiCase_jobWrite ha id
  | sweepFail => exact .inl (ReaperSweep.failRunning_get _ _)
  | _ => exact .inl Option.map_id'.symm

/-- An invariant of the job rows holds in every reachable state if new rows have it and every
write keeps it. -/
theorem Reachable.job_rows {P : Job → Prop} (hnew : ∀ now req orderId key docTypes,
      P (newJob now req orderId key docTypes))
    (hwrite : ∀ (σ : State W) (a : Action I) id j, P j → P (a.jobWrite σ id j))
    (h : Reachable F cfg σ) : ∀ id j, σ.store.jobs.get id = some j → P j := by
  refine h.invariant (P := fun σ => ∀ id j, σ.store.jobs.get id = some j → P j)
    (fun w now id j hj => by cases hj) fun σ a τ hσ hs id j hj => ?_
  rcases hs.job_rows id with hold | ⟨-, req, orderId, key, docTypes, hrow⟩
  · obtain ⟨j', hj', rfl⟩ := Option.map_eq_some_iff.mp (hold.symm.trans hj)
    exact hwrite σ a id j' (hσ id j' hj')
  · obtain rfl := Option.some.inj (hrow.symm.trans hj)
    exact hnew _ _ _ _ _

omit [PyText] in
/-- A job row is written by a worker's commit, a session's commit or the reaper. -/
theorem Action.jobWrite_induction {P : Job → Prop} {j : Job} (hj : P j)
    (hrun : ∀ (r : Run) now (act : WorkerAct I), P (r.jobWrite now act j))
    (hsession : ∀ (session : Session) act id, P (session.jobWrite act id j))
    (hreap : P (ReaperSweep.failRow j)) (σ : State W) (a : Action I) (id : Uuid) :
    P (a.jobWrite σ id j) := by
  cases a with
  | worker run act =>
    simp only [Action.jobWrite]
    split
    · exact hrun _ _ _
    · exact hj
  | api n act => exact hsession _ _ _
  | sweepFail => exact hreap
  | _ => exact hj

end JobMachine
end ResearchEngine
