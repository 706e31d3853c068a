import ResearchEngine.MachineInvariant

/-! The status of a job row along every run: what one step can make of it, and a run that leaves the
declared transitions. -/
namespace ResearchEngine

/-- The transitions of the lifecycle document. -/
inductive Declared : JobStatus → JobStatus → Prop
  | start : Declared .queued .running
  | cancelQueued : Declared .queued .cancelled
  | complete : Declared .running .completed
  | partially : Declared .running .partialResult
  | fail : Declared .running .failed
  | cancelRunning : Declared .running .cancelling
  | drained : Declared .cancelling .cancelled
  | review : Declared .completed .reviewed
  | reviewPartial : Declared .partialResult .reviewed
  | archive : Declared .reviewed .archived

/-- A row being cancelled may always become `cancelled`. -/
theorem Declared.toCancelled {old : JobStatus} (hc : old.isCancel = true) :
    .cancelled = old ∨ Declared old .cancelled := by
  cases old with
  | cancelled => exact Or.inl rfl
  | cancelling => exact Or.inr .drained
  | _ => cases hc

/-- The statuses a job must not leave for `running`. -/
def JobStatus.settled : JobStatus → Bool
  | .queued | .running | .cancelling => false
  | _ => true

theorem Declared.settled {old new : JobStatus} (h : Declared old new) (hs : old.settled = true) :
    new.settled = true := by
  cases h <;> first | rfl | cases hs

/-- The status a session commits to the row of one job, if it commits one. -/
def Session.statusWrite (id : Uuid) : Session → Option JobStatus
  | .cancelling job seen _ => if job = id then some (cancelTarget seen) else none
  | .reviewing job _ => if job = id then some .reviewed else none
  | .archiving job _ => if job = id then some .archived else none
  | _ => none

theorem Session.statusWrite_ne_running (id : Uuid) (session : Session) :
    session.statusWrite id ≠ some .running := by
  cases session with
  | cancelling job seen reason =>
    simp only [statusWrite, cancelTarget]
    split
    · split <;> simp
    · simp
  | reviewing job seen | archiving job seen =>
    simp only [statusWrite]
    split <;> simp
  | _ => simp [statusWrite]

section Api

variable [PyText] {now : Time} {s : Store} {session : Session} {act : ApiAct} {e : ApiEffect}

/-- A session leaves a row, inserts it as `queued`, or commits the status it decided on. -/
theorem apiCase_row (h : ApiCase now s session act e) {id : Uuid} {j' : Job}
    (hj' : e.store.jobs.get id = some j') :
    s.jobs.get id = some j' ∨ j'.status = .queued ∨
      (act = .commit ∧ session.statusWrite id = some j'.status) := by
  have commit : ∀ {job : Uuid} {g : Job → Job} {st : JobStatus}, (∀ j, (g j).status = st) →
      (s.modifyJob job g).jobs.get id = some j' →
      s.jobs.get id = some j' ∨ (job = id ∧ j'.status = st) := by
    intro job g st hg hget
    by_cases hid : id = job
    · subst hid
      obtain ⟨j, -, rfl⟩ : ∃ j, s.jobs.get id = some j ∧ g j = j' := by simpa using hget
      exact Or.inr ⟨rfl, hg j⟩
    · exact Or.inl (by simpa [Table.get_modify_other _ _ hid] using hget)
  cases h with
  | insert fresh hlen hdocs =>
    rw [Table.get_insert] at hj'
    split at hj'
    · obtain rfl := Option.some.inj hj'
      exact Or.inr (Or.inl rfl)
    · exact Or.inl hj'
  | @commitCancel job seen reason =>
    have hst : ∀ j, (applyCancel seen reason j).status = cancelTarget seen := fun _ => rfl
    rcases commit hst hj' with h | ⟨rfl, h⟩
    · exact Or.inl h
    · exact Or.inr (Or.inr ⟨rfl, by simp [Session.statusWrite, h]⟩)
  | commitReview =>
    rcases commit (g := Job.setStatus .reviewed) (fun j => rfl) hj' with h | ⟨rfl, h⟩
    · exact Or.inl h
    · exact Or.inr (Or.inr ⟨rfl, by simp [Session.statusWrite, h]⟩)
  | commitArchive =>
    rcases commit (g := Job.setStatus .archived) (fun j => rfl) hj' with h | ⟨rfl, h⟩
    · exact Or.inl h
    · exact Or.inr (Or.inr ⟨rfl, by simp [Session.statusWrite, h]⟩)
  | _ => exact Or.inl hj'

end Api

namespace JobMachine

open TransitionRuns ReaperSweep

section Status

variable {I W : Type} {F : Fetcher I W}

def State.status (σ : State W) (id : Uuid) : Option JobStatus :=
  (σ.store.jobs.get id).map Job.status

theorem State.status_eq_some {σ : State W} {id : Uuid} {st : JobStatus}
    (h : σ.status id = some st) : ∃ j, σ.store.jobs.get id = some j ∧ j.status = st :=
  Option.map_eq_some_iff.mp h

/-- The status of one job row after a step. -/
def statusAfter (σ : State W) (id : Uuid) (row : Job) : Action I → JobStatus
  | .worker run act =>
    if (σ.runs run).task.jobId = id then ((σ.runs run).statusWrite act).getD row.status
    else row.status
  | .api n .commit => ((σ.sessions n).statusWrite id).getD row.status
  | .sweepFail => (failRow row).status
  | _ => row.status

theorem workerStep_status {now : Time} {s : Store} {w : W} {r : Run} {act : WorkerAct I}
    {e : Effect W} (h : workerStep F now s w r act = some e) {id : Uuid} {row : Job}
    (hrow : s.jobs.get id = some row) :
    ∃ row', e.store.jobs.get id = some row' ∧
      row'.status =
        if r.task.jobId = id then (r.statusWrite act).getD row.status else row.status := by
  obtain ⟨g, hj, hg⟩ := workerStep_jobs h
  rw [hj, Table.get_modify, hrow]
  by_cases hid : id = r.task.jobId
  · exact ⟨g row, by simp [hid], by simp [hid, (hg row).2]⟩
  · have hid' : r.task.jobId ≠ id := fun he => hid he.symm
    exact ⟨row, by simp [hid], by simp [hid']⟩

theorem modifyJob_status (s : Store) (job : Uuid) (g : Job → Job) (st : JobStatus)
    (hg : ∀ j, (g j).status = st) {id : Uuid} {row : Job} (hrow : s.jobs.get id = some row) :
    ∃ row', (s.modifyJob job g).jobs.get id = some row' ∧
      row'.status = (if job = id then some st else none).getD row.status := by
  rw [Store.modifyJob_jobs, Table.get_modify, hrow]
  by_cases hid : id = job
  · exact ⟨g row, by simp [hid], by simp [hid, hg row]⟩
  · have hid' : job ≠ id := fun he => hid he.symm
    exact ⟨row, by simp [hid], by simp [hid']⟩

variable [PyText] {cfg : Settings}

/-- What one step makes of the status of an existing row. -/
theorem StepCase.status {σ τ : State W} {a : Action I} (h : StepCase F cfg σ a τ) {id : Uuid}
    {row : Job} (hrow : σ.store.jobs.get id = some row) :
    ∃ row', τ.store.jobs.get id = some row' ∧ row'.status = statusAfter σ id row a := by
  cases h with
  | worker hw => exact workerStep_status hw hrow
  | @api n act e ha =>
    generalize hs : σ.sessions n = session at ha
    cases ha with
    | @insert req orderId docTypes job freshKey docs table fresh hlen hdocs =>
      have hne : id ≠ job := by
        rintro rfl
        exact fresh ((Table.mem_keys_iff _ _).mpr ⟨row, hrow⟩)
      refine ⟨row, ?_, rfl⟩
      simp only [State.afterApi, Table.get_insert, if_neg hne]
      exact hrow
    | @commitCancel job seen reason =>
      simp only [statusAfter, hs, Session.statusWrite]
      exact modifyJob_status _ job (applyCancel seen reason) _ (fun _ => rfl) hrow
    | @commitReview job seen =>
      simp only [statusAfter, hs, Session.statusWrite]
      exact modifyJob_status _ job (Job.setStatus .reviewed) _ (fun _ => rfl) hrow
    | @commitArchive job seen =>
      simp only [statusAfter, hs, Session.statusWrite]
      exact modifyJob_status _ job (Job.setStatus .archived) _ (fun _ => rfl) hrow
    | _ => exact ⟨row, hrow, rfl⟩
  | sweepFail => exact ⟨failRow row, by simp [hrow], rfl⟩
  | _ => exact ⟨row, hrow, rfl⟩

end Status

/-- Every change of a row's status between two states is a declared transition. -/
def Lawful {W : Type} (σ τ : State W) : Prop :=
  ∀ id j j', σ.store.jobs.get id = some j → τ.store.jobs.get id = some j' →
    j'.status = j.status ∨ Declared j.status j'.status

theorem Lawful.status {W : Type} {σ τ : State W} (h : Lawful σ τ) {id : Uuid} {old new : JobStatus}
    (hold : σ.status id = some old) (hnew : τ.status id = some new) :
    new = old ∨ Declared old new := by
  obtain ⟨j, hj, rfl⟩ := Option.map_eq_some_iff.mp hold
  obtain ⟨j', hj', rfl⟩ := Option.map_eq_some_iff.mp hnew
  exact h id j j' hj hj'

section Concrete

open scoped PyText.Ascii

/-- The cancel commits between a worker's first read and its `running` commit. -/
def lateCancelActs : List (Action Unit) :=
  submit ++ [.deliver 0 0, .worker 0 .read, .worker 0 (.list sampleDocs),
    .api 1 (.cancel 1 7 none), .api 1 .commit]

def lateCancelState : State Unit := outcome (step linkFetcher {}) (State.start () 0) lateCancelActs

def revivedState : State Unit := outcome (step linkFetcher {}) lateCancelState [.worker 0 .claim]

theorem cancelled_job_revived :
    ¬ ∀ (σ τ : State Unit) (a : Action Unit), Reachable linkFetcher {} σ →
      step linkFetcher {} σ a = some τ → Lawful σ τ := by
  intro h
  have hreach : Reachable linkFetcher {} lateCancelState :=
    ⟨(), 0, lateCancelActs, .of_exec (exec_outcome (by decide +kernel))⟩
  have hlaw := h lateCancelState revivedState (.worker 0 .claim) hreach
    (step_outcome (by decide +kernel))
  have hold : lateCancelState.status 7 = some .cancelled := by decide +kernel
  have hnew : revivedState.status 7 = some .running := by decide +kernel
  rcases hlaw.status hold hnew with he | hd
  · cases he
  · cases hd

end Concrete

end JobMachine
end ResearchEngine
