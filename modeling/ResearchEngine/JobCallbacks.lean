import ResearchEngine.JobAccounts

/-! Which callbacks a job with a `callback_url` sends: only the final commit of a run sends one,
so a job that reaches a terminal status on another path does so in silence. -/
namespace ResearchEngine

/-- A run that has read its job and not returned. -/
def Phase.holding : Phase → Bool
  | .idle | .delivered | .ended => false
  | _ => true

/-- The callback of a run's copy of the job row is that of the row. -/
def Run.SharesUrl (s : Store) (r : Run) : Prop :=
  r.phase.holding = true → ∀ j, s.jobs.get r.task.jobId = some j →
    j.callbackUrl = r.job.callbackUrl

section RunStep

variable {I W : Type} {F : Fetcher I W} {now : Time} {s : Store} {w : W} {r : Run}
  {act : WorkerAct I} {e : Effect W}

theorem workerStep_sharesUrl (h : workerStep F now s w r act = some e) (hr : r.SharesUrl s) :
    e.run.SharesUrl e.store := by
  intro hp j' hj'
  obtain ⟨g, hjobs, hg⟩ := workerStep_jobs h
  rw [(workerStep_task h).1, hjobs, Table.get_modify_self] at hj'
  obtain ⟨j, hj, rfl⟩ := Option.map_eq_some_iff.mp hj'
  rw [(hg j).1.callbackUrl]
  have read : ∀ {j₀ : Job}, s.getJob r.task.jobId r.task.tenantId = some j₀ → j = j₀ := fun h₀ =>
    Option.some.inj (hj.symm.trans ((s.getJob_eq_some_iff _ _ _).mp h₀).1)
  cases workerStep_cases F now s w r h with
  | readFound _ hget => rw [read hget]
  | rereadCancelled _ hget => rw [read hget]
  | rereadLive _ hget => rw [read hget]
  | listCancelled hph => exact hr (by rw [hph]; rfl) j hj
  | listLive hph => exact hr (by rw [hph]; rfl) j hj
  | claim hph => exact hr (by rw [hph]; rfl) j hj
  | enter hph => exact hr (by rw [hph]; rfl) j hj
  | mark hph => exact hr (by rw [hph]; rfl) j hj
  | call hph => exact hr (by rw [hph]; rfl) j hj
  | receive hph => exact hr (by rw [hph]; rfl) j hj
  | settle hph => exact hr (by rw [hph]; rfl) j hj
  | finish hph => exact hr (by rw [hph]; rfl) j hj
  | _ => cases hp

end RunStep

namespace JobMachine

open TransitionRuns ReaperSweep

section Conditions

variable {I W : Type}

/-- A run other than the one excepted is still executing on the job. -/
def ExecutingBut (σ : State W) (job : Uuid) (but : Option ℕ) : Prop :=
  ∃ r, some r ≠ but ∧ (σ.runs r).task.jobId = job ∧ (σ.runs r).phase.live = true

/-- A callback with the status has been attempted. -/
def Announced (σ : State W) (job : Uuid) (st : JobStatus) : Prop :=
  ∃ r, (r, Event.callback job st) ∈ σ.log

def ToldBut (σ : State W) (job : Uuid) (but : Option ℕ) (st : JobStatus) : Prop :=
  ExecutingBut σ job but ∨ Announced σ job st

end Conditions

section Told

variable {W : Type} {σ τ : State W} {job : Uuid} {st : JobStatus}

/-- A step that leaves the log and every executing run leaves everything told. -/
theorem ToldBut.keep (h : ToldBut σ job none st) (hlog : τ.log = σ.log)
    (hruns : ∀ r, (σ.runs r).phase.live = true → τ.runs r = σ.runs r) : ToldBut τ job none st := by
  rcases h with ⟨r, hr, hjob, hlive⟩ | ⟨r, hr⟩
  · exact Or.inl ⟨r, hr, by rw [hruns r hlive]; exact hjob, by rw [hruns r hlive]; exact hlive⟩
  · exact Or.inr ⟨r, hlog ▸ hr⟩

end Told

section Steps

variable [PyText] {I W : Type} {F : Fetcher I W} {cfg : Settings} {job : Uuid} {σ τ : State W}
  {a : Action I}

/-- What the invariant says of every run and every row. -/
structure SharesUrls (σ : State W) : Prop where
  wellFormed : WellFormed σ
  runs : ∀ r, (σ.runs r).SharesUrl σ.store

omit [PyText] in
theorem sharesUrls_start (w : W) (now : Time) : SharesUrls (State.start w now) where
  wellFormed := wellFormed_start w now
  runs r hp := by cases hp

theorem StepCase.sharesUrls (hσ : SharesUrls σ) (h : StepCase F cfg σ a τ) : SharesUrls τ where
  wellFormed := h.wellFormed hσ.wellFormed
  runs r := by
    rcases h.run_cases r with he | ⟨task, he⟩ | ⟨act, e, rfl, rfl, hw⟩
    · intro hp j' hj'
      rw [he] at hp hj' ⊢
      have hidle : (σ.runs r).phase ≠ .idle := fun hi => by
        rw [hi] at hp
        cases hp
      obtain ⟨j, hj⟩ := (Table.mem_keys_iff _ _).mp (hσ.wellFormed.run_keys hidle)
      rw [(h.extends.sameJob hj hj').callbackUrl]
      exact hσ.runs r hp j hj
    · intro hp
      rw [he] at hp
      cases hp
    · rw [afterWorker_runs_self]
      exact workerStep_sharesUrl hw (hσ.runs r)

end Steps

section Concrete

open scoped PyText.Ascii

/-- Create job 7 with a callback and enqueue it. -/
def submitCalling : List (Action Unit) :=
  [.api 0 (.create { sampleRequest with callbackUrl := some "https://example.test/hook" }),
    .api 0 (.check (some sampleOrder)), .api 0 (.insert 7 8 sampleDocs), .api 0 .refresh,
    .api 0 (.enqueue true)]

/-- One delivery goes through all the documents and sends the callback. -/
def announcedActs : List (Action Unit) :=
  submitCalling ++ [.deliver 0 0, .worker 0 .read, .worker 0 (.list sampleDocs), .worker 0 .claim,
    .worker 0 (.enter sampleDocs (some sampleOrder))] ++
    (List.replicate 6 (research 0 ())).flatten ++ [.worker 0 .finish, .worker 0 (.notify false)]

end Concrete

end JobMachine
end ResearchEngine
