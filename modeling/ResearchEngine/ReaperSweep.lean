import ResearchEngine.WorkerRun

/-! The `reaper_research_jobs` sweep: re-enqueue stale queued jobs, then one bulk
update over the running ones, over the rows of every tenant. -/
namespace ResearchEngine

structure Settings where
  reaperStaleQueuedMinutes : ℕ := 10
  reaperStaleRunningMinutes : ℕ := 30

namespace ReaperSweep

variable (cfg : Settings) (now : Time)

/-- The tasks published for stale queued jobs. -/
def staleTasks (s : Store) : List Task :=
  (s.listStaleQueued now cfg.reaperStaleQueuedMinutes).map fun r =>
    { jobId := r.1, tenantId := r.2.tenantId, actorId := r.2.createdBy.getD r.2.tenantId }

/-- The `WHERE` clause of the bulk update; it has no age and no soft-delete test. -/
def matchesRunning (j : Job) : Bool := j.status = .running ∧ j.startedAt.isSome

/-- The bulk update sets the status and nothing else. -/
def failRow (j : Job) : Job := if matchesRunning j then { j with status := .failed } else j

def failRunning (s : Store) : Store := { s with jobs := s.jobs.adjust fun _ j => failRow j }

@[simp] theorem failRunning_docs (s : Store) : (failRunning s).docs = s.docs := rfl

@[simp] theorem failRunning_get (s : Store) (id : Uuid) :
    (failRunning s).jobs.get id = (s.jobs.get id).map failRow := by
  simp [failRunning]

@[simp] theorem failRunning_keys (s : Store) : (failRunning s).jobs.keys = s.jobs.keys := by
  simp [failRunning]

theorem failRow_sameIdentity (j : Job) : Job.SameIdentity j (failRow j) := by
  unfold failRow
  split
  · exact ⟨rfl, rfl, rfl, rfl, rfl, rfl, rfl⟩
  · exact .refl j

theorem failRow_of_not_running {j : Job} (h : j.status ≠ .running) : failRow j = j := by
  simp [failRow, matchesRunning, h]

theorem failRow_of_match {j : Job} (h : matchesRunning j = true) :
    failRow j = { j with status := .failed } := by simp [failRow, h]

theorem failRow_eq_self_iff (j : Job) : failRow j = j ↔ matchesRunning j = false := by
  constructor
  · intro h
    by_contra hm
    rw [failRow_of_match (by simpa using hm)] at h
    have hs : j.status = .failed := (congrArg Job.status h).symm
    simp [matchesRunning, hs] at hm
  · intro h
    simp [failRow, h]

/-- A job the reaper is documented to publish again. -/
def StaleQueued (j : Job) : Prop :=
  j.deletedAt = none ∧ j.status = .queued ∧
    j.createdAt + 60 * cfg.reaperStaleQueuedMinutes < now

theorem staleTasks_jobId (s : Store) :
    (staleTasks cfg now s).map Task.jobId =
      (s.listStaleQueued now cfg.reaperStaleQueuedMinutes).map Prod.fst := by
  simp [staleTasks, List.map_map, Function.comp_def]

theorem mem_staleTasks_iff (s : Store) (id : Uuid) :
    id ∈ (staleTasks cfg now s).map Task.jobId ↔
      ∃ j, s.jobs.get id = some j ∧ StaleQueued cfg now j := by
  rw [staleTasks_jobId]
  simp only [List.mem_map, Store.listStaleQueued, StaleQueued]
  constructor
  · rintro ⟨r, hr, rfl⟩
    obtain ⟨hget, hp⟩ := (Table.mem_select_iff _ _ _ _).mp hr
    obtain ⟨hq, ha, hd⟩ := of_decide_eq_true hp
    exact ⟨r.2, hget, hd, hq, ha⟩
  · rintro ⟨j, hget, hd, hq, ha⟩
    exact ⟨(id, j), (Table.mem_select_iff _ _ _ _).mpr ⟨hget, decide_eq_true ⟨hq, ha, hd⟩⟩, rfl⟩

end ReaperSweep
end ResearchEngine
