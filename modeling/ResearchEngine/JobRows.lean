import ResearchEngine.WorkerRun

/-! The rows of one job. A `research_job` run reads and writes no others, so a step
of the run on the whole store is a step on the rows of its job. -/
namespace ResearchEngine
namespace Store

/-- The rows of one job. -/
def ofJob (s : Store) (job : Uuid) : Store where
  jobs := s.jobs.filter fun k _ => k = job
  docs := s.docs.filter fun _ d => d.jobId = job

variable {s : Store} {job : Uuid}

theorem ofJob_get (d : Uuid) :
    (s.ofJob job).docs.get d = (s.docs.get d).filter fun row => row.jobId = job :=
  Table.get_filter _ _ _

theorem ofJob_get_eq_some {d : Uuid} {row : Doc} (h : (s.ofJob job).docs.get d = some row) :
    s.docs.get d = some row := by
  rw [ofJob_get, Option.filter_eq_some_iff] at h
  exact h.1

theorem ofJob_getJob (tenant : Uuid) : (s.ofJob job).getJob job tenant = s.getJob job tenant := by
  simp [getJob, ofJob, Table.get_filter]

theorem ofJob_docsForJob : (s.ofJob job).docsForJob job = s.docsForJob job := by
  refine Table.select_filter s.docs (fun _ d => d.jobId = job) _ fun _ d h => ?_
  exact decide_eq_true (of_decide_eq_true h).1

theorem ofJob_listForJob {order : List Uuid} {rows : List (Uuid × Doc)}
    (h : s.listForJob job order = some rows) : (s.ofJob job).listForJob job order = some rows := by
  refine listForJob_congr ofJob_docsForJob (fun d row hrow hjob => ?_) h
  simp [ofJob_get, hrow, hjob]

theorem ofJob_modifyJob (g : Job → Job) :
    (s.modifyJob job g).ofJob job = (s.ofJob job).modifyJob job g := by
  simp only [ofJob, modifyJob, Table.filter_modify s.jobs (fun k _ => k = job) job g fun _ _ => rfl]

theorem ofJob_adjustDocs {f : Uuid → Doc → Doc} (hf : ∀ d row, (f d row).jobId = row.jobId) :
    (s.adjustDocs f).ofJob job = (s.ofJob job).adjustDocs f := by
  simp only [ofJob, adjustDocs]
  rw [Table.filter_adjust _ _ _ fun d row => by rw [hf d row]]

end Store

namespace Run

theorem flushSkipped_ofJob (skipped : List Uuid) (s : Store) (job : Uuid) :
    (flushSkipped skipped s).ofJob job = flushSkipped skipped (s.ofJob job) :=
  Store.ofJob_adjustDocs fun d row => (skipRow_sameIdentity skipped d row).jobId

end Run

section Locality

variable {I W : Type} {F : Fetcher I W} {now : Time} {s : Store} {w : W} {r : Run}
  {act : WorkerAct I} {e : Effect W}

/-- A step of a run is a step on the rows of its job. -/
theorem WorkerCase.ofJob (h : WorkerCase F now s w r act e) :
    WorkerCase F now (s.ofJob r.task.jobId) w r act
      { e with store := e.store.ofJob r.task.jobId } := by
  cases h with
  | readGone hp hj => exact .readGone hp (by rwa [Store.ofJob_getJob])
  | readFound hp hj => exact .readFound hp (by rwa [Store.ofJob_getJob])
  | listCancelled hp hl hc => exact .listCancelled hp (Store.ofJob_listForJob hl) hc
  | listLive hp hl hc => exact .listLive hp (Store.ofJob_listForJob hl) hc
  | drain hp =>
    simp only [ResearchEngine.drain, Store.ofJob_modifyJob, Run.flushSkipped_ofJob]
    exact .drain hp
  | claim hp =>
    simp only [ResearchEngine.claim, Store.ofJob_modifyJob]
    exact .claim hp
  | enter hp hl ho => exact .enter hp (Store.ofJob_listForJob hl) ho
  | rereadGone hp hj => exact .rereadGone hp (by rwa [Store.ofJob_getJob])
  | rereadCancelled hp hj hc => exact .rereadCancelled hp (by rwa [Store.ofJob_getJob]) hc
  | rereadLive hp hj hc => exact .rereadLive hp (by rwa [Store.ofJob_getJob]) hc
  | @mark doc todo hp =>
    simp only [markFetching, Run.flushSkipped_ofJob,
      Store.ofJob_adjustDocs fun d row => (Run.fetchingRow_sameIdentity doc d row).jobId]
    exact .mark hp
  | call hp => exact .call hp
  | receive hp hd => exact .receive hp hd
  | @settle doc todo outcome hp =>
    simp only [settleDoc,
      Store.ofJob_adjustDocs fun d row => (r.settleRow_sameIdentity now doc outcome d row).jobId]
    exact .settle hp
  | finish hp =>
    simp only [finishJob, Store.ofJob_modifyJob, Run.flushSkipped_ofJob]
    exact .finish hp
  | @notify delivered hp =>
    have hnotify : { notifyCallback s w r delivered with
        store := (notifyCallback s w r delivered).store.ofJob r.task.jobId } =
          notifyCallback (s.ofJob r.task.jobId) w r delivered := by
      cases delivered with
      | false => rfl
      | true => simp [notifyCallback, Store.ofJob_modifyJob]
    rw [hnotify]
    exact .notify hp
  | abort hp => exact .abort hp
  | lose hp => exact .lose hp

theorem WorkerCase.task (h : WorkerCase F now s w r act e) : e.run.task = r.task := by
  cases h <;> rfl

/-- Only a fetch changes what is outside. -/
theorem WorkerCase.outside (h : WorkerCase F now s w r act e)
    (hact : ∀ input, act ≠ .receive input) : e.outside = w := by
  cases h with
  | receive => exact absurd rfl (hact _)
  | _ => rfl

end Locality

end ResearchEngine
