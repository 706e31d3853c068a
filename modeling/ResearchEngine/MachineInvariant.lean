import ResearchEngine.JobMachine

/-! What holds in every reachable state whatever the order of the steps: rows
are live and have documents, and every task, run and session that names a job
names one that exists. -/
namespace ResearchEngine

/-- The job row that the task is about exists for its tenant. -/
def Store.Backs (s : Store) (jobId tenantId : Uuid) : Prop := ∃ j, s.getJob jobId tenantId = some j

def Session.Backed (s : Store) : Session → Prop
  | .inserting _ _ docTypes => docTypes ≠ []
  | .created job req | .enqueueing job req _ => s.Backs job req.tenantId
  | .cancelling job _ _ | .reviewing job _ | .archiving job _ => job ∈ s.jobs.keys
  | _ => True

theorem Store.Backs.mem_keys {s : Store} {job tenant : Uuid} (h : s.Backs job tenant) :
    job ∈ s.jobs.keys := by
  obtain ⟨j, hj⟩ := h
  exact (Table.mem_keys_iff _ _).mpr ⟨j, ((s.getJob_eq_some_iff _ _ _).mp hj).1⟩

theorem Store.Extends.backs {s s' : Store} (h : s.Extends s') {job tenant : Uuid}
    (hb : s.Backs job tenant) : s'.Backs job tenant := by
  obtain ⟨j, hj⟩ := hb
  obtain ⟨hget, ht, hd⟩ := (s.getJob_eq_some_iff _ _ _).mp hj
  obtain ⟨j', hget', hsame⟩ := h.jobs job j hget
  exact ⟨j', (s'.getJob_eq_some_iff _ _ _).mpr
    ⟨hget', hsame.tenantId.trans ht, hsame.deletedAt.trans hd⟩⟩

theorem Store.Extends.mem_keys {s s' : Store} (h : s.Extends s') {job : Uuid}
    (hk : job ∈ s.jobs.keys) : job ∈ s'.jobs.keys := by
  obtain ⟨j, hj⟩ := (Table.mem_keys_iff _ _).mp hk
  obtain ⟨j', hj', -⟩ := h.jobs job j hj
  exact (Table.mem_keys_iff _ _).mpr ⟨j', hj'⟩

theorem Store.Extends.trans {s s' s'' : Store} (h : s.Extends s') (h' : s'.Extends s'') :
    s.Extends s'' where
  jobs id j hj := by
    obtain ⟨j', hj', hsame⟩ := h.jobs id j hj
    obtain ⟨j'', hj'', hsame'⟩ := h'.jobs id j' hj'
    exact ⟨j'', hj'', hsame.trans hsame'⟩
  docs d row hd := by
    obtain ⟨row', hrow', hsame⟩ := h.docs d row hd
    obtain ⟨row'', hrow'', hsame'⟩ := h'.docs d row' hrow'
    exact ⟨row'', hrow'', hsame.trans hsame'⟩
  listing id hid := (h'.listing id (h.mem_keys hid)).trans (h.listing id hid)

theorem Store.Extends.backed {s s' : Store} (h : s.Extends s') {session : Session}
    (hb : session.Backed s) : session.Backed s' := by
  cases session with
  | inserting req orderId docTypes => exact hb
  | created job req => exact h.backs hb
  | enqueueing job req status => exact h.backs hb
  | cancelling job seen reason => exact h.mem_keys hb
  | reviewing job seen => exact h.mem_keys hb
  | archiving job seen => exact h.mem_keys hb
  | _ => trivial

/-- The part of the invariant about the tables alone. -/
structure Store.WellFormed (s : Store) : Prop where
  live : ∀ id j, s.jobs.get id = some j → j.deletedAt = none
  listed : ∀ id ∈ s.jobs.keys, s.docKeys id ≠ []

theorem Store.WellFormed.getJob {s : Store} (h : s.WellFormed) {job : Uuid} {j : Job}
    (hj : s.jobs.get job = some j) : s.getJob job j.tenantId = some j :=
  (s.getJob_eq_some_iff _ _ _).mpr ⟨hj, rfl, h.live job j hj⟩

/-- In a well-formed store a task that names a job of its tenant reads that row. -/
theorem Store.Backs.getJob {s : Store} {job tenant : Uuid} (h : s.Backs job tenant) {j : Job}
    (hj : s.jobs.get job = some j) : s.getJob job tenant = some j := by
  obtain ⟨j', hj'⟩ := h
  have hget := ((s.getJob_eq_some_iff _ _ _).mp hj').1
  rwa [Option.some.inj (hj.symm.trans hget)]

/-- An extension that adds no job row keeps the tables well formed. -/
theorem Store.WellFormed.extends {s s' : Store} (h : s.WellFormed) (he : s.Extends s')
    (hk : s'.jobs.keys = s.jobs.keys) : s'.WellFormed where
  live id j' hj' := by
    have hmem : id ∈ s.jobs.keys := hk ▸ (Table.mem_keys_iff _ _).mpr ⟨j', hj'⟩
    obtain ⟨j, hj⟩ := (Table.mem_keys_iff _ _).mp hmem
    exact (he.sameJob hj hj').deletedAt.trans (h.live id j hj)
  listed id hid := by
    rw [hk] at hid
    rw [he.listing id hid]
    exact h.listed id hid

theorem workerStep_keys {I W : Type} {F : Fetcher I W} {now : Time} {s : Store} {w : W} {r : Run}
    {act : WorkerAct I} {e : Effect W} (h : workerStep F now s w r act = some e) :
    e.store.jobs.keys = s.jobs.keys := by
  obtain ⟨g, hj, -⟩ := workerStep_jobs h
  rw [hj, Table.modify_keys]

section Api

variable [PyText] {now : Time} {s : Store} {session : Session} {act : ApiAct} {e : ApiEffect}

theorem apiCase_wellFormed (h : ApiCase now s session act e) (hs : s.WellFormed)
    (hb : session.Backed s) : e.store.WellFormed := by
  have he := apiCase_extends h
  cases h with
  | @insert req orderId docTypes job freshKey docs table fresh hlen hdocs =>
    refine ⟨fun id j hj => ?_, fun id hid => ?_⟩
    · rw [Table.get_insert] at hj
      split at hj
      · obtain rfl := Option.some.inj hj
        rfl
      · exact hs.live id j hj
    · by_cases hid' : id = job
      · subst hid'
        obtain ⟨d, hd⟩ := List.exists_mem_of_ne_nil docs (by
          rintro rfl
          exact hb (List.length_eq_zero_iff.mp hlen.symm))
        exact List.ne_nil_of_mem (insertDocs_docKeys_self hdocs hlen _ hd)
      · obtain ⟨j, hj⟩ := (Table.mem_keys_iff _ _).mp hid
        rw [Table.get_insert, if_neg hid'] at hj
        have hold : id ∈ s.jobs.keys := (Table.mem_keys_iff _ _).mpr ⟨j, hj⟩
        rw [he.listing id hold]
        exact hs.listed id hold
  | commitCancel => exact hs.extends he (Table.modify_keys _ _ _)
  | commitReview => exact hs.extends he (Table.modify_keys _ _ _)
  | commitArchive => exact hs.extends he (Table.modify_keys _ _ _)
  | _ => exact hs

theorem apiCase_backed (h : ApiCase now s session act e) (hb : session.Backed s) : e.session.Backed e.store := by
  have he := apiCase_extends h
  have hread : ∀ {job tenant j}, s.getJob job tenant = some j → job ∈ s.jobs.keys := fun hj =>
    Store.Backs.mem_keys ⟨_, hj⟩
  cases h with
  | @retry tenantId actorId job docTypes =>
    simp only [readRetry]
    split
    · trivial
    · split
      · cases docTypes <;> dsimp only <;> split <;> trivial
      · trivial
  | cancelRead hj hst => exact hread hj
  | @review tenantId job =>
    simp only [readReview]
    split
    · trivial
    · split
      · exact hread ‹_›
      · trivial
  | @archive tenantId job =>
    simp only [readArchive]
    split
    · trivial
    · split
      · exact hread ‹_›
      · trivial
  | @check req order =>
    cases hc : checkCreate s req order with
    | inserting req' orderId docTypes => exact checkCreate_inserting hc
    | _ =>
      first
        | trivial
        | (unfold checkCreate at hc; split at hc <;> try split at hc) <;> cases hc
  | @insert req orderId docTypes job freshKey docs table fresh hlen hdocs =>
    refine ⟨newJob now req orderId (req.idempotencyKey.getD freshKey) docTypes,
      (Store.getJob_eq_some_iff _ _ _ _).mpr ⟨?_, rfl, rfl⟩⟩
    simp only [Table.get_insert, if_true]
  | @recover req =>
    simp only [recoverCreate]
    split <;> trivial
  | refreshCreated hj => exact hb
  | _ => trivial

theorem apiCase_publish (h : ApiCase now s session act e) (hb : session.Backed s) :
    ∀ t ∈ e.publish, s.Backs t.jobId t.tenantId := by
  cases h with
  | enqueue =>
    intro t ht
    obtain rfl := List.mem_singleton.mp ht
    exact hb
  | _ =>
    intro t ht
    cases ht

end Api

namespace JobMachine

open TransitionRuns ReaperSweep

variable {W : Type}

structure WellFormed (σ : State W) : Prop where
  store : σ.store.WellFormed
  queue : ∀ t ∈ σ.queue, σ.store.Backs t.jobId t.tenantId
  runs : ∀ r, (σ.runs r).phase ≠ .idle →
    σ.store.Backs (σ.runs r).task.jobId (σ.runs r).task.tenantId
  sessions : ∀ n, (σ.sessions n).Backed σ.store

theorem staleTasks_backs {cfg : Settings} {now : Time} {s : Store} (h : s.WellFormed) :
    ∀ t ∈ staleTasks cfg now s, s.Backs t.jobId t.tenantId := by
  intro t ht
  obtain ⟨r, hr, rfl⟩ := List.mem_map.mp ht
  exact ⟨r.2, h.getJob ((Table.mem_select_iff _ _ _ _).mp hr).1⟩

theorem wellFormed_start (outside : W) (now : Time) : WellFormed (State.start outside now) where
  store :=
    { live := fun id j hj => by cases hj
      listed := fun id hid => by cases hid }
  queue t ht := by cases ht
  runs r hr := absurd rfl hr
  sessions n := trivial

variable [PyText] {I : Type} {F : Fetcher I W} {cfg : Settings}

theorem StepCase.wellFormed {σ τ : State W} {a : Action I} (hσ : WellFormed σ)
    (h : StepCase F cfg σ a τ) : WellFormed τ := by
  have he := h.extends
  cases h with
  | tick => exact ⟨hσ.store, hσ.queue, hσ.runs, hσ.sessions⟩
  | @deliver run i task hfree htask =>
    refine ⟨hσ.store, fun t ht => hσ.queue t (List.mem_of_mem_eraseIdx ht), fun r hr => ?_,
      hσ.sessions⟩
    simp only [State.afterDeliver, Function.update_apply] at hr ⊢
    split
    · exact hσ.queue task (List.mem_of_getElem? htask)
    · rename_i hne
      exact hσ.runs r (by simpa [hne] using hr)
  | @redeliver run hlive =>
    refine ⟨hσ.store, fun t ht => ?_, hσ.runs, hσ.sessions⟩
    rcases List.mem_append.mp ht with ht | ht
    · exact hσ.queue t ht
    · obtain rfl := List.mem_singleton.mp ht
      exact hσ.runs run fun hidle => by simp [hidle, Phase.live] at hlive
  | @worker run act e hw =>
    have hbacks := hσ.runs run fun hidle => by
      have hlive := workerStep_live hw
      simp [hidle, Phase.live] at hlive
    refine ⟨hσ.store.extends he (workerStep_keys hw), fun t ht => ?_, fun r hr => ?_, fun n =>
      he.backed (hσ.sessions n)⟩
    · rcases List.mem_append.mp ht with ht | ht
      · exact he.backs (hσ.queue t ht)
      · obtain ⟨hjob, htenant⟩ := (workerStep_task hw).2 t ht
        rw [hjob, htenant]
        exact he.backs hbacks
    · simp only [State.afterWorker, Function.update_apply] at hr ⊢
      split
      · rw [(workerStep_task hw).1]
        exact he.backs hbacks
      · rename_i hne
        exact he.backs (hσ.runs r (by simpa [hne] using hr))
  | @api session act e ha =>
    refine ⟨apiCase_wellFormed ha hσ.store (hσ.sessions session), fun t ht => ?_,
      fun r hr => he.backs (hσ.runs r hr), fun n => ?_⟩
    · rcases List.mem_append.mp ht with ht | ht
      · exact he.backs (hσ.queue t ht)
      · exact he.backs (apiCase_publish ha (hσ.sessions session) t ht)
    · simp only [State.afterApi, Function.update_apply]
      split
      · exact apiCase_backed ha (hσ.sessions session)
      · exact he.backed (hσ.sessions n)
  | sweepEnqueue =>
    refine ⟨hσ.store, fun t ht => ?_, hσ.runs, hσ.sessions⟩
    rcases List.mem_append.mp ht with ht | ht
    · exact hσ.queue t ht
    · exact staleTasks_backs hσ.store t (List.mem_of_mem_take ht)
  | sweepFail =>
    exact ⟨hσ.store.extends he (failRunning_keys _), fun t ht => he.backs (hσ.queue t ht),
      fun r hr => he.backs (hσ.runs r hr), fun n => he.backed (hσ.sessions n)⟩

theorem Reachable.wellFormed {σ : State W} (h : Reachable F cfg σ) : WellFormed σ :=
  h.invariant wellFormed_start fun _ _ _ hs hst => hst.wellFormed hs

end JobMachine
end ResearchEngine
