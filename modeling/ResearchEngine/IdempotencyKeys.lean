import ResearchEngine.MachineInvariant

/-! The job of a tenant under an idempotency key: the unique constraint leaves at most
one, the lookup finds it, and no step loses it. -/
namespace ResearchEngine

namespace Store

/-- The row of `job` belongs to the tenant and has the key. -/
def Keyed (s : Store) (tenant key job : Uuid) : Prop :=
  ∃ row, s.jobs.get job = some row ∧ row.tenantId = tenant ∧ row.idempotencyKey = key

/-- `uq_research_job_idempotency_per_tenant`. -/
def KeysUnique (s : Store) : Prop :=
  ∀ tenant key job job', s.Keyed tenant key job → s.Keyed tenant key job' → job = job'

/-- No row is soft-deleted. -/
def Live (s : Store) : Prop := ∀ id j, s.jobs.get id = some j → j.deletedAt = none

variable {s s' : Store} {tenant key job : Uuid}

theorem Keyed.mem_keys (h : s.Keyed tenant key job) : job ∈ s.jobs.keys := by
  obtain ⟨row, hrow, -⟩ := h
  exact (Table.mem_keys_iff _ _).mpr ⟨row, hrow⟩

theorem Extends.keyed (h : s.Extends s') (hk : s.Keyed tenant key job) :
    s'.Keyed tenant key job := by
  obtain ⟨row, hrow, ht, hkey⟩ := hk
  obtain ⟨row', hrow', hsame⟩ := h.jobs job row hrow
  exact ⟨row', hrow', hsame.tenantId.trans ht, hsame.idempotencyKey.trans hkey⟩

/-- A row that is not new had its tenant and key before. -/
theorem Extends.keyed_of_mem (h : s.Extends s') (hk : s'.Keyed tenant key job)
    (hold : job ∈ s.jobs.keys) : s.Keyed tenant key job := by
  obtain ⟨row', hrow', ht, hkey⟩ := hk
  obtain ⟨row, hrow⟩ := (Table.mem_keys_iff _ _).mp hold
  have hsame := h.sameJob hrow hrow'
  exact ⟨row, hrow, hsame.tenantId.symm.trans ht, hsame.idempotencyKey.symm.trans hkey⟩

theorem KeysUnique.extends (hs : s.KeysUnique) (h : s.Extends s')
    (hkeys : s'.jobs.keys = s.jobs.keys) : s'.KeysUnique := by
  intro tenant key job job' hj hj'
  exact hs tenant key job job' (h.keyed_of_mem hj (hkeys ▸ hj.mem_keys))
    (h.keyed_of_mem hj' (hkeys ▸ hj'.mem_keys))

/-- What the lookup returns is a row of that tenant and key. -/
theorem getByIdempotency_some {row : Job} (h : s.getByIdempotency key tenant = some (job, row)) :
    s.jobs.get job = some row ∧ s.Keyed tenant key job := by
  have hmem := List.mem_of_head? h
  obtain ⟨hrow, hp⟩ := (Table.mem_select_iff _ _ _ _).mp hmem
  obtain ⟨hkey, ht, -⟩ := of_decide_eq_true hp
  exact ⟨hrow, row, hrow, ht, hkey⟩

theorem getByIdempotency_none (hlive : s.Live) (h : s.getByIdempotency key tenant = none)
    (job : Uuid) : ¬ s.Keyed tenant key job := by
  rintro ⟨row, hrow, ht, hkey⟩
  have hnil := List.head?_eq_none_iff.mp h
  have hmem : (job, row) ∈ s.jobs.select fun j =>
      decide (j.idempotencyKey = key ∧ j.tenantId = tenant ∧ j.deletedAt = none) :=
    (Table.mem_select_iff _ _ _ _).mpr ⟨hrow, decide_eq_true ⟨hkey, ht, hlive job row hrow⟩⟩
  rw [hnil] at hmem
  cases hmem

/-- The lookup finds the job of the key. -/
theorem Keyed.lookup (hlive : s.Live) (hu : s.KeysUnique) (h : s.Keyed tenant key job) :
    ∃ row, s.getByIdempotency key tenant = some (job, row) := by
  cases hl : s.getByIdempotency key tenant with
  | none => exact (getByIdempotency_none hlive hl job h).elim
  | some r =>
    obtain ⟨job', row⟩ := r
    obtain rfl := hu tenant key job job' h (getByIdempotency_some hl).2
    exact ⟨row, rfl⟩

end Store

/-! The insert transaction and the unique constraint. -/

section Insert

variable {now : Time} {s : Store} {req : CreateRequest} {orderId job freshKey : Uuid}
  {docTypes : List DocType} {docs : List Uuid} {e : ApiEffect}

theorem violatesUnique_false {key tenant : Uuid} (h : violatesUnique s key tenant docTypes = false) :
    (∀ job, ¬ s.Keyed tenant key job) ∧ docTypes.Nodup := by
  simp only [violatesUnique, decide_eq_false_iff_not, not_or, not_not] at h
  obtain ⟨hrows, hnodup⟩ := h
  refine ⟨?_, hnodup⟩
  rintro job ⟨row, hrow, ht, hkey⟩
  refine hrows (List.any_eq_true.mpr ⟨(job, row), (Table.mem_rows_iff _ _ _).mpr hrow, ?_⟩)
  exact decide_eq_true ⟨hkey, ht⟩

theorem violatesUnique_true {key tenant : Uuid} (h : violatesUnique s key tenant docTypes = true)
    (hnodup : docTypes.Nodup) : ∃ job, s.Keyed tenant key job := by
  simp only [violatesUnique, hnodup, not_true_eq_false, or_false, decide_eq_true_eq] at h
  obtain ⟨⟨job, row⟩, hmem, hp⟩ := List.any_eq_true.mp h
  obtain ⟨hkey, ht⟩ := of_decide_eq_true hp
  exact ⟨job, row, (Table.mem_rows_iff _ _ _).mp hmem, ht, hkey⟩

theorem keyed_insert {row : Job} {fresh : job ∉ s.jobs.keys} {table : Table Uuid Doc}
    {tenant key id : Uuid} :
    Store.Keyed { jobs := s.jobs.insert job row fresh, docs := table } tenant key id ↔
      (id = job ∧ row.tenantId = tenant ∧ row.idempotencyKey = key) ∨ s.Keyed tenant key id := by
  unfold Store.Keyed
  by_cases hid : id = job
  · subst hid
    have hnone := (Table.get_eq_none_iff _ _).mpr fresh
    simp [Table.get_insert, hnone]
  · simp [Table.get_insert, hid]

theorem insertJob_keysUnique (hs : s.KeysUnique)
    (h : insertJob now s req orderId docTypes job freshKey docs = some e) : e.store.KeysUnique := by
  obtain ⟨-, rfl⟩ | ⟨hfree, -, fresh, table, -, rfl⟩ := insertJob_split h
  · exact hs
  · obtain ⟨hnone, -⟩ := violatesUnique_false hfree
    intro tenant key id id' hid hid'
    rw [keyed_insert] at hid hid'
    obtain ⟨rfl, rfl, rfl⟩ | hid := hid
    · obtain ⟨rfl, -⟩ | hid' := hid'
      · rfl
      · exact (hnone id' hid').elim
    · obtain ⟨rfl, rfl, rfl⟩ | hid' := hid'
      · exact (hnone id hid).elim
      · exact hs tenant key id id' hid hid'

end Insert

section Api

variable [PyText] {now : Time} {s : Store} {session : Session} {act : ApiAct} {e : ApiEffect}

theorem validateDocTypes_nodup {names : List String} {docTypes : List DocType}
    (h : validateDocTypes names = .ok docTypes) : docTypes.Nodup := by
  unfold validateDocTypes at h
  split at h
  · obtain rfl := Except.ok.inj h
    decide
  · dsimp only at h
    split at h
    · obtain rfl := Except.ok.inj h
      exact List.nodup_reverse.mpr (List.nodup_dedup _)
    · cases h

/-- Only the insert adds a job row. -/
theorem apiCase_keys (h : ApiCase now s session act e)
    (hact : ∀ job key docs, act ≠ .insert job key docs) :
    e.store.jobs.keys = s.jobs.keys := by
  cases h with
  | insert => exact (hact _ _ _ rfl).elim
  | commitCancel => exact Table.modify_keys _ _ _
  | commitReview => exact Table.modify_keys _ _ _
  | commitArchive => exact Table.modify_keys _ _ _
  | _ => rfl

theorem apiStep_keysUnique (hs : s.KeysUnique) (h : apiStep now s session act = some e) :
    e.store.KeysUnique := by
  have hcase := apiStep_cases h
  by_cases hact : ∀ job key docs, act ≠ .insert job key docs
  · exact hs.extends (apiCase_extends hcase) (apiCase_keys hcase hact)
  · simp only [not_forall, not_not] at hact
    obtain ⟨job, freshKey, docs, rfl⟩ := hact
    cases session with
    | inserting req orderId docTypes => exact insertJob_keysUnique hs h
    | _ => cases h

end Api

namespace JobMachine

open TransitionRuns ReaperSweep

variable [PyText] {I W : Type} {F : Fetcher I W} {cfg : Settings}

theorem StepCase.keys {σ τ : State W} {a : Action I} (h : StepCase F cfg σ a τ)
    (ha : ∀ n act, a ≠ .api n act) : τ.store.jobs.keys = σ.store.jobs.keys := by
  cases h with
  | worker hw => exact workerStep_keys hw
  | api => exact (ha _ _ rfl).elim
  | sweepFail => exact failRunning_keys _
  | _ => rfl

theorem step_keysUnique {σ τ : State W} {a : Action I} (hs : σ.store.KeysUnique)
    (h : step F cfg σ a = some τ) : τ.store.KeysUnique := by
  have hcase := step_cases F cfg h
  by_cases ha : ∀ n act, a ≠ .api n act
  · exact hs.extends hcase.extends (hcase.keys ha)
  · simp only [not_forall, not_not] at ha
    obtain ⟨n, act, rfl⟩ := ha
    obtain ⟨e, he, rfl⟩ := Option.map_eq_some_iff.mp h
    exact apiStep_keysUnique hs he

theorem Reachable.keysUnique {σ : State W} (h : Reachable F cfg σ) : σ.store.KeysUnique := by
  obtain ⟨outside, now, as, has⟩ := h
  refine has.invariant (I := fun s => s.store.KeysUnique)
    (fun s a t hs _ hst => step_keysUnique hs hst) ?_
  rintro tenant key job job' ⟨row, hrow, -⟩
  cases hrow

/-- The job of a key stays the job of that key. -/
theorem runs_keyed {ok : State W → Action I → Prop} {σ τ : State W} {as : List (Action I)}
    (h : Runs (step F cfg) ok σ as τ) {tenant key job : Uuid}
    (hk : σ.store.Keyed tenant key job) : τ.store.Keyed tenant key job :=
  h.invariant (I := fun s => s.store.Keyed tenant key job)
    (fun _ _ _ hs _ hst => (step_cases F cfg hst).extends.keyed hs) hk

end JobMachine
end ResearchEngine
