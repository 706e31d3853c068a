import ResearchEngine.TenantView
import Mathlib.Algebra.Order.BigOperators.Group.List
import Mathlib.Algebra.Order.Group.Nat
import Mathlib.Algebra.Order.Monoid.Canonical.Defs

/-! Any number of `create_job` calls at once: the pre-check, the unique constraint and
the recovery read leave one job under a tenant's key, whatever the order of the steps. -/
namespace ResearchEngine

/-- The request asks for a job of this tenant under this key. -/
def CreateRequest.Under (tenant key : Uuid) (req : CreateRequest) : Prop :=
  req.tenantId = tenant ∧ req.idempotencyKey = some key

instance (tenant key : Uuid) (req : CreateRequest) : Decidable (req.Under tenant key) :=
  inferInstanceAs (Decidable (_ ∧ _))

/-- `_resolve_order` accepts the order. -/
def Researchable (order : Option OrderData) : Prop :=
  ∃ o, order = some o ∧ o.addressLine1 ≠ ""

/-- What the calls under the key may rely on: their order can be researched and the broker
takes the task. A generated key is new. -/
def ApiAct.Fair (tenant key : Uuid) (req : CreateRequest) : ApiAct → Prop
  | .check order => req.Under tenant key → Researchable order
  | .insert _ freshKey _ => freshKey ≠ key
  | .enqueue accepted => req.Under tenant key → accepted = true
  | _ => True

/-- Where a call of `create_job` stands, seen from one tenant's key. -/
def Session.Stage [PyText] (tenant key : Uuid) (req : CreateRequest) (s : Store) : Session → Prop
  | .checking r => r = req
  | .inserting r _ docTypes => r = req ∧ validateDocTypes req.docTypes = .ok docTypes
  | .recovering r => r = req ∧ (req.Under tenant key → ∃ job, s.Keyed tenant key job)
  | .created job r | .enqueueing job r _ =>
    r = req ∧ job ∈ s.jobs.keys ∧ (s.Keyed tenant key job ↔ req.Under tenant key)
  | .returned job _ => req.Under tenant key → s.Keyed tenant key job
  | .raised _ => ¬ req.Under tenant key
  | _ => False

/-- The session runs a call of `create_job` for the request. -/
def Session.Calls (req : CreateRequest) : Session → Prop
  | .checking r | .inserting r _ _ | .recovering r | .created _ r | .enqueueing _ r _ => r = req
  | .returned _ _ | .raised _ => True
  | _ => False

section Call

variable [PyText] {now : Time} {s : Store} {req : CreateRequest} {tenant key : Uuid}
  {session : Session} {act : ApiAct} {e : ApiEffect}

/-- The steps of a call of `create_job`. -/
inductive CreateCase (now : Time) (s : Store) (req : CreateRequest) :
    Session → ApiAct → ApiEffect → Prop
  | check {order} : CreateCase now s req (.checking req) (.check order)
      { store := s, session := checkCreate s req order }
  | refused {orderId docTypes job freshKey docs}
      (h : violatesUnique s (req.idempotencyKey.getD freshKey) req.tenantId docTypes = true) :
      CreateCase now s req (.inserting req orderId docTypes) (.insert job freshKey docs)
        { store := s, session := .recovering req }
  | insert {orderId docTypes job freshKey docs table}
      (hfree : violatesUnique s (req.idempotencyKey.getD freshKey) req.tenantId docTypes = false)
      (hlen : docs.length = docTypes.length) (fresh : job ∉ s.jobs.keys)
      (htable : insertDocs now job orderId (docs.zip docTypes) s.docs = some table) :
      CreateCase now s req (.inserting req orderId docTypes) (.insert job freshKey docs)
        { store :=
            { jobs := s.jobs.insert job
                (newJob now req orderId (req.idempotencyKey.getD freshKey) docTypes) fresh
              docs := table }
          session := .created job req }
  | recover : CreateCase now s req (.recovering req) .recover
      { store := s, session := recoverCreate s req }
  | refresh {job j} (hj : s.jobs.get job = some j) : CreateCase now s req (.created job req) .refresh
      { store := s, session := .enqueueing job req j.status }
  | enqueue {job status} : CreateCase now s req (.enqueueing job req status) (.enqueue true)
      { store := s
        session := .returned job status
        publish := [{ jobId := job, tenantId := req.tenantId, actorId := req.actorId }] }
  | enqueueFailed {job status} :
      CreateCase now s req (.enqueueing job req status) (.enqueue false)
        { store := s, session := .raised .enqueueFailed }

theorem createCase (hcalls : session.Calls req) (h : apiStep now s session act = some e) :
    CreateCase now s req session act e := by
  cases apiStep_cases h with
  | check =>
    obtain rfl := hcalls
    exact .check
  | insertRefused | insert =>
    obtain rfl := hcalls
    obtain ⟨hviolates, heq⟩ | ⟨hfree, hlen, fresh, table, htable, heq⟩ := insertJob_split h
    · exact heq ▸ .refused hviolates
    · exact heq ▸ .insert hfree hlen fresh htable
  | recover =>
    obtain rfl := hcalls
    exact .recover
  | refreshCreated hj =>
    obtain rfl := hcalls
    exact .refresh hj
  | enqueue =>
    obtain rfl := hcalls
    exact .enqueue
  | enqueueFailed =>
    obtain rfl := hcalls
    exact .enqueueFailed
  | _ => exact hcalls.elim

theorem Session.Stage.calls (h : session.Stage tenant key req s) : session.Calls req := by
  cases session with
  | checking => exact h
  | inserting | recovering | created | enqueueing => exact h.1
  | returned | raised => trivial
  | _ => exact h.elim

theorem Session.Stage.extends {s' : Store} (h : session.Stage tenant key req s)
    (he : s.Extends s') : session.Stage tenant key req s' := by
  cases session with
  | checking | inserting | raised => exact h
  | recovering r => exact ⟨h.1, fun hu => (h.2 hu).imp fun _ hk => he.keyed hk⟩
  | created | enqueueing =>
    obtain ⟨hr, hmem, hiff⟩ := h
    exact ⟨hr, he.mem_keys hmem, fun hk => hiff.mp (he.keyed_of_mem hk hmem),
      fun hu => he.keyed (hiff.mpr hu)⟩
  | returned => exact fun hu => he.keyed (h hu)
  | _ => exact h.elim

omit [PyText] in
/-- The key a row is inserted with is the tenant's key just for the calls under it. -/
theorem newJob_under {orderId freshKey : Uuid} {docTypes : List DocType} (hfresh : freshKey ≠ key) :
    ((newJob now req orderId (req.idempotencyKey.getD freshKey) docTypes).tenantId = tenant ∧
      (newJob now req orderId (req.idempotencyKey.getD freshKey) docTypes).idempotencyKey = key) ↔
        req.Under tenant key := by
  unfold CreateRequest.Under newJob
  cases req.idempotencyKey with
  | none => simp [hfresh]
  | some k => simp

omit [PyText] in
theorem keyed_newJob {orderId job freshKey : Uuid} {docTypes : List DocType}
    {fresh : job ∉ s.jobs.keys} {table : Table Uuid Doc} (hfresh : freshKey ≠ key) (id : Uuid) :
    Store.Keyed
        { jobs := s.jobs.insert job
            (newJob now req orderId (req.idempotencyKey.getD freshKey) docTypes) fresh
          docs := table } tenant key id ↔
      (id = job ∧ req.Under tenant key) ∨ s.Keyed tenant key id := by
  rw [keyed_insert, newJob_under hfresh]

/-- `create_job` up to the pre-check. -/
theorem checkCreate_stage {order : Option OrderData} (hfair : req.Under tenant key → Researchable order)
    (hvalid : req.Under tenant key → ∃ docTypes, validateDocTypes req.docTypes = .ok docTypes) :
    (checkCreate s req order).Stage tenant key req s := by
  unfold checkCreate
  split
  · rename_i error herror
    intro hu
    obtain ⟨o, rfl, haddr⟩ := hfair hu
    obtain ⟨docTypes, hdocTypes⟩ := hvalid hu
    simp [resolveRequest, haddr, hdocTypes, Except.map] at herror
  · rename_i orderId docTypes hres
    split
    · rename_i job row hlookup
      rintro ⟨rfl, hkey⟩
      rw [hkey, Option.bind_some] at hlookup
      exact (Store.getByIdempotency_some hlookup).2
    · exact ⟨rfl, (resolveRequest_ok hres).2⟩

theorem recoverCreate_stage (hlive : s.Live)
    (hkeyed : req.Under tenant key → ∃ job, s.Keyed tenant key job) :
    (recoverCreate s req).Stage tenant key req s := by
  unfold recoverCreate
  split
  · rename_i job row hlookup
    rintro ⟨rfl, hkey⟩
    rw [hkey, Option.bind_some] at hlookup
    exact (Store.getByIdempotency_some hlookup).2
  · rename_i hlookup
    intro hu
    obtain ⟨job, hjob⟩ := hkeyed hu
    obtain ⟨rfl, hkey⟩ := hu
    rw [hkey, Option.bind_some] at hlookup
    exact Store.getByIdempotency_none hlive hlookup job hjob

/-- A step of a call leaves the call at a proper place. -/
theorem CreateCase.stage (h : CreateCase now s req session act e) (hlive : s.Live)
    (hstage : session.Stage tenant key req s) (hfair : act.Fair tenant key req)
    (hvalid : req.Under tenant key → ∃ docTypes, validateDocTypes req.docTypes = .ok docTypes) :
    e.session.Stage tenant key req e.store := by
  cases h with
  | check => exact checkCreate_stage hfair hvalid
  | refused hviolates =>
    refine ⟨rfl, ?_⟩
    rintro ⟨rfl, hkey⟩
    rw [hkey] at hviolates
    exact violatesUnique_true hviolates (validateDocTypes_nodup hstage.2)
  | insert hfree hlen fresh htable =>
    refine ⟨rfl, (Table.mem_keys_iff _ _).mpr ⟨_, by rw [Table.get_insert, if_pos rfl]⟩, ?_⟩
    rw [keyed_newJob hfair]
    refine ⟨fun hk => ?_, fun hu => .inl ⟨rfl, hu⟩⟩
    obtain ⟨-, hu⟩ | hk := hk
    · exact hu
    · exact (fresh hk.mem_keys).elim
  | recover => exact recoverCreate_stage hlive hstage.2
  | refresh => exact ⟨rfl, hstage.2⟩
  | enqueue => exact fun hu => hstage.2.2.mpr hu
  | enqueueFailed => exact fun hu => by cases hfair hu

/-- The job whose task a call is about to publish. -/
def Session.made : Session → Option Uuid
  | .created job _ | .enqueueing job _ _ => some job
  | _ => none

/-- The call that inserted the job: its task is published once it has returned, not before. -/
def Session.Winner (job : Uuid) (task : Task) (published : List Task) : Session → Prop
  | .created j _ | .enqueueing j _ _ =>
    j = job ∧ published.filter (fun t => t.jobId = job) = []
  | .returned j _ => j = job ∧ published.filter (fun t => t.jobId = job) = [task]
  | _ => False

theorem checkCreate_made (s : Store) (req : CreateRequest) (order : Option OrderData) :
    (checkCreate s req order).made = none := by
  unfold checkCreate
  split
  · rfl
  · split <;> rfl

omit [PyText] in
theorem recoverCreate_made (s : Store) (req : CreateRequest) : (recoverCreate s req).made = none := by
  unfold recoverCreate
  split <;> rfl

theorem CreateCase.publish_mem (h : CreateCase now s req session act e)
    (hstage : session.Stage tenant key req s) : ∀ t ∈ e.publish, t.jobId ∈ s.jobs.keys := by
  cases h with
  | enqueue =>
    intro t ht
    obtain rfl := List.mem_singleton.mp ht
    exact hstage.2.1
  | _ => exact fun _ ht => by cases ht

/-- The documents of a job, by type. -/
def Store.docTypesOf (s : Store) (job : Uuid) : List DocType :=
  (s.docsForJob job).map fun d => d.2.docType

omit [PyText] in
theorem docTypesOf_insert_other {orderId job id : Uuid} {ds : List (Uuid × DocType)}
    {table : Table Uuid Doc} (h : insertDocs now job orderId ds s.docs = some table)
    (jobs : Table Uuid Job) (hne : id ≠ job) :
    Store.docTypesOf { jobs := jobs, docs := table } id = s.docTypesOf id := by
  have hne' : job ≠ id := hne.symm
  simp only [Store.docTypesOf, Store.docsForJob, Table.select, insertDocs_rows h,
    List.filter_append]
  rw [(List.filter_eq_nil_iff (l := ds.map _)).mpr]
  · simp
  · intro r hr
    obtain ⟨q, _, rfl⟩ := List.mem_map.mp hr
    simp [newDoc, hne']

omit [PyText] in
/-- The documents of a job that has just been inserted. -/
theorem docTypesOf_insert_self {orderId job : Uuid} {docTypes : List DocType} {docs : List Uuid}
    {table : Table Uuid Doc} (hdocs : s.DocsHaveJobs) (fresh : job ∉ s.jobs.keys)
    (hlen : docs.length = docTypes.length)
    (h : insertDocs now job orderId (docs.zip docTypes) s.docs = some table)
    (jobs : Table Uuid Job) :
    Store.docTypesOf { jobs := jobs, docs := table } job = docTypes := by
  have hold : s.docs.rows.filter (fun r => decide (r.2.jobId = job ∧ r.2.deletedAt = none)) = [] := by
    refine List.filter_eq_nil_iff.mpr fun r hr => ?_
    have hmem := hdocs r.1 r.2 ((Table.mem_rows_iff _ _ _).mp hr)
    have hne : r.2.jobId ≠ job := fun he => fresh (he ▸ hmem)
    simp [hne]
  simp only [Store.docTypesOf, Store.docsForJob, Table.select, insertDocs_rows h,
    List.filter_append, hold, List.nil_append]
  rw [List.filter_eq_self.mpr]
  · rw [List.map_map]
    exact List.map_snd_zip (by omega)
  · intro r hr
    obtain ⟨q, _, rfl⟩ := List.mem_map.mp hr
    simp [newDoc]

omit [PyText] in
theorem Session.Winner.congr {session : Session} {job : Uuid} {task : Task}
    {published published' : List Task} (h : session.Winner job task published)
    (hpub : published'.filter (fun t => t.jobId = job) =
      published.filter fun t => t.jobId = job) : session.Winner job task published' := by
  cases session with
  | created | enqueueing | returned => exact ⟨h.1, hpub.trans h.2⟩
  | _ => exact h.elim

omit [PyText] in
theorem exists_fresh (keys : List ℕ) (count : ℕ) :
    ∃ ids : List ℕ, ids.length = count ∧ ids.Nodup ∧ ∀ id ∈ ids, id ∉ keys := by
  refine ⟨List.range' (keys.sum + 1) count, by simp, List.nodup_range' 1, fun id hid hmem => ?_⟩
  have hle := List.le_sum_of_mem hmem
  have hge := (List.mem_range'_1.mp hid).1
  omega

omit [PyText] in
theorem insertDocs_enabled (now : Time) (job orderId : Uuid) {ds : List (Uuid × DocType)}
    {t : Table Uuid Doc} (hnodup : (ds.map Prod.fst).Nodup) (hfresh : ∀ q ∈ ds, q.1 ∉ t.keys) :
    ∃ t', insertDocs now job orderId ds t = some t' := by
  induction ds generalizing t with
  | nil => exact ⟨t, rfl⟩
  | cons q ds ih =>
    rw [List.map_cons, List.nodup_cons] at hnodup
    have hq : q.1 ∉ t.keys := hfresh q List.mem_cons_self
    obtain ⟨t', ht'⟩ := ih (t := t.insert q.1 (newDoc now job orderId q.2) hq) hnodup.2 (by
      intro r hr hmem
      simp only [Table.keys, Table.insert, List.map_append, List.mem_append, List.map_cons,
        List.map_nil, List.mem_singleton] at hmem
      obtain hold | heq := hmem
      · exact hfresh r (List.mem_cons_of_mem _ hr) hold
      · exact hnodup.1 (heq ▸ List.mem_map_of_mem hr))
    refine ⟨t', Option.bind_eq_some_iff.mpr ⟨_, ?_, ht'⟩⟩
    exact (Table.insert?_eq_some_iff _ _ _ _).mpr ⟨hq, rfl⟩

omit [PyText] in
/-- The insert transaction can always run: new ids are to be had. -/
theorem insertJob_enabled (now : Time) (s : Store) (req : CreateRequest) (orderId key : Uuid)
    (docTypes : List DocType) : ∃ job freshKey docs e, freshKey ≠ key ∧
      insertJob now s req orderId docTypes job freshKey docs = some e := by
  by_cases hv : violatesUnique s (req.idempotencyKey.getD (key + 1)) req.tenantId docTypes = true
  · refine ⟨0, key + 1, [], { store := s, session := .recovering req }, Nat.succ_ne_self key, ?_⟩
    simp only [insertJob, hv, if_true]
  · obtain ⟨jobs, hjob, -, hnew⟩ := exists_fresh s.jobs.keys 1
    obtain ⟨job, rfl⟩ := List.length_eq_one_iff.mp hjob
    obtain ⟨docs, hlen, hnodup, hfresh⟩ := exists_fresh s.docs.keys docTypes.length
    have hkeys : (docs.zip docTypes).map Prod.fst = docs := List.map_fst_zip (by omega)
    obtain ⟨table, htable⟩ := insertDocs_enabled now job orderId (t := s.docs)
      (by rw [hkeys]; exact hnodup)
      fun q hq => hfresh q.1 (hkeys ▸ List.mem_map_of_mem hq)
    have hrun : insertJob now s req orderId docTypes job (key + 1) docs = some
        { store :=
            { jobs := s.jobs.insert job
                (newJob now req orderId (req.idempotencyKey.getD (key + 1)) docTypes)
                (hnew job List.mem_cons_self)
              docs := table }
          session := .created job req } := by
      have hinsert := (Table.insert?_eq_some_iff s.jobs _ job (newJob now req orderId
        (req.idempotencyKey.getD (key + 1)) docTypes)).mpr ⟨hnew job List.mem_cons_self, rfl⟩
      simp only [insertJob, hv, if_false, hlen, if_true, Bool.false_eq_true]
      rw [hinsert, htable]
      rfl
    exact ⟨job, key + 1, docs, _, Nat.succ_ne_self key, hrun⟩

/-- How many steps a call has left at most. -/
def Session.rank : Session → ℕ
  | .checking _ => 4
  | .inserting _ _ _ => 3
  | .created _ _ => 2
  | .enqueueing _ _ _ | .recovering _ => 1
  | _ => 0

theorem checkCreate_rank (s : Store) (req : CreateRequest) (order : Option OrderData) :
    (checkCreate s req order).rank < 4 := by
  unfold checkCreate
  split
  · exact Nat.zero_lt_succ 3
  · split
    · exact Nat.zero_lt_succ 3
    · exact Nat.lt_succ_self 3

omit [PyText] in
theorem recoverCreate_rank (s : Store) (req : CreateRequest) : (recoverCreate s req).rank = 0 := by
  unfold recoverCreate
  split <;> rfl

/-- A step of a call brings it nearer to its end. -/
theorem createCase_rank (h : CreateCase now s req session act e) :
    e.session.rank < session.rank := by
  cases h with
  | check => exact checkCreate_rank s req _
  | recover =>
    simp only [recoverCreate_rank]
    exact Nat.one_pos
  | _ => simp [Session.rank]

/-- The call has returned a job or raised. -/
def Session.finished : Session → Prop
  | .returned _ _ | .raised _ => True
  | _ => False

end Call

namespace JobMachine

open TransitionRuns

variable {I W : Type}

/-- Only calls of `create_job` take steps. -/
def CreateStep (tenant key : Uuid) (calls : ℕ → CreateRequest) (_ : State W) : Action I → Prop
  | .tick _ => True
  | .api n act => act.Fair tenant key (calls n)
  | _ => False

/-- The calls are about to start, and the key is free. -/
structure CallsBegin (tenant key : Uuid) (calls : ℕ → CreateRequest) (σ : State W) : Prop where
  checking : ∀ n, σ.sessions n = .checking (calls n)
  live : σ.store.Live
  docs : σ.store.DocsHaveJobs
  free : ∀ job, ¬ σ.store.Keyed tenant key job

section Calls

variable [PyText]

/-- The document types of the calls under the key are valid. -/
def ValidTypes (tenant key : Uuid) (calls : ℕ → CreateRequest) : Prop :=
  ∀ n, (calls n).Under tenant key →
    ∃ docTypes, validateDocTypes (calls n).docTypes = .ok docTypes

/-- The task that call `w` publishes for the job. -/
def winnerTask (calls : ℕ → CreateRequest) (job : Uuid) (w : ℕ) : Task :=
  { jobId := job, tenantId := (calls w).tenantId, actorId := (calls w).actorId }

/-- Call `w` has inserted the job of the key. -/
structure Won (tenant key : Uuid) (calls : ℕ → CreateRequest) (σ : State W)
    (published : List Task) (job : Uuid) (w : ℕ) : Prop where
  under : (calls w).Under tenant key
  keyed : σ.store.Keyed tenant key job
  sole : ∀ id, σ.store.Keyed tenant key id → id = job
  docs : validateDocTypes (calls w).docTypes = .ok (σ.store.docTypesOf job)
  winner : (σ.sessions w).Winner job (winnerTask calls job w) published
  others : ∀ n, n ≠ w → (calls n).Under tenant key → (σ.sessions n).made = none

/-- What holds while the calls run. -/
structure Creating (tenant key : Uuid) (calls : ℕ → CreateRequest) (base : List Task)
    (σ : State W) : Prop where
  live : σ.store.Live
  docs : σ.store.DocsHaveJobs
  stage : ∀ n, (σ.sessions n).Stage tenant key (calls n) σ.store
  once : ∃ published, σ.queue = base ++ published ∧
    (∀ t ∈ published, t.jobId ∈ σ.store.jobs.keys) ∧
      ((∀ job, ¬ σ.store.Keyed tenant key job) ∨
        ∃ job w, Won tenant key calls σ published job w)

variable {F : Fetcher I W} {cfg : Settings} {tenant key : Uuid} {calls : ℕ → CreateRequest}
  {base : List Task} {σ τ : State W}

theorem CallsBegin.creating (h : CallsBegin tenant key calls σ) :
    Creating tenant key calls σ.queue σ where
  live := h.live
  docs := h.docs
  stage n := by
    rw [h.checking n]
    rfl
  once := ⟨[], by simp, by simp, .inl h.free⟩

omit [PyText] in
theorem afterApi_sessions_self {n : ℕ} {e : ApiEffect} :
    (σ.afterApi n e).sessions n = e.session := Function.update_self ..

omit [PyText] in
theorem afterApi_sessions_other {n m : ℕ} {e : ApiEffect} (h : m ≠ n) :
    (σ.afterApi n e).sessions m = σ.sessions m := Function.update_of_ne h ..

/-- A call other than the winner takes a step that leaves the winner's job alone. -/
theorem Won.other {published published' : List Task} {job : Uuid} {w n : ℕ} {e : ApiEffect}
    (h : Won tenant key calls σ published job w) (hn : n ≠ w)
    (hkeyed : ∀ id, e.store.Keyed tenant key id ↔ σ.store.Keyed tenant key id)
    (hdocs : e.store.docTypesOf job = σ.store.docTypesOf job)
    (hpub : published'.filter (fun t => t.jobId = job) = published.filter fun t => t.jobId = job)
    (hmade : (calls n).Under tenant key → e.session.made = none) :
    Won tenant key calls (σ.afterApi n e) published' job w where
  under := h.under
  keyed := (hkeyed job).mpr h.keyed
  sole id hid := h.sole id ((hkeyed id).mp hid)
  docs := by
    change _ = Except.ok (e.store.docTypesOf job)
    rw [hdocs]
    exact h.docs
  winner := by
    rw [afterApi_sessions_other hn.symm]
    exact h.winner.congr hpub
  others m hm hu := by
    by_cases hmn : m = n
    · subst hmn
      rw [afterApi_sessions_self]
      exact hmade hu
    · rw [afterApi_sessions_other hmn]
      exact h.others m hm hu

/-- The winner itself moves on. -/
theorem Won.self {published published' : List Task} {job : Uuid} {w : ℕ} {e : ApiEffect}
    (h : Won tenant key calls σ published job w) (hstore : e.store = σ.store)
    (hwinner : e.session.Winner job (winnerTask calls job w) published') :
    Won tenant key calls (σ.afterApi w e) published' job w where
  under := h.under
  keyed := by
    change e.store.Keyed _ _ _
    rw [hstore]
    exact h.keyed
  sole id hid := by
    change e.store.Keyed _ _ _ at hid
    rw [hstore] at hid
    exact h.sole id hid
  docs := by
    change _ = Except.ok (e.store.docTypesOf job)
    rw [hstore]
    exact h.docs
  winner := by
    rw [afterApi_sessions_self]
    exact hwinner
  others m hm hu := by
    rw [afterApi_sessions_other hm]
    exact h.others m hm hu

/-- What a call's step makes of the job of the key. -/
theorem Won.next {published : List Task} {job : Uuid} {w n : ℕ} {act : ApiAct} {e : ApiEffect}
    (h : Won tenant key calls σ published job w)
    (hstage : (σ.sessions n).Stage tenant key (calls n) σ.store)
    (hfair : act.Fair tenant key (calls n))
    (hcase : CreateCase σ.now σ.store (calls n) (σ.sessions n) act e) :
    Won tenant key calls (σ.afterApi n e) (published ++ e.publish) job w := by
  by_cases hn : n = w
  · subst hn
    have hwinner := h.winner
    generalize σ.sessions n = session at hwinner hcase
    cases hcase with
    | refresh => exact h.self rfl ⟨hwinner.1, by simpa using hwinner.2⟩
    | enqueue =>
      obtain ⟨rfl, hnone⟩ := hwinner
      refine h.self rfl ⟨rfl, ?_⟩
      simp [List.filter_append, hnone, winnerTask]
    | enqueueFailed => cases hfair h.under
    | _ => exact hwinner.elim
  · have hothers := h.others n hn
    generalize σ.sessions n = session at hstage hothers hcase
    have hnone : ∀ {job' : Uuid}, session.made = some job' → ¬ (calls n).Under tenant key :=
      fun hmade hu => by cases hmade.symm.trans (hothers hu)
    cases hcase with
    | insert hfree hlen fresh htable =>
      have hnew : ¬ (calls n).Under tenant key := by
        intro hu
        rw [hu.2, hu.1] at hfree
        exact (violatesUnique_false hfree).1 job h.keyed
      refine h.other hn (fun id => ?_) ?_ (by simp) fun hu => (hnew hu).elim
      · rw [keyed_newJob hfair]
        simp [hnew]
      · refine docTypesOf_insert_other htable _ ?_
        rintro rfl
        exact fresh h.keyed.mem_keys
    | @enqueue job' status =>
      have hnew := hnone rfl
      have hne : job' ≠ job := by
        rintro rfl
        exact hnew (hstage.2.2.mp h.keyed)
      refine h.other hn (fun _ => Iff.rfl) rfl ?_ fun _ => rfl
      simp [List.filter_append, hne]
    | enqueueFailed => exact h.other hn (fun _ => Iff.rfl) rfl (by simp) fun _ => rfl
    | refresh => exact h.other hn (fun _ => Iff.rfl) rfl (by simp) fun hu => (hnone rfl hu).elim
    | refused => exact h.other hn (fun _ => Iff.rfl) rfl (by simp) fun _ => rfl
    | check =>
      exact h.other hn (fun _ => Iff.rfl) rfl (by simp) fun _ => checkCreate_made _ _ _
    | recover => exact h.other hn (fun _ => Iff.rfl) rfl (by simp) fun _ => recoverCreate_made _ _

/-- The first insert under the key makes its call the winner. -/
theorem Creating.win {n : ℕ} {act : ApiAct} {e : ApiEffect} {published : List Task}
    (h : Creating tenant key calls base σ)
    (hpub : ∀ t ∈ published, t.jobId ∈ σ.store.jobs.keys)
    (hfree : ∀ job, ¬ σ.store.Keyed tenant key job)
    (hfair : act.Fair tenant key (calls n))
    (hcase : CreateCase σ.now σ.store (calls n) (σ.sessions n) act e) :
    (∀ job, ¬ e.store.Keyed tenant key job) ∨
      ∃ job, Won tenant key calls (σ.afterApi n e) (published ++ e.publish) job n := by
  have hstage := h.stage n
  have hothers : ∀ m, m ≠ n → (calls m).Under tenant key →
      ((σ.afterApi n e).sessions m).made = none := by
    intro m hm hu
    rw [afterApi_sessions_other hm]
    have hm' := h.stage m
    cases hs : σ.sessions m with
    | created job r | enqueueing job r =>
      rw [hs] at hm'
      exact (hfree job (hm'.2.2.mpr hu)).elim
    | _ => rfl
  have hself : (σ.afterApi n e).sessions n = e.session := afterApi_sessions_self
  generalize σ.sessions n = session at hstage hcase
  cases hcase with
  | @insert orderId docTypes job freshKey docs table hunique hlen fresh htable =>
    by_cases hu : (calls n).Under tenant key
    · refine .inr ⟨job, hu, (keyed_newJob hfair job).mpr (.inl ⟨rfl, hu⟩), fun id hid => ?_, ?_, ?_,
        hothers⟩
      · obtain ⟨rfl, -⟩ | hid := (keyed_newJob hfair id).mp hid
        · rfl
        · exact (hfree id hid).elim
      · exact hstage.2.trans
          (congrArg Except.ok (docTypesOf_insert_self h.docs fresh hlen htable _).symm)
      · rw [hself]
        refine ⟨rfl, ?_⟩
        simp only [List.append_nil, List.filter_eq_nil_iff, decide_eq_true_eq]
        rintro t ht rfl
        exact fresh (hpub t ht)
    · refine .inl fun id hid => ?_
      obtain ⟨-, hu'⟩ | hid := (keyed_newJob hfair id).mp hid
      · exact hu hu'
      · exact hfree id hid
  | _ => exact .inl hfree

theorem Creating.next {a : Action I} (h : Creating tenant key calls base σ)
    (hvalid : ValidTypes tenant key calls) (hok : CreateStep tenant key calls σ a)
    (hstep : step F cfg σ a = some τ) : Creating tenant key calls base τ := by
  cases a with
  | tick seconds =>
    obtain rfl := Option.some.inj hstep
    obtain ⟨published, hqueue, hpub, hfree | ⟨job, w, hwon⟩⟩ := h.once
    · exact ⟨h.live, h.docs, h.stage, published, hqueue, hpub, .inl hfree⟩
    · exact ⟨h.live, h.docs, h.stage, published, hqueue, hpub,
        .inr ⟨job, w, hwon.under, hwon.keyed, hwon.sole, hwon.docs, hwon.winner, hwon.others⟩⟩
  | api n act =>
    obtain ⟨e, he, rfl⟩ := Option.map_eq_some_iff.mp hstep
    have hcase := createCase (h.stage n).calls he
    have hext := apiCase_extends (apiStep_cases he)
    refine ⟨apiStep_live h.live he, apiStep_docsHaveJobs h.docs he, fun m => ?_, ?_⟩
    · by_cases hm : m = n
      · subst hm
        rw [afterApi_sessions_self]
        exact hcase.stage h.live (h.stage m) hok (hvalid m)
      · rw [afterApi_sessions_other hm]
        exact (h.stage m).extends hext
    · obtain ⟨published, hqueue, hpub, hkey⟩ := h.once
      refine ⟨published ++ e.publish, ?_, fun t ht => ?_, ?_⟩
      · change σ.queue ++ e.publish = _
        rw [hqueue, List.append_assoc]
      · obtain ht | ht := List.mem_append.mp ht
        · exact hext.mem_keys (hpub t ht)
        · exact hext.mem_keys (hcase.publish_mem (h.stage n) t ht)
      · obtain hfree | ⟨job, w, hwon⟩ := hkey
        · obtain hfree | ⟨job, hwon⟩ := h.win hpub hfree hok hcase
          · exact .inl hfree
          · exact .inr ⟨job, n, hwon⟩
        · exact .inr ⟨job, w, hwon.next (h.stage n) hok hcase⟩
  | _ => exact hok.elim

/-! Every call can go on to its end, whatever the others have done. -/

/-- A call that has not returned can take a step. -/
theorem Creating.enabled (F : Fetcher I W) (cfg : Settings) {n : ℕ} (h : Creating tenant key calls base σ)
    (hu : (calls n).Under tenant key) :
    (∃ job status, σ.sessions n = .returned job status) ∨
      ∃ act τ, act.Fair tenant key (calls n) ∧ step F cfg σ (.api n act) = some τ := by
  have hmove : ∀ act {e}, act.Fair tenant key (calls n) →
      apiStep σ.now σ.store (σ.sessions n) act = some e →
        ∃ act τ, act.Fair tenant key (calls n) ∧ step F cfg σ (.api n act) = some τ :=
    fun _ _ hfair he => ⟨_, _, hfair, Option.map_eq_some_iff.mpr ⟨_, he, rfl⟩⟩
  have hstage := h.stage n
  generalize σ.sessions n = session at hstage hmove
  cases session with
  | checking r =>
    exact .inr (hmove (.check (some { id := 0, addressLine1 := "1" }))
      (fun _ => ⟨_, rfl, by decide⟩) rfl)
  | inserting r orderId docTypes =>
    obtain ⟨job, freshKey, docs, e, hfresh, he⟩ :=
      insertJob_enabled σ.now σ.store r orderId key docTypes
    exact .inr (hmove (.insert job freshKey docs) hfresh he)
  | recovering r => exact .inr (hmove .recover trivial rfl)
  | created job r =>
    obtain ⟨row, hrow⟩ := (Table.mem_keys_iff _ _).mp hstage.2.1
    exact .inr (hmove .refresh trivial (Option.map_eq_some_iff.mpr ⟨row, hrow, rfl⟩))
  | enqueueing job r status => exact .inr (hmove (.enqueue true) (fun _ => rfl) rfl)
  | returned job status => exact .inl ⟨job, status, rfl⟩
  | raised error => exact (hstage hu).elim
  | _ => exact hstage.elim

/-- A call under the key comes to its end, taking its own steps only. -/
theorem Creating.completes {n : ℕ} (h : Creating tenant key calls base σ)
    (hvalid : ValidTypes tenant key calls) (hu : (calls n).Under tenant key) :
    ∃ acts τ, (∀ a ∈ acts, ∃ act, a = .api n act) ∧
      Runs (step F cfg) (CreateStep tenant key calls) σ acts τ ∧
        ∃ job status, τ.sessions n = .returned job status := by
  induction hr : (σ.sessions n).rank using Nat.strong_induction_on generalizing σ with
  | _ rank ih =>
    obtain hret | ⟨act, τ, hfair, hstep⟩ := h.enabled F cfg hu
    · exact ⟨[], σ, by simp, .refl σ, hret⟩
    · have hτ : Creating tenant key calls base τ := h.next (a := .api n act) hvalid hfair hstep
      have hlt : (τ.sessions n).rank < rank := by
        obtain ⟨e, he, rfl⟩ := Option.map_eq_some_iff.mp hstep
        rw [afterApi_sessions_self, ← hr]
        exact createCase_rank (createCase (h.stage n).calls he)
      obtain ⟨acts, υ, hacts, hrun, hret⟩ := ih _ hlt hτ rfl
      refine ⟨.api n act :: acts, υ, fun a ha => ?_, .cons hstep hfair hrun, hret⟩
      obtain rfl | ha := List.mem_cons.mp ha
      · exact ⟨act, rfl⟩
      · exact hacts a ha

/-! The calls of one tenant run as they would alone. -/

/-- The rows, calls and tasks of one tenant; the calls of others have not moved. -/
def State.ofTenant (calls : ℕ → CreateRequest) (other : Uuid) (σ : State W) : State W :=
  { σ with
    store := σ.store.ofTenant other
    queue := σ.queue.filter fun t => t.tenantId = other
    sessions := fun n =>
      if (calls n).tenantId = other then σ.sessions n else .checking (calls n) }

/-- The action is not a step of another tenant's call. -/
def Action.ofTenant (calls : ℕ → CreateRequest) (other : Uuid) : Action I → Bool
  | .api n _ => (calls n).tenantId = other
  | _ => true

/-- Every call's session belongs to the call's tenant. -/
structure Owned (calls : ℕ → CreateRequest) (σ : State W) : Prop where
  docs : σ.store.DocsHaveJobs
  sessions : ∀ n, (σ.sessions n).OwnedBy σ.store (calls n).tenantId

omit [PyText] in
theorem afterApi_ofTenant_own {other : Uuid} {n : ℕ} {e : ApiEffect}
    (hn : (calls n).tenantId = other) (hpublish : ∀ t ∈ e.publish, t.tenantId = other) :
    (σ.ofTenant calls other).afterApi n { e with store := e.store.ofTenant other } =
      (σ.afterApi n e).ofTenant calls other := by
  have hfilter : e.publish.filter (fun t => t.tenantId = other) = e.publish :=
    List.filter_eq_self.mpr fun t ht => by simpa using hpublish t ht
  have hsessions : Function.update (σ.ofTenant calls other).sessions n e.session =
      ((σ.afterApi n e).ofTenant calls other).sessions := by
    funext m
    by_cases hm : m = n
    · subst hm
      simp [State.ofTenant, State.afterApi, hn]
    · simp [State.ofTenant, State.afterApi, hm]
  simp only [State.afterApi, hsessions]
  simp only [State.ofTenant, List.filter_append, hfilter]

omit [PyText] in
theorem afterApi_ofTenant_other {other : Uuid} {n : ℕ} {e : ApiEffect}
    (hn : (calls n).tenantId ≠ other) (hpublish : ∀ t ∈ e.publish, t.tenantId ≠ other)
    (hstore : e.store.ofTenant other = σ.store.ofTenant other) :
    (σ.afterApi n e).ofTenant calls other = σ.ofTenant calls other := by
  have hfilter : e.publish.filter (fun t => t.tenantId = other) = [] :=
    List.filter_eq_nil_iff.mpr fun t ht => by simpa using hpublish t ht
  have hsessions : ((σ.afterApi n e).ofTenant calls other).sessions =
      (σ.ofTenant calls other).sessions := by
    funext m
    by_cases hm : m = n
    · subst hm
      simp [State.ofTenant, hn]
    · simp [State.ofTenant, State.afterApi, hm]
  simp only [State.ofTenant, State.afterApi, List.filter_append, hfilter, hstore] at hsessions ⊢
  simp only [hsessions, List.append_nil]

/-- One step of the calls, seen from one tenant. -/
theorem step_ofTenant {a : Action I} (other : Uuid) (h : Creating tenant key calls base σ)
    (howned : Owned calls σ) (hok : CreateStep tenant key calls σ a)
    (hstep : step F cfg σ a = some τ) :
    Owned calls τ ∧
      if a.ofTenant calls other then
        step F cfg (σ.ofTenant calls other) a = some (τ.ofTenant calls other)
      else τ.ofTenant calls other = σ.ofTenant calls other := by
  cases a with
  | tick seconds =>
    obtain rfl := Option.some.inj hstep
    exact ⟨⟨howned.docs, howned.sessions⟩, rfl⟩
  | api n act =>
    obtain ⟨e, he, rfl⟩ := Option.map_eq_some_iff.mp hstep
    have hact : act.By (calls n).tenantId := by
      have hcase := createCase (h.stage n).calls he
      generalize σ.sessions n = session at hcase
      cases hcase <;> trivial
    have hext := apiCase_extends (apiStep_cases he)
    obtain ⟨hview, hsession, hpublish⟩ :=
      apiStep_ofTenant howned.docs (howned.sessions n) hact he
    refine ⟨⟨apiStep_docsHaveJobs howned.docs he, fun m => ?_⟩, ?_⟩
    · by_cases hm : m = n
      · subst hm
        rw [afterApi_sessions_self]
        exact hsession
      · rw [afterApi_sessions_other hm]
        exact (howned.sessions m).extends hext
    · by_cases hn : (calls n).tenantId = other
      · simp only [Action.ofTenant, hn, decide_true, if_true]
        rw [← afterApi_ofTenant_own hn (fun t ht => (hpublish t ht).trans hn)]
        refine Option.map_eq_some_iff.mpr ⟨_, ?_, rfl⟩
        rw [hn] at hview
        simpa [State.ofTenant, hn] using hview
      · simp only [Action.ofTenant, hn, decide_false, Bool.false_eq_true, if_false]
        obtain ⟨hstore, hother⟩ :=
          apiStep_ofTenant_other howned.docs (howned.sessions n) hn he
        exact afterApi_ofTenant_other hn hother hstore
  | _ => exact hok.elim

/-- A run of the calls, seen from one tenant, is a run of that tenant's calls. -/
theorem runs_ofTenant {acts : List (Action I)} (other : Uuid)
    (h : Creating tenant key calls base σ) (howned : Owned calls σ)
    (hvalid : ValidTypes tenant key calls)
    (hrun : Runs (step F cfg) (CreateStep tenant key calls) σ acts τ) :
    Runs (step F cfg) (CreateStep tenant key calls) (σ.ofTenant calls other)
      (acts.filter (Action.ofTenant calls other)) (τ.ofTenant calls other) := by
  induction hrun with
  | refl σ => exact .refl _
  | @cons σ a υ acts τ hstep hok _ ih =>
    obtain ⟨howned', hview⟩ := step_ofTenant other h howned hok hstep
    have hrest := ih (h.next hvalid hok hstep) howned'
    by_cases ha : a.ofTenant calls other = true
    · rw [List.filter_cons_of_pos ha]
      rw [if_pos ha] at hview
      refine .cons hview ?_ hrest
      cases a <;> exact hok
    · rw [List.filter_cons_of_neg ha]
      rw [if_neg ha] at hview
      rwa [hview] at hrest

/-- All calls under the key have returned one job, which call `w` has made: its row is
the only one under the key, it has one document for each type that `w` requested, and
its task has been published once. -/
structure CreatedOnce (tenant key : Uuid) (calls : ℕ → CreateRequest) (σ τ : State W)
    (job : Uuid) (w : ℕ) : Prop where
  winner : (calls w).Under tenant key
  returned : ∀ n, (calls n).Under tenant key → ∃ status, τ.sessions n = .returned job status
  keyed : τ.store.Keyed tenant key job
  sole : ∀ id, τ.store.Keyed tenant key id → id = job
  docs : validateDocTypes (calls w).docTypes = .ok (τ.store.docTypesOf job)
  distinct : (τ.store.docTypesOf job).Nodup
  published : ∃ tasks, τ.queue = σ.queue ++ tasks ∧
    tasks.filter (fun t => t.jobId = job) = [winnerTask calls job w]

theorem Creating.createdOnce {n : ℕ} (h : Creating tenant key calls σ.queue τ)
    (hn : (calls n).Under tenant key)
    (hdone : ∀ m, (calls m).Under tenant key → (τ.sessions m).finished) :
    ∃ job w, CreatedOnce tenant key calls σ τ job w := by
  have hreturned : ∀ m, (calls m).Under tenant key →
      ∃ job status, τ.sessions m = .returned job status ∧ τ.store.Keyed tenant key job := by
    intro m hm
    have hstage := h.stage m
    have hfinished := hdone m hm
    cases hs : τ.sessions m with
    | returned job status =>
      rw [hs] at hstage
      exact ⟨job, status, rfl, hstage hm⟩
    | raised error =>
      rw [hs] at hstage
      exact (hstage hm).elim
    | _ =>
      rw [hs] at hfinished
      exact hfinished.elim
  obtain ⟨published, hqueue, -, hfree | ⟨job, w, hwon⟩⟩ := h.once
  · obtain ⟨job, -, -, hkeyed⟩ := hreturned n hn
    exact (hfree job hkeyed).elim
  · refine ⟨job, w, hwon.under, fun m hm => ?_, hwon.keyed, hwon.sole, hwon.docs,
      validateDocTypes_nodup hwon.docs, published, hqueue, ?_⟩
    · obtain ⟨job', status, hs, hkeyed⟩ := hreturned m hm
      obtain rfl := hwon.sole job' hkeyed
      exact ⟨status, hs⟩
    · obtain ⟨job', status, hs, -⟩ := hreturned w hwon.under
      have hwinner := hwon.winner
      rw [hs] at hwinner
      exact hwinner.2

/-- `create_job` is idempotent: in whatever order the calls take their steps, each call
under the key can go on to return, once all have returned they have returned one job that
was made once, and the calls of any one tenant have run as they would alone. -/
theorem create_job_idempotent {acts : List (Action I)}
    (hbegin : CallsBegin tenant key calls σ) (hvalid : ValidTypes tenant key calls)
    (hrun : Runs (step F cfg) (CreateStep tenant key calls) σ acts τ) :
    (∀ n, (calls n).Under tenant key →
        ∃ more υ, (∀ a ∈ more, ∃ act, a = .api n act) ∧
          Runs (step F cfg) (CreateStep tenant key calls) τ more υ ∧
            ∃ job status, υ.sessions n = .returned job status) ∧
      ((∃ n, (calls n).Under tenant key) →
        (∀ n, (calls n).Under tenant key → (τ.sessions n).finished) →
          ∃ job w, CreatedOnce tenant key calls σ τ job w) ∧
        ∀ other, Runs (step F cfg) (CreateStep tenant key calls) (σ.ofTenant calls other)
          (acts.filter (Action.ofTenant calls other)) (τ.ofTenant calls other) := by
  have hσ := hbegin.creating
  have hτ : Creating tenant key calls σ.queue τ :=
    hrun.invariant (fun _ _ _ hs hok hst => hs.next hvalid hok hst) hσ
  have howned : Owned calls σ := ⟨hbegin.docs, fun n => by
    rw [hbegin.checking n]
    rfl⟩
  refine ⟨fun n hn => hτ.completes hvalid hn, ?_, fun other =>
    runs_ofTenant other hσ howned hvalid hrun⟩
  rintro ⟨n, hn⟩ hdone
  exact hτ.createdOnce hn hdone

end Calls

section Concrete

open scoped PyText.Ascii

/-- Two calls of tenant 1 and one of tenant 2 with key 9; the other calls have no key. -/
def raceCalls (n : ℕ) : CreateRequest :=
  { tenantId := if n = 2 then 2 else 1
    actorId := 2
    orderId := 3
    docTypes := ["deed"]
    idempotencyKey := if n < 3 then some 9 else none }

def raceStart : State Unit :=
  { State.start () 0 with sessions := fun n => .checking (raceCalls n) }

/-- Both calls of tenant 1 pass the pre-check; the second inserts first. -/
def raceActs : List (Action Unit) :=
  [.api 0 (.check (some sampleOrder)), .api 1 (.check (some sampleOrder)),
    .api 2 (.check (some sampleOrder)), .api 1 (.insert 7 8 [10]), .api 0 (.insert 20 8 [21]),
    .api 2 (.insert 30 8 [31]), .api 0 .recover, .api 1 .refresh, .api 1 (.enqueue true)]

def raceEnd : State Unit := outcome (step linkFetcher {}) raceStart raceActs

def fairAct : Action Unit → Bool
  | .api _ (.check (some order)) => order.addressLine1 ≠ ""
  | .api _ (.check none) => false
  | .api _ (.insert _ freshKey _) => freshKey ≠ 9
  | .api _ (.enqueue accepted) => accepted
  | .api _ _ => true
  | _ => false

theorem createStep_of_fairAct {σ : State Unit} {a : Action Unit} (h : fairAct a = true) :
    CreateStep 1 9 raceCalls σ a := by
  cases a with
  | api n act =>
    cases act with
    | check order =>
      cases order with
      | none => cases h
      | some order => exact fun _ => ⟨order, rfl, by simpa [fairAct] using h⟩
    | insert job freshKey docs =>
      have hfresh : freshKey ≠ 9 := by simpa [fairAct] using h
      exact hfresh
    | enqueue accepted => exact fun _ => h
    | _ => trivial
  | _ => cases h

theorem raceCalls_under {n : ℕ} (h : (raceCalls n).Under 1 9) : n = 0 ∨ n = 1 := by
  obtain ⟨ht, hkey⟩ := h
  simp only [raceCalls] at ht hkey
  split at ht
  · cases ht
  · split at hkey
    · omega
    · cases hkey

/-- The condition of `create_job_idempotent` in a race that the second call wins. -/
theorem race_creates_once : ∃ job w, CreatedOnce 1 9 raceCalls raceStart raceEnd job w := by
  have hbegin : CallsBegin 1 9 raceCalls raceStart :=
    ⟨fun _ => rfl, (fun _ _ h => by cases h), (fun _ _ h => by cases h),
      (fun _ ⟨_, h, _⟩ => by cases h)⟩
  have hvalid : ValidTypes 1 9 raceCalls := fun n _ =>
    ⟨[.deedSubjectParcel], by simp only [raceCalls]; decide +kernel⟩
  have hrun : Runs (step linkFetcher {}) (CreateStep 1 9 raceCalls) raceStart raceActs raceEnd :=
    .of_check (b := fun _ => fairAct) (fun _ _ => createStep_of_fairAct) (by decide +kernel)
  refine (create_job_idempotent hbegin hvalid hrun).2.1 ⟨0, by decide +kernel⟩ fun n hn => ?_
  obtain rfl | rfl := raceCalls_under hn
  · have hs : raceEnd.sessions 0 = .returned 7 .queued := by rfl
    rw [hs]
    trivial
  · have hs : raceEnd.sessions 1 = .returned 7 .queued := by rfl
    rw [hs]
    trivial

end Concrete

end JobMachine

end ResearchEngine
