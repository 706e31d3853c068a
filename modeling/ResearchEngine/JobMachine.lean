import ResearchEngine.TransitionRuns
import ResearchEngine.ApiSession
import ResearchEngine.ReaperSweep
import Mathlib.Logic.Function.Basic

/-! The whole system: the store, the task queue, every worker run and every API
session, and the reaper, taking one step at a time in any order. -/
namespace ResearchEngine
namespace JobMachine

open TransitionRuns ReaperSweep

structure State (W : Type) where
  store : Store
  outside : W
  queue : List Task
  runs : ℕ → Run
  sessions : ℕ → Session
  /-- What the runs were seen to do, with the number of the run, latest first. -/
  log : List (ℕ × Event)
  now : Time

inductive Action (I : Type)
  | tick (seconds : ℕ)
  /-- A worker takes a queued task and starts a new run with it. -/
  | deliver (run i : ℕ)
  /-- The broker hands out the task of a live run a second time. -/
  | redeliver (run : ℕ)
  | worker (run : ℕ) (act : WorkerAct I)
  | api (session : ℕ) (act : ApiAct)
  /-- The reaper publishes stale queued jobs; it may fail after `count` of them. -/
  | sweepEnqueue (count : ℕ)
  | sweepFail

def Phase.fresh : Phase → Bool
  | .idle => true
  | _ => false

theorem Phase.fresh_iff (p : Phase) : Phase.fresh p = true ↔ p = .idle := by
  cases p <;> simp [Phase.fresh]

/-- A run that has just been handed its task. -/
def startRun (task : Task) (now : Time) : Run :=
  { Run.idle with task := task, started := now, phase := .delivered }

namespace State

variable {W : Type}

def start (outside : W) (now : Time) : State W where
  store := default
  outside := outside
  queue := []
  runs := fun _ => Run.idle
  sessions := fun _ => .idle
  log := []
  now := now

def afterWorker (σ : State W) (run : ℕ) (e : Effect W) : State W :=
  { σ with
    store := e.store
    outside := e.outside
    queue := σ.queue ++ e.publish
    runs := Function.update σ.runs run e.run
    log := (e.events.map fun x => (run, x)) ++ σ.log }

def afterApi (σ : State W) (session : ℕ) (e : ApiEffect) : State W :=
  { σ with
    store := e.store
    queue := σ.queue ++ e.publish
    sessions := Function.update σ.sessions session e.session }

def afterDeliver (σ : State W) (run i : ℕ) (task : Task) : State W :=
  { σ with
    queue := σ.queue.eraseIdx i
    runs := Function.update σ.runs run (startRun task σ.now) }

end State

variable [PyText] {I W : Type} (F : Fetcher I W) (cfg : Settings)

def step (σ : State W) : Action I → Option (State W)
  | .tick seconds => some { σ with now := σ.now + seconds }
  | .deliver run i =>
    if Phase.fresh (σ.runs run).phase then σ.queue[i]?.map (σ.afterDeliver run i) else none
  | .redeliver run =>
    if (σ.runs run).phase.live then some { σ with queue := σ.queue ++ [(σ.runs run).task] }
    else none
  | .worker run act =>
    (workerStep F σ.now σ.store σ.outside (σ.runs run) act).map (σ.afterWorker run)
  | .api session act => (apiStep σ.now σ.store (σ.sessions session) act).map (σ.afterApi session)
  | .sweepEnqueue count =>
    some { σ with queue := σ.queue ++ (staleTasks cfg σ.now σ.store).take count }
  | .sweepFail => some { σ with store := failRunning σ.store }

/-- Every step of the machine, with the guards it passed. -/
inductive StepCase (σ : State W) : Action I → State W → Prop
  | tick {seconds} : StepCase σ (.tick seconds) { σ with now := σ.now + seconds }
  | deliver {run i task} (hfree : (σ.runs run).phase = .idle) (htask : σ.queue[i]? = some task) :
      StepCase σ (.deliver run i) (σ.afterDeliver run i task)
  | redeliver {run} (hlive : (σ.runs run).phase.live = true) :
      StepCase σ (.redeliver run) { σ with queue := σ.queue ++ [(σ.runs run).task] }
  | worker {run act e} (hw : workerStep F σ.now σ.store σ.outside (σ.runs run) act = some e) :
      StepCase σ (.worker run act) (σ.afterWorker run e)
  | api {session act e} (ha : ApiCase σ.now σ.store (σ.sessions session) act e) :
      StepCase σ (.api session act) (σ.afterApi session e)
  | sweepEnqueue {count} : StepCase σ (.sweepEnqueue count)
      { σ with queue := σ.queue ++ (staleTasks cfg σ.now σ.store).take count }
  | sweepFail : StepCase σ .sweepFail { σ with store := failRunning σ.store }

theorem step_cases {σ τ : State W} {a : Action I} (h : step F cfg σ a = some τ) :
    StepCase F cfg σ a τ := by
  cases a with
  | tick seconds => exact Option.some.inj h ▸ .tick
  | deliver run i =>
    simp only [step] at h
    split at h
    · obtain ⟨task, htask, rfl⟩ := Option.map_eq_some_iff.mp h
      exact .deliver ((Phase.fresh_iff _).mp ‹_›) htask
    · cases h
  | redeliver run =>
    simp only [step] at h
    split at h
    · exact Option.some.inj h ▸ .redeliver ‹_›
    · cases h
  | worker run act =>
    obtain ⟨e, he, rfl⟩ := Option.map_eq_some_iff.mp h
    exact .worker he
  | api session act =>
    obtain ⟨e, he, rfl⟩ := Option.map_eq_some_iff.mp h
    exact .api (apiStep_cases he)
  | sweepEnqueue count => exact Option.some.inj h ▸ .sweepEnqueue
  | sweepFail => exact Option.some.inj h ▸ .sweepFail

/-- The states that some run of the machine from an empty database reaches. -/
def Reachable (σ : State W) : Prop :=
  ∃ outside now as, Runs (step F cfg) Always (State.start outside now) as σ

variable {F cfg}

theorem Reachable.extend {σ τ : State W} {as : List (Action I)} {ok}
    (h : Reachable F cfg σ) (h' : Runs (step F cfg) ok σ as τ) : Reachable F cfg τ := by
  obtain ⟨outside, now, bs, hb⟩ := h
  exact ⟨outside, now, bs ++ as, hb.append (h'.mono fun _ _ _ => trivial)⟩

/-- An invariant of every step from every reachable state holds in every
reachable state that starts from the empty one. -/
theorem Reachable.invariant {P : State W → Prop} (hstart : ∀ outside now, P (State.start outside now))
    (hstep : ∀ σ a τ, P σ → StepCase F cfg σ a τ → P τ) {σ : State W}
    (h : Reachable F cfg σ) : P σ := by
  obtain ⟨outside, now, as, has⟩ := h
  exact has.invariant (fun s a t hs _ hst => hstep s a t hs (step_cases F cfg hst))
    (hstart outside now)

end JobMachine

/-! What every step leaves of the store. -/

namespace Store

/-- The documents of a job, by key. -/
def docKeys (s : Store) (job : Uuid) : List Uuid := (s.docsForJob job).map Prod.fst

/-- Rows are added, never removed, and the documents of a job stay its own. -/
structure Extends (s s' : Store) : Prop where
  jobs : ∀ id j, s.jobs.get id = some j →
    ∃ j', s'.jobs.get id = some j' ∧ Job.SameIdentity j j'
  docs : ∀ d row, s.docs.get d = some row →
    ∃ row', s'.docs.get d = some row' ∧ Doc.SameIdentity row row'
  listing : ∀ id ∈ s.jobs.keys, s'.docKeys id = s.docKeys id

theorem docKeys_nodup (s : Store) (job : Uuid) : (s.docKeys job).Nodup :=
  Table.select_keys_nodup _ _

theorem docKeys_adjust {s : Store} {t : Table Uuid Doc} {f : Uuid → Doc → Doc}
    (ht : t = s.docs.adjust f) (hf : ∀ d row, Doc.SameIdentity row (f d row))
    (jobs : Table Uuid Job) (job : Uuid) :
    docKeys { jobs := jobs, docs := t } job = s.docKeys job := by
  subst ht
  simp only [docKeys, docsForJob]
  rw [Table.select_adjust]
  · simp [List.map_map, Function.comp_def]
  · intro r _
    simp [(hf r.1 r.2).jobId, (hf r.1 r.2).deletedAt]

theorem Extends.refl (s : Store) : s.Extends s where
  jobs _ j hj := ⟨j, hj, .refl j⟩
  docs _ row hr := ⟨row, hr, .refl row⟩
  listing _ _ := rfl

/-- A job row and what it has become. -/
theorem Extends.sameJob {s s' : Store} (h : s.Extends s') {id : Uuid} {j j' : Job}
    (hj : s.jobs.get id = some j) (hj' : s'.jobs.get id = some j') : Job.SameIdentity j j' := by
  obtain ⟨j'', hj'', hsame⟩ := h.jobs id j hj
  rwa [Option.some.inj (hj'.symm.trans hj'')]

/-- A document row and what it has become. -/
theorem Extends.sameDoc {s s' : Store} (h : s.Extends s') {d : Uuid} {row row' : Doc}
    (hrow : s.docs.get d = some row) (hrow' : s'.docs.get d = some row') :
    Doc.SameIdentity row row' := by
  obtain ⟨row'', hrow'', hsame⟩ := h.docs d row hrow
  rwa [Option.some.inj (hrow'.symm.trans hrow'')]

/-- An update in place of the two tables extends the store. -/
theorem extends_of_update {s s' : Store} {g : Uuid → Job → Job} {f : Uuid → Doc → Doc}
    (hj : s'.jobs = s.jobs.adjust g) (hd : s'.docs = s.docs.adjust f)
    (hg : ∀ id j, Job.SameIdentity j (g id j)) (hf : ∀ d row, Doc.SameIdentity row (f d row)) :
    s.Extends s' where
  jobs id j h := ⟨g id j, by simp [hj, h], hg id j⟩
  docs d row h := ⟨f d row, by simp [hd, h], hf d row⟩
  listing id _ := docKeys_adjust hd hf s'.jobs id

theorem extends_modifyJob (s : Store) (job : Uuid) {g : Job → Job}
    (hg : ∀ j, Job.SameIdentity j (g j)) : s.Extends (s.modifyJob job g) := by
  refine extends_of_update (g := fun k j => if k = job then g j else j) rfl
    (Table.adjust_id s.docs).symm (fun id j => ?_) fun d row => .refl row
  split
  · exact hg j
  · exact .refl j

end Store

theorem applyCancel_sameIdentity (seen : JobStatus) (reason : Option String) (j : Job) :
    Job.SameIdentity j (applyCancel seen reason j) := ⟨rfl, rfl, rfl, rfl, rfl, rfl, rfl⟩

theorem workerStep_extends {I W : Type} {F : Fetcher I W} {now : Time} {s : Store} {w : W}
    {r : Run} {act : WorkerAct I} {e : Effect W} (h : workerStep F now s w r act = some e) :
    s.Extends e.store := by
  obtain ⟨g, hj, hg⟩ := workerStep_jobs h
  obtain ⟨f, hd, hf⟩ := workerStep_docs h
  refine Store.extends_of_update (g := fun k j => if k = r.task.jobId then g j else j) hj hd
    (fun id j => ?_) hf
  split
  · exact (hg j).1
  · exact .refl j

section Insert

variable {now : Time} {s : Store} {orderId job : Uuid} {docTypes : List DocType}
  {docs : List Uuid} {table : Table Uuid Doc}

theorem insertDocs_select (hdocs : insertDocs now job orderId (docs.zip docTypes) s.docs = some table)
    (p : Doc → Bool) :
    table.select p = s.docs.select p ++
      ((docs.zip docTypes).map fun q => (q.1, newDoc now job orderId q.2)).filter fun r => p r.2 := by
  simp only [Table.select, insertDocs_rows hdocs, List.filter_append]

theorem insertDocs_docKeys_other
    (hdocs : insertDocs now job orderId (docs.zip docTypes) s.docs = some table)
    (jobs : Table Uuid Job) {id : Uuid} (hne : id ≠ job) :
    Store.docKeys { jobs := jobs, docs := table } id = s.docKeys id := by
  have hne' : job ≠ id := fun h => hne h.symm
  simp only [Store.docKeys, Store.docsForJob, insertDocs_select hdocs]
  rw [List.filter_eq_nil_iff.mpr]
  · simp
  · intro r hr
    obtain ⟨q, _, rfl⟩ := List.mem_map.mp hr
    simp [newDoc, hne']

/-- The new job's listing holds the inserted rows. -/
theorem insertDocs_docKeys_self
    (hdocs : insertDocs now job orderId (docs.zip docTypes) s.docs = some table)
    (hlen : docs.length = docTypes.length) (jobs : Table Uuid Job) {d : Uuid} (hd : d ∈ docs) :
    d ∈ Store.docKeys { jobs := jobs, docs := table } job := by
  simp only [Store.docKeys, Store.docsForJob, insertDocs_select hdocs, List.map_append,
    List.mem_append]
  right
  have hfst : (docs.zip docTypes).map Prod.fst = docs := List.map_fst_zip (by omega)
  obtain ⟨q, hq, rfl⟩ := List.mem_map.mp (hfst ▸ hd)
  refine List.mem_map.mpr ⟨(q.1, newDoc now job orderId q.2), ?_, rfl⟩
  refine List.mem_filter.mpr ⟨List.mem_map.mpr ⟨q, hq, rfl⟩, ?_⟩
  simp [newDoc]

theorem insert_extends (fresh : job ∉ s.jobs.keys) (row : Job)
    (hdocs : insertDocs now job orderId (docs.zip docTypes) s.docs = some table) :
    s.Extends { jobs := s.jobs.insert job row fresh, docs := table } where
  jobs id j h := by
    have hne : id ≠ job := by
      rintro rfl
      exact fresh ((Table.mem_keys_iff _ _).mpr ⟨j, h⟩)
    exact ⟨j, by simpa [Table.get_insert, hne] using h, .refl j⟩
  docs d doc h := by
    refine ⟨doc, (Table.mem_rows_iff _ _ _).mp ?_, .refl doc⟩
    rw [insertDocs_rows hdocs]
    exact List.mem_append_left _ ((Table.mem_rows_iff _ _ _).mpr h)
  listing id h := by
    refine insertDocs_docKeys_other hdocs _ ?_
    rintro rfl
    exact fresh h

end Insert

theorem apiCase_extends [PyText] {now : Time} {s : Store} {session : Session} {act : ApiAct}
    {e : ApiEffect} (h : ApiCase now s session act e) : s.Extends e.store := by
  cases h with
  | insert fresh hlen hdocs => exact insert_extends fresh _ hdocs
  | commitCancel => exact s.extends_modifyJob _ (applyCancel_sameIdentity _ _)
  | commitReview => exact s.extends_modifyJob _ fun j => ⟨rfl, rfl, rfl, rfl, rfl, rfl, rfl⟩
  | commitArchive => exact s.extends_modifyJob _ fun j => ⟨rfl, rfl, rfl, rfl, rfl, rfl, rfl⟩
  | _ => exact .refl s

namespace JobMachine

variable [PyText] {I W : Type} {F : Fetcher I W} {cfg : Settings}

open ReaperSweep

theorem StepCase.extends {σ τ : State W} {a : Action I} (h : StepCase F cfg σ a τ) :
    σ.store.Extends τ.store := by
  cases h with
  | worker hw => exact workerStep_extends hw
  | api ha => exact apiCase_extends ha
  | sweepFail =>
    exact Store.extends_of_update (g := fun _ j => failRow j) rfl (Table.adjust_id _).symm
      (fun _ j => failRow_sameIdentity j) fun _ row => .refl row
  | _ => exact .refl _

/-- The run that an action is a step of. -/
def Action.actor {I : Type} : Action I → Option ℕ
  | .deliver run _ | .worker run _ => some run
  | _ => none

theorem StepCase.runs_other {σ τ : State W} {a : Action I} (h : StepCase F cfg σ a τ) {r : ℕ}
    (hr : a.actor ≠ some r) : τ.runs r = σ.runs r := by
  cases h with
  | @deliver run i task hfree htask =>
    exact Function.update_of_ne (fun he => hr (congrArg some he.symm)) _ _
  | @worker run act e hw =>
    exact Function.update_of_ne (fun he => hr (congrArg some he.symm)) _ _
  | _ => rfl

/-- Only the steps of a session change it. -/
theorem StepCase.sessions_other {σ τ : State W} {a : Action I} (h : StepCase F cfg σ a τ) {n : ℕ}
    (hn : ∀ act, a ≠ .api n act) : τ.sessions n = σ.sessions n := by
  cases h with
  | @api m act e ha =>
    exact Function.update_of_ne (fun he => hn act (congrArg (Action.api · act) he.symm)) _ _
  | _ => rfl

/-- The actor of a step has just been handed its task, or has taken a step of its own. -/
theorem StepCase.actor_cases {σ τ : State W} {a : Action I} (h : StepCase F cfg σ a τ) {r : ℕ}
    (hr : a.actor = some r) : (∃ task, τ.runs r = startRun task σ.now) ∨
      ∃ act e, a = .worker r act ∧ τ = σ.afterWorker r e ∧
        workerStep F σ.now σ.store σ.outside (σ.runs r) act = some e := by
  cases h with
  | @deliver run i task hfree htask =>
    obtain rfl : run = r := Option.some.inj hr
    exact Or.inl ⟨task, Function.update_self ..⟩
  | @worker run act e hw =>
    obtain rfl : run = r := Option.some.inj hr
    exact Or.inr ⟨act, e, rfl, rfl, hw⟩
  | _ => cases hr

/-- Where a run of the next state comes from. -/
theorem StepCase.run_cases {σ τ : State W} {a : Action I} (h : StepCase F cfg σ a τ) (r : ℕ) :
    τ.runs r = σ.runs r ∨ (∃ task, τ.runs r = startRun task σ.now) ∨
      ∃ act e, a = .worker r act ∧ τ = σ.afterWorker r e ∧
        workerStep F σ.now σ.store σ.outside (σ.runs r) act = some e := by
  by_cases hr : a.actor = some r
  · exact Or.inr (h.actor_cases hr)
  · exact Or.inl (h.runs_other hr)

omit [PyText] in
@[simp] theorem afterWorker_runs_self (σ : State W) (r : ℕ) (e : Effect W) :
    (σ.afterWorker r e).runs r = e.run := Function.update_self ..

/-- Only the steps of a run add to the log. -/
theorem StepCase.log_cases {σ τ : State W} {a : Action I} (h : StepCase F cfg σ a τ) :
    τ.log = σ.log ∨ ∃ run act e, a = .worker run act ∧ τ = σ.afterWorker run e ∧
      workerStep F σ.now σ.store σ.outside (σ.runs run) act = some e := by
  cases h with
  | worker hw => exact Or.inr ⟨_, _, _, rfl, rfl, hw⟩
  | _ => exact Or.inl rfl

/-- A run that takes no step is the same run afterwards. -/
theorem runs_other {ok : State W → Action I → Prop} {σ τ : State W} {as : List (Action I)}
    (h : TransitionRuns.Runs (step F cfg) ok σ as τ) {r : ℕ} (hr : ∀ a ∈ as, a.actor ≠ some r) :
    τ.runs r = σ.runs r := by
  induction h with
  | refl s => rfl
  | cons hs _ _ ih =>
    rw [ih fun b hb => hr b (List.mem_cons_of_mem _ hb)]
    exact (step_cases F cfg hs).runs_other (hr _ List.mem_cons_self)

/-- After steps that no run but `n` takes, every other run is still idle. -/
theorem idle_of_sole {ok : State W → Action I → Prop} {w : W} {now : Time} {σ : State W}
    {as : List (Action I)} {n : ℕ} (h : TransitionRuns.Runs (step F cfg) ok (State.start w now) as σ)
    (has : as.all fun a => a.actor = none ∨ a.actor = some n) {r : ℕ} (hr : r ≠ n) :
    σ.runs r = Run.idle := by
  refine runs_other h fun a ha he => ?_
  have hact := of_decide_eq_true (List.all_eq_true.mp has a ha)
  rw [he] at hact
  rcases hact with hact | hact
  · cases hact
  · exact hr (Option.some.inj hact)

/-- A session that takes no step is the same session afterwards. -/
theorem sessions_other {ok : State W → Action I → Prop} {σ τ : State W} {as : List (Action I)}
    (h : TransitionRuns.Runs (step F cfg) ok σ as τ) {n : ℕ}
    (hn : ∀ a ∈ as, ∀ act, a ≠ .api n act) : τ.sessions n = σ.sessions n := by
  induction h with
  | refl s => rfl
  | cons hs _ _ ih =>
    rw [ih fun b hb => hn b (List.mem_cons_of_mem _ hb)]
    exact (step_cases F cfg hs).sessions_other (hn _ List.mem_cons_self)

/-! The request that the concrete runs of the later modules start with. -/

def sampleRequest : CreateRequest :=
  { tenantId := 1, actorId := 2, orderId := 3, docTypes := [], idempotencyKey := none }

def sampleOrder : OrderData := { id := 3, addressLine1 := "1 MAIN ST" }

def sampleDocs : List Uuid := [10, 11, 12, 13, 14, 15]

/-- Create job 7 with every document type and enqueue it. -/
def submit {I : Type} : List (Action I) :=
  [.api 0 (.create sampleRequest), .api 0 (.check (some sampleOrder)),
    .api 0 (.insert 7 8 sampleDocs), .api 0 .refresh, .api 0 (.enqueue true)]

/-- One document of a run from its look at the job row to the result commit. -/
def research {I : Type} (run : ℕ) (input : I) : List (Action I) :=
  [.worker run .reread, .worker run .mark, .worker run .call, .worker run (.receive input),
    .worker run .settle]

/-- A fetcher that answers every call with a link. -/
def linkFetcher : Fetcher Unit Unit := fun _ call w =>
  (.ok { docType := call.docType, status := .fetched }, w)

end JobMachine
end ResearchEngine
