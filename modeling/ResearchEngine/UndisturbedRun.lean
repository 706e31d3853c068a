import ResearchEngine.JobRows
import ResearchEngine.RunListings

/-! One `research_job` run on a job that no other party writes to. Others may take
steps between those of the run, as long as they leave the rows of the job alone. -/
namespace ResearchEngine
namespace JobMachine

open TransitionRuns

/-- When a run takes a step: the clock, and what is outside before and after it. -/
structure Moment (W : Type) where
  now : Time
  before : W
  after : W

/-- A run, and the rows of its job. -/
structure Solo where
  store : Store
  run : Run

section Solo

variable {I W : Type}

/-- The steps of one run, each at its own moment. -/
inductive SoloRun (F : Fetcher I W) : Solo → List (Moment W × WorkerAct I) → Solo → Prop
  | refl (c) : SoloRun F c [] c
  | cons {c p ps e c'} : WorkerCase F p.1.now c.store p.1.before c.run p.2 e →
      e.outside = p.1.after → SoloRun F ⟨e.store, e.run⟩ ps c' → SoloRun F c (p :: ps) c'

/-- The step of a run that an action is. -/
def Action.ofRun (run : ℕ) : Action I → Option (WorkerAct I)
  | .worker r act => if r = run then some act else none
  | _ => none

def State.solo (σ : State W) (run : ℕ) : Solo :=
  ⟨σ.store.ofJob (σ.runs run).task.jobId, σ.runs run⟩

variable [PyText] (F : Fetcher I W) (cfg : Settings)

/-- The condition that a step is one of the run, or leaves the rows of its job alone. -/
def Undisturbed (run : ℕ) (σ : State W) (a : Action I) : Prop :=
  (∃ act, a = .worker run act) ∨
    a.actor ≠ some run ∧ ∀ τ, step F cfg σ a = some τ →
      τ.store.ofJob (σ.runs run).task.jobId = σ.store.ofJob (σ.runs run).task.jobId

/-- The steps of one run among the actions of the machine. -/
def moments (run : ℕ) : State W → List (Action I) → List (Moment W × WorkerAct I)
  | _, [] => []
  | σ, a :: as =>
    match step F cfg σ a with
    | none => []
    | some τ =>
      ((a.ofRun run).map fun act => (⟨σ.now, σ.outside, τ.outside⟩, act)).toList ++
        moments run τ as

variable {F cfg}

theorem moments_acts {ok : State W → Action I → Prop} {run : ℕ} {σ τ : State W}
    {as : List (Action I)} (h : Runs (step F cfg) ok σ as τ) :
    (moments F cfg run σ as).map Prod.snd = as.filterMap (Action.ofRun run) := by
  induction h with
  | refl σ => rfl
  | @cons σ a τ as _ hstep _ _ ih =>
    simp only [moments, hstep, List.map_append, ih, List.filterMap_cons]
    cases a.ofRun run <;> rfl

/-- What the machine does is, for a run that is not disturbed, what the run does. -/
theorem solo_of_runs {run : ℕ} {σ τ : State W} {as : List (Action I)}
    (h : Runs (step F cfg) (Undisturbed F cfg run) σ as τ) :
    SoloRun F (σ.solo run) (moments F cfg run σ as) (τ.solo run) := by
  induction h with
  | refl σ => exact .refl _
  | @cons σ a τ as υ hstep hok _ ih =>
    simp only [moments, hstep]
    rcases hok with ⟨act, rfl⟩ | ⟨hother, hrows⟩
    · obtain ⟨e, he, rfl⟩ := Option.map_eq_some_iff.mp hstep
      have hcase := (workerStep_cases F _ _ _ _ he).ofJob
      have hsolo : (σ.afterWorker run e).solo run = ⟨e.store.ofJob (σ.runs run).task.jobId, e.run⟩ := by
        simp only [State.solo, afterWorker_runs_self, (workerStep_task he).1]
        rfl
      rw [hsolo] at ih
      simp only [Action.ofRun, if_true]
      exact .cons hcase rfl ih
    · have hnone : a.ofRun run = none := by
        cases a with
        | worker r act =>
          have hne : r ≠ run := fun he => hother (congrArg some he)
          simp [Action.ofRun, hne]
        | _ => rfl
      have hsolo : τ.solo run = σ.solo run := by
        simp only [State.solo, (step_cases F cfg hstep).runs_other hother, hrows τ hstep]
      rw [hnone]
      rwa [hsolo] at ih

end Solo

/-! The steps of a run that was not cancelled. -/

section Visit

variable {I W : Type} {F : Fetcher I W}

/-- The steps that one document takes. -/
def visit (input : I) : List (WorkerAct I) := [.reread, .mark, .call, .receive input, .settle]

/-- The steps of a whole run, given what the two listings and the order provider answer
and what the outside does during each fetch. -/
def sitting (first listing : List Uuid) (order : Option OrderData) (inputs : List I) :
    List (WorkerAct I) :=
  [.read, .list first, .claim, .enter listing order] ++ (inputs.flatMap visit ++ [.finish])

/-- What was outside before and after each fetch. -/
def fetches (ms : List (Moment W × WorkerAct I)) : List (W × W) :=
  ms.filterMap fun p => match p.2 with
    | .receive _ => some (p.1.before, p.1.after)
    | _ => none

/-- One fetch of a run: the document, its row before, what the sources do during the
call and what was outside. -/
structure Visit (I W : Type) where
  doc : Uuid
  row : Doc
  input : I
  before : W

/-- What the fetcher answered, and what it left outside. -/
def Visit.result (F : Fetcher I W) (order : Option OrderData) (tenantId : Uuid)
    (v : Visit I W) : FetchOutcome × W :=
  F v.input ⟨order, v.row.docType, tenantId⟩ v.before

/-- The first step of a run, as a case of what a run can do. -/
theorem solo_uncons {c c' : Solo} {ms : List (Moment W × WorkerAct I)} {act : WorkerAct I}
    {rest : List (WorkerAct I)} (hm : ms.map Prod.snd = act :: rest) (h : SoloRun F c ms c') :
    ∃ m e ms', ms = (m, act) :: ms' ∧ WorkerCase F m.now c.store m.before c.run act e ∧
      e.outside = m.after ∧ ms'.map Prod.snd = rest ∧ SoloRun F ⟨e.store, e.run⟩ ms' c' := by
  cases h with
  | refl => cases hm
  | @cons _ p ps e _ hc hout h =>
    obtain ⟨rfl, hrest⟩ := List.cons.inj hm
    exact ⟨p.1, e, ps, rfl, hc, hout, hrest, h⟩

/-- The state after one document: the row is re-read, marked, fetched and settled. -/
def afterVisit (F : Fetcher I W) (c : Solo) (doc : Uuid) (todo : List Uuid) (input : I)
    (before : W) (job : Job) (d : Doc) (stamps : Stamps) : Solo :=
  let marked := markFetching c.store before { c.run with job := job } doc todo
  let got := receiveOutcome F stamps.fetchedAt marked.store before marked.run input doc todo d
  let out := (F input ⟨c.run.order, d.docType, c.run.task.tenantId⟩ before).1
  let done := settleDoc stamps.uploadedAt got.store got.outside got.run doc todo out
  ⟨done.store, done.run⟩

/-- A visited document was not found cancelled, and its copy was there to be fetched. -/
theorem visit_result {c c' : Solo} {ms : List (Moment W × WorkerAct I)}
    {rest : List (WorkerAct I)} {input : I} (hm : ms.map Prod.snd = visit input ++ rest)
    (h : SoloRun F c ms c') :
    ∃ doc todo job d before stamps ms', c.run.phase = .looping (doc :: todo) ∧
      c.store.getJob c.run.task.jobId c.run.task.tenantId = some job ∧
      Run.copyOf (Run.updateDoc c.run.docs doc (Doc.setStatus .fetching)) doc = some d ∧
      fetches ms = (before, (F input ⟨c.run.order, d.docType, c.run.task.tenantId⟩ before).2) ::
        fetches ms' ∧
      ms'.map Prod.snd = rest ∧
      SoloRun F (afterVisit F c doc todo input before job d stamps) ms' c' := by
  obtain ⟨m₁, e₁, ms₁, rfl, hc₁, -, hm₁, h₁⟩ := solo_uncons hm h
  obtain ⟨m₂, e₂, ms₂, rfl, hc₂, -, hm₂, h₂⟩ := solo_uncons hm₁ h₁
  cases hc₁ with
  | rereadGone hp hj =>
    cases hc₂ with
    | mark hp' => cases hp'
  | rereadCancelled hp hj hc =>
    cases hc₂ with
    | mark hp' => cases hp'
  | @rereadLive doc todo j hp hj hc =>
    cases hc₂ with
    | mark hp₂ =>
      cases hp₂
      obtain ⟨m₃, e₃, ms₃, rfl, hc₃, -, hm₃, h₃⟩ := solo_uncons hm₂ h₂
      cases hc₃ with
      | call hp₃ =>
        cases hp₃
        obtain ⟨m₄, e₄, ms₄, rfl, hc₄, hout, hm₄, h₄⟩ := solo_uncons hm₃ h₃
        cases hc₄ with
        | @receive _ _ _ d hp₄ hd =>
          cases hp₄
          obtain ⟨m₅, e₅, ms₅, rfl, hc₅, -, hm₅, h₅⟩ := solo_uncons hm₄ h₄
          cases hc₅ with
          | settle hp₅ =>
            cases hp₅
            refine ⟨doc, todo, j, d, m₄.before, ⟨m₄.now, m₅.now⟩, ms₅, hp, hj, hd, ?_, hm₅, h₅⟩
            have hfetch : fetches ((m₄, WorkerAct.receive input) :: (m₅, .settle) :: ms₅) =
                (m₄.before, m₄.after) :: fetches ms₅ := rfl
            exact hfetch.trans (by rw [← hout]; rfl)

end Visit

/-! The session's copies during an uninterrupted run are the rows themselves. -/

/-- Every copy of the session is the row of the store. -/
def Synced (docs : List (Uuid × Doc)) (s : Store) : Prop :=
  ∀ d row, Run.copyOf docs d = some row → s.docs.get d = some row

/-- Read by key, the listed copies of the documents still to do. -/
def rowsOf (docs : List (Uuid × Doc)) (todo : List Uuid) : List (Uuid × Doc) :=
  todo.filterMap fun d => (Run.copyOf docs d).map (d, ·)

section Loop

variable {I W : Type} {F : Fetcher I W} {c c' : Solo}

/-- The row of a document once its outcome is committed. -/
def settledRow (outcome : FetchOutcome) (stamps : Stamps) (row : Doc) : Doc :=
  (row.setStatus .fetching).applyOutcome outcome row.retryCount stamps

/-- The rows and the session's copies after a visit that found the row `v.row`. -/
theorem afterVisit_row {v : Visit I W} {todo : List Uuid} {job : Job} {stamps : Stamps}
    (hskip : c.run.skipped = []) (hcopy : Run.copyOf c.run.docs v.doc = some v.row) (d : Uuid) :
    let out := (v.result F c.run.order c.run.task.tenantId).1
    let after := afterVisit F c v.doc todo v.input v.before job (v.row.setStatus .fetching) stamps
    after.store.docs.get d =
        (c.store.docs.get d).map (fun r => if d = v.doc then
          (r.setStatus .fetching).applyOutcome out v.row.retryCount stamps else r) ∧
      Run.copyOf after.run.docs d =
        (Run.copyOf c.run.docs d).map fun r => if d = v.doc then
          (r.setStatus .fetching).applyOutcome out v.row.retryCount stamps else r := by
  have hretry : Run.retriesOf (Run.updateDoc c.run.docs v.doc (Doc.setStatus .fetching)) v.doc =
      v.row.retryCount := by
    simp [Run.retriesOf_eq, Run.copyOf_updateDoc, hcopy, Doc.setStatus]
  constructor
  · simp only [afterVisit, settleDoc, receiveOutcome, markFetching, hskip, Run.flushSkipped_nil,
      Store.adjustDocs_docs, Table.get_adjust, Option.map_map]
    refine congrFun (congrArg Option.map (funext fun r => ?_)) _
    by_cases hd : d = v.doc
    · simp [Run.settleRow, Run.fetchingRow, hretry, hd, Doc.setStatus, Visit.result]
    · simp [Run.settleRow, Run.fetchingRow, hd]
  · simp only [afterVisit, settleDoc, receiveOutcome, markFetching, Run.copyOf_updateDoc,
      Option.map_map]
    refine congrFun (congrArg Option.map (funext fun r => ?_)) _
    by_cases hd : d = v.doc
    · simp [hretry, hd, Doc.setStatus, Visit.result]
    · simp [hd]

/-- What the loop of a run does to the documents it visits, one after another. -/
structure Looped (F : Fetcher I W) (ms : List (Moment W × WorkerAct I)) (visits : List (Visit I W))
    (c c' : Solo) : Prop where
  fetched : fetches ms =
    visits.map fun v => (v.before, (v.result F c.run.order c.run.task.tenantId).2)
  settled : ∀ v ∈ visits, ∃ stamps, c'.store.docs.get v.doc =
    some (settledRow (v.result F c.run.order c.run.task.tenantId).1 stamps v.row)
  others : ∀ d, d ∉ visits.map Visit.doc → c'.store.docs.get d = c.store.docs.get d
  jobs : c'.store.jobs = c.store.jobs
  synced : Synced c'.run.docs c'.store
  keys : c'.run.docs.map Prod.fst = c.run.docs.map Prod.fst
  task : c'.run.task = c.run.task
  skipped : c'.run.skipped = []
  status : c'.run.job.status = c.run.job.status

theorem Looped.refl {ms : List (Moment W × WorkerAct I)} (hms : fetches ms = [])
    (hs : Synced c.run.docs c.store) (hskip : c.run.skipped = []) : Looped F ms [] c c where
  fetched := hms
  settled v hv := by cases hv
  others _ _ := rfl
  jobs := rfl
  synced := hs
  keys := rfl
  task := rfl
  skipped := hskip
  status := rfl

theorem synced_afterVisit {v : Visit I W} {todo : List Uuid} {job : Job} {stamps : Stamps}
    (hs : Synced c.run.docs c.store) (hskip : c.run.skipped = [])
    (hcopy : Run.copyOf c.run.docs v.doc = some v.row) :
    Synced (afterVisit F c v.doc todo v.input v.before job (v.row.setStatus .fetching) stamps).run.docs
      (afterVisit F c v.doc todo v.input v.before job (v.row.setStatus .fetching) stamps).store := by
  intro d r hr
  obtain ⟨hstore, hdocs⟩ := @afterVisit_row I W F c v todo job stamps hskip hcopy d
  rw [hdocs] at hr
  obtain ⟨r₀, hr₀, rfl⟩ := Option.map_eq_some_iff.mp hr
  rw [hstore, hs d r₀ hr₀]
  rfl

/-- The step of the loop: one more document in front of the ones still to visit. -/
theorem Looped.cons {ms ms' : List (Moment W × WorkerAct I)} {v : Visit I W}
    {visits : List (Visit I W)} {todo : List Uuid} {job : Job} {stamps : Stamps}
    (hms : fetches ms =
      (v.before, (v.result F c.run.order c.run.task.tenantId).2) :: fetches ms')
    (hs : Synced c.run.docs c.store) (hskip : c.run.skipped = [])
    (hcopy : Run.copyOf c.run.docs v.doc = some v.row) (hnot : v.doc ∉ visits.map Visit.doc)
    (hjob : job.status = c.run.job.status)
    (h : Looped F ms' visits
      (afterVisit F c v.doc todo v.input v.before job (v.row.setStatus .fetching) stamps) c') :
    Looped F ms (v :: visits) c c' where
  fetched := by rw [hms, h.fetched]; rfl
  settled u hu := by
    rcases List.mem_cons.mp hu with rfl | hu
    · refine ⟨stamps, (h.others _ hnot).trans ?_⟩
      rw [(afterVisit_row hskip hcopy u.doc).1, hs u.doc u.row hcopy]
      simp [settledRow]
    · exact h.settled u hu
  others d hd := by
    simp only [List.map_cons, List.mem_cons, not_or] at hd
    rw [h.others d hd.2, (afterVisit_row hskip hcopy d).1]
    simp [hd.1]
  jobs := h.jobs
  synced := h.synced
  keys := h.keys.trans ((Run.updateDoc_keys _ _ _).trans (Run.updateDoc_keys _ _ _))
  task := h.task
  skipped := h.skipped
  status := h.status.trans hjob

theorem rowsOf_congr {docs docs' : List (Uuid × Doc)} {todo : List Uuid}
    (h : ∀ d ∈ todo, Run.copyOf docs' d = Run.copyOf docs d) : rowsOf docs' todo = rowsOf docs todo :=
  List.filterMap_congr fun d hd => by rw [h d hd]

theorem rowsOf_keys {docs : List (Uuid × Doc)} {todo : List Uuid} {p : Uuid × Doc}
    (h : p ∈ rowsOf docs todo) : p.1 ∈ todo := by
  obtain ⟨d, hd, hrow⟩ := List.mem_filterMap.mp h
  obtain ⟨r, -, rfl⟩ := Option.map_eq_some_iff.mp hrow
  exact hd

/-- The loop of a run visits every document it has listed, and ends with the final
commit. -/
theorem loop_result {inputs : List I} {todo : List Uuid} {ms : List (Moment W × WorkerAct I)}
    (hp : c.run.phase = .looping todo) (hnd : todo.Nodup)
    (hsub : ∀ d ∈ todo, d ∈ c.run.docs.map Prod.fst) (hs : Synced c.run.docs c.store)
    (hskip : c.run.skipped = [])
    (hjob : ∀ j, c.store.getJob c.run.task.jobId c.run.task.tenantId = some j →
      j.status = c.run.job.status)
    (hm : ms.map Prod.snd = inputs.flatMap visit ++ [.finish]) (h : SoloRun F c ms c') :
    ∃ visits c₁ now, ∃ w : W, visits.map (fun v => (v.doc, v.row)) = rowsOf c.run.docs todo ∧
      visits.map Visit.input = inputs ∧ Looped F ms visits c c₁ ∧
      c'.store = (finishJob now c₁.store w c₁.run).store := by
  induction inputs generalizing c todo ms with
  | nil =>
    obtain ⟨m, e, ms', rfl, hc, -, hm', h⟩ := solo_uncons hm h
    obtain rfl := List.map_eq_nil_iff.mp hm'
    cases h
    cases hc with
    | finish hp' =>
      obtain rfl : todo = [] := by simpa [hp'] using hp.symm
      exact ⟨[], c, m.now, m.before, rfl, rfl, Looped.refl rfl hs hskip, rfl⟩
  | cons input inputs ih =>
    have hm₁ : ms.map Prod.snd = visit input ++ (inputs.flatMap visit ++ [.finish]) := by
      simpa using hm
    obtain ⟨doc, todo', job, d, before, stamps, ms', hp', hgot, hd, hms, hm', h⟩ := visit_result hm₁ h
    obtain rfl : todo = doc :: todo' := by simpa [hp'] using hp.symm
    obtain ⟨hdoc, hnd'⟩ := List.nodup_cons.mp hnd
    obtain ⟨row, hcopy⟩ := Run.copyOf_isSome (hsub doc List.mem_cons_self)
    obtain rfl : row.setStatus .fetching = d := by simpa [Run.copyOf_updateDoc, hcopy] using hd
    obtain ⟨v, rfl, rfl, rfl, rfl⟩ : ∃ v : Visit I W, doc = v.doc ∧ row = v.row ∧
        input = v.input ∧ before = v.before := ⟨⟨doc, row, input, before⟩, rfl, rfl, rfl, rfl⟩
    have hkeep : ∀ e ∈ todo', Run.copyOf (afterVisit F c v.doc todo' v.input v.before job
        (v.row.setStatus .fetching) stamps).run.docs e = Run.copyOf c.run.docs e := by
      intro e he
      have hne : e ≠ v.doc := fun heq => hdoc (heq ▸ he)
      rw [(afterVisit_row hskip hcopy e).2]
      simp [hne]
    have hkeys : (afterVisit F c v.doc todo' v.input v.before job (v.row.setStatus .fetching)
        stamps).run.docs.map Prod.fst = c.run.docs.map Prod.fst :=
      (Run.updateDoc_keys _ _ _).trans (Run.updateDoc_keys _ _ _)
    obtain ⟨visits, c₁, now₁, w₁, hrows, hinputs, hloop, hstore⟩ := ih rfl hnd'
      (fun e he => hkeys ▸ hsub e (List.mem_cons_of_mem _ he)) (synced_afterVisit hs hskip hcopy)
      rfl (fun j hj => congrArg Job.status (Option.some.inj (hj.symm.trans hgot))) hm' h
    rw [rowsOf_congr hkeep] at hrows
    have hnot : v.doc ∉ visits.map Visit.doc := by
      intro hmem
      obtain ⟨u, hu, hud⟩ := List.mem_map.mp hmem
      have hkey : (u.doc, u.row) ∈ rowsOf c.run.docs todo' := hrows ▸ List.mem_map_of_mem hu
      exact hdoc (hud ▸ rowsOf_keys hkey)
    refine ⟨v :: visits, c₁, now₁, w₁, ?_, by simp [hinputs],
      Looped.cons hms hs hskip hcopy hnot (hjob job hgot) hloop, hstore⟩
    simp [rowsOf, hcopy, hrows]

/-- The job columns of the `running` commit of a run. -/
def runningRow (started : Time) (j : Job) : Job :=
  { j with status := .running, startedAt := some started }

/-- The job row that a run commits last: the counters and the terminal status of the
documents `docs` it ends with. -/
def terminalRow (docs : List Doc) (started now : Time) (j : Job) : Job :=
  { recalcJobCounters docs (runningRow started j) with
    status := resolveJobTerminalStatus .running docs
    completedAt := some now }

/-- What a run that nothing disturbs leaves: every listed document has been fetched once,
and the job row agrees with the rows of its documents. -/
structure Researched (F : Fetcher I W) (task : Task) (started : Time) (order : Option OrderData)
    (ms : List (Moment W × WorkerAct I)) (visits : List (Visit I W)) (c c' : Solo) : Prop where
  fetched : fetches ms = visits.map fun v => (v.before, (v.result F order task.tenantId).2)
  settled : ∀ v ∈ visits, ∃ stamps, c'.store.docs.get v.doc =
    some (settledRow (v.result F order task.tenantId).1 stamps v.row)
  others : ∀ d, d ∉ visits.map Visit.doc → c'.store.docs.get d = c.store.docs.get d
  job : ∃ docs : List (Uuid × Doc), ∃ now : Time, docs.map Prod.fst = visits.map Visit.doc ∧
    (∀ p ∈ docs, c'.store.docs.get p.1 = some p.2) ∧
    c'.store.jobs =
      c.store.jobs.modify task.jobId (terminalRow (docs.map Prod.snd) started now)

theorem listing_nodup {s : Store} {job : Uuid} {order : List Uuid} {rows : List (Uuid × Doc)}
    (h : s.listForJob job order = some rows) : (rows.map Prod.fst).Nodup := by
  obtain ⟨hkeys, hperm, -⟩ := Store.listForJob_eq_some h
  rw [hkeys]
  exact hperm.nodup_iff.mpr (s.docKeys_nodup job)

theorem rowsOf_self {docs : List (Uuid × Doc)} (hnd : (docs.map Prod.fst).Nodup) :
    rowsOf docs (docs.map Prod.fst) = docs := by
  rw [rowsOf, List.filterMap_map]
  have hall : ∀ p ∈ docs, ((fun d => (Run.copyOf docs d).map (d, ·)) ∘ Prod.fst) p = some p := by
    intro p hp
    simp [Run.copyOf_of_mem hnd hp]
  rw [List.filterMap_congr hall]
  exact List.filterMap_some

/-- The second listing of a run that nothing disturbs gives the copies that it has. -/
theorem enter_docs {s : Store} {docs rows : List (Uuid × Doc)} (hs : Synced docs s)
    (hrows : ∀ p ∈ rows, s.docs.get p.1 = some p.2) :
    rows.map (fun p => (p.1, (Run.copyOf docs p.1).getD p.2)) = rows := by
  refine (List.map_congr_left fun p hp => ?_).trans (List.map_id _)
  cases hc : Run.copyOf docs p.1 with
  | none => rfl
  | some row =>
    obtain rfl : row = p.2 := Option.some.inj ((hs _ _ hc).symm.trans (hrows p hp))
    rfl

theorem synced_of_get {s : Store} {docs : List (Uuid × Doc)}
    (h : ∀ p ∈ docs, s.docs.get p.1 = some p.2) : Synced docs s := by
  intro d row hcopy
  obtain ⟨p, hp, rfl⟩ := Option.map_eq_some_iff.mp hcopy
  have hd : p.1 = d := by simpa using List.find?_some hp
  exact hd ▸ h p (List.mem_of_find?_eq_some hp)

/-- A run when it enters the loop. -/
def enteredRun (task : Task) (started : Time) (j : Job) (rows : List (Uuid × Doc))
    (order : Option OrderData) : Run :=
  { startRun task started with
    job := runningRow started j
    docs := rows
    order := order
    phase := .looping (rows.map Prod.fst) }

/-- The steps of a run up to its loop: the job was not found cancelled, and the loop
starts from the rows as they are. -/
theorem opening_result {task : Task} {started : Time} {first listing : List Uuid}
    {order : Option OrderData} {rest : List (WorkerAct I)} {ms : List (Moment W × WorkerAct I)}
    (hfresh : c.run = startRun task started)
    (hm : ms.map Prod.snd = [.read, .list first, .claim, .enter listing order] ++ rest)
    (h : SoloRun F c ms c') :
    ∃ j rows ms', c.store.getJob task.jobId task.tenantId = some j ∧
      c.store.listForJob task.jobId listing = some rows ∧ (∀ o, order = some o → o.id = j.orderId) ∧
      ms'.map Prod.snd = rest ∧ fetches ms = fetches ms' ∧
      SoloRun F ⟨c.store.modifyJob task.jobId (runningRow started),
        enteredRun task started j rows order⟩ ms' c' := by
  obtain ⟨store, run⟩ := c
  dsimp only at hfresh ⊢
  subst hfresh
  obtain ⟨m₁, e₁, ms₁, rfl, hc₁, -, hm₁, h₁⟩ := solo_uncons hm h
  clear h hm
  cases hc₁ with
  | readGone hp hj =>
    obtain ⟨m₂, e₂, ms₂, rfl, hc₂, -, hm₂, h₂⟩ := solo_uncons hm₁ h₁
    cases hc₂ with
    | listCancelled hp' => cases hp'
    | listLive hp' => cases hp'
  | @readFound j hp hj =>
    dsimp only at hj h₁
    obtain ⟨m₂, e₂, ms₂, rfl, hc₂, -, hm₂, h₂⟩ := solo_uncons hm₁ h₁
    clear h₁ hm₁
    cases hc₂ with
    | listCancelled hp₂ hl₂ hcancel =>
      obtain ⟨m₃, e₃, ms₃, rfl, hc₃, -, hm₃, h₃⟩ := solo_uncons hm₂ h₂
      cases hc₃ with
      | claim hp' => cases hp'
    | @listLive _ rows₀ hp₂ hl₂ hlive =>
      dsimp only at hl₂ h₂
      obtain ⟨m₃, e₃, ms₃, rfl, hc₃, -, hm₃, h₃⟩ := solo_uncons hm₂ h₂
      clear h₂ hm₂
      cases hc₃ with
      | claim hp₃ =>
        dsimp only [claim] at h₃
        obtain ⟨m₄, e₄, ms₄, rfl, hc₄, -, hm₄, h₄⟩ := solo_uncons hm₃ h₃
        clear h₃ hm₃
        cases hc₄ with
        | @enter _ rows _ hp₄ hl₄ ho₄ =>
          dsimp only [enterLoop] at hl₄ ho₄ h₄
          have hget := (Store.listForJob_eq_some hl₂).2.2
          rw [enter_docs (synced_of_get hget) (Store.listForJob_eq_some hl₄).2.2] at h₄
          exact ⟨j, rows, ms₄, hj, hl₄, ho₄, hm₄, rfl, h₄⟩

/-- A run that was not cancelled and that nothing disturbs fetches each of the job's
documents once, in the order of its second listing. -/
theorem solo_sitting {task : Task} {started : Time} {first listing : List Uuid}
    {order : Option OrderData} {inputs : List I} {ms : List (Moment W × WorkerAct I)}
    (hfresh : c.run = startRun task started)
    (hm : ms.map Prod.snd = sitting first listing order inputs) (h : SoloRun F c ms c') :
    ∃ rows j visits, c.store.listForJob task.jobId listing = some rows ∧
      c.store.getJob task.jobId task.tenantId = some j ∧ (∀ o, order = some o → o.id = j.orderId) ∧
      visits.map (fun v => (v.doc, v.row)) = rows ∧ visits.map Visit.input = inputs ∧
      Researched F task started order ms visits c c' := by
  obtain ⟨j, rows, ms', hj, hl, ho, hm', hms, h'⟩ := opening_result hfresh hm h
  have hnd := listing_nodup hl
  have hget := (Store.listForJob_eq_some hl).2.2
  have hrunning : ∀ j', (c.store.modifyJob task.jobId (runningRow started)).getJob task.jobId
      task.tenantId = some j' → j'.status = .running := by
    intro j' hj'
    obtain ⟨hrow, -⟩ := (Store.getJob_eq_some_iff _ _ _ _).mp hj'
    rw [Store.modifyJob_jobs, Table.get_modify_self] at hrow
    obtain ⟨j₀, -, rfl⟩ := Option.map_eq_some_iff.mp hrow
    rfl
  obtain ⟨visits, c₁, now, w, hrows, hinputs, hloop, hstore⟩ :=
    loop_result rfl hnd (fun d hd => hd) (synced_of_get hget) rfl
      hrunning hm' h'
  have hagenda : rowsOf (enteredRun task started j rows order).docs (rows.map Prod.fst) = rows :=
    rowsOf_self hnd
  rw [hagenda] at hrows
  have hkeys : rows.map Prod.fst = visits.map Visit.doc := by
    rw [← hrows, List.map_map]
    rfl
  have hstore' : c'.store = c₁.store.modifyJob task.jobId (c₁.run.finishRow now) := by
    rw [hstore, finishJob, hloop.skipped, Run.flushSkipped_nil, hloop.task]
    rfl
  refine ⟨rows, j, visits, hl, hj, ho, hrows, hinputs, hms.trans hloop.fetched, fun v hv => ?_,
    fun d hd => ?_, ⟨c₁.run.docs, now, hloop.keys.trans hkeys, fun p hp => ?_, ?_⟩⟩
  · rw [hstore']
    exact hloop.settled v hv
  · rw [hstore']
    exact hloop.others d hd
  · rw [hstore']
    have hnd' : (c₁.run.docs.map Prod.fst).Nodup := by
      rw [hloop.keys]
      exact hnd
    exact hloop.synced p.1 p.2 (Run.copyOf_of_mem hnd' hp)
  · rw [hstore', Store.modifyJob_jobs, hloop.jobs, Store.modifyJob_jobs, Table.modify_modify]
    congr 1
    funext row
    rw [terminalRow, Run.finishRow, hloop.status]
    rfl

/-- A run keeps its task. -/
theorem SoloRun.task {ms : List (Moment W × WorkerAct I)} (h : SoloRun F c ms c') :
    c'.run.task = c.run.task := by
  induction h with
  | refl c => rfl
  | cons hc _ _ ih => exact ih.trans hc.task

end Loop

section Machine

variable [PyText] {I W : Type}

/-- What a run on an undisturbed job leaves in the machine. -/
structure Concluded (F : Fetcher I W) (task : Task) (started : Time) (order : Option OrderData)
    (ms : List (Moment W × WorkerAct I)) (visits : List (Visit I W)) (j : Job) (σ τ : State W) :
    Prop where
  read : σ.store.getJob task.jobId task.tenantId = some j
  sameOrder : ∀ o, order = some o → o.id = j.orderId
  listed : (visits.map Visit.doc).Perm (σ.store.docKeys task.jobId)
  rows : ∀ v ∈ visits, σ.store.docs.get v.doc = some v.row
  own : ∀ v ∈ visits, v.row.jobId = task.jobId ∧ v.row.deletedAt = none
  fetched : fetches ms = visits.map fun v => (v.before, (v.result F order task.tenantId).2)
  settled : ∀ v ∈ visits, ∃ stamps, τ.store.docs.get v.doc =
    some (settledRow (v.result F order task.tenantId).1 stamps v.row)
  job : ∃ docs : List (Uuid × Doc), ∃ now : Time, docs.map Prod.fst = visits.map Visit.doc ∧
    (∀ p ∈ docs, τ.store.docs.get p.1 = some p.2) ∧
    τ.store.getJob task.jobId task.tenantId = some (terminalRow (docs.map Prod.snd) started now j)

theorem concluded_of_runs {F : Fetcher I W} {cfg : Settings} {run : ℕ} {task : Task}
    {started : Time} {first listing : List Uuid} {order : Option OrderData} {inputs : List I}
    {σ τ : State W} {as : List (Action I)} (hfresh : σ.runs run = startRun task started)
    (h : Runs (step F cfg) (Undisturbed F cfg run) σ as τ)
    (hm : as.filterMap (Action.ofRun run) = sitting first listing order inputs) :
    ∃ visits j, visits.map Visit.doc = listing ∧ visits.map Visit.input = inputs ∧
      Concluded F task started order (moments F cfg run σ as) visits j σ τ := by
  have hsolo := solo_of_runs h
  obtain ⟨rows, j, visits, hl, hj, ho, hrows, hinputs, hr⟩ :=
    solo_sitting hfresh ((moments_acts h).trans hm) hsolo
  have hσ : (σ.solo run).store = σ.store.ofJob task.jobId := by rw [State.solo, hfresh]; rfl
  have hτ : (τ.solo run).store = τ.store.ofJob task.jobId := by
    have htask : (τ.runs run).task = task := hsolo.task.trans (by rw [State.solo, hfresh]; rfl)
    rw [State.solo, htask]
  rw [hσ] at hl hj
  obtain ⟨hkeys, hperm, hget⟩ := Store.listForJob_eq_some hl
  have hown : ∀ v ∈ visits, (v.doc, v.row) ∈ σ.store.docsForJob task.jobId := by
    intro v hv
    have hmem : (v.doc, v.row) ∈ rows := hrows ▸ List.mem_map_of_mem hv
    have hkey := hperm.mem_iff.mp (hkeys ▸ List.mem_map_of_mem hmem)
    rw [Store.ofJob_docsForJob] at hkey
    obtain ⟨p, hp, hpd⟩ := List.mem_map.mp hkey
    have hprow := ((Table.mem_select_iff _ _ _ _).mp hp).1
    rw [hpd, Store.ofJob_get_eq_some (hget _ hmem)] at hprow
    have hpair : (v.doc, v.row) = p := Prod.ext hpd.symm (Option.some.inj hprow)
    exact hpair ▸ hp
  have hlisting : visits.map Visit.doc = listing := by
    rw [← hkeys, ← hrows, List.map_map]
    rfl
  refine ⟨visits, j, hlisting, hinputs, by rwa [Store.ofJob_getJob] at hj, ho, ?_, fun v hv => ?_,
    fun v hv => ?_, hr.fetched, fun v hv => ?_, ?_⟩
  · rw [Store.ofJob_docsForJob] at hperm
    exact hlisting ▸ hperm
  · exact ((Table.mem_select_iff _ _ _ _).mp (hown v hv)).1
  · exact of_decide_eq_true ((Table.mem_select_iff _ _ _ _).mp (hown v hv)).2
  · obtain ⟨stamps, hrow⟩ := hr.settled v hv
    rw [hτ] at hrow
    exact ⟨stamps, Store.ofJob_get_eq_some hrow⟩
  · obtain ⟨docs, now, hdocs, hdget, hjobs⟩ := hr.job
    rw [hτ] at hdget hjobs
    rw [hσ] at hjobs
    refine ⟨docs, now, hdocs, fun p hp => Store.ofJob_get_eq_some (hdget p hp), ?_⟩
    obtain ⟨hrow, hlive⟩ := (Store.getJob_eq_some_iff _ _ _ _).mp hj
    rw [← Store.ofJob_getJob, Store.getJob_eq_some_iff, hjobs, Table.get_modify_self, hrow]
    exact ⟨rfl, hlive⟩

omit [PyText] in
theorem ofRun_worker (run : ℕ) (acts : List (WorkerAct I)) :
    (acts.map (Action.worker run)).filterMap (Action.ofRun run) = acts := by
  rw [List.filterMap_map]
  have hall : ∀ act ∈ acts, (Action.ofRun run ∘ Action.worker run) act = some act := by
    intro act _
    simp [Action.ofRun]
  rw [List.filterMap_congr hall]
  exact List.filterMap_some

/-- A run that has the machine to itself is not disturbed. -/
theorem undisturbed_of_exec {F : Fetcher I W} {cfg : Settings} {run : ℕ} {σ τ : State W}
    {acts : List (WorkerAct I)} (h : exec (step F cfg) σ (acts.map (.worker run)) = some τ) :
    Runs (step F cfg) (Undisturbed F cfg run) σ (acts.map (.worker run)) τ := by
  induction acts generalizing σ with
  | nil =>
    obtain rfl := Option.some.inj h
    exact .refl _
  | cons act acts ih =>
    obtain ⟨υ, hυ, hrest⟩ := Option.bind_eq_some_iff.mp h
    exact .cons hυ (Or.inl ⟨act, rfl⟩) (ih hrest)

end Machine

end JobMachine
end ResearchEngine
