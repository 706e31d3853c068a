import ResearchEngine.JobAccounts
import ResearchEngine.SourceFailures

/-! Every terminal job against its documents, over all runs of the machine with the
fetcher of the worker. -/
namespace ResearchEngine

/-- The listing of a job is determined by the keys and the rows under them. -/
theorem Store.docsForJob_congr {s s' : Store} {job : Uuid} (hkeys : s'.docKeys job = s.docKeys job)
    (hrow : ∀ d row, s.docs.get d = some row → row.jobId = job → s'.docs.get d = some row) :
    s'.docsForJob job = s.docsForJob job := by
  have hread : ∀ t : Store, t.docsForJob job =
      (t.docKeys job).filterMap fun d => (t.docs.get d).map (d, ·) := by
    intro t
    rw [Store.docKeys, List.filterMap_map]
    refine (List.filterMap_some.symm.trans (List.filterMap_congr fun q hq => ?_))
    simp [((Table.mem_select_iff _ _ _ _).mp hq).1]
  rw [hread s', hread s, hkeys]
  refine List.filterMap_congr fun d hd => ?_
  obtain ⟨q, hq, rfl⟩ := List.mem_map.mp hd
  obtain ⟨hget, hp⟩ := (Table.mem_select_iff _ _ _ _).mp hq
  rw [hrow q.1 q.2 hget (of_decide_eq_true hp).1, hget]

/-- The delivery mark is not part of the accounts. -/
theorem Agrees.mark {docs : List Doc} {j : Job} (h : Agrees docs j) (b : Bool) :
    Agrees docs { j with callbackDelivered := b } where
  terminal := ⟨h.terminal.completedAt, h.terminal.settled, h.terminal.completed,
    h.terminal.partially, h.terminal.failed⟩
  counters :=
    { recomputed := congrArg (fun j : Job => { j with callbackDelivered := b }) h.counters.recomputed
      total := h.counters.total
      uploaded := h.counters.uploaded }

namespace JobMachine

open TransitionRuns ReaperSweep

section Conditions

variable {I W : Type}

/-- A first read finds no other run at work on the job, no cancel that had read `queued`
commits, and the reaper finds the job not running. -/
def KeepsAccounts (job : Uuid) (σ : State W) (a : Action I) : Prop :=
  SoleDelivery job σ a ∧
    match a with
    | .api n .commit => ∀ seen reason, σ.sessions n = .cancelling job seen reason → seen ≠ .queued
    | .sweepFail => ∀ j, σ.store.jobs.get job = some j → matchesRunning j = false
    | _ => True

structure Accounted (job : Uuid) (σ : State W) : Prop where
  wellFormed : WellFormed σ
  listed : Listed σ
  sole : Exclusive Run.engaged job σ
  runs : ∀ r, (σ.runs r).task.jobId = job → (σ.runs r).Accounts σ.store
  working : ∀ r, (σ.runs r).task.jobId = job → (σ.runs r).working = true →
    ∀ j, σ.store.jobs.get job = some j → j.status.terminal = false
  row : ∀ j, σ.store.jobs.get job = some j → j.status.terminal = true →
    Agrees (σ.store.docsOf job) j

theorem accounted_start (w : W) (now : Time) (job : Uuid) : Accounted job (State.start w now) where
  wellFormed := wellFormed_start w now
  listed := listed_start w now
  sole _ _ _ _ hr _ := by cases hr
  runs _ _ := .idle rfl (by rintro ⟨⟩)
  working _ _ hw := by cases hw
  row _ hj := by cases hj

end Conditions

section Steps

variable [PyText] {I W : Type} {F : Fetcher I W} {cfg : Settings} {job : Uuid} {σ τ : State W}
  {a : Action I}

/-- A terminal row was there before, up to the delivery mark, or is the last commit of a run. -/
theorem StepCase.row_cases (hs : StepCase F cfg σ a τ) (hok : KeepsAccounts job σ a) {j' : Job}
    (hj' : τ.store.jobs.get job = some j') (hterm : j'.status.terminal = true) :
    (∃ j, σ.store.jobs.get job = some j ∧ (∃ b, j' = { j with callbackDelivered := b }) ∧
        ∀ run act, a = .worker run act → (σ.runs run).task.jobId = job →
          (σ.runs run).statusWrite act = none) ∨
      ∃ run act e st, a = .worker run act ∧ τ = σ.afterWorker run e ∧
        workerStep F σ.now σ.store σ.outside (σ.runs run) act = some e ∧
        (σ.runs run).task.jobId = job ∧ (σ.runs run).statusWrite act = some st ∧
        st.terminal = true := by
  have same : (∃ b, j' = { j' with callbackDelivered := b }) := ⟨j'.callbackDelivered, rfl⟩
  cases hs with
  | @worker run act e hw =>
    replace hj' : e.store.jobs.get job = some j' := hj'
    by_cases hj : (σ.runs run).task.jobId = job
    · subst hj
      cases hst : (σ.runs run).statusWrite act with
      | none =>
        obtain ⟨j, hj, hb⟩ := workerStep_row_kept hw hst hj'
        refine Or.inl ⟨j, hj, hb, fun run' act' ha _ => ?_⟩
        cases ha
        exact hst
      | some st =>
        obtain ⟨g, hjobs, hg⟩ := workerStep_jobs hw
        rw [hjobs, Table.get_modify_self] at hj'
        obtain ⟨j, -, rfl⟩ := Option.map_eq_some_iff.mp hj'
        rw [(hg j).2, hst] at hterm
        exact Or.inr ⟨run, act, e, st, rfl, rfl, hw, rfl, hst, hterm⟩
    · obtain ⟨g, hjobs, -⟩ := workerStep_jobs hw
      rw [hjobs, Table.get_modify_other _ _ fun he => hj he.symm] at hj'
      refine Or.inl ⟨j', hj', same, fun run' act' ha hjob => ?_⟩
      cases ha
      exact (hj hjob).elim
  | @api n act e ha =>
    replace hj' : e.store.jobs.get job = some j' := hj'
    rcases apiCase_row ha hj' with h | h | ⟨rfl, h⟩
    · exact Or.inl ⟨j', h, same, (fun _ _ ha => by cases ha)⟩
    · rw [h] at hterm
      cases hterm
    · cases hn : σ.sessions n with
      | cancelling id seen reason =>
        rw [hn] at h
        simp only [Session.statusWrite] at h
        split at h
        · rename_i hid
          subst hid
          rw [← Option.some.inj h, cancelTarget, if_neg (hok.2 seen reason hn)] at hterm
          cases hterm
        · cases h
      | reviewing id seen | archiving id seen =>
        rw [hn] at h
        simp only [Session.statusWrite] at h
        split at h
        · rw [← Option.some.inj h] at hterm
          cases hterm
        · cases h
      | _ =>
        rw [hn] at h
        cases h
  | sweepFail =>
    obtain ⟨j, hj, rfl⟩ : ∃ j, σ.store.jobs.get job = some j ∧ failRow j = j' := by simpa using hj'
    have hrow : failRow j = j := (failRow_eq_self_iff j).mpr (hok.2 j hj)
    exact Or.inl ⟨j, hj, ⟨j.callbackDelivered, hrow⟩, (fun _ _ ha => by cases ha)⟩
  | _ => exact Or.inl ⟨j', hj', same, (fun _ _ ha => by cases ha)⟩

/-- The documents of a job stay as they are while no run that is at work on it steps. -/
theorem StepCase.docsOf_kept (hs : StepCase F cfg σ a τ) (hjob : job ∈ σ.store.jobs.keys)
    (hdocs : ∀ d row, σ.store.docs.get d = some row → row.jobId = job → a.docWrite σ d row = row) :
    τ.store.docsOf job = σ.store.docsOf job := by
  unfold Store.docsOf
  rw [Store.docsForJob_congr (hs.extends.listing job hjob) fun d row hrow hj => by
    rw [hs.doc hrow, hdocs d row hrow hj]]

theorem Accounted.run_step (h : Accounted job σ) (hF : Settles F) (hs : StepCase F cfg σ a τ)
    {r : ℕ} (hj : (τ.runs r).task.jobId = job) : (τ.runs r).Accounts τ.store := by
  by_cases hr : a.actor = some r
  · rcases hs.actor_cases hr with ⟨task, he⟩ | ⟨act, e, rfl, rfl, hw⟩
    · rw [he]
      exact .idle rfl (by rintro ⟨⟩)
    · rw [afterWorker_runs_self] at hj ⊢
      rw [(workerStep_task hw).1] at hj
      exact workerStep_accounts hw hF (h.listed r) (h.runs r hj)
  · rw [hs.runs_other hr] at hj ⊢
    have ha := h.runs r hj
    refine ⟨fun ht p hp => ?_, ha.draining, ha.done, ha.answer⟩
    obtain ⟨row, hrow, hst⟩ := ha.copies ht p hp
    have hengaged : (σ.runs r).engaged = true := by
      unfold Phase.tracking at ht
      unfold Run.engaged
      split at ht <;> simp_all
    have hlisted : (σ.runs r).phase.listed = true := by
      unfold Phase.tracking at ht
      unfold Phase.listed
      split at ht <;> simp_all
    obtain ⟨row', hrow', hjob, -⟩ := (h.listed r).row hlisted (List.mem_map_of_mem hp)
    obtain rfl := Option.some.inj (hrow.symm.trans hrow')
    refine ⟨row, ?_, hst⟩
    rw [hs.doc hrow,
      hs.docWrite_undisturbed h.listed h.sole hj hengaged hr hrow (hjob.trans hj)]

theorem Accounted.working_step (h : Accounted job σ) (hok : KeepsAccounts job σ a)
    (hs : StepCase F cfg σ a τ) {r : ℕ} (hj : (τ.runs r).task.jobId = job)
    (hw : (τ.runs r).working = true) {j' : Job} (hj' : τ.store.jobs.get job = some j') :
    j'.status.terminal = false := by
  by_contra hterm
  simp only [Bool.not_eq_false] at hterm
  have hengaged := Run.working_engaged hw
  have hsole := hs.sole_engaged hok.1 h.sole
  rcases hs.row_cases hok hj' hterm with
    ⟨j, hjr, ⟨b, rfl⟩, -⟩ | ⟨run, act, e, st, rfl, rfl, hstep, hjob, hst, ht⟩
  · by_cases hr : a.actor = some r
    · rcases hs.actor_cases hr with ⟨task, he⟩ | ⟨act, e, rfl, rfl, hstep⟩
      · rw [he] at hw
        cases hw
      · rw [afterWorker_runs_self] at hj hw
        rw [(workerStep_task hstep).1] at hj
        rcases workerStep_working hstep hw with hst | ⟨hwork, -⟩
        · obtain ⟨g, hjobs, hg⟩ := workerStep_jobs hstep
          replace hj' : e.store.jobs.get job = some _ := hj'
          rw [hjobs, hj, Table.get_modify_self, hjr] at hj'
          have hstatus := (hg j).2
          rw [hst] at hstatus
          rw [← Option.some.inj hj', hstatus] at hterm
          cases hterm
        · rw [h.working r hj hwork j hjr] at hterm
          cases hterm
    · rw [hs.runs_other hr] at hj hw
      rw [h.working r hj hw j hjr] at hterm
      cases hterm
  · -- the last commit is of a run that was at work, so of this one, which then ends
    have hold := (workerStep_statusWrite hstep hst).1
    have hended := (workerStep_statusWrite hstep hst).2 ht
    obtain ⟨htask, hr⟩ := hs.engaged hengaged
    by_cases hrun : r = run
    · subst hrun
      rw [afterWorker_runs_self, hended] at hengaged
      cases hengaged
    · rcases hr with hr | hr
      · rw [htask] at hj
        exact hrun (h.sole r run hj hjob hr hold)
      · injection hr with hr _
        exact hrun hr.symm

theorem Accounted.row_step (h : Accounted job σ) (hok : KeepsAccounts job σ a)
    (hs : StepCase F cfg σ a τ) {j' : Job} (hj' : τ.store.jobs.get job = some j')
    (hterm : j'.status.terminal = true) : Agrees (τ.store.docsOf job) j' := by
  rcases hs.row_cases hok hj' hterm with
    ⟨j, hj, ⟨b, rfl⟩, hnone⟩ | ⟨run, act, e, st, rfl, rfl, hstep, rfl, hst, ht⟩
  · have hkey : job ∈ σ.store.jobs.keys := (Table.mem_keys_iff _ _).mpr ⟨j, hj⟩
    rw [hs.docsOf_kept hkey fun d row hrow hjob => ?_]
    · exact (h.row j hj hterm).mark b
    · cases hs with
      | @worker run act e hw =>
        by_cases hrun : (σ.runs run).task.jobId = job
        · refine workerStep_docs_kept hw (hnone run act rfl hrun) ?_ d row
          by_contra hwork
          rw [h.working run hrun (by simpa using hwork) j hj] at hterm
          cases hterm
        · exact workerStep_docWrite_other hw (h.listed run) hrow
            (Or.inr fun he => hrun (he.symm.trans hjob))
      | _ => rfl
  · have hne : (σ.runs run).phase ≠ .idle :=
      engaged_ne_idle (workerStep_statusWrite hstep hst).1
    exact workerStep_agrees hstep (h.listed run) (h.runs run rfl)
      (h.wellFormed.store.listed _ (h.wellFormed.run_keys hne)) hst ht hj'

theorem Accounted.step (h : Accounted job σ) (hF : Settles F) (hok : KeepsAccounts job σ a)
    (hs : StepCase F cfg σ a τ) : Accounted job τ where
  wellFormed := hs.wellFormed h.wellFormed
  listed := hs.listed h.wellFormed h.listed
  sole := hs.sole_engaged hok.1 h.sole
  runs _ hj := h.run_step hF hs hj
  working _ hj hw _ hj' := h.working_step hok hs hj hw hj'
  row _ hj' hterm := h.row_step hok hs hj' hterm

theorem accounted_of_runs (hF : Settles F) {w : W} {now : Time} {as : List (Action I)}
    (h : Runs (JobMachine.step F cfg) (KeepsAccounts job) (State.start w now) as σ) :
    Accounted job σ :=
  h.invariant (fun _ _ _ hs hok hst => hs.step hF hok (step_cases F cfg hst))
    (accounted_start w now job)

end Steps

end JobMachine

namespace Fetching

open JobMachine TransitionRuns ReaperSweep EvidenceUpload

section Answers

variable [PyText] {A : Type} (eng : Engine A)

theorem settleStep_settled (input : ResearchInput A) (order : OrderData) (tenantId : Option Uuid)
    (docType : DocType) (step : StepResult) (ev : Evidence) :
    (settleStep eng input order tenantId docType step ev).1.status.settled = true := by
  have hstatus : (documentOf docType step).status = mapStepStatus step.status := by
    unfold documentOf
    split <;> rfl
  have hmap : (mapStepStatus step.status).settled = true := by
    cases step.status <;> rfl
  unfold settleStep
  dsimp only
  split
  · have hcase := uploadArtifact_cases eng.sha256 (uploadOf input order tenantId docType step)
      (documentOf docType step) ev
    generalize uploadArtifact _ _ (documentOf docType step) ev = out at hcase ⊢
    cases hcase with
    | absent => rwa [hstatus]
    | failed => rfl
    | stored => rfl
  · rwa [hstatus]

variable [PyFloat]

/-- The worker's fetcher answers with `fetched`, `uploaded`, `failed` or `skipped`. -/
theorem documentFetcher_settles : Settles (documentFetcher eng) := by
  rintro input ⟨order, docType, tenantId⟩ w
  cases order with
  | none => rfl
  | some order =>
    rw [documentFetcher_call]
    dsimp only [outcomeOn]
    split
    · rfl
    · exact settleStep_settled eng input order _ docType _ _

end Answers

/-- What a terminal job owes to its documents, and to a retry of the failed ones. -/
structure TerminalContract (s : Store) (job : Uuid) (j : Job) : Prop where
  documents : TerminalAgrees (s.docsOf job) j
  retryable : j.status = .partialResult ∨ j.status = .failed →
    ∀ actor, ∃ req, readRetry s j.tenantId actor job none = .checking req

section Claims

variable [PyText] [PyFloat] {A : Type} {job : Uuid} {j : Job}

omit [PyText] [PyFloat] in
/-- A job that is partial or failed has a failed document to retry. -/
theorem retry_found {s : Store} (hlive : s.getJob job j.tenantId = some j)
    (h : TerminalAgrees (s.docsOf job) j)
    (hst : j.status = .partialResult ∨ j.status = .failed) (actor : Uuid) :
    ∃ req, readRetry s j.tenantId actor job none = .checking req := by
  have hfailed : ∃ d ∈ s.docsOf job, d.status = .failed := by
    rcases hst with hst | hst
    · exact (h.partially hst).1
    · exact h.failed hst
  have hretry : j.status.retryable = true := by
    rcases hst with hst | hst <;> rw [hst] <;> rfl
  obtain ⟨d, hd, hdst⟩ := hfailed
  obtain ⟨p, hp, rfl⟩ := List.mem_map.mp hd
  obtain ⟨hget, hlisted⟩ := (Table.mem_select_iff _ _ _ _).mp hp
  obtain ⟨hjob, hdel⟩ := of_decide_eq_true hlisted
  obtain ⟨req, hreq, -⟩ := readRetry_failed hlive hretry hget hjob hdel hdst
  exact ⟨req, hreq⟩

/-- While each delivery finds nobody at work on the job, no cancel finalises it while queued
and the reaper does not find it running, a terminal job agrees with its documents. -/
theorem terminal_jobs_agree (eng : Engine A) (cfg : Settings) {w : World} {now : Time}
    {as : List (Action (ResearchInput A))} {σ : State World}
    (h : Runs (step (documentFetcher eng) cfg) (KeepsAccounts job) (State.start w now) as σ)
    (hj : σ.store.jobs.get job = some j) (hterm : j.status.terminal = true) :
    TerminalContract σ.store job j := by
  have hacc := accounted_of_runs (documentFetcher_settles eng) h
  have hdocs := (hacc.row j hj hterm).terminal
  exact ⟨hdocs, retry_found (hacc.wellFormed.store.getJob hj) hdocs⟩

/-- Under the same conditions the counters of a terminal job are those of its documents. -/
theorem counters_agree (eng : Engine A) (cfg : Settings) {w : World} {now : Time}
    {as : List (Action (ResearchInput A))} {σ : State World}
    (h : Runs (step (documentFetcher eng) cfg) (KeepsAccounts job) (State.start w now) as σ)
    (hj : σ.store.jobs.get job = some j) (hterm : j.status.terminal = true) :
    CountersAgree (σ.store.docsOf job) j :=
  ((accounted_of_runs (documentFetcher_settles eng) h).row j hj hterm).counters

end Claims

section Concrete

open scoped PyText.Ascii PyFloat.Whole

/-- A condition on the steps that no first read, cancel commit or sweep can break. -/
def quiet : Action (ResearchInput SourceAnswers) → Bool
  | .worker _ .read | .api _ .commit | .sweepFail => false
  | _ => true

theorem keepsAccounts_of_quiet {job : Uuid} {σ : State World}
    {a : Action (ResearchInput SourceAnswers)} (h : quiet a = true) : KeepsAccounts job σ a := by
  unfold KeepsAccounts SoleDelivery
  constructor
  · split
    · cases h
    · trivial
  · split
    · cases h
    · cases h
    · trivial

def openedActs : List (Action (ResearchInput SourceAnswers)) := submit ++ [.deliver 0 0]

def openedState : State World :=
  outcome (step (documentFetcher sampleEngine) {}) (State.start default 0) openedActs

/-- The run claims the job and a cancel request reads it. -/
def claimedActs : List (Action (ResearchInput SourceAnswers)) :=
  [.worker 0 (.list sampleDocs), .worker 0 .claim, .worker 0 (.enter sampleDocs (some sampleOrder)),
    .api 1 (.cancel 1 7 none)]

def openedRead : State World :=
  outcome (step (documentFetcher sampleEngine) {}) openedState [.worker 0 .read]

def claimedState : State World :=
  outcome (step (documentFetcher sampleEngine) {}) openedRead claimedActs

def claimedCancelling : State World :=
  outcome (step (documentFetcher sampleEngine) {}) claimedState [.api 1 .commit]

/-- The run skips every document. -/
def skippedActs : List (Action (ResearchInput SourceAnswers)) :=
  List.replicate 6 (.worker 0 .reread) ++ [.worker 0 .finish]

def cancelledJob : State World :=
  outcome (step (documentFetcher sampleEngine) {}) claimedCancelling skippedActs

theorem cancelledJob_runs : ∃ as, Runs (step (documentFetcher sampleEngine) {}) (KeepsAccounts 7)
    (State.start default 0) as cancelledJob := by
  have hopened : Runs (step (documentFetcher sampleEngine) {}) (KeepsAccounts 7)
      (State.start default 0) openedActs openedState :=
    .of_check (b := fun _ => quiet) (fun _ _ => keepsAccounts_of_quiet) (by decide +kernel)
  have hread : KeepsAccounts 7 openedState
      (.worker 0 .read : Action (ResearchInput SourceAnswers)) := by
    refine ⟨fun _ r _ => ?_, trivial⟩
    by_cases h0 : r = 0
    · subst h0
      decide +kernel
    · rw [idle_of_sole hopened (by decide) h0]
      rfl
  have hclaimed : Runs (step (documentFetcher sampleEngine) {}) (KeepsAccounts 7) openedRead
      claimedActs claimedState :=
    .of_check (b := fun _ => quiet) (fun _ _ => keepsAccounts_of_quiet) (by decide +kernel)
  have hcommit : KeepsAccounts 7 claimedState
      (.api 1 .commit : Action (ResearchInput SourceAnswers)) := by
    refine ⟨trivial, fun seen reason hn => ?_⟩
    have hseen : claimedState.sessions 1 = .cancelling 7 .running none := by rfl
    rw [hseen] at hn
    injection hn with _ hrunning
    rw [← hrunning]
    decide
  have hskipped : Runs (step (documentFetcher sampleEngine) {}) (KeepsAccounts 7)
      claimedCancelling skippedActs cancelledJob :=
    .of_check (b := fun _ => quiet) (fun _ _ => keepsAccounts_of_quiet) (by decide +kernel)
  exact ⟨_, hopened.append (.cons (step_outcome (by decide +kernel)) hread
    (hclaimed.append (.cons (step_outcome (by decide +kernel)) hcommit hskipped)))⟩

theorem cancelledJob_row : ∃ j, cancelledJob.store.jobs.get 7 = some j ∧ j.status = .cancelled := by
  have hst : (cancelledJob.store.jobs.get 7).map Job.status = some .cancelled := by decide +kernel
  obtain ⟨j, hj, hst⟩ := Option.map_eq_some_iff.mp hst
  exact ⟨j, hj, hst⟩

theorem cancelled_job_agrees : ∃ j, cancelledJob.store.jobs.get 7 = some j ∧
    j.status = .cancelled ∧ TerminalContract cancelledJob.store 7 j := by
  obtain ⟨as, hruns⟩ := cancelledJob_runs
  obtain ⟨j, hj, hst⟩ := cancelledJob_row
  exact ⟨j, hj, hst, terminal_jobs_agree sampleEngine {} hruns hj (by rw [hst]; rfl)⟩

theorem cancelled_counters_agree : ∃ j, cancelledJob.store.jobs.get 7 = some j ∧
    j.status = .cancelled ∧ CountersAgree (cancelledJob.store.docsOf 7) j := by
  obtain ⟨as, hruns⟩ := cancelledJob_runs
  obtain ⟨j, hj, hst⟩ := cancelledJob_row
  exact ⟨j, hj, hst, counters_agree sampleEngine {} hruns hj (by rw [hst]; rfl)⟩

/-- The order is gone when the worker looks for it: the first document fails. Then the
reaper comes by. -/
def reapedActs : List (Action (ResearchInput SourceAnswers)) :=
  openedActs ++ [.worker 0 .read, .worker 0 (.list sampleDocs), .worker 0 .claim,
    .worker 0 (.enter sampleDocs none)] ++ research 0 mainStreet ++ [.sweepFail]

def reapedState : State World :=
  outcome (step (documentFetcher sampleEngine) {}) (State.start default 0) reapedActs

theorem reapedState_runs : Runs (step (documentFetcher sampleEngine) {}) Always
    (State.start default 0) reapedActs reapedState := .of_exec (exec_outcome (by decide +kernel))

theorem reaped_job_unfinished :
    ¬ ∀ (as : List (Action (ResearchInput SourceAnswers))) (σ : State World) (job : Uuid) (j : Job),
      Runs (step (documentFetcher sampleEngine) {}) Always (State.start default 0) as σ →
      σ.store.jobs.get job = some j → j.status.terminal = true → TerminalContract σ.store job j := by
  intro h
  have hrow : (reapedState.store.jobs.get 7).map (fun j => (j.status, j.completedAt)) =
      some (.failed, none) := by decide +kernel
  obtain ⟨j, hj, hkey⟩ := Option.map_eq_some_iff.mp hrow
  obtain ⟨hst, hnone⟩ := Prod.mk.inj hkey
  exact (h _ _ 7 j reapedState_runs hj (by rw [hst]; rfl)).documents.completedAt hnone

theorem reaped_counters_stale :
    ¬ ∀ (as : List (Action (ResearchInput SourceAnswers))) (σ : State World) (job : Uuid) (j : Job),
      Runs (step (documentFetcher sampleEngine) {}) Always (State.start default 0) as σ →
      σ.store.jobs.get job = some j → j.status.terminal = true →
      CountersAgree (σ.store.docsOf job) j := by
  intro h
  have hrow : (reapedState.store.jobs.get 7).map
      (fun j => (j.status, j.failedDocuments,
        (recalcJobCounters (reapedState.store.docsOf 7) j).failedDocuments)) =
      some (.failed, 0, 1) := by decide +kernel
  obtain ⟨j, hj, hkey⟩ := Option.map_eq_some_iff.mp hrow
  obtain ⟨hst, hold, hnew⟩ := by simpa only [Prod.mk.injEq] using hkey
  have hre := (h _ _ 7 j reapedState_runs hj (by rw [hst]; rfl)).recomputed
  rw [hre, hold] at hnew
  cases hnew

/-- A job cancelled while queued is terminal with every document queued. -/
example : (outcome (step (documentFetcher sampleEngine) {}) (State.start default 0)
    (submit ++ [.api 1 (.cancel 1 7 none), .api 1 .commit])).store.jobs.rows.map
      (fun r => (r.2.status, r.2.completedAt, r.2.cancelledDocuments)) = [(.cancelled, none, 0)] := by
  decide +kernel

end Concrete

end Fetching
end ResearchEngine
