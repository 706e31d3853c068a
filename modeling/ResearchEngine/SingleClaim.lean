import ResearchEngine.CancelSafety

/-! Several deliveries of one job: who claims it, and how often each document is
fetched. -/
namespace ResearchEngine

/-- On its way from a first read that found no cancel to the end of the loop. -/
def Run.holds (r : Run) : Bool :=
  match r.phase with
  | .loaded => !r.job.status.isCancel
  | .claiming | .claimed | .looping _ | .marking _ _ | .calling _ _ | .awaiting _ _
  | .settling _ _ _ => true
  | _ => false

/-- About to move the job from `queued` to `running`, for all the run knows. -/
def Run.racing (r : Run) : Bool := r.gap ∧ r.job.status = .queued

/-- How often a run may still fetch one document. -/
def Run.share (d : Uuid) (r : Run) : ℕ :=
  match r.phase with
  | .loaded => if r.job.status.isCancel then 0 else 1
  | .claiming | .claimed => 1
  | .looping todo | .awaiting _ todo | .settling _ todo _ => todo.count d
  | .marking doc todo | .calling doc todo => (doc :: todo).count d
  | _ => 0

theorem Run.share_of_gap {r : Run} (h : r.gap = true) (d : Uuid) : r.share d = 1 := by
  unfold Run.gap at h
  unfold Run.share
  split at h <;> simp_all

section RunStep

variable {I W : Type} {F : Fetcher I W} {now : Time} {s : Store} {w : W} {r : Run}
  {act : WorkerAct I} {e : Effect W}

/-- Only a first read that finds no cancel makes a run hold the job. -/
theorem workerStep_holds (h : workerStep F now s w r act = some e) (hh : e.run.holds = true) :
    r.holds = true ∨ (act = .read ∧ e.run.gap = true ∧
      ∃ j, s.getJob r.task.jobId r.task.tenantId = some j ∧ j.status.isCancel = false) := by
  cases workerStep_cases F now s w r h with
  | @readFound j hp hj =>
    have hlive : j.status.isCancel = false := by simpa [Run.holds] using hh
    exact Or.inr ⟨rfl, by simp [Run.gap, hlive], j, hj, hlive⟩
  | listLive hp hl hc => exact Or.inl (by simp [Run.holds, hp, hc])
  | finish hp =>
    by_cases hcb : truthy r.job.callbackUrl = true <;> simp [Run.holds, finishJob, hcb] at hh
  | claim hp => exact Or.inl (by simp [Run.holds, hp])
  | enter hp hl => exact Or.inl (by simp [Run.holds, hp])
  | rereadCancelled hp hj hc => exact Or.inl (by simp [Run.holds, hp])
  | rereadLive hp hj hc => exact Or.inl (by simp [Run.holds, hp])
  | mark hp => exact Or.inl (by simp [Run.holds, hp])
  | call hp => exact Or.inl (by simp [Run.holds, hp])
  | receive hp hd => exact Or.inl (by simp [Run.holds, hp])
  | settle hp => exact Or.inl (by simp [Run.holds, hp])
  | _ => cases hh

/-- A fetch uses up the run's share; past the first read no share grows. -/
theorem workerStep_share (h : workerStep F now s w r act = some e) (hh : r.holds = true)
    (d : Uuid) : e.events.count (.fetch r.task.jobId d) + e.run.share d ≤ r.share d := by
  cases workerStep_cases F now s w r h with
  | readGone hp hj => simp [Run.holds, hp] at hh
  | readFound hp hj => simp [Run.holds, hp] at hh
  | listCancelled hp hl hc => simp [Run.share]
  | listLive hp hl hc => simp [Run.share, hp, hc]
  | claim hp => simp [Run.share, hp, claim]
  | @enter listing rows order hp hl =>
    obtain ⟨hkeys, hperm, -⟩ := Store.listForJob_eq_some hl
    have hnd : (rows.map Prod.fst).Nodup := by
      rw [hkeys]
      exact hperm.nodup_iff.mpr (s.docs.select_keys_nodup _)
    simpa [Run.share, hp, enterLoop] using List.nodup_iff_count_le_one.mp hnd d
  | rereadCancelled hp hj hc => simp [Run.share, hp, List.count_cons]
  | rereadLive hp hj hc => simp [Run.share, hp]
  | mark hp => simp [Run.share, hp, markFetching]
  | @call doc todo hp =>
    simp only [Run.share, hp, callFetcher, List.count_cons, List.count_nil, beq_iff_eq,
      Event.fetch.injEq, true_and]
    omega
  | receive hp hd => simp [Run.share, hp, receiveOutcome]
  | settle hp => simp [Run.share, hp, settleDoc]
  | finish hp =>
    by_cases hcb : truthy r.job.callbackUrl = true <;> simp [Run.share, finishJob, hcb]
  | _ => simp [Run.share, drain, notifyCallback, abortRun, loseRun]

theorem workerStep_fetch_holds (h : workerStep F now s w r act = some e) {job d : Uuid}
    (hf : Event.fetch job d ∈ e.events) : r.holds = true ∧ r.gap = false := by
  cases workerStep_cases F now s w r h with
  | call hp => exact ⟨by simp [Run.holds, hp], by simp [Run.gap, hp]⟩
  | claim hp => simp [claim] at hf
  | notify hp => simp [notifyCallback] at hf
  | _ => simp [drain, enterLoop, markFetching, receiveOutcome, settleDoc, finishJob, abortRun,
      loseRun] at hf

/-- A run leaves the gap only by its `running` commit or by breaking off. -/
theorem workerStep_gap (h : workerStep F now s w r act = some e) (hg : r.gap = true)
    (hw : r.statusWrite act ≠ some .running) (hh : e.run.holds = true) : e.run.gap = true := by
  cases workerStep_cases F now s w r h with
  | listLive hp hl hc => rfl
  | claim hp => exact (hw rfl).elim
  | listCancelled hp hl hc => cases hh
  | abort hp => cases hh
  | lose hp => cases hh
  | _ => simp_all [Run.gap]

/-- Only a first read that finds `queued` puts a run into the race. -/
theorem workerStep_racing (h : workerStep F now s w r act = some e) (hr : e.run.racing = true) :
    r.racing = true ∨ (act = .read ∧
      ∃ j, s.getJob r.task.jobId r.task.tenantId = some j ∧ j.status = .queued) := by
  have hq := of_decide_eq_true hr
  cases workerStep_cases F now s w r h with
  | readFound hp hj => exact Or.inr ⟨rfl, _, hj, hq.2⟩
  | listLive hp hl hc => exact Or.inl (by simpa [Run.racing, Run.gap, hp, hc] using hq.2)
  | finish hp =>
    by_cases hcb : truthy r.job.callbackUrl = true <;> simp [Run.gap, finishJob, hcb] at hq
  | _ => cases hq.1

/-- The claim of a run that had read `queued` takes it out of the race. -/
theorem workerStep_claims (h : workerStep F now s w r act = some e) {job : Uuid}
    (hc : Event.claim job .queued ∈ e.events) :
    act = .claim ∧ job = r.task.jobId ∧ r.racing = true ∧ e.run.racing = false := by
  cases workerStep_cases F now s w r h with
  | call hp => simp [callFetcher] at hc
  | claim hp =>
    simp only [claim, List.mem_singleton, Event.claim.injEq] at hc
    exact ⟨rfl, hc.1, by simp [Run.racing, Run.gap, hp, hc.2.symm], by simp [Run.racing, Run.gap, claim]⟩
  | notify hp => simp [notifyCallback] at hc
  | _ => simp [drain, enterLoop, markFetching, receiveOutcome, settleDoc, finishJob, abortRun,
      loseRun] at hc

end RunStep

namespace JobMachine

open TransitionRuns ReaperSweep

section Conditions

variable {I W : Type}

/-- How many runs committed `running` to the job after they had read `queued`. -/
def State.claims (σ : State W) (job : Uuid) : ℕ :=
  (σ.log.map Prod.snd).count (.claim job .queued)

/-- How often one document of the job was fetched, over all runs. -/
def State.fetchesOf (σ : State W) (job d : Uuid) : ℕ :=
  (σ.log.map Prod.snd).count (.fetch job d)

/-- A first read that finds `queued` finds no other run between such a read and its
`running` commit. -/
def NoRace (job : Uuid) (σ : State W) : Action I → Prop
  | .worker run .read => (σ.runs run).task.jobId = job → σ.status job = some .queued →
      ∀ r, (σ.runs r).task.jobId = job → (σ.runs r).racing = false
  | _ => True

/-- A first read finds the job cancelled or being cancelled, or it finds `queued`
with no other run about to claim the job. -/
def SoleReader (job : Uuid) (σ : State W) : Action I → Prop
  | .worker run .read => (σ.runs run).task.jobId = job →
      ∀ st, σ.status job = some st →
        st.isCancel = true ∨
          (st = .queued ∧ ∀ r, (σ.runs r).task.jobId = job → (σ.runs r).gap = false)
  | _ => True

/-- The worker died. -/
def Action.crash : Action I → Bool
  | .worker _ (.lose _) => true
  | _ => false

/-- One claim; and without a crash, one fetch for each document. -/
def ClaimedOnce (job : Uuid) (as : List (Action I)) (σ : State W) : Prop :=
  σ.claims job ≤ 1 ∧ ((∀ a ∈ as, a.crash = false) → ∀ d, σ.fetchesOf job d ≤ 1)

/-- The job has not been claimed yet, or does not exist. -/
def State.unclaimed (σ : State W) (job : Uuid) : Prop :=
  ∀ st, σ.status job = some st → st = .queued

/-- At most one run on the job is of a kind. -/
def Exclusive (P : Run → Bool) (job : Uuid) (σ : State W) : Prop :=
  ∀ r r', (σ.runs r).task.jobId = job → (σ.runs r').task.jobId = job →
    P (σ.runs r) = true → P (σ.runs r') = true → r = r'

structure OneClaim (job : Uuid) (σ : State W) : Prop where
  fresh : σ.unclaimed job → σ.claims job = 0
  once : σ.claims job ≤ 1
  sole : Exclusive Run.racing job σ
  racer : ∀ r, (σ.runs r).task.jobId = job → (σ.runs r).racing = true → σ.claims job = 0

structure OneFetch (job : Uuid) (σ : State W) : Prop where
  fresh : σ.unclaimed job → (∀ d, σ.fetchesOf job d = 0) ∧
    ∀ r, (σ.runs r).task.jobId = job → (σ.runs r).holds = true → (σ.runs r).gap = true
  sole : Exclusive Run.holds job σ
  total : ∀ d, σ.fetchesOf job d ≤ 1
  share : ∀ r, (σ.runs r).task.jobId = job → (σ.runs r).holds = true →
    ∀ d, σ.fetchesOf job d + (σ.runs r).share d ≤ 1

theorem claims_afterWorker (σ : State W) (run : ℕ) (e : Effect W) (job : Uuid) :
    (σ.afterWorker run e).claims job = e.events.count (.claim job .queued) + σ.claims job := by
  simp [State.claims, State.afterWorker, List.count_append, Function.comp_def]

theorem fetchesOf_afterWorker (σ : State W) (run : ℕ) (e : Effect W) (job d : Uuid) :
    (σ.afterWorker run e).fetchesOf job d = e.events.count (.fetch job d) + σ.fetchesOf job d := by
  simp [State.fetchesOf, State.afterWorker, List.count_append, Function.comp_def]

end Conditions

section Steps

variable {I W : Type} {F : Fetcher I W} {job : Uuid} {σ τ : State W}

theorem Run.statusWrite_ne_queued (r : Run) (act : WorkerAct I) :
    r.statusWrite act ≠ some .queued := by
  cases act with
  | finish =>
    simp only [Run.statusWrite, ne_eq, Option.some.injEq]
    by_cases hc : r.job.status = .cancelling
    · simp [hc]
    · rcases resolveJobTerminalStatus_cases hc (r.docs.map Prod.snd) with h | h | h <;> simp [h]
  | _ => simp [Run.statusWrite]

theorem statusAfter_eq_queued {id : Uuid} {row : Job} {a : Action I}
    (h : statusAfter σ id row a = .queued) : row.status = .queued := by
  unfold statusAfter at h
  split at h
  · rename_i run act
    split at h
    · cases hw : (σ.runs run).statusWrite act with
      | none => simpa [hw] using h
      | some st =>
        obtain rfl : st = .queued := by simpa [hw] using h
        exact (Run.statusWrite_ne_queued _ _ hw).elim
    · exact h
  · rename_i n
    cases hs : σ.sessions n with
    | cancelling j seen reason =>
      by_cases hid : j = id
      · simp only [hs, Session.statusWrite, hid, if_true, Option.getD_some, cancelTarget] at h
        split at h <;> cases h
      · simpa [hs, Session.statusWrite, hid] using h
    | reviewing j seen =>
      by_cases hid : j = id <;> simp [hs, Session.statusWrite, hid] at h
      exact h
    | archiving j seen =>
      by_cases hid : j = id <;> simp [hs, Session.statusWrite, hid] at h
      exact h
    | _ => simpa [hs, Session.statusWrite] using h
  · unfold failRow at h
    split at h
    · cases h
    · exact h
  · exact h

theorem getJob_status {s : Store} {job tenant : Uuid} {j : Job}
    (h : s.getJob job tenant = some j) : (s.jobs.get job).map Job.status = some j.status := by
  rw [((Store.getJob_eq_some_iff _ _ _ _).mp h).1, Option.map_some]

theorem oneClaim_start (w : W) (now : Time) (job : Uuid) : OneClaim job (State.start w now) where
  fresh _ := rfl
  once := Nat.zero_le _
  sole _ _ _ _ hr _ := by cases hr
  racer _ _ _ := rfl

theorem oneFetch_start (w : W) (now : Time) (job : Uuid) : OneFetch job (State.start w now) where
  fresh _ := ⟨fun _ => rfl, fun _ _ hh => by cases hh⟩
  sole _ _ _ _ hh _ := by cases hh
  total _ := Nat.zero_le _
  share _ _ hh := by cases hh

theorem SoleReader.noRace {a : Action I} (h : SoleReader job σ a) : NoRace job σ a := by
  unfold NoRace
  split
  · intro hj hst r hr
    rcases h hj _ hst with hc | ⟨-, hgap⟩
    · cases hc
    · simp [Run.racing, hgap r hr]
  · trivial

variable [PyText] {cfg : Settings} {a : Action I}

/-- A claimed job is never made unclaimed again. -/
theorem StepCase.unclaimed (hs : StepCase F cfg σ a τ) (hu : τ.unclaimed job) :
    σ.unclaimed job := by
  intro st hst
  obtain ⟨row, hrow, rfl⟩ := State.status_eq_some hst
  obtain ⟨row', hrow', he⟩ := hs.status hrow
  have hq : statusAfter σ job row a = .queued := he ▸ hu _ (by simp [State.status, hrow'])
  exact statusAfter_eq_queued hq

/-- A claim happens only when a racing run commits, and at most once in a step. -/
theorem StepCase.claims_cases (hs : StepCase F cfg σ a τ) (job : Uuid) :
    τ.claims job = σ.claims job ∨
      (τ.claims job = σ.claims job + 1 ∧ ∃ run, a = .worker run .claim ∧
        (σ.runs run).task.jobId = job ∧ (σ.runs run).racing = true ∧
        (τ.runs run).racing = false) := by
  rcases hs.log_cases with hlog | ⟨run, act, e, rfl, rfl, hw⟩
  · exact Or.inl (by simp [State.claims, hlog])
  · rw [claims_afterWorker]
    by_cases hmem : Event.claim job .queued ∈ e.events
    · obtain ⟨rfl, hj, hr, hr'⟩ := workerStep_claims hw hmem
      have hpos : 0 < e.events.count (.claim job .queued) := List.count_pos_iff.mpr hmem
      have hlen := (workerStep_events hw).1
      have hcount : e.events.count (.claim job .queued) ≤ e.events.length := List.count_le_length
      refine Or.inr ⟨by omega, run, rfl, hj.symm, hr, ?_⟩
      rwa [afterWorker_runs_self]
    · rw [List.count_eq_zero.mpr hmem, Nat.zero_add]
      exact Or.inl rfl

/-- A document is fetched only by a run that holds the job, out of its share. -/
theorem StepCase.fetches_cases (hs : StepCase F cfg σ a τ) (job : Uuid) :
    (∀ d, τ.fetchesOf job d = σ.fetchesOf job d) ∨
      ∃ run, a.actor = some run ∧ (σ.runs run).task.jobId = job ∧
        (σ.runs run).holds = true ∧ (σ.runs run).gap = false ∧
        ∀ d, τ.fetchesOf job d + (τ.runs run).share d ≤
          σ.fetchesOf job d + (σ.runs run).share d := by
  rcases hs.log_cases with hlog | ⟨run, act, e, rfl, rfl, hw⟩
  · exact Or.inl fun d => by simp [State.fetchesOf, hlog]
  · by_cases hmem : ∃ d, Event.fetch job d ∈ e.events
    · obtain ⟨d, hd⟩ := hmem
      obtain ⟨hh, hg⟩ := workerStep_fetch_holds hw hd
      have hj : (σ.runs run).task.jobId = job := ((workerStep_events hw).2 _ hd).symm
      refine Or.inr ⟨run, rfl, hj, hh, hg, fun d' => ?_⟩
      have hshare := workerStep_share hw hh d'
      rw [fetchesOf_afterWorker, afterWorker_runs_self]
      rw [hj] at hshare
      omega
    · refine Or.inl fun d => ?_
      rw [fetchesOf_afterWorker, List.count_eq_zero.mpr fun hd => hmem ⟨d, hd⟩, Nat.zero_add]

/-- A kind of run that only a first read can enter, and only when no other run on
the job is of it, stays exclusive. -/
theorem Exclusive.step {P : Run → Bool} (h : Exclusive P job σ) (hs : StepCase F cfg σ a τ)
    (hstart : ∀ task now, P (startRun task now) = false)
    (henter : ∀ run act e, a = .worker run act → (σ.runs run).task.jobId = job →
      workerStep F σ.now σ.store σ.outside (σ.runs run) act = some e → P e.run = true →
      P (σ.runs run) = true ∨ ∀ r, (σ.runs r).task.jobId = job → P (σ.runs r) = false) :
    Exclusive P job τ := by
  -- a run of the kind was of it before, or nobody was and it is the one that stepped
  have back : ∀ r, (τ.runs r).task.jobId = job → P (τ.runs r) = true →
      (σ.runs r).task.jobId = job ∧ (P (σ.runs r) = true ∨
        (a.actor = some r ∧ ∀ r', (σ.runs r').task.jobId = job → P (σ.runs r') = false)) := by
    intro r hj hp
    rcases hs.run_cases r with he | ⟨task, he⟩ | ⟨act, e, rfl, rfl, hw⟩
    · rw [he] at hj hp
      exact ⟨hj, Or.inl hp⟩
    · rw [he, hstart] at hp
      cases hp
    · rw [afterWorker_runs_self] at hj hp
      rw [(workerStep_task hw).1] at hj
      exact ⟨hj, (henter r act e rfl hj hw hp).imp id fun hnone => ⟨rfl, hnone⟩⟩
  intro r r' hj hj' hp hp'
  obtain ⟨hj, hold | ⟨hact, hnone⟩⟩ := back r hj hp
  · obtain ⟨hj', hold' | ⟨-, hnone⟩⟩ := back r' hj' hp'
    · exact h r r' hj hj' hold hold'
    · rw [hnone r hj] at hold
      cases hold
  · obtain ⟨hj', hold' | ⟨hact', -⟩⟩ := back r' hj' hp'
    · rw [hnone r' hj'] at hold'
      cases hold'
    · exact Option.some.inj (hact.symm.trans hact')

/-- A claim leaves the row `running`. -/
theorem StepCase.claimed (hs : StepCase F cfg σ a τ) (hwf : WellFormed σ) {run : ℕ}
    {act : WorkerAct I} (ha : a = .worker run act) (hj : (σ.runs run).task.jobId = job)
    (hidle : (σ.runs run).phase ≠ .idle) (hwr : (σ.runs run).statusWrite act = some .running) :
    ¬ τ.unclaimed job := by
  intro hu
  obtain ⟨row, hget⟩ := hwf.runs run hidle
  have hrow := ((Store.getJob_eq_some_iff _ _ _ _).mp hget).1
  rw [hj] at hrow
  obtain ⟨row', hrow', hst⟩ := hs.status hrow
  have hq := hu row'.status (by simp [State.status, hrow'])
  rw [hst, ha] at hq
  simp [statusAfter, hj, hwr] at hq

theorem OneClaim.step (h : OneClaim job σ) (hwf : WellFormed σ) (hc : NoRace job σ a)
    (hs : StepCase F cfg σ a τ) : OneClaim job τ := by
  have henter : ∀ run act e, a = .worker run act → (σ.runs run).task.jobId = job →
      workerStep F σ.now σ.store σ.outside (σ.runs run) act = some e → e.run.racing = true →
      (σ.runs run).racing = true ∨ (σ.status job = some .queued ∧
        ∀ r, (σ.runs r).task.jobId = job → (σ.runs r).racing = false) := by
    rintro run act e rfl hj hw hr
    rcases workerStep_racing hw hr with hold | ⟨rfl, j, hget, hq⟩
    · exact Or.inl hold
    · have hst : σ.status job = some .queued := hq ▸ hj ▸ getJob_status hget
      exact Or.inr ⟨hst, hc hj hst⟩
  have hsole : Exclusive Run.racing job τ := h.sole.step hs (fun _ _ => rfl)
    fun run act e ha hj hw hr => (henter run act e ha hj hw hr).imp id And.right
  rcases hs.claims_cases job with hsame | ⟨hone, run, ha, hj, hr, hr'⟩
  · refine ⟨fun hu => hsame ▸ h.fresh (hs.unclaimed hu), hsame ▸ h.once, hsole, fun r hj hr => ?_⟩
    rw [hsame]
    rcases hs.run_cases r with he | ⟨task, he⟩ | ⟨act, e, rfl, rfl, hw⟩
    · rw [he] at hj hr
      exact h.racer r hj hr
    · rw [he] at hr
      cases hr
    · rw [afterWorker_runs_self] at hj hr
      rw [(workerStep_task hw).1] at hj
      rcases henter r act e rfl hj hw hr with hold | ⟨hst, -⟩
      · exact h.racer r hj hold
      · exact h.fresh fun st hst' => (Option.some.inj (hst.symm.trans hst')).symm
  · have hzero := h.racer run hj hr
    have hidle : (σ.runs run).phase ≠ .idle := by
      intro hp
      simp [Run.racing, Run.gap, hp] at hr
    refine ⟨fun hu => (hs.claimed hwf ha hj hidle rfl hu).elim, by omega, hsole,
      fun r hrj hrr => ?_⟩
    -- the only racing run was the one that claimed
    exfalso
    rcases hs.run_cases r with he | ⟨task, he⟩ | ⟨act, e, ha', -, -⟩
    · rw [he] at hrj hrr
      obtain rfl := h.sole r run hrj hj hrr hr
      rw [he, hrr] at hr'
      cases hr'
    · rw [he] at hrr
      cases hrr
    · rw [ha] at ha'
      cases ha'
      rw [hr'] at hrr
      cases hrr

theorem OneFetch.step (h : OneFetch job σ) (hwf : WellFormed σ) (hc : SoleReader job σ a)
    (hs : StepCase F cfg σ a τ) : OneFetch job τ := by
  -- whoever comes to hold the job by its first read is alone with it
  have henter : ∀ run act e, a = .worker run act → (σ.runs run).task.jobId = job →
      workerStep F σ.now σ.store σ.outside (σ.runs run) act = some e → e.run.holds = true →
      (σ.runs run).holds = true ∨ (e.run.gap = true ∧ (∀ d, σ.fetchesOf job d = 0) ∧
        ∀ r, (σ.runs r).task.jobId = job → (σ.runs r).holds = false) := by
    rintro run act e rfl hj hw hh
    rcases workerStep_holds hw hh with hold | ⟨rfl, hgap, j, hget, hlive⟩
    · exact Or.inl hold
    · have hst : σ.status job = some j.status := hj ▸ getJob_status hget
      rcases hc hj _ hst with hcancel | ⟨hq, hnone⟩
      · rw [hlive] at hcancel
        cases hcancel
      · obtain ⟨hf, hr⟩ := h.fresh fun st hst' => (Option.some.inj (hst.symm.trans hst')).symm.trans hq
        refine Or.inr ⟨hgap, hf, fun r hrj => ?_⟩
        by_contra hrh
        have hg := hr r hrj (by simpa using hrh)
        rw [hnone r hrj] at hg
        cases hg
  have hsole : Exclusive Run.holds job τ := h.sole.step hs (fun _ _ => rfl)
    fun run act e ha hj hw hh => (henter run act e ha hj hw hh).imp id fun hn => hn.2.2
  rcases hs.fetches_cases job with hsame | ⟨run, hact, hj, hh, hg, hle⟩
  · refine ⟨fun hu => ?_, hsole, fun d => hsame d ▸ h.total d, fun r hrj hrh d => ?_⟩
    · obtain ⟨hf, hgap⟩ := h.fresh (hs.unclaimed hu)
      refine ⟨fun d => hsame d ▸ hf d, fun r hrj hrh => ?_⟩
      rcases hs.run_cases r with he | ⟨task, he⟩ | ⟨act, e, rfl, rfl, hw⟩
      · rw [he] at hrj hrh ⊢
        exact hgap r hrj hrh
      · rw [he] at hrh
        cases hrh
      · rw [afterWorker_runs_self] at hrj hrh ⊢
        rw [(workerStep_task hw).1] at hrj
        rcases henter r act e rfl hrj hw hrh with hold | ⟨hg, -⟩
        · refine workerStep_gap hw (hgap r hrj hold) (fun hwr => ?_) hrh
          exact hs.claimed hwf rfl hrj (live_ne_idle (workerStep_live hw)) hwr hu
        · exact hg
    · rw [hsame d]
      rcases hs.run_cases r with he | ⟨task, he⟩ | ⟨act, e, rfl, rfl, hw⟩
      · rw [he] at hrj hrh ⊢
        exact h.share r hrj hrh d
      · rw [he] at hrh
        cases hrh
      · rw [afterWorker_runs_self] at hrj hrh ⊢
        rw [(workerStep_task hw).1] at hrj
        rcases henter r act e rfl hrj hw hrh with hold | ⟨hg, hf, -⟩
        · have hshare := workerStep_share hw hold d
          have hpre := h.share r hrj hold d
          omega
        · rw [hf d, Run.share_of_gap hg]
  · have hshare := h.share run hj hh
    refine ⟨fun hu => ?_, hsole, fun d => ?_, fun r hrj hrh d => ?_⟩
    · rw [(h.fresh (hs.unclaimed hu)).2 run hj hh] at hg
      cases hg
    · have hd := hle d
      have hpre := hshare d
      omega
    · have hrun : r = run := by
        rcases hs.run_cases r with he | ⟨task, he⟩ | ⟨act, e, rfl, -, -⟩
        · rw [he] at hrj hrh
          exact h.sole r run hrj hj hrh hh
        · rw [he] at hrh
          cases hrh
        · exact Option.some.inj hact
      subst hrun
      have hd := hle d
      have hpre := hshare d
      omega

/-- When no two first reads race for the job, it is claimed once; and when, unless a
worker crashed, a first read never finds it claimed, each document is fetched once. -/
theorem claimed_once {w : W} {now : Time} {as : List (Action I)}
    (h : Runs (step F cfg) (NoRace job) (State.start w now) as σ)
    (hc : (∀ a ∈ as, a.crash = false) →
      Runs (step F cfg) (SoleReader job) (State.start w now) as σ) : ClaimedOnce job as σ := by
  constructor
  · refine (h.invariant (I := fun σ => WellFormed σ ∧ OneClaim job σ) ?_
      ⟨wellFormed_start w now, oneClaim_start w now job⟩).2.once
    intro s a t ⟨hwf, hone⟩ hok hst
    have hcase := step_cases F cfg hst
    exact ⟨hcase.wellFormed hwf, hone.step hwf hok hcase⟩
  · intro hcrash
    refine ((hc hcrash).invariant (I := fun σ => WellFormed σ ∧ OneFetch job σ) ?_
      ⟨wellFormed_start w now, oneFetch_start w now job⟩).2.total
    intro s a t ⟨hwf, hone⟩ hok hst
    have hcase := step_cases F cfg hst
    exact ⟨hcase.wellFormed hwf, hone.step hwf hok hcase⟩

end Steps

section Concrete

open scoped PyText.Ascii

/-- No first read, or one that finds the job being cancelled. -/
def lateReader (job : Uuid) (σ : State Unit) : Action Unit → Bool
  | .worker _ .read => (σ.status job).all JobStatus.isCancel
  | _ => true

theorem soleReader_of_late {job : Uuid} {σ : State Unit} {a : Action Unit}
    (h : lateReader job σ a = true) : SoleReader job σ a := by
  unfold SoleReader
  split
  · intro _ st hst
    left
    simpa [lateReader, hst] using h
  · trivial

def deliveredActs : List (Action Unit) := submit ++ [.deliver 0 0]

def deliveredState : State Unit := outcome (step linkFetcher {}) (State.start () 0) deliveredActs

/-- The run fetches one document; then the task comes a second time, after a cancel. -/
def twiceDelivered : List (Action Unit) :=
  [.worker 0 (.list sampleDocs), .worker 0 .claim, .worker 0 (.enter sampleDocs (some sampleOrder))] ++
    research 0 () ++ [.redeliver 0, .api 1 (.cancel 1 7 none), .api 1 .commit, .deliver 1 0,
      .worker 1 .read, .worker 1 (.list sampleDocs), .worker 1 .drain]

def readState : State Unit := outcome (step linkFetcher {}) deliveredState [.worker 0 .read]

def twiceState : State Unit := outcome (step linkFetcher {}) readState twiceDelivered

theorem two_deliveries_claim_once :
    ClaimedOnce 7 (deliveredActs ++ .worker 0 .read :: twiceDelivered) twiceState := by
  have hfirst : Runs (step linkFetcher {}) (SoleReader 7) (State.start () 0) deliveredActs
      deliveredState :=
    .of_check (b := lateReader 7) (fun _ _ => soleReader_of_late) (by decide +kernel)
  have hread : SoleReader 7 deliveredState (.worker 0 .read : Action Unit) := by
    intro _ st hst
    have hq : deliveredState.status 7 = some .queued := by decide +kernel
    refine Or.inr ⟨(Option.some.inj (hq.symm.trans hst)).symm, fun r _ => ?_⟩
    by_cases h0 : r = 0
    · subst h0
      decide +kernel
    · rw [idle_of_sole hfirst (by decide) h0]
      rfl
  have hrest : Runs (step linkFetcher {}) (SoleReader 7) readState twiceDelivered twiceState :=
    .of_check (b := lateReader 7) (fun _ _ => soleReader_of_late) (by decide +kernel)
  have hall := hfirst.append (.cons (step_outcome (by decide +kernel)) hread hrest)
  exact claimed_once (hall.mono fun _ _ => SoleReader.noRace) fun _ => hall

/-- The reaper enqueues the queued job again; both workers read `queued` before
either commits. -/
def racedActs : List (Action Unit) :=
  submit ++ [.tick 601, .sweepEnqueue 1, .deliver 0 0, .deliver 1 0, .worker 0 .read,
    .worker 1 .read, .worker 0 (.list sampleDocs), .worker 1 (.list sampleDocs), .worker 0 .claim,
    .worker 1 .claim, .worker 0 (.enter sampleDocs (some sampleOrder)),
    .worker 1 (.enter sampleDocs (some sampleOrder))] ++ research 0 () ++ research 1 ()

def racedState : State Unit := outcome (step linkFetcher {}) (State.start () 0) racedActs

theorem job_claimed_twice :
    ¬ ∀ (as : List (Action Unit)) (σ : State Unit) (job : Uuid),
      Runs (step linkFetcher {}) Always (State.start () 0) as σ → ClaimedOnce job as σ := by
  intro h
  have hrun : Runs (step linkFetcher {}) Always (State.start () 0) racedActs racedState :=
    .of_exec (exec_outcome (by decide +kernel))
  obtain ⟨hclaims, -⟩ := h racedActs racedState 7 hrun
  have htwo : racedState.claims 7 = 2 := by decide +kernel
  omega

/-- The two runs of that history fetch the same document, and nobody crashed. -/
example : racedState.fetchesOf 7 10 = 2 ∧ racedActs.all (fun a => !a.crash) = true := by
  decide +kernel

end Concrete

end JobMachine
end ResearchEngine
