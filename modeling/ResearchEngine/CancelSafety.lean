import ResearchEngine.LifecycleRuns

/-! A committed cancel against every interleaving of the runs of its job. -/
namespace ResearchEngine

/-- No document is left to be looked at after the current one. -/
def Phase.lastDoc : Phase → Bool
  | .looping [] | .marking _ [] | .calling _ [] | .awaiting _ [] | .settling _ [] _ => true
  | _ => false

/-- `document_fetcher` calls a run makes before it looks at the job row again. -/
def Phase.owed : Phase → ℕ
  | .marking _ _ | .calling _ _ => 1
  | _ => 0

theorem Phase.owed_le (p : Phase) : p.owed ≤ 1 := by
  cases p <;> simp [Phase.owed]

/-- Between a first read that found no cancel and the `running` commit. -/
def Run.gap (r : Run) : Bool :=
  match r.phase with
  | .loaded => !r.job.status.isCancel
  | .claiming => true
  | _ => false

/-- Past its last look at the job row, which did not find `cancelling`. -/
def Run.blind (r : Run) : Bool := r.phase.lastDoc ∧ r.job.status ≠ .cancelling

/-- A run that has yet to make its last commit. -/
def Run.serving (r : Run) : Bool :=
  match r.phase with
  | .idle | .ended | .notifying => false
  | _ => true

def Event.isFetch (job : Uuid) : Event → Bool
  | .fetch j _ => j = job
  | _ => false

theorem Event.isFetch_job {job : Uuid} {x : Event} (h : x.isFetch job = true) : x.job = job := by
  cases x with
  | fetch j d => exact of_decide_eq_true h
  | _ => cases h

/-! One step of a run whose job row is being cancelled. -/

section RunStep

variable {I W : Type} {F : Fetcher I W} {now : Time} {s : Store} {w : W} {r : Run}
  {act : WorkerAct I} {e : Effect W} {row : Job}

/-- A run that is neither in the gap nor blind stays so, as long as its last look
finds `cancelling`. -/
theorem workerStep_gap_blind (h : workerStep F now s w r act = some e)
    (hrow : s.getJob r.task.jobId r.task.tenantId = some row) (hc : row.status.isCancel = true)
    (hlisted : s.docKeys r.task.jobId ≠ []) (hg : r.gap = false) (hb : r.blind = false)
    (hlast : act = .reread → ∀ doc, r.phase = .looping [doc] → row.status = .cancelling) :
    e.run.gap = false ∧ e.run.blind = false := by
  -- the last-document phases keep the session's copy of the row
  have keep : ∀ {p : Phase}, p.lastDoc = r.phase.lastDoc →
      (decide (p.lastDoc = true ∧ r.job.status ≠ .cancelling)) = false := by
    intro p hp
    rw [hp]
    exact hb
  cases workerStep_cases F now s w r h with
  | @readFound j hp hj =>
    obtain rfl := Option.some.inj (hrow.symm.trans hj)
    exact ⟨by simp [Run.gap, hc], by simp [Run.blind, Phase.lastDoc]⟩
  | listLive hp hl hlive => simp [Run.gap, hp, hlive] at hg
  | claim hp => simp [Run.gap, hp] at hg
  | @enter listing rows order hp hl =>
    obtain ⟨hkeys, hperm, -⟩ := Store.listForJob_eq_some hl
    refine ⟨rfl, ?_⟩
    cases rows with
    | nil =>
      obtain rfl : [] = listing := hkeys
      exact (hlisted hperm.symm.eq_nil).elim
    | cons p rows => simp [Run.blind, enterLoop, Phase.lastDoc]
  | @rereadCancelled doc todo j hp hj hcj =>
    obtain rfl := Option.some.inj (hrow.symm.trans hj)
    refine ⟨rfl, ?_⟩
    cases todo with
    | nil => simp [Run.blind, hlast rfl doc hp]
    | cons d todo => simp [Run.blind, Phase.lastDoc]
  | rereadLive hp hj hlive =>
    obtain rfl := Option.some.inj (hrow.symm.trans hj)
    rw [hc] at hlive
    cases hlive
  | @mark doc todo hp => exact ⟨rfl, keep (by rw [hp]; cases todo <;> rfl)⟩
  | @call doc todo hp => exact ⟨rfl, keep (by rw [hp]; cases todo <;> rfl)⟩
  | @receive input doc todo d hp hd => exact ⟨rfl, keep (by rw [hp]; cases todo <;> rfl)⟩
  | @settle doc todo outcome hp => exact ⟨rfl, keep (by rw [hp]; cases todo <;> rfl)⟩
  | finish hp =>
    by_cases hcb : truthy r.job.callbackUrl = true
    · simp [Run.gap, Run.blind, Phase.lastDoc, finishJob, hcb]
    · simp [Run.gap, Run.blind, Phase.lastDoc, finishJob, hcb]
  | _ => exact ⟨rfl, rfl⟩

/-- All such a run can still write is `cancelled`. -/
theorem workerStep_writes_cancelled (h : workerStep F now s w r act = some e)
    (hg : r.gap = false) (hb : r.blind = false) :
    ∀ st ∈ r.statusWrite act, st = .cancelled := by
  cases workerStep_cases F now s w r h with
  | drain hp =>
    rintro st ⟨⟩
    rfl
  | claim hp => simp [Run.gap, hp] at hg
  | finish hp =>
    have hcopy : r.job.status = .cancelling := by simpa [Run.blind, hp, Phase.lastDoc] using hb
    rintro st ⟨⟩
    rw [hcopy, resolveJobTerminalStatus_cancelling]
  | _ => rintro st ⟨⟩

/-- A call uses up what the run owed; nothing makes it owe another one. -/
theorem workerStep_owed (h : workerStep F now s w r act = some e)
    (hrow : s.getJob r.task.jobId r.task.tenantId = some row) (hc : row.status.isCancel = true) :
    (e.events.countP fun x => x.isFetch r.task.jobId) + e.run.phase.owed ≤ r.phase.owed := by
  cases workerStep_cases F now s w r h with
  | rereadLive hp hj hlive =>
    obtain rfl := Option.some.inj (hrow.symm.trans hj)
    rw [hc] at hlive
    cases hlive
  | mark hp => simp [hp, markFetching, Phase.owed]
  | call hp => simp [hp, callFetcher, Phase.owed, Event.isFetch]
  | finish hp =>
    by_cases hcb : truthy r.job.callbackUrl = true <;>
      simp [hp, finishJob, hcb, Phase.owed]
  | claim hp => simp [hp, claim, Phase.owed, Event.isFetch]
  | notify hp => simp [hp, notifyCallback, Phase.owed, Event.isFetch]
  | _ => simp [drain, enterLoop, receiveOutcome, settleDoc, abortRun, loseRun, Phase.owed]

/-- A serving run goes on serving until its last commit, unless it breaks off. -/
theorem workerStep_serving (h : workerStep F now s w r act = some e)
    (hrow : s.getJob r.task.jobId r.task.tenantId = some row) (hs : r.serving = true) :
    e.run.serving = true ∨
      (∃ st, r.statusWrite act = some st ∧ st ≠ .running ∧ st ≠ .cancelling) ∨
      act = .abort ∨ ∃ requeued, act = .lose requeued := by
  cases workerStep_cases F now s w r h with
  | readGone hp hj => simp [hrow] at hj
  | rereadGone hp hj => simp [hrow] at hj
  | drain hp => exact Or.inr (Or.inl ⟨_, rfl, by simp, by simp⟩)
  | finish hp =>
    exact Or.inr (Or.inl ⟨_, rfl, (resolveJobTerminalStatus_ne_open _ _).1,
      (resolveJobTerminalStatus_ne_open _ _).2⟩)
  | notify hp => simp [Run.serving, hp] at hs
  | abort hp => exact Or.inr (Or.inr (Or.inl rfl))
  | lose hp => exact Or.inr (Or.inr (Or.inr ⟨_, rfl⟩))
  | _ => exact Or.inl rfl

end RunStep

namespace JobMachine

open TransitionRuns ReaperSweep

section Conditions

variable {I W : Type}

/-- The `document_fetcher` calls one run has started for the job. -/
def State.fetches (σ : State W) (run : ℕ) (job : Uuid) : ℕ :=
  σ.log.countP fun e => e.1 = run ∧ e.2.isFetch job

/-- Every run on the job has finished and no delivery is to come. -/
def Quiet (σ : State W) (job : Uuid) : Prop :=
  (∀ t ∈ σ.queue, t.jobId ≠ job) ∧
    ∀ r, (σ.runs r).task.jobId = job → (σ.runs r).phase.live = false

/-- Somebody other than run `except` will still make the job's last commit. -/
def ServedBut (σ : State W) (job : Uuid) (except : Option ℕ) : Prop :=
  (∃ t ∈ σ.queue, t.jobId = job) ∨
    ∃ r, some r ≠ except ∧ (σ.runs r).task.jobId = job ∧ (σ.runs r).serving = true

/-- A cancel is safe to commit: no run is about to write `running` or a terminal
status over it, and a `cancelling` has somebody left to resolve it. -/
def MayCancel (σ : State W) (job : Uuid) (seen : JobStatus) : Prop :=
  (∀ r, (σ.runs r).task.jobId = job → (σ.runs r).gap = false ∧ (σ.runs r).blind = false) ∧
    (seen ≠ .queued → ServedBut σ job none)

/-- The condition on every step from the cancel on. -/
def KeepsCancel (job : Uuid) (σ : State W) : Action I → Prop
  | .api n .commit =>
    match σ.sessions n with
    | .cancelling id seen _ => id = job → MayCancel σ job seen
    | .reviewing id _ | .archiving id _ => id ≠ job
    | _ => True
  | .worker run .reread =>
    (σ.runs run).task.jobId = job → (∃ doc, (σ.runs run).phase = .looping [doc]) →
      σ.status job ≠ some .cancelled
  | .worker run .abort =>
    (σ.runs run).task.jobId = job → σ.status job = some .cancelling →
      (σ.runs run).task.retries < maxRetries ∨ ServedBut σ job (some run)
  | .worker run (.lose requeued) =>
    (σ.runs run).task.jobId = job → σ.status job = some .cancelling →
      requeued = true ∨ ServedBut σ job (some run)
  | _ => True

/-- A run of the job that breaks off leaves somebody to make the job's last commit. -/
def LeavesServed (job : Uuid) (σ : State W) : Action I → Prop
  | .worker run .abort => (σ.runs run).task.jobId = job →
      (σ.runs run).task.retries < maxRetries ∨ ServedBut σ job (some run)
  | .worker run (.lose requeued) => (σ.runs run).task.jobId = job →
      requeued = true ∨ ServedBut σ job (some run)
  | _ => True

/-- What a committed cancel promises about a later state. -/
def CancelKept (σ τ : State W) (job : Uuid) : Prop :=
  (Quiet τ job → τ.status job = some .cancelled) ∧
    ∀ r, τ.fetches r job ≤ σ.fetches r job + 1

/-- The calls a run on the job still owes. -/
def State.owed (σ : State W) (run : ℕ) (job : Uuid) : ℕ :=
  if (σ.runs run).task.jobId = job then (σ.runs run).phase.owed else 0

/-- The invariant that a safely committed cancel starts, relative to the calls
made before it. -/
structure Held (job : Uuid) (base : ℕ → ℕ) (σ : State W) : Prop where
  wellFormed : WellFormed σ
  row : ∃ j, σ.store.jobs.get job = some j ∧ j.status.isCancel = true
  runs : ∀ r, (σ.runs r).task.jobId = job → (σ.runs r).gap = false ∧ (σ.runs r).blind = false
  served : σ.status job = some .cancelling → ServedBut σ job none
  calls : ∀ r, σ.fetches r job + σ.owed r job ≤ base r + 1

theorem Quiet.not_served {σ : State W} {job : Uuid} (h : Quiet σ job) : ¬ ServedBut σ job none := by
  rintro (⟨t, ht, hj⟩ | ⟨r, -, hj, hs⟩)
  · exact h.1 t ht hj
  · have hlive := h.2 r hj
    unfold Run.serving at hs
    unfold Phase.live at hlive
    split at hs <;> simp_all

theorem Held.kept {job : Uuid} {σ τ : State W} (h : Held job (σ.fetches · job) τ) :
    CancelKept σ τ job := by
  refine ⟨fun hq => ?_, fun r => ?_⟩
  · obtain ⟨j, hj, hc⟩ := h.row
    have hst : τ.status job = some j.status := by simp [State.status, hj]
    cases hs : j.status with
    | cancelled => rw [hst, hs]
    | cancelling => exact (hq.not_served (h.served (hs ▸ hst))).elim
    | _ => simp [hs, JobStatus.isCancel] at hc
  · have hcalls := h.calls r
    omega

end Conditions

section Steps

variable {I W : Type} {F : Fetcher I W} {job : Uuid} {base : ℕ → ℕ} {σ τ : State W}

theorem Held.getJob (h : Held job base σ) {r : ℕ} (hjob : (σ.runs r).task.jobId = job)
    (hidle : (σ.runs r).phase ≠ .idle) :
    ∃ row, σ.store.getJob (σ.runs r).task.jobId (σ.runs r).task.tenantId = some row ∧
      σ.status job = some row.status ∧ row.status.isCancel = true := by
  obtain ⟨row, hrow, hc⟩ := h.row
  subst hjob
  exact ⟨row, (h.wellFormed.runs r hidle).getJob hrow, by simp [State.status, hrow], hc⟩

theorem Held.listed (h : Held job base σ) : σ.store.docKeys job ≠ [] := by
  obtain ⟨row, hrow, -⟩ := h.row
  exact h.wellFormed.store.listed job ((Table.mem_keys_iff _ _).mpr ⟨row, hrow⟩)

theorem live_ne_idle {p : Phase} (h : p.live = true) : p ≠ .idle := by
  rintro rfl
  cases h

/-- All that a run on the job can still write is `cancelled`. -/
theorem Held.worker_write (h : Held job base σ) {run : ℕ} {act : WorkerAct I} {e : Effect W}
    (hw : workerStep F σ.now σ.store σ.outside (σ.runs run) act = some e)
    (hjob : (σ.runs run).task.jobId = job) :
    ∀ st ∈ (σ.runs run).statusWrite act, st = .cancelled :=
  workerStep_writes_cancelled hw (h.runs run hjob).1 (h.runs run hjob).2

theorem cancelTarget_isCancel (seen : JobStatus) : (cancelTarget seen).isCancel = true := by
  unfold cancelTarget
  split <;> rfl

theorem ServedBut.mono {except : Option ℕ} (hq : ∀ t ∈ σ.queue, t.jobId = job → t ∈ τ.queue)
    (hr : ∀ r, some r ≠ except → (σ.runs r).serving = true → τ.runs r = σ.runs r)
    (h : ServedBut σ job except) : ServedBut τ job none := by
  rcases h with ⟨t, ht, hj⟩ | ⟨r, hne, hj, hs⟩
  · exact Or.inl ⟨t, hq t ht hj, hj⟩
  · exact Or.inr ⟨r, by simp, by rw [hr r hne hs]; exact ⟨hj, hs⟩⟩

theorem servedBut_afterWorker {run : ℕ} {e : Effect W} (h : ServedBut σ job (some run)) :
    ServedBut (σ.afterWorker run e) job none := by
  refine h.mono (fun t ht _ => List.mem_append_left _ ht) fun r hne _ => ?_
  exact Function.update_of_ne (fun he => hne (congrArg some he)) _ _

theorem ServedBut.except (h : ServedBut σ job none) {run : ℕ}
    (hrun : (σ.runs run).task.jobId = job → (σ.runs run).serving = false) :
    ServedBut σ job (some run) := by
  rcases h with ht | ⟨r, -, hj, hs⟩
  · exact Or.inl ht
  · refine Or.inr ⟨r, ?_, hj, hs⟩
    rintro ⟨⟩
    rw [hrun hj] at hs
    cases hs

/-- A step of a run leaves the job served, unless it is the last commit. -/
theorem served_worker (hwf : WellFormed σ) {run : ℕ} {act : WorkerAct I} {e : Effect W}
    (hk : LeavesServed job σ (.worker run act)) (hserved : ServedBut σ job none)
    (hw : workerStep F σ.now σ.store σ.outside (σ.runs run) act = some e)
    (hwr : (σ.runs run).task.jobId = job → ∀ st ∈ (σ.runs run).statusWrite act,
      st = .running ∨ st = .cancelling) :
    ServedBut (σ.afterWorker run e) job none := by
  have published : ∀ t, t ∈ e.publish → t.jobId = job → ServedBut (σ.afterWorker run e) job none :=
    fun t ht hj => Or.inl ⟨t, List.mem_append_right _ ht, hj⟩
  by_cases hrun : (σ.runs run).task.jobId = job ∧ (σ.runs run).serving = true
  · obtain ⟨hjob, hs⟩ := hrun
    obtain ⟨row, hget⟩ := hwf.runs run (live_ne_idle (workerStep_live hw))
    rcases workerStep_serving hw hget hs with he | ⟨st, he, hne, hne'⟩ | rfl | ⟨requeued, rfl⟩
    · refine Or.inr ⟨run, by simp, ?_⟩
      simp only [State.afterWorker, Function.update_self]
      exact ⟨(workerStep_task hw).1 ▸ hjob, he⟩
    · rcases hwr hjob st he with hst | hst
      · exact (hne hst).elim
      · exact (hne' hst).elim
    · cases workerStep_cases F _ _ _ _ hw with
      | abort hp =>
        rcases hk hjob with hret | hother
        · exact published { (σ.runs run).task with retries := (σ.runs run).task.retries + 1 }
            (by simp [abortRun, hret]) hjob
        · exact servedBut_afterWorker hother
    · cases workerStep_cases F _ _ _ _ hw with
      | lose hp =>
        rcases hk hjob with rfl | hother
        · exact published _ (by simp [loseRun]) hjob
        · exact servedBut_afterWorker hother
  · refine servedBut_afterWorker (hserved.except fun hjob => ?_)
    simpa [hjob] using hrun

variable [PyText] {cfg : Settings} {a : Action I}

/-- The row stays cancelled or being cancelled. -/
theorem Held.row_step (h : Held job base σ) (hk : KeepsCancel job σ a) (hs : StepCase F cfg σ a τ) :
    ∃ j, τ.store.jobs.get job = some j ∧ j.status.isCancel = true := by
  obtain ⟨row, hrow, hc⟩ := h.row
  obtain ⟨row', hrow', hst⟩ := hs.status hrow
  refine ⟨row', hrow', ?_⟩
  rw [hst]
  cases hs with
  | @worker run act e hw =>
    simp only [statusAfter]
    split
    · rename_i hjob
      cases hwr : (σ.runs run).statusWrite act with
      | none => exact hc
      | some st =>
        obtain rfl := h.worker_write hw hjob st hwr
        rfl
    · exact hc
  | @api n act e ha =>
    cases act with
    | commit =>
      simp only [statusAfter]
      cases hs : σ.sessions n with
      | cancelling id seen reason =>
        by_cases hid : id = job
        · simpa [Session.statusWrite, hid] using cancelTarget_isCancel seen
        · simpa [Session.statusWrite, hid] using hc
      | reviewing id seen =>
        have hid : id ≠ job := by simpa [KeepsCancel, hs] using hk
        simpa [Session.statusWrite, hid] using hc
      | archiving id seen =>
        have hid : id ≠ job := by simpa [KeepsCancel, hs] using hk
        simpa [Session.statusWrite, hid] using hc
      | _ => exact hc
    | _ => exact hc
  | sweepFail =>
    have hne : row.status ≠ .running := by
      intro he
      rw [he] at hc
      cases hc
    simpa only [statusAfter, failRow_of_not_running hne] using hc
  | _ => exact hc

/-- No run on the job enters the gap or goes blind. -/
theorem Held.runs_step (h : Held job base σ) (hk : KeepsCancel job σ a) (hs : StepCase F cfg σ a τ) :
    ∀ r, (τ.runs r).task.jobId = job → (τ.runs r).gap = false ∧ (τ.runs r).blind = false := by
  cases hs with
  | @deliver run i task hfree htask =>
    intro r hr
    simp only [State.afterDeliver, Function.update_apply] at hr ⊢
    split
    · exact ⟨rfl, by simp [Run.blind, startRun, Phase.lastDoc]⟩
    · rename_i hne
      exact h.runs r (by simpa [hne] using hr)
  | @worker run act e hw =>
    intro r hr
    simp only [State.afterWorker, Function.update_apply] at hr ⊢
    split
    · rename_i hrun
      subst hrun
      rw [if_pos rfl, (workerStep_task hw).1] at hr
      obtain ⟨row, hget, hst, hc⟩ := h.getJob hr (live_ne_idle (workerStep_live hw))
      refine workerStep_gap_blind hw hget hc (hr ▸ h.listed) (h.runs r hr).1 (h.runs r hr).2 ?_
      rintro rfl doc hp
      have hne := hk hr ⟨doc, hp⟩
      rw [hst] at hne
      cases hrs : row.status with
      | cancelling => rfl
      | cancelled => exact (hne (by rw [hrs])).elim
      | _ => simp [hrs, JobStatus.isCancel] at hc
    · rename_i hne
      exact h.runs r (by simpa [hne] using hr)
  | _ => exact h.runs

/-- A step leaves the job served, unless it is the last commit of a run. -/
theorem StepCase.served (hs : StepCase F cfg σ a τ) (hwf : WellFormed σ) (hk : LeavesServed job σ a)
    (h : ServedBut σ job none)
    (hwr : ∀ run act, a = .worker run act → (σ.runs run).task.jobId = job →
      ∀ st ∈ (σ.runs run).statusWrite act, st = .running ∨ st = .cancelling) :
    ServedBut τ job none := by
  cases hs with
  | tick => exact h
  | @deliver run i task hfree htask =>
    rcases h with ⟨t, ht, hj⟩ | ⟨r, -, hj, hr⟩
    · by_cases hi : σ.queue[i]? = some t
      · obtain rfl := Option.some.inj (htask.symm.trans hi)
        exact Or.inr ⟨run, by simp, by simp [State.afterDeliver, startRun, hj, Run.serving]⟩
      · obtain ⟨k, hkt⟩ := List.mem_iff_getElem?.mp ht
        have hne : k ≠ i := by
          rintro rfl
          exact hi hkt
        exact Or.inl ⟨t, List.mem_eraseIdx_iff_getElem?.mpr ⟨k, hne, hkt⟩, hj⟩
    · have hne : r ≠ run := by
        rintro rfl
        simp [Run.serving, hfree] at hr
      exact Or.inr ⟨r, by simp, by simpa [State.afterDeliver, hne] using ⟨hj, hr⟩⟩
  | redeliver hlive => exact h.mono (fun t ht _ => List.mem_append_left _ ht) fun _ _ _ => rfl
  | @worker run act e hw => exact served_worker hwf hk h hw (hwr run act rfl)
  | api ha => exact h.mono (fun t ht _ => List.mem_append_left _ ht) fun _ _ _ => rfl
  | sweepEnqueue => exact h.mono (fun t ht _ => List.mem_append_left _ ht) fun _ _ _ => rfl
  | sweepFail => exact h.mono (fun t ht _ => ht) fun _ _ _ => rfl

/-- While the row is `cancelling`, somebody is left to resolve it. -/
theorem Held.served_step (h : Held job base σ) (hk : KeepsCancel job σ a)
    (hs : StepCase F cfg σ a τ) (hst : τ.status job = some .cancelling) :
    ServedBut τ job none := by
  obtain ⟨row, hrow, hc⟩ := h.row
  have hafter : statusAfter σ job row a = .cancelling := by
    obtain ⟨row', hrow', he⟩ := hs.status hrow
    obtain ⟨j, hj, hjs⟩ := State.status_eq_some hst
    obtain rfl := Option.some.inj (hrow'.symm.trans hj)
    rw [← he, hjs]
  -- unless a cancel commits it, the row was `cancelling` before
  have hbefore : statusAfter σ job row a = row.status → ServedBut τ job none := by
    intro he
    have hold : σ.status job = some .cancelling := by simp [State.status, hrow, ← he, hafter]
    refine hs.served h.wellFormed ?_ (h.served hold) fun run act ha hjob st hwr => ?_
    · unfold LeavesServed
      split
      · exact fun hjob => hk hjob hold
      · exact fun hjob => hk hjob hold
      · trivial
    · subst ha
      refine Or.inr ?_
      rw [statusAfter, if_pos hjob, Option.mem_def.mp hwr] at hafter
      exact hafter
  cases hs with
  | @worker run act e hw =>
    refine hbefore ?_
    simp only [statusAfter]
    split
    · rename_i hjob
      cases hval : (σ.runs run).statusWrite act with
      | none => rfl
      | some st =>
        have hst' : st = .cancelled := h.worker_write hw hjob st hval
        simp [statusAfter, hjob, hval, hst'] at hafter
    · rfl
  | @api n act e ha =>
    cases act with
    | commit =>
      cases hs : σ.sessions n with
      | cancelling id seen reason =>
        by_cases hid : id = job
        · simp only [KeepsCancel, hs] at hk
          have hserved := (hk hid).2 fun hq => by
            simp [statusAfter, hs, Session.statusWrite, hid, hq, cancelTarget] at hafter
          exact hserved.mono (fun t ht _ => List.mem_append_left _ ht) fun _ _ _ => rfl
        · exact hbefore (by simp [statusAfter, hs, Session.statusWrite, hid])
      | reviewing id seen =>
        have hid : id ≠ job := by simpa [KeepsCancel, hs] using hk
        exact hbefore (by simp [statusAfter, hs, Session.statusWrite, hid])
      | archiving id seen =>
        have hid : id ≠ job := by simpa [KeepsCancel, hs] using hk
        exact hbefore (by simp [statusAfter, hs, Session.statusWrite, hid])
      | _ => exact hbefore (by simp [statusAfter, hs, Session.statusWrite])
    | _ => exact hbefore rfl
  | sweepFail =>
    have hne : row.status ≠ .running := by
      intro he
      rw [he] at hc
      cases hc
    exact hbefore (by simp only [statusAfter, failRow_of_not_running hne])
  | _ => exact hbefore rfl

/-- No run starts more calls than it owed. -/
theorem Held.calls_step (h : Held job base σ) (hs : StepCase F cfg σ a τ) :
    ∀ r, τ.fetches r job + τ.owed r job ≤ base r + 1 := by
  intro r
  have hr := h.calls r
  cases hs with
  | @deliver run i task hfree htask =>
    by_cases hrun : r = run
    · subst hrun
      have hzero : (σ.afterDeliver r i task).owed r job = 0 := by
        simp [State.owed, State.afterDeliver, startRun, Phase.owed]
      have hsame : (σ.afterDeliver r i task).fetches r job = σ.fetches r job := rfl
      omega
    · simpa [State.owed, State.fetches, State.afterDeliver, hrun] using hr
  | @worker run act e hw =>
    by_cases hrun : r = run
    · subst hrun
      have hcount : (σ.afterWorker r e).fetches r job =
          (e.events.countP fun x => x.isFetch job) + σ.fetches r job := by
        simp [State.fetches, State.afterWorker, List.countP_append, List.countP_map,
          Function.comp_def]
      by_cases hjob : (σ.runs r).task.jobId = job
      · obtain ⟨row, hget, -, hc⟩ := h.getJob hjob (live_ne_idle (workerStep_live hw))
        have howed := workerStep_owed hw hget hc
        rw [hjob] at howed
        have hpost : (σ.afterWorker r e).owed r job = e.run.phase.owed := by
          simp [State.owed, State.afterWorker, (workerStep_task hw).1, hjob]
        have hpre : σ.owed r job = (σ.runs r).phase.owed := by simp [State.owed, hjob]
        omega
      · have hnone : (e.events.countP fun x => x.isFetch job) = 0 :=
          List.countP_eq_zero.mpr fun x hx hf =>
            hjob (((workerStep_events hw).2 x hx).symm.trans (Event.isFetch_job hf))
        have hpost : (σ.afterWorker r e).owed r job = 0 := by
          simp [State.owed, State.afterWorker, (workerStep_task hw).1, hjob]
        omega
    · have hcount : (σ.afterWorker run e).fetches r job = σ.fetches r job := by
        have hne : run ≠ r := fun he => hrun he.symm
        simp [State.fetches, State.afterWorker, List.countP_append, List.countP_map,
          Function.comp_def, hne]
      have hpost : (σ.afterWorker run e).owed r job = σ.owed r job := by
        simp [State.owed, State.afterWorker, hrun]
      omega
  | _ => exact hr

theorem Held.step (h : Held job base σ) (hk : KeepsCancel job σ a) (hs : StepCase F cfg σ a τ) :
    Held job base τ where
  wellFormed := hs.wellFormed h.wellFormed
  row := h.row_step hk hs
  runs := h.runs_step hk hs
  served := h.served_step hk hs
  calls := h.calls_step hs

/-- The commit of a safe cancel starts the invariant. -/
theorem held_of_cancel (hσ : WellFormed σ) {n : ℕ} {seen : JobStatus} {reason : Option String}
    (hn : σ.sessions n = .cancelling job seen reason) (hm : MayCancel σ job seen)
    (hs : StepCase F cfg σ (.api n .commit) τ) : Held job (σ.fetches · job) τ := by
  have hkey : job ∈ σ.store.jobs.keys := by
    have hb := hσ.sessions n
    rwa [hn] at hb
  obtain ⟨row, hrow⟩ := (Table.mem_keys_iff _ _).mp hkey
  have hwf := hs.wellFormed hσ
  cases hs with
  | @api n act e ha =>
    rw [hn] at ha
    cases ha
    have hget : (σ.store.modifyJob job (applyCancel seen reason)).jobs.get job =
        some (applyCancel seen reason row) := by simp [hrow]
    refine ⟨hwf, ⟨_, hget, cancelTarget_isCancel seen⟩, hm.1, fun hst => ?_, fun r => ?_⟩
    · have hq : seen ≠ .queued := by
        rintro rfl
        simp only [State.status, State.afterApi, hget, Option.map_some, Option.some.injEq] at hst
        cases hst
      exact (hm.2 hq).mono (fun t ht _ => List.mem_append_left _ ht) fun _ _ _ => rfl
    · have howed := Phase.owed_le (σ.runs r).phase
      have hle : σ.owed r job ≤ 1 := by
        unfold State.owed
        split <;> omega
      exact Nat.add_le_add_left hle _

/-- From a cancel that is safe to commit, through any steps that keep it safe, the
job ends cancelled and no run starts more than one further call. -/
theorem cancel_kept (hσ : Reachable F cfg σ) {n : ℕ} {seen : JobStatus} {reason : Option String}
    (hn : σ.sessions n = .cancelling job seen reason) {as : List (Action I)}
    (h : Runs (step F cfg) (KeepsCancel job) σ (.api n .commit :: as) τ) : CancelKept σ τ job := by
  cases h with
  | @cons _ _ t _ _ hs hk hrest =>
    have hm : MayCancel σ job seen := by
      simp only [KeepsCancel, hn] at hk
      exact hk trivial
    have hheld := held_of_cancel hσ.wellFormed hn hm (step_cases F cfg hs)
    exact (hrest.invariant (fun s a t hs hk hst => hs.step hk (step_cases F cfg hst)) hheld).kept

end Steps

section Concrete

open scoped PyText.Ascii

/-- The condition on the steps of a run without crashes and API commits. -/
def keepsCheck (job : Uuid) (σ : State Unit) : Action Unit → Bool
  | .api _ .commit | .worker _ .abort | .worker _ (.lose _) => false
  | .worker _ .reread => σ.status job ≠ some .cancelled
  | _ => true

theorem keepsCancel_of_check {job : Uuid} {σ : State Unit} {a : Action Unit}
    (h : keepsCheck job σ a = true) : KeepsCancel job σ a := by
  unfold keepsCheck at h
  unfold KeepsCancel
  split at h
  · cases h
  · cases h
  · cases h
  · exact fun _ _ => of_decide_eq_true h
  · split <;> simp_all

/-- The worker is fetching the first of six documents when the cancel comes. -/
def busyActs : List (Action Unit) :=
  submit ++ [.deliver 0 0, .worker 0 .read, .worker 0 (.list sampleDocs), .worker 0 .claim,
    .worker 0 (.enter sampleDocs (some sampleOrder)), .worker 0 .reread, .worker 0 .mark,
    .worker 0 .call, .api 1 (.cancel 1 7 none)]

def busyState : State Unit := outcome (step linkFetcher {}) (State.start () 0) busyActs

def cancellingState : State Unit := outcome (step linkFetcher {}) busyState [.api 1 .commit]

/-- The rest of the run after the cancel. -/
def windDown : List (Action Unit) :=
  [.api 1 .refresh, .worker 0 (.receive ()), .worker 0 .settle, .worker 0 .reread,
    .worker 0 .reread, .worker 0 .reread, .worker 0 .reread, .worker 0 .reread, .worker 0 .finish]

theorem busy_cancel_kept :
    CancelKept busyState (outcome (step linkFetcher {}) cancellingState windDown) 7 := by
  have hrun : Runs (step linkFetcher {}) Always (State.start () 0) busyActs busyState :=
    .of_exec (exec_outcome (by decide +kernel))
  have hcommit : step linkFetcher {} busyState (.api 1 .commit) = some cancellingState :=
    step_outcome (by decide +kernel)
  have hm : MayCancel busyState 7 .running := by
    refine ⟨fun r hr => ?_, fun _ => Or.inr ⟨0, by simp, by decide +kernel⟩⟩
    by_cases h0 : r = 0
    · subst h0
      decide +kernel
    · rw [idle_of_sole hrun (by decide) h0]
      decide
  have hrest : Runs (step linkFetcher {}) (KeepsCancel 7) cancellingState windDown
      (outcome (step linkFetcher {}) cancellingState windDown) :=
    .of_check (b := keepsCheck 7) (fun _ _ => keepsCancel_of_check) (by decide +kernel)
  have hn : busyState.sessions 1 = .cancelling 7 .running none := by rfl
  refine cancel_kept ⟨(), 0, busyActs, hrun⟩ hn (.cons hcommit ?_ hrest)
  simp only [KeepsCancel, hn]
  exact fun _ => hm

/-- Steps of runs that do not crash, and the end of the cancel request itself. -/
def calm (session : ℕ) : Action Unit → Bool
  | .worker _ .abort | .worker _ (.lose _) => false
  | .worker _ _ => true
  | .api n .refresh => n = session
  | _ => false

/-- The worker has read `queued` and not yet committed `running`. -/
def gapActs : List (Action Unit) :=
  submit ++ [.deliver 0 0, .worker 0 .read, .worker 0 (.list sampleDocs),
    .api 1 (.cancel 1 7 none)]

def gapState : State Unit := outcome (step linkFetcher {}) (State.start () 0) gapActs

/-- The cancel returns `cancelled`; the run then fetches all six documents. -/
def overrun : List (Action Unit) :=
  [.api 1 .refresh, .worker 0 .claim, .worker 0 (.enter sampleDocs (some sampleOrder))] ++
    (List.replicate 6 (research 0 ())).flatten ++ [.worker 0 .finish]

def overrunState : State Unit :=
  outcome (step linkFetcher {}) gapState (.api 1 .commit :: overrun)

theorem cancel_lost_in_gap :
    ¬ ∀ (σ τ : State Unit) (n job : ℕ) (seen st : JobStatus) (reason : Option String)
        (as : List (Action Unit)), Reachable linkFetcher {} σ →
      σ.sessions n = .cancelling job seen reason → (∀ a ∈ as, calm n a = true) →
      Runs (step linkFetcher {}) Always σ (.api n .commit :: as) τ →
      τ.sessions n = .returned job st → st.isCancel = true → CancelKept σ τ job := by
  intro h
  have hrun : Runs (step linkFetcher {}) Always (State.start () 0) gapActs gapState :=
    .of_exec (exec_outcome (by decide +kernel))
  have hrest : Runs (step linkFetcher {}) Always gapState (.api 1 .commit :: overrun) overrunState :=
    .of_exec (exec_outcome (by decide +kernel))
  have hall : ∀ a ∈ overrun, calm 1 a = true := List.all_eq_true.mp (by decide)
  have hkept := h gapState overrunState 1 7 .queued .cancelled none overrun
    ⟨(), 0, gapActs, hrun⟩ rfl hall hrest (by rfl) rfl
  have hquiet : Quiet overrunState 7 := by
    refine ⟨by decide +kernel, fun r _ => ?_⟩
    by_cases h0 : r = 0
    · subst h0
      decide +kernel
    · rw [idle_of_sole (hrun.append hrest) (by decide) h0]
      rfl
  have hst : overrunState.status 7 = some .completed := by decide +kernel
  have hcancelled := hkept.1 hquiet
  rw [hst] at hcancelled
  cases hcancelled

end Concrete

end JobMachine
end ResearchEngine
