import ResearchEngine.CancelSafety

/-! When the steps keep to the declared transitions. Every writer of a job's status decides on it by a
read and commits it later, without another look: so what counts is who is between a read and its commit
when another one commits. -/
namespace ResearchEngine

/-- A run on its way to the drain commit. -/
def Run.toDrain (r : Run) : Prop :=
  r.phase = .draining ∨ (r.phase = .loaded ∧ r.job.status.isCancel = true)

/-- What a run has read of the job row and will not read again before its next commit. -/
structure Run.Relies (r : Run) (st : JobStatus) : Prop where
  gap : r.gap = true → st = .queued ∨ st = .running
  last : r.phase.lastDoc = true →
    (r.job.status = .running ∧ st = .running) ∨ (r.job.status = .cancelling ∧ st.isCancel = true)
  drain : r.toDrain → st.isCancel = true

/-- What a session has read of a job row that it is about to write. -/
def Session.Relies (id : Uuid) (st : JobStatus) : Session → Prop
  | .cancelling job seen _ => job = id →
      if seen = .queued then st = .queued ∨ st = .cancelled else st = .running ∨ st = .cancelling
  | .reviewing job _ => job = id → st = .completed ∨ st = .partialResult ∨ st = .reviewed
  | .archiving job _ => job = id → st = .reviewed ∨ st = .archived
  | _ => True

theorem Run.relies_of_free {r : Run} (hg : r.gap = false) (hl : r.phase.lastDoc = false)
    (hd : ¬ r.toDrain) (st : JobStatus) : r.Relies st where
  gap h := by simp [hg] at h
  last h := by simp [hl] at h
  drain h := (hd h).elim

/-- A run that is past its last look and not blind has seen `cancelling`. -/
theorem Run.Relies.copy {r : Run} {st : JobStatus} (h : r.Relies st) (hl : r.phase.lastDoc = true) :
    (r.blind = true ∧ r.job.status = .running ∧ st = .running) ∨
      (r.job.status = .cancelling ∧ st.isCancel = true) := by
  rcases h.last hl with ⟨hcopy, hst⟩ | hc
  · exact .inl ⟨by simp [Run.blind, hl, hcopy], hcopy, hst⟩
  · exact .inr hc

namespace JobMachine

open TransitionRuns ReaperSweep

section Turns

variable {I W : Type}

/-- No run on the job, that of the author apart, is between a first read and its `running` commit, or
past its last look with anything but `cancelling` seen. -/
def Clear (σ : State W) (job : Uuid) (author : Option ℕ) : Prop :=
  ∀ r, some r ≠ author → (σ.runs r).task.jobId = job →
    (σ.runs r).gap = false ∧ (σ.runs r).blind = false

/-- No cancel that found the job running or being cancelled is still to commit. -/
def NoOpenCancel (σ : State W) (job : Uuid) : Prop :=
  ∀ n seen reason, σ.sessions n = .cancelling job seen reason → seen = .queued

/-- No cancel that found the job queued is still to commit. -/
def NoQueuedCancel (σ : State W) (job : Uuid) : Prop :=
  ∀ n seen reason, σ.sessions n = .cancelling job seen reason → seen ≠ .queued

/-- The condition on a step, about what was read before it and is not committed yet. -/
def InTurn (σ : State W) : Action I → Prop
  | .worker run .read =>
    -- a task is handed out again only while its job is not settled, or is cancelled
    ∀ st, σ.status (σ.runs run).task.jobId = some st → st.settled = true → st = .cancelled
  | .worker run .claim => NoQueuedCancel σ (σ.runs run).task.jobId
  | .worker run .reread =>
    (∃ doc, (σ.runs run).phase = .looping [doc]) →
      ∀ st, σ.status (σ.runs run).task.jobId = some st → st = .running ∨ st = .cancelling
  | .worker run .drain | .worker run .finish =>
    Clear σ (σ.runs run).task.jobId (some run) ∧ NoOpenCancel σ (σ.runs run).task.jobId
  | .api n .commit =>
    match σ.sessions n with
    | .cancelling job _ _ => Clear σ job none
    | .archiving job _ => ∀ m seen, σ.sessions m ≠ .reviewing job seen
    | _ => True
  | .sweepFail => ∀ job row, σ.store.jobs.get job = some row → matchesRunning row = true →
      Clear σ job none ∧ NoOpenCancel σ job
  | _ => True

/-- What becomes of a row's status, with what its writer relies on and what nobody else does. -/
inductive StatusMove (σ : State W) (job : Uuid) (author : Option ℕ) : JobStatus → JobStatus → Prop
  | stay {st} : StatusMove σ job author st st
  | start {old} (read : old = .queued ∨ old = .running) (sole : NoQueuedCancel σ job) :
      StatusMove σ job author old .running
  | close {new} (result : new = .completed ∨ new = .partialResult ∨ new = .failed)
      (clear : Clear σ job author) (sole : NoOpenCancel σ job) :
      StatusMove σ job author .running new
  | drained {old} (read : old.isCancel = true) (sole : NoOpenCancel σ job) :
      StatusMove σ job author old .cancelled
  | cancelQueued {old} (read : old = .queued ∨ old = .cancelled) (clear : Clear σ job none) :
      StatusMove σ job author old .cancelled
  | cancelOpen {old} (read : old = .running ∨ old = .cancelling) (clear : Clear σ job none) :
      StatusMove σ job author old .cancelling
  | review {old} (read : old = .completed ∨ old = .partialResult ∨ old = .reviewed) :
      StatusMove σ job author old .reviewed
  | archive {old} (read : old = .reviewed ∨ old = .archived)
      (sole : ∀ n seen, σ.sessions n ≠ .reviewing job seen) : StatusMove σ job author old .archived

namespace StatusMove

variable {σ : State W} {job : Uuid} {author : Option ℕ} {old new : JobStatus}

theorem declared (h : StatusMove σ job author old new) : new = old ∨ Declared old new := by
  cases h with
  | stay => exact .inl rfl
  | start read =>
    rcases read with rfl | rfl
    · exact .inr .start
    · exact .inl rfl
  | close result =>
    rcases result with rfl | rfl | rfl
    · exact .inr .complete
    · exact .inr .partially
    · exact .inr .fail
  | drained read => exact Declared.toCancelled read
  | cancelQueued read =>
    rcases read with rfl | rfl
    · exact .inr .cancelQueued
    · exact .inl rfl
  | cancelOpen read =>
    rcases read with rfl | rfl
    · exact .inr .cancelRunning
    · exact .inl rfl
  | review read =>
    rcases read with rfl | rfl | rfl
    · exact .inr .review
    · exact .inr .reviewPartial
    · exact .inl rfl
  | archive read =>
    rcases read with rfl | rfl
    · exact .inr .archive
    · exact .inl rfl

/-- The other runs rely on the new status as they did on the old one. -/
theorem run (h : StatusMove σ job author old new) {r : ℕ} (hr : some r ≠ author)
    (hjob : (σ.runs r).task.jobId = job) (hrel : (σ.runs r).Relies old) : (σ.runs r).Relies new := by
  -- a run that the writer waits for relies on nothing but a cancel
  have waits (clear : Clear σ job author) (hnot : old.isCancel = false) : (σ.runs r).Relies new := by
    obtain ⟨hgap, hblind⟩ := clear r hr hjob
    refine ⟨fun hg => by simp [hgap] at hg, fun hl => ?_, fun hd => ?_⟩
    · rcases hrel.copy hl with ⟨hb, -⟩ | ⟨-, hc⟩
      · simp [hblind] at hb
      · simp [hnot] at hc
    · simp [hrel.drain hd] at hnot
  have cancels (clear : Clear σ job none) (hnew : new.isCancel = true) : (σ.runs r).Relies new := by
    obtain ⟨hgap, hblind⟩ := clear r (by simp) hjob
    refine ⟨fun hg => by simp [hgap] at hg, fun hl => ?_, fun _ => hnew⟩
    rcases hrel.copy hl with ⟨hb, -⟩ | ⟨hcopy, -⟩
    · simp [hblind] at hb
    · exact .inr ⟨hcopy, hnew⟩
  -- no run relies on a status that is neither open nor a cancel
  have ended (hopen : old ≠ .queued ∧ old ≠ .running) (hnot : old.isCancel = false) :
      (σ.runs r).Relies new := by
    refine ⟨fun hg => ?_, fun hl => ?_, fun hd => ?_⟩
    · exact ((hrel.gap hg).elim hopen.1 hopen.2).elim
    · rcases hrel.last hl with ⟨-, hst⟩ | ⟨-, hc⟩
      · exact (hopen.2 hst).elim
      · simp [hnot] at hc
    · simp [hrel.drain hd] at hnot
  cases h with
  | stay => exact hrel
  | start read =>
    have hnot : old.isCancel = false := by rcases read with rfl | rfl <;> rfl
    refine ⟨fun _ => .inr rfl, fun hl => ?_, fun hd => ?_⟩
    · rcases hrel.last hl with ⟨hcopy, -⟩ | ⟨-, hc⟩
      · exact .inl ⟨hcopy, rfl⟩
      · simp [hnot] at hc
    · simp [hrel.drain hd] at hnot
  | close result clear => exact waits clear rfl
  | drained read =>
    refine ⟨fun hg => ?_, fun hl => ?_, fun _ => rfl⟩
    · rcases hrel.gap hg with rfl | rfl <;> cases read
    · rcases hrel.last hl with ⟨-, rfl⟩ | ⟨hcopy, -⟩
      · cases read
      · exact .inr ⟨hcopy, rfl⟩
  | cancelQueued _ clear => exact cancels clear rfl
  | cancelOpen _ clear => exact cancels clear rfl
  | review read => rcases read with rfl | rfl | rfl <;> exact ended (by simp) rfl
  | archive read => rcases read with rfl | rfl <;> exact ended (by simp) rfl

/-- The sessions rely on the new status as they did on the old one. -/
theorem session (h : StatusMove σ job author old new) {n : ℕ}
    (hrel : (σ.sessions n).Relies job old) : (σ.sessions n).Relies job new := by
  cases hs : σ.sessions n with
  | cancelling id seen reason =>
    rw [hs] at hrel
    rintro rfl
    have hold := hrel rfl
    by_cases hq : seen = .queued
    · rw [if_pos hq] at hold ⊢
      cases h with
      | stay => exact hold
      | start _ sole => exact (sole n seen reason hs hq).elim
      | drained | cancelQueued => exact .inr rfl
      | close => rcases hold with h | h <;> cases h
      | cancelOpen read | review read | archive read => rcases hold with rfl | rfl <;> simp at read
    · rw [if_neg hq] at hold ⊢
      cases h with
      | stay => exact hold
      | start => exact .inl rfl
      | close _ _ sole | drained _ sole => exact (hq (sole n seen reason hs)).elim
      | cancelOpen => exact .inr rfl
      | cancelQueued read | review read | archive read => rcases hold with rfl | rfl <;> simp at read
  | reviewing id seen =>
    rw [hs] at hrel
    rintro rfl
    have hold := hrel rfl
    cases h with
    | stay => exact hold
    | review => exact .inr (.inr rfl)
    | archive _ sole => exact (sole n seen hs).elim
    | close => simp at hold
    | drained read => rcases hold with rfl | rfl | rfl <;> cases read
    | start read | cancelQueued read | cancelOpen read => rcases hold with rfl | rfl | rfl <;> simp at read
  | archiving id seen =>
    rw [hs] at hrel
    rintro rfl
    have hold := hrel rfl
    cases h with
    | stay => exact hold
    | review => exact .inl rfl
    | archive => exact .inr rfl
    | close => simp at hold
    | drained read => rcases hold with rfl | rfl <;> cases read
    | start read | cancelQueued read | cancelOpen read => rcases hold with rfl | rfl <;> simp at read
  | _ => trivial

end StatusMove

end Turns

section RunStep

variable {I W : Type} {F : Fetcher I W} {now : Time} {s : Store} {w : W} {r : Run}
  {act : WorkerAct I} {e : Effect W} {row : Job}

/-- What a run relies on after a step of its own. -/
theorem workerStep_relies (h : workerStep F now s w r act = some e)
    (hrow : s.jobs.get r.task.jobId = some row) (hlisted : s.docKeys r.task.jobId ≠ [])
    (hrel : r.Relies row.status)
    (hread : act = .read → row.status.settled = true → row.status = .cancelled)
    (hlast : act = .reread → ∀ doc, r.phase = .looping [doc] →
      row.status = .running ∨ row.status = .cancelling) :
    e.run.Relies ((r.statusWrite act).getD row.status) := by
  have same {j : Job} (hj : s.getJob r.task.jobId r.task.tenantId = some j) : j = row :=
    Option.some.inj (((Store.getJob_eq_some_iff _ _ _ _).mp hj).1.symm.trans hrow)
  -- the phases around one document keep what was seen at the last look
  have keep {p : Phase} {docs skipped t} (hp : p.lastDoc = r.phase.lastDoc)
      (hg : ({ r with docs := docs, skipped := skipped, fetchedAt := t, phase := p } : Run).gap = false)
      (hd : ¬ ({ r with docs := docs, skipped := skipped, fetchedAt := t, phase := p } : Run).toDrain) :
      ({ r with docs := docs, skipped := skipped, fetchedAt := t, phase := p } : Run).Relies
        row.status :=
    ⟨fun h => by simp [hg] at h, fun h => hrel.last (hp ▸ h), fun h => (hd h).elim⟩
  cases workerStep_cases F now s w r h with
  | @readFound j hp hj =>
    obtain rfl := same hj
    have hfound := hread rfl
    refine ⟨fun hg => ?_, (fun hl => by cases hl), fun hd => ?_⟩
    · have hlive : j.status.isCancel = false := by simpa [Run.gap] using hg
      cases hst : j.status <;> simp_all [JobStatus.settled, JobStatus.isCancel, Run.statusWrite]
    · rcases hd with hd | ⟨-, hc⟩
      · cases hd
      · exact hc
  | listCancelled hp hl hc =>
    exact ⟨(fun hg => by cases hg), (fun hl => by cases hl), fun _ => hrel.drain (.inr ⟨hp, hc⟩)⟩
  | listLive hp hl hc =>
    refine ⟨fun _ => hrel.gap (by simp [Run.gap, hp, hc]), (fun hl => by cases hl), fun hd => ?_⟩
    rcases hd with hd | ⟨hd, -⟩ <;> cases hd
  | @enter listing rows order hp hl =>
    obtain ⟨hkeys, hperm, -⟩ := Store.listForJob_eq_some hl
    cases rows with
    | nil =>
      obtain rfl : [] = listing := hkeys
      exact (hlisted hperm.symm.eq_nil).elim
    | cons p rows =>
      refine Run.relies_of_free rfl rfl (fun hd => ?_) _
      rcases hd with hd | ⟨hd, -⟩ <;> cases hd
  | @rereadCancelled doc todo j hp hj hc =>
    obtain rfl := same hj
    refine ⟨(fun hg => by cases hg), fun hl => ?_, fun hd => ?_⟩
    · cases todo with
      | nil =>
        rcases hlast rfl doc hp with hst | hst
        · rw [hst] at hc
          cases hc
        · exact .inr ⟨hst, hc⟩
      | cons d todo => cases hl
    · rcases hd with hd | ⟨hd, -⟩ <;> cases hd
  | @rereadLive doc todo j hp hj hc =>
    obtain rfl := same hj
    refine ⟨(fun hg => by cases hg), fun hl => ?_, fun hd => ?_⟩
    · cases todo with
      | nil =>
        rcases hlast rfl doc hp with hst | hst
        · exact .inl ⟨hst, hst⟩
        · rw [hst] at hc
          cases hc
      | cons d todo => cases hl
    · rcases hd with hd | ⟨hd, -⟩ <;> cases hd
  | @mark doc todo hp =>
    exact keep (by rw [hp]; cases todo <;> rfl) rfl (by rintro (hd | ⟨hd, -⟩) <;> cases hd)
  | @call doc todo hp =>
    exact keep (by rw [hp]; cases todo <;> rfl) rfl (by rintro (hd | ⟨hd, -⟩) <;> cases hd)
  | @receive input doc todo d hp hd =>
    exact keep (by rw [hp]; cases todo <;> rfl) rfl (by rintro (hd | ⟨hd, -⟩) <;> cases hd)
  | @settle doc todo outcome hp =>
    exact keep (by rw [hp]; cases todo <;> rfl) rfl (by rintro (hd | ⟨hd, -⟩) <;> cases hd)
  | finish hp =>
    by_cases hcb : truthy r.job.callbackUrl = true
    · exact Run.relies_of_free (by simp [Run.gap, finishJob, hcb])
        (by simp [Phase.lastDoc, finishJob, hcb]) (by simp [Run.toDrain, finishJob, hcb]) _
    · exact Run.relies_of_free (by simp [Run.gap, finishJob, hcb])
        (by simp [Phase.lastDoc, finishJob, hcb]) (by simp [Run.toDrain, finishJob, hcb]) _
  | _ => exact Run.relies_of_free rfl rfl (by rintro (hd | ⟨hd, -⟩) <;> cases hd) _

end RunStep

section Api

variable [PyText] {now : Time} {s : Store} {session : Session} {act : ApiAct} {e : ApiEffect}

/-- A session relies on a row only from the read on that it has decided by. -/
theorem apiCase_relies (h : ApiCase now s session act e) {id : Uuid} {row : Job}
    (hrow : e.store.jobs.get id = some row) : e.session.Relies id row.status := by
  have same {tenantId : Uuid} {j : Job} (hj : s.getJob id tenantId = some j)
      (hget : s.jobs.get id = some row) : row = j :=
    Option.some.inj (hget.symm.trans ((Store.getJob_eq_some_iff _ _ _ _).mp hj).1)
  cases h with
  | cancelRead hj hs =>
    rintro rfl
    obtain rfl := same hj hrow
    rcases hs with hs | hs | hs <;> simp [hs]
  | @review tenantId job =>
    unfold readReview
    split
    · trivial
    · rename_i j hj
      split
      · rintro rfl
        obtain rfl := same hj hrow
        rename_i hst
        exact hst.imp_right .inl
      · trivial
  | @archive tenantId job =>
    unfold readArchive
    split
    · trivial
    · rename_i j hj
      split
      · rintro rfl
        obtain rfl := same hj hrow
        rename_i hst
        exact .inl hst
      · trivial
  | @retry tenantId actorId job docTypes =>
    unfold readRetry
    split
    · trivial
    · simp only
      split
      · split
        · split <;> trivial
        · split <;> trivial
      · trivial
  | @check req order =>
    unfold checkCreate
    split
    · trivial
    · split <;> trivial
  | @recover req =>
    unfold recoverCreate
    split <;> trivial
  | _ => trivial

end Api

section Steps

variable {I W : Type} {F : Fetcher I W} {σ τ : State W} {a : Action I} {id : Uuid} {row : Job}

/-- Every party that is between a read and its commit finds the row as it relies on. -/
structure Relied (σ : State W) : Prop where
  wellFormed : WellFormed σ
  runs : ∀ r row, σ.store.jobs.get (σ.runs r).task.jobId = some row → (σ.runs r).Relies row.status
  sessions : ∀ n id row, σ.store.jobs.get id = some row → (σ.sessions n).Relies id row.status

theorem startRun_relies (task : Task) (now : Time) (st : JobStatus) : (startRun task now).Relies st :=
  Run.relies_of_free rfl rfl (by rintro (hd | ⟨hd, -⟩) <;> cases hd) st

theorem relied_start (w : W) (now : Time) : Relied (State.start w now) where
  wellFormed := wellFormed_start w now
  runs r row hrow := by cases hrow
  sessions n id row hrow := by cases hrow

/-- What a commit of a run makes of its row. -/
theorem Relied.worker_move (h : Relied σ) {run : ℕ} {act : WorkerAct I} {e : Effect W}
    (ht : InTurn σ (.worker run act))
    (hw : workerStep F σ.now σ.store σ.outside (σ.runs run) act = some e)
    (hrow : σ.store.jobs.get (σ.runs run).task.jobId = some row) :
    StatusMove σ (σ.runs run).task.jobId (some run) row.status
      (((σ.runs run).statusWrite act).getD row.status) := by
  have hrel := h.runs run row hrow
  cases workerStep_cases F _ _ _ _ hw with
  | claim hp => exact .start (hrel.gap (by simp [Run.gap, hp])) ht
  | drain hp => exact .drained (hrel.drain (.inl hp)) ht.2
  | finish hp =>
    simp only [Run.statusWrite, Option.getD_some]
    rcases hrel.copy (by simp [hp, Phase.lastDoc]) with ⟨-, hcopy, hst⟩ | ⟨hcopy, hst⟩
    · rw [hst, hcopy]
      exact .close (resolveJobTerminalStatus_cases (by simp) _) ht.1 ht.2
    · rw [hcopy, resolveJobTerminalStatus_cancelling]
      exact .drained hst ht.2
  | _ => exact .stay

variable [PyText] {cfg : Settings}

/-- What a step makes of a row. -/
theorem Relied.move (h : Relied σ) (ht : InTurn σ a) (hs : StepCase F cfg σ a τ)
    (hrow : σ.store.jobs.get id = some row) :
    StatusMove σ id a.actor row.status (statusAfter σ id row a) := by
  cases hs with
  | @worker run act e hw =>
    simp only [statusAfter]
    split
    · rename_i hid
      subst hid
      exact h.worker_move ht hw hrow
    · exact .stay
  | @api n act e ha =>
    cases act with
    | commit =>
      have hrel := h.sessions n id row hrow
      simp only [statusAfter]
      cases hn : σ.sessions n with
      | cancelling job seen reason =>
        by_cases hid : job = id
        · subst hid
          rw [hn] at hrel
          simp only [InTurn, hn] at ht
          have hold := hrel rfl
          simp only [Session.statusWrite, if_true, Option.getD_some, cancelTarget]
          by_cases hq : seen = .queued
          · rw [if_pos hq] at hold ⊢
            exact .cancelQueued hold ht
          · rw [if_neg hq] at hold ⊢
            exact .cancelOpen hold ht
        · simpa [Session.statusWrite, hid] using .stay
      | reviewing job seen =>
        by_cases hid : job = id
        · subst hid
          rw [hn] at hrel
          simpa [Session.statusWrite] using .review (hrel rfl)
        · simpa [Session.statusWrite, hid] using .stay
      | archiving job seen =>
        by_cases hid : job = id
        · subst hid
          rw [hn] at hrel
          simp only [InTurn, hn] at ht
          simpa [Session.statusWrite] using .archive (hrel rfl) ht
        · simpa [Session.statusWrite, hid] using .stay
      | _ => exact .stay
    | _ => exact .stay
  | sweepFail =>
    simp only [statusAfter]
    by_cases hm : matchesRunning row = true
    · obtain ⟨hclear, hsole⟩ := ht id row hrow hm
      have hst : row.status = .running := (of_decide_eq_true hm).1
      rw [failRow_of_match hm, hst]
      exact .close (.inr (.inr rfl)) hclear hsole
    · rw [show failRow row = row by simp [failRow, hm]]
      exact .stay
  | _ => exact .stay

/-- A job that a party is about was there before the step. -/
theorem StepCase.before (hs : StepCase F cfg σ a τ) {j' : Job}
    (hkey : id ∈ σ.store.jobs.keys) (hj' : τ.store.jobs.get id = some j') :
    ∃ j, σ.store.jobs.get id = some j ∧ j'.status = statusAfter σ id j a := by
  obtain ⟨j, hj⟩ := (Table.mem_keys_iff _ _).mp hkey
  obtain ⟨row', hrow', hst⟩ := hs.status hj
  obtain rfl := Option.some.inj (hj'.symm.trans hrow')
  exact ⟨j, hj, hst⟩

theorem Relied.runs_step (h : Relied σ) (ht : InTurn σ a) (hs : StepCase F cfg σ a τ) (r : ℕ) {j' : Job}
    (hj' : τ.store.jobs.get (τ.runs r).task.jobId = some j') : (τ.runs r).Relies j'.status := by
  by_cases hactor : a.actor = some r
  · rcases hs.actor_cases hactor with ⟨task, heq⟩ | ⟨act, e, rfl, rfl, hw⟩
    · rw [heq]
      exact startRun_relies _ _ _
    · have hidle := live_ne_idle (workerStep_live hw)
      rw [afterWorker_runs_self] at hj' ⊢
      rw [(workerStep_task hw).1] at hj'
      obtain ⟨j, hj, hst⟩ := hs.before ((h.wellFormed.runs r hidle).mem_keys) hj'
      have hstatus : σ.status (σ.runs r).task.jobId = some j.status := by simp [State.status, hj]
      rw [hst]
      simp only [statusAfter, if_true]
      refine workerStep_relies hw hj (h.wellFormed.store.listed _ ((h.wellFormed.runs r hidle).mem_keys))
        (h.runs r j hj) ?_ ?_
      · rintro rfl
        exact ht j.status hstatus
      · rintro rfl doc hp
        exact ht ⟨doc, hp⟩ j.status hstatus
  · rw [hs.runs_other hactor] at hj' ⊢
    by_cases hidle : (σ.runs r).phase = .idle
    · exact Run.relies_of_free (by simp [Run.gap, hidle]) (by simp [Phase.lastDoc, hidle])
        (by simp [Run.toDrain, hidle]) _
    · obtain ⟨j, hj, hst⟩ := hs.before ((h.wellFormed.runs r hidle).mem_keys) hj'
      rw [hst]
      exact (h.move ht hs hj).run (fun he => hactor he.symm) rfl (h.runs r j hj)

theorem Relied.sessions_step (h : Relied σ) (ht : InTurn σ a) (hs : StepCase F cfg σ a τ) (n : ℕ)
    {j' : Job} (hj' : τ.store.jobs.get id = some j') : (τ.sessions n).Relies id j'.status := by
  -- a session that takes no step relies on what it did before
  have keep : (σ.sessions n).Relies id j'.status := by
    cases hn : σ.sessions n with
    | cancelling job seen reason | reviewing job seen | archiving job seen =>
      rintro rfl
      have hkey := h.wellFormed.sessions n
      rw [hn] at hkey
      obtain ⟨j, hj, hst⟩ := hs.before hkey hj'
      have hrel := (h.move ht hs hj).session (h.sessions n job j hj)
      rw [← hst, hn] at hrel
      exact hrel rfl
    | _ => trivial
  cases hs with
  | @api m act e ha =>
    by_cases hm : n = m
    · subst hm
      have hself : (σ.afterApi n e).sessions n = e.session := Function.update_self ..
      rw [hself]
      exact apiCase_relies ha hj'
    · have hother : (σ.afterApi m e).sessions n = σ.sessions n := Function.update_of_ne hm ..
      rw [hother]
      exact keep
  | _ => exact keep

theorem Relied.step (h : Relied σ) (ht : InTurn σ a) (hs : StepCase F cfg σ a τ) : Relied τ where
  wellFormed := hs.wellFormed h.wellFormed
  runs r _ hj := h.runs_step ht hs r hj
  sessions n _ _ hj := h.sessions_step ht hs n hj

theorem Relied.lawful (h : Relied σ) (ht : InTurn σ a) (hs : StepCase F cfg σ a τ) : Lawful σ τ := by
  intro id j j' hj hj'
  obtain ⟨row', hrow', hst⟩ := hs.status hj
  obtain rfl := Option.some.inj (hj'.symm.trans hrow')
  rw [hst]
  exact (h.move ht hs hj).declared

/-- Once settled, a job stays settled along a run under the condition. -/
theorem settled_runs {as : List (Action I)} (hσ : Relied σ) (h : Runs (step F cfg) InTurn σ as τ)
    {j : Job} (hj : σ.store.jobs.get id = some j) (hs : j.status.settled = true) :
    ∃ j', τ.store.jobs.get id = some j' ∧ j'.status.settled = true := by
  induction h generalizing j with
  | refl s => exact ⟨j, hj, hs⟩
  | @cons s a t as u hst ht _ ih =>
    have hcase := step_cases F cfg hst
    obtain ⟨j', hj', -⟩ := hcase.extends.jobs id j hj
    have hs' : j'.status.settled = true := by
      rcases hσ.lawful ht hcase id j j' hj hj' with heq | hdec
      · rwa [heq]
      · exact hdec.settled hs
    exact ih (hσ.step ht hcase) hj' hs'

/-- In every run whose steps meet the condition, every step moves job rows along
declared transitions only, and a settled job never runs again. -/
theorem lifecycle_runs {w : W} {now : Time} {as : List (Action I)}
    (h : Runs (step F cfg) InTurn (State.start w now) as σ) :
    (∀ a τ, InTurn σ a → step F cfg σ a = some τ → Lawful σ τ) ∧
      ∀ bs τ, Runs (step F cfg) InTurn σ bs τ → ∀ id j j', σ.store.jobs.get id = some j →
        j.status.settled = true → τ.store.jobs.get id = some j' → j'.status ≠ .running := by
  have hσ : Relied σ := h.invariant (I := Relied)
    (fun _ _ _ hσ ht hst => hσ.step ht (step_cases F cfg hst)) (relied_start w now)
  refine ⟨fun a τ ht hst => hσ.lawful ht (step_cases F cfg hst), ?_⟩
  intro bs τ hbs id j j' hj hs hj'
  obtain ⟨j'', hj'', hs'⟩ := settled_runs hσ hbs hj hs
  obtain rfl := Option.some.inj (hj'.symm.trans hj'')
  intro hrun
  rw [hrun] at hs'
  cases hs'

end Steps

section Concrete

open scoped PyText.Ascii

/-- Steps that meet the condition whoever is between a read and a commit. -/
def inTurnCheck (σ : State Unit) : Action Unit → Bool
  | .worker run .read =>
    (σ.status (σ.runs run).task.jobId).all fun st => !st.settled || st = .cancelled
  | .worker _ .claim | .worker _ .reread | .worker _ .drain | .worker _ .finish | .sweepFail
  | .api _ .commit => false
  | _ => true

theorem inTurn_of_check {σ : State Unit} {a : Action Unit} (h : inTurnCheck σ a = true) :
    InTurn σ a := by
  unfold inTurnCheck at h
  unfold InTurn
  split at h <;> first | cases h | skip
  · intro st hst hs
    simpa [hst, hs] using h
  · split <;> simp_all

/-- The client cancels before a worker gets to the job. -/
def askedActs : List (Action Unit) := submit ++ [.api 1 (.cancel 1 7 none)]

def askedState : State Unit := outcome (step linkFetcher {}) (State.start () 0) askedActs

def calledOffState : State Unit := outcome (step linkFetcher {}) askedState [.api 1 .commit]

/-- The worker gets the job all the same. -/
def handOver : List (Action Unit) :=
  [.deliver 0 0, .worker 0 .read, .worker 0 (.list sampleDocs)]

def cancelledState : State Unit := outcome (step linkFetcher {}) calledOffState handOver

def drainedState : State Unit := outcome (step linkFetcher {}) cancelledState [.worker 0 .drain]

theorem cancelled_job_drains :
    Lawful cancelledState drainedState ∧ ∀ j ∈ drainedState.store.jobs.get 7, j.status ≠ .running := by
  have hasked : Runs (step linkFetcher {}) InTurn (State.start () 0) askedActs askedState :=
    .of_check (b := inTurnCheck) (fun _ _ => inTurn_of_check) (by decide +kernel)
  have hcommit : step linkFetcher {} askedState (.api 1 .commit) = some calledOffState :=
    step_outcome (by decide +kernel)
  have hclear : InTurn askedState (.api 1 .commit : Action Unit) := by
    have hn : askedState.sessions 1 = .cancelling 7 .queued none := by rfl
    simp only [InTurn, hn]
    intro r _ _
    rw [runs_other hasked fun a ha => ?_]
    · exact ⟨rfl, rfl⟩
    · have hnone : a.actor = none := (by decide : ∀ a ∈ askedActs, a.actor = none) a ha
      simp [hnone]
  have hhanded : Runs (step linkFetcher {}) InTurn calledOffState handOver cancelledState :=
    .of_check (b := inTurnCheck) (fun _ _ => inTurn_of_check) (by decide +kernel)
  have hrun := hasked.append (.cons hcommit hclear hhanded)
  have hstep : step linkFetcher {} cancelledState (.worker 0 .drain) = some drainedState :=
    step_outcome (by decide +kernel)
  have hdrain : InTurn cancelledState (.worker 0 .drain : Action Unit) := by
    refine ⟨fun r hr _ => ?_, fun n seen reason hn => ?_⟩
    · have h0 : r ≠ 0 := fun he => hr (congrArg some he)
      rw [idle_of_sole hrun (by decide) h0]
      exact ⟨rfl, rfl⟩
    · by_cases h0 : n = 0
      · subst h0
        cases hn
      · by_cases h1 : n = 1
        · subst h1
          cases hn
        · rw [sessions_other hrun fun a ha act he => ?_] at hn
          · cases hn
          · subst he
            simp [askedActs, submit, handOver, h0, h1] at ha
  obtain ⟨hlaw, hsettled⟩ := lifecycle_runs hrun
  have hst : cancelledState.status 7 = some .cancelled := by decide +kernel
  obtain ⟨j, hj, hs⟩ := State.status_eq_some hst
  exact ⟨hlaw _ _ hdrain hstep, fun j' hj' =>
    hsettled _ _ (.single hstep hdrain) 7 j j' hj (hs ▸ rfl) hj'⟩

end Concrete

end JobMachine
end ResearchEngine
