import ResearchEngine.JobAccounts
import ResearchEngine.RunLength

/-! The `retry_count` of a document against the failed results that workers have committed
for it. A run counts up from its own copy of the row, so runs that overlap can lose a count,
but none is ever invented; and where no two runs on a job overlap, the count is exact. -/
namespace ResearchEngine

/-- The step commits a failed result for one document. -/
def Run.failure {I : Type} (r : Run) (d : Uuid) (act : WorkerAct I) : ℕ :=
  match act, r.phase with
  | .settle, .settling doc _ outcome => if doc = d ∧ outcomeStatus outcome = .failed then 1 else 0
  | _, _ => 0

/-- A result counts up when the document failed, and only then. -/
theorem Doc.applyOutcome_retryCount (outcome : FetchOutcome) (retries : ℕ) (stamps : Stamps) (d : Doc) :
    (d.applyOutcome outcome retries stamps).retryCount =
      if outcomeStatus outcome = .failed then retries + 1 else d.retryCount := by
  cases outcome with
  | error message => rfl
  | ok fetched =>
    simp only [Doc.applyOutcome, Doc.applyFetched, outcomeStatus]
    by_cases hup : fetched.status = .uploaded ∧ truthy fetched.fileKey = true
    · simp [hup]
    · by_cases hf : fetched.status = .failed <;> simp [hup, hf]

section RunStep

variable {I W : Type} {F : Fetcher I W} {now : Time} {s : Store} {w : W} {r : Run}
  {act : WorkerAct I} {e : Effect W} {d : Uuid}

/-- The document whose result a run commits is one it holds a copy of. -/
theorem Run.Listing.settled_copy (hl : r.Listing s) {doc : Uuid} {todo : List Uuid}
    {outcome : FetchOutcome} (hp : r.phase = .settling doc todo outcome) :
    ∃ q ∈ r.docs, q.1 = doc ∧ Run.retriesOf r.docs doc = q.2.retryCount := by
  have hmem : doc ∈ r.docIds := hl.pending.subset (by simp [hp, Phase.pending])
  obtain ⟨q, hq, rfl⟩ := List.mem_map.mp hmem
  refine ⟨q, hq, rfl, ?_⟩
  rw [Run.retriesOf_eq, Run.copyOf_of_mem (hl.docIds_nodup (by rw [hp]; rfl)) hq]
  rfl

/-- What a step of a run writes to the count of a row: one more than its own copy has when it
commits a failure, and else nothing. -/
theorem Run.Listing.docWrite_retryCount (hl : r.Listing s) (now : Time) (act : WorkerAct I)
    (d : Uuid) (row : Doc) :
    (r.failure d act = 0 ∧ (r.docWrite now act d row).retryCount = row.retryCount) ∨
      r.failure d act = 1 ∧ ∃ q ∈ r.docs, q.1 = d ∧
        (r.docWrite now act d row).retryCount = q.2.retryCount + 1 := by
  have skipped (skipped : List Uuid) (row : Doc) :
      (Run.skipRow skipped d row).retryCount = row.retryCount := by
    unfold Run.skipRow
    split <;> rfl
  have quiet (hf : r.failure d act = 0) (hrow : (r.docWrite now act d row).retryCount =
      row.retryCount) : (r.failure d act = 0 ∧ (r.docWrite now act d row).retryCount =
        row.retryCount) ∨ r.failure d act = 1 ∧ ∃ q ∈ r.docs, q.1 = d ∧
          (r.docWrite now act d row).retryCount = q.2.retryCount + 1 := .inl ⟨hf, hrow⟩
  cases act with
  | drain =>
    refine quiet rfl ?_
    cases hp : r.phase <;> simp [Run.docWrite, hp, skipped]
  | mark =>
    refine quiet rfl ?_
    cases hp : r.phase with
    | marking doc todo =>
      simp only [Run.docWrite, hp, Run.fetchingRow]
      split <;> exact skipped _ _
    | _ => simp [Run.docWrite, hp]
  | finish =>
    refine quiet rfl ?_
    cases hp : r.phase with
    | looping todo => cases todo <;> simp [Run.docWrite, hp, skipped]
    | _ => simp [Run.docWrite, hp]
  | settle =>
    cases hp : r.phase with
    | settling doc todo outcome =>
      obtain ⟨q, hq, hqd, hcopy⟩ := hl.settled_copy hp
      by_cases hd : d = doc
      · subst hd
        by_cases hf : outcomeStatus outcome = .failed
        · refine .inr ⟨by simp [Run.failure, hp, hf], q, hq, hqd, ?_⟩
          simp [Run.docWrite, hp, Run.settleRow, Doc.applyOutcome_retryCount, hf, hcopy]
        · refine .inl ⟨by simp [Run.failure, hp, hf], ?_⟩
          simp [Run.docWrite, hp, Run.settleRow, Doc.applyOutcome_retryCount, hf]
      · have hne : doc ≠ d := fun he => hd he.symm
        exact .inl ⟨by simp [Run.failure, hp, hne], by simp [Run.docWrite, hp, Run.settleRow, hd]⟩
    | _ => exact quiet (by simp [Run.failure, hp]) (by simp [Run.docWrite, hp])
  | _ => exact quiet rfl rfl

/-- Where the counts of a run's copies come from: the copies it had, one more for the document
it has just committed as failed, or the rows that it lists. -/
theorem workerStep_copies (h : workerStep F now s w r act = some e) (hl : r.Listing s)
    {p : Uuid × Doc} (hp : p ∈ e.run.docs) :
    (∃ q ∈ r.docs, q.1 = p.1 ∧ p.2.retryCount = q.2.retryCount + r.failure p.1 act) ∨
      r.failure p.1 act = 0 ∧ ∃ row, s.docs.get p.1 = some row ∧ row.jobId = r.task.jobId ∧
        p.2.retryCount = row.retryCount := by
  have updated {doc : Uuid} {f : Doc → Doc} (hf : ∀ row, (f row).retryCount = row.retryCount)
      (hp : p ∈ Run.updateDoc r.docs doc f) : ∃ q ∈ r.docs, q.1 = p.1 ∧
        p.2.retryCount = q.2.retryCount := by
    obtain ⟨q, hq, rfl⟩ := Run.mem_updateDoc.mp hp
    refine ⟨q, hq, rfl, ?_⟩
    dsimp only
    split
    · exact hf _
    · rfl
  have listed {order : List Uuid} {rows : List (Uuid × Doc)}
      (hrows : s.listForJob r.task.jobId order = some rows) {q : Uuid × Doc} (hq : q ∈ rows) :
      s.docs.get q.1 = some q.2 ∧ q.2.jobId = r.task.jobId := by
    obtain ⟨hkeys, hperm, hget⟩ := Store.listForJob_eq_some hrows
    obtain ⟨x, hx, hxq⟩ := List.mem_map.mp (hperm.mem_iff.mp (hkeys ▸ List.mem_map_of_mem hq))
    obtain ⟨hrow, hjob⟩ := (Table.mem_select_iff _ _ _ _).mp hx
    rw [hxq, hget q hq] at hrow
    rw [Option.some.inj hrow]
    exact ⟨hget q hq ▸ (Option.some.inj hrow ▸ rfl), (of_decide_eq_true hjob).1⟩
  cases workerStep_cases F now s w r h with
  | listCancelled hph hrows hc =>
    obtain ⟨q, hq, rfl⟩ := List.mem_map.mp hp
    obtain ⟨hget, hjob⟩ := listed hrows hq
    exact .inr ⟨rfl, q.2, hget, hjob, rfl⟩
  | listLive hph hrows hc =>
    obtain ⟨hget, hjob⟩ := listed hrows hp
    exact .inr ⟨rfl, p.2, hget, hjob, rfl⟩
  | enter hph hrows ho =>
    obtain ⟨q, hq, rfl⟩ := List.mem_map.mp hp
    obtain ⟨hget, hjob⟩ := listed hrows hq
    cases hc : Run.copyOf r.docs q.1 with
    | none => exact .inr ⟨rfl, q.2, hget, hjob, by simp⟩
    | some row => exact .inl ⟨(q.1, row), Run.mem_of_copyOf hc, rfl, by simp [Run.failure]⟩
  | rereadCancelled hph hj hc =>
    exact .inl (updated (f := Doc.setStatus .skipped) (fun _ => rfl) hp)
  | mark hph => exact .inl (updated (f := Doc.setStatus .fetching) (fun _ => rfl) hp)
  | @settle doc todo outcome hph =>
    obtain ⟨x, hx, hxd, hcopy⟩ := hl.settled_copy hph
    obtain ⟨q, hq, rfl⟩ := Run.mem_updateDoc.mp hp
    refine .inl ⟨q, hq, rfl, ?_⟩
    dsimp only
    by_cases hd : q.1 = doc
    · have hretries : Run.retriesOf r.docs doc = q.2.retryCount := by
        rw [Run.retriesOf_eq, ← hd, Run.copyOf_of_mem (hl.docIds_nodup (by rw [hph]; rfl)) hq]
        rfl
      by_cases hf : outcomeStatus outcome = .failed <;>
        simp [hd, hph, Run.failure, Doc.applyOutcome_retryCount, hf, hretries]
    · have hne : doc ≠ q.1 := fun he => hd he.symm
      simp [hd, hph, Run.failure, hne]
  | _ => exact .inl ⟨p, hp, rfl, rfl⟩

end RunStep

namespace JobMachine

open TransitionRuns

section Counts

variable {I W : Type}

/-- The step commits a failed result for one document. -/
def failure (d : Uuid) (σ : State W) : Action I → ℕ
  | .worker run act => (σ.runs run).failure d act
  | _ => 0

/-- A worker is handed a task only while no run is at work on the same job. -/
def Apart (σ : State W) : Action I → Prop
  | .deliver _ i => ∀ task, σ.queue[i]? = some task →
      ∀ r, (σ.runs r).phase.live = true → (σ.runs r).task.jobId ≠ task.jobId
  | _ => True

theorem Action.ofRun_eq_some {a : Action I} {run : ℕ} {act : WorkerAct I} :
    a.ofRun run = some act ↔ a = .worker run act := by
  cases a with
  | worker r act' =>
    by_cases hr : r = run <;> simp [Action.ofRun, hr]
  | _ => simp [Action.ofRun]

variable [PyText] {F : Fetcher I W} {cfg : Settings} {σ τ : State W} {a : Action I} {d : Uuid}
  {n : ℕ}

omit [PyText] in
/-- What a step writes to the count of a row. -/
theorem Listed.docWrite_retryCount (hl : Listed σ) (a : Action I) (row : Doc) :
    (failure d σ a = 0 ∧ (a.docWrite σ d row).retryCount = row.retryCount) ∨
      failure d σ a = 1 ∧ ∃ run act, a = .worker run act ∧ ∃ q ∈ (σ.runs run).docs, q.1 = d ∧
        (a.docWrite σ d row).retryCount = q.2.retryCount + 1 := by
  cases a with
  | worker run act =>
    rcases (hl run).docWrite_retryCount σ.now act d row with h | ⟨h, hq⟩
    · exact .inl h
    · exact .inr ⟨h, run, act, rfl, hq⟩
  | _ => exact .inl ⟨rfl, rfl⟩

/-- Neither a row nor a copy of one counts more failures than have been committed. -/
structure CountsBounded (d : Uuid) (n : ℕ) (σ : State W) : Prop where
  wellFormed : WellFormed σ
  listed : Listed σ
  row : ∀ row, σ.store.docs.get d = some row → row.retryCount ≤ n
  copies : ∀ run, ∀ p ∈ (σ.runs run).docs, p.1 = d → p.2.retryCount ≤ n

theorem CountsBounded.step (h : CountsBounded d n σ) (hs : StepCase F cfg σ a τ) :
    CountsBounded d (n + failure d σ a) τ := by
  refine ⟨hs.wellFormed h.wellFormed, hs.listed h.wellFormed h.listed, fun row' hrow' => ?_,
    fun run p hp hpd => ?_⟩
  · rcases hs.doc_origin hrow' with ⟨row, hrow, rfl⟩ | ⟨job, orderId, docType, -, rfl⟩
    · rcases h.listed.docWrite_retryCount a row with ⟨-, hkept⟩ | ⟨hf, run, act, -, q, hq, hqd, hmore⟩
      · rw [hkept]
        exact Nat.le_add_right_of_le (h.row row hrow)
      · rw [hmore, hf]
        exact Nat.succ_le_succ (h.copies run q hq hqd)
    · exact Nat.zero_le _
  · rcases hs.run_course run with ⟨-, heq⟩ | ⟨-, -, task, -, heq⟩ | ⟨act, e, hact, rfl, hw⟩
    · exact Nat.le_add_right_of_le (h.copies run p (heq ▸ hp) hpd)
    · rw [heq] at hp
      cases hp
    · obtain rfl := Action.ofRun_eq_some.mp hact
      rw [afterWorker_runs_self] at hp
      rcases workerStep_copies hw (h.listed run) hp with ⟨q, hq, hqp, hcount⟩ | ⟨-, row, hrow, -, hcount⟩
      · rw [hcount, hpd]
        exact Nat.add_le_add_right (h.copies run q hq (hqp.trans hpd)) _
      · rw [hcount]
        exact Nat.le_add_right_of_le (h.row row (hpd ▸ hrow))

/-- The committed `retry_count` of a document never exceeds the number of failed results that
workers have committed for it, however their runs overlap. -/
theorem retry_count_le {w : W} {now : Time} {as : List (Action I)}
    (h : Runs (step F cfg) Always (State.start w now) as σ) {row : Doc}
    (hrow : σ.store.docs.get d = some row) :
    row.retryCount ≤ total (step F cfg) (failure d) (State.start w now) as := by
  have hstart : CountsBounded d 0 (State.start w now) :=
    ⟨wellFormed_start w now, listed_start w now, (fun row hrow => by cases hrow),
      fun run p hp => by cases hp⟩
  have hend := h.counted (fun n σ a τ hn _ hst => hn.step (step_cases F cfg hst)) hstart
  rw [← Nat.zero_add (total _ _ _ _)]
  exact hend.row row hrow

end Counts

/-! Runs that do not overlap lose no count. -/

section Exact

variable [PyText] {I W : Type} {F : Fetcher I W} {cfg : Settings} {σ τ : State W} {a : Action I}
  {d : Uuid} {n : ℕ}

/-- One run at a time is at work on a job. -/
def OneAtWork (σ : State W) : Prop :=
  ∀ r r', (σ.runs r).phase.live = true → (σ.runs r').phase.live = true →
    (σ.runs r).task.jobId = (σ.runs r').task.jobId → r = r'

theorem OneAtWork.step (h : OneAtWork σ) (hs : StepCase F cfg σ a τ) (hok : Apart σ a) :
    OneAtWork τ := by
  cases hs with
  | @deliver run i task hfree htask =>
    intro r r' hr hr' hj
    have other : ∀ {k}, k ≠ run → (σ.afterDeliver run i task).runs k = σ.runs k := fun hk =>
      Function.update_of_ne hk _ _
    have self : (σ.afterDeliver run i task).runs run = startRun task σ.now := Function.update_self ..
    by_cases h₁ : r = run
    · by_cases h₂ : r' = run
      · rw [h₁, h₂]
      · rw [h₁, self, other h₂] at hj
        exact (hok task htask r' (other h₂ ▸ hr') hj.symm).elim
    · by_cases h₂ : r' = run
      · rw [h₂, self, other h₁] at hj
        exact (hok task htask r (other h₁ ▸ hr) hj).elim
      · rw [other h₁] at hr hj
        rw [other h₂] at hr' hj
        exact h r r' hr hr' hj
  | @worker run act e hw =>
    have before : ∀ r, ((σ.afterWorker run e).runs r).phase.live = true →
        (σ.runs r).phase.live = true ∧ ((σ.afterWorker run e).runs r).task = (σ.runs r).task := by
      intro r hr
      by_cases hrun : r = run
      · subst hrun
        exact ⟨workerStep_live hw, by rw [afterWorker_runs_self, (workerStep_task hw).1]⟩
      · have hkept : (σ.afterWorker run e).runs r = σ.runs r := Function.update_of_ne hrun _ _
        exact ⟨hkept ▸ hr, congrArg Run.task hkept⟩
    intro r r' hr hr' hj
    obtain ⟨hlive, htask⟩ := before r hr
    obtain ⟨hlive', htask'⟩ := before r' hr'
    exact h r r' hlive hlive' (by rwa [htask, htask'] at hj)
  | _ => exact h

/-- Row and copies of a document count the failures that have been committed. -/
structure CountsExact (d : Uuid) (n : ℕ) (σ : State W) : Prop where
  wellFormed : WellFormed σ
  listed : Listed σ
  alone : OneAtWork σ
  row : ∀ row, σ.store.docs.get d = some row → row.retryCount = n
  absent : σ.store.docs.get d = none → n = 0
  copies : ∀ run, (σ.runs run).phase.live = true → ∀ p ∈ (σ.runs run).docs, p.1 = d →
    p.2.retryCount = n ∧ ∃ row, σ.store.docs.get d = some row ∧ row.jobId = (σ.runs run).task.jobId

/-- A failure is committed by the run that is at work on the document's job. -/
theorem CountsExact.failure_of (h : CountsExact d n σ) (hs : StepCase F cfg σ a τ)
    (hf : failure d σ a ≠ 0) : ∃ run act row, a = .worker run act ∧
      (σ.runs run).phase.live = true ∧ σ.store.docs.get d = some row ∧
      row.jobId = (σ.runs run).task.jobId := by
  cases hs with
  | @worker run act e hw =>
    have hlive := workerStep_live hw
    rcases (h.listed run).docWrite_retryCount σ.now act d
      (newDoc 0 0 0 .parcelRecord) with ⟨hzero, -⟩ | ⟨-, q, hq, hqd, -⟩
    · exact (hf hzero).elim
    · obtain ⟨-, row, hrow, hjob⟩ := h.copies run hlive q hq hqd
      exact ⟨run, act, row, rfl, hlive, hrow, hjob⟩
  | _ => exact (hf rfl).elim

theorem CountsExact.step (h : CountsExact d n σ) (hs : StepCase F cfg σ a τ) (hok : Apart σ a) :
    CountsExact d (n + failure d σ a) τ := by
  have quiet (hnone : σ.store.docs.get d = none) : failure d σ a = 0 := by
    by_contra hf
    obtain ⟨-, -, row, -, -, hrow, -⟩ := h.failure_of hs hf
    rw [hnone] at hrow
    cases hrow
  -- the row that a copy stands for is still there after the step
  have persists {run : ℕ} (htask : (τ.runs run).task = (σ.runs run).task)
      (hrow : ∃ row, σ.store.docs.get d = some row ∧ row.jobId = (σ.runs run).task.jobId) :
      ∃ row, τ.store.docs.get d = some row ∧ row.jobId = (τ.runs run).task.jobId := by
    obtain ⟨row, hrow, hjob⟩ := hrow
    obtain ⟨row', hrow', hsame⟩ := hs.extends.docs d row hrow
    exact ⟨row', hrow', by rw [hsame.jobId, htask, hjob]⟩
  refine ⟨hs.wellFormed h.wellFormed, hs.listed h.wellFormed h.listed, h.alone.step hs hok,
    fun row' hrow' => ?_, fun hnone => ?_, fun run hlive p hp hpd => ?_⟩
  · cases hrow : σ.store.docs.get d with
    | none =>
      rw [quiet hrow, h.absent hrow]
      rcases hs.doc_origin hrow' with ⟨row, hrow'', -⟩ | ⟨job, orderId, docType, -, rfl⟩
      · rw [hrow] at hrow''
        cases hrow''
      · rfl
    | some row =>
      obtain rfl := Option.some.inj (hrow'.symm.trans (hs.doc hrow))
      rcases h.listed.docWrite_retryCount (d := d) a row with ⟨hf, hkept⟩ |
        ⟨hf, run, act, rfl, q, hq, hqd, hmore⟩
      · rw [hkept, hf, h.row row hrow, Nat.add_zero]
      · cases hs with
        | worker hw => rw [hmore, hf, (h.copies run (workerStep_live hw) q hq hqd).1]
  · have hbefore : σ.store.docs.get d = none := by
      by_contra hsome
      obtain ⟨row, hrow⟩ := Option.ne_none_iff_exists'.mp hsome
      obtain ⟨row', hrow', -⟩ := hs.extends.docs d row hrow
      rw [hnone] at hrow'
      cases hrow'
    rw [quiet hbefore, h.absent hbefore]
  · rcases hs.run_course run with ⟨hact, heq⟩ | ⟨-, -, task, -, heq⟩ | ⟨act, e, hact, rfl, hw⟩
    · obtain ⟨hcount, hrow⟩ := h.copies run (heq ▸ hlive) p (heq ▸ hp) hpd
      refine ⟨?_, persists (congrArg Run.task heq) hrow⟩
      have hzero : failure d σ a = 0 := by
        by_contra hf
        obtain ⟨run', act, row', rfl, hlive', hrow', hjob'⟩ := h.failure_of hs hf
        obtain ⟨row, hrow, hjob⟩ := hrow
        obtain rfl := Option.some.inj (hrow.symm.trans hrow')
        obtain rfl := h.alone run run' (heq ▸ hlive) hlive' (hjob.symm.trans hjob')
        rw [Action.ofRun_eq_some.mpr rfl] at hact
        cases hact
      rw [hcount, hzero]
      rfl
    · rw [heq] at hp
      cases hp
    · obtain rfl := Action.ofRun_eq_some.mp hact
      have hbefore := workerStep_live hw
      have htask : ((σ.afterWorker run e).runs run).task = (σ.runs run).task := by
        rw [afterWorker_runs_self, (workerStep_task hw).1]
      rw [afterWorker_runs_self] at hp
      rcases workerStep_copies hw (h.listed run) hp with ⟨q, hq, hqp, hcount⟩ |
        ⟨hf, row, hrow, hjob, hcount⟩
      · obtain ⟨hn, hrow⟩ := h.copies run hbefore q hq (hqp.trans hpd)
        refine ⟨?_, persists htask hrow⟩
        rw [hcount, hpd, hn]
        rfl
      · rw [hpd] at hf hrow
        refine ⟨?_, persists htask ⟨row, hrow, hjob⟩⟩
        rw [hcount, h.row row hrow]
        simp only [failure, hf, Nat.add_zero]

/-- Where no two runs at work on one job overlap, the committed `retry_count` of a document is
exactly the number of failed results that workers have committed for it, over all their
crashes, retries and redeliveries. -/
theorem retry_count_exact {w : W} {now : Time} {as : List (Action I)}
    (h : Runs (step F cfg) Apart (State.start w now) as σ) {row : Doc}
    (hrow : σ.store.docs.get d = some row) :
    row.retryCount = total (step F cfg) (failure d) (State.start w now) as := by
  have hstart : CountsExact d 0 (State.start w now) :=
    ⟨wellFormed_start w now, listed_start w now, (fun r _ hr => by cases hr),
      (fun row hrow => by cases hrow), fun _ => rfl, fun run hr => by cases hr⟩
  have hend := h.counted (fun n σ a τ hn hok hst => hn.step (step_cases F cfg hst) hok) hstart
  rw [← Nat.zero_add (total _ _ _ _)]
  exact hend.row row hrow

end Exact

section Concrete

open scoped PyText.Ascii

/-- A fetcher whose sources are all down. -/
def downFetcher : Fetcher Unit Unit := fun _ _ w => (.error "down", w)

/-- A worker on its way to the first document of job 7. -/
def enterActs (run : ℕ) : List (Action Unit) :=
  [.worker run .read, .worker run (.list sampleDocs), .worker run .claim,
    .worker run (.enter sampleDocs (some sampleOrder))]

/-- The broker hands the task out twice, and both workers fail at the first document. -/
def overlappingRun : List (Action Unit) :=
  submit ++ [.deliver 0 0, .redeliver 0, .deliver 1 0] ++ enterActs 0 ++ enterActs 1 ++
    research 0 () ++ research 1 ()

def overlappedState : State Unit := outcome (step downFetcher {}) (State.start () 0) overlappingRun

theorem overlapping_count : ∃ row, overlappedState.store.docs.get 10 = some row ∧
    row.retryCount = 1 ∧
    total (step downFetcher {}) (failure 10) (State.start () 0) overlappingRun = 2 ∧
    row.retryCount ≤ total (step downFetcher {}) (failure 10) (State.start () 0) overlappingRun := by
  have hcount : (overlappedState.store.docs.get 10).map Doc.retryCount = some 1 := by decide +kernel
  obtain ⟨row, hrow, hone⟩ := Option.map_eq_some_iff.mp hcount
  exact ⟨row, hrow, hone, by decide +kernel,
    retry_count_le (.of_exec (exec_outcome (by decide +kernel))) hrow⟩

def noDeliver : Action Unit → Bool
  | .deliver _ _ => false
  | _ => true

theorem apart_of_noDeliver {σ : State Unit} {a : Action Unit} (h : noDeliver a = true) :
    Apart σ a := by
  cases a with
  | deliver run i => cases h
  | _ => trivial

theorem apart_of_rest {σ : State Unit} (h : ∀ r, (σ.runs r).phase.live = false) (run i : ℕ) :
    Apart σ (.deliver run i : Action Unit) := fun _ _ r hr => by
  rw [h r] at hr
  cases hr

/-- The worker fails at the first document and is killed; the broker hands the task to another,
which fails as well. -/
def firstFailure : List (Action Unit) := enterActs 0 ++ research 0 () ++ [.worker 0 (.lose true)]

def secondFailure : List (Action Unit) := enterActs 1 ++ research 1 ()

def pendingState : State Unit := outcome (step downFetcher {}) (State.start () 0) submit

def takenState : State Unit := outcome (step downFetcher {}) pendingState [.deliver 0 0]

def failedState : State Unit := outcome (step downFetcher {}) takenState firstFailure

def retakenState : State Unit := outcome (step downFetcher {}) failedState [.deliver 1 0]

theorem repeated_failure_count : ∃ row,
    (outcome (step downFetcher {}) retakenState secondFailure).store.docs.get 10 = some row ∧
    row.retryCount = 2 ∧ row.retryCount = total (step downFetcher {}) (failure 10) (State.start () 0)
      (submit ++ .deliver 0 0 :: firstFailure ++ .deliver 1 0 :: secondFailure) := by
  have hpending : Runs (step downFetcher {}) Apart (State.start () 0) submit pendingState :=
    .of_check (b := fun _ => noDeliver) (fun _ _ => apart_of_noDeliver) (by decide +kernel)
  have hidle : ∀ r, (pendingState.runs r).phase.live = false := fun r => by
    by_cases h0 : r = 0
    · subst h0
      decide +kernel
    · rw [idle_of_sole hpending (by decide) h0]
      rfl
  have hfirst : Runs (step downFetcher {}) Apart takenState firstFailure failedState :=
    .of_check (b := fun _ => noDeliver) (fun _ _ => apart_of_noDeliver) (by decide +kernel)
  have hfailed := hpending.append (.cons (step_outcome (by decide +kernel))
    (apart_of_rest hidle 0 0) hfirst)
  have hrest : ∀ r, (failedState.runs r).phase.live = false := fun r => by
    by_cases h0 : r = 0
    · subst h0
      decide +kernel
    · rw [idle_of_sole hfailed (by decide) h0]
      rfl
  have hsecond : Runs (step downFetcher {}) Apart retakenState secondFailure
      (outcome (step downFetcher {}) retakenState secondFailure) :=
    .of_check (b := fun _ => noDeliver) (fun _ _ => apart_of_noDeliver) (by decide +kernel)
  have hrun := hfailed.append (.cons (step_outcome (by decide +kernel)) (apart_of_rest hrest 1 0)
    hsecond)
  have hcount : ((outcome (step downFetcher {}) retakenState secondFailure).store.docs.get 10).map
      Doc.retryCount = some 2 := by decide +kernel
  obtain ⟨row, hrow, htwo⟩ := Option.map_eq_some_iff.mp hcount
  exact ⟨row, hrow, htwo, retry_count_exact hrun hrow⟩

end Concrete
end JobMachine
end ResearchEngine
