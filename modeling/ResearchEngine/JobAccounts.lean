import ResearchEngine.SettledDocuments
import ResearchEngine.DocumentCall
import ResearchEngine.EvidenceGrowth

/-! What the row of a terminal job says about its documents, and how a run that is
alone at work on the job comes to leave the two in agreement. -/
namespace ResearchEngine

/-- The statuses in which a job has come to rest. -/
def JobStatus.terminal : JobStatus → Bool
  | .completed | .partialResult | .failed | .cancelled => true
  | _ => false

/-- The non-deleted documents of a job. -/
def Store.docsOf (s : Store) (job : Uuid) : List Doc := (s.docsForJob job).map Prod.snd

/-- The status and completion time of a terminal job against its documents. -/
structure TerminalAgrees (docs : List Doc) (j : Job) : Prop where
  completedAt : j.completedAt ≠ none
  settled : ∀ d ∈ docs, d.status.settled = true
  completed : j.status = .completed → ∀ d ∈ docs, d.status ≠ .failed
  partially : j.status = .partialResult →
    (∃ d ∈ docs, d.status = .failed) ∧ ∃ d ∈ docs, d.status = .fetched ∨ d.status = .uploaded
  failed : j.status = .failed → ∃ d ∈ docs, d.status = .failed

/-- The counters of a terminal job against its documents. -/
structure CountersAgree (docs : List Doc) (j : Job) : Prop where
  recomputed : recalcJobCounters docs j = j
  total : j.fetchedDocuments + j.failedDocuments + j.cancelledDocuments = j.totalDocuments
  uploaded : j.uploadedDocuments ≤ j.fetchedDocuments

structure Agrees (docs : List Doc) (j : Job) : Prop where
  terminal : TerminalAgrees docs j
  counters : CountersAgree docs j

section Statuses

variable {docs docs' : List Doc}

/-- The counters look at the statuses of the documents only. -/
theorem countP_status (p : DocStatus → Bool) (docs : List Doc) :
    (docs.countP fun d => p d.status) = (docs.map Doc.status).countP p := by
  rw [List.countP_map]
  rfl

theorem countP_congr (h : (docs.map Doc.status).Perm (docs'.map Doc.status))
    (p : DocStatus → Bool) : (docs.countP fun d => p d.status) = docs'.countP fun d => p d.status := by
  rw [countP_status, countP_status, h.countP_eq]

theorem recalcJobCounters_congr (h : (docs.map Doc.status).Perm (docs'.map Doc.status)) (j : Job) :
    recalcJobCounters docs j = recalcJobCounters docs' j := by
  have hlen : docs.length = docs'.length := by simpa using h.length_eq
  simp only [recalcJobCounters, hlen,
    countP_congr h fun st => decide (st = .fetched ∨ st = .uploaded),
    countP_congr h fun st => decide (st = .uploaded), countP_congr h fun st => decide (st = .failed),
    countP_congr h fun st => decide (st = .skipped)]

theorem exists_status (h : (docs.map Doc.status).Perm (docs'.map Doc.status))
    {p : DocStatus → Prop} (he : ∃ d ∈ docs, p d.status) : ∃ d ∈ docs', p d.status := by
  obtain ⟨d, hd, hp⟩ := he
  obtain ⟨d', hd', hst⟩ := List.mem_map.mp (h.mem_iff.mp (List.mem_map_of_mem hd))
  exact ⟨d', hd', hst ▸ hp⟩

/-- Agreement is a matter of the statuses of the documents. -/
theorem Agrees.congr (h : (docs.map Doc.status).Perm (docs'.map Doc.status)) {j : Job}
    (ha : Agrees docs j) : Agrees docs' j where
  terminal :=
    { completedAt := ha.terminal.completedAt
      settled := fun d hd => by
        obtain ⟨d', hd', hst⟩ := exists_status h.symm (p := (· = d.status)) ⟨d, hd, rfl⟩
        exact hst ▸ ha.terminal.settled d' hd'
      completed := fun hj d hd hf => by
        obtain ⟨d', hd', hst⟩ := exists_status h.symm (p := (· = .failed)) ⟨d, hd, hf⟩
        exact ha.terminal.completed hj d' hd' hst
      partially := fun hj =>
        ⟨exists_status h (p := (· = .failed)) (ha.terminal.partially hj).1,
          exists_status h (p := fun st => st = .fetched ∨ st = .uploaded)
            (ha.terminal.partially hj).2⟩
      failed := fun hj => exists_status h (p := (· = .failed)) (ha.terminal.failed hj) }
  counters :=
    { recomputed := (recalcJobCounters_congr h j).symm.trans ha.counters.recomputed
      total := ha.counters.total
      uploaded := ha.counters.uploaded }

/-- Settled documents are fetched, failed or skipped. -/
theorem counts_of_settled (h : ∀ d ∈ docs, d.status.settled = true) :
    (docs.countP fun d => d.status = .fetched ∨ d.status = .uploaded) +
      (docs.countP fun d => d.status = .failed) + (docs.countP fun d => d.status = .skipped) =
        docs.length := by
  induction docs with
  | nil => rfl
  | cons d docs ih =>
    have hd := h d List.mem_cons_self
    have hrest := ih fun d' hd' => h d' (List.mem_cons_of_mem _ hd')
    cases hst : d.status with
    | queued | fetching | uploading => rw [hst] at hd; cases hd
    | _ =>
      simp only [Bool.decide_or] at hrest
      simp [hst]
      omega

/-- A run that ends its job in another status than `cancelled` did not see `cancelling`. -/
theorem resolves_of_eq {st status : JobStatus} (h : resolveJobTerminalStatus st docs = status)
    (hne : status ≠ .cancelled) : Resolves docs status := by
  refine h ▸ resolveJobTerminalStatus_resolves (fun hst => hne ?_) docs
  rw [← h, hst, resolveJobTerminalStatus_cancelling]

theorem resolve_completed {st : JobStatus} (h : resolveJobTerminalStatus st docs = .completed) :
    ∀ d ∈ docs, d.status ≠ .failed := by
  cases resolves_of_eq h (by decide) with
  | completed h => exact h

theorem resolve_failed {st : JobStatus} (h : resolveJobTerminalStatus st docs = .failed)
    (hne : docs ≠ []) : ∃ d ∈ docs, d.status = .failed := by
  cases resolves_of_eq h (by decide) with
  | empty h => exact (hne h).elim
  | failed h => exact h

theorem resolve_partial {st : JobStatus} (h : resolveJobTerminalStatus st docs = .partialResult)
    (hset : ∀ d ∈ docs, d.status.settled = true) :
    (∃ d ∈ docs, d.status = .failed) ∧ ∃ d ∈ docs, d.status = .fetched ∨ d.status = .uploaded := by
  cases resolves_of_eq h (by decide) with
  | mixed h hok =>
    have hcounts := counts_of_settled hset
    have hpos : 0 < docs.countP fun d => d.status = .fetched ∨ d.status = .uploaded := by omega
    obtain ⟨d, hd, hst⟩ := List.countP_pos_iff.mp hpos
    exact ⟨h, d, hd, of_decide_eq_true hst⟩

theorem countersAgree_of_settled {j : Job} (hset : ∀ d ∈ docs, d.status.settled = true)
    (hre : recalcJobCounters docs j = j) : CountersAgree docs j where
  recomputed := hre
  total := by
    have hcounts := counts_of_settled hset
    rw [← hre]
    simp only [recalcJobCounters]
    omega
  uploaded := by
    rw [← hre]
    refine List.countP_mono_left fun d _ hd => ?_
    exact decide_eq_true (Or.inr (of_decide_eq_true hd))

/-- Once every document is settled, the last commit of a run makes row and documents agree. -/
theorem agrees_of_settled {j : Job} {st : JobStatus} (hset : ∀ d ∈ docs, d.status.settled = true)
    (hne : docs ≠ []) (hc : j.completedAt ≠ none) (hre : recalcJobCounters docs j = j)
    (hst : j.status = resolveJobTerminalStatus st docs) : Agrees docs j where
  terminal :=
    { completedAt := hc
      settled := hset
      completed := fun h => resolve_completed (hst.symm.trans h)
      partially := fun h => resolve_partial (hst.symm.trans h) hset
      failed := fun h => resolve_failed (hst.symm.trans h) hne }
  counters := countersAgree_of_settled hset hre

end Statuses

/-! The copies of a run that nobody disturbs. -/

/-- The status a document gets from the outcome of its call. -/
def outcomeStatus : FetchOutcome → DocStatus
  | .ok fetched => fetched.status
  | .error _ => .failed

@[simp] theorem Doc.applyOutcome_status (outcome : FetchOutcome) (retries : ℕ) (stamps : Stamps)
    (d : Doc) : (d.applyOutcome outcome retries stamps).status = outcomeStatus outcome := by
  cases outcome with
  | error message => rfl
  | ok fetched =>
    simp only [Doc.applyOutcome, Doc.applyFetched, outcomeStatus]
    split
    · rfl
    · split <;> rfl

/-- A fetcher that settles every document it answers for. -/
def Settles {I W : Type} (F : Fetcher I W) : Prop :=
  ∀ input call w, (outcomeStatus (F input call w).1).settled = true

/-- Between the first listing and the last commit of a run that does not drain. -/
def Phase.tracking : Phase → Bool
  | .claiming | .claimed | .looping _ | .marking _ _ | .calling _ _ | .awaiting _ _
  | .settling _ _ _ => true
  | _ => false

/-- The outcome that a run is about to commit settles its document. -/
def Phase.answered : Phase → Bool
  | .settling _ _ outcome => (outcomeStatus outcome).settled
  | _ => true

/-- In the loop over the documents. -/
def Phase.inLoop : Phase → Bool
  | .looping _ | .marking _ _ | .calling _ _ | .awaiting _ _ | .settling _ _ _ => true
  | _ => false

namespace Run

/-- The session's copies against the rows: they agree up to the pending `skipped` flags,
and the documents that are no longer pending are settled. -/
structure Accounts (s : Store) (r : Run) : Prop where
  copies : r.phase.tracking = true → ∀ p ∈ r.docs, ∃ row, s.docs.get p.1 = some row ∧
    p.2.status = if p.1 ∈ r.skipped then .skipped else row.status
  draining : r.phase = .draining → ∀ p ∈ r.docs, p.2.status = .skipped
  done : r.phase.inLoop = true → ∀ p ∈ r.docs, p.1 ∉ r.phase.pending → p.2.status.settled = true
  answer : r.phase.answered = true

theorem Accounts.idle {s : Store} {r : Run} (ht : r.phase.tracking = false)
    (hd : r.phase ≠ .draining) : r.Accounts s where
  copies h := by
    rw [ht] at h
    cases h
  draining h := (hd h).elim
  done h := by
    unfold Phase.inLoop at h
    split at h <;> simp_all [Phase.tracking]
  answer := by
    unfold Phase.answered
    split
    · simp_all [Phase.tracking]
    · rfl

theorem mem_updateDoc {docs : List (Uuid × Doc)} {doc : Uuid} {f : Doc → Doc} {p : Uuid × Doc} :
    p ∈ updateDoc docs doc f ↔ ∃ q ∈ docs, p = (q.1, if q.1 = doc then f q.2 else q.2) := by
  simp only [updateDoc, List.mem_map]
  refine exists_congr fun q => and_congr_right fun _ => ?_
  split <;> exact eq_comm

end Run

section RunStep

variable {I W : Type} {F : Fetcher I W} {now : Time} {s : Store} {w : W} {r : Run}
  {act : WorkerAct I} {e : Effect W}

/-- The second listing keeps the copies of the first. -/
theorem enterLoop_accounts (hl : r.Listing s) (ha : r.Accounts s) (hp : r.phase = .claimed)
    {listing : List Uuid} {rows : List (Uuid × Doc)} {order : Option OrderData}
    (hlist : s.listForJob r.task.jobId listing = some rows) :
    (enterLoop s w r rows order).run.Accounts s := by
  obtain ⟨hkeys, hperm, -⟩ := Store.listForJob_eq_some hlist
  have hids : r.docIds.Perm (s.docKeys r.task.jobId) := hl.keys (by rw [hp]; rfl)
  refine ⟨fun _ p hmem => ?_, (fun h => by cases h), fun _ p hmem hnot => ?_, rfl⟩
  · obtain ⟨q, hq, rfl⟩ := List.mem_map.mp hmem
    have hid : q.1 ∈ r.docIds := by
      rw [hids.mem_iff, Store.docKeys, ← hperm.mem_iff, ← hkeys]
      exact List.mem_map_of_mem hq
    obtain ⟨c, hc⟩ := Run.copyOf_isSome hid
    obtain ⟨row, hrow, hst⟩ := ha.copies (by rw [hp]; rfl) _ (Run.mem_of_copyOf hc)
    refine ⟨row, hrow, ?_⟩
    rw [hc]
    exact hst
  · refine (hnot ?_).elim
    obtain ⟨q, hq, rfl⟩ := List.mem_map.mp hmem
    exact List.mem_map.mpr ⟨q, hq, rfl⟩

/-- A skipped document is settled in the session before it is in the store. -/
theorem rereadCancelled_accounts (ha : r.Accounts s) {doc : Uuid} {todo : List Uuid}
    (hp : r.phase = .looping (doc :: todo)) (j : Job) :
    Run.Accounts s { r with
      job := j
      docs := Run.updateDoc r.docs doc (Doc.setStatus .skipped)
      skipped := doc :: r.skipped
      phase := .looping todo } := by
  refine ⟨fun _ p hmem => ?_, (fun h => by cases h), fun _ p hmem hnot => ?_, rfl⟩
  · obtain ⟨q, hq, rfl⟩ := Run.mem_updateDoc.mp hmem
    obtain ⟨row, hrow, hst⟩ := ha.copies (by rw [hp]; rfl) q hq
    refine ⟨row, hrow, ?_⟩
    by_cases hdoc : q.1 = doc
    · simp [hdoc, Doc.setStatus]
    · simpa [hdoc] using hst
  · obtain ⟨q, hq, rfl⟩ := Run.mem_updateDoc.mp hmem
    by_cases hdoc : q.1 = doc
    · simp [hdoc, Doc.setStatus, DocStatus.settled]
    · have hpend : q.1 ∉ r.phase.pending := by
        rw [hp]
        simpa [Phase.pending, hdoc] using hnot
      simpa [hdoc] using ha.done (by rw [hp]; rfl) q hq hpend

/-- The `fetching` commit takes the skipped flags with it. -/
theorem markFetching_accounts (ha : r.Accounts s) {doc : Uuid} {todo : List Uuid}
    (hp : r.phase = .marking doc todo) :
    (markFetching s w r doc todo).run.Accounts (markFetching s w r doc todo).store := by
  refine ⟨fun _ p hmem => ?_, (fun h => by cases h), fun _ p hmem hnot => ?_, rfl⟩
  · obtain ⟨q, hq, rfl⟩ := Run.mem_updateDoc.mp hmem
    obtain ⟨row, hrow, hst⟩ := ha.copies (by rw [hp]; rfl) q hq
    refine ⟨Run.fetchingRow doc q.1 (Run.skipRow r.skipped q.1 row), ?_, ?_⟩
    · simp [markFetching, Run.flushSkipped, hrow]
    · by_cases hdoc : q.1 = doc
      · simp [Run.fetchingRow, markFetching, hdoc, Doc.setStatus]
      · by_cases hskip : q.1 ∈ r.skipped
        · simpa [Run.fetchingRow, Run.skipRow, markFetching, hdoc, hskip, Doc.setStatus] using hst
        · simpa [Run.fetchingRow, Run.skipRow, markFetching, hdoc, hskip] using hst
  · obtain ⟨q, hq, rfl⟩ := Run.mem_updateDoc.mp hmem
    have hpend : q.1 ∉ doc :: todo := hnot
    have hdoc : q.1 ≠ doc := fun he => hpend (he ▸ List.mem_cons_self)
    simpa [hdoc] using ha.done (by rw [hp]; rfl) q hq (by rw [hp]; exact hpend)

/-- The result commit settles its document in both. -/
theorem settleDoc_accounts (hl : r.Listing s) (ha : r.Accounts s) {doc : Uuid}
    {todo : List Uuid} {outcome : FetchOutcome} (hp : r.phase = .settling doc todo outcome) :
    (settleDoc now s w r doc todo outcome).run.Accounts
      (settleDoc now s w r doc todo outcome).store := by
  have hskip : doc ∉ r.skipped := fun hmem => (hl.skipped doc hmem).2 (by
    rw [hp]
    exact List.mem_cons_self)
  refine ⟨fun _ p hmem => ?_, (fun h => by cases h), fun _ p hmem hnot => ?_, rfl⟩
  · obtain ⟨q, hq, rfl⟩ := Run.mem_updateDoc.mp hmem
    obtain ⟨row, hrow, hst⟩ := ha.copies (by rw [hp]; rfl) q hq
    refine ⟨r.settleRow now doc outcome q.1 row, by simp [settleDoc, hrow], ?_⟩
    simp only [Run.settleRow, settleDoc]
    by_cases hdoc : q.1 = doc
    · simp [hdoc, hskip]
    · simpa [hdoc] using hst
  · obtain ⟨q, hq, rfl⟩ := Run.mem_updateDoc.mp hmem
    by_cases hdoc : q.1 = doc
    · have hanswer := ha.answer
      rw [hp] at hanswer
      simp only [hdoc, if_true, Doc.applyOutcome_status]
      exact hanswer
    · have hpend : q.1 ∉ r.phase.pending := by
        rw [hp]
        exact List.not_mem_cons_of_ne_of_not_mem hdoc hnot
      simpa [hdoc] using ha.done (by rw [hp]; rfl) q hq hpend

theorem workerStep_accounts (h : workerStep F now s w r act = some e) (hF : Settles F)
    (hl : r.Listing s) (ha : r.Accounts s) : e.run.Accounts e.store := by
  -- the run only moves on in its phase, with the same documents pending
  have move : ∀ {p : Phase}, r.phase.tracking = true → p.pending = r.phase.pending →
      r.phase.inLoop = true → p ≠ .draining → p.answered = true →
      ∀ j t, Run.Accounts s { r with job := j, fetchedAt := t, phase := p } := by
    intro p ht hpend hloop hne hans j t
    exact ⟨fun _ => ha.copies ht, fun h => (hne h).elim,
      fun _ q hq hnot => ha.done hloop q hq (by rwa [← hpend]), hans⟩
  cases workerStep_cases F now s w r h with
  | listCancelled hp hlist hc =>
    refine ⟨(fun h => by cases h), fun _ p hp => ?_, (fun h => by cases h), rfl⟩
    obtain ⟨q, -, rfl⟩ := List.mem_map.mp hp
    rfl
  | @listLive order rows hp hlist hc =>
    obtain ⟨-, -, hget⟩ := Store.listForJob_eq_some hlist
    have hskip : r.skipped = [] := hl.early (by rw [hp]; rfl)
    refine ⟨fun _ p hp => ⟨p.2, hget p hp, by simp [hskip]⟩, (fun h => by cases h),
      (fun h => by cases h), rfl⟩
  | claim hp =>
    exact ⟨fun _ => ha.copies (by rw [hp]; rfl), (fun h => by cases h), (fun h => by cases h), rfl⟩
  | enter hp hlist ho => exact enterLoop_accounts hl ha hp hlist
  | rereadCancelled hp hj hc => exact rereadCancelled_accounts ha hp _
  | rereadLive hp hj hc =>
    exact move (by rw [hp]; rfl) (by rw [hp]; rfl) (by rw [hp]; rfl) (by simp) rfl _ _
  | mark hp => exact markFetching_accounts ha hp
  | call hp => exact move (by rw [hp]; rfl) (by rw [hp]; rfl) (by rw [hp]; rfl) (by simp) rfl _ _
  | receive hp hd =>
    refine move (by rw [hp]; rfl) (by rw [hp]; rfl) (by rw [hp]; rfl) (by simp) ?_ _ _
    exact hF _ _ _
  | settle hp => exact settleDoc_accounts hl ha hp
  | finish hp =>
    by_cases hcb : truthy r.job.callbackUrl = true
    · exact .idle (by simp [finishJob, hcb, Phase.tracking]) (by simp [finishJob, hcb])
    · exact .idle (by simp [finishJob, hcb, Phase.tracking]) (by simp [finishJob, hcb])
  | _ => exact .idle rfl (by rintro ⟨⟩)

/-- Past its `running` commit and before its last one. -/
def Run.working (r : Run) : Bool :=
  match r.phase with
  | .claimed => true
  | p => p.inLoop

theorem workerStep_working (h : workerStep F now s w r act = some e) (he : e.run.working = true) :
    r.statusWrite act = some .running ∨ (r.working = true ∧ r.statusWrite act = none) := by
  cases workerStep_cases F now s w r h with
  | claim hp => exact Or.inl rfl
  | enter hp hl ho => exact Or.inr ⟨by simp [Run.working, hp], rfl⟩
  | rereadCancelled hp hj hc => exact Or.inr ⟨by simp [Run.working, hp, Phase.inLoop], rfl⟩
  | rereadLive hp hj hc => exact Or.inr ⟨by simp [Run.working, hp, Phase.inLoop], rfl⟩
  | mark hp => exact Or.inr ⟨by simp [Run.working, hp, Phase.inLoop], rfl⟩
  | call hp => exact Or.inr ⟨by simp [Run.working, hp, Phase.inLoop], rfl⟩
  | receive hp hd => exact Or.inr ⟨by simp [Run.working, hp, Phase.inLoop], rfl⟩
  | settle hp => exact Or.inr ⟨by simp [Run.working, hp, Phase.inLoop], rfl⟩
  | finish hp =>
    by_cases hcb : truthy r.job.callbackUrl = true <;>
      simp [Run.working, finishJob, hcb, Phase.inLoop] at he
  | _ => cases he

theorem Run.working_engaged {r : Run} (h : r.working = true) : r.engaged = true := by
  unfold Run.working Phase.inLoop at h
  unfold Run.engaged
  split at h <;> simp_all
  split at h <;> simp_all

/-- The only runs that write a status are at work on the job. -/
theorem workerStep_statusWrite (h : workerStep F now s w r act = some e) {st : JobStatus}
    (hst : r.statusWrite act = some st) : r.engaged = true ∧ (st.terminal = true → e.run.engaged = false) := by
  cases workerStep_cases F now s w r h with
  | drain hp => exact ⟨by simp [Run.engaged, hp], fun _ => rfl⟩
  | claim hp =>
    obtain rfl := Option.some.inj hst
    exact ⟨by simp [Run.engaged, hp], fun ht => by cases ht⟩
  | finish hp =>
    refine ⟨by simp [Run.engaged, hp], fun _ => ?_⟩
    by_cases hcb : truthy r.job.callbackUrl = true <;> simp [Run.engaged, finishJob, hcb]
  | _ => cases hst

/-- A step that commits no status leaves the row, up to the delivery mark. -/
theorem workerStep_row_kept (h : workerStep F now s w r act = some e)
    (hst : r.statusWrite act = none) {j' : Job} (hj' : e.store.jobs.get r.task.jobId = some j') :
    ∃ j, s.jobs.get r.task.jobId = some j ∧ ∃ b, j' = { j with callbackDelivered := b } := by
  cases workerStep_cases F now s w r h with
  | drain hp => cases hst
  | claim hp => cases hst
  | finish hp => cases hst
  | @notify delivered hp =>
    cases delivered with
    | false => exact ⟨j', hj', j'.callbackDelivered, rfl⟩
    | true =>
      obtain ⟨j, hj, rfl⟩ : ∃ j, s.jobs.get r.task.jobId = some j ∧
          { j with callbackDelivered := true } = j' := by
        simpa [notifyCallback] using hj'
      exact ⟨j, hj, true, rfl⟩
  | _ => exact ⟨j', hj', j'.callbackDelivered, rfl⟩

/-- Outside the loop, only a last commit touches documents. -/
theorem workerStep_docs_kept (h : workerStep F now s w r act = some e)
    (hst : r.statusWrite act = none) (hloop : r.working = false) (d : Uuid) (row : Doc) :
    r.docWrite now act d row = row := by
  cases workerStep_cases F now s w r h with
  | drain hp => cases hst
  | finish hp => cases hst
  | mark hp => simp [Run.working, hp, Phase.inLoop] at hloop
  | settle hp => simp [Run.working, hp, Phase.inLoop] at hloop
  | _ => rfl

/-- Two listings of a job's documents with the same statuses. -/
theorem statuses_perm {job : Uuid} {docs : List (Uuid × Doc)}
    (hkeys : (docs.map Prod.fst).Perm (s.docKeys job))
    (hst : ∀ p ∈ docs, ∃ row, s.docs.get p.1 = some row ∧ row.status = p.2.status) :
    ((docs.map Prod.snd).map Doc.status).Perm ((s.docsOf job).map Doc.status) := by
  let key : Uuid × Doc → Uuid × DocStatus := fun p => (p.1, p.2.status)
  have hfst : ∀ l : List (Uuid × Doc), (l.map key).map Prod.fst = l.map Prod.fst := fun l => by
    simp [key, List.map_map, Function.comp_def]
  have hsnd : ∀ l : List (Uuid × Doc), (l.map key).map Prod.snd = (l.map Prod.snd).map Doc.status :=
    fun l => by simp [key, List.map_map, Function.comp_def]
  have hnd : ((s.docsForJob job).map key).Nodup :=
    .of_map Prod.fst (by rw [hfst]; exact s.docKeys_nodup job)
  have hnd' : (docs.map key).Nodup :=
    .of_map Prod.fst (by rw [hfst]; exact hkeys.nodup_iff.mpr (s.docKeys_nodup job))
  have hlisted : ∀ {q}, q ∈ s.docsForJob job → s.docs.get q.1 = some q.2 := fun hq =>
    ((Table.mem_select_iff _ _ _ _).mp hq).1
  have hperm : (docs.map key).Perm ((s.docsForJob job).map key) := by
    refine (List.perm_ext_iff_of_nodup hnd' hnd).mpr fun a => ?_
    simp only [List.mem_map]
    constructor
    · rintro ⟨p, hp, rfl⟩
      obtain ⟨q, hq, hqp⟩ := List.mem_map.mp (hkeys.mem_iff.mp (List.mem_map_of_mem hp))
      obtain ⟨row, hrow, hstatus⟩ := hst p hp
      have hq2 : q.2 = row := Option.some.inj ((hlisted hq).symm.trans (hqp ▸ hrow))
      exact ⟨q, hq, Prod.ext hqp ((congrArg Doc.status hq2).trans hstatus)⟩
    · rintro ⟨q, hq, rfl⟩
      obtain ⟨p, hp, hpq⟩ := List.mem_map.mp (hkeys.mem_iff.mpr (List.mem_map_of_mem hq))
      obtain ⟨row, hrow, hstatus⟩ := hst p hp
      have hq2 : q.2 = row := Option.some.inj ((hlisted hq).symm.trans (hpq ▸ hrow))
      exact ⟨p, hp, Prod.ext hpq ((congrArg Doc.status hq2).trans hstatus).symm⟩
  have hstatuses := hperm.map Prod.snd
  rwa [hsnd, hsnd] at hstatuses

/-- The last commit of a run that nobody disturbed leaves row and documents in agreement. -/
theorem workerStep_agrees (h : workerStep F now s w r act = some e) (hl : r.Listing s)
    (ha : r.Accounts s) (hne : s.docKeys r.task.jobId ≠ []) {st : JobStatus}
    (hst : r.statusWrite act = some st) (hterm : st.terminal = true) {j : Job}
    (hj : e.store.jobs.get r.task.jobId = some j) : Agrees (e.store.docsOf r.task.jobId) j := by
  have hkeys : e.store.docKeys r.task.jobId = s.docKeys r.task.jobId := by
    refine (workerStep_extends h).listing _ ?_
    rw [← workerStep_keys h]
    exact (Table.mem_keys_iff _ _).mpr ⟨j, hj⟩
  have hrows : ∀ {d row}, s.docs.get d = some row →
      e.store.docs.get d = some (r.docWrite now act d row) := by
    intro d row hrow
    rw [workerStep_docWrite h, Table.get_adjust, hrow]
    rfl
  -- it is enough to look at the copies, as long as the commit brings the rows up to them
  have hcopies : r.phase.listed = true →
      (∀ p ∈ r.docs, ∃ row, e.store.docs.get p.1 = some row ∧ row.status = p.2.status) →
      (r.docs.map Prod.snd ≠ [] → Agrees (r.docs.map Prod.snd) j) →
      Agrees (e.store.docsOf r.task.jobId) j := by
    intro hp hrow hagree
    have hlisted := hl.keys hp
    refine (hagree fun hnil => hne ?_).congr (statuses_perm (by rwa [hkeys]) hrow)
    rw [Run.docIds, List.map_eq_nil_iff.mp hnil] at hlisted
    exact hlisted.symm.eq_nil
  cases workerStep_cases F now s w r h with
  | drain hp =>
    have hskip := ha.draining hp
    obtain ⟨j₀, -, rfl⟩ : ∃ j₀, s.jobs.get r.task.jobId = some j₀ ∧ r.drainRow j₀ = j := by
      simpa [drain, Run.flushSkipped] using hj
    refine hcopies (by rw [hp]; rfl) (fun p hmem => ?_) fun hnil => ?_
    · obtain ⟨row, hrow, -⟩ := hl.row (by rw [hp]; rfl) (List.mem_map_of_mem hmem)
      refine ⟨_, hrows hrow, ?_⟩
      have hid : p.1 ∈ r.docIds := List.mem_map_of_mem hmem
      simp [Run.docWrite, hp, Run.skipRow, hid, hskip p hmem, Doc.setStatus]
    · refine agrees_of_settled (fun d hd => ?_) hnil (by simp [Run.drainRow]) rfl
        (resolveJobTerminalStatus_cancelling (r.docs.map Prod.snd)).symm
      obtain ⟨p, hmem, rfl⟩ := List.mem_map.mp hd
      rw [hskip p hmem]
      rfl
  | claim hp =>
    obtain rfl := Option.some.inj hst
    cases hterm
  | finish hp =>
    have hcopy := ha.copies (by rw [hp]; rfl)
    obtain ⟨j₀, -, rfl⟩ : ∃ j₀, s.jobs.get r.task.jobId = some j₀ ∧ r.finishRow now j₀ = j := by
      simpa [finishJob, Run.flushSkipped] using hj
    refine hcopies (by rw [hp]; rfl) (fun p hmem => ?_) fun hnil => ?_
    · obtain ⟨row, hrow, hstatus⟩ := hcopy p hmem
      refine ⟨_, hrows hrow, ?_⟩
      simp only [Run.docWrite, hp, Run.skipRow]
      split at hstatus
      · rename_i hskip
        rw [if_pos hskip, hstatus]
        rfl
      · rename_i hskip
        rw [if_neg hskip, hstatus]
    · refine agrees_of_settled (fun d hd => ?_) hnil (by simp [Run.finishRow]) rfl rfl
      obtain ⟨p, hmem, rfl⟩ := List.mem_map.mp hd
      exact ha.done (by rw [hp]; rfl) p hmem (by rw [hp]; exact List.not_mem_nil)
  | _ => cases hst

end RunStep

end ResearchEngine
