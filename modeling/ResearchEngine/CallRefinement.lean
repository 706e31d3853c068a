import ResearchEngine.DocumentTypes
import ResearchEngine.RunLedger

/-! The writing calls of the service, statement by statement, are runs of request sessions: what
a call commits, publishes and comes to is what steps of a session commit, publish and come to,
wherever the database fails. -/
namespace ResearchEngine
namespace Transactions

open Program TransitionRuns

/-- A request session on its own, with the rows and the tasks it has published. -/
structure Sitting where
  store : Store
  session : Session
  published : List Task := []

section Sessions

variable [PyText]

def sit (now : Time) (x : Sitting) (act : ApiAct) : Option Sitting :=
  (apiStep now x.store x.session act).map fun e =>
    { store := e.store, session := e.session, published := x.published ++ e.publish }

/-- Steps of the session lead from the one to the other. -/
def Came (now : Time) (x y : Sitting) : Prop := ∃ acts, Runs (sit now) Always x acts y

variable {now : Time} {x y : Sitting}

theorem Came.refl (now : Time) (x : Sitting) : Came now x x := ⟨[], .refl x⟩

theorem Came.step {e : ApiEffect} (h : Came now x y) (act : ApiAct)
    (he : apiStep now y.store y.session act = some e) :
    Came now x { store := e.store, session := e.session, published := y.published ++ e.publish } := by
  obtain ⟨acts, hacts⟩ := h
  exact ⟨acts ++ [act], hacts.append (.single (by simp [sit, he]) trivial)⟩

/-- The session has come to stand here, with the rows and the tasks of the connection. -/
def Reached (now : Time) (x : Sitting) (session : Session) (c : Connection) : Prop :=
  Came now x { store := c.committed, session := session, published := c.published }

/-- A step that writes and publishes nothing. -/
theorem Came.silent {s : Store} {session session' : Session} {published : List Task}
    (h : Came now x { store := s, session := session, published := published }) (act : ApiAct)
    (he : apiStep now s session act = some { store := s, session := session' }) :
    Came now x { store := s, session := session', published := published } := by
  simpa using h.step act he

theorem Reached.stable (session : Session) : Stable (Reached now x session) := fun _ _ h => h

theorem Unwritten.reached {s : Store} {session : Session} {c : Connection} (h : Unwritten s c)
    (hx : Came now x { store := s, session := session }) : Reached now x session c := by
  unfold Reached
  rw [h.1, h.2]
  exact hx

end Sessions

/-- The database fails, with no constraint violated. -/
def Outage (e : CallError) : Prop := ∃ message, e = .database (.other message)

/-- The database raises an `IntegrityError` for a violated constraint only, the generated ids are
new, and there is an order provider that raises an error of the database at most. -/
structure Ready (out : Surroundings) (s : Store) : Prop where
  genuine : ∀ n, out.fault n ≠ some .integrity
  job : out.job ∉ s.jobs.keys
  docs : ∀ n, out.docId n ∉ s.docs.keys
  distinct : Function.Injective out.docId
  provider : ∃ provider, out.orderProvider = some provider ∧
    ∀ order tenant e, provider order tenant = .error e → Outage e

/-- How a session has ended when the call has come to this result. -/
inductive Ends (out : Surroundings) : Except CallError Uuid → Session → Prop
  | returned {job status} : Ends out (.ok job) (.returned job status)
  /-- There is no broker: the job stays as it is committed. -/
  | unpublished {job req status} (h : out.enqueue = none) :
      Ends out (.ok job) (.enqueueing job req status)
  | raised {e} : Ends out (.error (.service e)) (.raised e)
  /-- The request is dropped where it stands. -/
  | dropped {e session} (h : Outage e) : Ends out (.error e) session

/-- A session has come to the end of the call, with the same rows and tasks. -/
def Realised [PyText] (out : Surroundings) (x : Sitting) (result : Except CallError Uuid)
    (c : Connection) : Prop :=
  ∃ session, Ends out result session ∧ Reached out.now x session c

section Results

variable [PyText] {out : Surroundings} {x : Sitting} {session : Session} {c : Connection}

theorem Reached.realised {result : Except CallError Uuid} (h : Reached out.now x session c)
    (hends : Ends out result session) : Realised out x result c := ⟨session, hends, h⟩

theorem Reached.dropped {e : CallError} (h : Reached out.now x session c) (he : Outage e) :
    Realised out x (.error e) c := ⟨session, .dropped he, h⟩

end Results

/-! The statements. -/

section Statements

variable {out : Surroundings} {s w : Store} {I : Connection → Prop}

theorem execute_outage (hout : ∀ n, out.fault n ≠ some .integrity) (hI : Stable I) :
    Ensures I (execute out) (fun _ => I) (fun e c => Outage e ∧ I c) := by
  intro c hc
  show Outcome _ _ (execute out c)
  unfold execute
  cases hfault : out.fault c.statements with
  | none => exact hI c _ hc
  | some d =>
    cases d with
    | integrity => exact absurd hfault (hout _)
    | other message => exact ⟨⟨message, rfl⟩, hI c _ hc⟩

theorem select_outage (hout : ∀ n, out.fault n ≠ some .integrity) {A : Type} (f : Store → A) :
    Ensures (Writing s w) (select out f) (fun a c => Writing s w c ∧ a = f w)
      (fun e c => Outage e ∧ Unwritten s c) := by
  apply Ensures.bind ((execute_outage hout Writing.stable).imp_raises fun _ _ h => ⟨h.1, h.2.1⟩)
  intro _
  exact ensures_inspect fun c hc => ⟨hc, by rw [hc.2]⟩

/-- An error of the database: an outage, or a constraint that is violated. -/
def Violates (violated : Prop) (e : CallError) : Prop :=
  Outage e ∨ (e = .database .integrity ∧ violated)

theorem Violates.imp {p q : Prop} {e : CallError} (h : Violates p e) (hpq : p → q) :
    Violates q e := h.imp_right fun h => ⟨h.1, hpq h.2⟩

theorem flush_violates (hout : ∀ n, out.fault n ≠ some .integrity) (f : Store → Option Store) :
    Ensures (Writing s w) (flush out f) (fun _ c => ∃ w', f w = some w' ∧ Writing s w' c)
      (fun e c => Violates (f w = none) e ∧ Unwritten s c) := by
  apply Ensures.bind
  · exact (execute_outage hout Writing.stable).imp_raises fun _ _ h => ⟨.inl h.1, h.2.1⟩
  intro _
  apply Ensures.bind (Q := fun found c => Writing s w c ∧ f w = found)
  · exact ensures_inspect fun c hc => ⟨hc, by rw [hc.2]⟩
  intro found
  cases found with
  | none => exact ensures_raise fun c hc => ⟨.inr ⟨rfl, hc.2⟩, hc.1.1⟩
  | some w' => exact ensures_update fun c hc => ⟨w', hc.2, hc.1.1, rfl⟩

theorem commit_outage (hout : ∀ n, out.fault n ≠ some .integrity) :
    Ensures (Writing s w) (commit out) (fun _ c => c.committed = w ∧ c.published = [])
      (fun e c => Outage e ∧ Unwritten s c) := by
  apply Ensures.bind ((execute_outage hout Writing.stable).imp_raises fun _ _ h => ⟨h.1, h.2.1⟩)
  intro _
  exact ensures_update fun c hc => ⟨hc.2, hc.1.2⟩

theorem rollback_outage (hout : ∀ n, out.fault n ≠ some .integrity) :
    Ensures (Unwritten s) (rollback out) (fun _ => Writing s s)
      (fun e c => Outage e ∧ Unwritten s c) := by
  apply Ensures.bind (execute_outage hout Unwritten.stable)
  intro _
  exact ensures_update fun c hc => ⟨hc, hc.1⟩

end Statements

/-! The insert transaction: which errors it raises. -/

section Insert

variable {out : Surroundings} {s w : Store} {ds : List (Uuid × DocType)}

/-- The documents violate no constraint of the table. -/
structure Insertable (job : Uuid) (ds : List (Uuid × DocType)) (t : Table Uuid Doc) : Prop where
  ids : (ds.map Prod.fst).Nodup
  types : (ds.map Prod.snd).Nodup
  unused : ∀ p ∈ ds, p.1 ∉ t.keys
  untyped : ∀ r ∈ t.rows, r.2.jobId = job → r.2.docType ∉ ds.map Prod.snd

/-- The first of them goes in, and the rest are still insertable. -/
theorem Insertable.insert {job d : Uuid} {docType : DocType}
    (h : Insertable job ((d, docType) :: ds) w.docs) (now : Time) (orderId : Uuid) :
    ∃ w', addDoc d (newDoc now job orderId docType) w = some w' ∧ Insertable job ds w'.docs := by
  have hd : d ∉ w.docs.keys := h.unused (d, docType) List.mem_cons_self
  have hids := List.nodup_cons.mp h.ids
  have htypes := List.nodup_cons.mp h.types
  have hfree : (w.docs.rows.any fun r => r.2.jobId = job ∧ r.2.docType = docType) = false := by
    rw [List.any_eq_false]
    intro r hr hsame
    obtain ⟨hjob, htype⟩ := of_decide_eq_true hsame
    exact h.untyped r hr hjob (by simp [htype])
  refine ⟨{ w with docs := w.docs.insert d (newDoc now job orderId docType) hd }, ?_, ?_⟩
  · refine (if_neg (ne_true_of_eq_false hfree)).trans ?_
    rw [Table.insert?, dif_neg hd, Option.map_some]
  · refine ⟨hids.2, htypes.2, fun p hp hmem => ?_, fun r hr hjob hmem => ?_⟩
    · have hkeys : p.1 ∈ w.docs.keys ∨ p.1 = d := by
        simpa [Table.insert, Table.keys] using hmem
      rcases hkeys with hold | hnew
      · exact h.unused p (List.mem_cons_of_mem _ hp) hold
      · exact hids.1 (List.mem_map.mpr ⟨p, hp, hnew⟩)
    · rcases List.mem_append.mp hr with hr | hr
      · exact h.untyped r hr hjob (List.mem_cons_of_mem _ hmem)
      · obtain rfl := List.mem_singleton.mp hr
        exact htypes.1 hmem

theorem createDocs_violates (hout : ∀ n, out.fault n ≠ some .integrity) (orderId : Uuid)
    (ds : List (Uuid × DocType)) (w : Store) :
    Ensures (Writing s w) (createDocs out orderId ds) (fun _ c => ∃ w', Writing s w' c)
      (fun e c => Violates (¬ Insertable out.job ds w.docs) e ∧ Unwritten s c) := by
  induction ds generalizing w with
  | nil => exact ensures_pure fun c hc => ⟨w, hc⟩
  | cons p ds ih =>
    obtain ⟨d, docType⟩ := p
    apply Ensures.bind
    · refine (flush_violates hout _).imp_raises fun e c h => ⟨h.1.imp fun hnone hins => ?_, h.2⟩
      obtain ⟨w', hw', -⟩ := hins.insert out.now orderId
      cases hnone.symm.trans hw'
    · intro _ c hc
      obtain ⟨w', hw', hc⟩ := hc
      refine (ih w').imp_raises (fun e c h => ⟨h.1.imp fun hrest hins => ?_, h.2⟩) c hc
      obtain ⟨w'', hw'', hins'⟩ := hins.insert out.now orderId
      obtain rfl := Option.some.inj (hw'.symm.trans hw'')
      exact hrest hins'

/-- A new job with new ids violates the unique constraints or none. -/
theorem insertable_of_ready {types : List DocType} (hout : Ready out s) (hdocs : s.DocsHaveJobs)
    (htypes : types.Nodup) : Insertable out.job ((docIds out types).zip types) s.docs where
  ids := by
    rw [List.map_fst_zip (by simp [docIds])]
    exact (List.nodup_range).map hout.distinct
  types := by
    rw [List.map_snd_zip (by simp [docIds])]
    exact htypes
  unused p hp := by
    obtain ⟨n, -, hn⟩ := List.mem_map.mp (List.of_mem_zip hp).1
    rw [← hn]
    exact hout.docs n
  untyped r hr hjob := absurd hjob (hdocs.foreign hout.job r hr)

theorem addJob_free {job : Uuid} {row : Job} (fresh : job ∉ s.jobs.keys)
    (hfree : ¬ (s.jobs.rows.any fun r => r.2.idempotencyKey = row.idempotencyKey ∧
      r.2.tenantId = row.tenantId) = true) : addJob job row s ≠ none := by
  unfold addJob
  rw [if_neg hfree, Table.insert?, dif_neg fresh]
  simp

/-- The `try` block raises an `IntegrityError` for a violated unique constraint only. -/
theorem insertAll_violates (hout : Ready out s) (hdocs : s.DocsHaveJobs) (req : CreateRequest)
    (orderId : Uuid) (types : List DocType) :
    Ensures (Writing s s) (insertAll out req orderId types) (fun _ _ => True)
      (fun e c => Violates (violatesUnique s (keyFor out req) req.tenantId types = true) e ∧
        Unwritten s c) := by
  apply Ensures.bind
  · refine (flush_violates hout.genuine _).imp_raises fun e c h => ⟨h.1.imp fun hnone => ?_, h.2⟩
    by_contra hfree
    exact addJob_free hout.job (fun htaken => hfree (decide_eq_true (.inl htaken))) hnone
  · intro _ c hc
    obtain ⟨w', hw', hc⟩ := hc
    obtain ⟨-, jobs, -, rfl⟩ := addJob_eq_some hw'
    revert c
    show Ensures (Writing s { s with jobs := jobs }) _ _ _
    apply Ensures.bind
    · refine (createDocs_violates hout.genuine orderId _ _).imp_raises fun e c h =>
        ⟨h.1.imp fun hrefused => ?_, h.2⟩
      refine decide_eq_true (.inr fun hnodup => hrefused ?_)
      show Insertable out.job _ s.docs
      exact insertable_of_ready hout hdocs hnodup
    · intro _ c hc
      obtain ⟨w', hc⟩ := hc
      exact ((commit_outage hout.genuine).weaken (fun _ h => h) (fun _ _ _ => trivial)
        fun _ _ h => ⟨.inl h.1, h.2⟩) c hc

end Insert

/-! The calls. -/

section Calls

variable [PyText] {out : Surroundings} {s : Store} {x : Sitting}

/-- The job and its rows are committed, and the session has inserted them. -/
def Inserting (out : Surroundings) (x : Sitting) (req : CreateRequest) (c : Connection) : Prop :=
  Reached out.now x (.created out.job req) c ∧ ∃ row, c.committed.jobs.get out.job = some row

theorem Inserting.stable (req : CreateRequest) : Stable (Inserting out x req) := fun _ _ h => h

/-- What `get_by_idempotency` finds. -/
def keyed (s : Store) (req : CreateRequest) : Option (Uuid × Job) :=
  req.idempotencyKey.bind fun key => s.getByIdempotency key req.tenantId

omit [PyText] in
theorem recoverCreate_of_found {req : CreateRequest} {p : Uuid × Job} (h : keyed s req = some p) :
    recoverCreate s req = .returned p.1 p.2.status := by
  simp only [keyed] at h
  simp [recoverCreate, h]

omit [PyText] in
theorem recoverCreate_of_none {req : CreateRequest} (h : keyed s req = none) :
    recoverCreate s req = .raised .idempotencyConflict := by
  simp only [keyed] at h
  simp [recoverCreate, h]

omit [PyText] in
theorem existingJob_found (hout : ∀ n, out.fault n ≠ some .integrity) (req : CreateRequest) :
    Ensures (Writing s s) (existingJob out req)
      (fun job c => Writing s s c ∧ job = (keyed s req).map Prod.fst)
      (fun e c => Outage e ∧ Unwritten s c) := by
  unfold existingJob keyed
  cases req.idempotencyKey with
  | none => exact ensures_pure fun c hc => ⟨hc, rfl⟩
  | some key =>
    apply Ensures.bind (select_outage hout _)
    intro row
    exact ensures_pure fun c hc => ⟨hc.1, by rw [hc.2]; rfl⟩

/-- After the constraint has rejected the insert. -/
theorem recoverJob_realised (hout : ∀ n, out.fault n ≠ some .integrity) {req : CreateRequest}
    (hx : Came out.now x { store := s, session := .recovering req }) :
    Ensures (Unwritten s) (recoverJob out req)
      (fun job c => ∃ id, job = some id ∧ Realised out x (.ok id) c)
      (fun e => Realised out x (.error e)) := by
  have hrecover : Came out.now x { store := s, session := recoverCreate s req } :=
    hx.silent .recover rfl
  apply Ensures.bind ((rollback_outage hout).imp_raises fun e c h => (h.2.reached hx).dropped h.1)
  intro _
  apply Ensures.bind ((existingJob_found hout req).imp_raises fun e c h => (h.2.reached hx).dropped h.1)
  intro job
  refine Ensures.given fun hjob => ?_
  cases hkeyed : keyed s req with
  | none =>
    rw [hkeyed] at hjob
    rw [recoverCreate_of_none hkeyed] at hrecover
    subst hjob
    exact ensures_raise fun c hc => (hc.1.reached hrecover).realised .raised
  | some p =>
    rw [hkeyed] at hjob
    rw [recoverCreate_of_found hkeyed] at hrecover
    subst hjob
    exact ensures_pure fun c hc => ⟨p.1, rfl, (hc.1.reached hrecover).realised .returned⟩

/-- The `try` block with its handler. -/
theorem attempt_realised (hout : Ready out s) (hdocs : s.DocsHaveJobs) {req : CreateRequest}
    {orderId : Uuid} {types : List DocType}
    (hx : Came out.now x { store := s, session := .inserting req orderId types }) :
    Ensures (Writing s s)
      (attempt (do insertAll out req orderId types; return none) (onIntegrity (recoverJob out req)))
      (fun job c => (job = none ∧ Inserting out x req c) ∨
        ∃ id, job = some id ∧ Realised out x (.ok id) c)
      (fun e => Realised out x (.error e)) := by
  let recovering (c : Connection) : Prop :=
    Unwritten s c ∧ Came out.now x { store := s, session := .recovering req }
  apply Ensures.attempt (R := fun e c => (Outage e ∧ Unwritten s c) ∨
    (e = .database .integrity ∧ recovering c))
  · apply Ensures.bind (Q := fun _ => Inserting out x req)
    · refine (((insertAll_ensures req orderId types).and (insertAll_violates hout hdocs req orderId
        types)).and (insertAll_written req orderId types)).weaken (fun c hc => ⟨⟨hc, hc⟩, hc⟩)
          (fun _ c hc => ?_) fun e c hc => ?_
      · obtain ⟨⟨hins, -⟩, hrows, hquiet⟩ := hc
        refine ⟨?_, _, hrows.getNew⟩
        unfold Reached
        rw [hquiet]
        exact hx.step (.insert out.job out.key (docIds out types)) hins
      · obtain ⟨⟨hc, hviolates, -⟩, -⟩ := hc
        rcases hviolates with he | ⟨rfl, htaken⟩
        · exact .inl ⟨he, hc⟩
        · refine .inr ⟨rfl, hc, hx.silent (.insert out.job out.key (docIds out types)) ?_⟩
          exact if_pos htaken
    · intro _
      exact ensures_pure fun c hc => .inl ⟨rfl, hc⟩
  · intro e
    rintro c (⟨⟨message, rfl⟩, hc⟩ | ⟨rfl, hc, hrecover⟩)
    · exact (hc.reached hx).dropped ⟨message, rfl⟩
    · exact (recoverJob_realised hout.genuine hrecover).imp_returns (fun _ _ h => .inr h) c hc

/-- `self.enqueue` on a committed job. -/
theorem enqueueJob_realised {req : CreateRequest} :
    Ensures (fun c => ∃ status, Reached out.now x (.enqueueing out.job req status) c)
      (enqueueJob out req) (fun _ => Realised out x (.ok out.job))
      (fun e => Realised out x (.error e)) := by
  unfold enqueueJob
  split
  · rename_i hnone
    exact ensures_pure fun c ⟨status, h⟩ => h.realised (.unpublished hnone)
  · refine ensures_raise fun c ⟨status, h⟩ => ?_
    have hrefused : Reached out.now x (.raised .enqueueFailed) c := h.silent (.enqueue false) rfl
    exact hrefused.realised .raised
  · refine ensures_update fun c ⟨status, h⟩ => ?_
    refine ⟨.returned out.job status, .returned, ?_⟩
    exact h.step (.enqueue true) rfl

/-- The refresh and the enqueueing of the committed job. -/
theorem publish_realised (hout : ∀ n, out.fault n ≠ some .integrity) (req : CreateRequest) :
    Ensures (Inserting out x req) (do refresh out; enqueueJob out req; return out.job)
      (fun id => Realised out x (.ok id)) (fun e => Realised out x (.error e)) := by
  apply Ensures.bind
  · exact (execute_outage hout (Inserting.stable req)).imp_raises fun e c h => h.2.1.dropped h.1
  intro _
  apply Ensures.bind (Q := fun _ => Realised out x (.ok out.job))
  · refine enqueueJob_realised.weaken (fun c ⟨h, row, hrow⟩ => ⟨row.status, ?_⟩) (fun _ _ h => h)
      fun _ _ h => h
    exact h.silent .refresh (by simp [apiStep, hrow])
  · intro _
    exact ensures_pure fun c hc => hc

/-- `_resolve_order` and `_validate_doc_types`: the order that the provider answers with. -/
theorem resolveCall_realised (hout : Ready out s) {req : CreateRequest}
    (hx : Came out.now x { store := s, session := .checking req }) :
    Ensures (Writing s s) (resolveCall out req)
      (fun r c => Writing s s c ∧ ∃ order, resolveRequest req order = .ok r)
      (fun e => Realised out x (.error e)) := by
  obtain ⟨provider, hprovider, hraises⟩ := hout.provider
  unfold resolveCall
  rw [hprovider]
  apply Ensures.bind (Q := fun _ => Writing s s)
  · refine ensures_ofExcept (fun _ _ c hc => hc) fun e he c hc => ?_
    exact (hc.1.reached hx).dropped (hraises _ _ e he)
  intro order
  cases hres : resolveRequest req order with
  | ok r => exact ensures_pure fun c hc => ⟨hc, order, hres⟩
  | error e =>
    refine ensures_raise fun c hc => ?_
    have hchecked : Came out.now x { store := s, session := .raised e } :=
      hx.silent (.check order) (by simp [apiStep, checkCreate, hres])
    exact (hc.1.reached hchecked).realised .raised

/-- `create_job` is the creation of a job by a session. -/
theorem createJob_realised (hout : Ready out s) (hdocs : s.DocsHaveJobs) {req : CreateRequest}
    (hx : Came out.now x { store := s, session := .checking req }) :
    Ensures (Writing s s) (createJob out req) (fun id => Realised out x (.ok id))
      (fun e => Realised out x (.error e)) := by
  apply Ensures.bind (resolveCall_realised hout hx)
  rintro ⟨orderId, types⟩
  refine Ensures.given fun ⟨order, hres⟩ => ?_
  apply Ensures.bind
  · refine (existingJob_found hout.genuine req).imp_raises fun e c h => ?_
    exact (h.2.reached hx).dropped h.1
  intro job
  refine Ensures.given fun hjob => ?_
  cases hkeyed : keyed s req with
  | some p =>
    rw [hkeyed] at hjob
    subst hjob
    have hchecked : Came out.now x { store := s, session := .returned p.1 p.2.status } :=
      hx.silent (.check order) (by
        simp only [keyed] at hkeyed
        simp [apiStep, checkCreate, hres, hkeyed])
    exact ensures_pure fun c hc => (hc.1.reached hchecked).realised .returned
  | none =>
    rw [hkeyed] at hjob
    subst hjob
    have hchecked : Came out.now x { store := s, session := .inserting req orderId types } :=
      hx.silent (.check order) (by
        simp only [keyed] at hkeyed
        simp [apiStep, checkCreate, hres, hkeyed])
    apply Ensures.bind (attempt_realised hout hdocs hchecked)
    intro created
    cases created with
    | some job =>
      refine ensures_pure fun c hc => ?_
      rcases hc with ⟨hnone, -⟩ | ⟨id, hid, hc⟩
      · cases hnone
      · exact Option.some.inj hid ▸ hc
    | none =>
      refine (publish_realised hout.genuine req).weaken (fun c hc => ?_) (fun _ _ h => h)
        fun _ _ h => h
      rcases hc with ⟨-, hc⟩ | ⟨id, hid, -⟩
      · exact hc
      · cases hid

/-- `get_job`: the row, or the error that every call raises without one. -/
theorem getJob_realised (hout : ∀ n, out.fault n ≠ some .integrity) {tenantId job : Uuid}
    (hidle : Came out.now x { store := s, session := .idle })
    (hx : s.getJob job tenantId = none → Came out.now x { store := s, session := .raised .jobNotFound }) :
    Ensures (Writing s s) (getJob out tenantId job)
      (fun j c => Writing s s c ∧ s.getJob job tenantId = some j)
      (fun e => Realised out x (.error e)) := by
  apply Ensures.bind ((select_outage hout _).imp_raises fun e c h => (h.2.reached hidle).dropped h.1)
  intro row
  refine Ensures.given fun hrow => ?_
  cases row with
  | none => exact ensures_raise fun c hc => (hc.1.reached (hx hrow.symm)).realised .raised
  | some j => exact ensures_pure fun c hc => ⟨hc, hrow.symm⟩

/-- The document types that a retry asks for. -/
def retryTypes (s : Store) (job : Uuid) : Option (List String) → List String
  | none => (s.listFailed job).map fun d => d.2.docType.name
  | some ts => ts.filter fun t => t ∈ (s.listFailed job).map fun d => d.2.docType.name

omit [PyText] in
theorem readRetry_retryable {tenantId actorId job : Uuid} {docTypes : Option (List String)}
    {original : Job} (hjob : s.getJob job tenantId = some original)
    (hretry : original.status.retryable = true) :
    readRetry s tenantId actorId job docTypes =
      if (retryTypes s job docTypes).isEmpty then
        .raised (.jobNotRetryable "No failed documents to retry")
      else .checking {
        tenantId := tenantId
        actorId := actorId
        orderId := original.orderId
        docTypes := retryTypes s job docTypes
        idempotencyKey := none } := by
  unfold readRetry
  rw [hjob]
  exact if_pos hretry

/-- `retry_job` -/
theorem retryJob_realised (hout : Ready out s) (hdocs : s.DocsHaveJobs)
    (tenantId actorId job : Uuid) (docTypes : Option (List String))
    (hidle : Came out.now x { store := s, session := .idle }) :
    Ensures (Writing s s) (retryJob out tenantId actorId job docTypes)
      (fun id => Realised out x (.ok id)) (fun e => Realised out x (.error e)) := by
  have hread : Came out.now x
      { store := s, session := readRetry s tenantId actorId job docTypes } :=
    hidle.silent (.retry tenantId actorId job docTypes) rfl
  apply Ensures.bind
  · refine getJob_realised hout.genuine hidle fun hnone => ?_
    simpa [readRetry, hnone] using hread
  intro original
  refine Ensures.given fun hjob => ?_
  apply ensures_ite
  · intro hretry
    rw [readRetry_retryable hjob hretry] at hread
    apply Ensures.bind
    · refine (select_outage hout.genuine _).imp_raises fun e c h => ?_
      exact (h.2.reached hidle).dropped h.1
    intro failed
    refine Ensures.given fun hfailed => ?_
    subst hfailed
    apply ensures_ite
    · intro hempty
      rw [if_pos (c := (retryTypes s job docTypes).isEmpty = true) hempty] at hread
      exact ensures_raise fun c hc => (hc.1.reached hread).realised .raised
    · intro hwanted
      rw [if_neg (c := (retryTypes s job docTypes).isEmpty = true) hwanted] at hread
      exact createJob_realised hout hdocs hread
  · intro hretry
    simp only [readRetry, hjob, if_neg hretry] at hread
    exact ensures_raise fun c hc => (hc.1.reached hread).realised .raised

/-- The save of a changed job: the session that commits it. -/
theorem saveJob_realised (hout : ∀ n, out.fault n ≠ some .integrity) {job : Uuid} {f : Job → Job}
    {j : Job} {session : Session} (hj : s.jobs.get job = some j)
    (hx : Came out.now x { store := s, session := session })
    (hcommit : commitApi s session =
      some { store := s.modifyJob job f, session := .refreshing job }) :
    Ensures (Writing s s) (saveJob out job f) (fun id => Realised out x (.ok id))
      (fun e => Realised out x (.error e)) := by
  apply Ensures.bind (Q := fun _ => Writing s (s.modifyJob job f))
  · refine (flush_violates hout _).weaken (fun _ h => h) (fun _ c h => ?_) fun e c h => ?_
    · obtain ⟨w', hw', hc⟩ := h
      obtain rfl := Option.some.inj hw'
      exact hc
    · rcases h.1 with he | ⟨-, hnone⟩
      · exact (h.2.reached hx).dropped he
      · cases hnone
  intro _
  apply Ensures.bind (Q := fun _ c => c.committed = s.modifyJob job f ∧ c.published = [])
  · exact (commit_outage hout).imp_raises fun e c h => (h.2.reached hx).dropped h.1
  intro _
  have hsaved : Came out.now x { store := s.modifyJob job f, session := .refreshing job } := by
    simpa using hx.step .commit hcommit
  apply Ensures.bind (Q := fun _ => Unwritten (s.modifyJob job f))
  · refine (execute_outage hout Unwritten.stable).imp_raises fun e c h => ?_
    exact (h.2.reached hsaved).dropped h.1
  intro _
  have hread : Came out.now x
      { store := s.modifyJob job f, session := .returned job (f j).status } :=
    hsaved.silent .refresh (by simp [apiStep, hj])
  exact ensures_pure fun c hc => (hc.reached hread).realised .returned

/-- A call that reads the job, checks its status and saves it. -/
theorem guarded_realised (hout : ∀ n, out.fault n ≠ some .integrity) {tenantId job : Uuid}
    {allowed : Job → Prop} [DecidablePred allowed] {f : Job → Job → Job} {e : ApiError}
    (act : ApiAct) {session : Session}
    (hact : apiStep out.now s .idle act = some { store := s, session := session })
    (hnone : s.getJob job tenantId = none → session = .raised .jobNotFound)
    (hallowed : ∀ j, s.getJob job tenantId = some j → allowed j →
      commitApi s session = some { store := s.modifyJob job (f j), session := .refreshing job })
    (hrefused : ∀ j, s.getJob job tenantId = some j → ¬ allowed j → session = .raised e)
    (hidle : Came out.now x { store := s, session := .idle }) :
    Ensures (Writing s s)
      (getJob out tenantId job >>= fun j =>
        if allowed j then saveJob out job (f j) else raise (.service e))
      (fun id => Realised out x (.ok id)) (fun e => Realised out x (.error e)) := by
  have hread : Came out.now x { store := s, session := session } := hidle.silent act hact
  apply Ensures.bind (getJob_realised hout hidle fun h => hnone h ▸ hread)
  intro j
  refine Ensures.given fun hjob => ?_
  apply ensures_ite
  · intro hok
    have hrow := ((Store.getJob_eq_some_iff _ _ _ _).mp hjob).1
    exact saveJob_realised hout hrow hread (hallowed j hjob hok)
  · intro hbad
    refine ensures_raise fun c hc => ?_
    exact (hc.1.reached (hrefused j hjob hbad ▸ hread)).realised .raised

/-- Every writing call, from the beginning of a session. -/
theorem perform_realised (hout : Ready out s) (hdocs : s.DocsHaveJobs) (call : WritingCall) :
    Ensures (Writing s s) (perform out call)
      (fun id => Realised out { store := s, session := .idle } (.ok id))
      (fun e => Realised out { store := s, session := .idle } (.error e)) := by
  have hidle := Came.refl out.now { store := s, session := .idle }
  cases call with
  | createJob req => exact createJob_realised hout hdocs (hidle.silent (.create req) rfl)
  | retryJob tenantId actorId job docTypes =>
    exact retryJob_realised hout hdocs tenantId actorId job docTypes hidle
  | cancelJob tenantId job reason =>
    refine guarded_realised hout.genuine (.cancel tenantId job reason) rfl ?_ ?_ ?_ hidle
    · exact fun hnone => by simp [readCancel, hnone]
    · exact fun j hjob hok => by simp [readCancel, hjob, hok, commitApi]
    · exact fun j hjob hbad => by simp [readCancel, hjob, hbad]
  | markReviewed tenantId job =>
    refine guarded_realised hout.genuine (.review tenantId job) rfl ?_ ?_ ?_ hidle
    · exact fun hnone => by simp [readReview, hnone]
    · exact fun j hjob hok => by simp [readReview, hjob, hok, commitApi]
    · exact fun j hjob hbad => by simp [readReview, hjob, hbad]
  | archiveJob tenantId job =>
    refine guarded_realised hout.genuine (.archive tenantId job) rfl ?_ ?_ ?_ hidle
    · exact fun hnone => by simp [readArchive, hnone]
    · exact fun j hjob hok => by simp [readArchive, hjob, hok, commitApi]
    · exact fun j hjob hbad => by simp [readArchive, hjob, hbad]

end Calls

/-! The same steps in the machine. -/

section Machine

open JobMachine

variable [PyText] {I W : Type} {F : Fetcher I W} {cfg : Settings} {σ : State W} {n : ℕ}
  {out : Surroundings}

/-- The machine with the request in the place of its session `n`. -/
def seat (σ : State W) (n : ℕ) (x : Sitting) : State W :=
  { σ with
    store := x.store
    queue := σ.queue ++ x.published
    sessions := Function.update σ.sessions n x.session }

theorem sit_seat {x y : Sitting} {act : ApiAct} (h : sit σ.now x act = some y) :
    step F cfg (seat σ n x) (.api n act) = some (seat σ n y) := by
  obtain ⟨e, he, rfl⟩ := Option.map_eq_some_iff.mp h
  simp [step, seat, he, State.afterApi]

/-- A call of the service that runs on its own is a run of the steps of one session: whatever the
database and the broker do, the rows it has committed, the tasks it has enqueued and what it comes
to are those of the session. -/
theorem service_call_refined (hσ : Reachable F cfg σ) (hidle : σ.sessions n = .idle)
    (hnow : out.now = σ.now) (hout : Ready out σ.store) (call : WritingCall) :
    ∃ (acts : List ApiAct) (session : Session),
      Ends out ((perform out call).run (.opened σ.store)).1 session ∧
      Runs (step F cfg) Always σ (acts.map (.api n))
        (seat σ n
          { store := ((perform out call).run (.opened σ.store)).2.committed
            session := session
            published := ((perform out call).run (.opened σ.store)).2.published }) := by
  have hstart : σ = seat σ n { store := σ.store, session := .idle } := by
    simp [seat, ← hidle]
  have hdocs := hσ.together.toComplete.docs
  have hrealised := perform_realised hout hdocs call (.opened σ.store) ⟨⟨rfl, rfl⟩, rfl⟩
  revert hrealised
  rcases (perform out call).run (.opened σ.store) with ⟨result, c⟩
  intro hrealised
  have key : Realised out { store := σ.store, session := .idle } result c := by
    cases result with
    | ok id => exact hrealised
    | error e => exact hrealised
  obtain ⟨session, hends, acts, hacts⟩ := key
  rw [hnow] at hacts
  have hstep (x : Sitting) (act : ApiAct) (y : Sitting) (τ : State W) (hτ : τ = seat σ n x)
      (hsit : sit σ.now x act = some y) :
      ∃ τ', step F cfg τ (.api n act) = some τ' ∧ τ' = seat σ n y := by
    subst hτ
    exact ⟨_, sit_seat hsit, rfl⟩
  obtain ⟨τ, hrun, rfl⟩ := hacts.followed (Action.api n) hstep hstart
  exact ⟨acts, session, hends, hrun⟩

end Machine

section Concrete

open JobMachine
open scoped PyText.Ascii

/-- The connection is lost after the commit of the new job. -/
def lostConnection : Surroundings :=
  { faultyDatabase with
    fault n := if n = 5 then some (.other "connection lost") else none
    now := submittedState.now }

theorem lostConnection_ready : Ready lostConnection submittedState.store where
  genuine n := by
    show (if n = 5 then some (.other "connection lost") else none) ≠ some DbError.integrity
    split <;> simp
  job := by decide +kernel
  docs n := by
    have hkeys : submittedState.store.docs.keys = sampleDocs := by decide +kernel
    rw [hkeys]
    show 50 + n ∉ sampleDocs
    simp [sampleDocs]
    omega
  distinct a b h := by
    have hids : 50 + a = 50 + b := h
    omega
  provider := ⟨_, rfl, fun _ _ _ h => (by cases h)⟩

/-- The job is committed and nobody is told: the session is left before its refresh. -/
theorem lost_call_refined :
    ((perform lostConnection threeDocuments).run (.opened submittedState.store)).1 =
        .error (.database (.other "connection lost")) ∧
      ∃ (acts : List ApiAct) (session : Session),
        Ends lostConnection ((perform lostConnection threeDocuments).run
          (.opened submittedState.store)).1 session ∧
        Runs (step linkFetcher {}) Always submittedState (acts.map (.api 1))
          (seat submittedState 1
            { store := ((perform lostConnection threeDocuments).run
                (.opened submittedState.store)).2.committed
              session := session
              published := ((perform lostConnection threeDocuments).run
                (.opened submittedState.store)).2.published }) := by
  have hreach : Reachable linkFetcher {} submittedState :=
    ⟨(), 0, _, .of_exec (TransitionRuns.exec_outcome (by decide +kernel))⟩
  exact ⟨by decide +kernel,
    service_call_refined hreach rfl rfl lostConnection_ready threeDocuments⟩

end Concrete

end Transactions
end ResearchEngine
