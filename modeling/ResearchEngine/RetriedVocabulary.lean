import ResearchEngine.RetriedJobs

/-! The names that `retry_job` understands: it compares them with the stored types before
`create_job` normalises them, so that an alias is not found. -/
namespace ResearchEngine
namespace Transactions

open Program FirstOccurrences

/-! A call that meets no failure outside itself. -/

section Smooth

variable {out : Surroundings} {s w : Store} {I J : Connection → Prop}

/-- No statement fails, the broker takes the task, and the generated ids are new. -/
structure Smooth (out : Surroundings) (s : Store) : Prop where
  fault : ∀ n, out.fault n = none
  broker : out.enqueue ≠ some false
  job : out.job ∉ s.jobs.keys
  key : ∀ r ∈ s.jobs.rows, r.2.idempotencyKey ≠ out.key
  foreign : ∀ r ∈ s.docs.rows, r.2.jobId ≠ out.job
  docs : ∀ n, out.docId n ∉ s.docs.keys
  distinct : Function.Injective out.docId

theorem execute_smooth (hout : ∀ n, out.fault n = none) (hI : Stable I) :
    Ensures I (execute out) (fun _ => I) (fun _ _ => False) := by
  intro c hc
  show Outcome _ _ (execute out c)
  unfold execute
  rw [hout]
  exact hI c _ hc

theorem select_smooth (hout : ∀ n, out.fault n = none) {A : Type} (f : Store → A) :
    Ensures (Writing s w) (select out f) (fun a c => Writing s w c ∧ a = f w) (fun _ _ => False) := by
  apply Ensures.bind (execute_smooth hout Writing.stable)
  intro _
  exact ensures_inspect fun c hc => ⟨hc, by rw [hc.2]⟩

theorem flush_smooth (hout : ∀ n, out.fault n = none) {f : Store → Option Store} {w' : Store}
    (hf : f w = some w') :
    Ensures (Writing s w) (flush out f) (fun _ => Writing s w') (fun _ _ => False) := by
  apply Ensures.bind (execute_smooth hout Writing.stable)
  intro _
  apply Ensures.bind (Q := fun found c => Writing s w c ∧ found = some w')
  · exact ensures_inspect fun c hc => ⟨hc, by rw [hc.2, hf]⟩
  · intro found
    refine Ensures.given fun hfound => ?_
    subst hfound
    exact ensures_update fun c hc => ⟨hc.1, rfl⟩

/-- Documents of new keys and of distinct types that the job does not have yet are inserted. -/
theorem createDocs_smooth (hout : ∀ n, out.fault n = none) (orderId : Uuid)
    {ds : List (Uuid × DocType)} (w : Store) (hkeys : (ds.map Prod.fst).Nodup)
    (hfresh : ∀ p ∈ ds, p.1 ∉ w.docs.keys) (htypes : (ds.map Prod.snd).Nodup)
    (hfree : ∀ r ∈ w.docs.rows, r.2.jobId = out.job → r.2.docType ∉ ds.map Prod.snd) :
    Ensures (Writing s w) (createDocs out orderId ds) (fun _ => Unwritten s) (fun _ _ => False) := by
  induction ds generalizing w with
  | nil => exact ensures_pure fun c hc => hc.1
  | cons p ds ih =>
    obtain ⟨d, docType⟩ := p
    rw [List.map_cons, List.nodup_cons] at hkeys htypes
    have hd : d ∉ w.docs.keys := hfresh (d, docType) List.mem_cons_self
    have hnone : (w.docs.rows.any fun r => r.2.jobId = out.job ∧ r.2.docType = docType) = false := by
      rw [List.any_eq_false]
      intro r hr hsame
      obtain ⟨hjob, htype⟩ := of_decide_eq_true hsame
      exact hfree r hr hjob (by rw [htype]; exact List.mem_cons_self)
    have hadd : addDoc d (newDoc out.now out.job orderId docType) w =
        some { w with docs := w.docs.insert d (newDoc out.now out.job orderId docType) hd } := by
      refine (if_neg (ne_true_of_eq_false hnone)).trans ?_
      rw [Table.insert?, dif_neg hd]
      rfl
    apply Ensures.bind (flush_smooth hout hadd)
    intro _
    refine ih _ hkeys.2 (fun p hp hmem => ?_) htypes.2 fun r hr hjob => ?_
    · simp only [Table.keys, Table.insert, List.map_append, List.mem_append, List.map_cons,
        List.map_nil, List.mem_singleton] at hmem
      rcases hmem with hmem | hmem
      · exact hfresh p (List.mem_cons_of_mem _ hp) hmem
      · exact hkeys.1 (List.mem_map.mpr ⟨p, hp, hmem⟩)
    · simp only [Table.insert, List.mem_append, List.mem_singleton] at hr
      rcases hr with hr | rfl
      · exact fun hmem => hfree r hr hjob (List.mem_cons_of_mem _ hmem)
      · exact htypes.1

theorem insertAll_smooth (hout : Smooth out s) {req : CreateRequest} (hkey : req.idempotencyKey = none)
    (orderId : Uuid) {types : List DocType} (htypes : types.Nodup) :
    Ensures (Writing s s) (insertAll out req orderId types) (fun _ => Quiet) (fun _ _ => False) := by
  have hlen : (docIds out types).length = types.length := by simp [docIds]
  have hfst : ((docIds out types).zip types).map Prod.fst = docIds out types :=
    List.map_fst_zip hlen.le
  have hsnd : ((docIds out types).zip types).map Prod.snd = types := List.map_snd_zip hlen.ge
  generalize hrow : newJob out.now req orderId (req.idempotencyKey.getD out.key) types = row
  have hrowkey : row.idempotencyKey = out.key := by rw [← hrow, hkey]; rfl
  have hnone : (s.jobs.rows.any fun r => r.2.idempotencyKey = row.idempotencyKey ∧
      r.2.tenantId = row.tenantId) = false := by
    rw [List.any_eq_false]
    intro r hr hsame
    exact hout.key r hr ((of_decide_eq_true hsame).1.trans hrowkey)
  have hadd : addJob out.job row s = some { s with jobs := s.jobs.insert out.job row hout.job } := by
    refine (if_neg (ne_true_of_eq_false hnone)).trans ?_
    rw [Table.insert?, dif_neg hout.job]
    rfl
  apply Ensures.bind (Q := fun _ => Writing s { s with jobs := s.jobs.insert out.job row hout.job })
  · rw [hrow]
    exact flush_smooth hout.fault hadd
  · intro _
    apply Ensures.bind (Q := fun _ => Unwritten s)
    · refine createDocs_smooth hout.fault orderId _ ?_ ?_ ?_ fun r hr hjob => ?_
      · rw [hfst]
        exact List.nodup_range.map hout.distinct
      · intro p hp
        obtain ⟨n, -, hn⟩ := List.mem_map.mp (List.of_mem_zip hp).1
        exact hn ▸ hout.docs n
      · rw [hsnd]
        exact htypes
      · exact absurd hjob (hout.foreign r hr)
    · intro _
      apply Ensures.bind (execute_smooth hout.fault Unwritten.stable)
      intro _
      exact ensures_update fun c hc => hc.2

variable [PyText]

theorem resolveCall_smooth {req : CreateRequest} {orderId : Uuid} {types : List DocType}
    (hres : ResolvesTo out req orderId types) :
    Ensures I (resolveCall out req) (fun found c => I c ∧ found = (orderId, types))
      (fun _ _ => False) := by
  obtain ⟨provider, o, hprovider, horder, haddr, rfl, htypes⟩ := hres
  have hrequest : resolveRequest req (some o) = .ok (o.id, types) := by
    simp only [resolveRequest, haddr, if_false, htypes]
    rfl
  unfold resolveCall
  rw [hprovider]
  apply Ensures.bind (Q := fun order c => I c ∧ order = some o)
  · rw [horder]
    exact fun c hc => ⟨hc, rfl⟩
  · intro order
    refine Ensures.given fun ho => ?_
    subst ho
    rw [hrequest]
    exact fun c hc => ⟨hc, rfl⟩

/-- A request without a key that resolves gets a job. -/
theorem createJob_smooth (hout : Smooth out s) {req : CreateRequest} (hkey : req.idempotencyKey = none)
    {orderId : Uuid} {types : List DocType} (hres : ResolvesTo out req orderId types) :
    Ensures (Writing s s) (createJob out req) (fun _ _ => True) (fun _ _ => False) := by
  have hnodup : types.Nodup := by
    obtain ⟨_, _, _, _, _, _, htypes⟩ := hres
    exact (canonical_of_ok htypes).nodup
  apply Ensures.bind (resolveCall_smooth hres)
  intro found
  refine Ensures.given fun hfound => ?_
  subst hfound
  apply Ensures.bind (Q := fun found c => Writing s s c ∧ found = none)
  · unfold existingJob
    rw [hkey]
    exact ensures_pure fun c hc => ⟨hc, rfl⟩
  · intro found
    refine Ensures.given fun hfound => ?_
    subst hfound
    apply Ensures.bind (Q := fun created c => Quiet c ∧ created = none)
    · apply Ensures.attempt (R := fun _ _ => False)
      · apply Ensures.bind (insertAll_smooth hout hkey orderId hnodup)
        intro _
        exact ensures_pure fun c hc => ⟨hc, rfl⟩
      · exact fun e c hc => hc.elim
    · intro created
      refine Ensures.given fun hcreated => ?_
      subst hcreated
      apply Ensures.bind (Q := fun _ => Quiet) (execute_smooth hout.fault Quiet.stable)
      intro _
      apply Ensures.bind (Q := fun _ _ => True)
      · unfold enqueueJob
        split
        · exact ensures_pure fun c hc => trivial
        · exact absurd ‹_› hout.broker
        · exact ensures_update fun c hc => trivial
      · intro _
        exact ensures_pure fun c hc => trivial

/-- A retry of a job that may be retried, for names that are accepted, gets its job. -/
theorem retryJob_smooth (hout : Smooth out s) {tenantId actorId job orderId : Uuid}
    {docTypes : Option (List String)} {original : Job} {types : List DocType}
    (h : Retrying s tenantId job docTypes original)
    (hres : ResolvesTo out (retryRequest s tenantId actorId job docTypes original) orderId types) :
    Ensures (Writing s s) (retryJob out tenantId actorId job docTypes) (fun _ _ => True)
      (fun _ _ => False) := by
  apply Ensures.bind (Q := fun j c => Writing s s c ∧ j = original)
  · apply Ensures.bind (select_smooth hout.fault _)
    intro found
    refine Ensures.given fun hfound => ?_
    rw [hfound.trans h.found]
    exact ensures_pure fun c hc => ⟨hc, rfl⟩
  · intro j
    refine Ensures.given fun hj => ?_
    subst hj
    apply ensures_ite
    · intro _
      apply Ensures.bind (select_smooth hout.fault _)
      intro failed
      refine Ensures.given fun hfailed => ?_
      subst hfailed
      apply ensures_ite
      · intro hempty
        exact absurd (List.isEmpty_iff.mp hempty) h.wanted
      · intro _
        exact createJob_smooth hout rfl hres
    · intro hno
      exact absurd h.retryable hno

end Smooth

section Selection

variable [PyText] {out : Surroundings} {s : Store} {tenantId actorId job : Uuid}

/-- The types that a retry for these names asks for. -/
def retrySelection (s : Store) (job : Uuid) (ts : List String) : List DocType :=
  firsts (spelled (wantedNames s job (some ts)))

/-- The types of the job that a retry for these names creates, `none` when it raises. -/
def requestedBy (out : Surroundings) (s : Store) (tenantId actorId job : Uuid) (ts : List String) :
    Option (List DocType) :=
  match (retryJob out tenantId actorId job (some ts)).run (.opened s) with
  | (.ok id, c) => (c.committed.jobs.get id).map Job.requestedDocTypes
  | (.error _, _) => none

/-- A list of canonical names is made of its types. -/
theorem names_spelled {names : List String} (h : ∀ t ∈ names, ∃ d : DocType, t = d.name) :
    (spelled names).map DocType.name = names := by
  induction names with
  | nil => rfl
  | cons t names ih =>
    obtain ⟨⟨d, rfl⟩, hrest⟩ := List.forall_mem_cons.mp h
    unfold spelled at ih ⊢
    rw [List.filterMap_cons_some (DocType.parse_name d), List.map_cons, ih hrest]

omit [PyText] in
theorem wantedNames_named {ts : List String} :
    ∀ t ∈ wantedNames s job (some ts), ∃ d : DocType, t = d.name := by
  intro t ht
  obtain ⟨d, -, rfl⟩ := mem_wantedNames.mp ht
  exact ⟨d, rfl⟩

theorem retrySelection_eq_nil_iff {ts : List String} :
    retrySelection s job ts = [] ↔ wantedNames s job (some ts) = [] := by
  constructor
  · intro h
    have hspelled : spelled (wantedNames s job (some ts)) = [] := by
      rw [List.eq_nil_iff_forall_not_mem]
      intro d hd
      have hmem : d ∈ retrySelection s job ts := mem_firsts.mpr hd
      rw [h] at hmem
      cases hmem
    rw [← names_spelled wantedNames_named, hspelled]
    rfl
  · intro h
    unfold retrySelection
    rw [h]
    rfl

theorem validateDocTypes_wanted {ts : List String} (h : wantedNames s job (some ts) ≠ []) :
    validateDocTypes (wantedNames s job (some ts)) = .ok (retrySelection s job ts) := by
  refine validateDocTypes_cons h fun t ht => ?_
  obtain ⟨d, rfl⟩ := wantedNames_named t ht
  exact not_unsupported_name d

variable (out s tenantId actorId job) in
/-- What a retry comes to, when it returns. -/
theorem requestedBy_cases (ts : List String) :
    ((∃ e, ((retryJob out tenantId actorId job (some ts)).run (.opened s)).1 = .error e) ∧
        requestedBy out s tenantId actorId job ts = none) ∨
      (retrySelection s job ts ≠ [] ∧
        requestedBy out s tenantId actorId job ts = some (retrySelection s job ts)) := by
  have h := retryJob_returned out s tenantId actorId job (some ts) (.opened s) ⟨⟨rfl, rfl⟩, rfl⟩
  unfold requestedBy
  revert h
  rcases (retryJob out tenantId actorId job (some ts)).run (.opened s) with ⟨result, c⟩
  cases result with
  | error e => exact fun _ => Or.inl ⟨⟨e, rfl⟩, rfl⟩
  | ok id =>
    rintro ⟨original, hretrying, hreturned⟩
    refine Or.inr ⟨fun hnil => hretrying.wanted (retrySelection_eq_nil_iff.mp hnil), ?_⟩
    cases hreturned with
    | existing hkey => cases hkey
    | created hid hrows =>
      obtain ⟨orderId, types, ⟨_, _, _, _, _, _, htypes⟩, hadded⟩ := hrows
      obtain rfl := Except.ok.inj ((validateDocTypes_wanted hretrying.wanted).symm.trans htypes)
      subst hid
      show (c.committed.jobs.get out.job).map _ = _
      rw [hadded.getNew]
      rfl

/-- `create_job` looks at the names only through the types they stand for. -/
theorem createJob_docTypes (req : CreateRequest) {names : List String}
    (h : validateDocTypes req.docTypes = validateDocTypes names) :
    createJob out req = createJob out { req with docTypes := names } := by
  have hrequest : resolveRequest req = resolveRequest { req with docTypes := names } := by
    funext order
    cases order with
    | none => rfl
    | some o => simp only [resolveRequest, h]
  have hresolve : resolveCall out req = resolveCall out { req with docTypes := names } := by
    unfold resolveCall
    rw [hrequest]
  unfold createJob
  rw [hresolve]
  rfl

theorem retryJob_selection {ts us : List String} (h : retrySelection s job ts = retrySelection s job us) :
    (retryJob out tenantId actorId job (some ts)).run (.opened s) =
      (retryJob out tenantId actorId job (some us)).run (.opened s) := by
  have hwriting : Writing s s (.opened s) := ⟨⟨rfl, rfl⟩, rfl⟩
  refine Ensures.bind_congr getJob_found (fun original c hc => ?_) (.opened s) hwriting
  split
  · refine Ensures.bind_congr (select_working _) (fun failed c hc => ?_) c hc.1
    obtain ⟨-, rfl⟩ := hc
    change Program.run (if (wantedNames s job (some ts)).isEmpty then _
        else createJob out (retryRequest s tenantId actorId job (some ts) original)) c =
      Program.run (if (wantedNames s job (some us)).isEmpty then _
        else createJob out (retryRequest s tenantId actorId job (some us) original)) c
    by_cases hnil : wantedNames s job (some ts) = []
    · have hnil' : wantedNames s job (some us) = [] := by
        rw [← retrySelection_eq_nil_iff, ← h]
        exact retrySelection_eq_nil_iff.mpr hnil
      rw [if_pos (List.isEmpty_iff.mpr hnil), if_pos (List.isEmpty_iff.mpr hnil')]
    · have hnil' : wantedNames s job (some us) ≠ [] := by
        intro hus
        refine hnil (retrySelection_eq_nil_iff.mp ?_)
        rw [h]
        exact retrySelection_eq_nil_iff.mpr hus
      have htypes : validateDocTypes (wantedNames s job (some ts)) =
          validateDocTypes (wantedNames s job (some us)) := by
        rw [validateDocTypes_wanted hnil, validateDocTypes_wanted hnil', h]
      rw [if_neg fun he => hnil (List.isEmpty_iff.mp he),
        if_neg fun he => hnil' (List.isEmpty_iff.mp he),
        createJob_docTypes (retryRequest s tenantId actorId job (some ts) original) htypes]
      rfl
  · rfl

theorem requestedBy_congr {ts us : List String}
    (h : retrySelection s job ts = retrySelection s job us) :
    requestedBy out s tenantId actorId job ts = requestedBy out s tenantId actorId job us := by
  unfold requestedBy
  rw [retryJob_selection h]

/-- The provider answers every query with an order that can be researched. -/
def Answering (out : Surroundings) : Prop :=
  ∃ provider, out.orderProvider = some provider ∧
    ∀ id tenant, ∃ o, provider id tenant = .ok (some o) ∧ o.addressLine1 ≠ ""

/-- Where nothing fails, a selection is retried. -/
theorem requestedBy_smooth (hout : Smooth out s) (hanswers : Answering out) {original : Job}
    (hfound : s.getJob job tenantId = some original) (hretryable : original.status.retryable = true)
    {ts : List String} (hts : retrySelection s job ts ≠ []) :
    requestedBy out s tenantId actorId job ts = some (retrySelection s job ts) := by
  have hwanted : wantedNames s job (some ts) ≠ [] := fun h => hts (retrySelection_eq_nil_iff.mpr h)
  have hretrying : Retrying s tenantId job (some ts) original := ⟨hfound, hretryable, hwanted⟩
  obtain ⟨provider, hprovider, hall⟩ := hanswers
  obtain ⟨o, ho, haddr⟩ := hall original.orderId tenantId
  have hres : ResolvesTo out (retryRequest s tenantId actorId job (some ts) original)
      o.id _ :=
    ⟨provider, o, hprovider, ho, haddr, rfl, validateDocTypes_wanted hwanted⟩
  have hrun := retryJob_smooth hout hretrying hres (.opened s) ⟨⟨rfl, rfl⟩, rfl⟩
  rcases requestedBy_cases out s tenantId actorId job ts with ⟨⟨e, he⟩, -⟩ | ⟨-, hsome⟩
  · revert hrun he
    rcases (retryJob out tenantId actorId job (some ts)).run (.opened s) with ⟨result, c⟩
    rintro hrun rfl
    exact hrun.elim
  · exact hsome

/-- A number above all of a list. -/
def above (ids : List ℕ) : ℕ := ids.foldr (· + ·) 1

omit [PyText] in
theorem above_pos (ids : List ℕ) : 0 < above ids := by
  induction ids with
  | nil => decide
  | cons i ids ih => exact Nat.add_pos_right i ih

omit [PyText] in
theorem lt_above {ids : List ℕ} {id : ℕ} (h : id ∈ ids) : id < above ids := by
  induction ids with
  | nil => cases h
  | cons i ids ih =>
    have hpos := above_pos ids
    show id < i + above ids
    rcases List.mem_cons.mp h with rfl | hmem
    · omega
    · exact Nat.lt_add_left i (ih hmem)

/-- Surroundings in which every call on the store goes smoothly. -/
def smoothFor (s : Store) : Surroundings where
  fault _ := none
  orderProvider := some fun id _ => .ok (some { id := id, addressLine1 := "1 MAIN ST" })
  enqueue := none
  now := 0
  job := above (s.jobs.keys ++ s.docs.rows.map fun r => r.2.jobId)
  key := above (s.jobs.rows.map fun r => r.2.idempotencyKey)
  docId n := above s.docs.keys + n

omit [PyText] in
theorem smoothFor_smooth (s : Store) : Smooth (smoothFor s) s where
  fault _ := rfl
  broker := by simp [smoothFor]
  job hmem := (lt_above (List.mem_append_left _ hmem)).ne rfl
  key r hr := by
    have hmem : r.2.idempotencyKey ∈ s.jobs.rows.map fun r => r.2.idempotencyKey :=
      List.mem_map_of_mem hr
    exact (lt_above hmem).ne
  foreign r hr := by
    have hmem : r.2.jobId ∈ s.docs.rows.map fun r => r.2.jobId := List.mem_map_of_mem hr
    exact (lt_above (List.mem_append_right _ hmem)).ne
  docs n hmem := (Nat.lt_add_right n (lt_above hmem)).ne rfl
  distinct _ _ h := Nat.add_left_cancel h

omit [PyText] in
theorem smoothFor_answering (s : Store) : Answering (smoothFor s) :=
  ⟨_, rfl, fun id _ => ⟨{ id := id, addressLine1 := "1 MAIN ST" }, rfl, by simp⟩⟩

theorem requestedBy_smoothFor {original : Job} (hfound : s.getJob job tenantId = some original)
    (hretryable : original.status.retryable = true) (ts : List String) :
    requestedBy (smoothFor s) s tenantId actorId job ts =
      if retrySelection s job ts = [] then none else some (retrySelection s job ts) := by
  split
  · rename_i hnil
    rcases requestedBy_cases (smoothFor s) s tenantId actorId job ts with ⟨-, hnone⟩ | ⟨hne, -⟩
    · exact hnone
    · exact absurd hnil hne
  · rename_i hne
    exact requestedBy_smooth (smoothFor_smooth s) (smoothFor_answering s) hfound hretryable hne

/-- Two lists get the same answer in all surroundings exactly when they select the same. -/
theorem requestedBy_eq_iff {original : Job} (actorId : Uuid)
    (hfound : s.getJob job tenantId = some original)
    (hretryable : original.status.retryable = true) {ts us : List String} :
    (∀ out, requestedBy out s tenantId actorId job ts = requestedBy out s tenantId actorId job us) ↔
      retrySelection s job ts = retrySelection s job us := by
  constructor
  · intro hall
    have hsame := hall (smoothFor s)
    rw [requestedBy_smoothFor hfound hretryable, requestedBy_smoothFor hfound hretryable] at hsame
    split at hsame <;> split at hsame
    · simp [*]
    · cases hsame
    · cases hsame
    · exact Option.some.inj hsame
  · exact fun h out => requestedBy_congr h

/-- A list is refused in all surroundings exactly when it selects nothing. -/
theorem requestedBy_none_iff {original : Job} (actorId : Uuid)
    (hfound : s.getJob job tenantId = some original)
    (hretryable : original.status.retryable = true) {ts : List String} :
    (∀ out, requestedBy out s tenantId actorId job ts = none) ↔ retrySelection s job ts = [] := by
  constructor
  · intro hall
    have hnone := hall (smoothFor s)
    rw [requestedBy_smoothFor hfound hretryable] at hnone
    split at hnone
    · assumption
    · cases hnone
  · intro hnil out
    rcases requestedBy_cases out s tenantId actorId job ts with ⟨-, hnone⟩ | ⟨hne, -⟩
    · exact hnone
    · exact absurd hnil hne

/-! Which lists select the same as their canonical types. -/

omit [PyText] in
/-- `d` is named before any `d'` is. -/
def NamedBefore (ts : List String) (d d' : DocType) : Prop := Before ts d.name d'.name

/-- `d` is spelled before any `d'` is. -/
def SpelledBefore (ts : List String) (d d' : DocType) : Prop :=
  ∃ before t after, ts = before ++ t :: after ∧ Spells t d ∧ ∀ u ∈ before, ¬ Spells u d'

theorem spelledBefore_iff {ts : List String} {d d' : DocType} :
    SpelledBefore ts d d' ↔ Before (spelled ts) d d' := by
  refine ⟨?_, before_spelled⟩
  rintro ⟨before, t, after, rfl, ht, hfree⟩
  refine ⟨spelled before, spelled after, ?_, fun hmem => ?_⟩
  · unfold spelled
    rw [List.filterMap_append, List.filterMap_cons_some (DocType.parse_eq_some_iff.mpr ht)]
  · obtain ⟨u, hu, hspells⟩ := mem_spelled.mp hmem
    exact hfree u hu hspells

/-- Whether a type has failed, as `retry_job` sees it. -/
def isFailed (s : Store) (job : Uuid) (d : DocType) : Bool :=
  d.name ∈ (s.listFailed job).map fun r => r.2.docType.name

omit [PyText] in
theorem isFailed_iff {d : DocType} : isFailed s job d = true ↔ FailedType s job d := by
  unfold isFailed
  rw [decide_eq_true_eq, mem_failedNames]
  constructor
  · rintro ⟨d', hd', hname⟩
    exact DocType.name_inj hname ▸ hd'
  · exact fun hd => ⟨d, hd, rfl⟩

theorem mem_retrySelection {ts : List String} {d : DocType} :
    d ∈ retrySelection s job ts ↔ FailedType s job d ∧ d.name ∈ ts := by
  unfold retrySelection
  rw [mem_firsts, mem_spelled]
  constructor
  · rintro ⟨t, ht, hspells⟩
    obtain ⟨d', ⟨hfailed, hnamed⟩, rfl⟩ := mem_wantedNames.mp ht
    obtain rfl := hspells.unique (spells_name d')
    exact ⟨hfailed, hnamed ts rfl⟩
  · rintro ⟨hfailed, hnamed⟩
    refine ⟨d.name, mem_wantedNames.mpr ⟨d, ⟨hfailed, fun names hnames => ?_⟩, rfl⟩, spells_name d⟩
    exact Option.some.inj hnames ▸ hnamed

/-- A list of types is compared with the failed ones as it stands. -/
theorem retrySelection_names (types : List DocType) :
    retrySelection s job (types.map DocType.name) = firsts (types.filter (isFailed s job)) := by
  have hwanted : wantedNames s job (some (types.map DocType.name)) =
      (types.filter (isFailed s job)).map DocType.name := by
    unfold wantedNames
    exact List.filter_map
  unfold retrySelection
  rw [hwanted, spelled_names]

/-- The failed types that a retry takes from a list are in the order of their names in it. -/
theorem before_wanted {ts : List String} {d d' : DocType} (hd : FailedType s job d)
    (hd' : FailedType s job d') :
    Before (spelled (wantedNames s job (some ts))) d d' ↔ NamedBefore ts d d' := by
  have hfailed {d : DocType} (hd : FailedType s job d) :
      decide (d.name ∈ (s.listFailed job).map fun r => r.2.docType.name) = true := isFailed_iff.mpr hd
  rw [← before_map_iff (f := DocType.name) fun _ _ => DocType.name_inj,
    names_spelled wantedNames_named]
  exact before_filter_iff (hfailed hd) (hfailed hd')

/-- The condition on the names under which `retry_job` reads them as `create_job` does. -/
structure NamedAlike (s : Store) (job : Uuid) (ts : List String) : Prop where
  /-- Every failed type that the list spells is also named, and in the same order. -/
  named : (∀ t ∈ ts, ¬ Unsupported t) → ∀ d, FailedType s job d → (∃ t ∈ ts, Spells t d) → d.name ∈ ts
  ordered : (∀ t ∈ ts, ¬ Unsupported t) → ∀ d d', FailedType s job d → FailedType s job d' →
    d'.name ∈ ts → SpelledBefore ts d d' → NamedBefore ts d d'
  /-- Beside an unknown name no failed type is named. -/
  unknown : (∃ t ∈ ts, Unsupported t) → ∀ d, FailedType s job d → d.name ∉ ts

/-- The selection is that of the canonical types exactly under the condition. -/
theorem retrySelection_eq_iff {ts : List String} (hknown : ∀ t ∈ ts, ¬ Unsupported t) :
    retrySelection s job ts = retrySelection s job ((firsts (spelled ts)).map DocType.name) ↔
      NamedAlike s job ts := by
  have hspelled (d : DocType) : d ∈ (spelled ts).filter (isFailed s job) ↔
      FailedType s job d ∧ ∃ t ∈ ts, Spells t d := by
    rw [List.mem_filter, mem_spelled, isFailed_iff, and_comm]
  have hwanted (d : DocType) : d ∈ spelled (wantedNames s job (some ts)) ↔
      FailedType s job d ∧ d.name ∈ ts := by
    rw [← mem_retrySelection, retrySelection, mem_firsts]
  have hbefore {d d' : DocType} (hd : FailedType s job d) (hd' : FailedType s job d') :
      Before ((spelled ts).filter (isFailed s job)) d d' ↔ SpelledBefore ts d d' := by
    rw [before_filter_iff (isFailed_iff.mpr hd) (isFailed_iff.mpr hd'), spelledBefore_iff]
  rw [retrySelection_names, firsts_of_nodup ((firsts_nodup _).filter _), ← firsts_filter]
  unfold retrySelection
  rw [eq_comm, firsts_eq_iff]
  constructor
  · rintro ⟨hmem, horder⟩
    refine ⟨fun _ d hd hd' => ?_, fun _ d d' hd hd' hnamed hbef => ?_, fun hun => ?_⟩
    · exact ((hwanted d).mp ((hmem d).mp ((hspelled d).mpr ⟨hd, hd'⟩))).2
    · have hmem' := (hmem d').mpr ((hwanted d').mpr ⟨hd', hnamed⟩)
      have hbef' := (hbefore hd hd').mpr hbef
      exact (before_wanted hd hd').mp (horder d hbef'.mem d' hmem' hbef')
    · obtain ⟨t, ht, hun⟩ := hun
      exact absurd hun (hknown t ht)
  · intro h
    have hmem (d : DocType) : d ∈ (spelled ts).filter (isFailed s job) ↔
        d ∈ spelled (wantedNames s job (some ts)) := by
      rw [hspelled, hwanted]
      refine and_congr_right fun hd => ⟨h.named hknown d hd, fun hnamed => ?_⟩
      exact ⟨d.name, hnamed, spells_name d⟩
    refine ⟨hmem, fun d hd d' hd' hbef => ?_⟩
    have hfailed := ((hspelled d).mp hd).1
    obtain ⟨hfailed', hnamed⟩ := (hwanted d').mp ((hmem d').mp hd')
    refine (before_wanted hfailed hfailed').mpr (h.ordered hknown d d' hfailed hfailed' hnamed ?_)
    exact (hbefore hfailed hfailed').mp hbef

/-- A retry for these names does as a retry for the types that `create_job` makes of them. -/
structure SameVocabulary (out : Surroundings) (s : Store) (tenantId actorId job : Uuid)
    (ts : List String) : Prop where
  accepted : ∀ cs, validateDocTypes ts = .ok cs → requestedBy out s tenantId actorId job ts =
    requestedBy out s tenantId actorId job (cs.map DocType.name)
  rejected : (∃ e, validateDocTypes ts = .error e) → requestedBy out s tenantId actorId job ts = none

/-- Retry reads a list of names as create does exactly when the failed types that it spells are
named, in the order in which they are spelled, and none is named beside an unknown name. -/
theorem sameVocabulary_iff {original : Job} (actorId : Uuid)
    (hfound : s.getJob job tenantId = some original) (hretryable : original.status.retryable = true)
    {ts : List String} (hts : ts ≠ []) :
    (∀ out, SameVocabulary out s tenantId actorId job ts) ↔ NamedAlike s job ts := by
  by_cases hknown : ∀ t ∈ ts, ¬ Unsupported t
  · have hok := validateDocTypes_cons hts hknown
    rw [← retrySelection_eq_iff hknown, ← requestedBy_eq_iff actorId hfound hretryable]
    refine forall_congr' fun out => ⟨fun h => h.accepted _ hok, fun h => ⟨fun cs hcs => ?_, ?_⟩⟩
    · obtain rfl := Except.ok.inj (hok.symm.trans hcs)
      exact h
    · rintro ⟨e, he⟩
      rw [hok] at he
      cases he
  · have hun : ∃ t ∈ ts, Unsupported t := by
      by_contra hnone
      exact hknown fun t ht h => hnone ⟨t, ht, h⟩
    have herror := validateDocTypes_error_iff.mpr hun
    have hcond : NamedAlike s job ts ↔ retrySelection s job ts = [] := by
      rw [List.eq_nil_iff_forall_not_mem]
      constructor
      · intro h d hd
        obtain ⟨hfailed, hnamed⟩ := mem_retrySelection.mp hd
        exact h.unknown hun d hfailed hnamed
      · intro h
        refine ⟨fun hall => absurd hall hknown, fun hall => absurd hall hknown, fun _ d hd hnamed => ?_⟩
        exact h d (mem_retrySelection.mpr ⟨hd, hnamed⟩)
    rw [hcond, ← requestedBy_none_iff actorId hfound hretryable]
    refine forall_congr' fun out => ⟨fun h => h.rejected herror, fun h => ⟨fun cs hcs => ?_, fun _ => h⟩⟩
    obtain ⟨e, he⟩ := herror
    rw [hcs] at he
    cases he

/-- Canonical names are read alike. -/
theorem namedAlike_names (types : List DocType) : NamedAlike s job (types.map DocType.name) := by
  have hspells {d : DocType} (h : ∃ t ∈ types.map DocType.name, Spells t d) :
      d.name ∈ types.map DocType.name := by
    obtain ⟨t, ht, hd⟩ := h
    obtain ⟨d', hd', rfl⟩ := List.mem_map.mp ht
    obtain rfl := hd.unique (spells_name d')
    exact ht
  refine ⟨fun _ d _ => hspells, fun _ d d' _ _ _ hbef => ?_, fun hun => ?_⟩
  · rw [spelledBefore_iff, spelled_names] at hbef
    exact (before_map_iff fun _ _ => DocType.name_inj).mpr hbef
  · obtain ⟨t, ht, hun⟩ := hun
    obtain ⟨d, -, rfl⟩ := List.mem_map.mp ht
    exact absurd hun (not_unsupported_name d)

end Selection

section Concrete

open scoped PyText.Ascii

theorem sameVocabulary_deed :
    SameVocabulary (smoothFor failedStore) failedStore 1 2 7 ["DEED_SUBJECT_PARCEL"] := by
  have hnamed : NamedAlike failedStore 7 ["DEED_SUBJECT_PARCEL"] := namedAlike_names [.deedSubjectParcel]
  have hfound : failedStore.getJob 7 1 =
      some { newJob 1 JobMachine.sampleRequest 3 8 [.deedSubjectParcel] with status := .failed } := by
    decide +kernel
  exact (sameVocabulary_iff 2 hfound rfl (by simp)).mpr hnamed (smoothFor failedStore)

/-- The alias of the failed type is not found, and an unknown name beside it is not noticed. -/
theorem alias_not_retried :
    validateDocTypes ["deed"] = .ok [.deedSubjectParcel] ∧
      requestedBy (smoothFor failedStore) failedStore 1 2 7 ["deed"] = none ∧
      requestedBy (smoothFor failedStore) failedStore 1 2 7 ["DEED_SUBJECT_PARCEL"] =
        some [.deedSubjectParcel] ∧
      (validateDocTypes ["DEED_SUBJECT_PARCEL", "DEEDS"]).toOption = none ∧
      requestedBy (smoothFor failedStore) failedStore 1 2 7 ["DEED_SUBJECT_PARCEL", "DEEDS"] =
        some [.deedSubjectParcel] := by
  decide +kernel

end Concrete

end Transactions
end ResearchEngine
