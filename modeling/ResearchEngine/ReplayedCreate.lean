import ResearchEngine.IdempotentCreate

/-! A `POST /research/jobs` that is sent again: what decides whether it is answered with
the job of the first. -/
namespace ResearchEngine

/-- The body of `POST /research/jobs`. -/
structure CreateResearchJobRequest where
  orderId : Uuid
  documentTypes : List String := []
  idempotencyKey : Option Uuid := none
  callbackUrl : Option String := none
  deriving DecidableEq, Repr

/-- One `POST /research/jobs`, with the caller that the dependencies resolve. -/
structure Post where
  tenantId : Uuid
  actorId : Uuid
  xIdempotencyKey : Option Uuid
  payload : CreateResearchJobRequest
  deriving DecidableEq, Repr

/-- `create_research_job`: the call of `create_job`. The body's key is not passed on. -/
def Post.request (p : Post) : CreateRequest where
  tenantId := p.tenantId
  actorId := p.actorId
  orderId := p.payload.orderId
  docTypes := p.payload.documentTypes
  idempotencyKey := p.xIdempotencyKey
  callbackUrl := if truthy p.payload.callbackUrl then p.payload.callbackUrl else none

/-- The job belongs to the request's tenant and has the request's key, or a generated one
that is not taken. -/
def Store.AnswersTo (s : Store) (taken : Uuid → Prop) (req : CreateRequest) (job : Uuid) : Prop :=
  ∃ key, s.Keyed req.tenantId key job ∧ (∀ k, req.idempotencyKey = some k → key = k) ∧
    (req.idempotencyKey = none → ¬ taken key)

/-- The session runs a call for the request, and the job it has made or found answers it. -/
def Session.Follows (taken : Uuid → Prop) (req : CreateRequest) (s : Store) : Session → Prop
  | .checking r | .inserting r _ _ | .recovering r => r = req
  | .created job r | .enqueueing job r _ => r = req ∧ s.AnswersTo taken req job
  | .returned job _ => s.AnswersTo taken req job
  | .raised _ => True
  | _ => False

section Call

variable [PyText] {now : Time} {s s' : Store} {req : CreateRequest} {taken : Uuid → Prop}
  {session : Session} {act : ApiAct} {e : ApiEffect} {job : Uuid}

omit [PyText] in
theorem Store.AnswersTo.extends (h : s.AnswersTo taken req job) (he : s.Extends s') :
    s'.AnswersTo taken req job := by
  obtain ⟨key, hkeyed, hkey⟩ := h
  exact ⟨key, he.keyed hkeyed, hkey⟩

omit [PyText] in
theorem Session.Follows.extends (h : session.Follows taken req s) (he : s.Extends s') :
    session.Follows taken req s' := by
  cases session with
  | checking | inserting | recovering | raised => exact h
  | created | enqueueing => exact ⟨h.1, h.2.extends he⟩
  | returned => exact Store.AnswersTo.extends h he
  | _ => exact h.elim

omit [PyText] in
theorem Session.Follows.calls (h : session.Follows taken req s) : session.Calls req := by
  cases session with
  | checking | inserting | recovering => exact h
  | created | enqueueing => exact h.1
  | returned | raised => trivial
  | _ => exact h.elim

omit [PyText] in
/-- The job that the lookup finds answers the request. -/
theorem lookup_answersTo {row : Job}
    (h : (req.idempotencyKey.bind fun key => s.getByIdempotency key req.tenantId) =
      some (job, row)) : s.AnswersTo taken req job := by
  obtain ⟨key, hkey, hrow⟩ := Option.bind_eq_some_iff.mp h
  refine ⟨key, (Store.getByIdempotency_some hrow).2, fun k hk => ?_, fun hnone => ?_⟩
  · exact Option.some.inj (hkey.symm.trans hk)
  · rw [hkey] at hnone
    cases hnone

theorem checkCreate_follows (order : Option OrderData) :
    (checkCreate s req order).Follows taken req s := by
  unfold checkCreate
  split
  · trivial
  · split
    · exact lookup_answersTo ‹_›
    · rfl

omit [PyText] in
theorem recoverCreate_follows : (recoverCreate s req).Follows taken req s := by
  unfold recoverCreate
  split
  · exact lookup_answersTo ‹_›
  · trivial

theorem CreateCase.follows (h : CreateCase now s req session act e)
    (hfollows : session.Follows taken req s)
    (hnew : ∀ job key docs, act = .insert job key docs → ¬ taken key) :
    e.session.Follows taken req e.store := by
  cases h with
  | check => exact checkCreate_follows _
  | refused => rfl
  | @insert orderId docTypes job freshKey docs table hfree hlen fresh htable =>
    refine ⟨rfl, req.idempotencyKey.getD freshKey, keyed_insert.mpr (.inl ⟨rfl, rfl, rfl⟩),
      fun k hk => by rw [hk]; rfl, fun hnone => ?_⟩
    rw [hnone]
    exact hnew job freshKey docs rfl
  | recover => exact recoverCreate_follows
  | refresh => exact hfollows
  | enqueue => exact hfollows.2
  | enqueueFailed => trivial

/-- A call that has come to its end takes no further step. -/
theorem apiStep_finished (h : session.finished) : apiStep now s session act = none := by
  cases session with
  | returned job status => cases act <;> rfl
  | raised error => cases act <;> rfl
  | _ => exact h.elim

/-- The pre-check finds the job of the key. -/
theorem checkCreate_found {key : Uuid} {docTypes : List DocType} {order : Option OrderData}
    (hlive : s.Live) (hunique : s.KeysUnique) (hkey : req.idempotencyKey = some key)
    (hkeyed : s.Keyed req.tenantId key job) (horder : Researchable order)
    (hvalid : validateDocTypes req.docTypes = .ok docTypes) :
    ∃ status, checkCreate s req order = .returned job status := by
  obtain ⟨o, rfl, haddr⟩ := horder
  obtain ⟨row, hrow⟩ := hkeyed.lookup hlive hunique
  refine ⟨row.status, ?_⟩
  simp [checkCreate, resolveRequest, haddr, hvalid, Except.map, hkey, hrow]

/-- A call gets past the checks only with an order and document types that pass them. -/
theorem checkCreate_resolved {order : Option OrderData}
    (h : ∀ error, checkCreate s req order ≠ .raised error) :
    Researchable order ∧ ∃ docTypes, validateDocTypes req.docTypes = .ok docTypes := by
  unfold checkCreate at h
  cases hres : resolveRequest req order with
  | error error =>
    rw [hres] at h
    exact (h error rfl).elim
  | ok found =>
    obtain ⟨horder, hvalid⟩ := resolveRequest_ok hres
    exact ⟨horder, _, hvalid⟩

/-- A call without a key that has inserted nothing. -/
def Session.Empty (req : CreateRequest) : Session → Prop
  | .checking r | .inserting r _ _ | .recovering r => r = req
  | .raised _ => True
  | _ => False

/-- Without a key there is nothing to find: the call goes on to insert. -/
theorem CreateCase.empty (h : CreateCase now s req session act e) (hkey : req.idempotencyKey = none)
    (hempty : session.Empty req) (hstore : e.store = s) : e.session.Empty req := by
  cases h with
  | check =>
    simp only [checkCreate, hkey, Option.bind_none]
    split
    · trivial
    · rfl
  | refused => rfl
  | @insert orderId docTypes job freshKey docs table hfree hlen fresh htable =>
    have hmem : job ∈ s.jobs.keys := by
      rw [← congrArg Store.jobs hstore]
      exact (Table.mem_keys_iff _ _).mpr ⟨_, by rw [Table.get_insert, if_pos rfl]⟩
    exact (fresh hmem).elim
  | recover =>
    simp only [recoverCreate, hkey, Option.bind_none]
    trivial
  | refresh | enqueue | enqueueFailed => exact hempty.elim

end Call

namespace JobMachine

open TransitionRuns

section Replay

variable [PyText] {I W : Type} {F : Fetcher I W} {cfg : Settings} {σ τ : State W}

/-- No key that the server generates is the key of the request. -/
def NewKeys (p : Post) (_ : State W) (a : Action I) : Prop :=
  ∀ n job key docs, a = .api n (.insert job key docs) → p.xIdempotencyKey ≠ some key

/-- The session's steps leave the tables and the queue as they are. -/
def CreatesNothing (F : Fetcher I W) (cfg : Settings) (m : ℕ) (σ : State W) (a : Action I) : Prop :=
  ∀ act τ, a = .api m act → step F cfg σ a = some τ → τ.store = σ.store ∧ τ.queue = σ.queue

/-- The replay carries the first request's key in the header, its order can be researched
and its document types are valid. -/
def ReplayFound (p p' : Post) (order : Option OrderData) : Prop :=
  (∃ key, p.xIdempotencyKey = some key ∧ p'.xIdempotencyKey = some key) ∧ Researchable order ∧
    ∃ docTypes, validateDocTypes p'.payload.documentTypes = .ok docTypes

/-- A session's step, or one that leaves it where it is. -/
theorem step_session_cases {a : Action I} (n : ℕ) (h : step F cfg σ a = some τ) :
    τ.sessions n = σ.sessions n ∧ (∀ act, a ≠ .api n act) ∨
      ∃ act e, a = .api n act ∧ apiStep σ.now σ.store (σ.sessions n) act = some e ∧
        τ = σ.afterApi n e := by
  by_cases ha : ∀ act, a ≠ .api n act
  · exact .inl ⟨(step_cases F cfg h).sessions_other ha, ha⟩
  · simp only [not_forall, not_not] at ha
    obtain ⟨act, rfl⟩ := ha
    obtain ⟨e, he, rfl⟩ := Option.map_eq_some_iff.mp h
    exact .inr ⟨act, e, rfl, he, rfl⟩

theorem follows_step {a : Action I} {n : ℕ} {p p' : Post}
    (h : (σ.sessions n).Follows (fun key => p'.xIdempotencyKey = some key) p.request σ.store)
    (hok : NewKeys p' σ a) (hstep : step F cfg σ a = some τ) :
    (τ.sessions n).Follows (fun key => p'.xIdempotencyKey = some key) p.request τ.store := by
  obtain ⟨hsame, -⟩ | ⟨act, e, rfl, he, rfl⟩ := step_session_cases n hstep
  · rw [hsame]
    exact h.extends (step_cases F cfg hstep).extends
  · rw [afterApi_sessions_self]
    refine (createCase h.calls he).follows h fun job key docs hact => ?_
    exact hok n job key docs (congrArg (Action.api n) hact)

theorem finished_step {a : Action I} {m : ℕ} {session : Session} (hfin : session.finished)
    (hs : σ.sessions m = session) (hstep : step F cfg σ a = some τ) : τ.sessions m = session := by
  obtain ⟨hsame, -⟩ | ⟨act, e, rfl, he, rfl⟩ := step_session_cases m hstep
  · exact hsame.trans hs
  · rw [hs, apiStep_finished hfin] at he
    cases he

/-- A call that has come to its end stays there and creates nothing. -/
theorem runs_finished {ok : State W → Action I → Prop} {acts : List (Action I)} {m : ℕ}
    (hrun : Runs (step F cfg) ok σ acts τ) (hfin : (σ.sessions m).finished) :
    τ.sessions m = σ.sessions m ∧ Runs (step F cfg) (CreatesNothing F cfg m) σ acts τ := by
  have hkeep : ∀ s a t, s.sessions m = σ.sessions m → ok s a → step F cfg s a = some t →
      t.sessions m = σ.sessions m := fun s a t hs _ hst => finished_step hfin hs hst
  refine ⟨hrun.invariant hkeep rfl, hrun.weaken hkeep (fun s a hs _ => ?_) rfl⟩
  rintro act t rfl hst
  obtain ⟨e, he, -⟩ := Option.map_eq_some_iff.mp hst
  rw [hs, apiStep_finished hfin] at he
  cases he

/-- A quiet call without a key never returns a job. -/
theorem runs_empty {acts : List (Action I)} {m : ℕ} {req : CreateRequest}
    (hrun : Runs (step F cfg) (CreatesNothing F cfg m) σ acts τ)
    (hkey : req.idempotencyKey = none) (hempty : (σ.sessions m).Empty req) :
    (τ.sessions m).Empty req := by
  refine hrun.invariant (I := fun s => (s.sessions m).Empty req) (fun s a t hs hok hst => ?_) hempty
  obtain ⟨hsame, -⟩ | ⟨act, e, rfl, he, rfl⟩ := step_session_cases m hst
  · exact hsame ▸ hs
  · rw [afterApi_sessions_self]
    have hstore := (hok act _ rfl hst).1
    refine (createCase ?_ he).empty hkey hs hstore
    generalize s.sessions m = session at hs
    cases session with
    | checking | inserting | recovering => exact hs
    | raised => trivial
    | _ => exact hs.elim

omit [PyText] in
/-- One row has one key. -/
theorem keyed_key {s : Store} {tenant key key' job : Uuid} (h : s.Keyed tenant key job)
    (h' : s.Keyed tenant key' job) : key = key' := by
  obtain ⟨row, hrow, -, hkey⟩ := h
  obtain ⟨row', hrow', -, hkey'⟩ := h'
  obtain rfl := Option.some.inj (hrow.symm.trans hrow')
  exact hkey.symm.trans hkey'

theorem runs_follows {acts : List (Action I)} {n : ℕ} {p p' : Post}
    (hrun : Runs (step F cfg) (NewKeys p') σ acts τ)
    (h : (σ.sessions n).Follows (fun key => p'.xIdempotencyKey = some key) p.request σ.store) :
    (τ.sessions n).Follows (fun key => p'.xIdempotencyKey = some key) p.request τ.store :=
  hrun.invariant (I := fun s =>
    (s.sessions n).Follows (fun key => p'.xIdempotencyKey = some key) p.request s.store)
    (fun _ _ _ hs hok hst => follows_step hs hok hst) h

/-- The step that takes a call through the pre-check. -/
theorem check_step {υ : State W} {m : ℕ} {req : CreateRequest} {order : Option OrderData}
    (hs : σ.sessions m = .checking req) (h : step F cfg σ (.api m (.check order)) = some υ) :
    υ.store = σ.store ∧ υ.queue = σ.queue ∧
      υ.sessions m = checkCreate σ.store req order := by
  obtain ⟨e, he, rfl⟩ := Option.map_eq_some_iff.mp h
  rw [hs] at he
  obtain rfl := Option.some.inj he
  exact ⟨rfl, List.append_nil _, afterApi_sessions_self⟩

/-- A replay that is answered with the first job, and creates nothing, had the first
request's key, an order that can be researched and valid document types. -/
theorem replayFound_of_returned {p p' : Post} {m : ℕ} {job : Uuid} {status : JobStatus}
    {order : Option OrderData} {υ : State W} {acts : List (Action I)}
    (htenant : p'.tenantId = p.tenantId)
    (hjob : σ.store.AnswersTo (fun key => p'.xIdempotencyKey = some key) p.request job)
    (hreplay : σ.sessions m = .checking p'.request)
    (hcheck : step F cfg σ (.api m (.check order)) = some υ)
    (hrest : Runs (step F cfg) (NewKeys p') υ acts τ)
    (hquiet : Runs (step F cfg) (CreatesNothing F cfg m) υ acts τ)
    (hret : τ.sessions m = .returned job status) : ReplayFound p p' order := by
  obtain ⟨hstore, -, hsession⟩ := check_step hreplay hcheck
  -- the checks have let the call through: it has not ended with their error
  have hpassed : ∀ error, checkCreate σ.store p'.request order ≠ .raised error := by
    intro error herror
    have hend := (runs_finished hrest (m := m) (by rw [hsession, herror]; trivial)).1
    rw [hret, hsession, herror] at hend
    cases hend
  refine ⟨?_, checkCreate_resolved hpassed⟩
  -- its key is that of the first request, or a generated one
  obtain ⟨key, hkeyed, hfirst, hgenerated⟩ := hjob
  cases hkey' : p'.xIdempotencyKey with
  | none =>
    have hempty : (τ.sessions m).Empty p'.request := by
      refine runs_empty hquiet hkey' ?_
      have hcase : CreateCase σ.now σ.store p'.request (.checking p'.request) (.check order)
          { store := σ.store, session := checkCreate σ.store p'.request order } := .check
      rw [hsession]
      exact hcase.empty hkey' rfl rfl
    rw [hret] at hempty
    exact hempty.elim
  | some key' =>
    have hfollows : (τ.sessions m).Follows (fun k => p'.xIdempotencyKey = some k) p'.request
        τ.store := by
      refine runs_follows hrest ?_
      rw [hsession, hstore]
      exact checkCreate_follows order
    rw [hret] at hfollows
    obtain ⟨k, hk, hsame, -⟩ := hfollows
    obtain rfl := hsame key' hkey'
    have hlast : τ.store.Keyed p.tenantId key job :=
      runs_keyed hrest (hstore ▸ hkeyed)
    have hk' : τ.store.Keyed p.tenantId k job := htenant ▸ hk
    obtain rfl := keyed_key hlast hk'
    cases hkey : p.xIdempotencyKey with
    | none => exact (hgenerated hkey hkey').elim
    | some key'' =>
      obtain rfl := hfirst key'' hkey
      exact ⟨key, rfl, rfl⟩

/-- A replay is answered with the first request's job, and creates nothing, exactly when
both carry one key in the header and the replay's order and document types still pass
the checks. -/
theorem replay_returns_original_iff {p p' : Post} {n m : ℕ} {job : Uuid} {status : JobStatus}
    {order : Option OrderData} {σ₀ σ₁ σ₂ υ τ : State W} {first between rest : List (Action I)}
    (htenant : p'.tenantId = p.tenantId) (hreach : Reachable F cfg σ₀)
    (hbegin : σ₀.sessions n = .checking p.request)
    (hfirst : Runs (step F cfg) (NewKeys p') σ₀ first σ₁)
    (hjob : σ₁.sessions n = .returned job status)
    (hbetween : Runs (step F cfg) (NewKeys p') σ₁ between σ₂)
    (hreplay : σ₂.sessions m = .checking p'.request)
    (hcheck : step F cfg σ₂ (.api m (.check order)) = some υ)
    (hrest : Runs (step F cfg) (NewKeys p') υ rest τ) :
    ((∃ status', τ.sessions m = .returned job status') ∧
        Runs (step F cfg) (CreatesNothing F cfg m) σ₂ (.api m (.check order) :: rest) τ) ↔
      ReplayFound p p' order := by
  have hanswers : σ₁.store.AnswersTo (fun key => p'.xIdempotencyKey = some key) p.request job := by
    have h := runs_follows (n := n) (p := p) hfirst (by rw [hbegin]; rfl)
    rwa [hjob] at h
  have hanswers₂ : σ₂.store.AnswersTo (fun key => p'.xIdempotencyKey = some key) p.request job := by
    obtain ⟨key, hkeyed, hkey⟩ := hanswers
    exact ⟨key, runs_keyed hbetween hkeyed, hkey⟩
  have hreach₂ : Reachable F cfg σ₂ := (hreach.extend hfirst).extend hbetween
  constructor
  · rintro ⟨⟨status', hret⟩, hruns⟩
    have hquiet : Runs (step F cfg) (CreatesNothing F cfg m) υ rest τ := by
      cases hruns with
      | cons hcheck' _ hquiet =>
        obtain rfl := Option.some.inj (hcheck.symm.trans hcheck')
        exact hquiet
    exact replayFound_of_returned htenant hanswers₂ hreplay hcheck hrest hquiet hret
  · rintro ⟨⟨key, hkey, hkey'⟩, horder, docTypes, hvalid⟩
    obtain ⟨hstore, hqueue, hsession⟩ := check_step hreplay hcheck
    obtain ⟨k, hkeyed, hsame, -⟩ := hanswers₂
    obtain rfl := hsame key hkey
    have hkeyed' : σ₂.store.Keyed p'.request.tenantId k job := by
      change σ₂.store.Keyed p'.tenantId k job
      rw [htenant]
      exact hkeyed
    have hlookup : ∃ status', checkCreate σ₂.store p'.request order = .returned job status' :=
      checkCreate_found hreach₂.wellFormed.store.live hreach₂.keysUnique hkey' hkeyed' horder hvalid
    obtain ⟨status', hfound⟩ := hlookup
    obtain ⟨hend, hquiet⟩ := runs_finished hrest (m := m) (by rw [hsession, hfound]; trivial)
    refine ⟨⟨status', by rw [hend, hsession, hfound]⟩, .cons hcheck ?_ hquiet⟩
    intro act υ' hact hcheck'
    obtain rfl := Option.some.inj (hcheck.symm.trans hcheck')
    exact ⟨hstore, hqueue⟩

end Replay

section Concrete

open scoped PyText.Ascii

/-- A post for order 3, with its key in the header or in the body. -/
def samplePost (xKey bodyKey : Option Uuid) : Post :=
  { tenantId := 1
    actorId := 2
    xIdempotencyKey := xKey
    payload := { orderId := 3, idempotencyKey := bodyKey } }

def postedState (p : Post) : State Unit :=
  outcome (step linkFetcher {}) (State.start () 0) [.api 0 (.create p.request)]

def firstActs : List (Action Unit) :=
  [.api 0 (.check (some sampleOrder)), .api 0 (.insert 7 8 sampleDocs), .api 0 .refresh,
    .api 0 (.enqueue true)]

def firstState (p : Post) : State Unit := outcome (step linkFetcher {}) (postedState p) firstActs

/-- The job is cancelled before the post is sent again. -/
def replayActs (p : Post) : List (Action Unit) :=
  [.api 1 (.cancel 1 7 none), .api 1 .commit, .api 1 .refresh, .api 2 (.create p.request)]

def replayState (p : Post) : State Unit :=
  outcome (step linkFetcher {}) (firstState p) (replayActs p)

def checkedState (p : Post) (order : Option OrderData) : State Unit :=
  outcome (step linkFetcher {}) (replayState p) [.api 2 (.check order)]

theorem reachable_posted (p : Post) : Reachable linkFetcher {} (postedState p) :=
  ⟨(), 0, [.api 0 (.create p.request)], .of_exec rfl⟩

def newKeyAct (taken : Uuid) : Action Unit → Bool
  | .api _ (.insert _ key _) => key ≠ taken
  | _ => true

theorem newKeys_of_act {p : Post} {taken : Uuid} (hp : p.xIdempotencyKey = some taken)
    {σ : State Unit} {a : Action Unit} (h : newKeyAct taken a = true) : NewKeys p σ a := by
  rintro n job key docs rfl hkey
  rw [hp] at hkey
  obtain rfl := Option.some.inj hkey
  simp [newKeyAct] at h

/-- The condition of `replay_returns_original_iff` for a post with the key in the header. -/
theorem replay_returns_cancelled_job :
    (∃ status, (checkedState (samplePost (some 9) none) (some sampleOrder)).sessions 2 =
        .returned 7 status) ∧
      Runs (step linkFetcher {}) (CreatesNothing linkFetcher {} 2)
        (replayState (samplePost (some 9) none)) [.api 2 (.check (some sampleOrder))]
        (checkedState (samplePost (some 9) none) (some sampleOrder)) := by
  have hfirst : Runs (step linkFetcher {}) (NewKeys (samplePost (some 9) none))
      (postedState (samplePost (some 9) none)) firstActs (firstState (samplePost (some 9) none)) :=
    .of_check (b := fun _ => newKeyAct 9) (fun _ _ => newKeys_of_act rfl) (by decide +kernel)
  have hbetween : Runs (step linkFetcher {}) (NewKeys (samplePost (some 9) none))
      (firstState (samplePost (some 9) none)) (replayActs (samplePost (some 9) none))
      (replayState (samplePost (some 9) none)) :=
    .of_check (b := fun _ => newKeyAct 9) (fun _ _ => newKeys_of_act rfl) (by decide +kernel)
  have hjob : (firstState (samplePost (some 9) none)).sessions 0 = .returned 7 .queued := rfl
  exact (replay_returns_original_iff (n := 0) (m := 2) (p := samplePost (some 9) none) rfl
    (reachable_posted _) rfl hfirst hjob hbetween rfl
    (step_outcome (by decide +kernel)) (.refl _)).mpr
      ⟨⟨9, rfl, rfl⟩, ⟨sampleOrder, rfl, by decide⟩, DocType.all, by decide +kernel⟩

/-- Every later post with a key that has succeeded once is answered with the same job. -/
def ReplaysReturn (carries : Post → Uuid → Prop) : Prop :=
  ∀ (p p' : Post) (key : Uuid) (n m : ℕ) (job : Uuid) (status : JobStatus)
    (order : Option OrderData) (σ₀ σ₁ σ₂ υ τ : State Unit)
    (first between rest : List (Action Unit)),
    p'.tenantId = p.tenantId → carries p key → carries p' key →
      Reachable linkFetcher {} σ₀ → σ₀.sessions n = .checking p.request →
        Runs (step linkFetcher {}) Always σ₀ first σ₁ → σ₁.sessions n = .returned job status →
          Runs (step linkFetcher {}) Always σ₁ between σ₂ →
            σ₂.sessions m = .checking p'.request →
              step linkFetcher {} σ₂ (.api m (.check order)) = some υ →
                Runs (step linkFetcher {}) Always υ rest τ → (τ.sessions m).finished →
                  (∃ status', τ.sessions m = .returned job status') ∧
                    Runs (step linkFetcher {}) (CreatesNothing linkFetcher {} m) σ₂
                      (.api m (.check order) :: rest) τ

/-- The rest of the call that makes a second job. -/
def secondActs : List (Action Unit) :=
  [.api 2 (.insert 30 31 [40, 41, 42, 43, 44, 45]), .api 2 .refresh, .api 2 (.enqueue true)]

def secondState (p : Post) : State Unit :=
  outcome (step linkFetcher {}) (checkedState p (some sampleOrder)) secondActs

/-- A key in the body is ignored: the replay makes a second job. A key in the header does
not help once the order is gone. -/
theorem replay_lost :
    ¬ ReplaysReturn (fun p key => p.payload.idempotencyKey = some key) ∧
      ¬ ReplaysReturn (fun p key => p.xIdempotencyKey = some key) := by
  constructor
  · intro h
    have hfirst : Runs (step linkFetcher {}) Always (postedState (samplePost none (some 9)))
        firstActs (firstState (samplePost none (some 9))) :=
      .of_exec (exec_outcome (by decide +kernel))
    have hbetween : Runs (step linkFetcher {}) Always (firstState (samplePost none (some 9)))
        (replayActs (samplePost none (some 9))) (replayState (samplePost none (some 9))) :=
      .of_exec (exec_outcome (by decide +kernel))
    have hrest : Runs (step linkFetcher {}) Always
        (checkedState (samplePost none (some 9)) (some sampleOrder)) secondActs
        (secondState (samplePost none (some 9))) :=
      .of_exec (exec_outcome (by decide +kernel))
    have hend : (secondState (samplePost none (some 9))).sessions 2 = .returned 30 .queued := rfl
    obtain ⟨⟨status, hret⟩, -⟩ := h (samplePost none (some 9)) (samplePost none (some 9)) 9 0 2 7
      .queued (some sampleOrder) _ _ _ _ _ _ _ _ rfl rfl rfl (reachable_posted _) rfl hfirst rfl
      hbetween rfl (step_outcome (by decide +kernel)) hrest (by rw [hend]; trivial)
    rw [hend] at hret
    cases hret
  · intro h
    have hfirst : Runs (step linkFetcher {}) Always (postedState (samplePost (some 9) none))
        firstActs (firstState (samplePost (some 9) none)) :=
      .of_exec (exec_outcome (by decide +kernel))
    have hbetween : Runs (step linkFetcher {}) Always (firstState (samplePost (some 9) none))
        (replayActs (samplePost (some 9) none)) (replayState (samplePost (some 9) none)) :=
      .of_exec (exec_outcome (by decide +kernel))
    have hrest : Runs (step linkFetcher {}) Always (checkedState (samplePost (some 9) none) none) []
        (checkedState (samplePost (some 9) none) none) := .refl _
    have hend : (checkedState (samplePost (some 9) none) none).sessions 2 =
        .raised .orderNotFound := rfl
    obtain ⟨⟨status, hret⟩, -⟩ := h (samplePost (some 9) none) (samplePost (some 9) none) 9 0 2 7
      .queued none _ _ _ _ _ _ _ _ rfl rfl rfl (reachable_posted _) rfl hfirst rfl
      hbetween rfl (step_outcome (by decide +kernel)) hrest (by rw [hend]; trivial)
    rw [hend] at hret
    cases hret

end Concrete

end JobMachine

end ResearchEngine
