import Mathlib.Algebra.Ring.Rat
import ResearchEngine.CallbackSession
import ResearchEngine.WorkerRun

/-! The loop of `_fire_callback`: what it posts, what it commits, and when it raises, for all answers
of the receiver and of the database. -/
namespace ResearchEngine

structure CallbackSettings where
  callbackRetryAttempts : ℕ := 3
  /-- The first wait, in seconds. -/
  callbackRetryBackoff : ℚ := 1
  callbackRetrySleep : Bool := true

structure CallbackPayload where
  jobId : Uuid
  orderId : Uuid
  status : JobStatus
  total : ℕ
  uploaded : ℕ
  failed : ℕ
  deriving DecidableEq, Repr

/-- A request and its answer: the status code, or the text of an exception. -/
structure CallbackPost where
  url : Option String
  payload : CallbackPayload
  answer : Except String ℕ

inductive DeliveryEvent
  | post (p : CallbackPost)
  /-- The commit of the delivered marker has returned. -/
  | marked

/-- The exceptions that the delivery meets. -/
inductive DeliveryError
  | transport (text : String)
  /-- `RuntimeError(f"callback returned HTTP {resp.status_code}")` -/
  | status (code : ℕ)
  | database (text : String)
  | sleep (text : String)

/-- A delivery in progress: the session, and what has happened outside of it so far. -/
structure Delivery (S : Type) where
  session : S
  events : List DeliveryEvent := []

/-- What the delivery is answered. The POSTs and the statements of the marker go by the number of the
attempt. -/
structure Replies where
  /-- The status code of an answer, or the text of an exception. -/
  post : ℕ → Except String ℕ
  listing : Option String := none
  flush : ℕ → Option String := fun _ => none
  commit : ℕ → Option String := fun _ => none
  /-- `time.sleep` raises on a wait that it does not take. -/
  sleep : ℚ → Option String := fun _ => none

namespace Callback

open Program JobSession

section Model

variable {S : Type} (o : JobSession S) (cfg : CallbackSettings) (out : Replies)
  (payload : CallbackPayload)

/-- A part of the delivery. -/
abbrev Part (S A : Type) : Type := Program (Delivery S) DeliveryError A

/-- An operation of the session. -/
def onSession {A : Type} (p : Program S String A) : Part S A := fun d =>
  match p d.session with
  | (.ok a, s) => (.ok a, { d with session := s })
  | (.error e, s) => (.error (.database e), { d with session := s })

def emit (e : DeliveryEvent) : Part S Unit := update fun d => { d with events := d.events ++ [e] }

/-- `httpx.post(job.callback_url, json=payload, timeout=10)` -/
def post (attempt : ℕ) (url : Option String) : Part S ℕ := do
  emit (.post ⟨url, payload, out.post attempt⟩)
  ofExcept ((out.post attempt).mapError .transport)

/-- The marker: set, saved and committed. -/
def mark (attempt : ℕ) : Part S Unit := do
  update fun d => { d with session := o.deliver d.session }
  onSession (o.save (out.flush attempt))
  onSession (o.commit (out.commit attempt))
  emit .marked

/-- The `try` block. -/
def deliverOnce (attempt : ℕ) : Part S Unit := do
  let j ← onSession o.read
  let status ← post out payload attempt j.callbackUrl
  if 400 ≤ status then raise (.status status) else mark o out attempt

/-- `time.sleep(delay)` -/
def sleep (delay : ℚ) : Part S Unit :=
  match out.sleep delay with
  | none => pure ()
  | some e => raise (.sleep e)

def pause (delay : ℚ) : Part S Unit :=
  if cfg.callbackRetrySleep then sleep out delay else pure ()

/-- The `except` block, with the delay that it leaves. Both its log lines show `str(job.id)`. -/
def onFailure (attempt : ℕ) (delay : ℚ) : Part S ℚ := do
  let _ ← onSession o.read
  if attempt < cfg.callbackRetryAttempts then
    pause cfg out delay
    return 2 * delay
  else return delay

/-- One attempt: nothing when it has delivered, else the delay of the next one. -/
def turn (attempt : ℕ) (delay : ℚ) : Part S (Option ℚ) :=
  let tried : Part S (Option ℚ) := do
    deliverOnce o out payload attempt
    return none
  Program.attempt tried fun _ => do return some (← onFailure o cfg out attempt delay)

/-- The loop, with the number of attempts that are left. -/
def loop : ℕ → ℕ → ℚ → Part S Unit
  | 0, _, _ => pure ()
  | left + 1, attempt, delay => do
    match ← turn o cfg out payload attempt delay with
    | none => return ()
    | some delay => loop left (attempt + 1) delay

def payloadOf (job : Uuid) (j : Job) (total : ℕ) : CallbackPayload where
  jobId := job
  orderId := j.orderId
  status := j.status
  total := total
  uploaded := j.uploadedDocuments
  failed := j.failedDocuments

/-- `_fire_callback` -/
def fireCallback : Part S Unit := do
  let _ ← onSession o.read
  let docs ← onSession (o.listForJob out.listing)
  let j ← onSession o.read
  loop o cfg out (payloadOf o.job j docs.length) cfg.callbackRetryAttempts 1 cfg.callbackRetryBackoff

end Model

/-! What comes of the loop, by the answers alone. -/

section Course

variable (cfg : CallbackSettings) (out : Replies)

/-- The POST of an attempt is answered with a status below 400. -/
def answered (attempt : ℕ) : Bool :=
  match out.post attempt with
  | .ok status => status < 400
  | .error _ => false

/-- How an attempt ends. -/
inductive Verdict
  | marked
  /-- A flush failed, so the job cannot be read. -/
  | lost
  /-- The loop goes on, with a session that accepts no statement if it is stuck. -/
  | failed (stuck : Bool)
  deriving DecidableEq

/-- An attempt of a session that is stuck or not, for a job that was marked before or not. -/
def verdict (told stuck : Bool) (attempt : ℕ) : Verdict :=
  if answered out attempt then
    if stuck then .failed true
    else if told = false ∧ out.flush attempt ≠ none then .lost
    else if out.commit attempt = none then .marked
    else .failed true
  else .failed stuck

/-- The wait after an attempt raises. -/
def Oversleeps (attempt : ℕ) (delay : ℚ) : Prop :=
  attempt < cfg.callbackRetryAttempts ∧ cfg.callbackRetrySleep = true ∧ out.sleep delay ≠ none

instance (attempt : ℕ) (delay : ℚ) : Decidable (Oversleeps cfg out attempt delay) :=
  inferInstanceAs (Decidable (_ ∧ _ ∧ _))

def nextDelay (attempt : ℕ) (delay : ℚ) : ℚ :=
  if attempt < cfg.callbackRetryAttempts then 2 * delay else delay

inductive Ending
  | delivered | gaveUp | raised
  deriving DecidableEq

/-- The events of the loop and its end. -/
def course (told : Bool) (ev : ℕ → DeliveryEvent) :
    ℕ → ℕ → ℚ → Bool → List DeliveryEvent × Ending
  | 0, _, _, _ => ([], .gaveUp)
  | left + 1, attempt, delay, stuck =>
    match verdict out told stuck attempt with
    | .marked => ([ev attempt, .marked], .delivered)
    | .lost => ([ev attempt], .raised)
    | .failed stuck =>
      if Oversleeps cfg out attempt delay then ([ev attempt], .raised)
      else
        let rest := course told ev left (attempt + 1) (nextDelay cfg attempt delay) stuck
        (ev attempt :: rest.1, rest.2)

end Course

/-! The session along the loop. -/

section Session

variable {S A : Type} {o : JobSession S} {cfg : CallbackSettings} {out : Replies}
  {payload : CallbackPayload} {j : Job} {c : Store} {es : List DeliveryEvent}

/-- A state of the delivery with these events. -/
def With (P : S → Prop) (es : List DeliveryEvent) (d : Delivery S) : Prop :=
  P d.session ∧ d.events = es

/-- Between two attempts: nothing has failed yet, or a commit has. -/
def Between (o : JobSession S) (j : Job) (c : Store) : Bool → S → Prop
  | false => o.At .ready j c
  | true => o.At .prepared j.deliver c

/-- What the rows are in the end. -/
def storeAfter (o : JobSession S) (j : Job) (c : Store) (ending : Ending) : Store :=
  if ending = .delivered ∧ j.callbackDelivered = false then c.modifyJob o.job Job.deliver else c

def AfterFailure (o : JobSession S) (j : Job) (c : Store) (es : List DeliveryEvent) :
    Verdict → Delivery S → Prop
  | .marked => fun _ => False
  | .lost => With (o.Lost c) es
  | .failed stuck => With (Between o j c stuck) es

/-- An operation of the session adds no event. -/
theorem onSession_ensures {P : S → Prop} {p : Program S String A} {Q : A → S → Prop}
    {R : String → S → Prop} (h : Ensures P p Q R) :
    Ensures (With P es) (onSession p) (fun a => With (Q a) es)
      (fun _ => With (fun s => ∃ e, R e s) es) := by
  rintro d ⟨hP, hes⟩
  have hrun := h d.session hP
  show Outcome _ _ (onSession p d)
  unfold onSession
  revert hrun
  unfold run
  rcases p d.session with ⟨result, s⟩
  cases result with
  | ok a => exact fun hQ => ⟨hQ, hes⟩
  | error e => exact fun hR => ⟨⟨e, hR⟩, hes⟩

/-- An operation that returns. -/
theorem onSession_returns {P : S → Prop} {p : Program S String A} {Q : A → S → Prop}
    {raises : DeliveryError → Delivery S → Prop} (h : Ensures P p Q fun _ _ => False) :
    Ensures (With P es) (onSession p) (fun a => With (Q a) es) raises := by
  refine (onSession_ensures h).imp_raises ?_
  rintro _ d ⟨⟨_, hno⟩, -⟩
  exact hno.elim

/-- An operation that raises. -/
theorem onSession_raises {P R : S → Prop} {p : Program S String A}
    {returns : A → Delivery S → Prop} (h : Ensures P p (fun _ _ => False) fun _ => R) :
    Ensures (With P es) (onSession p) returns (fun _ => With R es) := by
  refine ((onSession_ensures h).imp_returns fun _ _ hno => hno.1.elim).imp_raises ?_
  rintro _ d ⟨⟨_, hR⟩, hes⟩
  exact ⟨hR, hes⟩

/-- Nothing follows a part that raises. -/
theorem ensures_false {B : Type} {p : Part S B} {returns : B → Delivery S → Prop}
    {raises : DeliveryError → Delivery S → Prop} : Ensures (fun _ => False) p returns raises :=
  fun _ h => h.elim

/-- The event of an attempt. -/
def posted (out : Replies) (payload : CallbackPayload) (url : Option String) (attempt : ℕ) :
    DeliveryEvent := .post ⟨url, payload, out.post attempt⟩

theorem read_ready (h : o.Documented) {raises : DeliveryError → Delivery S → Prop} :
    Ensures (With (o.At .ready j c) es) (onSession o.read)
      (fun a d => With (o.At .ready j c) es d ∧ a = j) raises := by
  refine (onSession_returns (h.read_loaded .ready j c (by decide))).imp_returns ?_
  exact fun _ _ hd => ⟨⟨hd.1.2, hd.2⟩, hd.1.1⟩

theorem read_between (h : o.Documented) (stuck : Bool)
    {raises : DeliveryError → Delivery S → Prop} :
    Ensures (With (Between o j c stuck) es) (onSession o.read)
      (fun a d => With (Between o j c stuck) es d ∧ a.callbackUrl = j.callbackUrl) raises := by
  cases stuck with
  | false =>
    refine (read_ready h).imp_returns ?_
    rintro a d ⟨hd, rfl⟩
    exact ⟨hd, rfl⟩
  | true =>
    refine (onSession_returns (h.read_loaded .prepared j.deliver c (by decide))).imp_returns ?_
    rintro a d ⟨⟨rfl, hs⟩, hes⟩
    exact ⟨⟨hs, hes⟩, rfl⟩

/-- The POST is made whatever it is answered. -/
theorem post_ensures {P : S → Prop} (attempt : ℕ) (url : Option String) :
    Ensures (With P es) (post out payload attempt url)
      (fun status d => With P (es ++ [posted out payload url attempt]) d ∧
        out.post attempt = .ok status)
      (fun _ d => With P (es ++ [posted out payload url attempt]) d ∧
        answered out attempt = false) := by
  refine Ensures.bind (Q := fun _ => With P (es ++ [posted out payload url attempt])) ?_ fun _ => ?_
  · refine ensures_update fun d hd => ?_
    exact ⟨hd.1, congrArg (· ++ _) hd.2⟩
  · cases hpost : out.post attempt with
    | ok status => exact ensures_pure fun d hd => ⟨hd, rfl⟩
    | error text => exact ensures_raise fun d hd => ⟨hd, by simp [answered, hpost]⟩

theorem save_ensures (h : o.Documented) (answer : Option String) :
    Ensures (With (o.At (if j.callbackDelivered then .ready else .changed) j.deliver c) es)
      (onSession (o.save answer))
      (fun _ d => With (o.At (if j.callbackDelivered then .ready else .flushed) j.deliver c) es d ∧
        ¬ (j.callbackDelivered = false ∧ answer ≠ none))
      (fun _ d => With (o.Lost c) es d ∧ j.callbackDelivered = false ∧ answer ≠ none) := by
  cases htold : j.callbackDelivered with
  | true =>
    exact (onSession_returns (h.save_unchanged j.deliver c answer)).imp_returns
      fun _ _ hd => ⟨hd, by simp⟩
  | false =>
    cases answer with
    | none =>
      exact (onSession_returns (h.save_ok j.deliver c)).imp_returns fun _ _ hd => ⟨hd, by simp⟩
    | some e =>
      exact (onSession_raises (h.save_error j.deliver c e)).imp_raises fun _ _ hd => ⟨hd, by simp⟩

theorem commit_ensures (h : o.Documented) (answer : Option String) :
    Ensures (With (o.At (if j.callbackDelivered then .ready else .flushed) j.deliver c) es)
      (onSession (o.commit answer))
      (fun _ d => With (fun s => o.committed s = storeAfter o j c .delivered) es d ∧ answer = none)
      (fun _ d => With (o.At .prepared j.deliver c) es d ∧ answer ≠ none) := by
  cases answer with
  | some e =>
    refine (onSession_raises (h.commit_error _ j.deliver c e ?_)).imp_raises
      fun _ _ hd => ⟨hd, by simp⟩
    cases j.callbackDelivered <;> simp
  | none =>
    cases htold : j.callbackDelivered with
    | true =>
      refine (onSession_returns (h.commit_unchanged j.deliver c)).imp_returns ?_
      exact fun _ _ hd => ⟨by simpa [storeAfter, htold] using hd, rfl⟩
    | false =>
      refine (onSession_returns (h.commit_ok j.deliver c)).imp_returns ?_
      exact fun _ _ hd => ⟨by simpa [storeAfter, htold] using hd, rfl⟩

/-- An answered attempt. -/
theorem mark_ensures (h : o.Documented) (stuck : Bool) {attempt : ℕ}
    (hanswer : answered out attempt = true) :
    Ensures (With (Between o j c stuck) es) (mark o out attempt)
      (fun _ d => With (fun s => o.committed s = storeAfter o j c .delivered) (es ++ [.marked]) d ∧
        verdict out j.callbackDelivered stuck attempt = .marked)
      (fun _ => AfterFailure o j c es (verdict out j.callbackDelivered stuck attempt)) := by
  cases stuck with
  | true =>
    have hverdict : verdict out j.callbackDelivered true attempt = .failed true := by
      simp [verdict, hanswer]
    rw [hverdict]
    apply Ensures.bind (Q := fun _ => With (o.At .prepared j.deliver c) es)
    · exact ensures_update fun d hd => ⟨h.deliver_prepared j.deliver c d.session hd.1, hd.2⟩
    · intro _
      exact Ensures.bind (onSession_raises (h.save_prepared j.deliver c _)) fun _ => ensures_false
  | false =>
    apply Ensures.bind
      (Q := fun _ => With (o.At (if j.callbackDelivered then .ready else .changed) j.deliver c) es)
    · exact ensures_update fun d hd => ⟨h.deliver_ready j c d.session hd.1, hd.2⟩
    intro _
    refine Ensures.bind ((save_ensures h _).imp_raises ?_) fun _ => Ensures.given fun hflush => ?_
    · rintro _ d ⟨hd, hlost⟩
      have hverdict : verdict out j.callbackDelivered false attempt = .lost := by
        simp [verdict, hanswer, hlost]
      rw [hverdict]
      exact hd
    refine Ensures.bind ((commit_ensures h _).imp_raises ?_)
      fun _ => Ensures.given fun hcommit => ?_
    · rintro _ d ⟨hd, hcommit⟩
      have hverdict : verdict out j.callbackDelivered false attempt = .failed true := by
        simp [verdict, hanswer, hflush, hcommit]
      rw [hverdict]
      exact hd
    · refine ensures_update fun d hd => ⟨⟨hd.1, congrArg (· ++ _) hd.2⟩, ?_⟩
      simp [verdict, hanswer, hflush, hcommit]

/-- An attempt, by the answers alone. -/
theorem deliverOnce_ensures (h : o.Documented) (stuck : Bool) (attempt : ℕ) :
    Ensures (With (Between o j c stuck) es) (deliverOnce o out payload attempt)
      (fun _ d => With (fun s => o.committed s = storeAfter o j c .delivered)
          (es ++ [posted out payload j.callbackUrl attempt, .marked]) d ∧
        verdict out j.callbackDelivered stuck attempt = .marked)
      (fun _ => AfterFailure o j c (es ++ [posted out payload j.callbackUrl attempt])
        (verdict out j.callbackDelivered stuck attempt)) := by
  have hfailed : answered out attempt = false →
      verdict out j.callbackDelivered stuck attempt = .failed stuck := fun hno => by
    simp [verdict, hno]
  refine Ensures.bind (read_between h stuck) fun a => Ensures.given fun hurl => ?_
  rw [← hurl]
  refine Ensures.bind ((post_ensures attempt a.callbackUrl).imp_raises ?_) fun status =>
    Ensures.given fun hpost => ?_
  · rintro _ d ⟨hd, hno⟩
    rw [hfailed hno]
    exact hd
  refine ensures_ite (fun hstatus => ?_) fun hstatus => ?_
  · have hno : answered out attempt = false := by simpa [answered, hpost] using hstatus
    rw [hfailed hno]
    exact ensures_raise fun d hd => hd
  · have hanswer : answered out attempt = true := by simpa [answered, hpost] using hstatus
    exact (mark_ensures h stuck hanswer).imp_returns (by simp)

theorem sleep_ensures {P : S → Prop} (delay : ℚ) :
    Ensures (With P es) (sleep out delay) (fun _ d => With P es d ∧ out.sleep delay = none)
      (fun _ d => With P es d ∧ out.sleep delay ≠ none) := by
  unfold sleep
  cases hsleep : out.sleep delay with
  | none => exact ensures_pure fun d hd => ⟨hd, rfl⟩
  | some e => exact ensures_raise fun d hd => ⟨hd, by simp⟩

theorem pause_ensures {P : S → Prop} (delay : ℚ) :
    Ensures (With P es) (pause cfg out delay)
      (fun _ d => With P es d ∧ ¬ (cfg.callbackRetrySleep = true ∧ out.sleep delay ≠ none))
      (fun _ d => With P es d ∧ cfg.callbackRetrySleep = true ∧ out.sleep delay ≠ none) := by
  refine ensures_ite (fun hsleeps => ?_) fun hsleeps => ?_
  · refine ((sleep_ensures delay).imp_returns ?_).imp_raises ?_
    · exact fun _ _ hd => ⟨hd.1, by simp [hd.2]⟩
    · exact fun _ _ hd => ⟨hd.1, hsleeps, hd.2⟩
  · exact ensures_pure fun d hd => ⟨hd, by simp [hsleeps]⟩

theorem onFailure_ensures (h : o.Documented) (stuck : Bool) (attempt : ℕ) (delay : ℚ) :
    Ensures (With (Between o j c stuck) es) (onFailure o cfg out attempt delay)
      (fun next d => With (Between o j c stuck) es d ∧
        next = nextDelay cfg attempt delay ∧ ¬ Oversleeps cfg out attempt delay)
      (fun _ d => With (Between o j c stuck) es d ∧ Oversleeps cfg out attempt delay) := by
  refine Ensures.bind (read_between h stuck) fun _ => Ensures.given fun _ => ?_
  refine ensures_ite (fun hattempt => ?_) fun hattempt => ?_
  · refine Ensures.bind ((pause_ensures delay).imp_raises ?_) fun _ => ?_
    · exact fun _ _ hd => ⟨hd.1, hattempt, hd.2⟩
    · exact ensures_pure fun d hd => ⟨hd.1, by simp [nextDelay, hattempt], fun hover => hd.2 hover.2⟩
  · exact ensures_pure fun d hd =>
      ⟨hd, by simp [nextDelay, hattempt], fun hover => hattempt hover.1⟩

/-- After a failed flush the handler raises too. -/
theorem onFailure_lost (h : o.Documented) (attempt : ℕ) (delay : ℚ) :
    Ensures (With (o.Lost c) es) (onFailure o cfg out attempt delay) (fun _ _ => False)
      (fun _ => With (o.Lost c) es) :=
  Ensures.bind (onSession_raises (h.read_rolledBack c)) fun _ => ensures_false

theorem Between.committed {stuck : Bool} {s : S} (hs : Between o j c stuck s) :
    o.committed s = c := by
  cases stuck with
  | false => exact hs.2.2
  | true => exact hs.2.2

/-- What a turn leaves when it returns. -/
def Turned (o : JobSession S) (cfg : CallbackSettings) (out : Replies) (j : Job) (c : Store)
    (es : List DeliveryEvent) (ev : DeliveryEvent) (attempt : ℕ) (delay : ℚ) (v : Verdict) :
    Option ℚ → Delivery S → Prop
  | none => fun d => v = .marked ∧
      With (fun s => o.committed s = storeAfter o j c .delivered) (es ++ [ev, .marked]) d
  | some next => fun d => ∃ stuck, v = .failed stuck ∧ ¬ Oversleeps cfg out attempt delay ∧
      next = nextDelay cfg attempt delay ∧ With (Between o j c stuck) (es ++ [ev]) d

theorem turn_ensures (h : o.Documented) (attempt : ℕ) (delay : ℚ) (stuck : Bool) :
    Ensures (With (Between o j c stuck) es) (turn o cfg out payload attempt delay)
      (Turned o cfg out j c es (posted out payload j.callbackUrl attempt) attempt delay
        (verdict out j.callbackDelivered stuck attempt))
      (fun _ d => With (fun s => o.committed s = c)
          (es ++ [posted out payload j.callbackUrl attempt]) d ∧
        (verdict out j.callbackDelivered stuck attempt = .lost ∨
          ∃ stuck', verdict out j.callbackDelivered stuck attempt = .failed stuck' ∧
            Oversleeps cfg out attempt delay)) := by
  refine Ensures.attempt (Ensures.bind (deliverOnce_ensures h stuck attempt) fun _ => ?_) fun _ => ?_
  · exact ensures_pure fun d hd => ⟨hd.2, hd.1⟩
  · cases verdict out j.callbackDelivered stuck attempt with
    | marked => exact ensures_false
    | lost =>
      refine Ensures.bind ((onFailure_lost h attempt delay).imp_raises ?_) fun _ => ensures_false
      exact fun _ d hd => ⟨⟨hd.1.2.2, hd.2⟩, .inl rfl⟩
    | failed stuck' =>
      refine Ensures.bind ((onFailure_ensures h stuck' attempt delay).imp_raises ?_) fun next => ?_
      · exact fun _ d hd => ⟨⟨hd.1.1.committed, hd.1.2⟩, .inr ⟨stuck', rfl, hd.2⟩⟩
      · exact ensures_pure fun d hd => ⟨stuck', rfl, hd.2.2, hd.2.1, hd.1⟩

/-- The course of the delivery of one job's callback. -/
def courseOf (cfg : CallbackSettings) (out : Replies) (payload : CallbackPayload) (j : Job) :
    ℕ → ℕ → ℚ → Bool → List DeliveryEvent × Ending :=
  course cfg out j.callbackDelivered (posted out payload j.callbackUrl)

/-- What a course leaves. -/
def Followed (o : JobSession S) (j : Job) (c : Store) (es : List DeliveryEvent)
    (r : List DeliveryEvent × Ending) : Delivery S → Prop :=
  With (fun s => o.committed s = storeAfter o j c r.2) (es ++ r.1)

/-- The loop takes its course. -/
theorem loop_ensures (h : o.Documented) (left attempt : ℕ) (delay : ℚ) (stuck : Bool) :
    Ensures (With (Between o j c stuck) es) (loop o cfg out payload left attempt delay)
      (fun _ d => Followed o j c es (courseOf cfg out payload j left attempt delay stuck) d ∧
        (courseOf cfg out payload j left attempt delay stuck).2 ≠ .raised)
      (fun _ d => Followed o j c es (courseOf cfg out payload j left attempt delay stuck) d ∧
        (courseOf cfg out payload j left attempt delay stuck).2 = .raised) := by
  induction left generalizing attempt delay stuck es with
  | zero =>
    refine ensures_pure fun d hd => ?_
    simpa [courseOf, course, Followed, With, storeAfter] using ⟨hd.1.committed, hd.2⟩
  | succ left ih =>
    refine Ensures.bind ((turn_ensures h attempt delay stuck).imp_raises ?_) fun next => ?_
    · rintro _ d ⟨hd, hlost | ⟨stuck', hfailed, hover⟩⟩
      · simpa [courseOf, course, hlost, Followed, With, storeAfter] using hd
      · simpa [courseOf, course, hfailed, hover, Followed, With, storeAfter] using hd
    · cases next with
      | none =>
        refine ensures_pure fun d hd => ?_
        simpa [courseOf, course, hd.1, Followed, With] using hd.2
      | some next =>
        rintro d ⟨stuck', hfailed, hover, rfl, hd⟩
        have hrest := ih (attempt + 1) (nextDelay cfg attempt delay) stuck' d hd
        simpa [courseOf, course, hfailed, hover, Followed] using hrest

/-- The course of a call, for a job of these rows. -/
def deliveryCourse (o : JobSession S) (cfg : CallbackSettings) (out : Replies) (j : Job) (c : Store) :
    List DeliveryEvent × Ending :=
  if out.listing = none then
    courseOf cfg out (payloadOf o.job j (c.docsForJob o.job).length) j cfg.callbackRetryAttempts 1
      cfg.callbackRetryBackoff false
  else ([], .raised)

theorem list_ensures (h : o.Documented) (answer : Option String) :
    Ensures (With (o.At .ready j c) es) (onSession (o.listForJob answer))
      (fun docs d => With (o.At .ready j c) es d ∧
        answer = none ∧ docs.length = (c.docsForJob o.job).length)
      (fun _ d => With (fun s => o.committed s = c) es d ∧ answer ≠ none) := by
  cases answer with
  | none =>
    refine (onSession_returns (h.list_ok j c)).imp_returns ?_
    exact fun docs d hd => ⟨⟨hd.1.2, hd.2⟩, rfl, hd.1.1.length_eq⟩
  | some e =>
    exact (onSession_raises (R := fun s => o.committed s = c) (h.list_error j c e)).imp_raises
      fun _ _ hd => ⟨hd, by simp⟩

/-- A call takes its course. -/
theorem fireCallback_ensures (h : o.Documented) (cfg : CallbackSettings) (out : Replies) :
    Ensures (With (o.At .ready j c) []) (fireCallback o cfg out)
      (fun _ d => Followed o j c [] (deliveryCourse o cfg out j c) d ∧
        (deliveryCourse o cfg out j c).2 ≠ .raised)
      (fun _ d => Followed o j c [] (deliveryCourse o cfg out j c) d ∧
        (deliveryCourse o cfg out j c).2 = .raised) := by
  refine Ensures.bind (read_between h false) fun _ => Ensures.given fun _ => ?_
  refine Ensures.bind ((list_ensures h out.listing).imp_raises ?_)
    fun docs => Ensures.given fun hlist => ?_
  · rintro _ d ⟨hd, hlist⟩
    simpa [deliveryCourse, hlist, Followed, With, storeAfter] using hd
  refine Ensures.bind (read_ready h) fun a => Ensures.given fun ha => ?_
  subst ha
  simp only [deliveryCourse, if_pos hlist.1, ← hlist.2]
  exact loop_ensures h cfg.callbackRetryAttempts 1 cfg.callbackRetryBackoff false

end Session

end Callback
end ResearchEngine
