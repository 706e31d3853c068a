import ResearchEngine.DocumentCall
import ResearchEngine.SearchedAddress
import ResearchEngine.SourceCrash

/-! The retrying HTTP session, and what a step says about a source that keeps answering with an
error status: the session picks the exception, the classifier goes by the exception. -/
namespace ResearchEngine
namespace HttpSession

/-- One answer to a request. -/
structure Response (B : Type) where
  status : ℕ
  /-- `r.json()` -/
  json : Except PyErr B

/-- The texts of the exceptions about a status. -/
structure StatusTexts where
  retryError : ℕ → String
  httpError : ℕ → String

/-- `_retry.status_forcelist` -/
def statusForcelist : List ℕ := [429, 500, 502, 503, 504]

/-- `_retry.total` -/
def retryTotal : ℕ := 2

section Session

variable {B : Type} (texts : StatusTexts) (answer : ℕ → Response B)

/-- `_session.get` from one attempt on. A `RetryError` is neither an `HTTPError` nor a
`Timeout` nor a `ConnectionError`. -/
def send (attempt : ℕ) : ℕ → Except PyErr (Response B)
  | 0 =>
    if (answer attempt).status ∈ statusForcelist then
      .error (.other (texts.retryError (answer attempt).status))
    else .ok (answer attempt)
  | retries + 1 =>
    if (answer attempt).status ∈ statusForcelist then send (attempt + 1) retries
    else .ok (answer attempt)

/-- `r.raise_for_status()` -/
def raiseForStatus (r : Response B) : Except PyErr Unit :=
  if 400 ≤ r.status then .error (.http (some r.status) (texts.httpError r.status)) else .ok ()

/-- `get_json`; `answer n` is what the source says to the attempt after `n` retries. -/
def getJson : Except PyErr B := do
  let r ← send texts answer 0 retryTotal
  raiseForStatus texts r
  r.json

/-- The exception that a status ends with when it stays. -/
def persistentError (s : ℕ) : PyErr :=
  if s ∈ statusForcelist then .other (texts.retryError s) else .http (some s) (texts.httpError s)

variable {texts answer} {s : ℕ}

theorem send_persistent (hstays : ∀ n, (answer n).status = s) (attempt retries : ℕ) :
    send texts answer attempt retries =
      if s ∈ statusForcelist then .error (.other (texts.retryError s)) else .ok (answer attempt) := by
  induction retries generalizing attempt with
  | zero => rw [send, hstays]
  | succ retries ih =>
    rw [send, hstays, ih]
    split <;> rfl

theorem getJson_persistent (hs : 400 ≤ s) (hstays : ∀ n, (answer n).status = s) :
    getJson texts answer = .error (persistentError texts s) := by
  unfold getJson persistentError
  rw [send_persistent hstays]
  split
  · rfl
  · show (raiseForStatus texts (answer 0) >>= fun _ => (answer 0).json) = _
    unfold raiseForStatus
    rw [hstays, if_pos hs]
    rfl

end Session

/-- The outcome and the retryability that the source contract gives an error status. -/
def documentedFailure (s : ℕ) : Option (SourceOutcome × Bool) :=
  if s ∈ [401, 403, 406, 429] then some (.blocked, false)
  else if s ∈ [404, 410] then some (.broken, false)
  else if 500 ≤ s ∧ s ≤ 599 then some (.broken, true)
  else none

/-- A step says about an error status what the contract says. -/
def Documented (s : ℕ) (step : StepResult) : Prop :=
  ∀ f, documentedFailure s = some f →
    step.sourceOutcome = f.1 ∧ step.error.map ErrorInfo.retryable = some f.2

/-- As an `HTTPError`, every status is classified as documented. -/
theorem failureOf_http {s : ℕ} (text : String) {f : SourceOutcome × Bool}
    (hf : documentedFailure s = some f) :
    (Steps.failureOf (.http (some s) text)).1 = f.1 ∧
      (Steps.failureOf (.http (some s) text)).2.retryable = f.2 := by
  unfold documentedFailure at hf
  split at hf
  · rename_i hblocked
    obtain rfl := Option.some.inj hf
    simp only [List.mem_cons, List.not_mem_nil, or_false] at hblocked
    rcases hblocked with rfl | rfl | rfl | rfl <;> exact ⟨rfl, rfl⟩
  · rename_i hblocked
    split at hf
    · rename_i hgone
      obtain rfl := Option.some.inj hf
      simp only [List.mem_cons, List.not_mem_nil, or_false] at hgone
      rcases hgone with rfl | rfl <;> exact ⟨rfl, rfl⟩
    · split at hf
      · rename_i hserver
        obtain rfl := Option.some.inj hf
        simp only [Steps.failureOf, Steps.classifyException]
        split <;> rename_i heq
        all_goals first
          | exact ⟨rfl, rfl⟩
          | (obtain rfl := Option.some.inj heq; omega)
      · cases hf

/-- Every status of the force list is in the contract, and no `retryable` is. -/
theorem documentedFailure_forcelist {s : ℕ} (h : s ∈ statusForcelist) :
    ∃ f, documentedFailure s = some f ∧ f.1 ≠ .retryable := by
  simp only [statusForcelist, List.mem_cons, List.not_mem_nil, or_false] at h
  rcases h with rfl | rfl | rfl | rfl | rfl <;> exact ⟨_, rfl, by decide⟩

section Step

variable {B : Type} {d : ResidentialDoc} {adapter : SourceAdapter} {ctx : PropertyContext}

/-- An exception that is no `SourceError` always ends in a step, which carries its class. -/
theorem runOne_raised {e : PyErr} (hf : (adapter.fetch ctx).1 = .error e)
    (hs : Steps.isSourceError e = false) :
    ∃ step, (Steps.runOne d adapter ctx).1 = .ok step ∧
      step.sourceOutcome = (Steps.failureOf e).1 ∧ step.error = some (Steps.failureOf e).2 := by
  have hcase := Steps.runOne_cases d adapter ctx
  generalize Steps.runOne d adapter ctx = r at hcase ⊢
  cases hcase with
  | fetched hf' =>
    rw [hf'] at hf
    cases hf
  | fallback hf' hb =>
    rw [hf'] at hf
    obtain rfl := Except.error.inj hf
    exact ⟨_, rfl, rfl, rfl⟩
  | escaped hf' hs' hb =>
    rw [hf'] at hf
    obtain rfl := Except.error.inj hf
    rw [hs] at hs'
    cases hs'
  | lastResort hf' hs' hb =>
    rw [hf'] at hf
    obtain rfl := Except.error.inj hf
    exact ⟨_, rfl, rfl, rfl⟩

/-- A status that a source keeps answering with is classified as the contract says exactly when
the session does not retry it. -/
theorem status_documented_iff (texts : StatusTexts) (answer : ℕ → Response B) (s : ℕ)
    (hs : 400 ≤ s) (hstays : ∀ n, (answer n).status = s) (d : ResidentialDoc)
    (adapter : SourceAdapter) (ctx : PropertyContext)
    (hfetch : ∀ e, getJson texts answer = .error e → (adapter.fetch ctx).1 = .error e) :
    (∃ step, (Steps.runOne d adapter ctx).1 = .ok step ∧ Documented s step) ↔
      s ∉ statusForcelist := by
  have hraised := hfetch _ (getJson_persistent hs hstays)
  have hsource : Steps.isSourceError (persistentError texts s) = false := by
    unfold persistentError
    split <;> rfl
  obtain ⟨step, hstep, houtcome, herror⟩ := runOne_raised (d := d) hraised hsource
  constructor
  · rintro ⟨step', hstep', hdoc⟩ hforce
    obtain rfl := Except.ok.inj (hstep.symm.trans hstep')
    obtain ⟨f, hf, hne⟩ := documentedFailure_forcelist hforce
    have hother : (Steps.failureOf (persistentError texts s)).1 = .retryable := by
      rw [persistentError, if_pos hforce]
      rfl
    exact hne ((hdoc f hf).1.symm.trans (houtcome.trans hother))
  · intro hforce
    refine ⟨step, hstep, fun f hf => ?_⟩
    rw [houtcome, herror, persistentError, if_neg hforce]
    obtain ⟨hclass, hretry⟩ := failureOf_http (texts.httpError s) hf
    exact ⟨hclass, congrArg some hretry⟩

end Step

section Concrete

open scoped PyText.Ascii PyFloat.Whole

def sampleTexts : StatusTexts where
  retryError s := "too many " ++ toString s ++ " error responses"
  httpError s := toString s ++ " Server Error"

/-- A source that never answers with anything but a status. -/
def stuckAt (s : ℕ) : ℕ → Response (List Attrs) := fun _ => ⟨s, .error (.other "no JSON")⟩

/-- The shipped flood adapter, over such a source. -/
def stuckFlood (s : ℕ) : SourceAdapter :=
  Adapters.plainAdapter (Adapters.floodFetch
    { Fetching.sampleSources with floodZones := getJson sampleTexts (stuckAt s) })
    fun _ => Adapters.floodFallback

theorem stuckFlood_raises (s : ℕ) (ctx : PropertyContext) (e : PyErr)
    (h : getJson sampleTexts (stuckAt s) = .error e) : ((stuckFlood s).fetch ctx).1 = .error e := by
  simp only [stuckFlood, Adapters.plainAdapter, Adapters.floodFetch, Adapters.flood, h]
  rfl

theorem not_found_documented :
    ∃ step, (Steps.runOne (Steps.entry .flood) (stuckFlood 404) Steps.bareContext).1 = .ok step ∧
      Documented 404 step :=
  (status_documented_iff sampleTexts (stuckAt 404) 404 (by decide) (fun _ => rfl)
    (Steps.entry .flood) _ _ (stuckFlood_raises 404 _)).mpr (by decide)

/-- A server that is down for good is not `broken` but `retryable`, and a rate limit too. -/
theorem unavailable_undocumented :
    (Steps.runOne (Steps.entry .flood) (stuckFlood 503) Steps.bareContext).1.toOption.map
        StepResult.sourceOutcome = some .retryable ∧
      (Steps.runOne (Steps.entry .flood) (stuckFlood 429) Steps.bareContext).1.toOption.map
        (fun step => (step.sourceOutcome, step.error.map ErrorInfo.retryable)) =
          some (.retryable, some true) ∧
      ¬ ∀ (texts : StatusTexts) (answer : ℕ → Response (List Attrs)) (s : ℕ), 400 ≤ s →
        (∀ n, (answer n).status = s) → ∀ (d : ResidentialDoc) (adapter : SourceAdapter)
          (ctx : PropertyContext),
          (∀ e, getJson texts answer = .error e → (adapter.fetch ctx).1 = .error e) →
          ∃ step, (Steps.runOne d adapter ctx).1 = .ok step ∧ Documented s step := by
  refine ⟨rfl, rfl, fun hall => ?_⟩
  obtain ⟨step, hstep, hdoc⟩ := hall sampleTexts (stuckAt 503) 503 (by decide) (fun _ => rfl)
    (Steps.entry .flood) (stuckFlood 503) Steps.bareContext (stuckFlood_raises 503 _)
  obtain rfl := Except.ok.inj (hstep.symm.trans rfl)
  exact absurd (hdoc _ rfl).1 (by decide)

end Concrete

end HttpSession
end ResearchEngine
