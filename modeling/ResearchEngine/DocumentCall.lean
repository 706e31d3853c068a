import ResearchEngine.DocumentFetcher

/-! One `document_fetcher` call asks for one document type, so its research run has
one step: the call is that step, settled. -/
namespace ResearchEngine
namespace Steps

/-- The reference document of a step. -/
def entry (key : StepKey) : ResidentialDoc :=
  (residentialDocs.find? fun d => d.key = key).getD ⟨key, "", "", ""⟩

@[simp] theorem entry_key (key : StepKey) : (entry key).key = key := by cases key <;> rfl

/-- One turn of the loop of `build_steps`. -/
def turn (adapters : StepKey → Option SourceAdapter) (key : StepKey) (ctx : PropertyContext) :
    Except PyErr StepResult × PropertyContext :=
  match adapters key with
  | none => assembled (assemble ctx (entry key) {} .linkOnly none .low)
  | some adapter => runOne (entry key) adapter ctx

/-- Reference documents that are not wanted are passed over. -/
theorem stepsFor_skip {adapters : StepKey → Option SourceAdapter} {key : StepKey}
    {ds : List ResidentialDoc} (h : ∀ d ∈ ds, d.key ≠ key) (ds' : List ResidentialDoc)
    (ctx : PropertyContext) :
    stepsFor adapters (some [key]) (ds ++ ds') ctx = stepsFor adapters (some [key]) ds' ctx := by
  induction ds with
  | nil => rfl
  | cons d ds ih =>
    have hd : (some [key]).any (fun keys => decide (d.key ∉ keys)) = true := by
      simpa using h d List.mem_cons_self
    rw [List.cons_append, stepsFor, if_pos hd]
    exact ih fun d' hd' => h d' (List.mem_cons_of_mem _ hd')

/-- The reference documents around the one of a key. -/
theorem residentialDocs_split (key : StepKey) : ∃ before after,
    residentialDocs = before ++ entry key :: after ∧ (∀ d ∈ before, d.key ≠ key) ∧
      ∀ d ∈ after, d.key ≠ key := by
  refine ⟨residentialDocs.takeWhile (fun d => d.key ≠ key),
    (residentialDocs.dropWhile fun d => d.key ≠ key).tail, ?_⟩
  cases key <;> decide

/-- When one key is wanted, `build_steps` takes one turn. -/
theorem stepsFor_single (adapters : StepKey → Option SourceAdapter) (key : StepKey)
    (ctx : PropertyContext) :
    (stepsFor adapters (some [key]) residentialDocs ctx).1 =
      (turn adapters key ctx).1.map fun step => [step] := by
  obtain ⟨before, after, hdocs, hbefore, hafter⟩ := residentialDocs_split key
  have hrest : ∀ ctx', stepsFor adapters (some [key]) after ctx' = (.ok [], ctx') := by
    intro ctx'
    have hskip : stepsFor adapters (some [key]) (after ++ []) ctx' = _ := stepsFor_skip hafter [] ctx'
    rwa [List.append_nil] at hskip
  have hwant : ¬ (some [key]).any (fun keys => decide ((entry key).key ∉ keys)) = true := by simp
  rw [hdocs, stepsFor_skip hbefore, stepsFor, if_neg hwant]
  simp only [hrest, entry_key, turn]
  cases adapters key with
  | none => rfl
  | some adapter =>
    simp only
    obtain ⟨result, ctx'⟩ := runOne (entry key) adapter ctx
    cases result <;> rfl

theorem runOne_key {d : ResidentialDoc} {adapter : SourceAdapter} {ctx : PropertyContext}
    {step : StepResult} (h : (runOne d adapter ctx).1 = .ok step) : step.key = d.key := by
  have hcase := runOne_cases d adapter ctx
  generalize runOne d adapter ctx = r at hcase h
  cases hcase with
  | escaped => cases h
  | _ =>
    obtain rfl := Except.ok.inj h
    rfl

theorem turn_key {adapters : StepKey → Option SourceAdapter} {key : StepKey}
    {ctx : PropertyContext} {step : StepResult} (h : (turn adapters key ctx).1 = .ok step) :
    step.key = key := by
  unfold turn at h
  split at h
  · obtain rfl := Except.ok.inj h
    exact entry_key key
  · exact (runOne_key h).trans (entry_key key)

end Steps

namespace Fetching

variable [PyText] {A : Type} (eng : Engine A)

/-- The one step of a call, from the resolved context on. -/
def stepOn (input : ResearchInput A) (docType : DocType) (ctx : PropertyContext) :
    Except PyErr StepResult := do
  input.staging.docsDir
  let step ← (Steps.turn (eng.adapters input.sources) (docTypeToStep docType) ctx).1
  input.staging.writeManifest
  input.staging.writeResult
  return step

/-- What a call for one document comes to once the property is resolved. -/
def outcomeOn (input : ResearchInput A) (order : OrderData) (tenantId : Uuid) (docType : DocType)
    (resolved : Except PyErr PropertyContext) (ev : Evidence) : FetchOutcome × Evidence :=
  match resolved.bind (stepOn eng input docType) with
  | .error e => (.error e.text, ev)
  | .ok step =>
    let done := settleStep eng input order (some tenantId) docType step ev
    (.ok done.1, done.2)

omit [PyText] in
/-- A research run for one document type has that one step. -/
theorem researchOn_steps (input : ResearchInput A) (docType : DocType) (ctx : PropertyContext) :
    (Steps.researchOn (eng.adapters input.sources) input.staging
        (some [docTypeToStep docType]) ctx).map ResearchResult.steps =
      (stepOn eng input docType ctx).map fun step => [step] := by
  have hsteps := Steps.stepsFor_single (eng.adapters input.sources) (docTypeToStep docType) ctx
  unfold Steps.researchOn Steps.buildSteps stepOn
  cases input.staging.docsDir with
  | error e => rfl
  | ok _ =>
    generalize Steps.stepsFor (eng.adapters input.sources) (some [docTypeToStep docType])
      Steps.residentialDocs ctx = run at hsteps ⊢
    obtain ⟨result, ctx'⟩ := run
    dsimp only at hsteps
    subst hsteps
    cases (Steps.turn (eng.adapters input.sources) (docTypeToStep docType) ctx).1 with
    | error e => rfl
    | ok step =>
      cases input.staging.writeManifest with
      | error e => rfl
      | ok _ => cases input.staging.writeResult <;> rfl

omit [PyText] in
theorem stepOn_eq_ok_iff {input : ResearchInput A} {docType : DocType} {ctx : PropertyContext}
    {step : StepResult} :
    stepOn eng input docType ctx = .ok step ↔
      input.staging.docsDir = .ok () ∧
        (Steps.turn (eng.adapters input.sources) (docTypeToStep docType) ctx).1 = .ok step ∧
        input.staging.writeManifest = .ok () ∧ input.staging.writeResult = .ok () := by
  constructor
  · intro h
    obtain ⟨_, hdir, h⟩ := bind_eq_ok.mp h
    obtain ⟨step', hturn, h⟩ := bind_eq_ok.mp h
    obtain ⟨_, hmanifest, h⟩ := bind_eq_ok.mp h
    obtain ⟨_, hresult, h⟩ := bind_eq_ok.mp h
    obtain rfl := Except.ok.inj h
    exact ⟨hdir, hturn, hmanifest, hresult⟩
  · rintro ⟨hdir, hturn, hmanifest, hresult⟩
    rw [stepOn, hdir, hturn, hmanifest, hresult]
    rfl

omit [PyText] in
theorem stepOn_key {input : ResearchInput A} {docType : DocType} {ctx : PropertyContext}
    {step : StepResult} (h : stepOn eng input docType ctx = .ok step) :
    step.key = docTypeToStep docType :=
  Steps.turn_key ((stepOn_eq_ok_iff eng).mp h).2.1

theorem settleSteps_single (input : ResearchInput A) (order : OrderData) (tenantId : Option Uuid)
    {docType : DocType} {step : StepResult} (hkey : step.key = docTypeToStep docType)
    (ev : Evidence) :
    settleSteps eng input order tenantId [docType] [step] ev =
      (fun d => if d = docType then
          some (settleStep eng input order tenantId docType step ev).1 else none,
        (settleStep eng input order tenantId docType step ev).2) := by
  have hwanted : (stepToDocType step.key).filter (· ∈ [docType]) = some docType := by
    simp [hkey]
  simp only [settleSteps, hwanted, Option.none_or]

variable [PyFloat]

/-- A call for an order resolves the property, and settles one step of what it resolved. -/
theorem documentFetcher_call (input : ResearchInput A) (order : OrderData) (docType : DocType)
    (tenantId : Uuid) (w : World) :
    documentFetcher eng input ⟨some order, docType, tenantId⟩ w =
      let resolved := resolveOrder eng input order [docType]
      let done := outcomeOn eng input order tenantId docType resolved w.evidence
      (done.1, ⟨done.2, resolved :: w.resolutions⟩) := by
  simp only [documentFetcher, fetch, outcomeOn, List.isEmpty_cons, Bool.false_eq_true, if_false]
  cases resolveOrder eng input order [docType] with
  | error e => rfl
  | ok ctx =>
    have hsteps := researchOn_steps eng input docType ctx
    simp only [fetchOn, List.map_cons, List.map_nil, Except.bind]
    cases hstep : stepOn eng input docType ctx with
    | error e =>
      rw [hstep] at hsteps
      cases hrun : Steps.researchOn (eng.adapters input.sources) input.staging
          (some [docTypeToStep docType]) ctx with
      | error e' =>
        rw [hrun] at hsteps
        obtain rfl : e' = e := Except.error.inj hsteps
        rfl
      | ok result =>
        rw [hrun] at hsteps
        cases hsteps
    | ok step =>
      rw [hstep] at hsteps
      obtain ⟨result, hrun, hone⟩ := map_eq_ok.mp hsteps
      rw [hrun]
      simp only [hone, settleSteps_single eng input order (some tenantId) (stepOn_key eng hstep),
        if_true]

end Fetching
end ResearchEngine
