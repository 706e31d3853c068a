import ResearchEngine.ConfirmedParcel
import ResearchEngine.StepAssembly
import Mathlib.Data.List.Forall2

/-! Which behaviour of an adapter gets out of `build_steps` as an exception. Here the
construction of a step may fail too: its model validates the fields. -/
namespace ResearchEngine

/-- `StepResult(...)` as a check of what an adapter returned. -/
structure StepModel where
  /-- The text of the `ValidationError`; `none` for well-formed fields. -/
  invalid : FetchedSource → Option String
  /-- A link step with nothing but a summary is well-formed. -/
  blank : ∀ summary, invalid { summary := summary } = none

namespace Steps

section Checked

variable (m : StepModel) (adapters : StepKey → Option SourceAdapter)

/-- `ctx.log` for every record of a source. -/
def logRecords (ctx : PropertyContext) (fs : FetchedSource) : PropertyContext :=
  { ctx with manifest := ctx.manifest ++ fs.records }

/-- `_assemble`; the records are logged before the step is made. -/
def assembleStep (ctx : PropertyContext) (d : ResidentialDoc) (fs : FetchedSource)
    (outcome : SourceOutcome) (error : Option ErrorInfo) (confidence : Confidence) :
    Except PyErr StepResult × PropertyContext :=
  match m.invalid fs with
  | some message => (.error (.other message), logRecords ctx fs)
  | none => (.ok (assemble ctx d fs outcome error confidence).1, logRecords ctx fs)

/-- The `try` block of `_run_one`. -/
def attempt (d : ResidentialDoc) (adapter : SourceAdapter) (ctx : PropertyContext) :
    Except PyErr StepResult × PropertyContext :=
  match adapter.fetch ctx with
  | (.error e, ctx) => (.error e, ctx)
  | (.ok fs, ctx) =>
    assembleStep m ctx d fs (outcomeFor fs) none
      (fs.confidence.getD (defaultConfidence fs.status fs.manualReview))

/-- The two `except` arms of `_run_one`. -/
def recoverStep (d : ResidentialDoc) (adapter : SourceAdapter) (e : PyErr) (ctx : PropertyContext) :
    Except PyErr StepResult × PropertyContext :=
  let (outcome, error) := failureOf e
  match e, adapter.fallback ctx with
  | _, (.ok fs, ctx) => assembleStep m ctx d fs outcome (some error) .none
  | .source .., (.error e, ctx) => (.error e, ctx)
  | _, (.error _, ctx) => assembleStep m ctx d lastResort outcome (some error) .none

/-- `_run_one` -/
def runOneWith (d : ResidentialDoc) (adapter : SourceAdapter) (ctx : PropertyContext) :
    Except PyErr StepResult × PropertyContext :=
  match attempt m d adapter ctx with
  | (.ok step, ctx) => (.ok step, ctx)
  | (.error e, ctx) => recoverStep m d adapter e ctx

/-- The turn of one entry of the reference documents. -/
def docTurn (d : ResidentialDoc) (ctx : PropertyContext) : Except PyErr StepResult × PropertyContext :=
  match adapters d.key with
  | none => assembleStep m ctx d {} .linkOnly none .low
  | some adapter => runOneWith m d adapter ctx

/-- The loop of `build_steps`. -/
def stepsForWith (wanted : Option (List StepKey)) :
    List ResidentialDoc → PropertyContext → Except PyErr (List StepResult) × PropertyContext
  | [], ctx => (.ok [], ctx)
  | d :: ds, ctx =>
    if wanted.any fun keys => d.key ∉ keys then stepsForWith wanted ds ctx
    else
      match docTurn m adapters d ctx with
      | (.error e, ctx) => (.error e, ctx)
      | (.ok step, ctx) =>
        match stepsForWith wanted ds ctx with
        | (.error e, ctx) => (.error e, ctx)
        | (.ok steps, ctx) => (.ok (step :: steps), ctx)

/-- `build_steps` -/
def buildStepsWith (staging : Staging) (wanted : Option (List StepKey)) (ctx : PropertyContext) :
    Except PyErr (List StepResult) × PropertyContext :=
  match staging.docsDir with
  | .error e => (.error e, ctx)
  | .ok _ => stepsForWith m adapters wanted residentialDocs ctx

end Checked

/-! With a model that accepts every step this is `buildSteps`. -/

section Accepting

variable {m : StepModel} (hm : ∀ fs, m.invalid fs = none)

include hm

theorem assembleStep_accepting (ctx : PropertyContext) (d : ResidentialDoc) (fs : FetchedSource)
    (outcome : SourceOutcome) (error : Option ErrorInfo) (confidence : Confidence) :
    assembleStep m ctx d fs outcome error confidence =
      assembled (assemble ctx d fs outcome error confidence) := by
  simp only [assembleStep, hm]
  rfl

theorem runOneWith_accepting (d : ResidentialDoc) (adapter : SourceAdapter)
    (ctx : PropertyContext) : runOneWith m d adapter ctx = runOne d adapter ctx := by
  unfold runOneWith attempt runOne
  cases adapter.fetch ctx with
  | mk result ctx' =>
    cases result with
    | ok fs =>
      dsimp only
      rw [assembleStep_accepting hm]
      rfl
    | error e =>
      unfold recoverStep
      dsimp only
      generalize adapter.fallback ctx' = fallen
      obtain ⟨e' | fs, ctx''⟩ := fallen
      · cases e with
        | source => rfl
        | http | network | other => exact assembleStep_accepting hm ..
      · exact assembleStep_accepting hm ..

theorem buildStepsWith_accepting (adapters : StepKey → Option SourceAdapter) (staging : Staging)
    (wanted : Option (List StepKey)) (ctx : PropertyContext) :
    buildStepsWith m adapters staging wanted ctx = buildSteps adapters staging wanted ctx := by
  have hloop : ∀ ds ctx, stepsForWith m adapters wanted ds ctx = stepsFor adapters wanted ds ctx := by
    intro ds
    induction ds with
    | nil => exact fun ctx => rfl
    | cons d ds ih =>
      intro ctx
      have hturn : docTurn m adapters d ctx = match adapters d.key with
          | none => assembled (assemble ctx d {} .linkOnly none .low)
          | some adapter => runOne d adapter ctx := by
        unfold docTurn
        cases adapters d.key with
        | none => exact assembleStep_accepting hm ..
        | some adapter => exact runOneWith_accepting hm ..
      unfold stepsForWith
      simp only [hturn, ih]
      rfl
  unfold buildStepsWith buildSteps
  cases staging.docsDir with
  | error e => rfl
  | ok _ => exact hloop residentialDocs ctx

end Accepting

/-! What an adapter does in its turn. -/

section Turns

variable (m : StepModel) (adapters : StepKey → Option SourceAdapter)

/-- `fetch` returns, and what it returns makes a step. -/
def Yields (adapter : SourceAdapter) (ctx : PropertyContext) : Prop :=
  match (adapter.fetch ctx).1 with
  | .ok fs => m.invalid fs = none
  | .error _ => False

/-- The exception that the turn has to recover from and the context then, when `fetch` does
not yield the step. -/
def failure (adapter : SourceAdapter) (ctx : PropertyContext) : Option (PyErr × PropertyContext) :=
  match adapter.fetch ctx with
  | (.error e, ctx) => some (e, ctx)
  | (.ok fs, ctx) => (m.invalid fs).map fun message => (.other message, logRecords ctx fs)

/-- The fallback after `e` raises where no `except` arm guards it, or returns what does not
make a step. -/
def Unguarded (e : PyErr) : Except PyErr FetchedSource → Prop
  | .ok fs => m.invalid fs ≠ none
  | .error _ => isSourceError e = true

/-- `fetch` fails, and then the fallback does, unguarded. -/
def Escapes (adapter : SourceAdapter) (ctx : PropertyContext) : Prop :=
  ∃ e ctx', failure m adapter ctx = some (e, ctx') ∧ Unguarded m e (adapter.fallback ctx').1

/-- The step of one entry: with an error exactly when its adapter's `fetch` was asked and did
not yield it. -/
structure StepOf (d : ResidentialDoc) (ctx : PropertyContext) (step : StepResult) : Prop where
  key : step.key = d.key
  error : step.error.isSome = true ↔ ∃ a, adapters d.key = some a ∧ ¬ Yields m a ctx

/-- The adapter of the entry lets an exception out of its turn. -/
def Crashes (d : ResidentialDoc) (ctx : PropertyContext) : Prop :=
  ∃ a, adapters d.key = some a ∧ Escapes m a ctx

variable {m adapters} {d : ResidentialDoc} {ctx : PropertyContext} {a : SourceAdapter}

theorem yields_iff : Yields m a ctx ↔ failure m a ctx = none := by
  unfold Yields failure
  rcases a.fetch ctx with ⟨e | fs, ctx'⟩ <;> simp

theorem assembleStep_ok {fs : FetchedSource} (h : m.invalid fs = none) (outcome : SourceOutcome)
    (error : Option ErrorInfo) (confidence : Confidence) :
    (assembleStep m ctx d fs outcome error confidence).1 =
      .ok (assemble ctx d fs outcome error confidence).1 := by
  simp only [assembleStep, h]

theorem runOneWith_of_yields (h : Yields m a ctx) : ∃ step,
    (runOneWith m d a ctx).1 = .ok step ∧ step.key = d.key ∧ step.error = none := by
  unfold Yields at h
  unfold runOneWith attempt
  generalize a.fetch ctx = fetched at h ⊢
  obtain ⟨e | fs, ctx'⟩ := fetched
  · exact h.elim
  · have hfs : m.invalid fs = none := h
    simp only [assembleStep, hfs]
    exact ⟨_, rfl, rfl, rfl⟩

theorem runOneWith_of_failure {e : PyErr} {ctx' : PropertyContext}
    (h : failure m a ctx = some (e, ctx')) : runOneWith m d a ctx = recoverStep m d a e ctx' := by
  unfold failure at h
  unfold runOneWith attempt
  generalize a.fetch ctx = fetched at h ⊢
  obtain ⟨e' | fs, ctx₁⟩ := fetched
  · obtain ⟨rfl, rfl⟩ := Prod.mk.inj (Option.some.inj h)
    rfl
  · obtain ⟨message, hmessage, heq⟩ := Option.map_eq_some_iff.mp h
    obtain ⟨rfl, rfl⟩ := Prod.mk.inj heq
    simp only [assembleStep, hmessage]

theorem recoverStep_ok {e : PyErr} (h : ¬ Unguarded m e (a.fallback ctx).1) : ∃ step,
    (recoverStep m d a e ctx).1 = .ok step ∧ step.key = d.key ∧ step.error.isSome = true := by
  unfold recoverStep
  generalize a.fallback ctx = fallen at h ⊢
  obtain ⟨e' | fs, ctx'⟩ := fallen
  · have hlast : m.invalid lastResort = none := m.blank _
    cases e with
    | source => exact (h rfl).elim
    | http | network | other => exact ⟨_, assembleStep_ok hlast _ _ _, rfl, rfl⟩
  · have hfs : m.invalid fs = none := not_not.mp h
    exact ⟨_, assembleStep_ok hfs _ _ _, rfl, rfl⟩

theorem recoverStep_error {e : PyErr} (h : Unguarded m e (a.fallback ctx).1) :
    ∃ e', (recoverStep m d a e ctx).1 = .error e' := by
  unfold recoverStep
  generalize a.fallback ctx = fallen at h ⊢
  obtain ⟨e' | fs, ctx'⟩ := fallen
  · cases e with
    | source => exact ⟨e', rfl⟩
    | http | network | other => exact (Bool.false_ne_true h).elim
  · obtain ⟨message, hmessage⟩ := Option.ne_none_iff_exists'.mp h
    exact ⟨.other message, by simp only [assembleStep, hmessage]⟩

/-- A turn that does not crash makes the step of its entry. -/
theorem docTurn_ok (h : ¬ Crashes m adapters d ctx) : ∃ step,
    (docTurn m adapters d ctx).1 = .ok step ∧ StepOf m adapters d ctx step := by
  unfold docTurn
  cases ha : adapters d.key with
  | none =>
    exact ⟨_, assembleStep_ok (m.blank "") _ _ _, rfl, by simp [ha, assemble]⟩
  | some a =>
    cases hf : failure m a ctx with
    | none =>
      have hyields := yields_iff.mpr hf
      obtain ⟨step, hstep, hkey, herror⟩ := runOneWith_of_yields (d := d) hyields
      exact ⟨step, hstep, hkey, by simp [ha, herror, hyields]⟩
    | some p =>
      have hyields : ¬ Yields m a ctx := fun hy => by simp [yields_iff.mp hy] at hf
      have hguarded : ¬ Unguarded m p.1 (a.fallback p.2).1 :=
        fun hunguarded => h ⟨a, ha, p.1, p.2, hf, hunguarded⟩
      obtain ⟨step, hstep, hkey, herror⟩ := recoverStep_ok (d := d) hguarded
      refine ⟨step, ?_, hkey, by simp [ha, herror, hyields]⟩
      exact (congrArg Prod.fst (runOneWith_of_failure hf)).trans hstep

theorem docTurn_error (h : Crashes m adapters d ctx) :
    ∃ e, (docTurn m adapters d ctx).1 = .error e := by
  obtain ⟨a, ha, e, ctx', hf, hmatch⟩ := h
  obtain ⟨e', he'⟩ := recoverStep_error (d := d) hmatch
  refine ⟨e', ?_⟩
  simp only [docTurn, ha]
  exact (congrArg Prod.fst (runOneWith_of_failure hf)).trans he'

end Turns

/-! All turns of a run. -/

section Loop

variable (m : StepModel) (adapters : StepKey → Option SourceAdapter) (wanted : Option (List StepKey))

/-- The entries that have a turn, each with the context in which its turn begins. -/
def turnsOf : List ResidentialDoc → PropertyContext → List (ResidentialDoc × PropertyContext)
  | [], _ => []
  | d :: ds, ctx =>
    if wanted.any fun keys => d.key ∉ keys then turnsOf ds ctx
    else (d, ctx) :: turnsOf ds (docTurn m adapters d ctx).2

/-- The entries that the include set names. -/
def wantedDocs (ds : List ResidentialDoc) : List ResidentialDoc :=
  ds.filter fun d => !wanted.any fun keys => d.key ∉ keys

/-- One step for each wanted entry, in the declared order, with its errors where `fetch` did
not yield the step. -/
def Assembles (staging : Staging) (ctx : PropertyContext) : Prop :=
  ∃ steps, (buildStepsWith m adapters staging wanted ctx).1 = .ok steps ∧
    steps.map StepResult.key = (wantedDocs wanted residentialDocs).map ResidentialDoc.key ∧
    List.Forall₂ (fun t step => StepOf m adapters t.1 t.2 step)
      (turnsOf m adapters wanted residentialDocs ctx) steps

variable {m adapters wanted}

theorem turnsOf_docs (m : StepModel) (adapters : StepKey → Option SourceAdapter)
    (wanted : Option (List StepKey)) (ds : List ResidentialDoc) (ctx : PropertyContext) :
    (turnsOf m adapters wanted ds ctx).map Prod.fst = wantedDocs wanted ds := by
  induction ds generalizing ctx with
  | nil => rfl
  | cons d ds ih =>
    unfold wantedDocs at ih ⊢
    simp only [turnsOf, List.filter_cons]
    cases wanted.any fun keys => decide (d.key ∉ keys) with
    | true => simpa using ih ctx
    | false => simpa using ih _

theorem stepsForWith_ok {ds : List ResidentialDoc} {ctx : PropertyContext}
    (h : ∀ t ∈ turnsOf m adapters wanted ds ctx, ¬ Crashes m adapters t.1 t.2) :
    ∃ steps, (stepsForWith m adapters wanted ds ctx).1 = .ok steps ∧
      List.Forall₂ (fun t step => StepOf m adapters t.1 t.2 step)
        (turnsOf m adapters wanted ds ctx) steps := by
  induction ds generalizing ctx with
  | nil => exact ⟨[], rfl, .nil⟩
  | cons d ds ih =>
    simp only [turnsOf, stepsForWith] at h ⊢
    split
    · rename_i hskip
      rw [if_pos hskip] at h
      exact ih h
    · rename_i hkeep
      rw [if_neg hkeep] at h
      obtain ⟨step, hstep, hof⟩ := docTurn_ok (h (d, ctx) List.mem_cons_self)
      obtain ⟨steps, hsteps, hall⟩ := ih fun t ht => h t (List.mem_cons_of_mem _ ht)
      generalize docTurn m adapters d ctx = made at hstep hsteps hall ⊢
      obtain ⟨_, ctx₁⟩ := made
      obtain rfl : _ = Except.ok step := hstep
      dsimp only at hsteps hall ⊢
      generalize stepsForWith m adapters wanted ds ctx₁ = rest at hsteps ⊢
      obtain ⟨_, ctx₂⟩ := rest
      obtain rfl : _ = Except.ok steps := hsteps
      exact ⟨step :: steps, rfl, .cons hof hall⟩

theorem stepsForWith_error {ds : List ResidentialDoc} {ctx : PropertyContext}
    (h : ∃ t ∈ turnsOf m adapters wanted ds ctx, Crashes m adapters t.1 t.2) :
    ∃ e, (stepsForWith m adapters wanted ds ctx).1 = .error e := by
  induction ds generalizing ctx with
  | nil =>
    obtain ⟨t, ht, -⟩ := h
    cases ht
  | cons d ds ih =>
    simp only [turnsOf, stepsForWith] at h ⊢
    split
    · rename_i hskip
      rw [if_pos hskip] at h
      exact ih h
    · rename_i hkeep
      rw [if_neg hkeep] at h
      by_cases hcrash : Crashes m adapters d ctx
      · obtain ⟨e, he⟩ := docTurn_error hcrash
        generalize docTurn m adapters d ctx = made at he ⊢
        obtain ⟨_, ctx₁⟩ := made
        obtain rfl : _ = Except.error e := he
        exact ⟨e, rfl⟩
      · obtain ⟨step, hstep, -⟩ := docTurn_ok hcrash
        obtain ⟨t, ht, hcrash'⟩ := h
        obtain rfl | ht := List.mem_cons.mp ht
        · exact (hcrash hcrash').elim
        · obtain ⟨e, he⟩ := ih ⟨t, ht, hcrash'⟩
          generalize docTurn m adapters d ctx = made at hstep he ⊢
          obtain ⟨_, ctx₁⟩ := made
          obtain rfl : _ = Except.ok step := hstep
          dsimp only at he ⊢
          generalize stepsForWith m adapters wanted ds ctx₁ = rest at he ⊢
          obtain ⟨_, ctx₂⟩ := rest
          obtain rfl : _ = Except.error e := he
          exact ⟨e, rfl⟩

/-- `build_steps` makes all its steps exactly when the documents folder is there and no wanted
adapter lets an exception out of its turn. -/
theorem assembles_iff (m : StepModel) (adapters : StepKey → Option SourceAdapter)
    (staging : Staging) (wanted : Option (List StepKey)) (ctx : PropertyContext) :
    Assembles m adapters wanted staging ctx ↔ staging.docsDir = .ok () ∧
      ∀ t ∈ turnsOf m adapters wanted residentialDocs ctx, ¬ Crashes m adapters t.1 t.2 := by
  unfold Assembles buildStepsWith
  constructor
  · rintro ⟨steps, hsteps, -⟩
    cases hdir : staging.docsDir with
    | error e =>
      rw [hdir] at hsteps
      cases hsteps
    | ok u =>
      rw [hdir] at hsteps
      refine ⟨rfl, fun t ht hcrash => ?_⟩
      obtain ⟨e, he⟩ := stepsForWith_error ⟨t, ht, hcrash⟩
      rw [he] at hsteps
      cases hsteps
  · rintro ⟨hdir, hall⟩
    obtain ⟨steps, hsteps, hof⟩ := stepsForWith_ok hall
    rw [hdir]
    refine ⟨steps, hsteps, ?_, hof⟩
    rw [← turnsOf_docs m adapters wanted residentialDocs ctx, List.map_map]
    rw [← List.forall₂_eq_eq_eq, List.forall₂_map_left_iff, List.forall₂_map_right_iff]
    exact List.Forall₂.flip (hof.imp fun _ _ h => h.key)

end Loop

/-! The fallbacks of the shipped adapters do not raise. -/

theorem shipped_fallback_ok [PyText] [PyFloat] {dep : Deployment} {src : SourceAnswers}
    {key : StepKey} {a : SourceAdapter} (h : Adapters.shipped dep src key = some a)
    (ctx : PropertyContext) : ∃ fs, (a.fallback ctx).1 = .ok fs := by
  cases key <;> obtain rfl := Option.some.inj h <;> exact ⟨_, rfl⟩

theorem shipped_assembles [PyText] [PyFloat] {m : StepModel} (hm : ∀ fs, m.invalid fs = none)
    (dep : Deployment) (src : SourceAnswers) {staging : Staging} (hdir : staging.docsDir = .ok ())
    (wanted : Option (List StepKey)) (ctx : PropertyContext) :
    Assembles m (Adapters.shipped dep src) wanted staging ctx := by
  refine (assembles_iff _ _ _ _ _).mpr ⟨hdir, ?_⟩
  rintro t - ⟨a, ha, e, ctx', -, hunguarded⟩
  obtain ⟨fs, hfs⟩ := shipped_fallback_ok ha ctx'
  rw [hfs] at hunguarded
  exact hunguarded (hm fs)

section Concrete

/-- A model that accepts whatever an adapter returns. -/
def anyStep : StepModel where
  invalid _ := none
  blank _ := rfl

/-- The flood source blocks the request, and its fallback fails too. -/
def brokenFlood : StepKey → Option SourceAdapter
  | .flood => some
    { fetch := fun ctx => (.error (.source .blocked "" "" false), ctx)
      fallback := fun ctx => (.error (.other "boom inside fallback"), ctx) }
  | .glo => some (Adapters.plainAdapter (fun _ => .ok Adapters.gloFetch) fun _ => Adapters.gloFetch)
  | _ => none

def bareContext : PropertyContext where
  address := "1 ELM ST"
  matchedAddress := "1 ELM ST"
  lat := .int 28
  lon := .int (-82)
  state := "FL"
  stateFips := "12"
  county := "Hillsborough"
  countyFips := "12057"
  geocoder := "census"
  clerkRef :=
    { county := "Hillsborough"
      platform := some "unknown"
      platformLabel := some ""
      officialRecordsSearch := ""
      platSearch := ""
      appraiserUrl := none
      directoryUrl := ""
      note := some ""
      searchHints := []
      automationStatus := "" }
  surveyType := ""

/-- One source takes the whole run with it, and the entry after it gets no step. -/
theorem blocked_flood_crashes :
    (buildStepsWith anyStep brokenFlood Context.sampleStaging (some [.flood, .glo]) bareContext).1 =
        .error (.other "boom inside fallback") ∧
      ¬ ∀ (m : StepModel) (adapters : StepKey → Option SourceAdapter) (staging : Staging)
        (wanted : Option (List StepKey)) (ctx : PropertyContext),
        staging.docsDir = .ok () → Assembles m adapters wanted staging ctx := by
  have hcrash : (buildStepsWith anyStep brokenFlood Context.sampleStaging (some [.flood, .glo])
      bareContext).1 = .error (.other "boom inside fallback") := rfl
  refine ⟨hcrash, fun hall => ?_⟩
  obtain ⟨steps, hsteps, -⟩ := hall anyStep brokenFlood Context.sampleStaging
    (some [.flood, .glo]) bareContext rfl
  rw [hcrash] at hsteps
  cases hsteps

end Concrete

end Steps
end ResearchEngine
