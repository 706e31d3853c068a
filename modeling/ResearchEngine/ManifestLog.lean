import ResearchEngine.StepIndependence

/-! The entries that `build_steps` appends to the manifest, and the results they come from. -/
namespace ResearchEngine
namespace Steps

section Log

variable (m : StepModel) (adapters : StepKey → Option SourceAdapter)

/-- The answer that replaces a failed fetch. -/
def fallen (a : SourceAdapter) (ctx : PropertyContext) : FetchedSource :=
  match (a.fallback ctx).1 with
  | .ok fs => fs
  | .error _ => lastResort

/-- The result that the step of a turn is made of. -/
def usedIn (d : ResidentialDoc) (ctx : PropertyContext) : FetchedSource :=
  match adapters d.key with
  | none => {}
  | some a =>
    match a.fetch ctx with
    | (.error _, ctx) => fallen a ctx
    | (.ok fs, ctx) => if m.invalid fs = none then fs else fallen a (logRecords ctx fs)

/-- What `_assemble` logs of a fetched result before it fails to make the step. -/
def abandonedIn (d : ResidentialDoc) (ctx : PropertyContext) : List ManifestEntry :=
  match adapters d.key with
  | none => []
  | some a =>
    match (a.fetch ctx).1 with
    | .error _ => []
    | .ok fs => if m.invalid fs = none then [] else fs.records

/-- The entries that the calls of `_assemble` log in a turn that makes its step. -/
def loggedIn (d : ResidentialDoc) (ctx : PropertyContext) : List ManifestEntry :=
  abandonedIn m adapters d ctx ++ (usedIn m adapters d ctx).records

/-- The entries that a run logs. -/
def logged (wanted : Option (List StepKey)) (ctx : PropertyContext) : List ManifestEntry :=
  (turnsOf m adapters wanted residentialDocs ctx).flatMap fun t => loggedIn m adapters t.1 t.2

/-- An adapter that appends nothing to the manifest itself. -/
structure LeavesManifest (a : SourceAdapter) : Prop where
  fetch : ∀ ctx, (a.fetch ctx).2.manifest = ctx.manifest
  fallback : ∀ ctx, (a.fallback ctx).2.manifest = ctx.manifest

/-- A step made of a result. -/
def StepFrom (d : ResidentialDoc) (ctx : PropertyContext) (fs : FetchedSource) (step : StepResult) :
    Prop :=
  ∃ outcome error confidence, step = (assemble ctx d fs outcome error confidence).1

variable {m adapters} {d : ResidentialDoc} {ctx ctx' : PropertyContext} {a : SourceAdapter}
  {step : StepResult}

variable (ctx) in
theorem assembleStep_ok_iff {c : PropertyContext} {fs : FetchedSource} {outcome : SourceOutcome}
    {error : Option ErrorInfo} {confidence : Confidence}
    (h : assembleStep m c d fs outcome error confidence = (.ok step, ctx')) :
    StepFrom d ctx fs step ∧ ctx' = logRecords c fs := by
  have hfst := congrArg Prod.fst h
  have hsnd := congrArg Prod.snd h
  rw [assembleStep_snd] at hsnd
  exact ⟨⟨outcome, error, confidence, assembleStep_made hfst⟩, hsnd.symm⟩

variable (ctx) in
/-- A recovery makes its step of the answer that replaces the fetch, and logs that. -/
theorem recoverStep_logs {c : PropertyContext} {e : PyErr}
    (h : recoverStep m d a e c = (.ok step, ctx')) :
    StepFrom d ctx (fallen a c) step ∧
      ctx' = logRecords (a.fallback c).2 (fallen a c) := by
  unfold recoverStep at h
  unfold fallen
  generalize a.fallback c = answer at h ⊢
  obtain ⟨e' | fs, c'⟩ := answer
  · cases e with
    | source => cases h
    | http | network | other => exact assembleStep_ok_iff ctx h
  · exact assembleStep_ok_iff ctx h

/-- The step of a turn is made of the result that the turn uses. -/
theorem docTurn_logs (h : docTurn m adapters d ctx = (.ok step, ctx')) :
    StepFrom d ctx (usedIn m adapters d ctx) step ∧
      ((∀ a, adapters d.key = some a → LeavesManifest a) →
        ctx'.manifest = ctx.manifest ++ loggedIn m adapters d ctx) := by
  unfold loggedIn abandonedIn usedIn
  unfold docTurn at h
  cases ha : adapters d.key with
  | none =>
    rw [ha] at h
    obtain ⟨hstep, rfl⟩ := assembleStep_ok_iff ctx h
    exact ⟨hstep, fun _ => rfl⟩
  | some a =>
    rw [ha] at h
    rcases hfetch : a.fetch ctx with ⟨result, c⟩
    have hkept (hleaves : ∀ a', some a = some a' → LeavesManifest a') : c.manifest = ctx.manifest :=
      (congrArg (fun p => p.2.manifest) hfetch).symm.trans ((hleaves a rfl).fetch ctx)
    have hrecovered {e : PyErr} {c' : PropertyContext} (hrecover : recoverStep m d a e c' =
        (.ok step, ctx')) : StepFrom d ctx (fallen a c') step ∧
          ((∀ a', some a = some a' → LeavesManifest a') →
            ctx'.manifest = c'.manifest ++ (fallen a c').records) := by
      obtain ⟨hstep, rfl⟩ := recoverStep_logs ctx hrecover
      refine ⟨hstep, fun hleaves => ?_⟩
      exact congrArg (· ++ (fallen a c').records) ((hleaves a rfl).fallback c')
    simp only [runOneWith, attempt, hfetch] at h ⊢
    cases result with
    | error e =>
      obtain ⟨hstep, hmanifest⟩ := hrecovered h
      exact ⟨hstep, fun hleaves => (hmanifest hleaves).trans (by rw [hkept hleaves]; rfl)⟩
    | ok fs =>
      cases hinvalid : m.invalid fs with
      | none =>
        simp only [assembleStep, hinvalid] at h ⊢
        obtain ⟨hstep, rfl⟩ := Prod.mk.inj h
        obtain rfl := Except.ok.inj hstep
        exact ⟨⟨_, _, _, rfl⟩, fun hleaves => congrArg (· ++ fs.records) (hkept hleaves)⟩
      | some message =>
        simp only [assembleStep, hinvalid] at h ⊢
        obtain ⟨hstep, hmanifest⟩ := hrecovered h
        refine ⟨hstep, fun hleaves => (hmanifest hleaves).trans ?_⟩
        rw [← List.append_assoc, ← hkept hleaves]
        rfl

variable (m adapters) in
/-- No result that the step's model refuses has records. -/
def RefusedEmpty (d : ResidentialDoc) (ctx : PropertyContext) : Prop :=
  ∀ a fs, adapters d.key = some a → (a.fetch ctx).1 = .ok fs → m.invalid fs ≠ none → fs.records = []

theorem abandonedIn_eq_nil_iff : abandonedIn m adapters d ctx = [] ↔ RefusedEmpty m adapters d ctx := by
  unfold abandonedIn RefusedEmpty
  cases adapters d.key with
  | none =>
    refine ⟨fun _ a fs ha => ?_, fun _ => rfl⟩
    cases ha
  | some a =>
    dsimp only
    constructor
    · intro hnil a' fs ha hfs hinvalid
      obtain rfl := Option.some.inj ha
      simp only [hfs] at hnil
      exact (if_neg hinvalid).symm.trans hnil
    · intro hempty
      cases hfetch : (a.fetch ctx).1 with
      | error e => rfl
      | ok fs =>
        dsimp only
        split
        · rfl
        · exact hempty a fs rfl hfetch ‹_›

end Log

section Run

variable {m : StepModel} {adapters : StepKey → Option SourceAdapter}
  {wanted : Option (List StepKey)} {staging : Staging} {ctx ctx' : PropertyContext}
  {steps : List StepResult}

theorem stepsForWith_logs {ds : List ResidentialDoc}
    (h : stepsForWith m adapters wanted ds ctx = (.ok steps, ctx')) :
    List.Forall₂ (fun t step => StepFrom t.1 t.2 (usedIn m adapters t.1 t.2) step)
        (turnsOf m adapters wanted ds ctx) steps ∧
      ((∀ key a, adapters key = some a → LeavesManifest a) → ctx'.manifest = ctx.manifest ++
        (turnsOf m adapters wanted ds ctx).flatMap fun t => loggedIn m adapters t.1 t.2) := by
  induction ds generalizing ctx steps with
  | nil =>
    obtain ⟨hsteps, rfl⟩ := Prod.mk.inj h
    obtain rfl := Except.ok.inj hsteps
    exact ⟨.nil, fun _ => (List.append_nil _).symm⟩
  | cons d ds ih =>
    simp only [stepsForWith, turnsOf] at h ⊢
    split
    · rename_i hskip
      rw [if_pos hskip] at h
      exact ih h
    · rename_i hkeep
      rw [if_neg hkeep] at h
      rcases hturn : docTurn m adapters d ctx with ⟨result, c⟩
      rw [hturn] at h
      cases result with
      | error e => cases h
      | ok step =>
        rcases hrest : stepsForWith m adapters wanted ds c with ⟨rest, c'⟩
        simp only [hrest] at h
        cases rest with
        | error e => cases h
        | ok rest =>
          obtain ⟨hsteps, rfl⟩ := Prod.mk.inj h
          obtain rfl := Except.ok.inj hsteps
          obtain ⟨hmade, hlogged⟩ := docTurn_logs hturn
          obtain ⟨hmades, hloggeds⟩ := ih hrest
          refine ⟨.cons hmade hmades, fun hleaves => ?_⟩
          rw [List.flatMap_cons, ← List.append_assoc, hloggeds hleaves,
            hlogged fun a ha => hleaves d.key a ha]

/-- Manifest and provenance agree on the results that the steps are made of, and nothing is left
of the others. -/
structure Agrees (m : StepModel) (adapters : StepKey → Option SourceAdapter)
    (wanted : Option (List StepKey)) (ctx : PropertyContext) (steps : List StepResult) : Prop where
  made : List.Forall₂ (fun t step => StepFrom t.1 t.2 (usedIn m adapters t.1 t.2) step)
    (turnsOf m adapters wanted residentialDocs ctx) steps
  appended : logged m adapters wanted ctx =
    (turnsOf m adapters wanted residentialDocs ctx).flatMap fun t => (usedIn m adapters t.1 t.2).records
  provenance : List.Forall₂
    (fun t step => step.provenance = (usedIn m adapters t.1 t.2).records.map provenanceFrom)
    (turnsOf m adapters wanted residentialDocs ctx) steps
  abandoned : ∀ t ∈ turnsOf m adapters wanted residentialDocs ctx, abandonedIn m adapters t.1 t.2 = []

/-- In a run that returns, manifest and provenance agree exactly when no result that a step could
not be made of had records; and what the run logs is what it appends, unless adapters do so too. -/
theorem manifest_agrees_iff
    (h : buildStepsWith m adapters staging wanted ctx = (.ok steps, ctx')) :
    (Agrees m adapters wanted ctx steps ↔
        ∀ t ∈ turnsOf m adapters wanted residentialDocs ctx, RefusedEmpty m adapters t.1 t.2) ∧
      ((∀ key a, adapters key = some a → LeavesManifest a) →
        ctx'.manifest = ctx.manifest ++ logged m adapters wanted ctx) := by
  have hloop : stepsForWith m adapters wanted residentialDocs ctx = (.ok steps, ctx') := by
    unfold buildStepsWith at h
    split at h
    · cases h
    · exact h
  obtain ⟨hmade, hlogged⟩ := stepsForWith_logs hloop
  refine ⟨⟨fun hagrees t ht => abandonedIn_eq_nil_iff.mp (hagrees.abandoned t ht), fun hnone => ?_⟩,
    hlogged⟩
  have habandoned : ∀ t ∈ turnsOf m adapters wanted residentialDocs ctx,
      abandonedIn m adapters t.1 t.2 = [] := fun t ht => abandonedIn_eq_nil_iff.mpr (hnone t ht)
  refine ⟨hmade, ?_, hmade.imp ?_, habandoned⟩
  · apply List.flatMap_congr
    intro t ht
    rw [loggedIn, habandoned t ht, List.nil_append]
  · rintro t step ⟨outcome, error, confidence, rfl⟩
    rfl

end Run

section Concrete

/-- A model with a number for the area of the land. -/
def numberedArea : StepModel where
  invalid fs := if fs.landSqft = .str "unknown" then some "Input should be a valid number" else none
  blank _ := rfl

/-- A parcel source that saves its record and gives no number, and then falls back on a link. -/
def unnumberedParcel : StepKey → Option SourceAdapter
  | .parcel => some
    { fetch := fun ctx =>
        (.ok { landSqft := .str "unknown"
               downloaded := ["Parcel_Record.html"]
               records := [{ file := some "documents/Parcel_Record.html", source := "county" }] }, ctx)
      fallback := fun ctx => (.ok { link := "https://county.example" }, ctx) }
  | _ => none

/-- The record of the abandoned fetch stays on the manifest, and no step has it. -/
theorem abandoned_record_logged : ∃ steps ctx',
    buildStepsWith numberedArea unnumberedParcel Context.sampleStaging (some [.parcel]) bareContext =
        (.ok steps, ctx') ∧
      ctx'.manifest = [{ file := some "documents/Parcel_Record.html", source := "county" }] ∧
      steps.map StepResult.provenance = [[]] ∧
      ¬ Agrees numberedArea unnumberedParcel (some [.parcel]) bareContext steps := by
  refine ⟨_, _, rfl, rfl, rfl, fun h => ?_⟩
  have habandoned := h.abandoned _ List.mem_cons_self
  cases habandoned

/-- A flood source that cannot be reached. -/
def unreachedFlood : StepKey → Option SourceAdapter
  | .flood => some
    { fetch := fun ctx => (.error (.other "timeout"), ctx)
      fallback := fun ctx => (.ok {}, ctx) }
  | _ => none

/-- Of a fetch that raised nothing is left. -/
theorem manifest_agrees_flood : ∃ steps ctx', ctx'.manifest = [] ∧
    buildStepsWith numberedArea unreachedFlood Context.sampleStaging (some [.flood]) bareContext =
        (.ok steps, ctx') ∧
      Agrees numberedArea unreachedFlood (some [.flood]) bareContext steps := by
  have hrun : ∃ steps ctx', ctx'.manifest = [] ∧
      buildStepsWith numberedArea unreachedFlood Context.sampleStaging (some [.flood]) bareContext =
        (.ok steps, ctx') := ⟨_, _, rfl, rfl⟩
  obtain ⟨steps, ctx', hmanifest, hsteps⟩ := hrun
  refine ⟨steps, ctx', hmanifest, hsteps, (manifest_agrees_iff hsteps).1.mpr fun t ht => ?_⟩
  obtain rfl := List.mem_singleton.mp ht
  intro a fs ha hfs
  obtain rfl := Option.some.inj ha
  cases hfs

end Concrete

end Steps
end ResearchEngine
