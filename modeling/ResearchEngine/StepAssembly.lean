import ResearchEngine.SourceAdapters

/-! Step assembly and the research run: every exception of an adapter becomes a
fallback step with a structured error, and the run writes its audit files. -/
namespace ResearchEngine

/-- `ErrorInfo` -/
structure ErrorInfo where
  code : String := ""
  message : String := ""
  retryable : Bool := false
  deriving DecidableEq, Repr

/-- One entry of `RESIDENTIAL_DOCS`; its description and guidance texts are left out. -/
structure ResidentialDoc where
  key : StepKey
  label : String
  requirement : String
  condition : String := ""
  deriving DecidableEq, Repr

/-- `StepResult` -/
structure StepResult where
  key : StepKey
  label : String
  requirement : String
  condition : String
  summary : String
  status : StepStatus
  link : String
  linkLabel : String
  sourceUrl : String
  savedFile : Option String
  data : StepData
  downloaded : List String
  situs : Option String
  landSqft : Value
  landAcres : Value
  addressMatch : Option Bool
  sourceOutcome : SourceOutcome
  confidence : Confidence
  provenance : List ProvenanceRecord
  warnings : List String
  error : Option ErrorInfo
  deriving DecidableEq, Repr

/-- `ResearchResult`, without the map links. -/
structure ResearchResult where
  jobNumber : String
  order : String
  parcelId : String
  address : String
  matchedAddress : String
  county : String
  countyFips : String
  state : String
  lat : Value
  lon : Value
  name : String
  geocoder : String
  folder : String
  docsDir : String
  steps : List StepResult
  warnings : List String
  completedUtc : String
  surveyType : String
  deriving DecidableEq, Repr

namespace Steps

/-- `RESIDENTIAL_DOCS` -/
def residentialDocs : List ResidentialDoc :=
  [{ key := .parcel, label := "Parcel record & Parcel ID", requirement := "mandatory" },
    { key := .appraiser, label := "Property Appraiser / Tax record", requirement := "mandatory" },
    { key := .deed, label := "Deed — subject parcel", requirement := "mandatory" },
    { key := .plat, label := "Recorded plat / subdivision map", requirement := "mandatory"
      condition := "if the parcel is in a recorded subdivision" },
    { key := .adjoiners, label := "Deeds — adjoining parcels", requirement := "mandatory" },
    { key := .easements, label := "Easements / ROW / covenants (CC&Rs)", requirement := "mandatory" },
    { key := .priorSurvey, label := "Prior recorded surveys", requirement := "recommended" },
    { key := .flood, label := "FEMA flood zone / FIRM", requirement := "conditional"
      condition := "lender-required; if near a Special Flood Hazard Area" },
    { key := .benchmarks, label := "NGS geodetic control (benchmarks)", requirement := "recommended" },
    { key := .glo, label := "GLO / PLSS plats & field notes", requirement := "conditional"
      condition := "if the legal is section-township-range (PLSS) / metes-and-bounds" },
    { key := .condo, label := "Condominium declaration & exhibits", requirement := "conditional"
      condition := "if the property is a condominium unit" },
    { key := .zoning, label := "Zoning / setback ordinance", requirement := "conditional"
      condition := "if setbacks / permitted use affect the survey (most boundary work)" }]

/-- `classify_exception`: outcome, code, message, retryable. -/
def classifyException : PyErr → SourceOutcome × String × String × Bool
  | .source outcome code message retryable => (outcome, code, message, retryable)
  | .http status _ =>
    let code := match status with
      | some n => toString n
      | none => "None"
    match status with
    | some 401 | some 403 | some 406 | some 429 =>
      (.blocked, "HTTP_" ++ code,
        "Source returned HTTP " ++ code ++ " (WAF/bot/geo block — opens in a browser).", false)
    | some 404 | some 410 =>
      (.broken, "HTTP_" ++ code,
        "Source returned HTTP " ++ code ++ " — the URL is wrong or moved.", false)
    | _ =>
      (.broken, "HTTP_" ++ (if status = none ∨ status = some 0 then "?" else code),
        "Source returned HTTP " ++ code ++ " — server error.", true)
  | .network _ =>
    (.retryable, "CONNECTION_FAILED",
      "Source timed out or connection was reset (network/firewall?).", true)
  | .other text => (.retryable, "ADAPTER_ERROR", String.ofList (text.toList.take 300), true)

/-- `_outcome_for` -/
def outcomeFor (fs : FetchedSource) : SourceOutcome :=
  if fs.manualReview then .manualReview
  else match fs.status with
    | .ok | .empty => .auto
    | _ => .linkOnly

/-- `_default_confidence` -/
def defaultConfidence (status : StepStatus) (manualReview : Bool) : Confidence :=
  if manualReview then .low
  else match status with
    | .ok => .high
    | .empty => .medium
    | _ => .low

/-- `_code_for` -/
def codeFor : SourceOutcome → String
  | .blocked => "SOURCE_BLOCKED"
  | .broken => "SOURCE_BROKEN"
  | .retryable => "SOURCE_UNREACHABLE"
  | .linkOnly => "LINK_ONLY"
  | .auto => "AUTO"
  | .manualReview => "MANUAL_REVIEW"

/-- `_provenance_from` -/
def provenanceFrom (entry : ManifestEntry) : ProvenanceRecord :=
  { sourceId := entry.source
    provider := entry.source
    url := entry.source
    retrievedUtc := entry.fetchedUtc.getD ""
    file := entry.file
    sha256 := entry.sha256 }

/-- `_assemble`: the step, and the context with its records on the manifest. -/
def assemble (ctx : PropertyContext) (d : ResidentialDoc) (fs : FetchedSource)
    (outcome : SourceOutcome) (error : Option ErrorInfo) (confidence : Confidence) :
    StepResult × PropertyContext :=
  ({ key := d.key
     label := d.label
     requirement := d.requirement
     condition := d.condition
     summary := fs.summary
     status := fs.status
     link := fs.link
     linkLabel := fs.linkLabel
     sourceUrl := fs.sourceUrl
     savedFile := fs.savedFile
     data := fs.data
     downloaded := fs.downloaded
     situs := fs.situs
     landSqft := fs.landSqft
     landAcres := fs.landAcres
     addressMatch := fs.addressMatch
     sourceOutcome := outcome
     confidence := confidence
     provenance := fs.records.map provenanceFrom
     warnings := fs.warnings
     error := error },
    { ctx with manifest := ctx.manifest ++ fs.records })

/-- What `_run_one` records about an exception: the outcome and the error. -/
def failureOf : PyErr → SourceOutcome × ErrorInfo
  | .source outcome code message retryable =>
    (outcome,
      { code := PyText.orElse code (codeFor outcome), message := message, retryable := retryable })
  | e =>
    let (outcome, code, message, retryable) := classifyException e
    (outcome, { code := code, message := message, retryable := retryable })

/-- A step that was assembled, as the result of its turn. -/
def assembled (p : StepResult × PropertyContext) : Except PyErr StepResult × PropertyContext :=
  (.ok p.1, p.2)

/-- The last-resort step of `_run_one`. -/
def lastResort : FetchedSource := { summary := "Couldn't reach this source." }

/-- `_run_one`. Only the fallback after a `SourceError` may raise out of it. -/
def runOne (d : ResidentialDoc) (adapter : SourceAdapter) (ctx : PropertyContext) :
    Except PyErr StepResult × PropertyContext :=
  match adapter.fetch ctx with
  | (.ok fs, ctx) =>
    let confidence := fs.confidence.getD (defaultConfidence fs.status fs.manualReview)
    assembled (assemble ctx d fs (outcomeFor fs) none confidence)
  | (.error e, ctx) =>
    let (outcome, error) := failureOf e
    match e, adapter.fallback ctx with
    | _, (.ok fs, ctx) => assembled (assemble ctx d fs outcome (some error) .none)
    | .source .., (.error e, ctx) => (.error e, ctx)
    | _, (.error _, ctx) => assembled (assemble ctx d lastResort outcome (some error) .none)

/-- A `SourceError`, which has an `except` arm of its own. -/
def isSourceError : PyErr → Bool
  | .source .. => true
  | _ => false

/-- Everything `_run_one` can do. -/
inductive TurnCase (d : ResidentialDoc) (adapter : SourceAdapter) (ctx : PropertyContext) :
    Except PyErr StepResult × PropertyContext → Prop
  | fetched {fs ctx'} (hf : adapter.fetch ctx = (.ok fs, ctx')) :
      TurnCase d adapter ctx (assembled (assemble ctx' d fs (outcomeFor fs) none
        (fs.confidence.getD (defaultConfidence fs.status fs.manualReview))))
  | fallback {e ctx' fs ctx''} (hf : adapter.fetch ctx = (.error e, ctx'))
      (hb : adapter.fallback ctx' = (.ok fs, ctx'')) :
      TurnCase d adapter ctx
        (assembled (assemble ctx'' d fs (failureOf e).1 (some (failureOf e).2) .none))
  | escaped {e ctx' e' ctx''} (hf : adapter.fetch ctx = (.error e, ctx'))
      (hs : isSourceError e = true) (hb : adapter.fallback ctx' = (.error e', ctx'')) :
      TurnCase d adapter ctx (.error e', ctx'')
  | lastResort {e ctx' e' ctx''} (hf : adapter.fetch ctx = (.error e, ctx'))
      (hs : isSourceError e = false) (hb : adapter.fallback ctx' = (.error e', ctx'')) :
      TurnCase d adapter ctx
        (assembled (assemble ctx'' d lastResort (failureOf e).1 (some (failureOf e).2) .none))

theorem runOne_cases (d : ResidentialDoc) (adapter : SourceAdapter) (ctx : PropertyContext) :
    TurnCase d adapter ctx (runOne d adapter ctx) := by
  unfold runOne
  cases hf : adapter.fetch ctx with
  | mk result ctx' =>
    cases result with
    | ok fs => exact .fetched hf
    | error e =>
      dsimp only
      cases hb : adapter.fallback ctx' with
      | mk result' ctx'' =>
        cases result' with
        | ok fs => exact .fallback hf hb
        | error e' =>
          cases e with
          | source => exact .escaped hf rfl hb
          | _ => exact .lastResort hf rfl hb

/-- The loop of `build_steps` over the reference documents. -/
def stepsFor (adapters : StepKey → Option SourceAdapter) (wanted : Option (List StepKey)) :
    List ResidentialDoc → PropertyContext → Except PyErr (List StepResult) × PropertyContext
  | [], ctx => (.ok [], ctx)
  | d :: ds, ctx =>
    if wanted.any fun keys => d.key ∉ keys then stepsFor adapters wanted ds ctx
    else
      let turn := match adapters d.key with
        | none => assembled (assemble ctx d {} .linkOnly none .low)
        | some adapter => runOne d adapter ctx
      match turn with
      | (.error e, ctx) => (.error e, ctx)
      | (.ok step, ctx) =>
        match stepsFor adapters wanted ds ctx with
        | (.error e, ctx) => (.error e, ctx)
        | (.ok steps, ctx) => (.ok (step :: steps), ctx)

/-- `build_steps` -/
def buildSteps (adapters : StepKey → Option SourceAdapter) (staging : Staging)
    (wanted : Option (List StepKey)) (ctx : PropertyContext) :
    Except PyErr (List StepResult) × PropertyContext :=
  match staging.docsDir with
  | .error e => (.error e, ctx)
  | .ok _ => stepsFor adapters wanted residentialDocs ctx

/-- `str(folder.parent)` -/
def parentFolder (folder : String) : String :=
  String.ofList ((folder.toList.reverse.dropWhile (· ≠ '/')).drop 1).reverse

/-- `run_research` from the resolved context on. -/
def researchOn (adapters : StepKey → Option SourceAdapter) (staging : Staging)
    (wanted : Option (List StepKey)) (ctx : PropertyContext) : Except PyErr ResearchResult :=
  match buildSteps adapters staging wanted ctx with
  | (.error e, _) => .error e
  | (.ok steps, ctx) => do
    staging.writeManifest
    staging.writeResult
    return {
      jobNumber := ctx.jobNumber
      order := ctx.order
      parcelId := ctx.parcelId
      address := ctx.address
      matchedAddress := ctx.matchedAddress
      county := ctx.county
      countyFips := ctx.countyFips
      state := ctx.state
      lat := ctx.lat
      lon := ctx.lon
      name := ctx.name
      geocoder := ctx.geocoder
      folder := parentFolder ctx.folder
      docsDir := ctx.folder
      steps := steps
      warnings := ctx.warnings
      completedUtc := staging.completedUtc
      surveyType := ctx.surveyType }

end Steps
end ResearchEngine
