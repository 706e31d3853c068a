import ResearchEngine.StepIndependence
import ResearchEngine.EvidenceUpload

/-! The audit trail of the downloaded files: which files the steps of a run list, and what the
manifest and the provenance records of a step say of them. -/
namespace ResearchEngine

open Adapters

namespace Adapters

section Sources

variable [PyText] [PyFloat] (dep : Deployment) (src : SourceAnswers) (ctx : PropertyContext)

/-- The files that the source of a document saves in `documents/` and that its step would list. -/
def sourceFiles : StepKey → List String
  | .parcel =>
    if parcelConfirmed ctx ∧ (areaText ctx.parcel).toBool then (savedName src.parcelRecord).toList
    else []
  | .appraiser =>
    appraisalFiles (ctx.appr.getD {}) ++
      if ctx.parcelOk ∧ !ctx.parcel.parcels.isEmpty then (savedName src.appraiserRecord).toList
      else []
  | .deed => (savedName (.ok (scrapeDocuments dep src ctx).1.deed)).toList
  | .plat => (savedName (.ok (scrapeDocuments dep src ctx).1.plat)).toList
  | .flood =>
    match flood src ctx.countyFips with
    | .ok f =>
      ((if f.floodZone.truthy then savedName src.floodReport else none).or
        (savedName src.floodMap)).toList
    | .error _ => []
  | .benchmarks =>
    match src.marks, src.datasheets with
    | .ok _, .ok files => files
    | _, _ => []
  | .adjoiners | .easements | .priorSurvey | .condo | .glo | .zoning => []

variable {dep src ctx} {key : StepKey} {a : SourceAdapter}

omit [PyText] in
theorem parcelFetch_saves {fs : FetchedSource} (h : parcelFetch src ctx = .ok fs) :
    fs.downloaded = sourceFiles dep src ctx .parcel ∧ ∀ e ∈ fs.records, e.fetchedUtc = none := by
  unfold parcelFetch at h
  by_cases hc : parcelConfirmed ctx = true
  · rw [hc] at h
    obtain ⟨area, harea, h⟩ := bind_eq_ok.mp h
    obtain rfl := Except.ok.inj h
    refine ⟨?_, ?_⟩
    · simp [sourceFiles, hc, harea, Except.toBool]
    · simp [documentEntry]
  · rw [Bool.not_eq_true] at hc
    rw [hc] at h
    obtain rfl := Except.ok.inj h
    unfold parcelUnconfirmed
    split <;> simp [sourceFiles, hc, parcelFallback]

omit [PyText] in
theorem appraiserFetch_saves :
    (appraiserFetch src ctx).downloaded = sourceFiles dep src ctx .appraiser ∧
      ∀ e ∈ (appraiserFetch src ctx).records, e.fetchedUtc = none := by
  refine ⟨by simp [appraiserFetch, sourceFiles], fun e he => ?_⟩
  obtain ⟨fn, -, rfl⟩ := List.mem_map.mp he
  rfl

omit [PyText] in
theorem floodFetch_saves {fs : FetchedSource} (h : floodFetch src ctx = .ok fs) :
    fs.downloaded = sourceFiles dep src ctx .flood ∧ ∀ e ∈ fs.records, e.fetchedUtc = none := by
  obtain ⟨f, hf, h⟩ := bind_eq_ok.mp h
  obtain rfl := Except.ok.inj h
  refine ⟨by simp only [sourceFiles, hf], fun e he => ?_⟩
  obtain ⟨fn, -, rfl⟩ := List.mem_map.mp he
  rfl

theorem ngsFetch_saves {fs : FetchedSource} (h : ngsFetch src = .ok fs) :
    fs.downloaded = sourceFiles dep src ctx .benchmarks ∧ ∀ e ∈ fs.records, e.fetchedUtc = none := by
  obtain ⟨b, hb, h⟩ := bind_eq_ok.mp h
  obtain ⟨marks, hmarks, -⟩ := bind_eq_ok.mp hb
  obtain rfl := Except.ok.inj h
  refine ⟨?_, fun e he => ?_⟩
  · simp only [sourceFiles, hmarks]
    cases src.datasheets <;> rfl
  · obtain ⟨fn, -, rfl⟩ := List.mem_map.mp he
    rfl

/-- A step lists what its source saved, and no record of it is dated. -/
theorem shipped_fetch_saves (h : shipped dep src key = some a) {fs : FetchedSource}
    (hfs : (a.fetch ctx).1 = .ok fs) :
    fs.downloaded = sourceFiles dep src ctx key ∧ ∀ e ∈ fs.records, e.fetchedUtc = none := by
  cases key with
  | parcel =>
    obtain rfl := Option.some.inj h
    exact parcelFetch_saves hfs
  | appraiser =>
    obtain rfl := Option.some.inj h
    obtain rfl := Except.ok.inj hfs
    exact appraiserFetch_saves
  | flood =>
    obtain rfl := Option.some.inj h
    exact floodFetch_saves hfs
  | benchmarks =>
    obtain rfl := Option.some.inj h
    exact ngsFetch_saves hfs
  | deed | plat =>
    obtain rfl := Option.some.inj h
    obtain rfl := Except.ok.inj hfs
    refine ⟨rfl, fun e he => ?_⟩
    obtain ⟨fn, -, rfl⟩ := List.mem_map.mp he
    rfl
  | adjoiners | easements | priorSurvey | condo | glo | zoning =>
    obtain rfl := Option.some.inj h
    obtain rfl := Except.ok.inj hfs
    exact ⟨rfl, fun e he => by cases he⟩

theorem shipped_fallback_saves (h : shipped dep src key = some a) {fs : FetchedSource}
    (hfs : (a.fallback ctx).1 = .ok fs) : fs.downloaded = [] ∧ fs.records = [] := by
  cases key <;> obtain rfl := Option.some.inj h <;> obtain rfl := Except.ok.inj hfs <;>
    exact ⟨rfl, rfl⟩

end Sources

end Adapters

namespace Steps

/-- What the audit trail says of a downloaded file: one entry of the manifest, and one dated record
on the step with the digest of the bytes that are staged in the end. -/
structure FileAudited (sha256 : Blob → String) (disk : String → Option Blob)
    (manifest : List ManifestEntry) (step : StepResult) (filename : String) : Prop where
  entry : ∃ e, manifest.filter (fun e => e.file = some ("documents/" ++ filename)) = [e]
  record : ∃ r, step.provenance.filter (fun r => r.file = some ("documents/" ++ filename)) = [r] ∧
    r.retrievedUtc ≠ "" ∧ ∃ bytes, disk filename = some bytes ∧ r.sha256 = some (sha256 bytes)

/-- Every file that a step of the run lists is audited. -/
def FilesAudited (sha256 : Blob → String) (disk : String → Option Blob)
    (manifest : List ManifestEntry) (steps : List StepResult) : Prop :=
  ∀ step ∈ steps, ∀ filename ∈ step.downloaded, FileAudited sha256 disk manifest step filename

section Shipped

variable [PyText] [PyFloat] {m : StepModel} {dep : Deployment} {src : SourceAnswers}
  {ctx : PropertyContext} {d : ResidentialDoc} {step : StepResult}

/-- The step made of what the source of a document answers is refused, or the source saves no
file for it. -/
def SavesNothing (m : StepModel) (dep : Deployment) (src : SourceAnswers) (ctx : PropertyContext)
    (key : StepKey) : Prop :=
  ∀ a, shipped dep src key = some a → Yields m a ctx → sourceFiles dep src ctx key = []

theorem docTurn_files (h : (docTurn m (shipped dep src) d ctx).1 = .ok step) :
    (∀ r ∈ step.provenance, r.retrievedUtc = "") ∧
      (step.downloaded = [] ↔ SavesNothing m dep src ctx d.key) := by
  obtain ⟨a, fs, outcome, error, confidence, ha, hmade, rfl⟩ := docTurn_made dep src ctx h
  have hundated : (∀ e ∈ fs.records, e.fetchedUtc = none) →
      ∀ r ∈ fs.records.map provenanceFrom, r.retrievedUtc = "" := by
    intro hall r hr
    obtain ⟨e, he, rfl⟩ := List.mem_map.mp hr
    rw [provenanceFrom, hall e he]
    rfl
  have hrefused : ¬ Yields m a ctx → SavesNothing m dep src ctx d.key := by
    intro hno a' ha' hyields
    obtain rfl := Option.some.inj (ha.symm.trans ha')
    exact (hno hyields).elim
  cases hmade with
  | fetched hf hyields =>
    obtain ⟨hsaved, hall⟩ := shipped_fetch_saves ha hf
    refine ⟨hundated hall, ?_⟩
    change fs.downloaded = [] ↔ _
    rw [hsaved]
    constructor
    · intro hnone a' ha' _
      exact hnone
    · intro hnothing
      exact hnothing a ha hyields
  | fallen records hno hb =>
    obtain ⟨hnone, hempty⟩ := shipped_fallback_saves ha hb
    exact ⟨hundated (by simp [hempty]), iff_of_true hnone (hrefused hno)⟩
  | lastResort records hno hb =>
    exact ⟨hundated (by simp [lastResort]), iff_of_true rfl (hrefused hno)⟩

/-- The sources answer a turn as they answer at the start of the run. -/
theorem savesNothing_scraped (key : StepKey) :
    SavesNothing m dep src ((ctx.scraped dep src).withRecord ctx.appr) key ↔
      SavesNothing m dep src ctx key := by
  have hfiles : sourceFiles dep src ((ctx.scraped dep src).withRecord ctx.appr) key =
      sourceFiles dep src ctx key := by
    cases key <;> rfl
  have hyields : ∀ a, shipped dep src key = some a →
      (Yields m a ((ctx.scraped dep src).withRecord ctx.appr) ↔ Yields m a ctx) := by
    intro a ha
    unfold Yields
    rw [← shipped_fetch ha ctx ctx.appr fun _ => rfl]
  constructor
  · intro h a ha hy
    exact hfiles.symm.trans (h a ha ((hyields a ha).mpr hy))
  · intro h a ha hy
    exact hfiles.trans (h a ha ((hyields a ha).mp hy))

end Shipped

/-- Every file that the steps of a run list has its audit trail exactly when there is no such
file: no wanted document's source saves one, or its step is refused. -/
theorem files_audited_iff [PyText] [PyFloat] (m : StepModel) (dep : Deployment)
    (src : SourceAnswers) (ctx : PropertyContext) (staging : Staging)
    (wanted : Option (List StepKey)) (sha256 : Blob → String) (disk : String → Option Blob)
    (steps : List StepResult) (ctx' : PropertyContext)
    (h : buildStepsWith m (shipped dep src) staging wanted ctx = (.ok steps, ctx')) :
    FilesAudited sha256 disk ctx'.manifest steps ↔
      ∀ d ∈ wantedDocs wanted residentialDocs, SavesNothing m dep src ctx d.key := by
  have hsteps : (buildStepsWith m (shipped dep src) staging wanted ctx).1 = .ok steps :=
    congrArg Prod.fst h
  rw [buildStepsWith_turns] at hsteps
  obtain ⟨_, -, hturns⟩ := bind_eq_ok.mp hsteps
  constructor
  · intro haudited d hd
    obtain ⟨step, hmem, hstep⟩ := exists_of_mapM hturns hd
    obtain ⟨hundated, hnone⟩ := docTurn_files hstep
    rw [← savesNothing_scraped, ← hnone]
    by_contra hsome
    obtain ⟨filename, hfile⟩ := List.exists_mem_of_ne_nil _ hsome
    obtain ⟨r, hr, hdated, -⟩ := (haudited step hmem filename hfile).record
    have hrec : r ∈ step.provenance := (List.mem_filter.mp (hr ▸ List.mem_singleton_self r)).1
    exact hdated (hundated r hrec)
  · intro hnothing step hmem filename hfile
    obtain ⟨d, hd, hstep⟩ := mem_of_mapM hturns hmem
    have hnone := (docTurn_files hstep).2.mpr ((savesNothing_scraped d.key).mpr (hnothing d hd))
    rw [hnone] at hfile
    cases hfile

section Concrete

open scoped PyText.Ascii PyFloat.Whole

/-- A parcel that the statewide layer confirmed. -/
def recordedContext : PropertyContext :=
  { bareContext with
    parcelOk := true
    parcel := { method := "arcgis-rest", parcels := [[("PARCEL_ID", .str "A-1")]] } }

def recordRun (src : SourceAnswers) : Except PyErr (List StepResult) × PropertyContext :=
  buildStepsWith anyStep (shipped Context.sampleDeployment src) Context.sampleStaging
    (some [.parcel]) recordedContext

theorem unsaved_record_audited : ∃ steps ctx',
    recordRun (silentServices.answers recordedContext) = (.ok steps, ctx') ∧
      (FilesAudited (fun bytes => toString bytes.length) (fun _ => none) ctx'.manifest steps ↔
        ∀ d ∈ wantedDocs (some [.parcel]) residentialDocs, SavesNothing anyStep
          Context.sampleDeployment (silentServices.answers recordedContext) recordedContext d.key) :=
  ⟨_, _, rfl, files_audited_iff anyStep Context.sampleDeployment _ recordedContext
    Context.sampleStaging (some [.parcel]) _ _ _ _ rfl⟩

/-- The parcel report is saved and staged, and its record has neither a time nor a digest. -/
theorem saved_record_unaudited : (∃ step ctx',
      recordRun { silentServices.answers recordedContext with
        parcelRecord := .ok (some "parcel_record.pdf") } = (.ok [step], ctx') ∧
      step.downloaded = ["parcel_record.pdf"] ∧
      step.provenance = [{
        sourceId := ""
        provider := ""
        url := ""
        retrievedUtc := ""
        file := some "documents/parcel_record.pdf"
        sha256 := none }]) ∧
    ¬ ∀ (m : StepModel) (dep : Deployment) (src : SourceAnswers) (ctx : PropertyContext)
      (staging : Staging) (wanted : Option (List StepKey)) (sha256 : Blob → String)
      (disk : String → Option Blob) (steps : List StepResult) (ctx' : PropertyContext),
      buildStepsWith m (shipped dep src) staging wanted ctx = (.ok steps, ctx') →
      FilesAudited sha256 disk ctx'.manifest steps := by
  refine ⟨⟨_, _, rfl, rfl, rfl⟩, fun hall => ?_⟩
  have haudited := hall anyStep Context.sampleDeployment { silentServices.answers recordedContext with
    parcelRecord := .ok (some "parcel_record.pdf") } recordedContext Context.sampleStaging
    (some [.parcel]) (fun bytes => toString bytes.length) (fun _ => some [1, 2]) _ _ rfl
  obtain ⟨r, hr, hdated, -⟩ :=
    (haudited _ List.mem_cons_self "parcel_record.pdf" List.mem_cons_self).record
  obtain rfl := List.mem_singleton.mp ((List.mem_filter.mp (hr ▸ List.mem_singleton_self r)).1)
  exact hdated rfl

end Concrete

end Steps
end ResearchEngine
