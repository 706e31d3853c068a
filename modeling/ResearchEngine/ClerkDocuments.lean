import ResearchEngine.StepIndependence
import ResearchEngine.StagedFiles

/-! What the steps of the clerk's documents say of the scrape: they are called ok, fetched
automatically and trusted whether or not it produced a file. -/
namespace ResearchEngine

/-- The order of the confidences. -/
def Confidence.rank : Confidence → ℕ
  | .none => 0
  | .low => 1
  | .medium => 2
  | .high => 3

namespace Adapters

/-- The file of a scrape that each document of the clerk's family stands for. -/
def clerkFamily : StepKey → Option (ClerkDocs → Option String)
  | .deed | .adjoiners | .easements | .priorSurvey => some ClerkDocs.deed
  | .plat | .condo => some ClerkDocs.plat
  | _ => none

theorem clerkFamily_blank {key : StepKey} {family : ClerkDocs → Option String}
    (h : clerkFamily key = some family) : family {} = none := by
  cases key <;> cases h <;> rfl

section Scrape

variable (dep : Deployment) (src : SourceAnswers) (ctx : PropertyContext)
  (family : ClerkDocs → Option String)

/-- The file that the run's scrape produced for a family. -/
def scrapedFile : Option String := savedName (.ok (family (scrapeDocuments dep src ctx).1))

/-- The appraiser record that the scrape goes by. -/
def recordForScrape : Option Appraisal :=
  if dep.appraiserSite ctx.countyFips ∧ ctx.parcelId ≠ "" ∧ ctx.appr = none then
    match src.appraisal with
    | .ok appraisal => some appraisal
    | .error _ => some {}
  else ctx.appr

/-- The clerk supplies a document of the family: it is among those at hand already, or the
parcel is confirmed, its county has a scraping adapter, and the portal answers with one. -/
def Supplied : Prop :=
  match ctx.clerkDocs with
  | some docs => savedName (.ok (family docs)) ≠ none
  | none => ctx.parcelOk = true ∧ dep.clerkScraper ctx.countyFips = true ∧ ctx.parcel.parcels ≠ [] ∧
    ∃ docs, src.clerkDocs (ctx.parcel.parcels.headD []) (recordForScrape dep src ctx) = .ok docs ∧
      savedName (.ok (family docs)) ≠ none

theorem scrapeDocuments_fresh (h : ctx.clerkDocs = none) :
    (scrapeDocuments dep src ctx).1 =
      if ctx.parcelOk ∧ dep.clerkScraper ctx.countyFips ∧ !ctx.parcel.parcels.isEmpty then
        match src.clerkDocs (ctx.parcel.parcels.headD []) (recordForScrape dep src ctx) with
        | .ok docs => docs
        | .error _ => {}
      else {} := by
  unfold scrapeDocuments
  rw [h]
  rfl

theorem scrapedFile_ne_none_iff (hfamily : family {} = none) :
    scrapedFile dep src ctx family ≠ none ↔ Supplied dep src ctx family := by
  have hempty : savedName (.ok (family {})) = none := by
    rw [hfamily]
    rfl
  unfold scrapedFile Supplied
  cases hdocs : ctx.clerkDocs with
  | some docs =>
    unfold scrapeDocuments
    rw [hdocs]
  | none =>
    rw [scrapeDocuments_fresh dep src ctx hdocs]
    dsimp only
    by_cases hasked : ctx.parcelOk ∧ dep.clerkScraper ctx.countyFips ∧ !ctx.parcel.parcels.isEmpty
    · have hparcels : ctx.parcel.parcels ≠ [] := by simpa using hasked.2.2
      rw [if_pos hasked]
      cases src.clerkDocs (ctx.parcel.parcels.headD []) (recordForScrape dep src ctx) with
      | error e => simp [hempty]
      | ok docs => simp [hasked.1, hasked.2.1, hparcels]
    · rw [if_neg hasked]
      refine iff_of_false (fun h => h hempty) ?_
      rintro ⟨hok, hsite, hparcels, -⟩
      exact hasked ⟨hok, hsite, by simpa using hparcels⟩

end Scrape

variable [PyText] [PyFloat] {dep : Deployment} {src : SourceAnswers} {key : StepKey}
  {a : SourceAdapter} {family : ClerkDocs → Option String}

/-- The adapters of the clerk's documents always return, and call their fetch ok. -/
theorem clerk_fetch_ok (hkey : clerkFamily key = some family) (ha : shipped dep src key = some a)
    (ctx : PropertyContext) : ∃ fs ctx', a.fetch ctx = (.ok fs, ctx') ∧ fs.status = .ok ∧
      fs.manualReview = false ∧
      (scrapedFile dep src ctx family = none → fs.confidence = none ∧ fs.downloaded = []) := by
  cases key with
  | parcel | appraiser | flood | benchmarks | glo | zoning => cases hkey
  | deed | plat =>
    obtain rfl := Option.some.inj hkey
    obtain rfl := Option.some.inj ha
    refine ⟨_, _, rfl, rfl, rfl, fun hnone => ?_⟩
    unfold scrapedFile at hnone
    simp [deedFetch, platFetch, hnone]
  | adjoiners | easements | priorSurvey | condo =>
    obtain rfl := Option.some.inj hkey
    obtain rfl := Option.some.inj ha
    exact ⟨_, _, rfl, rfl, rfl, fun _ => ⟨rfl, rfl⟩⟩

end Adapters

namespace Steps

open Adapters

section Runs

variable [PyText] [PyFloat]

/-- A step of a clerk's document in a run whose scrape produced its file, from one context. -/
def WithDocument (dep : Deployment) (ctx : PropertyContext) (family : ClerkDocs → Option String)
    (step : StepResult) : Prop :=
  ∃ src staging wanted steps, (buildSteps (shipped dep src) staging wanted ctx).1 = .ok steps ∧
    step ∈ steps ∧ scrapedFile dep src ctx family ≠ none

/-- What a step of a clerk's document may say, given the file that the scrape produced. -/
structure HonestStep (dep : Deployment) (ctx : PropertyContext) (family : ClerkDocs → Option String)
    (file : Option String) (step : StepResult) : Prop where
  fetched : step.status = .ok ∨ step.sourceOutcome = .auto ∨ step.confidence = .high ∨
    step.confidence = .medium → file ≠ none
  linked : file = none →
    step.status = .link ∧ step.sourceOutcome = .linkOnly ∧ step.confidence = .low
  modest : file = none → ∀ step', step'.key = step.key → WithDocument dep ctx family step' →
    step.confidence.rank ≤ step'.confidence.rank

/-- A step of a clerk's document is ok, with an automatic outcome; without a file its confidence
is high. -/
theorem clerk_step {dep : Deployment} {src : SourceAnswers} {ctx : PropertyContext}
    {staging : Staging} {wanted : Option (List StepKey)} {steps : List StepResult}
    (h : (buildSteps (shipped dep src) staging wanted ctx).1 = .ok steps) {step : StepResult}
    (hstep : step ∈ steps) {family : ClerkDocs → Option String}
    (hkey : clerkFamily step.key = some family) :
    step.status = .ok ∧ step.sourceOutcome = .auto ∧
      (scrapedFile dep src ctx family = none → step.confidence = .high) := by
  rw [← buildStepsWith_accepting (m := anyStep) (fun _ => rfl)] at h
  obtain ⟨d, hd⟩ := mem_buildStepsWith dep src ctx h hstep
  have hdkey := docTurn_key hd
  rw [hdkey] at hkey
  unfold docTurn at hd
  cases ha : shipped dep src d.key with
  | none =>
    revert ha
    cases d.key <;> exact fun ha => by cases ha
  | some a =>
    rw [ha] at hd
    dsimp only at hd
    rw [runOneWith_accepting (m := anyStep) (fun _ => rfl)] at hd
    obtain ⟨fs, ctx', hf, hok, hreview, hconfidence⟩ :=
      clerk_fetch_ok hkey ha ((ctx.scraped dep src).withRecord ctx.appr)
    unfold runOne at hd
    rw [hf] at hd
    obtain rfl := Except.ok.inj hd
    refine ⟨hok, ?_, fun hnone => ?_⟩
    · show outcomeFor fs = .auto
      unfold outcomeFor
      rw [hreview, hok]
      rfl
    · show fs.confidence.getD (defaultConfidence fs.status fs.manualReview) = .high
      rw [(hconfidence hnone).1, hok, hreview]
      rfl

/-- A step of a clerk's document is honest exactly when the clerk supplies a document of its
family. -/
theorem clerk_step_honest_iff (dep : Deployment) (src : SourceAnswers) (ctx : PropertyContext)
    (staging : Staging) (wanted : Option (List StepKey)) (steps : List StepResult)
    (h : (buildSteps (shipped dep src) staging wanted ctx).1 = .ok steps) (step : StepResult)
    (hstep : step ∈ steps) (family : ClerkDocs → Option String)
    (hkey : clerkFamily step.key = some family) :
    HonestStep dep ctx family (scrapedFile dep src ctx family) step ↔
      Supplied dep src ctx family := by
  obtain ⟨hok, -, -⟩ := clerk_step h hstep hkey
  rw [← scrapedFile_ne_none_iff dep src ctx family (clerkFamily_blank hkey)]
  constructor
  · intro honest
    exact honest.fetched (.inl hok)
  · intro hfile
    exact ⟨fun _ => hfile, fun hnone => (hfile hnone).elim, fun hnone => (hfile hnone).elim⟩

end Runs

section Concrete

open scoped PyText.Ascii PyFloat.Whole

/-- A county whose clerk can be scraped. -/
def scrapedCounty : Deployment := { Context.sampleDeployment with clerkScraper := fun _ => true }

def confirmedContext : PropertyContext :=
  { bareContext with parcelOk := true, parcel := { parcels := [[("PARCEL_ID", .str "A-1")]] } }

/-- The clerk's portal has the deed. -/
def deedServices : SourceServices :=
  { silentServices with fetchDocuments := fun _ _ _ => .ok { deed := some "deed.pdf" } }

/-- The run for the deed alone. -/
def deedRun (svc : SourceServices) : Except PyErr (List StepResult) :=
  (buildSteps (shipped scrapedCounty (svc.answers confirmedContext)) Context.sampleStaging
    (some [.deed]) confirmedContext).1

theorem clerk_step_honest_iff_deed : ∃ step, deedRun deedServices = .ok [step] ∧
    HonestStep scrapedCounty confirmedContext ClerkDocs.deed
      (scrapedFile scrapedCounty (deedServices.answers confirmedContext) confirmedContext
        ClerkDocs.deed) step := by
  refine ⟨_, rfl, (clerk_step_honest_iff scrapedCounty (deedServices.answers confirmedContext)
    confirmedContext Context.sampleStaging (some [.deed]) _ rfl _ List.mem_cons_self _ rfl).mpr ?_⟩
  exact ⟨rfl, rfl, by decide, _, rfl, by decide⟩

/-- The portal is down: the deed step is ok, automatic and of high confidence all the same, while
it is of medium confidence when the deed is there. -/
theorem deed_missing_but_ok : (∃ step found,
      deedRun silentServices = .ok [step] ∧ deedRun deedServices = .ok [found] ∧
      step.status = .ok ∧ step.sourceOutcome = .auto ∧ step.downloaded = [] ∧
      step.confidence = .high ∧ found.confidence = .medium) ∧
    ¬ ∀ (dep : Deployment) (src : SourceAnswers) (ctx : PropertyContext) (staging : Staging)
      (wanted : Option (List StepKey)) (steps : List StepResult) (step : StepResult)
      (family : ClerkDocs → Option String),
      (buildSteps (shipped dep src) staging wanted ctx).1 = .ok steps → step ∈ steps →
      clerkFamily step.key = some family →
      HonestStep dep ctx family (scrapedFile dep src ctx family) step := by
  refine ⟨⟨_, _, rfl, rfl, rfl, rfl, rfl, rfl, rfl⟩, fun hall => ?_⟩
  have honest := hall scrapedCounty (silentServices.answers confirmedContext) confirmedContext
    Context.sampleStaging (some [.deed]) _ _ ClerkDocs.deed rfl List.mem_cons_self rfl
  exact honest.fetched (.inl rfl) rfl

end Concrete

end Steps
end ResearchEngine
