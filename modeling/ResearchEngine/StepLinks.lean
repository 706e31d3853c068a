import ResearchEngine.StepIndependence

/-! Fetch or link: the step of a document always has somewhere to go, whatever its source
does. -/
namespace ResearchEngine

open PyText Adapters

/-- The urls that the adapters link to are there. -/
structure PropertyContext.Linked (ctx : PropertyContext) : Prop where
  appraiser : ctx.appraiserUrl ≠ ""
  deeds : ctx.clerkRef.officialRecordsSearch ≠ ""
  plats : ctx.clerkRef.platSearch ≠ ""

/-- The urls are not among what an adapter writes. -/
theorem PropertyContext.linked_settled {ctx : PropertyContext} : ctx.settled.Linked ↔ ctx.Linked :=
  ⟨fun h => ⟨h.appraiser, h.deeds, h.plats⟩, fun h => ⟨h.appraiser, h.deeds, h.plats⟩⟩

namespace Context

/-- A first url that is missing or empty is passed over. -/
theorem firstUrl_ne_empty (urls : List (Option String)) {last : String} (hlast : last ≠ "") :
    firstUrl urls last ≠ "" := by
  unfold firstUrl
  cases h : (urls.filterMap id).find? fun u => u ≠ "" with
  | none => exact hlast
  | some url =>
    have hurl := List.find?_some h
    exact of_decide_eq_true hurl

variable [PyText]

theorem netronline_ne_empty (stateAbbr countyName : String) :
    Parcel.netronline stateAbbr countyName ≠ "" := by
  have hfront : ∀ a b : String, a ++ b = "" → a = "" :=
    fun a b h => (String.append_eq_empty_iff.mp h).1
  intro h
  unfold Parcel.netronline at h
  have hsite := hfront _ _ (hfront _ _ (hfront _ _ h))
  revert hsite
  decide

variable [PyFloat] {dep : Deployment} {geo : GeocoderAnswers} {sv : ParcelServices}
  {staging : Staging} {args : ResearchArgs} {ctx : PropertyContext}

/-- Whatever the registry holds, the county directory is the last resort. -/
theorem assembleContext_linked {found : Located}
    (h : assembleContext dep sv staging args found = .ok ctx) : ctx.Linked := by
  obtain ⟨-, -, happraiser, hclerk⟩ := assembleContext_made h
  have hdeeds : (clerkReferences dep ctx.countyFips ctx.state ctx.county
      ctx.parcelHints).officialRecordsSearch ≠ "" := firstUrl_ne_empty _ (netronline_ne_empty _ _)
  refine ⟨?_, ?_, ?_⟩
  · rw [happraiser]
    exact firstUrl_ne_empty _ (netronline_ne_empty _ _)
  · rw [hclerk]
    exact hdeeds
  · rw [hclerk]
    exact firstUrl_ne_empty _ hdeeds

theorem resolvePropertyContext_linked
    (h : resolvePropertyContext dep geo sv staging args = .ok ctx) : ctx.Linked := by
  obtain ⟨found, -, h⟩ := bind_eq_ok.mp h
  exact assembleContext_linked h

end Context
namespace Adapters

variable [PyText] [PyFloat] {dep : Deployment} {src : SourceAnswers} {key : StepKey}
  {a : SourceAdapter} {ctx : PropertyContext}

/-- What the shipped adapters fetch has a link: one of the context's, or a fixed one. -/
theorem shipped_fetch_link (h : shipped dep src key = some a) (hctx : ctx.Linked)
    {fs : FetchedSource} (hfs : (a.fetch ctx).1 = .ok fs) : fs.link ≠ "" := by
  cases key with
  | parcel =>
    obtain rfl := Option.some.inj h
    have hfetch : parcelFetch src ctx = .ok fs := hfs
    unfold parcelFetch at hfetch
    split at hfetch
    · obtain rfl := Except.ok.inj hfetch
      have hlink : (parcelUnconfirmed ctx).link = ctx.appraiserUrl := by
        unfold parcelUnconfirmed
        split <;> rfl
      rw [hlink]
      exact hctx.appraiser
    · obtain ⟨area, -, hfetch⟩ := bind_eq_ok.mp hfetch
      obtain rfl := Except.ok.inj hfetch
      exact hctx.appraiser
  | appraiser =>
    obtain rfl := Option.some.inj h
    obtain rfl := Except.ok.inj hfs
    exact hctx.appraiser
  | deed | adjoiners | easements | priorSurvey | condo =>
    obtain rfl := Option.some.inj h
    obtain rfl := Except.ok.inj hfs
    exact hctx.deeds
  | plat =>
    obtain rfl := Option.some.inj h
    obtain rfl := Except.ok.inj hfs
    exact hctx.plats
  | flood =>
    obtain rfl := Option.some.inj h
    obtain ⟨f, -, hfetch⟩ := bind_eq_ok.mp hfs
    obtain rfl := Except.ok.inj hfetch
    show mscHome ≠ ""
    decide
  | benchmarks =>
    obtain rfl := Option.some.inj h
    obtain ⟨b, -, hfetch⟩ := bind_eq_ok.mp hfs
    obtain rfl := Except.ok.inj hfetch
    show "https://geodesy.noaa.gov/" ≠ ""
    decide
  | glo =>
    obtain rfl := Option.some.inj h
    obtain rfl := Except.ok.inj hfs
    show gloFetch.link ≠ ""
    decide
  | zoning =>
    obtain rfl := Option.some.inj h
    obtain rfl := Except.ok.inj hfs
    show orElse ctx.appraiserUrl _ ≠ ""
    unfold orElse
    rw [if_neg hctx.appraiser]
    exact hctx.appraiser

/-- So has what they fall back on. -/
theorem shipped_fallback_link (h : shipped dep src key = some a) (hctx : ctx.Linked) :
    ∃ fs, (a.fallback ctx).1 = .ok fs ∧ fs.link ≠ "" := by
  cases key with
  | parcel | appraiser =>
    obtain rfl := Option.some.inj h
    exact ⟨_, rfl, hctx.appraiser⟩
  | deed | adjoiners | easements | priorSurvey | condo =>
    obtain rfl := Option.some.inj h
    exact ⟨_, rfl, hctx.deeds⟩
  | plat =>
    obtain rfl := Option.some.inj h
    exact ⟨_, rfl, hctx.plats⟩
  | flood =>
    obtain rfl := Option.some.inj h
    exact ⟨_, rfl, show floodFallback.link ≠ "" by decide⟩
  | benchmarks =>
    obtain rfl := Option.some.inj h
    exact ⟨_, rfl, show ngsFallback.link ≠ "" by decide⟩
  | glo =>
    obtain rfl := Option.some.inj h
    exact ⟨_, rfl, show gloFetch.link ≠ "" by decide⟩
  | zoning =>
    obtain rfl := Option.some.inj h
    have hzoning : shipped dep src .zoning =
        some (plainAdapter (fun ctx => .ok (zoningFetch ctx)) zoningFetch) := rfl
    exact ⟨_, rfl, shipped_fetch_link hzoning hctx rfl⟩

end Adapters
namespace Steps

variable {m : StepModel} {d : ResidentialDoc} {a : SourceAdapter} {ctx : PropertyContext}
  {step : StepResult}

section Shipped

variable [PyText] [PyFloat] {dep : Deployment} {src : SourceAnswers}

theorem docTurn_link (hctx : ctx.Linked) (h : (docTurn m (shipped dep src) d ctx).1 = .ok step) :
    step.link ≠ "" := by
  obtain ⟨a, fs, outcome, error, confidence, ha, hmade, rfl⟩ := docTurn_made dep src ctx h
  have hfallback : ∀ records, ∃ fs,
      (a.fallback { (a.fetch ctx).2 with manifest := records }).1 = .ok fs ∧ fs.link ≠ "" := by
    intro records
    refine shipped_fallback_link ha (PropertyContext.linked_settled.mp ?_)
    show (a.fetch ctx).2.settled.Linked
    rw [(shipped_settles ha).fetch]
    exact PropertyContext.linked_settled.mpr hctx
  show fs.link ≠ ""
  cases hmade with
  | fetched hf _ => exact shipped_fetch_link ha hctx hf
  | fallen records _ hb =>
    obtain ⟨fs', hfs', hlink⟩ := hfallback records
    obtain rfl := Except.ok.inj (hb.symm.trans hfs')
    exact hlink
  | lastResort records _ hb =>
    -- the last-resort step, which has no link, is for a fallback that raises
    obtain ⟨fs', hfs', -⟩ := hfallback records
    rw [hb] at hfs'
    cases hfs'

/-- Nothing is a dead end: for a resolved property, every step that `build_steps` returns has a
link, whatever the registry holds and whatever the sources answer or raise. -/
theorem steps_are_linked (dep : Deployment) (geo : GeocoderAnswers) (sv : ParcelServices)
    (staging : Staging) (args : ResearchArgs) (ctx : PropertyContext)
    (hctx : Context.resolvePropertyContext dep geo sv staging args = .ok ctx) (m : StepModel)
    (src : SourceAnswers) (wanted : Option (List StepKey)) (steps : List StepResult)
    (h : (buildStepsWith m (shipped dep src) staging wanted ctx).1 = .ok steps) :
    ∀ step ∈ steps, step.link ≠ "" := by
  intro step hstep
  obtain ⟨d, hd⟩ := mem_buildStepsWith dep src ctx h hstep
  have hlinked := Context.resolvePropertyContext_linked hctx
  refine docTurn_link ?_ hd
  exact ⟨hlinked.appraiser, hlinked.deeds, hlinked.plats⟩

end Shipped

section Concrete

open scoped PyText.Ascii PyFloat.Whole

/-- A registry without a single url, and sources that are all down. -/
theorem steps_are_linked_down : ∃ ctx steps,
    Context.sampleResolution "9 Oak Avenue" "9 OAK AVE, TAMPA, FL" = .ok ctx ∧
      (buildStepsWith anyStep (shipped Context.sampleDeployment (silentServices.answers ctx))
        Context.sampleStaging none ctx).1 = .ok steps ∧
      ∀ step ∈ steps, step.link ≠ "" := by
  obtain ⟨ctx, hctx, -⟩ := Context.succeeds_iff.mp (show Context.succeeds
    (Context.sampleResolution "9 Oak Avenue" "9 OAK AVE, TAMPA, FL") (fun _ => true) = true
      by decide +kernel)
  obtain ⟨steps, hsteps⟩ : ∃ steps, (buildStepsWith anyStep
      (shipped Context.sampleDeployment (silentServices.answers ctx)) Context.sampleStaging none
        ctx).1 = .ok steps := buildStepsWith_total _ _ ctx (fun _ => rfl) rfl none
  exact ⟨ctx, steps, hctx, hsteps, steps_are_linked _ _ _ _ _ ctx hctx _ _ _ steps hsteps⟩

end Concrete

end Steps
end ResearchEngine
