import ResearchEngine.ResearchRun
import ResearchEngine.ResultRelation
import ResearchEngine.ConfirmedParcel

/-! A parcel that fails the trust gate stays out of the result: two runs that differ in
nothing but such a parcel end alike. -/
namespace ResearchEngine

open PyText

/-- What a run may still look at in an unconfirmed parcel. -/
structure ParcelResult.Alike (p q : ParcelResult) : Prop where
  parcels : p.parcels.isEmpty = q.parcels.isEmpty
  buffered : p.bufferedMatch = q.bufferedMatch
  source : p.source = q.source

/-- A context with an unconfirmed parcel, and the same context with another one. -/
inductive SameShown : PropertyContext → PropertyContext → Prop
  | mk {ctx : PropertyContext} (p : ParcelResult) (manifest : List ManifestEntry)
      (unconfirmed : ctx.parcelOk = false) (noId : ctx.parcelId = "") (alike : ctx.parcel.Alike p) :
      SameShown ctx { ctx with parcel := p, manifest := manifest }

namespace SameShown

variable {c c' : PropertyContext}

theorem scratch (h : SameShown c c') : c.appr = c'.appr ∧ c.clerkDocs = c'.clerkDocs := by
  cases h
  exact ⟨rfl, rfl⟩

theorem references (h : SameShown c c') :
    c.clerkRef = c'.clerkRef ∧ c.parcelHints = c'.parcelHints := by
  cases h
  exact ⟨rfl, rfl⟩

theorem unconfirmed_right (h : SameShown c c') : c'.parcelOk = false ∧ c'.parcelId = "" := by
  cases h with
  | mk p manifest unconfirmed noId alike => exact ⟨unconfirmed, noId⟩

theorem unconfirmed_left (h : SameShown c c') : c.parcelOk = false ∧ c.parcelId = "" := by
  cases h with
  | mk p manifest unconfirmed noId alike => exact ⟨unconfirmed, noId⟩

theorem scraped (h : SameShown c c') (docs : ClerkDocs) :
    SameShown { c with clerkDocs := some docs } { c' with clerkDocs := some docs } := by
  cases h with
  | mk p manifest unconfirmed noId alike => exact .mk p manifest unconfirmed noId alike

theorem logged (h : SameShown c c') (records : List ManifestEntry) :
    SameShown { c with manifest := c.manifest ++ records }
      { c' with manifest := c'.manifest ++ records } := by
  cases h with
  | mk p manifest unconfirmed noId alike => exact .mk p (manifest ++ records) unconfirmed noId alike

end SameShown

/-- The sources give the same answers to all that is not asked about a parcel. -/
structure SourceAnswers.SameElsewhere (a b : SourceAnswers) : Prop where
  floodZones : a.floodZones = b.floodZones
  floodPanels : a.floodPanels = b.floodPanels
  floodMap : a.floodMap = b.floodMap
  floodReport : a.floodReport = b.floodReport
  marks : a.marks = b.marks
  datasheets : a.datasheets = b.datasheets

theorem SourceServices.answers_sameElsewhere [PyText] (svc : SourceServices)
    {c c' : PropertyContext} (h : SameShown c c') :
    (svc.answers c).SameElsewhere (svc.answers c') := by
  cases h with
  | mk p manifest unconfirmed noId alike =>
    have hmeta : c.docMeta = { c with parcel := p, manifest := manifest }.docMeta := by
      simp [PropertyContext.docMeta, PropertyContext.situs, PropertyContext.landSqft,
        PropertyContext.landAcres, unconfirmed]
    have hflood : Adapters.flood (svc.lookups c) c.countyFips =
        Adapters.flood (svc.lookups { c with parcel := p, manifest := manifest }) c.countyFips := rfl
    have hmarks : Adapters.benchmarks (svc.lookups c) =
        Adapters.benchmarks (svc.lookups { c with parcel := p, manifest := manifest }) := rfl
    refine ⟨rfl, rfl, ?_, ?_, rfl, ?_⟩
    · simp only [answers, hmeta, hflood]
    · simp only [answers, hmeta, hflood]
    · simp only [answers, hmarks]

/-! The adapters. -/

/-- Two calls with the same answer, on contexts that show the same. -/
def SameTurn {α : Type} (r r' : Except PyErr α × PropertyContext) : Prop :=
  r.1 = r'.1 ∧ SameShown r.2 r'.2

structure SourceAdapter.SameOn (a b : SourceAdapter) : Prop where
  fetch : ∀ {c c'}, SameShown c c' → SameTurn (a.fetch c) (b.fetch c')
  fallback : ∀ {c c'}, SameShown c c' → SameTurn (a.fallback c) (b.fallback c')

namespace Adapters

variable {dep : Deployment} {src src' : SourceAnswers} {c c' : PropertyContext}

theorem plainAdapter_same {fetch fetch' : PropertyContext → Except PyErr FetchedSource}
    {fallback fallback' : PropertyContext → FetchedSource}
    (hf : ∀ {c c'}, SameShown c c' → fetch c = fetch' c')
    (hb : ∀ {c c'}, SameShown c c' → fallback c = fallback' c') :
    (plainAdapter fetch fallback).SameOn (plainAdapter fetch' fallback') where
  fetch h := ⟨hf h, h⟩
  fallback h := ⟨congrArg Except.ok (hb h), h⟩

theorem clerkAdapter_same {fetch fetch' fallback fallback' :
      PropertyContext → FetchedSource × PropertyContext}
    (hf : ∀ {c c'}, SameShown c c' →
      (fetch c).1 = (fetch' c').1 ∧ SameShown (fetch c).2 (fetch' c').2)
    (hb : ∀ {c c'}, SameShown c c' →
      (fallback c).1 = (fallback' c').1 ∧ SameShown (fallback c).2 (fallback' c').2) :
    (clerkAdapter fetch fallback).SameOn (clerkAdapter fetch' fallback') where
  fetch h := ⟨congrArg Except.ok (hf h).1, (hf h).2⟩
  fallback h := ⟨congrArg Except.ok (hb h).1, (hb h).2⟩

theorem parcelFallback_same (h : SameShown c c') : parcelFallback c = parcelFallback c' := by
  cases h
  rfl

/-- The step for an unconfirmed parcel says that a buffered one is there, and its source. -/
theorem parcelFetch_same [PyFloat] (h : SameShown c c') : parcelFetch src c = parcelFetch src' c' := by
  cases h with
  | mk p manifest unconfirmed noId alike =>
    have hstep : parcelUnconfirmed c =
        parcelUnconfirmed { c with parcel := p, manifest := manifest } := by
      simp only [parcelUnconfirmed, alike.parcels, alike.buffered, alike.source]
      rfl
    simp only [parcelFetch, parcelConfirmed, unconfirmed, hstep]
    rfl

theorem appraiserFetch_same (h : SameShown c c') : appraiserFetch src c = appraiserFetch src' c' := by
  cases h with
  | mk p manifest unconfirmed noId alike => simp [appraiserFetch, unconfirmed]

/-- An unconfirmed parcel is not looked up at the clerk's. -/
theorem scrapeDocuments_unconfirmed {ctx : PropertyContext} (hok : ctx.parcelOk = false)
    (hid : ctx.parcelId = "") :
    scrapeDocuments dep src ctx =
      (ctx.clerkDocs.getD {}, { ctx with clerkDocs := some (ctx.clerkDocs.getD {}) }) := by
  cases hdocs : ctx.clerkDocs with
  | some docs =>
    simp only [scrapeDocuments, hdocs, Option.getD_some]
    rw [← hdocs]
  | none =>
    unfold scrapeDocuments
    rw [hdocs]
    simp [hok, hid]

theorem scrapeDocuments_same (dep : Deployment) (src src' : SourceAnswers) (h : SameShown c c') :
    (scrapeDocuments dep src c).1 = (scrapeDocuments dep src' c').1 ∧
      SameShown (scrapeDocuments dep src c).2 (scrapeDocuments dep src' c').2 := by
  obtain ⟨hok, hid⟩ := h.unconfirmed_left
  obtain ⟨hok', hid'⟩ := h.unconfirmed_right
  rw [scrapeDocuments_unconfirmed hok hid, scrapeDocuments_unconfirmed hok' hid', h.scratch.2]
  exact ⟨rfl, h.scraped _⟩

theorem clerkStep_same (h : SameShown c c') (url label summary : String) :
    clerkStep c url label summary = clerkStep c' url label summary := by
  simp only [clerkStep, h.references]

theorem deedSummary_same (h : SameShown c c') : deedSummary c = deedSummary c' := by
  simp only [deedSummary, hintStr, h.references]

section Clerk

variable [PyText]

theorem deedFetch_same (h : SameShown c c') :
    (deedFetch dep src c).1 = (deedFetch dep src' c').1 ∧
      SameShown (deedFetch dep src c).2 (deedFetch dep src' c').2 := by
  obtain ⟨hdocs, hctx⟩ := scrapeDocuments_same dep src src' h
  refine ⟨?_, hctx⟩
  simp only [deedFetch, hdocs, h.references, deedSummary_same hctx, clerkStep_same hctx]

end Clerk

theorem platFetch_same (h : SameShown c c') :
    (platFetch dep src c).1 = (platFetch dep src' c').1 ∧
      SameShown (platFetch dep src c).2 (platFetch dep src' c').2 := by
  obtain ⟨hdocs, hctx⟩ := scrapeDocuments_same dep src src' h
  refine ⟨?_, hctx⟩
  simp only [platFetch, hdocs, h.references, clerkStep_same hctx]

theorem attemptClerk_same (h : SameShown c c') (label : String)
    (family : ClerkDocs → Option String) :
    (attemptClerk dep src label family c).1 = (attemptClerk dep src' label family c').1 ∧
      SameShown (attemptClerk dep src label family c).2 (attemptClerk dep src' label family c').2 := by
  obtain ⟨hdocs, hctx⟩ := scrapeDocuments_same dep src src' h
  refine ⟨?_, hctx⟩
  simp only [attemptClerk, hdocs, h.references, clerkStep_same hctx]

theorem floodFetch_same (hsrc : src.SameElsewhere src') (h : SameShown c c') :
    floodFetch src c = floodFetch src' c' := by
  have hflood : flood src c.countyFips = flood src' c'.countyFips := by
    cases h
    simp only [flood, hsrc.floodZones, hsrc.floodPanels]
  simp only [floodFetch, hflood, hsrc.floodMap, hsrc.floodReport]

variable [PyText] [PyFloat]

theorem shipped_same (hsrc : src.SameElsewhere src') (key : StepKey) :
    ∃ a a', shipped dep src key = some a ∧ shipped dep src' key = some a' ∧ a.SameOn a' := by
  cases key with
  | parcel => exact ⟨_, _, rfl, rfl, plainAdapter_same parcelFetch_same parcelFallback_same⟩
  | appraiser =>
    refine ⟨_, _, rfl, rfl, plainAdapter_same ?_ ?_⟩
    · exact fun h => congrArg Except.ok (appraiserFetch_same h)
    · rintro c c' ⟨⟩
      rfl
  | deed =>
    refine ⟨_, _, rfl, rfl, clerkAdapter_same deedFetch_same fun h => ⟨?_, h⟩⟩
    simp only [deedFallback, h.references, deedSummary_same h, clerkStep_same h]
  | plat =>
    refine ⟨_, _, rfl, rfl, clerkAdapter_same platFetch_same fun h => ⟨?_, h⟩⟩
    simp only [platFallback, h.references, clerkStep_same h]
  | adjoiners | easements | priorSurvey | condo =>
    exact ⟨_, _, rfl, rfl, clerkAdapter_same (fun h => attemptClerk_same h _ _)
      fun h => attemptClerk_same h _ _⟩
  | flood => exact ⟨_, _, rfl, rfl, plainAdapter_same (floodFetch_same hsrc) fun _ => rfl⟩
  | benchmarks =>
    refine ⟨_, _, rfl, rfl, plainAdapter_same (fun _ => ?_) fun _ => rfl⟩
    simp only [ngsFetch, benchmarks, hsrc.marks, hsrc.datasheets]
  | glo => exact ⟨_, _, rfl, rfl, plainAdapter_same (fun _ => rfl) fun _ => rfl⟩
  | zoning =>
    refine ⟨_, _, rfl, rfl, plainAdapter_same ?_ ?_⟩
    · rintro c c' ⟨⟩
      rfl
    · rintro c c' ⟨⟩
      rfl

end Adapters

/-! The steps and the result. -/

/-- Two staging folders on which the same writes succeed. -/
structure Staging.SameOutcomes (a b : Staging) : Prop where
  makeFolder : a.makeFolder = b.makeFolder
  saveJson : ∀ file, (a.saveJson file).map (fun _ => ()) = (b.saveJson file).map fun _ => ()
  docsDir : a.docsDir = b.docsDir
  writeManifest : a.writeManifest = b.writeManifest
  writeResult : a.writeResult = b.writeResult

/-- The result without its time of completion. -/
def ResearchResult.untimed (r : ResearchResult) : ResearchResult := { r with completedUtc := "" }

namespace Steps

variable {c c' : PropertyContext} {staging staging' : Staging}
  {adapters adapters' : StepKey → Option SourceAdapter}

theorem runOne_same {a b : SourceAdapter} (hab : a.SameOn b) (d : ResidentialDoc)
    (h : SameShown c c') : SameTurn (runOne d a c) (runOne d b c') := by
  have hfetch := hab.fetch h
  unfold runOne
  generalize a.fetch c = t at hfetch ⊢
  generalize b.fetch c' = t' at hfetch ⊢
  obtain ⟨r, c₁⟩ := t
  obtain ⟨r', c₁'⟩ := t'
  obtain ⟨rfl, h₁⟩ : r = r' ∧ SameShown c₁ c₁' := hfetch
  cases r with
  | ok fs => exact ⟨rfl, h₁.logged _⟩
  | error e =>
    have hfallback := hab.fallback h₁
    dsimp only
    generalize a.fallback c₁ = t at hfallback ⊢
    generalize b.fallback c₁' = t' at hfallback ⊢
    obtain ⟨r, c₂⟩ := t
    obtain ⟨r', c₂'⟩ := t'
    obtain ⟨rfl, h₂⟩ : r = r' ∧ SameShown c₂ c₂' := hfallback
    cases r with
    | ok fs => exact ⟨rfl, h₂.logged _⟩
    | error e' =>
      cases e with
      | source => exact ⟨rfl, h₂⟩
      | http | network | other => exact ⟨rfl, h₂.logged _⟩

theorem stepsFor_same
    (hkeys : ∀ key, ∃ a a', adapters key = some a ∧ adapters' key = some a' ∧ a.SameOn a')
    (wanted : Option (List StepKey)) (ds : List ResidentialDoc) (h : SameShown c c') :
    SameTurn (stepsFor adapters wanted ds c) (stepsFor adapters' wanted ds c') := by
  induction ds generalizing c c' with
  | nil => exact ⟨rfl, h⟩
  | cons d ds ih =>
    obtain ⟨a, a', ha, ha', hsame⟩ := hkeys d.key
    have hturn := runOne_same hsame d h
    simp only [stepsFor, ha, ha']
    split
    · exact ih h
    · generalize runOne d a c = t at hturn ⊢
      generalize runOne d a' c' = t' at hturn ⊢
      obtain ⟨r, c₁⟩ := t
      obtain ⟨r', c₁'⟩ := t'
      obtain ⟨rfl, h₁⟩ : r = r' ∧ SameShown c₁ c₁' := hturn
      cases r with
      | error e => exact ⟨rfl, h₁⟩
      | ok step =>
        have hrest := ih h₁
        dsimp only
        generalize stepsFor adapters wanted ds c₁ = t at hrest ⊢
        generalize stepsFor adapters' wanted ds c₁' = t' at hrest ⊢
        obtain ⟨r, c₂⟩ := t
        obtain ⟨r', c₂'⟩ := t'
        obtain ⟨rfl, h₂⟩ : r = r' ∧ SameShown c₂ c₂' := hrest
        cases r <;> exact ⟨rfl, h₂⟩

theorem researchOn_same
    (hkeys : ∀ key, ∃ a a', adapters key = some a ∧ adapters' key = some a' ∧ a.SameOn a')
    (hstaging : staging.SameOutcomes staging') (wanted : Option (List StepKey))
    (h : SameShown c c') :
    ResultRel (fun r r' => r.untimed = r'.untimed) (researchOn adapters staging wanted c)
      (researchOn adapters' staging' wanted c') := by
  have hbuild : SameTurn (buildSteps adapters staging wanted c)
      (buildSteps adapters' staging' wanted c') := by
    unfold buildSteps
    rw [hstaging.docsDir]
    cases staging'.docsDir with
    | error e => exact ⟨rfl, h⟩
    | ok _ => exact stepsFor_same hkeys wanted residentialDocs h
  unfold researchOn
  generalize buildSteps adapters staging wanted c = t at hbuild ⊢
  generalize buildSteps adapters' staging' wanted c' = t' at hbuild ⊢
  obtain ⟨r, c₁⟩ := t
  obtain ⟨r', c₁'⟩ := t'
  obtain ⟨rfl, h₁⟩ : r = r' ∧ SameShown c₁ c₁' := hbuild
  cases r with
  | error e => exact .error e
  | ok steps =>
    dsimp only
    rw [hstaging.writeManifest, hstaging.writeResult]
    refine .bind (.refl (R := Eq) (fun _ => rfl) _) fun _ _ _ => ?_
    refine .bind (.refl (R := Eq) (fun _ => rfl) _) fun _ _ _ => ?_
    cases h₁
    exact .ok rfl

end Steps

/-! The context. -/

namespace Context

open Geocode

section Resolve

variable [PyText] [PyFloat] {dep : Deployment} {sv sv' : ParcelServices}
  {staging staging' : Staging}

/-- The parcel result of phase 2. -/
def rawParcel (dep : Deployment) (sv : ParcelServices) (found : Located) : ParcelResult :=
  let state := orElse (stateOfFips found.geo.stateFips) found.st
  let fips := found.geo.countyFips
  let county := orElse (dep.registry.countyName fips) found.geo.countyName
  found.preresolved.getD (Parcel.resolve dep.registry sv fips state county found.geo.matchedAddress)

omit [PyText] [PyFloat] in
theorem logJson_same (h : staging.SameOutcomes staging') (file source source' : String)
    (manifest manifest' : List ManifestEntry) :
    ResultRel (fun _ _ => True) (logJson staging file source manifest)
      (logJson staging' file source' manifest') :=
  (ResultRel.of_map_eq (h.saveJson file)).map fun _ _ _ => trivial

theorem assembleContext_same {args : ResearchArgs} {found found' : Located}
    (hstaging : staging.SameOutcomes staging') (hgeo : found.geo = found'.geo)
    (hst : found.st = found'.st) (haddress : found.address = found'.address)
    (hp : trusted (rawParcel dep sv found) = false)
    (hp' : trusted (rawParcel dep sv' found') = false)
    (halike : (rawParcel dep sv found).Alike (rawParcel dep sv' found')) :
    ResultRel SameShown (assembleContext dep sv staging args found)
      (assembleContext dep sv' staging' args found') := by
  obtain ⟨geo, st, preresolved, address⟩ := found
  obtain ⟨geo', st', preresolved', address'⟩ := found'
  obtain rfl : geo = geo' := hgeo
  obtain rfl : st = st' := hst
  obtain rfl : address = address' := haddress
  unfold assembleContext
  dsimp only [rawParcel] at hp hp' halike ⊢
  generalize preresolved.getD _ = p at hp halike ⊢
  generalize preresolved'.getD _ = p' at hp' halike ⊢
  simp only [hp, hp', Bool.false_eq_true, if_false]
  refine .bind (.refl (R := Eq) (fun _ => rfl) _) fun coords _ hcoords => ?_
  obtain rfl := hcoords
  rw [hstaging.makeFolder]
  refine .bind (.refl (R := Eq) (fun _ => rfl) _) fun _ _ _ => ?_
  refine .bind (logJson_same hstaging _ _ _ _ _) fun _ _ _ => ?_
  refine .bind (logJson_same hstaging _ _ _ _ _) fun _ _ _ => ?_
  refine .bind (logJson_same hstaging _ _ _ _ _) fun _ manifest _ => ?_
  refine .ok ?_
  generalize orElse (strip args.orderNumber) _ = order
  exact .mk _ manifest rfl rfl ⟨halike.parcels, halike.buffered, halike.source⟩

/-- Nothing of a parcel that fails the trust gate is in the result or in its map links: only
whether there was one, whether it was a buffered hit and the layer it came from show. -/
theorem suppressed_parcel_hidden (dep : Deployment) (geo : GeocoderAnswers)
    (sv sv' : ParcelServices) (svc : SourceServices) (staging staging' : Staging)
    (args : ResearchArgs) (found found' : Located)
    (hfound : locateProperty dep geo sv args = .ok found)
    (hfound' : locateProperty dep geo sv' args = .ok found')
    (hgeo : found.geo = found'.geo) (hst : found.st = found'.st)
    (haddress : found.address = found'.address)
    (hp : trusted (rawParcel dep sv found) = false)
    (hp' : trusted (rawParcel dep sv' found') = false)
    (halike : (rawParcel dep sv found).Alike (rawParcel dep sv' found'))
    (hstaging : staging.SameOutcomes staging') :
    (Steps.runResearch dep geo sv svc staging args).map (fun r => (r.1.untimed, r.2)) =
      (Steps.runResearch dep geo sv' svc staging' args).map fun r => (r.1.untimed, r.2) := by
  have hcontext : ResultRel SameShown (resolvePropertyContext dep geo sv staging args)
      (resolvePropertyContext dep geo sv' staging' args) := by
    unfold resolvePropertyContext
    rw [hfound, hfound']
    exact assembleContext_same hstaging hgeo hst haddress hp hp' halike
  refine ResultRel.map_eq (hcontext.bind fun c c' hc => ?_)
  have hsrc := svc.answers_sameElsewhere hc
  refine (Steps.researchOn_same (Adapters.shipped_same hsrc) hstaging args.wanted hc).bind
    fun r r' hr => .ok ?_
  have hlinks : Steps.mapLinks c args.address = Steps.mapLinks c' args.address := by
    cases hc
    rfl
  rw [hr, hlinks]

end Resolve

section Concrete

open scoped PyText.Ascii PyFloat.Whole

def sampleServices : SourceServices where
  saveParcelRecord _ p _ := .ok (some (p.situs ++ ".html"))
  saveAppraiserRecord _ _ _ _ := .ok (some "Tax_Card.html")
  fetchAppraisal _ _ := .ok {}
  fetchDocuments _ _ _ := .ok {}
  floodZones _ _ := .ok [[("DFIRM_ID", .str "12057C"), ("FLD_ZONE", .str "X"), ("SFHA_TF", .str "F")]]
  floodPanels _ _ := .ok []
  saveFloodMap _ _ _ _ _ := .ok (some "Flood_Map.png")
  saveFloodReport _ _ header _ := .ok (some (header.situs ++ "Flood_Report.html"))
  marks _ _ := .ok []
  downloadDatasheets _ _ := .ok []

def elmStreet : Located where
  geo :=
    { matchedAddress := "1 ELM ST, TAMPA, FL"
      lat := .int 28
      lon := .int (-82)
      countyName := "Hillsborough"
      countyFips := "12057"
      stateFips := "12"
      provider := "census" }
  address := "1 ELM ST"

/-- A search for 1 Elm St where the layers have a parcel at another address only. -/
def neighbourRun (situs parcelId : String) : Except PyErr (ResearchResult × List MapLink) :=
  Steps.runResearch sampleDeployment (sampleGeocoder "1 ELM ST, TAMPA, FL" hillsborough)
    (sampleLayers situs parcelId) sampleServices sampleStaging { address := "1 ELM ST" }

theorem locate_elmStreet (sv : ParcelServices) :
    locateProperty sampleDeployment (sampleGeocoder "1 ELM ST, TAMPA, FL" hillsborough) sv
      { address := "1 ELM ST" } = .ok elmStreet := by
  have hgeo : geocode (sampleGeocoder "1 ELM ST, TAMPA, FL" hillsborough) "1 ELM ST" =
      .ok elmStreet.geo := by decide +kernel
  unfold locateProperty
  rw [if_neg (by decide), hgeo]
  rfl

/-- What the layers have near 1 Elm St. -/
def neighbour (situs parcelId : String) : ParcelResult :=
  rawParcel sampleDeployment (sampleLayers situs parcelId) elmStreet

/-- The neighbours' parcels are both found in a box around the point, and neither shows. -/
theorem neighbour_parcel_hidden : neighbour "9 OAK AVE" "A-1" ≠ neighbour "12 PINE RD" "B-2" ∧
    (neighbourRun "9 OAK AVE" "A-1").map (fun r => (r.1.untimed, r.2)) =
      (neighbourRun "12 PINE RD" "B-2").map fun r => (r.1.untimed, r.2) := by
  have hboth : ∀ p ∈ [neighbour "9 OAK AVE" "A-1", neighbour "12 PINE RD" "B-2"],
      trusted p = false ∧ p.parcels.isEmpty = false ∧ p.bufferedMatch = true ∧
        p.source = some "https://gis/parcels/0" := by decide +kernel
  obtain ⟨hp, hparcels, hbuffered, hsource⟩ := hboth _ List.mem_cons_self
  obtain ⟨hp', hparcels', hbuffered', hsource'⟩ :=
    hboth _ (List.mem_cons_of_mem _ List.mem_cons_self)
  refine ⟨by decide +kernel, ?_⟩
  exact suppressed_parcel_hidden _ _ _ _ _ _ _ _ elmStreet elmStreet (locate_elmStreet _)
    (locate_elmStreet _) rfl rfl rfl hp hp'
    ⟨hparcels.trans hparcels'.symm, hbuffered.trans hbuffered'.symm, hsource.trans hsource'.symm⟩
    ⟨rfl, fun _ => rfl, rfl, rfl, rfl⟩

end Concrete

end Context

end ResearchEngine
