import ResearchEngine.StepAssembly

/-! `run_research` from its arguments to its result, with every source asked for what the
adapters ask it for. -/
namespace ResearchEngine

/-- `doc_meta` -/
structure DocMeta where
  parcelId : String
  matchedAddress : String
  county : String
  state : String
  situs : String
  landSqft : Value
  landAcres : Value
  deriving DecidableEq, Repr

namespace PropertyContext

def situs (ctx : PropertyContext) : String := if ctx.parcelOk then ctx.parcel.situs else ""

def landSqft (ctx : PropertyContext) : Value := if ctx.parcelOk then ctx.parcel.landSqft else .null

def landAcres (ctx : PropertyContext) : Value := if ctx.parcelOk then ctx.parcel.landAcres else .null

/-- What the `save_*` helpers print in the header of a report. -/
def docMeta (ctx : PropertyContext) : DocMeta where
  parcelId := ctx.parcelId
  matchedAddress := ctx.matchedAddress
  county := ctx.county
  state := ctx.state
  situs := ctx.situs
  landSqft := ctx.landSqft
  landAcres := ctx.landAcres

end PropertyContext

/-- The sources behind the shipped adapters, as functions of what they are called with. -/
structure SourceServices where
  /-- `downloader.save_parcel_record` -/
  saveParcelRecord : String → ParcelResult → DocMeta → Except PyErr (Option String)
  /-- `downloader.save_appraiser_record` -/
  saveAppraiserRecord : String → Attrs → DocMeta → String → Except PyErr (Option String)
  /-- `appraiser.fetch` -/
  fetchAppraisal : String → String → Except PyErr Appraisal
  /-- `clerk_scraper.fetch_documents` with the references found in the parcel's attributes. -/
  fetchDocuments : String → Attrs → Option Appraisal → Except PyErr ClerkDocs
  /-- The zones and the panels of the NFHL at a point. -/
  floodZones : Value → Value → Except PyErr (List Attrs)
  floodPanels : Value → Value → Except PyErr (List Attrs)
  /-- `downloader.save_flood_map` -/
  saveFloodMap : String → Value → Value → FloodData → DocMeta → Except PyErr (Option String)
  /-- `downloader.save_flood_report` -/
  saveFloodReport : String → FloodData → DocMeta → Option String → Except PyErr (Option String)
  /-- The NGS marks around a point. -/
  marks : Value → Value → Except PyErr (List NgsMark)
  /-- `downloader.download_ngs_datasheets` -/
  downloadDatasheets : String → List NgsMark → Except PyErr (List String)

namespace SourceServices

variable [PyText]

/-- What the sources answer before a document is rendered from it. -/
def lookups (svc : SourceServices) (ctx : PropertyContext) : SourceAnswers where
  parcelRecord := svc.saveParcelRecord ctx.folder ctx.parcel ctx.docMeta
  appraiserRecord :=
    svc.saveAppraiserRecord ctx.folder (ctx.parcel.parcels.headD []) ctx.docMeta ctx.appraiserUrl
  appraisal := svc.fetchAppraisal ctx.countyFips ctx.parcelId
  clerkDocs := svc.fetchDocuments ctx.countyFips
  floodZones := svc.floodZones ctx.lat ctx.lon
  floodPanels := svc.floodPanels ctx.lat ctx.lon
  floodMap := .ok none
  floodReport := .ok none
  marks := svc.marks ctx.lat ctx.lon
  datasheets := .ok []

/-- What the sources answer in a run with this context. -/
def answers (svc : SourceServices) (ctx : PropertyContext) : SourceAnswers :=
  let base := svc.lookups ctx
  let found := Adapters.flood base ctx.countyFips
  let map := found.bind fun f => svc.saveFloodMap ctx.folder ctx.lat ctx.lon f ctx.docMeta
  { base with
    floodMap := map
    floodReport := found.bind fun f =>
      svc.saveFloodReport ctx.folder f ctx.docMeta (Adapters.savedName map)
    datasheets := (Adapters.benchmarks base).bind fun b => svc.downloadDatasheets ctx.folder b.marks }

end SourceServices

/-! The answers stay the same from one document of a run to the next. -/

/-- What an adapter may leave on the context is taken off. -/
def PropertyContext.settled (ctx : PropertyContext) : PropertyContext :=
  { ctx with appr := none, clerkDocs := none, manifest := [] }

theorem SourceServices.answers_settled [PyText] (svc : SourceServices) (ctx : PropertyContext) :
    svc.answers ctx.settled = svc.answers ctx := rfl

/-- The adapter writes to the scratch part of the context only. -/
structure SourceAdapter.Settles (a : SourceAdapter) : Prop where
  fetch : ∀ ctx, (a.fetch ctx).2.settled = ctx.settled
  fallback : ∀ ctx, (a.fallback ctx).2.settled = ctx.settled

namespace Adapters

theorem scrapeDocuments_settled (dep : Deployment) (src : SourceAnswers) (ctx : PropertyContext) :
    (scrapeDocuments dep src ctx).2.settled = ctx.settled := by
  unfold scrapeDocuments
  cases ctx.clerkDocs <;> rfl

variable [PyText] [PyFloat] {dep : Deployment} {src : SourceAnswers}

theorem shipped_settles {key : StepKey} {a : SourceAdapter} (h : shipped dep src key = some a) :
    a.Settles := by
  cases key with
  | parcel | appraiser | flood | benchmarks | glo | zoning =>
    obtain rfl := Option.some.inj h
    exact ⟨fun _ => rfl, fun _ => rfl⟩
  | deed | plat =>
    obtain rfl := Option.some.inj h
    exact ⟨scrapeDocuments_settled dep src, fun _ => rfl⟩
  | adjoiners | easements | priorSurvey | condo =>
    obtain rfl := Option.some.inj h
    exact ⟨scrapeDocuments_settled dep src, scrapeDocuments_settled dep src⟩

end Adapters

theorem Steps.runOne_settled {d : ResidentialDoc} {a : SourceAdapter} (ha : a.Settles)
    (ctx : PropertyContext) : (runOne d a ctx).2.settled = ctx.settled := by
  have hfetch : ∀ {r ctx'}, a.fetch ctx = (r, ctx') → ctx'.settled = ctx.settled := by
    intro r ctx' hf
    have h := ha.fetch ctx
    rwa [hf] at h
  have hfallback : ∀ {ctx' r ctx''}, a.fallback ctx' = (r, ctx'') → ctx''.settled = ctx'.settled := by
    intro ctx' r ctx'' hb
    have h := ha.fallback ctx'
    rwa [hb] at h
  have hcase := runOne_cases d a ctx
  generalize runOne d a ctx = turn at hcase ⊢
  cases hcase with
  | fetched hf =>
    have h := hfetch hf
    exact h
  | fallback hf hb => exact (hfallback hb).trans (hfetch hf)
  | escaped hf _ hb => exact (hfallback hb).trans (hfetch hf)
  | lastResort hf _ hb => exact (hfallback hb).trans (hfetch hf)

/-- The sources answer every document of a run as they answer the first. -/
theorem SourceServices.answers_turn [PyText] [PyFloat] {dep : Deployment} {src : SourceAnswers}
    {key : StepKey} {a : SourceAdapter} (svc : SourceServices) (d : ResidentialDoc)
    (h : Adapters.shipped dep src key = some a) (ctx : PropertyContext) :
    svc.answers (Steps.runOne d a ctx).2 = svc.answers ctx := by
  rw [← answers_settled, Steps.runOne_settled (Adapters.shipped_settles h), answers_settled]

structure MapLink where
  label : String
  url : String
  deriving DecidableEq, Repr

namespace Steps

def hexDigit (n : ℕ) : Char := ("0123456789ABCDEF".toList[n]?).getD '0'

/-- `quote_plus` -/
def quotePlus (text : String) : String :=
  String.join (text.toUTF8.toList.map fun b =>
    let c := Char.ofNat b.toNat
    if c.isAlphanum ∨ c ∈ "_.-~".toList then c.toString
    else if c = ' ' then "+"
    else String.ofList ['%', hexDigit (b.toNat / 16), hexDigit (b.toNat % 16)])

/-- `map_links` -/
def mapLinks (ctx : PropertyContext) (address : String) : List MapLink :=
  let lat := ctx.lat.text
  let lon := ctx.lon.text
  [{ label := "Google Maps"
     url := "https://www.google.com/maps/search/?api=1&query=" ++ lat ++ "," ++ lon },
    { label := "Google Street View"
      url := "https://www.google.com/maps/@?api=1&map_action=pano&viewpoint=" ++ lat ++ "," ++ lon },
    { label := "Bing Maps (aerial)"
      url := "https://www.bing.com/maps?cp=" ++ lat ++ "~" ++ lon ++ "&lvl=19&style=a" },
    { label := "County Property Appraiser", url := ctx.appraiserUrl },
    { label := "Search address on Google"
      url := "https://www.google.com/search?q=" ++ quotePlus (PyText.orElse ctx.matchedAddress address) }]

/-- `run_research` with the shipped adapters: its result and the map links of it. -/
def runResearch [PyText] [PyFloat] (dep : Deployment) (geo : GeocoderAnswers) (sv : ParcelServices)
    (svc : SourceServices) (staging : Staging) (args : ResearchArgs) :
    Except PyErr (ResearchResult × List MapLink) := do
  let ctx ← Context.resolvePropertyContext dep geo sv staging args
  let result ← researchOn (Adapters.shipped dep (svc.answers ctx)) staging args.wanted ctx
  return (result, mapLinks ctx args.address)

end Steps
end ResearchEngine
