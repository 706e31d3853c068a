import ResearchEngine.PropertyContext

/-! The shipped source adapters: what each document step fetches from its source,
and what it shows instead when the source cannot be reached. -/
namespace ResearchEngine

/-- `fema.flood()`; the effective date is left out. -/
structure FloodData where
  floodZone : Value
  zoneSubtype : Value
  inSfha : Value
  staticBfe : String
  firmPanel : Value
  panelSuffix : Value
  panel : Value
  rawZones : List Attrs
  rawPanels : List Attrs
  deriving DecidableEq, Repr

/-- One mark of the NGS answer. -/
structure NgsMark where
  pid : String
  name : String
  lat : Value
  lon : Value
  datum : String
  /-- `orthoHt` or `posSource` -/
  vertSource : String
  datasheet : String := ""
  deriving DecidableEq, Repr

/-- `ngs.benchmarks()` -/
structure Benchmarks where
  radiusM : ℕ
  count : ℕ
  marks : List NgsMark
  deriving DecidableEq, Repr

/-- `FetchedSource.data` -/
inductive StepData
  | none
  | parcel (p : ParcelResult)
  | record (attrs : Attrs)
  | clerk (ref : ClerkRef)
  | flood (f : FloodData)
  | benchmarks (b : Benchmarks)
  deriving DecidableEq, Repr

/-- The result of one adapter call. -/
structure FetchedSource where
  status : StepStatus := .link
  data : StepData := .none
  summary : String := ""
  link : String := ""
  linkLabel : String := ""
  sourceUrl : String := ""
  downloaded : List String := []
  savedFile : Option String := none
  records : List ManifestEntry := []
  warnings : List String := []
  confidence : Option Confidence := none
  manualReview : Bool := false
  situs : Option String := none
  landSqft : Value := .null
  landAcres : Value := .null
  addressMatch : Option Bool := none
  deriving DecidableEq, Repr

/-- A source adapter. Both calls may leave cached results on the context. -/
structure SourceAdapter where
  fetch : PropertyContext → Except PyErr FetchedSource × PropertyContext
  fallback : PropertyContext → Except PyErr FetchedSource × PropertyContext

/-- What the sources behind the shipped adapters answer during one run. -/
structure SourceAnswers where
  /-- `downloader.save_parcel_record` -/
  parcelRecord : Except PyErr (Option String)
  /-- `downloader.save_appraiser_record` -/
  appraiserRecord : Except PyErr (Option String)
  /-- `appraiser.fetch` -/
  appraisal : Except PyErr Appraisal
  /-- The scrape of the county clerk's portal with the references found in the
  parcel's attributes. -/
  clerkDocs : Attrs → Option Appraisal → Except PyErr ClerkDocs
  floodZones : Except PyErr (List Attrs)
  floodPanels : Except PyErr (List Attrs)
  /-- `downloader.save_flood_map` -/
  floodMap : Except PyErr (Option String)
  /-- `downloader.save_flood_report` -/
  floodReport : Except PyErr (Option String)
  marks : Except PyErr (List NgsMark)
  /-- `downloader.download_ngs_datasheets` -/
  datasheets : Except PyErr (List String)

namespace Adapters

open PyText

/-- A file name that `if fn:` accepts. -/
def savedName : Except PyErr (Option String) → Option String
  | .ok (some fn) => if fn = "" then none else some fn
  | _ => none

/-- The manifest entry of a file in `documents/`. -/
def documentEntry (source fn : String) : ManifestEntry :=
  { file := some ("documents/" ++ fn), source := source }

/-- `value or default` for a missing or empty text. -/
def textOr (value : Option String) (default : String) : String := orElse (value.getD "") default

/-! `parcel` -/

def parcelFallback (ctx : PropertyContext) : FetchedSource :=
  { status := .link
    summary := "Parcel record not found for this address — open the County " ++
      "Property Appraiser to look it up."
    link := ctx.appraiserUrl
    linkLabel := "Open County Property Appraiser"
    sourceUrl := ctx.appraiserUrl
    savedFile := some "parcel.json" }

/-- The step for an unconfirmed parcel: a buffered hit is flagged for review. -/
def parcelUnconfirmed (ctx : PropertyContext) : FetchedSource :=
  let fs := parcelFallback ctx
  if !ctx.parcel.parcels.isEmpty ∧ ctx.parcel.bufferedMatch then
    { fs with
      manualReview := true
      summary := "Parcel found via a buffered match — review the boundary and ID before using."
      sourceUrl := textOr ctx.parcel.source ctx.appraiserUrl
      warnings := ["Parcel matched with a 40 m buffer and no address confirmation — " ++
        "verify the parcel boundary and ID before relying on this data."] }
  else fs

/-- `parcel.summarize` -/
def summarizeParcel (p : ParcelResult) : String :=
  if p.method = "arcgis-rest" then "parcel record via " ++ textOr p.layerName "ArcGIS"
  else "No parcel API - directory link provided"

/-- The lot area in the summary of a parcel step. -/
def areaText [PyFloat] (p : ParcelResult) : Except PyErr String := do
  if p.landSqft.truthy then
    let sqft ← PyFloat.grouped p.landSqft
    return " · Lot " ++ sqft ++ " sq ft" ++
      if p.landAcres.truthy then " (" ++ p.landAcres.text ++ " ac)" else ""
  else return ""

/-- The parcel that `ParcelAdapter.fetch` calls ok. -/
def parcelConfirmed (ctx : PropertyContext) : Bool :=
  ctx.parcelOk ∧ ctx.parcel.method = "arcgis-rest" ∧ !ctx.parcel.parcels.isEmpty

/-- `ParcelAdapter.fetch` -/
def parcelFetch [PyFloat] (src : SourceAnswers) (ctx : PropertyContext) :
    Except PyErr FetchedSource := do
  if !parcelConfirmed ctx then return parcelUnconfirmed ctx
  let p := ctx.parcel
  let area ← areaText p
  let files := (savedName src.parcelRecord).toList
  return {
    status := .ok
    data := .parcel p
    summary := (if ctx.parcelId ≠ "" then "Parcel ID: " ++ ctx.parcelId else summarizeParcel p) ++ area
    link := ctx.appraiserUrl
    linkLabel := "Open County Property Appraiser"
    sourceUrl := textOr p.source ctx.appraiserUrl
    savedFile := some "parcel.json"
    downloaded := files
    records := files.map (documentEntry (p.source.getD ctx.appraiserUrl))
    situs := some p.situs
    landSqft := p.landSqft
    landAcres := p.landAcres
    addressMatch := some true }

/-! `appraiser` -/

/-- The files of a cached appraiser scrape, without repeats. -/
def appraisalFiles (appr : Appraisal) : List String :=
  let first := (savedName (.ok appr.doc)).toList
  appr.docs.foldl (fun files extra => if extra ∈ files then files else files ++ [extra]) first

/-- `AppraiserAdapter.fetch` -/
def appraiserFetch (src : SourceAnswers) (ctx : PropertyContext) : FetchedSource :=
  let got : Bool := ctx.parcelOk ∧ !ctx.parcel.parcels.isEmpty
  let appr := ctx.appr.getD {}
  let saved := if got then (savedName src.appraiserRecord).toList else []
  let files := appraisalFiles appr ++ saved
  { status := if got then .ok else .link
    data := if got then .record (ctx.parcel.parcels.headD []) else .none
    summary :=
      if got ∧ appr.doc.getD "" ≠ "" then "Official Property Record Card (county appraiser)"
      else if got then "Owner, values & last sale from the county tax roll"
      else "Open the County Property Appraiser"
    link := ctx.appraiserUrl
    linkLabel := "Open County Property Appraiser"
    sourceUrl := ctx.appraiserUrl
    downloaded := files
    savedFile := if got ∧ files ≠ [] then some "parcel.json" else none
    records := files.map (documentEntry ctx.appraiserUrl) }

def appraiserFallback (ctx : PropertyContext) : FetchedSource :=
  { status := .link
    summary := "Open the County Property Appraiser"
    link := ctx.appraiserUrl
    linkLabel := "Open County Property Appraiser"
    sourceUrl := ctx.appraiserUrl }

/-! `deed`, `plat` and the other clerk documents -/

/-- `_hint_str` -/
def hintStr (ctx : PropertyContext) : String :=
  ", ".intercalate ((ctx.parcelHints.map Prod.fst).take 4)

/-- `_scrape_documents`: at most once per context, and any exception means no documents. -/
def scrapeDocuments (dep : Deployment) (src : SourceAnswers) (ctx : PropertyContext) :
    ClerkDocs × PropertyContext :=
  match ctx.clerkDocs with
  | some docs => (docs, ctx)
  | none =>
    let appr :=
      if dep.appraiserSite ctx.countyFips ∧ ctx.parcelId ≠ "" ∧ ctx.appr = none then
        match src.appraisal with
        | .ok appraisal => some appraisal
        | .error _ => some {}
      else ctx.appr
    let docs : ClerkDocs :=
      if ctx.parcelOk ∧ dep.clerkScraper ctx.countyFips ∧ !ctx.parcel.parcels.isEmpty then
        match src.clerkDocs (ctx.parcel.parcels.headD []) appr with
        | .ok docs => docs
        | .error _ => {}
      else {}
    (docs, { ctx with appr := appr, clerkDocs := some docs })

/-- The link, the label and the data of a clerk step. -/
def clerkStep (ctx : PropertyContext) (url label summary : String) : FetchedSource :=
  { data := .clerk ctx.clerkRef
    summary := summary
    link := url
    linkLabel := label
    sourceUrl := url
    savedFile := some "clerk_search_refs.json" }

def deedLabel : String := "Open Clerk Official Records — Deed — subject parcel"

def platLabel : String := "Open Clerk Official Records — Recorded plat / subdivision map"

/-- The summary of a deed step without a deed. -/
def deedSummary (ctx : PropertyContext) : String :=
  if ctx.parcelHints = [] then deedLabel else deedLabel ++ "  ·  hints: " ++ hintStr ctx

section Clerk

variable [PyText]

/-- `DeedAdapter.fetch` -/
def deedFetch (dep : Deployment) (src : SourceAnswers) (ctx : PropertyContext) :
    FetchedSource × PropertyContext :=
  let url := ctx.clerkRef.officialRecordsSearch
  let (docs, ctx) := scrapeDocuments dep src ctx
  let files := (savedName (.ok docs.deed)).toList
  let summary :=
    if files = [] then deedSummary ctx
    else strip ("Auto-fetched deed " ++ docs.deedRef ++ " — verify grantee & legal " ++
      "match the subject parcel")
  ({ clerkStep ctx url deedLabel summary with
      status := .ok
      downloaded := files
      records := files.map (documentEntry url)
      confidence := if files = [] then none else some .medium }, ctx)

def deedFallback (ctx : PropertyContext) : FetchedSource :=
  { clerkStep ctx ctx.clerkRef.officialRecordsSearch deedLabel (deedSummary ctx) with status := .link }

end Clerk

/-- `PlatAdapter.fetch` -/
def platFetch (dep : Deployment) (src : SourceAnswers) (ctx : PropertyContext) :
    FetchedSource × PropertyContext :=
  let url := ctx.clerkRef.platSearch
  let (docs, ctx) := scrapeDocuments dep src ctx
  let files := (savedName (.ok docs.plat)).toList
  let summary :=
    if files = [] then platLabel else "Auto-fetched the recorded plat / subdivision map"
  ({ clerkStep ctx url platLabel summary with
      status := .ok
      downloaded := files
      records := files.map (documentEntry url)
      confidence := if files = [] then none else some .medium }, ctx)

def platFallback (ctx : PropertyContext) : FetchedSource :=
  { clerkStep ctx ctx.clerkRef.platSearch platLabel platLabel with status := .link }

/-- `_AttemptClerk.fetch`, which is its fallback too. -/
def attemptClerk (dep : Deployment) (src : SourceAnswers) (label : String)
    (family : ClerkDocs → Option String) (ctx : PropertyContext) : FetchedSource × PropertyContext :=
  let url := ctx.clerkRef.officialRecordsSearch
  let (docs, ctx) := scrapeDocuments dep src ctx
  let summary :=
    if savedName (.ok (family docs)) = none then "Open Clerk Official Records — " ++ label
    else "Auto-fetched " ++ label ++ " — verify the match"
  ({ clerkStep ctx url ("Open Clerk Official Records — " ++ label) summary with status := .ok }, ctx)

/-! `flood` -/

/-- `_pick_by_prefix` -/
def pickByPrefix (items : List Attrs) (key start : String) : Attrs :=
  let item := items.find? fun it =>
    let v := it.get key
    start.toList <+: (if v.truthy then v.text else "").toList
  if start ≠ "" then item.getD (items.headD []) else items.headD []

/-- `fema.flood` -/
def flood (src : SourceAnswers) (countyFips : String) : Except PyErr FloodData := do
  let zones ← src.floodZones
  let panels ← src.floodPanels
  let dfirm := (zones.headD []).get "DFIRM_ID"
  let start := orElse (String.ofList (countyFips.toList.take 5))
    (String.ofList ((if dfirm.truthy then dfirm.text else "").toList.take 5))
  let zone := pickByPrefix zones "DFIRM_ID" start
  let panel := pickByPrefix panels "FIRM_PAN" start
  let bfe := zone.get "STATIC_BFE"
  return {
    floodZone := zone.get "FLD_ZONE"
    zoneSubtype := zone.get "ZONE_SUBTY"
    inSfha := zone.get "SFHA_TF"
    staticBfe :=
      if bfe = .null ∨ bfe = .int (-9999) ∨ bfe = .float "-9999.0" false then "N/A" else bfe.text
    firmPanel := panel.get "FIRM_PAN"
    panelSuffix := panel.get "SUFFIX"
    panel := panel.get "PANEL"
    rawZones := zones
    rawPanels := panels }

/-- `fema.NFHL` -/
def nfhl : String := "https://hazards.fema.gov/arcgis/rest/services/public/NFHL/MapServer"

/-- `fema.MSC_HOME` -/
def mscHome : String := "https://msc.fema.gov/portal/home"

/-- `fema.summarize` -/
def summarizeFlood (f : FloodData) : String :=
  let zone := if f.floodZone.truthy then f.floodZone.text else "unknown"
  let sfha := if f.inSfha = .str "T" then "SFHA" else "not in SFHA"
  let panel := if f.firmPanel.truthy then f.firmPanel.text else "?"
  "Zone " ++ zone ++ " (" ++ sfha ++ "), FIRM panel " ++ panel ++ ", BFE " ++ f.staticBfe

/-- `FloodAdapter.fetch` -/
def floodFetch (src : SourceAnswers) (ctx : PropertyContext) : Except PyErr FetchedSource := do
  let f ← flood src ctx.countyFips
  let map := savedName src.floodMap
  let report := if f.floodZone.truthy then savedName src.floodReport else none
  return {
    status := if f.floodZone.truthy ∨ map.isSome then .ok else .link
    data := .flood f
    summary :=
      if f.floodZone.truthy then summarizeFlood f
      else if map.isSome then
        "Not in a mapped SFHA polygon (Zone X) — see flood map excerpt, parcel at center"
      else "No NFHL polygon here — open the FIRM directly"
    link := mscHome
    linkLabel := "Open FEMA Map Service Center (FIRMette)"
    sourceUrl := nfhl
    savedFile := some "flood_zone.json"
    downloaded := (report.or map).toList
    records := (map.toList ++ report.toList).map (documentEntry nfhl) }

def floodFallback : FetchedSource :=
  { status := .link
    summary := "Couldn't reach FEMA NFHL from this network — open the FIRM directly"
    link := mscHome
    linkLabel := "Open FEMA Map Service Center (FIRMette)"
    sourceUrl := nfhl
    savedFile := some "flood_zone.json" }

/-! `benchmarks` -/

/-- `ngs.RADIAL` -/
def radial : String := "https://geodesy.noaa.gov/api/nde/radial"

section Ngs

variable [PyText]

/-- `ngs.benchmarks` -/
def benchmarks (src : SourceAnswers) : Except PyErr Benchmarks := do
  let marks ← src.marks
  return {
    radiusM := 3000
    count := marks.length
    marks := (marks.take 25).map fun m =>
      let pid := strip m.pid
      { m with
        pid := pid
        name := strip m.name
        datum := strip m.datum
        vertSource := strip m.vertSource
        datasheet := if pid = "" then ""
          else "https://geodesy.noaa.gov/cgi-bin/ds_mark.prl?PidBox=" ++ pid } }

/-- `NgsAdapter.fetch` -/
def ngsFetch (src : SourceAnswers) : Except PyErr FetchedSource := do
  let b ← benchmarks src
  let files := match src.datasheets with
    | .ok files => files
    | .error _ => []
  let summary := toString b.count ++ " NGS control marks within " ++ toString b.radiusM ++ " m"
  return {
    status := if b.count ≠ 0 then .ok else .empty
    data := .benchmarks b
    summary := if files = [] then summary
      else summary ++ "  ·  downloaded " ++ toString files.length ++ " datasheet(s)"
    link := "https://geodesy.noaa.gov/"
    linkLabel := "Open NGS datasheets"
    sourceUrl := radial
    savedFile := some "benchmarks.json"
    downloaded := files
    records := files.map (documentEntry radial) }

end Ngs

def ngsFallback : FetchedSource :=
  { status := .link
    summary := "Couldn't reach NGS — open the datasheets directly"
    link := "https://geodesy.noaa.gov/"
    linkLabel := "Open NGS datasheets"
    sourceUrl := radial
    savedFile := some "benchmarks.json" }

/-! `glo` and `zoning` -/

def gloFetch : FetchedSource :=
  { status := .link
    link := "https://glorecords.blm.gov/"
    linkLabel := "Open BLM GLO Records"
    sourceUrl := "https://glorecords.blm.gov/" }

def zoningFetch (ctx : PropertyContext) : FetchedSource :=
  let url := orElse ctx.appraiserUrl (textOr ctx.clerkRef.appraiserUrl ctx.clerkRef.directoryUrl)
  { status := .link
    summary := "Zoning / setback ordinance — search the county zoning/GIS portal"
    link := url
    linkLabel := "Open County Zoning / GIS Portal"
    sourceUrl := orElse url "County zoning / GIS portal" }

/-- An adapter that leaves the context alone and whose fallback cannot fail. -/
def plainAdapter (fetch : PropertyContext → Except PyErr FetchedSource)
    (fallback : PropertyContext → FetchedSource) : SourceAdapter where
  fetch ctx := (fetch ctx, ctx)
  fallback ctx := (.ok (fallback ctx), ctx)

/-- An adapter whose fetch only reads the scrape and cannot fail. -/
def clerkAdapter (fetch fallback : PropertyContext → FetchedSource × PropertyContext) :
    SourceAdapter where
  fetch ctx := (.ok (fetch ctx).1, (fetch ctx).2)
  fallback ctx := (.ok (fallback ctx).1, (fallback ctx).2)

/-- `ADAPTERS` -/
def shipped [PyText] [PyFloat] (dep : Deployment) (src : SourceAnswers) :
    StepKey → Option SourceAdapter
  | .parcel => some (plainAdapter (parcelFetch src) parcelFallback)
  | .appraiser => some (plainAdapter (fun ctx => .ok (appraiserFetch src ctx)) appraiserFallback)
  | .deed => some (clerkAdapter (deedFetch dep src) fun ctx => (deedFallback ctx, ctx))
  | .plat => some (clerkAdapter (platFetch dep src) fun ctx => (platFallback ctx, ctx))
  | .adjoiners => some (attempt "Deeds — adjoining parcels" ClerkDocs.deed)
  | .easements => some (attempt "Easements / ROW / covenants (CC&Rs)" ClerkDocs.deed)
  | .priorSurvey => some (attempt "Prior recorded surveys" ClerkDocs.deed)
  | .condo => some (attempt "Condominium declaration & exhibits" ClerkDocs.plat)
  | .flood => some (plainAdapter (floodFetch src) fun _ => floodFallback)
  | .benchmarks => some (plainAdapter (fun _ => ngsFetch src) fun _ => ngsFallback)
  | .glo => some (plainAdapter (fun _ => .ok gloFetch) fun _ => gloFetch)
  | .zoning => some (plainAdapter (fun ctx => .ok (zoningFetch ctx)) zoningFetch)
where
  /-- `_attempt_clerk_adapter` -/
  attempt (label : String) (family : ClerkDocs → Option String) : SourceAdapter :=
    clerkAdapter (attemptClerk dep src label family) (attemptClerk dep src label family)

end Adapters
end ResearchEngine
