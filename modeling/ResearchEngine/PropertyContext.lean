import ResearchEngine.Geocode
import ResearchEngine.ParcelResolution

/-! `resolve_property_context`: geocode or look the parcel ID up, resolve the parcel,
decide whether to trust it, and assemble what the document adapters read. -/
namespace ResearchEngine

/-- The keyword arguments of `run_research`. -/
structure ResearchArgs where
  jobNumber : String := ""
  address : String := ""
  surveyType : String := "Residential Land Survey"
  wanted : Option (List StepKey) := none
  selectedState : String := ""
  selectedCountyFips : String := ""
  orderNumber : String := ""
  searchParcelId : String := ""

structure ManifestEntry where
  file : Option String := none
  bytes : Option ℕ := none
  sha256 : Option String := none
  fetchedUtc : Option String := none
  source : String
  deriving DecidableEq, Repr

/-- `clerk.references()` -/
structure ClerkRef where
  county : String
  platform : Option String
  platformLabel : Option String
  officialRecordsSearch : String
  platSearch : String
  appraiserUrl : Option String
  directoryUrl : String
  note : Option String
  searchHints : Attrs
  automationStatus : String
  deriving DecidableEq, Repr

/-- `appraiser.fetch()` -/
structure Appraisal where
  doc : Option String := none
  docs : List String := []
  platBook : Option String := none
  platPage : Option String := none
  deriving DecidableEq, Repr

/-- `clerk_scraper.fetch_documents()` -/
structure ClerkDocs where
  deed : Option String := none
  deedRef : String := ""
  plat : Option String := none
  deriving DecidableEq, Repr

structure PropertyContext where
  address : String
  matchedAddress : String
  lat : Value
  lon : Value
  state : String
  stateFips : String
  county : String
  countyFips : String
  geocoder : String
  parcel : ParcelResult := {}
  parcelOk : Bool := false
  parcelId : String := ""
  parcelHints : Attrs := []
  appraiserUrl : String := ""
  clerkRef : ClerkRef
  jobNumber : String := ""
  order : String := ""
  name : String := ""
  folder : String := ""
  surveyType : String
  /-- `{}` by default, so it is never `None` when a run starts. -/
  appr : Option Appraisal := some {}
  warnings : List String := []
  manifest : List ManifestEntry := []
  /-- `_clerk_docs`, the cached scrape. -/
  clerkDocs : Option ClerkDocs := none
  deriving DecidableEq, Repr

/-- What `save_json` returns about the bytes it wrote. -/
structure SavedJson where
  bytes : ℕ
  sha256 : String
  fetchedUtc : String

/-- The staging folder during one run. -/
structure Staging where
  makeFolder : Except PyErr Unit
  saveJson : String → Except PyErr SavedJson
  docsDir : Except PyErr Unit
  writeManifest : Except PyErr Unit
  writeResult : Except PyErr Unit
  completedUtc : String

/-- The deployment: the registry and the counties with a scraping adapter. -/
structure Deployment where
  registry : Registry
  jobsDir : String
  /-- `clerk_scraper.has_adapter` -/
  clerkScraper : String → Bool
  /-- `appraiser.available` -/
  appraiserSite : String → Bool

namespace Context

open PyText Situs Parcel Geocode

section Resolve

variable [PyText]

/-- `WarningBag.add` -/
def addWarning (message : String) (items : List String) : List String :=
  if message ≠ "" ∧ message ∉ items then items ++ [message] else items

/-- `a or b or ...` over urls that may be missing. -/
def firstUrl (urls : List (Option String)) (last : String) : String :=
  ((urls.filterMap id).find? fun u => u ≠ "").getD last

/-- `PLATFORM_LABEL.get(platform, platform)` -/
def platformLabel : String → String
  | "acclaim" => "Acclaim (Harris Recording Solutions)"
  | "landmark" => "Landmark (Pioneer Technology Group)"
  | "eagle" => "Tyler Eagle"
  | "publicsearch" => "PublicSearch (Kofile)"
  | "inhouse" => "In-house / county-built"
  | "unknown" => "Unknown - use directory link"
  | platform => platform

/-- `clerk.references`; no platform adapter is registered. -/
def clerkReferences (dep : Deployment) (countyFips stateAbbr countyName : String) (hints : Attrs) :
    ClerkRef :=
  let reg := dep.registry.lookup countyFips
  let platform := (reg.map County.clerkPlatform).getD (some "unknown")
  let clerkUrl := firstUrl [reg.bind County.clerkUrl, dep.registry.stateDeed stateAbbr]
    (netronline stateAbbr countyName)
  { county := countyName
    platform := platform
    platformLabel := platform.map platformLabel
    officialRecordsSearch := clerkUrl
    platSearch := firstUrl [reg.bind County.platUrl, dep.registry.statePlat stateAbbr] clerkUrl
    appraiserUrl := reg.bind County.appraiserUrl
    directoryUrl := netronline stateAbbr countyName
    note := (reg.map County.clerkNote).getD (some "")
    searchHints := hints
    automationStatus :=
      if dep.clerkScraper countyFips then "auto-download available (deed + plat)"
      else "deep-link only (adapter not yet built for this platform)" }

/-- The name fragments of parcel identifiers. -/
def parcelIdKeys : List String :=
  ["folio", "parcelid", "parcel_id", "parcelno", "parcel_no", "parno", "parcelnum", "pin", "strap",
    "apn", "altkey", "gid", "span", "acct", "parcel", "prop_id", "propid", "property_id", "sbl",
    "locid", "ssl"]

/-- `_find_parcel_id` -/
def findParcelId (parcels : List Attrs) : String :=
  ((parcels.flatten.find? fun f =>
    let kl := without '-' (without ' ' (lower f.1))
    !f.2.isAbsent ∧ !hasAny ["addr", "street", "situs", "owner", "city", "zip", "mail"] kl ∧
      hasAny parcelIdKeys kl).map fun f => f.2.text).getD ""

/-- `_slug` -/
def slug (text : String) : String :=
  " ".intercalate (words (String.ofList (text.toList.filter fun c => c ∉ "<>:\"/\\|?*".toList)))

/-- `s.strip(" -")` -/
def stripDashes (s : String) : String :=
  let p := fun c => c = ' ' ∨ c = '-'
  String.ofList ((s.toList.dropWhile p).reverse.dropWhile p).reverse

/-- The name part of `job_folder`. -/
def folderName (jobNumber address : String) : String :=
  let street := strip ((splitOn ',' address).headD "")
  orElse (stripDashes (slug jobNumber ++ " - " ++ slug street)) "job"

/-- The trust gate: a parcel, no contradicting address, no unconfirmed buffer hit. -/
def trusted (p : ParcelResult) : Bool :=
  !p.parcels.isEmpty ∧ p.addressMatch ≠ some false ∧ !p.bufferedMatch

def geocoderWarning (provider : String) : String :=
  "Address not in the US Census file — matched via " ++ upper provider ++ " instead. " ++
    "Please confirm the pinned location on the map is the correct property."

def parcelWarning : String :=
  "Couldn't confirm a parcel matching this address — showing reference links only. " ++
    "Parcel ID, lot area, and deed/plat auto-fetch are skipped to avoid wrong data; " ++
    "use the County Property Appraiser link to look up the parcel."

variable [PyFloat] (dep : Deployment) (geo : GeocoderAnswers) (sv : ParcelServices)

/-- The layers that `resolve_by_id` asks: url, label, situs extractor, join, answers. -/
def byIdLayers (stateAbbr countyFips : String) :
    List (String × String × (Attrs → String) × List Related × LayerAnswers) :=
  let county := if countyFips = "" then none else dep.registry.lookup countyFips
  let countyPart := match county with
    | none => []
    | some c => c.gisRest.zipIdx.filterMap fun s =>
      match arcgisLayerUrl s.1 c.layerHint (sv.county s.2).description with
      | .ok (some (url, name)) =>
        some (url, orElse (name.getD "") c.name, situsFn county, c.related, sv.county s.2)
      | _ => none
  let statePart := match dep.registry.stateParcel stateAbbr with
    | none => []
    | some svc => svc.urls.zipIdx.map fun u =>
      (u.1, svc.label, situsOf [] false, svc.related, sv.statewide u.2)
  countyPart ++ statePart

/-- The loop of `resolve_by_id` over its layers. -/
def searchById : List (String × String × (Attrs → String) × List Related × LayerAnswers) →
    Except PyErr (Option (ParcelResult × Option (Value × Value)))
  | [] => .ok none
  | (url, label, sfn, related, q) :: rest => do
    match ← q.byId with
    | none => searchById rest
    | some (attrs, centroid) =>
      let attrs := enrichRelated q.related 0 related attrs
      let (sqft, acres) ← landAreaOf attrs
      return some
        ({ method := "arcgis-rest"
           source := some url
           layerName := some label
           parcels := [attrs]
           candidateCount := 1
           situs := sfn attrs
           landSqft := sqft
           landAcres := acres
           bufferedMatch := false
           addressMatch := some true
           hints := extractHints [attrs]
           parcelSourceLabel := some label }, centroid)

/-- `resolve_by_id` -/
def resolveById (stateAbbr parcelId countyFips : String) :
    Except PyErr (Option (ParcelResult × Option (Value × Value))) :=
  if strip parcelId = "" then .ok none else searchById (byIdLayers dep sv stateAbbr countyFips)

/-- The state that a parcel-ID search uses. -/
def searchState (selectedState : String) : String :=
  let st := upper (strip selectedState)
  if st.length = 2 ∧ st.toList.all isAlpha then st else stateOfFips (strip selectedState)

/-- What phase 1a hands on: the geocode result, the state of a parcel-ID search, the
parcel it found, and the address that the rest of the run uses. -/
structure Located where
  geo : Geo
  st : String := ""
  preresolved : Option ParcelResult := none
  address : String

/-- The parcel-ID search of phase 1a. -/
def locateById (args : ResearchArgs) : Except PyErr Located := do
  let st := searchState args.selectedState
  let pid := strip args.searchParcelId
  let notFound : PyErr := .other ("Parcel ID '" ++ pid ++ "' not found" ++
    if st = "" then " — pick the state and try again." else " in " ++ st ++ ".")
  match ← resolveById dep sv st pid (strip args.selectedCountyFips) with
  | some (parcel, some (lat, lon)) =>
    if lat = .null then throw notFound
    else
      let county := countyFromCoords geo lat lon
      let matched := orElse parcel.situs ("Parcel " ++ pid)
      return {
        geo :=
          { matchedAddress := matched
            lat := lat
            lon := lon
            countyName := county.baseName
            countyFips := county.geoId
            stateFips := county.state
            provider := "parcel-id" }
        st := st
        preresolved := some parcel
        address := matched }
  | _ => throw notFound

/-- Phase 1a. -/
def locateProperty (args : ResearchArgs) : Except PyErr Located :=
  if strip args.searchParcelId ≠ "" ∧ strip args.address = "" then locateById dep geo sv args
  else (geocode geo args.address).map fun g => { geo := g, address := args.address }

/-- The checks on the coordinates in phase 1b. -/
def usableCoordinates (found : Located) : Except PyErr (Value × Value) :=
  if found.geo.lat = .null ∨ found.geo.lon = .null then
    .error (.other ("Geocoder '" ++ found.geo.provider ++
      "' returned no usable coordinates for '" ++ found.address ++ "'."))
  else
    match PyFloat.ofValue found.geo.lat, PyFloat.ofValue found.geo.lon with
    | some lat, some lon => .ok (lat, lon)
    | _, _ => .error (.other ("Geocoder '" ++ found.geo.provider ++
        "' returned invalid coordinates for '" ++ found.address ++ "'."))

/-- `ctx.log_json` -/
def logJson (staging : Staging) (filename source : String) (manifest : List ManifestEntry) :
    Except PyErr (List ManifestEntry) :=
  (staging.saveJson filename).map fun saved => manifest ++
    [{ file := some filename
       bytes := some saved.bytes
       sha256 := some saved.sha256
       fetchedUtc := some saved.fetchedUtc
       source := source }]

/-- `geo_svc.CENSUS` -/
def censusUrl : String := "https://geocoding.geo.census.gov/geocoder/geographies/onelineaddress"

/-- Phases 1b to 3, once the property is located. -/
def assembleContext (staging : Staging) (args : ResearchArgs) (found : Located) :
    Except PyErr PropertyContext := do
  let state := orElse (stateOfFips found.geo.stateFips) found.st
  let fips := found.geo.countyFips
  let county := orElse (dep.registry.countyName fips) found.geo.countyName
  let (lat, lon) ← usableCoordinates found
  let appraiserUrl := firstUrl
    [(dep.registry.lookup fips).bind County.appraiserUrl, dep.registry.stateAppraiser state]
    (netronline state county)
  let warnings :=
    if found.geo.provider = "census" then [] else addWarning (geocoderWarning found.geo.provider) []
  -- phase 2; `resolve` catches what its layers raise, so it does not raise itself
  let p := found.preresolved.getD
    (resolve dep.registry sv fips state county found.geo.matchedAddress)
  let ok := trusted p
  let pid := if ok then findParcelId p.parcels else ""
  let hints := if ok then p.hints else []
  let warnings := if ok then warnings else addWarning parcelWarning warnings
  let p := { p with parcelId := pid }
  -- phase 3
  let jobId := orElse pid (strip args.jobNumber)
  staging.makeFolder
  let name := folderName jobId found.address
  let parent := pathName (dep.jobsDir ++ "/" ++ name)
  let order := orElse (strip args.orderNumber) (orElse pid (orElse jobId parent))
  let manifest ← logJson staging "geocode.json" censusUrl []
  let manifest ← logJson staging "parcel.json" (p.source.getD appraiserUrl) manifest
  let clerkRef := clerkReferences dep fips state county hints
  let manifest ← logJson staging "clerk_search_refs.json" clerkRef.officialRecordsSearch manifest
  return {
    address := found.address
    matchedAddress := found.geo.matchedAddress
    lat := lat
    lon := lon
    state := state
    stateFips := found.geo.stateFips
    county := county
    countyFips := fips
    geocoder := found.geo.provider
    parcel := p
    parcelOk := ok
    parcelId := pid
    parcelHints := hints
    appraiserUrl := appraiserUrl
    clerkRef := clerkRef
    jobNumber := jobId
    order := order
    name := parent
    folder := dep.jobsDir ++ "/" ++ name ++ "/research"
    surveyType := args.surveyType
    warnings := warnings
    manifest := manifest }

/-- `resolve_property_context` -/
def resolvePropertyContext (staging : Staging) (args : ResearchArgs) :
    Except PyErr PropertyContext := do
  let found ← locateProperty dep geo sv args
  assembleContext dep sv staging args found

/-- What an assembled context has from the located property and from the parcel
result `p` of phase 2. -/
structure Assembled (found : Located) (p : ParcelResult) (ctx : PropertyContext) : Prop where
  address : ctx.address = found.address
  matchedAddress : ctx.matchedAddress = found.geo.matchedAddress
  state : ctx.state = orElse (stateOfFips found.geo.stateFips) found.st
  countyFips : ctx.countyFips = found.geo.countyFips
  resolved : p = found.preresolved.getD
    (resolve dep.registry sv ctx.countyFips ctx.state ctx.county ctx.matchedAddress)
  parcel : ctx.parcel = { p with parcelId := ctx.parcelId }
  parcelOk : ctx.parcelOk = trusted p
  parcelId : ctx.parcelId = if trusted p then findParcelId p.parcels else ""
  parcelHints : ctx.parcelHints = if trusted p then p.hints else []
  appr : ctx.appr = some {}
  clerkDocs : ctx.clerkDocs = none

variable {dep sv} {staging : Staging} {args : ResearchArgs} {found : Located} {ctx : PropertyContext}

/-- What a context is made of, and the place that it is about. -/
theorem assembleContext_returned (h : assembleContext dep sv staging args found = .ok ctx) :
    (ctx.stateFips = found.geo.stateFips ∧
      ctx.county = orElse (dep.registry.countyName ctx.countyFips) found.geo.countyName) ∧
    (∃ p, Assembled dep sv found p ctx) ∧
      ctx.folder = dep.jobsDir ++ "/" ++ folderName ctx.jobNumber ctx.address ++ "/research" ∧
      ctx.appraiserUrl = firstUrl [(dep.registry.lookup ctx.countyFips).bind County.appraiserUrl,
        dep.registry.stateAppraiser ctx.state] (netronline ctx.state ctx.county) ∧
      ctx.clerkRef = clerkReferences dep ctx.countyFips ctx.state ctx.county ctx.parcelHints := by
  unfold assembleContext at h
  obtain ⟨coords, -, h⟩ := bind_eq_ok.mp h
  obtain ⟨_, -, h⟩ := bind_eq_ok.mp h
  obtain ⟨_, -, h⟩ := bind_eq_ok.mp h
  obtain ⟨_, -, h⟩ := bind_eq_ok.mp h
  obtain ⟨_, -, h⟩ := bind_eq_ok.mp h
  obtain rfl := Except.ok.inj h
  exact ⟨⟨rfl, rfl⟩, ⟨_, rfl, rfl, rfl, rfl, rfl, rfl, rfl, rfl, rfl, rfl, rfl⟩, rfl, rfl, rfl⟩

theorem assembleContext_made (h : assembleContext dep sv staging args found = .ok ctx) :
    (∃ p, Assembled dep sv found p ctx) ∧
      ctx.folder = dep.jobsDir ++ "/" ++ folderName ctx.jobNumber ctx.address ++ "/research" ∧
      ctx.appraiserUrl = firstUrl [(dep.registry.lookup ctx.countyFips).bind County.appraiserUrl,
        dep.registry.stateAppraiser ctx.state] (netronline ctx.state ctx.county) ∧
      ctx.clerkRef = clerkReferences dep ctx.countyFips ctx.state ctx.county ctx.parcelHints :=
  (assembleContext_returned h).2

theorem assembleContext_ok (h : assembleContext dep sv staging args found = .ok ctx) :
    ∃ p, Assembled dep sv found p ctx := (assembleContext_made h).1

/-- The county and the state of a context are those of the located property. -/
theorem assembleContext_place (h : assembleContext dep sv staging args found = .ok ctx) :
    ctx.stateFips = found.geo.stateFips ∧
      ctx.county = orElse (dep.registry.countyName ctx.countyFips) found.geo.countyName :=
  (assembleContext_returned h).1

theorem resolvePropertyContext_ok {geo : GeocoderAnswers}
    (h : resolvePropertyContext dep geo sv staging args = .ok ctx) :
    ∃ found p, locateProperty dep geo sv args = .ok found ∧ Assembled dep sv found p ctx := by
  obtain ⟨found, hfound, h⟩ := bind_eq_ok.mp h
  obtain ⟨p, hp⟩ := assembleContext_ok h
  exact ⟨found, p, hfound, hp⟩

/-- The staging folder of a run is named by its parcel id or job number and its street. -/
theorem resolvePropertyContext_folder {geo : GeocoderAnswers}
    (h : resolvePropertyContext dep geo sv staging args = .ok ctx) :
    ctx.folder = dep.jobsDir ++ "/" ++ folderName ctx.jobNumber ctx.address ++ "/research" := by
  obtain ⟨found, -, h⟩ := bind_eq_ok.mp h
  exact (assembleContext_made h).2.1

/-- The address path: nothing but the geocoder's answer to the address itself. -/
theorem locateProperty_address {geo : GeocoderAnswers}
    (hpath : strip args.searchParcelId = "" ∨ strip args.address ≠ "")
    (h : locateProperty dep geo sv args = .ok found) :
    ∃ g, geocode geo args.address = .ok g ∧ found = { geo := g, address := args.address } := by
  unfold locateProperty at h
  rw [if_neg (fun hid => hpath.elim hid.1 (absurd hid.2))] at h
  obtain ⟨g, hg, hfound⟩ := map_eq_ok.mp h
  exact ⟨g, hg, hfound.symm⟩

end Resolve

end Context
end ResearchEngine
