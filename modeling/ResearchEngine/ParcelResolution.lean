import ResearchEngine.AddressMatch

/-! Parcel resolution: the candidates of one map layer around the geocoded point,
the choice among them, and the walk over the county and statewide layers. -/
namespace ResearchEngine

/-- A table joined to a parcel layer; the shape of its query is left out. -/
structure Related where
  url : String
  key : String

/-- One county of the registry. -/
structure County where
  name : String := ""
  gisRest : List String := []
  layerHint : String := "parcel"
  related : List Related := []
  situsExclude : List String := []
  composeSitus : Bool := false
  appraiserUrl : Option String := none
  clerkUrl : Option String := none
  platUrl : Option String := none
  clerkPlatform : Option String := some "unknown"
  clerkNote : Option String := some ""

/-- One statewide parcel service. -/
structure Statewide where
  urls : List String
  label : String := ""
  related : List Related := []

/-- The registry and the statewide tables. -/
structure Registry where
  lookup : String → Option County
  stateParcel : String → Option Statewide
  stateAppraiser : String → Option String
  stateDeed : String → Option String
  statePlat : String → Option String
  /-- `geography.county_name` -/
  countyName : String → String

/-- The description of a map service: its name, and its layers' names and ids. -/
structure LayerMeta where
  name : Option String
  layers : List (Option String × String)

/-- What one map layer answers, request by request. -/
structure LayerAnswers where
  description : Except PyErr LayerMeta
  /-- The features at the point (distance 0) and in the box of each distance. -/
  features : ℕ → Except PyErr (List Attrs)
  /-- The rows of each joined table. -/
  related : ℕ → Except PyErr (List Attrs)
  /-- `_query_by_id`: the attributes of the feature, and its centroid. -/
  byId : Except PyErr (Option (Attrs × Option (Value × Value)))

structure ParcelServices where
  county : ℕ → LayerAnswers
  statewide : ℕ → LayerAnswers

/-- The dictionary that `resolve` and `resolve_by_id` return. -/
structure ParcelResult where
  countyFips : Option String := none
  method : String := ""
  source : Option String := none
  layerName : Option String := none
  parcels : List Attrs := []
  candidateCount : ℕ := 0
  situs : String := ""
  landSqft : Value := .null
  landAcres : Value := .null
  bufferedMatch : Bool := false
  addressMatch : Option Bool := none
  hints : Attrs := []
  parcelSourceLabel : Option String := none
  arcgisError : Option String := none
  statewideError : Option String := none
  appraiserUrl : Option String := none
  directoryUrl : Option String := none
  note : Option String := none
  parcelId : String := ""
  deriving DecidableEq, Repr

/-- A parcel found in one layer. -/
structure Hit where
  candidates : List Attrs
  buffered : Bool
  chosen : Attrs
  matched : Bool

namespace Parcel

open PyText Situs

section Resolve

variable [PyText]

/-- `netronline` -/
def netronline (stateAbbr countyName : String) : String :=
  let slug := (lower (strip countyName)).toList.map fun c => if c = ' ' then '-' else c
  "https://publicrecords.netronline.com/state/" ++ stateAbbr ++ "/county/" ++ String.ofList slug

/-- `_situs_fn` -/
def situsFn : Option County → Attrs → String
  | none => situsOf [] false
  | some county => situsOf county.situsExclude county.composeSitus

/-- `/\d+/?$` matches: the service is one layer already. -/
def isLayerUrl (service : String) : Bool :=
  let rev := service.toList.reverse
  let rev := if rev.head? = some '/' then rev.tail else rev
  rev.takeWhile isDecimal ≠ [] ∧ (rev.dropWhile isDecimal).head? = some '/'

/-- `_arcgis_layer_url`: the layer's url (without `/query`) and its name. -/
def arcgisLayerUrl (service hint : String) (description : Except PyErr LayerMeta) :
    Except PyErr (Option (String × Option String)) :=
  if isLayerUrl service then
    let name := match description with
      | .ok d => d.name
      | .error _ => none
    .ok (some (rstripChar '/' service, name))
  else
    description.map fun d =>
      let cands := d.layers.filter fun layer =>
        hasAny [hint, "parcel", "property"] (lower (layer.1.getD ""))
      cands.head?.map fun layer => (service ++ "/" ++ layer.2, layer.1)

/-- `_point_query` -/
def pointQuery (q : LayerAnswers) (distance : ℕ) : Except PyErr (List Attrs) :=
  (q.features distance).map (List.take 400)

section Candidates

variable (q : LayerAnswers) (address : String) (situsFn : Attrs → String)

def hasMatch (feats : List Attrs) : Bool :=
  address ≠ "" ∧ feats.any fun c => addrMatch address (situsFn c) = some true

/-- The loop of `_candidates` over the box radii. -/
def searchBoxes : List ℕ → List Attrs → Except PyErr (List Attrs × Bool)
  | [], widest => .ok (widest, !widest.isEmpty)
  | dist :: dists, widest => do
    let feats ← pointQuery q dist
    if feats.isEmpty then searchBoxes dists widest
    else if hasMatch address situsFn feats then .ok (feats, true)
    else searchBoxes dists feats

/-- `_candidates` -/
def candidates : Except PyErr (List Attrs × Bool) := do
  let direct ← pointQuery q 0
  if !direct.isEmpty ∧ (address = "" ∨ hasMatch address situsFn direct) then .ok (direct, false)
  else searchBoxes q address situsFn [75, 150, 300] direct

/-- `_choose` -/
def choose (cands : List Attrs) : Attrs × Bool :=
  match cands.find? fun c => addrMatch address (situsFn c) = some true with
  | some c => (c, true)
  | none =>
    match cands.find? fun c => house address ≠ "" ∧ house (situsFn c) = house address with
    | some c => (c, false)
    | none => ((cands.find? fun c => situsFn c ≠ "").getD (cands.headD []), false)

end Candidates

/-- `_enrich_one` -/
def enrichOne (attrs : Attrs) (cfg : Related) (rows : Except PyErr (List Attrs)) : Attrs :=
  if cfg.url = "" ∨ cfg.key = "" ∨ (attrs.get cfg.key).isEmpty then attrs
  else
    match rows with
    | .ok (row :: _) =>
      row.foldl (fun attrs f => if (attrs.get f.1).isEmpty then attrs.set f.1 f.2 else attrs) attrs
    | _ => attrs

/-- `_enrich_related` -/
def enrichRelated (rows : ℕ → Except PyErr (List Attrs)) : ℕ → List Related → Attrs → Attrs
  | _, [], attrs => attrs
  | n, cfg :: cfgs, attrs => enrichRelated rows (n + 1) cfgs (enrichOne attrs cfg (rows n))

/-- The field names that `_extract_hints` keeps. -/
def hintKeys : List String :=
  ["book", "page", "plat", "instrument", "legal", "subdiv", "owner", "taxpayer", "deed", "folio",
    "parcel"]

/-- `_extract_hints` -/
def extractHints (parcels : List Attrs) : Attrs :=
  parcels.flatten.foldl (fun hints f =>
    if !f.2.isAbsent ∧ hasAny hintKeys (lower f.1) then hints.setDefault f.1 f.2 else hints) []

/-- The part of one layer's turn up to `_finish`; `none` when it has no candidate. -/
def locate (q : LayerAnswers) (address : String) (situsFn : Attrs → String)
    (related : List Related) : Except PyErr (Option Hit) := do
  let (cands, buffered) ← candidates q address situsFn
  if cands.isEmpty then return none
  let (chosen, matched) := choose address situsFn cands
  if related.isEmpty then return some ⟨cands, buffered, chosen, matched⟩
  let chosen := enrichRelated q.related 0 related chosen
  return some ⟨cands, buffered, chosen, addrMatch address (situsFn chosen) = some true⟩

variable [PyFloat]

/-- `_finish` -/
def finish (result : ParcelResult) (hit : Hit) (address src : String) (layerName : Option String)
    (situsFn : Attrs → String) : Except PyErr ParcelResult := do
  let situs := situsFn hit.chosen
  let (sqft, acres) ← landAreaOf hit.chosen
  return { result with
    method := "arcgis-rest"
    source := some src
    layerName := layerName
    parcels := [hit.chosen]
    candidateCount := hit.candidates.length
    situs := situs
    landSqft := sqft
    landAcres := acres
    bufferedMatch := hit.buffered && !hit.matched
    addressMatch := addrMatch address situs
    hints := extractHints [hit.chosen] }

/-- The loop over the layers of one county: whether a layer gave the parcel, and
the result as it then is. -/
def countyLayers (county : County) (answers : ℕ → LayerAnswers) (address : String) :
    ℕ → List String → ParcelResult → Bool × ParcelResult
  | _, [], result => (false, result)
  | n, service :: services, result =>
    let sfn := situsFn (some county)
    let turn : Except PyErr (Option ParcelResult) := do
      match ← arcgisLayerUrl service county.layerHint (answers n).description with
      | none => return none
      | some (url, name) =>
        match ← locate (answers n) address sfn county.related with
        | none => return none
        | some hit => (finish result hit address url name sfn).map some
    match turn with
    | .ok (some found) => (true, found)
    | .ok none => countyLayers county answers address (n + 1) services result
    | .error e => countyLayers county answers address (n + 1) services
        { result with arcgisError := some e.text }

/-- The loop over the layers that tile one state. -/
def statewideLayers (svc : Statewide) (answers : ℕ → LayerAnswers) (address : String) :
    ℕ → List String → ParcelResult → Bool × ParcelResult
  | _, [], result => (false, result)
  | n, url :: urls, result =>
    match locate (answers n) address (situsOf [] false) svc.related with
    | .ok none => statewideLayers svc answers address (n + 1) urls result
    | .ok (some hit) =>
      let result := { result with parcelSourceLabel := some svc.label }
      match finish result hit address url none (situsOf [] false) with
      | .ok found => (true, found)
      | .error e => statewideLayers svc answers address (n + 1) urls
          { result with statewideError := some e.text }
    | .error e => statewideLayers svc answers address (n + 1) urls
        { result with statewideError := some e.text }

/-- Part 1 of `resolve`: the county's own layers. -/
def countyPart (reg : Registry) (sv : ParcelServices) (countyFips address : String) :
    Bool × ParcelResult :=
  let result : ParcelResult := { countyFips := some countyFips }
  match reg.lookup countyFips with
  | some county => countyLayers county sv.county address 0 county.gisRest result
  | none => (false, result)

/-- Part 2 of `resolve`: the layers of the state. -/
def statewidePart (reg : Registry) (sv : ParcelServices) (stateAbbr address : String)
    (result : ParcelResult) : Bool × ParcelResult :=
  match reg.stateParcel stateAbbr with
  | some svc => statewideLayers svc sv.statewide address 0 svc.urls result
  | none => (false, result)

/-- Part 3 of `resolve`: links instead of a parcel. -/
def directoryPart (reg : Registry) (countyFips stateAbbr countyName : String)
    (result : ParcelResult) : ParcelResult :=
  { result with
    method := "directory"
    appraiserUrl := (reg.lookup countyFips).bind County.appraiserUrl
    directoryUrl := some (netronline stateAbbr countyName)
    note := some ("No verified parcel API for this county yet — open the appraiser/" ++
      "directory link, or add an ArcGIS REST endpoint to the registry.") }

/-- `resolve` -/
def resolve (reg : Registry) (sv : ParcelServices) (countyFips stateAbbr countyName address : String) :
    ParcelResult :=
  let first := countyPart reg sv countyFips address
  if first.1 then first.2
  else
    let second := statewidePart reg sv stateAbbr address first.2
    if second.1 then second.2 else directoryPart reg countyFips stateAbbr countyName second.2

end Resolve

end Parcel
end ResearchEngine
