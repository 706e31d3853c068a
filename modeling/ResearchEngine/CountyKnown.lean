import ResearchEngine.JsonReplies
import ResearchEngine.StepLinks

/-! `resolve_property_context` on replies of any shape: when it returns a context with all that the
document adapters rely on, and otherwise raises what its callers are told to expect. -/
namespace ResearchEngine

open PyText Parcel Context

/-- What `resolve_property_context` can end with instead of a context. -/
inductive Raised
  /-- a `ValueError` of its own -/
  | value (text : String)
  /-- what `geocode` raised -/
  | geocoder (e : PyErr)
  /-- what `resolve_by_id` raised -/
  | lookup (e : PyErr)
  /-- what the staging folder raised -/
  | staging (e : PyErr)
  /-- any other exception of its own: a `TypeError`, an `AttributeError`, an `OverflowError` -/
  | other (text : String)
  deriving DecidableEq

/-- What phase 1a hands on. -/
structure LocatedReply where
  geo : GeoReply
  st : String := ""
  preresolved : Option ParcelResult := none
  address : String

/-- The context, and its two fields that are kept as the geocoder gave them: in `context` one that
is not a text stands as the empty text that it is read as. -/
structure ResolvedReply where
  context : PropertyContext
  matchedAddress : Json
  stateFips : Json

/-- The parcel services as a search with this matched address meets them: one that is neither a
text nor empty cannot be compared, so the first layer with features at the point raises. -/
def ParcelServices.comparedWith (sv : ParcelServices) (address : Json) : ParcelServices :=
  if address.text?.isSome ∨ !address.truthy then sv
  else
    let text := "'" ++ address.typeName ++ "' object has no attribute 'split'"
    let unread := fun q : LayerAnswers =>
      { q with features := fun distance => do
          let feats ← q.features distance
          if feats.isEmpty then .ok [] else .error (.other text) }
    { county := fun n => unread (sv.county n), statewide := fun n => unread (sv.statewide n) }

namespace Replies

section Resolve

variable [PyText] [PyFloat] (dep : Deployment) (replies : GeocoderReplies) (sv : ParcelServices)

/-- What `_county_from_coords` and a parcel found by its ID make of the location. -/
def parcelGeo (matched : String) (lat lon : Value) : GeoReply :=
  let county := countyFromCoords replies lat lon
  { matchedAddress := .str matched
    lat := lat
    lon := lon
    countyName := county.name
    countyFips := county.fips
    stateFips := county.state
    provider := "parcel-id" }

/-- The address that a parcel found by its ID stands for. -/
def parcelAddress (args : ResearchArgs) (parcel : ParcelResult) : String :=
  orElse parcel.situs ("Parcel " ++ strip args.searchParcelId)

/-- `resolve_by_id`, as the search for a parcel ID calls it. -/
def lookupById (args : ResearchArgs) :
    Except PyErr (Option (ParcelResult × Option (Value × Value))) :=
  resolveById dep sv (searchState args.selectedState) (strip args.searchParcelId)
    (strip args.selectedCountyFips)

/-- The search is for a parcel ID. -/
def searchesById (args : ResearchArgs) : Bool :=
  strip args.searchParcelId ≠ "" ∧ strip args.address = ""

/-- Phase 1a. -/
def locateProperty (args : ResearchArgs) : Except Raised LocatedReply :=
  if searchesById args then
    let st := searchState args.selectedState
    let notFound := Raised.value ("Parcel ID '" ++ strip args.searchParcelId ++ "' not found" ++
      if st = "" then " — pick the state and try again." else " in " ++ st ++ ".")
    match lookupById dep sv args with
    | .error e => .error (.lookup e)
    | .ok (some (parcel, some (lat, lon))) =>
      if lat = .null then .error notFound
      else
        .ok
          { geo := parcelGeo replies (parcelAddress args parcel) lat lon
            st := st
            preresolved := some parcel
            address := parcelAddress args parcel }
    | .ok _ => .error notFound
  else
    match geocode replies args.address with
    | .error e => .error (.geocoder e)
    | .ok geo => .ok { geo := geo, address := args.address }

/-- `float(v)` under `except (TypeError, ValueError)`; an `OverflowError` is not caught. -/
def coordinate (invalid : String) (v : Value) : Except Raised Value :=
  if v.overflows then .error (.other "int too large to convert to float")
  else match PyFloat.ofValue v with
    | some f => .ok f
    | none => .error (.value invalid)

/-- The checks on the coordinates in phase 1b. -/
def coordinates (geo : GeoReply) (address : String) : Except Raised (Value × Value) :=
  if geo.lat = .null ∨ geo.lon = .null then
    .error (.value ("Geocoder '" ++ geo.provider ++ "' returned no usable coordinates for '" ++
      address ++ "'."))
  else do
    let invalid := "Geocoder '" ++ geo.provider ++ "' returned invalid coordinates for '" ++
      address ++ "'."
    let lat ← coordinate invalid geo.lat
    let lon ← coordinate invalid geo.lon
    return (lat, lon)

/-- `county_name(fips) or geo.get("county_name", "")` -/
def countyLabel (reg : Registry) (geo : GeoReply) (fips : String) : Json :=
  if reg.countyName fips ≠ "" then .str (reg.countyName fips) else geo.countyName

/-- Phases 1b to 3 with a county name that is not a text: a url of the county directory is asked for
at the latest by `references`, after the folder is made and two files are written. -/
def raiseUnnamed (staging : Staging) (fips state : String) (name : Json) :
    Except Raised ResolvedReply :=
  let unnamed := Raised.other ("'" ++ name.typeName ++ "' object has no attribute 'strip'")
  if firstUrl [(dep.registry.lookup fips).bind County.appraiserUrl,
      dep.registry.stateAppraiser state] "" = "" then .error unnamed
  else
    match (do
      staging.makeFolder
      let _ ← staging.saveJson "geocode.json"
      let _ ← staging.saveJson "parcel.json" : Except PyErr Unit) with
    | .error e => .error (.staging e)
    | .ok _ => .error unnamed

/-- What phase 1a located, with its county as texts. -/
def LocatedReply.named (found : LocatedReply) (fips name : String) : Located :=
  { geo :=
      { matchedAddress := found.geo.matchedAddress.text?.getD ""
        lat := found.geo.lat
        lon := found.geo.lon
        countyName := name
        countyFips := fips
        stateFips := found.geo.stateFips.text?.getD ""
        provider := found.geo.provider }
    st := found.st
    preresolved := found.preresolved
    address := found.address }

/-- Phases 1b to 3, with the code of the county a text and the coordinates checked. -/
def assembleCounty (staging : Staging) (args : ResearchArgs) (found : LocatedReply)
    (fips : String) : Except Raised ResolvedReply :=
  match countyLabel dep.registry found.geo fips with
  | .str name =>
    match assembleContext dep (sv.comparedWith found.geo.matchedAddress) staging args
        (LocatedReply.named found fips name) with
    | .error e => .error (.staging e)
    | .ok context =>
      .ok
        { context := context
          matchedAddress := found.geo.matchedAddress
          stateFips := found.geo.stateFips }
  | name =>
    raiseUnnamed dep staging fips
      (orElse (Geocode.stateOfFips (found.geo.stateFips.text?.getD "")) found.st) name

/-- Phases 1b to 3. -/
def assembleReply (staging : Staging) (args : ResearchArgs) (found : LocatedReply) :
    Except Raised ResolvedReply :=
  if !found.geo.stateFips.hashable then
    .error (.other ("unhashable type: '" ++ found.geo.stateFips.typeName ++ "'"))
  else
    match found.geo.countyFips with
    | .str fips =>
      match coordinates found.geo found.address with
      | .error e => .error e
      | .ok _ => assembleCounty dep sv staging args found fips
    | fips => .error (.other ("'" ++ fips.typeName ++ "' object is not subscriptable"))

/-- `resolve_property_context` -/
def resolveReplies (staging : Staging) (args : ResearchArgs) : Except Raised ResolvedReply := do
  let found ← locateProperty dep replies sv args
  assembleReply dep sv staging args found

end Resolve

/-! What is promised of every outcome, and when it is kept. -/

section Promise

variable [PyText] [PyFloat]

/-- A value that `float` returned. -/
def IsNumber (v : Value) : Prop := ∃ raw, PyFloat.ofValue raw = some v

/-- The fields that every adapter relies on. -/
structure Complete (context : PropertyContext) : Prop where
  county : context.countyFips ≠ ""
  lat : IsNumber context.lat
  lon : IsNumber context.lon
  linked : context.Linked
  directory : context.clerkRef.directoryUrl ≠ ""
  unconfirmed : context.parcelOk = false → context.parcelId = "" ∧ context.parcelHints = []

/-- A `ValueError`, the geocoder's own exception or a complete context. -/
inductive Kept (isValueError : PyErr → Prop) : Except Raised ResolvedReply → Prop
  | resolved {r : ResolvedReply} (h : Complete r.context) : Kept isValueError (.ok r)
  | value (text : String) : Kept isValueError (.error (.value text))
  | geocoder (e : PyErr) : Kept isValueError (.error (.geocoder e))
  | lookup {e : PyErr} (h : isValueError e) : Kept isValueError (.error (.lookup e))
  | staging {e : PyErr} (h : isValueError e) : Kept isValueError (.error (.staging e))

/-- The staging folder takes the files of the run. -/
structure Writes (staging : Staging) : Prop where
  folder : staging.makeFolder = .ok ()
  files : ∀ filename, ∃ saved, staging.saveJson filename = .ok saved

/-- The location comes with a county: a code that is a text, and unless its coordinates are turned
down anyway, one that is not empty, of a county with a name. -/
structure HasCounty (reg : Registry) (geo : GeoReply) (address : String) : Prop where
  state : geo.stateFips.hashable = true
  code : ∃ fips, geo.countyFips = .str fips ∧
    ((∃ text, coordinates geo address = .error (.value text)) ∨
      (∃ coords, coordinates geo address = .ok coords) ∧ fips ≠ "" ∧
        (countyLabel reg geo fips).text?.isSome = true)

/-- What the lookups of a run have to answer for its context to have a county. -/
def CountyKnown (isValueError : PyErr → Prop) (dep : Deployment) (replies : GeocoderReplies)
    (sv : ParcelServices) (args : ResearchArgs) : Prop :=
  if searchesById args then
    (∀ e, lookupById dep sv args = .error e → isValueError e) ∧
      ∀ parcel lat lon, lookupById dep sv args = .ok (some (parcel, some (lat, lon))) →
        lat ≠ .null → HasCounty dep.registry
          (parcelGeo replies (parcelAddress args parcel) lat lon) (parcelAddress args parcel)
  else ∀ geo, geocode replies args.address = .ok geo → HasCounty dep.registry geo args.address

variable {dep : Deployment} {replies : GeocoderReplies} {sv : ParcelServices} {staging : Staging}
  {args : ResearchArgs} {found : LocatedReply} {isValueError : PyErr → Prop}

omit [PyText] in
theorem coordinate_ok {invalid : String} {v w : Value} (h : coordinate invalid v = .ok w) :
    PyFloat.ofValue v = some w := by
  unfold coordinate at h
  split at h
  · cases h
  · split at h
    · rename_i f hf
      obtain rfl := Except.ok.inj h
      exact hf
    · cases h

omit [PyText] in
/-- Coordinates that pass the checks are usable, and numbers. -/
theorem coordinates_ok {geo : GeoReply} {address : String} {lat lon : Value}
    (h : coordinates geo address = .ok (lat, lon)) :
    geo.lat ≠ .null ∧ geo.lon ≠ .null ∧ PyFloat.ofValue geo.lat = some lat ∧
      PyFloat.ofValue geo.lon = some lon := by
  unfold coordinates at h
  split at h
  · cases h
  · rename_i hnull
    obtain ⟨hlat, hlon⟩ := not_or.mp hnull
    obtain ⟨lat', hlat', h⟩ := bind_eq_ok.mp h
    obtain ⟨lon', hlon', h⟩ := bind_eq_ok.mp h
    obtain ⟨rfl, rfl⟩ := Prod.mk.inj (Except.ok.inj h)
    exact ⟨hlat, hlon, coordinate_ok hlat', coordinate_ok hlon'⟩

/-- Phases 1b to 3 pass with usable coordinates and a folder that is written. -/
theorem assembleContext_total (dep : Deployment) (sv : ParcelServices) (args : ResearchArgs)
    (hstaging : Writes staging) {found : Located} {lat lon : Value}
    (hcoords : usableCoordinates found = .ok (lat, lon)) :
    ∃ context, assembleContext dep sv staging args found = .ok context ∧
      context.lat = lat ∧ context.lon = lon := by
  obtain ⟨geo, hgeo⟩ := hstaging.files "geocode.json"
  obtain ⟨parcel, hparcel⟩ := hstaging.files "parcel.json"
  obtain ⟨clerk, hclerk⟩ := hstaging.files "clerk_search_refs.json"
  simp only [assembleContext, hcoords, hstaging.folder, logJson, hgeo, hparcel, hclerk]
  exact ⟨_, rfl, rfl, rfl⟩

/-- The context of a county that is known is complete but for the code of the county. -/
theorem assembleContext_complete (dep : Deployment) (sv : ParcelServices) (args : ResearchArgs)
    (fips name : String) (hstaging : Writes staging)
    {coords : Value × Value} (hcoords : coordinates found.geo found.address = .ok coords) :
    ∃ context, assembleContext dep sv staging args (LocatedReply.named found fips name) =
      .ok context ∧ (Complete context ↔ fips ≠ "") := by
  obtain ⟨lat, lon⟩ := coords
  obtain ⟨hlat, hlon, hflat, hflon⟩ := coordinates_ok hcoords
  have husable : usableCoordinates (LocatedReply.named found fips name) = .ok (lat, lon) := by
    simp [usableCoordinates, LocatedReply.named, hlat, hlon, hflat, hflon]
  obtain ⟨context, hmade, rfl, rfl⟩ := assembleContext_total dep sv args hstaging husable
  refine ⟨context, hmade, ?_⟩
  obtain ⟨⟨p, hp⟩, -, -, hclerk⟩ := assembleContext_made hmade
  have hfips : context.countyFips = fips := hp.countyFips
  constructor
  · intro hcomplete
    rw [← hfips]
    exact hcomplete.county
  · intro hne
    refine ⟨hfips.trans_ne hne, ⟨_, hflat⟩, ⟨_, hflon⟩, assembleContext_linked hmade, ?_, fun hno => ?_⟩
    · rw [hclerk]
      exact netronline_ne_empty _ _
    · rw [hp.parcelOk] at hno
      rw [hp.parcelId, hp.parcelHints, hno]
      exact ⟨rfl, rfl⟩

omit [PyText] in
theorem raiseUnnamed_not_kept (hstaging : Writes staging) (fips state : String) (name : Json) :
    ¬ Kept isValueError (raiseUnnamed dep staging fips state name) := by
  obtain ⟨geo, hgeo⟩ := hstaging.files "geocode.json"
  obtain ⟨parcel, hparcel⟩ := hstaging.files "parcel.json"
  have hraised : ∃ text, raiseUnnamed dep staging fips state name = .error (.other text) := by
    unfold raiseUnnamed
    split
    · exact ⟨_, rfl⟩
    · simp only [hstaging.folder, hgeo, hparcel]
      exact ⟨_, rfl⟩
  obtain ⟨text, htext⟩ := hraised
  rw [htext]
  exact nofun

omit [PyText] in
theorem coordinate_error {invalid : String} {v : Value} {e : Raised}
    (h : coordinate invalid v = .error e) : (∃ text, e = .value text) ∨ ∃ text, e = .other text := by
  unfold coordinate at h
  split at h
  · exact .inr ⟨_, (Except.error.inj h).symm⟩
  · split at h
    · cases h
    · exact .inl ⟨_, (Except.error.inj h).symm⟩

omit [PyText] in
/-- Of the exceptions of the coordinate checks only the `ValueError`s are kept. -/
theorem coordinates_error {geo : GeoReply} {address : String} {e : Raised}
    (h : coordinates geo address = .error e) : (∃ text, e = .value text) ∨ ∃ text, e = .other text := by
  unfold coordinates at h
  split at h
  · exact .inl ⟨_, (Except.error.inj h).symm⟩
  · obtain hlat | ⟨lat, -, h⟩ := bind_eq_error.mp h
    · exact coordinate_error hlat
    · obtain hlon | ⟨lon, -, h⟩ := bind_eq_error.mp h
      · exact coordinate_error hlon
      · cases h

/-- With usable coordinates a located property keeps the promise if its county has a code and a
name. -/
theorem assembleCounty_kept_iff (hstaging : Writes staging) {fips : String}
    {coords : Value × Value} (hcoords : coordinates found.geo found.address = .ok coords) :
    Kept isValueError (assembleCounty dep sv staging args found fips) ↔
      fips ≠ "" ∧ (countyLabel dep.registry found.geo fips).text?.isSome = true := by
  unfold assembleCounty
  cases countyLabel dep.registry found.geo fips with
  | str name =>
    obtain ⟨context, hmade, hcomplete⟩ := assembleContext_complete dep
      (sv.comparedWith found.geo.matchedAddress) args fips name hstaging hcoords
    simp only [hmade]
    constructor
    · rintro ⟨h⟩
      exact ⟨hcomplete.mp h, rfl⟩
    · exact fun h => .resolved (hcomplete.mpr h.1)
  | _ =>
    refine iff_of_false (raiseUnnamed_not_kept hstaging _ _ _) ?_
    rintro ⟨-, htext⟩
    cases htext

/-- A located property keeps the promise exactly when it comes with a county. -/
theorem assembleReply_kept_iff (hstaging : Writes staging) :
    Kept isValueError (assembleReply dep sv staging args found) ↔
      HasCounty dep.registry found.geo found.address := by
  unfold assembleReply
  by_cases hstate : found.geo.stateFips.hashable = true
  swap
  · rw [Bool.not_eq_true] at hstate
    rw [hstate]
    exact iff_of_false nofun fun h => Bool.false_ne_true (hstate.symm.trans h.state)
  rw [hstate]
  cases hfips : found.geo.countyFips with
  | str fips =>
    have hcode : HasCounty dep.registry found.geo found.address ↔
        ((∃ text, coordinates found.geo found.address = .error (.value text)) ∨
          (∃ coords, coordinates found.geo found.address = .ok coords) ∧ fips ≠ "" ∧
            (countyLabel dep.registry found.geo fips).text?.isSome = true) := by
      constructor
      · intro h
        obtain ⟨fips', heq, hcase⟩ := h.code
        obtain rfl := Json.str.inj (hfips.symm.trans heq)
        exact hcase
      · exact fun hcase => ⟨hstate, fips, hfips, hcase⟩
    rw [hcode]
    cases hcoords : coordinates found.geo found.address with
    | error e =>
      obtain ⟨text, rfl⟩ | ⟨text, rfl⟩ := coordinates_error hcoords
      · exact iff_of_true (.value text) (.inl ⟨text, rfl⟩)
      · refine iff_of_false nofun ?_
        rintro (⟨text', h⟩ | ⟨⟨coords, h⟩, -⟩) <;> cases h
    | ok coords =>
      refine (assembleCounty_kept_iff hstaging hcoords).trans ?_
      constructor
      · exact fun h => .inr ⟨⟨coords, rfl⟩, h⟩
      · rintro (⟨text, h⟩ | ⟨-, h⟩)
        · cases h
        · exact h
  | _ =>
    refine iff_of_false nofun fun h => ?_
    obtain ⟨fips, heq, -⟩ := h.code
    rw [hfips] at heq
    cases heq

/-- `resolve_property_context` raises a `ValueError` or the geocoder's own exception, or returns a
complete context, exactly when the replies that it asks for come with a county. -/
theorem county_or_value_error_iff (isValueError : PyErr → Prop) (dep : Deployment)
    (replies : GeocoderReplies) (sv : ParcelServices) (staging : Staging) (args : ResearchArgs)
    (hstaging : Writes staging) :
    Kept isValueError (resolveReplies dep replies sv staging args) ↔
      CountyKnown isValueError dep replies sv args := by
  unfold resolveReplies locateProperty CountyKnown
  by_cases hsearch : searchesById args = true
  · rw [if_pos hsearch, if_pos hsearch]
    cases hfound : lookupById dep sv args with
    | error e =>
      constructor
      · intro h
        refine ⟨fun e' he' => ?_, fun parcel lat lon h' => by cases h'⟩
        obtain rfl := Except.error.inj he'
        cases h with
        | lookup h => exact h
      · exact fun h => .lookup (h.1 e rfl)
    | ok hit =>
      obtain _ | ⟨parcel, _ | ⟨lat, lon⟩⟩ := hit
      · refine iff_of_true (.value _) ⟨fun e h => ?_, fun parcel lat lon h => ?_⟩ <;> cases h
      · refine iff_of_true (.value _) ⟨fun e h => ?_, fun parcel lat lon h => ?_⟩ <;> cases h
      · by_cases hlat : lat = .null
        · dsimp only
          rw [if_pos hlat]
          refine iff_of_true (.value _) ⟨fun e h => (by cases h), fun parcel' lat' lon' h hne => ?_⟩
          cases h
          exact (hne hlat).elim
        · dsimp only
          rw [if_neg hlat]
          refine (assembleReply_kept_iff hstaging).trans ?_
          constructor
          · intro h
            refine ⟨fun e h' => (by cases h'), fun parcel' lat' lon' h' _ => ?_⟩
            cases h'
            exact h
          · exact fun h => h.2 parcel lat lon rfl hlat
  · rw [if_neg hsearch, if_neg hsearch]
    cases hgeo : geocode replies args.address with
    | error e => exact iff_of_true (.geocoder e) fun geo h => by cases h
    | ok geo =>
      refine (assembleReply_kept_iff hstaging).trans ?_
      constructor
      · intro h geo' hgeo'
        obtain rfl := Except.ok.inj hgeo'
        exact h
      · exact fun h => h geo rfl

end Promise

/-! On well-formed replies these are the phases of the typed model. -/

section Typed

variable [PyText] [PyFloat] {dep : Deployment} {sv : ParcelServices} {staging : Staging}
  {args : ResearchArgs}

/-- A located property as replies gave it. -/
def Located.reply (found : Located) : LocatedReply where
  geo :=
    { matchedAddress := .str found.geo.matchedAddress
      lat := found.geo.lat
      lon := found.geo.lon
      countyName := .str found.geo.countyName
      countyFips := .str found.geo.countyFips
      stateFips := .str found.geo.stateFips
      provider := found.geo.provider }
  st := found.st
  preresolved := found.preresolved
  address := found.address

omit [PyText] in
theorem coordinates_reply {found : Located} (hlat : found.geo.lat.overflows = false)
    (hlon : found.geo.lon.overflows = false) :
    (coordinates (Located.reply found).geo found.address).toOption =
      (usableCoordinates found).toOption := by
  unfold coordinates usableCoordinates Located.reply
  dsimp only
  split
  · rfl
  · unfold coordinate
    rw [hlat, hlon]
    cases PyFloat.ofValue found.geo.lat <;> cases PyFloat.ofValue found.geo.lon <;> rfl

/-- The county name that the dataset has goes before the geocoder's. -/
theorem assembleContext_named {found : Located} {name : String}
    (hname : countyLabel dep.registry (Located.reply found).geo found.geo.countyFips = .str name) :
    assembleContext dep sv staging args
        (LocatedReply.named (Located.reply found) found.geo.countyFips name) =
      assembleContext dep sv staging args found := by
  have hcounty : orElse (dep.registry.countyName found.geo.countyFips) name =
      orElse (dep.registry.countyName found.geo.countyFips) found.geo.countyName := by
    unfold countyLabel at hname
    unfold orElse
    by_cases hreg : dep.registry.countyName found.geo.countyFips = ""
    · rw [if_pos hreg, if_pos hreg]
      rw [if_neg (not_not.mpr hreg)] at hname
      exact (Json.str.inj hname).symm
    · rw [if_neg hreg, if_neg hreg]
  unfold assembleContext
  simp only [LocatedReply.named, Located.reply, Json.text?, Option.getD_some, hcounty]
  rfl

/-- A located property whose fields are texts makes the context that the typed phases make. -/
theorem assembleReply_typed {found : Located} (hlat : found.geo.lat.overflows = false)
    (hlon : found.geo.lon.overflows = false) :
    (assembleReply dep sv staging args (Located.reply found)).toOption.map ResolvedReply.context =
      (assembleContext dep sv staging args found).toOption := by
  have hcoords := coordinates_reply hlat hlon
  have hreply : assembleReply dep sv staging args (Located.reply found) =
      match coordinates (Located.reply found).geo found.address with
      | .error e => .error e
      | .ok _ => assembleCounty dep sv staging args (Located.reply found) found.geo.countyFips := rfl
  rw [hreply]
  cases hmade : coordinates (Located.reply found).geo found.address with
  | error e =>
    cases husable : usableCoordinates found with
    | error e' =>
      unfold assembleContext
      simp only [husable]
      rfl
    | ok coords =>
      rw [hmade, husable] at hcoords
      cases hcoords
  | ok coords =>
    obtain ⟨name, hname⟩ : ∃ name, countyLabel dep.registry (Located.reply found).geo
        found.geo.countyFips = .str name := by
      unfold countyLabel
      split <;> exact ⟨_, rfl⟩
    dsimp only
    unfold assembleCounty
    rw [hname]
    dsimp only
    rw [show sv.comparedWith (Located.reply found).geo.matchedAddress = sv from rfl,
      assembleContext_named hname]
    cases assembleContext dep sv staging args found <;> rfl

end Typed

section Concrete

open scoped PyText.Ascii PyFloat.Whole

/-- The Census file misses the address, ArcGIS has it, and the county of its coordinates is what
`county` replies. -/
def missedReplies (county : Except PyErr Json) : GeocoderReplies where
  census _ := .ok (.dict [])
  arcgis _ := .ok (.dict [("candidates", .list [.dict [("score", .int 100),
    ("location", .dict [("x", .int (-82)), ("y", .int 28)]), ("address", .str "9 OAK AVE")]])])
  nominatim _ := .ok (.list [])
  countyAt _ _ := county

/-- One county of a reverse lookup. -/
def countyReply (fips : Json) : Json :=
  .dict [("result", .dict [("geographies", .dict [("Counties", .list [.dict
    [("BASENAME", .str "Hillsborough"), ("GEOID", fips), ("STATE", .str "12")]])])])]

def missedResolution (county : Except PyErr Json) : Except Raised ResolvedReply :=
  resolveReplies sampleDeployment (missedReplies county) (sampleLayers "9 OAK AVE" "A-1")
    sampleStaging { address := "9 Oak Avenue" }

def raised : Except Raised ResolvedReply → Option Raised
  | .error e => some e
  | .ok _ => none

theorem sample_writes : Writes sampleStaging := ⟨rfl, fun _ => ⟨_, rfl⟩⟩

theorem county_or_value_error_iff_found :
    Kept (fun _ => False) (missedResolution (.ok (countyReply (.str "12057")))) ↔
      CountyKnown (fun _ => False) sampleDeployment
        (missedReplies (.ok (countyReply (.str "12057")))) (sampleLayers "9 OAK AVE" "A-1")
        { address := "9 Oak Avenue" } :=
  county_or_value_error_iff _ _ _ _ _ _ sample_writes

/-- The reverse lookup fails, and the run goes on without a county; it answers with a county
without a code, and a `TypeError` ends the run. -/
theorem reverse_lookup_failed :
    ((missedResolution (.error (.network "timed out"))).toOption.map fun resolved =>
        (resolved.context.countyFips, resolved.context.geocoder)) = some ("", "arcgis") ∧
      raised (missedResolution (.ok (countyReply .null))) =
        some (.other "'NoneType' object is not subscriptable") ∧
      ¬ ∀ (isValueError : PyErr → Prop) (dep : Deployment) (replies : GeocoderReplies)
        (sv : ParcelServices) (staging : Staging) (args : ResearchArgs), Writes staging →
        Kept isValueError (resolveReplies dep replies sv staging args) := by
  have hempty : ((missedResolution (.error (.network "timed out"))).toOption.map fun resolved =>
      (resolved.context.countyFips, resolved.context.geocoder)) = some ("", "arcgis") := by
    decide +kernel
  have hnull : raised (missedResolution (.ok (countyReply .null))) =
      some (.other "'NoneType' object is not subscriptable") := by
    decide +kernel
  refine ⟨hempty, hnull, fun hall => ?_⟩
  have hkept : Kept (fun _ => False) (missedResolution (.error (.network "timed out"))) :=
    hall _ _ _ _ _ _ sample_writes
  generalize missedResolution (.error (.network "timed out")) = outcome at hempty hkept
  cases outcome with
  | error e => cases hempty
  | ok resolved =>
    obtain ⟨hfips, -⟩ := Prod.mk.inj (Option.some.inj hempty)
    cases hkept with
    | resolved h => exact h.county hfips

end Concrete

end Replies
end ResearchEngine
