import ResearchEngine.ServiceValues
import Mathlib.Data.Rat.Init

/-! Address geocoding: the Census geocoder, and the two fallbacks whose county is
looked up from the coordinates. -/
namespace ResearchEngine

/-- One county of a Census answer; absent members are empty. -/
structure CountyGeo where
  baseName : String := ""
  geoId : String := ""
  state : String := ""
  deriving DecidableEq, Repr

structure CensusMatch where
  matchedAddress : Option String
  /-- `coordinates`: `x` and `y` -/
  coordinates : Option (Value × Value)
  counties : List CountyGeo

structure ArcgisCandidate where
  score : ℚ := 0
  /-- `location`: `y` and `x` -/
  location : Option (Value × Value)
  address : Option String

structure NominatimPlace where
  lat : Value
  lon : Value
  displayName : Option String

/-- What the geocoders answer to each request of one run. -/
structure GeocoderAnswers where
  census : String → Except PyErr (List CensusMatch)
  arcgis : String → Except PyErr (List ArcgisCandidate)
  nominatim : String → Except PyErr (List NominatimPlace)
  countyAt : Value → Value → Except PyErr (List CountyGeo)

/-- The dictionary that `geocode` returns. -/
structure Geo where
  matchedAddress : String
  lat : Value
  lon : Value
  countyName : String
  countyFips : String
  stateFips : String
  provider : String
  deriving DecidableEq, Repr

namespace Geocode

/-- `STATE_FIPS` -/
def stateFipsTable : List (String × String) :=
  [("01", "AL"), ("02", "AK"), ("04", "AZ"), ("05", "AR"), ("06", "CA"), ("08", "CO"), ("09", "CT"),
    ("10", "DE"), ("11", "DC"), ("12", "FL"), ("13", "GA"), ("15", "HI"), ("16", "ID"), ("17", "IL"),
    ("18", "IN"), ("19", "IA"), ("20", "KS"), ("21", "KY"), ("22", "LA"), ("23", "ME"), ("24", "MD"),
    ("25", "MA"), ("26", "MI"), ("27", "MN"), ("28", "MS"), ("29", "MO"), ("30", "MT"), ("31", "NE"),
    ("32", "NV"), ("33", "NH"), ("34", "NJ"), ("35", "NM"), ("36", "NY"), ("37", "NC"), ("38", "ND"),
    ("39", "OH"), ("40", "OK"), ("41", "OR"), ("42", "PA"), ("44", "RI"), ("45", "SC"), ("46", "SD"),
    ("47", "TN"), ("48", "TX"), ("49", "UT"), ("50", "VT"), ("51", "VA"), ("53", "WA"), ("54", "WV"),
    ("55", "WI"), ("56", "WY")]

/-- `STATE_FIPS.get(fips, "")` -/
def stateOfFips (fips : String) : String :=
  ((stateFipsTable.find? fun p => p.1 = fips).map Prod.snd).getD ""

section Providers

variable (answers : GeocoderAnswers)

/-- `_census_address` -/
def censusAddress (address : String) : Except PyErr (Option Geo) := do
  match ← answers.census address with
  | [] => return none
  | m :: _ =>
    match m.coordinates with
    | none => throw (.other "'coordinates'")
    | some (x, y) =>
      let county := m.counties.headD {}
      return some
        { matchedAddress := m.matchedAddress.getD address
          lat := y
          lon := x
          countyName := county.baseName
          countyFips := county.geoId
          stateFips := county.state
          provider := "census" }

/-- `_county_from_coords` -/
def countyFromCoords (lat lon : Value) : CountyGeo :=
  match answers.countyAt lat lon with
  | .ok (c :: _) => c
  | _ => {}

/-- `_arcgis`: latitude, longitude and matched address. -/
def arcgis (address : String) : Option (Value × Value × String) :=
  match answers.arcgis address with
  | .ok (c :: _) =>
    if 80 ≤ c.score then c.location.map fun p => (p.1, p.2, c.address.getD address) else none
  | _ => none

/-- `_nominatim` -/
def nominatim [PyFloat] (address : String) : Option (Value × Value × String) :=
  match answers.nominatim address with
  | .ok (place :: _) => do
    let lat ← PyFloat.ofValue place.lat
    let lon ← PyFloat.ofValue place.lon
    return (lat, lon, place.displayName.getD address)
  | _ => none

/-- The result of a fallback geocoder, with the county of its coordinates. -/
def fallbackGeo (provider : String) (hit : Value × Value × String) : Geo :=
  let county := countyFromCoords answers hit.1 hit.2.1
  { matchedAddress := hit.2.2
    lat := hit.1
    lon := hit.2.1
    countyName := county.baseName
    countyFips := county.geoId
    stateFips := county.state
    provider := provider }

/-- `geocode` -/
def geocode [PyFloat] (address : String) : Except PyErr Geo := do
  match ← censusAddress answers address with
  | some hit => return hit
  | none =>
    match arcgis answers address with
    | some hit => return fallbackGeo answers "arcgis" hit
    | none =>
      match nominatim answers address with
      | some hit => return fallbackGeo answers "nominatim" hit
      | none => throw (.other ("No geocoder match for: " ++ address))

end Providers

end Geocode
end ResearchEngine
