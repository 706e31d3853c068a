import ResearchEngine.ServiceValues
import Mathlib.Algebra.Group.Nat.Defs
import Mathlib.Data.Rat.Init

/-! What a service replies, as JSON of any shape, read the way Python reads it: a value of the
wrong kind raises where it is read. -/
namespace ResearchEngine

inductive Json
  | null
  | bool (b : Bool)
  | int (n : ℤ)
  | float (text : String) (value : ℚ)
  /-- `nan`, `inf` or `-inf` -/
  | special (text : String)
  | str (s : String)
  | list (items : List Json)
  | dict (fields : List (String × Json))

namespace Json

/-- `type(j).__name__` -/
def typeName : Json → String
  | null => "NoneType"
  | bool _ => "bool"
  | int _ => "int"
  | float _ _ | special _ => "float"
  | str _ => "str"
  | list _ => "list"
  | dict _ => "dict"

/-- `bool(j)` -/
def truthy : Json → Bool
  | null => false
  | bool b => b
  | int n => n ≠ 0
  | float _ value => value ≠ 0
  | special _ => true
  | str s => s ≠ ""
  | list items => !items.isEmpty
  | dict fields => !fields.isEmpty

/-- Whether a dictionary takes it as a key. -/
def hashable : Json → Bool
  | list _ | dict _ => false
  | _ => true

/-- The text, when it is one. -/
def text? : Json → Option String
  | str s => some s
  | _ => none

/-- A number or a text as the engine handles it; of a list or an object only that it is one. -/
def value : Json → Value
  | null => .null
  | bool b => .bool b
  | int n => .int n
  | float text value => .float text (value = 0)
  | special text => .float text false
  | str s => .str s
  | list items => .nested "" items.isEmpty
  | dict fields => .nested "" fields.isEmpty

def field (fields : List (String × Json)) (key : String) : Option Json :=
  (fields.find? fun f => f.1 = key).map Prod.snd

/-- `j.get(key, default)` -/
def get (j : Json) (key : String) (default : Json) : Except PyErr Json :=
  match j with
  | dict fields => .ok ((field fields key).getD default)
  | j => .error (.other ("'" ++ j.typeName ++ "' object has no attribute 'get'"))

/-- `j[key]` -/
def item (j : Json) (key : String) : Except PyErr Json :=
  match j with
  | dict fields =>
    match field fields key with
    | some v => .ok v
    | none => .error (.other ("'" ++ key ++ "'"))
  | list _ => .error (.other "list indices must be integers or slices, not str")
  | str _ => .error (.other "string indices must be integers, not 'str'")
  | j => .error (.other ("'" ++ j.typeName ++ "' object is not subscriptable"))

/-- `j[0]` -/
def first (j : Json) : Except PyErr Json :=
  match j with
  | list (j :: _) => .ok j
  | list [] => .error (.other "list index out of range")
  | str s =>
    match s.toList with
    | c :: _ => .ok (str c.toString)
    | [] => .error (.other "string index out of range")
  | dict _ => .error (.other "0")
  | j => .error (.other ("'" ++ j.typeName ++ "' object is not subscriptable"))

/-- `j >= n` -/
def atLeast (j : Json) (n : ℤ) : Except PyErr Bool :=
  match j with
  | bool b => .ok (n ≤ if b then 1 else 0)
  | int m => .ok (n ≤ m)
  | float _ value => .ok (n ≤ value)
  | special text => .ok (text = "inf")
  | j => .error (.other ("'>=' not supported between instances of '" ++ j.typeName ++ "' and 'int'"))

end Json

/-- `float(v)` raises an `OverflowError`: the integer is beyond the largest double. -/
def Value.overflows : Value → Bool
  | .int n => 2 ^ 1024 - 2 ^ 970 ≤ n.natAbs
  | _ => false

/-- What the geocoders reply to each request of one run. -/
structure GeocoderReplies where
  census : String → Except PyErr Json
  arcgis : String → Except PyErr Json
  nominatim : String → Except PyErr Json
  countyAt : Value → Value → Except PyErr Json

/-- The dictionary that `geocode` returns, with whatever the replies hold. -/
structure GeoReply where
  matchedAddress : Json
  lat : Value
  lon : Value
  countyName : Json
  countyFips : Json
  stateFips : Json
  provider : String

/-- `BASENAME`, `GEOID` and `STATE` of a county -/
structure CountyReply where
  name : Json := .str ""
  fips : Json := .str ""
  state : Json := .str ""

namespace Replies

section Providers

variable (replies : GeocoderReplies)

/-- A county of the Census geographies; a missing member is empty. -/
def countyOf (county : Json) : Except PyErr CountyReply := do
  let name ← county.get "BASENAME" (.str "")
  let fips ← county.get "GEOID" (.str "")
  let state ← county.get "STATE" (.str "")
  return { name := name, fips := fips, state := state }

/-- `_census_address` -/
def censusAddress (address : String) : Except PyErr (Option GeoReply) := do
  let j ← replies.census address
  let result ← j.get "result" (.dict [])
  let found ← result.get "addressMatches" (.list [])
  if !found.truthy then return none
  let m ← found.first
  let geographies ← m.get "geographies" (.dict [])
  let counties ← geographies.get "Counties" (.list [])
  let county ← if counties.truthy then counties.first else .ok (.dict [])
  let matched ← m.get "matchedAddress" (.str address)
  let lon ← (← m.item "coordinates").item "x"
  let lat ← (← m.item "coordinates").item "y"
  let county ← countyOf county
  return some
    { matchedAddress := matched
      lat := lat.value
      lon := lon.value
      countyName := county.name
      countyFips := county.fips
      stateFips := county.state
      provider := "census" }

/-- The `try` block of `_county_from_coords`. -/
def countyAt (lat lon : Value) : Except PyErr CountyReply := do
  let j ← replies.countyAt lat lon
  let result ← j.get "result" (.dict [])
  let geographies ← result.get "geographies" (.dict [])
  let c ← geographies.get "Counties" (.list [])
  if c.truthy then countyOf (← c.first) else return {}

/-- `_county_from_coords` -/
def countyFromCoords (lat lon : Value) : CountyReply :=
  match countyAt replies lat lon with
  | .ok county => county
  | .error _ => {}

/-- The `try` block of `_arcgis`: latitude, longitude and matched address. -/
def arcgisHit (address : String) : Except PyErr (Option (Value × Value × Json)) := do
  let j ← replies.arcgis address
  let cands ← j.get "candidates" (.list [])
  if !cands.truthy then return none
  let c ← cands.first
  if ← (← c.get "score" (.int 0)).atLeast 80 then
    let lat ← (← c.item "location").item "y"
    let lon ← (← c.item "location").item "x"
    let matched ← c.get "address" (.str address)
    return some (lat.value, lon.value, matched)
  return none

/-- `float(v)` where every exception is caught -/
def floatOf [PyFloat] (v : Value) : Except PyErr Value :=
  if v.overflows then .error (.other "int too large to convert to float")
  else match PyFloat.ofValue v with
    | some f => .ok f
    | none => .error (.other "could not convert to float")

/-- The `try` block of `_nominatim`. -/
def nominatimHit [PyFloat] (address : String) : Except PyErr (Option (Value × Value × Json)) := do
  let j ← replies.nominatim address
  if !j.truthy then return none
  let place ← j.first
  let lat ← floatOf (← place.item "lat").value
  let lon ← floatOf (← place.item "lon").value
  let matched ← place.get "display_name" (.str address)
  return some (lat, lon, matched)

/-- `except Exception: pass` and then `return None` -/
def orNone {α : Type} : Except PyErr (Option α) → Option α
  | .ok hit => hit
  | .error _ => none

/-- The result of a fallback geocoder, with the county of its coordinates. -/
def fallbackGeo (provider : String) (hit : Value × Value × Json) : GeoReply :=
  let county := countyFromCoords replies hit.1 hit.2.1
  { matchedAddress := hit.2.2
    lat := hit.1
    lon := hit.2.1
    countyName := county.name
    countyFips := county.fips
    stateFips := county.state
    provider := provider }

/-- `geocode` -/
def geocode [PyFloat] (address : String) : Except PyErr GeoReply := do
  match ← censusAddress replies address with
  | some hit => return hit
  | none =>
    match orNone (arcgisHit replies address) with
    | some hit => return fallbackGeo replies "arcgis" hit
    | none =>
      match orNone (nominatimHit replies address) with
      | some hit => return fallbackGeo replies "nominatim" hit
      | none => throw (.other ("No geocoder match for: " ++ address))

end Providers

end Replies
end ResearchEngine
