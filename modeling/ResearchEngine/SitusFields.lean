import ResearchEngine.ServiceValues

/-! The situs address and the land area of a parcel, read off the attribute names
and values that a map layer happens to use. -/
namespace ResearchEngine
namespace Situs

open PyText

section Fields

variable [PyText]

/-- `_norm`. -/
def norm (k : String) : String := without '_' (without '-' (without ' ' (lower k)))

/-- `_isblank`. -/
def isBlank (v : Value) : Bool :=
  v = .null ∨ upper (strip v.text) ∈ ["", "NULL", "NONE", "N/A", "<NULL>"]

/-- `any(f in kl for f in frags)`. -/
def hasAny (frags : List String) (kl : String) : Bool := frags.any (contains kl)

/-- `_has_street`. -/
def hasStreet (v : Value) : Bool :=
  !v.isBlankOrZero && v.text.toList.any isAlpha && v.text.toList.any isDigit

/-- Owner-mailing fields of `_compose_situs`. -/
def isMail (kl : String) : Bool := contains kl "owner" ∨ contains kl "mail"

/-- The first usable field whose normalised name meets `p`, with that name. -/
def findField (attrs : Attrs) (excl taken : List String) (p : String → Bool) :
    Option (String × String) :=
  attrs.findSome? fun f =>
    let kl := norm f.1
    if kl ∉ excl ∧ kl ∉ taken ∧ !isMail kl ∧ p kl ∧ !isBlank f.2
    then some (kl, strip f.2.text) else none

/-- One component of the address: its text (`""` when there is none), and the
field names taken so far. -/
def component (attrs : Attrs) (excl : List String) (p : String → Bool) (taken : List String) :
    String × List String :=
  match findField attrs excl taken p with
  | some (kl, text) => (text, kl :: taken)
  | none => ("", taken)

/-- What the street-name pass accepts. -/
def isStreetName (kl : String) : Bool :=
  (hasAny ["streetname", "strname", "stname", "streetnam", "locate", "location1", "situsstr",
      "road", "addr", "street"] kl ∨ (contains kl "str" ∧ contains kl "name")) ∧
    !hasAny ["type", "dir", "num", "city", "zip"] kl

/-- A house number stored as a float loses its `.0`. -/
def dropPointZero (num : String) : String :=
  if ".0".toList <:+ num.toList then String.ofList (num.toList.take (num.length - 2)) else num

/-- `_compose_situs`. -/
def composeSitus (attrs : Attrs) (exclude : List String) : String :=
  let excl := exclude.map norm
  let (num, taken) := component attrs excl (hasAny ["housenumb", "houseno", "housenum", "stnumber",
    "stnum", "strnum", "addrnum", "addressnu", "situsnum", "addno", "propnum", "propertynum",
    "bldgnum", "locations", "streetnum"]) []
  let num := dropPointZero num
  let (predir, taken) := component attrs excl (hasAny ["predir", "prefixdir", "streetdir", "stdir",
    "direction1", "situsdir"]) taken
  let (name, taken) := component attrs excl isStreetName taken
  let (suftype, taken) := component attrs excl (hasAny ["suffixtype", "streettype", "sttype",
    "posttype", "strtype", "situstype", "rdtype"]) taken
  let (sufdir, _) := component attrs excl (hasAny ["suffixdir", "postdir", "direction2"]) taken
  if num ≠ "" ∧ name ≠ "" then
    " ".intercalate ([num, predir, name, suftype, sufdir].filter nonempty)
  else ""

/-- Fields that are never the situs. -/
def skipped : List String :=
  ["zip", "mail", "billing", "owner", "city", "state", "pstl", "postal", "taxpayer", "type", "desc"]

/-- The situs aliases, in order of priority. -/
def aliases : List String :=
  ["situsaddress", "situsaddr", "siteaddress", "siteaddr", "siteadd", "phyaddr", "physaddr",
    "physicala", "propaddr", "propadd", "propertya", "proploc", "locaddr", "e911", "fulladdr",
    "fuladd", "parceladd", "paradd", "boaaddr", "location", "address", "adress", "situs", "site"]

/-- The first field with a street value whose normalised name meets `p`. -/
def findStreet (attrs : Attrs) (excl : List String) (p : String → Bool) : Option String :=
  attrs.findSome? fun f =>
    let kl := norm f.1
    if kl ∉ excl ∧ p kl ∧ !hasAny skipped kl ∧ hasStreet f.2
    then some (" ".intercalate (words f.2.text)) else none

/-- A field named like a complete street address. -/
def isFullAddress (kl : String) : Bool :=
  contains kl "addr" ∧ hasAny ["full", "complete", "situs"] kl

/-- `situs_of`. -/
def situsOf (exclude : List String) (compose : Bool) (attrs : Attrs) : String :=
  if compose then composeSitus attrs exclude
  else
    let excl := exclude.map norm
    match findStreet attrs excl isFullAddress with
    | some street => street
    | none =>
      match aliases.findSome? fun a => findStreet attrs excl (contains · a) with
      | some street => street
      | none => composeSitus attrs exclude

/-- `_attr` of the parcel module. -/
def attr (attrs : Attrs) (keys : List String) : Value :=
  ((attrs.find? fun f => hasAny keys (norm f.1) ∧ !f.2.isBlankOrZero).map Prod.snd).getD .null

/-- `land_area_of`: square feet and acres. -/
def landAreaOf [PyFloat] (attrs : Attrs) : Except PyErr (Value × Value) := do
  let num := fun v => (PyFloat.ofValue v).getD .null
  let sqft := num (attr attrs ["lndsqfoot", "landsqft", "landsquare", "sqfoot"])
  let acres := num (attr attrs ["gisacres", "acres", "acreage"])
  let acres ← if sqft.truthy ∧ !acres.truthy then PyFloat.acresOf sqft else .ok acres
  let sqft ← if acres.truthy ∧ !sqft.truthy then PyFloat.sqftOf acres else .ok sqft
  return (sqft, acres)

end Fields

end Situs
end ResearchEngine
