import ResearchEngine.Regex
import ResearchEngine.ServiceValues
import Mathlib.Data.List.MinMax
import Mathlib.Data.String.Basic

/-! Picking a deed and a plat page from the rows of a clerk's search, by the subdivision in their
legals. -/
namespace ResearchEngine
namespace Clerk

open PyText

/-- `_DEED_TYPES` -/
def deedTypes : List String :=
  ["DEED", "D", "WD", "WARRANTY DEED", "QCD", "QUIT CLAIM DEED", "SPECIAL WARRANTY DEED", "SWD", "TD",
    "PR DEED", "GD"]

/-- `_LEGAL_STOP` -/
def legalStop : List String :=
  ["HTS", "HEIGHTS", "UNIT", "NO", "PB", "PG", "BLK", "BLOCK", "LOT", "LT", "LTS", "PLAT", "SUB",
    "SUBD", "SUBDIV", "SUBDIVISION", "OF", "THE", "ADD", "ADDITION", "PH", "PHASE", "SEC", "REP",
    "REPLAT"]

section Picks

variable [PyText]

/-- `re.sub(r"[^A-Z0-9 ]", " ", text.upper())` -/
def cleaned (text : String) : String :=
  String.ofList ((upper text).toList.map fun c => if c.isUpper ∨ c.isDigit ∨ c = ' ' then c else ' ')

def legalTokens (text : String) : List String := words (cleaned text)

/-- The words and numbers of a subdivision, without the noise of legals. -/
def nameWords (subdivision : String) : List String :=
  (legalTokens subdivision).filter fun t => t ∉ legalStop ∧ !(t ≠ "" ∧ t.toList.all isDigit)

/-- `_subdiv_name` -/
def subdivName (subdivision : String) : List String := (nameWords subdivision).take 2

/-- `UNIT\s*(?:NO\.?\s*)?(\d+)` -/
def unitPattern : Regex :=
  .all [.all ("UNIT".toList.map fun l => .one (· = l)), .star isSpace,
    .opt (.all [.one (· = 'N'), .one (· = 'O'), .opt (.one (· = '.')), .star isSpace]),
    .group 1 (.plus isDecimal)]

/-- The unit of a subdivision. -/
def unitNumber (subdivision : String) : Option String :=
  ((unitPattern.search (upper subdivision).toList).bind fun m => m.group 1).map String.ofList

/-- `str(r.get(key, ""))` -/
def rowText (r : Attrs) (key : String) : String := if r.hasKey key then (r.get key).text else ""

/-- `matches` of `_pick_deed`, and the test of `_pick_plat_page`. -/
def matchesLegal (subdivision : String) (r : Attrs) : Bool :=
  (subdivName subdivision).all (· ∈ legalTokens (rowText r "legal_1")) ∧
    (unitNumber subdivision).all (· ∈ legalTokens (rowText r "legal_1"))

def isDeed (r : Attrs) : Bool := upper (rowText r "doc_type") ∈ deedTypes

def isGrantee (r : Attrs) : Bool := upper (rowText r "party_code") = "R"

/-- `str(r.get("rec_date") or "")` -/
def recDate (r : Attrs) : String :=
  if (r.get "rec_date").truthy then (r.get "rec_date").text else ""

/-- `recent`: the first of the rows with the greatest date. -/
def recent (rs : List Attrs) : Option Attrs := rs.argmax recDate

/-- `_pick_deed` -/
def pickDeed (rows : List Attrs) (subdivision : String) : Option Attrs :=
  let deeds := rows.filter isDeed
  if deeds = [] ∨ subdivName subdivision = [] then none
  else
    let cand := deeds.filter (matchesLegal subdivision)
    if cand = [] then none
    else
      let grantee := cand.filter isGrantee
      if grantee ≠ [] then recent grantee else recent cand

/-- The row whose page `_pick_plat_page` returns. -/
def platRow (rows : List Attrs) (subdivision : String) : Option Attrs :=
  if subdivName subdivision = [] then none else rows.find? (matchesLegal subdivision)

/-- `_pick_plat_page` -/
def pickPlatPage (rows : List Attrs) (subdivision : String) : Option String :=
  (platRow rows subdivision).map fun r => (r.get "page").text

end Picks

end Clerk
end ResearchEngine
