import ResearchEngine.EvidenceUpload
import ResearchEngine.MarkupTemplates
import ResearchEngine.ResearchRun

/-! The pages that `downloader.py` renders: the parcel record, the appraiser's card and the flood
report. The head of a page, its style sheet included, is the same for all of them and left out. -/
namespace ResearchEngine

/-- How `f"{int(float(v)):,}"` ends. -/
inductive Truncation
  | grouped (text : String)
  /-- `TypeError` or `ValueError` -/
  | refused
  /-- `OverflowError`: an infinite float, or an integer that no float can hold. -/
  | overflow
  deriving DecidableEq

class PyTruncate where
  truncate : Value → Truncation

/-- Integers below a thousand, an infinity and texts that are no numbers, enough to run the model
on them. -/
@[reducible] def PyTruncate.small : PyTruncate where
  truncate
    | .int n => .grouped (toString n)
    | .float "inf" _ => .overflow
    | _ => .refused

namespace PyTruncate.Small

scoped instance instSmall : PyTruncate := small

end PyTruncate.Small

namespace Reports

open PyText Markup

/-! The helpers. -/

/-- `_e` -/
def e (v : Value) : String := escape (if v = .null then "" else v.text)

/-- One cell of a grid, as it is given to `_row`. -/
structure Cell where
  label : String
  value : Value
  full : Bool := false

/-- `_row` -/
def row (c : Cell) : String :=
  if c.value = .null ∨ c.value = .str "" then ""
  else "<div class='" ++ (if c.full then "full" else "") ++ "'><dt>" ++ e (.str c.label) ++ "</dt>" ++
    "<dd>" ++ e c.value ++ "</dd></div>"

def rows (cells : List Cell) : String := String.join (cells.map row)

/-- The local time. -/
structure Clock where
  year : ℕ
  month : ℕ
  day : ℕ
  hour : ℕ
  minute : ℕ

def twoDigits (n : ℕ) : String := (if n < 10 then "0" else "") ++ toString n

/-- `_stamp` -/
def stamp (now : Clock) : String :=
  toString now.year ++ "-" ++ twoDigits now.month ++ "-" ++ twoDigits now.day ++ " " ++
    twoDigits now.hour ++ ":" ++ twoDigits now.minute

/-- `_shell` -/
def shell (now : Clock) (eyebrow title subtitle source inner : String) : String :=
  "<div class=doc><div class=head>" ++
    "<div><div class=eyebrow>" ++ e (.str eyebrow) ++ "</div><h1>" ++ e (.str title) ++ "</h1>" ++
    "<div class=sub>" ++ subtitle ++ "</div></div>" ++
    "<div class=stamp>Generated " ++ stamp now ++ "<br>" ++ source ++ "</div></div>" ++
    "<div class=body>" ++ inner ++ "</div></div>"

/-- The line under a title. -/
def subtitleOf (address : String) (doc : DocMeta) : String :=
  e (.str address) ++ " &middot; " ++ e (.str doc.county) ++ " County, " ++ e (.str doc.state)

/-- What a report is rendered with: the clock, the file system under the folder, and the bytes of
a file of the documents folder (`none` when it cannot be read). -/
structure Desk where
  now : Clock
  write : String → String → Except PyErr Unit
  readImage : String → Except PyErr (Option Blob)

/-- `_write_html` of a page, if there is one. -/
def writeHtml (desk : Desk) (filename : String) : Option String → Except PyErr (Option String)
  | none => .ok none
  | some body => (desk.write filename body).map fun _ => some filename

/-- The area of the land, if there is one. -/
def landText [PyFloat] (doc : DocMeta) : Except PyErr (Option String) :=
  if doc.landSqft.truthy then
    (PyFloat.grouped doc.landSqft).map fun sqft => some (sqft ++ " sq ft" ++
      if doc.landAcres.truthy then " (" ++ doc.landAcres.text ++ " ac)" else "")
  else .ok none

section Pages

variable [PyText] (desk : Desk) (doc : DocMeta)

/-! `save_parcel_record` -/

def parcelKeys : List (String × List String) :=
  [("Owner", ["own_name", "owner", "ownname", "owner_name"]),
    ("Owner mailing", ["own_addr1", "owner_addr", "mailing"]),
    ("Subdivision / legal", ["s_legal", "legal", "legal_desc", "slegal"]),
    ("Land use", ["dor_uc", "use_code", "landuse", "pa_uc"]),
    ("Year built", ["act_yr_blt", "yr_blt", "year_built"]),
    ("Living area", ["tot_lvg_ar", "living_area", "heated_area"])]

/-- `_attr` -/
def attrOf (attrs : Attrs) (aliases : List String) : Value :=
  (aliases.findSome? fun a =>
    (attrs.find? fun f => lower f.1 = a ∧ !f.2.isAbsent).map Prod.snd).getD (.str "")

def countyText : String := doc.county ++ " County, " ++ doc.state

def parcelCells (attrs : Attrs) (lot : String) : List Cell :=
  [⟨"Parcel ID", .str doc.parcelId, false⟩, ⟨"Situs address", .str doc.situs, false⟩,
    ⟨"Land area", .str lot, false⟩, ⟨"County", .str (countyText doc), false⟩] ++
    parcelKeys.map fun k => ⟨k.1, attrOf attrs k.2, false⟩

/-- The attributes that are printed below the summary. -/
def dumped (attrs : Attrs) : Attrs :=
  attrs.filter fun f => !f.2.isAbsent ∧ !("shape".toList <+: (lower f.1).toList)

def dumpEntry (f : String × Value) : String :=
  "<div><dt>" ++ e (.str f.1) ++ "</dt><dd>" ++ e f.2 ++ "</dd></div>"

def parcelSource (p : ParcelResult) : String :=
  let label := Adapters.textOr p.parcelSourceLabel "county parcel service"
  let src := p.source.getD ""
  if src ≠ "" then "<a href='" ++ e (.str src) ++ "'>" ++ e (.str label) ++ "</a>" else e (.str label)

def parcelBody (p : ParcelResult) (attrs : Attrs) (lot : String) : String :=
  shell desk.now "Survey Research" "Parcel Record" (subtitleOf doc.matchedAddress doc) (parcelSource p)
    ("<div class=sec>Parcel summary</div><dl class=grid>" ++ rows (parcelCells doc attrs lot) ++
      "</dl><div class=sec>All recorded attributes</div><dl class=grid>" ++
      String.join ((dumped attrs).map dumpEntry) ++ "</dl>" ++
      "<div class=note><b>Verify the situs address matches the subject property.</b> " ++
      "Values are the county parcel-service figures at fetch time.</div>")

/-- The page of `save_parcel_record`. -/
def parcelPage [PyFloat] (p : ParcelResult) : Except PyErr (Option String) :=
  match p.parcels with
  | [] => .ok none
  | attrs :: _ => (landText doc).map fun lot => some (parcelBody desk doc p attrs (lot.getD ""))

/-- `save_parcel_record` -/
def saveParcelRecord [PyFloat] (p : ParcelResult) : Except PyErr (Option String) :=
  parcelPage desk doc p >>= writeHtml desk "Parcel_Record.html"

/-! `save_appraiser_record` -/

/-- `_ga` -/
def ga (attrs : Attrs) (needles : List String) : Value :=
  (needles.findSome? fun n =>
    (attrs.find? fun f => contains (Situs.norm f.1) n ∧ !f.2.isBlankOrZero).map Prod.snd).getD .null

/-- `money` -/
def money [PyTruncate] (v : Value) : Except PyErr Value :=
  match PyTruncate.truncate v with
  | .grouped text => .ok (.str ("$" ++ text))
  | .refused => .ok .null
  | .overflow => .error (.other "cannot convert float infinity to integer")

def livingText [PyTruncate] (lvg : Value) : Except PyErr Value :=
  if lvg.truthy then
    match PyTruncate.truncate lvg with
    | .grouped text => .ok (.str (text ++ " sq ft"))
    | .refused => .error (.other "could not convert to float")
    | .overflow => .error (.other "cannot convert float infinity to integer")
  else .ok .null

/-- The values of the card, of the roll's four amounts, the land and the living area. -/
structure CardValues where
  market : Value
  assessed : Value
  taxable : Value
  sale : Value
  land : Option String
  living : Value
  deriving DecidableEq

def marketKeys : List String := ["just", "jv", "market", "mktval", "apprval", "totalappr", "totalvalue"]
def assessedKeys : List String := ["assess", "avsd", "assdtot", "assd"]
def taxableKeys : List String := ["taxable", "tvsd", "txbl"]
def saleKeys : List String := ["saleprc", "saleprice", "saleamt", "lastsale"]
def livingKeys : List String := ["totlvgar", "living", "heated", "finsqft", "bldgarea"]

def cardValues [PyFloat] [PyTruncate] (attrs : Attrs) : Except PyErr CardValues := do
  let market ← money (ga attrs marketKeys)
  let assessed ← money (ga attrs assessedKeys)
  let taxable ← money (ga attrs taxableKeys)
  let sale ← money (ga attrs saleKeys)
  let land ← landText doc
  let living ← livingText (ga attrs livingKeys)
  return { market, assessed, taxable, sale, land, living }

def appraiserCells (attrs : Attrs) (v : CardValues) : List Cell :=
  [⟨"Parcel ID", .str doc.parcelId, false⟩,
    ⟨"Owner", ga attrs ["ownname", "ownername", "ownernm", "primaryowner", "owner1", "owner", "owner"],
      false⟩,
    ⟨"Owner mailing", ga attrs ["mailaddr", "ownaddr", "owneraddr", "mailing", "addmail"], false⟩,
    ⟨"Situs address", if doc.situs ≠ "" then .str doc.situs else
      ga attrs ["situsaddr", "siteaddr", "phyaddr", "parceladdr", "propaddr", "locaddr", "situs"], true⟩,
    ⟨"County", .str (countyText doc), false⟩,
    ⟨"Subdivision / legal", ga attrs ["slegal", "legaldesc", "legal", "subdiv"], true⟩,
    ⟨"Land use",
      ga attrs ["doruc", "usecode", "landuse", "propuse", "classcode", "propertyclass", "luc"], false⟩,
    ⟨"Land area", (v.land.map .str).getD .null, false⟩,
    ⟨"Living area", v.living, false⟩,
    ⟨"Year built", ga attrs ["actyrblt", "yrblt", "yearbuilt", "effyr"], false⟩,
    ⟨"Market value", v.market, false⟩, ⟨"Assessed value", v.assessed, false⟩,
    ⟨"Taxable value", v.taxable, false⟩, ⟨"Last sale price", v.sale, false⟩]

/-- The source of the values; the name of the county is not escaped here. -/
def sourceLabel : String :=
  if doc.state = "FL" then "Florida DOR statewide tax roll (NAL/cadastral)"
  else doc.county ++ " County parcel / assessor data"

def appraiserLink (appraiserUrl : String) : String :=
  if appraiserUrl ≠ "" then
    " &middot; <a href='" ++ e (.str appraiserUrl) ++ "'>open county Property Appraiser</a>"
  else ""

def appraiserBody (attrs : Attrs) (v : CardValues) (appraiserUrl : String) : String :=
  shell desk.now "Survey Research" "Property Appraiser / Tax Record"
    (subtitleOf (orElse doc.situs doc.matchedAddress) doc)
    (sourceLabel doc ++ appraiserLink appraiserUrl)
    ("<div class=sec>Property &amp; tax</div><dl class=grid>" ++ rows (appraiserCells doc attrs v) ++
      "</dl><div class=note>Values (where shown) are the county roll figures. Verify current-year " ++
      "assessment, exemptions, and tax due on the county Property Appraiser / Assessor site.</div>")

/-- The page of `save_appraiser_record`. -/
def appraiserPage [PyFloat] [PyTruncate] (attrs : Attrs) (appraiserUrl : String) :
    Except PyErr (Option String) :=
  if attrs = [] then .ok none
  else (cardValues doc attrs).map fun v => some (appraiserBody desk doc attrs v appraiserUrl)

/-- `save_appraiser_record` -/
def saveAppraiserRecord [PyFloat] [PyTruncate] (attrs : Attrs) (appraiserUrl : String) :
    Except PyErr (Option String) :=
  appraiserPage desk doc attrs appraiserUrl >>= writeHtml desk "Property_Appraiser.html"

/-! `save_flood_report` -/

/-- `(v or "").upper()` -/
def upperText (v : Value) : Except PyErr String :=
  if !v.truthy then .ok ""
  else
    match v with
    | .str s => .ok (upper s)
    | _ => .error (.other "object has no attribute 'upper'")

/-- `_ZONE_DESC` -/
def zoneDesc : List (String × String) :=
  [("A", "1% annual-chance (100-year) floodplain — no base flood elevation determined"),
    ("AE", "1% annual-chance (100-year) floodplain with base flood elevations"),
    ("AH", "Shallow flooding, 1-3 ft ponding (1% annual-chance)"),
    ("AO", "Shallow flooding, 1-3 ft sheet flow (1% annual-chance)"),
    ("AR", "Temporarily increased risk while a flood-control system is restored"),
    ("A99", "Area protected by a flood-control system under construction"),
    ("V", "Coastal high-hazard area with wave action (1% annual-chance)"),
    ("VE", "Coastal high-hazard area with wave action and base flood elevations"),
    ("X", "Outside the mapped floodplain"),
    ("D", "Undetermined — no flood-hazard analysis conducted")]

/-- A phrase of `_flood_risk` in title case, and the class of the banner. -/
inductive Risk
  | high | fiveHundredYear | low | undetermined | seeFirm

/-- `risk.title()` -/
def Risk.title : Risk → String
  | .high => "High Risk — Special Flood Hazard Area"
  | .fiveHundredYear => "Moderate Risk — 0.2% Annual-Chance (500-Year) Floodplain"
  | .low => "Moderate To Low Risk"
  | .undetermined => "Undetermined Risk"
  | .seeFirm => "See Firm"

def Risk.cls : Risk → String
  | .high => "hi"
  | .low => "ok"
  | .fiveHundredYear | .undetermined | .seeFirm => "mid"

/-- `_flood_risk`, from the zone and its subtype in capitals. -/
def floodRisk (inSfha : Bool) (zone subtype : String) : Risk :=
  if inSfha then .high
  else if contains subtype "0.2" ∨ contains subtype "500" then .fiveHundredYear
  else if "X".toList <+: zone.toList then .low
  else if zone = "D" then .undetermined
  else .seeFirm

def panelText (flood : Attrs) : Value :=
  let panel := flood.get "firm_panel"
  if !panel.truthy then .str ""
  else if (flood.get "panel_suffix").truthy then
    .str (panel.text ++ " " ++ (flood.get "panel_suffix").text)
  else panel

def elevationText (bfe : Value) : String :=
  if bfe ∈ [.null, .str "", .str "-9999", .int (-9999), .float "-9999.0" false] then "N/A"
  else bfe.text ++ " ft"

def zoneDescription (zone : String) (subtype : Value) : Value :=
  match zoneDesc.find? fun z => z.1 = zone with
  | some z => .str z.2
  | none => if subtype.truthy then subtype else .str ""

def floodCells (flood : Attrs) (zone : String) (risk : Risk) : List Cell :=
  [⟨"Property address", .str doc.matchedAddress, true⟩,
    ⟨"FEMA data source", .str "NFHL — National Flood Hazard Layer (Digital FIRM)", false⟩,
    ⟨"Flood zone", .str zone, false⟩,
    ⟨"Zone description", zoneDescription zone (flood.get "zone_subtype"), true⟩,
    ⟨"Risk level", .str risk.title, false⟩,
    ⟨"Base flood elevation", .str (elevationText (flood.get "static_bfe")), false⟩,
    ⟨"FIRM panel number", panelText flood, false⟩,
    ⟨"Community panel", flood.get "panel", false⟩,
    ⟨"Map panel effective date", flood.get "effective_date", false⟩,
    ⟨"County", .str (doc.county ++ " County"), false⟩, ⟨"State", .str doc.state, false⟩,
    ⟨"Parcel ID", .str doc.parcelId, false⟩]

def base64Table : List Char :=
  "ABCDEFGHIJKLMNOPQRSTUVWXYZabcdefghijklmnopqrstuvwxyz0123456789+/".toList

def base64Digit (n : ℕ) : Char := base64Table.getD (n % 64) 'A'

/-- `base64.b64encode` -/
def base64 : Blob → List Char
  | [] => []
  | [a] => [base64Digit (a.toNat / 4), base64Digit (a.toNat * 16), '=', '=']
  | [a, b] =>
    [base64Digit (a.toNat / 4), base64Digit (a.toNat * 16 + b.toNat / 16), base64Digit (b.toNat * 4),
      '=']
  | a :: b :: c :: rest =>
    base64Digit (a.toNat / 4) :: base64Digit (a.toNat * 16 + b.toNat / 16) ::
      base64Digit (b.toNat * 4 + c.toNat / 64) :: base64Digit c.toNat :: base64 rest

example : String.ofList (base64 [77, 97, 110, 77]) = "TWFuTQ==" := by decide +kernel

def banner (inSfha : Bool) (risk : Risk) : String :=
  "<div class='banner " ++ risk.cls ++ "'><span class=lbl>Inside SFHA?</span>" ++
    e (.str (if inSfha then "INSIDE SPECIAL FLOOD HAZARD AREA"
      else "OUTSIDE SPECIAL FLOOD HAZARD AREA")) ++ "</div>"

/-- `_img_data_uri` of an image that was read. -/
def dataUri (image : Blob) : String := "data:image/png;base64," ++ String.ofList (base64 image)

def exhibit : Option Blob → String
  | none => ""
  | some image =>
    "<div class=sec>Flood map exhibit</div><div class=exhibit><img src='" ++ dataUri image ++
      "' alt='FEMA flood map'><div class=cap>FEMA NFHL flood zones over topographic basemap; " ++
      "red crosshair marks the parcel.</div></div>"

def floodBody (flood : Attrs) (zone : String) (risk : Risk) (inSfha : Bool) (image : Option Blob) :
    String :=
  let center := flood.get "map_service_center"
  shell desk.now "FEMA · NFHL" "FEMA Flood Report" (subtitleOf doc.matchedAddress doc)
    ("<a href='" ++ e (if flood.hasKey "map_service_center" then center else .str "") ++
      "'>FEMA Map Service Center</a>")
    (banner inSfha risk ++ "<div class=sec>Flood determination</div><dl class=grid>" ++
      rows (floodCells doc flood zone risk) ++ "</dl>" ++ exhibit image ++
      "<div class=note><b>Determination is from the effective FEMA NFHL</b> at the " ++
      "parcel location. Confirm the panel and any LOMA/LOMR on the FEMA Map Service " ++
      "Center before certifying.</div>")

/-- The image of the flood map, when there is a file of it. -/
def mapImage : Option String → Except PyErr (Option Blob)
  | none => .ok none
  | some name => if name = "" then .ok none else desk.readImage name

/-- The page of `save_flood_report`. -/
def floodPage (flood : Attrs) (mapFile : Option String) : Except PyErr (Option String) :=
  if !(flood.get "flood_zone").truthy then .ok none
  else do
    let zone ← upperText (flood.get "flood_zone")
    let subtype ← upperText (flood.get "zone_subtype")
    let inSfha : Bool := flood.get "in_sfha" = .str "T"
    let image ← mapImage desk mapFile
    let risk := floodRisk inSfha (strip zone) subtype
    return some (floodBody desk doc flood (strip zone) risk inSfha image)

/-- `save_flood_report` -/
def saveFloodReport (flood : Attrs) (mapFile : Option String) : Except PyErr (Option String) :=
  floodPage desk doc flood mapFile >>= writeHtml desk "FEMA_Flood_Report.html"

end Pages

end Reports
end ResearchEngine
