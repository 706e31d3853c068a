import ResearchEngine.DeedPicks
import ResearchEngine.EvidenceUpload

/-! `clerk_scraper.fetch_documents`: the drivers of the clerks' portals, lookup by lookup, and the
retry after a crash of the browser. -/
namespace ResearchEngine
namespace Clerk

open PyText

/-- A family of portals. -/
inductive Portal
  | manatee | tyler | volusia | newVision
  deriving DecidableEq, Repr

/-- The portal of a county, from `MANATEE_PORTALS`, `TYLER_PORTALS`, `VOLUSIA_PORTALS` and
`NEWVISION_PORTALS`. -/
def portalOf (countyFips : String) : Option Portal :=
  if countyFips = "12081" then some .manatee
  else if countyFips = "12091" then some .tyler
  else if countyFips = "12127" then some .volusia
  else if countyFips ∈ ["12105", "12083"] then some .newVision
  else none

/-- What a recorded document is looked up by. -/
inductive Reference
  | instrument (number : String)
  | bookPage (book page : String)
  deriving DecidableEq, Repr

/-- The name of a deed's file. -/
def deedName (portal : Portal) : Reference → String
  | .instrument number =>
    (if portal = .tyler then "Deed_DOC" else "Deed_INSTR") ++ number ++ ".pdf"
  | .bookPage book page => "Deed_OR" ++ book ++ "_" ++ page ++ ".pdf"

def platName (book page : String) : String := "Plat_PB" ++ book ++ "_PG" ++ page ++ ".pdf"

/-- `deed_ref` of a reference from the tax roll. -/
def rollText (portal : Portal) : Reference → String
  | .instrument number =>
    (if portal = .tyler then "Doc# " else "Instrument ") ++ number ++ " (county tax roll sale)"
  | .bookPage book page => "OR " ++ book ++ "/" ++ page ++ " (county tax roll sale)"

/-- An exception: the name of its class, and its text. -/
structure Raised where
  typeName : String
  text : String
  deriving DecidableEq, Repr

/-- A file of the output folder, with the reference that its bytes were found under. -/
structure Saved where
  ref : Reference
  bytes : Blob
  deriving DecidableEq, Repr

/-- `result` of `fetch_documents`. -/
structure FetchResult where
  plat : Option String := none
  deed : Option String := none
  deedRef : String := ""
  error : String := ""
  deriving DecidableEq, Repr

/-- The result, and the files that were written, the latest first. -/
structure Filing where
  result : FetchResult := {}
  files : List (String × Saved) := []
  deriving DecidableEq, Repr

/-- What the output folder has under a name. -/
def Filing.file (s : Filing) (name : String) : Option Saved :=
  (s.files.find? fun f => f.1 = name).map Prod.snd

/-- A part of a driver. -/
abbrev Step := Filing → Except Raised Unit × Filing

def skip : Step := fun s => (.ok (), s)

/-- A call that has nothing for the result. -/
def call (outcome : Except Raised Unit) : Step := fun s => (outcome, s)

def seq (first rest : Step) : Step := fun s =>
  match first s with
  | (.ok _, s) => rest s
  | (.error e, s) => (.error e, s)

/-- `try: ... finally: browser.close()` -/
def closing (body : Step) (close : Except Raised Unit) : Step := fun s =>
  match close with
  | .ok _ => body s
  | .error e => (.error e, (body s).2)

/-- `result["deed_ref"] = text` -/
def say (text : String) : Step := fun s =>
  (.ok (), { s with result := { s.result with deedRef := text } })

/-- The outcome of a lookup: the document, nothing, or an exception. -/
abbrev Lookup := Except Raised (Option Blob)

/-- The deed that a lookup found is written to its file. -/
def fileDeed (name : String) (ref : Reference) (found : Lookup) : Step := fun s =>
  match found with
  | .error e => (.error e, s)
  | .ok none => (.ok (), s)
  | .ok (some bytes) =>
    (.ok (),
      { result := { s.result with deed := some name }
        files := (name, ⟨ref, bytes⟩) :: s.files })

def filePlat (book page : String) (found : Lookup) : Step := fun s =>
  match found with
  | .error e => (.error e, s)
  | .ok none => (.ok (), s)
  | .ok (some bytes) =>
    (.ok (),
      { result := { s.result with plat := some (platName book page) }
        files := (platName book page, ⟨.bookPage book page, bytes⟩) :: s.files })

/-- `str(arg.get(key) or "")` -/
def argText (arg : Attrs) (key : String) : String :=
  if (arg.get key).truthy then (arg.get key).text else ""

section Arguments

variable [PyText] (deed : Attrs)

/-- `docno`: an instrument number of zeros only is none. -/
def docNumber : String :=
  let docno := strip (argText deed "doc_number")
  if docno.toList.all (· = '0') then "" else docno

def deedBook : String := strip (argText deed "book")

def deedPage : String := strip (argText deed "page")

end Arguments

/-! The drivers that look up an instrument number first. -/

/-- What happens in one attempt on a Tyler or Volusia portal. -/
structure Attempt where
  launch : Except Raised Unit
  opens : Except Raised Unit
  byNumber : Lookup
  byBookPage : Lookup
  plat : Lookup
  close : Except Raised Unit
  deriving Repr

section Numbered

variable (portal : Portal)

def deedByNumber (docno : String) (found : Lookup) : Step :=
  if docno ≠ "" then
    seq (say (rollText portal (.instrument docno)))
      (fileDeed (deedName portal (.instrument docno)) (.instrument docno) found)
  else skip

def deedByBookPage (book page : String) (found : Lookup) : Step := fun s =>
  if s.result.deed = none ∧ book ≠ "" ∧ page ≠ "" then
    seq (say (rollText portal (.bookPage book page)))
      (fileDeed (deedName portal (.bookPage book page)) (.bookPage book page) found) s
  else skip s

/-- The plat, by an exact book and page only. -/
def platByBookPage (plat : Attrs) (found : Lookup) : Step :=
  if (plat.get "book").truthy ∧ (plat.get "page").truthy then
    filePlat (plat.get "book").text (plat.get "page").text found
  else skip

variable [PyText] (plat deed : Attrs) (a : Attempt)

def deedNumbered : Step :=
  seq (deedByNumber portal (docNumber deed) a.byNumber)
    (deedByBookPage portal (deedBook deed) (deedPage deed) a.byBookPage)

/-- `_fetch_tyler` -/
def fetchTyler : Step :=
  seq (call a.launch)
    (closing (seq (deedNumbered .tyler deed a) (platByBookPage plat a.plat)) a.close)

/-- `_fetch_volusia` -/
def fetchVolusia : Step :=
  seq (call a.launch)
    (closing (seq (call a.opens) (seq (deedNumbered .volusia deed a) (platByBookPage plat a.plat)))
      a.close)

end Numbered

/-! Manatee: the lookups find an instrument, whose pages are then fetched. -/

/-- What the Manatee portal answers. -/
structure ManateeAnswers where
  starts : Except Raised Unit
  byNumber : Except Raised (Option String)
  byBookPage : Except Raised (Option String)
  deedPages : String → Lookup
  platByBookPage : Except Raised (Option String)
  platPages : String → Lookup

section Manatee

variable [PyText] (m : ManateeAnswers) (plat deed : Attrs)

/-- The name of the deed's file is chosen by whether there is an instrument number. -/
def manateeName : String :=
  if docNumber deed ≠ "" then deedName .manatee (.instrument (docNumber deed))
  else deedName .manatee (.bookPage (deedBook deed) (deedPage deed))

def manateeByBookPage : Step :=
  if deedBook deed ≠ "" ∧ deedPage deed ≠ "" then
    let ref := .bookPage (deedBook deed) (deedPage deed)
    seq (say (rollText .manatee ref))
      (match m.byBookPage with
      | .error e => call (.error e)
      | .ok none => skip
      | .ok (some iid) => fileDeed (manateeName deed) ref (m.deedPages iid))
  else skip

def manateeDeed : Step :=
  if docNumber deed ≠ "" then
    let ref := .instrument (docNumber deed)
    seq (say (rollText .manatee ref))
      (match m.byNumber with
      | .error e => call (.error e)
      | .ok none => manateeByBookPage m deed
      | .ok (some iid) => fileDeed (manateeName deed) ref (m.deedPages iid))
  else manateeByBookPage m deed

def manateePlat : Step :=
  if (plat.get "book").truthy ∧ (plat.get "page").truthy then
    match m.platByBookPage with
    | .error e => call (.error e)
    | .ok none => skip
    | .ok (some iid) => filePlat (plat.get "book").text (plat.get "page").text (m.platPages iid)
  else skip

/-- `_fetch_manatee` -/
def fetchManatee : Step :=
  seq (call m.starts) (seq (manateeDeed m deed) (manateePlat m plat))

end Manatee

/-! NewVision: the plat first, and a deed by the owner's name when there is no reference. -/

/-- The images of a document: none, or what `_save_pdf` makes of them, if it makes anything. -/
abbrev Pages := Except Raised (Option (Option Blob))

/-- What happens in one attempt on a NewVision portal. -/
structure NewVisionAttempt where
  launch : Except Raised Unit
  platOpens : Except Raised Unit
  /-- The rows of a plat book, and the reload of the landing page. -/
  platRows : Except Raised (List Attrs)
  platPages : Pages
  deedOpens : Except Raised Unit
  /-- The rows of an owner's name. -/
  ownerRows : Except Raised (List Attrs)
  reopens : Except Raised Unit
  deedPages : Pages
  close : Except Raised Unit
  deriving Repr

section NewVision

variable [PyText]

/-- `result["deed"] = _save_pdf(imgs, out_dir / name)`, if there are images. -/
def savePdf (name : String) (ref : Reference) (pages : Pages) : Step := fun s =>
  match pages with
  | .error e => (.error e, s)
  | .ok none => (.ok (), s)
  | .ok (some none) => (.ok (), { s with result := { s.result with deed := none } })
  | .ok (some (some pdf)) => fileDeed name ref (.ok (some pdf)) s

def savePlatPdf (book page : String) (pages : Pages) : Step := fun s =>
  match pages with
  | .error e => (.error e, s)
  | .ok none => (.ok (), s)
  | .ok (some none) => (.ok (), { s with result := { s.result with plat := none } })
  | .ok (some (some pdf)) => filePlat book page (.ok (some pdf)) s

/-- The plat with the page that is known, or with the page that the rows of its book give. -/
def newVisionPlat (plat : Attrs) (a : NewVisionAttempt) : Step :=
  if (plat.get "book").truthy then
    let book := (plat.get "book").text
    seq (call a.platOpens)
      (if (plat.get "page").truthy then savePlatPdf book (plat.get "page").text a.platPages
      else if (plat.get "subdivision").truthy then
        match a.platRows with
        | .error e => call (.error e)
        | .ok rows =>
          match pickPlatPage rows (plat.get "subdivision").text with
          | none => skip
          | some page => if page ≠ "" then savePlatPdf book page a.platPages else skip
      else skip)
  else skip

/-- `f"OR {book}/{page} {date} {kind}".strip()` -/
def foundText (book page date kind : String) : String :=
  strip ("OR " ++ book ++ "/" ++ page ++ " " ++ date ++ " " ++ kind)

/-- `row.get("rec_date", "")[:10]` -/
def dateText (row : Attrs) : Except Raised String :=
  if row.hasKey "rec_date" then
    match row.get "rec_date" with
    | .str date => .ok (String.ofList (date.toList.take 10))
    | _ => .error ⟨"TypeError", "object is not subscriptable"⟩
  else .ok ""

/-- The deed of a row: its reference, and the text for it. -/
def rowDeed (row : Attrs) : Except Raised (Option (Reference × String)) :=
  if (row.get "book").truthy ∧ (row.get "page").truthy then
    match dateText row with
    | .error e => .error e
    | .ok date =>
      let book := (row.get "book").text
      let page := (row.get "page").text
      .ok (some (.bookPage book page, foundText book page date (rowText row "doc_type")))
  else .ok none

/-- The deed of an owner. -/
def ownerDeed (deed : Attrs) (a : NewVisionAttempt) : Except Raised (Option (Reference × String)) :=
  match a.ownerRows with
  | .error e => .error e
  | .ok rows =>
    match pickDeed rows (argText deed "subdivision") with
    | none => .ok none
    | some row => rowDeed row

def newVisionDeed (deed : Attrs) (a : NewVisionAttempt) : Step :=
  if deed = [] then skip
  else
    seq (call a.deedOpens)
      (if deedBook deed ≠ "" ∧ deedPage deed ≠ "" then
        let ref := .bookPage (deedBook deed) (deedPage deed)
        seq (say (rollText .newVision ref)) (savePdf (deedName .newVision ref) ref a.deedPages)
      else if (deed.get "owner").truthy then
        match ownerDeed deed a with
        | .error e => call (.error e)
        | .ok none => call a.reopens
        | .ok (some (ref, text)) =>
          seq (say text)
            (seq (call a.reopens) (savePdf (deedName .newVision ref) ref a.deedPages))
      else skip)

/-- `_fetch_once` -/
def fetchOnce (plat deed : Attrs) (a : NewVisionAttempt) : Step :=
  seq (call a.launch) (closing (seq (newVisionPlat plat a) (newVisionDeed deed a)) a.close)

end NewVision

section Fetch

variable [PyText]

/-- The browser died: `"TargetClosed" in type(e).__name__ or "closed" in str(e).lower()`. -/
def Raised.crashed (e : Raised) : Bool :=
  contains e.typeName "TargetClosed" ∨ contains (lower e.text) "closed"

/-- `f"{type(e).__name__}: {e}"[:200]` -/
def Raised.shown (e : Raised) : String :=
  String.ofList ((e.typeName ++ ": " ++ e.text).toList.take 200)

def Filing.fail (s : Filing) (error : String) : Filing :=
  { s with result := { s.result with error := error } }

/-- The attempts, as long as the browser dies. -/
def tryAttempts {α : Type} (run : α → Step) : List α → String → Filing → Filing
  | [], last, s => s.fail last
  | a :: rest, _, s =>
    match run a s with
    | (.ok _, s) => s
    | (.error e, s) => if e.crashed then tryAttempts run rest e.shown s else s.fail e.shown

/-- What the portals do during one call, in the first attempt and in the second. -/
structure PortalAnswers where
  /-- `available()` -/
  playwright : Bool
  manatee : ManateeAnswers
  first : Attempt
  second : Attempt
  newVisionFirst : NewVisionAttempt
  newVisionSecond : NewVisionAttempt

/-- `fetch_documents`. An argument that is `None` is an empty dictionary. -/
def fetchDocuments (countyFips : String) (plat deed : Attrs) (w : PortalAnswers) : Filing :=
  match portalOf countyFips with
  | some .manatee =>
    match fetchManatee w.manatee plat deed {} with
    | (.ok _, s) => s
    | (.error e, s) => s.fail e.shown
  | some .tyler =>
    if w.playwright then tryAttempts (fetchTyler plat deed) [w.first, w.second] "" {}
    else Filing.fail {} "no adapter / playwright unavailable"
  | some .volusia =>
    if w.playwright then tryAttempts (fetchVolusia plat deed) [w.first, w.second] "" {}
    else Filing.fail {} "no adapter / playwright unavailable"
  | some .newVision =>
    if w.playwright then
      tryAttempts (fetchOnce plat deed) [w.newVisionFirst, w.newVisionSecond] "" {}
    else Filing.fail {} "no adapter / playwright unavailable"
  | none => Filing.fail {} "no adapter / playwright unavailable"

end Fetch

end Clerk
end ResearchEngine
