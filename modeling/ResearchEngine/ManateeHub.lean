import ResearchEngine.PortalFetch
import ResearchEngine.NumberedLinks
import ResearchEngine.FirstOccurrences
import ResearchEngine.ResultRelation
import Mathlib.Data.List.ReduceOption
import Mathlib.Data.List.Sort

/-! The lookups of `_fetch_manatee`: the links of a search's page, the pages of an instrument and
their images. -/
namespace ResearchEngine
namespace Clerk

open PyText
open Regex (numbered findAll StandsFirst Stands)

/-- A reply of the hub. -/
structure HubReply where
  text : String
  /-- The `content-type` header, empty when there is none. -/
  contentType : String
  content : Blob
  deriving DecidableEq, Repr

/-- The part of a call that a request is sent in. -/
inductive Phase
  | deed | plat
  deriving DecidableEq, Repr

/-- The hub during one call, and the libraries that the code uses on its replies. -/
structure Hub (Image : Type) where
  starts : Except Raised Unit
  get : Phase → String → Except Raised HubReply
  /-- `int`, which refuses a number of too many digits. -/
  int : String → Except Raised ℕ
  /-- `Image.open(io.BytesIO(body)).convert("RGB")` -/
  openImage : Blob → Except Raised Image
  /-- `imgs[0].save(out_path, "PDF", save_all=True, append_images=imgs[1:])` -/
  save : List Image → Except Raised Blob

def hubBase : String := "https://records.manateeclerk.com"

def numberUrl (num : String) : String :=
  hubBase ++ "/OfficialRecords/Search/InstrumentNumber?instrumentNumber=" ++ num ++
    "&page=1&pageSize=50"

def bookPageUrl (book page : String) : String :=
  hubBase ++ "/OfficialRecords/Search/InstrumentBookPage/" ++ book ++ "/" ++ page ++ "/1/50"

def displayUrl (iid : String) : String := hubBase ++ "/OfficialRecords/DisplayInstrument/" ++ iid

def imageUrl (iid : String) (n : ℕ) : String :=
  hubBase ++ "/OfficialRecords/DisplayInstrument/InstrumentResultJpgAsync?instrumentId=" ++ iid ++
    "&page=" ++ toString n

def instrumentLink : List Char := "/OfficialRecords/DisplayInstrument/".toList

/-- What stands before the `&` in the link of a page. -/
def imageLink (iid : String) : List Char :=
  "InstrumentResultJpgAsync?instrumentId=".toList ++ iid.toList ++ ['&']

/-- The pattern before the number of a page. -/
def imagePattern (iid : String) : Regex :=
  .seq (.word (imageLink iid)) (.seq (.opt (.word "amp;".toList)) (.word "page=".toList))

namespace Hub

variable {Image : Type} [PyText] (hub : Hub Image) (phase : Phase)

/-- `re.findall` with one group. -/
def found (before : Regex) (text : String) : List String :=
  ((findAll (numbered before isDecimal) text.toList).filterMap (·.group 1)).map String.ofList

/-- `_id_by_instrument` -/
def idByInstrument (num : String) : Except Raised (Option String) := do
  let h ← hub.get phase (numberUrl num)
  pure (found (.word instrumentLink) h.text).head?

/-- `_id_by_book_page` -/
def idByBookPage (book page : String) : Except Raised (Option String) := do
  let h ← hub.get phase (bookPageUrl book page)
  match FirstOccurrences.firsts (found (.word instrumentLink) h.text) with
  | [iid] => pure (some iid)
  | _ => pure none

/-- `sorted(set(int(x) for x in ...))` -/
def pageNumbers (texts : List String) : Except Raised (List ℕ) := do
  let numbers ← texts.mapM hub.int
  pure (numbers.dedup.insertionSort (· ≤ ·))

/-- The reply is a JPEG image. -/
def isJpeg (r : HubReply) : Bool :=
  "image".toList <+: (lower r.contentType).toList ∧ r.content.take 2 = [0xff, 0xd8]

/-- The image of a page, if the hub sends one. -/
def pageImage (iid : String) (n : ℕ) : Except Raised (Option Image) := do
  let r ← hub.get phase (imageUrl iid n)
  if isJpeg r then some <$> hub.openImage r.content else pure none

/-- The PDF of the images, if there are any. -/
def printed (imgs : List Image) : Lookup :=
  match imgs with
  | [] => pure none
  | img :: imgs => some <$> hub.save (img :: imgs)

/-- `_pages_to_pdf` -/
def pagesToPdf (iid : String) : Lookup := do
  let display ← hub.get phase (displayUrl iid)
  let nums ← hub.pageNumbers (found (imagePattern iid) display.text)
  let imgs ← nums.mapM (hub.pageImage phase iid)
  hub.printed imgs.reduceOption

/-- The lookups of a call. -/
def answers (plat deed : Attrs) : ManateeAnswers where
  starts := hub.starts
  byNumber := hub.idByInstrument .deed (docNumber deed)
  byBookPage := hub.idByBookPage .deed (deedBook deed) (deedPage deed)
  deedPages := hub.pagesToPdf .deed
  platByBookPage := hub.idByBookPage .plat (plat.get "book").text (plat.get "page").text
  platPages := hub.pagesToPdf .plat

end Hub

/-! What the files are meant to be. -/

section Meaning

variable {Image : Type} [PyText] (hub : Hub Image) (phase : Phase)

/-- An instrument number is the first that its search shows; a book and page is the only
instrument that its search shows. -/
def Hub.Resolves : Reference → String → Prop
  | .instrument num, iid => ∃ reply, hub.get phase (numberUrl num) = .ok reply ∧
      StandsFirst [instrumentLink] isDecimal reply.text.toList iid.toList
  | .bookPage book page, iid => ∃ reply, hub.get phase (bookPageUrl book page) = .ok reply ∧
      ∀ other, Stands [instrumentLink] isDecimal reply.text.toList other ↔ other = iid.toList

/-- The links of an instrument's pages. -/
def pageLinks (iid : String) : List (List Char) :=
  ["amp;page=", "page="].map fun s => imageLink iid ++ s.toList

/-- The images of some pages: those that the hub sends as JPEG, page by page. -/
inductive Hub.Images (iid : String) : List ℕ → List Image → Prop
  | done : Images iid [] []
  | sent {n : ℕ} {ns : List ℕ} {image : Image} {images : List Image} {reply : HubReply}
      (hreply : hub.get phase (imageUrl iid n) = .ok reply) (hjpeg : Hub.isJpeg reply = true)
      (himage : hub.openImage reply.content = .ok image) (hrest : Images iid ns images) :
      Images iid (n :: ns) (image :: images)
  | missing {n : ℕ} {ns : List ℕ} {images : List Image} {reply : HubReply}
      (hreply : hub.get phase (imageUrl iid n) = .ok reply) (hjpeg : Hub.isJpeg reply = false)
      (hrest : Images iid ns images) : Images iid (n :: ns) images

/-- The pages that an instrument's page links to, in their order and each once. -/
structure Hub.Lists (iid : String) (numbers : List ℕ) : Prop where
  display : ∃ reply, hub.get phase (displayUrl iid) = .ok reply ∧
    (∀ digits, Stands (pageLinks iid) isDecimal reply.text.toList digits →
      ∃ n ∈ numbers, hub.int (String.ofList digits) = .ok n) ∧
    ∀ n ∈ numbers, ∃ digits, Stands (pageLinks iid) isDecimal reply.text.toList digits ∧
      hub.int (String.ofList digits) = .ok n
  increasing : numbers.Pairwise (· < ·)

/-- A PDF has exactly the images of an instrument's pages. -/
def Hub.Prints (iid : String) (pdf : Blob) : Prop :=
  ∃ numbers images, hub.Lists phase iid numbers ∧ hub.Images phase iid numbers images ∧
    images ≠ [] ∧ hub.save images = .ok pdf

/-- The files that a call is meant to write. -/
inductive Hub.Files (plat deed : Attrs) : String × Saved → Prop
  | byNumber {iid : String} {pdf : Blob} (hnum : docNumber deed ≠ "")
      (hfound : hub.Resolves .deed (.instrument (docNumber deed)) iid)
      (hpdf : hub.Prints .deed iid pdf) :
      Files plat deed (manateeName deed, ⟨.instrument (docNumber deed), pdf⟩)
  | byBookPage {iid : String} {pdf : Blob}
      (hnum : docNumber deed ≠ "" →
        ∀ other, ¬ hub.Resolves .deed (.instrument (docNumber deed)) other)
      (hbook : deedBook deed ≠ "") (hpage : deedPage deed ≠ "")
      (hfound : hub.Resolves .deed (.bookPage (deedBook deed) (deedPage deed)) iid)
      (hpdf : hub.Prints .deed iid pdf) :
      Files plat deed (manateeName deed, ⟨.bookPage (deedBook deed) (deedPage deed), pdf⟩)
  | plat {iid : String} {pdf : Blob} (hbook : (plat.get "book").truthy = true)
      (hpage : (plat.get "page").truthy = true)
      (hfound : hub.Resolves .plat (.bookPage (plat.get "book").text (plat.get "page").text) iid)
      (hpdf : hub.Prints .plat iid pdf) :
      Files plat deed (platName (plat.get "book").text (plat.get "page").text,
        ⟨.bookPage (plat.get "book").text (plat.get "page").text, pdf⟩)

end Meaning

end Clerk
end ResearchEngine
