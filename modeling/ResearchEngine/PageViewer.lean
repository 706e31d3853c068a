import ResearchEngine.EvidenceUpload
import ResearchEngine.ServiceValues
import Mathlib.Data.Finset.Card
import Mathlib.Data.List.Sort

/-! A browser session with a clerk's document viewer: the responses that it listens to, and the
loop that turns the pages of the open document. -/
namespace ResearchEngine

/-- What `int(v)` does: it returns a number, raises a `TypeError` or a `ValueError`, or raises
another exception. -/
inductive IntAnswer
  | number (n : ℤ)
  | refused
  | failed
  deriving DecidableEq, Repr

/-- How Python reads JSON values. -/
class PyDecode where
  /-- `int(v)` -/
  toInt : Value → IntAnswer
  /-- `base64.b64decode(s)`; `none` when it raises. -/
  b64decode : String → Option Blob

/-- Whole numbers, and images of zero bytes, enough to run the model on them. -/
@[reducible] def PyDecode.plain : PyDecode where
  toInt
    | .int n => .number n
    | .bool b => .number (if b then 1 else 0)
    | _ => .refused
  b64decode s :=
    if s.toList.all (· = 'A') ∧ s.toList.length % 4 = 0
    then some (List.replicate (s.toList.length / 4 * 3) 0) else none

namespace PyDecode.Plain

scoped instance instPlain : PyDecode := plain

end PyDecode.Plain

namespace Clerk

/-- A response that the page receives: of `api/search`, of `api/document`, or another one. -/
inductive Response
  | search (rows : List Attrs)
  | document (body : Attrs)
  | other
  deriving DecidableEq, Repr

/-- What `_NewVision` keeps of the responses: the images with their page numbers, in the order in
which they came, the rows of the last search, and the page count of the open document. -/
structure Session where
  captured : List (ℤ × Blob) := []
  searchResults : List Attrs := []
  docPages : ℤ := 0
  deriving DecidableEq, Repr

/-- The page numbers of the captured images. -/
def Session.numbers (s : Session) : Finset ℤ := (s.captured.map Prod.fst).toFinset

section Responses

variable [PyDecode]

/-- `body.get("hi_res") or body.get("largeimage") or ""` -/
def imageOf (body : Attrs) : Value :=
  if (body.get "hi_res").truthy then body.get "hi_res"
  else if (body.get "largeimage").truthy then body.get "largeimage"
  else .str ""

/-- `int(body.get("pg_num") or 0)` -/
def numberOf (body : Attrs) : IntAnswer :=
  PyDecode.toInt (if (body.get "pg_num").truthy then body.get "pg_num" else .int 0)

/-- The page count that a document response gives, if it gives one. -/
def countOf (body : Attrs) : Option IntAnswer :=
  if (body.get "doc_pages").truthy then some (PyDecode.toInt (body.get "doc_pages")) else none

/-- The part of `_on_response` on the image. -/
def onImage (s : Session) (body : Attrs) : Session :=
  match imageOf body with
  | .str b64 =>
    if 1000 < b64.toList.length then
      match numberOf body, PyDecode.b64decode b64 with
      | .number n, some data => { s with captured := s.captured ++ [(n, data)] }
      | _, _ => s
    else s
  | _ => s

/-- `_on_response`. An exception ends it, and nothing more of the response is kept. -/
def onResponse (s : Session) : Response → Session
  | .search rows => { s with searchResults := rows }
  | .document body =>
    match countOf body with
    | some (.number n) => onImage { s with docPages := n } body
    | some .failed => s
    | some .refused | none => onImage s body
  | .other => s

end Responses

/-- A call of the driver that the browser answers. -/
inductive Call
  | wait (ms : ℕ)
  | count
  | click
  deriving DecidableEq, Repr

/-- The answer to a call, with the responses that come in until then. -/
structure Answer (σ α : Type) where
  viewer : σ
  heard : List Response
  result : Except PyErr α

/-- The viewer as the driver meets it: `wait_for_timeout`, and `count` and `click` of the control
for the next page. -/
structure Viewer (σ : Type) where
  wait : σ → ℕ → Answer σ Unit
  count : σ → Answer σ ℕ
  click : σ → Answer σ Unit

/-- The state of the viewer and of the session, with all responses and all calls so far. -/
structure Driver (σ : Type) where
  viewer : σ
  session : Session := {}
  heard : List Response := []
  calls : List Call := []

/-- How a turn of the loop over the pages ends. -/
inductive Turn (σ : Type)
  | turned (d : Driver σ)
  /-- A `break`. -/
  | stopped (d : Driver σ)
  | raised (e : PyErr) (d : Driver σ)

section Capture

variable [PyDecode] {σ α : Type}

def Driver.ask (d : Driver σ) (call : Call) (a : Answer σ α) : Except PyErr α × Driver σ :=
  (a.result,
    { viewer := a.viewer
      session := a.heard.foldl onResponse d.session
      heard := d.heard ++ a.heard
      calls := d.calls ++ [call] })

variable (v : Viewer σ)

/-- A loop that pauses as long as what it waits for has not come in. -/
def poll (pause : ℕ) (hpause : 0 < pause) (limit : ℕ) (waits : Session → Bool) (waited : ℕ)
    (d : Driver σ) : Except PyErr Unit × Driver σ :=
  if waits d.session ∧ waited < limit then
    match d.ask (.wait pause) (v.wait d.viewer pause) with
    | (.error e, d) => (.error e, d)
    | (.ok _, d) => poll pause hpause limit waits (waited + pause) d
  else (.ok (), d)
termination_by limit - waited
decreasing_by omega

/-- The wait for the first image. -/
def awaitFirst (waitMs : ℕ) (d : Driver σ) : Except PyErr Unit × Driver σ :=
  poll v 500 (by decide) waitMs (fun s => s.captured = []) 0 d

/-- The wait for another image after a click. -/
def awaitNext (before : ℕ) (d : Driver σ) : Except PyErr Unit × Driver σ :=
  poll v 400 (by decide) 10000 (fun s => s.captured.length = before) 0 d

/-- The body of the loop over the pages. -/
def turnPage (d : Driver σ) : Turn σ :=
  match d.ask .count (v.count d.viewer) with
  | (.error e, d) => .raised e d
  | (.ok 0, d) => .stopped d
  | (.ok _, d) =>
    let before := d.session.captured.length
    match d.ask .click (v.click d.viewer) with
    | (.error _, d) => .stopped d
    | (.ok _, d) =>
      match awaitNext v before d with
      | (.error e, d) => .raised e d
      | (.ok _, d) => if d.session.captured.length = before then .stopped d else .turned d

/-- The condition of the loop over the pages. -/
def GoesOn (target : ℤ) (guard : ℕ) (s : Session) : Prop :=
  s.numbers.card < target ∧ guard < target + 3

instance (target : ℤ) (guard : ℕ) (s : Session) : Decidable (GoesOn target guard s) :=
  inferInstanceAs (Decidable (_ ∧ _))

/-- The loop over the pages. -/
def turnPages (target : ℤ) (guard : ℕ) (d : Driver σ) : Except PyErr Unit × Driver σ :=
  if GoesOn target guard d.session then
    match turnPage v d with
    | .raised e d => (.error e, d)
    | .stopped d => (.ok (), d)
    | .turned d => turnPages target (guard + 1) d
  else (.ok (), d)
termination_by (target + 3 - guard).toNat
decreasing_by
  have hguard : guard < target + 3 := ‹GoesOn target guard _›.2
  omega

/-- `self.doc_pages or 1` -/
def Session.target (s : Session) : ℤ := if s.docPages = 0 then 1 else s.docPages

/-- The first of the images for each page number that was not seen. -/
def keepFirst (seen : List ℤ) : List (ℤ × Blob) → List Blob
  | [] => []
  | (n, data) :: rest =>
    if n ∈ seen then keepFirst seen rest else data :: keepFirst (n :: seen) rest

/-- The images that `capture_pages` returns. -/
def pageImages (captured : List (ℤ × Blob)) : List Blob :=
  keepFirst [] (captured.insertionSort fun a b => a.1 ≤ b.1)

/-- `capture_pages` -/
def capturePages (waitMs : ℕ) (d : Driver σ) : Except PyErr (List Blob) × Driver σ :=
  match awaitFirst v waitMs d with
  | (.error e, d) => (.error e, d)
  | (.ok _, d) =>
    match turnPages v d.session.target 0 d with
    | (.error e, d) => (.error e, d)
    | (.ok _, d) => (.ok (pageImages d.session.captured), d)

end Capture

end Clerk
end ResearchEngine
