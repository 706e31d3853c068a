import ResearchEngine.KeyedTable
import ResearchEngine.PyText
import ResearchEngine.Vocabulary
import Mathlib.Logic.Function.Basic

/-! The evidence store (`files`, `order_files` and the blob store) and
`_upload_artifact`, which copies one staged file of a step into it. -/
namespace ResearchEngine

abbrev Blob := List UInt8

/-- One row of `files`. -/
structure FileRow where
  filename : String
  contentKey : Option String
  mimeType : Option String
  size : Option ℕ
  sha256 : Option String
  deriving DecidableEq, Repr

/-- One row of `order_files`. -/
structure OrderFileRow where
  orderId : Uuid
  fileId : Uuid
  deriving DecidableEq, Repr

structure Evidence where
  blobs : String → Option Blob
  files : Table Uuid FileRow
  orderFiles : Table Uuid OrderFileRow

instance : Inhabited Evidence := ⟨⟨fun _ => none, Table.empty, Table.empty⟩⟩

namespace EvidenceUpload

/-- How one `copy_in` ended: an exception may leave the first `left` bytes of the
source at the key. -/
inductive CopyOutcome
  | done
  | raised (message : String) (left : Option ℕ)

/-- What the storage backend and the database do during one upload. -/
structure Backend where
  /-- `exists` swallows its exceptions and then answers `False`. -/
  probeOk : Bool
  copy : CopyOutcome
  /-- The generated `(File.id, OrderFile.id)`, or why no rows were created. -/
  evidence : Except String (Uuid × Uuid)

/-- The arguments `_upload_artifact` gets about one document. -/
structure Upload where
  downloaded : List String
  /-- The staged files that are on disk. -/
  disk : String → Option Blob
  orderId : Uuid
  docType : String
  tenantId : Option Uuid
  backend : Backend

section Keys

variable [PyText]

/-- `build_key`. -/
def buildKey (orgId orderId documentId filename : String) : Except String String :=
  if documentId = "" ∨ documentId = "None" then
    .error ("build_key needs a real document id (got '" ++ documentId ++ "')")
  else
    let path := String.ofList (filename.toList.map fun c => if c = '\\' then '/' else c)
    let ext := (PyText.pathSuffix path).toList.take 12
    let safeExt := ext.filter fun c => PyText.isAlnum c ∨ c = '.'
    .ok (orgId ++ "/" ++ orderId ++ "/" ++ documentId ++ String.ofList safeExt)

/-- `_guess_mime`. -/
def guessMime (filename : String) : String :=
  let ext := PyText.lower (PyText.pathSuffix filename)
  if ext = ".pdf" then "application/pdf"
  else if ext = ".png" then "image/png"
  else if ext = ".jpg" ∨ ext = ".jpeg" then "image/jpeg"
  else if ext = ".txt" then "text/plain"
  else "application/octet-stream"

/-- The staged file that is uploaded: the first one on disk. -/
def Upload.source (u : Upload) : Option (String × Blob) :=
  u.downloaded.findSome? fun filename => (u.disk filename).map (filename, ·)

/-- The storage key for one staged file of the upload. -/
def Upload.keyFor (u : Upload) (filename : String) : Except String String :=
  buildKey (match u.tenantId with | some t => toString t | none => "research")
    (toString u.orderId) u.docType filename

end Keys

/-- `create_evidence`: both rows or none. -/
def createEvidence (orderId : Uuid) (file : FileRow) (ids : Except String (Uuid × Uuid))
    (ev : Evidence) : Except String (Uuid × Uuid × Evidence) :=
  match ids with
  | .error message => .error message
  | .ok (fileId, orderFileId) =>
    match ev.files.insert? fileId file,
        ev.orderFiles.insert? orderFileId { orderId := orderId, fileId := fileId } with
    | some files, some orderFiles =>
      .ok (fileId, orderFileId, { ev with files := files, orderFiles := orderFiles })
    | _, _ => .error "UNIQUE constraint failed"

def putBlob (ev : Evidence) (key : String) (bytes : Blob) : Evidence :=
  { ev with blobs := Function.update ev.blobs key (some bytes) }

/-- `copy_in`: the message of the exception, if any, and the store it leaves. -/
def copyIn (ev : Evidence) (key : String) (bytes : Blob) : CopyOutcome → Option String × Evidence
  | .done => (none, putBlob ev key bytes)
  | .raised message none => (some message, ev)
  | .raised message (some n) => (some message, putBlob ev key (bytes.take n))

/-- `storage.exists(key)`. -/
def blobExists (b : Backend) (ev : Evidence) (key : String) : Bool :=
  b.probeOk && (ev.blobs key).isSome

/-- What the exception handler writes on the document. -/
def uploadFailed (message : String) (doc : FetchedDocument) : FetchedDocument :=
  { doc with
    status := .failed
    errorCode := some .s3UploadFailed
    errorMessage := some message }

section Upload

variable [PyText] (sha256 : Blob → String)

/-- The `File` row made from the staged file. -/
def fileRow (key filename : String) (bytes : Blob) : FileRow :=
  { filename := filename
    contentKey := some key
    mimeType := some (guessMime filename)
    size := some bytes.length
    sha256 := some (sha256 bytes) }

/-- The evidence rows and the document fields, once the blob is in place. -/
def recordEvidence (u : Upload) (key filename : String) (bytes : Blob) (doc : FetchedDocument)
    (ev : Evidence) : FetchedDocument × Evidence :=
  match createEvidence u.orderId (fileRow sha256 key filename bytes) u.backend.evidence ev with
  | .error message => (uploadFailed message doc, ev)
  | .ok (fileId, orderFileId, ev) =>
    ({ doc with
        fileKey := some key
        fileName := some filename
        fileSize := some bytes.length
        sha256 := sha256 bytes
        fileId := some fileId
        orderFileId := some orderFileId
        status := .uploaded }, ev)

/-- The body of the loop for the file that is on disk. -/
def uploadFile (u : Upload) (key filename : String) (bytes : Blob) (doc : FetchedDocument)
    (ev : Evidence) : FetchedDocument × Evidence :=
  -- BR3: a key that is taken keeps its blob, but rows are made all the same
  if blobExists u.backend ev key then recordEvidence sha256 u key filename bytes doc ev
  else
    match copyIn ev key bytes u.backend.copy with
    | (some message, ev) => (uploadFailed message doc, ev)
    | (none, ev) => recordEvidence sha256 u key filename bytes doc ev

/-- `_upload_artifact`. -/
def uploadArtifact (u : Upload) (doc : FetchedDocument) (ev : Evidence) :
    FetchedDocument × Evidence :=
  match u.source with
  | none => (doc, ev)
  | some (filename, bytes) =>
    match u.keyFor filename with
    | .error message => (uploadFailed message doc, ev)
    | .ok key => uploadFile sha256 u key filename bytes doc ev

end Upload

end EvidenceUpload
end ResearchEngine
