import ResearchEngine.AnsweringStores
import ResearchEngine.EvidenceUpload
import Mathlib.Logic.Function.Basic

/-! `storage.py`: the same calls on a directory tree and on an S3 bucket. -/
namespace ResearchEngine
namespace BlobStorage

open Answering

/-- An absolute path: its names, from the top. -/
abbrev Path := List String

/-- The permission bits of a file's owner. -/
structure Mode where
  reads : Bool
  writes : Bool
  deriving DecidableEq

inductive Node
  | dir
  | file (bytes : Blob) (mode : Mode)
  deriving DecidableEq

/-- The files and directories of the local disk. -/
abbrev Volume := Path → Option Node

/-- The local disk: the paths that its system calls take (no NUL in a name, names and paths of a
bounded length), whether permission bits bind the service, which they do unless it runs as root, and the
size that `stat` gives for a directory. -/
structure Disk where
  takes : Path → Bool
  parent : ∀ p name, takes (p ++ [name]) → takes p
  binds : Bool
  dirSize : ℕ

/-- The file that a call copies in from outside the root. -/
structure Source where
  name : String
  mode : Mode

namespace Disk

/-- Whether the service may do what a permission bit is about. -/
def permits (disk : Disk) (bit : Bool) : Bool := bit || !disk.binds

/-- Whether the service may read and write a file of its own. -/
def allows (disk : Disk) (mode : Mode) : Bool := disk.permits mode.reads && disk.permits mode.writes

end Disk

/-! `LocalStorage`. -/

/-- One part of a key, seen from the directory that was reached. -/
def enter (p : Path) (part : String) : Path :=
  if part = "" ∨ part = "." then p
  else if part = ".." then p.dropLast
  else p ++ [part]

/-- `(root / key).resolve()`: a key that starts with a slash leaves the root behind. -/
def resolvePath (root : Path) (key : String) : Path :=
  (PyText.splitOn '/' key).foldl enter (if key.toList.head? = some '/' then [] else root)

/-- `LocalStorage._p`. -/
def pathOf (root : Path) (key : String) : Except String Path :=
  let p := resolvePath root key
  if root <+: p then .ok p else .error "storage key escapes the storage root"

/-- `p.mkdir(parents=True, exist_ok=True)`; `none` when it raises. -/
def makeDirs (disk : Disk) (v : Volume) (p : Path) : Option Volume :=
  if disk.takes p ∧ ∀ q ∈ p.inits, v q = none ∨ v q = some .dir then
    some fun q => if q <+: p then some .dir else v q
  else none

/-- The mode of a file once it is written: a new one is its owner's to read and write, and an old one
keeps its own. -/
def modeAt (v : Volume) (p : Path) : Mode :=
  match v p with
  | some (.file _ mode) => mode
  | _ => ⟨true, true⟩

/-- Opens the path for writing and writes it out; `none` when that raises. -/
def writeFile (disk : Disk) (v : Volume) (p : Path) (bytes : Blob) : Option Volume :=
  if disk.takes p ∧ v p ≠ some .dir ∧ v p.dropLast = some .dir ∧ disk.permits (modeAt v p).writes then
    some (Function.update v p (some (.file bytes (modeAt v p))))
  else none

/-- `p.stat().st_size`. -/
def statSize (disk : Disk) (v : Volume) (p : Path) : Answer Blob :=
  match v p with
  | some (.file bytes _) => .size bytes.length
  | some .dir => .size disk.dirSize
  | none => .raised

/-- `shutil.copy2(src, p)`: into a directory under the source's own name, and with the source's mode. -/
def copyFile (disk : Disk) (v : Volume) (p : Path) (source : Source) (bytes : Blob) :
    Option Volume :=
  let target := if v p = some .dir then p ++ [source.name] else p
  (writeFile disk v target bytes).map fun written =>
    Function.update written target (some (.file bytes source.mode))

namespace LocalStorage

variable (disk : Disk) (root : Path) (v : Volume)

def put (key : String) (bytes : Blob) : Answer Blob × Volume :=
  match pathOf root key with
  | .error _ => (.raised, v)
  | .ok p =>
    match makeDirs disk v p.dropLast with
    | none => (.raised, v)
    | some made =>
      match writeFile disk made p bytes with
      | none => (.raised, made)
      | some written => (.size bytes.length, written)

def get (key : String) : Answer Blob :=
  match pathOf root key with
  | .error _ => .raised
  | .ok p =>
    match v p with
    | some (.file bytes mode) => if disk.permits mode.reads then .value bytes else .raised
    | _ => .raised

/-- Whatever is raised is swallowed. -/
def delete (key : String) : Volume :=
  match pathOf root key with
  | .error _ => v
  | .ok p =>
    match v p with
    | some (.file _ _) => Function.update v p none
    | _ => v

/-- `exists`. -/
def holds (key : String) : Bool :=
  match pathOf root key with
  | .error _ => false
  | .ok p =>
    match v p with
    | some (.file _ _) => true
    | _ => false

/-- `copy_in`; `none` when the source cannot be read. -/
def copyIn (key : String) (source : Source) (bytes : Option Blob) : Answer Blob × Volume :=
  match pathOf root key with
  | .error _ => (.raised, v)
  | .ok p =>
    match makeDirs disk v p.dropLast with
    | none => (.raised, v)
    | some made =>
      match bytes with
      | none => (.raised, made)
      | some bytes =>
        match copyFile disk made p source bytes with
        | none => (.raised, made)
        | some written => (statSize disk written p, written)

def step : Volume → Call String Source Blob → Answer Blob × Volume
  | v, .put key bytes => put disk root v key bytes
  | v, .copyIn key source bytes => copyIn disk root v key source bytes
  | v, .get key => (get disk root v key, v)
  | v, .probe key => (.found (holds root v key), v)
  | v, .delete key => (.done, delete root v key)

end LocalStorage

/-! `S3Storage`, over a bucket that is a consistent map from keys to objects. -/

namespace S3Storage

/-- `S3Storage._k`. -/
def objectKey (folder key : String) : String := if folder = "" then key else folder ++ "/" ++ key

variable (folder : String)

def put (bucket : String → Option Blob) (key : String) (bytes : Blob) :
    Answer Blob × (String → Option Blob) :=
  (.size bytes.length, Function.update bucket (objectKey folder key) (some bytes))

def step : (String → Option Blob) → Call String Source Blob → Answer Blob × (String → Option Blob)
  | bucket, .put key bytes => put folder bucket key bytes
  | bucket, .copyIn _ _ none => (.raised, bucket)
  | bucket, .copyIn key _ (some bytes) => put folder bucket key bytes
  | bucket, .get key =>
    match bucket (objectKey folder key) with
    | some bytes => (.value bytes, bucket)
    | none => (.raised, bucket)
  | bucket, .probe key => (.found (bucket (objectKey folder key)).isSome, bucket)
  | bucket, .delete key => (.done, Function.update bucket (objectKey folder key) none)

end S3Storage
end BlobStorage
end ResearchEngine
