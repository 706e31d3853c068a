import ResearchEngine.BlobStorage
import Mathlib.Data.List.Infix

/-! On the keys that `build_key` makes, the directory tree and the bucket answer as one map. -/
namespace ResearchEngine
namespace BlobStorage

open Answering PyText

/-- A text that is one name of a path, and no reference to another directory. -/
structure Plain (name : String) : Prop where
  nonempty : name ≠ ""
  noDot : name ≠ "."
  noDotDot : name ≠ ".."
  noSlash : '/' ∉ name.toList

/-- A key of three plain names, at a path that the disk takes. -/
structure Placed (disk : Disk) (root : Path) (key : String) : Prop where
  three : (splitOn '/' key).length = 3
  plain : ∀ name ∈ splitOn '/' key, Plain name
  takes : disk.takes (root ++ splitOn '/' key)

/-- A key that `build_key` makes of plain ids, at a path that the disk takes. -/
def Built [PyText] (disk : Disk) (root : Path) (key : String) : Prop :=
  ∃ orgId orderId documentId filename, Plain orgId ∧ Plain orderId ∧ Plain documentId ∧
    EvidenceUpload.buildKey orgId orderId documentId filename = .ok key ∧
    disk.takes (resolvePath root key)

/-! Keys and paths. -/

theorem splitOn_inj {c : Char} {s t : String} (h : splitOn c s = splitOn c t) : s = t := by
  have hlists : s.toList.splitOn c = t.toList.splitOn c :=
    List.map_injective_iff.mpr (fun _ _ => String.ofList_injective) h
  have htexts := congrArg (fun ls => [c].intercalate ls) hlists
  simp only [List.intercalate_splitOn] at htexts
  exact String.toList_injective htexts

theorem foldl_enter {root : Path} {names : List String} (h : ∀ name ∈ names, Plain name) :
    names.foldl enter root = root ++ names := by
  induction names generalizing root with
  | nil => simp
  | cons name names ih =>
    have hname := h name List.mem_cons_self
    have henter : enter root name = root ++ [name] := by
      simp [enter, hname.nonempty, hname.noDot, hname.noDotDot]
    rw [List.foldl_cons, henter, ih fun n hn => h n (List.mem_cons_of_mem name hn)]
    simp

variable {disk : Disk} {root : Path} {key : String}

theorem resolvePath_plain (h : ∀ name ∈ splitOn '/' key, Plain name) :
    resolvePath root key = root ++ splitOn '/' key := by
  have hhead : key.toList.head? ≠ some '/' := by
    intro hhead
    obtain ⟨rest, hkey⟩ := List.head?_eq_some_iff.mp hhead
    have hsplit : splitOn '/' key = "" :: (rest.splitOn '/').map String.ofList := by
      rw [splitOn, hkey]
      exact congrArg (List.map String.ofList)
        (List.splitOn_append_cons_self_of_not_mem List.not_mem_nil rest)
    exact (h "" (hsplit ▸ List.mem_cons_self)).nonempty rfl
  rw [resolvePath, if_neg hhead, foldl_enter h]

theorem Placed.pathOf (h : Placed disk root key) :
    pathOf root key = .ok (root ++ splitOn '/' key) := by
  simp [BlobStorage.pathOf, resolvePath_plain h.plain]

theorem Placed.length (h : Placed disk root key) :
    (root ++ splitOn '/' key).length = root.length + 3 := by
  rw [List.length_append, h.three]

theorem Placed.path_ne_nil (h : Placed disk root key) : root ++ splitOn '/' key ≠ [] := by
  intro hnil
  have hlen := h.length
  rw [hnil] at hlen
  simp at hlen

theorem Placed.takes_parent (h : Placed disk root key) :
    disk.takes (root ++ splitOn '/' key).dropLast := by
  have hsplit := List.dropLast_concat_getLast h.path_ne_nil
  exact disk.parent _ _ (hsplit ▸ h.takes)

/-! What `build_key` writes. -/

theorem not_mem_of_mem_splitOn {c : Char} {cs : List Char} : ∀ l ∈ cs.splitOn c, c ∉ l := by
  induction cs with
  | nil => simp
  | cons d cs ih =>
    intro l hl
    rw [List.splitOn_cons_eq_if_modifyHead] at hl
    split at hl
    · rcases List.mem_cons.mp hl with rfl | hl
      · exact List.not_mem_nil
      · exact ih l hl
    · rename_i hd
      obtain ⟨first, rest, hfirst⟩ := List.exists_cons_of_ne_nil (List.splitOn_ne_nil c cs)
      rw [hfirst, List.modifyHead_cons] at hl
      rw [hfirst] at ih
      rcases List.mem_cons.mp hl with rfl | hl
      · have hc : d ≠ c := by simpa using hd
        simp [hc.symm, ih first List.mem_cons_self]
      · exact ih l (List.mem_cons_of_mem first hl)

theorem pathName_noSlash (path : String) : '/' ∉ (pathName path).toList := by
  unfold pathName
  cases hlast : ((splitOn '/' path).filter fun p => p ≠ "" ∧ p ≠ ".").getLast? with
  | none => exact List.not_mem_nil
  | some name =>
    have hname := (List.mem_filter.mp (List.mem_of_getLast? hlast)).1
    obtain ⟨l, hl, rfl⟩ := List.mem_map.mp hname
    rw [Option.getD_some, String.toList_ofList]
    exact not_mem_of_mem_splitOn l hl

theorem pathSuffix_noSlash {path : String} : '/' ∉ (pathSuffix path).toList := by
  have hname := pathName_noSlash path
  unfold pathSuffix
  simp only
  split
  · exact List.not_mem_nil
  · intro hslash
    rw [String.toList_ofList] at hslash
    have hext := (List.mem_cons.mp hslash).resolve_left (by decide)
    exact hname (List.mem_reverse.mp ((List.takeWhile_subset _) (List.mem_reverse.mp hext)))

/-- An extension makes no other kind of name of a plain one. -/
theorem Plain.append {name : String} {ext : List Char} (h : Plain name) (hext : '/' ∉ ext) :
    Plain (name ++ String.ofList ext) := by
  have hne : name.toList ≠ [] := fun hnil => h.nonempty (String.toList_injective hnil)
  have hdot : name.toList ≠ ['.'] := fun hdot => h.noDot (String.toList_injective hdot)
  have hdots : name.toList ≠ ['.', '.'] := fun hdots => h.noDotDot (String.toList_injective hdots)
  refine ⟨?_, ?_, ?_, ?_⟩
  · intro heq
    have hlists := congrArg String.toList heq
    simp_all
  · intro heq
    have hlists : name.toList ++ ext = ['.'] := by simpa using congrArg String.toList heq
    rcases List.append_eq_singleton_iff.mp hlists with h' | h'
    · exact hne h'.1
    · exact hdot h'.1
  · intro heq
    have hlists : name.toList ++ ext = ['.', '.'] := by simpa using congrArg String.toList heq
    rcases List.append_eq_cons_iff.mp hlists with h' | ⟨rest, hname, hrest⟩
    · exact hne h'.1
    · rcases List.append_eq_singleton_iff.mp hrest.symm with h' | h'
      · exact hdot (hname.trans (by rw [h'.1]))
      · exact hdots (hname.trans (by rw [h'.1]))
  · simp [h.noSlash, hext]

theorem splitOn_three {a b c : String} (ha : Plain a) (hb : Plain b) (hc : Plain c) :
    splitOn '/' (a ++ "/" ++ b ++ "/" ++ c) = [a, b, c] := by
  have htext : (a ++ "/" ++ b ++ "/" ++ c).toList =
      a.toList ++ '/' :: (b.toList ++ '/' :: c.toList) := by
    simp
  rw [splitOn, htext, List.splitOn_append_cons_self_of_not_mem ha.noSlash,
    List.splitOn_append_cons_self_of_not_mem hb.noSlash, List.splitOn_eq_singleton hc.noSlash]
  simp

/-- The key of a document: the two ids, and the document's id with a harmless extension. -/
theorem buildKey_parts [PyText] {orgId orderId documentId filename : String}
    (horg : Plain orgId) (horder : Plain orderId) (hdocument : Plain documentId)
    (h : EvidenceUpload.buildKey orgId orderId documentId filename = .ok key) :
    ∃ name, Plain name ∧ splitOn '/' key = [orgId, orderId, name] := by
  unfold EvidenceUpload.buildKey at h
  split at h
  · cases h
  · simp only [Except.ok.injEq] at h
    set ext := ((pathSuffix (String.ofList (filename.toList.map
      fun c => if c = '\\' then '/' else c))).toList.take 12).filter
        fun c => PyText.isAlnum c ∨ c = '.' with hext
    have hslash : '/' ∉ ext := by
      intro hmem
      have htaken := List.mem_of_mem_filter (hext ▸ hmem)
      exact pathSuffix_noSlash (List.mem_of_mem_take htaken)
    have hname := hdocument.append hslash
    refine ⟨_, hname, ?_⟩
    rw [← splitOn_three horg horder hname, ← h]
    simp only [String.append_assoc]

theorem Built.placed [PyText] (h : Built disk root key) : Placed disk root key := by
  obtain ⟨orgId, orderId, documentId, filename, horg, horder, hdocument, hkey, htakes⟩ := h
  obtain ⟨name, hname, hparts⟩ := buildKey_parts horg horder hdocument hkey
  have hplain : ∀ n ∈ splitOn '/' key, Plain n := by
    simp [hparts, horg, horder, hname]
  exact ⟨by rw [hparts]; rfl, hplain, resolvePath_plain hplain ▸ htakes⟩

/-! The directory tree. -/

/-- What stands on the disk for a value of the map: a file that the service may read and write. -/
inductive Stored (disk : Disk) : Option Node → Option Blob → Prop
  | none : Stored disk none none
  | file {bytes : Blob} {mode : Mode} (allowed : disk.allows mode = true) :
      Stored disk (some (.file bytes mode)) (some bytes)

theorem Stored.ne_dir {node : Option Node} {b : Option Blob} (h : Stored disk node b) :
    node ≠ some .dir := by
  cases h <;> simp

/-- The directory tree holds what the map does, and no file stands where a directory has to. -/
structure Holds (disk : Disk) (root : Path) (v : Volume) (m : String → Option Blob) : Prop where
  above : ∀ q, q <+: root → v q = some .dir
  between : ∀ q, root <+: q → q.length < root.length + 3 → v q = none ∨ v q = some .dir
  reads : ∀ key, Placed disk root key → Stored disk (v (root ++ splitOn '/' key)) (m key)

/-- The root directory is there, and nothing below it. -/
structure Fresh (root : Path) (v : Volume) : Prop where
  above : ∀ q, q <+: root → v q = some .dir
  below : ∀ q, root <+: q → q ≠ root → v q = none

theorem Fresh.holds {v : Volume} (h : Fresh root v) : Holds disk root v fun _ => none where
  above := h.above
  between q hq _ := by
    by_cases hroot : q = root
    · exact .inr (h.above q (hroot ▸ List.prefix_rfl))
    · exact .inl (h.below q hq hroot)
  reads key hkey := by
    have hnone : v (root ++ splitOn '/' key) = none := by
      refine h.below _ (List.prefix_append _ _) fun heq => ?_
      have hlen := hkey.length
      rw [heq] at hlen
      omega
    exact hnone ▸ .none

/-- The tree once the directories down to `p` are made. -/
def withDirs (v : Volume) (p : Path) : Volume := fun q => if q <+: p then some .dir else v q

namespace Holds

variable {v : Volume} {m : String → Option Blob}

/-- A key's path is read and written like the key of a map. -/
theorem write (h : Holds disk root v m) (hkey : Placed disk root key) {node : Option Node}
    {b : Option Blob} (hnode : Stored disk node b) :
    Holds disk root (Function.update v (root ++ splitOn '/' key) node) (Function.update m key b) where
  above q hq := by
    have hne : q ≠ root ++ splitOn '/' key := by
      intro heq
      have hlen := hkey.length
      have hle := hq.length_le
      rw [heq] at hle
      omega
    rw [Function.update_of_ne hne, h.above q hq]
  between q hq hlt := by
    have hne : q ≠ root ++ splitOn '/' key := by
      intro heq
      have hlen := hkey.length
      rw [heq] at hlt
      omega
    rw [Function.update_of_ne hne]
    exact h.between q hq hlt
  reads other hother := by
    by_cases heq : other = key
    · rw [heq, Function.update_self, Function.update_self]
      exact hnode
    · have hne : root ++ splitOn '/' other ≠ root ++ splitOn '/' key :=
        fun hpaths => heq (splitOn_inj (List.append_cancel_left hpaths))
      rw [Function.update_of_ne hne, Function.update_of_ne heq]
      exact h.reads other hother

/-- No key's path is one of the directories. -/
theorem dirs (h : Holds disk root v m) (hkey : Placed disk root key) :
    Holds disk root (withDirs v (root ++ splitOn '/' key).dropLast) m where
  above q hq := by
    unfold withDirs
    split
    · rfl
    · exact h.above q hq
  between q hq hlt := by
    unfold withDirs
    split
    · exact .inr rfl
    · exact h.between q hq hlt
  reads other hother := by
    have hnot : ¬ (root ++ splitOn '/' other) <+: (root ++ splitOn '/' key).dropLast := by
      intro hpre
      have hle := hpre.length_le
      rw [List.length_dropLast, hkey.length, hother.length] at hle
      omega
    unfold withDirs
    rw [if_neg hnot]
    exact h.reads other hother

theorem makeDirs (h : Holds disk root v m) (hkey : Placed disk root key) :
    makeDirs disk v (root ++ splitOn '/' key).dropLast =
      some (withDirs v (root ++ splitOn '/' key).dropLast) := by
  refine if_pos ⟨hkey.takes_parent, fun q hq => ?_⟩
  have hpre := (List.mem_inits q _).mp hq
  have hpath := hpre.trans (List.dropLast_prefix _)
  rcases List.prefix_or_prefix_of_prefix hpath (List.prefix_append root _) with habove | hbelow
  · exact .inr (h.above q habove)
  · have hle := hpre.length_le
    rw [List.length_dropLast, hkey.length] at hle
    exact h.between q hbelow (by omega)

theorem allows (h : Holds disk root v m) (hkey : Placed disk root key) :
    disk.allows (modeAt v (root ++ splitOn '/' key)) = true := by
  have hread := h.reads key hkey
  unfold modeAt
  cases hnode : v (root ++ splitOn '/' key) with
  | none => simp [Disk.allows, Disk.permits]
  | some node =>
    rw [hnode] at hread
    generalize m key = b at hread
    cases hread with
    | file allowed => exact allowed

/-- The file is written where its directory was made. -/
theorem writeFile (h : Holds disk root v m) (hkey : Placed disk root key)
    (hparent : v (root ++ splitOn '/' key).dropLast = some .dir) (bytes : Blob) :
    writeFile disk v (root ++ splitOn '/' key) bytes =
      some (Function.update v (root ++ splitOn '/' key)
        (some (.file bytes (modeAt v (root ++ splitOn '/' key))))) :=
  if_pos ⟨hkey.takes, (h.reads key hkey).ne_dir, hparent, (Bool.and_eq_true_iff.mp (h.allows hkey)).2⟩

end Holds

/-! What the calls do on such a tree. -/

section Calls

variable {v : Volume} {m : String → Option Blob}

/-- The tree once a key's file is written. -/
def withFile (v : Volume) (p : Path) (bytes : Blob) (mode : Mode) : Volume :=
  Function.update (withDirs v p.dropLast) p (some (.file bytes mode))

theorem Holds.withFile (h : Holds disk root v m) (hkey : Placed disk root key) (bytes : Blob)
    {mode : Mode} (hmode : disk.allows mode = true) :
    Holds disk root (withFile v (root ++ splitOn '/' key) bytes mode)
      (Function.update m key (some bytes)) :=
  (h.dirs hkey).write hkey (.file hmode)

/-- The mode that a key's file has once it is written. -/
def writtenMode (v : Volume) (p : Path) : Mode := modeAt (withDirs v p.dropLast) p

theorem Holds.written (h : Holds disk root v m) (hkey : Placed disk root key) (bytes : Blob) :
    BlobStorage.writeFile disk (withDirs v (root ++ splitOn '/' key).dropLast)
      (root ++ splitOn '/' key) bytes =
        some (BlobStorage.withFile v (root ++ splitOn '/' key) bytes
          (writtenMode v (root ++ splitOn '/' key))) :=
  (h.dirs hkey).writeFile hkey (if_pos List.prefix_rfl) bytes

theorem put_placed (h : Holds disk root v m) (hkey : Placed disk root key) (bytes : Blob) :
    LocalStorage.put disk root v key bytes =
      (.size bytes.length, withFile v (root ++ splitOn '/' key) bytes
        (writtenMode v (root ++ splitOn '/' key))) := by
  simp only [LocalStorage.put, hkey.pathOf, h.makeDirs hkey, h.written hkey bytes]

/-- A source that cannot be read leaves the directories it would have been copied into. -/
theorem copyIn_unread (h : Holds disk root v m) (hkey : Placed disk root key) (source : Source) :
    LocalStorage.copyIn disk root v key source none =
      (.raised, withDirs v (root ++ splitOn '/' key).dropLast) := by
  simp only [LocalStorage.copyIn, hkey.pathOf, h.makeDirs hkey]

theorem copyIn_placed (h : Holds disk root v m) (hkey : Placed disk root key) (source : Source)
    (bytes : Blob) :
    LocalStorage.copyIn disk root v key source (some bytes) =
      (.size bytes.length, withFile v (root ++ splitOn '/' key) bytes source.mode) := by
  have hfile : withDirs v (root ++ splitOn '/' key).dropLast (root ++ splitOn '/' key) ≠
      some .dir := ((h.dirs hkey).reads key hkey).ne_dir
  have hcopy : copyFile disk (withDirs v (root ++ splitOn '/' key).dropLast) (root ++ splitOn '/' key)
      source bytes = some (withFile v (root ++ splitOn '/' key) bytes source.mode) := by
    simp only [copyFile, if_neg hfile, h.written hkey bytes, Option.map_some, withFile,
      Function.update_idem]
  have hsize : statSize disk (withFile v (root ++ splitOn '/' key) bytes source.mode)
      (root ++ splitOn '/' key) = .size bytes.length := by
    simp [statSize, withFile]
  simp only [LocalStorage.copyIn, hkey.pathOf, h.makeDirs hkey, hcopy, hsize]

theorem get_placed (h : Holds disk root v m) (hkey : Placed disk root key) :
    LocalStorage.get disk root v key = (m key).elim .raised .value := by
  have hread := h.reads key hkey
  simp only [LocalStorage.get, hkey.pathOf]
  generalize v (root ++ splitOn '/' key) = node at hread ⊢
  generalize m key = b at hread ⊢
  cases hread with
  | none => rfl
  | file allowed => exact if_pos (Bool.and_eq_true_iff.mp allowed).1

theorem holds_placed (h : Holds disk root v m) (hkey : Placed disk root key) :
    LocalStorage.holds root v key = (m key).isSome := by
  have hread := h.reads key hkey
  simp only [LocalStorage.holds, hkey.pathOf]
  generalize v (root ++ splitOn '/' key) = node at hread ⊢
  generalize m key = b at hread ⊢
  cases hread <;> rfl

theorem delete_placed (h : Holds disk root v m) (hkey : Placed disk root key) :
    Holds disk root (LocalStorage.delete root v key) (Function.update m key none) := by
  have hdelete : LocalStorage.delete root v key =
      Function.update v (root ++ splitOn '/' key) none := by
    have hread := h.reads key hkey
    simp only [LocalStorage.delete, hkey.pathOf]
    generalize hnode : v (root ++ splitOn '/' key) = node at hread ⊢
    generalize m key = b at hread
    cases hread with
    | none => exact (Function.update_eq_self_iff.mpr hnode.symm).symm
    | file allowed => rfl
  exact hdelete ▸ h.write hkey .none

end Calls

/-- A call on a placed key; what it copies in is its owner's to read and write, where that counts. -/
def Sound (disk : Disk) (root : Path) (c : Call String Source Blob) : Prop :=
  Placed disk root c.key ∧ ∀ source, c.source? = some source → disk.allows source.mode = true

/-- The directory tree cannot be told from a map. -/
theorem local_simulates : Simulates (LocalStorage.step disk root) (mapStep List.length)
    (Sound disk root) (Holds disk root) where
  answers {v m c} h hc := by
    obtain ⟨hkey, -⟩ := hc
    cases c with
    | put key bytes => exact congrArg Prod.fst (put_placed h hkey bytes)
    | copyIn key source bytes =>
      cases bytes with
      | none => exact congrArg Prod.fst (copyIn_unread h hkey source)
      | some bytes => exact congrArg Prod.fst (copyIn_placed h hkey source bytes)
    | get key =>
      rw [mapStep_get]
      exact get_placed h hkey
    | probe key => exact congrArg Answer.found (holds_placed h hkey)
    | delete key => rfl
  keeps {v m c} h hc := by
    obtain ⟨hkey, hsource⟩ := hc
    cases c with
    | put key bytes =>
      have hput := congrArg Prod.snd (put_placed h hkey bytes)
      exact hput ▸ h.withFile hkey bytes ((h.dirs hkey).allows hkey)
    | copyIn key source bytes =>
      cases bytes with
      | none =>
        have hcopy := congrArg Prod.snd (copyIn_unread h hkey source)
        exact hcopy ▸ h.dirs hkey
      | some bytes =>
        have hcopy := congrArg Prod.snd (copyIn_placed h hkey source bytes)
        exact hcopy ▸ h.withFile hkey bytes (hsource source rfl)
    | get key =>
      rw [mapStep_get]
      exact h
    | probe key => exact h
    | delete key => exact delete_placed h hkey

/-! The bucket. -/

theorem objectKey_injective (folder : String) :
    Function.Injective (S3Storage.objectKey folder) := by
  intro key key' h
  unfold S3Storage.objectKey at h
  split at h
  · exact h
  · exact (String.append_right_inj _).mp h

/-- The bucket cannot be told from a map. -/
theorem s3_simulates {folder : String} {kind : Call String Source Blob → Prop} :
    Simulates (S3Storage.step folder) (mapStep List.length) kind
      fun bucket m => bucket ∘ S3Storage.objectKey folder = m where
  answers {bucket m c} h _ := by
    subst h
    cases c with
    | copyIn key source bytes => cases bytes <;> rfl
    | get key =>
      simp only [S3Storage.step, mapStep, Function.comp_apply]
      cases bucket (S3Storage.objectKey folder key) <;> rfl
    | put key bytes | probe key | delete key => rfl
  keeps {bucket m c} h _ := by
    subst h
    have hwrite (key : String) (b : Option Blob) :=
      Function.update_comp_eq_of_injective bucket (objectKey_injective folder) key b
    cases c with
    | put key bytes => exact hwrite key (some bytes)
    | copyIn key source bytes =>
      cases bytes with
      | none => rfl
      | some bytes => exact hwrite key (some bytes)
    | get key =>
      rw [mapStep_get]
      simp only [S3Storage.step]
      split <;> rfl
    | probe key => rfl
    | delete key => exact hwrite key none

/-- A call on a key that `build_key` makes of plain ids, at a path that the disk takes; a source that it
copies in lets its owner read and write it, unless permission bits do not bind the service. -/
structure Portable [PyText] (disk : Disk) (root : Path) (c : Call String Source Blob) : Prop where
  built : Built disk root c.key
  source : ∀ source, c.source? = some source →
    disk.binds = false ∨ source.mode.reads = true ∧ source.mode.writes = true

theorem Portable.sound [PyText] {c : Call String Source Blob} (h : Portable disk root c) :
    Sound disk root c := by
  refine ⟨h.built.placed, fun source hsource => ?_⟩
  rcases h.source source hsource with hfree | ⟨hreads, hwrites⟩
  · simp [Disk.allows, Disk.permits, hfree]
  · simp [Disk.allows, Disk.permits, hreads, hwrites]

/-- On the keys that `build_key` makes of plain ids, at paths that the disk takes, a directory tree
and a bucket that start empty give the same answers, those of a map that starts empty, and obey the
laws of a map whatever they were asked, as long as no source that is copied in keeps the service from
reading or writing its copy. -/
theorem stores_interchangeable [PyText] {v : Volume} {folder : String}
    {calls : List (Call String Source Blob)} (hv : Fresh root v)
    (hcalls : ∀ c ∈ calls, Portable disk root c) :
    let ofLocal := run (LocalStorage.step disk root) v calls
    let ofS3 := run (S3Storage.step folder) (fun _ => none) calls
    ofLocal.1 = (run (mapStep List.length) (fun _ => none) calls).1 ∧ ofS3.1 = ofLocal.1 ∧
      MapLaws (LocalStorage.step disk root) (Portable disk root) ofLocal.2 ∧
      MapLaws (S3Storage.step folder) (Portable disk root) ofS3.2 := by
  have hlocal : Simulates (LocalStorage.step disk root) (mapStep List.length)
      (Portable disk root) (Holds disk root) :=
    local_simulates.ofKind fun _ hc => hc.sound
  have hs3 : Simulates (S3Storage.step folder) (mapStep List.length)
      (Portable disk root) fun bucket m => bucket ∘ S3Storage.objectKey folder = m :=
    s3_simulates
  have hanswers := hlocal.run_answers hv.holds hcalls
  have hsame := hs3.run_answers (s := fun _ => none) rfl hcalls
  exact ⟨hanswers, hsame.trans hanswers.symm, hlocal.mapLaws (hlocal.run_keeps hv.holds hcalls),
    hs3.mapLaws (hs3.run_keeps (s := fun _ => none) rfl hcalls)⟩

section Folder

open PyText.Ascii

/-- A disk with the usual limits on names, and a service that does not run as root. -/
def limitedDisk : Disk where
  takes p := p.all fun name => name.length ≤ 255 ∧ '\x00' ∉ name.toList
  parent p name h := by
    rw [List.all_append, Bool.and_eq_true] at h
    exact h.1
  binds := true
  dirSize := 4096

/-- A disk with the root `/data` on it, and nothing else. -/
def rootOnly : Volume := fun q => if q <+: ["data"] then some .dir else none

theorem rootOnly_fresh : Fresh ["data"] rootOnly where
  above _ h := if_pos h
  below _ h hne := if_neg fun hpre =>
    hne (hpre.eq_of_length (le_antisymm hpre.length_le h.length_le))

/-- The deed of an order is copied in and put again, read, and deleted twice. -/
def deedCalls : List (Call String Source Blob) :=
  [.copyIn "county/7/12.pdf" ⟨"deed.pdf", ⟨true, true⟩⟩ (some [37]), .put "county/7/12.pdf" [38],
    .get "county/7/12.pdf", .delete "county/7/12.pdf", .delete "county/7/12.pdf",
    .probe "county/7/12.pdf"]

theorem deed_built : Built limitedDisk ["data"] "county/7/12.pdf" := by
  refine ⟨"county", "7", "12", "deed.pdf", ⟨?_, ?_, ?_, ?_⟩, ⟨?_, ?_, ?_, ?_⟩, ⟨?_, ?_, ?_, ?_⟩,
    ?_, ?_⟩ <;> decide +kernel

/-- A deed comes back, goes, and is gone, wherever it is kept. -/
theorem stores_interchangeable_deed :
    let ofLocal := run (LocalStorage.step limitedDisk ["data"]) rootOnly deedCalls
    let ofS3 := run (S3Storage.step "quickplot") (fun _ => none) deedCalls
    ofLocal.1 = (run (mapStep List.length) (fun _ => none) deedCalls).1 ∧ ofS3.1 = ofLocal.1 ∧
      MapLaws (LocalStorage.step limitedDisk ["data"]) (Portable limitedDisk ["data"]) ofLocal.2 ∧
      MapLaws (S3Storage.step "quickplot") (Portable limitedDisk ["data"]) ofS3.2 :=
  stores_interchangeable rootOnly_fresh fun c hc => by
    have hkey : c.key = "county/7/12.pdf" := by
      revert c
      simp [deedCalls, Call.key]
    have hsource : ∀ source, c.source? = some source → source.mode = ⟨true, true⟩ := by
      revert c
      simp [deedCalls, Call.source?]
    exact ⟨hkey ▸ deed_built, fun source hc' => .inr (by simp [hsource source hc'])⟩

/-- The deed is copied in from a file that is only to be read, and then put. -/
def readOnlyCalls : List (Call String Source Blob) :=
  [.copyIn "county/7/12.pdf" ⟨"deed.pdf", ⟨true, false⟩⟩ (some [37]), .put "county/7/12.pdf" [38],
    .get "county/7/12.pdf"]

/-- What the two stores take differently: an empty organisation makes the key an absolute path, an empty
order puts the document where another order's folder has to be, no name on the disk has a NUL in it, and
the copy of a source that is only to be read cannot be written again. -/
theorem empty_ids_told_apart :
    (EvidenceUpload.buildKey "" "7" "12" "deed.pdf").toOption = some "/7/12.pdf" ∧
    (run (LocalStorage.step limitedDisk ["data"]) rootOnly [.put "/7/12.pdf" [37]]).1 = [.raised] ∧
    (run (S3Storage.step "quickplot") (fun _ => none) [.put "/7/12.pdf" [37]]).1 = [.size 1] ∧
    (EvidenceUpload.buildKey "county" "" "12" "deed").toOption = some "county//12" ∧
    (EvidenceUpload.buildKey "county" "12" "7" "deed").toOption = some "county/12/7" ∧
    (run (LocalStorage.step limitedDisk ["data"]) rootOnly
      [.put "county//12" [37], .put "county/12/7" [37]]).1 = [.size 1, .raised] ∧
    (run (S3Storage.step "quickplot") (fun _ => none)
      [.put "county//12" [37], .put "county/12/7" [37]]).1 = [.size 1, .size 1] ∧
    (EvidenceUpload.buildKey "county" "7\x00" "12" "deed").toOption = some "county/7\x00/12" ∧
    (run (LocalStorage.step limitedDisk ["data"]) rootOnly [.put "county/7\x00/12" [37]]).1 =
      [.raised] ∧
    (run (S3Storage.step "quickplot") (fun _ => none) [.put "county/7\x00/12" [37]]).1 =
      [.size 1] ∧
    (EvidenceUpload.buildKey "county" "7" "12" "deed.pdf").toOption = some "county/7/12.pdf" ∧
    (run (LocalStorage.step limitedDisk ["data"]) rootOnly readOnlyCalls).1 =
      [.size 1, .raised, .value [37]] ∧
    (run (S3Storage.step "quickplot") (fun _ => none) readOnlyCalls).1 =
      [.size 1, .size 1, .value [38]] := by
  refine ⟨?_, ?_, ?_, ?_, ?_, ?_, ?_, ?_, ?_, ?_, ?_, ?_, ?_⟩ <;> decide +kernel

end Folder

end BlobStorage
end ResearchEngine
