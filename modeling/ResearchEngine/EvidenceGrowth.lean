import ResearchEngine.EvidenceDigests

/-! What an upload can return, and what it leaves of the evidence: rows and blobs are
added or rewritten, never lost. -/
namespace ResearchEngine
namespace EvidenceUpload

/-- Every row stays as it is, and every key that holds a blob goes on holding one. -/
structure Grows (ev ev' : Evidence) : Prop where
  files : ∀ id row, ev.files.get id = some row → ev'.files.get id = some row
  orderFiles : ∀ id row, ev.orderFiles.get id = some row → ev'.orderFiles.get id = some row
  blobs : ∀ key, (ev.blobs key).isSome = true → (ev'.blobs key).isSome = true

theorem Grows.refl (ev : Evidence) : Grows ev ev := ⟨fun _ _ h => h, fun _ _ h => h, fun _ h => h⟩

theorem Grows.trans {a b c : Evidence} (h : Grows a b) (h' : Grows b c) : Grows a c where
  files id row hrow := h'.files id row (h.files id row hrow)
  orderFiles id row hrow := h'.orderFiles id row (h.orderFiles id row hrow)
  blobs key hkey := h'.blobs key (h.blobs key hkey)

theorem grows_putBlob (ev : Evidence) (key : String) (bytes : Blob) :
    Grows ev (putBlob ev key bytes) where
  files _ _ h := h
  orderFiles _ _ h := h
  blobs k h := by
    by_cases hk : k = key
    · simp [putBlob, hk]
    · simpa [putBlob, hk] using h

theorem grows_copyIn (ev : Evidence) (key : String) (bytes : Blob) (c : CopyOutcome) :
    Grows ev (copyIn ev key bytes c).2 := by
  rw [copyIn_snd]
  split
  · exact .refl ev
  · exact grows_putBlob ev key _

theorem grows_createEvidence {ev ev' : Evidence} {orderId : Uuid} {file : FileRow}
    {ids : Except String (Uuid × Uuid)} {fileId orderFileId : Uuid}
    (h : createEvidence orderId file ids ev = .ok (fileId, orderFileId, ev')) :
    Grows ev ev' ∧ ev'.files.get fileId = some file ∧
      ev'.orderFiles.get orderFileId = some { orderId := orderId, fileId := fileId } ∧
      ev'.blobs = ev.blobs := by
  obtain ⟨-, hf, ho, rfl⟩ := createEvidence_ok h
  refine ⟨⟨fun id row hrow => ?_, fun id row hrow => ?_, fun _ hkey => hkey⟩, ?_, ?_, rfl⟩
  · have hne : id ≠ fileId := by
      rintro rfl
      exact hf ((Table.mem_keys_iff _ _).mpr ⟨row, hrow⟩)
    simpa [Table.get_insert, hne] using hrow
  · have hne : id ≠ orderFileId := by
      rintro rfl
      exact ho ((Table.mem_keys_iff _ _).mpr ⟨row, hrow⟩)
    simpa [Table.get_insert, hne] using hrow
  · simp [Table.get_insert]
  · simp [Table.get_insert]

section Upload

variable [PyText] (sha256 : Blob → String) (u : Upload) (doc : FetchedDocument) (ev : Evidence)

/-- Everything an upload can return: no file is on disk, it failed, or the document has
its two rows and a blob at the key. -/
inductive UploadCase : FetchedDocument × Evidence → Prop
  | absent (h : u.source = none) : UploadCase (doc, ev)
  | failed {message : String} {ev' : Evidence} (hg : Grows ev ev') :
      UploadCase (uploadFailed message doc, ev')
  | stored {filename key : String} {bytes : Blob} {fileId orderFileId : Uuid} {ev' : Evidence}
      (hg : Grows ev ev') (hfile : ev'.files.get fileId = some (fileRow sha256 key filename bytes))
      (horder : ev'.orderFiles.get orderFileId = some { orderId := u.orderId, fileId := fileId })
      (hblob : (ev'.blobs key).isSome = true) :
      UploadCase
        ({ doc with
            fileKey := some key
            fileName := some filename
            fileSize := some bytes.length
            sha256 := sha256 bytes
            fileId := some fileId
            orderFileId := some orderFileId
            status := .uploaded }, ev')

theorem recordEvidence_cases {key filename : String} {bytes : Blob} {ev₀ : Evidence}
    (hg : Grows ev₀ ev) (hblob : (ev.blobs key).isSome = true) :
    UploadCase sha256 u doc ev₀ (recordEvidence sha256 u key filename bytes doc ev) := by
  unfold recordEvidence
  split
  · exact .failed hg
  · rename_i fileId orderFileId ev' hcreate
    obtain ⟨hg', hfile, horder, hblobs⟩ := grows_createEvidence hcreate
    exact .stored (hg.trans hg') hfile horder (by rw [hblobs]; exact hblob)

theorem uploadArtifact_cases : UploadCase sha256 u doc ev (uploadArtifact sha256 u doc ev) := by
  unfold uploadArtifact
  split
  · exact .absent ‹_›
  · rename_i filename bytes _
    split
    · exact .failed (.refl ev)
    · rename_i key _
      unfold uploadFile
      split
      · rename_i hexists
        exact recordEvidence_cases sha256 u doc ev (.refl ev) (Bool.and_eq_true_iff.mp hexists).2
      · have hcopy := grows_copyIn ev key bytes u.backend.copy
        split
        · rename_i message ev' heq
          rw [heq] at hcopy
          exact .failed hcopy
        · rename_i ev' heq
          have hdone : u.backend.copy = .done := copyIn_fst_eq_none (congrArg Prod.fst heq)
          have hput : ev' = putBlob ev key bytes := by
            rw [hdone] at heq
            exact (congrArg Prod.snd heq).symm
          rw [heq] at hcopy
          refine recordEvidence_cases sha256 u doc ev' hcopy ?_
          simp [hput, putBlob]

end Upload

end EvidenceUpload
end ResearchEngine
