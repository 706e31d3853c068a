import ResearchEngine.EvidenceUpload

/-! When the digests recorded in `files` are those of the stored blobs, along every
history of uploads. -/
namespace ResearchEngine
namespace EvidenceUpload

/-- Two contents that a `File` row cannot tell apart. -/
def SameDigest (sha256 : Blob → String) (a b : Blob) : Prop :=
  sha256 a = sha256 b ∧ a.length = b.length

theorem SameDigest.refl (sha256 : Blob → String) (a : Blob) : SameDigest sha256 a a := ⟨rfl, rfl⟩

/-- The row's digest and size are those of the blob stored at its key. -/
def RowMatches (sha256 : Blob → String) (ev : Evidence) (row : FileRow) : Prop :=
  ∃ key blob, row.contentKey = some key ∧ ev.blobs key = some blob ∧
    row.sha256 = some (sha256 blob) ∧ row.size = some blob.length

def DigestsMatch (sha256 : Blob → String) (ev : Evidence) : Prop :=
  ∀ id row, ev.files.get id = some row → RowMatches sha256 ev row

def HasRow (ev : Evidence) (key : String) : Prop :=
  ∃ id row, ev.files.get id = some row ∧ row.contentKey = some key

/-- What one `copy_in` leaves at its key, if it touches it. -/
def CopyOutcome.leaves (bytes : Blob) : CopyOutcome → Option Blob
  | .done => some bytes
  | .raised _ left => left.map bytes.take

/-- The generated ids are new, so the two rows are created. -/
def Backend.creates (b : Backend) (ev : Evidence) : Prop :=
  ∃ fileId orderFileId, b.evidence = .ok (fileId, orderFileId) ∧ fileId ∉ ev.files.keys ∧
    orderFileId ∉ ev.orderFiles.keys

section Store

variable {sha256 : Blob → String} {ev : Evidence} {key : String} {bytes stored : Blob}

theorem copyIn_snd (ev : Evidence) (key : String) (bytes : Blob) (c : CopyOutcome) :
    (copyIn ev key bytes c).2 = match c.leaves bytes with
      | none => ev
      | some left => putBlob ev key left := by
  cases c with
  | done => rfl
  | raised message left => cases left <;> rfl

theorem copyIn_fst_eq_none {c : CopyOutcome} (h : (copyIn ev key bytes c).1 = none) :
    c = .done := by
  cases c with
  | done => rfl
  | raised message left => cases left <;> cases h

@[simp] theorem putBlob_files (ev : Evidence) (key : String) (bytes : Blob) :
    (putBlob ev key bytes).files = ev.files := rfl

theorem rowMatches_putBlob_other {row : FileRow} (h : RowMatches sha256 ev row)
    (hne : row.contentKey ≠ some key) : RowMatches sha256 (putBlob ev key bytes) row := by
  obtain ⟨k, blob, hk, hb, hd, hs⟩ := h
  have hkk : k ≠ key := fun he => hne (he ▸ hk)
  exact ⟨k, blob, hk, by simpa [putBlob, hkk] using hb, hd, hs⟩

/-- A row at a key that was rewritten matches the new content exactly when the new
content has the digest of the old. -/
theorem rowMatches_putBlob_self {row : FileRow} (h : RowMatches sha256 ev row)
    (hk : row.contentKey = some key) (hstored : ev.blobs key = some stored) :
    RowMatches sha256 (putBlob ev key bytes) row ↔ SameDigest sha256 stored bytes := by
  obtain ⟨k, blob, hk', hb, hd, hs⟩ := h
  obtain rfl : k = key := Option.some.inj (hk'.symm.trans hk)
  obtain rfl := Option.some.inj (hb.symm.trans hstored)
  constructor
  · rintro ⟨k', blob', hk'', hb', hd', hs'⟩
    obtain rfl : k' = k := Option.some.inj (hk''.symm.trans hk')
    obtain rfl : bytes = blob' := by simpa [putBlob] using hb'
    exact ⟨Option.some.inj (hd.symm.trans hd'), Option.some.inj (hs.symm.trans hs')⟩
  · rintro ⟨hsha, hlen⟩
    exact ⟨k, bytes, hk', by simp [putBlob], hsha ▸ hd, hlen ▸ hs⟩

/-- Writing a key keeps all digests right exactly when no row of that key sees
another digest than before. -/
theorem digestsMatch_putBlob (h : DigestsMatch sha256 ev) :
    DigestsMatch sha256 (putBlob ev key bytes) ↔
      ∀ stored, ev.blobs key = some stored → HasRow ev key → SameDigest sha256 stored bytes := by
  constructor
  · rintro hput stored hstored ⟨id, row, hrow, hk⟩
    exact (rowMatches_putBlob_self (h id row hrow) hk hstored).mp (hput id row hrow)
  · intro hsame id row hrow
    have hold := h id row hrow
    by_cases hk : row.contentKey = some key
    · have ⟨k, blob, hk', hb, _, _⟩ := hold
      obtain rfl : k = key := Option.some.inj (hk'.symm.trans hk)
      exact (rowMatches_putBlob_self hold hk hb).mpr (hsame blob hb ⟨id, row, hrow, hk⟩)
    · exact rowMatches_putBlob_other hold hk

theorem createEvidence_ok {orderId : Uuid} {file : FileRow} {ids : Except String (Uuid × Uuid)}
    {fileId orderFileId : Uuid} {ev' : Evidence}
    (h : createEvidence orderId file ids ev = .ok (fileId, orderFileId, ev')) :
    ids = .ok (fileId, orderFileId) ∧ ∃ hf : fileId ∉ ev.files.keys,
      ∃ ho : orderFileId ∉ ev.orderFiles.keys,
        ev' = { ev with
          files := ev.files.insert fileId file hf
          orderFiles := ev.orderFiles.insert orderFileId
            { orderId := orderId, fileId := fileId } ho } := by
  unfold createEvidence at h
  split at h
  · cases h
  · rename_i f o
    split at h
    · rename_i files orderFiles hfiles horder
      obtain ⟨hf, rfl⟩ := (Table.insert?_eq_some_iff _ _ _ _).mp hfiles
      obtain ⟨ho, rfl⟩ := (Table.insert?_eq_some_iff _ _ _ _).mp horder
      simp only [Except.ok.injEq, Prod.mk.injEq] at h
      obtain ⟨rfl, rfl, rfl⟩ := h
      exact ⟨rfl, hf, ho, rfl⟩
    · cases h

theorem createEvidence_error {orderId : Uuid} {file : FileRow} {b : Backend} {message : String}
    (h : createEvidence orderId file b.evidence ev = .error message) : ¬ b.creates ev := by
  rintro ⟨fileId, orderFileId, hids, hf, ho⟩
  simp [createEvidence, hids, Table.insert?, hf, ho] at h

end Store

section Upload

variable [PyText] {sha256 : Blob → String}

/-- An upload is safe for the recorded digests: where its key holds a blob already,
the probe sees it and either no rows are made or the staged bytes have the blob's
digest; or the probe misses it and the copy leaves the digest that the rows at the
key have. -/
def SafeUpload (sha256 : Blob → String) (u : Upload) (ev : Evidence) : Prop :=
  ∀ filename bytes key stored, u.source = some (filename, bytes) → u.keyFor filename = .ok key →
    ev.blobs key = some stored →
      if u.backend.probeOk then u.backend.creates ev → SameDigest sha256 stored bytes
      else ∀ left, u.backend.copy.leaves bytes = some left → HasRow ev key →
        SameDigest sha256 stored left

variable {u : Upload} {key filename : String} {bytes : Blob} {doc : FetchedDocument} {ev : Evidence}

/-- The rows added for a blob are right exactly when that blob has the digest of the
staged bytes. -/
theorem digestsMatch_recordEvidence {stored : Blob} (hstored : ev.blobs key = some stored) :
    DigestsMatch sha256 (recordEvidence sha256 u key filename bytes doc ev).2 ↔
      DigestsMatch sha256 ev ∧ (u.backend.creates ev → SameDigest sha256 stored bytes) := by
  unfold recordEvidence
  split
  · rename_i message he
    exact ⟨fun h => ⟨h, fun hc => (createEvidence_error he hc).elim⟩, And.left⟩
  · rename_i fileId orderFileId ev' he
    obtain ⟨hids, hf, ho, rfl⟩ := createEvidence_ok he
    have hget : ∀ id, (ev.files.insert fileId (fileRow sha256 key filename bytes) hf).get id =
        if id = fileId then some (fileRow sha256 key filename bytes) else ev.files.get id :=
      fun id => Table.get_insert _ _ _ _ _
    constructor
    · intro hnew
      refine ⟨fun id row hrow => ?_, fun _ => ?_⟩
      · have hne : id ≠ fileId := by
          rintro rfl
          exact hf ((Table.mem_keys_iff _ _).mpr ⟨row, hrow⟩)
        exact hnew id row (by rw [hget, if_neg hne]; exact hrow)
      · obtain ⟨k, blob, hk, hb, hd, hs⟩ := hnew fileId _ (by rw [hget, if_pos rfl])
        obtain rfl : key = k := Option.some.inj hk
        obtain rfl : stored = blob := Option.some.inj (hstored.symm.trans hb)
        exact ⟨(Option.some.inj hd).symm, (Option.some.inj hs).symm⟩
    · rintro ⟨hold, hsame⟩ id row hrow
      obtain ⟨hsha, hlen⟩ := hsame ⟨fileId, orderFileId, hids, hf, ho⟩
      rw [hget] at hrow
      split at hrow
      · obtain rfl := Option.some.inj hrow
        exact ⟨key, stored, rfl, hstored, by simp [fileRow, hsha], by simp [fileRow, hlen]⟩
      · exact hold id row hrow

theorem digestsMatch_uploadFile (h : DigestsMatch sha256 ev) :
    DigestsMatch sha256 (uploadFile sha256 u key filename bytes doc ev).2 ↔
      ∀ stored, ev.blobs key = some stored →
        if u.backend.probeOk then u.backend.creates ev → SameDigest sha256 stored bytes
        else ∀ left, u.backend.copy.leaves bytes = some left → HasRow ev key →
          SameDigest sha256 stored left := by
  unfold uploadFile
  split
  · rename_i hex
    obtain ⟨hprobe, hblob⟩ := Bool.and_eq_true_iff.mp hex
    obtain ⟨stored, hstored⟩ := Option.isSome_iff_exists.mp hblob
    rw [digestsMatch_recordEvidence hstored]
    simp [hprobe, hstored, h]
  · rename_i hex
    -- the probe can only miss a blob by failing
    have hprobe : ∀ stored, ev.blobs key = some stored → u.backend.probeOk = false := by
      intro stored hstored
      simpa [blobExists, hstored] using hex
    have hcopy : DigestsMatch sha256 (copyIn ev key bytes u.backend.copy).2 ↔
        ∀ stored, ev.blobs key = some stored →
          if u.backend.probeOk then u.backend.creates ev → SameDigest sha256 stored bytes
          else ∀ left, u.backend.copy.leaves bytes = some left → HasRow ev key →
            SameDigest sha256 stored left := by
      rw [copyIn_snd]
      cases hl : u.backend.copy.leaves bytes with
      | none =>
        refine iff_of_true h fun stored hstored => ?_
        simp [hprobe stored hstored]
      | some left =>
        simp only [digestsMatch_putBlob h]
        refine forall₂_congr fun stored hstored => ?_
        simp [hprobe stored hstored]
    split
    · rename_i message ev' hout
      rw [hout] at hcopy
      exact hcopy
    · rename_i ev' hout
      rw [hout] at hcopy
      have hdone : u.backend.copy = .done := copyIn_fst_eq_none (congrArg Prod.fst hout)
      have hstored : ev'.blobs key = some bytes := by
        have hev : (copyIn ev key bytes u.backend.copy).2 = ev' := congrArg Prod.snd hout
        rw [← hev, hdone]
        simp [copyIn, putBlob]
      rw [digestsMatch_recordEvidence hstored, ← hcopy]
      exact and_iff_left fun _ => SameDigest.refl sha256 bytes

/-- One upload keeps the recorded digests right exactly when it is safe. -/
theorem digestsMatch_uploadArtifact (h : DigestsMatch sha256 ev) :
    DigestsMatch sha256 (uploadArtifact sha256 u doc ev).2 ↔ SafeUpload sha256 u ev := by
  unfold uploadArtifact SafeUpload
  split
  · rename_i hs
    exact iff_of_true h fun filename bytes key stored hsrc => by rw [hs] at hsrc; cases hsrc
  · rename_i filename bytes hs
    split
    · rename_i message hk
      refine iff_of_true h fun filename' bytes' key stored hsrc hkey => ?_
      obtain ⟨rfl, rfl⟩ : filename = filename' ∧ bytes = bytes' := by simpa [hs] using hsrc
      rw [hk] at hkey
      cases hkey
    · rename_i key hk
      rw [digestsMatch_uploadFile h]
      constructor
      · intro hsafe filename' bytes' key' stored hsrc hkey
        obtain ⟨rfl, rfl⟩ : filename = filename' ∧ bytes = bytes' := by simpa [hs] using hsrc
        obtain rfl := Except.ok.inj (hk.symm.trans hkey)
        exact hsafe stored
      · exact fun hsafe stored => hsafe filename bytes key stored hs hk

/-- The evidence store after a sequence of uploads. -/
def runUploads (sha256 : Blob → String) (us : List (Upload × FetchedDocument)) (ev : Evidence) :
    Evidence :=
  us.foldl (fun ev u => (uploadArtifact sha256 u.1 u.2 ev).2) ev

theorem digestsMatch_runs (h : DigestsMatch sha256 ev) (us : List (Upload × FetchedDocument)) :
    (∀ vs, vs <+: us → DigestsMatch sha256 (runUploads sha256 vs ev)) ↔
      ∀ vs p ws, us = vs ++ p :: ws → SafeUpload sha256 p.1 (runUploads sha256 vs ev) := by
  induction us generalizing ev with
  | nil =>
    refine iff_of_true (fun vs hvs => ?_) fun vs p ws he => by simp at he
    rw [List.prefix_nil.mp hvs]
    exact h
  | cons q us ih =>
    constructor
    · intro hall vs p ws he
      have hfirst := hall [q] (by simp)
      cases vs with
      | nil =>
        obtain ⟨rfl, -⟩ : q = p ∧ us = ws := by simpa using he
        exact (digestsMatch_uploadArtifact h).mp hfirst
      | cons v vs =>
        obtain ⟨rfl, hus⟩ : q = v ∧ us = vs ++ p :: ws := by simpa using he
        refine (ih hfirst).mp (fun us' hus' => ?_) vs p ws hus
        exact hall (q :: us') (by simpa using hus')
    · intro hsafe vs hvs
      have hfirst : DigestsMatch sha256 (uploadArtifact sha256 q.1 q.2 ev).2 :=
        (digestsMatch_uploadArtifact h).mpr (hsafe [] q us rfl)
      cases vs with
      | nil => exact h
      | cons v vs =>
        obtain ⟨rfl, hpre⟩ : v = q ∧ vs <+: us := by simpa using hvs
        refine (ih hfirst).mpr (fun us' p ws he => ?_) vs hpre
        exact hsafe (v :: us') p ws (by simp [he])

/-- Along a history of uploads into an empty evidence store, the recorded digests are
right in every state exactly when every upload was safe in the state it met. -/
theorem digests_match_iff (sha256 : Blob → String) (us : List (Upload × FetchedDocument)) :
    (∀ vs, vs <+: us → DigestsMatch sha256 (runUploads sha256 vs default)) ↔
      ∀ vs p ws, us = vs ++ p :: ws → SafeUpload sha256 p.1 (runUploads sha256 vs default) :=
  digestsMatch_runs (fun id row hrow => by cases hrow) us

end Upload

section Concrete

open scoped PyText.Ascii

/-- A deed of two bytes is uploaded, then a re-run stages one byte under its name. -/
def deedUpload (bytes : Blob) (fileId orderFileId : Uuid) : Upload where
  downloaded := ["deed.pdf"]
  disk _ := some bytes
  orderId := 3
  docType := "DEED_SUBJECT_PARCEL"
  tenantId := some 1
  backend := { probeOk := true, copy := .done, evidence := .ok (fileId, orderFileId) }

def deedDocument : FetchedDocument := { docType := .deedSubjectParcel, status := .uploaded }

def rerunUploads : List (Upload × FetchedDocument) :=
  [(deedUpload [1, 2] 20 21, deedDocument), (deedUpload [1] 22 23, deedDocument)]

theorem rerunUploads_row (sha256 : Blob → String) :
    (runUploads sha256 rerunUploads default).files.get 22 =
      some (fileRow sha256 "1/3/DEED_SUBJECT_PARCEL.pdf" "deed.pdf" [1]) := rfl

theorem rerunUploads_blob (sha256 : Blob → String) :
    (runUploads sha256 rerunUploads default).blobs "1/3/DEED_SUBJECT_PARCEL.pdf" =
      some [1, 2] := rfl

/-- The re-run's row describes the new file, the store keeps the old one. -/
theorem digests_diverge_on_rerun :
    ¬ ∃ sha256 : Blob → String,
      ∀ vs, vs <+: rerunUploads → DigestsMatch sha256 (runUploads sha256 vs default) := by
  rintro ⟨sha256, hall⟩
  obtain ⟨key, blob, hk, hb, -, hsize⟩ :=
    hall rerunUploads List.prefix_rfl 22 _ (rerunUploads_row sha256)
  obtain rfl := Option.some.inj hk
  obtain rfl := Option.some.inj (hb.symm.trans (rerunUploads_blob sha256))
  simp [fileRow] at hsize

end Concrete

end EvidenceUpload
end ResearchEngine
