import ResearchEngine.EvidenceGrowth
import ResearchEngine.TransitionRuns

/-! Several `_upload_artifact` calls at once: each probes its key, copies its staged
file and records its rows, and steps of the others may come in between. -/
namespace ResearchEngine
namespace EvidenceUpload

open TransitionRuns

/-- The two storage backends. -/
inductive StorageKind
  | localDisk | s3
  deriving DecidableEq, Repr

/-- A call past the lookup of its staged file and key. -/
structure Staged where
  upload : Upload
  doc : FetchedDocument
  key : String
  filename : String
  bytes : Blob

/-- What the call's `copy_in` leaves at the key, if it gets to touch it. -/
def Staged.written (c : Staged) : Option Blob := c.upload.backend.copy.leaves c.bytes

/-- Where one call stands. -/
inductive Call
  | idle
  | probing (c : Staged)
  | copying (c : Staged)
  /-- `LocalStorage.copy_in` has the target open, up to `offset`. -/
  | writing (c : Staged) (offset : ℕ)
  | recording (c : Staged)
  | returned (doc : FetchedDocument)

inductive UploadAct
  | begin (call : ℕ) (u : Upload) (doc : FetchedDocument)
  | probe (call : ℕ)
  | copy (call : ℕ)
  | write (call count : ℕ)
  | close (call : ℕ)
  | record (call : ℕ)

structure Uploads where
  ev : Evidence
  calls : ℕ → Call
  /-- The keys for which some `copy_in` has returned. -/
  stored : String → Bool

/-- Bytes written to an open file at an offset. -/
def overlay (old : Blob) (offset : ℕ) (chunk : Blob) : Blob :=
  old.take offset ++ List.replicate (offset - old.length) 0 ++ chunk ++
    old.drop (offset + chunk.length)

namespace Uploads

def start (ev : Evidence) : Uploads where
  ev := ev
  calls := fun _ => .idle
  stored := fun key => (ev.blobs key).isSome

def setCall (σ : Uploads) (n : ℕ) (call : Call) : Uploads :=
  { σ with calls := Function.update σ.calls n call }

/-- The end of a `copy_in`: it has returned, or the exception handler takes over. -/
def finishCopy (σ : Uploads) (n : ℕ) (c : Staged) : Uploads :=
  match c.upload.backend.copy with
  | .done =>
    { σ.setCall n (.recording c) with stored := Function.update σ.stored c.key true }
  | .raised message _ => σ.setCall n (.returned (uploadFailed message c.doc))

/-- The first step of `copy_in`: `put_object` is all of it, `copy2` truncates the target. -/
def copyStep (kind : StorageKind) (σ : Uploads) (n : ℕ) (c : Staged) : Uploads :=
  match c.written with
  | none => σ.finishCopy n c
  | some left =>
    match kind with
    | .s3 => { σ with ev := putBlob σ.ev c.key left }.finishCopy n c
    | .localDisk => { σ with ev := putBlob σ.ev c.key [] }.setCall n (.writing c 0)

/-- The next bytes of the staged file. -/
def writeStep (σ : Uploads) (n : ℕ) (c : Staged) (offset count : ℕ) : Uploads :=
  let chunk := (((c.written.getD []).drop offset).take count)
  let old := (σ.ev.blobs c.key).getD []
  { σ with ev := putBlob σ.ev c.key (overlay old offset chunk) }.setCall n
    (.writing c (offset + count))

end Uploads

section Step

variable [PyText] (sha256 : Blob → String) (kind : StorageKind)

/-- `_upload_artifact` up to its probe. -/
def beginCall (u : Upload) (doc : FetchedDocument) : Call :=
  match u.source with
  | none => .returned doc
  | some (filename, bytes) =>
    match u.keyFor filename with
    | .error message => .returned (uploadFailed message doc)
    | .ok key => .probing ⟨u, doc, key, filename, bytes⟩

def uploadStep (σ : Uploads) : UploadAct → Option Uploads
  | .begin n u doc =>
    match σ.calls n with
    | .idle => some (σ.setCall n (beginCall u doc))
    | _ => none
  | .probe n =>
    match σ.calls n with
    | .probing c =>
      some (σ.setCall n
        (if blobExists c.upload.backend σ.ev c.key then .recording c else .copying c))
    | _ => none
  | .copy n =>
    match σ.calls n with
    | .copying c => some (σ.copyStep kind n c)
    | _ => none
  | .write n count =>
    match σ.calls n with
    | .writing c offset =>
      if offset + count ≤ (c.written.getD []).length then some (σ.writeStep n c offset count)
      else none
    | _ => none
  | .close n =>
    match σ.calls n with
    | .writing c offset =>
      if offset = (c.written.getD []).length then some (σ.finishCopy n c) else none
    | _ => none
  | .record n =>
    match σ.calls n with
    | .recording c =>
      let out := recordEvidence sha256 c.upload c.key c.filename c.bytes c.doc σ.ev
      some { σ.setCall n (.returned out.1) with ev := out.2 }
    | _ => none

/-- The steps of the calls, with the guards they passed. -/
inductive UploadStep (σ : Uploads) : UploadAct → Uploads → Prop
  | begin {n u doc} (hc : σ.calls n = .idle) :
      UploadStep σ (.begin n u doc) (σ.setCall n (beginCall u doc))
  | probeFound {n c} (hc : σ.calls n = .probing c)
      (he : blobExists c.upload.backend σ.ev c.key = true) :
      UploadStep σ (.probe n) (σ.setCall n (.recording c))
  | probeAbsent {n c} (hc : σ.calls n = .probing c)
      (he : blobExists c.upload.backend σ.ev c.key = false) :
      UploadStep σ (.probe n) (σ.setCall n (.copying c))
  | copy {n c} (hc : σ.calls n = .copying c) : UploadStep σ (.copy n) (σ.copyStep kind n c)
  | write {n c offset count} (hc : σ.calls n = .writing c offset)
      (hle : offset + count ≤ (c.written.getD []).length) :
      UploadStep σ (.write n count) (σ.writeStep n c offset count)
  | close {n c offset} (hc : σ.calls n = .writing c offset)
      (hend : offset = (c.written.getD []).length) :
      UploadStep σ (.close n) (σ.finishCopy n c)
  | record {n c} (hc : σ.calls n = .recording c) :
      UploadStep σ (.record n)
        { σ.setCall n
            (.returned (recordEvidence sha256 c.upload c.key c.filename c.bytes c.doc σ.ev).1) with
          ev := (recordEvidence sha256 c.upload c.key c.filename c.bytes c.doc σ.ev).2 }

theorem uploadStep_cases {σ τ : Uploads} {a : UploadAct}
    (h : uploadStep sha256 kind σ a = some τ) : UploadStep sha256 kind σ a τ := by
  cases a with
  | begin n u doc =>
    simp only [uploadStep] at h
    split at h
    · exact Option.some.inj h ▸ .begin ‹_›
    · cases h
  | probe n =>
    simp only [uploadStep] at h
    split at h
    · rename_i c hc
      obtain rfl := Option.some.inj h
      split
      · exact .probeFound hc ‹_›
      · exact .probeAbsent hc (eq_false_of_ne_true ‹_›)
    · cases h
  | copy n =>
    simp only [uploadStep] at h
    split at h
    · exact Option.some.inj h ▸ .copy ‹_›
    · cases h
  | write n count =>
    simp only [uploadStep] at h
    split at h
    · split at h
      · exact Option.some.inj h ▸ .write ‹_› ‹_›
      · cases h
    · cases h
  | close n =>
    simp only [uploadStep] at h
    split at h
    · split at h
      · exact Option.some.inj h ▸ .close ‹_› ‹_›
      · cases h
    · cases h
  | record n =>
    simp only [uploadStep] at h
    split at h
    · exact Option.some.inj h ▸ .record ‹_›
    · cases h

end Step

/-- The call an action belongs to. -/
def UploadAct.call : UploadAct → ℕ
  | .begin n _ _ | .probe n | .copy n | .write n _ | .close n | .record n => n

/-- What a call is copying, its probe having found the key free. -/
def Call.copyingOf : Call → Option Staged
  | .copying c | .writing c _ => some c
  | _ => none

/-- Two copies to one key that can be told apart by a reader. -/
def Staged.Clash (kind : StorageKind) (c c' : Staged) : Prop :=
  c.key = c'.key ∧
    ∃ l l', c.written = some l ∧ c'.written = some l' ∧ (kind = .localDisk ∨ l ≠ l')

/-- The copy would be seen at a key that is stored already. -/
def Staged.Overwrites (kind : StorageKind) (σ : Uploads) (c : Staged) : Prop :=
  σ.stored c.key = true ∧
    ∃ l, c.written = some l ∧ (kind = .localDisk ∨ σ.ev.blobs c.key ≠ some l)

/-- A probe that finds its key free is right: nothing is stored there, and no other call
is about to store something else. -/
def ProbeRight (kind : StorageKind) (σ : Uploads) (a : UploadAct) : Prop :=
  ∀ n c, a = .probe n → σ.calls n = .probing c →
    blobExists c.upload.backend σ.ev c.key = false →
      ¬ c.Overwrites kind σ ∧
        ∀ m c', m ≠ n → (σ.calls m).copyingOf = some c' → ¬ c.Clash kind c'

/-- `LocalStorage` has opened files only, and for a copy that leaves something. -/
def Opened (kind : StorageKind) (σ : Uploads) : Prop :=
  ∀ n c offset, σ.calls n = .writing c offset → kind = .localDisk ∧ ∃ l, c.written = some l

/-- What a step of call `n` can do to the calls and to the bytes at each key. -/
structure StepEffect (kind : StorageKind) (σ : Uploads) (a : UploadAct) (τ : Uploads) : Prop where
  others : ∀ m, m ≠ a.call → τ.calls m = σ.calls m
  copying : ∀ c, (τ.calls a.call).copyingOf = some c →
    (σ.calls a.call).copyingOf = some c ∨ a = .probe a.call ∧ σ.calls a.call = .probing c ∧
      blobExists c.upload.backend σ.ev c.key = false
  blobs : ∀ key, τ.ev.blobs key = σ.ev.blobs key ∨
    ∃ c l, (σ.calls a.call).copyingOf = some c ∧ c.key = key ∧ c.written = some l ∧
      (kind = .localDisk ∨ τ.ev.blobs key = some l)
  kept : ∀ key, σ.stored key = true → τ.stored key = true
  stored : ∀ key, τ.stored key = true → σ.stored key = true ∨
    (τ.calls a.call).copyingOf = none ∧
      ∃ c l, (σ.calls a.call).copyingOf = some c ∧ c.key = key ∧ c.written = some l ∧
        (kind = .localDisk ∨ τ.ev.blobs key = some l)
  opened : ∀ c offset, τ.calls a.call = .writing c offset →
    kind = .localDisk ∧ ∃ l, c.written = some l

section Effects

variable {kind : StorageKind} {σ τ : Uploads} {n : ℕ} {c : Staged}

@[simp] theorem Uploads.setCall_self (call : Call) : (σ.setCall n call).calls n = call := by
  simp [Uploads.setCall]

theorem Uploads.setCall_other (call : Call) {m : ℕ} (h : m ≠ n) :
    (σ.setCall n call).calls m = σ.calls m := by
  simp [Uploads.setCall, h]

@[simp] theorem Uploads.setCall_ev (call : Call) : (σ.setCall n call).ev = σ.ev := rfl
@[simp] theorem Uploads.setCall_stored (call : Call) : (σ.setCall n call).stored = σ.stored := rfl

@[simp] theorem Uploads.finishCopy_ev : (σ.finishCopy n c).ev = σ.ev := by
  unfold Uploads.finishCopy
  split <;> rfl

theorem Uploads.finishCopy_other {m : ℕ} (h : m ≠ n) :
    (σ.finishCopy n c).calls m = σ.calls m := by
  unfold Uploads.finishCopy
  split <;> exact Uploads.setCall_other _ h

theorem Uploads.finishCopy_copyingOf : ((σ.finishCopy n c).calls n).copyingOf = none := by
  unfold Uploads.finishCopy
  split <;> simp [Call.copyingOf, Uploads.setCall]

theorem Uploads.finishCopy_not_writing (c' : Staged) (offset : ℕ) :
    (σ.finishCopy n c).calls n ≠ .writing c' offset := by
  unfold Uploads.finishCopy
  split <;> simp [Uploads.setCall]

theorem Uploads.finishCopy_kept (key : String) (h : σ.stored key = true) :
    (σ.finishCopy n c).stored key = true := by
  unfold Uploads.finishCopy
  split
  · by_cases hk : key = c.key <;> simp [hk, Function.update, h]
  · exact h

/-- A key is newly stored only by a copy that succeeded, which leaves all its bytes. -/
theorem Uploads.finishCopy_stored {key : String} (h : (σ.finishCopy n c).stored key = true) :
    σ.stored key = true ∨ c.key = key ∧ c.written = some c.bytes := by
  unfold Uploads.finishCopy at h
  split at h
  · rename_i hdone
    by_cases hk : key = c.key
    · exact .inr ⟨hk.symm, by simp [Staged.written, hdone, CopyOutcome.leaves]⟩
    · exact .inl (by simpa [Function.update, hk] using h)
  · exact .inl h

theorem putBlob_self (ev : Evidence) (key : String) (bytes : Blob) :
    (putBlob ev key bytes).blobs key = some bytes := by
  simp [putBlob]

theorem putBlob_other (ev : Evidence) (bytes : Blob) {key k : String} (h : k ≠ key) :
    (putBlob ev key bytes).blobs k = ev.blobs k := by
  simp [putBlob, h]

theorem recordEvidence_blobs [PyText] (sha256 : Blob → String) (u : Upload)
    (key filename : String) (bytes : Blob) (doc : FetchedDocument) (ev : Evidence) :
    (recordEvidence sha256 u key filename bytes doc ev).2.blobs = ev.blobs := by
  unfold recordEvidence
  split
  · rfl
  · exact (grows_createEvidence ‹_›).2.2.2

/-- A step that only moves its call on, to a place where it copies nothing. -/
theorem effect_setCall {a : UploadAct} {call : Call} (hcall : call.copyingOf = none) :
    StepEffect kind σ a (σ.setCall a.call call) where
  others _ hm := Uploads.setCall_other _ hm
  copying c hc := by
    rw [Uploads.setCall_self, hcall] at hc
    cases hc
  blobs _ := .inl rfl
  kept _ h := h
  stored _ h := .inl h
  opened c offset hc := by
    rw [Uploads.setCall_self] at hc
    subst hc
    cases hcall

/-- The end of a copy, once the bytes it leaves are in place. -/
theorem effect_finish {a : UploadAct} {ev : Evidence}
    (hcopy : (σ.calls a.call).copyingOf = some c)
    (hblobs : ∀ key, key ≠ c.key → ev.blobs key = σ.ev.blobs key)
    (hself : ev.blobs c.key = σ.ev.blobs c.key ∨ ∃ l, c.written = some l ∧ ev.blobs c.key = some l)
    (hwritten : ∀ l, c.written = some l → kind = .localDisk ∨ ev.blobs c.key = some l) :
    StepEffect kind σ a ({ σ with ev := ev }.finishCopy a.call c) where
  others _ hm := Uploads.finishCopy_other hm
  copying c' hc := by
    rw [Uploads.finishCopy_copyingOf] at hc
    cases hc
  blobs key := by
    rw [Uploads.finishCopy_ev]
    by_cases hk : key = c.key
    · subst hk
      obtain hsame | ⟨l, hl, hput⟩ := hself
      · exact .inl hsame
      · exact .inr ⟨c, l, hcopy, rfl, hl, .inr hput⟩
    · exact .inl (hblobs key hk)
  kept key h := Uploads.finishCopy_kept key h
  stored key h := by
    obtain hold | ⟨hk, hl⟩ := Uploads.finishCopy_stored h
    · exact .inl hold
    · rw [Uploads.finishCopy_ev]
      exact .inr ⟨Uploads.finishCopy_copyingOf, c, c.bytes, hcopy, hk, hl,
        hk ▸ hwritten c.bytes hl⟩
  opened c' offset hc := (Uploads.finishCopy_not_writing c' offset hc).elim

/-- `LocalStorage` rewrites part of the file it has open. -/
theorem effect_local {a : UploadAct} {bytes l : Blob} {offset : ℕ}
    (hcopy : (σ.calls a.call).copyingOf = some c) (hl : c.written = some l)
    (hkind : kind = .localDisk) :
    StepEffect kind σ a
      ({ σ with ev := putBlob σ.ev c.key bytes }.setCall a.call (.writing c offset)) where
  others _ hm := Uploads.setCall_other _ hm
  copying c' hc := by
    rw [Uploads.setCall_self] at hc
    obtain rfl : c = c' := Option.some.inj hc
    exact .inl hcopy
  blobs key := by
    by_cases hk : key = c.key
    · exact .inr ⟨c, l, hcopy, hk.symm, hl, .inl hkind⟩
    · exact .inl (putBlob_other σ.ev bytes hk)
  kept _ h := h
  stored _ h := .inl h
  opened c' offset' hc := by
    rw [Uploads.setCall_self] at hc
    cases hc
    exact ⟨hkind, l, hl⟩

theorem copyStep_effect {a : UploadAct} (hcall : σ.calls a.call = .copying c) :
    StepEffect kind σ a (σ.copyStep kind a.call c) := by
  have hcopy : (σ.calls a.call).copyingOf = some c := by rw [hcall]; rfl
  unfold Uploads.copyStep
  split
  · rename_i hnone
    exact effect_finish hcopy (fun _ _ => rfl) (.inl rfl) fun l hl => by
      rw [hnone] at hl
      cases hl
  · rename_i left hleft
    split
    · refine effect_finish hcopy (fun key hk => putBlob_other σ.ev left hk)
        (.inr ⟨left, hleft, putBlob_self σ.ev c.key left⟩) fun l hl => .inr ?_
      obtain rfl := Option.some.inj (hleft.symm.trans hl)
      exact putBlob_self σ.ev c.key left
    · exact effect_local hcopy hleft rfl

theorem uploadStep_effect [PyText] {sha256 : Blob → String} {a : UploadAct}
    (hopened : Opened kind σ) (h : uploadStep sha256 kind σ a = some τ) :
    StepEffect kind σ a τ := by
  cases uploadStep_cases sha256 kind h with
  | @begin n u doc hc =>
    refine effect_setCall (a := .begin n u doc) ?_
    unfold beginCall
    split
    · rfl
    · split <;> rfl
  | @probeFound n c hc he => exact effect_setCall (a := .probe n) rfl
  | @probeAbsent n c hc he =>
    refine ⟨fun _ hm => Uploads.setCall_other _ hm, fun c' hc' => .inr ⟨rfl, ?_⟩,
      fun _ => .inl rfl, fun _ h => h, fun _ h => .inl h, fun c' offset hw => ?_⟩
    · simp only [UploadAct.call, Uploads.setCall_self, Call.copyingOf, Option.some.injEq] at hc'
      subst hc'
      exact ⟨hc, he⟩
    · simp only [UploadAct.call, Uploads.setCall_self] at hw
      cases hw
  | @copy n c hc => exact copyStep_effect (a := .copy n) hc
  | @write n c offset count hc hle =>
    obtain ⟨hkind, l, hl⟩ := hopened n c offset hc
    have hcopy : (σ.calls n).copyingOf = some c := by rw [hc]; rfl
    exact effect_local (a := .write n count) hcopy hl hkind
  | @close n c offset hc hend =>
    obtain ⟨hkind, l, hl⟩ := hopened n c offset hc
    have hcopy : (σ.calls n).copyingOf = some c := by rw [hc]; rfl
    exact effect_finish (a := .close n) hcopy (fun _ _ => rfl) (.inl rfl) fun _ _ => .inl hkind
  | @record n c hc =>
    refine ⟨fun _ hm => Uploads.setCall_other _ hm, fun c' hc' => ?_, fun key => .inl ?_,
      fun _ h => h, fun _ h => .inl h, fun c' offset hw => ?_⟩
    · simp only [UploadAct.call, Uploads.setCall_self] at hc'
      cases hc'
    · rw [recordEvidence_blobs]
    · simp only [UploadAct.call, Uploads.setCall_self] at hw
      cases hw

end Effects

/-! A call that runs alone computes `_upload_artifact`. -/

theorem overlay_take {l : Blob} {offset count : ℕ} (h : offset + count ≤ l.length) :
    overlay (l.take offset) offset ((l.drop offset).take count) = l.take (offset + count) := by
  have hlen : (l.take offset).length = offset := by simp; omega
  have hdrop : (l.take offset).drop (offset + ((l.drop offset).take count).length) = [] := by
    refine List.drop_eq_nil_iff.mpr ?_
    rw [hlen]
    omega
  rw [overlay, hdrop, hlen, List.take_take, List.take_add]
  simp

theorem putBlob_putBlob (ev : Evidence) (key : String) (a b : Blob) :
    putBlob (putBlob ev key a) key b = putBlob ev key b := by
  simp [putBlob]

theorem putBlob_same {ev : Evidence} {key : String} {b : Blob} (h : ev.blobs key = some b) :
    putBlob ev key b = ev := by
  simp [putBlob, ← h]

/-- A copy that rewrites the key does not care what was there. -/
theorem copyIn_putBlob {ev : Evidence} {key : String} {bytes old l : Blob} {copy : CopyOutcome}
    (h : copy.leaves bytes = some l) :
    copyIn (putBlob ev key old) key bytes copy = copyIn ev key bytes copy := by
  cases copy with
  | done => simp [copyIn, putBlob_putBlob]
  | raised message left =>
    cases left with
    | none => cases h
    | some k => simp [copyIn, putBlob_putBlob]

/-- An open file holds the bytes up to the offset. -/
def PartWritten (ev : Evidence) : Call → Prop
  | .writing c offset => ∃ l, c.written = some l ∧ ev.blobs c.key = some (l.take offset)
  | _ => True

section Alone

variable [PyText] (sha256 : Blob → String)

/-- What the rest of a call computes when nothing comes in between. -/
def Call.rest (ev : Evidence) : Call → Option (FetchedDocument × Evidence)
  | .idle => none
  | .probing c => some (uploadFile sha256 c.upload c.key c.filename c.bytes c.doc ev)
  | .copying c | .writing c _ =>
    match copyIn ev c.key c.bytes c.upload.backend.copy with
    | (some message, ev) => some (uploadFailed message c.doc, ev)
    | (none, ev) => some (recordEvidence sha256 c.upload c.key c.filename c.bytes c.doc ev)
  | .recording c => some (recordEvidence sha256 c.upload c.key c.filename c.bytes c.doc ev)
  | .returned doc => some (doc, ev)

variable {sha256} {kind : StorageKind} {σ τ : Uploads} {n : ℕ} {c : Staged}

theorem rest_beginCall (u : Upload) (doc : FetchedDocument) (ev : Evidence) :
    Call.rest sha256 ev (beginCall u doc) = some (uploadArtifact sha256 u doc ev) := by
  unfold beginCall uploadArtifact
  cases hsource : u.source with
  | none => rfl
  | some file =>
    obtain ⟨filename, bytes⟩ := file
    cases hkey : u.keyFor filename <;> simp [hkey, Call.rest]

theorem rest_writing {ev : Evidence} {old l : Blob} {offset : ℕ} (h : c.written = some l) :
    Call.rest sha256 (putBlob ev c.key old) (.writing c offset) =
      Call.rest sha256 ev (.copying c) := by
  simp only [Call.rest]
  rw [copyIn_putBlob h]

theorem rest_finish {ev : Evidence}
    (hev : σ.ev = (copyIn ev c.key c.bytes c.upload.backend.copy).2) :
    Call.rest sha256 (σ.finishCopy n c).ev ((σ.finishCopy n c).calls n) =
      Call.rest sha256 ev (.copying c) := by
  rw [Uploads.finishCopy_ev, hev]
  unfold Uploads.finishCopy
  cases hcopy : c.upload.backend.copy with
  | done => simp [Call.rest, copyIn, hcopy, Uploads.setCall]
  | raised message left => cases left <;> simp [Call.rest, copyIn, hcopy]

omit [PyText] in
theorem finishCopy_partWritten : PartWritten (σ.finishCopy n c).ev ((σ.finishCopy n c).calls n) := by
  unfold Uploads.finishCopy
  split <;> simp [PartWritten, Uploads.setCall]

theorem rest_copyStep (hc : σ.calls n = .copying c) :
    Call.rest sha256 (σ.copyStep kind n c).ev ((σ.copyStep kind n c).calls n) =
        Call.rest sha256 σ.ev (σ.calls n) ∧
      PartWritten (σ.copyStep kind n c).ev ((σ.copyStep kind n c).calls n) := by
  have hleaves := copyIn_snd σ.ev c.key c.bytes c.upload.backend.copy
  rw [hc]
  unfold Uploads.copyStep Staged.written
  split
  · rename_i hnone
    rw [hnone] at hleaves
    exact ⟨rest_finish hleaves.symm, finishCopy_partWritten⟩
  · rename_i left hleft
    rw [hleft] at hleaves
    cases kind with
    | s3 => exact ⟨rest_finish hleaves.symm, finishCopy_partWritten⟩
    | localDisk =>
      simp only [Uploads.setCall_self, Uploads.setCall_ev]
      exact ⟨rest_writing hleft, left, hleft, putBlob_self σ.ev c.key []⟩

omit [PyText] in
theorem finishCopy_begun : (σ.finishCopy n c).calls n ≠ .idle := by
  unfold Uploads.finishCopy
  split <;> simp [Uploads.setCall]

omit [PyText] in
theorem copyStep_begun : (σ.copyStep kind n c).calls n ≠ .idle := by
  unfold Uploads.copyStep
  split
  · exact finishCopy_begun
  · cases kind with
    | s3 => exact finishCopy_begun
    | localDisk => simp

theorem rest_writeStep {offset count : ℕ} (hc : σ.calls n = .writing c offset)
    (hle : offset + count ≤ (c.written.getD []).length)
    (hpart : PartWritten σ.ev (σ.calls n)) :
    Call.rest sha256 (σ.writeStep n c offset count).ev ((σ.writeStep n c offset count).calls n) =
        Call.rest sha256 σ.ev (σ.calls n) ∧
      PartWritten (σ.writeStep n c offset count).ev ((σ.writeStep n c offset count).calls n) := by
  rw [hc] at hpart ⊢
  obtain ⟨l, hl, hblob⟩ := hpart
  have hbytes : c.written.getD [] = l := by rw [hl]; rfl
  rw [hbytes] at hle
  simp only [Uploads.writeStep, Uploads.setCall_self, Uploads.setCall_ev]
  rw [hbytes, hblob]
  refine ⟨rest_writing hl, l, hl, ?_⟩
  rw [putBlob_self, Option.getD_some, overlay_take hle]

theorem rest_close {offset : ℕ} (hc : σ.calls n = .writing c offset)
    (hend : offset = (c.written.getD []).length) (hpart : PartWritten σ.ev (σ.calls n)) :
    Call.rest sha256 (σ.finishCopy n c).ev ((σ.finishCopy n c).calls n) =
      Call.rest sha256 σ.ev (σ.calls n) := by
  rw [hc] at hpart ⊢
  obtain ⟨l, hl, hblob⟩ := hpart
  rw [hl, Option.getD_some] at hend
  rw [hend, List.take_length] at hblob
  refine rest_finish ?_
  have hleft : c.upload.backend.copy.leaves c.bytes = some l := hl
  rw [copyIn_snd, hleft]
  exact (putBlob_same hblob).symm

/-- Alone, a step of a call changes nothing about what the call computes. -/
theorem rest_step {a : UploadAct} (h : uploadStep sha256 kind σ a = some τ)
    (hbegun : σ.calls a.call ≠ .idle) (hpart : PartWritten σ.ev (σ.calls a.call)) :
    Call.rest sha256 τ.ev (τ.calls a.call) = Call.rest sha256 σ.ev (σ.calls a.call) ∧
      PartWritten τ.ev (τ.calls a.call) ∧ τ.calls a.call ≠ .idle := by
  cases uploadStep_cases sha256 kind h with
  | begin hc => exact (hbegun hc).elim
  | probeFound hc he =>
    simp [UploadAct.call, hc, Call.rest, uploadFile, he, PartWritten]
  | @probeAbsent n c hc he =>
    simp only [UploadAct.call, Uploads.setCall_self, Uploads.setCall_ev, hc]
    refine ⟨?_, trivial, by simp⟩
    simp only [Call.rest, uploadFile, he]
    rcases copyIn σ.ev c.key c.bytes c.upload.backend.copy with ⟨_ | message, ev⟩ <;> rfl
  | copy hc =>
    obtain ⟨hrest, hpart'⟩ := rest_copyStep hc
    exact ⟨hrest, hpart', copyStep_begun⟩
  | @write n c offset count hc hle =>
    obtain ⟨hrest, hpart'⟩ := rest_writeStep hc hle hpart
    exact ⟨hrest, hpart', by simp [Uploads.writeStep, UploadAct.call]⟩
  | close hc hend => exact ⟨rest_close hc hend hpart, finishCopy_partWritten, finishCopy_begun⟩
  | record hc => simp [UploadAct.call, hc, Call.rest, PartWritten]

/-- A call whose steps nothing interrupts returns what `_upload_artifact` returns, and
leaves the evidence that it leaves. -/
theorem alone_eq_uploadArtifact {u : Upload} {doc out : FetchedDocument} {acts : List UploadAct}
    (h : Runs (uploadStep sha256 kind) (fun _ a => a.call = n) σ (.begin n u doc :: acts) τ)
    (hret : τ.calls n = .returned out) : (out, τ.ev) = uploadArtifact sha256 u doc σ.ev := by
  cases h with
  | cons hs _ hrest =>
    cases uploadStep_cases sha256 kind hs with
    | begin hc =>
      have hbegin : Call.rest sha256 σ.ev (beginCall u doc) =
          some (uploadArtifact sha256 u doc σ.ev) := rest_beginCall u doc σ.ev
      have hinv := hrest.invariant (I := fun s => s.calls n ≠ .idle ∧ PartWritten s.ev (s.calls n) ∧
        Call.rest sha256 s.ev (s.calls n) = some (uploadArtifact sha256 u doc σ.ev)) ?_ ?_
      · obtain ⟨-, -, hout⟩ := hinv
        rw [hret] at hout
        exact Option.some.inj hout
      · rintro s a t ⟨hbegun, hpart, hout⟩ rfl hs
        obtain ⟨hrest', hpart', hbegun'⟩ := rest_step hs hbegun hpart
        exact ⟨hbegun', hpart', hrest'.trans hout⟩
      · simp only [Uploads.setCall_self, Uploads.setCall_ev]
        refine ⟨?_, ?_, hbegin⟩
        · unfold beginCall
          split
          · simp
          · split <;> simp
        · unfold beginCall
          split
          · trivial
          · split <;> trivial

end Alone

/-- What keeps stored bytes where they are: the copies under way do not clash with each
other, nor with what is stored. -/
structure Undisputed (kind : StorageKind) (σ : Uploads) : Prop where
  opened : Opened kind σ
  sole : ∀ n m c c', n ≠ m → (σ.calls n).copyingOf = some c →
    (σ.calls m).copyingOf = some c' → ¬ c.Clash kind c'
  held : ∀ n c, (σ.calls n).copyingOf = some c → ¬ c.Overwrites kind σ

theorem Staged.Clash.symm {kind : StorageKind} {c c' : Staged} (h : c.Clash kind c') :
    c'.Clash kind c := by
  obtain ⟨hk, l, l', hl, hl', hdiff⟩ := h
  exact ⟨hk.symm, l', l, hl', hl, hdiff.imp_right Ne.symm⟩

section Runs

variable {kind : StorageKind} {σ τ : Uploads} {a : UploadAct}

/-- One step leaves what is stored at a key as it is. -/
theorem StepEffect.stored_blob (h : StepEffect kind σ a τ) (hinv : Undisputed kind σ)
    {key : String} (hkey : σ.stored key = true) : τ.ev.blobs key = σ.ev.blobs key := by
  obtain hsame | ⟨c, l, hcopy, rfl, hl, hseen⟩ := h.blobs key
  · exact hsame
  · have hheld := hinv.held _ _ hcopy
    have hkind : kind ≠ .localDisk := fun hk => hheld ⟨hkey, l, hl, .inl hk⟩
    have hold : σ.ev.blobs c.key = some l := by
      by_contra hne
      exact hheld ⟨hkey, l, hl, .inr hne⟩
    rw [hold]
    exact hseen.resolve_left hkind

theorem StepEffect.undisputed (h : StepEffect kind σ a τ) (hinv : Undisputed kind σ)
    (hprobe : ProbeRight kind σ a) : Undisputed kind τ := by
  -- a copy under way after the step was under way before, or its probe was right
  have hold : ∀ n c, (τ.calls n).copyingOf = some c → (σ.calls n).copyingOf = some c ∨
      n = a.call ∧ ¬ c.Overwrites kind σ ∧
        ∀ m c', m ≠ n → (σ.calls m).copyingOf = some c' → ¬ c.Clash kind c' := by
    intro n c hc
    by_cases hn : n = a.call
    · subst hn
      obtain hc | ⟨ha, hp, he⟩ := h.copying c hc
      · exact .inl hc
      · exact .inr ⟨rfl, hprobe _ _ ha hp he⟩
    · rw [h.others n hn] at hc
      exact .inl hc
  refine ⟨fun n c offset hc => ?_, fun n m c c' hnm hc hc' => ?_, fun n c hc hover => ?_⟩
  · by_cases hn : n = a.call
    · subst hn
      exact h.opened c offset hc
    · rw [h.others n hn] at hc
      exact hinv.opened n c offset hc
  · obtain hc | ⟨rfl, -, hc⟩ := hold n c hc
    · obtain hc' | ⟨rfl, -, hc'⟩ := hold m c' hc'
      · exact hinv.sole n m c c' hnm hc hc'
      · exact fun hclash => hc' n c hnm hc hclash.symm
    · obtain hc' | ⟨rfl, -⟩ := hold m c' hc'
      · exact hc m c' hnm.symm hc'
      · exact (hnm rfl).elim
  · obtain ⟨hstored, l, hl, hdiff⟩ := hover
    by_cases hkey : σ.stored c.key = true
    · rw [h.stored_blob hinv hkey] at hdiff
      have hover : c.Overwrites kind σ := ⟨hkey, l, hl, hdiff⟩
      obtain hc | ⟨-, hc, -⟩ := hold n c hc
      · exact hinv.held n c hc hover
      · exact hc hover
    · obtain hstored | ⟨hdone, c₀, l₀, hcopy, hk, hl₀, hput⟩ := h.stored _ hstored
      · exact hkey hstored
      · have hn : a.call ≠ n := by
          rintro rfl
          rw [hdone] at hc
          cases hc
        rw [h.others n hn.symm] at hc
        refine hinv.sole _ _ _ _ hn hcopy hc ⟨hk, l₀, l, hl₀, hl, ?_⟩
        obtain hkind | hput := hput
        · exact .inl hkind
        · refine hdiff.imp_right fun hne heq => hne ?_
          rw [hput, heq]

theorem undisputed_start (kind : StorageKind) (ev : Evidence) :
    Undisputed kind (Uploads.start ev) :=
  ⟨(fun _ _ _ h => by cases h), (fun _ _ _ _ _ h => by cases h), (fun _ _ h => by cases h)⟩

/-- Evidence is write-once: along every run of uploads, in any order of their steps, whose
probes do not miss what is stored or being stored, the bytes of a stored key stay. -/
theorem evidence_write_once [PyText] (sha256 : Blob → String) (kind : StorageKind)
    (ev : Evidence) {σ τ : Uploads} {before after : List UploadAct}
    (h : Runs (uploadStep sha256 kind) (ProbeRight kind) (Uploads.start ev) before σ)
    (h' : Runs (uploadStep sha256 kind) (ProbeRight kind) σ after τ)
    (key : String) (hkey : σ.stored key = true) : τ.ev.blobs key = σ.ev.blobs key := by
  have hstep : ∀ s a t, Undisputed kind s → ProbeRight kind s a →
      uploadStep sha256 kind s a = some t → Undisputed kind t := fun s a t hinv hprobe hs =>
    (uploadStep_effect hinv.opened hs).undisputed hinv hprobe
  have hσ : Undisputed kind σ := h.invariant hstep (undisputed_start kind ev)
  refine (h'.relation (I := Undisputed kind) (R := fun s t : Uploads => ∀ key,
    s.stored key = true → t.stored key = true ∧ t.ev.blobs key = s.ev.blobs key) ?_ ?_ ?_
    hσ key hkey).2
  · exact fun s key hk => ⟨hk, rfl⟩
  · intro a b c hab hbc key hk
    obtain ⟨hb, heq⟩ := hab key hk
    obtain ⟨hc, heq'⟩ := hbc key hb
    exact ⟨hc, heq'.trans heq⟩
  · intro s a t hinv hprobe hs
    have heff := uploadStep_effect hinv.opened hs
    exact ⟨heff.undisputed hinv hprobe, fun key hk =>
      ⟨heff.kept key hk, heff.stored_blob hinv hk⟩⟩

end Runs

section Concrete

open scoped PyText.Ascii

/-- The deed of order 3, staged with other bytes by a later call. -/
def deedActs (n : ℕ) (u : Upload) : List UploadAct :=
  [.begin n u deedDocument, .probe n, .copy n]

/-- The rest of a local copy of `count` bytes. -/
def deedWrites (n count : ℕ) : List UploadAct := [.write n count, .close n]

def deedUnprobed (bytes : Blob) : Upload :=
  { deedUpload bytes 22 23 with
    backend := { probeOk := false, copy := .done, evidence := .ok (22, 23) } }

def deedKey : String := "1/3/DEED_SUBJECT_PARCEL.pdf"

/-- The acts of the first call up to the end of its copy. -/
def deedStored : StorageKind → List UploadAct
  | .s3 => deedActs 0 (deedUpload [1, 2] 20 21)
  | .localDisk => deedActs 0 (deedUpload [1, 2] 20 21) ++ deedWrites 0 2

theorem probeRight_of_not_probe {kind : StorageKind} {σ : Uploads} {a : UploadAct}
    (h : ∀ n, a ≠ .probe n) : ProbeRight kind σ a :=
  fun n _ ha => (h n ha).elim

/-- The first call's probe is right: nothing is stored and nobody else is at work. -/
theorem probeRight_first (kind : StorageKind) (u : Upload) :
    ProbeRight kind ((Uploads.start default).setCall 0 (beginCall u deedDocument)) (.probe 0) := by
  rintro n c ⟨⟩ - -
  refine ⟨fun hover => ?_, fun m c' hm hc' => ?_⟩
  · cases hover.1
  · rw [Uploads.setCall_other _ hm] at hc'
    cases hc'

/-- A second call for the stored key is begun, sees the blob and makes its own rows. -/
def deedSeen : List UploadAct :=
  [.record 0, .begin 1 (deedUpload [1] 22 23) deedDocument, .probe 1, .record 1]

theorem probeRight_seen {kind : StorageKind} {σ : Uploads} {c : Staged} {n : ℕ}
    (hc : σ.calls n = .probing c) (hseen : blobExists c.upload.backend σ.ev c.key = true) :
    ProbeRight kind σ (.probe n) := by
  rintro m c' ⟨⟩ hc' habsent
  rw [hc] at hc'
  cases hc'
  rw [hseen] at habsent
  cases habsent

theorem deed_stored_right (sha256 : Blob → String) : ∃ σ,
    Runs (uploadStep sha256 .s3) (ProbeRight .s3) (Uploads.start default)
        (deedActs 0 (deedUpload [1, 2] 20 21)) σ ∧
      σ.stored deedKey = true ∧ ∃ τ,
        Runs (uploadStep sha256 .s3) (ProbeRight .s3) σ deedSeen τ := by
  refine ⟨_, .cons rfl (probeRight_of_not_probe (fun _ h => by cases h))
    (.cons rfl (probeRight_first .s3 _)
      (.cons rfl (probeRight_of_not_probe (fun _ h => by cases h)) (.refl _))), rfl, ?_⟩
  exact ⟨_, .cons rfl (probeRight_of_not_probe (fun _ h => by cases h))
    (.cons rfl (probeRight_of_not_probe (fun _ h => by cases h))
      (.cons rfl (probeRight_seen rfl rfl)
        (.cons rfl (probeRight_of_not_probe (fun _ h => by cases h)) (.refl _))))⟩

/-- The condition of `evidence_write_once` in a run in which the key is uploaded twice. -/
theorem second_upload_keeps_blob : ∃ σ τ,
    Runs (uploadStep (fun _ => "") .s3) (ProbeRight .s3) (Uploads.start default)
        (deedActs 0 (deedUpload [1, 2] 20 21)) σ ∧
      Runs (uploadStep (fun _ => "") .s3) (ProbeRight .s3) σ deedSeen τ ∧
        τ.ev.blobs deedKey = σ.ev.blobs deedKey := by
  obtain ⟨σ, hσ, hstored, τ, hτ⟩ := deed_stored_right fun _ => ""
  exact ⟨σ, τ, hσ, hτ, evidence_write_once _ .s3 default hσ hτ deedKey hstored⟩

/-- The second call's probe fails, and its copy goes through. -/
def deedOverwritten : StorageKind → List UploadAct
  | .s3 => deedActs 1 (deedUnprobed [1])
  | .localDisk => deedActs 1 (deedUnprobed [1]) ++ deedWrites 1 1

theorem deed_stored (sha256 : Blob → String) (kind : StorageKind) : ∃ σ,
    exec (uploadStep sha256 kind) (Uploads.start default) (deedStored kind) = some σ ∧
      σ.stored deedKey = true ∧ σ.ev.blobs deedKey = some [1, 2] ∧
      ∃ τ, exec (uploadStep sha256 kind) σ (deedOverwritten kind) = some τ ∧
        τ.ev.blobs deedKey = some [1] := by
  cases kind with
  | s3 => exact ⟨_, rfl, rfl, rfl, _, rfl, rfl⟩
  | localDisk => exact ⟨_, rfl, rfl, rfl, _, rfl, rfl⟩

/-- On either backend a probe that fails lets the next call overwrite what is stored. -/
theorem stored_evidence_overwritten :
    ¬ ∃ (sha256 : Blob → String) (kind : StorageKind), ∀ ev σ τ before after,
      Runs (uploadStep sha256 kind) Always (Uploads.start ev) before σ →
        Runs (uploadStep sha256 kind) Always σ after τ →
          ∀ key, σ.stored key = true → τ.ev.blobs key = σ.ev.blobs key := by
  rintro ⟨sha256, kind, hall⟩
  obtain ⟨σ, hσ, hstored, hblob, τ, hτ, hblob'⟩ := deed_stored sha256 kind
  have heq := hall default σ τ _ _ (.of_exec hσ) (.of_exec hτ) deedKey hstored
  rw [hblob, hblob'] at heq
  simp at heq

end Concrete

end EvidenceUpload
end ResearchEngine
