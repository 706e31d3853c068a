import ResearchEngine.JobStore
import ResearchEngine.RaisingPrograms

/-! The database session of a run, from the delivery of the job's callback on: what SQLAlchemy says
of its flushes and commits when the database refuses one. -/
namespace ResearchEngine

/-- `job.callback_delivered = True` -/
def Job.deliver (j : Job) : Job := { j with callbackDelivered := true }

/-- Where a session stands. -/
inductive Standing
  /-- in a transaction with nothing to write -/
  | ready
  /-- the job has an attribute that is not flushed yet -/
  | changed
  /-- the `UPDATE` of the job is sent, but not committed -/
  | flushed
  /-- A flush failed. It has rolled the transaction back and expired the job, and the session sends no
  statement before `rollback()`. -/
  | rolledBack
  /-- A commit failed. The job is still loaded, and the session sends no statement before
  `rollback()`. -/
  | prepared
  deriving DecidableEq, Repr

/-- A session that has loaded one job. A query, a flush and a commit are told what the database
answers to the statement that they send: nothing, or the text of an error. -/
structure JobSession (S : Type) where
  job : Uuid
  standing : S → Standing
  /-- The rows as other sessions read them. -/
  committed : S → Store
  /-- The attributes of the job, unless they are expired. -/
  loaded : S → Option Job
  /-- Read attributes of the job; expired ones are queried first. -/
  read : Program S String Job
  /-- `ResearchDocumentRepository.list_for_job` -/
  listForJob : Option String → Program S String (List (Uuid × Doc))
  /-- `job.callback_delivered = True` -/
  deliver : S → S
  /-- `ResearchJobRepository.save` -/
  save : Option String → Program S String Unit
  commit : Option String → Program S String Unit

namespace JobSession

open Program

variable {S : Type} (o : JobSession S)

/-- A session whose job is loaded. -/
def At (st : Standing) (j : Job) (c : Store) (s : S) : Prop :=
  o.standing s = st ∧ o.loaded s = some j ∧ o.committed s = c

/-- A session after a failed flush. -/
def Lost (c : Store) (s : S) : Prop :=
  o.standing s = .rolledBack ∧ o.loaded s = none ∧ o.committed s = c

/-- The documented behaviour of a session, for any job and any rows. -/
structure Documented : Prop where
  read_loaded : ∀ st j c, st ≠ .rolledBack →
    Ensures (o.At st j c) o.read (fun a s => a = j ∧ o.At st j c s) (fun _ _ => False)
  /-- Expired attributes cannot be queried before `rollback()`. -/
  read_rolledBack : ∀ c, Ensures (o.Lost c) o.read (fun _ _ => False) (fun _ => o.Lost c)
  list_ok : ∀ j c, Ensures (o.At .ready j c) (o.listForJob none)
    (fun rows s => rows.Perm (c.docsForJob o.job) ∧ o.At .ready j c s) (fun _ _ => False)
  list_error : ∀ j c e, Ensures (o.At .ready j c) (o.listForJob (some e)) (fun _ _ => False)
    (fun _ s => o.committed s = c)
  /-- An attribute that is assigned the value that it has is no change. -/
  deliver_ready : ∀ j c s, o.At .ready j c s →
    o.At (if j.callbackDelivered then .ready else .changed) j.deliver c (o.deliver s)
  deliver_prepared : ∀ j c s, o.At .prepared j c s → o.At .prepared j.deliver c (o.deliver s)
  /-- Without a change no statement is sent. -/
  save_unchanged : ∀ j c answer, Ensures (o.At .ready j c) (o.save answer)
    (fun _ => o.At .ready j c) (fun _ _ => False)
  save_ok : ∀ j c, Ensures (o.At .changed j c) (o.save none) (fun _ => o.At .flushed j c)
    (fun _ _ => False)
  save_error : ∀ j c e, Ensures (o.At .changed j c) (o.save (some e)) (fun _ _ => False)
    (fun _ => o.Lost c)
  save_prepared : ∀ j c answer, Ensures (o.At .prepared j c) (o.save answer) (fun _ _ => False)
    (fun _ => o.At .prepared j c)
  commit_unchanged : ∀ j c, Ensures (o.At .ready j c) (o.commit none)
    (fun _ s => o.committed s = c) (fun _ _ => False)
  commit_ok : ∀ j c, Ensures (o.At .flushed j c) (o.commit none)
    (fun _ s => o.committed s = c.modifyJob o.job Job.deliver) (fun _ _ => False)
  commit_error : ∀ st j c e, st = .ready ∨ st = .flushed →
    Ensures (o.At st j c) (o.commit (some e)) (fun _ _ => False) (fun _ => o.At .prepared j c)

end JobSession

/-- A session with these answers: its rows, where it stands, and the loaded job. -/
structure OrmSession where
  committed : Store
  standing : Standing := .ready
  loaded : Option Job
  deriving Inhabited

namespace OrmSession

/-- The error of a session that waits for `rollback()`. -/
def refusal : Standing → String
  | .rolledBack => "This Session's transaction has been rolled back due to a previous exception " ++
      "during flush. To begin a new transaction with this Session, first issue Session.rollback()."
  | _ => "This session is in 'prepared' state; no further SQL can be emitted within this " ++
      "transaction."

def sends (st : Standing) : Bool := st ≠ .rolledBack ∧ st ≠ .prepared

/-- The session of the job with the given key. -/
def ofJob (job : Uuid) : JobSession OrmSession where
  job := job
  standing := standing
  committed := committed
  loaded := loaded
  read s := match s.loaded with
    | some j => (.ok j, s)
    | none => (.error (refusal s.standing), s)
  listForJob answer s :=
    if sends s.standing then match answer with
      | none => (.ok (s.committed.docsForJob job), s)
      | some e => (.error e, s)
    else (.error (refusal s.standing), s)
  deliver s :=
    { s with
      standing := if s.standing = .ready ∧ s.loaded.any (fun j => !j.callbackDelivered)
        then .changed else s.standing
      loaded := s.loaded.map Job.deliver }
  save answer s :=
    if sends s.standing then
      if s.standing = .changed then match answer with
        | none => (.ok (), { s with standing := .flushed })
        | some e => (.error e, { s with standing := .rolledBack, loaded := none })
      else (.ok (), s)
    else (.error (refusal s.standing), s)
  commit answer s :=
    if sends s.standing then match answer with
      | none => (.ok (), { s with
          committed := if s.standing = .flushed then s.committed.modifyJob job Job.deliver
            else s.committed
          standing := .ready })
      | some e => (.error e, { s with standing := .prepared })
    else (.error (refusal s.standing), s)

open Program JobSession

variable {job : Uuid} {st : Standing} {j : Job} {c : Store} {s : OrmSession} {A : Type}
  {p : Program OrmSession String A} {returns : A → OrmSession → Prop}
  {raises : String → OrmSession → Prop}

theorem at_iff : (ofJob job).At st j c s ↔ s = ⟨c, st, some j⟩ := by
  constructor
  · rintro ⟨rfl, hloaded, rfl⟩
    cases s
    exact congrArg _ hloaded
  · rintro rfl
    exact ⟨rfl, rfl, rfl⟩

theorem lost_iff : (ofJob job).Lost c s ↔ s = ⟨c, .rolledBack, none⟩ := by
  constructor
  · rintro ⟨hstanding, hloaded, rfl⟩
    cases s
    cases hstanding
    exact congrArg _ hloaded
  · rintro rfl
    exact ⟨rfl, rfl, rfl⟩

/-- There is one such state. -/
theorem ensures_at (h : Outcome returns raises (p.run ⟨c, st, some j⟩)) :
    Ensures ((ofJob job).At st j c) p returns raises := by
  intro s hs
  rw [at_iff.mp hs]
  exact h

theorem ofJob_documented (job : Uuid) : (ofJob job).Documented where
  read_loaded st j c _ := ensures_at ⟨rfl, rfl, rfl, rfl⟩
  read_rolledBack c s hs := by
    rw [lost_iff.mp hs]
    exact ⟨rfl, rfl, rfl⟩
  list_ok j c := ensures_at ⟨.refl _, rfl, rfl, rfl⟩
  list_error j c e := ensures_at rfl
  deliver_ready j c s hs := by
    rw [at_iff] at hs ⊢
    cases hj : j.callbackDelivered <;> simp [ofJob, hs, hj]
  deliver_prepared j c s hs := by
    rw [at_iff.mp hs]
    exact ⟨rfl, rfl, rfl⟩
  save_unchanged j c answer := ensures_at ⟨rfl, rfl, rfl⟩
  save_ok j c := ensures_at ⟨rfl, rfl, rfl⟩
  save_error j c e := ensures_at ⟨rfl, rfl, rfl⟩
  save_prepared j c answer := ensures_at ⟨rfl, rfl, rfl⟩
  commit_unchanged j c := ensures_at rfl
  commit_ok j c := ensures_at rfl
  commit_error st j c e hst := by
    rcases hst with rfl | rfl
    · exact ensures_at ⟨rfl, rfl, rfl⟩
    · exact ensures_at ⟨rfl, rfl, rfl⟩

end OrmSession
end ResearchEngine
