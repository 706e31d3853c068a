import ResearchEngine.SettledDocuments

/-! The error and the file fields of a document against its status: every branch of the worker
writes its own fields and clears none, so they agree as long as no document with leftovers is
written again. -/
namespace ResearchEngine

namespace Doc

def NoError (row : Doc) : Prop := row.errorCode = none ∧ row.errorMessage = none

def NoFile (row : Doc) : Prop := row.fileId = none ∧ row.orderFileId = none ∧ row.uploadedAt = none

def Clean (row : Doc) : Prop := row.NoError ∧ row.NoFile

instance (row : Doc) : Decidable row.NoError := inferInstanceAs (Decidable (_ ∧ _))

instance (row : Doc) : Decidable row.NoFile := inferInstanceAs (Decidable (_ ∧ _ ∧ _))

instance (row : Doc) : Decidable row.Clean := inferInstanceAs (Decidable (_ ∧ _))

/-- The fields agree with the status; `last` is the outcome committed last for the document. -/
structure Agrees (last : Option FetchOutcome) (row : Doc) : Prop where
  message : row.status = .failed → row.errorMessage ≠ none
  code : row.status = .failed → row.errorCode = none →
    ∃ f, last = some (.ok f) ∧ f.status = .failed ∧ f.errorCode = none
  noError : row.status ≠ .failed → row.NoError
  noFile : row.status ≠ .uploaded → row.NoFile

end Doc

/-- A fetched document leaves no leftovers of the row behind. -/
def FetchedDocument.Fits (f : FetchedDocument) (row : Doc) : Prop :=
  if f.status = .failed then f.errorMessage ≠ none ∧ row.NoFile
  else if f.status = .uploaded then row.NoError
  else row.Clean

instance (f : FetchedDocument) (row : Doc) : Decidable (f.Fits row) :=
  inferInstanceAs (Decidable (ite _ _ _))

def FetchOutcome.fits : FetchOutcome → Doc → Bool
  | .error _, row => row.NoFile
  | .ok f, row => f.Fits row

namespace Run

variable {I : Type}

/-- What the step of a run writes to one document leaves no leftovers there. -/
def fits (r : Run) (act : WorkerAct I) (d : Uuid) (row : Doc) : Bool :=
  match act, r.phase with
  | .drain, .draining => d ∈ r.docIds → row.Clean
  | .mark, .marking doc _ => d = doc ∨ d ∈ r.skipped → row.Clean
  | .settle, .settling doc _ outcome => d ≠ doc ∨ outcome.fits row
  | .finish, .looping [] => d ∈ r.skipped → row.Clean
  | _, _ => true

/-- The outcome that the step commits for a document, if it commits one. -/
def settledNow (r : Run) (act : WorkerAct I) (d : Uuid) : Option FetchOutcome :=
  match act, r.phase with
  | .settle, .settling doc _ outcome => if d = doc then some outcome else none
  | _, _ => none

end Run

section Rows

variable {row : Doc} {last : Option FetchOutcome}

theorem Doc.setStatus_agrees_iff {status : DocStatus} (hf : status ≠ .failed)
    (hu : status ≠ .uploaded) : (row.setStatus status).Agrees last ↔ row.Clean := by
  constructor
  · intro h
    exact ⟨h.noError hf, h.noFile hu⟩
  · intro h
    exact ⟨fun hst => (hf hst).elim, fun hst => (hf hst).elim, fun _ => h.1, fun _ => h.2⟩

theorem Run.skipRow_agrees_iff (h : row.Agrees last) (skipped : List Uuid) (d : Uuid) :
    (Run.skipRow skipped d row).Agrees last ↔ (d ∈ skipped → row.Clean) := by
  unfold Run.skipRow
  by_cases hd : d ∈ skipped
  · rw [if_pos hd, Doc.setStatus_agrees_iff (by decide) (by decide)]
    simp [hd]
  · rw [if_neg hd]
    simp [hd, h]

theorem Doc.applyError_agrees_iff (message : String) (retries : ℕ) :
    (row.applyError message retries).Agrees last ↔ row.NoFile := by
  constructor
  · intro h
    exact h.noFile (by simp [Doc.applyError])
  · intro h
    refine ⟨fun _ => by simp [Doc.applyError], fun _ hcode => ?_, fun hst => (hst rfl).elim,
      fun _ => h⟩
    simp [Doc.applyError] at hcode

theorem Doc.applyFetched_status (f : FetchedDocument) (retries : ℕ) (stamps : Stamps) :
    (row.applyFetched f retries stamps).status = f.status := by
  unfold Doc.applyFetched
  dsimp only
  split
  · rfl
  · split <;> rfl

theorem Doc.applyFetched_noError (f : FetchedDocument) (retries : ℕ) (stamps : Stamps)
    (hf : f.status ≠ .failed) : (row.applyFetched f retries stamps).NoError ↔ row.NoError := by
  unfold Doc.applyFetched
  dsimp only
  rw [if_neg hf]
  split <;> rfl

theorem Doc.applyFetched_noFile (f : FetchedDocument) (retries : ℕ) (stamps : Stamps)
    (hu : f.status ≠ .uploaded) : (row.applyFetched f retries stamps).NoFile ↔ row.NoFile := by
  unfold Doc.applyFetched
  dsimp only
  rw [if_neg fun h => hu h.1]
  split <;> rfl

theorem Doc.applyFetched_failed (f : FetchedDocument) (retries : ℕ) (stamps : Stamps)
    (hf : f.status = .failed) :
    (row.applyFetched f retries stamps).errorCode = f.errorCode.map ErrorCode.value ∧
      (row.applyFetched f retries stamps).errorMessage = f.errorMessage := by
  simp [Doc.applyFetched, hf]

theorem Doc.applyFetched_agrees_iff (f : FetchedDocument) (retries : ℕ) (stamps : Stamps) :
    (row.applyFetched f retries stamps).Agrees (some (.ok f)) ↔ f.Fits row := by
  have hstatus : (row.applyFetched f retries stamps).status = f.status :=
    Doc.applyFetched_status f retries stamps
  unfold FetchedDocument.Fits
  by_cases hf : f.status = .failed
  · have hu : f.status ≠ .uploaded := by simp [hf]
    obtain ⟨hcode, hmessage⟩ : (row.applyFetched f retries stamps).errorCode =
        f.errorCode.map ErrorCode.value ∧
          (row.applyFetched f retries stamps).errorMessage = f.errorMessage :=
      Doc.applyFetched_failed f retries stamps hf
    rw [if_pos hf, ← Doc.applyFetched_noFile f retries stamps hu, ← hmessage]
    constructor
    · intro h
      exact ⟨h.message (hstatus.trans hf), h.noFile (hstatus ▸ hu)⟩
    · rintro ⟨hsome, hfile⟩
      refine ⟨fun _ => hsome, fun _ hnone => ⟨f, rfl, hf, ?_⟩, fun h => (h (hstatus.trans hf)).elim,
        fun _ => hfile⟩
      rw [hcode] at hnone
      exact Option.map_eq_none_iff.mp hnone
  · rw [if_neg hf, ← Doc.applyFetched_noError f retries stamps hf]
    have hne : (row.applyFetched f retries stamps).status ≠ .failed := hstatus ▸ hf
    by_cases hu : f.status = .uploaded
    · rw [if_pos hu]
      constructor
      · intro h
        exact h.noError hne
      · intro herror
        exact ⟨fun h => (hne h).elim, fun h => (hne h).elim, fun _ => herror,
          fun h => (h (hstatus.trans hu)).elim⟩
    · rw [if_neg hu, Doc.Clean, ← Doc.applyFetched_noError f retries stamps hf,
        ← Doc.applyFetched_noFile f retries stamps hu]
      constructor
      · intro h
        exact ⟨h.noError hne, h.noFile (hstatus ▸ hu)⟩
      · rintro ⟨herror, hfile⟩
        exact ⟨fun h => (hne h).elim, fun h => (hne h).elim, fun _ => herror, fun _ => hfile⟩

theorem Run.fetchingRow_agrees_iff (h : row.Agrees last) (doc : Uuid) (skipped : List Uuid)
    (d : Uuid) : (Run.fetchingRow doc d (Run.skipRow skipped d row)).Agrees last ↔
      (d = doc ∨ d ∈ skipped → row.Clean) := by
  unfold Run.fetchingRow
  by_cases hd : d = doc
  · rw [if_pos hd, Doc.setStatus_agrees_iff (by decide) (by decide)]
    -- a skip before the mark changes the status alone
    have hskip : (Run.skipRow skipped d row).Clean ↔ row.Clean := by
      unfold Run.skipRow
      split <;> rfl
    rw [hskip]
    simp [hd]
  · rw [if_neg hd, Run.skipRow_agrees_iff h]
    simp [hd]

theorem Run.settleRow_agrees_iff (h : row.Agrees last) (r : Run) (now : Time) (doc : Uuid)
    (outcome : FetchOutcome) (d : Uuid) :
    (r.settleRow now doc outcome d row).Agrees ((if d = doc then some outcome else none).or last) ↔
      (d ≠ doc ∨ outcome.fits row = true) := by
  unfold Run.settleRow
  by_cases hd : d = doc
  · rw [if_pos hd, if_pos hd, Option.some_or]
    cases outcome with
    | error message =>
      show (row.applyError _ _).Agrees _ ↔ _
      rw [Doc.applyError_agrees_iff]
      simp [hd, FetchOutcome.fits]
    | ok f =>
      show (row.applyFetched _ _ _).Agrees _ ↔ _
      rw [Doc.applyFetched_agrees_iff]
      simp [hd, FetchOutcome.fits]
  · rw [if_neg hd, if_neg hd, Option.none_or]
    simp [hd, h]

/-- Whether a step leaves the fields of a document in agreement is told by the row before it. -/
theorem Run.docWrite_agrees_iff {I : Type} (h : row.Agrees last) (r : Run) (now : Time)
    (act : WorkerAct I) (d : Uuid) :
    (r.docWrite now act d row).Agrees ((r.settledNow act d).or last) ↔ r.fits act d row = true := by
  cases act with
  | drain =>
    cases hp : r.phase with
    | draining =>
      simp only [Run.docWrite, Run.settledNow, Run.fits, hp, Option.none_or, decide_eq_true_eq]
      exact Run.skipRow_agrees_iff h r.docIds d
    | _ => simp [Run.docWrite, Run.settledNow, Run.fits, hp, h]
  | mark =>
    cases hp : r.phase with
    | marking doc todo =>
      simp only [Run.docWrite, Run.settledNow, Run.fits, hp, Option.none_or, decide_eq_true_eq]
      exact Run.fetchingRow_agrees_iff h doc r.skipped d
    | _ => simp [Run.docWrite, Run.settledNow, Run.fits, hp, h]
  | settle =>
    cases hp : r.phase with
    | settling doc todo outcome =>
      simp only [Run.docWrite, Run.settledNow, Run.fits, hp, decide_eq_true_eq]
      exact r.settleRow_agrees_iff h now doc outcome d
    | _ => simp [Run.docWrite, Run.settledNow, Run.fits, hp, h]
  | finish =>
    cases hp : r.phase with
    | looping todo =>
      cases todo with
      | nil =>
        simp only [Run.docWrite, Run.settledNow, Run.fits, hp, Option.none_or, decide_eq_true_eq]
        exact Run.skipRow_agrees_iff h r.skipped d
      | cons doc todo => simp [Run.docWrite, Run.settledNow, Run.fits, hp, h]
    | _ => simp [Run.docWrite, Run.settledNow, Run.fits, hp, h]
  | _ => simp [Run.docWrite, Run.settledNow, Run.fits, h]

theorem newDoc_agrees (now : Time) (job orderId : Uuid) (docType : DocType) :
    (newDoc now job orderId docType).Agrees last where
  message hst := by simp [newDoc] at hst
  code hst := by simp [newDoc] at hst
  noError _ := ⟨rfl, rfl⟩
  noFile _ := ⟨rfl, rfl, rfl⟩

end Rows

namespace JobMachine

open TransitionRuns

section Tracking

variable {I W : Type}

/-- The outcome that the step commits for a document. -/
def settledBy (σ : State W) : Action I → Uuid → Option FetchOutcome
  | .worker run act => (σ.runs run).settledNow act
  | _ => fun _ => none

/-- Every document that the step writes has no leftovers in the way of the write. -/
def Fitting (σ : State W) : Action I → Prop
  | .worker run act => ∀ d row, σ.store.docs.get d = some row →
      (σ.runs run).fits act d row = true
  | _ => True

/-- The machine with the outcome committed last for every document beside it. -/
def trackedStep [PyText] (F : Fetcher I W) (cfg : Settings)
    (t : State W × (Uuid → Option FetchOutcome)) (a : Action I) :
    Option (State W × (Uuid → Option FetchOutcome)) :=
  (step F cfg t.1 a).map fun τ => (τ, fun d => (settledBy t.1 a d).or (t.2 d))

def FieldsAgree (t : State W × (Uuid → Option FetchOutcome)) : Prop :=
  ∀ d row, t.1.store.docs.get d = some row → row.Agrees (t.2 d)

/-- What is committed for a document goes to its row. -/
theorem docWrite_agrees_iff {σ : State W} {a : Action I} {d : Uuid} {row : Doc}
    {last : Option FetchOutcome} (h : row.Agrees last) :
    (a.docWrite σ d row).Agrees ((settledBy σ a d).or last) ↔
      ∀ run act, a = .worker run act → (σ.runs run).fits act d row = true := by
  cases a with
  | worker run act =>
    show ((σ.runs run).docWrite σ.now act d row).Agrees _ ↔ _
    rw [show settledBy σ (.worker run act) d = (σ.runs run).settledNow act d from rfl,
      Run.docWrite_agrees_iff h]
    constructor
    · rintro hfit run' act' ⟨⟩
      exact hfit
    · intro hfit
      exact hfit run act rfl
  | _ =>
    refine iff_of_true ?_ fun run act ha => by cases ha
    show Doc.Agrees (Option.or none last) row
    rw [Option.none_or]
    exact h

theorem fitting_iff {σ : State W} {a : Action I} :
    Fitting σ a ↔ ∀ d row, σ.store.docs.get d = some row →
      ∀ run act, a = .worker run act → (σ.runs run).fits act d row = true := by
  cases a with
  | worker run act =>
    constructor
    · rintro h d row hrow run' act' ⟨⟩
      exact h d row hrow
    · intro h d row hrow
      exact h d row hrow run act rfl
  | _ => exact iff_of_true trivial fun d row _ run act ha => by cases ha

theorem fieldsAgree_start (outside : W) (now : Time) :
    FieldsAgree (State.start outside now, fun _ => none) := fun d row hrow => by
  cases hrow

variable [PyText] {F : Fetcher I W} {cfg : Settings}

theorem trackedStep_eq_some {t u : State W × (Uuid → Option FetchOutcome)} {a : Action I}
    (h : trackedStep F cfg t a = some u) :
    StepCase F cfg t.1 a u.1 ∧ u.2 = fun d => (settledBy t.1 a d).or (t.2 d) := by
  obtain ⟨τ, hτ, rfl⟩ := Option.map_eq_some_iff.mp h
  exact ⟨step_cases F cfg hτ, rfl⟩

/-- One step keeps the agreement exactly when it meets the condition. -/
theorem trackedStep_agrees {t u : State W × (Uuid → Option FetchOutcome)} {a : Action I}
    (ht : FieldsAgree t) (h : trackedStep F cfg t a = some u) :
    FieldsAgree u ↔ Fitting t.1 a := by
  obtain ⟨hs, hlast⟩ := trackedStep_eq_some h
  rw [fitting_iff]
  constructor
  · intro hu d row hrow
    have hwritten := hu d _ (hs.doc hrow)
    rw [hlast] at hwritten
    exact (docWrite_agrees_iff (ht d row hrow)).mp hwritten
  · intro hfit d row' hrow'
    obtain ⟨row, hrow, rfl⟩ | ⟨job, orderId, docType, -, rfl⟩ := hs.doc_origin hrow'
    · rw [hlast]
      exact (docWrite_agrees_iff (ht d row hrow)).mpr (hfit d row hrow)
    · exact newDoc_agrees _ _ _ _

/-- The error and the file fields agree with the status throughout a run exactly when no step of
it writes a document over leftovers that do not fit the write. -/
theorem result_fields_agree_iff (F : Fetcher I W) (cfg : Settings) (outside : W) (now : Time)
    (as : List (Action I)) (u : State W × (Uuid → Option FetchOutcome))
    (h : Runs (trackedStep F cfg) Always (State.start outside now, fun _ => none) as u) :
    Throughout (trackedStep F cfg) FieldsAgree (State.start outside now, fun _ => none) as ↔
      Runs (trackedStep F cfg) (fun t a => Fitting t.1 a)
        (State.start outside now, fun _ => none) as u :=
  Runs.throughout_iff (I := fun _ => True) (fun _ _ _ _ _ => trivial)
    (fun _ _ _ _ ht hs => trackedStep_agrees ht hs) h trivial (fieldsAgree_start outside now)

end Tracking

section Concrete

open scoped PyText.Ascii

/-- A fetcher that raises once and then stores a file for every document. -/
def flakyFetcher : Fetcher Unit Bool := fun _ call up =>
  if up then
    (.ok { docType := call.docType, status := .uploaded, fileKey := some "k", fileId := some 20,
           orderFileId := some 21 }, true)
  else (.error "portal down", true)

def fitsEverywhere {W : Type} (t : State W × (Uuid → Option FetchOutcome)) : Action Unit → Bool
  | .worker run act => t.1.store.docs.rows.all fun p => (t.1.runs run).fits act p.1 p.2
  | _ => true

theorem fitting_of_everywhere {W : Type} {t : State W × (Uuid → Option FetchOutcome)}
    {a : Action Unit} (h : fitsEverywhere t a = true) : Fitting t.1 a := by
  cases a with
  | worker run act =>
    intro d row hrow
    exact List.all_eq_true.mp h (d, row) ((Table.mem_rows_iff _ _ _).mpr hrow)
  | _ => trivial

/-- One delivery of a job that goes through all its documents. -/
def wholeActs : List (Action Unit) :=
  submit ++ [.deliver 0 0, .worker 0 .read, .worker 0 (.list sampleDocs), .worker 0 .claim,
    .worker 0 (.enter sampleDocs (some sampleOrder))] ++
    (List.replicate 6 (research 0 ())).flatten ++ [.worker 0 .finish]

theorem whole_run_agrees : Throughout (trackedStep flakyFetcher {}) FieldsAgree
    (State.start false 0, fun _ => none) wholeActs := by
  have hfit : Runs (trackedStep flakyFetcher {}) (fun t a => Fitting t.1 a)
      (State.start false 0, fun _ => none) wholeActs
      (outcome (trackedStep flakyFetcher {}) (State.start false 0, fun _ => none) wholeActs) :=
    .of_check (b := fitsEverywhere) (fun _ _ => fitting_of_everywhere) (by decide +kernel)
  exact (result_fields_agree_iff flakyFetcher {} false 0 wholeActs _
    (hfit.mono fun _ _ _ => trivial)).mpr hfit

/-- The worker dies after a failed document; the next delivery uploads a file for it. -/
def refetchedActs : List (Action Unit) :=
  submit ++ [.deliver 0 0, .worker 0 .read, .worker 0 (.list sampleDocs), .worker 0 .claim,
    .worker 0 (.enter sampleDocs (some sampleOrder))] ++ research 0 () ++
    [.worker 0 (.lose true), .deliver 1 0, .worker 1 .read, .worker 1 (.list sampleDocs),
      .worker 1 .claim, .worker 1 (.enter sampleDocs (some sampleOrder))] ++ research 1 ()

def refetchedState : State Bool × (Uuid → Option FetchOutcome) :=
  outcome (trackedStep flakyFetcher {}) (State.start false 0, fun _ => none) refetchedActs

theorem refetched_document_keeps_error : (∃ row, refetchedState.1.store.docs.get 10 = some row ∧
      row.status = .uploaded ∧ row.errorCode = some "INTERNAL_ERROR") ∧
    ¬ ∀ (as : List (Action Unit)) (u : State Bool × (Uuid → Option FetchOutcome)),
      Runs (trackedStep flakyFetcher {}) Always (State.start false 0, fun _ => none) as u →
      Throughout (trackedStep flakyFetcher {}) FieldsAgree (State.start false 0, fun _ => none) as := by
  have hexec : exec (trackedStep flakyFetcher {}) (State.start false 0, fun _ => none) refetchedActs =
      some refetchedState := exec_outcome (by decide +kernel)
  have hfields : (refetchedState.1.store.docs.get 10).map (fun row => (row.status, row.errorCode)) =
      some (.uploaded, some "INTERNAL_ERROR") := by decide +kernel
  obtain ⟨row, hrow, hkey⟩ := Option.map_eq_some_iff.mp hfields
  obtain ⟨hst, hcode⟩ := Prod.mk.inj hkey
  refine ⟨⟨row, hrow, hst, hcode⟩, fun hall => ?_⟩
  have hagree : row.Agrees (refetchedState.2 10) :=
    hall refetchedActs refetchedState (.of_exec hexec) refetchedActs [] _ (by simp) hexec 10 row hrow
  have hnone := (hagree.noError (by rw [hst]; decide)).1
  rw [hcode] at hnone
  cases hnone

end Concrete

end JobMachine
end ResearchEngine
