import ResearchEngine.UploadedEvidence

/-! How often one blob key is linked to one order: an upload that finds its key taken makes the
rows all the same, so every repeated fetch of a staged file links it once more. -/
namespace ResearchEngine
namespace EvidenceUpload

/-- The `order_files` row `o` and the `files` row `f` link the key to the order. -/
def Links (ev : Evidence) (order : Uuid) (key : String) (o f : Uuid) : Prop :=
  ev.orderFiles.get o = some { orderId := order, fileId := f } ∧
    ∃ file, ev.files.get f = some file ∧ file.contentKey = some key

def Linked (ev : Evidence) (order : Uuid) (key : String) : Prop := ∃ o f, Links ev order key o f

/-- Every key is linked to every order by at most one row of each table. -/
def LinkedOnce (ev : Evidence) : Prop :=
  ∀ order key o f o' f', Links ev order key o f → Links ev order key o' f' → o = o' ∧ f = f'

/-- Every `order_files` row has its `files` row. -/
def Whole (ev : Evidence) : Prop :=
  ∀ o row, ev.orderFiles.get o = some row → row.fileId ∈ ev.files.keys

/-- The two tables are as they were. -/
def SameRows (ev ev' : Evidence) : Prop :=
  ev'.files = ev.files ∧ ev'.orderFiles = ev.orderFiles

/-- One new row in each table, for the order and the key. -/
def AddsLink (ev ev' : Evidence) (order : Uuid) (key : String) : Prop :=
  ∃ (f o : Uuid) (file : FileRow) (hf : f ∉ ev.files.keys) (ho : o ∉ ev.orderFiles.keys),
    file.contentKey = some key ∧ ev'.files = ev.files.insert f file hf ∧
      ev'.orderFiles = ev.orderFiles.insert o { orderId := order, fileId := f } ho

section Rows

variable {ev ev' : Evidence} {order : Uuid} {key : String}

theorem SameRows.refl (ev : Evidence) : SameRows ev ev := ⟨rfl, rfl⟩

theorem SameRows.linkedOnce (h : SameRows ev ev') : LinkedOnce ev' ↔ LinkedOnce ev := by
  obtain ⟨hfiles, horder⟩ := h
  unfold LinkedOnce Links
  rw [hfiles, horder]

theorem SameRows.whole (h : SameRows ev ev') (hw : Whole ev) : Whole ev' := by
  obtain ⟨hfiles, horder⟩ := h
  unfold Whole
  rw [hfiles, horder]
  exact hw

theorem AddsLink.of_sameRows {ev₀ : Evidence} (h : AddsLink ev ev' order key)
    (hsame : SameRows ev₀ ev) : AddsLink ev₀ ev' order key := by
  obtain ⟨blobs, files, orderFiles⟩ := ev
  obtain ⟨rfl, rfl⟩ := hsame
  exact h

theorem AddsLink.not_sameRows (h : AddsLink ev ev' order key) : ¬ SameRows ev ev' := by
  obtain ⟨f, o, file, hf, ho, -, hfiles, -⟩ := h
  rintro ⟨hsame, -⟩
  have hget : ev.files.get f = some file := by
    rw [← hsame, hfiles, Table.get_insert, if_pos rfl]
  exact hf ((Table.mem_keys_iff _ _).mpr ⟨file, hget⟩)

theorem AddsLink.whole (h : AddsLink ev ev' order key) (hw : Whole ev) : Whole ev' := by
  obtain ⟨f, o, file, hf, ho, -, hfiles, horder⟩ := h
  intro o' row hrow
  rw [horder, Table.get_insert] at hrow
  rw [hfiles, Table.mem_keys_iff]
  split at hrow
  · obtain rfl := Option.some.inj hrow
    exact ⟨file, by rw [Table.get_insert, if_pos rfl]⟩
  · obtain ⟨file', hfile'⟩ := (Table.mem_keys_iff _ _).mp (hw o' row hrow)
    have hne : row.fileId ≠ f := by
      intro he
      exact hf ((Table.mem_keys_iff _ _).mpr ⟨file', he ▸ hfile'⟩)
    exact ⟨file', by rw [Table.get_insert, if_neg hne]; exact hfile'⟩

/-- The links after the two inserts: those before, and the new one. -/
theorem AddsLink.links (h : AddsLink ev ev' order key) (hw : Whole ev) : ∃ o₀ f₀,
    o₀ ∉ ev.orderFiles.keys ∧ ∀ order' key' o f, Links ev' order' key' o f ↔
      Links ev order' key' o f ∨ (order' = order ∧ key' = key ∧ o = o₀ ∧ f = f₀) := by
  obtain ⟨f₀, o₀, file, hf, ho, hkey, hfiles, horder⟩ := h
  refine ⟨o₀, f₀, ho, fun order' key' o f => ?_⟩
  unfold Links
  rw [hfiles, horder]
  simp only [Table.get_insert]
  constructor
  · rintro ⟨hrow, file', hfile', hkey'⟩
    by_cases hnew : o = o₀
    · rw [if_pos hnew] at hrow
      obtain ⟨rfl, rfl⟩ := OrderFileRow.mk.inj (Option.some.inj hrow)
      rw [if_pos rfl] at hfile'
      obtain rfl := Option.some.inj hfile'
      exact Or.inr ⟨rfl, Option.some.inj (hkey'.symm.trans hkey), hnew, rfl⟩
    · rw [if_neg hnew] at hrow
      have hne : f ≠ f₀ := by
        rintro rfl
        exact hf (hw o _ hrow)
      rw [if_neg hne] at hfile'
      exact Or.inl ⟨hrow, file', hfile', hkey'⟩
  · rintro (⟨hrow, file', hfile', hkey'⟩ | ⟨rfl, rfl, rfl, rfl⟩)
    · have hne : o ≠ o₀ := by
        rintro rfl
        exact ho ((Table.mem_keys_iff _ _).mpr ⟨_, hrow⟩)
      have hne' : f ≠ f₀ := by
        rintro rfl
        exact hf ((Table.mem_keys_iff _ _).mpr ⟨_, hfile'⟩)
      rw [if_neg hne, if_neg hne']
      exact ⟨hrow, file', hfile', hkey'⟩
    · rw [if_pos rfl, if_pos rfl]
      exact ⟨rfl, file, rfl, hkey⟩

/-- One more link keeps the keys linked once exactly when there was none. -/
theorem AddsLink.linkedOnce (h : AddsLink ev ev' order key) (hw : Whole ev) (hev : LinkedOnce ev) :
    LinkedOnce ev' ↔ ¬ Linked ev order key := by
  obtain ⟨o₀, f₀, hfresh, hlinks⟩ := h.links hw
  have hold : ∀ {order' key' o f}, Links ev order' key' o f → o ≠ o₀ := by
    rintro order' key' o f ⟨hrow, -⟩ rfl
    exact hfresh ((Table.mem_keys_iff _ _).mpr ⟨_, hrow⟩)
  constructor
  · rintro hev' ⟨o, f, hl⟩
    have hnew := (hlinks order key o₀ f₀).mpr (Or.inr ⟨rfl, rfl, rfl, rfl⟩)
    exact hold hl (hev' order key o f o₀ f₀ ((hlinks _ _ _ _).mpr (Or.inl hl)) hnew).1
  · intro hno order' key' o f o' f' hl hl'
    rcases (hlinks _ _ _ _).mp hl with hl | ⟨rfl, rfl, rfl, rfl⟩
    · rcases (hlinks _ _ _ _).mp hl' with hl' | ⟨rfl, rfl, rfl, rfl⟩
      · exact hev order' key' o f o' f' hl hl'
      · exact (hno ⟨o, f, hl⟩).elim
    · rcases (hlinks _ _ _ _).mp hl' with hl' | ⟨-, -, rfl, rfl⟩
      · exact (hno ⟨o', f', hl'⟩).elim
      · exact ⟨rfl, rfl⟩

theorem sameRows_copyIn (ev : Evidence) (key : String) (bytes : Blob) (c : CopyOutcome) :
    SameRows ev (copyIn ev key bytes c).2 := by
  rw [copyIn_snd]
  split <;> exact ⟨rfl, rfl⟩

theorem creates_of_sameRows {ev ev' : Evidence} (h : SameRows ev ev') (b : Backend) :
    b.creates ev' ↔ b.creates ev := by
  unfold Backend.creates
  rw [h.1, h.2]

end Rows

section Upload

variable [PyText] (sha256 : Blob → String)

/-- The upload gets as far as its rows, for a blob at the key. -/
def Upload.Records (u : Upload) (ev : Evidence) (key : String) : Prop :=
  ∃ filename bytes, u.source = some (filename, bytes) ∧ u.keyFor filename = .ok key ∧
    (blobExists u.backend ev key = true ∨ u.backend.copy = .done) ∧ u.backend.creates ev

theorem recordEvidence_rows (u : Upload) (key filename : String) (bytes : Blob)
    (doc : FetchedDocument) (ev : Evidence) :
    let ev' := (recordEvidence sha256 u key filename bytes doc ev).2
    (u.backend.creates ev → AddsLink ev ev' u.orderId key) ∧
      (¬ u.backend.creates ev → SameRows ev ev') := by
  unfold recordEvidence
  split
  · rename_i message he
    exact ⟨fun hc => (createEvidence_error he hc).elim, fun _ => .refl ev⟩
  · rename_i fileId orderFileId ev' he
    obtain ⟨hids, hf, ho, rfl⟩ := createEvidence_ok he
    exact ⟨fun _ => ⟨fileId, orderFileId, _, hf, ho, rfl, rfl, rfl⟩,
      fun hno => (hno ⟨fileId, orderFileId, hids, hf, ho⟩).elim⟩

theorem uploadFile_rows (u : Upload) (key filename : String) (bytes : Blob) (doc : FetchedDocument)
    (ev : Evidence) :
    let ev' := (uploadFile sha256 u key filename bytes doc ev).2
    let recs := (blobExists u.backend ev key = true ∨ u.backend.copy = .done) ∧ u.backend.creates ev
    (recs → AddsLink ev ev' u.orderId key) ∧ (¬ recs → SameRows ev ev') := by
  unfold uploadFile
  split
  · rename_i hex
    obtain ⟨hadds, hsame⟩ := recordEvidence_rows sha256 u key filename bytes doc ev
    exact ⟨fun h => hadds h.2, fun h => hsame fun hc => h ⟨Or.inl hex, hc⟩⟩
  · rename_i hex
    have hcopy := sameRows_copyIn ev key bytes u.backend.copy
    split
    · rename_i message ev' hout
      rw [hout] at hcopy
      refine ⟨fun h => ?_, fun _ => hcopy⟩
      rcases h.1 with hex' | hdone
      · exact (hex hex').elim
      · rw [hdone] at hout
        cases hout
    · rename_i ev' hout
      have hdone : u.backend.copy = .done := copyIn_fst_eq_none (congrArg Prod.fst hout)
      rw [hout] at hcopy
      obtain ⟨hadds, hsame⟩ := recordEvidence_rows sha256 u key filename bytes doc ev'
      rw [creates_of_sameRows hcopy] at hadds hsame
      refine ⟨fun h => ?_, fun h => ?_⟩
      · exact (hadds h.2).of_sameRows hcopy
      · obtain ⟨hfiles, horder⟩ := hsame fun hc => h ⟨Or.inr hdone, hc⟩
        exact ⟨hfiles.trans hcopy.1, horder.trans hcopy.2⟩

/-- An upload adds one link, for the key that it records, or leaves the rows alone. -/
theorem uploadArtifact_rows (u : Upload) (doc : FetchedDocument) (ev : Evidence) :
    let ev' := (uploadArtifact sha256 u doc ev).2
    (∀ key, u.Records ev key → AddsLink ev ev' u.orderId key) ∧
      ((∀ key, ¬ u.Records ev key) → SameRows ev ev') := by
  unfold uploadArtifact
  split
  · rename_i hs
    refine ⟨fun key hr => ?_, fun _ => .refl ev⟩
    obtain ⟨filename, bytes, hsrc, -⟩ := hr
    rw [hs] at hsrc
    cases hsrc
  · rename_i filename bytes hs
    split
    · rename_i message hk
      refine ⟨fun key hr => ?_, fun _ => .refl ev⟩
      obtain ⟨filename', bytes', hsrc, hkey, -⟩ := hr
      obtain ⟨rfl, rfl⟩ := Prod.mk.inj (Option.some.inj (hs.symm.trans hsrc))
      rw [hk] at hkey
      cases hkey
    · rename_i key hk
      obtain ⟨hadds, hsame⟩ := uploadFile_rows sha256 u key filename bytes doc ev
      refine ⟨fun key' hr => ?_, fun hno => hsame fun hr => ?_⟩
      · obtain ⟨filename', bytes', hsrc, hkey, hrec⟩ := hr
        obtain ⟨rfl, rfl⟩ := Prod.mk.inj (Option.some.inj (hs.symm.trans hsrc))
        obtain rfl := Except.ok.inj (hk.symm.trans hkey)
        exact hadds hrec
      · exact hno key ⟨filename, bytes, hs, hk, hr⟩

end Upload

end EvidenceUpload

namespace Fetching

open EvidenceUpload

section Call

variable [PyText] [PyFloat] {A : Type} (eng : Engine A) (input : ResearchInput A)
  (order : OrderData) (docType : DocType) (tenantId : Uuid)

/-- The fetch calls its step ok and its upload gets as far as the rows, for a blob at the key. -/
def RecordsFor (ev : Evidence) (key : String) : Prop :=
  ∃ ctx step, resolveOrder eng input order [docType] = .ok ctx ∧
    stepOn eng input docType ctx = .ok step ∧ step.status = .ok ∧
    (uploadOf input order (some tenantId) docType step).Records ev key

variable {eng input order docType tenantId} in
theorem RecordsFor.key_unique {ev : Evidence} {key key' : String}
    (h : RecordsFor eng input order docType tenantId ev key)
    (h' : RecordsFor eng input order docType tenantId ev key') : key = key' := by
  obtain ⟨ctx, step, hctx, hstep, -, filename, bytes, hsrc, hkey, -⟩ := h
  obtain ⟨ctx', step', hctx', hstep', -, filename', bytes', hsrc', hkey', -⟩ := h'
  obtain rfl := Except.ok.inj (hctx.symm.trans hctx')
  obtain rfl := Except.ok.inj (hstep.symm.trans hstep')
  obtain ⟨rfl, rfl⟩ := Prod.mk.inj (Option.some.inj (hsrc.symm.trans hsrc'))
  exact Except.ok.inj (hkey.symm.trans hkey')

/-- A fetch adds one link to its order, for the key that it records, or leaves the rows alone. -/
theorem documentFetcher_rows (w : World) :
    let ev' := (documentFetcher eng input ⟨some order, docType, tenantId⟩ w).2.evidence
    (∀ key, RecordsFor eng input order docType tenantId w.evidence key →
        AddsLink w.evidence ev' order.id key) ∧
      ((∀ key, ¬ RecordsFor eng input order docType tenantId w.evidence key) →
        SameRows w.evidence ev') := by
  rw [documentFetcher_call]
  dsimp only
  cases hres : resolveOrder eng input order [docType] with
  | error e =>
    refine ⟨fun key hr => ?_, fun _ => .refl _⟩
    obtain ⟨ctx, step, hctx, -⟩ := hr
    rw [hres] at hctx
    cases hctx
  | ok ctx =>
    cases hstep : stepOn eng input docType ctx with
    | error e =>
      simp only [outcomeOn, Except.bind, hstep]
      refine ⟨fun key hr => ?_, fun _ => .refl _⟩
      obtain ⟨ctx', step, hctx, hstep', -⟩ := hr
      obtain rfl := Except.ok.inj (hres.symm.trans hctx)
      rw [hstep] at hstep'
      cases hstep'
    | ok step =>
      simp only [outcomeOn, Except.bind, hstep, settleStep, documentOf_status,
        mapStepStatus_eq_uploaded]
      by_cases hok : step.status = .ok
      · rw [if_pos hok]
        obtain ⟨hadds, hsame⟩ := uploadArtifact_rows eng.sha256
          (uploadOf input order (some tenantId) docType step) (documentOf docType step) w.evidence
        refine ⟨fun key hr => ?_, fun hno => hsame fun key hrec => ?_⟩
        · obtain ⟨ctx', step', hctx, hstep', -, hrec⟩ := hr
          obtain rfl := Except.ok.inj (hres.symm.trans hctx)
          obtain rfl := Except.ok.inj (hstep.symm.trans hstep')
          exact hadds key hrec
        · exact hno key ⟨ctx, step, hres, hstep, hok, hrec⟩
      · rw [if_neg hok]
        refine ⟨fun key hr => ?_, fun _ => .refl _⟩
        obtain ⟨ctx', step', hctx, hstep', hok', -⟩ := hr
        obtain rfl := Except.ok.inj (hres.symm.trans hctx)
        obtain rfl := Except.ok.inj (hstep.symm.trans hstep')
        exact (hok hok').elim

end Call

end Fetching

namespace JobMachine

open EvidenceUpload Fetching TransitionRuns

/-- The machine beside a record of what has been processed. -/
structure Processing where
  state : State World
  /-- The jobs whose task some run has taken to its final commit. -/
  processed : Uuid → Bool
  /-- The evidence before and after every fetch for a job processed before. -/
  refetches : List (Evidence × Evidence)

namespace Processing

def start (now : Time) : Processing := ⟨State.start default now, fun _ => false, []⟩

def evidence (p : Processing) : Evidence := p.state.outside.evidence

/-- The action takes the task of the job to its final commit. -/
def finishes {I : Type} (p : Processing) : Action I → Uuid → Bool
  | .worker run .finish, job => (p.state.runs run).task.jobId = job
  | _, _ => false

/-- The action is the return of a fetch for a job processed before. -/
def refetch {I : Type} (p : Processing) : Action I → Bool
  | .worker run (.receive _) => p.processed (p.state.runs run).task.jobId
  | _ => false

end Processing

section Runs

variable [PyText] [PyFloat] {A : Type} (eng : Engine A) (cfg : Settings)

def processingStep (p : Processing) (a : Action (ResearchInput A)) : Option Processing :=
  (step (documentFetcher eng) cfg p.state a).map fun τ =>
    { state := τ
      processed := fun job => p.processed job || p.finishes a job
      refetches :=
        if p.refetch a then (p.evidence, τ.outside.evidence) :: p.refetches else p.refetches }

/-- No key is linked twice, and no second processing of a task has touched the rows. -/
structure EvidenceOnce (p : Processing) : Prop where
  linked : LinkedOnce p.evidence
  repeated : ∀ q ∈ p.refetches, SameRows q.1 q.2

/-- A fetch makes rows only for a key that its order has none for, and only while its task has
not been processed to the end. -/
def RecordsOnce (p : Processing) : Action (ResearchInput A) → Prop
  | .worker run (.receive input) => ∀ doc todo d order key,
      (p.state.runs run).phase = .awaiting doc todo →
      Run.copyOf (p.state.runs run).docs doc = some d → (p.state.runs run).order = some order →
      RecordsFor eng input order d.docType (p.state.runs run).task.tenantId p.evidence key →
      ¬ Linked p.evidence order.id key ∧ p.processed (p.state.runs run).task.jobId = false
  | _ => True

variable {eng cfg} {p q : Processing} {a : Action (ResearchInput A)}

/-- What a step does to the rows: a fetch adds a link that it records, or they stay. -/
theorem processingStep_rows (h : processingStep eng cfg p a = some q) :
    (∃ run input doc todo d order key, a = .worker run (.receive input) ∧
        (p.state.runs run).phase = .awaiting doc todo ∧
        Run.copyOf (p.state.runs run).docs doc = some d ∧ (p.state.runs run).order = some order ∧
        RecordsFor eng input order d.docType (p.state.runs run).task.tenantId p.evidence key ∧
        AddsLink p.evidence q.evidence order.id key) ∨
      (SameRows p.evidence q.evidence ∧ RecordsOnce eng p a) := by
  obtain ⟨τ, hτ, rfl⟩ := Option.map_eq_some_iff.mp h
  show _ ∨ (SameRows p.evidence τ.outside.evidence ∧ _)
  cases step_cases _ _ hτ with
  | @worker run act e hw =>
    have hcase := workerStep_cases _ _ _ _ _ hw
    by_cases hact : ∃ input, act = .receive input
    · obtain ⟨input, rfl⟩ := hact
      cases hcase with
      | @receive _ doc todo d hp hd =>
        cases horder : (p.state.runs run).order with
        | none =>
          refine Or.inr ⟨?_, fun _ _ _ order _ _ _ hsome => ?_⟩
          · show SameRows _ (documentFetcher eng input _ p.state.outside).2.evidence
            rw [horder]
            exact .refl _
          · rw [horder] at hsome
            cases hsome
        | some order =>
          obtain ⟨hadds, hsame⟩ := documentFetcher_rows eng input order d.docType
            (p.state.runs run).task.tenantId p.state.outside
          rw [← horder] at hadds hsame
          by_cases hrec : ∃ key, RecordsFor eng input order d.docType
              (p.state.runs run).task.tenantId p.evidence key
          · obtain ⟨key, hkey⟩ := hrec
            exact Or.inl ⟨run, input, doc, todo, d, order, key, rfl, hp, hd, horder, hkey,
              hadds key hkey⟩
          · refine Or.inr ⟨hsame fun key hkey => hrec ⟨key, hkey⟩, ?_⟩
            intro doc' todo' d' order' key hp' hd' horder' hkey
            obtain ⟨rfl, rfl⟩ := Phase.awaiting.inj (hp.symm.trans hp')
            obtain rfl := Option.some.inj (hd.symm.trans hd')
            obtain rfl := Option.some.inj (horder.symm.trans horder')
            exact (hrec ⟨key, hkey⟩).elim
    · refine Or.inr ⟨?_, ?_⟩
      · rw [show (p.state.afterWorker run e).outside = e.outside from rfl,
          hcase.outside fun input hi => hact ⟨input, hi⟩]
        exact .refl _
      · unfold RecordsOnce
        split
        · rename_i heq
          cases heq
          exact (hact ⟨_, rfl⟩).elim
        · trivial
  | _ => exact Or.inr ⟨.refl _, trivial⟩

theorem processingStep_whole (h : processingStep eng cfg p a = some q) (hp : Whole p.evidence) :
    Whole q.evidence := by
  rcases processingStep_rows h with ⟨run, input, doc, todo, d, order, key, -, -, -, -, -, hadds⟩ | hsame
  · exact hadds.whole hp
  · exact hsame.1.whole hp

/-- One step keeps the rows single exactly when it records nothing twice. -/
theorem processingStep_once (h : processingStep eng cfg p a = some q) (hw : Whole p.evidence)
    (hp : EvidenceOnce p) : EvidenceOnce q ↔ RecordsOnce eng p a := by
  have hlog : q.refetches =
      if p.refetch a then (p.evidence, q.evidence) :: p.refetches else p.refetches := by
    obtain ⟨τ, hτ, rfl⟩ := Option.map_eq_some_iff.mp h
    rfl
  rcases processingStep_rows h with
    ⟨run, input, doc, todo, d, order, key, rfl, hph, hd, horder, hkey, hadds⟩ | ⟨hsame, hok⟩
  · have hlinked := hadds.linkedOnce hw hp.linked
    have hrefetch : p.refetch (.worker run (.receive input)) =
        p.processed (p.state.runs run).task.jobId := rfl
    rw [hrefetch] at hlog
    constructor
    · intro hq doc' todo' d' order' key' hph' hd' horder' hkey'
      obtain ⟨rfl, rfl⟩ := Phase.awaiting.inj (hph.symm.trans hph')
      obtain rfl := Option.some.inj (hd.symm.trans hd')
      obtain rfl := Option.some.inj (horder.symm.trans horder')
      obtain rfl := hkey.key_unique hkey'
      refine ⟨hlinked.mp hq.linked, ?_⟩
      by_contra hdone
      rw [if_pos (eq_true_of_ne_false hdone)] at hlog
      exact hadds.not_sameRows (hq.repeated (p.evidence, q.evidence) (by rw [hlog]; simp))
    · intro hok
      obtain ⟨hno, hdone⟩ := hok doc todo d order key hph hd horder hkey
      refine ⟨hlinked.mpr hno, ?_⟩
      rw [hlog, hdone]
      exact hp.repeated
  · refine iff_of_true ⟨(hsame.linkedOnce).mpr hp.linked, ?_⟩ hok
    rw [hlog]
    split
    · intro r hr
      rcases List.mem_cons.mp hr with rfl | hr
      · exact hsame
      · exact hp.repeated r hr
    · exact hp.repeated

omit [PyText] [PyFloat] in
theorem evidenceOnce_start (now : Time) : EvidenceOnce (Processing.start now) where
  linked order key o f o' f' hl := by cases hl.1
  repeated q hq := by cases hq

/-- In a run from an empty database every key stays linked once, and a second processing of a
task leaves the rows alone, exactly when no fetch makes rows for a key that its order has some
for, or for a task that has been processed to the end. -/
theorem evidence_once_iff (eng : Engine A) (cfg : Settings) (now : Time)
    (as : List (Action (ResearchInput A))) (q : Processing)
    (h : Runs (processingStep eng cfg) Always (Processing.start now) as q) :
    Throughout (processingStep eng cfg) EvidenceOnce (Processing.start now) as ↔
      Runs (processingStep eng cfg) (RecordsOnce eng) (Processing.start now) as q :=
  Runs.throughout_iff (I := fun p => Whole p.evidence)
    (fun _ _ _ hw hs => processingStep_whole hs hw)
    (fun _ _ _ hw hp hs => processingStep_once hs hw hp) h
    (fun o row hrow => by cases hrow) (evidenceOnce_start now)

end Runs

section Concrete

open scoped PyText.Ascii PyFloat.Whole

/-- The same parcel record, for a database that generates other ids. -/
def restagedInput : ResearchInput SourceAnswers :=
  { stagedInput with
    backend := fun _ => { probeOk := true, copy := .done, evidence := .ok (22, 23) } }

/-- The first delivery up to its last step, with its result committed. -/
def onceActs : List (Action (ResearchInput SourceAnswers)) :=
  calledActs "parcel" ++ [.worker 0 (.receive stagedInput), .worker 0 .settle, .worker 0 .finish]

theorem recordsOnce_of_noReceive {p : Processing} {a : Action (ResearchInput SourceAnswers)}
    (h : noReceive a = true) : RecordsOnce sampleEngine p a := by
  unfold RecordsOnce
  split
  · cases h
  · trivial

theorem single_delivery_once : Throughout (processingStep sampleEngine {}) EvidenceOnce
    (Processing.start 0) onceActs := by
  have hcalled : Runs (processingStep sampleEngine {}) (RecordsOnce sampleEngine)
      (Processing.start 0) (calledActs "parcel")
      (outcome (processingStep sampleEngine {}) (Processing.start 0) (calledActs "parcel")) :=
    .of_check (b := fun _ => noReceive) (fun _ _ => recordsOnce_of_noReceive) (by decide +kernel)
  have hempty : (outcome (processingStep sampleEngine {}) (Processing.start 0)
      (calledActs "parcel")).evidence.orderFiles.rows = [] := by decide +kernel
  have hfirst : (outcome (processingStep sampleEngine {}) (Processing.start 0)
      (calledActs "parcel")).processed 7 = false := by decide +kernel
  have hjob : ((outcome (processingStep sampleEngine {}) (Processing.start 0)
      (calledActs "parcel")).state.runs 0).task.jobId = 7 := by decide +kernel
  have hreceive : RecordsOnce sampleEngine (outcome (processingStep sampleEngine {})
      (Processing.start 0) (calledActs "parcel")) (.worker 0 (.receive stagedInput)) := by
    intro doc todo d order key _ _ _ _
    refine ⟨?_, by rw [hjob]; exact hfirst⟩
    rintro ⟨o, f, hrow, -⟩
    have hmem := (Table.mem_rows_iff _ _ _).mpr hrow
    rw [hempty] at hmem
    cases hmem
  have hlast : check (processingStep sampleEngine {}) (fun _ => noReceive)
      (outcome (processingStep sampleEngine {}) (outcome (processingStep sampleEngine {})
        (Processing.start 0) (calledActs "parcel")) [.worker 0 (.receive stagedInput)])
      [.worker 0 .settle, .worker 0 .finish] = true := by decide +kernel
  have hrun := hcalled.append (.cons (step_outcome (by decide +kernel)) hreceive
    (.of_check (fun _ _ => recordsOnce_of_noReceive) hlast))
  exact (evidence_once_iff sampleEngine {} 0 onceActs _ (hrun.mono fun _ _ _ => trivial)).mpr hrun

/-- The worker dies between the evidence rows and the document commit, and the task comes again. -/
def twiceActs : List (Action (ResearchInput SourceAnswers)) :=
  calledActs "parcel" ++ [.worker 0 (.receive stagedInput), .worker 0 (.lose true), .deliver 1 0,
    .worker 1 .read, .worker 1 (.list [10]), .worker 1 .claim,
    .worker 1 (.enter [10] (some sampleOrder)), .worker 1 .reread, .worker 1 .mark, .worker 1 .call,
    .worker 1 (.receive restagedInput)]

def twiceProcessing : Processing :=
  outcome (processingStep sampleEngine {}) (Processing.start 0) twiceActs

theorem redelivery_links_twice :
    (Links twiceProcessing.evidence 3 "1/3/PARCEL_RECORD.pdf" 21 20 ∧
        Links twiceProcessing.evidence 3 "1/3/PARCEL_RECORD.pdf" 23 22) ∧
      ¬ ∀ (as : List (Action (ResearchInput SourceAnswers))) (q : Processing),
        Runs (processingStep sampleEngine {}) Always (Processing.start 0) as q →
        Throughout (processingStep sampleEngine {}) EvidenceOnce (Processing.start 0) as := by
  have hexec : exec (processingStep sampleEngine {}) (Processing.start 0) twiceActs =
      some twiceProcessing := exec_outcome (by decide +kernel)
  have hlink : ∀ o f, (twiceProcessing.evidence.orderFiles.get o,
      (twiceProcessing.evidence.files.get f).map FileRow.contentKey) =
        (some { orderId := 3, fileId := f }, some (some "1/3/PARCEL_RECORD.pdf")) →
      Links twiceProcessing.evidence 3 "1/3/PARCEL_RECORD.pdf" o f := by
    intro o f h
    obtain ⟨horder, hfile⟩ := Prod.mk.inj h
    obtain ⟨file, hget, hkey⟩ := Option.map_eq_some_iff.mp hfile
    exact ⟨horder, file, hget, hkey⟩
  have hfirst := hlink 21 20 (by decide +kernel)
  have hsecond := hlink 23 22 (by decide +kernel)
  refine ⟨⟨hfirst, hsecond⟩, fun hall => ?_⟩
  have honce : EvidenceOnce twiceProcessing :=
    hall twiceActs twiceProcessing (.of_exec hexec) twiceActs [] _ (by simp) hexec
  cases (honce.linked _ _ _ _ _ _ hfirst hsecond).1

end Concrete

end JobMachine
end ResearchEngine
