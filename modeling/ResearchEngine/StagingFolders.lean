import ResearchEngine.ConfirmedParcel
import ResearchEngine.ResearchRun
import ResearchEngine.StagedFiles
import ResearchEngine.TransitionRuns

/-! Research runs that share a disk: each stages its files in the folder of its property and
uploads them from there, with steps of the other runs in between. -/
namespace ResearchEngine

namespace Steps

section Folder

variable [PyText] [PyFloat] {dep : Deployment} {src : SourceAnswers}

/-- No step moves the run's folder. -/
theorem stepsFor_settled (wanted : Option (List StepKey)) (ds : List ResidentialDoc)
    (ctx : PropertyContext) :
    (stepsFor (Adapters.shipped dep src) wanted ds ctx).2.settled = ctx.settled := by
  induction ds generalizing ctx with
  | nil => rfl
  | cons d ds ih =>
    unfold stepsFor
    split
    · exact ih ctx
    · cases ha : Adapters.shipped dep src d.key with
      | none =>
        have hrest := ih (assemble ctx d {} .linkOnly none .low).2
        dsimp only [assembled]
        split <;> (rename_i h; rw [h] at hrest; exact hrest)
      | some adapter =>
        have hturn := runOne_settled (d := d) (Adapters.shipped_settles ha) ctx
        dsimp only
        generalize runOne d adapter ctx = turn at hturn ⊢
        obtain ⟨result, ctx'⟩ := turn
        cases result with
        | error e => exact hturn
        | ok step =>
          have hrest := ih ctx'
          dsimp only
          split <;> (rename_i h; rw [h] at hrest; exact hrest.trans hturn)

theorem researchOn_docsDir {staging : Staging} {wanted : Option (List StepKey)}
    {ctx : PropertyContext} {result : ResearchResult}
    (h : researchOn (Adapters.shipped dep src) staging wanted ctx = .ok result) :
    result.docsDir = ctx.folder := by
  have hsettled : (buildSteps (Adapters.shipped dep src) staging wanted ctx).2.settled =
      ctx.settled := by
    unfold buildSteps
    split
    · rfl
    · exact stepsFor_settled wanted residentialDocs ctx
  unfold researchOn at h
  split at h
  · cases h
  · rename_i steps ctx' hb
    rw [hb] at hsettled
    obtain ⟨_, -, h⟩ := bind_eq_ok.mp h
    obtain ⟨_, -, h⟩ := bind_eq_ok.mp h
    obtain rfl := Except.ok.inj h
    have hfolder : ctx'.settled.folder = ctx.settled.folder :=
      congrArg PropertyContext.folder hsettled
    exact hfolder

end Folder

end Steps

namespace StagingFolders

open TransitionRuns Fetching

/-- The order of one run, and what the geocoders and the parcel services say of it. -/
structure StageTask where
  order : OrderData
  geocoders : GeocoderAnswers
  parcels : ParcelServices
  staging : Staging

inductive StagePhase
  | waiting
  | staging (docTypes : List DocType) (ctx : PropertyContext)
  /-- The names that each upload still to come has to try. -/
  | uploading (folder : String) (todo : List (List String))
  | copying (folder file : String) (todo : List (List String))

namespace StagePhase

def folder : StagePhase → Option String
  | waiting => none
  | staging _ ctx => some ctx.folder
  | uploading folder _ | copying folder _ _ => some folder

/-- Whether the run is past its last write. -/
def built : StagePhase → Bool
  | waiting | staging _ _ => false
  | uploading _ _ | copying _ _ _ => true

/-- The names that may still be uploaded. -/
def names : StagePhase → List String
  | waiting | staging _ _ => []
  | uploading _ todo => todo.flatten
  | copying _ file todo => file :: todo.flatten

end StagePhase

structure StageRun where
  phase : StagePhase
  /-- What the run itself has written last under a name. -/
  staged : String → Option Blob

/-- `documents/` of every folder, the runs, and the files that were copied to the blob store. -/
structure Stages (ι : Type) where
  disk : String → String → Option Blob
  runs : ι → StageRun
  uploads : List (ι × String × Blob)

inductive StageAct
  /-- `fetch` is called for these types. -/
  | resolve (docTypes : List DocType)
  /-- A source writes a file under `documents/`. -/
  | save (file : String) (bytes : Blob)
  | build (sources : SourceAnswers) (staging : Staging)
  /-- `src.is_file()` for the next name. -/
  | find
  | copy
  /-- The key is taken: nothing is copied. -/
  | skip

section Step

variable {ι : Type} [DecidableEq ι]

def Stages.start (disk : String → String → Option Blob) : Stages ι where
  disk := disk
  runs _ := ⟨.waiting, fun _ => none⟩
  uploads := []

def Stages.setPhase (σ : Stages ι) (i : ι) (phase : StagePhase) : Stages ι :=
  { σ with runs := Function.update σ.runs i { σ.runs i with phase := phase } }

def Stages.write (σ : Stages ι) (i : ι) (folder file : String) (bytes : Blob) : Stages ι :=
  { σ with
    disk := Function.update σ.disk folder (Function.update (σ.disk folder) file (some bytes))
    runs := Function.update σ.runs i
      { σ.runs i with staged := Function.update (σ.runs i).staged file (some bytes) } }

/-- The files of the steps that `fetch` uploads. -/
def uploadsOf (docTypes : List DocType) (steps : List StepResult) : List (List String) :=
  (steps.filter fun step =>
    step.status = .ok ∧ (stepToDocType step.key).any (· ∈ docTypes)).map StepResult.downloaded

namespace Stages

variable {σ : Stages ι} {i j : ι} {phase : StagePhase} {folder folder' file file' : String}
  {bytes : Blob}

@[simp] theorem setPhase_phase : ((σ.setPhase i phase).runs i).phase = phase := by
  simp [setPhase]

@[simp] theorem setPhase_ne (h : j ≠ i) : (σ.setPhase i phase).runs j = σ.runs j := by
  simp [setPhase, h]

@[simp] theorem setPhase_staged :
    ((σ.setPhase i phase).runs j).staged = (σ.runs j).staged := by
  by_cases h : j = i
  · subst h
    simp [setPhase]
  · rw [setPhase_ne h]

@[simp] theorem setPhase_disk : (σ.setPhase i phase).disk = σ.disk := rfl

@[simp] theorem setPhase_uploads : (σ.setPhase i phase).uploads = σ.uploads := rfl

@[simp] theorem write_phase : ((σ.write i folder file bytes).runs j).phase = (σ.runs j).phase := by
  by_cases h : j = i
  · subst h
    simp [write]
  · simp [write, h]

@[simp] theorem write_staged : ((σ.write i folder file bytes).runs i).staged =
    Function.update (σ.runs i).staged file (some bytes) := by
  simp [write]

@[simp] theorem write_ne (h : j ≠ i) : (σ.write i folder file bytes).runs j = σ.runs j := by
  simp [write, h]

@[simp] theorem write_disk : (σ.write i folder file bytes).disk folder =
    Function.update (σ.disk folder) file (some bytes) := by
  simp [write]

@[simp] theorem write_disk_ne (h : folder' ≠ folder) :
    (σ.write i folder file bytes).disk folder' = σ.disk folder' := by
  simp [write, h]

@[simp] theorem write_uploads : (σ.write i folder file bytes).uploads = σ.uploads := rfl

end Stages

variable [PyText] [PyFloat] (dep : Deployment) (tasks : ι → StageTask)

def StageTask.resolved (t : StageTask) (docTypes : List DocType) : Except PyErr PropertyContext :=
  Context.resolvePropertyContext dep t.geocoders t.parcels t.staging (researchArgs t.order docTypes)

/-- One step of a run. A source names no file that it has not written. -/
def stageStep (σ : Stages ι) : ι × StageAct → Option (Stages ι)
  | (i, .resolve docTypes) =>
    match (σ.runs i).phase, (tasks i).resolved dep docTypes with
    | .waiting, .ok ctx =>
      if docTypes.isEmpty then none else some (σ.setPhase i (.staging docTypes ctx))
    | _, _ => none
  | (i, .save file bytes) =>
    match (σ.runs i).phase with
    | .staging _ ctx => some (σ.write i ctx.folder file bytes)
    | _ => none
  | (i, .build sources staging) =>
    match (σ.runs i).phase with
    | .staging docTypes ctx =>
      match Steps.researchOn (Adapters.shipped dep sources) staging
          (some (docTypes.map docTypeToStep)) ctx with
      | .error _ => some (σ.setPhase i (.uploading ctx.folder []))
      | .ok result =>
        let todo := uploadsOf docTypes result.steps
        if todo.flatten.all fun file => ((σ.runs i).staged file).isSome then
          some (σ.setPhase i (.uploading result.docsDir todo))
        else none
    | _ => none
  | (i, .find) =>
    match (σ.runs i).phase with
    | .uploading folder ([] :: todo) => some (σ.setPhase i (.uploading folder todo))
    | .uploading folder ((file :: names) :: todo) =>
      if (σ.disk folder file).isSome then some (σ.setPhase i (.copying folder file todo))
      else some (σ.setPhase i (.uploading folder (names :: todo)))
    | _ => none
  | (i, .copy) =>
    match (σ.runs i).phase with
    | .copying folder file todo => (σ.disk folder file).map fun bytes =>
      { σ.setPhase i (.uploading folder todo) with uploads := (i, file, bytes) :: σ.uploads }
    | _ => none
  | (i, .skip) =>
    match (σ.runs i).phase with
    | .copying folder _ todo => some (σ.setPhase i (.uploading folder todo))
    | _ => none

/-- Every file that was uploaded has the bytes that its own run staged. -/
def OwnBytes (σ : Stages ι) : Prop :=
  ∀ i file bytes, (i, file, bytes) ∈ σ.uploads → (σ.runs i).staged file = some bytes

/-- Everything a run can do in one step, with the guards it passed. -/
inductive StageCase (σ : Stages ι) (i : ι) : Stages ι → Prop
  | resolve {docTypes ctx} (hp : (σ.runs i).phase = .waiting)
      (hctx : (tasks i).resolved dep docTypes = .ok ctx) :
      StageCase σ i (σ.setPhase i (.staging docTypes ctx))
  | save {docTypes ctx file bytes} (hp : (σ.runs i).phase = .staging docTypes ctx) :
      StageCase σ i (σ.write i ctx.folder file bytes)
  | build {docTypes ctx todo} (hp : (σ.runs i).phase = .staging docTypes ctx)
      (hnamed : ∀ file ∈ todo.flatten, ((σ.runs i).staged file).isSome = true) :
      StageCase σ i (σ.setPhase i (.uploading ctx.folder todo))
  | pass {folder names todo} (hp : (σ.runs i).phase = .uploading folder (names :: todo))
      {names' : List String} (hsub : ∀ file ∈ names', file ∈ names) :
      StageCase σ i (σ.setPhase i (.uploading folder (names' :: todo)))
  | next {folder todo} (hp : (σ.runs i).phase = .uploading folder ([] :: todo)) :
      StageCase σ i (σ.setPhase i (.uploading folder todo))
  | find {folder file names todo}
      (hp : (σ.runs i).phase = .uploading folder ((file :: names) :: todo)) :
      StageCase σ i (σ.setPhase i (.copying folder file todo))
  | copy {folder file todo bytes} (hp : (σ.runs i).phase = .copying folder file todo)
      (hbytes : σ.disk folder file = some bytes) :
      StageCase σ i { σ.setPhase i (.uploading folder todo) with
        uploads := (i, file, bytes) :: σ.uploads }
  | skip {folder file todo} (hp : (σ.runs i).phase = .copying folder file todo) :
      StageCase σ i (σ.setPhase i (.uploading folder todo))

theorem stageStep_cases {σ τ : Stages ι} {i : ι} {act : StageAct}
    (h : stageStep dep tasks σ (i, act) = some τ) : StageCase dep tasks σ i τ := by
  cases act with
  | resolve docTypes =>
    simp only [stageStep] at h
    split at h
    · split at h
      · cases h
      · exact Option.some.inj h ▸ .resolve ‹_› ‹_›
    · cases h
  | save file bytes =>
    simp only [stageStep] at h
    split at h
    · exact Option.some.inj h ▸ .save ‹_›
    · cases h
  | build sources staging =>
    simp only [stageStep] at h
    split at h
    · rename_i docTypes ctx hp
      split at h
      · exact Option.some.inj h ▸ .build hp fun file hfile => by cases hfile
      · rename_i result hresult
        split at h
        · rename_i hnamed
          obtain rfl := Option.some.inj h
          rw [Steps.researchOn_docsDir hresult]
          exact .build hp (List.all_eq_true.mp hnamed)
        · cases h
    · cases h
  | find =>
    simp only [stageStep] at h
    split at h
    · exact Option.some.inj h ▸ .next ‹_›
    · rename_i hp
      split at h
      · exact Option.some.inj h ▸ .find hp
      · exact Option.some.inj h ▸ .pass hp fun file hfile => List.mem_cons_of_mem _ hfile
    · cases h
  | copy =>
    simp only [stageStep] at h
    split at h
    · rename_i hp
      obtain ⟨bytes, hbytes, rfl⟩ := Option.map_eq_some_iff.mp h
      exact .copy hp hbytes
    · cases h
  | skip =>
    simp only [stageStep] at h
    split at h
    · exact Option.some.inj h ▸ .skip ‹_›
    · cases h

/-- No two runs resolve to the same staging folder. -/
def Apart : Prop :=
  ∀ i j, i ≠ j → ∀ docTypes docTypes' ctx ctx', (tasks i).resolved dep docTypes = .ok ctx →
    (tasks j).resolved dep docTypes' = .ok ctx' → ctx.folder ≠ ctx'.folder

/-- What a run has staged is on the disk as the run wrote it, and is all that the run uploads. -/
structure OwnFiles (σ : Stages ι) : Prop where
  home : ∀ i folder, (σ.runs i).phase.folder = some folder →
    ∃ docTypes ctx, (tasks i).resolved dep docTypes = .ok ctx ∧ ctx.folder = folder
  blank : ∀ i, (σ.runs i).phase.folder = none → ∀ file, (σ.runs i).staged file = none
  kept : ∀ i folder, (σ.runs i).phase.folder = some folder → ∀ file bytes,
    (σ.runs i).staged file = some bytes → σ.disk folder file = some bytes
  named : ∀ i, ∀ file ∈ (σ.runs i).phase.names, ((σ.runs i).staged file).isSome = true
  built : ∀ i file bytes, (i, file, bytes) ∈ σ.uploads → (σ.runs i).phase.built = true
  own : OwnBytes σ

variable {dep tasks} {σ τ : Stages ι} {i : ι}

omit [DecidableEq ι] in
theorem OwnFiles.start (disk : String → String → Option Blob) :
    OwnFiles dep tasks (Stages.start disk) where
  home _ _ h := by cases h
  blank _ _ _ := rfl
  kept _ _ h := by cases h
  named _ _ h := by cases h
  built _ _ _ h := by cases h
  own _ _ _ h := by cases h

/-- A run moves on to names that it has staged. -/
theorem OwnFiles.setPhase (h : OwnFiles dep tasks σ) {phase : StagePhase} {folder : String}
    (hfolder : phase.folder = some folder)
    (hhome : (σ.runs i).phase.folder = some folder ∨ (σ.runs i).phase.folder = none ∧
      ∃ docTypes ctx, (tasks i).resolved dep docTypes = .ok ctx ∧ ctx.folder = folder)
    (hnamed : ∀ file ∈ phase.names, ((σ.runs i).staged file).isSome = true)
    (hbuilt : (σ.runs i).phase.built = true → phase.built = true) :
    OwnFiles dep tasks (σ.setPhase i phase) where
  home j f hf := by
    by_cases hj : j = i
    · subst hj
      rw [Stages.setPhase_phase, hfolder, Option.some.injEq] at hf
      subst hf
      obtain hsame | ⟨-, hctx⟩ := hhome
      · exact h.home j folder hsame
      · exact hctx
    · rw [Stages.setPhase_ne hj] at hf
      exact h.home j f hf
  blank j hj file := by
    by_cases hji : j = i
    · subst hji
      rw [Stages.setPhase_phase, hfolder] at hj
      cases hj
    · rw [Stages.setPhase_ne hji] at hj ⊢
      exact h.blank j hj file
  kept j f hf file bytes hbytes := by
    by_cases hj : j = i
    · subst hj
      rw [Stages.setPhase_phase, hfolder, Option.some.injEq] at hf
      subst hf
      rw [Stages.setPhase_staged] at hbytes
      obtain hsame | ⟨hnone, -⟩ := hhome
      · exact h.kept j folder hsame file bytes hbytes
      · rw [h.blank j hnone file] at hbytes
        cases hbytes
    · rw [Stages.setPhase_ne hj] at hf hbytes
      exact h.kept j f hf file bytes hbytes
  named j file hfile := by
    rw [Stages.setPhase_staged]
    by_cases hj : j = i
    · subst hj
      rw [Stages.setPhase_phase] at hfile
      exact hnamed file hfile
    · rw [Stages.setPhase_ne hj] at hfile
      exact h.named j file hfile
  built j file bytes hup := by
    have hj := h.built j file bytes hup
    by_cases hji : j = i
    · subst hji
      rw [Stages.setPhase_phase]
      exact hbuilt hj
    · rwa [Stages.setPhase_ne hji]
  own j file bytes hup := by
    rw [Stages.setPhase_staged]
    exact h.own j file bytes hup

/-- A write stays in the folder of its run. -/
theorem OwnFiles.write (hapart : Apart dep tasks) (h : OwnFiles dep tasks σ)
    {docTypes : List DocType} {ctx : PropertyContext}
    (hp : (σ.runs i).phase = .staging docTypes ctx) (file : String) (bytes : Blob) :
    OwnFiles dep tasks (σ.write i ctx.folder file bytes) where
  home j f hf := by
    rw [Stages.write_phase] at hf
    exact h.home j f hf
  blank j hj file' := by
    rw [Stages.write_phase] at hj
    have hne : j ≠ i := by
      rintro rfl
      rw [hp] at hj
      cases hj
    rw [Stages.write_ne hne]
    exact h.blank j hj file'
  kept j f hf file' bytes' hbytes := by
    rw [Stages.write_phase] at hf
    by_cases hj : j = i
    · subst hj
      obtain rfl : ctx.folder = f := by simpa [hp, StagePhase.folder] using hf
      rw [Stages.write_staged] at hbytes
      rw [Stages.write_disk]
      by_cases hfile : file' = file
      · subst hfile
        simpa using hbytes
      · rw [Function.update_of_ne hfile] at hbytes ⊢
        exact h.kept j _ hf file' bytes' hbytes
    · rw [Stages.write_ne hj] at hbytes
      have hother : f ≠ ctx.folder := by
        obtain ⟨_, ctx₁, hctx₁, rfl⟩ := h.home j f hf
        obtain ⟨_, ctx₂, hctx₂, hsame⟩ := h.home i ctx.folder (by rw [hp]; rfl)
        rw [← hsame]
        exact hapart j i hj _ _ _ _ hctx₁ hctx₂
      rw [Stages.write_disk_ne hother]
      exact h.kept j f hf file' bytes' hbytes
  named j file' hfile := by
    rw [Stages.write_phase] at hfile
    have hne : j ≠ i := by
      rintro rfl
      rw [hp] at hfile
      cases hfile
    rw [Stages.write_ne hne]
    exact h.named j file' hfile
  built j file' bytes' hup := by
    rw [Stages.write_phase]
    exact h.built j file' bytes' hup
  own j file' bytes' hup := by
    have hne : j ≠ i := by
      rintro rfl
      have hj := h.built j file' bytes' hup
      rw [hp] at hj
      cases hj
    rw [Stages.write_ne hne]
    exact h.own j file' bytes' hup

omit [DecidableEq ι] in
/-- A run uploads what it finds under a name of its own. -/
theorem OwnFiles.upload (h : OwnFiles dep tasks σ) {file : String} {bytes : Blob}
    (hbuilt : (σ.runs i).phase.built = true) (hown : (σ.runs i).staged file = some bytes) :
    OwnFiles dep tasks { σ with uploads := (i, file, bytes) :: σ.uploads } where
  home := h.home
  blank := h.blank
  kept := h.kept
  named := h.named
  built j file' bytes' hup := by
    obtain hnew | hold := List.mem_cons.mp hup
    · cases hnew
      exact hbuilt
    · exact h.built j file' bytes' hold
  own j file' bytes' hup := by
    obtain hnew | hold := List.mem_cons.mp hup
    · cases hnew
      exact hown
    · exact h.own j file' bytes' hold

/-- With folders of their own, no step of a run touches what another has staged. -/
theorem OwnFiles.step (hapart : Apart dep tasks) (h : OwnFiles dep tasks σ)
    (hstep : StageCase dep tasks σ i τ) : OwnFiles dep tasks τ := by
  have hmove : ∀ {phase : StagePhase} {folder : String}, phase.folder = some folder →
      (σ.runs i).phase.folder = some folder →
      (∀ file ∈ phase.names, ((σ.runs i).staged file).isSome = true) →
      ((σ.runs i).phase.built = true → phase.built = true) →
      OwnFiles dep tasks (σ.setPhase i phase) :=
    fun hf hsame => h.setPhase hf (.inl hsame)
  have hnames := h.named i
  cases hstep with
  | resolve hp hctx =>
    refine h.setPhase rfl (.inr ⟨by rw [hp]; rfl, _, _, hctx, rfl⟩) (fun _ hfile => by cases hfile) ?_
    rw [hp]
    exact fun hb => by cases hb
  | save hp => exact h.write hapart hp _ _
  | build hp hnamed => exact hmove rfl (by rw [hp]; rfl) hnamed fun _ => rfl
  | pass hp hsub =>
    rw [hp] at hnames
    refine hmove rfl (by rw [hp]; rfl) (fun file hfile => hnames file ?_) fun _ => rfl
    simp only [StagePhase.names, List.flatten_cons, List.mem_append] at hfile ⊢
    exact hfile.imp_left (hsub file)
  | next hp =>
    rw [hp] at hnames
    exact hmove rfl (by rw [hp]; rfl) hnames fun _ => rfl
  | find hp =>
    rw [hp] at hnames
    refine hmove rfl (by rw [hp]; rfl) (fun file hfile => hnames file ?_) fun _ => rfl
    simp only [StagePhase.names, List.flatten_cons, List.mem_cons, List.mem_append] at hfile ⊢
    exact hfile.elim (fun he => .inl (.inl he)) .inr
  | @copy folder file todo bytes hp hbytes =>
    rw [hp] at hnames
    have hmoved := @hmove (.uploading folder todo) folder rfl (by rw [hp]; rfl)
      (fun file hfile => hnames file (List.mem_cons_of_mem _ hfile)) fun _ => rfl
    refine hmoved.upload (by rw [Stages.setPhase_phase]; rfl) ?_
    obtain ⟨bytes', hstaged⟩ := Option.isSome_iff_exists.mp (hnames file List.mem_cons_self)
    rw [Stages.setPhase_staged, hstaged, ← hbytes,
      h.kept i folder (by rw [hp]; rfl) file bytes' hstaged]
  | skip hp =>
    rw [hp] at hnames
    exact hmove rfl (by rw [hp]; rfl) (fun file hfile => hnames file (List.mem_cons_of_mem _ hfile))
      fun _ => rfl

/-- Sources that are down, but for the flood map. -/
def mapOnly : SourceAnswers where
  parcelRecord := .error (.other "down")
  appraiserRecord := .error (.other "down")
  appraisal := .error (.other "down")
  clerkDocs _ _ := .error (.other "down")
  floodZones := .ok []
  floodPanels := .ok []
  floodMap := .ok (some "Flood_Map.png")
  floodReport := .error (.other "down")
  marks := .error (.network "down")
  datasheets := .error (.other "down")

omit [DecidableEq ι] in
/-- With those, a run for the flood map has the one file of fixed name to upload. -/
theorem flood_build (dep : Deployment) (ctx : PropertyContext) : ∃ result,
    Steps.researchOn (Adapters.shipped dep mapOnly) Context.sampleStaging
      (some ([DocType.femaFloodZoneFirm].map docTypeToStep)) ctx = .ok result ∧
    uploadsOf [.femaFloodZoneFirm] result.steps = [["Flood_Map.png"]] := by
  obtain ⟨step, hturn⟩ := Adapters.turn_total dep mapOnly ctx .femaFloodZoneFirm
  have hshows := Adapters.turn_shows dep mapOnly ctx hturn
  have hflood : ∃ f, Adapters.flood mapOnly ctx.countyFips = .ok f ∧ f.floodZone.truthy = false :=
    ⟨_, rfl, by simp [Adapters.pickByPrefix, Attrs.get, Value.truthy]⟩
  obtain ⟨f, hf, hzone⟩ := hflood
  have hok : step.status = .ok := hshows.ok.mpr (by
    simp only [Adapters.reportsOk, hf, hzone]
    rfl)
  have hfiles : step.downloaded = ["Flood_Map.png"] := by
    rw [hshows.files hok]
    simp only [Adapters.stagedFiles, hf, hzone]
    rfl
  have hkey : step.key = docTypeToStep .femaFloodZoneFirm := Steps.turn_key hturn
  have hsteps := Steps.stepsFor_single (Adapters.shipped dep mapOnly)
    (docTypeToStep .femaFloodZoneFirm) ctx
  rw [hturn] at hsteps
  unfold Steps.researchOn Steps.buildSteps
  simp only [Context.sampleStaging, List.map_cons, List.map_nil]
  generalize Steps.stepsFor _ _ _ _ = run at hsteps ⊢
  obtain ⟨result, ctx'⟩ := run
  obtain rfl : result = .ok [step] := hsteps
  refine ⟨_, rfl, ?_⟩
  simp [uploadsOf, hok, hkey, hfiles]

theorem resolved_folder {t : StageTask} {docTypes : List DocType} {ctx : PropertyContext}
    (h : t.resolved dep docTypes = .ok ctx) : ctx.folder =
      dep.jobsDir ++ "/" ++ Context.folderName ctx.jobNumber ctx.address ++ "/research" :=
  Context.resolvePropertyContext_folder h

/-- The types that a run is called for do not change its property. -/
theorem resolved_docTypes {t : StageTask} (docTypes docTypes' : List DocType) :
    t.resolved dep docTypes = t.resolved dep docTypes' := rfl

/-- Two runs that stage the same map in one folder: the first one uploads the map of the second. -/
theorem shared_folder {i j : ι} (hij : i ≠ j) {docTypes docTypes' : List DocType}
    {ctx ctx' : PropertyContext} (hi : (tasks i).resolved dep docTypes = .ok ctx)
    (hj : (tasks j).resolved dep docTypes' = .ok ctx') (hsame : ctx'.folder = ctx.folder)
    (disk : String → String → Option Blob) :
    ∃ as σ, Runs (stageStep dep tasks) Always (Stages.start disk) as σ ∧ ¬ OwnBytes σ := by
  obtain ⟨result, hresult, htodo⟩ := flood_build dep ctx
  have hdir := Steps.researchOn_docsDir hresult
  rw [resolved_docTypes docTypes [.femaFloodZoneFirm]] at hi
  rw [resolved_docTypes docTypes' [.femaFloodZoneFirm]] at hj
  let σ₁ : Stages ι := (Stages.start disk).setPhase i (.staging [.femaFloodZoneFirm] ctx)
  let σ₂ := σ₁.setPhase j (.staging [.femaFloodZoneFirm] ctx')
  let σ₃ := σ₂.write i ctx.folder "Flood_Map.png" [1]
  let σ₄ := σ₃.setPhase i (.uploading ctx.folder [["Flood_Map.png"]])
  let σ₅ := σ₄.setPhase i (.copying ctx.folder "Flood_Map.png" [])
  let σ₆ := σ₅.write j ctx'.folder "Flood_Map.png" [2]
  let σ₇ : Stages ι := { σ₆.setPhase i (.uploading ctx.folder []) with
    uploads := (i, "Flood_Map.png", [2]) :: σ₆.uploads }
  have h₁ : stageStep dep tasks (Stages.start disk) (i, .resolve [.femaFloodZoneFirm]) = some σ₁ := by
    simp [stageStep, hi, Stages.start, σ₁]
  have h₂ : stageStep dep tasks σ₁ (j, .resolve [.femaFloodZoneFirm]) = some σ₂ := by
    simp [stageStep, hj, σ₁, σ₂, hij.symm, Stages.start]
  have h₃ : stageStep dep tasks σ₂ (i, .save "Flood_Map.png" [1]) = some σ₃ := by
    simp [stageStep, σ₁, σ₂, σ₃, hij]
  have h₄ : stageStep dep tasks σ₃ (i, .build mapOnly Context.sampleStaging) = some σ₄ := by
    have hphase : (σ₃.runs i).phase = .staging [.femaFloodZoneFirm] ctx := by
      simp [σ₁, σ₂, σ₃, hij]
    simp only [stageStep, hphase, hresult, htodo, hdir]
    simp [σ₃, σ₄]
  have h₅ : stageStep dep tasks σ₄ (i, .find) = some σ₅ := by
    have hphase : (σ₄.runs i).phase = .uploading ctx.folder [["Flood_Map.png"]] := by simp [σ₄]
    simp only [stageStep, hphase]
    simp [σ₃, σ₄, σ₅]
  have h₆ : stageStep dep tasks σ₅ (j, .save "Flood_Map.png" [2]) = some σ₆ := by
    simp [stageStep, σ₂, σ₃, σ₄, σ₅, σ₆, hij.symm]
  have h₇ : stageStep dep tasks σ₆ (i, .copy) = some σ₇ := by
    have hphase : (σ₆.runs i).phase = .copying ctx.folder "Flood_Map.png" [] := by simp [σ₅, σ₆]
    have hdisk : σ₆.disk ctx.folder "Flood_Map.png" = some [2] := by
      rw [← hsame]
      simp [σ₆]
    simp only [stageStep, hphase, hdisk]
    rfl
  refine ⟨_, σ₇, .cons h₁ trivial <| .cons h₂ trivial <| .cons h₃ trivial <| .cons h₄ trivial <|
    .cons h₅ trivial <| .cons h₆ trivial <| .cons h₇ trivial <| .refl σ₇, fun hown => ?_⟩
  have hstaged : (σ₇.runs i).staged "Flood_Map.png" = some [2] :=
    hown i "Flood_Map.png" [2] List.mem_cons_self
  have hfirst : (σ₇.runs i).staged "Flood_Map.png" = some [1] := by
    show ((σ₆.setPhase i (.uploading ctx.folder [])).runs i).staged "Flood_Map.png" = some [1]
    simp [σ₃, σ₄, σ₅, σ₆, hij]
  rw [hfirst] at hstaged
  cases hstaged

/-- The runs of a family upload their own bytes in every interleaving exactly when the folder
names that `job_folder` makes of their properties differ. -/
theorem own_bytes_iff (dep : Deployment) (tasks : ι → StageTask) :
    (∀ disk as σ, Runs (stageStep dep tasks) Always (Stages.start disk) as σ → OwnBytes σ) ↔
      ∀ i j, i ≠ j → ∀ docTypes docTypes' ctx ctx', (tasks i).resolved dep docTypes = .ok ctx →
        (tasks j).resolved dep docTypes' = .ok ctx' →
        Context.folderName ctx.jobNumber ctx.address ≠
          Context.folderName ctx'.jobNumber ctx'.address := by
  constructor
  · intro hown i j hij docTypes docTypes' ctx ctx' hi hj hname
    have hsame : ctx'.folder = ctx.folder := by
      rw [resolved_folder hi, resolved_folder hj, hname]
    obtain ⟨as, σ, hrun, hnot⟩ := shared_folder hij hi hj hsame fun _ _ => none
    exact hnot (hown _ as σ hrun)
  · intro hnames disk as σ hrun
    have hapart : Apart dep tasks := by
      intro i j hij docTypes docTypes' ctx ctx' hi hj hfolder
      rw [resolved_folder hi, resolved_folder hj, String.append_left_inj,
        String.append_right_inj] at hfolder
      exact hnames i j hij _ _ _ _ hi hj hfolder
    have hfiles : OwnFiles dep tasks σ :=
      hrun.invariant (fun _ act _ h _ hstep => h.step hapart (stageStep_cases dep tasks hstep))
        (.start disk)
    exact hfiles.own

end Step

section Concrete

open scoped PyText.Ascii PyFloat.Whole

/-- An order at one street address, which the geocoder puts in one of two counties. -/
def elmStreet (miami : Bool) : StageTask where
  order := { id := if miami then 2 else 1, addressLine1 := "12 Elm St" }
  geocoders := Context.sampleGeocoder "12 ELM ST"
    (if miami then { baseName := "Miami-Dade", geoId := "12086", state := "12" }
      else { baseName := "Monroe", geoId := "12087", state := "12" })
  parcels := Context.sampleLayers "" ""
  staging := Context.sampleStaging

theorem elmStreet_folder (miami : Bool) : ∃ ctx,
    (elmStreet miami).resolved Context.sampleDeployment [] = .ok ctx ∧
      ctx.folder = "jobs/12 Elm St/research" ∧
      ctx.countyFips = if miami then "12086" else "12087" := by
  have hctx : Context.succeeds ((elmStreet miami).resolved Context.sampleDeployment [])
      (fun ctx => ctx.folder = "jobs/12 Elm St/research" ∧
        ctx.countyFips = if miami then "12086" else "12087") = true := by
    cases miami <;> decide +kernel
  obtain ⟨ctx, hres, hp⟩ := Context.succeeds_iff.mp hctx
  exact ⟨ctx, hres, of_decide_eq_true hp⟩

/-- Two orders in different counties, without a confirmed parcel, stage in one folder. -/
theorem two_counties_one_folder : ¬ ∀ (dep : Deployment) (tasks : Bool → StageTask),
    (∀ docTypes docTypes' ctx ctx', (tasks false).resolved dep docTypes = .ok ctx →
      (tasks true).resolved dep docTypes' = .ok ctx' → ctx.countyFips ≠ ctx'.countyFips ∨
        ctx.address ≠ ctx'.address ∨ ctx.parcelId ≠ ctx'.parcelId) →
    ∀ disk as σ, Runs (stageStep dep tasks) Always (Stages.start disk) as σ → OwnBytes σ := by
  intro hall
  obtain ⟨monroe, hm, hfolder, hfips⟩ := elmStreet_folder false
  obtain ⟨miami, hm', hfolder', hfips'⟩ := elmStreet_folder true
  have hdiffer : ∀ docTypes docTypes' ctx ctx',
      (elmStreet false).resolved Context.sampleDeployment docTypes = .ok ctx →
      (elmStreet true).resolved Context.sampleDeployment docTypes' = .ok ctx' →
      ctx.countyFips ≠ ctx'.countyFips ∨ ctx.address ≠ ctx'.address ∨
        ctx.parcelId ≠ ctx'.parcelId := by
    intro docTypes docTypes' ctx ctx' h h'
    obtain rfl := Except.ok.inj (h.symm.trans hm)
    obtain rfl := Except.ok.inj (h'.symm.trans hm')
    refine .inl ?_
    rw [hfips, hfips']
    decide
  obtain ⟨as, σ, hrun, hnot⟩ : ∃ as σ, Runs (stageStep Context.sampleDeployment elmStreet) Always
      (Stages.start fun _ _ => none) as σ ∧ ¬ OwnBytes σ :=
    shared_folder Bool.false_ne_true hm hm' (hfolder'.trans hfolder.symm) _
  exact hnot (hall _ elmStreet hdiffer _ as σ hrun)

end Concrete

end StagingFolders
end ResearchEngine
