import ResearchEngine.StagingNames
import ResearchEngine.TransitionRuns

/-! The files of a run: their names, made of what remote services answer, and where the system
finds those names from the run's folder. -/
namespace ResearchEngine
namespace StagingNames

open PyText BlobStorage Clerk Context TransitionRuns

/-! The parts of a name. -/

section Parts

theorem splitOnP_append_tail {α : Type} {p : α → Bool} {ext : List α}
    (hext : ∀ a ∈ ext, p a = false) (l : List α) :
    ∃ dirs last, l.splitOnP p = dirs ++ [last] ∧ (l ++ ext).splitOnP p = dirs ++ [last ++ ext] := by
  induction l with
  | nil => exact ⟨[], [], by rw [List.splitOnP_nil]; rfl, List.splitOnP_eq_singleton hext⟩
  | cons a l ih =>
    obtain ⟨dirs, last, hl, hlext⟩ := ih
    rw [List.cons_append, List.splitOnP_cons_eq_if_modifyHead, List.splitOnP_cons_eq_if_modifyHead,
      hl, hlext]
    split
    · exact ⟨[] :: dirs, last, rfl, rfl⟩
    · cases dirs with
      | nil => exact ⟨[], a :: last, rfl, rfl⟩
      | cons first dirs => exact ⟨(a :: first) :: dirs, last, rfl, rfl⟩

theorem splitOnP_append_head {α : Type} {p : α → Bool} {pre : List α}
    (hpre : ∀ a ∈ pre, p a = false) (l : List α) :
    ∃ first rest, l.splitOnP p = first :: rest ∧ (pre ++ l).splitOnP p = (pre ++ first) :: rest := by
  induction pre with
  | nil =>
    obtain ⟨first, rest, hl⟩ := List.exists_cons_of_ne_nil (List.splitOnP_ne_nil p l)
    exact ⟨first, rest, hl, hl⟩
  | cons a pre ih =>
    obtain ⟨first, rest, hl, hpl⟩ := ih fun b hb => hpre b (List.mem_cons_of_mem a hb)
    rw [List.cons_append, List.splitOnP_cons_eq_if_modifyHead, hpl, hpre a List.mem_cons_self]
    exact ⟨first, rest, hl, rfl⟩

/-- The directories that a name goes through, as `pathlib` reads it. -/
def dirNames (name : String) : List String :=
  (splitOn '/' name).dropLast.filter fun part => part ≠ "" ∧ part ≠ "."

def baseName (name : String) : String := (splitOn '/' name).getLastD ""

theorem notSlash {s : String} (h : '/' ∉ s.toList) : ∀ c ∈ s.toList, (c == '/') = false := by
  intro c hc
  exact beq_eq_false_iff_ne.mpr fun heq => h (heq ▸ hc)

theorem splitOn_plain {name : String} (h : Plain name) : splitOn '/' name = [name] := by
  unfold splitOn
  rw [List.splitOn_eq_splitOnP, List.splitOnP_eq_singleton (notSlash h.noSlash)]
  simp

theorem dirNames_plain {name : String} (h : Plain name) : dirNames name = [] := by
  unfold dirNames
  rw [splitOn_plain h]
  rfl

theorem baseName_plain {name : String} (h : Plain name) : baseName name = name := by
  unfold baseName
  rw [splitOn_plain h]
  rfl

/-- Nothing but a dot or two ends with a dot or two. -/
theorem plain_prepend {ext : String} {body : List Char}
    (h : Plain ext) (hbody : '/' ∉ body) : Plain (String.ofList body ++ ext) := by
  have hends {s : String} (heq : String.ofList body ++ ext = s) : ext.toList <:+ s.toList := by
    rw [← heq, String.toList_append]
    exact List.suffix_append _ _
  have hext {s : String} (hs : ext ≠ s) : ext.toList ≠ s.toList :=
    fun heq => hs (String.toList_injective heq)
  have hnil := hext h.nonempty
  have hdot := hext h.noDot
  have hdots := hext h.noDotDot
  refine ⟨fun heq => ?_, fun heq => ?_, fun heq => ?_, ?_⟩
  · exact hnil (List.suffix_nil.mp (hends heq))
  · have hsuf : ext.toList <:+ ['.'] := hends heq
    rw [List.suffix_cons_iff, List.suffix_nil] at hsuf
    exact hsuf.elim hdot hnil
  · have hsuf : ext.toList <:+ ['.', '.'] := hends heq
    rw [List.suffix_cons_iff, List.suffix_cons_iff, List.suffix_nil] at hsuf
    exact hsuf.elim hdots fun hrest => hrest.elim hdot hnil
  · rw [String.toList_append, String.toList_ofList, List.mem_append]
    exact fun hmem => hmem.elim hbody h.noSlash

/-- A name with a plain extension ends with a plain name. -/
theorem baseName_append {ext : String} (h : Plain ext) (s : String) :
    Plain (baseName (s ++ ext)) := by
  obtain ⟨dirs, last, hs, hext⟩ := splitOnP_append_tail (notSlash h.noSlash) s.toList
  have hbase : baseName (s ++ ext) = String.ofList last ++ ext := by
    unfold baseName splitOn
    rw [List.splitOn_eq_splitOnP, String.toList_append, hext, List.map_append]
    simp
  have hlast : last ∈ s.toList.splitOn '/' := by
    rw [List.splitOn_eq_splitOnP, hs]
    simp
  rw [hbase]
  exact plain_prepend h (not_mem_of_mem_splitOn last hlast)

/-- The directories of a name with a plain prefix: none, or a plain one first. -/
theorem dirNames_append {pre : String} (h : Plain pre) (s : String) :
    dirNames (pre ++ s) = [] ∨
      ∃ first rest, Plain first ∧ dirNames (pre ++ s) = first :: rest := by
  obtain ⟨first, rest, hs, hpre⟩ := splitOnP_append_head (notSlash h.noSlash) s.toList
  have hsplit : splitOn '/' (pre ++ s) = (pre ++ String.ofList first) :: rest.map String.ofList := by
    unfold splitOn
    rw [List.splitOn_eq_splitOnP, String.toList_append, hpre, List.map_cons]
    simp
  have hfirst : first ∈ s.toList.splitOn '/' := by
    rw [List.splitOn_eq_splitOnP, hs]
    exact List.mem_cons_self
  have hplain := h.append (not_mem_of_mem_splitOn first hfirst)
  unfold dirNames
  rw [hsplit]
  cases rest.map String.ofList with
  | nil => exact Or.inl rfl
  | cons second rest =>
    have hkept : decide (pre ++ String.ofList first ≠ "" ∧ pre ++ String.ofList first ≠ ".") = true :=
      decide_eq_true ⟨hplain.nonempty, hplain.noDot⟩
    exact Or.inr ⟨_, _, hplain, List.filter_cons_of_pos hkept⟩

end Parts

/-! What a run writes. -/

/-- The files of the folder itself. -/
def artifacts : List String :=
  ["geocode.json", "parcel.json", "clerk_search_refs.json", "manifest.json", "result.json"]

/-- The files of `documents/` whose names are fixed. -/
def reports : List String :=
  ["Parcel_Record.html", "Property_Appraiser.html", "FEMA_Flood_Report.html", "Flood_Map.png",
    "Property_MappingWorksheet.pdf", "Property_Appraiser.pdf"]

/-- A file that a run writes, with what its name is made of. -/
inductive Written
  | artifact (name : String) (listed : name ∈ artifacts)
  | report (name : String) (listed : name ∈ reports)
  | datasheet (pid : String)
  | deed (portal : Portal) (ref : Reference)
  | plat (portal : Portal) (book page : String)

namespace Written

def name : Written → String
  | artifact name _ => name
  | report name _ => name
  | datasheet pid => "NGS_datasheet_" ++ pid ++ ".html"
  | deed portal ref => deedName portal ref
  | plat _ book page => platName book page

def place (folder : Path) : Written → Path
  | artifact _ _ => folder
  | _ => folder ++ ["documents"]

/-- `_save_pdf` makes the directory of its file, the other writers do not. -/
def makesDirs : Written → Bool
  | deed portal _ => portal = .newVision
  | plat portal _ _ => portal = .newVision
  | _ => false

/-- A name is fixed, or has a plain prefix and a plain extension. -/
theorem name_cases (w : Written) : Plain w.name ∨
    ∃ pre body ext, Plain pre ∧ Plain ext ∧ w.name = pre ++ body ++ ext := by
  have hplain {s : String} (h : s ≠ "" ∧ s ≠ "." ∧ s ≠ ".." ∧ '/' ∉ s.toList) : Plain s :=
    ⟨h.1, h.2.1, h.2.2.1, h.2.2.2⟩
  have hpdf : Plain ".pdf" := hplain (by decide)
  cases w with
  | artifact name listed =>
    have hnames : ∀ s ∈ artifacts, s ≠ "" ∧ s ≠ "." ∧ s ≠ ".." ∧ '/' ∉ s.toList := by decide
    exact Or.inl (hplain (hnames name listed))
  | report name listed =>
    have hnames : ∀ s ∈ reports, s ≠ "" ∧ s ≠ "." ∧ s ≠ ".." ∧ '/' ∉ s.toList := by decide
    exact Or.inl (hplain (hnames name listed))
  | datasheet pid => exact Or.inr ⟨_, pid, _, hplain (by decide), hplain (by decide), rfl⟩
  | deed portal ref =>
    refine Or.inr ?_
    cases ref with
    | instrument number =>
      refine ⟨if portal = .tyler then "Deed_DOC" else "Deed_INSTR", number, _, ?_, hpdf, rfl⟩
      split
      · exact hplain (by decide)
      · exact hplain (by decide)
    | bookPage book page =>
      refine ⟨"Deed_OR", book ++ "_" ++ page, _, hplain (by decide), hpdf, ?_⟩
      simp only [name, deedName, String.append_assoc]
  | plat portal book page =>
    refine Or.inr ⟨"Plat_PB", book ++ "_PG" ++ page, _, hplain (by decide), hpdf, ?_⟩
    simp only [name, platName, String.append_assoc]

/-- The last part of a name is the name of a file. -/
theorem base_plain (w : Written) : Plain (baseName w.name) := by
  rcases w.name_cases with hname | ⟨pre, body, ext, _, hext, hname⟩
  · rw [baseName_plain hname]
    exact hname
  · rw [hname]
    exact baseName_append hext _

/-- The first directory of a name is no reference to another one. -/
theorem dirs_cases (w : Written) : dirNames w.name = [] ∨
    ∃ first rest, Plain first ∧ dirNames w.name = first :: rest := by
  rcases w.name_cases with hname | ⟨pre, body, ext, hpre, _, hname⟩
  · exact Or.inl (dirNames_plain hname)
  · rw [hname, String.append_assoc]
    exact dirNames_append hpre _

end Written

/-! Where the system finds the names. -/

/-- The directory that is reached through directories that are there. -/
def walk (v : Volume) : Path → List String → Option Path
  | q, [] => some q
  | q, part :: dirs => if v (enter q part) = some .dir then walk v (enter q part) dirs else none

/-- `mkdir(parents=True, exist_ok=True)` on a path that need not be resolved: name by name, up to
a file in the way. -/
def makeWay : Volume → Path → List String → Volume × Option Path
  | v, q, [] => (v, some q)
  | v, q, part :: dirs =>
    match v (enter q part) with
    | some .dir => makeWay v (enter q part) dirs
    | some (.file _ _) => (v, none)
    | none => makeWay (Function.update v (enter q part) (some .dir)) (enter q part) dirs

theorem walk_eq {v : Volume} {q q' : Path} {dirs : List String} (h : walk v q dirs = some q') :
    q' = dirs.foldl enter q := by
  induction dirs generalizing q with
  | nil => exact (Option.some.inj h).symm
  | cons part dirs ih =>
    unfold walk at h
    split at h
    · exact ih h
    · cases h

theorem makeWay_eq {v : Volume} {q q' : Path} {dirs : List String}
    (h : (makeWay v q dirs).2 = some q') : q' = dirs.foldl enter q := by
  induction dirs generalizing v q with
  | nil => exact (Option.some.inj h).symm
  | cons part dirs ih =>
    unfold makeWay at h
    split at h
    · exact ih h
    · cases h
    · exact ih h

section Saving

variable (disk : Disk) (folder : Path) (v : Volume) (w : Written)

/-- The directory of a file: found, or made on the way. -/
def reach : Volume × Option Path :=
  if disk.takes (w.place folder ++ dirNames w.name) then
    if w.makesDirs then makeWay v (w.place folder) (dirNames w.name)
    else (v, walk v (w.place folder) (dirNames w.name))
  else (v, none)

/-- Opens the file in the directory that was reached, and writes it. -/
def create (bytes : Blob) (q : Path) : Volume × Option Path :=
  let p := enter q (baseName w.name)
  if disk.takes (w.place folder ++ dirNames w.name ++ [baseName w.name]) ∧ v q = some .dir ∧
      v p ≠ some .dir ∧ disk.permits (modeAt v p).writes then
    (Function.update v p (some (.file bytes (modeAt v p))), some p)
  else (v, none)

/-- The tree after a file is saved or refused, and the path that was written. -/
def saved (bytes : Blob) : Volume × Option Path :=
  match reach disk folder v w with
  | (v', none) => (v', none)
  | (v', some q) => create disk folder v' w bytes q

/-- The directories of its name are there, or made for it. -/
def Opens : Prop :=
  w.makesDirs = true ∨ (walk v (w.place folder) (dirNames w.name)).isSome = true

/-- A name whose directories are there, or made for it, stays in the folder. -/
def Stays : Prop :=
  Opens folder v w → folder <+: (dirNames w.name).foldl enter (w.place folder)

end Saving

section Runs

variable {disk : Disk} {folder : Path} {v : Volume} {w : Written}

theorem reach_eq {q : Path} (h : (reach disk folder v w).2 = some q) :
    Opens folder v w ∧ q = (dirNames w.name).foldl enter (w.place folder) := by
  unfold reach at h
  split at h
  · split at h
    · exact ⟨Or.inl ‹_›, makeWay_eq h⟩
    · exact ⟨Or.inr (Option.isSome_iff_exists.mpr ⟨q, h⟩), walk_eq h⟩
  · cases h

/-- A file is written in the directory of its name, resolved from the place of the file. -/
theorem saved_eq {bytes : Blob} {p : Path} (h : (saved disk folder v w bytes).2 = some p) :
    Opens folder v w ∧
      p = (dirNames w.name).foldl enter (w.place folder) ++ [baseName w.name] := by
  unfold saved at h
  have hreach := @reach_eq disk folder v w
  generalize reach disk folder v w = reached at h hreach
  obtain ⟨v', _ | q⟩ := reached
  · cases h
  · obtain ⟨hopens, rfl⟩ := hreach rfl
    refine ⟨hopens, ?_⟩
    simp only [create] at h
    split at h
    · rw [← Option.some.inj h]
      have hbase := w.base_plain
      simp [enter, hbase.nonempty, hbase.noDot, hbase.noDotDot]
    · cases h

/-- The tree and the paths that were written so far. -/
structure Staged where
  volume : Volume
  written : List Path := []

/-- One file more. -/
def saveStep (disk : Disk) (folder : Path) (s : Staged) (a : Written × Blob) : Option Staged :=
  let (v, p) := saved disk folder s.volume a.1 a.2
  some ⟨v, p.toList ++ s.written⟩

/-- All that was written lies in the folder. -/
def Inside (folder : Path) (s : Staged) : Prop := ∀ p ∈ s.written, folder <+: p

theorem saveStep_inside {s t : Staged} {a : Written × Blob} (h : Inside folder s)
    (hstays : Stays folder s.volume a.1) (hstep : saveStep disk folder s a = some t) :
    Inside folder t := by
  obtain rfl := Option.some.inj hstep
  intro p hp
  rcases List.mem_append.mp hp with hnew | hold
  · obtain ⟨hopens, rfl⟩ := saved_eq (Option.mem_toList.mp hnew)
    exact (hstays hopens).trans (List.prefix_append _ _)
  · exact h p hold

/-- A tree whose directory for documents has no directories in it. -/
def Flat (folder : Path) (v : Volume) : Prop :=
  ∀ name, v (folder ++ ["documents"] ++ [name]) ≠ some .dir

/-- The directories that a file's name makes, if it makes any, are none. -/
def MakesNone (w : Written) : Prop := w.makesDirs = true → dirNames w.name = []

theorem place_cases (folder : Path) (w : Written) :
    w.place folder = folder ++ ["documents"] ∨ dirNames w.name = [] := by
  cases w with
  | artifact name listed =>
    have hnames : ∀ s ∈ artifacts, dirNames s = [] := by decide +kernel
    exact Or.inr (hnames name listed)
  | _ => exact Or.inl rfl

theorem folder_prefix_place (folder : Path) (w : Written) : folder <+: w.place folder := by
  cases w with
  | artifact => exact List.prefix_rfl
  | _ => exact List.prefix_append _ _

/-- Among files only, a name that goes through directories is not found. -/
theorem Flat.stays (h : Flat folder v) (hnone : MakesNone w) : Stays folder v w := by
  intro hopens
  have hdirs : dirNames w.name = [] := by
    rcases w.dirs_cases with hdirs | ⟨first, rest, hfirst, hdirs⟩
    · exact hdirs
    rcases hopens with hmakes | hfound
    · exact hnone hmakes
    rcases place_cases folder w with hplace | hdirs'
    · have henter : enter (folder ++ ["documents"]) first = folder ++ ["documents"] ++ [first] := by
        simp [enter, hfirst.nonempty, hfirst.noDot, hfirst.noDotDot]
      rw [hplace, hdirs, walk, henter, if_neg (h first)] at hfound
      cases hfound
    · exact hdirs'
  rw [hdirs]
  exact folder_prefix_place folder w

theorem reach_volume (hnone : MakesNone w) : (reach disk folder v w).1 = v := by
  unfold reach
  split
  · split
    · rw [hnone ‹_›]
      rfl
    · rfl
  · rfl

theorem Flat.saved (h : Flat folder v) (hnone : MakesNone w) (bytes : Blob) :
    Flat folder (saved disk folder v w bytes).1 := by
  have hvolume := @reach_volume disk folder v w hnone
  unfold StagingNames.saved
  generalize reach disk folder v w = reached at hvolume
  obtain ⟨v', _ | q⟩ := reached
  · obtain rfl : v' = v := hvolume
    exact h
  · obtain rfl : v' = v := hvolume
    simp only [create]
    split
    · intro name
      simp only [Function.update_apply]
      split
      · exact nofun
      · exact h name
    · exact h

end Runs

/-! The folder. -/

section Folder

variable [PyText]

/-- `job_folder`, with what `mkdir` answers: `pathlib` drops a name that is a dot. -/
def jobFolder (jobsDir : Path) (mkdir : Path → Except PyErr Unit) (jobNumber address : String) :
    Except PyErr Path :=
  let name := folderName jobNumber address
  let folder := (if name = "." then jobsDir else jobsDir ++ [name]) ++ ["research"]
  (mkdir folder).map fun _ => folder

/-- The folder is `JOBS_DIR/<name>/research` for an ordinary name. -/
def OwnFolder (jobsDir : Path) (answer : Except PyErr Path) : Prop :=
  ∃ name, Ordinary name ∧ answer = .ok (jobsDir ++ [name, "research"])

theorem ownFolder_iff (jobsDir : Path) (mkdir : Path → Except PyErr Unit)
    (jobNumber address : String) :
    OwnFolder jobsDir (jobFolder jobsDir mkdir jobNumber address) ↔
      mkdir (jobsDir ++ [folderName jobNumber address, "research"]) = .ok () ∧
        ¬ Dotted jobNumber address := by
  rw [← ordinary_iff]
  generalize hname : folderName jobNumber address = name
  have hanswer (hdot : name ≠ ".") : jobFolder jobsDir mkdir jobNumber address =
      (mkdir (jobsDir ++ [name, "research"])).map fun _ => jobsDir ++ [name, "research"] := by
    simp [jobFolder, hname, hdot]
  constructor
  · rintro ⟨own, hown, hfolder⟩
    have hdot : name ≠ "." := by
      rintro rfl
      simp only [jobFolder, hname, if_true] at hfolder
      cases hmkdir : mkdir (jobsDir ++ ["research"]) with
      | error e =>
        rw [hmkdir] at hfolder
        cases hfolder
      | ok u =>
        rw [hmkdir] at hfolder
        have hpaths := List.append_cancel_left (Except.ok.inj hfolder)
        simp at hpaths
    rw [hanswer hdot] at hfolder
    cases hmkdir : mkdir (jobsDir ++ [name, "research"]) with
    | error e =>
      rw [hmkdir] at hfolder
      cases hfolder
    | ok u =>
      rw [hmkdir] at hfolder
      have hpaths := List.append_cancel_left (Except.ok.inj hfolder)
      obtain ⟨rfl, _⟩ := List.cons.inj hpaths
      exact ⟨rfl, hown⟩
  · rintro ⟨hmkdir, hown⟩
    exact ⟨name, hown, by rw [hanswer hown.noDot, hmkdir]; rfl⟩

/-- The folder of a run is its own exactly when it can be made and its name is no reference to
another directory, and a run writes in its folder if every name that finds its directories stays
there. Among files only, such a name is one that makes directories. -/
theorem staging_contained_iff (jobsDir : Path) (mkdir : Path → Except PyErr Unit) (disk : Disk)
    (jobNumber address : String) :
    (OwnFolder jobsDir (jobFolder jobsDir mkdir jobNumber address) ↔
        mkdir (jobsDir ++ [folderName jobNumber address, "research"]) = .ok () ∧
          ¬ Dotted jobNumber address) ∧
      (∀ folder v ws s, Runs (saveStep disk folder) (fun s a => Stays folder s.volume a.1)
        ⟨v, []⟩ ws s → Inside folder s) ∧
      (∀ folder v ws s, Flat folder v → Runs (saveStep disk folder) (fun _ a => MakesNone a.1)
        ⟨v, []⟩ ws s → Inside folder s) := by
  have hnone (folder : Path) (v : Volume) : Inside folder ⟨v, []⟩ := nofun
  have hruns (folder v ws s) (h : Runs (saveStep disk folder)
      (fun s a => Stays folder s.volume a.1) ⟨v, []⟩ ws s) : Inside folder s :=
    h.invariant (fun _ _ _ hinside hstays => saveStep_inside hinside hstays) (hnone folder v)
  refine ⟨ownFolder_iff jobsDir mkdir jobNumber address, hruns, fun folder v ws s hflat h => ?_⟩
  refine hruns folder v ws s (h.weaken (I := fun s => Flat folder s.volume) ?_ ?_ hflat)
  · intro s a t hs hmakes hstep
    obtain rfl := Option.some.inj hstep
    exact hs.saved hmakes a.2
  · exact fun s a hs hmakes => hs.stays hmakes

end Folder

section Concrete

open scoped PyText.Ascii

/-- A disk that takes every path. -/
def anyDisk : Disk where
  takes _ := true
  parent _ _ := id
  binds := true
  dirSize := 4096

/-- The folder of job `J-1`, with nothing in it yet. -/
def freshFolder : Volume := fun p =>
  if p <+: ["data", "jobs", "J-1", "research", "documents"] then some .dir else none

/-- A deed from a tax roll whose book is a path. -/
def strayDeed : Written := .deed .newVision (.bookPage "/../../../../1" "2")

/-- A job called `..` has its folder beside the jobs directory, and a deed whose book is a path is
written outside the folder of its job. -/
theorem folder_left :
    ¬ OwnFolder ["data", "jobs"] (jobFolder ["data", "jobs"] (fun _ => .ok ()) ".." "") ∧
      ¬ Inside ["data", "jobs", "J-1", "research"]
        (outcome (saveStep anyDisk ["data", "jobs", "J-1", "research"]) ⟨freshFolder, []⟩
          [(strayDeed, [37, 80, 68, 70])]) := by
  constructor
  · rintro ⟨name, hname, hfolder⟩
    have hdots : jobFolder ["data", "jobs"] (fun _ => .ok ()) ".." "" =
        .ok ["data", "jobs", "..", "research"] := by decide +kernel
    rw [hdots] at hfolder
    have hpaths : ["data", "jobs"] ++ ["..", "research"] = ["data", "jobs"] ++ [name, "research"] :=
      Except.ok.inj hfolder
    obtain ⟨rfl, _⟩ := List.cons.inj (List.append_cancel_left hpaths)
    exact hname.noDotDot rfl
  · intro hinside
    have hwritten : ["data", "jobs", "1_2.pdf"] ∈ (outcome (saveStep anyDisk
        ["data", "jobs", "J-1", "research"]) ⟨freshFolder, []⟩
          [(strayDeed, [37, 80, 68, 70])]).written := by decide +kernel
    exact absurd (hinside _ hwritten) (by decide)

/-- The deed of a NewVision county, and a datasheet whose mark is a path, in a fresh folder. -/
theorem staging_contained_deed :
    OwnFolder ["data", "jobs"] (jobFolder ["data", "jobs"] (fun _ => .ok ()) "J-1" "12 OAK ST") ∧
      Inside ["data", "jobs", "J-1", "research"]
        (outcome (saveStep anyDisk ["data", "jobs", "J-1", "research"]) ⟨freshFolder, []⟩
          [(.deed .newVision (.bookPage "1500" "22"), [37, 80, 68, 70])]) ∧
      Inside ["data", "jobs", "J-1", "research"]
        (outcome (saveStep anyDisk ["data", "jobs", "J-1", "research"]) ⟨freshFolder, []⟩
          [(.datasheet "/../../AB1234", [60])]) := by
  obtain ⟨hown, hruns, hflat⟩ := staging_contained_iff ["data", "jobs"] (fun _ => .ok ()) anyDisk
    "J-1" "12 OAK ST"
  refine ⟨hown.mpr ⟨rfl, ?_⟩, hruns _ _ _ _ (.single (step_outcome rfl) fun _ => ?_),
    hflat _ _ _ _ ?_ (.single (step_outcome rfl) ?_)⟩
  · unfold Dotted Dots
    decide +kernel
  · decide +kernel
  · intro name
    simp [freshFolder]
  · exact nofun

end Concrete

end StagingNames
end ResearchEngine
