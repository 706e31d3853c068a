import ResearchEngine.InterchangeableStores
import ResearchEngine.PortalFetch
import ResearchEngine.PropertyContext
import ResearchEngine.ProjectionGaps
import Mathlib.Data.List.TakeWhile

/-! Where a run may write: the name of its folder under the jobs directory, and the names of its
files, some of them made of what remote services answer. -/
namespace ResearchEngine
namespace StagingNames

open PyText BlobStorage Context

/-! Stripping both ends of a list. -/

section Strip

variable {α : Type} {p : α → Bool}

/-- `l` without the entries of `p` at its ends. -/
def stripped (p : α → Bool) (l : List α) : List α :=
  ((l.dropWhile p).reverse.dropWhile p).reverse

theorem stripped_eq_nil_iff {l : List α} : stripped p l = [] ↔ ∀ a ∈ l, p a = true := by
  unfold stripped
  rw [List.reverse_eq_nil_iff, List.dropWhile_eq_nil_iff]
  constructor
  · intro h a ha
    by_contra hp
    have hmem : a ∈ l.dropWhile p := by
      rw [← List.takeWhile_append_dropWhile (p := p) (l := l)] at ha
      exact (List.mem_append.mp ha).resolve_left fun htake => hp (List.mem_takeWhile_imp htake)
    exact hp (h a (List.mem_reverse.mpr hmem))
  · intro h a ha
    exact h a ((List.dropWhile_sublist p).subset (List.mem_reverse.mp ha))

theorem dropWhile_append_stays {l r : List α} (h : ¬ ∀ a ∈ l, p a = true) :
    (l ++ r).dropWhile p = l.dropWhile p ++ r := by
  have hne : (l.dropWhile p).isEmpty = false := by
    rw [← Bool.not_eq_true, List.isEmpty_iff, List.dropWhile_eq_nil_iff]
    exact h
  rw [List.dropWhile_append, hne]
  rfl

theorem stripped_append_left {pad l : List α} (h : ∀ a ∈ pad, p a = true) :
    stripped p (pad ++ l) = stripped p l := by
  unfold stripped
  rw [List.dropWhile_append_of_pos h]

theorem stripped_append_right {pad l : List α} (h : ∀ a ∈ pad, p a = true) :
    stripped p (l ++ pad) = stripped p l := by
  by_cases hl : ∀ a ∈ l, p a = true
  · rw [stripped_eq_nil_iff.mpr hl, stripped_eq_nil_iff]
    exact fun a ha => (List.mem_append.mp ha).elim (hl a) (h a)
  · unfold stripped
    rw [dropWhile_append_stays hl, List.reverse_append, List.dropWhile_append_of_pos]
    exact fun a ha => h a (List.mem_reverse.mp ha)

/-- What stands between two entries that stay is not stripped. -/
theorem mem_stripped_between {l m r : List α} {a : α} (ha : a ∈ m) (hl : ¬ ∀ x ∈ l, p x = true)
    (hr : ¬ ∀ x ∈ r, p x = true) : a ∈ stripped p (l ++ m ++ r) := by
  have hrev : ¬ ∀ x ∈ r.reverse, p x = true := fun h => hr fun x hx => h x (List.mem_reverse.mpr hx)
  unfold stripped
  rw [List.append_assoc, dropWhile_append_stays hl, List.reverse_append, List.reverse_append,
    List.append_assoc, dropWhile_append_stays hrev]
  simp [ha]

theorem stripped_subset {l : List α} : stripped p l ⊆ l := by
  intro a ha
  have hdrop := (List.dropWhile_sublist p).subset (List.mem_reverse.mp ha)
  exact (List.dropWhile_sublist p).subset (List.mem_reverse.mp hdrop)

/-- The pieces of a split list hold nothing else. -/
theorem mem_of_mem_splitOnP {l piece : List α} {a : α} (hpiece : piece ∈ l.splitOnP p)
    (ha : a ∈ piece) : a ∈ l := by
  induction l generalizing piece with
  | nil =>
    rw [List.splitOnP_nil, List.mem_singleton] at hpiece
    exact hpiece ▸ ha
  | cons x l ih =>
    rw [List.splitOnP_cons_eq_if_modifyHead] at hpiece
    split at hpiece
    · obtain rfl | hrest := List.mem_cons.mp hpiece
      · cases ha
      · exact List.mem_cons_of_mem x (ih hrest ha)
    · obtain ⟨first, rest, hsplit⟩ := List.exists_cons_of_ne_nil (List.splitOnP_ne_nil p l)
      rw [hsplit] at hpiece ih
      obtain rfl | hrest := List.mem_cons.mp hpiece
      · obtain rfl | hfirst := List.mem_cons.mp ha
        · exact List.mem_cons_self
        · exact List.mem_cons_of_mem x (ih List.mem_cons_self hfirst)
      · exact List.mem_cons_of_mem x (ih (List.mem_cons_of_mem first hrest) ha)

end Strip

/-! The name of the folder. -/

section Names

/-- What `strip(" -")` removes. -/
def isPad (c : Char) : Bool := c = ' ' ∨ c = '-'

theorem stripDashes_toList (s : String) : (stripDashes s).toList = stripped isPad s.toList :=
  String.toList_ofList

theorem stripDashes_eq_iff {s t : String} : stripDashes s = t ↔ stripped isPad s.toList = t.toList := by
  rw [← stripDashes_toList]
  exact String.toList_inj.symm

/-- The two parts of a name, joined and stripped. -/
theorem stripDashes_join (a b : String) :
    (stripDashes a = "" ∧ stripDashes (a ++ " - " ++ b) = stripDashes b) ∨
      (stripDashes b = "" ∧ stripDashes (a ++ " - " ++ b) = stripDashes a) ∨
      (stripDashes a ≠ "" ∧ stripDashes b ≠ "" ∧ '-' ∈ (stripDashes (a ++ " - " ++ b)).toList) := by
  have hjoin : (a ++ " - " ++ b).toList = a.toList ++ [' ', '-', ' '] ++ b.toList := by simp
  have hpad : ∀ c ∈ [' ', '-', ' '], isPad c = true := List.all_eq_true.mp (by decide)
  have hnil {s : String} : stripDashes s = "" ↔ ∀ c ∈ s.toList, isPad c = true := by
    rw [stripDashes_eq_iff]
    exact stripped_eq_nil_iff
  by_cases ha : ∀ c ∈ a.toList, isPad c = true
  · refine Or.inl ⟨hnil.mpr ha, ?_⟩
    rw [stripDashes_eq_iff, hjoin, stripDashes_toList, List.append_assoc, stripped_append_left ha,
      stripped_append_left hpad]
  by_cases hb : ∀ c ∈ b.toList, isPad c = true
  · refine Or.inr (Or.inl ⟨hnil.mpr hb, ?_⟩)
    rw [stripDashes_eq_iff, hjoin, stripDashes_toList, stripped_append_right hb,
      stripped_append_right hpad]
  · refine Or.inr (Or.inr ⟨fun h => ha (hnil.mp h), fun h => hb (hnil.mp h), ?_⟩)
    rw [stripDashes_toList, hjoin]
    exact mem_stripped_between (by decide) ha hb

variable [PyText]

/-- The part of an address that names a folder. -/
def streetOf (address : String) : String := strip ((splitOn ',' address).headD "")

/-- A text without what no name of a folder keeps. -/
def core (text : String) : String := stripDashes (slug text)

omit [PyText] in
/-- A reference to this or the parent directory. -/
def Dots (s : String) : Prop := s = "." ∨ s = ".."

/-- One of the two parts of the name is nothing, and the other a reference to a directory. -/
def Dotted (jobNumber address : String) : Prop :=
  (core jobNumber = "" ∧ Dots (core (streetOf address))) ∨
    (core (streetOf address) = "" ∧ Dots (core jobNumber))

theorem folderName_eq (jobNumber address : String) : folderName jobNumber address =
    orElse (stripDashes (slug jobNumber ++ " - " ++ slug (streetOf address))) "job" := rfl

theorem folderName_dots_iff (jobNumber address : String) :
    Dots (folderName jobNumber address) ↔ Dotted jobNumber address := by
  have horElse (s : String) : Dots (orElse s "job") ↔ Dots s := by
    unfold orElse
    split
    · rename_i hs
      subst hs
      unfold Dots
      decide
    · rfl
  have hdash {s : String} (h : '-' ∈ s.toList) : ¬ Dots s := by
    rintro (rfl | rfl)
    · exact absurd h (by decide)
    · exact absurd h (by decide)
  have hnone : ¬ Dots "" := by unfold Dots; decide
  rw [folderName_eq, horElse]
  unfold Dotted core
  rcases stripDashes_join (slug jobNumber) (slug (streetOf address)) with
    ⟨hjob, hjoin⟩ | ⟨hstreet, hjoin⟩ | ⟨hjob, hstreet, hmem⟩
  · rw [hjoin, hjob]
    simp [hnone]
  · rw [hjoin, hstreet]
    simp [hnone]
  · simp [hjob, hstreet, hdash hmem]

/-! The characters of the name. -/

/-- One name of a directory, wherever it is read. -/
structure Ordinary (name : String) : Prop extends Plain name where
  noBackslash : '\\' ∉ name.toList

/-- What a name of a folder keeps. -/
def isKept (c : Char) : Bool := c ∉ "<>:\"/\\|?*".toList

theorem isKept_of_mem_slug {text : String} {c : Char} (h : c ∈ (slug text).toList) :
    isKept c = true := by
  unfold slug at h
  rw [String.toList_intercalate] at h
  obtain hblank | ⟨word, hword, hc⟩ := Parcel.mem_of_mem_intercalate h
  · obtain rfl := List.mem_singleton.mp hblank
    decide
  · obtain ⟨_, hwords, rfl⟩ := List.mem_map.mp hword
    obtain ⟨chars, hchars, rfl⟩ := List.mem_map.mp hwords
    rw [String.toList_ofList] at hc hchars
    have hsub := mem_of_mem_splitOnP (List.mem_filter.mp hchars).1 hc
    exact (List.mem_filter.mp hsub).2

theorem isKept_of_mem_folderName {jobNumber address : String} {c : Char}
    (h : c ∈ (folderName jobNumber address).toList) : isKept c = true := by
  rw [folderName_eq] at h
  unfold orElse at h
  split at h
  · have hjob : ∀ c ∈ "job".toList, isKept c = true := List.all_eq_true.mp (by decide)
    exact hjob c h
  · rw [stripDashes_toList] at h
    have hmem := stripped_subset h
    rw [String.toList_append, String.toList_append, List.mem_append, List.mem_append] at hmem
    rcases hmem with (hjob | hdash) | hstreet
    · exact isKept_of_mem_slug hjob
    · have hpad : ∀ c ∈ " - ".toList, isKept c = true := List.all_eq_true.mp (by decide)
      exact hpad c hdash
    · exact isKept_of_mem_slug hstreet

theorem folderName_ne_empty (jobNumber address : String) : folderName jobNumber address ≠ "" := by
  rw [folderName_eq]
  unfold orElse
  split
  · decide
  · assumption

/-- The name is an ordinary one unless it is a reference to a directory. -/
theorem ordinary_iff (jobNumber address : String) :
    Ordinary (folderName jobNumber address) ↔ ¬ Dotted jobNumber address := by
  rw [← folderName_dots_iff]
  constructor
  · rintro h (hdot | hdots)
    · exact h.noDot hdot
    · exact h.noDotDot hdots
  · intro h
    refine ⟨⟨folderName_ne_empty _ _, fun hdot => h (Or.inl hdot), fun hdots => h (Or.inr hdots),
      fun hmem => ?_⟩, fun hmem => ?_⟩
    · exact absurd (isKept_of_mem_folderName hmem) (by decide)
    · exact absurd (isKept_of_mem_folderName hmem) (by decide)

end Names

end StagingNames
end ResearchEngine
