import ResearchEngine.VestingDeed

/-! Rows of other subdivisions and units: the match of legals looks at two name words and at a bare
unit number, so a row may match without being of the subdivision. -/
namespace ResearchEngine
namespace Clerk

open PyText

section Fits

variable [PyText] {rows : List Attrs} {subdivision : String} {r : Attrs}

/-- A number follows `UNIT` or `UNIT NO` somewhere in a legal. -/
def designates (legal number : String) : Bool :=
  let text := (cleaned legal).toList
  (List.range (text.length + 1)).any fun i =>
    (unitPattern.matchAt text i).bind (fun m => m.group 1) = some number.toList

/-- The row is of the subdivision: its legal has every name word and designates the unit. -/
def fits (subdivision : String) (r : Attrs) : Bool :=
  (nameWords subdivision).all (· ∈ legalTokens (rowText r "legal_1")) ∧
    (unitNumber subdivision).all (designates (rowText r "legal_1"))

/-- The row passes the match of the pickers, but is not of the subdivision. -/
def crosses (subdivision : String) (r : Attrs) : Bool :=
  subdivName subdivision ≠ [] ∧ matchesLegal subdivision r ∧ !fits subdivision r

omit [PyText] in
theorem idxOf_find?_le {l : List Attrs} {p : Attrs → Bool} {m g : Attrs} (h : l.find? p = some m)
    (hg : g ∈ l) (hp : p g = true) : l.idxOf m ≤ l.idxOf g := by
  induction l with
  | nil => cases hg
  | cons a l ih =>
    by_cases ha : p a = true
    · rw [List.find?_cons_of_pos ha] at h
      obtain rfl := Option.some.inj h
      simp
    · rw [List.find?_cons_of_neg ha] at h
      have hag : a ≠ g := fun heq => ha (heq ▸ hp)
      have ham : a ≠ m := fun heq => ha (heq ▸ List.find?_some h)
      rw [List.idxOf_cons_ne _ ham, List.idxOf_cons_ne _ hag]
      exact Nat.succ_le_succ (ih h ((List.mem_cons.mp hg).resolve_left hag.symm))

omit [PyText] in
/-- The best entry of a list is good exactly when every entry that is not good is beaten by a good
one. -/
theorem best_good_iff {l : List Attrs} {m : Attrs} {beats : Attrs → Attrs → Prop}
    {good : Attrs → Bool} (hm : m ∈ l) (hbest : ∀ a ∈ l, a ≠ m → beats m a)
    (hno : ∀ a ∈ l, ¬ beats a m) :
    good m = true ↔ ∀ r ∈ l, good r = false → ∃ g ∈ l, good g = true ∧ beats g r := by
  constructor
  · intro hgood r hr hbad
    refine ⟨m, hm, hgood, hbest r hr ?_⟩
    rintro rfl
    rw [hgood] at hbad
    cases hbad
  · intro hall
    by_contra hbad
    obtain ⟨g, hg, -, hbeats⟩ := hall m hm (eq_false_of_ne_true hbad)
    exact hno g hg hbeats

omit [PyText] in
theorem recent_first {rs : List Attrs} {m a : Attrs} (h : recent rs = some m) (ha : a ∈ rs)
    (hle : recDate m ≤ recDate a) : rs.idxOf m ≤ rs.idxOf a := by
  have hidx := List.index_of_argmax h ha hle
  rwa [lawful_beq_subsingleton (instBEqOfDecidableEq (α := Attrs)) List.instBEq] at hidx

theorem deed_fits_iff (hname : subdivName subdivision ≠ []) :
    (∀ r, pickDeed rows subdivision = some r → fits subdivision r = true) ↔
      ∀ r ∈ preferred rows subdivision, fits subdivision r = false →
        ∃ g ∈ preferred rows subdivision, fits subdivision g = true ∧
          (recDate r < recDate g ∨ recDate r = recDate g ∧
            (preferred rows subdivision).idxOf g < (preferred rows subdivision).idxOf r) := by
  rw [pickDeed_eq, if_neg hname]
  cases hrecent : recent (preferred rows subdivision) with
  | none =>
    rw [recent, List.argmax_eq_none] at hrecent
    simp [hrecent]
  | some m =>
    have hm := List.argmax_mem hrecent
    simp only [Option.some.injEq, forall_eq']
    refine best_good_iff hm (fun a ha hne => ?_) fun a ha hbeats => ?_
    · rcases lt_or_eq_of_le (List.le_of_mem_argmax ha hrecent) with hlt | heq
      · exact Or.inl hlt
      · have hidx := recent_first hrecent ha heq.ge
        refine Or.inr ⟨heq, lt_of_le_of_ne hidx fun hsame => hne ?_⟩
        exact ((List.idxOf_inj hm).mp hsame).symm
    · rcases hbeats with hlt | ⟨heq, hidx⟩
      · exact absurd (List.le_of_mem_argmax ha hrecent) (not_le_of_gt hlt)
      · exact absurd (recent_first hrecent ha heq.le) (not_le_of_gt hidx)

theorem plat_fits_iff (hname : subdivName subdivision ≠ []) :
    (∀ r, platRow rows subdivision = some r → fits subdivision r = true) ↔
      ∀ r ∈ rows.filter (matchesLegal subdivision), fits subdivision r = false →
        ∃ g ∈ rows.filter (matchesLegal subdivision), fits subdivision g = true ∧
          rows.idxOf g < rows.idxOf r := by
  unfold platRow
  rw [if_neg hname]
  cases hfind : rows.find? (matchesLegal subdivision) with
  | none =>
    have hnil : rows.filter (matchesLegal subdivision) = [] :=
      List.filter_eq_nil_iff.mpr (List.find?_eq_none.mp hfind)
    simp [hnil]
  | some m =>
    have hm := List.mem_of_find?_eq_some hfind
    simp only [Option.some.injEq, forall_eq']
    refine best_good_iff (List.mem_filter.mpr ⟨hm, List.find?_some hfind⟩) (fun a ha hne => ?_)
      fun a ha hbeats => ?_
    · have hidx := idxOf_find?_le hfind (List.mem_filter.mp ha).1 (List.mem_filter.mp ha).2
      refine lt_of_le_of_ne hidx fun hsame => hne ?_
      exact ((List.idxOf_inj hm).mp hsame).symm
    · have hidx := idxOf_find?_le hfind (List.mem_filter.mp ha).1 (List.mem_filter.mp ha).2
      exact absurd hidx (not_le_of_gt hbeats)

/-- A deed that is picked is of the subdivision exactly when every preferred row that crosses is
beaten by one that fits: a later one, or one of the same date further up. The page of a plat comes
from the subdivision exactly when a row that fits stands above every row that crosses. -/
theorem picks_fit_iff (rows : List Attrs) (subdivision : String) :
    ((∀ r, pickDeed rows subdivision = some r → fits subdivision r = true) ↔
      ∀ r ∈ preferred rows subdivision, crosses subdivision r = true →
        ∃ g ∈ preferred rows subdivision, fits subdivision g = true ∧
          (recDate r < recDate g ∨ recDate r = recDate g ∧
            (preferred rows subdivision).idxOf g < (preferred rows subdivision).idxOf r)) ∧
    ((∀ r, platRow rows subdivision = some r → fits subdivision r = true) ↔
      ∀ r ∈ rows, crosses subdivision r = true →
        ∃ g ∈ rows, matchesLegal subdivision g = true ∧ fits subdivision g = true ∧
          rows.idxOf g < rows.idxOf r) := by
  by_cases hname : subdivName subdivision = []
  · have hcross : ∀ r, crosses subdivision r = false := fun r => by simp [crosses, hname]
    simp [pickDeed_eq, platRow, hname, hcross]
  have hcross : ∀ r, matchesLegal subdivision r = true →
      (crosses subdivision r = true ↔ fits subdivision r = false) := fun r hr => by
    simp [crosses, hname, hr]
  constructor
  · rw [deed_fits_iff hname]
    refine forall₂_congr fun r hr => ?_
    have hmatch : isDeed r = true ∧ matchesLegal subdivision r = true :=
      of_decide_eq_true (mem_preferred.mp hr).2.1
    rw [hcross r hmatch.2]
  · rw [plat_fits_iff hname]
    simp only [List.mem_filter, and_assoc, and_imp]
    refine forall₂_congr fun r hr => ⟨fun h hc => ?_, fun h hmatch hbad => ?_⟩
    · have hmatch : matchesLegal subdivision r = true := (of_decide_eq_true hc).2.1
      exact h hmatch ((hcross r hmatch).mp hc)
    · exact h ((hcross r hmatch).mpr hbad)

end Fits

section Concrete

open scoped PyText.Ascii

/-- A deed of one owner, as the clerk's index has it. -/
def deedRow (legal : String) : Attrs :=
  [("doc_type", .str "WD"), ("legal_1", .str legal), ("rec_date", .str "2020-01-01"),
    ("party_code", .str "R"), ("page", .str "10")]

/-- Lot 2 of unit 3 passes for unit 2, and another park of the same two words for this one. -/
theorem picks_cross :
    ¬ ∀ (rows : List Attrs) (subdivision : String),
      (∀ r, pickDeed rows subdivision = some r → fits subdivision r = true) ∧
        ∀ r, platRow rows subdivision = some r → fits subdivision r = true := by
  intro hall
  have hlot := (hall [deedRow "IDLEWILD UNIT 3 LOT 2"] "IDLEWILD UNIT NO 2").1
    (deedRow "IDLEWILD UNIT 3 LOT 2") (by decide +kernel)
  exact absurd hlot (by decide +kernel)

example : (platRow [deedRow "LAKE VISTA HILLS LOT 4"] "LAKE VISTA SHORES").any
    (fun r => !fits "LAKE VISTA SHORES" r) = true := by decide +kernel

end Concrete

end Clerk
end ResearchEngine
