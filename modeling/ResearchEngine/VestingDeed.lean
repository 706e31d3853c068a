import ResearchEngine.DeedPicks

/-! The deed that a name search gives: the grantee's latest deed of the subdivision, when the rows
carry ISO dates. -/
namespace ResearchEngine
namespace Clerk

open PyText

/-- The digits of a number, in a field of fixed width. -/
def pad : ℕ → ℕ → List Char
  | 0, _ => []
  | width + 1, n => pad width (n / 10) ++ [Nat.digitChar (n % 10)]

theorem pad_length (width n : ℕ) : (pad width n).length = width := by
  induction width generalizing n with
  | zero => rfl
  | succ width ih => rw [pad, List.length_append, ih, List.length_singleton]

theorem append_lt_append {a b : List Char} (x y : List Char) (hlen : a.length = b.length)
    (h : a < b) : a ++ x < b ++ y := by
  induction a generalizing b with
  | nil => simp [List.length_eq_zero_iff.mp hlen.symm] at h
  | cons c a ih =>
    cases b with
    | nil => cases hlen
    | cons d b =>
      rw [List.cons_append, List.cons_append, List.cons_lt_cons_iff]
      rcases List.cons_lt_cons_iff.mp h with hcd | ⟨rfl, hab⟩
      · exact Or.inl hcd
      · exact Or.inr ⟨rfl, ih (Nat.succ.inj hlen) hab⟩

theorem digitChar_lt {m n : ℕ} (h : m < n) (hn : n < 10) : Nat.digitChar m < Nat.digitChar n := by
  have hall : ∀ n m : Fin 10, m < n → Nat.digitChar m < Nat.digitChar n := by decide
  exact hall ⟨n, hn⟩ ⟨m, h.trans hn⟩ h

/-- Fields of one width are ordered like their numbers. -/
theorem pad_lt {width m n : ℕ} (h : m < n) (hn : n < 10 ^ width) : pad width m < pad width n := by
  induction width generalizing m n with
  | zero => omega
  | succ width ih =>
    rw [Nat.pow_succ] at hn
    rcases Nat.lt_or_ge (m / 10) (n / 10) with hdiv | hdiv
    · apply append_lt_append
      · rw [pad_length, pad_length]
      · exact ih hdiv (by omega)
    · have heq : m / 10 = n / 10 := by omega
      rw [pad, pad, heq]
      apply List.append_left_lt
      rw [List.cons_lt_cons_iff]
      exact Or.inl (digitChar_lt (by omega) (Nat.mod_lt n (by decide)))

theorem field_lt {width m n : ℕ} {x y : List Char} (hn : n < 10 ^ width)
    (h : m < n ∨ m = n ∧ x < y) : pad width m ++ x < pad width n ++ y := by
  rcases h with h | ⟨rfl, h⟩
  · apply append_lt_append
    · rw [pad_length, pad_length]
    · exact pad_lt h hn
  · exact List.append_left_lt h

theorem separated_lt {x y : List Char} (c : Char) (h : x < y) : c :: x < c :: y :=
  List.cons_lt_cons_iff.mpr (Or.inr ⟨rfl, h⟩)

/-- An ISO date, with or without a time of day. -/
structure IsoStamp where
  year : Fin 10000
  month : Fin 13
  day : Fin 32
  time : Option (Fin 24 × Fin 60 × Fin 60) := none
  deriving DecidableEq, Repr

namespace IsoStamp

/-- `THH:MM:SS` -/
def timeText : Option (Fin 24 × Fin 60 × Fin 60) → List Char
  | none => []
  | some (h, m, s) => 'T' :: (pad 2 h ++ ':' :: (pad 2 m ++ ':' :: pad 2 s))

/-- `YYYY-MM-DD`, and the time of day. -/
def text (d : IsoStamp) : String :=
  String.ofList (pad 4 d.year ++ '-' :: (pad 2 d.month ++ '-' :: (pad 2 d.day ++ timeText d.time)))

/-- Seconds since midnight; a date alone counts from its midnight. -/
def seconds : Option (Fin 24 × Fin 60 × Fin 60) → ℕ
  | none => 0
  | some (h, m, s) => (h * 60 + m) * 60 + s

/-- A number that grows with time. -/
def moment (d : IsoStamp) : ℕ :=
  ((d.year * 13 + d.month) * 32 + d.day) * 86400 + seconds d.time

theorem seconds_lt (t : Option (Fin 24 × Fin 60 × Fin 60)) : seconds t < 86400 := by
  cases t with
  | none => decide
  | some t =>
    obtain ⟨h, m, s⟩ := t
    simp only [seconds]
    omega

theorem timeText_lt {t u : Option (Fin 24 × Fin 60 × Fin 60)} (h : seconds t < seconds u) :
    timeText t < timeText u := by
  cases u with
  | none => cases h
  | some u =>
    cases t with
    | none => exact List.nil_lt_cons _ _
    | some t =>
      obtain ⟨h1, m1, s1⟩ := t
      obtain ⟨h2, m2, s2⟩ := u
      simp only [seconds] at h
      apply separated_lt
      rcases Nat.lt_or_ge h1 h2 with hh | hh
      · exact field_lt (by omega) (Or.inl hh)
      have hh : h1.val = h2.val := by omega
      apply field_lt (by omega)
      refine Or.inr ⟨hh, separated_lt ':' ?_⟩
      rcases Nat.lt_or_ge m1 m2 with hm | hm
      · exact field_lt (by omega) (Or.inl hm)
      have hm : m1.val = m2.val := by omega
      apply field_lt (by omega)
      refine Or.inr ⟨hm, separated_lt ':' ?_⟩
      exact pad_lt (by omega) (by omega)

/-- The text of a later moment is the greater one. -/
theorem text_lt {d e : IsoStamp} (h : d.moment < e.moment) : d.text < e.text := by
  have hd := seconds_lt d.time
  have he := seconds_lt e.time
  simp only [moment] at h
  rw [String.lt_iff_toList_lt, text, text, String.toList_ofList, String.toList_ofList]
  rcases Nat.lt_or_ge d.year e.year with hy | hy
  · exact field_lt (by omega) (Or.inl hy)
  have hy : d.year.val = e.year.val := by omega
  apply field_lt (by omega)
  refine Or.inr ⟨hy, separated_lt '-' ?_⟩
  rcases Nat.lt_or_ge d.month e.month with hm | hm
  · exact field_lt (by omega) (Or.inl hm)
  have hm : d.month.val = e.month.val := by omega
  apply field_lt (by omega)
  refine Or.inr ⟨hm, separated_lt '-' ?_⟩
  rcases Nat.lt_or_ge d.day e.day with hday | hday
  · exact field_lt (by omega) (Or.inl hday)
  have hday : d.day.val = e.day.val := by omega
  apply field_lt (by omega)
  exact Or.inr ⟨hday, timeText_lt (by omega)⟩

end IsoStamp

section Vesting

variable [PyText] {rows rows' : List Attrs} {subdivision : String} {r : Attrs}

/-- A row of a deed type whose legal matches the subdivision. -/
def deedMatch (subdivision : String) (r : Attrs) : Bool := isDeed r ∧ matchesLegal subdivision r

/-- The matching deeds in which the owner is the grantee, or all of them where there is none. -/
def preferred (rows : List Attrs) (subdivision : String) : List Attrs :=
  let cand := rows.filter (deedMatch subdivision)
  if cand.any isGrantee then cand.filter isGrantee else cand

theorem mem_preferred :
    r ∈ preferred rows subdivision ↔ r ∈ rows ∧ deedMatch subdivision r = true ∧
      ((∃ g ∈ rows, deedMatch subdivision g = true ∧ isGrantee g = true) → isGrantee r = true) := by
  have hany : (rows.filter (deedMatch subdivision)).any isGrantee = true ↔
      ∃ g ∈ rows, deedMatch subdivision g = true ∧ isGrantee g = true := by
    simp [List.any_eq_true]
  unfold preferred
  simp only
  split
  · rename_i h
    have hex := hany.mp h
    simp only [List.mem_filter, and_assoc]
    exact ⟨fun ⟨hr, hm, hg⟩ => ⟨hr, hm, fun _ => hg⟩, fun ⟨hr, hm, hg⟩ => ⟨hr, hm, hg hex⟩⟩
  · rename_i h
    rw [hany] at h
    simp only [List.mem_filter]
    exact ⟨fun ⟨hr, hm⟩ => ⟨hr, hm, fun hex => (h hex).elim⟩, fun ⟨hr, hm, _⟩ => ⟨hr, hm⟩⟩

theorem preferred_eq_nil :
    preferred rows subdivision = [] ↔ ∀ r ∈ rows, ¬ deedMatch subdivision r = true := by
  unfold preferred
  simp only
  split
  · rename_i h
    obtain ⟨g, hg, hgrantee⟩ := List.any_eq_true.mp h
    refine iff_of_false (fun hnil => ?_) fun hno => ?_
    · have hmem : g ∈ (rows.filter (deedMatch subdivision)).filter isGrantee :=
        List.mem_filter.mpr ⟨hg, hgrantee⟩
      rw [hnil] at hmem
      cases hmem
    · exact hno g (List.mem_filter.mp hg).1 (List.mem_filter.mp hg).2
  · exact List.filter_eq_nil_iff

/-- `_pick_deed` takes the most recent of the preferred rows. -/
theorem pickDeed_eq (rows : List Attrs) (subdivision : String) :
    pickDeed rows subdivision =
      if subdivName subdivision = [] then none else recent (preferred rows subdivision) := by
  have hcand : (rows.filter isDeed).filter (matchesLegal subdivision) =
      rows.filter (deedMatch subdivision) := by
    rw [List.filter_filter]
    exact List.filter_congr fun r _ => by simp [deedMatch, Bool.and_comm]
  unfold pickDeed preferred
  simp only [hcand]
  split
  · rename_i hno
    rcases hno with hno | hno
    · have hnil : rows.filter (deedMatch subdivision) = [] := by rw [← hcand, hno, List.filter_nil]
      simp [hnil, recent]
    · rw [if_pos hno]
  · rename_i hboth
    rw [if_neg (not_or.mp hboth).2]
    split
    · rename_i hnil
      simp [hnil, recent]
    · have hgrantee : ∀ cand : List Attrs, cand.filter isGrantee ≠ [] ↔ cand.any isGrantee = true :=
        fun cand => by simp [List.filter_eq_nil_iff, List.any_eq_true]
      simp only [hgrantee]
      rw [apply_ite recent]

/-- What the clerk's index says of a row's recording date: an ISO stamp, or nothing. -/
def Dated (r : Attrs) : Option IsoStamp → Prop
  | some d => r.get "rec_date" = .str d.text
  | none => (r.get "rec_date").truthy = false

omit [PyText] in
theorem IsoStamp.text_ne_empty (d : IsoStamp) : d.text ≠ "" := by
  intro h
  have hlist : d.text.toList = [] := by rw [h]; rfl
  rw [IsoStamp.text, String.toList_ofList] at hlist
  exact List.cons_ne_nil _ _ (List.append_eq_nil_iff.mp hlist).2

omit [PyText] in
theorem Dated.recDate_some {d : IsoStamp} (h : Dated r (some d)) : recDate r = d.text := by
  have hget : r.get "rec_date" = .str d.text := h
  have htruthy : (Value.str d.text).truthy = true := decide_eq_true d.text_ne_empty
  unfold recDate
  rw [hget, if_pos htruthy]
  rfl

omit [PyText] in
theorem Dated.recDate_none (h : Dated r none) : recDate r = "" := by
  have hget : (r.get "rec_date").truthy = false := h
  unfold recDate
  rw [hget]
  rfl

omit [PyText] in
/-- The row with the greatest text is the latest one, and is dated if any row is. -/
theorem latest_of_recent {rs : List Attrs} {date : Attrs → Option IsoStamp}
    (hdate : ∀ r ∈ rs, Dated r (date r)) (h : recent rs = some r) :
    ∀ r' ∈ rs, ∀ d', date r' = some d' → ∃ d, date r = some d ∧ d'.moment ≤ d.moment := by
  intro r' hr' d' hd'
  have hle : recDate r' ≤ recDate r := List.le_of_mem_argmax hr' h
  have hrd' := hdate r' hr'
  rw [hd'] at hrd'
  rw [hrd'.recDate_some] at hle
  have hrd := hdate r (List.argmax_mem h)
  cases hd : date r with
  | none =>
    rw [hd] at hrd
    rw [hrd.recDate_none] at hle
    have hge : "" ≤ d'.text := String.le_iff_toList_le.mpr (not_lt.mp (List.not_lt_nil _))
    exact (d'.text_ne_empty (le_antisymm hle hge)).elim
  | some d =>
    rw [hd] at hrd
    rw [hrd.recDate_some] at hle
    refine ⟨d, rfl, Nat.le_of_not_lt fun hlt => ?_⟩
    exact absurd (IsoStamp.text_lt hlt) (not_lt_of_ge hle)

omit [PyText] in
/-- The greatest date does not depend on the order. -/
theorem recent_perm {rs rs' : List Attrs} (h : rs.Perm rs') :
    (recent rs).map recDate = (recent rs').map recDate := by
  cases hr : recent rs with
  | none =>
    rw [recent, List.argmax_eq_none] at hr
    rw [hr, List.nil_perm] at h
    rw [h]
    rfl
  | some r =>
    cases hr' : recent rs' with
    | none =>
      rw [recent, List.argmax_eq_none] at hr'
      rw [hr', List.perm_nil] at h
      rw [h] at hr
      cases hr
    | some r' =>
      have hle : recDate r ≤ recDate r' :=
        List.le_of_mem_argmax (h.mem_iff.mp (List.argmax_mem hr)) hr'
      have hge : recDate r' ≤ recDate r :=
        List.le_of_mem_argmax (h.mem_iff.mpr (List.argmax_mem hr')) hr
      exact congrArg some (le_antisymm hle hge)

theorem preferred_perm (h : rows.Perm rows') (subdivision : String) :
    (preferred rows subdivision).Perm (preferred rows' subdivision) := by
  have hcand := h.filter (deedMatch subdivision)
  unfold preferred
  simp only [hcand.any_eq]
  split
  · exact hcand.filter isGrantee
  · exact hcand

theorem pickDeed_eq_none (rows : List Attrs) (subdivision : String) :
    pickDeed rows subdivision = none ↔
      subdivName subdivision = [] ∨ ∀ r ∈ rows, ¬ deedMatch subdivision r = true := by
  rw [pickDeed_eq]
  split
  · rename_i hname
    exact iff_of_true rfl (Or.inl hname)
  · rename_i hname
    rw [recent, List.argmax_eq_none, preferred_eq_nil]
    exact (or_iff_right hname).symm

theorem recent_of_pickDeed (h : pickDeed rows subdivision = some r) :
    recent (preferred rows subdivision) = some r := by
  rw [pickDeed_eq] at h
  split at h
  · cases h
  · exact h

/-- `_pick_deed` finds the vesting deed: a matching deed of the list, a grantee row where there is
one, with the latest date among these, whatever the order of the rows. -/
theorem pickDeed_vesting (rows : List Attrs) (subdivision : String) :
    (pickDeed rows subdivision = none ↔
      subdivName subdivision = [] ∨
        ∀ r ∈ rows, ¬ (isDeed r = true ∧ matchesLegal subdivision r = true)) ∧
    (∀ r, pickDeed rows subdivision = some r →
      r ∈ rows ∧ isDeed r = true ∧ matchesLegal subdivision r = true ∧
      ((∃ g ∈ rows, deedMatch subdivision g = true ∧ isGrantee g = true) → isGrantee r = true) ∧
      ∀ date : Attrs → Option IsoStamp, (∀ r' ∈ rows, Dated r' (date r')) →
        ∀ r' ∈ preferred rows subdivision, ∀ d', date r' = some d' →
          ∃ d, date r = some d ∧ d'.moment ≤ d.moment) ∧
    ∀ rows', rows.Perm rows' →
      (pickDeed rows subdivision).map recDate = (pickDeed rows' subdivision).map recDate := by
  refine ⟨?_, fun r h => ?_, fun rows' hperm => ?_⟩
  · simpa [deedMatch] using pickDeed_eq_none rows subdivision
  · have hrecent := recent_of_pickDeed h
    obtain ⟨hr, hmatch, hgrantee⟩ := mem_preferred.mp (List.argmax_mem hrecent)
    have hboth : isDeed r = true ∧ matchesLegal subdivision r = true := of_decide_eq_true hmatch
    refine ⟨hr, hboth.1, hboth.2, hgrantee, fun date hdate => ?_⟩
    exact latest_of_recent (fun r' hr' => hdate r' (mem_preferred.mp hr').1) hrecent
  · rw [pickDeed_eq, pickDeed_eq]
    split
    · rfl
    · exact recent_perm (preferred_perm hperm subdivision)

end Vesting

end Clerk
end ResearchEngine
