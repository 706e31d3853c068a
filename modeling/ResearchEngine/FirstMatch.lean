import Mathlib.Data.List.Nodup
import Mathlib.Data.List.Perm.Subperm
import Mathlib.Data.List.ReduceOption
import Mathlib.Tactic.Common

/-! Readers that take the first entry of a list that suits them: what they make of a list from
which some entries are left out. -/
namespace ResearchEngine
namespace FirstMatch

variable {α β κ : Type}

/-- Leaving out entries that do not match changes no first match. -/
theorem find?_left {p q : α → Bool} {l : List α} (h : ∀ a ∈ l, p a = true → q a = true) :
    (l.filter q).find? p = l.find? p := by
  induction l with
  | nil => rfl
  | cons a l ih =>
    have hl := ih fun b hb => h b (List.mem_cons_of_mem a hb)
    by_cases hp : p a = true
    · rw [List.filter_cons_of_pos (h a List.mem_cons_self hp), List.find?_cons_of_pos hp,
        List.find?_cons_of_pos hp]
    · rw [List.find?_cons_of_neg hp, ← hl]
      by_cases hq : q a = true
      · rw [List.filter_cons_of_pos hq, List.find?_cons_of_neg hp]
      · rw [List.filter_cons_of_neg hq]

/-- The same for the first result of a partial function. -/
theorem findSome?_left {f : α → Option β} {q : α → Bool} {l : List α}
    (h : ∀ a ∈ l, (f a).isSome = true → q a = true) : (l.filter q).findSome? f = l.findSome? f := by
  induction l with
  | nil => rfl
  | cons a l ih =>
    have hl := ih fun b hb => h b (List.mem_cons_of_mem a hb)
    by_cases hq : q a = true
    · rw [List.filter_cons_of_pos hq, List.findSome?_cons, List.findSome?_cons, hl]
    · have hnone : f a = none := by
        rw [← Option.not_isSome_iff_eq_none]
        exact fun hs => hq (h a List.mem_cons_self hs)
      rw [List.filter_cons_of_neg hq, List.findSome?_cons, hnone, hl]

theorem findSome?_congr {f g : α → Option β} {l : List α} (h : ∀ a ∈ l, f a = g a) :
    l.findSome? f = l.findSome? g := by
  induction l with
  | nil => rfl
  | cons a l ih =>
    rw [List.findSome?_cons, List.findSome?_cons, h a List.mem_cons_self,
      ih fun b hb => h b (List.mem_cons_of_mem a hb)]

theorem findSome?_ite (p : α → Prop) [DecidablePred p] (f : α → β) (l : List α) :
    (l.findSome? fun a => if p a then some (f a) else none) = (l.find? fun a => p a).map f := by
  induction l with
  | nil => rfl
  | cons a l ih =>
    by_cases h : p a
    · rw [List.findSome?_cons, if_pos h, List.find?_cons_of_pos (by simpa using h)]
      rfl
    · rw [List.findSome?_cons, if_neg h, List.find?_cons_of_neg (by simpa using h)]
      exact ih

/-- A fold over what is left, when the steps for the rest do nothing. -/
theorem foldl_left {f : β → α → β} {q : α → Bool} {l : List α}
    (h : ∀ a ∈ l, q a = false → ∀ b, f b a = b) (b : β) :
    (l.filter q).foldl f b = l.foldl f b := by
  rw [List.foldl_filter]
  apply List.foldl_ext
  intro b a ha
  cases hq : q a with
  | true => rfl
  | false => simpa using (h a ha hq b).symm

/-- A part of a list without repetitions is what is left of the list's other entries. -/
theorem filter_mem_of_sublist [DecidableEq α] {part l : List α} (h : part.Sublist l) (hl : l.Nodup) :
    l.filter (· ∈ part) = part := by
  have hpart : part.filter (· ∈ part) = part := List.filter_eq_self.mpr fun a ha => decide_eq_true ha
  have hsub := h.filter (· ∈ part)
  rw [hpart] at hsub
  have hlen : (l.filter (· ∈ part)).length ≤ part.length :=
    (List.subperm_of_subset (hl.filter _) fun a ha =>
      of_decide_eq_true (List.mem_filter.mp ha).2).length_le
  exact (hsub.eq_of_length_le hlen).symm

section Passes

variable [DecidableEq κ] (key : α → κ)

/-- The first entry whose key is not taken and suits. -/
def firstLeft (l : List α) (taken : List κ) (p : κ → Bool) : Option α :=
  l.find? fun a => key a ∉ taken ∧ p (key a)

/-- Passes that each take the first entry left that suits them. -/
def passes (l : List α) : List (κ → Bool) → List κ → List (Option α)
  | [], _ => []
  | p :: ps, taken =>
    let a := firstLeft key l taken p
    a :: passes l ps ((a.map key).toList ++ taken)

variable {key}

theorem passes_left {q : α → Bool} {l : List α} {ps : List (κ → Bool)} {taken : List κ}
    (h : ∀ a, some a ∈ passes key l ps taken → q a = true) :
    passes key (l.filter q) ps taken = passes key l ps taken := by
  induction ps generalizing taken with
  | nil => rfl
  | cons p ps ih =>
    have hfirst : firstLeft key (l.filter q) taken p = firstLeft key l taken p := by
      cases hl : firstLeft key l taken p with
      | none =>
        have hno := List.find?_eq_none.mp hl
        exact List.find?_eq_none.mpr fun a ha => hno a (List.mem_of_mem_filter ha)
      | some a =>
        obtain ⟨ha, before, after, rfl, hbefore⟩ := List.find?_eq_some_iff_append.mp hl
        have hq : q a = true := h a (by rw [passes, hl]; exact List.mem_cons_self)
        refine List.find?_eq_some_iff_append.mpr ⟨ha, before.filter q, after.filter q, ?_, ?_⟩
        · rw [List.filter_append, List.filter_cons_of_pos hq]
        · exact fun b hb => hbefore b (List.mem_of_mem_filter hb)
    simp only [passes, hfirst] at h ⊢
    rw [ih fun a ha => h a (List.mem_cons_of_mem _ ha)]

/-- Passes over the images of the entries, when the keys stay. -/
theorem passes_map (g : α → β) {key' : β → κ} (hkey : ∀ a, key' (g a) = key a) (l : List α)
    (ps : List (κ → Bool)) (taken : List κ) :
    passes key' (l.map g) ps taken = (passes key l ps taken).map (Option.map g) := by
  induction ps generalizing taken with
  | nil => rfl
  | cons p ps ih =>
    have hfirst : firstLeft key' (l.map g) taken p = (firstLeft key l taken p).map g := by
      simp only [firstLeft, List.find?_map, Function.comp_def, hkey]
    have htaken : ((firstLeft key l taken p).map g).map key' = (firstLeft key l taken p).map key := by
      cases firstLeft key l taken p with
      | none => rfl
      | some a => exact congrArg some (hkey a)
    simp only [passes, hfirst, htaken, ih, List.map_cons]

/-- A pass takes an entry of the list. -/
theorem mem_of_mem_passes {l : List α} {ps : List (κ → Bool)} {taken : List κ} {a : α}
    (h : some a ∈ passes key l ps taken) : a ∈ l := by
  induction ps generalizing taken with
  | nil => cases h
  | cons p ps ih =>
    obtain h | h := List.mem_cons.mp h
    · exact List.mem_of_find?_eq_some h.symm
    · exact ih h

end Passes

section Readers

/-- Readers that each read the first entry left that they can, and take it away. -/
def readEach : List (α → Option β) → List α → List (Option β)
  | [], _ => []
  | r :: rs, l => l.findSome? r :: readEach rs (l.eraseP fun a => (r a).isSome)

/-- Entries that compete for a reader are alike to it and to all the readers after it. -/
def Uncontested : List (α → Option β) → List α → Prop
  | [], _ => True
  | r :: rs, l =>
    (∀ a ∈ l, ∀ b ∈ l, (r a).isSome → (r b).isSome → ∀ q ∈ r :: rs, q a = q b) ∧
      Uncontested rs (l.eraseP fun a => (r a).isSome)

instance decUncontested [DecidableEq β] :
    (rs : List (α → Option β)) → (l : List α) → Decidable (Uncontested rs l)
  | [], _ => isTrue trivial
  | r :: rs, l =>
    have := decUncontested rs (l.eraseP fun a => (r a).isSome)
    inferInstanceAs (Decidable (_ ∧ _))

/-- Entries that compete for a reader are told apart by what it reads, or are nothing to the readers
after it. -/
def Telling (told : β → β → Prop) : List (α → Option β) → List α → Prop
  | [], _ => True
  | r :: rs, l =>
    (∀ a ∈ l, ∀ b ∈ l, a ≠ b → ∀ x ∈ r a, ∀ y ∈ r b,
        told x y ∨ ∀ q ∈ rs, q a = none ∧ q b = none) ∧
      Telling told rs (l.eraseP fun a => (r a).isSome)

instance decTelling [DecidableEq α] [DecidableEq β] (told : β → β → Prop) [DecidableRel told] :
    (rs : List (α → Option β)) → (l : List α) → Decidable (Telling told rs l)
  | [], _ => isTrue trivial
  | r :: rs, l =>
    have := decTelling told rs (l.eraseP fun a => (r a).isSome)
    inferInstanceAs (Decidable (_ ∧ _))

variable {r : α → Option β} {rs : List (α → Option β)} {l l' : List α}

/-- A reader finds nothing, or takes the first entry that it can read. -/
theorem read_cases (r : α → Option β) (l : List α) :
    (l.findSome? r = none ∧ (∀ a ∈ l, r a = none) ∧ (l.eraseP fun a => (r a).isSome) = l) ∨
      ∃ a, (r a).isSome ∧ l.findSome? r = r a ∧ l.Perm (a :: l.eraseP fun a => (r a).isSome) := by
  cases hfirst : l.findSome? r with
  | none =>
    have hno := List.findSome?_eq_none_iff.mp hfirst
    exact .inl ⟨rfl, hno, List.eraseP_of_forall_not fun a ha => by simp [hno a ha]⟩
  | some b =>
    obtain ⟨before, a, after, rfl, ha, hbefore⟩ := List.findSome?_eq_some_iff.mp hfirst
    refine .inr ⟨a, by simp [ha], ha.symm, ?_⟩
    have hno : ∀ x ∈ before, ¬ (r x).isSome = true := fun x hx => by simp [hbefore x hx]
    rw [List.eraseP_append_right _ hno, List.eraseP_cons_of_pos (by simp [ha])]
    exact List.perm_middle

/-- What a list of readers makes of an entry. -/
def views (rs : List (α → Option β)) (a : α) : List (Option β) := rs.map fun q => q a

theorem views_head {a b : α} (h : views (r :: rs) a = views (r :: rs) b) : r a = r b :=
  (List.cons.inj h).1

theorem views_perm_tail (h : (l.map (views (r :: rs))).Perm (l'.map (views (r :: rs)))) :
    (l.map (views rs)).Perm (l'.map (views rs)) := by
  have htail := h.map List.tail
  rwa [List.map_map, List.map_map] at htail

/-- Uncontested entries are read alike from two lists that the readers cannot tell apart. -/
theorem Uncontested.readEach_eq (h : Uncontested rs l)
    (hviews : (l.map (views rs)).Perm (l'.map (views rs))) : readEach rs l' = readEach rs l := by
  induction rs generalizing l l' with
  | nil => rfl
  | cons r rs ih =>
    obtain ⟨halike, hrest⟩ := h
    have seen : ∀ b ∈ l', ∃ a ∈ l, views (r :: rs) a = views (r :: rs) b := fun b hb =>
      List.mem_map.mp (hviews.mem_iff.mpr (List.mem_map_of_mem hb))
    rcases read_cases r l with ⟨hnone, hno, hkeep⟩ | ⟨a, ha, hfirst, hperm⟩
    · have hno' : ∀ b ∈ l', r b = none := by
        intro b hb
        obtain ⟨a, hmem, hab⟩ := seen b hb
        rw [← views_head hab, hno a hmem]
      have hkeep' : (l'.eraseP fun a => (r a).isSome) = l' :=
        List.eraseP_of_forall_not fun b hb => by simp [hno' b hb]
      rw [hkeep] at hrest
      simp only [readEach, hnone, List.findSome?_eq_none_iff.mpr hno', hkeep, hkeep']
      rw [ih hrest (views_perm_tail hviews)]
    · rcases read_cases r l' with ⟨-, hno', -⟩ | ⟨b, hb, hfirst', hperm'⟩
      · have hmem : views (r :: rs) a ∈ l'.map (views (r :: rs)) :=
          hviews.mem_iff.mp (List.mem_map_of_mem (hperm.mem_iff.mpr List.mem_cons_self))
        obtain ⟨b, hmem', hab⟩ := List.mem_map.mp hmem
        rw [← views_head hab, hno' b hmem'] at ha
        cases ha
      · obtain ⟨c, hc, hcb⟩ := seen b (hperm'.mem_iff.mpr List.mem_cons_self)
        have hca : views (r :: rs) c = views (r :: rs) a := by
          have hcread : (r c).isSome := by rwa [views_head hcb]
          exact List.map_congr_left
            (halike c hc a (hperm.mem_iff.mpr List.mem_cons_self) hcread ha)
        have hab : views (r :: rs) a = views (r :: rs) b := hca.symm.trans hcb
        have hleft := ((hperm.map (views (r :: rs))).symm.trans hviews).trans
          (hperm'.map (views (r :: rs)))
        rw [List.map_cons, List.map_cons, hab] at hleft
        simp only [readEach, hfirst, hfirst', views_head hab]
        rw [ih hrest (views_perm_tail hleft.cons_inv)]

/-- An entry that no reader can read makes no difference. -/
theorem readEach_unread {a : α} (h : ∀ q ∈ rs, q a = none) (l : List α) :
    readEach rs (a :: l) = readEach rs l := by
  induction rs generalizing l with
  | nil => rfl
  | cons r rs ih =>
    have hr := h r List.mem_cons_self
    simp only [readEach]
    rw [List.findSome?_cons, hr, List.eraseP_cons_of_neg (by simp [hr]),
      ih fun q hq => h q (List.mem_cons_of_mem _ hq)]

/-- What is read first of a list stands in front of what the other readers read of the rest. -/
theorem readEach_cons {a : α} (ha : (r a).isSome) (l : List α) :
    readEach (r :: rs) (a :: l) = r a :: readEach rs l := by
  obtain ⟨b, hb⟩ := Option.isSome_iff_exists.mp ha
  simp only [readEach]
  rw [List.findSome?_cons, hb, List.eraseP_cons_of_pos (by simp [hb])]

/-- What the other readers read of an order of the rest, they read of some order of the whole. -/
theorem exists_whole (r : α → Option β) (rs : List (α → Option β)) (l : List α) :
    ∃ first, ∀ l', (l.eraseP fun a => (r a).isSome).Perm l' →
      ∃ whole, l.Perm whole ∧ readEach (r :: rs) whole = first :: readEach rs l' := by
  rcases read_cases r l with ⟨-, hno, hkeep⟩ | ⟨f, hf, -, hperm⟩
  · refine ⟨none, fun l' hl => ⟨l', hkeep ▸ hl, ?_⟩⟩
    have hno' : ∀ a ∈ l', r a = none := fun a ha => hno a ((hkeep ▸ hl).mem_iff.mpr ha)
    simp only [readEach, List.findSome?_eq_none_iff.mpr hno']
    rw [List.eraseP_of_forall_not fun a ha => by simp [hno' a ha]]
  · exact ⟨r f, fun l' hl => ⟨f :: l', hperm.trans (hl.cons f), readEach_cons hf l'⟩⟩

/-- Where the readings of no two orders differ in one reader only, or differ first in readings that
are told apart, telling entries are uncontested. -/
theorem Telling.uncontested {told : β → β → Prop} (htell : Telling told rs l)
    (hone : ∀ l₁ l₂ pre post x y, l.Perm l₁ → l.Perm l₂ → readEach rs l₁ = pre ++ some x :: post →
      readEach rs l₂ = pre ++ some y :: post → x = y)
    (hfirst : ∀ l₁ l₂ pre post post' x y, l.Perm l₁ → l.Perm l₂ →
      readEach rs l₁ = pre ++ some x :: post → readEach rs l₂ = pre ++ some y :: post' →
      ¬ told x y) : Uncontested rs l := by
  classical
  induction rs generalizing l with
  | nil => trivial
  | cons r rs ih =>
    obtain ⟨hthis, hrest⟩ := htell
    constructor
    · intro a ha b hb hra hrb
      by_cases hab : a = b
      · exact fun q _ => congrArg q hab
      obtain ⟨x, hx⟩ := Option.isSome_iff_exists.mp hra
      obtain ⟨y, hy⟩ := Option.isSome_iff_exists.mp hrb
      have hb' : b ∈ l.erase a := (List.mem_erase_of_ne (Ne.symm hab)).mpr hb
      have hperm : l.Perm (a :: b :: (l.erase a).erase b) :=
        (List.perm_cons_erase ha).trans ((List.perm_cons_erase hb').cons a)
      have hperm' : l.Perm (b :: a :: (l.erase a).erase b) := hperm.trans (.swap b a _)
      have hread : readEach (r :: rs) (a :: b :: (l.erase a).erase b) =
          [] ++ some x :: readEach rs (b :: (l.erase a).erase b) := by
        rw [readEach_cons hra, hx]
        rfl
      have hread' : readEach (r :: rs) (b :: a :: (l.erase a).erase b) =
          [] ++ some y :: readEach rs (a :: (l.erase a).erase b) := by
        rw [readEach_cons hrb, hy]
        rfl
      rcases hthis a ha b hb hab x hx y hy with htold | hlater
      · exact (hfirst _ _ _ _ _ x y hperm hperm' hread hread' htold).elim
      · rw [readEach_unread fun q hq => (hlater q hq).2] at hread
        rw [readEach_unread fun q hq => (hlater q hq).1] at hread'
        have hxy : x = y := hone _ _ _ _ x y hperm hperm' hread hread'
        intro q hq
        obtain rfl | hq := List.mem_cons.mp hq
        · rw [hx, hy, hxy]
        · rw [(hlater q hq).1, (hlater q hq).2]
    · obtain ⟨first, hwhole⟩ := exists_whole r rs l
      have lift : ∀ l' pre post z, (l.eraseP fun a => (r a).isSome).Perm l' →
          readEach rs l' = pre ++ some z :: post →
          ∃ whole, l.Perm whole ∧ readEach (r :: rs) whole = first :: pre ++ some z :: post := by
        intro l' pre post z hl hread
        obtain ⟨whole, hperm, hwhole⟩ := hwhole l' hl
        exact ⟨whole, hperm, by rw [hwhole, hread, List.cons_append]⟩
      refine ih hrest (fun l₁ l₂ pre post x y h₁ h₂ hread₁ hread₂ => ?_)
        fun l₁ l₂ pre post post' x y h₁ h₂ hread₁ hread₂ => ?_
      · obtain ⟨w₁, hw₁, hr₁⟩ := lift l₁ pre post x h₁ hread₁
        obtain ⟨w₂, hw₂, hr₂⟩ := lift l₂ pre post y h₂ hread₂
        exact hone w₁ w₂ _ post x y hw₁ hw₂ hr₁ hr₂
      · obtain ⟨w₁, hw₁, hr₁⟩ := lift l₁ pre post x h₁ hread₁
        obtain ⟨w₂, hw₂, hr₂⟩ := lift l₂ pre post' y h₂ hread₂
        exact hfirst w₁ w₂ _ post post' x y hw₁ hw₂ hr₁ hr₂

end Readers

section Choices

variable {key : α → κ} {l : List α}

/-- What passes may take of a list in some order: each pass any entry left that suits it, and
nothing only where no entry left suits. -/
inductive Choice (key : α → κ) (l : List α) :
    List (κ → Bool) → List κ → List (Option α) → Prop
  | nil (taken : List κ) : Choice key l [] taken []
  | none {p : κ → Bool} {ps : List (κ → Bool)} {taken : List κ} {picks : List (Option α)} :
      (∀ a ∈ l, key a ∉ taken → p (key a) = false) → Choice key l ps taken picks →
      Choice key l (p :: ps) taken (Option.none :: picks)
  | some {p : κ → Bool} {ps : List (κ → Bool)} {taken : List κ} {picks : List (Option α)} {a : α} :
      a ∈ l → key a ∉ taken → p (key a) = true → Choice key l ps (key a :: taken) picks →
      Choice key l (p :: ps) taken (Option.some a :: picks)

/-- What is chosen are entries of the list, with keys that were left. -/
theorem Choice.mem {ps : List (κ → Bool)} {taken : List κ} {picks : List (Option α)}
    (h : Choice key l ps taken picks) : ∀ a ∈ picks.reduceOption, a ∈ l ∧ key a ∉ taken := by
  induction h with
  | nil => exact fun a ha => by cases ha
  | none _ _ ih => simpa using ih
  | some hmem hleft _ _ ih =>
    intro a ha
    rw [List.reduceOption_cons_of_some] at ha
    obtain rfl | ha := List.mem_cons.mp ha
    · exact ⟨hmem, hleft⟩
    · obtain ⟨hl, hnot⟩ := ih a ha
      exact ⟨hl, fun htaken => hnot (List.mem_cons_of_mem _ htaken)⟩

/-- No key is chosen twice. -/
theorem Choice.keys_nodup {ps : List (κ → Bool)} {taken : List κ} {picks : List (Option α)}
    (h : Choice key l ps taken picks) : (picks.reduceOption.map key).Nodup := by
  induction h with
  | nil => simp
  | none _ _ ih => simpa using ih
  | some _ _ _ hrest ih =>
    rw [List.reduceOption_cons_of_some, List.map_cons, List.nodup_cons]
    refine ⟨fun hmem => ?_, ih⟩
    obtain ⟨b, hb, hkey⟩ := List.mem_map.mp hmem
    apply (hrest.mem b hb).2
    simp [hkey]

theorem Choice.nodup {ps : List (κ → Bool)} {taken : List κ} {picks : List (Option α)}
    (h : Choice key l ps taken picks) : picks.reduceOption.Nodup := h.keys_nodup.of_map key

/-- What is chosen suits one of the passes. -/
theorem Choice.suits_one {ps : List (κ → Bool)} {taken : List κ} {picks : List (Option α)}
    (h : Choice key l ps taken picks) : ∀ a ∈ picks.reduceOption, ∃ p ∈ ps, p (key a) = true := by
  induction h with
  | nil => simp
  | none _ _ ih => simpa using fun a ha => Or.inr (ih a (by simpa using ha))
  | some _ _ hp _ ih => simpa [hp] using fun a ha => Or.inr (ih a (by simpa using ha))

/-- What each pass takes suits it. -/
theorem Choice.suits {ps : List (κ → Bool)} {taken : List κ} {picks : List (Option α)}
    (h : Choice key l ps taken picks) :
    List.Forall₂ (fun p pick => ∀ a, pick = Option.some a → p (key a) = true) ps picks := by
  induction h with
  | nil => exact .nil
  | none _ _ ih => exact .cons (by simp) ih
  | some _ _ hp _ ih => exact .cons (by simpa using hp) ih

variable [DecidableEq κ]

/-- What the passes take of the list as it stands. -/
theorem passes_choice (l : List α) (ps : List (κ → Bool)) (taken : List κ) :
    Choice key l ps taken (passes key l ps taken) := by
  induction ps generalizing taken with
  | nil => exact .nil taken
  | cons p ps ih =>
    unfold passes
    cases hfirst : firstLeft key l taken p with
    | none =>
      refine .none (fun a ha hleft => ?_) (ih taken)
      simpa [hleft] using List.find?_eq_none.mp hfirst a ha
    | some a =>
      unfold firstLeft at hfirst
      have hsuits : key a ∉ taken ∧ p (key a) = true := by simpa using List.find?_some hfirst
      exact .some (List.mem_of_find?_eq_some hfirst) hsuits.1 hsuits.2 (ih _)

end Choices

section PassReaders

variable [DecidableEq κ] {key : α → κ}

/-- With keys of their own, the entries left are those that no pass has taken. -/
theorem eraseP_left {l : List α} (hl : (l.map key).Nodup) (taken : List κ) (p : κ → Bool) :
    ((l.filter fun a => key a ∉ taken).eraseP fun a => p (key a)) =
      l.filter fun a => key a ∉ ((firstLeft key l taken p).map key).toList ++ taken := by
  induction l with
  | nil => rfl
  | cons a l ih =>
    obtain ⟨hfresh, hl⟩ := List.nodup_cons.mp hl
    by_cases htaken : key a ∈ taken
    · have hfirst : firstLeft key (a :: l) taken p = firstLeft key l taken p :=
        List.find?_cons_of_neg (by simp [htaken])
      rw [hfirst, List.filter_cons_of_neg (by simp [htaken]), List.filter_cons_of_neg (by simp [htaken])]
      exact ih hl
    rw [List.filter_cons_of_pos (by simp [htaken])]
    by_cases hp : p (key a) = true
    · have hfirst : firstLeft key (a :: l) taken p = some a :=
        List.find?_cons_of_pos (by simp [htaken, hp])
      rw [hfirst, List.eraseP_cons_of_pos (by simp [hp]), List.filter_cons_of_neg (by simp)]
      refine List.filter_congr fun b hb => ?_
      have hne : key b ≠ key a := fun he => hfresh (he ▸ List.mem_map_of_mem hb)
      simp [hne]
    · have hfirst : firstLeft key (a :: l) taken p = firstLeft key l taken p :=
        List.find?_cons_of_neg (by simp [hp])
      rw [hfirst, List.eraseP_cons_of_neg (by simp [hp]), ih hl, List.filter_cons_of_pos]
      cases hnext : firstLeft key l taken p with
      | none => exact decide_eq_true htaken
      | some b =>
        have hne : key a ≠ key b := fun he =>
          hfresh (he ▸ List.mem_map_of_mem (List.mem_of_find?_eq_some hnext))
        simpa [hne] using htaken

/-- The reader that shows an entry whose key suits. -/
def suitReader (key : α → κ) (p : κ → Bool) (trim : α → β) (a : α) : Option β :=
  if p (key a) then some (trim a) else none

/-- Passes over entries with keys of their own are readers. -/
theorem readEach_passes {l : List α} (hl : (l.map key).Nodup) (ps : List (κ → Bool))
    (trims : List (α → β)) (hlen : ps.length = trims.length) (taken : List κ) :
    readEach (List.zipWith (suitReader key) ps trims) (l.filter fun a => key a ∉ taken) =
      List.zipWith (fun trim pick => pick.map trim) trims (passes key l ps taken) := by
  induction ps generalizing trims taken with
  | nil => cases trims <;> rfl
  | cons p ps ih =>
    cases trims with
    | nil => cases hlen
    | cons trim trims =>
      have hsome : (fun a => (suitReader key p trim a).isSome) = fun a => p (key a) := by
        funext a
        cases hp : p (key a) <;> simp [suitReader, hp]
      have hfirst : (l.filter fun a => key a ∉ taken).findSome? (suitReader key p trim) =
          (firstLeft key l taken p).map trim := by
        refine (findSome?_ite (fun a => p (key a) = true) trim _).trans ?_
        rw [List.find?_filter]
        congr 2
        funext a
        simp
      simp only [List.zipWith_cons_cons, readEach, passes, hfirst, hsome, eraseP_left hl]
      rw [ih trims (Nat.succ.inj hlen)]

end PassReaders

end FirstMatch
end ResearchEngine
