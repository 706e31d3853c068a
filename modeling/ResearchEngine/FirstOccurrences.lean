import Mathlib.Data.List.Dedup
import Mathlib.Data.List.Perm.Basic
import Mathlib.Tactic.Common

/-! The distinct entries of a list in the order in which they first occur. -/
namespace ResearchEngine
namespace FirstOccurrences

variable {α : Type}

/-- `a` occurs in the list before any `b`. -/
def Before (l : List α) (a b : α) : Prop := ∃ pre post, l = pre ++ a :: post ∧ b ∉ pre

theorem Before.mem {l : List α} {a b : α} (h : Before l a b) : a ∈ l := by
  obtain ⟨pre, post, rfl, -⟩ := h
  simp

theorem Before.cons {l : List α} {a b c : α} (h : Before l a b) (hc : b ≠ c) :
    Before (c :: l) a b := by
  obtain ⟨pre, post, rfl, hb⟩ := h
  exact ⟨c :: pre, post, rfl, by simp [hb, hc]⟩

theorem before_head (l : List α) (a b : α) : Before (a :: l) a b := ⟨[], l, rfl, List.not_mem_nil⟩

theorem before_cons_iff {l : List α} {a b c : α} :
    Before (c :: l) a b ↔ a = c ∨ (b ≠ c ∧ Before l a b) := by
  constructor
  · rintro ⟨pre, post, heq, hb⟩
    cases pre with
    | nil => exact Or.inl (List.cons.inj heq).1.symm
    | cons d pre =>
      obtain ⟨rfl, rfl⟩ := List.cons.inj heq
      rw [List.mem_cons, not_or] at hb
      exact Or.inr ⟨hb.1, pre, post, rfl, hb.2⟩
  · rintro (rfl | ⟨hne, h⟩)
    · exact before_head l a b
    · exact h.cons hne

/-- Of two entries one comes first. -/
theorem Before.antisymm {l : List α} {a b : α} (hab : Before l a b) (hba : Before l b a) : a = b := by
  induction l with
  | nil => exact absurd hab.mem List.not_mem_nil
  | cons c l ih =>
    rcases before_cons_iff.mp hab with rfl | ⟨hb, hab⟩
    · rcases before_cons_iff.mp hba with rfl | ⟨ha, -⟩
      · rfl
      · exact absurd rfl ha
    · rcases before_cons_iff.mp hba with rfl | ⟨-, hba⟩
      · exact absurd rfl hb
      · exact ih hab hba

/-- Leaving entries out keeps the order of those that stay. -/
theorem Before.filter {l : List α} {a b : α} (h : Before l a b) {p : α → Bool} (ha : p a = true) :
    Before (l.filter p) a b := by
  obtain ⟨pre, post, rfl, hb⟩ := h
  refine ⟨pre.filter p, post.filter p, ?_, fun hmem => hb (List.mem_of_mem_filter hmem)⟩
  rw [List.filter_append, List.filter_cons_of_pos ha]

theorem Before.of_filter {l : List α} {a b : α} {p : α → Bool} (h : Before (l.filter p) a b)
    (hb : p b = true) : Before l a b := by
  induction l with
  | nil => exact absurd h.mem List.not_mem_nil
  | cons c l ih =>
    by_cases hc : p c = true
    · rw [List.filter_cons_of_pos hc] at h
      rcases before_cons_iff.mp h with rfl | ⟨hne, h⟩
      · exact before_head l a b
      · exact (ih h).cons hne
    · rw [List.filter_cons_of_neg hc] at h
      exact (ih h).cons fun he => hc (he ▸ hb)

/-- An injective renaming keeps the order. -/
theorem before_map_iff {β : Type} {f : α → β} (hf : Function.Injective f) {l : List α} {a b : α} :
    Before (l.map f) (f a) (f b) ↔ Before l a b := by
  induction l with
  | nil => exact ⟨fun h => absurd h.mem List.not_mem_nil, fun h => absurd h.mem List.not_mem_nil⟩
  | cons c l ih =>
    rw [List.map_cons, before_cons_iff, before_cons_iff, ih, hf.eq_iff, hf.ne_iff]

theorem before_filter_iff {l : List α} {a b : α} {p : α → Bool} (ha : p a = true) (hb : p b = true) :
    Before (l.filter p) a b ↔ Before l a b := ⟨fun h => h.of_filter hb, fun h => h.filter ha⟩

theorem before_self {l : List α} {a : α} (h : a ∈ l) : Before l a a := by
  obtain ⟨pre, post, heq, hpre⟩ := List.eq_append_cons_of_mem h
  exact ⟨pre, post, heq, hpre⟩

theorem pairwise_either {R : α → α → Prop} {l : List α} (h : l.Pairwise R) {a b : α} (ha : a ∈ l)
    (hb : b ∈ l) (hne : a ≠ b) : R a b ∨ R b a := by
  induction h with
  | nil => exact absurd ha List.not_mem_nil
  | cons hhead _ ih =>
    rcases List.mem_cons.mp ha with rfl | ha'
    · rcases List.mem_cons.mp hb with rfl | hb'
      · exact absurd rfl hne
      · exact Or.inl (hhead b hb')
    · rcases List.mem_cons.mp hb with rfl | hb'
      · exact Or.inr (hhead a ha')
      · exact ih ha' hb'

/-- Two duplicate-free lists with the same entries in the same order are equal. -/
theorem eq_of_ordered {l m m' : List α} (hm : m.Nodup) (hm' : m'.Nodup) (hmem : ∀ a, a ∈ m ↔ a ∈ m')
    (ho : m.Pairwise (Before l)) (ho' : m'.Pairwise (Before l)) : m = m' :=
  ((List.perm_ext_iff_of_nodup hm hm').mpr hmem).eq_of_pairwise
    (fun _ _ _ _ hab hba => hab.antisymm hba) ho ho'

variable [DecidableEq α]

/-- `list(dict.fromkeys(l))` -/
def firsts (l : List α) : List α := l.reverse.dedup.reverse

@[simp] theorem mem_firsts {l : List α} {a : α} : a ∈ firsts l ↔ a ∈ l := by
  simp [firsts]

theorem firsts_nodup (l : List α) : (firsts l).Nodup :=
  List.nodup_reverse.mpr (List.nodup_dedup _)

theorem firsts_ordered (l : List α) : (firsts l).Pairwise (Before l) := by
  unfold firsts
  rw [List.pairwise_reverse]
  suffices h : ∀ m : List α, m.dedup.Pairwise fun b a => Before m.reverse a b by
    simpa only [List.reverse_reverse] using h l.reverse
  intro m
  induction m with
  | nil => simp
  | cons c m ih =>
    have hstep : m.dedup.Pairwise fun b a => Before (c :: m).reverse a b := by
      refine ih.imp fun {b a} h => ?_
      obtain ⟨pre, post, heq, hb⟩ := h
      exact ⟨pre, post ++ [c], by rw [List.reverse_cons, heq]; simp, hb⟩
    by_cases hc : c ∈ m
    · rw [List.dedup_cons_of_mem hc]
      exact hstep
    · rw [List.dedup_cons_of_notMem hc, List.pairwise_cons]
      refine ⟨fun a ha => ?_, hstep⟩
      obtain ⟨pre, post, heq⟩ := List.append_of_mem (List.mem_reverse.mpr (List.mem_dedup.mp ha))
      refine ⟨pre, post ++ [c], by rw [List.reverse_cons, heq]; simp, fun hpre => hc ?_⟩
      rw [← List.mem_reverse, heq]
      exact List.mem_append_left _ hpre

/-- What characterises the distinct entries in order. -/
theorem eq_firsts_iff {l m : List α} :
    m = firsts l ↔ m.Nodup ∧ (∀ a, a ∈ m ↔ a ∈ l) ∧ m.Pairwise (Before l) := by
  constructor
  · rintro rfl
    exact ⟨firsts_nodup l, fun _ => mem_firsts, firsts_ordered l⟩
  · rintro ⟨hnodup, hmem, hordered⟩
    exact eq_of_ordered hnodup (firsts_nodup l) (fun a => (hmem a).trans mem_firsts.symm) hordered
      (firsts_ordered l)

theorem firsts_of_nodup {l : List α} (h : l.Nodup) : firsts l = l := by
  unfold firsts
  rw [List.Nodup.dedup (List.nodup_reverse.mpr h), List.reverse_reverse]

theorem firsts_filter (p : α → Bool) (l : List α) : firsts (l.filter p) = (firsts l).filter p := by
  refine (eq_firsts_iff.mpr ⟨(firsts_nodup l).filter p, fun a => ?_, ?_⟩).symm
  · simp [List.mem_filter]
  · refine List.Pairwise.imp_of_mem (fun {a b} ha _ h => ?_) ((firsts_ordered l).filter p)
    exact h.filter (List.mem_filter.mp ha).2

/-- Two lists have the same distinct entries in the same order. -/
theorem firsts_eq_iff {l l' : List α} :
    firsts l = firsts l' ↔
      (∀ a, a ∈ l ↔ a ∈ l') ∧ ∀ a ∈ l, ∀ b ∈ l, Before l a b → Before l' a b := by
  constructor
  · intro heq
    have hmem : ∀ a, a ∈ l ↔ a ∈ l' := fun a => by rw [← mem_firsts, heq, mem_firsts]
    refine ⟨hmem, fun a ha b hb hab => ?_⟩
    by_cases he : a = b
    · subst he
      exact before_self ((hmem a).mp ha)
    -- one of the two stands first in the common list, hence first in both lists
    have hboth : (firsts l).Pairwise fun x y => Before l x y ∧ Before l' x y :=
      (firsts_ordered l).and (heq ▸ firsts_ordered l')
    rcases pairwise_either hboth (mem_firsts.mpr ha) (mem_firsts.mpr hb) he with h | h
    · exact h.2
    · exact absurd (hab.antisymm h.1) he
  · rintro ⟨hmem, hbefore⟩
    refine eq_of_ordered (firsts_nodup l) (firsts_nodup l') (fun a => ?_) ?_ (firsts_ordered l')
    · rw [mem_firsts, mem_firsts]
      exact hmem a
    · refine (firsts_ordered l).imp_of_mem fun {a b} ha hb h => ?_
      exact hbefore a (mem_firsts.mp ha) b (mem_firsts.mp hb) h

end FirstOccurrences
end ResearchEngine
