import Mathlib.Data.List.Basic
import Mathlib.Tactic.Common

/-! A backtracking matcher for regular expressions: repetitions are greedy, alternatives are tried
in their order, and the first way to match the whole pattern counts. -/
namespace ResearchEngine

/-- Patterns; a character class is given by its test. -/
inductive Regex
  | eps
  | one (p : Char → Bool)
  | seq (r s : Regex)
  | alt (r s : Regex)
  | opt (r : Regex)
  /-- Any number of characters of a class. -/
  | star (p : Char → Bool)
  /-- A border between characters inside and outside a class. -/
  | boundary (p : Char → Bool)
  | group (n : ℕ) (r : Regex)

namespace Regex

/-- A place in a text: the character before it, the text from it on, the groups captured so far. -/
structure Place where
  prev : Option Char
  rest : List Char
  groups : List (ℕ × List Char) := []
  deriving DecidableEq, Repr

namespace Place

def group (s : Place) (n : ℕ) : Option (List Char) :=
  (s.groups.find? fun g => g.1 = n).map Prod.snd

/-- The next character is in a class. -/
def next (p : Char → Bool) (s : Place) : Bool := s.rest.head?.any p

/-- The place behind the next character. -/
def step (s : Place) : Place :=
  match s.rest with
  | [] => s
  | c :: cs => { s with prev := some c, rest := cs }

/-- The place with what was read since an earlier place as a group. -/
def capture (s : Place) (n : ℕ) (start : Place) : Place :=
  { s with groups := (n, start.rest.take (start.rest.length - s.rest.length)) :: s.groups }

end Place

/-- The longest run of a class first, then the shorter ones. -/
def starRun {α : Type} (p : Char → Bool) (k : Place → Option α)
    (groups : List (ℕ × List Char)) : Option Char → List Char → Option α
  | prev, [] => k ⟨prev, [], groups⟩
  | prev, c :: cs =>
    if p c then (starRun p k groups (some c) cs).or (k ⟨prev, c :: cs, groups⟩)
    else k ⟨prev, c :: cs, groups⟩

/-- The first way to match a pattern from a place with which the rest `k` succeeds. -/
def run {α : Type} : Regex → Place → (Place → Option α) → Option α
  | eps, s, k => k s
  | one p, s, k => if s.next p then k s.step else none
  | seq r t, s, k => r.run s fun m => t.run m k
  | alt r t, s, k => (r.run s k).or (t.run s k)
  | opt r, s, k => (r.run s k).or (k s)
  | star p, s, k => starRun p k s.groups s.prev s.rest
  | boundary p, s, k => if s.prev.any p ≠ s.next p then k s else none
  | group n r, s, k => r.run s fun e => k (e.capture n s)

/-- `p+` -/
def plus (p : Char → Bool) : Regex := seq (one p) (star p)

/-- `p{0,n}` -/
def upTo (p : Char → Bool) : ℕ → Regex
  | 0 => eps
  | n + 1 => opt (seq (one p) (upTo p n))

/-- `p{m,m+n}` -/
def between (p : Char → Bool) (m n : ℕ) : Regex :=
  (List.replicate m (one p)).foldr seq (upTo p n)

/-- The patterns one after the other. -/
def all : List Regex → Regex
  | [] => eps
  | [r] => r
  | r :: s :: rs => seq r (all (s :: rs))

/-- The place before the character at `i`. -/
def placeAt (text : List Char) (i : ℕ) : Place where
  prev := (text.take i).getLast?
  rest := text.drop i

/-- The match that starts at a position. -/
def matchAt (r : Regex) (text : List Char) (i : ℕ) : Option Place :=
  r.run (placeAt text i) some

/-- The position of the first match, and its end. -/
def searchAt (r : Regex) (text : List Char) : Option (ℕ × Place) :=
  (List.range (text.length + 1)).findSome? fun i => (r.matchAt text i).map fun e => (i, e)

/-- `re.search` -/
def search (r : Regex) (text : List Char) : Option Place := (r.searchAt text).map Prod.snd

section Runs

variable {α β : Type}

/-! What the continuation does to a result can be done afterwards. -/

theorem starRun_map (f : α → β) (p : Char → Bool) (k : Place → Option α)
    (groups : List (ℕ × List Char)) (prev : Option Char) (cs : List Char) :
    (starRun p k groups prev cs).map f = starRun p (fun e => (k e).map f) groups prev cs := by
  induction cs generalizing prev with
  | nil => rfl
  | cons c cs ih =>
    unfold starRun
    split
    · rw [← ih]
      cases starRun p k groups (some c) cs <;> rfl
    · rfl

theorem run_map (f : α → β) (r : Regex) (s : Place) (k : Place → Option α) :
    (r.run s k).map f = r.run s fun e => (k e).map f := by
  induction r generalizing s k with
  | eps => rfl
  | one p =>
    unfold run
    split <;> rfl
  | seq r t ihr iht =>
    unfold run
    rw [ihr]
    simp only [iht]
  | alt r t ihr iht =>
    unfold run
    rw [← ihr, ← iht]
    cases r.run s k <;> rfl
  | opt r ih =>
    unfold run
    rw [← ih]
    cases r.run s k <;> rfl
  | star p => exact starRun_map f p k s.groups s.prev s.rest
  | boundary p =>
    unfold run
    split <;> rfl
  | group n r ih =>
    unfold run
    rw [ih]

/-- A place with earlier groups below its own. -/
def Place.under (s : Place) (groups : List (ℕ × List Char)) : Place :=
  { s with groups := s.groups ++ groups }

theorem starRun_under (p : Char → Bool) (k : Place → Option α) (g groups : List (ℕ × List Char))
    (prev : Option Char) (cs : List Char) :
    starRun p k (g ++ groups) prev cs = starRun p (fun e => k (e.under groups)) g prev cs := by
  induction cs generalizing prev with
  | nil => rfl
  | cons c cs ih =>
    unfold starRun
    rw [ih]
    rfl

/-- The groups captured before a run stay below those that it captures. -/
theorem run_under (r : Regex) (s : Place) (groups : List (ℕ × List Char))
    (k : Place → Option α) : r.run (s.under groups) k = r.run s fun e => k (e.under groups) := by
  induction r generalizing s k with
  | eps => rfl
  | one p =>
    have hstep : (s.under groups).step = s.step.under groups := by
      unfold Place.step
      cases h : s.rest <;> simp [Place.under, h]
    unfold run
    rw [hstep]
    rfl
  | seq r t ihr iht =>
    unfold run
    rw [ihr]
    simp only [iht]
  | alt r t ihr iht =>
    unfold run
    rw [ihr, iht]
  | opt r ih =>
    unfold run
    rw [ih]
  | star p => exact starRun_under p k s.groups groups s.prev s.rest
  | boundary p => rfl
  | group n r ih =>
    unfold run
    rw [ih]
    rfl

/-- The groups that a pattern captures. -/
def captures : Regex → List ℕ
  | eps | one _ | star _ | boundary _ => []
  | seq r t | alt r t => r.captures ++ t.captures
  | opt r => r.captures
  | group n r => n :: r.captures

/-- One place lies behind another in a text. -/
def Place.Reaches (s e : Place) : Prop :=
  ∃ read, s.rest = read ++ e.rest ∧ e.prev = read.getLast?.or s.prev

theorem Place.Reaches.refl (s : Place) : s.Reaches s := ⟨[], rfl, rfl⟩

theorem Place.Reaches.trans {s m e : Place} (h : s.Reaches m) (h' : m.Reaches e) : s.Reaches e := by
  obtain ⟨read, hrest, hprev⟩ := h
  obtain ⟨read', hrest', hprev'⟩ := h'
  refine ⟨read ++ read', by rw [hrest, hrest', List.append_assoc], ?_⟩
  rw [hprev', hprev, List.getLast?_append, Option.or_assoc]

theorem Place.reaches_step (s : Place) : s.Reaches s.step := by
  unfold Place.step
  cases h : s.rest with
  | nil => exact Place.Reaches.refl s
  | cons c cs => exact ⟨[c], h, rfl⟩

theorem starRun_sound {p : Char → Bool} {k : Place → Option α} {groups : List (ℕ × List Char)}
    {prev : Option Char} {cs : List Char} {x : α} (h : starRun p k groups prev cs = some x) :
    ∃ e, k e = some x ∧ Place.Reaches ⟨prev, cs, groups⟩ e ∧ e.groups = groups := by
  induction cs generalizing prev with
  | nil => exact ⟨_, h, Place.Reaches.refl _, rfl⟩
  | cons c cs ih =>
    unfold starRun at h
    split at h
    · rcases Option.or_eq_some_iff.mp h with hmore | ⟨-, hstop⟩
      · obtain ⟨e, he, hreach, hgroups⟩ := ih hmore
        exact ⟨e, he, Place.Reaches.trans (Place.reaches_step ⟨prev, c :: cs, groups⟩) hreach, hgroups⟩
      · exact ⟨_, hstop, Place.Reaches.refl _, rfl⟩
    · exact ⟨_, h, Place.Reaches.refl _, rfl⟩

/-- What a successful run says: the rest succeeded at a place behind, and only the pattern's own
groups are new there. -/
theorem run_sound {r : Regex} {s : Place} {k : Place → Option α} {x : α} (h : r.run s k = some x) :
    ∃ e, k e = some x ∧ s.Reaches e ∧ ∀ n ∉ r.captures, e.group n = s.group n := by
  induction r generalizing s k with
  | eps => exact ⟨s, h, Place.Reaches.refl s, fun _ _ => rfl⟩
  | one p =>
    unfold run at h
    split at h
    · refine ⟨s.step, h, s.reaches_step, fun n _ => ?_⟩
      unfold Place.step
      cases hrest : s.rest <;> rfl
    · cases h
  | seq r t ihr iht =>
    obtain ⟨m, hm, hsm, hgm⟩ := ihr h
    obtain ⟨e, he, hme, hge⟩ := iht hm
    refine ⟨e, he, hsm.trans hme, fun n hn => ?_⟩
    obtain ⟨hr, ht⟩ := not_or.mp (mt List.mem_append.mpr hn)
    rw [hge n ht, hgm n hr]
  | alt r t ihr iht =>
    rcases Option.or_eq_some_iff.mp h with hleft | ⟨-, hright⟩
    · obtain ⟨e, he, hse, hge⟩ := ihr hleft
      exact ⟨e, he, hse, fun n hn => hge n fun hr => hn (List.mem_append_left _ hr)⟩
    · obtain ⟨e, he, hse, hge⟩ := iht hright
      exact ⟨e, he, hse, fun n hn => hge n fun ht => hn (List.mem_append_right _ ht)⟩
  | opt r ih =>
    rcases Option.or_eq_some_iff.mp h with hone | ⟨-, hnone⟩
    · exact ih hone
    · exact ⟨s, hnone, Place.Reaches.refl s, fun _ _ => rfl⟩
  | star p =>
    obtain ⟨e, he, hse, hgroups⟩ := starRun_sound h
    exact ⟨e, he, hse, fun n _ => by rw [Place.group, hgroups]; rfl⟩
  | boundary p =>
    unfold run at h
    split at h
    · exact ⟨s, h, Place.Reaches.refl s, fun _ _ => rfl⟩
    · cases h
  | group n r ih =>
    obtain ⟨e, he, hse, hge⟩ := ih h
    refine ⟨e.capture n s, he, hse, fun m hm => ?_⟩
    obtain ⟨hmn, hmr⟩ := not_or.mp (mt List.mem_cons.mpr hm)
    have hskip : (e.capture n s).group m = e.group m := by
      simp [Place.group, Place.capture, Ne.symm hmn]
    rw [hskip, hge m hmr]

end Runs

section Determined

/-! Patterns that have one way to go on, once what follows cannot start with the class that they
end in. -/

variable {α : Type}

/-- The rest of a match fails before characters of a class. -/
def Rejects (p : Char → Bool) (k : Place → Option α) : Prop :=
  ∀ m, m.next p = true → k m = none

/-- The first way to match a pattern is the only one for a rest that rejects a class. -/
def Sure (r : Regex) (p : Char → Bool) : Prop :=
  ∀ (α : Type) (s : Place) (k : Place → Option α), Rejects p k →
    r.run s k = (r.run s some).bind k

/-- A pattern does not start with a class. -/
def Blocks (r : Regex) (p : Char → Bool) : Prop :=
  ∀ (α : Type) (s : Place) (k : Place → Option α), s.next p = true → r.run s k = none

/-- A pattern matches nothing before a class, or fails. -/
def Skips (r : Regex) (p : Char → Bool) : Prop :=
  ∀ (α : Type) (s : Place) (k : Place → Option α), s.next p = true → k s = none → r.run s k = none

/-- No character is in both classes. -/
def Apart (p q : Char → Bool) : Prop := ∀ c, p c = true → q c = false

theorem Place.next_apart {p q : Char → Bool} {s : Place} (h : Apart p q) (hp : s.next p = true) :
    s.next q = false := by
  unfold Place.next at hp ⊢
  cases hc : s.rest.head? with
  | none => rfl
  | some c =>
    rw [hc] at hp
    exact h c hp

theorem Blocks.skips {r : Regex} {p : Char → Bool} (h : r.Blocks p) : r.Skips p :=
  fun α s k hs _ => h α s k hs

theorem blocks_one {p q : Char → Bool} (h : Apart p q) : (one q).Blocks p := by
  intro α s k hs
  unfold run
  rw [Place.next_apart h hs]
  rfl

theorem starRun_skip {p : Char → Bool} {s : Place} (k : Place → Option α) (h : s.next p = false) :
    starRun p k s.groups s.prev s.rest = k s := by
  obtain ⟨prev, rest, groups⟩ := s
  cases rest with
  | nil => rfl
  | cons c cs =>
    have hc : p c = false := h
    simp [starRun, hc]

theorem skips_star {p q : Char → Bool} (h : Apart p q) : (star q).Skips p := by
  intro α s k hs hk
  unfold run
  rw [starRun_skip k (Place.next_apart h hs), hk]

theorem skips_opt {r : Regex} {p : Char → Bool} (h : r.Blocks p) : (opt r).Skips p := by
  intro α s k hs hk
  unfold run
  rw [h α s k hs, hk]
  rfl

theorem skips_seq {r t : Regex} {p : Char → Bool} (hr : r.Skips p) (ht : t.Skips p) :
    (seq r t).Skips p :=
  fun α s k hs hk => hr α s _ hs (ht α s k hs hk)

theorem blocks_seq {r t : Regex} {p : Char → Bool} (hr : r.Skips p) (ht : t.Blocks p) :
    (seq r t).Blocks p :=
  fun α s k hs => hr α s _ hs (ht α s k hs)

theorem blocks_seq_left {r : Regex} {p : Char → Bool} (hr : r.Blocks p) (t : Regex) :
    (seq r t).Blocks p :=
  fun α s _ hs => hr α s _ hs

theorem blocks_group {r : Regex} {p : Char → Bool} (h : r.Blocks p) (n : ℕ) : (group n r).Blocks p :=
  fun α s _ hs => h α s _ hs

theorem sure_one (p q : Char → Bool) : (one q).Sure p := by
  intro α s k _
  unfold run
  split <;> rfl

theorem sure_boundary (p q : Char → Bool) : (boundary q).Sure p := by
  intro α s k _
  unfold run
  split <;> rfl

theorem starRun_some (p : Char → Bool) (groups : List (ℕ × List Char)) (prev : Option Char)
    (cs : List Char) : (starRun p some groups prev cs).isSome = true := by
  induction cs generalizing prev with
  | nil => rfl
  | cons c cs ih =>
    unfold starRun
    split
    · rw [Option.isSome_or, ih, Bool.true_or]
    · rfl

theorem sure_star (p : Char → Bool) : (star p).Sure p := by
  intro α s k hk
  have hrun : ∀ prev cs, starRun p k s.groups prev cs =
      (starRun p some s.groups prev cs).bind k := by
    intro prev cs
    induction cs generalizing prev with
    | nil => rfl
    | cons c cs ih =>
      unfold starRun
      split
      · rename_i hc
        obtain ⟨e, he⟩ := Option.isSome_iff_exists.mp (starRun_some p s.groups (some c) cs)
        rw [ih, hk ⟨prev, c :: cs, s.groups⟩ hc, Option.or_none, he]
        rfl
      · rfl
  exact hrun s.prev s.rest

theorem sure_opt (p : Char → Bool) : (opt (one p)).Sure p := by
  intro α s k hk
  unfold run run
  cases hs : s.next p with
  | true => simp [hk s hs]
  | false => simp

theorem sure_seq {r t : Regex} {p q : Char → Bool} (hr : r.Sure q) (hq : t.Blocks q)
    (ht : t.Sure p) : (seq r t).Sure p := by
  intro α s k hk
  calc (seq r t).run s k = (r.run s some).bind fun m => t.run m k :=
        hr α s _ fun m hm => hq α m k hm
    _ = (r.run s some).bind fun m => (t.run m some).bind k := by
        congr 1
        funext m
        exact ht α m k hk
    _ = ((r.run s some).bind fun m => t.run m some).bind k := (Option.bind_assoc ..).symm
    _ = ((seq r t).run s some).bind k :=
        congrArg (Option.bind · k) (hr Place s _ fun m hm => hq Place m some hm).symm

theorem sure_alt {t : Regex} {p q : Char → Bool} (ht : t.Sure p) (hq : t.Blocks q) :
    (alt (one q) t).Sure p := by
  intro α s k hk
  have hrun : ∀ {β : Type} (k : Place → Option β), (alt (one q) t).run s k =
      (if s.next q then k s.step else none).or (t.run s k) := fun _ => rfl
  rw [hrun, hrun]
  cases hs : s.next q with
  | true => simp [hq α s k hs]
  | false => simpa using ht α s k hk

/-- The empty class. -/
def never : Char → Bool := fun _ => false

theorem Place.next_never (s : Place) : s.next never = false := by
  unfold Place.next
  cases s.rest.head? <;> rfl

theorem blocks_never (r : Regex) : r.Blocks never := by
  intro α s k hs
  rw [s.next_never] at hs
  cases hs

theorem rejects_never (k : Place → Option α) : Rejects never k := by
  intro s hs
  rw [s.next_never] at hs
  cases hs

theorem sure_group {r : Regex} {p : Char → Bool} (h : r.Sure p) (n : ℕ) : (group n r).Sure p := by
  intro α s k hk
  have hcapture : (group n r).run s some = (r.run s some).map fun e => e.capture n s := by
    rw [run_map]
    rfl
  rw [hcapture, Option.bind_map]
  exact h α s _ fun m hm => hk (m.capture n s) hm

theorem sure_plus (p : Char → Bool) : (plus p).Sure p :=
  sure_seq (sure_one never p) (blocks_never _) (sure_star p)

theorem blocks_plus {p q : Char → Bool} (h : Apart p q) : (plus q).Blocks p :=
  blocks_seq_left (blocks_one h) _

end Determined

section Search

/-- A place at a position of a text, whatever was captured. -/
def Place.At (s : Place) (text : List Char) (i : ℕ) : Prop :=
  s.prev = (placeAt text i).prev ∧ s.rest = (placeAt text i).rest

theorem Place.At.reaches {s e : Place} {text : List Char} {i : ℕ} (h : s.At text i)
    (hreach : s.Reaches e) (hi : i ≤ text.length) :
    ∃ j, i ≤ j ∧ j ≤ text.length ∧ e.At text j := by
  obtain ⟨read, hrest, hprev⟩ := hreach
  obtain ⟨hsprev, hsrest⟩ := h
  rw [hsrest] at hrest
  have hdrop : text.drop i = read ++ e.rest := hrest
  have hlen : text.length - i = read.length + e.rest.length := by
    rw [← List.length_drop, hdrop, List.length_append]
  refine ⟨i + read.length, by omega, by omega, ?_, ?_⟩
  · rw [hprev, hsprev]
    show read.getLast?.or (text.take i).getLast? = (text.take (i + read.length)).getLast?
    rw [List.take_add, hdrop, List.take_left, List.getLast?_append]
  · show e.rest = text.drop (i + read.length)
    rw [← List.drop_drop, hdrop, List.drop_left]

/-- From a place at a position, a run goes as the match from that position, with the groups of the
place below its own. -/
theorem run_at {α : Type} (r : Regex) {s : Place} {text : List Char} {i : ℕ} (h : s.At text i)
    (k : Place → Option α) :
    r.run s k = r.run (placeAt text i) fun e => k (e.under s.groups) := by
  rw [← run_under]
  congr 1
  obtain ⟨prev, rest, groups⟩ := s
  obtain ⟨rfl, rfl⟩ := h
  rfl

theorem Place.group_capture (e : Place) (n : ℕ) (start : Place) :
    (e.capture n start).group n = some (start.rest.take (start.rest.length - e.rest.length)) := by
  simp [Place.group, Place.capture]

theorem Place.group_under {e : Place} {n : ℕ} {t : List Char} (h : e.group n = some t)
    (groups : List (ℕ × List Char)) : (e.under groups).group n = some t := by
  obtain ⟨g, hg, rfl⟩ := Option.map_eq_some_iff.mp h
  rw [Place.group, Place.under, List.find?_append, hg]
  rfl

theorem placeAt_at (text : List Char) (i : ℕ) : (placeAt text i).At text i := ⟨rfl, rfl⟩

theorem matchAt_of_searchAt {r : Regex} {text : List Char} {i : ℕ} {e : Place}
    (h : r.searchAt text = some (i, e)) : i ≤ text.length ∧ r.matchAt text i = some e := by
  obtain ⟨j, hj, hfound⟩ := List.exists_of_findSome?_eq_some h
  obtain ⟨e', he', heq⟩ := Option.map_eq_some_iff.mp hfound
  obtain ⟨rfl, rfl⟩ := Prod.mk.inj heq
  exact ⟨Nat.le_of_lt_succ (List.mem_range.mp hj), he'⟩

/-- The matches that start in a stretch of a text. -/
def found (r : Regex) (text : List Char) (start stop : ℕ) : List Place :=
  (List.range' start (stop - start)).filterMap (r.matchAt text)

theorem search_eq_found (r : Regex) (text : List Char) :
    r.search text = (r.found text 0 (text.length + 1)).head? := by
  unfold search searchAt found
  rw [List.head?_filterMap, List.map_findSome?, List.range_eq_range']
  congr 1
  funext i
  cases h : r.matchAt text i <;> simp [h]

theorem found_append (r : Regex) (text : List Char) {start mid stop : ℕ} (h : start ≤ mid)
    (h' : mid ≤ stop) :
    r.found text start stop = r.found text start mid ++ r.found text mid stop := by
  unfold found
  rw [← List.filterMap_append]
  have hlen : stop - start = (mid - start) + (stop - mid) := by omega
  have hmid : start + 1 * (mid - start) = mid := by omega
  rw [hlen, ← List.range'_append, hmid]

theorem found_one (r : Regex) (text : List Char) (i : ℕ) :
    r.found text i (i + 1) = (r.matchAt text i).toList := by
  unfold found
  rw [Nat.add_sub_cancel_left]
  cases h : r.matchAt text i <;> simp [List.range', h]

end Search

end Regex
end ResearchEngine
