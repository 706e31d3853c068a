import Mathlib.Data.List.Count
import Mathlib.Data.Set.Basic
import Mathlib.Tactic.Common

/-! Moving-window rate limiters, and when a limit per key is a limit per owner: the keys and the
owners have to divide the requests in the same way. -/
namespace ResearchEngine
namespace MovingWindow

variable {K R T : Type} [DecidableEq K] [DecidableEq T]

/-- One answered hit of a limiter. -/
structure Hit (K : Type) where
  key : K
  time : ℕ
  admitted : Bool

/-- What a limiter answers to a hit of a key at a time, after the hits before it. -/
abbrev Limiter (K : Type) := List (Hit K) → K → ℕ → Bool

/-- The admitted hits of a key within the window that ends now. -/
def recent (window : ℕ) (past : List (Hit K)) (k : K) (now : ℕ) : ℕ :=
  past.countP fun h => h.admitted ∧ h.key = k ∧ now ≤ h.time + window

/-- The limiter admits a hit as long as the window before it has room. -/
structure Admits (hit : Limiter K) (n window : ℕ) : Prop where
  admits_iff : ∀ past k now, hit past k now = true ↔ recent window past k now < n

def movingWindow (n window : ℕ) : Limiter K := fun past k now => recent window past k now < n

theorem admits_movingWindow (n window : ℕ) : Admits (movingWindow (K := K) n window) n window :=
  ⟨fun past k now => by simp [movingWindow]⟩

/-- Requests in the order they come in, each with its answer. -/
def serve (hit : Limiter K) (key : R → K) : List (Hit K) → List (ℕ × R) → List (ℕ × R × Bool)
  | _, [] => []
  | past, (now, r) :: reqs =>
    let answer := hit past (key r) now
    (now, r, answer) :: serve hit key (⟨key r, now, answer⟩ :: past) reqs

/-- The history that answered requests leave behind. -/
def history (key : R → K) (served : List (ℕ × R × Bool)) : List (Hit K) :=
  served.map fun s => ⟨key s.2.1, s.1, s.2.2⟩

/-- The requests of one owner admitted between two times. -/
def admittedOf (owner : R → Option T) (t : T) (first last : ℕ) (served : List (ℕ × R × Bool)) : ℕ :=
  served.countP fun s => owner s.2.1 = some t ∧ s.2.2 ∧ first ≤ s.1 ∧ s.1 ≤ last

/-- The answers to the requests of one owner. -/
def answersOf (owner : R → Option T) (t : T) (served : List (ℕ × R × Bool)) : List (ℕ × R × Bool) :=
  served.filter fun s => owner s.2.1 = some t

/-- The requests that no other owner makes. -/
def withoutOthers (owner : R → Option T) (t : T) (reqs : List (ℕ × R)) : List (ℕ × R) :=
  reqs.filter fun q => (owner q.2).all (· = t)

/-- For requests of a kind, no window admits more than `n` of one owner, and the answers to an
owner are those it would get if no other owner had made a request. -/
structure Binds (hit : Limiter K) (key : R → K) (owner : R → Option T) (n window : ℕ)
    (kind : Set R) : Prop where
  limit : ∀ reqs, (∀ q ∈ reqs, q.2 ∈ kind) → ∀ t first,
    admittedOf owner t first (first + window) (serve hit key [] reqs) ≤ n
  alone : ∀ reqs, (∀ q ∈ reqs, q.2 ∈ kind) → ∀ t,
    answersOf owner t (serve hit key [] reqs) =
      answersOf owner t (serve hit key [] (withoutOthers owner t reqs))

section Serve

variable {hit : Limiter K} {key : R → K}

omit [DecidableEq K] in
theorem serve_append (past : List (Hit K)) (as bs : List (ℕ × R)) :
    serve hit key past (as ++ bs) = serve hit key past as ++
      serve hit key ((history key (serve hit key past as)).reverse ++ past) bs := by
  induction as generalizing past with
  | nil => rfl
  | cons q as ih =>
    obtain ⟨now, r⟩ := q
    simp [serve, history, ih]

omit [DecidableEq K] in
theorem mem_of_mem_serve {past : List (Hit K)} {reqs : List (ℕ × R)} {s : ℕ × R × Bool}
    (h : s ∈ serve hit key past reqs) : (s.1, s.2.1) ∈ reqs := by
  induction reqs generalizing past with
  | nil => cases h
  | cons q reqs ih =>
    obtain ⟨now, r⟩ := q
    rcases List.mem_cons.mp h with rfl | h
    · exact List.mem_cons_self
    · exact List.mem_cons_of_mem _ (ih h)

end Serve

section Window

variable {hit : Limiter K} {key : R → K} {n window : ℕ}

/-- The admitted hits of a key between two times. -/
def between (past : List (Hit K)) (k : K) (first last : ℕ) : ℕ :=
  past.countP fun h => h.admitted ∧ h.key = k ∧ first ≤ h.time ∧ h.time ≤ last

/-- One answer keeps every window within its limit. -/
theorem Admits.between_step (h : Admits hit n window) {past : List (Hit K)}
    (hpast : ∀ k first, between past k first (first + window) ≤ n) (k₀ : K) (now : ℕ) (k : K)
    (first : ℕ) :
    between (⟨k₀, now, hit past k₀ now⟩ :: past) k first (first + window) ≤ n := by
  unfold between
  rw [List.countP_cons]
  split
  · rename_i hin
    obtain ⟨hadm, rfl, hfirst, hlast⟩ := of_decide_eq_true hin
    have hroom := (h.admits_iff past k₀ now).mp hadm
    -- what lies in the window of the new hit was recent when it came in
    have hsub : between past k₀ first (first + window) ≤ recent window past k₀ now := by
      refine List.countP_mono_left fun x _ hx => ?_
      obtain ⟨hx, hk, hx₁, hx₂⟩ := of_decide_eq_true hx
      exact decide_eq_true ⟨hx, hk, by dsimp only at hlast; omega⟩
    exact Nat.succ_le_of_lt (lt_of_le_of_lt hsub hroom)
  · exact hpast k first

theorem Admits.between_le (h : Admits hit n window) (key : R → K) (past : List (Hit K))
    (hpast : ∀ k first, between past k first (first + window) ≤ n) (reqs : List (ℕ × R)) (k : K)
    (first : ℕ) :
    between ((history key (serve hit key past reqs)).reverse ++ past) k first (first + window) ≤
      n := by
  induction reqs generalizing past with
  | nil => exact hpast k first
  | cons q reqs ih =>
    obtain ⟨now, r⟩ := q
    have hstep := ih _ (h.between_step hpast (key r) now)
    simpa [serve, history] using hstep

/-- A group of requests under one key is held to the limit of the key. -/
theorem Admits.group_le (h : Admits hit n window) (reqs : List (ℕ × R)) (owner : R → Option T)
    (t : T) (k : K) (hkey : ∀ q ∈ reqs, owner q.2 = some t → key q.2 = k) (first : ℕ) :
    admittedOf owner t first (first + window) (serve hit key [] reqs) ≤ n := by
  have hbound := h.between_le key [] (fun k first => by simp [between]) reqs k first
  refine le_trans ?_ hbound
  rw [List.append_nil, between, List.countP_reverse, history, List.countP_map]
  refine List.countP_mono_left fun s hs hin => ?_
  obtain ⟨hown, hadm, htimes⟩ := of_decide_eq_true hin
  exact decide_eq_true ⟨hadm, hkey _ (mem_of_mem_serve hs) hown, htimes⟩

end Window

section Alone

variable {hit : Limiter K} {key : R → K} {n window : ℕ}

/-- The answers under a key depend on the requests and the hits of that key alone. -/
theorem Admits.filter_serve (h : Admits hit n window) (k : K) (reqs : List (ℕ × R))
    (past : List (Hit K)) {past' : List (Hit K)}
    (hpast : ∀ now, recent window past k now = recent window past' k now) :
    (serve hit key past reqs).filter (fun s => key s.2.1 = k) =
      serve hit key past' (reqs.filter fun q => key q.2 = k) := by
  induction reqs generalizing past past' with
  | nil => rfl
  | cons q reqs ih =>
    obtain ⟨now, r⟩ := q
    by_cases hk : key r = k
    · have hsame : hit past (key r) now = hit past' (key r) now := by
        rw [Bool.eq_iff_iff, h.admits_iff, h.admits_iff, hk, hpast]
      rw [List.filter_cons_of_pos (by simpa using hk), serve, serve, hsame,
        List.filter_cons_of_pos (by simpa using hk)]
      refine congrArg _ (ih _ fun now' => ?_)
      have hrest := hpast now'
      unfold recent at hrest ⊢
      rw [List.countP_cons, List.countP_cons, hrest]
    · rw [List.filter_cons_of_neg (by simpa using hk), serve,
        List.filter_cons_of_neg (by simpa using hk)]
      refine ih _ fun now' => ?_
      rw [← hpast now']
      unfold recent
      rw [List.countP_cons_of_neg (by simp [hk])]

/-- An owner whose key no other owner uses gets the answers it would get alone. -/
theorem Admits.answers_alone (h : Admits hit n window) (reqs : List (ℕ × R)) (owner : R → Option T)
    (t : T) (k : K) (hkey : ∀ q ∈ reqs, owner q.2 = some t → key q.2 = k)
    (hothers : ∀ q ∈ reqs, ∀ t', owner q.2 = some t' → key q.2 = k → t' = t) :
    answersOf owner t (serve hit key [] reqs) =
      answersOf owner t (serve hit key [] (withoutOthers owner t reqs)) := by
  have onKey : ∀ qs : List (ℕ × R), (∀ q ∈ qs, owner q.2 = some t → key q.2 = k) →
      answersOf owner t (serve hit key [] qs) =
        answersOf owner t (serve hit key [] (qs.filter fun q => key q.2 = k)) := by
    intro qs hqs
    rw [← h.filter_serve k qs [] fun _ => rfl]
    unfold answersOf
    rw [List.filter_filter]
    refine List.filter_congr fun s hs => ?_
    rw [Bool.eq_iff_iff, Bool.and_eq_true]
    simp only [decide_eq_true_eq]
    exact (and_iff_left_of_imp (hqs _ (mem_of_mem_serve hs))).symm
  rw [onKey reqs hkey, onKey (withoutOthers owner t reqs) fun q hq => hkey q (List.mem_filter.mp hq).1]
  -- the requests under the key are the same with and without the other owners
  have hsame : (withoutOthers owner t reqs).filter (fun q => key q.2 = k) =
      reqs.filter fun q => key q.2 = k := by
    unfold withoutOthers
    rw [List.filter_filter]
    refine List.filter_congr fun q hq => ?_
    rw [Bool.eq_iff_iff, Bool.and_eq_true]
    refine and_iff_left_of_imp fun hk => ?_
    cases howner : owner q.2 with
    | none => rfl
    | some t' => simpa using hothers q hq t' howner (of_decide_eq_true hk)
  rw [hsame]

end Alone

section Partition

variable {hit : Limiter K} {key : R → K} {n window : ℕ}

/-- As long as there is room, a burst of one request is admitted as a whole. -/
theorem Admits.serve_burst (h : Admits hit n window) (past : List (Hit K)) (now : ℕ) (r : R) (m : ℕ)
    (hroom : recent window past (key r) now + m ≤ n) :
    serve hit key past (List.replicate m (now, r)) = List.replicate m (now, r, true) := by
  induction m generalizing past with
  | zero => rfl
  | succ m ih =>
    have hadm : hit past (key r) now = true := (h.admits_iff _ _ _).mpr (by omega)
    simp only [List.replicate_succ, serve, hadm]
    refine congrArg _ (ih _ ?_)
    have hcount : recent window (⟨key r, now, true⟩ :: past) (key r) now =
        recent window past (key r) now + 1 := by
      unfold recent
      rw [List.countP_cons_of_pos (by simp)]
    omega

omit [DecidableEq T] in
/-- What a burst of admitted requests leaves to a key. -/
theorem recent_burst (now : ℕ) (r : R) (m : ℕ) (k : K) :
    recent window (history key (List.replicate m (now, r, true))).reverse k now =
      if key r = k then m else 0 := by
  unfold recent
  rw [List.countP_reverse, history, List.map_replicate]
  split
  · rw [List.countP_replicate, if_pos (by simpa)]
  · rw [List.countP_replicate, if_neg (by simpa)]

omit [DecidableEq T] in
/-- After a full burst of one request only another key is admitted. -/
theorem Admits.serve_burst_then (h : Admits hit n window) (r r' : R) :
    serve hit key [] (List.replicate n (0, r) ++ [(0, r')]) =
      List.replicate n (0, r, true) ++ [(0, r', decide (key r ≠ key r' ∧ 0 < n))] := by
  rw [serve_append, h.serve_burst [] 0 r n (by simp [recent])]
  have hlast : hit ((history key (List.replicate n (0, r, true))).reverse ++ []) (key r') 0 =
      decide (key r ≠ key r' ∧ 0 < n) := by
    rw [Bool.eq_iff_iff, h.admits_iff, List.append_nil, recent_burst, decide_eq_true_eq]
    split
    · exact iff_of_false (by omega) fun hne => hne.1 ‹_›
    · exact ⟨fun hn => ⟨‹_›, hn⟩, fun hn => hn.2⟩
  simp only [serve, hlast]

omit [DecidableEq K] [DecidableEq T] in
theorem burst_kind {kind : Set R} {r r' : R} (hr : r ∈ kind) (hr' : r' ∈ kind) :
    ∀ q ∈ List.replicate n (0, r) ++ [(0, r')], q.2 ∈ kind := by
  intro q hq
  rcases List.mem_append.mp hq with hq | hq
  · rw [List.eq_of_mem_replicate hq]
    exact hr
  · rw [List.mem_singleton.mp hq]
    exact hr'

/-- A limiter with no room admits nothing. -/
theorem Admits.serve_none (h : Admits hit 0 window) (past : List (Hit K)) (reqs : List (ℕ × R)) :
    serve hit key past reqs = reqs.map fun q => (q.1, q.2, false) := by
  induction reqs generalizing past with
  | nil => rfl
  | cons q reqs ih =>
    obtain ⟨now, r⟩ := q
    have hno : hit past (key r) now = false := by
      rw [Bool.eq_false_iff, ne_eq, h.admits_iff]
      omega
    simp only [serve, hno, ih, List.map_cons]

theorem Admits.binds_none (h : Admits hit 0 window) (owner : R → Option T) (kind : Set R) :
    Binds hit key owner 0 window kind where
  limit reqs _ t first := by
    rw [h.serve_none, admittedOf, List.countP_map, Nat.le_zero, List.countP_eq_zero]
    intro q _
    simp
  alone reqs _ t := by
    rw [h.serve_none, h.serve_none, answersOf, answersOf, withoutOthers, List.filter_map,
      List.filter_map, List.filter_filter]
    refine congrArg _ (List.filter_congr fun q _ => ?_)
    rw [Bool.eq_iff_iff, Bool.and_eq_true]
    refine (and_iff_left_of_imp fun hown => ?_).symm
    simp only [Function.comp_apply, decide_eq_true_eq] at hown
    simp [hown]

/-- Otherwise one owner fills the limit under one key and goes on under the other. -/
theorem Binds.same_key (h : Admits hit n window) (hn : 0 < n) {owner : R → Option T} {kind : Set R}
    (hb : Binds hit key owner n window kind) {r r' : R} (hr : r ∈ kind) (hr' : r' ∈ kind) {t : T}
    (ht : owner r = some t) (ht' : owner r' = some t) : key r = key r' := by
  by_contra hk
  have hlimit := hb.limit (List.replicate n (0, r) ++ [(0, r')]) (burst_kind hr hr') t 0
  rw [h.serve_burst_then, admittedOf, List.countP_append, List.countP_replicate,
    if_pos (by simp [ht])] at hlimit
  have hone : List.countP (fun s : ℕ × R × Bool => owner s.2.1 = some t ∧ s.2.2 ∧ 0 ≤ s.1 ∧
      s.1 ≤ 0 + window) [(0, r', decide (key r ≠ key r' ∧ 0 < n))] = 1 := by
    rw [List.countP_cons_of_pos (by simp [ht', hk, hn])]
    rfl
  omega

/-- Otherwise the burst of one owner uses up the key of the other. -/
theorem Binds.same_owner (h : Admits hit n window) (hn : 0 < n) {owner : R → Option T}
    {kind : Set R} (hb : Binds hit key owner n window kind) {r r' : R} (hr : r ∈ kind)
    (hr' : r' ∈ kind) {t t' : T} (ht : owner r = some t) (ht' : owner r' = some t')
    (hk : key r = key r') : t = t' := by
  by_contra htt
  have halone := hb.alone (List.replicate n (0, r) ++ [(0, r')]) (burst_kind hr hr') t'
  have hothers : withoutOthers owner t' (List.replicate n (0, r) ++ [(0, r')]) = [(0, r')] := by
    simp [withoutOthers, List.filter_append, ht, ht', htt]
  rw [h.serve_burst_then, hothers, answersOf, answersOf, List.filter_append, List.filter_replicate,
    if_neg (by simp [ht, htt])] at halone
  have hadm : hit [] (key r') 0 = true := (h.admits_iff _ _ _).mpr (by simpa [recent])
  simp [serve, ht', hadm, hk] at halone

theorem Admits.binds_of_partition (h : Admits hit n window) {owner : R → Option T} {kind : Set R}
    (hpart : ∀ r ∈ kind, ∀ r' ∈ kind, ∀ t t', owner r = some t → owner r' = some t' →
      (key r = key r' ↔ t = t')) : Binds hit key owner n window kind where
  limit reqs hreqs t first := by
    by_cases hex : ∃ q₀ ∈ reqs, owner q₀.2 = some t
    · obtain ⟨q₀, hq₀, hown₀⟩ := hex
      refine h.group_le reqs owner t (key q₀.2) (fun q hq hown => ?_) first
      exact (hpart _ (hreqs q hq) _ (hreqs q₀ hq₀) t t hown hown₀).mpr rfl
    · have hnone : admittedOf owner t first (first + window) (serve hit key [] reqs) = 0 := by
        rw [admittedOf, List.countP_eq_zero]
        intro s hs hin
        exact hex ⟨_, mem_of_mem_serve hs, (of_decide_eq_true hin).1⟩
      omega
  alone reqs hreqs t := by
    by_cases hex : ∃ q₀ ∈ reqs, owner q₀.2 = some t
    · obtain ⟨q₀, hq₀, hown₀⟩ := hex
      refine h.answers_alone reqs owner t (key q₀.2) (fun q hq hown => ?_)
        fun q hq t' hown' hk => ?_
      · exact (hpart _ (hreqs q hq) _ (hreqs q₀ hq₀) t t hown hown₀).mpr rfl
      · exact (hpart _ (hreqs q hq) _ (hreqs q₀ hq₀) t' t hown' hown₀).mp hk
    · have hnone : ∀ qs : List (ℕ × R), (∀ q ∈ qs, q ∈ reqs) →
          answersOf owner t (serve hit key [] qs) = [] := by
        intro qs hqs
        rw [answersOf, List.filter_eq_nil_iff]
        intro s hs hown
        exact hex ⟨_, hqs _ (mem_of_mem_serve hs), of_decide_eq_true hown⟩
      rw [hnone reqs fun _ hq => hq,
        hnone (withoutOthers owner t reqs) fun q hq => (List.mem_filter.mp hq).1]

/-- A limit per key binds every owner on its own exactly when two requests of owners have the same
key just when they have the same owner. -/
theorem Admits.binds_iff (h : Admits hit n window) (owner : R → Option T) (kind : Set R) :
    Binds hit key owner n window kind ↔ n = 0 ∨ ∀ r ∈ kind, ∀ r' ∈ kind, ∀ t t',
      owner r = some t → owner r' = some t' → (key r = key r' ↔ t = t') := by
  constructor
  · intro hb
    refine or_iff_not_imp_left.mpr fun hne r hr r' hr' t t' ht ht' => ⟨fun hk => ?_, fun htt => ?_⟩
    · exact Binds.same_owner h (Nat.pos_of_ne_zero hne) hb hr hr' ht ht' hk
    · subst htt
      exact Binds.same_key h (Nat.pos_of_ne_zero hne) hb hr hr' ht ht'
  · rintro (rfl | hpart)
    · exact h.binds_none owner kind
    · exact h.binds_of_partition hpart

end Partition

end MovingWindow
end ResearchEngine
