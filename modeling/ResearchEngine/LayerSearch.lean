import ResearchEngine.ConfirmedParcel

/-! The search of one layer in widening boxes: which response the candidates are taken from, and
whether the choice among them finds the parcel with the searched address. -/
namespace ResearchEngine
namespace Parcel

open PyText Situs

/-- The distances that `_candidates` asks for, in its order. -/
def radii : List ℕ := [0, 75, 150, 300]

/-- A layer that raises at no distance, and what it answers at each. -/
def Answers (q : LayerAnswers) (responses : ℕ → List Attrs) : Prop :=
  ∀ d ∈ radii, q.features d = .ok (responses d)

section Search

variable [PyText] {q : LayerAnswers} {address : String} {sfn : Attrs → String}
  {responses : ℕ → List Attrs}

theorem hasMatch_iff {feats : List Attrs} (ha : address ≠ "") :
    hasMatch address sfn feats = true ↔
      ∃ c ∈ feats, addrMatch address (sfn c) = some true := by
  simp [hasMatch, ha]

theorem ne_nil_of_hasMatch {feats : List Attrs} (h : hasMatch address sfn feats = true) :
    feats ≠ [] := by
  rintro rfl
  simp [hasMatch] at h

omit [PyText] in
theorem pointQuery_answers {d : ℕ} (h : q.features d = .ok (responses d)) :
    pointQuery q d = .ok ((responses d).take 400) := by
  rw [pointQuery, h]
  rfl

/-- The loop stops at the first box with a match. -/
theorem searchBoxes_first {before after : List ℕ} {d : ℕ} (widest : List Attrs)
    (hans : ∀ e ∈ before ++ d :: after, q.features e = .ok (responses e))
    (hbefore : ∀ e ∈ before, hasMatch address sfn ((responses e).take 400) = false)
    (hd : hasMatch address sfn ((responses d).take 400) = true) :
    searchBoxes q address sfn (before ++ d :: after) widest =
      .ok ((responses d).take 400, true) := by
  induction before generalizing widest with
  | nil =>
    rw [List.nil_append, searchBoxes, pointQuery_answers (hans d List.mem_cons_self)]
    simp only [bind, Except.bind, List.isEmpty_iff, if_neg (ne_nil_of_hasMatch hd), if_pos hd]
  | cons e before ih =>
    have hrest := fun widest => ih widest (fun x hx => hans x (List.mem_cons_of_mem e hx))
      fun x hx => hbefore x (List.mem_cons_of_mem e hx)
    rw [List.cons_append, searchBoxes, pointQuery_answers (hans e List.mem_cons_self)]
    simp only [bind, Except.bind, hbefore e List.mem_cons_self]
    split
    · exact hrest _
    · exact hrest _

/-- Without a match in any box, the loop ends with a list without a match. -/
theorem searchBoxes_none {dists : List ℕ} {widest : List Attrs}
    (hans : ∀ e ∈ dists, q.features e = .ok (responses e))
    (hnone : ∀ e ∈ dists, hasMatch address sfn ((responses e).take 400) = false)
    (hwidest : hasMatch address sfn widest = false) :
    ∃ cands, searchBoxes q address sfn dists widest = .ok (cands, !cands.isEmpty) ∧
      hasMatch address sfn cands = false := by
  induction dists generalizing widest with
  | nil => exact ⟨widest, rfl, hwidest⟩
  | cons e dists ih =>
    have hans' : ∀ x ∈ dists, q.features x = .ok (responses x) := fun x hx =>
      hans x (List.mem_cons_of_mem e hx)
    have hnone' : ∀ x ∈ dists, hasMatch address sfn ((responses x).take 400) = false := fun x hx =>
      hnone x (List.mem_cons_of_mem e hx)
    have hno := hnone e List.mem_cons_self
    rw [searchBoxes, pointQuery_answers (hans e List.mem_cons_self)]
    simp only [bind, Except.bind, hno]
    split
    · exact ih hans' hnone' hwidest
    · exact ih hans' hnone' hno

/-- The candidates are the first 400 features of the first response that has a match there. -/
theorem candidates_first {before after : List ℕ} {d : ℕ} (ha : address ≠ "")
    (hans : Answers q responses) (hradii : radii = before ++ d :: after)
    (hbefore : ∀ e ∈ before, hasMatch address sfn ((responses e).take 400) = false)
    (hd : hasMatch address sfn ((responses d).take 400) = true) :
    ∃ buffered, candidates q address sfn = .ok ((responses d).take 400, buffered) := by
  rw [candidates, pointQuery_answers (hans 0 (by decide))]
  simp only [bind, Except.bind, ha, false_or]
  cases before with
  | nil =>
    obtain rfl : 0 = d := (List.cons.inj hradii).1
    rw [if_pos ⟨by simpa using ne_nil_of_hasMatch hd, hd⟩]
    exact ⟨false, rfl⟩
  | cons point before =>
    obtain ⟨rfl, hboxes⟩ := List.cons.inj hradii
    have hno := hbefore 0 List.mem_cons_self
    rw [if_neg (by simp [hno]), hboxes]
    refine ⟨true, searchBoxes_first _ (fun e he => hans e ?_)
      (fun e he => hbefore e (List.mem_cons_of_mem _ he)) hd⟩
    rw [hradii]
    exact List.mem_cons_of_mem _ he

theorem candidates_none (hans : Answers q responses) (ha : address ≠ "")
    (hnone : ∀ d ∈ radii, hasMatch address sfn ((responses d).take 400) = false) :
    ∃ cands buffered, candidates q address sfn = .ok (cands, buffered) ∧
      hasMatch address sfn cands = false := by
  have hboxes : ∀ e ∈ [75, 150, 300], e ∈ radii := fun e he => List.mem_cons_of_mem 0 he
  obtain ⟨cands, hcands, hno⟩ := searchBoxes_none (fun e he => hans e (hboxes e he))
    (fun e he => hnone e (hboxes e he)) (hnone 0 (by decide))
  refine ⟨cands, !cands.isEmpty, ?_, hno⟩
  rw [candidates, pointQuery_answers (hans 0 (by decide))]
  simp only [bind, Except.bind]
  rw [if_neg (by simp [ha, hnone 0 (by decide)]), hcands]

theorem choose_of_no_match {cands : List Attrs} (ha : address ≠ "") (hne : cands ≠ [])
    (h : hasMatch address sfn cands = false) : (choose address sfn cands).2 = false := by
  refine eq_false_of_ne_true fun hmatched => ?_
  rw [(hasMatch_iff ha).mpr ⟨_, choose_mem address sfn hne, choose_matched hmatched⟩] at h
  cases h

omit [PyText] in
theorem pointQuery_length {d : ℕ} {feats : List Attrs} (h : pointQuery q d = .ok feats) :
    feats.length ≤ 400 := by
  obtain ⟨all, -, rfl⟩ := map_eq_ok.mp h
  exact List.length_take_le 400 all

theorem searchBoxes_length {dists : List ℕ} {widest cands : List Attrs} {buffered : Bool}
    (hw : widest.length ≤ 400)
    (h : searchBoxes q address sfn dists widest = .ok (cands, buffered)) : cands.length ≤ 400 := by
  induction dists generalizing widest with
  | nil =>
    obtain ⟨rfl, -⟩ := Prod.mk.inj (Except.ok.inj h)
    exact hw
  | cons dist dists ih =>
    obtain ⟨feats, hfeats, hrest⟩ := bind_eq_ok.mp h
    split at hrest
    · exact ih hw hrest
    · split at hrest
      · obtain ⟨rfl, -⟩ := Prod.mk.inj (Except.ok.inj hrest)
        exact pointQuery_length hfeats
      · exact ih (pointQuery_length hfeats) hrest

theorem candidates_length {cands : List Attrs} {buffered : Bool}
    (h : candidates q address sfn = .ok (cands, buffered)) : cands.length ≤ 400 := by
  obtain ⟨direct, hdirect, hrest⟩ := bind_eq_ok.mp h
  split at hrest
  · obtain ⟨rfl, -⟩ := Prod.mk.inj (Except.ok.inj hrest)
    exact pointQuery_length hdirect
  · exact searchBoxes_length (pointQuery_length hdirect) hrest

/-- The first distance whose response contains a matching feature. -/
def firstMatching (address : String) (sfn : Attrs → String) (responses : ℕ → List Attrs) :
    Option ℕ :=
  radii.find? fun d => (responses d).any fun c => addrMatch address (sfn c) = some true

/-- The choice among the candidates of one layer is a matching feature of the first response
that has one, and is no match where no response has one. -/
structure NeverDrops (q : LayerAnswers) (address : String) (sfn : Attrs → String)
    (responses : ℕ → List Attrs) : Prop where
  found : ∀ d, firstMatching address sfn responses = some d →
    ∃ n c buffered, candidates q address sfn = .ok ((responses d).take n, buffered) ∧
      choose address sfn ((responses d).take n) = (c, true) ∧
        c ∈ responses d ∧ addrMatch address (sfn c) = some true
  unmatched : firstMatching address sfn responses = none →
    ∀ cands buffered, candidates q address sfn = .ok (cands, buffered) → cands ≠ [] →
      (choose address sfn cands).2 = false

/-- Where a whole response has no match, its first 400 features have none. -/
theorem hasMatch_take {feats : List Attrs} (n : ℕ)
    (h : ¬ feats.any fun c => addrMatch address (sfn c) = some true) :
    hasMatch address sfn (feats.take n) = false := by
  refine eq_false_of_ne_true fun hyes => h ?_
  obtain ⟨c, hc, hmatch⟩ := List.any_eq_true.mp (of_decide_eq_true hyes).2
  exact List.any_eq_true.mpr ⟨c, List.mem_of_mem_take hc, hmatch⟩

/-- What the search finds was among the first 400 features. -/
theorem NeverDrops.kept (h : NeverDrops q address sfn responses) {d : ℕ}
    (hd : firstMatching address sfn responses = some d) :
    ∃ c ∈ (responses d).take 400, addrMatch address (sfn c) = some true := by
  obtain ⟨n, c, buffered, hcands, hchoose, -, hmatch⟩ := h.found d hd
  have hlen := candidates_length hcands
  have hne : (responses d).take n ≠ [] := by
    intro hnil
    rw [hnil] at hchoose
    simp [choose] at hchoose
  have hmem := choose_mem address sfn hne
  rw [hchoose] at hmem
  refine ⟨c, ?_, hmatch⟩
  have htake : ((responses d).take n).take 400 = (responses d).take n :=
    List.take_of_length_le hlen
  rw [← htake, List.take_take] at hmem
  exact List.take_subset_take_left _ (Nat.min_le_left 400 n) hmem

/-- The layer search keeps the matching parcel exactly when the first response that has one has
one among its first 400 features. -/
theorem search_keeps_match_iff (ha : address ≠ "") (hans : Answers q responses) :
    NeverDrops q address sfn responses ↔
      ∀ d, firstMatching address sfn responses = some d →
        ∃ c ∈ (responses d).take 400, addrMatch address (sfn c) = some true := by
  constructor
  · exact fun h d hd => h.kept hd
  intro h
  constructor
  · intro d hd
    obtain ⟨hany, before, after, hradii, hbefore⟩ := List.find?_eq_some_iff_append.mp hd
    have hno : ∀ e ∈ before, hasMatch address sfn ((responses e).take 400) = false := by
      intro e he
      apply hasMatch_take
      simpa using hbefore e he
    have hkept := (hasMatch_iff ha).mpr (h d hd)
    obtain ⟨buffered, hcands⟩ := candidates_first ha hans hradii hno hkept
    have htrue := choose_of_hasMatch hkept
    refine ⟨400, _, buffered, hcands, Prod.ext rfl htrue, ?_, choose_matched htrue⟩
    exact List.mem_of_mem_take (choose_mem address sfn (ne_nil_of_hasMatch hkept))
  · intro hnone cands buffered hcands hne
    have hno : ∀ d ∈ radii, hasMatch address sfn ((responses d).take 400) = false := by
      intro d hd
      apply hasMatch_take
      exact List.find?_eq_none.mp hnone d hd
    obtain ⟨cands', buffered', hcands', hmatch⟩ := candidates_none hans ha hno
    obtain ⟨rfl, -⟩ := Prod.mk.inj (Except.ok.inj (hcands.symm.trans hcands'))
    exact choose_of_no_match ha hne hmatch

end Search

section Crowded

open scoped PyText.Ascii

/-- A layer that answers every request. -/
def answering (responses : ℕ → List Attrs) : LayerAnswers where
  description := .ok ⟨some "Parcels", []⟩
  features d := .ok (responses d)
  related _ := .ok []
  byId := .ok none

theorem answers_answering (responses : ℕ → List Attrs) : Answers (answering responses) responses :=
  fun _ _ => rfl

def parcelAt (situs : String) : Attrs := [("SITUS_ADDR", .str situs)]

theorem subject_matches :
    addrMatch "9 Oak Avenue" (situsOf [] false (parcelAt "9 OAK AVE")) = some true := by
  decide +kernel

theorem neighbour_differs :
    addrMatch "9 Oak Avenue" (situsOf [] false (parcelAt "7 OAK AVE")) = some false := by
  decide +kernel

theorem search_keeps_match_sample :
    NeverDrops (answering fun _ => [parcelAt "9 OAK AVE"]) "9 Oak Avenue" (situsOf [] false)
      fun _ => [parcelAt "9 OAK AVE"] :=
  (search_keeps_match_iff (by decide) (answers_answering _)).mpr fun _ _ =>
    ⟨_, List.mem_singleton.mpr rfl, subject_matches⟩

/-- The point lies on no parcel, and every box holds 400 neighbours before the subject. -/
def crowded (d : ℕ) : List Attrs :=
  if d = 0 then [] else List.replicate 400 (parcelAt "7 OAK AVE") ++ [parcelAt "9 OAK AVE"]

theorem search_drops_match_401 :
    ¬ ∀ (q : LayerAnswers) (address : String) (sfn : Attrs → String) (responses : ℕ → List Attrs),
      address ≠ "" → Answers q responses → NeverDrops q address sfn responses := by
  intro hall
  have hfirst : firstMatching "9 Oak Avenue" (situsOf [] false) crowded = some 75 := by
    have hlast : parcelAt "9 OAK AVE" ∈ crowded 75 :=
      List.mem_append_right _ (List.mem_singleton.mpr rfl)
    rw [firstMatching, radii, List.find?_cons_of_neg (by simp [crowded])]
    apply List.find?_cons_of_pos
    exact List.any_eq_true.mpr ⟨_, hlast, decide_eq_true subject_matches⟩
  obtain ⟨c, hc, hmatch⟩ :=
    (hall _ "9 Oak Avenue" (situsOf [] false) crowded (by decide) (answers_answering _)).kept hfirst
  have htake : (crowded 75).take 400 = List.replicate 400 (parcelAt "7 OAK AVE") := by
    apply List.take_left'
    exact List.length_replicate
  rw [htake] at hc
  rw [List.eq_of_mem_replicate hc, neighbour_differs] at hmatch
  cases hmatch

end Crowded

end Parcel
end ResearchEngine
