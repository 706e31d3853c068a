import ResearchEngine.PageViewer
import ResearchEngine.StableSort
import Mathlib.Data.Int.Interval

/-! Capturing the pages of a document: what the driver asks of the viewer, what it returns, and
when it returns every page. -/
namespace ResearchEngine
namespace Clerk

open StableSort

/-- The first image that came with a page number. -/
def firstImage (captured : List (ℤ × Blob)) (n : ℤ) : Option Blob :=
  (captured.find? fun c => c.1 = n).map Prod.snd

/-- One image for each page number, by ascending number, and the first that came with it. -/
def InPageOrder (captured : List (ℤ × Blob)) (images : List Blob) : Prop :=
  ∃ pages : List ℤ, pages.Pairwise (· < ·) ∧ (∀ n, n ∈ pages ↔ n ∈ captured.map Prod.fst) ∧
    images.map some = pages.map (firstImage captured)

theorem firstImage_cons {n : ℤ} {data : Blob} {rest : List (ℤ × Blob)} {pages : List ℤ}
    (h : n ∉ pages) :
    pages.map (firstImage ((n, data) :: rest)) = pages.map (firstImage rest) := by
  refine List.map_congr_left fun m hm => ?_
  have hnm : ¬ n = m := fun heq => h (heq ▸ hm)
  unfold firstImage
  rw [List.find?_cons_of_neg (by simpa using hnm)]

theorem keepFirst_pages {l : List (ℤ × Blob)} (hl : l.Pairwise fun a b => a.1 ≤ b.1)
    (seen : List ℤ) : ∃ pages : List ℤ, pages.Pairwise (· < ·) ∧
      (∀ n, n ∈ pages ↔ n ∈ l.map Prod.fst ∧ n ∉ seen) ∧
        (keepFirst seen l).map some = pages.map (firstImage l) := by
  induction l generalizing seen with
  | nil => exact ⟨[], .nil, by simp, rfl⟩
  | cons c rest ih =>
    obtain ⟨n, data⟩ := c
    obtain ⟨hn, hrest⟩ := List.pairwise_cons.mp hl
    by_cases hseen : n ∈ seen
    · obtain ⟨pages, hsorted, hmem, himages⟩ := ih hrest seen
      have hnot : n ∉ pages := fun h => ((hmem n).mp h).2 hseen
      refine ⟨pages, hsorted, fun m => ?_, ?_⟩
      · rw [hmem, List.map_cons, List.mem_cons]
        constructor
        · exact fun ⟨hm, hs⟩ => ⟨.inr hm, hs⟩
        · rintro ⟨rfl | hm, hs⟩
          · exact absurd hseen hs
          · exact ⟨hm, hs⟩
      · rw [keepFirst, if_pos hseen, himages, firstImage_cons hnot]
    · obtain ⟨pages, hsorted, hmem, himages⟩ := ih hrest (n :: seen)
      have hnot : n ∉ pages := fun h => ((hmem n).mp h).2 List.mem_cons_self
      refine ⟨n :: pages, List.pairwise_cons.mpr ⟨fun m hm => ?_, hsorted⟩, fun m => ?_, ?_⟩
      · obtain ⟨hin, -⟩ := (hmem m).mp hm
        obtain ⟨c, hc, rfl⟩ := List.mem_map.mp hin
        exact lt_of_le_of_ne (hn c hc) fun h => hnot (h ▸ hm)
      · rw [List.mem_cons, hmem, List.map_cons, List.mem_cons, List.mem_cons]
        by_cases hmn : m = n
        · simp [hmn, hseen]
        · simp [hmn]
      · rw [keepFirst, if_neg hseen, List.map_cons, himages, List.map_cons, firstImage_cons hnot]
        simp [firstImage]

/-- What is returned of the captured images. -/
theorem pageImages_inPageOrder (captured : List (ℤ × Blob)) :
    InPageOrder captured (pageImages captured) := by
  obtain ⟨pages, hsorted, hmem, himages⟩ :=
    keepFirst_pages (insertionSort_pairwise Prod.fst captured) []
  refine ⟨pages, hsorted, fun n => ?_, ?_⟩
  · rw [hmem]
    have hperm := (List.perm_insertionSort (fun a b : ℤ × Blob => a.1 ≤ b.1) captured).map Prod.fst
    simp [hperm.mem_iff]
  · have hfirst : firstImage (captured.insertionSort fun a b => a.1 ≤ b.1) =
        firstImage captured := by
      funext n
      exact congrArg (Option.map Prod.snd) (@find?_insertionSort _ _ _ Prod.fst captured n)
    rw [← hfirst]
    exact himages

theorem firstImage_mem {captured : List (ℤ × Blob)} {images : List Blob}
    (h : InPageOrder captured images) {p : ℤ} (hp : p ∈ captured.map Prod.fst) :
    ∃ data ∈ images, firstImage captured p = some data := by
  obtain ⟨pages, -, hmem, himages⟩ := h
  have hin : firstImage captured p ∈ images.map some := by
    rw [himages]
    exact List.mem_map_of_mem ((hmem p).mpr hp)
  obtain ⟨data, hdata, hfirst⟩ := List.mem_map.mp hin
  exact ⟨data, hdata, hfirst.symm⟩

/-- The calls of some turns of the loop over the pages: a count, a click and the waits for the next
image for each. -/
structure TurnCalls (calls : List Call) (turns : ℕ) : Prop where
  kinds : ∀ c ∈ calls, c = .count ∨ c = .click ∨ c = .wait 400
  counts : calls.count .count ≤ turns
  clicks : calls.count .click ≤ turns
  waits : calls.count (.wait 400) ≤ 25 * turns

theorem TurnCalls.nil (turns : ℕ) : TurnCalls [] turns := ⟨by simp, by simp, by simp, by simp⟩

theorem TurnCalls.mono {calls : List Call} {m n : ℕ} (h : TurnCalls calls m) (hmn : m ≤ n) :
    TurnCalls calls n where
  kinds := h.kinds
  counts := h.counts.trans hmn
  clicks := h.clicks.trans hmn
  waits := h.waits.trans (Nat.mul_le_mul_left 25 hmn)

theorem TurnCalls.append {first rest : List Call} {m n : ℕ} (hfirst : TurnCalls first m)
    (hrest : TurnCalls rest n) : TurnCalls (first ++ rest) (m + n) where
  kinds c hc := (List.mem_append.mp hc).elim (hfirst.kinds c) (hrest.kinds c)
  counts := by
    rw [List.count_append]
    exact Nat.add_le_add hfirst.counts hrest.counts
  clicks := by
    rw [List.count_append]
    exact Nat.add_le_add hfirst.clicks hrest.clicks
  waits := by
    rw [List.count_append, Nat.mul_add]
    exact Nat.add_le_add hfirst.waits hrest.waits

/-- An image of each of the first pages has come in. -/
def HasPages (n : ℕ) (s : Session) : Prop := ∀ p : ℤ, 1 ≤ p → p ≤ n → p ∈ s.numbers

theorem numbers_pos {s : Session} (h : s.captured ≠ []) : 1 ≤ s.numbers.card := by
  obtain ⟨c, hc⟩ := List.exists_mem_of_ne_nil _ h
  exact Finset.card_pos.mpr ⟨c.1, List.mem_toFinset.mpr (List.mem_map_of_mem hc)⟩

theorem HasPages.mono {n : ℕ} {s s' : Session} (h : HasPages n s) (hpre : s.captured <+: s'.captured) :
    HasPages n s' := by
  intro p hp hpn
  have hin := List.mem_toFinset.mp (h p hp hpn)
  exact List.mem_toFinset.mpr ((hpre.sublist.map Prod.fst).subset hin)

theorem HasPages.le_card {n : ℕ} {s : Session} (h : HasPages n s) : n ≤ s.numbers.card := by
  have hsub : Finset.Icc (1 : ℤ) n ⊆ s.numbers := by
    intro p hp
    obtain ⟨hlow, hhigh⟩ := Finset.mem_Icc.mp hp
    exact h p hlow hhigh
  have hcard := Finset.card_le_card hsub
  rw [Int.card_Icc] at hcard
  omega

section Calls

variable [PyDecode] {σ α : Type} {v : Viewer σ} {d d' : Driver σ}

/-! What the driver asks of the viewer. -/

theorem ask_calls {call : Call} {a : Answer σ α} {r : Except PyErr α}
    (h : d.ask call a = (r, d')) : d'.calls = d.calls ++ [call] := by
  obtain rfl := (Prod.mk.inj h).2
  rfl

theorem poll_calls (v : Viewer σ) (pause : ℕ) (hpause : 0 < pause) (limit : ℕ)
    (waits : Session → Bool) (waited : ℕ) (d : Driver σ) : ∃ k,
      (poll v pause hpause limit waits waited d).2.calls = d.calls ++ List.replicate k (.wait pause) ∧
        (0 < k → waited + k * pause < limit + pause) := by
  fun_induction poll v pause hpause limit waits waited d with
  | case1 waited d hcond e d' hasked =>
    refine ⟨1, ask_calls hasked, fun _ => ?_⟩
    omega
  | case2 waited d hcond u d' hasked ih =>
    obtain ⟨k, hcalls, hbound⟩ := ih
    refine ⟨k + 1, ?_, fun _ => ?_⟩
    · rw [hcalls, ask_calls hasked, List.append_assoc, List.singleton_append, List.replicate_succ]
    · rw [Nat.add_mul, Nat.one_mul]
      rcases Nat.eq_zero_or_pos k with rfl | hk
      · omega
      · have := hbound hk
        omega
  | case3 => exact ⟨0, by simp, fun h => absurd h (by simp)⟩

/-- Where a turn leaves the driver. -/
def Turn.driver : Turn σ → Driver σ
  | .turned d | .stopped d | .raised _ d => d

/-- The next image is waited for 25 times at most. -/
theorem awaitNext_calls {v : Viewer σ} {before : ℕ} {d d' : Driver σ} {r : Except PyErr Unit}
    (h : awaitNext v before d = (r, d')) :
    ∃ k ≤ 25, d'.calls = d.calls ++ List.replicate k (.wait 400) := by
  obtain ⟨k, hcalls, hbound⟩ := poll_calls v 400 (by decide) 10000
    (fun s => s.captured.length = before) 0 d
  have hd' : d' = (awaitNext v before d).2 := by rw [h]
  refine ⟨k, ?_, hd' ▸ hcalls⟩
  obtain rfl | hk := Nat.eq_zero_or_pos k
  · exact Nat.zero_le 25
  · have hwaited := hbound hk
    omega

theorem turnPage_calls (v : Viewer σ) (d : Driver σ) :
    ∃ calls, (turnPage v d).driver.calls = d.calls ++ calls ∧ TurnCalls calls 1 := by
  have hcount : TurnCalls [.count] 1 := ⟨by simp, by simp, by simp, by simp⟩
  have hclick : TurnCalls [.count, .click] 1 := ⟨by simp, by simp, by simp, by simp⟩
  have hturn : ∀ {d₁ d₂ d₃ : Driver σ} {before : ℕ} {r : Except PyErr Unit},
      d₁.calls = d.calls ++ [.count] → d₂.calls = d₁.calls ++ [.click] →
      awaitNext v before d₂ = (r, d₃) →
        ∃ calls, d₃.calls = d.calls ++ calls ∧ TurnCalls calls 1 := by
    intro d₁ d₂ d₃ before r h₁ h₂ h₃
    obtain ⟨k, hk, hcalls⟩ := awaitNext_calls h₃
    refine ⟨[.count, .click] ++ List.replicate k (.wait 400), ?_, fun c hc => ?_, ?_, ?_, ?_⟩
    · rw [hcalls, h₂, h₁]
      simp
    · obtain hc | hc := List.mem_append.mp hc
      · exact hclick.kinds c hc
      · exact .inr (.inr (List.eq_of_mem_replicate hc))
    · simp [List.count_replicate]
    · simp [List.count_replicate]
    · simpa [List.count_replicate] using hk
  fun_cases turnPage v d with
  | case1 e d₁ hasked => exact ⟨_, ask_calls hasked, hcount⟩
  | case2 d₁ hasked => exact ⟨_, ask_calls hasked, hcount⟩
  | case3 n d₁ hsome hasked e d₂ hclicked =>
    refine ⟨[.count, .click], ?_, hclick⟩
    unfold Turn.driver
    rw [ask_calls hclicked, ask_calls hasked]
    simp
  | case4 n d₁ hsome hasked before u d₂ hclicked e d₃ hwaited =>
    exact hturn (ask_calls hasked) (ask_calls hclicked) hwaited
  | case5 n d₁ hsome hasked before u d₂ hclicked w d₃ hwaited hsame =>
    exact hturn (ask_calls hasked) (ask_calls hclicked) hwaited
  | case6 n d₁ hsome hasked before u d₂ hclicked w d₃ hwaited hmore =>
    exact hturn (ask_calls hasked) (ask_calls hclicked) hwaited

/-! The captured images stay, in their order. -/

theorem onResponse_captured (s : Session) (r : Response) :
    s.captured <+: (onResponse s r).captured := by
  have himage : ∀ (s : Session) (body : Attrs), s.captured <+: (onImage s body).captured := by
    intro s body
    unfold onImage
    split
    · split
      · split
        · exact List.prefix_append _ _
        · exact List.prefix_rfl
      · exact List.prefix_rfl
    · exact List.prefix_rfl
  unfold onResponse
  split
  · exact List.prefix_rfl
  · rename_i body
    split
    · rename_i n _
      exact himage { s with docPages := n } body
    · exact List.prefix_rfl
    · exact himage s body
    · exact himage s body
  · exact List.prefix_rfl

theorem foldl_captured (heard : List Response) (s : Session) :
    s.captured <+: (heard.foldl onResponse s).captured := by
  induction heard generalizing s with
  | nil => exact List.prefix_rfl
  | cons r heard ih => exact (onResponse_captured s r).trans (ih _)

theorem ask_captured {call : Call} {a : Answer σ α} {r : Except PyErr α}
    (h : d.ask call a = (r, d')) : d.session.captured <+: d'.session.captured := by
  obtain rfl := (Prod.mk.inj h).2
  exact foldl_captured a.heard d.session

theorem poll_captured (v : Viewer σ) (pause : ℕ) (hpause : 0 < pause) (limit : ℕ)
    (waits : Session → Bool) (waited : ℕ) (d : Driver σ) :
    d.session.captured <+: (poll v pause hpause limit waits waited d).2.session.captured := by
  fun_induction poll v pause hpause limit waits waited d with
  | case1 waited d hcond e d' hasked => exact ask_captured hasked
  | case2 waited d hcond u d' hasked ih => exact (ask_captured hasked).trans ih
  | case3 => exact List.prefix_rfl

theorem awaitNext_captured {before : ℕ} {r : Except PyErr Unit}
    (h : awaitNext v before d = (r, d')) : d.session.captured <+: d'.session.captured := by
  have hpoll := poll_captured v 400 (by decide) 10000 (fun s => s.captured.length = before) 0 d
  have hd' : d' = (awaitNext v before d).2 := by rw [h]
  rw [hd']
  exact hpoll

theorem turnPage_captured (v : Viewer σ) (d : Driver σ) :
    d.session.captured <+: (turnPage v d).driver.session.captured := by
  fun_cases turnPage v d with
  | case1 e d₁ hasked => exact ask_captured hasked
  | case2 d₁ hasked => exact ask_captured hasked
  | case3 n d₁ hsome hasked e d₂ hclicked =>
    exact (ask_captured hasked).trans (ask_captured hclicked)
  | case4 n d₁ hsome hasked before u d₂ hclicked e d₃ hwaited =>
    exact (ask_captured hasked).trans ((ask_captured hclicked).trans (awaitNext_captured hwaited))
  | case5 n d₁ hsome hasked before u d₂ hclicked w d₃ hwaited hsame =>
    exact (ask_captured hasked).trans ((ask_captured hclicked).trans (awaitNext_captured hwaited))
  | case6 n d₁ hsome hasked before u d₂ hclicked w d₃ hwaited hmore =>
    exact (ask_captured hasked).trans ((ask_captured hclicked).trans (awaitNext_captured hwaited))

/-- A turn that goes on has brought an image. -/
theorem turnPage_turned (h : turnPage v d = .turned d') : d'.session.captured ≠ [] := by
  revert h
  fun_cases turnPage v d with
  | case1 | case2 | case3 | case4 | case5 => exact fun h => by cases h
  | case6 n d₁ hsome hasked before u d₂ hclicked w d₃ hwaited hmore =>
    intro h hnil
    obtain rfl := Turn.turned.inj h
    have hpre := (ask_captured hclicked).trans (awaitNext_captured hwaited)
    rw [hnil, List.prefix_nil] at hpre
    exact hmore (by rw [hnil, show before = d₁.session.captured.length from rfl, hpre])

theorem turnPages_calls (v : Viewer σ) (target : ℤ) (guard : ℕ) (d : Driver σ) :
    ∃ calls, (turnPages v target guard d).2.calls = d.calls ++ calls ∧
      TurnCalls calls (target + 3 - guard).toNat := by
  have hturn : ∀ {guard : ℕ} {d : Driver σ}, GoesOn target guard d.session → ∃ calls,
      (turnPage v d).driver.calls = d.calls ++ calls ∧
        TurnCalls calls 1 ∧ 1 + (target + 3 - ↑(guard + 1)).toNat = (target + 3 - guard).toNat := by
    intro guard d hcond
    obtain ⟨calls, hcalls, hone⟩ := turnPage_calls v d
    have hguard := hcond.2
    exact ⟨calls, hcalls, hone, by omega⟩
  fun_induction turnPages v target guard d with
  | case1 guard d hcond e d' hend =>
    obtain ⟨calls, hcalls, hone, hguard⟩ := hturn hcond
    rw [hend] at hcalls
    exact ⟨calls, hcalls, hone.mono (by omega)⟩
  | case2 guard d hcond d' hend =>
    obtain ⟨calls, hcalls, hone, hguard⟩ := hturn hcond
    rw [hend] at hcalls
    exact ⟨calls, hcalls, hone.mono (by omega)⟩
  | case3 guard d hcond d' hend ih =>
    obtain ⟨calls, hcalls, hone, hguard⟩ := hturn hcond
    obtain ⟨rest, hrest, hmore⟩ := ih
    rw [hend] at hcalls
    refine ⟨calls ++ rest, ?_, hguard ▸ hone.append hmore⟩
    rw [hrest, ← List.append_assoc]
    exact congrArg (· ++ rest) hcalls
  | case4 guard d hstop => exact ⟨[], by simp, .nil _⟩

/-- With no page count at the start there is one turn at most: its image is enough. -/
theorem turnPages_count (v : Viewer σ) (d : Driver σ) :
    ∃ calls, (turnPages v d.session.target 0 d).2.calls = d.calls ++ calls ∧
      TurnCalls calls (d.session.docPages + 3).toNat := by
  by_cases hcount : d.session.docPages = 0
  · have htarget : d.session.target = 1 := if_pos hcount
    obtain ⟨calls, hcalls, hone⟩ := turnPage_calls v d
    have hfew : TurnCalls calls (d.session.docPages + 3).toNat :=
      hone.mono (by rw [hcount]; decide)
    rw [htarget, turnPages]
    by_cases hgo : GoesOn 1 0 d.session
    · rw [if_pos hgo]
      cases hend : turnPage v d with
      | raised e d' => exact ⟨calls, by rw [← hcalls, hend]; rfl, hfew⟩
      | stopped d' => exact ⟨calls, by rw [← hcalls, hend]; rfl, hfew⟩
      | turned d' =>
        have hstop : ¬ GoesOn 1 (0 + 1) d'.session := by
          intro hgo
          have hcard := numbers_pos (turnPage_turned hend)
          have hless := hgo.1
          omega
        dsimp only
        rw [turnPages, if_neg hstop]
        exact ⟨calls, by rw [← hcalls, hend]; rfl, hfew⟩
    · rw [if_neg hgo]
      exact ⟨[], by simp, .nil _⟩
  · have htarget : d.session.target = d.session.docPages := if_neg hcount
    obtain ⟨calls, hcalls, hturns⟩ := turnPages_calls v d.session.target 0 d
    refine ⟨calls, hcalls, ?_⟩
    rw [htarget] at hturns
    simpa using hturns

end Calls

section Runs

variable [PyDecode] {σ : Type} (v : Viewer σ) (waitMs : ℕ) (d : Driver σ)

/-- The driver when the wait for the first image is over, and the clicking starts. -/
def opened : Driver σ := (awaitFirst v waitMs d).2

/-- The driver when `capture_pages` is over. -/
def closed : Driver σ := (capturePages v waitMs d).2

/-- The driver after some turns of the pages that all went on. -/
def afterTurns : ℕ → Driver σ → Option (Driver σ)
  | 0, d => some d
  | i + 1, d =>
    match turnPage v d with
    | .turned d => afterTurns i d
    | .stopped _ | .raised _ _ => none

/-- A response gave the page count before `capture_pages` was over. -/
def Announced (n : ℕ) : Prop :=
  ∃ body, .document body ∈ (closed v waitMs d).heard ∧ countOf body = some (.number n)

/-- The browser does not fail, and as long as a page of the document is missing, a click brings
the next one. -/
structure Delivers (n : ℕ) : Prop where
  opens : (awaitFirst v waitMs d).1 = .ok ()
  stays : ∀ i dᵢ, afterTurns v i (opened v waitMs d) = some dᵢ → ∀ e d', turnPage v dᵢ ≠ .raised e d'
  turns : ∀ i dᵢ, afterTurns v i (opened v waitMs d) = some dᵢ → ¬ HasPages n dᵢ.session →
    ∃ d', turnPage v dᵢ = .turned d' ∧ HasPages (min (i + 2) n) d'.session

/-- As long as a page of the document is missing, there are fewer page numbers than the count that
was known when the clicking started. -/
def Patient (n : ℕ) : Prop :=
  ∀ i dᵢ, afterTurns v i (opened v waitMs d) = some dᵢ → ¬ HasPages n dᵢ.session →
    dᵢ.session.numbers.card < (opened v waitMs d).session.target

/-- What is asked of the capture of a document's pages. -/
structure Captures : Prop where
  /-- The calls until it is over: the waits for the first image, and the turns of the pages. -/
  bounded : ∃ k calls, (closed v waitMs d).calls = d.calls ++ List.replicate k (.wait 500) ++ calls ∧
    500 * k < waitMs + 500 ∧ TurnCalls calls ((opened v waitMs d).session.docPages + 3).toNat
  ordered : ∀ images, (capturePages v waitMs d).1 = .ok images →
    InPageOrder (closed v waitMs d).session.captured images
  complete : ∀ n, Announced v waitMs d n → Delivers v waitMs d n →
    ∃ images, (capturePages v waitMs d).1 = .ok images ∧ ∀ p : ℤ, 1 ≤ p → p ≤ n →
      ∃ data ∈ images, firstImage (closed v waitMs d).session.captured p = some data

variable {v waitMs d} {d' : Driver σ} {n : ℕ}

theorem afterTurns_of_turned (h : turnPage v d = .turned d') (i : ℕ) :
    afterTurns v (i + 1) d = afterTurns v i d' := by
  rw [afterTurns, h]

theorem afterTurns_succ {i : ℕ} : afterTurns v (i + 1) d = some d' ↔
    ∃ dᵢ, afterTurns v i d = some dᵢ ∧ turnPage v dᵢ = .turned d' := by
  induction i generalizing d with
  | zero =>
    simp only [afterTurns, Option.some.injEq, exists_eq_left']
    cases turnPage v d <;> simp
  | succ i ih =>
    cases hturn : turnPage v d with
    | turned d₁ => rw [afterTurns_of_turned hturn, afterTurns_of_turned hturn, ih]
    | stopped d₁ => simp [afterTurns, hturn]
    | raised e d₁ => simp [afterTurns, hturn]

theorem afterTurns_captured {i k : ℕ} {dᵢ : Driver σ} (hi : afterTurns v i d = some dᵢ)
    (h : afterTurns v (i + k) d = some d') : dᵢ.session.captured <+: d'.session.captured := by
  induction k generalizing d' with
  | zero =>
    rw [Nat.add_zero, hi] at h
    rw [Option.some.inj h]
  | succ k ih =>
    obtain ⟨dₖ, hk, hturn⟩ := afterTurns_succ.mp h
    have hgrow := turnPage_captured v dₖ
    rw [hturn] at hgrow
    exact (ih hk).trans hgrow

/-- How the loop over the pages ends: after some turns that went on, by its condition or by a turn
that does not go on. -/
theorem turnPages_ends (v : Viewer σ) (target : ℤ) (guard : ℕ) (d : Driver σ) :
    ∃ i dᵢ, afterTurns v i d = some dᵢ ∧
      (∀ j dⱼ, j < i → afterTurns v j d = some dⱼ → GoesOn target (guard + j) dⱼ.session) ∧
      (¬ GoesOn target (guard + i) dᵢ.session ∧ turnPages v target guard d = (.ok (), dᵢ) ∨
        GoesOn target (guard + i) dᵢ.session ∧
          ((∃ d', turnPage v dᵢ = .stopped d' ∧ turnPages v target guard d = (.ok (), d')) ∨
            ∃ e d', turnPage v dᵢ = .raised e d' ∧ turnPages v target guard d = (.error e, d'))) := by
  fun_induction turnPages v target guard d with
  | case1 guard d hcond e d' hend =>
    exact ⟨0, d, rfl, fun j _ hj => absurd hj (Nat.not_lt_zero j),
      .inr ⟨hcond, .inr ⟨e, d', hend, rfl⟩⟩⟩
  | case2 guard d hcond d' hend =>
    exact ⟨0, d, rfl, fun j _ hj => absurd hj (Nat.not_lt_zero j), .inr ⟨hcond, .inl ⟨d', hend, rfl⟩⟩⟩
  | case3 guard d hcond d' hend ih =>
    obtain ⟨i, dᵢ, hi, hbefore, hlast⟩ := ih
    refine ⟨i + 1, dᵢ, by rw [afterTurns_of_turned hend, hi], fun j dⱼ hj hat => ?_, ?_⟩
    · cases j with
      | zero =>
        obtain rfl := Option.some.inj hat
        exact hcond
      | succ j =>
        rw [afterTurns_of_turned hend] at hat
        have hgo := hbefore j dⱼ (Nat.lt_of_succ_lt_succ hj) hat
        rwa [Nat.add_assoc, Nat.add_comm 1] at hgo
    · rwa [Nat.add_assoc, Nat.add_comm 1] at hlast
  | case4 guard d hstop =>
    exact ⟨0, d, rfl, fun j _ hj => absurd hj (Nat.not_lt_zero j), .inl ⟨hstop, rfl⟩⟩

/-- The clicks so far have brought as many pages. -/
theorem Delivers.hasPages (h : Delivers v waitMs d n) {i : ℕ}
    (hi : afterTurns v (i + 1) (opened v waitMs d) = some d') :
    HasPages (min (i + 2) n) d'.session := by
  obtain ⟨dᵢ, hat, hturn⟩ := afterTurns_succ.mp hi
  by_cases hall : HasPages n dᵢ.session
  · have hgrow := turnPage_captured v dᵢ
    rw [hturn] at hgrow
    intro p hp hpn
    exact hall.mono hgrow p hp (by omega)
  · obtain ⟨d₁, hturned, hpages⟩ := h.turns i dᵢ hat hall
    obtain rfl := Turn.turned.inj (hturn.symm.trans hturned)
    exact hpages

theorem capturePages_of_opens (h : (awaitFirst v waitMs d).1 = .ok ()) :
    capturePages v waitMs d =
      match turnPages v (opened v waitMs d).session.target 0 (opened v waitMs d) with
      | (.error e, d) => (.error e, d)
      | (.ok _, d) => (.ok (pageImages d.session.captured), d) := by
  unfold capturePages opened
  cases hopened : awaitFirst v waitMs d with
  | mk r d₁ =>
    rw [hopened] at h
    obtain rfl : r = .ok () := h
    rfl

/-- A patient driver of a viewer that delivers gets every page. -/
theorem Delivers.closed_hasPages (h : Delivers v waitMs d n) (hpatient : Patient v waitMs d n) :
    (capturePages v waitMs d).1 =
        .ok (pageImages (closed v waitMs d).session.captured) ∧
      HasPages n (closed v waitMs d).session := by
  obtain ⟨i, dᵢ, hi, -, hend⟩ :=
    turnPages_ends v (opened v waitMs d).session.target 0 (opened v waitMs d)
  have hcount : i ≤ dᵢ.session.numbers.card ∨ HasPages n dᵢ.session := by
    cases i with
    | zero => exact .inl (Nat.zero_le _)
    | succ i =>
      have hpages := h.hasPages hi
      by_cases hin : n ≤ i + 2
      · rw [Nat.min_eq_right hin] at hpages
        exact .inr hpages
      · rw [Nat.min_eq_left (by omega)] at hpages
        have := hpages.le_card
        exact .inl (by omega)
  have hall : HasPages n dᵢ.session := by
    by_contra hmissing
    have hless := hpatient i dᵢ hi hmissing
    have hle := hcount.resolve_right hmissing
    obtain ⟨d', hturned, -⟩ := h.turns i dᵢ hi hmissing
    obtain ⟨hstop, -⟩ | ⟨-, ⟨d₁, hstopped, -⟩ | ⟨e, d₁, hraised, -⟩⟩ := hend
    · exact hstop ⟨hless, by omega⟩
    · rw [hturned] at hstopped
      cases hstopped
    · exact h.stays i dᵢ hi e d₁ hraised
  unfold closed
  rw [capturePages_of_opens h.opens]
  obtain ⟨-, hturns⟩ | ⟨-, ⟨d₁, hstopped, hturns⟩ | ⟨e, d₁, hraised, -⟩⟩ := hend
  · rw [hturns]
    exact ⟨rfl, hall⟩
  · rw [hturns]
    have hgrow := turnPage_captured v dᵢ
    rw [hstopped] at hgrow
    exact ⟨rfl, hall.mono hgrow⟩
  · exact absurd hraised (h.stays i dᵢ hi e d₁)

/-- A driver that is not patient has stopped before every page was in. -/
theorem Delivers.patient (h : Delivers v waitMs d n)
    (hall : HasPages n (closed v waitMs d).session) : Patient v waitMs d n := by
  intro i dᵢ hi hmissing
  by_contra hfull
  obtain ⟨k, dₖ, hk, hbefore, hend⟩ :=
    turnPages_ends v (opened v waitMs d).session.target 0 (opened v waitMs d)
  have hle : k ≤ i := by
    by_contra hlt
    exact hfull (hbefore i dᵢ (by omega) hi).1
  have hmissing' : ¬ HasPages n dₖ.session := by
    obtain ⟨m, rfl⟩ := Nat.exists_eq_add_of_le hle
    exact fun hpages => hmissing (hpages.mono (afterTurns_captured hk hi))
  unfold closed at hall
  rw [capturePages_of_opens h.opens] at hall
  obtain ⟨-, hturns⟩ | ⟨-, hlast⟩ := hend
  · rw [hturns] at hall
    exact hmissing' hall
  · obtain ⟨d', hturned, -⟩ := h.turns k dₖ hk hmissing'
    obtain ⟨d₁, hstopped, -⟩ | ⟨e, d₁, hraised, -⟩ := hlast
    · rw [hturned] at hstopped
      cases hstopped
    · rw [hturned] at hraised
      cases hraised

theorem closed_calls (v : Viewer σ) (waitMs : ℕ) (d : Driver σ) : ∃ k calls,
    (closed v waitMs d).calls = d.calls ++ List.replicate k (.wait 500) ++ calls ∧
      500 * k < waitMs + 500 ∧ TurnCalls calls ((opened v waitMs d).session.docPages + 3).toNat := by
  obtain ⟨k, hopen, hk⟩ := poll_calls v 500 (by decide) waitMs (fun s => s.captured = []) 0 d
  have hwaits : 500 * k < waitMs + 500 := by
    rcases Nat.eq_zero_or_pos k with rfl | hpos
    · omega
    · have := hk hpos
      omega
  have hopened : (opened v waitMs d).calls = d.calls ++ List.replicate k (.wait 500) := hopen
  unfold closed
  cases hfirst : (awaitFirst v waitMs d).1 with
  | error e =>
    have hstop : (capturePages v waitMs d).2 = opened v waitMs d := by
      unfold capturePages opened
      cases hawait : awaitFirst v waitMs d with
      | mk r d₁ =>
        rw [hawait] at hfirst
        obtain rfl : r = .error e := hfirst
        rfl
    refine ⟨k, [], ?_, hwaits, .nil _⟩
    rw [hstop, hopened, List.append_nil]
  | ok u =>
    obtain ⟨calls, hcalls, hturns⟩ := turnPages_count v (opened v waitMs d)
    refine ⟨k, calls, ?_, hwaits, hturns⟩
    rw [capturePages_of_opens hfirst, ← hopened, ← hcalls]
    cases turnPages v (opened v waitMs d).session.target 0 (opened v waitMs d) with
    | mk r d₁ =>
      cases r with
      | error e => rfl
      | ok u => rfl

theorem capturePages_ordered {images : List Blob} (h : (capturePages v waitMs d).1 = .ok images) :
    InPageOrder (closed v waitMs d).session.captured images := by
  unfold closed
  revert h
  fun_cases capturePages v waitMs d with
  | case1 | case2 => exact fun h => by cases h
  | case3 u d₁ hopened w d₂ hturned =>
    intro h
    obtain rfl := Except.ok.inj h
    exact pageImages_inPageOrder _

/-- One turn is enough for the loop's condition. -/
theorem closed_of_turned (h : (awaitFirst v waitMs d).1 = .ok ())
    (hgo : GoesOn (opened v waitMs d).session.target 0 (opened v waitMs d).session)
    (hturn : turnPage v (opened v waitMs d) = .turned d')
    (hstop : ¬ GoesOn (opened v waitMs d).session.target 1 d'.session) :
    closed v waitMs d = d' := by
  have hturns : turnPages v (opened v waitMs d).session.target 0 (opened v waitMs d) = (.ok (), d') := by
    rw [turnPages, if_pos hgo, hturn]
    exact (turnPages.eq_1 v _ _ _).trans (if_neg hstop)
  unfold closed
  rw [capturePages_of_opens h, hturns]

/-- A driver that knows the page count is patient when every image has a number of one of the
pages. -/
theorem patient_of_numbered (hn : 0 < n) (hcount : (opened v waitMs d).session.docPages = n)
    (hnumbers : ∀ i dᵢ, afterTurns v i (opened v waitMs d) = some dᵢ →
      ∀ p ∈ dᵢ.session.numbers, 1 ≤ p ∧ p ≤ n) : Patient v waitMs d n := by
  intro i dᵢ hi hmissing
  have htarget : (opened v waitMs d).session.target = n := by
    unfold Session.target
    rw [if_neg (by omega), hcount]
  have hsub : dᵢ.session.numbers ⊂ Finset.Icc (1 : ℤ) n := by
    refine (Finset.ssubset_iff_of_subset fun p hp => Finset.mem_Icc.mpr (hnumbers i dᵢ hi p hp)).mpr ?_
    by_contra hall
    refine hmissing fun p hp hpn => ?_
    by_contra hnot
    exact hall ⟨p, Finset.mem_Icc.mpr ⟨hp, hpn⟩, hnot⟩
  have hcard := Finset.card_lt_card hsub
  rw [Int.card_Icc] at hcard
  rw [htarget]
  omega

/-! A browser that never fails. -/

theorem poll_ok (hwait : ∀ s ms, (v.wait s ms).result = .ok ()) (pause : ℕ) (hpause : 0 < pause)
    (limit : ℕ) (waits : Session → Bool) (waited : ℕ) (d : Driver σ) :
    (poll v pause hpause limit waits waited d).1 = .ok () := by
  fun_induction poll v pause hpause limit waits waited d with
  | case1 waited d hcond e d' hasked =>
    have herror := (Prod.mk.inj hasked).1
    rw [hwait] at herror
    cases herror
  | case2 waited d hcond u d' hasked ih => exact ih
  | case3 => rfl

theorem turnPage_stays (hwait : ∀ s ms, (v.wait s ms).result = .ok ())
    (hcount : ∀ s e, (v.count s).result ≠ .error e) (d : Driver σ) (e : PyErr) :
    turnPage v d ≠ .raised e d' := by
  fun_cases turnPage v d with
  | case1 e d₁ hasked => exact absurd (Prod.mk.inj hasked).1 (hcount _ _)
  | case2 | case3 | case5 | case6 => exact fun h => by cases h
  | case4 n d₁ hsome hasked before u d₂ hclicked e d₃ hwaited =>
    have hok := poll_ok hwait 400 (by decide) 10000 (fun s => s.captured.length = before) 0 d₂
    have hawait : (awaitNext v before d₂).1 = .ok () := hok
    rw [hwaited] at hawait
    cases hawait

/-- The calls are bounded and the images in page order in any case; every page of a document whose
page count was given is captured exactly when the driver is patient. -/
theorem capturePages_complete_iff (v : Viewer σ) (waitMs : ℕ) (d : Driver σ) :
    Captures v waitMs d ↔
      ∀ n, Announced v waitMs d n → Delivers v waitMs d n → Patient v waitMs d n := by
  constructor
  · intro h n hcount hdelivers
    obtain ⟨images, himages, hall⟩ := h.complete n hcount hdelivers
    refine hdelivers.patient fun p hp hpn => ?_
    obtain ⟨data, -, hfirst⟩ := hall p hp hpn
    unfold firstImage at hfirst
    obtain ⟨c, hc, -⟩ := Option.map_eq_some_iff.mp hfirst
    obtain rfl : c.1 = p := by simpa using List.find?_some hc
    exact List.mem_toFinset.mpr (List.mem_map_of_mem (List.mem_of_find?_eq_some hc))
  · intro h
    refine ⟨closed_calls v waitMs d, fun images => capturePages_ordered, ?_⟩
    intro n hcount hdelivers
    obtain ⟨himages, hall⟩ := hdelivers.closed_hasPages (h n hcount hdelivers)
    refine ⟨_, himages, fun p hp hpn => ?_⟩
    exact firstImage_mem (capturePages_ordered himages) (List.mem_toFinset.mp (hall p hp hpn))

end Runs

section Concrete

open scoped PyDecode.Plain

/-- A response with the image of a page. -/
def pageImage (n : ℤ) : Response :=
  .document [("pg_num", .int n), ("hi_res", .str (String.ofList (List.replicate 1004 'A')))]

/-- A document of three pages on a slow portal: nothing comes in until the first click, which brings
two pages and the page count; the second click brings the last page. -/
def slowViewer : Viewer ℕ where
  wait clicks _ := ⟨clicks, [], .ok ()⟩
  count clicks := ⟨clicks, [], .ok 1⟩
  click clicks :=
    ⟨clicks + 1,
      if clicks = 0 then [pageImage 1, pageImage 2, .document [("doc_pages", .int 3)]]
      else if clicks = 1 then [pageImage 3] else [],
      .ok ()⟩

def imageBytes : Blob := List.replicate 753 0

/-- The session with one more image. -/
def withImage (s : Session) (n : ℤ) : Session :=
  { s with captured := s.captured ++ [(n, imageBytes)] }

theorem onResponse_pageImage (s : Session) {n : ℤ} (hn : n ≠ 0) :
    onResponse s (pageImage n) = withImage s n := by
  have htext : (String.ofList (List.replicate 1004 'A')).toList = List.replicate 1004 'A' := by
    rw [String.toList_ofList]
  unfold pageImage
  generalize String.ofList (List.replicate 1004 'A') = text at *
  have hne : text ≠ "" := by
    rintro rfl
    have hlen := congrArg List.length htext
    rw [List.length_replicate] at hlen
    cases hlen
  have hcount : countOf [("pg_num", .int n), ("hi_res", .str text)] = none := by
    simp [countOf, Attrs.get, Value.truthy]
  have hnumber : numberOf [("pg_num", .int n), ("hi_res", .str text)] = .number n := by
    simp [numberOf, Attrs.get, Value.truthy, hn, PyDecode.toInt]
  have himage : imageOf [("pg_num", .int n), ("hi_res", .str text)] = .str text := by
    simp [imageOf, Attrs.get, Value.truthy, hne]
  have hdecode : PyDecode.b64decode text = some imageBytes := by
    have hall : (List.replicate 1004 'A').all (· = 'A') = true :=
      List.all_eq_true.mpr fun c hc => decide_eq_true (List.eq_of_mem_replicate hc)
    simp only [PyDecode.b64decode, htext, List.length_replicate]
    rw [if_pos ⟨hall, trivial⟩]
    rfl
  simp only [onResponse, hcount, onImage, himage, htext, List.length_replicate, hnumber, hdecode]
  rw [if_pos (by decide)]
  rfl

theorem slowViewer_turn (d : Driver ℕ)
    (hmore : ((slowViewer.click d.viewer).heard.foldl onResponse d.session).captured.length ≠
      d.session.captured.length) :
    ∃ d', turnPage slowViewer d = .turned d' ∧ d'.viewer = d.viewer + 1 ∧
      d'.session = (slowViewer.click d.viewer).heard.foldl onResponse d.session ∧
      ∀ r ∈ (slowViewer.click d.viewer).heard, r ∈ d'.heard := by
  have hawait : ∀ d₂ : Driver ℕ, d₂.session.captured.length ≠ d.session.captured.length →
      awaitNext slowViewer d.session.captured.length d₂ = (.ok (), d₂) := by
    intro d₂ hlen
    unfold awaitNext
    rw [poll, if_neg (by simp [hlen])]
  fun_cases turnPage slowViewer d with
  | case1 e d₁ hasked => cases hasked
  | case2 d₁ hasked => cases hasked
  | case3 n d₁ hsome hasked e d₂ hclicked => cases hclicked
  | case4 n d₁ hsome hasked before u d₂ hclicked e d₃ hwaited =>
    obtain rfl := (Prod.mk.inj hasked).2
    obtain rfl := (Prod.mk.inj hclicked).2
    cases (hawait _ hmore).symm.trans hwaited
  | case5 n d₁ hsome hasked before u d₂ hclicked w d₃ hwaited hsame =>
    obtain rfl := (Prod.mk.inj hasked).2
    obtain rfl := (Prod.mk.inj hclicked).2
    obtain rfl := (Prod.mk.inj ((hawait _ hmore).symm.trans hwaited)).2
    exact absurd hsame hmore
  | case6 n d₁ hsome hasked before u d₂ hclicked w d₃ hwaited hless =>
    obtain rfl := (Prod.mk.inj hasked).2
    obtain rfl := (Prod.mk.inj hclicked).2
    obtain rfl := (Prod.mk.inj ((hawait _ hmore).symm.trans hwaited)).2
    exact ⟨_, rfl, rfl, rfl, fun r hr => List.mem_append_right _ hr⟩

/-- The pages come in by the first two clicks, and the driver stops after the first. -/
theorem slowViewer_run : ∃ d₁ d₂,
    turnPage slowViewer (opened slowViewer 20000 { viewer := 0 }) = .turned d₁ ∧
      turnPage slowViewer d₁ = .turned d₂ ∧
      d₁.session.captured.map Prod.fst = [1, 2] ∧ d₂.session.captured.map Prod.fst = [1, 2, 3] ∧
      .document [("doc_pages", .int 3)] ∈ d₁.heard ∧
      closed slowViewer 20000 { viewer := 0 } = d₁ := by
  have hviewer : (opened slowViewer 20000 { viewer := 0 }).viewer = 0 := by decide +kernel
  have hsession : (opened slowViewer 20000 { viewer := 0 }).session = {} := by decide +kernel
  have hopens : (awaitFirst slowViewer 20000 { viewer := 0 }).1 = .ok () :=
    poll_ok (fun _ _ => rfl) _ _ _ _ _ _
  have hcount : ∀ s, onResponse s (.document [("doc_pages", .int 3)]) = { s with docPages := 3 } :=
    fun _ => rfl
  have hclick : (slowViewer.click 0).heard =
      [pageImage 1, pageImage 2, .document [("doc_pages", .int 3)]] := rfl
  have hfirst : (slowViewer.click (opened slowViewer 20000 { viewer := 0 }).viewer).heard.foldl
      onResponse (opened slowViewer 20000 { viewer := 0 }).session =
        { captured := [(1, imageBytes), (2, imageBytes)], docPages := 3 } := by
    rw [hviewer, hsession, hclick, List.foldl_cons, List.foldl_cons, List.foldl_cons, List.foldl_nil,
      onResponse_pageImage _ (by decide), onResponse_pageImage _ (by decide), hcount]
    rfl
  obtain ⟨d₁, hturn₁, hviewer₁, hsession₁, hheard₁⟩ :=
    slowViewer_turn (opened slowViewer 20000 { viewer := 0 }) (by
      rw [hfirst, hsession]
      simp)
  rw [hfirst] at hsession₁
  have hsecond : (slowViewer.click d₁.viewer).heard.foldl onResponse d₁.session =
      withImage d₁.session 3 := by
    have hheard : (slowViewer.click 1).heard = [pageImage 3] := rfl
    rw [hviewer₁, hviewer, hheard, List.foldl_cons, List.foldl_nil, onResponse_pageImage _ (by decide)]
  obtain ⟨d₂, hturn₂, -, hsession₂, -⟩ := slowViewer_turn d₁ (by
    rw [hsecond]
    simp [withImage])
  rw [hsecond] at hsession₂
  refine ⟨d₁, d₂, hturn₁, hturn₂, ?_, ?_, hheard₁ _ ?_, ?_⟩
  · rw [hsession₁]
    rfl
  · rw [hsession₂, hsession₁]
    rfl
  · rw [hviewer, hclick]
    exact List.mem_cons_of_mem _ (List.mem_cons_of_mem _ List.mem_cons_self)
  · refine closed_of_turned hopens ?_ hturn₁ ?_
    · rw [hsession]
      decide
    · rw [hsession₁, hsession]
      decide

theorem slowViewer_delivers : Delivers slowViewer 20000 { viewer := 0 } 3 := by
  obtain ⟨d₁, d₂, hturn₁, hturn₂, hpages₁, hpages₂, -, -⟩ := slowViewer_run
  have hhas₁ : HasPages 2 d₁.session := by
    intro p hp hp2
    obtain rfl | rfl : p = 1 ∨ p = 2 := by omega
    all_goals simp [Session.numbers, hpages₁]
  have hhas₂ : HasPages 3 d₂.session := by
    intro p hp hp3
    obtain rfl | rfl | rfl : p = 1 ∨ p = 2 ∨ p = 3 := by omega
    all_goals simp [Session.numbers, hpages₂]
  have hsecond : afterTurns slowViewer 2 (opened slowViewer 20000 { viewer := 0 }) = some d₂ := by
    rw [afterTurns_of_turned hturn₁, afterTurns_of_turned hturn₂]
    rfl
  refine ⟨poll_ok (fun _ _ => rfl) _ _ _ _ _ _, fun i dᵢ _ e d' => ?_, fun i dᵢ hi hmissing => ?_⟩
  · exact turnPage_stays (fun _ _ => rfl) (fun _ _ herror => by cases herror) dᵢ e
  · match i with
    | 0 =>
      obtain rfl := Option.some.inj hi
      exact ⟨d₁, hturn₁, hhas₁⟩
    | 1 =>
      rw [afterTurns_of_turned hturn₁] at hi
      obtain rfl := Option.some.inj hi
      exact ⟨d₂, hturn₂, hhas₂⟩
    | i + 2 =>
      rw [Nat.add_comm] at hi
      exact absurd (hhas₂.mono (afterTurns_captured hsecond hi)) hmissing

/-- Of three pages two are returned. -/
theorem late_count_truncates : ¬ Captures slowViewer 20000 { viewer := 0 } := by
  intro h
  obtain ⟨d₁, d₂, -, -, hpages₁, -, hcount, hclosed⟩ := slowViewer_run
  have hannounced : Announced slowViewer 20000 { viewer := 0 } 3 := ⟨_, hclosed ▸ hcount, rfl⟩
  obtain ⟨images, -, hall⟩ := h.complete 3 hannounced slowViewer_delivers
  obtain ⟨data, -, hfirst⟩ := hall 3 (by decide) (by decide)
  rw [hclosed] at hfirst
  obtain ⟨c, hc, -⟩ := Option.map_eq_some_iff.mp hfirst
  have hthree : c.1 = 3 := by simpa using List.find?_some hc
  have hin : c.1 ∈ d₁.session.captured.map Prod.fst :=
    List.mem_map_of_mem (List.mem_of_find?_eq_some hc)
  rw [hthree, hpages₁] at hin
  exact absurd hin (by decide)

end Concrete

end Clerk
end ResearchEngine
