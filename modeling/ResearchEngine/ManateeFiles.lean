import ResearchEngine.ManateeHub

/-! What a call on the Manatee portal files: exactly the pages that the hub shows for what is looked
up. -/
namespace ResearchEngine
namespace Clerk

open PyText
open Regex (StandsFirst Stands)

section Links

variable {Image : Type} [PyText] {hub : Hub Image} {phase : Phase}

/-- The links are not made of digits. -/
def PlainLinks : Prop := ∀ c ∈ "/OIn".toList, isDecimal c = false

theorem instrument_marked (hplain : PlainLinks) : Regex.Marked [instrumentLink] isDecimal := by
  refine ⟨'/', 'O', hplain '/' (by decide), hplain 'O' (by decide), ?_⟩
  simp only [List.forall_mem_singleton]
  decide

omit [PyText] in
theorem unambiguous_singleton (w : List Char) : Regex.Unambiguous [w] := by
  intro v hv v' hv' _
  rw [List.mem_singleton.mp hv, List.mem_singleton.mp hv']

omit [PyText] in
theorem imagePattern_reads (iid : String) : (imagePattern iid).Reads (pageLinks iid) := by
  have h := Regex.Reads.seq (Regex.reads_word (imageLink iid))
    (Regex.Reads.seq (Regex.Reads.opt (Regex.reads_word "amp;".toList))
      (Regex.reads_word "page=".toList))
  exact h

omit [PyText] in
theorem imageLink_head : "InstrumentResultJpgAsync?instrumentId=".toList =
    'I' :: ('n' :: "strumentResultJpgAsync?instrumentId=".toList) := by decide

omit [PyText] in
theorem imageLink_append (iid : String) (s : List Char) :
    imageLink iid ++ s = 'I' :: (('n' :: "strumentResultJpgAsync?instrumentId=".toList) ++
      (iid.toList ++ ('&' :: s))) := by
  unfold imageLink
  rw [imageLink_head]
  simp only [List.append_assoc, List.cons_append, List.nil_append]

/-- A number has no mark of a link in it. -/
theorem pageLinks_marked (hplain : PlainLinks) {iid : String}
    (hiid : ∀ c ∈ iid.toList, isDecimal c = true) : Regex.Marked (pageLinks iid) isDecimal := by
  have hI : isDecimal 'I' = false := hplain 'I' (by decide)
  refine ⟨'I', 'n', hI, hplain 'n' (by decide), fun w hw => ?_⟩
  obtain ⟨s, hs, rfl⟩ := List.mem_map.mp hw
  have hend : 'I' ∉ s.toList := by
    have hends : ∀ s ∈ ["amp;page=", "page="], 'I' ∉ s.toList := by decide
    exact hends s hs
  have hrest : 'I' ∉ iid.toList ++ ('&' :: s.toList) := by
    simp only [List.mem_append, List.mem_cons, not_or]
    refine ⟨fun h => ?_, by decide, hend⟩
    rw [hiid 'I' h] at hI
    cases hI
  rw [imageLink_append]
  refine ⟨by simp, fun h => ?_⟩
  obtain h | h := Regex.pair_infix_left hrest h
  · revert h
    decide
  · revert h
    decide

omit [PyText] in
theorem pageLinks_unambiguous (iid : String) : Regex.Unambiguous (pageLinks iid) := by
  intro w hw w' hw' hstart
  obtain ⟨s, hs, rfl⟩ := List.mem_map.mp hw
  obtain ⟨s', hs', rfl⟩ := List.mem_map.mp hw'
  rw [List.prefix_append_right_inj] at hstart
  have hends : ∀ s ∈ ["amp;page=", "page="], ∀ s' ∈ ["amp;page=", "page="],
      s.toList <+: s'.toList → s = s' := by decide
  rw [hends s hs s' hs' hstart]

section Found

variable {before : Regex} {words : List (List Char)} (hreads : before.Reads words)
  (hmarked : Regex.Marked words isDecimal) (hwords : Regex.Unambiguous words)

include hreads hmarked hwords

theorem mem_found {text iid : String} :
    iid ∈ Hub.found before text ↔ Stands words isDecimal text.toList iid.toList := by
  unfold Hub.found
  rw [Regex.findAll_numbered hreads hmarked, ← Regex.mem_links_stands hwords, List.mem_map]
  constructor
  · rintro ⟨n, hn, rfl⟩
    rwa [String.toList_ofList]
  · exact fun h => ⟨iid.toList, h, String.ofList_toList⟩

theorem head?_found {text iid : String} :
    (Hub.found before text).head? = some iid ↔
      StandsFirst words isDecimal text.toList iid.toList := by
  unfold Hub.found
  rw [Regex.findAll_numbered hreads hmarked, ← Regex.head?_links_stands hwords, List.head?_map,
    Option.map_eq_some_iff]
  constructor
  · rintro ⟨n, hn, rfl⟩
    rwa [String.toList_ofList]
  · exact fun h => ⟨iid.toList, h, String.ofList_toList⟩

end Found

/-! The lookups. -/

theorem idByInstrument_iff (hplain : PlainLinks) {num iid : String} :
    hub.idByInstrument phase num = .ok (some iid) ↔ hub.Resolves phase (.instrument num) iid := by
  have hfirst {text : String} : (Hub.found (.word instrumentLink) text).head? = some iid ↔
      StandsFirst [instrumentLink] isDecimal text.toList iid.toList :=
    head?_found (Regex.reads_word instrumentLink) (instrument_marked hplain) (unambiguous_singleton _)
  simp only [Hub.idByInstrument, Hub.Resolves, bind_eq_ok]
  refine exists_congr fun reply => and_congr_right fun _ => ?_
  exact ⟨fun h => hfirst.mp (Except.ok.inj h), fun h => congrArg Except.ok (hfirst.mpr h)⟩

omit [PyText] in
theorem firsts_singleton_iff {l : List String} {a : String} :
    FirstOccurrences.firsts l = [a] ↔ ∀ b, b ∈ l ↔ b = a := by
  constructor
  · intro h b
    rw [← FirstOccurrences.mem_firsts, h, List.mem_singleton]
  · intro h
    refine List.perm_singleton.mp ?_
    refine (List.perm_ext_iff_of_nodup (FirstOccurrences.firsts_nodup l) (List.nodup_singleton a)).mpr ?_
    intro b
    rw [FirstOccurrences.mem_firsts, h, List.mem_singleton]

theorem found_only_iff (hplain : PlainLinks) {text iid : String} :
    FirstOccurrences.firsts (Hub.found (.word instrumentLink) text) = [iid] ↔
      ∀ other, Stands [instrumentLink] isDecimal text.toList other ↔ other = iid.toList := by
  have hmem {id : String} : id ∈ Hub.found (.word instrumentLink) text ↔
      Stands [instrumentLink] isDecimal text.toList id.toList :=
    mem_found (Regex.reads_word instrumentLink) (instrument_marked hplain) (unambiguous_singleton _)
  rw [firsts_singleton_iff]
  constructor
  · intro h other
    have hother := h (String.ofList other)
    rw [hmem, String.toList_ofList] at hother
    rw [hother]
    exact ⟨fun h => by rw [← h, String.toList_ofList], fun h => by rw [h, String.ofList_toList]⟩
  · intro h id
    rw [hmem, h, String.toList_inj]

theorem idByBookPage_iff (hplain : PlainLinks) {book page iid : String} :
    hub.idByBookPage phase book page = .ok (some iid) ↔
      hub.Resolves phase (.bookPage book page) iid := by
  simp only [Hub.idByBookPage, Hub.Resolves, bind_eq_ok, ← found_only_iff hplain]
  refine exists_congr fun reply => and_congr_right fun _ => ?_
  constructor
  · intro h
    split at h
    · next id hid => rw [hid, Option.some.inj (Except.ok.inj h)]
    · cases h
  · intro h
    rw [h]
    rfl

/-! The pages. -/

omit [PyText] in
/-- The members of a list in order, without repeats: the increasing list of them. -/
theorem sorted_dedup_iff {ns numbers : List ℕ} :
    ns.dedup.insertionSort (· ≤ ·) = numbers ↔
      (∀ n, n ∈ numbers ↔ n ∈ ns) ∧ numbers.Pairwise (· < ·) := by
  have hmem (n : ℕ) : n ∈ ns.dedup.insertionSort (· ≤ ·) ↔ n ∈ ns := by
    rw [List.mem_insertionSort, List.mem_dedup]
  have hle := List.pairwise_insertionSort (· ≤ ·) ns.dedup
  have hnodup : (ns.dedup.insertionSort (· ≤ ·)).Nodup :=
    (List.perm_insertionSort _ _).nodup_iff.mpr (List.nodup_dedup ns)
  have hlt : (ns.dedup.insertionSort (· ≤ ·)).Pairwise (· < ·) :=
    hle.imp₂ (fun _ _ hle hne => Nat.lt_of_le_of_ne hle hne) hnodup
  constructor
  · rintro rfl
    exact ⟨hmem, hlt⟩
  · rintro ⟨hsame, hincreasing⟩
    exact hlt.eq_of_mem_iff hincreasing fun n => (hmem n).trans (hsame n).symm

omit [PyText] in
theorem pageNumbers_iff {texts : List String} {numbers : List ℕ} :
    hub.pageNumbers texts = .ok numbers ↔
      (∀ t ∈ texts, ∃ n ∈ numbers, hub.int t = .ok n) ∧
        (∀ n ∈ numbers, ∃ t ∈ texts, hub.int t = .ok n) ∧ numbers.Pairwise (· < ·) := by
  have hsorted : hub.pageNumbers texts = .ok numbers ↔ ∃ ns, texts.mapM hub.int = .ok ns ∧
      (∀ n, n ∈ numbers ↔ n ∈ ns) ∧ numbers.Pairwise (· < ·) := by
    simp only [Hub.pageNumbers, bind_eq_ok, ← sorted_dedup_iff]
    exact exists_congr fun ns => and_congr_right fun _ => ⟨Except.ok.inj, congrArg Except.ok⟩
  rw [hsorted]
  constructor
  · rintro ⟨ns, hall, hsame, hincreasing⟩
    refine ⟨fun t ht => ?_, fun n hn => mem_of_mapM hall ((hsame n).mp hn), hincreasing⟩
    obtain ⟨n, hn, ht⟩ := exists_of_mapM hall ht
    exact ⟨n, (hsame n).mpr hn, ht⟩
  · rintro ⟨htexts, hnumbers, hincreasing⟩
    obtain ⟨ns, hall⟩ := mapM_of_forall fun t ht => (htexts t ht).imp fun _ h => h.2
    refine ⟨ns, hall, fun n => ⟨fun hn => ?_, fun hn => ?_⟩, hincreasing⟩
    · obtain ⟨t, ht, htn⟩ := hnumbers n hn
      obtain ⟨m, hm, htm⟩ := exists_of_mapM hall ht
      rw [htn] at htm
      rwa [Except.ok.inj htm]
    · obtain ⟨t, ht, htn⟩ := mem_of_mapM hall hn
      obtain ⟨m, hm, htm⟩ := htexts t ht
      rw [htn] at htm
      rwa [Except.ok.inj htm]

theorem pageImage_iff {iid : String} {n : ℕ} {found : Option Image} :
    hub.pageImage phase iid n = .ok found ↔ ∃ reply, hub.get phase (imageUrl iid n) = .ok reply ∧
      (if Hub.isJpeg reply then ∃ image, hub.openImage reply.content = .ok image ∧ found = some image
      else found = none) := by
  rw [Hub.pageImage, bind_eq_ok]
  refine exists_congr fun reply => and_congr_right fun _ => ?_
  split
  · cases hub.openImage reply.content with
    | error e => simp
    | ok image => simp [eq_comm]
  · exact ⟨fun h => (Except.ok.inj h).symm, fun h => congrArg Except.ok h.symm⟩

/-- The images of the pages, in their order. -/
theorem images_iff {iid : String} {nums : List ℕ} {images : List Image} :
    (∃ imgs, nums.mapM (hub.pageImage phase iid) = .ok imgs ∧ imgs.reduceOption = images) ↔
      hub.Images phase iid nums images := by
  constructor
  · rintro ⟨imgs, hall, rfl⟩
    induction nums generalizing imgs with
    | nil =>
      obtain rfl := Except.ok.inj hall
      exact .done
    | cons n nums ih =>
      obtain ⟨found, imgs, hpage, hrest, rfl⟩ := mapM_cons_ok hall
      obtain ⟨reply, hreply, hfound⟩ := pageImage_iff.mp hpage
      cases hjpeg : Hub.isJpeg reply with
      | true =>
        simp only [hjpeg, if_true] at hfound
        obtain ⟨image, himage, rfl⟩ := hfound
        rw [List.reduceOption_cons_of_some]
        exact .sent hreply hjpeg himage (ih imgs hrest)
      | false =>
        simp only [hjpeg, Bool.false_eq_true, if_false] at hfound
        subst hfound
        rw [List.reduceOption_cons_of_none]
        exact .missing hreply hjpeg (ih imgs hrest)
  · intro h
    induction h with
    | done => exact ⟨[], rfl, rfl⟩
    | @sent n _ image _ _ hreply hjpeg himage _ ih =>
      obtain ⟨imgs, hall, rfl⟩ := ih
      have hpage : hub.pageImage phase iid n = .ok (some image) :=
        pageImage_iff.mpr ⟨_, hreply, by simp [hjpeg, himage]⟩
      refine ⟨some image :: imgs, ?_, List.reduceOption_cons_of_some _ _⟩
      rw [List.mapM_cons, hall, hpage]
      rfl
    | @missing n _ _ _ hreply hjpeg _ ih =>
      obtain ⟨imgs, hall, rfl⟩ := ih
      have hpage : hub.pageImage phase iid n = .ok none :=
        pageImage_iff.mpr ⟨_, hreply, by simp [hjpeg]⟩
      refine ⟨none :: imgs, ?_, List.reduceOption_cons_of_none _⟩
      rw [List.mapM_cons, hall, hpage]
      rfl

theorem lists_iff (hplain : PlainLinks) {iid : String} (hiid : ∀ c ∈ iid.toList, isDecimal c = true)
    {numbers : List ℕ} :
    hub.Lists phase iid numbers ↔ ∃ display, hub.get phase (displayUrl iid) = .ok display ∧
      hub.pageNumbers (Hub.found (imagePattern iid) display.text) = .ok numbers := by
  have hmem {text t : String} : t ∈ Hub.found (imagePattern iid) text ↔
      Stands (pageLinks iid) isDecimal text.toList t.toList :=
    mem_found (imagePattern_reads iid) (pageLinks_marked hplain hiid) (pageLinks_unambiguous iid)
  constructor
  · rintro ⟨⟨display, hdisplay, hall, honly⟩, hincreasing⟩
    refine ⟨display, hdisplay, pageNumbers_iff.mpr ⟨fun t ht => ?_, fun n hn => ?_, hincreasing⟩⟩
    · have ht := hall t.toList (hmem.mp ht)
      rwa [String.ofList_toList] at ht
    · obtain ⟨digits, hdigits, hint⟩ := honly n hn
      refine ⟨String.ofList digits, hmem.mpr ?_, hint⟩
      rwa [String.toList_ofList]
  · rintro ⟨display, hdisplay, hnumbers⟩
    obtain ⟨hall, honly, hincreasing⟩ := pageNumbers_iff.mp hnumbers
    refine ⟨⟨display, hdisplay, fun digits hdigits => ?_, fun n hn => ?_⟩, hincreasing⟩
    · refine hall (String.ofList digits) (hmem.mpr ?_)
      rwa [String.toList_ofList]
    · obtain ⟨t, ht, hint⟩ := honly n hn
      refine ⟨t.toList, hmem.mp ht, ?_⟩
      rwa [String.ofList_toList]

omit [PyText] in
theorem printed_iff {imgs : List Image} {pdf : Blob} :
    hub.printed imgs = .ok (some pdf) ↔ imgs ≠ [] ∧ hub.save imgs = .ok pdf := by
  cases imgs with
  | nil =>
    refine ⟨fun h => ?_, fun h => absurd rfl h.1⟩
    cases h
  | cons img imgs =>
    have hprinted : hub.printed (img :: imgs) = some <$> hub.save (img :: imgs) := rfl
    rw [hprinted]
    cases hub.save (img :: imgs) <;> simp

/-- What `_pages_to_pdf` returns is the PDF of the instrument's pages. -/
theorem pagesToPdf_iff (hplain : PlainLinks) {iid : String}
    (hiid : ∀ c ∈ iid.toList, isDecimal c = true) {pdf : Blob} :
    hub.pagesToPdf phase iid = .ok (some pdf) ↔ hub.Prints phase iid pdf := by
  simp only [Hub.pagesToPdf, Hub.Prints, lists_iff hplain hiid, ← images_iff, bind_eq_ok, printed_iff]
  constructor
  · rintro ⟨display, hdisplay, nums, hnums, imgs, himgs, hne, hpdf⟩
    exact ⟨nums, _, ⟨display, hdisplay, hnums⟩, ⟨imgs, himgs, rfl⟩, hne, hpdf⟩
  · rintro ⟨nums, _, ⟨display, hdisplay, hnums⟩, ⟨imgs, himgs, rfl⟩, hne, hpdf⟩
    exact ⟨display, hdisplay, nums, hnums, imgs, himgs, hne, hpdf⟩

end Links

/-! The files. -/

/-- A part of a call adds nothing but what it is meant to, and all of that unless it raises. -/
def Writes (meant : String × Saved → Prop) (step : Step) : Prop :=
  ∀ s, ∃ new, (step s).2.files = new ++ s.files ∧ (∀ f ∈ new, meant f) ∧
    ((step s).1 = .ok () → ∀ f, meant f → f ∈ new)

theorem Writes.congr {p q : String × Saved → Prop} {step : Step} (h : Writes p step)
    (hpq : ∀ f, p f ↔ q f) : Writes q step := by
  obtain rfl : p = q := funext fun f => propext (hpq f)
  exact h

theorem seq_writes {p q : String × Saved → Prop} {first rest : Step} (hfirst : Writes p first)
    (hrest : Writes q rest) : Writes (fun f => p f ∨ q f) (seq first rest) := by
  intro s
  obtain ⟨new, hnew, hmeant, hall⟩ := hfirst s
  unfold seq
  match hs : first s with
  | (.error e, s') =>
    rw [hs] at hnew
    exact ⟨new, hnew, fun f hf => .inl (hmeant f hf), fun h => nomatch h⟩
  | (.ok _, s') =>
    rw [hs] at hnew hall
    obtain ⟨more, hmore, hmeant', hall'⟩ := hrest s'
    refine ⟨more ++ new, ?_, fun f hf => ?_, fun h f hf => ?_⟩
    · exact hmore.trans (by rw [hnew, List.append_assoc])
    · exact (List.mem_append.mp hf).elim (fun h => .inr (hmeant' f h)) fun h => .inl (hmeant f h)
    · exact List.mem_append.mpr (hf.elim (fun hf => .inr (hall rfl f hf)) fun hf => .inl (hall' h f hf))

/-- A part that only sets the text writes nothing. -/
theorem say_seq_writes {p : String × Saved → Prop} {rest : Step} (text : String)
    (h : Writes p rest) : Writes p (seq (say text) rest) :=
  fun s => h (say text s).2

theorem nothing_writes {p : String × Saved → Prop} {outcome : Except Raised Unit}
    (h : outcome = .ok () → ∀ f, ¬ p f) : Writes p (call outcome) :=
  fun _ => ⟨[], rfl, fun _ hf => absurd hf List.not_mem_nil, fun hok f hf => absurd hf (h hok f)⟩

theorem skip_writes : Writes (fun _ => False) skip := nothing_writes fun _ _ => id

theorem fileDeed_writes (name : String) (ref : Reference) (found : Lookup) :
    Writes (fun f => ∃ pdf, found = .ok (some pdf) ∧ f = (name, ⟨ref, pdf⟩))
      (fileDeed name ref found) := by
  intro s
  match found with
  | .error e => exact ⟨[], rfl, by simp, fun h => nomatch h⟩
  | .ok none => exact ⟨[], rfl, by simp, by simp⟩
  | .ok (some pdf) => exact ⟨[(name, ⟨ref, pdf⟩)], rfl, by simp, by simp⟩

theorem filePlat_writes (book page : String) (found : Lookup) :
    Writes (fun f => ∃ pdf, found = .ok (some pdf) ∧ f = (platName book page, ⟨.bookPage book page, pdf⟩))
      (filePlat book page found) := by
  intro s
  match found with
  | .error e => exact ⟨[], rfl, by simp, fun h => nomatch h⟩
  | .ok none => exact ⟨[], rfl, by simp, by simp⟩
  | .ok (some pdf) => exact ⟨[(platName book page, ⟨.bookPage book page, pdf⟩)], rfl, by simp, by simp⟩

section Files

variable {Image : Type} [PyText] {hub : Hub Image} {plat deed : Attrs}

theorem Hub.Resolves.decimal {phase : Phase} {ref : Reference} {iid : String}
    (h : hub.Resolves phase ref iid) : ∀ c ∈ iid.toList, isDecimal c = true := by
  cases ref with
  | instrument num =>
    obtain ⟨_, -, _, ⟨_, -, _, _, -, -, -, hdigits, -⟩, -⟩ := h
    exact hdigits
  | bookPage book page =>
    obtain ⟨_, -, honly⟩ := h
    obtain ⟨_, _, -, _, _, -, -, -, hdigits, -⟩ := (honly iid.toList).mpr rfl
    exact hdigits

/-- A lookup by what the hub resolves, and the pages of what it found. -/
theorem lookup_writes (hplain : PlainLinks) {phase : Phase} {ref : Reference} {name : String}
    {found : Except Raised (Option String)} {file : Lookup → Step} {other : Step}
    {p : String × Saved → Prop}
    (hfound : ∀ iid, found = .ok (some iid) ↔ hub.Resolves phase ref iid)
    (hfile : ∀ pages, Writes (fun f => ∃ pdf, pages = .ok (some pdf) ∧ f = (name, ⟨ref, pdf⟩))
      (file pages))
    (hother : (∀ iid, ¬ hub.Resolves phase ref iid) → Writes p other) :
    Writes (fun f => (∃ iid pdf, hub.Resolves phase ref iid ∧ hub.Prints phase iid pdf ∧
        f = (name, ⟨ref, pdf⟩)) ∨ ((∀ iid, ¬ hub.Resolves phase ref iid) ∧ p f))
      (match found with
      | .error e => call (.error e)
      | .ok none => other
      | .ok (some iid) => file (hub.pagesToPdf phase iid)) := by
  match found with
  | .error e => exact nothing_writes fun h => nomatch h
  | .ok none =>
    have hnone (iid : String) : ¬ hub.Resolves phase ref iid := by
      intro h
      cases (hfound iid).mpr h
    refine (hother hnone).congr fun f => ?_
    simp [hnone]
  | .ok (some iid) =>
    have hiid : hub.Resolves phase ref iid := (hfound iid).mp rfl
    refine (hfile _).congr fun f => ?_
    simp only [pagesToPdf_iff hplain hiid.decimal]
    constructor
    · rintro ⟨pdf, hpdf, hf⟩
      exact .inl ⟨iid, pdf, hiid, hpdf, hf⟩
    · rintro (⟨iid', pdf, hiid', hpdf, hf⟩ | ⟨hnone, -⟩)
      · obtain rfl := Option.some.inj (Except.ok.inj ((hfound iid').mpr hiid'))
        exact ⟨pdf, hpdf, hf⟩
      · exact absurd hiid (hnone iid)

theorem manateeByBookPage_writes (hplain : PlainLinks) (hub : Hub Image) (plat deed : Attrs) :
    Writes (fun f => deedBook deed ≠ "" ∧ deedPage deed ≠ "" ∧ ∃ iid pdf,
        hub.Resolves .deed (.bookPage (deedBook deed) (deedPage deed)) iid ∧
        hub.Prints .deed iid pdf ∧
        f = (manateeName deed, ⟨.bookPage (deedBook deed) (deedPage deed), pdf⟩))
      (manateeByBookPage (hub.answers plat deed) deed) := by
  unfold manateeByBookPage
  split
  · next hpair =>
    refine say_seq_writes _ ?_
    have hfound (iid : String) : (hub.answers plat deed).byBookPage = .ok (some iid) ↔
        hub.Resolves .deed (.bookPage (deedBook deed) (deedPage deed)) iid := idByBookPage_iff hplain
    refine (lookup_writes hplain hfound (fileDeed_writes _ _) fun _ => skip_writes).congr fun f => ?_
    simp [hpair]
  · next hpair => exact nothing_writes fun _ f hf => hpair ⟨hf.1, hf.2.1⟩

/-- The files of the deed. -/
theorem manateeDeed_writes (hplain : PlainLinks) :
    Writes (fun f => (docNumber deed ≠ "" ∧ ∃ iid pdf,
          hub.Resolves .deed (.instrument (docNumber deed)) iid ∧ hub.Prints .deed iid pdf ∧
          f = (manateeName deed, ⟨.instrument (docNumber deed), pdf⟩)) ∨
        ((docNumber deed ≠ "" → ∀ iid, ¬ hub.Resolves .deed (.instrument (docNumber deed)) iid) ∧
          deedBook deed ≠ "" ∧ deedPage deed ≠ "" ∧ ∃ iid pdf,
          hub.Resolves .deed (.bookPage (deedBook deed) (deedPage deed)) iid ∧
          hub.Prints .deed iid pdf ∧
          f = (manateeName deed, ⟨.bookPage (deedBook deed) (deedPage deed), pdf⟩)))
      (manateeDeed (hub.answers plat deed) deed) := by
  have hbook := manateeByBookPage_writes hplain hub plat deed
  unfold manateeDeed
  split
  · next hnum =>
    refine say_seq_writes _ ?_
    have hfound (iid : String) : (hub.answers plat deed).byNumber = .ok (some iid) ↔
        hub.Resolves .deed (.instrument (docNumber deed)) iid := idByInstrument_iff hplain
    refine (lookup_writes hplain hfound (fileDeed_writes _ _) fun _ => hbook).congr fun f => ?_
    simp only [hnum, ne_eq, not_false_eq_true, true_and, forall_const]
  · next hnum =>
    refine hbook.congr fun f => ?_
    simp only [hnum, ne_eq, false_and, false_or, IsEmpty.forall_iff, true_and]

theorem manateePlat_writes (hplain : PlainLinks) :
    Writes (fun f => (plat.get "book").truthy = true ∧ (plat.get "page").truthy = true ∧
        ∃ iid pdf, hub.Resolves .plat (.bookPage (plat.get "book").text (plat.get "page").text) iid ∧
          hub.Prints .plat iid pdf ∧ f = (platName (plat.get "book").text (plat.get "page").text,
            ⟨.bookPage (plat.get "book").text (plat.get "page").text, pdf⟩))
      (manateePlat (hub.answers plat deed) plat) := by
  unfold manateePlat
  split
  · next hpair =>
    have hfound (iid : String) : (hub.answers plat deed).platByBookPage = .ok (some iid) ↔
        hub.Resolves .plat (.bookPage (plat.get "book").text (plat.get "page").text) iid :=
      idByBookPage_iff hplain
    refine (lookup_writes hplain hfound (filePlat_writes _ _) fun _ => skip_writes).congr fun f => ?_
    simp [hpair]
  · next hpair => exact nothing_writes fun _ f hf => hpair ⟨hf.1, hf.2.1⟩

theorem fetchManatee_writes (hplain : PlainLinks) (hub : Hub Image) (plat deed : Attrs) :
    Writes (hub.Files plat deed) (fetchManatee (hub.answers plat deed) plat deed) := by
  have hstarts : Writes (fun _ => False) (call hub.starts) := nothing_writes fun _ _ => id
  refine (seq_writes hstarts (seq_writes (manateeDeed_writes hplain)
    (manateePlat_writes hplain))).congr fun f => ?_
  constructor
  · rintro (h | (⟨hnum, iid, pdf, hiid, hpdf, rfl⟩ | ⟨hnum, hbook, hpage, iid, pdf, hiid, hpdf, rfl⟩) |
      ⟨hbook, hpage, iid, pdf, hiid, hpdf, rfl⟩)
    · exact h.elim
    · exact .byNumber hnum hiid hpdf
    · exact .byBookPage hnum hbook hpage hiid hpdf
    · exact .plat hbook hpage hiid hpdf
  · intro h
    cases h with
    | byNumber hnum hiid hpdf => exact .inr (.inl (.inl ⟨hnum, _, _, hiid, hpdf, rfl⟩))
    | byBookPage hnum hbook hpage hiid hpdf =>
      exact .inr (.inl (.inr ⟨hnum, hbook, hpage, _, _, hiid, hpdf, rfl⟩))
    | plat hbook hpage hiid hpdf => exact .inr (.inr ⟨hbook, hpage, _, _, hiid, hpdf, rfl⟩)

/-- A call on the Manatee portal writes only what the hub's pages show for what is looked up, and all
of it when nothing is raised. -/
theorem manatee_files_exact (hplain : PlainLinks) (hub : Hub Image) (plat deed : Attrs) :
    (∀ f ∈ (fetchManatee (hub.answers plat deed) plat deed {}).2.files, hub.Files plat deed f) ∧
      ((fetchManatee (hub.answers plat deed) plat deed {}).1 = .ok () →
        ∀ f, hub.Files plat deed f →
          f ∈ (fetchManatee (hub.answers plat deed) plat deed {}).2.files) := by
  obtain ⟨new, hnew, hmeant, hall⟩ := fetchManatee_writes hplain hub plat deed {}
  rw [List.append_nil] at hnew
  rw [hnew]
  exact ⟨hmeant, hall⟩

end Files

section Samples

open scoped PyText.Ascii

/-- A deed with an instrument number. -/
def numberedDeed : Attrs := [("doc_number", .str "2019")]

/-- A search that shows two instruments, of which the first has two pages and a broken one. -/
def sampleHub : Hub Blob where
  starts := .ok ()
  get _ url :=
    if url = numberUrl "2019" then
      .ok ⟨"/OfficialRecords/DisplayInstrument/77, /OfficialRecords/DisplayInstrument/9", "", []⟩
    else if url = displayUrl "77" then
      .ok ⟨"InstrumentResultJpgAsync?instrumentId=77&amp;page=2 " ++
        "InstrumentResultJpgAsync?instrumentId=77&page=1 " ++
        "InstrumentResultJpgAsync?instrumentId=77&page=3", "", []⟩
    else if url = imageUrl "77" 1 then .ok ⟨"", "image/jpeg", [0xff, 0xd8, 1]⟩
    else if url = imageUrl "77" 2 then .ok ⟨"", "Image/JPEG", [0xff, 0xd8, 2]⟩
    else .ok ⟨"busy", "text/html", []⟩
  int digits := .ok (digits.toList.foldl (fun n c => 10 * n + (c.toNat - '0'.toNat)) 0)
  openImage := .ok
  save images := .ok images.flatten

theorem numberedDeed_filed :
    (∀ f ∈ (fetchManatee (sampleHub.answers [] numberedDeed) [] numberedDeed {}).2.files,
        sampleHub.Files [] numberedDeed f) ∧
      (fetchManatee (sampleHub.answers [] numberedDeed) [] numberedDeed {}).2.files =
        [("Deed_INSTR2019.pdf", ⟨.instrument "2019", [0xff, 0xd8, 1, 0xff, 0xd8, 2]⟩)] := by
  refine ⟨(manatee_files_exact ?_ sampleHub [] numberedDeed).1, ?_⟩
  · intro c hc
    have hmark : c = '/' ∨ c = 'O' ∨ c = 'I' ∨ c = 'n' := by simpa using hc
    rcases hmark with rfl | rfl | rfl | rfl <;> decide
  · decide +kernel

end Samples

end Clerk
end ResearchEngine
