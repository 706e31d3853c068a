import Mathlib.Data.List.Basic

/-! Markup with values filled in: the tags that a reader finds in it, and why they do not depend on
the values when these are escaped. -/
namespace ResearchEngine
namespace Markup

/-! Escaping. -/

def escapeChar (c : Char) : String :=
  if c = '&' then "&amp;"
  else if c = '<' then "&lt;"
  else if c = '>' then "&gt;"
  else if c = '"' then "&quot;"
  else if c = '\'' then "&#x27;"
  else String.singleton c

/-- A text with its markup characters replaced by references. -/
def escape (s : String) : String := String.ofList (s.toList.flatMap fun c => (escapeChar c).toList)

/-- The characters that end a text or a quoted value. -/
def delimiters : List Char := ['<', '>', '"', '\'']

theorem escapeChar_delimiter {c d : Char} (hd : d ∈ (escapeChar c).toList) : d ∉ delimiters := by
  have hplain {text : String} (hall : (text.toList.all fun d => d ∉ delimiters) = true)
      (hd : d ∈ text.toList) : d ∉ delimiters := of_decide_eq_true (List.all_eq_true.mp hall d hd)
  unfold escapeChar at hd
  split_ifs at hd with hamp hlt hgt hquote happ
  · exact hplain (by decide) hd
  · exact hplain (by decide) hd
  · exact hplain (by decide) hd
  · exact hplain (by decide) hd
  · exact hplain (by decide) hd
  · rw [String.toList_singleton, List.mem_singleton] at hd
    subst hd
    simp [delimiters, *]

theorem escape_delimiter {s : String} {d : Char} (hd : d ∈ (escape s).toList) : d ∉ delimiters := by
  rw [escape, String.toList_ofList] at hd
  obtain ⟨c, _, hc⟩ := List.mem_flatMap.mp hd
  exact escapeChar_delimiter hc

/-- A character that `escape` leaves alone. -/
def plain (c : Char) : Bool := c ≠ '&' ∧ c ∉ delimiters

theorem escapeChar_plain {c : Char} (h : plain c = true) : escapeChar c = String.singleton c := by
  simp only [plain, delimiters, List.mem_cons, List.not_mem_nil, or_false, not_or,
    decide_eq_true_eq] at h
  obtain ⟨hamp, hlt, hgt, hquote, happ⟩ := h
  rw [escapeChar, if_neg hamp, if_neg hlt, if_neg hgt, if_neg hquote, if_neg happ]

theorem escapeChar_long {c : Char} (h : plain c = false) : 1 < (escapeChar c).toList.length := by
  unfold escapeChar
  split_ifs with hamp hlt hgt hquote happ
  · decide
  · decide
  · decide
  · decide
  · decide
  · simp [plain, delimiters, *] at h

theorem escapeChar_length (c : Char) : 1 ≤ (escapeChar c).toList.length := by
  by_cases h : plain c = true
  · rw [escapeChar_plain h]
    simp
  · exact Nat.le_of_lt (escapeChar_long (Bool.eq_false_iff.mpr h))

theorem length_escaped (cs : List Char) :
    cs.length ≤ (cs.flatMap fun c => (escapeChar c).toList).length := by
  induction cs with
  | nil => exact Nat.le_refl 0
  | cons c cs ih =>
    rw [List.flatMap_cons, List.length_append, List.length_cons]
    have hc := escapeChar_length c
    omega

theorem escaped_eq_iff (cs : List Char) :
    cs.flatMap (fun c => (escapeChar c).toList) = cs ↔ ∀ c ∈ cs, plain c = true := by
  induction cs with
  | nil => simp
  | cons c cs ih =>
    rw [List.flatMap_cons, List.forall_mem_cons, ← ih]
    by_cases hc : plain c = true
    · rw [escapeChar_plain hc]
      simp [hc]
    · have hlong := escapeChar_long (Bool.eq_false_iff.mpr hc)
      have hrest := length_escaped cs
      refine iff_of_false (fun heq => ?_) fun h => hc h.1
      have hlength := congrArg List.length heq
      rw [List.length_append, List.length_cons] at hlength
      omega

/-- A text is its own escaped form just when every character of it is plain. -/
theorem escape_eq_iff {s : String} : escape s = s ↔ ∀ c ∈ s.toList, plain c = true := by
  rw [← escaped_eq_iff, escape, ← String.toList_inj, String.toList_ofList]

/-! Reading. -/

/-- Where a reader stands, with what it has read of a tag, the last character first. -/
inductive Mode
  | text
  | tag (read : List Char)
  /-- Inside a value of the tag, up to the quote that opened it. -/
  | quoted (quote : Char) (read : List Char)
  deriving DecidableEq

/-- A tag as it was read, without what stands in quotes in it. -/
abbrev Tag := List Char

def step : Mode → Char → Mode × List Tag
  | .text, c => if c = '<' then (.tag ['<'], []) else (.text, [])
  | .tag read, c =>
    if c = '>' then (.text, [(c :: read).reverse])
    else if c = '"' ∨ c = '\'' then (.quoted c (c :: read), [])
    else (.tag (c :: read), [])
  | .quoted quote read, c =>
    if c = quote then (.tag (c :: read), []) else (.quoted quote read, [])

def scan : Mode → List Char → Mode × List Tag
  | mode, [] => (mode, [])
  | mode, c :: cs =>
    let (mode, ts) := step mode c
    let (mode, ts') := scan mode cs
    (mode, ts ++ ts')

/-- The tags of a text. -/
def tags (s : String) : List Tag := (scan .text s.toList).2

theorem scan_append (mode : Mode) (cs ds : List Char) : scan mode (cs ++ ds) =
    ((scan (scan mode cs).1 ds).1, (scan mode cs).2 ++ (scan (scan mode cs).1 ds).2) := by
  induction cs generalizing mode with
  | nil => rfl
  | cons c cs ih => simp [scan, ih]

/-- A place where a value may be filled in. -/
def Mode.open : Mode → Bool
  | .text => true
  | .tag _ => false
  | .quoted quote _ => quote ∈ delimiters

theorem scan_escaped {mode : Mode} (h : mode.open = true) {cs : List Char}
    (hcs : ∀ c ∈ cs, c ∉ delimiters) : scan mode cs = (mode, []) := by
  induction cs with
  | nil => rfl
  | cons c cs ih =>
    have hc := hcs c List.mem_cons_self
    have hstep : step mode c = (mode, []) := by
      cases mode with
      | text =>
        refine if_neg fun heq => hc ?_
        rw [heq]
        decide
      | tag read => cases h
      | quoted quote read =>
        refine if_neg fun heq => hc ?_
        rw [heq]
        exact of_decide_eq_true h
    simp only [scan, hstep, ih fun d hd => hcs d (List.mem_cons_of_mem c hd), List.nil_append]

theorem mem_tags_append {s : String} {t : Tag} (s' : String) (h : t ∈ tags s) :
    t ∈ tags (s ++ s') := by
  rw [tags, String.toList_append, scan_append]
  exact List.mem_append_left _ h

/-! Templates. -/

inductive Part
  | markup (s : String)
  | value (s : String)
  deriving DecidableEq

/-- A page as it is meant: markup with values. -/
abbrev Template := List Part

def Part.text : Part → String
  | .markup s => s
  | .value s => escape s

@[simp] theorem Part.text_markup (s : String) : (Part.markup s).text = s := rfl

@[simp] theorem Part.text_value (s : String) : (Part.value s).text = escape s := rfl

/-- The page with every value escaped. -/
def text (t : Template) : String := String.join (t.map Part.text)

/-- A template without its values. -/
abbrev Shape := List (Option String)

def Part.shape : Part → Option String
  | .markup s => some s
  | .value _ => none

def shape (t : Template) : Shape := t.map Part.shape

/-- The tags of a shape; `none` when a value would not stand in a text or in quotes. -/
def walk : Mode → Shape → Option (Mode × List Tag)
  | mode, [] => some (mode, [])
  | mode, some s :: parts =>
    let (mode, ts) := scan mode s.toList
    (walk mode parts).map fun next => (next.1, ts ++ next.2)
  | mode, none :: parts => if mode.open then walk mode parts else none

@[simp] theorem text_nil : text [] = "" := rfl

@[simp] theorem text_cons (p : Part) (t : Template) : text (p :: t) = p.text ++ text t := by
  simp [text]

@[simp] theorem text_append (t t' : Template) : text (t ++ t') = text t ++ text t' := by
  simp [text]

theorem text_flatten (ts : List Template) : text ts.flatten = String.join (ts.map text) := by
  induction ts with
  | nil => rfl
  | cons t ts ih => simp [ih]

theorem shape_append (t t' : Template) : shape (t ++ t') = shape t ++ shape t' := List.map_append

theorem scan_text {mode mode' : Mode} {t : Template} {ts : List Tag}
    (h : walk mode (shape t) = some (mode', ts)) : scan mode (text t).toList = (mode', ts) := by
  induction t generalizing mode ts with
  | nil => exact Option.some.inj h
  | cons p t ih =>
    rw [text_cons, String.toList_append, scan_append]
    cases p with
    | markup s =>
      obtain ⟨⟨mode'', rest⟩, hrest, heq⟩ := Option.map_eq_some_iff.mp h
      obtain ⟨rfl, rfl⟩ := Prod.mk.inj heq
      have hscan := ih hrest
      dsimp only [Part.text] at hscan ⊢
      rw [hscan]
    | value s =>
      have hopen : mode.open = true := by
        by_contra hclosed
        simp only [shape, List.map_cons, Part.shape, walk, if_neg hclosed] at h
        cases h
      have hrest : walk mode (shape t) = some (mode', ts) := by
        simpa only [shape, List.map_cons, Part.shape, walk, if_pos hopen] using h
      have hscan := scan_escaped hopen fun c hc => @escape_delimiter s c hc
      simp only [Part.text, hscan, ih hrest, List.nil_append]

/-- A shape that begins and ends in a text. -/
def Closed (s : Shape) : Prop := (walk .text s).map Prod.fst = some .text

instance (s : Shape) : Decidable (Closed s) := inferInstanceAs (Decidable (_ = _))

/-- The tags of a shape that is closed. -/
def shapeTags (s : Shape) : List Tag := ((walk .text s).map Prod.snd).getD []

theorem walk_append (mode : Mode) (s s' : Shape) : walk mode (s ++ s') =
    (walk mode s).bind fun next => (walk next.1 s').map fun last => (last.1, next.2 ++ last.2) := by
  induction s generalizing mode with
  | nil => simp [walk]
  | cons p s ih =>
    cases p with
    | none =>
      simp only [List.cons_append, walk, ih]
      split
      · rfl
      · rfl
    | some m =>
      simp only [List.cons_append, walk, ih]
      cases walk (scan mode m.toList).1 s <;> simp [Function.comp_def]

theorem Closed.append {s s' : Shape} (h : Closed s) (h' : Closed s') : Closed (s ++ s') := by
  unfold Closed at h h' ⊢
  obtain ⟨⟨mode, ts⟩, hs, rfl⟩ := Option.map_eq_some_iff.mp h
  rw [walk_append, hs]
  simpa using h'

theorem closed_nil : Closed [] := rfl

theorem Closed.flatten {ss : List Shape} (h : ∀ s ∈ ss, Closed s) : Closed ss.flatten := by
  induction ss with
  | nil => exact closed_nil
  | cons s ss ih =>
    exact (h s List.mem_cons_self).append (ih fun s' hs' => h s' (List.mem_cons_of_mem s hs'))

/-- The tags of a page are those of its shape. -/
theorem tags_text {t : Template} (h : Closed (shape t)) : tags (text t) = shapeTags (shape t) := by
  obtain ⟨⟨mode, ts⟩, hwalk, rfl⟩ := Option.map_eq_some_iff.mp h
  rw [tags, scan_text hwalk, shapeTags, hwalk]
  rfl

theorem mem_tags_text {t : Template} (h : Closed (shape t)) {s : String} {tag : Tag}
    (htag : tag ∈ tags s) : tag ∈ tags (text t ++ s) := by
  obtain ⟨⟨mode, ts⟩, hwalk, rfl⟩ := Option.map_eq_some_iff.mp h
  rw [tags, String.toList_append, scan_append, scan_text hwalk]
  exact List.mem_append_right _ htag

end Markup
end ResearchEngine
