import Mathlib

/-! Search conditions of SQL without arithmetic: their tokens, their grammar, and the rows that
they select. Whatever does not belong to this language has no reading. -/
namespace ResearchEngine
namespace Sql

/-! Numbers and names. -/

/-- A numeral without its sign. -/
def unsigned : List Char → List Char
  | '+' :: cs => cs
  | '-' :: cs => cs
  | cs => cs

/-- The rest of a numeral after its digits. -/
def isExponent : List Char → Bool
  | [] => true
  | c :: cs => (c = 'e' ∨ c = 'E') ∧ unsigned cs ≠ [] ∧ (unsigned cs).all Char.isDigit

/-- An exact or approximate numeral, signed or not. -/
def isNumeral (cs : List Char) : Bool :=
  let whole := (unsigned cs).takeWhile Char.isDigit
  match (unsigned cs).dropWhile Char.isDigit with
  | '.' :: rest =>
    (whole ≠ [] ∨ rest.takeWhile Char.isDigit ≠ []) ∧ isExponent (rest.dropWhile Char.isDigit)
  | rest => whole ≠ [] ∧ isExponent rest

/-- What may stand in a numeral. -/
def isNumeralChar (c : Char) : Bool := c.isDigit ∨ c ∈ ['.', 'e', 'E', '+', '-']

def isLetter (c : Char) : Bool := c.isAlpha ∨ c = '_'

/-- What may stand in a name; the dot qualifies one name by another. -/
def isWordChar (c : Char) : Bool := isLetter c ∨ c.isDigit ∨ c = '.'

def isWord : List Char → Bool
  | [] => false
  | c :: cs => isLetter c ∧ cs.all isWordChar

/-- The words that are no names, in any case of letters. -/
def keywords : List String := ["AND", "OR", "NOT", "IS", "NULL"]

def isKey (k : String) (word : List Char) : Bool := word.map Char.toUpper = k.toList

def isKeyword (word : List Char) : Bool := keywords.any fun k => isKey k word

/-- The name of a column. -/
def IsName (cs : List Char) : Prop := isWord cs = true ∧ isKeyword cs = false

instance (cs : List Char) : Decidable (IsName cs) := inferInstanceAs (Decidable (_ ∧ _))

/-! Tokens. -/

inductive Token
  | word (text : List Char)
  | number (text : List Char)
  /-- A text in quotes, with its doubled quotes read as one. -/
  | text (content : List Char)
  | mark (c : Char)
  deriving DecidableEq, Repr

/-- Where the scanner stands, with what it has read of a token, the last character first. -/
inductive Mode
  | blank
  | word (read : List Char)
  | number (read : List Char)
  | quoted (read : List Char)
  /-- After a quote inside a text: its end, unless another quote follows. -/
  | closing (read : List Char)

def marks : List Char := ['=', '<', '>', '(', ')']

/-- The first character of a token. -/
def start (c : Char) : Option (Mode × List Token) :=
  if c ∈ [' ', '\t', '\n', '\r'] then some (.blank, [])
  else if isLetter c then some (.word [c], [])
  else if isNumeralChar c then some (.number [c], [])
  else if c = '\'' then some (.quoted [], [])
  else if c ∈ marks then some (.blank, [.mark c])
  else none

/-- The end of a token. -/
def finish : Mode → Option (List Token)
  | .blank => some []
  | .word read => some [.word read.reverse]
  | .number read => if isNumeral read.reverse then some [.number read.reverse] else none
  | .quoted _ => none
  | .closing read => some [.text read.reverse]

/-- A character that ends a token and starts the next one. -/
def turn (mode : Mode) (c : Char) : Option (Mode × List Token) :=
  (finish mode).bind fun ts => (start c).map fun next => (next.1, ts ++ next.2)

def step : Mode → Char → Option (Mode × List Token)
  | .blank, c => start c
  | .word read, c => if isWordChar c then some (.word (c :: read), []) else turn (.word read) c
  | .number read, c =>
    if isNumeralChar c then some (.number (c :: read), []) else turn (.number read) c
  | .quoted read, c => if c = '\'' then some (.closing read, []) else some (.quoted (c :: read), [])
  | .closing read, c =>
    if c = '\'' then some (.quoted ('\'' :: read), []) else turn (.closing read) c

def scan : Mode → List Char → Option (List Token)
  | mode, [] => finish mode
  | mode, c :: cs => (step mode c).bind fun next => (scan next.1 cs).map (next.2 ++ ·)

def tokens (cs : List Char) : Option (List Token) := scan .blank cs

/-! Conditions. -/

inductive Operand
  | column (name : List Char)
  | number (text : List Char)
  | text (content : List Char)
  deriving DecidableEq, Repr

inductive Comparison
  | eq | ne | lt | le | gt | ge
  deriving DecidableEq, Repr

inductive Condition
  | compare (op : Comparison) (left right : Operand)
  | isNull (o : Operand)
  | not (p : Condition)
  | and (p q : Condition)
  | or (p q : Condition)
  deriving DecidableEq, Repr

def operand : Token → Option Operand
  | .word w => if isKeyword w then none else some (.column w)
  | .number n => some (.number n)
  | .text s => some (.text s)
  | .mark _ => none

/-- The operator of a comparison, and what follows it. -/
def comparison : List Token → Option (Comparison × List Token)
  | .mark '<' :: .mark '>' :: ts => some (.ne, ts)
  | .mark '<' :: .mark '=' :: ts => some (.le, ts)
  | .mark '>' :: .mark '=' :: ts => some (.ge, ts)
  | .mark '=' :: ts => some (.eq, ts)
  | .mark '<' :: ts => some (.lt, ts)
  | .mark '>' :: ts => some (.gt, ts)
  | _ => none

/-- `IS NULL` or `IS NOT NULL` after an operand. -/
def nullTest (o : Operand) : List Token → Option (Condition × List Token)
  | .word is :: .word w :: ts =>
    if isKey "IS" is ∧ isKey "NULL" w then some (.isNull o, ts)
    else
      match ts with
      | .word null :: ts =>
        if isKey "IS" is ∧ isKey "NOT" w ∧ isKey "NULL" null then some (.not (.isNull o), ts)
        else none
      | _ => none
  | _ => none

/-- A condition without a connective. -/
def simple : List Token → Option (Condition × List Token)
  | [] => none
  | t :: ts =>
    (operand t).bind fun left =>
      match comparison ts with
      | none => nullTest left ts
      | some (_, []) => none
      | some (op, t' :: rest) => (operand t').map fun right => (.compare op left right, rest)

/-- The levels of the grammar. -/
inductive Level
  | disjunction | conjunction | negation

/-- A condition with what a connective joins to it. -/
def chain (key : String) (join : Condition → Condition → Condition)
    (next : List Token → Option (Condition × List Token)) (p : Condition) :
    List Token → Option (Condition × List Token)
  | .word w :: ts =>
    if isKey key w then (next ts).map fun (q, rest) => (join p q, rest) else some (p, .word w :: ts)
  | ts => some (p, ts)

/-- The condition that the tokens start with at a level, and the tokens after it. -/
def parse : ℕ → Level → List Token → Option (Condition × List Token)
  | 0, _, _ => none
  | n + 1, .disjunction, ts =>
    (parse n .conjunction ts).bind fun (p, ts) => chain "OR" .or (parse n .disjunction) p ts
  | n + 1, .conjunction, ts =>
    (parse n .negation ts).bind fun (p, ts) => chain "AND" .and (parse n .conjunction) p ts
  | n + 1, .negation, ts =>
    match ts with
    | .mark '(' :: rest =>
      match parse n .disjunction rest with
      | some (p, .mark ')' :: rest) => some (p, rest)
      | _ => none
    | .word w :: rest =>
      if isKey "NOT" w then (parse n .negation rest).map fun (p, rest) => (.not p, rest)
      else simple ts
    | _ => simple ts

/-- Reads a text as a search condition; the fuel is enough for one level of brackets a token. -/
def read (cs : List Char) : Option Condition :=
  (tokens cs).bind fun ts =>
    match parse (3 * ts.length + 3) .disjunction ts with
    | some (p, []) => some p
    | _ => none

example : (read "a=1 OR NOT (b='x''y' AND c IS NULL)".toList).isSome = true := by decide +kernel

/-! The rows that a condition selects. -/

section Rows

variable {N : Type} [LinearOrder N]

/-- What a row has in a column. -/
inductive Cell (N : Type)
  | null
  | number (n : N)
  | text (s : List Char)

variable (num : List Char → N) (row : List Char → Cell N)

def Operand.value : Operand → Cell N
  | .column name => row name
  | .number n => .number (num n)
  | .text s => .text s

def Comparison.holds : Comparison → Ordering → Bool
  | .eq, o => o = .eq
  | .ne, o => o ≠ .eq
  | .lt, o => o = .lt
  | .le, o => o ≠ .gt
  | .gt, o => o = .gt
  | .ge, o => o ≠ .lt

/-- A comparison with nothing, or of a number with a text, is unknown. -/
def compareCells (op : Comparison) : Cell N → Cell N → Option Bool
  | .number a, .number b => some (op.holds (cmp a b))
  | .text s, .text t => some (op.holds (if s = t then .eq else if s < t then .lt else .gt))
  | _, _ => none

/-- The truth of a condition in a row, in three values. -/
def Condition.truth : Condition → Option Bool
  | .compare op left right => compareCells op (left.value num row) (right.value num row)
  | .isNull o =>
    match o.value num row with
    | .null => some true
    | _ => some false
  | .not p => p.truth.map (!·)
  | .and p q =>
    match p.truth, q.truth with
    | some false, _ | _, some false => some false
    | some true, some true => some true
    | _, _ => none
  | .or p q =>
    match p.truth, q.truth with
    | some true, _ | _, some true => some true
    | some false, some false => some false
    | _, _ => none

def Selects (p : Condition) : Prop := p.truth num row = some true

theorem compareCells_eq_iff {a b : Cell N} (hb : b ≠ .null) :
    compareCells .eq a b = some true ↔ a = b := by
  cases a with
  | null => simpa [compareCells] using hb.symm
  | number a =>
    cases b with
    | number b => simp [compareCells, Comparison.holds, cmp_eq_eq_iff]
    | null | text => simp [compareCells]
  | text s =>
    cases b with
    | text t =>
      by_cases hst : s = t
      · simp [compareCells, Comparison.holds, hst]
      · by_cases hlt : s < t
        · simp [compareCells, Comparison.holds, hst, hlt]
        · simp [compareCells, Comparison.holds, hst, hlt]
    | null | number => simp [compareCells]

end Rows

/-! How the tokens of an equality are scanned. -/

section Scan

/-- A text with its quotes doubled. -/
def double (s : List Char) : List Char := s.flatMap fun c => if c = '\'' then ['\'', '\''] else [c]

theorem scan_word {cs : List Char} (h : cs.all isWordChar = true) (read rest : List Char) :
    scan (.word read) (cs ++ rest) = scan (.word (cs.reverse ++ read)) rest := by
  induction cs generalizing read with
  | nil => rfl
  | cons c cs ih =>
    rw [List.all_cons, Bool.and_eq_true] at h
    rw [List.cons_append, scan, step, if_pos h.1, Option.bind_some, ih h.2]
    simp

theorem scan_number {cs : List Char} (h : cs.all isNumeralChar = true) (read : List Char) :
    scan (.number read) cs = finish (.number (cs.reverse ++ read)) := by
  induction cs generalizing read with
  | nil => rfl
  | cons c cs ih =>
    rw [List.all_cons, Bool.and_eq_true] at h
    rw [scan, step, if_pos h.1, Option.bind_some, ih h.2]
    simp

theorem scan_text (s read rest : List Char) :
    scan (.quoted read) (double s ++ '\'' :: rest) = scan (.closing (s.reverse ++ read)) rest := by
  induction s generalizing read with
  | nil => simp [double, scan, step]
  | cons c s ih =>
    by_cases hc : c = '\''
    · subst hc
      have hdouble : double ('\'' :: s) = '\'' :: '\'' :: double s := rfl
      simp [hdouble, scan, step, ih, Function.comp_def]
    · have hdouble : double (c :: s) = c :: double s := by
        unfold double
        rw [List.flatMap_cons, if_neg hc]
        rfl
      simp [hdouble, scan, step, hc, ih]

/-- The name of an equality's column is scanned first. -/
theorem tokens_equality {f : List Char} (h : isWord f = true) (cs : List Char) :
    tokens (f ++ '=' :: cs) = (tokens cs).map ([.word f, .mark '='] ++ ·) := by
  cases f with
  | nil => cases h
  | cons c f =>
    simp only [isWord, decide_eq_true_eq] at h
    have hstart : start c = some (.word [c], []) := by
      have hblank : c ∉ [' ', '\t', '\n', '\r'] := by
        intro hmem
        have hletters : [' ', '\t', '\n', '\r'].any isLetter = false := by decide
        exact List.any_eq_false.mp hletters c hmem h.1
      rw [start, if_neg hblank, if_pos h.1]
    rw [tokens, List.cons_append, scan, step, hstart, Option.bind_some, scan_word h.2]
    have hturn : step (.word (f.reverse ++ [c])) '=' =
        some (.blank, [.word (c :: f), .mark '=']) := by
      have hmark : isWordChar '=' = false := by decide
      simp [step, hmark, turn, finish, start, isLetter, isNumeralChar, marks]
    simp only [scan, hturn, Option.bind_some, tokens, List.nil_append, Option.map_id']

theorem tokens_quoted (s : List Char) : tokens ('\'' :: double s ++ ['\'']) = some [.text s] := by
  have hstart : start '\'' = some (.quoted [], []) := rfl
  rw [tokens, List.cons_append, scan, step, hstart, Option.bind_some, scan_text]
  simp [scan, finish]

theorem isLetter_of_isDigit {c : Char} (h : c.isDigit = true) : isLetter c = false := by
  have hunderscore : c ≠ '_' := by
    rintro rfl
    exact absurd h (by decide)
  have halpha : c.isAlpha = false := by
    simp only [Char.isDigit, Bool.and_eq_true, decide_eq_true_eq, UInt32.le_iff_toNat_le] at h
    simp only [Char.isAlpha, Char.isUpper, Char.isLower, Bool.or_eq_false_iff,
      Bool.and_eq_false_iff, decide_eq_false_iff_not, UInt32.le_iff_toNat_le]
    simp at h ⊢
    omega
  simp [isLetter, hunderscore, halpha]

theorem isNumeralChar_of_isDigit {c : Char} (h : c.isDigit = true) : isNumeralChar c = true :=
  decide_eq_true (Or.inl h)

theorem all_of_unsigned {cs : List Char} (h : (unsigned cs).all isNumeralChar = true) :
    cs.all isNumeralChar = true := by
  unfold unsigned at h
  split at h
  · simpa [isNumeralChar] using h
  · simpa [isNumeralChar] using h
  · exact h

theorem all_takeWhile_isDigit (cs : List Char) :
    (cs.takeWhile Char.isDigit).all isNumeralChar = true := by
  rw [List.all_eq_true]
  exact fun c hc => isNumeralChar_of_isDigit (List.mem_takeWhile_imp hc)

theorem all_of_isExponent {cs : List Char} (h : isExponent cs = true) :
    cs.all isNumeralChar = true := by
  cases cs with
  | nil => rfl
  | cons c cs =>
    simp only [isExponent, decide_eq_true_eq] at h
    have hdigits : (unsigned cs).all isNumeralChar = true := by
      rw [List.all_eq_true] at h ⊢
      exact fun c hc => isNumeralChar_of_isDigit (h.2.2 c hc)
    rw [List.all_cons, all_of_unsigned hdigits, Bool.and_true]
    rcases h.1 with rfl | rfl
    · decide
    · decide

theorem all_of_isNumeral {cs : List Char} (h : isNumeral cs = true) :
    cs.all isNumeralChar = true := by
  apply all_of_unsigned
  rw [← List.takeWhile_append_dropWhile (p := Char.isDigit) (l := unsigned cs), List.all_append,
    all_takeWhile_isDigit, Bool.true_and]
  unfold isNumeral at h
  simp only at h
  split at h
  · rename_i rest hrest
    simp only [decide_eq_true_eq] at h
    rw [hrest, List.all_cons, ← List.takeWhile_append_dropWhile (p := Char.isDigit) (l := rest),
      List.all_append, all_takeWhile_isDigit, all_of_isExponent h.2]
    decide
  · simp only [decide_eq_true_eq] at h
    exact all_of_isExponent h.2

/-- A numeral starts with a digit, a dot or a sign. -/
theorem start_of_isNumeral {c : Char} {cs : List Char} (h : isNumeral (c :: cs) = true) :
    start c = some (.number [c], []) := by
  have hstart : isNumeralChar c = true → isLetter c = false →
      c ∉ [' ', '\t', '\n', '\r'] → start c = some (.number [c], []) := by
    intro hchar hletter hblank
    rw [start, if_neg hblank, hletter, if_neg Bool.false_ne_true, if_pos hchar]
  by_cases hsign : c = '+' ∨ c = '-' ∨ c = '.'
  · rcases hsign with rfl | rfl | rfl
    · rfl
    · rfl
    · rfl
  · rw [not_or, not_or] at hsign
    have hunsigned : unsigned (c :: cs) = c :: cs := by
      unfold unsigned
      split
      · exact absurd (List.cons.inj ‹_›).1 hsign.1
      · exact absurd (List.cons.inj ‹_›).1 hsign.2.1
      · rfl
    have hdigit : c.isDigit = true := by
      by_contra hdigit
      unfold isNumeral at h
      simp only [hunsigned, List.takeWhile_cons_of_neg hdigit, List.dropWhile_cons_of_neg hdigit] at h
      split at h
      · exact hsign.2.2 (List.cons.inj ‹_›).1
      · simp at h
    refine hstart (isNumeralChar_of_isDigit hdigit) (isLetter_of_isDigit hdigit) fun hmem => ?_
    have hblanks : [' ', '\t', '\n', '\r'].any Char.isDigit = false := by decide
    exact List.any_eq_false.mp hblanks c hmem hdigit

theorem tokens_number {n : List Char} (h : isNumeral n = true) : tokens n = some [.number n] := by
  cases n with
  | nil => cases h
  | cons c n =>
    have hall := all_of_isNumeral h
    rw [List.all_cons, Bool.and_eq_true] at hall
    have hread : (n.reverse ++ [c]).reverse = c :: n := by simp
    rw [tokens, scan, step, start_of_isNumeral h, Option.bind_some, scan_number hall.2, finish,
      hread, if_pos h]
    rfl

end Scan

/-! What the tokens of a text can be. -/

section Tokens

/-- A well-formed token of at most `size` characters, as far as it is a text. -/
def Token.Fits (size : ℕ) : Token → Prop
  | .word w => isWord w = true
  | .number n => isNumeral n = true
  | .text s => (double s).length + 2 ≤ size
  | .mark _ => True

/-- A scanner whose text, if it reads one, has taken at most `size` characters so far. -/
def Mode.Fits (size : ℕ) : Mode → Prop
  | .blank | .number _ => True
  | .word read => isWord read.reverse = true
  | .quoted read => (double read).length + 1 ≤ size
  | .closing read => (double read).length + 2 ≤ size

theorem Token.Fits.mono {size size' : ℕ} (hle : size ≤ size') {t : Token} (h : t.Fits size) :
    t.Fits size' := by
  cases t with
  | text s => exact le_trans h hle
  | _ => exact h

theorem Mode.Fits.mono {size size' : ℕ} (hle : size ≤ size') {mode : Mode} (h : mode.Fits size) :
    mode.Fits size' := by
  cases mode with
  | quoted read => exact le_trans h hle
  | closing read => exact le_trans h hle
  | _ => exact h

theorem isWord_append {w : List Char} {c : Char} (h : isWord w = true) (hc : isWordChar c = true) :
    isWord (w ++ [c]) = true := by
  cases w with
  | nil => cases h
  | cons d w =>
    simp only [isWord, decide_eq_true_eq] at h
    simp [isWord, h, hc]

theorem length_double_cons (c : Char) (s : List Char) :
    (double (c :: s)).length = (double s).length + if c = '\'' then 2 else 1 := by
  unfold double
  rw [List.flatMap_cons, List.length_append]
  split
  · exact Nat.add_comm _ _
  · exact Nat.add_comm _ _

theorem length_double_reverse (s : List Char) : (double s.reverse).length = (double s).length := by
  unfold double
  rw [List.length_flatMap, List.length_flatMap, List.map_reverse, List.sum_reverse]

theorem length_le_double (s : List Char) : s.length ≤ (double s).length := by
  induction s with
  | nil => exact le_rfl
  | cons c s ih =>
    rw [length_double_cons, List.length_cons]
    split
    · omega
    · omega

theorem fits_start {c : Char} {mode : Mode} {ts : List Token} (h : start c = some (mode, ts)) :
    mode.Fits 1 ∧ ∀ t ∈ ts, t.Fits 0 := by
  have hok : ∀ t ∈ [Token.mark c], t.Fits 0 := by simp [Token.Fits]
  unfold start at h
  split at h
  · obtain ⟨rfl, rfl⟩ := Prod.mk.inj (Option.some.inj h)
    exact ⟨trivial, nofun⟩
  split at h
  · obtain ⟨rfl, rfl⟩ := Prod.mk.inj (Option.some.inj h)
    exact ⟨by simp [Mode.Fits, isWord, *], nofun⟩
  split at h
  · obtain ⟨rfl, rfl⟩ := Prod.mk.inj (Option.some.inj h)
    exact ⟨trivial, nofun⟩
  split at h
  · obtain ⟨rfl, rfl⟩ := Prod.mk.inj (Option.some.inj h)
    exact ⟨le_rfl, nofun⟩
  split at h
  · obtain ⟨rfl, rfl⟩ := Prod.mk.inj (Option.some.inj h)
    exact ⟨trivial, hok⟩
  · cases h

theorem fits_finish {size : ℕ} {mode : Mode} {ts : List Token} (hmode : mode.Fits size)
    (h : finish mode = some ts) : ∀ t ∈ ts, t.Fits size := by
  cases mode with
  | blank =>
    obtain rfl := Option.some.inj h
    exact nofun
  | word read =>
    obtain rfl := Option.some.inj h
    intro t ht
    obtain rfl := List.mem_singleton.mp ht
    exact hmode
  | number read =>
    simp only [finish] at h
    split at h
    · obtain rfl := Option.some.inj h
      intro t ht
      obtain rfl := List.mem_singleton.mp ht
      assumption
    · cases h
  | quoted read => cases h
  | closing read =>
    obtain rfl := Option.some.inj h
    intro t ht
    obtain rfl := List.mem_singleton.mp ht
    simp only [Token.Fits, Mode.Fits, length_double_reverse] at hmode ⊢
    exact hmode

theorem fits_turn {size : ℕ} {mode mode' : Mode} {c : Char} {ts : List Token}
    (hmode : mode.Fits size) (h : turn mode c = some (mode', ts)) :
    mode'.Fits (size + 1) ∧ ∀ t ∈ ts, t.Fits size := by
  obtain ⟨ended, hended, hnext⟩ := Option.bind_eq_some_iff.mp h
  obtain ⟨⟨mode'', started⟩, hstart, heq⟩ := Option.map_eq_some_iff.mp hnext
  obtain ⟨rfl, rfl⟩ := Prod.mk.inj heq
  obtain ⟨hnew, hstarted⟩ := fits_start hstart
  refine ⟨?_, fun t ht => ?_⟩
  · exact hnew.mono (by omega)
  · rcases List.mem_append.mp ht with ht | ht
    · exact fits_finish hmode hended t ht
    · exact (hstarted t ht).mono (Nat.zero_le size)

theorem fits_step {size : ℕ} {mode mode' : Mode} {c : Char} {ts : List Token}
    (hmode : mode.Fits size) (h : step mode c = some (mode', ts)) :
    mode'.Fits (size + 1) ∧ ∀ t ∈ ts, t.Fits size := by
  cases mode with
  | blank =>
    obtain ⟨hnew, hstarted⟩ := fits_start h
    exact ⟨hnew.mono (by omega), fun t ht => (hstarted t ht).mono (Nat.zero_le size)⟩
  | word read =>
    simp only [step] at h
    split at h
    · obtain ⟨rfl, rfl⟩ := Prod.mk.inj (Option.some.inj h)
      refine ⟨?_, nofun⟩
      simp only [Mode.Fits, List.reverse_cons] at hmode ⊢
      exact isWord_append hmode ‹_›
    · exact fits_turn hmode h
  | number read =>
    simp only [step] at h
    split at h
    · obtain ⟨rfl, rfl⟩ := Prod.mk.inj (Option.some.inj h)
      exact ⟨trivial, nofun⟩
    · exact fits_turn hmode h
  | quoted read =>
    simp only [step] at h
    split at h
    · obtain ⟨rfl, rfl⟩ := Prod.mk.inj (Option.some.inj h)
      exact ⟨Nat.succ_le_succ hmode, nofun⟩
    · obtain ⟨rfl, rfl⟩ := Prod.mk.inj (Option.some.inj h)
      refine ⟨?_, nofun⟩
      simp only [Mode.Fits, length_double_cons] at hmode ⊢
      split
      · contradiction
      · omega
  | closing read =>
    simp only [step] at h
    split at h
    · obtain ⟨rfl, rfl⟩ := Prod.mk.inj (Option.some.inj h)
      refine ⟨?_, nofun⟩
      simp only [Mode.Fits, length_double_cons, if_pos] at hmode ⊢
      omega
    · exact fits_turn hmode h

theorem fits_scan {size : ℕ} {mode : Mode} {cs : List Char} {ts : List Token}
    (hmode : mode.Fits size) (h : scan mode cs = some ts) :
    ∀ t ∈ ts, t.Fits (size + cs.length) := by
  induction cs generalizing size mode ts with
  | nil => exact fits_finish hmode h
  | cons c cs ih =>
    obtain ⟨⟨mode', first⟩, hstep, hrest⟩ := Option.bind_eq_some_iff.mp h
    obtain ⟨rest, hscan, rfl⟩ := Option.map_eq_some_iff.mp hrest
    obtain ⟨hmode', hfirst⟩ := fits_step hmode hstep
    intro t ht
    rw [List.length_cons]
    rcases List.mem_append.mp ht with ht | ht
    · exact (hfirst t ht).mono (by omega)
    · exact (ih hmode' hscan t ht).mono (by omega)

theorem fits_tokens {cs : List Char} {ts : List Token} (h : tokens cs = some ts) :
    ∀ t ∈ ts, t.Fits cs.length := by
  have hblank : Mode.blank.Fits 0 := trivial
  have hfits := fits_scan hblank h
  rwa [Nat.zero_add] at hfits

end Tokens

/-! What the conditions of a text can be made of. -/

section Parse

def Condition.operands : Condition → List Operand
  | .compare _ left right => [left, right]
  | .isNull o => [o]
  | .not p => p.operands
  | .and p q => p.operands ++ q.operands
  | .or p q => p.operands ++ q.operands

/-- The operands of a condition are tokens of the list, and what follows it is a part of the list. -/
def Within (ts : List Token) (p : Condition) (rest : List Token) : Prop :=
  (∀ o ∈ p.operands, ∃ t ∈ ts, operand t = some o) ∧ rest ⊆ ts

theorem Within.mono {ts ts' rest : List Token} {p : Condition} (h : Within ts p rest)
    (hsub : ts ⊆ ts') : Within ts' p rest :=
  ⟨fun o ho => (h.1 o ho).imp fun _ ht => ⟨hsub ht.1, ht.2⟩, List.Subset.trans h.2 hsub⟩

theorem comparison_subset {ts rest : List Token} {op : Comparison}
    (h : comparison ts = some (op, rest)) : rest ⊆ ts := by
  unfold comparison at h
  split at h <;> cases h <;> intro t ht <;> simp [ht]

theorem nullTest_within {o : Operand} {ts rest : List Token} {p : Condition}
    (h : nullTest o ts = some (p, rest)) : p.operands = [o] ∧ rest ⊆ ts := by
  unfold nullTest at h
  split at h
  · split at h
    · obtain ⟨rfl, rfl⟩ := Prod.mk.inj (Option.some.inj h)
      exact ⟨rfl, fun t ht => by simp [ht]⟩
    · split at h
      · split at h
        · obtain ⟨rfl, rfl⟩ := Prod.mk.inj (Option.some.inj h)
          exact ⟨rfl, fun t ht => by simp [ht]⟩
        · cases h
      · cases h
  · cases h

theorem simple_within {ts rest : List Token} {p : Condition} (h : simple ts = some (p, rest)) :
    Within ts p rest := by
  cases ts with
  | nil => cases h
  | cons t ts =>
    obtain ⟨left, hleft, hop⟩ := Option.bind_eq_some_iff.mp h
    cases hc : comparison ts with
    | none =>
      rw [hc] at hop
      obtain ⟨hoperands, hsub⟩ := nullTest_within hop
      refine ⟨fun o ho => ?_, fun t' ht' => List.mem_cons_of_mem t (hsub ht')⟩
      rw [hoperands, List.mem_singleton] at ho
      exact ⟨t, List.mem_cons_self, ho ▸ hleft⟩
    | some next =>
      obtain ⟨op, ts'⟩ := next
      rw [hc] at hop
      have hsub := comparison_subset hc
      cases ts' with
      | nil => cases hop
      | cons t' rest' =>
        obtain ⟨right, hright, heq⟩ := Option.map_eq_some_iff.mp hop
        obtain ⟨rfl, rfl⟩ := Prod.mk.inj heq
        refine ⟨fun o ho => ?_, fun u hu =>
          List.mem_cons_of_mem t (hsub (List.mem_cons_of_mem t' hu))⟩
        simp only [Condition.operands, List.mem_cons, List.not_mem_nil, or_false] at ho
        rcases ho with rfl | rfl
        · exact ⟨t, List.mem_cons_self, hleft⟩
        · exact ⟨t', List.mem_cons_of_mem t (hsub List.mem_cons_self), hright⟩

theorem chain_within {key : String} {join : Condition → Condition → Condition}
    {next : List Token → Option (Condition × List Token)} {p r : Condition} {ts ts' rest : List Token}
    (hjoin : ∀ p q, (join p q).operands = p.operands ++ q.operands)
    (hnext : ∀ {ts q rest}, next ts = some (q, rest) → Within ts q rest) (hp : Within ts p ts')
    (h : chain key join next p ts' = some (r, rest)) : Within ts r rest := by
  unfold chain at h
  split at h
  · split at h
    · obtain ⟨⟨q, rest'⟩, hq, heq⟩ := Option.map_eq_some_iff.mp h
      obtain ⟨rfl, rfl⟩ := Prod.mk.inj heq
      have hafter := (hnext hq).mono (List.Subset.trans (List.subset_cons_self _ _) hp.2)
      refine ⟨fun o ho => ?_, hafter.2⟩
      rw [hjoin, List.mem_append] at ho
      exact ho.elim (hp.1 o) (hafter.1 o)
    · obtain ⟨rfl, rfl⟩ := Prod.mk.inj (Option.some.inj h)
      exact hp
  · obtain ⟨rfl, rfl⟩ := Prod.mk.inj (Option.some.inj h)
    exact hp

theorem parse_within {n : ℕ} {level : Level} {ts rest : List Token} {p : Condition}
    (h : parse n level ts = some (p, rest)) : Within ts p rest := by
  induction n generalizing level ts rest p with
  | zero => cases h
  | succ n ih =>
    cases level with
    | disjunction =>
      obtain ⟨⟨first, ts'⟩, hfirst, hnext⟩ := Option.bind_eq_some_iff.mp h
      exact chain_within (fun _ _ => rfl) ih (ih hfirst) hnext
    | conjunction =>
      obtain ⟨⟨first, ts'⟩, hfirst, hnext⟩ := Option.bind_eq_some_iff.mp h
      exact chain_within (fun _ _ => rfl) ih (ih hfirst) hnext
    | negation =>
      simp only [parse] at h
      split at h
      · rename_i inside
        split at h
        · rename_i hinner
          obtain ⟨rfl, rfl⟩ := Prod.mk.inj (Option.some.inj h)
          have hwithin := (ih hinner).mono (List.subset_cons_self (.mark '(') inside)
          exact ⟨hwithin.1, fun t ht => hwithin.2 (List.mem_cons_of_mem _ ht)⟩
        · cases h
      · split at h
        · obtain ⟨⟨inner, rest'⟩, hinner, heq⟩ := Option.map_eq_some_iff.mp h
          obtain ⟨rfl, rfl⟩ := Prod.mk.inj heq
          exact (ih hinner).mono (List.subset_cons_self _ _)
        · exact simple_within h
      · exact simple_within h

theorem read_within {cs : List Char} {p : Condition} (h : read cs = some p) : ∃ ts,
    tokens cs = some ts ∧ ∀ o ∈ p.operands, ∃ t ∈ ts, operand t = some o := by
  obtain ⟨ts, hts, hparse⟩ := Option.bind_eq_some_iff.mp h
  refine ⟨ts, hts, ?_⟩
  split at hparse
  · rename_i hp
    obtain rfl := Option.some.inj hparse
    exact (parse_within hp).1
  · cases hparse

end Parse

/-! Equalities between a column and a literal. -/

section Equality

/-- A literal that denotes the value written as `s`. -/
def Operand.Spells (s : List Char) : Operand → Prop
  | .column _ => False
  | .number n => n = s
  | .text content => content = s

theorem read_equality {f cs : List Char} {t : Token} {o : Operand} (hf : IsName f)
    (hcs : tokens cs = some [t]) (ho : operand t = some o) :
    read (f ++ '=' :: cs) = some (.compare .eq (.column f) o) := by
  have htokens : tokens (f ++ '=' :: cs) = some [.word f, .mark '=', t] := by
    rw [tokens_equality hf.1, hcs]
    rfl
  have hnot : isKey "NOT" f = false := by
    have hkeyword := hf.2
    simp only [isKeyword, keywords, List.any_cons, Bool.or_eq_false_iff] at hkeyword
    exact hkeyword.2.2.1
  have hcolumn : operand (.word f) = some (.column f) := by
    rw [operand, hf.2]
    rfl
  have hsimple : simple [.word f, .mark '=', t] = some (.compare .eq (.column f) o, []) := by
    simp [simple, hcolumn, comparison, ho]
  have hnegation (n : ℕ) : parse (n + 1) .negation [.word f, .mark '=', t] =
      some (.compare .eq (.column f) o, []) := by
    simp only [parse, hnot, Bool.false_eq_true, if_false, hsimple]
  have hconjunction (n : ℕ) : parse (n + 2) .conjunction [.word f, .mark '=', t] =
      some (.compare .eq (.column f) o, []) := by
    rw [parse, hnegation]
    rfl
  have hdisjunction (n : ℕ) : parse (n + 3) .disjunction [.word f, .mark '=', t] =
      some (.compare .eq (.column f) o, []) := by
    rw [parse, hconjunction]
    rfl
  rw [read, htokens, Option.bind_some, hdisjunction]

/-- The operand of a literal is a token of its own. -/
theorem eq_of_operand {t : Token} {o : Operand} (h : operand t = some o) :
    (∀ f, o = .column f → t = .word f ∧ isKeyword f = false) ∧ (∀ n, o = .number n → t = .number n) ∧
      ∀ s, o = .text s → t = .text s := by
  cases t with
  | word w =>
    simp only [operand] at h
    split at h
    · cases h
    · obtain rfl := Option.some.inj h
      refine ⟨fun f hf => ?_, nofun, nofun⟩
      obtain rfl := Operand.column.inj hf
      exact ⟨rfl, Bool.eq_false_iff.mpr ‹_›⟩
  | number n =>
    obtain rfl := Option.some.inj h
    exact ⟨nofun, fun m hm => by rw [Operand.number.inj hm], nofun⟩
  | text s =>
    obtain rfl := Option.some.inj h
    exact ⟨nofun, nofun, fun m hm => by rw [Operand.text.inj hm]⟩
  | mark c => cases h

theorem isName_of_read {cs f : List Char} {p : Condition} (h : read cs = some p)
    (hf : .column f ∈ p.operands) : IsName f := by
  obtain ⟨ts, hts, hoperands⟩ := read_within h
  obtain ⟨t, ht, ho⟩ := hoperands _ hf
  obtain ⟨rfl, hkeyword⟩ := (eq_of_operand ho).1 f rfl
  exact ⟨fits_tokens hts _ ht, hkeyword⟩

/-- A text in quotes is read as the text, whatever it holds. -/
theorem read_quoted_iff (f s : List Char) :
    (∃ o, read (f ++ '=' :: ('\'' :: double s ++ ['\''])) = some (.compare .eq (.column f) o) ∧
      o.Spells s) ↔ IsName f := by
  constructor
  · rintro ⟨o, hread, -⟩
    exact isName_of_read hread List.mem_cons_self
  · exact fun hf => ⟨.text s, read_equality hf (tokens_quoted s) rfl, rfl⟩

/-- A text without quotes is read as the value that it spells exactly when that is a numeral. -/
theorem read_bare_iff {f s cs : List Char} (hlen : cs.length ≤ (double s).length)
    (hsame : isNumeral s = true → cs = s) :
    (∃ o, read (f ++ '=' :: cs) = some (.compare .eq (.column f) o) ∧ o.Spells s) ↔
      IsName f ∧ isNumeral s = true := by
  constructor
  · rintro ⟨o, hread, hspells⟩
    have hf := isName_of_read hread List.mem_cons_self
    obtain ⟨ts, hts, hoperands⟩ := read_within hread
    obtain ⟨t, ht, ho⟩ := hoperands o (List.mem_cons_of_mem _ List.mem_cons_self)
    rw [tokens_equality hf.1] at hts
    obtain ⟨rest, hrest, rfl⟩ := Option.map_eq_some_iff.mp hts
    have hfits (hmem : t ∈ rest) : t.Fits cs.length := fits_tokens hrest t hmem
    refine ⟨hf, ?_⟩
    cases o with
    | column g => exact hspells.elim
    | number n =>
      obtain rfl := (eq_of_operand ho).2.1 n rfl
      obtain rfl : n = s := hspells
      exact hfits (by simpa using ht)
    | text content =>
      obtain rfl := (eq_of_operand ho).2.2 content rfl
      obtain rfl : content = s := hspells
      have hsize : (double content).length + 2 ≤ cs.length := hfits (by simpa using ht)
      omega
  · rintro ⟨hf, hs⟩
    rw [hsame hs]
    exact ⟨.number s, read_equality hf (tokens_number hs) rfl, rfl⟩

/-- A numeral has no quotes to double. -/
theorem double_numeral {s : List Char} (h : isNumeral s = true) : double s = s := by
  have hall := all_of_isNumeral h
  rw [List.all_eq_true] at hall
  have hquote : ∀ c ∈ s, c ≠ '\'' := by
    rintro c hc rfl
    exact absurd (hall _ hc) (by decide)
  clear h hall
  induction s with
  | nil => rfl
  | cons c s ih =>
    have hrest := ih fun d hd => hquote d (List.mem_cons_of_mem c hd)
    unfold double at hrest ⊢
    rw [List.flatMap_cons, if_neg (hquote c List.mem_cons_self), hrest]
    rfl

variable {N : Type} [LinearOrder N] (num : List Char → N)

/-- The cell that a literal denotes. -/
def Operand.cell : Operand → Option (Cell N)
  | .column _ => none
  | .number n => some (.number (num n))
  | .text s => some (.text s)

/-- An equality with a literal selects the rows that have its value, and no others. -/
theorem selects_equality_iff {f s : List Char} {o : Operand} (ho : o.Spells s)
    (row : List Char → Cell N) :
    Selects num row (.compare .eq (.column f) o) ↔ o.cell num = some (row f) := by
  cases o with
  | column => exact ho.elim
  | number n =>
    have hcell : Cell.number (num n) ≠ .null := nofun
    exact (compareCells_eq_iff hcell).trans
      ⟨fun h => congrArg some h.symm, fun h => (Option.some.inj h).symm⟩
  | text content =>
    have hcell : (Cell.text content : Cell N) ≠ .null := nofun
    exact (compareCells_eq_iff hcell).trans
      ⟨fun h => congrArg some h.symm, fun h => (Option.some.inj h).symm⟩

end Equality

end Sql
end ResearchEngine
