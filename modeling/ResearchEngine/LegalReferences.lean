import ResearchEngine.Regex
import ResearchEngine.PyText

/-! The references of a legal text: plat book and page, official records book and page, and the
name of the subdivision. -/
namespace ResearchEngine
namespace Legal

open PyText

section Patterns

variable [PyText]

/-- A letter in either case. -/
def isLetter (l c : Char) : Bool := lower (String.singleton c) = String.singleton l

/-- `\w` -/
def isWord (c : Char) : Bool := isAlnum c ∨ c = '_'

def letter (l : Char) : Regex := .one (isLetter l)

/-- A word in either case. -/
def word (w : String) : Regex := .all (w.toList.map letter)

def isDot (c : Char) : Bool := c = '.'

def dot : Regex := .opt (.one isDot)

def spaces : Regex := .star isSpace

def number (n : ℕ) : Regex := .group n (.plus isDecimal)

/-- `\bP\.?\s?B\.?\s*(\d+)` -/
def bookPattern : Regex :=
  .all [.boundary isWord, letter 'p', dot, .opt (.one isSpace), letter 'b', dot, spaces, number 1]

/-- `PLAT\s*BOOK\s*(\d+)` -/
def platBookPattern : Regex := .all [word "plat", spaces, word "book", spaces, number 1]

/-- `G|AGE` -/
def pageLetters : Regex := .alt (letter 'g') (word "age")

/-- `\.?\s*(\d+)` -/
def pageNumber (n : ℕ) : Regex := .all [dot, spaces, number n]

/-- `\bP(?:G|AGE)\.?\s*(\d+)` -/
def pagePattern : Regex := .all [.boundary isWord, letter 'p', pageLetters, pageNumber 1]

/-- `\s*[,/]?\s*` -/
def pairGap : Regex := .all [spaces, .opt (.one fun c => c = ',' ∨ c = '/'), spaces]

/-- `P(?:G|AGE)?\.?\s*(\d+)` -/
def pairPage : Regex := .all [letter 'p', .opt pageLetters, pageNumber 2]

/-- `\bP\.?\s?B\.?\s*(\d+)\s*[,/]?\s*P(?:G|AGE)?\.?\s*(\d+)` -/
def pairPattern : Regex := .seq bookPattern (.seq pairGap pairPage)

/-- A group of a match. -/
def groupOf (m : Option Regex.Place) (n : ℕ) : Option String :=
  (m.bind fun e => e.group n).map String.ofList

/-- `_plat_ref` -/
def platRef (legal : String) : Option String × Option String :=
  let mb := (bookPattern.search legal.toList).or (platBookPattern.search legal.toList)
  let mp := pagePattern.search legal.toList
  (groupOf mb 1, groupOf mp 1)

/-- `_plat_ref_from_html` -/
def platRefFromHtml (html : String) : Option String × Option String :=
  let m := pairPattern.search html.toList
  (groupOf m 1, groupOf m 2)

/-- `\bO\.?\s?R\.?\s*(?:BOOK\s*)?(\d{2,6})\s*(?:/\s*(\d{1,6})|(?:PG|PAGE|P)\.?\s*(\d{1,6}))` -/
def orPattern : Regex :=
  .all [.boundary isWord, letter 'o', dot, .opt (.one isSpace), letter 'r', dot, spaces,
    .opt (.all [word "book", spaces]), .group 1 (.between isDecimal 2 4), spaces,
    .alt (.all [.one (· = '/'), spaces, .group 2 (.between isDecimal 1 5)])
      (.all [.alt (word "pg") (.alt (word "page") (letter 'p')), dot, spaces,
        .group 3 (.between isDecimal 1 5)])]

/-- `_or_ref` -/
def orRef (legal : String) : Option String × Option String :=
  match orPattern.search legal.toList with
  | none => (none, none)
  | some m => (groupOf (some m) 1, (groupOf (some m) 2).or (groupOf (some m) 3))

/-- `\b(BLK|BLOCK|LOT|LT|PB|P\s?B|PLAT|SEC|BEG)\b`, on a text in upper case. -/
def lotPattern : Regex :=
  let exactly := fun w : String => Regex.all (w.toList.map fun l => .one (· = l))
  .all [.boundary isWord,
    .alt (exactly "BLK") (.alt (exactly "BLOCK") (.alt (exactly "LOT") (.alt (exactly "LT")
      (.alt (exactly "PB") (.alt (.all [.one (· = 'P'), .opt (.one isSpace), .one (· = 'B')])
        (.alt (exactly "PLAT") (.alt (exactly "SEC") (exactly "BEG")))))))),
    .boundary isWord]

/-- `_subdivision` -/
def subdivision (legal : String) : String :=
  let text := (upper legal).toList
  let head := match lotPattern.searchAt text with
    | some (i, _) => text.take i
    | none => text
  strip (" ".intercalate ((words (String.ofList head)).take 6))

end Patterns

end Legal
end ResearchEngine
