import ResearchEngine.SitusFields

/-! Comparing the searched address with a parcel's situs: the house number and the
significant street words. -/
namespace ResearchEngine
namespace Situs

open PyText

section Address

variable [PyText]

/-- `(addr or "").split(",")[0].strip()` -/
def firstPart (addr : String) : String := strip ((splitOn ',' addr).headD "")

/-- `_house`: the leading number, else the trailing one. -/
def house (addr : String) : String :=
  let a := (firstPart addr).toList
  let leading := (a.dropWhile isSpace).takeWhile isDecimal
  if leading ≠ [] then String.ofList leading
  else String.ofList ((a.reverse.dropWhile isSpace).takeWhile isDecimal).reverse

/-- `_SUFFIX` -/
def suffixes : List String :=
  ["AVE", "AVENUE", "ST", "STREET", "RD", "ROAD", "DR", "DRIVE", "LN", "LANE", "BLVD", "BOULEVARD",
    "CT", "COURT", "CIR", "CIRCLE", "PL", "PLACE", "WAY", "TER", "TERRACE", "HWY", "HIGHWAY", "PKWY",
    "PARKWAY", "TRL", "TRAIL", "LOOP", "RUN", "PASS", "PT", "POINT", "SQ", "SQUARE", "PATH", "XING",
    "CV", "COVE", "BND", "BEND", "ROW", "WALK", "PLZ", "PLAZA"]

/-- `_DIR` -/
def directionals : List String :=
  ["N", "S", "E", "W", "NE", "NW", "SE", "SW", "NORTH", "SOUTH", "EAST", "WEST"]

/-- `^\d+[A-Za-z]?$` on a token, which has no white space. -/
def isHouseToken (t : String) : Bool :=
  t.toList.takeWhile isDecimal ≠ [] &&
    match t.toList.dropWhile isDecimal with
    | [] => true
    | [c] => c.isAlpha
    | _ => false

/-- `^\d+$` on a token. -/
def isNumberToken (t : String) : Bool := t ≠ "" ∧ t.toList.all isDecimal

/-- The ASCII letters and digits of a token, in upper case. -/
def cleanToken (t : String) : String :=
  String.ofList ((t.toList.filter Char.isAlphanum).map Char.toUpper)

/-- `_street_tokens` -/
def streetTokens (addr : String) : List String :=
  let toks := words (firstPart addr)
  let toks := if toks.head?.any isHouseToken then toks.tail else toks
  let toks := if toks.getLast?.any isNumberToken then toks.dropLast else toks
  (toks.map cleanToken).filter fun t => t ≠ "" ∧ t ∉ suffixes ∧ t ∉ directionals

/-- `_addr_match`; `none` when there is not enough to compare. -/
def addrMatch (search situs : String) : Option Bool :=
  let sh := house search
  let ch := house situs
  if sh = "" ∨ ch = "" then none
  else if sh ≠ ch then some false
  else
    let st := streetTokens search
    let ct := streetTokens situs
    if st ≠ [] ∧ ct ≠ [] then some (st.any (· ∈ ct)) else some true

/-- What a positive match says about the two addresses. -/
theorem addrMatch_eq_true_iff (search situs : String) :
    addrMatch search situs = some true ↔
      house search ≠ "" ∧ house search = house situs ∧
        (streetTokens search ≠ [] → streetTokens situs ≠ [] →
          ∃ t ∈ streetTokens search, t ∈ streetTokens situs) := by
  unfold addrMatch
  simp only
  split
  · rename_i h
    refine iff_of_false (by simp) ?_
    rintro ⟨hs, hc, -⟩
    rcases h with h | h
    · exact hs h
    · exact hs (hc.trans h)
  · rename_i h
    obtain ⟨hs, -⟩ := not_or.mp h
    split
    · rename_i hne
      exact iff_of_false (by simp) fun hm => hne hm.2.1
    · rename_i heq
      have heq : house search = house situs := not_not.mp heq
      split
      · rename_i hboth
        have hch : house situs ≠ "" := heq ▸ hs
        simp [heq, hboth.1, hboth.2, hch]
      · rename_i hone
        refine iff_of_true rfl ⟨hs, heq, fun hst hct => ?_⟩
        exact absurd ⟨hst, hct⟩ hone

end Address

section Concrete

open scoped PyText.Ascii

example : addrMatch "526 Hampton Ave, Tampa" "526 HAMPTON AVENUE" = some true := by decide +kernel

example : addrMatch "526 Hampton Ave" "N ROYAL ST 526" = some false := by decide +kernel

end Concrete

end Situs
end ResearchEngine
