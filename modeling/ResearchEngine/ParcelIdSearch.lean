import ResearchEngine.ConfirmedParcel
import ResearchEngine.ParcelQueries
import ResearchEngine.StableSort

/-! The search by parcel ID: the fields that may hold the ID, the clauses that ask for it one after
the other, and the first layer that answers. -/
namespace ResearchEngine
namespace Parcel

open PyText StableSort

/-- A feature: its attributes, and its centroid if it has one. -/
abbrev Feature := Attrs × Option (Value × Value)

section Fields

variable [PyText]

/-- `_ID_CANDIDATES` -/
def idCandidates : List String :=
  ["parcelid", "propid", "apn", "folio", "pin", "strap", "parno", "parcelnumb", "parcelnum",
    "parcelno", "geoid", "altkey", "span", "acct", "parcel", "propertyid"]

/-- `rank` in `_id_fields` -/
def idRank (n : String) : ℕ := idCandidates.findIdx fun c => contains (Situs.norm n) c

/-- `_id_fields`, for the field names of the layer's description. -/
def idFields (override : List String) (names : Except PyErr (List String)) : List String :=
  if override ≠ [] then override
  else
    match names with
    | .ok names => sortByRank idRank (names.filter fun n => Situs.hasAny idCandidates (Situs.norm n))
    | .error _ => []

end Fields

/-! Which request is answered. -/

section Requests

variable {F : Type} {ask : String → Except PyErr (List F)}

end Requests

/-! A layer as a table, whose service answers a condition with the rows that meet it. -/

/-- A parcel layer: its rows, the fields that are asked for an ID, and its query service. -/
structure Layer where
  rows : List Feature
  override : List String := []
  fieldNames : Except PyErr (List String)
  ask : String → Except PyErr (List Feature)

section Rows

variable {N : Type} [LinearOrder N] (num : List Char → N)

/-- What a row has in a column. -/
def column (attrs : Attrs) (name : List Char) : Sql.Cell N :=
  match attrs.get (String.ofList name) with
  | .str s => .text s.toList
  | .int n => .number (num (toString n).toList)
  | .float text _ => .number (num text.toList)
  | _ => .null

/-- The row meets the condition that the clause is read as. -/
def Where.Matches (c : Where) (attrs : Attrs) : Prop :=
  ∃ p, Sql.read c.text.toList = some p ∧ Sql.Selects num (column num attrs) p

/-- The service refuses a condition, or answers it with the rows that meet it, in some order. -/
def Layer.Serves (l : Layer) : Prop :=
  ∀ text p feats, Sql.read text.toList = some p → l.ask text = .ok feats →
    ∀ r, r ∈ feats ↔ r ∈ l.rows ∧ Sql.Selects num (column num r.1) p

variable [PyText]

/-- The row has the ID in the field, as a text or, where it is all digits, as a number. -/
def Carries (attrs : Attrs) (f v : String) : Prop :=
  column num attrs f.toList = .text v.toList ∨
    (allDigits v = true ∧ column num attrs f.toList = .number (num v.toList))

def Layer.fields (l : Layer) : List String := idFields l.override l.fieldNames

/-- `_query_by_id` on the layer. -/
def Layer.find (l : Layer) (parcelId : String) : Option Feature :=
  (queryById l.ask l.fields parcelId).2

variable {num} {l : Layer} {parcelId : String}

omit [PyText] in
/-- The rows that a clause with one literal selects. -/
theorem matches_iff {c : Where} {o : Sql.Operand} {v : List Char}
    (hread : Sql.read c.text.toList = some (.compare .eq (.column c.field.toList) o))
    (ho : o.Spells v) (attrs : Attrs) :
    c.Matches num attrs ↔ o.cell num = some (column num attrs c.field.toList) := by
  have hselects := Sql.selects_equality_iff (f := c.field.toList) num ho (column num attrs)
  constructor
  · rintro ⟨p, hp, hrow⟩
    obtain rfl := Option.some.inj (hread.symm.trans hp)
    exact hselects.mp hrow
  · exact fun hcell => ⟨_, hread, hselects.mpr hcell⟩

omit [PyText] in
theorem quotedWhere_matches {f : String} (hf : Sql.IsName f.toList) (v : String) (attrs : Attrs) :
    (quotedWhere f v).Matches num attrs ↔ column num attrs f.toList = .text v.toList := by
  have htext : (quotedWhere f v).text.toList =
      f.toList ++ '=' :: ('\'' :: Sql.double v.toList ++ ['\'']) := by
    simp [quotedWhere, escaped]
  have hread := Sql.read_equality hf (Sql.tokens_quoted v.toList) rfl
  rw [← htext] at hread
  refine (matches_iff (c := quotedWhere f v) hread rfl attrs).trans ?_
  rw [eq_comm]
  exact Option.some_inj

omit [PyText] in
theorem bareWhere_matches {f v : String} (hf : Sql.IsName f.toList)
    (hv : Sql.isNumeral v.toList = true) (attrs : Attrs) :
    (⟨f, v, f ++ "=" ++ v⟩ : Where).Matches num attrs ↔
      column num attrs f.toList = .number (num v.toList) := by
  have htext : (f ++ "=" ++ v).toList = f.toList ++ '=' :: v.toList := by simp
  have hread := Sql.read_equality hf (Sql.tokens_number hv) rfl
  rw [← htext] at hread
  refine (matches_iff (c := ⟨f, v, f ++ "=" ++ v⟩) hread rfl attrs).trans ?_
  rw [eq_comm]
  exact Option.some_inj

/-- Among the clauses for one spelling in one field, one is met by a row exactly when the row
carries the spelling in the field. -/
theorem variantWheres_matches {f v : String} (hf : Sql.IsName f.toList)
    (hv : allDigits v = true → Sql.isNumeral v.toList = true) (attrs : Attrs) :
    (∃ c ∈ variantWheres f v, c.Matches num attrs) ↔ Carries num attrs f v := by
  have hquoted : (quotedWhere f v).Matches num attrs ↔ _ := quotedWhere_matches hf v attrs
  unfold variantWheres Carries
  by_cases hdigits : allDigits v = true
  · have hbare : (⟨f, v, f ++ "=" ++ v⟩ : Where).Matches num attrs ↔ _ :=
      bareWhere_matches hf (hv hdigits) attrs
    simp [hdigits, hquoted, hbare]
  · simp [hdigits, hquoted]

theorem CleanIds.matches {fields : List String} (h : CleanIds fields parcelId) {f v : String}
    (hf : f ∈ fields) (hv : v ∈ idVariants parcelId) (attrs : Attrs) :
    (∃ c ∈ variantWheres f v, c.Matches num attrs) ↔ Carries num attrs f v :=
  variantWheres_matches (h f hf).1 ((h f hf).2 v hv) attrs

omit [PyText] in
theorem Layer.Serves.answers (h : l.Serves num) {c : Where} (hc : c.Exact) {feats : List Feature}
    (hok : l.ask c.text = .ok feats) (r : Feature) :
    r ∈ feats ↔ r ∈ l.rows ∧ c.Matches num r.1 := by
  obtain ⟨o, hread, -⟩ := hc
  rw [h _ _ _ hread hok]
  refine and_congr_right fun _ => ⟨fun hrow => ⟨_, hread, hrow⟩, ?_⟩
  rintro ⟨p, hp, hrow⟩
  obtain rfl := Option.some.inj (hread.symm.trans hp)
  exact hrow

/-- No row carries the ID in the field, but where the service refuses the question. -/
def Layer.LacksIn (num : List Char → N) (l : Layer) (parcelId f : String) : Prop :=
  ∀ r ∈ l.rows, ∀ v ∈ idVariants parcelId, Carries num r.1 f v →
    ∃ c ∈ variantWheres f v, ∃ e, l.ask c.text = .error e

/-- The row carries the ID in one of the layer's fields, and no row in an earlier one; where the
fields are found by their names, none of the later ones is stronger. -/
structure IdMatch (num : List Char → N) (l : Layer) (parcelId : String) (r : Feature) : Prop where
  row : r ∈ l.rows
  carries : ∃ pre f post, l.fields = pre ++ f :: post ∧
    (∃ v ∈ idVariants parcelId, Carries num r.1 f v) ∧
    (∀ g ∈ pre, l.LacksIn num parcelId g) ∧
    (l.override = [] → ∀ g ∈ post, idRank f ≤ idRank g)

end Rows

end Parcel

/-! A joined table adds what the parcel does not have, and changes nothing else. -/

namespace Attrs

end Attrs

namespace Parcel

open PyText

/-- Every field that is not empty is kept. -/
def KeepsFields (attrs attrs' : Attrs) : Prop :=
  ∀ k, (attrs.get k).isEmpty = false → attrs'.get k = attrs.get k

theorem KeepsFields.trans {a b c : Attrs} (h : KeepsFields a b) (h' : KeepsFields b c) :
    KeepsFields a c := by
  intro k hk
  have hb := h k hk
  rw [h' k (hb ▸ hk), hb]

section Search

variable {N : Type} [LinearOrder N] [PyText] [PyFloat] {num : List Char → N} {parcelId : String}

/-- What the layer answers to the ID is what `_query_by_id` finds in its table. -/
structure Backed (num : List Char → N) (parcelId : String) (q : LayerAnswers) (l : Layer) : Prop where
  serves : l.Serves num
  clean : CleanIds l.fields parcelId
  byId : q.byId = .ok (l.find parcelId)

/-- No row carries the ID in any field that is asked. -/
def Layer.Lacks (num : List Char → N) (l : Layer) (parcelId : String) : Prop :=
  ∀ f ∈ l.fields, l.LacksIn num parcelId f

/-- A parcel found by its ID: the joined row of a layer that carries it, when the layers before
have none. -/
structure FoundById (num : List Char → N) (parcelId : String) (layers : List Layer)
    (p : ParcelResult) (centroid : Option (Value × Value)) : Prop where
  confirmed : p.addressMatch = some true ∧ p.bufferedMatch = false
  source : ∃ before l after r attrs, layers = before ++ l :: after ∧
    (∀ b ∈ before, b.Lacks num parcelId) ∧ IdMatch num l parcelId r ∧ r.2 = centroid ∧
    p.parcels = [attrs] ∧ KeepsFields r.1 attrs

omit [LinearOrder N] [PyFloat] in
theorem FoundById.later {layers : List Layer} {p : ParcelResult} {centroid : Option (Value × Value)}
    {l : Layer} (h : FoundById num parcelId layers p centroid) (hl : l.Lacks num parcelId) :
    FoundById num parcelId (l :: layers) p centroid := by
  obtain ⟨before, l', after, r, attrs, rfl, hbefore, hrest⟩ := h.source
  exact ⟨h.confirmed, l :: before, l', after, r, attrs, rfl,
    List.forall_mem_cons.mpr ⟨hl, hbefore⟩, hrest⟩

end Search

/-! A state with two layers, of which the second has the parcel. -/

section Concrete

open scoped PyText.Ascii PyFloat.Whole

def decimal (text : List Char) : ℕ := text.foldl (fun n c => 10 * n + (c.toNat - '0'.toNat)) 0

end Concrete

end Parcel
end ResearchEngine
