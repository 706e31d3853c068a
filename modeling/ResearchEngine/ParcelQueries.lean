import ResearchEngine.ParcelResolution
import ResearchEngine.SqlPredicates

/-! The where clauses that parcel services are asked with, and what they select there. -/
namespace ResearchEngine
namespace Parcel

open PyText

/-- A where clause with the field and the value that it is made for. -/
structure Where where
  field : String
  value : String
  text : String
  deriving DecidableEq

/-- `v.replace("'", "''")` -/
def escaped (v : String) : String := String.ofList (Sql.double v.toList)

def quotedWhere (f v : String) : Where := ⟨f, v, f ++ "='" ++ escaped v ++ "'"⟩

section Queries

variable [PyText]

/-- What `[-\s]` matches. -/
def isGap (c : Char) : Bool := c = '-' ∨ isSpace c

/-- `val.isdigit()` -/
def allDigits (val : String) : Bool := val ≠ "" ∧ val.toList.all isDigit

/-- The spellings of a parcel ID that are tried. -/
def idVariants (parcelId : String) : List String :=
  if parcelId.toList.any isGap then
    [parcelId, String.ofList (parcelId.toList.filter fun c => !isGap c)]
  else [parcelId]

def variantWheres (f val : String) : List Where :=
  quotedWhere f val :: if allDigits val then [⟨f, val, f ++ "=" ++ val⟩] else []

/-- The clauses for a parcel ID, in the order in which they are tried. -/
def idWheres (fields : List String) (parcelId : String) : List Where :=
  fields.flatMap fun f => (idVariants parcelId).flatMap (variantWheres f)

omit [PyText] in
/-- The loops of `_query_by_id`: the clauses that are sent up to the first with features, and its
first feature. -/
def firstFeature {F : Type} (ask : String → Except PyErr (List F)) :
    List Where → List Where × Option F
  | [] => ([], none)
  | c :: cs =>
    match ask c.text with
    | .ok (feat :: _) => ([c], some feat)
    | _ =>
      let (sent, found) := firstFeature ask cs
      (c :: sent, found)

/-- `_query_by_id` -/
def queryById {F : Type} (ask : String → Except PyErr (List F)) (fields : List String)
    (parcelId : String) : List Where × Option F :=
  firstFeature ask (idWheres fields parcelId)

/-- A joined table with the shape of its query. -/
structure RelatedQuery extends Related where
  whereField : Option String := none
  quote : Bool := true

/-- The clause of `_enrich_one`, if one is sent. -/
def relatedWhere (cfg : RelatedQuery) (attrs : Attrs) : Option Where :=
  if cfg.url = "" ∨ cfg.key = "" ∨ (attrs.get cfg.key).isEmpty then none
  else
    let f := cfg.whereField.getD cfg.key
    let v := strip (attrs.get cfg.key).text
    some (if cfg.quote then quotedWhere f v else ⟨f, v, f ++ "=" ++ escaped v⟩)

/-- `_enrich_one` with its request. -/
def enrichAsking (ask : String → Except PyErr (List Attrs)) (cfg : RelatedQuery) (attrs : Attrs) :
    Attrs × Option Where :=
  match relatedWhere cfg attrs with
  | none => (attrs, none)
  | some c => (enrichOne attrs cfg.toRelated (ask c.text), some c)

end Queries

/-! What a clause selects. -/

/-- Read as a search condition, the clause is one equality between its field and a literal that
denotes its value, and so it selects the rows with that value in the field, and no others. -/
def Where.Exact (c : Where) : Prop :=
  ∃ o, Sql.read c.text.toList = some (.compare .eq (.column c.field.toList) o) ∧
    o.Spells c.value.toList ∧ ∀ {N : Type} [LinearOrder N] (num : List Char → N) row,
      Sql.Selects num row (.compare .eq (.column c.field.toList) o) ↔
        o.cell num = some (row c.field.toList)

theorem Where.exact_iff (c : Where) : c.Exact ↔
    ∃ o, Sql.read c.text.toList = some (.compare .eq (.column c.field.toList) o) ∧
      o.Spells c.value.toList :=
  exists_congr fun _ => and_congr_right fun _ =>
    ⟨fun h => h.1, fun h => ⟨h, fun num row => Sql.selects_equality_iff num h row⟩⟩

theorem quotedWhere_exact_iff (f v : String) :
    (quotedWhere f v).Exact ↔ Sql.IsName f.toList := by
  have htext : (quotedWhere f v).text.toList =
      f.toList ++ '=' :: ('\'' :: Sql.double v.toList ++ ['\'']) := by
    simp [quotedWhere, escaped]
  rw [Where.exact_iff, htext]
  exact Sql.read_quoted_iff f.toList v.toList

theorem bareWhere_exact_iff {f v text : String} (hlen : text.length ≤ (Sql.double v.toList).length)
    (hsame : Sql.isNumeral v.toList = true → text = v) :
    (⟨f, v, f ++ "=" ++ text⟩ : Where).Exact ↔
      Sql.IsName f.toList ∧ Sql.isNumeral v.toList = true := by
  have htext : (f ++ "=" ++ text).toList = f.toList ++ '=' :: text.toList := by simp
  rw [Where.exact_iff, htext]
  exact Sql.read_bare_iff hlen fun h => congrArg String.toList (hsame h)

section Queries

variable [PyText]

/-- The fields are names, and a spelling of digits is a numeral. -/
def CleanIds (fields : List String) (parcelId : String) : Prop :=
  ∀ f ∈ fields, Sql.IsName f.toList ∧
    ∀ val ∈ idVariants parcelId, allDigits val = true → Sql.isNumeral val.toList = true

theorem variantWheres_exact_iff (f val : String) : (∀ c ∈ variantWheres f val, c.Exact) ↔
    Sql.IsName f.toList ∧ (allDigits val = true → Sql.isNumeral val.toList = true) := by
  unfold variantWheres
  rw [List.forall_mem_cons, quotedWhere_exact_iff]
  refine and_congr_right fun hf => ?_
  have hbare : (⟨f, val, f ++ "=" ++ val⟩ : Where).Exact ↔ Sql.isNumeral val.toList = true := by
    rw [bareWhere_exact_iff (Sql.length_le_double _) fun _ => rfl]
    exact and_iff_right hf
  split
  · simp [*]
  · simp [*]

theorem idWheres_exact_iff (fields : List String) (parcelId : String) :
    (∀ c ∈ idWheres fields parcelId, c.Exact) ↔ CleanIds fields parcelId := by
  have hvariants : idVariants parcelId ≠ [] := by
    unfold idVariants
    split
    · exact List.cons_ne_nil _ _
    · exact List.cons_ne_nil _ _
  unfold idWheres CleanIds
  simp only [List.mem_flatMap, forall_exists_index, and_imp]
  constructor
  · intro h f hf
    have hall : ∀ val ∈ idVariants parcelId, Sql.IsName f.toList ∧
        (allDigits val = true → Sql.isNumeral val.toList = true) := fun val hval =>
      (variantWheres_exact_iff f val).mp fun c hc => h c f hf val hval hc
    obtain ⟨val, hval⟩ := List.exists_mem_of_ne_nil _ hvariants
    exact ⟨(hall val hval).1, fun val hval => (hall val hval).2⟩
  · intro h c f hf val hval hc
    exact (variantWheres_exact_iff f val).mpr ⟨(h f hf).1, (h f hf).2 val hval⟩ c hc

omit [PyText] in
/-- The clauses that are sent are those of the list, up to a hit. -/
theorem firstFeature_sent {F : Type} (ask : String → Except PyErr (List F)) (cs : List Where) :
    (firstFeature ask cs).1 <+: cs := by
  induction cs with
  | nil => exact List.prefix_rfl
  | cons c cs ih =>
    unfold firstFeature
    split
    · exact ⟨cs, rfl⟩
    · exact (List.prefix_cons_inj c).mpr ih

omit [PyText] in
theorem firstFeature_unanswered {F : Type} (cs : List Where) :
    (firstFeature (fun _ => (.ok [] : Except PyErr (List F))) cs).1 = cs := by
  induction cs with
  | nil => rfl
  | cons c cs ih => exact congrArg (c :: ·) ih

/-- A clause is made for one of the fields and one of the spellings of the parcel ID. -/
theorem mem_idWheres {fields : List String} {parcelId : String} {c : Where}
    (h : c ∈ idWheres fields parcelId) : c.field ∈ fields ∧ c.value ∈ idVariants parcelId := by
  unfold idWheres at h
  obtain ⟨f, hf, hvariant⟩ := List.mem_flatMap.mp h
  obtain ⟨val, hval, hc⟩ := List.mem_flatMap.mp hvariant
  unfold variantWheres at hc
  rcases List.mem_cons.mp hc with rfl | hc
  · exact ⟨hf, hval⟩
  · split at hc
    · obtain rfl := List.mem_singleton.mp hc
      exact ⟨hf, hval⟩
    · cases hc

/-- The clause of a joined table is made for its field and the trimmed value. -/
theorem relatedWhere_made {cfg : RelatedQuery} {attrs : Attrs} {c : Where}
    (h : relatedWhere cfg attrs = some c) :
    c.field = cfg.whereField.getD cfg.key ∧ c.value = strip (attrs.get cfg.key).text := by
  unfold relatedWhere at h
  split at h
  · cases h
  · obtain rfl := Option.some.inj h
    cases cfg.quote with
    | true => exact ⟨rfl, rfl⟩
    | false => exact ⟨rfl, rfl⟩

/-- A joined table is asked for a field that is a name, by a value in quotes or by a numeral. -/
def CleanJoin (cfg : RelatedQuery) (attrs : Attrs) : Prop :=
  Sql.IsName (cfg.whereField.getD cfg.key).toList ∧
    (cfg.quote = true ∨ Sql.isNumeral (strip (attrs.get cfg.key).text).toList = true)

theorem relatedWhere_exact_iff {cfg : RelatedQuery} {attrs : Attrs} {c : Where}
    (h : relatedWhere cfg attrs = some c) : c.Exact ↔ CleanJoin cfg attrs := by
  unfold relatedWhere at h
  unfold CleanJoin
  split at h
  · cases h
  · obtain rfl := Option.some.inj h
    cases cfg.quote with
    | true => simpa using quotedWhere_exact_iff _ _
    | false =>
      have hnumeral (v : String) (hv : Sql.isNumeral v.toList = true) : escaped v = v := by
        rw [escaped, Sql.double_numeral hv, String.ofList_toList]
      have hlen (v : String) : (escaped v).length ≤ (Sql.double v.toList).length := by
        simp [escaped]
      simpa using bareWhere_exact_iff (hlen _) (hnumeral _)

/-- Nothing to join by, or nowhere to ask. -/
def NotAsked (cfg : RelatedQuery) (attrs : Attrs) : Prop :=
  cfg.url = "" ∨ cfg.key = "" ∨ (attrs.get cfg.key).isEmpty = true

theorem relatedWhere_eq_none_iff {cfg : RelatedQuery} {attrs : Attrs} :
    relatedWhere cfg attrs = none ↔ NotAsked cfg attrs := by
  unfold relatedWhere NotAsked
  split
  · exact iff_of_true rfl ‹_›
  · exact iff_of_false nofun ‹_›

theorem enrichAsking_sent (ask : String → Except PyErr (List Attrs)) (cfg : RelatedQuery)
    (attrs : Attrs) : (enrichAsking ask cfg attrs).2 = relatedWhere cfg attrs := by
  unfold enrichAsking
  cases relatedWhere cfg attrs with
  | none => rfl
  | some c => rfl

/-- Whatever the services answer, the clauses that are sent for a parcel ID and for a joined table
select exactly the rows with the value in the field if and only if the fields are names, a
spelling of digits is a numeral, and a value that is joined without quotes is one too. -/
theorem whereClauses_exact_iff (fields : List String) (parcelId : String) (cfg : RelatedQuery)
    (attrs : Attrs) :
    ((∀ ask : String → Except PyErr (List Attrs), ∀ c ∈ (queryById ask fields parcelId).1,
          c.Exact ∧ c.field ∈ fields ∧ c.value ∈ idVariants parcelId) ∧
        ∀ ask c, (enrichAsking ask cfg attrs).2 = some c → c.Exact ∧
          c.field = cfg.whereField.getD cfg.key ∧ c.value = strip (attrs.get cfg.key).text) ↔
      CleanIds fields parcelId ∧ (NotAsked cfg attrs ∨ CleanJoin cfg attrs) := by
  refine and_congr ?_ ?_
  · rw [← idWheres_exact_iff]
    constructor
    · intro h c hc
      rw [← firstFeature_unanswered (F := Attrs) (idWheres fields parcelId)] at hc
      exact (h _ c hc).1
    · intro h ask c hc
      have hmem := (firstFeature_sent ask (idWheres fields parcelId)).subset hc
      exact ⟨h c hmem, mem_idWheres hmem⟩
  · simp only [enrichAsking_sent]
    constructor
    · intro h
      rw [← relatedWhere_eq_none_iff]
      cases hc : relatedWhere cfg attrs with
      | none => exact Or.inl rfl
      | some c => exact Or.inr ((relatedWhere_exact_iff hc).mp (h (fun _ => .ok []) c hc).1)
    · rintro h - c hc
      refine ⟨(relatedWhere_exact_iff hc).mpr (h.resolve_left fun hunjoined => ?_),
        relatedWhere_made hc⟩
      rw [relatedWhere_eq_none_iff.mpr hunjoined] at hc
      cases hc

end Queries

section Concrete

open scoped PyText.Ascii

/-- The owners' table of a county, joined by an integer key. -/
def ownersTable : RelatedQuery where
  url := "https://gis.example/2"
  key := "PropertyID"
  whereField := some "property_id"
  quote := false

/-- A key that is no number makes a clause that every row meets. -/
theorem joined_key_widens : ∃ c p,
    relatedWhere ownersTable [("PropertyID", .str "1 OR 1=1")] = some c ∧
      Sql.read c.text.toList = some p ∧
      (∀ {N : Type} [LinearOrder N] (num : List Char → N) row, Sql.Selects num row p) ∧
      ¬ c.Exact := by
  refine ⟨⟨"property_id", "1 OR 1=1", "property_id=1 OR 1=1"⟩, .or
    (.compare .eq (.column "property_id".toList) (.number ['1']))
    (.compare .eq (.number ['1']) (.number ['1'])), by decide +kernel, by decide +kernel, ?_, ?_⟩
  · intro N _ num row
    have hnumber : Sql.Cell.number (num ['1']) ≠ .null := nofun
    have hone := (Sql.compareCells_eq_iff hnumber).mpr rfl
    unfold Sql.Selects
    simp only [Sql.Condition.truth, Sql.Operand.value, hone]
    split <;> simp_all
  · rw [Where.exact_iff]
    rintro ⟨o, hread, -⟩
    have hread' : Sql.read "property_id=1 OR 1=1".toList = some (.or
      (.compare .eq (.column "property_id".toList) (.number ['1']))
      (.compare .eq (.number ['1']) (.number ['1']))) := by decide +kernel
    cases hread.symm.trans hread'

end Concrete

end Parcel
end ResearchEngine
