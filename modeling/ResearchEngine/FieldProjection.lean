import ResearchEngine.PropertyContext
import ResearchEngine.StableSort

/-! The field list that a parcel layer is queried with: which of the layer's fields it requests,
and which are left out. -/
namespace ResearchEngine

/-- One field of a layer's description. -/
structure LayerField where
  name : String
  type : String := ""
  deriving DecidableEq, Repr

namespace LayerField

def geometry (f : LayerField) : Bool := f.type = "esriFieldTypeGeometry"

end LayerField

/-- The fields of a layer; no two have one name. -/
structure LayerSchema where
  fields : List LayerField
  distinct : (fields.map LayerField.name).Nodup

namespace LayerSchema

/-- The names of the fields that a feature of the layer has attributes for. -/
def attributes (schema : LayerSchema) : List String :=
  (schema.fields.filter fun f => !f.geometry).map LayerField.name

theorem attributes_nodup (schema : LayerSchema) : schema.attributes.Nodup :=
  schema.distinct.sublist (List.filter_sublist.map _)

end LayerSchema

namespace Parcel

open PyText Situs StableSort

/-- `_KEEP_FIELDS` -/
def keepFields : List String :=
  ["addr", "adress", "situs", "site", "location", "loc", "phy", "prop", "e911", "full", "street",
    "owner", "name", "parcel", "pin", "apn", "folio", "strap", "acct", "account", "assess", "prono",
    "legal", "book", "page", "plat", "instr", "deed", "subdiv", "lot", "block", "acre", "sqf",
    "geoid", "upc", "tms", "gpin", "gpn", "span", "altkey", "locator", "taxlot", "maptax", "ppin",
    "sbl", "id", "num", "hous", "taxpayer", "tmk", "link", "par_ad", "road", "dir", "type"]

/-- `_FIELD_PRIORITY` -/
def fieldPriority : List String :=
  ["situs", "site", "adress", "addr", "par_ad", "location", "e911", "phy", "prop", "full", "street",
    "road", "hous", "num", "dir", "type", "owner", "taxpayer", "name", "parcel", "pin", "apn",
    "folio", "strap", "acct", "account", "prono", "locator", "geoid", "gpin", "tmk", "span",
    "altkey", "legal", "book", "page", "plat", "instr", "deed", "subdiv", "lot", "block", "acre",
    "sqf", "assess", "link"]

section Fields

variable [PyText]

/-- `_field_rank` -/
def fieldRank (name : String) : ℕ := fieldPriority.findIdx (contains (lower name))

/-- Names that stand for the geometry of a feature. -/
def isShape (name : String) : Bool :=
  let nl := lower name
  nl = "shape" ∨ nl = "geometry" ∨ "shape".toList <+: nl.toList ∨ contains nl "(shape)"

/-- The fields that `_out_fields` requests; `none` is `*`. -/
def outFieldNames (fields : List LayerField) : Option (List String) :=
  let names := (fields.filter fun f => !f.geometry ∧ !isShape f.name).map LayerField.name
  if names.isEmpty then none
  else
    let kept := sortByRank fieldRank (names.filter fun n => hasAny keepFields (lower n))
    if kept.isEmpty then none else some (kept.take 40)

/-- `_out_fields` -/
def outFields (description : Except PyErr (List LayerField)) : String :=
  match description with
  | .ok fields => ((outFieldNames fields).map fun names => ",".intercalate names).getD "*"
  | .error _ => "*"

/-- A feature as a query for the requested fields returns it. -/
def project (schema : LayerSchema) (attrs : Attrs) : Attrs :=
  match outFieldNames schema.fields with
  | none => attrs
  | some names => attrs.filter fun f => f.1 ∈ names

/-- The fields that stand for something that the program reads. -/
def isKept (name : String) : Bool := !isShape name ∧ hasAny keepFields (lower name)

/-- The kept fields that are requested before another one. -/
def ahead (names : List String) (name : String) : ℕ :=
  names.countP fun m => isKept m ∧ (fieldRank m < fieldRank name ∨
    (fieldRank m = fieldRank name ∧ names.idxOf m < names.idxOf name))

/-- A kept field within the cap; where no field is kept, every field. -/
def requested (names : List String) (name : String) : Bool :=
  (names.all fun m => !isKept m) ∨ (isKept name ∧ ahead names name < 40)

variable (schema : LayerSchema)

theorem outFieldNames_eq : outFieldNames schema.fields =
    if schema.attributes.filter isKept = [] then none
    else some ((sortByRank fieldRank (schema.attributes.filter isKept)).take 40) := by
  have hkept : ((schema.fields.filter fun f => !f.geometry ∧ !isShape f.name).map
      LayerField.name).filter (fun n => hasAny keepFields (lower n)) =
        schema.attributes.filter isKept := by
    simp only [LayerSchema.attributes, List.filter_map, List.filter_filter]
    congr 1
    refine List.filter_congr fun f _ => ?_
    cases f.geometry <;> cases hs : isShape f.name <;> simp [isKept, hs]
  unfold outFieldNames
  simp only [hkept, List.isEmpty_iff]
  by_cases h : schema.attributes.filter isKept = []
  · have hnil : sortByRank fieldRank (schema.attributes.filter isKept) = [] := by
      rw [h]
      rfl
    rw [if_pos h, if_pos hnil, ite_self]
  · have hnames : ¬ (schema.fields.filter fun f => !f.geometry ∧ !isShape f.name).map
        LayerField.name = [] := by
      intro hnil
      rw [hnil] at hkept
      exact h hkept.symm
    have hsorted : ¬ sortByRank fieldRank (schema.attributes.filter isKept) = [] := by
      intro hnil
      exact h ((hnil ▸ sortByRank_perm fieldRank (schema.attributes.filter isKept)).nil_eq).symm
    rw [if_neg hnames, if_neg hsorted, if_neg h]

/-- The kept fields ahead of one: those before it of no higher rank, and all of a lower rank. -/
theorem ahead_eq {before after : List String} {name : String}
    (h : (before ++ name :: after).Nodup) : ahead (before ++ name :: after) name =
      ((before.filter isKept).countP fun m => fieldRank m ≤ fieldRank name) +
        (after.filter isKept).countP fun m => fieldRank m < fieldRank name := by
  obtain ⟨-, hafter, hdisj⟩ := List.nodup_append.mp h
  have hname : name ∉ before := fun hn => hdisj name hn name List.mem_cons_self rfl
  have hindex : (before ++ name :: after).idxOf name = before.length := by
    rw [List.idxOf_append_of_notMem hname, List.idxOf_cons_self, Nat.add_zero]
  have hbefore : ∀ m ∈ before, (before ++ name :: after).idxOf m < before.length := by
    intro m hm
    rw [List.idxOf_append_of_mem hm]
    exact List.idxOf_lt_length_of_mem hm
  have hlater : ∀ m ∈ after, ¬ (before ++ name :: after).idxOf m < before.length := by
    intro m hm
    have hmb : m ∉ before := fun hb => hdisj m hb m (List.mem_cons_of_mem _ hm) rfl
    rw [List.idxOf_append_of_notMem hmb]
    omega
  unfold ahead
  simp only [hindex]
  rw [List.countP_append, List.countP_cons_of_neg (by simp [hindex]), List.countP_filter,
    List.countP_filter]
  congr 1
  · refine List.countP_congr fun m hm => ?_
    have hidx := hbefore m hm
    simp only [decide_eq_true_eq, Bool.and_eq_true]
    constructor
    · rintro ⟨hk, hlt | ⟨heq, -⟩⟩
      · exact ⟨hlt.le, hk⟩
      · exact ⟨heq.le, hk⟩
    · rintro ⟨hle, hk⟩
      exact ⟨hk, hle.lt_or_eq.imp_right fun heq => ⟨heq, hidx⟩⟩
  · refine List.countP_congr fun m hm => ?_
    have hidx := hlater m hm
    simp only [decide_eq_true_eq, Bool.and_eq_true]
    constructor
    · rintro ⟨hk, hlt | ⟨-, hno⟩⟩
      · exact ⟨hlt, hk⟩
      · exact (hidx hno).elim
    · rintro ⟨hlt, hk⟩
      exact ⟨hk, .inl hlt⟩

/-- The request has a field exactly when it is kept and fewer than forty go before it. -/
theorem mem_request_iff {names : List String} (hnames : names.Nodup) {name : String}
    (hn : name ∈ names) : name ∈ (sortByRank fieldRank (names.filter isKept)).take 40 ↔
      isKept name = true ∧ ahead names name < 40 := by
  by_cases hk : isKept name = true
  · obtain ⟨before, after, rfl⟩ := List.append_of_mem hn
    have hsplit : (before ++ name :: after).filter isKept =
        before.filter isKept ++ name :: after.filter isKept := by
      rw [List.filter_append, List.filter_cons_of_pos hk]
    have hnodup := hnames.filter isKept
    rw [hsplit] at hnodup
    rw [hsplit, mem_take_sortByRank hnodup, ahead_eq hnames]
    exact (and_iff_right hk).symm
  · refine iff_of_false (fun hmem => hk ?_) fun h => hk h.1
    have hsorted := (sortByRank_perm fieldRank _).mem_iff.mp (List.mem_of_mem_take hmem)
    exact (List.mem_filter.mp hsorted).2

/-- The projection keeps the requested attributes of a feature. -/
theorem project_eq {attrs : Attrs} (h : attrs.map Prod.fst = schema.attributes) :
    project schema attrs = attrs.filter fun f => requested schema.attributes f.1 := by
  have hmem : ∀ f ∈ attrs, f.1 ∈ schema.attributes := by
    intro f hf
    rw [← h]
    exact List.mem_map_of_mem hf
  unfold project
  rw [outFieldNames_eq]
  by_cases hnone : schema.attributes.filter isKept = []
  · rw [if_pos hnone]
    refine (List.filter_eq_self.mpr fun f _ => ?_).symm
    have hall : (schema.attributes.all fun m => !isKept m) = true := by
      simpa [List.filter_eq_nil_iff] using hnone
    simp [requested, hall]
  · rw [if_neg hnone]
    refine List.filter_congr fun f hf => ?_
    have hall : (schema.attributes.all fun m => !isKept m) = false := by
      simpa [List.filter_eq_nil_iff] using hnone
    simp [requested, hall, mem_request_iff schema.attributes_nodup (hmem f hf)]

end Fields

end Parcel
end ResearchEngine
