import ResearchEngine.CreatedRows
import ResearchEngine.FirstOccurrences

/-! The vocabulary of document types: which names a request may use, the list that
`_validate_doc_types` makes of them, and the rows that a job gets for it. -/
namespace ResearchEngine

open FirstOccurrences

/-- `d in DOC_TYPE_TO_STEP` holds of the six names only, and they are told apart. -/
@[simp] theorem DocType.ofName_name (d : DocType) : DocType.ofName d.name = some d := by
  cases d <;> decide +kernel

theorem DocType.ofName_eq_some_iff {t : String} {d : DocType} :
    DocType.ofName t = some d ↔ t = d.name := by
  constructor
  · intro h
    unfold DocType.ofName at h
    have hname := List.find?_some h
    exact (of_decide_eq_true hname).symm
  · rintro rfl
    exact DocType.ofName_name d

theorem DocType.ofName_eq_none_iff {t : String} : DocType.ofName t = none ↔ ∀ d : DocType, t ≠ d.name := by
  rw [Option.eq_none_iff_forall_ne_some]
  exact forall_congr' fun d => not_congr DocType.ofName_eq_some_iff

theorem DocType.name_inj {d d' : DocType} (h : d.name = d'.name) : d = d' := by
  have hd := DocType.ofName_name d
  rw [h, DocType.ofName_name] at hd
  exact (Option.some.inj hd).symm

@[simp] theorem DocType.mem_all (d : DocType) : d ∈ DocType.all := by cases d <;> decide

theorem DocType.all_nodup : DocType.all.Nodup := by decide

section Vocabulary

variable [PyText]

/-- `t` is the name of the type, or in lower case the short name of its step. -/
def Spells (t : String) (d : DocType) : Prop :=
  t = d.name ∨ ((∀ d' : DocType, t ≠ d'.name) ∧ (PyText.lower t, d) ∈ StepKey.aliases)

/-- Neither a document type nor, in lower case, the short name of a step. -/
def Unsupported (t : String) : Prop :=
  (∀ d : DocType, t ≠ d.name) ∧ ∀ p ∈ StepKey.aliases, PyText.lower t ≠ p.1

theorem DocType.ofAlias_eq_some_iff {t : String} {d : DocType} :
    DocType.ofAlias t = some d ↔ (PyText.lower t, d) ∈ StepKey.aliases := by
  have hrows := Table.mem_rows_iff ⟨StepKey.aliases, by decide +kernel⟩ (PyText.lower t) d
  exact hrows.symm

theorem DocType.parse_eq_some_iff {t : String} {d : DocType} :
    DocType.parse t = some d ↔ Spells t d := by
  unfold DocType.parse Spells
  rw [Option.or_eq_some_iff, DocType.ofName_eq_some_iff, DocType.ofName_eq_none_iff,
    DocType.ofAlias_eq_some_iff]

theorem DocType.parse_eq_none_iff {t : String} : DocType.parse t = none ↔ Unsupported t := by
  unfold DocType.parse Unsupported
  rw [Option.or_eq_none_iff, DocType.ofName_eq_none_iff]
  refine and_congr_right fun _ => ?_
  unfold DocType.ofAlias
  rw [Option.map_eq_none_iff, List.find?_eq_none]
  refine forall₂_congr fun p _ => ?_
  rw [decide_eq_true_eq]
  exact ⟨fun h he => h he.symm, fun h he => h he.symm⟩

/-- A spelling stands for one type. -/
theorem Spells.unique {t : String} {d d' : DocType} (h : Spells t d) (h' : Spells t d') : d = d' :=
  Option.some.inj ((DocType.parse_eq_some_iff.mpr h).symm.trans (DocType.parse_eq_some_iff.mpr h'))

theorem spells_name (d : DocType) : Spells d.name d := Or.inl rfl

@[simp] theorem DocType.parse_name (d : DocType) : DocType.parse d.name = some d :=
  DocType.parse_eq_some_iff.mpr (spells_name d)

theorem validateDocTypes_nil : validateDocTypes [] = .ok DocType.all := rfl

/-- The types that a list of names spells, repeats included. -/
def spelled (names : List String) : List DocType := names.filterMap DocType.parse

theorem mem_spelled {names : List String} {d : DocType} :
    d ∈ spelled names ↔ ∃ t ∈ names, Spells t d := by
  unfold spelled
  rw [List.mem_filterMap]
  exact exists_congr fun t => and_congr_right fun _ => DocType.parse_eq_some_iff

theorem validateDocTypes_cons {names : List String} (h : names ≠ [])
    (hknown : ∀ t ∈ names, ¬ Unsupported t) :
    validateDocTypes names = .ok (firsts (spelled names)) := by
  have hempty : (names.filter fun t => (DocType.parse t).isNone).isEmpty = true := by
    rw [List.isEmpty_iff, List.filter_eq_nil_iff]
    intro t ht hnone
    exact hknown t ht (DocType.parse_eq_none_iff.mp (Option.isNone_iff_eq_none.mp hnone))
  have hnames : names.isEmpty = false := by rwa [← Bool.not_eq_true, List.isEmpty_iff]
  unfold validateDocTypes
  simp only [hnames, hempty, Bool.false_eq_true, if_false, if_true]
  rfl

theorem validateDocTypes_unsupported {names : List String} {t : String} (ht : t ∈ names)
    (hun : Unsupported t) : ∃ e, validateDocTypes names = .error e := by
  have hempty : (names.filter fun t => (DocType.parse t).isNone).isEmpty = false := by
    rw [← Bool.not_eq_true, List.isEmpty_iff, List.filter_eq_nil_iff]
    intro hall
    exact hall t ht (Option.isNone_iff_eq_none.mpr (DocType.parse_eq_none_iff.mpr hun))
  have hnames : names.isEmpty = false := by
    rw [← Bool.not_eq_true, List.isEmpty_iff]
    exact List.ne_nil_of_mem ht
  unfold validateDocTypes
  simp only [hnames, hempty, Bool.false_eq_true, if_false]
  exact ⟨_, rfl⟩

theorem validateDocTypes_error_iff {names : List String} :
    (∃ e, validateDocTypes names = .error e) ↔ ∃ t ∈ names, Unsupported t := by
  constructor
  · rintro ⟨e, he⟩
    by_contra hnone
    have hknown : ∀ t ∈ names, ¬ Unsupported t := fun t ht hun => hnone ⟨t, ht, hun⟩
    by_cases hnil : names = []
    · rw [hnil, validateDocTypes_nil] at he
      cases he
    · rw [validateDocTypes_cons hnil hknown] at he
      cases he
  · rintro ⟨t, ht, hun⟩
    exact validateDocTypes_unsupported ht hun

/-- What a list of names that is accepted comes to. -/
theorem validateDocTypes_ok {names : List String} {types : List DocType}
    (h : validateDocTypes names = .ok types) :
    (∀ t ∈ names, ¬ Unsupported t) ∧
      types = if names = [] then DocType.all else firsts (spelled names) := by
  have hknown : ∀ t ∈ names, ¬ Unsupported t := by
    intro t ht hun
    obtain ⟨e, he⟩ := validateDocTypes_unsupported ht hun
    rw [h] at he
    cases he
  refine ⟨hknown, ?_⟩
  split
  · rename_i hnil
    rw [hnil, validateDocTypes_nil] at h
    exact (Except.ok.inj h).symm
  · rename_i hnil
    rw [validateDocTypes_cons hnil hknown] at h
    exact (Except.ok.inj h).symm

/-- The list that `_validate_doc_types` returns for a list of names. -/
structure Canonical (names : List String) (types : List DocType) : Prop where
  nodup : types.Nodup
  nonempty : types ≠ []
  mem : ∀ d, d ∈ types ↔ names = [] ∨ ∃ t ∈ names, Spells t d
  ordered : names ≠ [] → types.Pairwise fun d d' =>
    ∃ before t after, names = before ++ t :: after ∧ Spells t d ∧ ∀ u ∈ before, ¬ Spells u d'
  again : validateDocTypes (types.map DocType.name) = .ok types
  respelled : ∀ names', List.Forall₂ (fun t t' => ∃ d, Spells t d ∧ Spells t' d) names names' →
    validateDocTypes names' = .ok types
  steps : ∀ d ∈ types, stepToDocType (docTypeToStep d) = some d

theorem spelled_names (types : List DocType) : spelled (types.map DocType.name) = types := by
  unfold spelled
  rw [List.filterMap_map]
  have hsome : DocType.parse ∘ DocType.name = some := funext DocType.parse_name
  rw [hsome, List.filterMap_some]

theorem not_unsupported_name (d : DocType) : ¬ Unsupported d.name := fun h => h.1 d rfl

theorem Spells.supported {t : String} {d : DocType} (h : Spells t d) : ¬ Unsupported t := by
  rw [← DocType.parse_eq_none_iff, DocType.parse_eq_some_iff.mpr h]
  simp

/-- A duplicate-free list of types is what its own names stand for. -/
theorem validateDocTypes_names {types : List DocType} (hnil : types ≠ []) (hnodup : types.Nodup) :
    validateDocTypes (types.map DocType.name) = .ok types := by
  have hknown : ∀ t ∈ types.map DocType.name, ¬ Unsupported t := by
    intro t ht
    obtain ⟨d, -, rfl⟩ := List.mem_map.mp ht
    exact not_unsupported_name d
  rw [validateDocTypes_cons (by simpa using hnil) hknown, spelled_names, firsts_of_nodup hnodup]

/-- Respelling the elements changes nothing. -/
theorem validateDocTypes_respelled {names names' : List String}
    (h : List.Forall₂ (fun t t' => ∃ d, Spells t d ∧ Spells t' d) names names') :
    validateDocTypes names' = validateDocTypes names := by
  have hspelled : spelled names' = spelled names ∧ (∀ t ∈ names, ¬ Unsupported t) ∧
      (∀ t ∈ names', ¬ Unsupported t) ∧ (names' = [] ↔ names = []) := by
    induction h with
    | nil => simp [spelled]
    | @cons t t' names names' hd _ ih =>
      obtain ⟨d, hd, hd'⟩ := hd
      obtain ⟨hsame, hknown, hknown', -⟩ := ih
      refine ⟨?_, List.forall_mem_cons.mpr ⟨hd.supported, hknown⟩,
        List.forall_mem_cons.mpr ⟨hd'.supported, hknown'⟩, by simp⟩
      have ht := DocType.parse_eq_some_iff.mpr hd
      have ht' := DocType.parse_eq_some_iff.mpr hd'
      unfold spelled at hsame ⊢
      rw [List.filterMap_cons_some ht, List.filterMap_cons_some ht', hsame]
  obtain ⟨hsame, hknown, hknown', hnil⟩ := hspelled
  by_cases h0 : names = []
  · rw [h0, hnil.mpr h0]
  · rw [validateDocTypes_cons h0 hknown, validateDocTypes_cons (fun h => h0 (hnil.mp h)) hknown', hsame]

/-- The order of the types is the order of their first spellings. -/
theorem before_spelled {names : List String} {d d' : DocType} (h : Before (spelled names) d d') :
    ∃ before t after, names = before ++ t :: after ∧ Spells t d ∧ ∀ u ∈ before, ¬ Spells u d' := by
  induction names with
  | nil => exact absurd h.mem List.not_mem_nil
  | cons t names ih =>
    have hnext (hne : ¬ Spells t d') (hrest : Before (spelled names) d d') :
        ∃ before u after, t :: names = before ++ u :: after ∧ Spells u d ∧
          ∀ u ∈ before, ¬ Spells u d' := by
      obtain ⟨before, u, after, rfl, hu, hfree⟩ := ih hrest
      exact ⟨t :: before, u, after, rfl, hu, List.forall_mem_cons.mpr ⟨hne, hfree⟩⟩
    cases ht : DocType.parse t with
    | none =>
      unfold spelled at h
      rw [List.filterMap_cons_none ht] at h
      refine hnext (fun hs => ?_) h
      rw [DocType.parse_eq_some_iff.mpr hs] at ht
      cases ht
    | some c =>
      have htc := DocType.parse_eq_some_iff.mp ht
      unfold spelled at h
      rw [List.filterMap_cons_some ht] at h
      rcases before_cons_iff.mp h with rfl | ⟨hne, hrest⟩
      · exact ⟨[], t, names, rfl, htc, fun _ hu => by cases hu⟩
      · exact hnext (fun hs => hne (hs.unique htc)) hrest

theorem canonical_of_ok {names : List String} {types : List DocType}
    (h : validateDocTypes names = .ok types) : Canonical names types := by
  obtain ⟨hknown, htypes⟩ := validateDocTypes_ok h
  have hnil := validateDocTypes_ne_nil h
  have hnodup : types.Nodup := by
    rw [htypes]
    split
    · exact DocType.all_nodup
    · exact firsts_nodup _
  refine ⟨hnodup, hnil, fun d => ?_, fun hnames => ?_, validateDocTypes_names hnil hnodup,
    fun names' hsame => (validateDocTypes_respelled hsame).trans h,
    fun d _ => stepToDocType_docTypeToStep d⟩
  · rw [htypes]
    split
    · simp [*]
    · rename_i hne
      rw [mem_firsts, mem_spelled]
      exact ⟨Or.inr, fun h => h.resolve_left hne⟩
  · rw [htypes, if_neg hnames]
    exact (firsts_ordered _).imp before_spelled

/-! The rows of the job. -/

open Transactions Program

omit [PyText] in
/-- The rows of a store name jobs that exist, so those of a new job are its own. -/
theorem Store.DocsHaveJobs.foreign {s : Store} (h : s.DocsHaveJobs) {job : Uuid}
    (fresh : job ∉ s.jobs.keys) : ∀ r ∈ s.docs.rows, r.2.jobId ≠ job := fun r hr he =>
  fresh (he ▸ h r.1 r.2 ((Table.mem_rows_iff _ _ _).mp hr))

omit [PyText] in
/-- The types of the documents of the new job. -/
theorem Transactions.Added.docTypesOf {out : Surroundings} {s t : Store} {req : CreateRequest}
    {orderId : Uuid} {types : List DocType} (h : Added out s req orderId types t)
    (hdocs : s.DocsHaveJobs) : t.docTypesOf out.job = types := by
  have hold : s.docs.rows.filter (fun r => decide (r.2.jobId = out.job ∧ r.2.deletedAt = none)) = [] := by
    refine List.filter_eq_nil_iff.mpr fun r hr => ?_
    simp [hdocs.foreign h.freshJob r hr]
  simp only [Store.docTypesOf, Store.docsForJob, Table.select, h.docs, List.filter_append, hold,
    List.nil_append]
  rw [List.filter_eq_self.mpr]
  · rw [List.map_map]
    exact List.map_snd_zip (by simp [docIds])
  · intro r hr
    obtain ⟨p, -, rfl⟩ := List.mem_map.mp hr
    simp [newDoc]

omit [PyText] in
theorem Transactions.Added.getNew {out : Surroundings} {s t : Store} {req : CreateRequest}
    {orderId : Uuid} {types : List DocType} (h : Added out s req orderId types t) :
    t.jobs.get out.job = some (newJob out.now req orderId (keyFor out req) types) := by
  rw [← Table.mem_rows_iff, h.jobs]
  exact List.mem_append_right _ List.mem_cons_self

end Vocabulary

end ResearchEngine
