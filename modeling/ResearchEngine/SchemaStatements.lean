import ResearchEngine.TransitionRuns
import Mathlib.Logic.Function.Basic

/-! The statements that define the tables of a database, one transaction of them at a time. A
statement is refused, or it changes the catalog and says what becomes of the rows. -/
namespace ResearchEngine
namespace Ddl

open TransitionRuns

/-- The type of a column: one of the system's own, or an enumeration that the catalog has. -/
inductive ColumnType (N : Type)
  | system (name : N)
  | enum (name : N)
  deriving DecidableEq, Repr

/-- A column, with the expression that the server fills it in with. -/
structure Column (N E : Type) where
  name : N
  type : ColumnType N
  nullable : Bool
  default : Option E := none
  deriving DecidableEq, Repr

structure ForeignKey (N : Type) where
  column : N
  target : N
  targetColumn : N
  deriving DecidableEq, Repr

/-- A condition on every row, with the columns that it reads. -/
structure Check (N E : Type) where
  name : N
  columns : List N
  condition : E
  deriving DecidableEq, Repr

structure Table (N E : Type) where
  name : N
  columns : List (Column N E)
  primaryKey : List N
  foreignKeys : List (ForeignKey N) := []
  uniques : List (N × List N) := []
  checks : List (Check N E) := []
  deriving DecidableEq, Repr

structure Index (N : Type) where
  name : N
  table : N
  columns : List N
  deriving DecidableEq, Repr

/-- What a database knows of itself: its enumerations with their labels, its tables, its indexes. -/
structure Catalog (N E : Type) where
  types : List (N × List N) := []
  tables : List (Table N E) := []
  indexes : List (Index N) := []
  deriving DecidableEq, Repr

/-- `addValue` is `ADD VALUE IF NOT EXISTS`, and `dropType` is `DROP TYPE IF EXISTS`. -/
inductive Statement (N E : Type)
  | createType (type : N) (labels : List N)
  | createTable (table : Table N E)
  | createIndex (index : Index N)
  | dropTable (table : N)
  | addColumn (table : N) (column : Column N E)
  | dropColumn (table column : N)
  | addValue (type label : N)
  | dropType (type : N)
  deriving DecidableEq, Repr

variable {N V E : Type} [DecidableEq N]

namespace Table

def hasColumn (x : Table N E) (c : N) : Bool := x.columns.any fun k => k.name = c

/-- The columns that a foreign key may refer to. -/
def isKey (x : Table N E) (columns : List N) : Bool :=
  x.primaryKey = columns || x.uniques.any fun u => u.2 = columns

/-- The names that a table takes: its own, and those of its unique constraints. -/
def relations (x : Table N E) : List N := x.name :: x.uniques.map Prod.fst

def refersTo (x : Table N E) (table : N) : Bool := x.foreignKeys.any fun k => k.target = table

def withColumn (k : Column N E) (x : Table N E) : Table N E := { x with columns := x.columns ++ [k] }

/-- A column goes with every constraint that it is part of. -/
def withoutColumn (c : N) (x : Table N E) : Table N E :=
  { x with
    columns := x.columns.filter fun k => k.name ≠ c
    primaryKey := if c ∈ x.primaryKey then [] else x.primaryKey
    foreignKeys := x.foreignKeys.filter fun k => k.column ≠ c
    uniques := x.uniques.filter fun u => c ∉ u.2
    checks := x.checks.filter fun k => c ∉ k.columns }

end Table

namespace Catalog

def labels? (c : Catalog N E) (type : N) : Option (List N) :=
  (c.types.find? fun t => t.1 = type).map Prod.snd

def table? (c : Catalog N E) (table : N) : Option (Table N E) :=
  c.tables.find? fun x => x.name = table

def knows (c : Catalog N E) : ColumnType N → Bool
  | .system _ => true
  | .enum type => (c.labels? type).isSome

/-- Tables, unique constraints and indexes share one set of names. -/
def relations (c : Catalog N E) : List N :=
  c.tables.flatMap Table.relations ++ c.indexes.map Index.name

def mapTable (c : Catalog N E) (table : N) (f : Table N E → Table N E) : Catalog N E :=
  { c with tables := c.tables.map fun x => if x.name = table then f x else x }

/-- Whether a statement is taken. `adds` says whether the server takes new labels here, and `bare`
whether the statement's table has no rows. -/
def takes (adds bare : Bool) (c : Catalog N E) : Statement N E → Bool
  | .createType type _ => (c.labels? type).isNone
  | .createTable x =>
    x.relations.all (fun n => n ∉ c.relations) && x.columns.all (fun k => c.knows k.type) &&
      x.checks.all (fun k => k.columns.all x.hasColumn) &&
      x.foreignKeys.all fun k =>
        (c.tables ++ [x]).any fun y => y.name = k.target && y.isKey [k.targetColumn]
  | .createIndex i =>
    i.name ∉ c.relations && (c.table? i.table).any fun x => i.columns.all x.hasColumn
  | .dropTable table =>
    (c.table? table).isSome && c.tables.all fun x => x.name = table || !x.refersTo table
  | .addColumn table k =>
    (c.table? table).any (fun x => !x.hasColumn k.name) && c.knows k.type &&
      (k.nullable || k.default.isSome || bare)
  | .dropColumn table column =>
    (c.table? table).any (fun x => x.hasColumn column) &&
      c.tables.all fun x => x.name = table ||
        !x.foreignKeys.any fun k => k.target = table && k.targetColumn = column
  | .addValue type _ => (c.labels? type).isSome && adds
  | .dropType type => c.tables.all fun x => x.columns.all fun k => k.type ≠ .enum type

/-- The catalog after a statement. -/
def after (c : Catalog N E) : Statement N E → Catalog N E
  | .createType type labels => { c with types := c.types ++ [(type, labels)] }
  | .createTable x => { c with tables := c.tables ++ [x] }
  | .createIndex i => { c with indexes := c.indexes ++ [i] }
  | .dropTable table =>
    { c with
      tables := c.tables.filter fun x => x.name ≠ table
      indexes := c.indexes.filter fun i => i.table ≠ table }
  | .addColumn table k => c.mapTable table (Table.withColumn k)
  | .dropColumn table column =>
    { c.mapTable table (Table.withoutColumn column) with
      indexes := c.indexes.filter fun i => i.table ≠ table || column ∉ i.columns }
  | .addValue type label =>
    { c with types := c.types.map fun t =>
        if t.1 = type && label ∉ t.2 then (t.1, t.2 ++ [label]) else t }
  | .dropType type => { c with types := c.types.filter fun t => t.1 ≠ type }

def column? (c : Catalog N E) (table column : N) : Option (Column N E) :=
  (c.table? table).bind fun x => x.columns.find? fun k => k.name = column

end Catalog

/-- A cell that is not null. -/
inductive Cell (N V : Type)
  | label (name : N)
  | value (v : V)
  deriving DecidableEq, Repr

/-- A row, with null where it has no cell. -/
abbrev Row (N V : Type) := N → Option (Cell N V)

/-- Whether a column takes a cell. -/
def Catalog.holds (c : Catalog N E) (k : Column N E) : Option (Cell N V) → Bool
  | none => k.nullable
  | some (.label l) =>
    match k.type with
    | .enum type => (c.labels? type).any fun labels => l ∈ labels
    | .system _ => false
  | some (.value _) =>
    match k.type with
    | .enum _ => false
    | .system _ => true

/-- The row of an `INSERT`: a column that it does not give has its default. -/
def Table.inserted (eval : E → Cell N V) (x : Table N E) (given : List (N × Option (Cell N V))) :
    Row N V := fun n =>
  match given.find? fun g => g.1 = n with
  | some g => g.2
  | none => (x.columns.find? fun k => k.name = n).bind fun k => k.default.map eval

/-- Whether a table takes the columns that an `INSERT` gives and its checks pass the row, keys aside.
`passes` says whether a condition passes a row. -/
def Catalog.fits (eval : E → Cell N V) (passes : E → Row N V → Bool) (c : Catalog N E) (table : N)
    (given : List (N × Option (Cell N V))) : Bool :=
  (c.table? table).any fun x =>
    given.all (fun g => (c.column? table g.1).any fun k => c.holds k g.2) &&
      x.columns.all (fun k => k.nullable || k.default.isSome || given.any fun g => g.1 = k.name) &&
      x.checks.all fun k => passes k.condition (x.inserted eval given)

/-- The rows of every table, in an order of their own. -/
abbrev Rows (N V : Type) := N → List (Row N V)

/-- What a server does with a transaction: whether it takes a new label for an enumeration, which the
transaction has or has not created itself, and the values of the default expressions. -/
structure Server (N V E : Type) where
  addsValue : Bool → Bool
  eval : E → Cell N V

/-- The rows after a statement. -/
def Rows.after (eval : E → Cell N V) (rows : Rows N V) : Statement N E → Rows N V
  | .createTable x => Function.update rows x.name []
  | .dropTable table => Function.update rows table []
  | .addColumn table k =>
    Function.update rows table
      ((rows table).map fun r => Function.update r k.name (k.default.map eval))
  | .dropColumn table column =>
    Function.update rows table ((rows table).map fun r => Function.update r column none)
  | _ => rows

/-- The catalog that a transaction sees, and the enumerations that it created. -/
structure Outline (N E : Type) where
  catalog : Catalog N E
  created : List N := []
  deriving DecidableEq

/-- An open transaction. -/
structure Transaction (N V E : Type) extends Outline N E where
  rows : Rows N V

namespace Statement

/-- The table whose rows decide whether a statement is taken. -/
def table? : Statement N E → Option N
  | .addColumn table _ => some table
  | _ => none

/-- The enumeration that a statement adds a label to. -/
def type? : Statement N E → Option N
  | .addValue type _ => some type
  | _ => none

/-- The enumerations that a transaction has created after a statement. -/
def record (created : List N) : Statement N E → List N
  | .createType type _ => type :: created
  | _ => created

/-- A statement that the rows have no say in. -/
def safe : Statement N E → Bool
  | .addColumn _ k => k.nullable || k.default.isSome
  | _ => true

/-- A statement that takes nothing away. -/
def additive : Statement N E → Bool
  | .dropTable _ | .dropColumn _ _ | .dropType _ => false
  | _ => true

end Statement

/-- Whether a transaction may add the label that a statement adds. -/
def Outline.adds (addsValue : Bool → Bool) (o : Outline N E) (q : Statement N E) : Bool :=
  addsValue (q.type?.any fun type => type ∈ o.created)

def Outline.after (o : Outline N E) (q : Statement N E) : Outline N E where
  catalog := o.catalog.after q
  created := q.record o.created

@[simp] theorem Outline.after_catalog (o : Outline N E) (q : Statement N E) :
    (o.after q).catalog = o.catalog.after q := rfl

/-- What a statement does to the catalog when the rows have no say in it. -/
def Outline.step (addsValue : Bool → Bool) (o : Outline N E) (q : Statement N E) :
    Option (Outline N E) :=
  if o.catalog.takes (o.adds addsValue q) false q then some (o.after q) else none

def Transaction.bare (s : Transaction N V E) (q : Statement N E) : Bool :=
  q.table?.any fun table => (s.rows table).isEmpty

def Transaction.step (srv : Server N V E) (s : Transaction N V E) (q : Statement N E) :
    Option (Transaction N V E) :=
  if s.catalog.takes (s.adds srv.addsValue q) (s.bare q) q then
    some { toOutline := s.after q, rows := s.rows.after srv.eval q }
  else none

def Transaction.cells (s : Transaction N V E) (table column : N) : List (Option (Cell N V)) :=
  (s.rows table).map fun r => r column

section Catalogs

variable {c : Catalog N E} {table n : N} {k : Column N E} {q : Statement N E} {adds bare : Bool}

theorem Catalog.table?_createTable (x : Table N E) :
    (c.after (.createTable x)).table? table =
      (c.table? table).or (if x.name = table then some x else none) := by
  by_cases h : x.name = table <;> simp [after, table?, List.find?_append, h]

theorem Catalog.table?_dropTable (t : N) :
    (c.after (.dropTable t)).table? table = if t = table then none else c.table? table := by
  simp only [after, table?, List.find?_filter]
  split
  · subst table
    simp
  · rename_i h
    congr 1
    funext x
    by_cases hx : x.name = table
    · simp [hx, Ne.symm h]
    · simp [hx]

theorem Catalog.table?_mapTable {t : N} {f : Table N E → Table N E} (hf : ∀ x, (f x).name = x.name) :
    (c.mapTable t f).table? table =
      if t = table then (c.table? table).map f else c.table? table := by
  simp only [mapTable, table?, List.find?_map]
  have hname (x : Table N E) : (if x.name = t then f x else x).name = x.name := by
    split <;> simp [hf]
  simp only [Function.comp_def, hname]
  cases h : c.tables.find? fun x => x.name = table with
  | none => simp
  | some x =>
    have hx : x.name = table := by simpa using List.find?_some h
    by_cases ht : t = table
    · simp [hx, ht]
    · simp [hx, ht, Ne.symm ht]

theorem Catalog.table?_addColumn (t : N) (k : Column N E) :
    (c.after (.addColumn t k)).table? table =
      if t = table then (c.table? table).map (Table.withColumn k) else c.table? table :=
  table?_mapTable fun _ => rfl

theorem Catalog.table?_dropColumn (t n : N) :
    (c.after (.dropColumn t n)).table? table =
      if t = table then (c.table? table).map (Table.withoutColumn n) else c.table? table :=
  table?_mapTable fun _ => rfl

theorem Catalog.column?_eq_some_iff : c.column? table n = some k ↔
    ∃ x, c.table? table = some x ∧ (x.columns.find? fun k => k.name = n) = some k :=
  Option.bind_eq_some_iff

/-- A statement that takes nothing away leaves every column where it was. -/
theorem Catalog.column?_after (h : c.column? table n = some k) (hq : q.additive) :
    (c.after q).column? table n = some k := by
  obtain ⟨x, hx, hk⟩ := column?_eq_some_iff.mp h
  rw [column?_eq_some_iff]
  cases q with
  | createTable y => exact ⟨x, by simp [table?_createTable, hx], hk⟩
  | addColumn t k' =>
    by_cases ht : t = table
    · exact ⟨x.withColumn k', by simp [table?_addColumn, ht, hx], by simp [Table.withColumn, hk]⟩
    · exact ⟨x, by simp [table?_addColumn, ht, hx], hk⟩
  | createType | createIndex | addValue => exact ⟨x, hx, hk⟩
  | dropTable | dropColumn | dropType => simp [Statement.additive] at hq

/-- A statement that takes something away adds no column. -/
theorem Catalog.column?_before (h : (c.after q).column? table n = some k)
    (hq : q.additive = false) : c.column? table n = some k := by
  obtain ⟨x, hx, hk⟩ := column?_eq_some_iff.mp h
  rw [column?_eq_some_iff]
  cases q with
  | dropTable t =>
    rw [table?_dropTable] at hx
    split at hx
    · cases hx
    · exact ⟨x, hx, hk⟩
  | dropColumn t m =>
    rw [table?_dropColumn] at hx
    split at hx
    · obtain ⟨y, hy, rfl⟩ := Option.map_eq_some_iff.mp hx
      refine ⟨y, hy, ?_⟩
      have hname : k.name = n := by simpa using List.find?_some hk
      have hm : k.name ≠ m := by simpa using (List.mem_filter.mp (List.mem_of_find?_eq_some hk)).2
      rw [Table.withoutColumn, List.find?_filter] at hk
      rw [← hk]
      congr 1
      funext k'
      by_cases hk' : k'.name = n
      · simp [hk', hname ▸ hm]
      · simp [hk']
    · exact ⟨x, hx, hk⟩
  | dropType type => exact ⟨x, hx, hk⟩
  | _ => simp [Statement.additive] at hq

/-- A table that a transaction creates has not stood before. -/
theorem Catalog.table?_of_takes {x : Table N E} (h : c.takes adds bare (.createTable x)) :
    c.table? x.name = none := by
  simp only [takes, Table.relations, List.all_cons, Bool.and_eq_true, decide_eq_true_eq] at h
  simp only [table?, List.find?_eq_none, decide_eq_true_eq]
  intro y hy hname
  exact h.1.1.1.1 (by simp [Catalog.relations, Table.relations]; grind)

/-- A column that is added is not one that the table has. -/
theorem Catalog.column?_of_takes (h : c.takes adds bare (.addColumn table k)) :
    c.column? table k.name = none := by
  cases hx : c.table? table with
  | none => simp [column?, hx]
  | some x =>
    simp only [takes, hx, Option.any_some, Table.hasColumn, Bool.and_eq_true] at h
    simpa [column?, hx] using h.1.1

section Fits

variable {eval : E → Cell N V} {passes : E → Row N V → Bool} {given : List (N × Option (Cell N V))}

/-- Where the columns fit, the checks decide. -/
theorem Catalog.fits_iff {x : Table N E} (hx : c.table? table = some x)
    (hgiven : ∀ g ∈ given, (c.column? table g.1).any (fun k => c.holds k g.2) = true)
    (hneeded : (x.columns.all fun k =>
      k.nullable || k.default.isSome || given.any fun g => g.1 = k.name) = true) :
    c.fits eval passes table given = true ↔
      ∀ k ∈ x.checks, passes k.condition (x.inserted eval given) = true := by
  have hcells := List.all_eq_true.mpr hgiven
  simp only [fits, hx, Option.any_some, hneeded, hcells, Bool.true_and, List.all_eq_true]

/-- An `INSERT` fits no table that does not have all its columns. -/
theorem Catalog.not_fits {cell : Option (Cell N V)} (hmem : (n, cell) ∈ given)
    (hnone : c.column? table n = none) : c.fits eval passes table given = false := by
  by_contra h
  obtain ⟨x, -, hx⟩ := (Option.any_eq_true _ _).mp (Bool.of_not_eq_false h)
  simp only [Bool.and_eq_true] at hx
  have hcell := List.all_eq_true.mp hx.1.1 _ hmem
  simp [hnone] at hcell

end Fits

end Catalogs

section Steps

variable {srv : Server N V E} {s s' : Transaction N V E} {q : Statement N E} {table n : N}
  {k : Column N E}

theorem Transaction.step_eq_some_iff : s.step srv q = some s' ↔
    s.catalog.takes (s.adds srv.addsValue q) (s.bare q) q = true ∧
      s' = { toOutline := s.after q, rows := s.rows.after srv.eval q } := by
  rw [step, Option.ite_none_right_eq_some, Option.some.injEq, @eq_comm _ s']

/-- The rows have no say in a safe statement. -/
theorem Transaction.step_outline (hq : q.safe) :
    (s.step srv q).map toOutline = s.toOutline.step srv.addsValue q := by
  have htakes : s.catalog.takes (s.adds srv.addsValue q) (s.bare q) q =
      s.catalog.takes (s.adds srv.addsValue q) false q := by
    cases q with
    | addColumn t k =>
      have hk : (k.nullable || k.default.isSome) = true := hq
      simp [Catalog.takes, hk]
    | _ => rfl
  simp only [step, Outline.step, htakes]
  split <;> rfl

theorem exec_outline {qs : List (Statement N E)} (hqs : ∀ q ∈ qs, q.safe) :
    (exec (Transaction.step srv) s qs).map Transaction.toOutline =
      exec (Outline.step srv.addsValue) s.toOutline qs := by
  induction qs generalizing s with
  | nil => rfl
  | cons q qs ih =>
    have hrest := fun t => ih (s := t) fun q' hq' => hqs q' (List.mem_cons_of_mem _ hq')
    rw [exec_cons, exec_cons, ← Transaction.step_outline (hqs q List.mem_cons_self)]
    cases s.step srv q <;> simp [hrest]

theorem Transaction.step_cells_additive (h : s.step srv q = some s') (hq : q.additive)
    (hk : s.catalog.column? table n = some k) : s'.cells table n = s.cells table n := by
  obtain ⟨htakes, rfl⟩ := step_eq_some_iff.mp h
  cases q with
  | createTable x =>
    have hne : table ≠ x.name := by
      rintro rfl
      simp [Catalog.column?, Catalog.table?_of_takes htakes] at hk
    simp [cells, Rows.after, Function.update_of_ne hne]
  | addColumn t k' =>
    by_cases ht : t = table
    · subst t
      have hne : n ≠ k'.name := by
        rintro rfl
        cases (Catalog.column?_of_takes htakes).symm.trans hk
      simp [cells, Rows.after, Function.comp_def, Function.update_of_ne hne]
    · simp [cells, Rows.after, Function.update_of_ne (Ne.symm ht)]
  | createType | createIndex | addValue => rfl
  | dropTable | dropColumn | dropType => simp [Statement.additive] at hq

theorem Transaction.step_cells_subtractive (h : s.step srv q = some s') (hq : q.additive = false)
    (hk : s'.catalog.column? table n = some k) : s'.cells table n = s.cells table n := by
  obtain ⟨-, rfl⟩ := step_eq_some_iff.mp h
  obtain ⟨x, hx, hfind⟩ := Catalog.column?_eq_some_iff.mp hk
  cases q with
  | dropTable t =>
    have hx : (s.catalog.after (.dropTable t)).table? table = some x := hx
    have ht : t ≠ table := by
      rintro rfl
      simp [Catalog.table?_dropTable] at hx
    simp [cells, Rows.after, Function.update_of_ne ht.symm]
  | dropColumn t m =>
    have hx : (s.catalog.after (.dropColumn t m)).table? table = some x := hx
    by_cases ht : t = table
    · subst t
      rw [Catalog.table?_dropColumn, if_pos rfl] at hx
      obtain ⟨y, -, rfl⟩ := Option.map_eq_some_iff.mp hx
      have hname : k.name = n := by simpa using List.find?_some hfind
      have hm : k.name ≠ m := by
        simpa using (List.mem_filter.mp (List.mem_of_find?_eq_some hfind)).2
      simp [cells, Rows.after, Function.comp_def, Function.update_of_ne (hname ▸ hm)]
    · simp [cells, Rows.after, Function.update_of_ne (Ne.symm ht)]
  | dropType => rfl
  | _ => simp [Statement.additive] at hq

/-- Statements that take nothing away keep every column and its cells. -/
theorem exec_cells_additive {qs : List (Statement N E)} (hqs : ∀ q ∈ qs, q.additive)
    (h : exec (Transaction.step srv) s qs = some s') (hk : s.catalog.column? table n = some k) :
    s'.catalog.column? table n = some k ∧ s'.cells table n = s.cells table n := by
  induction qs generalizing s with
  | nil =>
    obtain rfl : s = s' := by simpa using h
    exact ⟨hk, rfl⟩
  | cons q qs ih =>
    obtain ⟨t, ht, hrest⟩ := Option.bind_eq_some_iff.mp h
    have hq := hqs q List.mem_cons_self
    have hk' : t.catalog.column? table n = some k := by
      obtain ⟨-, rfl⟩ := Transaction.step_eq_some_iff.mp ht
      exact Catalog.column?_after hk hq
    obtain ⟨hafter, hcells⟩ := ih (fun q' hq' => hqs q' (List.mem_cons_of_mem _ hq')) hrest hk'
    exact ⟨hafter, hcells.trans (Transaction.step_cells_additive ht hq hk)⟩

/-- Statements that add nothing keep the cells of every column that they leave. -/
theorem exec_cells_subtractive {qs : List (Statement N E)} (hqs : ∀ q ∈ qs, q.additive = false)
    (h : exec (Transaction.step srv) s qs = some s') (hk : s'.catalog.column? table n = some k) :
    s.catalog.column? table n = some k ∧ s'.cells table n = s.cells table n := by
  induction qs generalizing s with
  | nil =>
    obtain rfl : s = s' := by simpa using h
    exact ⟨hk, rfl⟩
  | cons q qs ih =>
    obtain ⟨t, ht, hrest⟩ := Option.bind_eq_some_iff.mp h
    have hq := hqs q List.mem_cons_self
    obtain ⟨hk', hcells⟩ := ih (fun q' hq' => hqs q' (List.mem_cons_of_mem _ hq')) hrest
    refine ⟨?_, hcells.trans (Transaction.step_cells_subtractive ht hq hk')⟩
    obtain ⟨-, rfl⟩ := Transaction.step_eq_some_iff.mp ht
    exact Catalog.column?_before hk' hq

/-- What a statement that takes nothing away does to a column that a table does not have. -/
theorem Transaction.step_added {x : Table N E} (h : s.step srv q = some s') (hq : q.additive)
    (hx : s.catalog.table? table = some x) (hnone : s.catalog.column? table n = none) :
    (∃ y, s'.catalog.table? table = some y) ∧
      (s'.catalog.column? table n = none ∧ (s'.rows table).length = (s.rows table).length ∨
        ∃ k, s'.catalog.column? table n = some k ∧
          s'.cells table n = (s.rows table).map fun _ => k.default.map srv.eval) := by
  obtain ⟨htakes, rfl⟩ := step_eq_some_iff.mp h
  cases q with
  | createTable y =>
    have hne : table ≠ y.name := by
      rintro rfl
      cases (Catalog.table?_of_takes htakes).symm.trans hx
    have hafter : (s.catalog.after (.createTable y)).table? table = some x := by
      simp [Catalog.table?_createTable, hx]
    refine ⟨⟨x, hafter⟩, .inl ⟨?_, ?_⟩⟩
    · simpa [Catalog.column?, hx, hafter] using hnone
    · simp [Rows.after, Function.update_of_ne hne]
  | addColumn t k =>
    by_cases ht : t = table
    · subst t
      have hafter : (s.catalog.after (.addColumn table k)).table? table = some (x.withColumn k) := by
        simp [Catalog.table?_addColumn, hx]
      have hfind : x.columns.find? (fun k' => k'.name = n) = none := by
        simpa [Catalog.column?, hx] using hnone
      refine ⟨⟨_, hafter⟩, ?_⟩
      by_cases hn : k.name = n
      · refine .inr ⟨k, ?_, ?_⟩
        · simp [Catalog.column?, hafter, Table.withColumn, hfind, hn]
        · simp [cells, Rows.after, hn, Function.comp_def]
      · refine .inl ⟨?_, by simp [Rows.after]⟩
        simp [Catalog.column?, hafter, Table.withColumn, hfind, hn]
    · have hafter : (s.catalog.after (.addColumn t k)).table? table = some x := by
        simp [Catalog.table?_addColumn, ht, hx]
      refine ⟨⟨x, hafter⟩, .inl ⟨?_, ?_⟩⟩
      · simpa [Catalog.column?, hx, hafter] using hnone
      · simp [Rows.after, Function.update_of_ne (Ne.symm ht)]
  | createType | createIndex | addValue => exact ⟨⟨x, hx⟩, .inl ⟨hnone, rfl⟩⟩
  | dropTable | dropColumn | dropType => simp [Statement.additive] at hq

/-- A column that statements add to a table has its default in every row that stood before. -/
theorem exec_cells_added {x : Table N E} {qs : List (Statement N E)}
    (hqs : ∀ q ∈ qs, q.additive) (h : exec (Transaction.step srv) s qs = some s')
    (hx : s.catalog.table? table = some x) (hnone : s.catalog.column? table n = none)
    (hk : s'.catalog.column? table n = some k) :
    s'.cells table n = (s.rows table).map fun _ => k.default.map srv.eval := by
  induction qs generalizing s x with
  | nil =>
    obtain rfl : s = s' := by simpa using h
    cases hnone.symm.trans hk
  | cons q qs ih =>
    obtain ⟨t, hstep, hrest⟩ := Option.bind_eq_some_iff.mp h
    have hqs' := fun q' hq' => hqs q' (List.mem_cons_of_mem q hq')
    obtain ⟨⟨y, hy⟩, ⟨hnone', hlen⟩ | ⟨k', hk', hcells⟩⟩ :=
      Transaction.step_added hstep (hqs q List.mem_cons_self) hx hnone
    · rw [ih hqs' hrest hy hnone', List.map_const', List.map_const', hlen]
    · obtain ⟨hafter, hkept⟩ := exec_cells_additive hqs' hrest hk'
      obtain rfl : k' = k := Option.some.inj (hafter.symm.trans hk)
      rw [hkept, hcells]

end Steps

end Ddl
end ResearchEngine
