import ResearchEngine.SchemaStatements

/-! Scripts that lead a database from revision to revision along a chain, a command at a time: every
command runs in one transaction, so that one that fails leaves the database as it was. -/
namespace ResearchEngine
namespace Ddl

open TransitionRuns

/-- A migration script: where it leads, and from where. -/
structure Script (R N E : Type) where
  revision : R
  downRevision : Option R
  upgrade : List (Statement N E)
  downgrade : List (Statement N E)

inductive Command (R : Type)
  | upgrade (target : R)
  | downgrade (target : Option R)
  deriving DecidableEq, Repr

variable {R N V E : Type} [DecidableEq R] [DecidableEq N]

/-- The scripts from a revision down to the base, the latest first. -/
def lineage (scripts : List (Script R N E)) : ℕ → Option R → List (Script R N E)
  | 0, _ => []
  | _, none => []
  | fuel + 1, some r =>
    match scripts.find? fun x => x.revision = r with
    | none => []
    | some x => x :: lineage scripts fuel x.downRevision

def history (scripts : List (Script R N E)) (revision : Option R) : List (Script R N E) :=
  lineage scripts scripts.length revision

/-- The revision that a command leads to and the statements on the way, unless it asks for a revision
that the tool does not find. A revision that the database is past is no upgrade. -/
def plan (scripts : List (Script R N E)) (current : Option R) :
    Command R → Option (Option R × List (Statement N E))
  | .upgrade target =>
    let past := (history scripts current).map Script.revision
    if history scripts (some target) = [] then none
    else if target ∈ past then some (current, [])
    else
      let missing := (history scripts (some target)).filter fun x => x.revision ∉ past
      some (some target, missing.reverse.flatMap Script.upgrade)
  | .downgrade target =>
    let past := history scripts current
    if target.all fun r => r ∈ past.map Script.revision then
      some (target, (past.takeWhile fun x => some x.revision ≠ target).flatMap Script.downgrade)
    else none

/-- A database with the revision that it records. -/
structure Deployment (R N V E : Type) where
  revision : Option R := none
  catalog : Catalog N E := {}
  rows : Rows N V := fun _ => []

def Deployment.cells (d : Deployment R N V E) (table column : N) : List (Option (Cell N V)) :=
  (d.rows table).map fun r => r column

def Deployment.begin (d : Deployment R N V E) : Transaction N V E where
  catalog := d.catalog
  rows := d.rows

/-- A command, `none` when it fails. -/
def perform (srv : Server N V E) (scripts : List (Script R N E)) (d : Deployment R N V E)
    (c : Command R) : Option (Deployment R N V E) :=
  (plan scripts d.revision c).bind fun p =>
    (exec (Transaction.step srv) d.begin p.2).map fun t => ⟨p.1, t.catalog, t.rows⟩

/-- What happens to a database: a command, or the programs that use it leave other rows. -/
inductive Event (R N V : Type)
  | command (c : Command R)
  | write (rows : Rows N V)

def Deployment.next (srv : Server N V E) (scripts : List (Script R N E))
    (d : Deployment R N V E) : Event R N V → Deployment R N V E
  | .command c => (perform srv scripts d c).getD d
  | .write rows => { d with rows := rows }

/-- The database after a list of events, from an empty one. -/
def deployed (srv : Server N V E) (scripts : List (Script R N E)) (es : List (Event R N V)) :
    Deployment R N V E :=
  es.foldl (Deployment.next srv scripts) {}

/-- A script whose way up takes nothing away and whose way down adds nothing, and in which no rows can
be in the way of a statement. -/
structure Script.OneWay (x : Script R N E) : Prop where
  up : ∀ q ∈ x.upgrade, q.additive ∧ q.safe
  down : ∀ q ∈ x.downgrade, q.additive = false

omit [DecidableEq R] [DecidableEq N] in
theorem exec_append_bind {S A : Type} (step : S → A → Option S) (s : S) (as bs : List A) :
    exec step s (as ++ bs) = (exec step s as).bind fun t => exec step t bs := by
  induction as generalizing s with
  | nil => rfl
  | cons a as ih =>
    rw [List.cons_append, exec_cons, exec_cons, Option.bind_assoc]
    congr 1
    funext t
    exact ih t

section Commands

variable {srv : Server N V E} {scripts : List (Script R N E)} {d d' : Deployment R N V E}
  {c : Command R} {r : Option R}

/-- A relation between the revision and the catalog that the commands keep holds in every run. -/
theorem deployed_at (At : Option R → Catalog N E → Prop) (hbase : At none {})
    (hstep : ∀ (d d' : Deployment R N V E) (c : Command R), At d.revision d.catalog →
      perform srv scripts d c = some d' → At d'.revision d'.catalog) (es : List (Event R N V)) :
    At (deployed srv scripts es).revision (deployed srv scripts es).catalog := by
  suffices h : ∀ d : Deployment R N V E, At d.revision d.catalog →
      At (es.foldl (Deployment.next srv scripts) d).revision
        (es.foldl (Deployment.next srv scripts) d).catalog from h {} hbase
  induction es with
  | nil => exact fun d hd => hd
  | cons e es ih =>
    intro d hd
    refine ih _ ?_
    cases e with
    | write rows => exact hd
    | command c =>
      cases h : perform srv scripts d c with
      | none => simpa [Deployment.next, h] using hd
      | some d' => simpa [Deployment.next, h] using hstep d d' c hd h

omit [DecidableEq N] in
theorem mem_of_mem_lineage {fuel : ℕ} {x : Script R N E} (h : x ∈ lineage scripts fuel r) :
    x ∈ scripts := by
  induction fuel generalizing r with
  | zero => simp [lineage] at h
  | succ fuel ih =>
    cases r with
    | none => simp [lineage] at h
    | some r =>
      cases hx : scripts.find? fun x => x.revision = r with
      | none => simp [lineage, hx] at h
      | some y =>
        simp only [lineage, hx, List.mem_cons] at h
        obtain rfl | hmem := h
        · exact List.mem_of_find?_eq_some hx
        · exact ih hmem

omit [DecidableEq N] in
theorem plan_upgrade (hone : ∀ x ∈ scripts, x.OneWay) {target : R} {p : Option R × List (Statement N E)}
    (h : plan scripts r (.upgrade target) = some p) : ∀ q ∈ p.2, q.additive ∧ q.safe := by
  simp only [plan] at h
  split at h
  · cases h
  · split at h
    · cases h
      simp
    · cases h
      intro q hq
      obtain ⟨x, hx, hmem⟩ := List.mem_flatMap.mp hq
      have hx := List.mem_of_mem_filter (List.mem_reverse.mp hx)
      exact (hone x (mem_of_mem_lineage hx)).up q hmem

omit [DecidableEq N] in
theorem plan_downgrade (hone : ∀ x ∈ scripts, x.OneWay) {target : Option R}
    {p : Option R × List (Statement N E)}
    (h : plan scripts r (.downgrade target) = some p) : ∀ q ∈ p.2, q.additive = false := by
  simp only [plan] at h
  split at h
  · cases h
    intro q hq
    obtain ⟨x, hx, hmem⟩ := List.mem_flatMap.mp hq
    have hx := (List.takeWhile_sublist _).subset hx
    exact (hone x (mem_of_mem_lineage hx)).down q hmem
  · cases h

omit [DecidableEq N] in
theorem Statement.safe_of_not_additive {q : Statement N E} (h : q.additive = false) : q.safe := by
  cases q <;> simp_all [additive, safe]

omit [DecidableEq N] in
theorem plan_safe (hone : ∀ x ∈ scripts, x.OneWay) {p : Option R × List (Statement N E)}
    (h : plan scripts r c = some p) : ∀ q ∈ p.2, q.safe := by
  intro q hq
  cases c with
  | upgrade target => exact (plan_upgrade hone h q hq).2
  | downgrade target => exact Statement.safe_of_not_additive (plan_downgrade hone h q hq)

theorem perform_eq_some_iff : perform srv scripts d c = some d' ↔
    ∃ p, plan scripts d.revision c = some p ∧ ∃ t, exec (Transaction.step srv) d.begin p.2 = some t ∧
      d' = ⟨p.1, t.catalog, t.rows⟩ := by
  simp only [perform, Option.bind_eq_some_iff, Option.map_eq_some_iff, @eq_comm _ d']

/-- What a command makes of the revision and of the catalog, the rows aside. -/
def outlined (addsValue : Bool → Bool) (scripts : List (Script R N E)) (r : Option R)
    (catalog : Catalog N E) (c : Command R) : Option (Option R × Catalog N E) :=
  (plan scripts r c).bind fun p =>
    (exec (Outline.step addsValue) { catalog := catalog } p.2).map fun o => (p.1, o.catalog)

/-- The rows have no say in whether a command succeeds, nor in the catalog that it leaves. -/
theorem perform_outlined (srv : Server N V E) (d : Deployment R N V E) (c : Command R)
    (hone : ∀ x ∈ scripts, x.OneWay) :
    (perform srv scripts d c).map (fun d' => (d'.revision, d'.catalog)) =
      outlined srv.addsValue scripts d.revision d.catalog c := by
  cases hp : plan scripts d.revision c with
  | none => simp [perform, outlined, hp]
  | some p =>
    have hout : (exec (Transaction.step srv) d.begin p.2).map Transaction.toOutline =
        exec (Outline.step srv.addsValue) { catalog := d.catalog } p.2 :=
      exec_outline (plan_safe hone hp)
    simp [perform, outlined, hp, ← hout, Function.comp_def]

/-- What becomes of the cells: a column that is there before and after keeps them, and a column that is
added to a table has its default in every row. -/
structure Carried (srv : Server N V E) (d d' : Deployment R N V E) : Prop where
  kept : ∀ table n k k', d.catalog.column? table n = some k → d'.catalog.column? table n = some k' →
    d'.cells table n = d.cells table n
  added : ∀ table x n k, d.catalog.table? table = some x → d.catalog.column? table n = none →
    d'.catalog.column? table n = some k →
      d'.cells table n = (d.rows table).map fun _ => k.default.map srv.eval

theorem perform_carried (hone : ∀ x ∈ scripts, x.OneWay) (h : perform srv scripts d c = some d') :
    Carried srv d d' := by
  obtain ⟨p, hp, t, ht, rfl⟩ := perform_eq_some_iff.mp h
  cases c with
  | upgrade target =>
    have hup := fun q hq => (plan_upgrade hone hp q hq).1
    exact ⟨fun _ _ _ _ hk _ => (exec_cells_additive hup ht hk).2,
      fun _ _ _ _ hx hnone hk => exec_cells_added hup ht hx hnone hk⟩
  | downgrade target =>
    have hdown := plan_downgrade hone hp
    refine ⟨fun _ _ _ _ _ hk => (exec_cells_subtractive hdown ht hk).2,
      fun table x n k _ hnone hk => ?_⟩
    cases hnone.symm.trans (exec_cells_subtractive hdown ht hk).1

end Commands

end Ddl
end ResearchEngine
