import ResearchEngine.Migrations

/-! The database of the engine after any commands of Alembic and any writes in between: its catalog is
the one of the recorded revision. -/
namespace ResearchEngine
namespace Migrations

open Ddl TransitionRuns

/-- How far a revision is from the base. -/
def height : Option Revision → ℕ
  | none => 0
  | some .devBaseTables => 1
  | some .researchTables => 2
  | some .cancelReason => 3
  | some .callbackDelivered => 4

@[simp] theorem height_none : height none = 0 := rfl
@[simp] theorem height_devBaseTables : height (some .devBaseTables) = 1 := rfl
@[simp] theorem height_researchTables : height (some .researchTables) = 2 := rfl
@[simp] theorem height_cancelReason : height (some .cancelReason) = 3 := rfl
@[simp] theorem height_callbackDelivered : height (some .callbackDelivered) = 4 := rfl

@[simp] theorem devBaseTables_revision : devBaseTables.revision = .devBaseTables := rfl
@[simp] theorem researchTables_revision : researchTables.revision = .researchTables := rfl
@[simp] theorem cancelReason_revision : cancelReason.revision = .cancelReason := rfl
@[simp] theorem callbackDelivered_revision : callbackDelivered.revision = .callbackDelivered := rfl

/-- The labels of `research_job_status_enum`: a way down leaves the two that `0003` has added. -/
def jobLabels (grown : Bool) : List String :=
  if grown then jobStatuses ++ ["reviewed", "archived"] else jobStatuses

def baseCatalog : Catalog String SqlExpr where
  tables := [tenants, orders, files, orderFiles]
  indexes := [indexOn "orders" "tenant_id"]

def researchCatalog (labels : List String) (jobs : SaTable) : Catalog String SqlExpr where
  types :=
    [("research_job_status_enum", labels), ("research_doc_status_enum", docStatuses),
     ("source_outcome_enum", sourceOutcomes), ("confidence_enum", confidences)]
  tables := [tenants, orders, files, orderFiles, jobs, researchDocuments]
  indexes :=
    [indexOn "orders" "tenant_id", indexOn "research_jobs" "tenant_id",
     indexOn "research_jobs" "order_id", indexOn "research_jobs" "status",
     indexOn "research_documents" "job_id", indexOn "research_documents" "order_id",
     indexOn "research_documents" "status"]

/-- The catalog of a revision. -/
def catalogAt (grown : Bool) : Option Revision → Catalog String SqlExpr
  | none => {}
  | some .devBaseTables => baseCatalog
  | some .researchTables => researchCatalog (jobLabels grown) researchJobs
  | some .cancelReason => researchCatalog (jobLabels true) (researchJobs.withColumn cancelReasonColumn)
  | some .callbackDelivered =>
    researchCatalog (jobLabels true)
      ((researchJobs.withColumn cancelReasonColumn).withColumn callbackDeliveredColumn)

/-- `versions` in their order. -/
def chain : List (Script Revision String SqlExpr) :=
  [devBaseTables, researchTables, cancelReason, callbackDelivered]

/-- Where a command leads. -/
def landing (r : Option Revision) : Command Revision → Option Revision
  | .upgrade target => if height (some target) ≤ height r then r else some target
  | .downgrade target => target

/-- The statements of a command. -/
def route (r : Option Revision) : Command Revision → List Op
  | .upgrade target =>
    (chain.filter fun x => height r < height (some x.revision) ∧
      height (some x.revision) ≤ height (some target)).flatMap Script.upgrade
  | .downgrade target =>
    (chain.reverse.filter fun x => height target < height (some x.revision) ∧
      height (some x.revision) ≤ height r).flatMap Script.downgrade

theorem plan_upgrade_eq (r : Option Revision) (target : Revision) :
    plan versions r (.upgrade target) = some (landing r (.upgrade target), route r (.upgrade target)) := by
  cases r with
  | none => cases target <;> rfl
  | some r => cases r <;> cases target <;> rfl

theorem plan_downgrade_eq (r target : Option Revision) :
    plan versions r (.downgrade target) =
      if height target ≤ height r then some (target, route r (.downgrade target)) else none := by
  cases r with
  | none =>
    cases target with
    | none => rfl
    | some t => cases t <;> rfl
  | some r =>
    cases target with
    | none => cases r <;> rfl
    | some t => cases r <;> cases t <;> rfl

theorem versions_oneWay : ∀ x ∈ versions, x.OneWay := by
  intro x hx
  simp only [versions, List.mem_cons, List.not_mem_nil, or_false] at hx
  obtain rfl | rfl | rfl | rfl := hx <;> exact ⟨by decide, by decide⟩

section Scripts

variable {adds : Bool → Bool} {cr : List String} {g : Bool}

@[simp] theorem devBaseTables_upgrade :
    exec (Outline.step adds) ⟨catalogAt g none, cr⟩ devBaseTables.upgrade =
      some ⟨catalogAt g (some .devBaseTables), cr⟩ := rfl

@[simp] theorem researchTables_upgrade :
    exec (Outline.step adds) ⟨catalogAt g (some .devBaseTables), cr⟩ researchTables.upgrade =
      some ⟨catalogAt false (some .researchTables),
        ["confidence_enum", "source_outcome_enum", "research_doc_status_enum",
         "research_job_status_enum"] ++ cr⟩ := rfl

@[simp] theorem cancelReason_upgrade :
    exec (Outline.step adds) ⟨catalogAt g (some .researchTables), cr⟩ cancelReason.upgrade =
      if adds ("research_job_status_enum" ∈ cr) then
        some ⟨catalogAt g (some .cancelReason), cr⟩
      else none := by
  have hadd (c : Catalog String SqlExpr) (label : String) :
      Outline.step adds ⟨c, cr⟩ (.addValue "research_job_status_enum" label) =
        if (c.labels? "research_job_status_enum").isSome && adds ("research_job_status_enum" ∈ cr) then
          some ⟨c.after (.addValue "research_job_status_enum" label), cr⟩
        else none := rfl
  have hcolumn : Outline.step adds ⟨catalogAt g (some .researchTables), cr⟩
      (.addColumn "research_jobs" cancelReasonColumn) =
        some ⟨researchCatalog (jobLabels g) (researchJobs.withColumn cancelReasonColumn), cr⟩ := rfl
  rw [cancelReason, exec_cons, hcolumn, Option.bind_some, exec_cons, hadd]
  cases h : adds ("research_job_status_enum" ∈ cr) with
  | true =>
    have hfirst (labels : List String) (x : SaTable) :
        ((researchCatalog labels x).labels? "research_job_status_enum").isSome = true := rfl
    simp only [hfirst, Bool.and_true, if_true, Option.bind_some, exec_cons, hadd, h]
    cases g <;> rfl
  | false => simp

@[simp] theorem callbackDelivered_upgrade :
    exec (Outline.step adds) ⟨catalogAt g (some .cancelReason), cr⟩ callbackDelivered.upgrade =
      some ⟨catalogAt g (some .callbackDelivered), cr⟩ := rfl

@[simp] theorem callbackDelivered_downgrade :
    exec (Outline.step adds) ⟨catalogAt g (some .callbackDelivered), cr⟩ callbackDelivered.downgrade =
      some ⟨catalogAt g (some .cancelReason), cr⟩ := rfl

@[simp] theorem cancelReason_downgrade :
    exec (Outline.step adds) ⟨catalogAt g (some .cancelReason), cr⟩ cancelReason.downgrade =
      some ⟨catalogAt true (some .researchTables), cr⟩ := rfl

@[simp] theorem researchTables_downgrade :
    exec (Outline.step adds) ⟨catalogAt g (some .researchTables), cr⟩ researchTables.downgrade =
      some ⟨catalogAt g (some .devBaseTables), cr⟩ := rfl

@[simp] theorem devBaseTables_downgrade :
    exec (Outline.step adds) ⟨catalogAt g (some .devBaseTables), cr⟩ devBaseTables.downgrade =
      some ⟨catalogAt g none, cr⟩ := rfl

end Scripts

/-- When a command succeeds. An upgrade past `0003` needs a server that adds a label to an enumeration
in a transaction, which then is or is not the one that created it. -/
def Feasible (adds : Bool → Bool) (r : Option Revision) : Command Revision → Prop
  | .upgrade target => height r < 3 → 3 ≤ height (some target) → adds (height r < 2) = true
  | .downgrade target => height target ≤ height r

theorem outlined_upgrade {adds : Bool → Bool} {r : Option Revision} {target : Revision} {g : Bool}
    (h : Feasible adds r (.upgrade target)) : ∃ g',
      outlined adds versions r (catalogAt g r) (.upgrade target) =
        some (landing r (.upgrade target), catalogAt g' (landing r (.upgrade target))) := by
  simp only [outlined, plan_upgrade_eq, Option.bind_some, Feasible] at h ⊢
  refine ⟨if height r < 2 then false else g, ?_⟩
  cases r with
  | none =>
    cases target <;> simp_all [route, landing, chain, exec_append_bind]
    rfl
  | some r =>
    cases r <;> cases target <;> simp_all [route, landing, chain, exec_append_bind]
    rfl

theorem outlined_downgrade {adds : Bool → Bool} {r target : Option Revision} {g : Bool}
    (h : height target ≤ height r) : ∃ g',
      outlined adds versions r (catalogAt g r) (.downgrade target) =
        some (target, catalogAt g' target) := by
  simp only [outlined, plan_downgrade_eq, if_pos h, Option.bind_some]
  refine ⟨if height r < 3 then g else true, ?_⟩
  cases r with
  | none =>
    cases target with
    | none => simp [route, chain]
    | some target => cases target <;> simp at h
  | some r =>
    cases target with
    | none => cases r <;> simp [route, chain, exec_append_bind]
    | some target =>
      cases r <;> cases target <;> simp_all [route, chain, exec_append_bind] <;> rfl

theorem outlined_refused {adds : Bool → Bool} {r : Option Revision} {c : Command Revision} {g : Bool}
    (h : ¬ Feasible adds r c) : outlined adds versions r (catalogAt g r) c = none := by
  cases c with
  | upgrade target =>
    simp only [outlined, plan_upgrade_eq, Option.bind_some, Feasible] at h ⊢
    cases r with
    | none => cases target <;> simp_all [route, chain, exec_append_bind]
    | some r => cases r <;> cases target <;> simp_all [route, chain, exec_append_bind]
  | downgrade target =>
    have hheight : ¬ height target ≤ height r := h
    simp [outlined, plan_downgrade_eq, hheight]

section Inserts

variable {c : Catalog String SqlExpr} {g : Bool} {r : Option Revision} {table n : String}
  {eval : SqlExpr → Cell String SqlValue}

/-- A column of the server's own types that may be null. -/
def optional (k : SaColumn) : Bool := k.nullable && k.type matches .system _

theorem holds_optional {k : Option SaColumn} (h : k.any optional) {α : Type} (o : Option α)
    (f : α → SqlValue) : k.any (fun k => c.holds k (o.map fun a => .value (f a))) = true := by
  cases k with
  | none => simp at h
  | some k =>
    obtain ⟨name, type, nullable, default⟩ := k
    cases type <;> cases o <;> simp_all [optional, Catalog.holds]

/-- The cells of a job fit the last revision, and its check passes every list that is not empty. -/
theorem jobInsert_fits (id : Uuid) (updatedBy : Option Uuid) (j : Job) :
    (catalogAt g (some .callbackDelivered)).fits eval passes "research_jobs" (jobInsert id updatedBy j) =
      true ↔ j.requestedDocTypes ≠ [] := by
  have hstatus : ((catalogAt g (some .callbackDelivered)).column? "research_jobs" "status").any
      (fun k => (catalogAt g (some .callbackDelivered)).holds (V := SqlValue) k
        (some (.label (jobStatusName j.status)))) = true := by
    cases j.status <;> rfl
  have hcells : ∀ c ∈ jobInsert id updatedBy j,
      ((catalogAt g (some .callbackDelivered)).column? "research_jobs" c.1).any
        (fun k => (catalogAt g (some .callbackDelivered)).holds k c.2) = true := by
    simp only [jobInsert, List.forall_mem_cons]
    exact ⟨rfl, rfl, rfl, rfl, rfl, hstatus, rfl, rfl, rfl, rfl, rfl, holds_optional rfl _ _,
      holds_optional rfl _ _, holds_optional rfl _ _, holds_optional rfl _ _, holds_optional rfl _ _,
      holds_optional rfl _ _, rfl, holds_optional rfl _ _, holds_optional rfl _ _,
      holds_optional rfl _ _, by simp⟩
  have hcheck : passes (.nonempty "requested_doc_types")
      ((researchJobs.withColumn cancelReasonColumn).withColumn callbackDeliveredColumn |>.inserted eval
        (jobInsert id updatedBy j)) = decide (j.requestedDocTypes.map DocType.name ≠ []) := rfl
  rw [Catalog.fits_iff rfl hcells rfl]
  exact List.forall_mem_singleton.trans (by simp [hcheck])

theorem callback_delivered_missing (h : r ≠ some .callbackDelivered) :
    (catalogAt g r).column? "research_jobs" "callback_delivered" = none := by
  cases r with
  | none => rfl
  | some r =>
    cases r with
    | callbackDelivered => exact absurd rfl h
    | _ => rfl

/-- The jobs of the models that ask for a type fit the database at the last revision only. -/
theorem jobInsert_fits_iff (id : Uuid) (updatedBy : Option Uuid) (j : Job) :
    (catalogAt g r).fits eval passes "research_jobs" (jobInsert id updatedBy j) = true ↔
      r = some .callbackDelivered ∧ j.requestedDocTypes ≠ [] := by
  by_cases h : r = some .callbackDelivered
  · subst r
    simp [jobInsert_fits]
  · have hmem : ("callback_delivered", given (.flag j.callbackDelivered)) ∈ jobInsert id updatedBy j := by
      simp [jobInsert]
    simp [h, Catalog.not_fits hmem (callback_delivered_missing h)]

theorem docInsert_fits (htable : c.table? "research_documents" = some researchDocuments)
    (hstatus : c.labels? "research_doc_status_enum" = some docStatuses)
    (houtcome : c.labels? "source_outcome_enum" = some sourceOutcomes)
    (hconfidence : c.labels? "confidence_enum" = some confidences) (id : Uuid) (d : Doc) :
    c.fits eval passes "research_documents" (docInsert id d) = true := by
  refine (Catalog.fits_iff htable ?_ rfl).mpr (by simp [researchDocuments])
  have hcolumn (n : String) : c.column? "research_documents" n =
      researchDocuments.columns.find? fun k => k.name = n := by
    simp [Catalog.column?, htable]
  have hd : (c.labels? "research_doc_status_enum").any
      (fun labels => docStatusName d.status ∈ labels) = true := by
    rw [hstatus]
    cases d.status <;> rfl
  simp only [docInsert, List.forall_mem_cons, hcolumn]
  refine ⟨rfl, rfl, rfl, rfl, hd, ?_, ?_, holds_optional rfl _ _, holds_optional rfl _ _, rfl, rfl, rfl,
    rfl, rfl, holds_optional rfl _ _, holds_optional rfl _ _, rfl, rfl, holds_optional rfl _ _,
    holds_optional rfl _ _, holds_optional rfl _ _, by simp⟩
  · cases d.sourceOutcome with
    | none => rfl
    | some o =>
      show (c.labels? "source_outcome_enum").any (fun labels => o.value ∈ labels) = true
      rw [houtcome]
      cases o <;> rfl
  · cases d.confidence with
    | none => rfl
    | some o =>
      show (c.labels? "confidence_enum").any (fun labels => confidenceName o ∈ labels) = true
      rw [hconfidence]
      cases o <;> rfl

theorem documents_missing (h : ¬ 2 ≤ height r) :
    (catalogAt g r).column? "research_documents" "id" = none := by
  cases r with
  | none => rfl
  | some r =>
    cases r with
    | devBaseTables => rfl
    | _ => simp at h

/-- The documents of the models fit the database from the revision on that has their table. -/
theorem docInsert_fits_iff (id : Uuid) (d : Doc) :
    (catalogAt g r).fits eval passes "research_documents" (docInsert id d) = true ↔ 2 ≤ height r := by
  by_cases h : 2 ≤ height r
  · refine iff_of_true ?_ h
    cases r with
    | none => simp at h
    | some r =>
      cases r with
      | devBaseTables => simp at h
      | researchTables => exact docInsert_fits rfl rfl rfl rfl id d
      | cancelReason => exact docInsert_fits rfl rfl rfl rfl id d
      | callbackDelivered => exact docInsert_fits rfl rfl rfl rfl id d
  · have hmem : ("id", given (.number id)) ∈ docInsert id d := by simp [docInsert]
    simp [h, Catalog.not_fits hmem (documents_missing h)]

end Inserts

/-- A command that succeeds leads from the catalog of a revision to that of another. -/
theorem outlined_lands {adds : Bool → Bool} {r : Option Revision} {c : Command Revision} {g : Bool}
    (h : Feasible adds r c) : ∃ g',
      outlined adds versions r (catalogAt g r) c = some (landing r c, catalogAt g' (landing r c)) := by
  cases c with
  | upgrade target => exact outlined_upgrade h
  | downgrade target => exact outlined_downgrade h

abbrev PgServer := Server String SqlValue SqlExpr

section Runs

variable {d : Ddl.Deployment Revision String SqlValue SqlExpr} {g : Bool}

theorem perform_at (srv : PgServer) (c : Command Revision) (hd : d.catalog = catalogAt g d.revision) :
    (Feasible srv.addsValue d.revision c ∧ ∃ d', perform srv versions d c = some d' ∧
      d'.revision = landing d.revision c ∧ ∃ g', d'.catalog = catalogAt g' d'.revision) ∨
    (¬ Feasible srv.addsValue d.revision c ∧ perform srv versions d c = none) := by
  have hout := perform_outlined srv d c versions_oneWay
  rw [hd] at hout
  by_cases h : Feasible srv.addsValue d.revision c
  · obtain ⟨g', hg'⟩ := outlined_lands h
    obtain ⟨d', hd', heq⟩ := Option.map_eq_some_iff.mp (hout.trans hg')
    obtain ⟨hrev, hcat⟩ := Prod.mk.inj heq
    exact .inl ⟨h, d', hd', hrev, g', hrev ▸ hcat⟩
  · exact .inr ⟨h, Option.map_eq_none_iff.mp (hout.trans (outlined_refused h))⟩

end Runs

variable (srv : PgServer) (es : List (Ddl.Event Revision String SqlValue))

/-- The catalog of every run is the one of the revision that it records. -/
theorem deployed_catalog : ∃ g,
    (deployed srv versions es).catalog = catalogAt g (deployed srv versions es).revision := by
  refine deployed_at (fun r c => ∃ g, c = catalogAt g r) ⟨false, rfl⟩ ?_ es
  rintro d d' c ⟨g, hg⟩ h
  obtain ⟨-, d'', hd'', -, hat⟩ | ⟨-, hnone⟩ := perform_at srv c hg
  · obtain rfl := Option.some.inj (hd''.symm.trans h)
    exact hat
  · cases hnone.symm.trans h

/-- After any commands and any writes in between: whether a further command succeeds is decided by the
recorded revision and the server alone, and one that succeeds leaves the revision and the catalog that it
asks for, and the cells. -/
theorem command_exact (c : Command Revision) :
    ((perform srv versions (deployed srv versions es) c).isSome = true ↔
      Feasible srv.addsValue (deployed srv versions es).revision c) ∧
    ∀ d', perform srv versions (deployed srv versions es) c = some d' →
      d'.revision = landing (deployed srv versions es).revision c ∧
      (∃ g, d'.catalog = catalogAt g d'.revision) ∧ Carried srv (deployed srv versions es) d' := by
  obtain ⟨g, hg⟩ := deployed_catalog srv es
  obtain ⟨hfeasible, d', hd', hrev, hat⟩ | ⟨hfeasible, hnone⟩ := perform_at srv c hg
  · refine ⟨by simp [hd', hfeasible], fun d'' h => ?_⟩
    obtain rfl := Option.some.inj (hd'.symm.trans h)
    exact ⟨hrev, hat, perform_carried versions_oneWay h⟩
  · refine ⟨by simp [hnone, hfeasible], fun d'' h => ?_⟩
    cases hnone.symm.trans h

/-- `func.now()` and the other defaults of the scripts on some server. -/
def sampleServer : PgServer where
  addsValue := fun _ => true
  eval
    | .sql "false" => .value (.flag false)
    | .sql text | .quoted text | .nonempty text => .value (.text text)

/-- Two jobs that stood before `0004` have an undelivered callback after it. -/
theorem delivered_backfilled : ∃ d', perform sampleServer versions (deployed sampleServer versions
      [.command (.upgrade .cancelReason), .write fun _ => [fun _ => none, fun _ => none]])
        (.upgrade .callbackDelivered) = some d' ∧
    d'.cells "research_jobs" "callback_delivered" =
      [some (.value (.flag false)), some (.value (.flag false))] := by
  have hexact := command_exact sampleServer
    [.command (.upgrade .cancelReason), .write fun _ => [fun _ => none, fun _ => none]]
    (.upgrade .callbackDelivered)
  obtain ⟨d', hd'⟩ := Option.isSome_iff_exists.mp (hexact.1.mpr fun _ _ => rfl)
  obtain ⟨hrev, ⟨g, hg⟩, hcarried⟩ := hexact.2 d' hd'
  have hcolumn : d'.catalog.column? "research_jobs" "callback_delivered" =
      some callbackDeliveredColumn := by
    rw [hg, hrev]
    rfl
  exact ⟨d', hd', hcarried.added _ _ _ _ rfl rfl hcolumn⟩

/-- The rows that the models insert fit the tables: a job at the last revision only, and when it asks for
a type of document, which the models do not check; a document from `0001` on. -/
theorem inserts_fit_iff (id : Uuid) (updatedBy : Option Uuid) (j : Job) (d : Doc) :
    ((deployed srv versions es).catalog.fits srv.eval passes "research_jobs"
        (jobInsert id updatedBy j) = true ↔
      (deployed srv versions es).revision = some .callbackDelivered ∧ j.requestedDocTypes ≠ []) ∧
    ((deployed srv versions es).catalog.fits srv.eval passes "research_documents" (docInsert id d) =
        true ↔
      2 ≤ height (deployed srv versions es).revision) := by
  obtain ⟨g, hg⟩ := deployed_catalog srv es
  rw [hg]
  exact ⟨jobInsert_fits_iff id updatedBy j, docInsert_fits_iff id d⟩

end Migrations
end ResearchEngine
