import ResearchEngine.DocumentCall
import ResearchEngine.SearchedAddress
import ResearchEngine.UndisturbedRun

/-! How many property contexts one `research_job` run works with: its worker calls
`document_fetcher` with one document type at a time, and every call resolves anew. -/
namespace ResearchEngine
namespace Fetching

open TransitionRuns JobMachine

/-- The resolver's outcomes that a step adds, in order. -/
def added (before after : World) : List (Except PyErr PropertyContext) :=
  (after.resolutions.take (after.resolutions.length - before.resolutions.length)).reverse

theorem added_self (w : World) : added w w = [] := by simp [added]

theorem added_cons {before after : World} {r : Except PyErr PropertyContext}
    (h : after.resolutions = r :: before.resolutions) : added before after = [r] := by
  simp [added, h]

/-- Everything that the steps of one run had the resolver answer, in order. -/
def resolvedBy {I : Type} (ms : List (Moment World × WorkerAct I)) :
    List (Except PyErr PropertyContext) :=
  ms.flatMap fun p => added p.1.before p.1.after

/-- Only the fetches of a run resolve anything. -/
theorem resolvedBy_fetches {I : Type} {F : Fetcher I World} {c c' : Solo}
    {ms : List (Moment World × WorkerAct I)} (h : SoloRun F c ms c') :
    resolvedBy ms = (fetches ms).flatMap fun w => added w.1 w.2 := by
  induction h with
  | refl c => rfl
  | @cons c p ps e c' hc hout _ ih =>
    have hquiet : (∀ input, p.2 ≠ .receive input) → added p.1.before p.1.after = [] := by
      intro hact
      rw [← hout, hc.outside hact]
      exact added_self _
    have hsplit : resolvedBy (p :: ps) = added p.1.before p.1.after ++ resolvedBy ps := rfl
    rw [hsplit, ih]
    obtain ⟨m, act⟩ := p
    cases act with
    | receive input => rfl
    | _ => rw [hquiet (by simp)]; rfl

section Run

variable [PyText] [PyFloat] {A : Type} {eng : Engine A} {cfg : Settings}

/-- A row that the worker commits for a document researched in one resolved property. -/
def MadeFrom (eng : Engine A) (order : OrderData) (tenantId : Uuid)
    (resolved : Except PyErr PropertyContext) (row row' : Doc) : Prop :=
  ∃ input ev stamps,
    row' = settledRow (outcomeOn eng input order tenantId row.docType resolved ev).1 stamps row

/-- The property is resolved once in the run, and each document of the job is made
from what was resolved. -/
def OneProperty (eng : Engine A) (task : Task) (order : Option OrderData)
    (ms : List (Moment World × WorkerAct (ResearchInput A))) (σ τ : State World) : Prop :=
  ∃ resolved, resolvedBy ms = [resolved] ∧ ∀ p ∈ σ.store.docsForJob task.jobId,
    ∃ o row', order = some o ∧ τ.store.docs.get p.1 = some row' ∧
      MadeFrom eng o task.tenantId resolved p.2 row'

variable {run : ℕ} {task : Task} {started : Time} {first listing : List Uuid}
  {order : Option OrderData} {inputs : List (ResearchInput A)} {σ τ : State World}
  {as : List (Action (ResearchInput A))}

/-- The resolver runs once for every document. -/
theorem resolvedBy_visits {ms : List (Moment World × WorkerAct (ResearchInput A))}
    {visits : List (Visit (ResearchInput A) World)} {j : Job}
    (h : SoloRun (documentFetcher eng) (σ.solo run) ms (τ.solo run))
    (hc : Concluded (documentFetcher eng) task started order ms visits j σ τ) :
    resolvedBy ms = visits.flatMap fun v =>
      (order.map fun o => resolveOrder eng v.input o [v.row.docType]).toList := by
  rw [resolvedBy_fetches h, hc.fetched, List.flatMap_map]
  refine congrArg (List.flatMap · visits) (funext fun v => ?_)
  cases order with
  | none => exact added_self _
  | some o =>
    rw [Visit.result, documentFetcher_call]
    exact added_cons rfl

/-- A run that nothing disturbs works with one property exactly when its order is found
and its job has one document. -/
theorem one_property_iff (eng : Engine A) (cfg : Settings) (run : ℕ) (task : Task) (started : Time)
    (first listing : List Uuid) (order : Option OrderData) (inputs : List (ResearchInput A))
    (σ τ : State World) (as : List (Action (ResearchInput A)))
    (hfresh : σ.runs run = startRun task started)
    (h : Runs (step (documentFetcher eng) cfg) (Undisturbed (documentFetcher eng) cfg run) σ as τ)
    (hm : as.filterMap (Action.ofRun run) = sitting first listing order inputs) :
    OneProperty eng task order (moments (documentFetcher eng) cfg run σ as) σ τ ↔
      order.isSome = true ∧ (σ.store.docsForJob task.jobId).length = 1 := by
  obtain ⟨visits, j, -, -, hc⟩ := concluded_of_runs hfresh h hm
  have hresolved := resolvedBy_visits (solo_of_runs h) hc
  have hlen : visits.length = (σ.store.docsForJob task.jobId).length := by
    simpa [Store.docKeys] using hc.listed.length_eq
  rw [← hlen]
  constructor
  · rintro ⟨resolved, honce, -⟩
    rw [hresolved] at honce
    cases order with
    | none => exact absurd (congrArg List.length honce) (by simp [List.length_flatMap])
    | some o =>
      have hone := congrArg List.length honce
      simp only [Option.map_some, Option.toList_some, List.length_flatMap, List.length_singleton]
        at hone
      exact ⟨rfl, by simpa using hone⟩
  · rintro ⟨hsome, hone⟩
    obtain ⟨o, rfl⟩ := Option.isSome_iff_exists.mp hsome
    obtain ⟨v, rfl⟩ := List.length_eq_one_iff.mp hone
    refine ⟨resolveOrder eng v.input o [v.row.docType], by simpa using hresolved, fun p hp => ?_⟩
    have hkey : p.1 = v.doc := by
      have hmem := hc.listed.mem_iff.mpr (List.mem_map_of_mem (f := Prod.fst) hp)
      simpa using hmem
    have hrow : p.2 = v.row := by
      have hget := ((Table.mem_select_iff _ _ _ _).mp hp).1
      rw [hkey, hc.rows v List.mem_cons_self] at hget
      exact (Option.some.inj hget).symm
    obtain ⟨stamps, hsettled⟩ := hc.settled v List.mem_cons_self
    rw [← hkey] at hsettled
    refine ⟨o, _, rfl, hsettled, v.input, v.before.evidence, stamps, ?_⟩
    rw [hrow, Visit.result, documentFetcher_call]

end Run

section Concrete

open scoped PyText.Ascii PyFloat.Whole

/-- Job 7 for the named types, created and enqueued. -/
def createdState (types : List String) (docs : List Uuid) : State World :=
  outcome (step (documentFetcher sampleEngine) {}) (State.start default 0)
    [.api 0 (.create { sampleRequest with docTypes := types }), .api 0 (.check (some sampleOrder)),
      .api 0 (.insert 7 8 docs), .api 0 .refresh, .api 0 (.enqueue true)]

def sampleTask : Task := { jobId := 7, tenantId := 1, actorId := 2 }

/-- The job's task handed to run 0. -/
def startedState (types : List String) (docs : List Uuid) : State World :=
  (createdState types docs).afterDeliver 0 0 sampleTask

theorem startedState_run (types : List String) (docs : List Uuid) :
    (startedState types docs).runs 0 = startRun sampleTask (createdState types docs).now := by
  show Function.update (createdState types docs).runs 0 _ 0 = _
  exact Function.update_self ..

/-- The steps of run 0 when it has the machine to itself. -/
def soleRun (docs : List Uuid) (inputs : List (ResearchInput SourceAnswers)) :
    List (Action (ResearchInput SourceAnswers)) :=
  (sitting docs docs (some sampleOrder) inputs).map (.worker 0)

def ranState (types : List String) (docs : List Uuid)
    (inputs : List (ResearchInput SourceAnswers)) : State World :=
  outcome (step (documentFetcher sampleEngine) {}) (startedState types docs) (soleRun docs inputs)

theorem soleRun_runs {types : List String} {docs : List Uuid}
    {inputs : List (ResearchInput SourceAnswers)}
    (h : (exec (step (documentFetcher sampleEngine) {}) (startedState types docs)
      (soleRun docs inputs)).isSome = true) :
    Runs (step (documentFetcher sampleEngine) {}) (Undisturbed (documentFetcher sampleEngine) {} 0)
      (startedState types docs) (soleRun docs inputs) (ranState types docs inputs) :=
  undisturbed_of_exec (exec_outcome h)

/-- A job for one document type. -/
theorem one_property_of_parcel_job :
    OneProperty sampleEngine sampleTask (some sampleOrder)
      (moments (documentFetcher sampleEngine) {} 0 (startedState ["parcel"] [10])
        (soleRun [10] [sampleInput "1 MAIN ST" "A-1"]))
      (startedState ["parcel"] [10]) (ranState ["parcel"] [10] [sampleInput "1 MAIN ST" "A-1"]) := by
  have hlisted : ((startedState ["parcel"] [10]).store.docsForJob 7).length = 1 := by
    decide +kernel
  exact (one_property_iff sampleEngine {} 0 sampleTask _ [10] [10] (some sampleOrder)
    [sampleInput "1 MAIN ST" "A-1"] _ _ _ (startedState_run _ _)
    (soleRun_runs (by decide +kernel)) (ofRun_worker _ _)).mpr ⟨rfl, hlisted⟩

/-- Between the two fetches of a job the parcel layers come to answer with another
parcel for the same address. -/
def movedParcel : List (ResearchInput SourceAnswers) :=
  [sampleInput "1 MAIN ST" "A-1", sampleInput "1 MAIN ST" "B-2"]

/-- The parcel of every context that the resolver answered a run. -/
def parcelsOf {I : Type} (ms : List (Moment World × WorkerAct I)) : List String :=
  (resolvedBy ms).map fun r => match r with
    | .ok ctx => ctx.parcelId
    | .error _ => ""

theorem two_parcels_in_one_job :
    parcelsOf (moments (documentFetcher sampleEngine) {} 0
        (startedState ["parcel", "deed"] [10, 11]) (soleRun [10, 11] movedParcel)) = ["A-1", "B-2"] ∧
      ¬ ∀ (σ τ : State World) (as : List (Action (ResearchInput SourceAnswers))) (run : ℕ)
        (task : Task) (started : Time) (first listing : List Uuid) (order : Option OrderData)
        (inputs : List (ResearchInput SourceAnswers)),
        Reachable (documentFetcher sampleEngine) {} σ → σ.runs run = startRun task started →
        Runs (step (documentFetcher sampleEngine) {})
          (Undisturbed (documentFetcher sampleEngine) {} run) σ as τ →
        as.filterMap (Action.ofRun run) = sitting first listing order inputs →
        OneProperty sampleEngine task order (moments (documentFetcher sampleEngine) {} run σ as)
          σ τ := by
  have hparcels : parcelsOf (moments (documentFetcher sampleEngine) {} 0
      (startedState ["parcel", "deed"] [10, 11]) (soleRun [10, 11] movedParcel)) = ["A-1", "B-2"] := by
    decide +kernel
  refine ⟨hparcels, fun hall => ?_⟩
  have hcreated : Runs (step (documentFetcher sampleEngine) {}) Always (State.start default 0) _
      (createdState ["parcel", "deed"] [10, 11]) := .of_exec (exec_outcome (by decide +kernel))
  have hdeliver : step (documentFetcher sampleEngine) {} (createdState ["parcel", "deed"] [10, 11])
      (.deliver 0 0) = some (startedState ["parcel", "deed"] [10, 11]) := by
    have hfree : Phase.fresh ((createdState ["parcel", "deed"] [10, 11]).runs 0).phase = true := by
      decide +kernel
    have htask : (createdState ["parcel", "deed"] [10, 11]).queue[0]? = some sampleTask := by
      decide +kernel
    rw [step, if_pos hfree, htask]
    rfl
  have hreach : Reachable (documentFetcher sampleEngine) {}
      (startedState ["parcel", "deed"] [10, 11]) :=
    ⟨_, _, _, hcreated.append (.single hdeliver trivial)⟩
  obtain ⟨resolved, honce, -⟩ := hall _ _ (soleRun [10, 11] movedParcel) 0 sampleTask _ [10, 11]
    [10, 11] (some sampleOrder) movedParcel hreach (startedState_run _ _)
    (soleRun_runs (by decide +kernel)) (ofRun_worker _ _)
  have htwo := congrArg List.length hparcels
  rw [parcelsOf, List.length_map, honce] at htwo
  simp at htwo

end Concrete

end Fetching
end ResearchEngine
