import ResearchEngine.ResearchRun
import ResearchEngine.SourceCrash
import ResearchEngine.ResultRelation

/-! A document's step does not depend on which other documents the run fetches: what one
adapter leaves on the context changes no answer of the others. -/
namespace ResearchEngine

open Adapters

/-- The context as the steps of a run see it: without its scratch part, and with what the
clerk scrape of the run comes to. -/
def PropertyContext.scraped (dep : Deployment) (src : SourceAnswers) (ctx : PropertyContext) :
    PropertyContext :=
  { ctx.settled with clerkDocs := some (scrapeDocuments dep src ctx).1 }

def PropertyContext.withRecord (ctx : PropertyContext) (appr : Option Appraisal) : PropertyContext :=
  { ctx with appr := appr }

namespace Adapters

variable (dep : Deployment) (src : SourceAnswers) (ctx : PropertyContext)

@[simp] theorem scraped_logged (records : List ManifestEntry) :
    { ctx with manifest := records }.scraped dep src = ctx.scraped dep src := by
  unfold PropertyContext.scraped scrapeDocuments
  cases ctx.clerkDocs <;> rfl

/-- A scrape is made once: the next document finds its answer. -/
@[simp] theorem scraped_scrapeDocuments :
    (scrapeDocuments dep src ctx).2.scraped dep src = ctx.scraped dep src := by
  unfold PropertyContext.scraped scrapeDocuments
  cases h : ctx.clerkDocs with
  | none => rfl
  | some docs =>
    simp only [h]

@[simp] theorem scraped_scraped : (ctx.scraped dep src).scraped dep src = ctx.scraped dep src := rfl

/-- The adapter answers from what `scraped` shows, and leaves that as it was. -/
structure Steady (a : SourceAdapter) : Prop where
  fetch_keeps : ∀ ctx, (a.fetch ctx).2.scraped dep src = ctx.scraped dep src
  fallback : ∀ ctx, (a.fallback ctx).1 = (a.fallback (ctx.scraped dep src)).1
  fallback_keeps : ∀ ctx, (a.fallback ctx).2.scraped dep src = ctx.scraped dep src

variable {dep src} in
theorem Steady.fallback_congr {a : SourceAdapter} (h : Steady dep src a) {c c' : PropertyContext}
    (hc : c.scraped dep src = c'.scraped dep src) : (a.fallback c).1 = (a.fallback c').1 := by
  rw [h.fallback c, hc, ← h.fallback c']

theorem deedFetch_scraped [PyText] :
    (deedFetch dep src ctx).1 = (deedFetch dep src (ctx.scraped dep src)).1 := by
  unfold deedFetch PropertyContext.scraped scrapeDocuments
  cases ctx.clerkDocs <;> rfl

theorem platFetch_scraped :
    (platFetch dep src ctx).1 = (platFetch dep src (ctx.scraped dep src)).1 := by
  unfold platFetch PropertyContext.scraped scrapeDocuments
  cases ctx.clerkDocs <;> rfl

theorem attemptClerk_scraped (label : String) (family : ClerkDocs → Option String) :
    (attemptClerk dep src label family ctx).1 =
      (attemptClerk dep src label family (ctx.scraped dep src)).1 := by
  unfold attemptClerk PropertyContext.scraped scrapeDocuments
  cases ctx.clerkDocs <;> rfl

theorem clerkAdapter_scraped {fetch fallback : PropertyContext → FetchedSource × PropertyContext}
    (h : ∀ c, (fetch c).1 = (fetch (c.scraped dep src)).1) (appr : Option Appraisal) :
    ((clerkAdapter fetch fallback).fetch ctx).1 =
      ((clerkAdapter fetch fallback).fetch ((ctx.scraped dep src).withRecord appr)).1 := by
  have happr : (fetch ((ctx.scraped dep src).withRecord appr)).1 = (fetch (ctx.scraped dep src)).1 :=
    h ((ctx.scraped dep src).withRecord appr)
  exact congrArg Except.ok ((h ctx).trans happr.symm)

variable [PyText] [PyFloat] {dep src} {key : StepKey} {a : SourceAdapter}

theorem shipped_steady (h : shipped dep src key = some a) : Steady dep src a := by
  cases key with
  | parcel | appraiser | flood | benchmarks | glo | zoning =>
    obtain rfl := Option.some.inj h
    exact ⟨fun _ => rfl, fun _ => rfl, fun _ => rfl⟩
  | deed | plat =>
    obtain rfl := Option.some.inj h
    exact ⟨scraped_scrapeDocuments dep src, fun _ => rfl, fun _ => rfl⟩
  | adjoiners | easements | priorSurvey | condo =>
    obtain rfl := Option.some.inj h
    refine ⟨scraped_scrapeDocuments dep src, fun ctx => ?_, scraped_scrapeDocuments dep src⟩
    exact congrArg Except.ok (attemptClerk_scraped dep src ctx _ _)

/-- Only the appraiser's step looks at the appraiser record on the context. -/
theorem shipped_fetch (h : shipped dep src key = some a) (ctx : PropertyContext)
    (appr : Option Appraisal) (happr : key = .appraiser → appr = ctx.appr) :
    (a.fetch ctx).1 = (a.fetch ((ctx.scraped dep src).withRecord appr)).1 := by
  cases key with
  | appraiser =>
    obtain rfl := Option.some.inj h
    rw [happr rfl]
    rfl
  | parcel | flood | benchmarks | glo | zoning =>
    obtain rfl := Option.some.inj h
    rfl
  | deed =>
    obtain rfl := Option.some.inj h
    exact clerkAdapter_scraped dep src ctx (fun c => deedFetch_scraped dep src c) appr
  | plat =>
    obtain rfl := Option.some.inj h
    exact clerkAdapter_scraped dep src ctx (platFetch_scraped dep src) appr
  | adjoiners | easements | priorSurvey | condo =>
    obtain rfl := Option.some.inj h
    exact clerkAdapter_scraped dep src ctx (fun c => attemptClerk_scraped dep src c _ _) appr

/-- The parcel and the appraiser adapters come before the scrape, and leave the record alone. -/
theorem shipped_appr (h : shipped dep src key = some a) (hkey : key = .parcel ∨ key = .appraiser)
    (ctx : PropertyContext) :
    (a.fetch ctx).2.appr = ctx.appr ∧ (a.fallback ctx).2.appr = ctx.appr := by
  obtain rfl | rfl := hkey
  all_goals
    obtain rfl := Option.some.inj h
    exact ⟨rfl, rfl⟩

end Adapters

namespace Steps

variable {m : StepModel} {d : ResidentialDoc} {a : SourceAdapter}

/-! One turn. -/

theorem assembleStep_snd (ctx : PropertyContext) (fs : FetchedSource) (outcome : SourceOutcome)
    (error : Option ErrorInfo) (confidence : Confidence) :
    (assembleStep m ctx d fs outcome error confidence).2 = logRecords ctx fs := by
  unfold assembleStep
  split <;> rfl

theorem assembleStep_fst (ctx ctx' : PropertyContext) (fs : FetchedSource) (outcome : SourceOutcome)
    (error : Option ErrorInfo) (confidence : Confidence) :
    (assembleStep m ctx d fs outcome error confidence).1 =
      (assembleStep m ctx' d fs outcome error confidence).1 := by
  unfold assembleStep
  cases m.invalid fs <;> rfl

/-- A turn changes no more of the context than the adapter's two calls do, and the manifest. -/
theorem runOneWith_keeps {α : Type} (view : PropertyContext → α)
    (hlog : ∀ ctx fs, view (logRecords ctx fs) = view ctx)
    (hfetch : ∀ ctx, view (a.fetch ctx).2 = view ctx)
    (hfallback : ∀ ctx, view (a.fallback ctx).2 = view ctx) (ctx : PropertyContext) :
    view (runOneWith m d a ctx).2 = view ctx := by
  have hrecover : ∀ e ctx, view (recoverStep m d a e ctx).2 = view ctx := by
    intro e ctx
    have h := hfallback ctx
    unfold recoverStep
    generalize a.fallback ctx = fallen at h ⊢
    obtain ⟨e' | fs, ctx'⟩ := fallen
    · cases e with
      | source => exact h
      | http | network | other =>
        dsimp only
        rw [assembleStep_snd, hlog]
        exact h
    · dsimp only
      rw [assembleStep_snd, hlog]
      exact h
  have hattempt : view (attempt m d a ctx).2 = view ctx := by
    have h := hfetch ctx
    unfold attempt
    generalize a.fetch ctx = fetched at h ⊢
    obtain ⟨e | fs, ctx'⟩ := fetched
    · exact h
    · dsimp only
      rw [assembleStep_snd, hlog]
      exact h
  unfold runOneWith
  generalize attempt m d a ctx = attempted at hattempt ⊢
  obtain ⟨e | step, ctx'⟩ := attempted
  · exact (hrecover e ctx').trans hattempt
  · exact hattempt

theorem recoverStep_fst {ctx ctx' : PropertyContext} (h : (a.fallback ctx).1 = (a.fallback ctx').1)
    (e : PyErr) : (recoverStep m d a e ctx).1 = (recoverStep m d a e ctx').1 := by
  unfold recoverStep
  generalize a.fallback ctx = fallen at h ⊢
  generalize a.fallback ctx' = fallen' at h ⊢
  obtain ⟨result, c⟩ := fallen
  obtain ⟨result', c'⟩ := fallen'
  obtain rfl : result = result' := h
  cases result with
  | ok fs => exact assembleStep_fst c c' _ _ _ _
  | error e' =>
    cases e with
    | source => rfl
    | http | network | other => exact assembleStep_fst c c' _ _ _ _

/-- What a turn returns comes from what `fetch` returns, and from the fallback on what
`fetch` leaves. -/
theorem runOneWith_fst {ctx ctx' : PropertyContext} (hfetch : (a.fetch ctx).1 = (a.fetch ctx').1)
    (hfallback : ∀ records records',
      (a.fallback { (a.fetch ctx).2 with manifest := records }).1 =
        (a.fallback { (a.fetch ctx').2 with manifest := records' }).1) :
    (runOneWith m d a ctx).1 = (runOneWith m d a ctx').1 := by
  unfold runOneWith attempt
  generalize a.fetch ctx = fetched at hfetch hfallback ⊢
  generalize a.fetch ctx' = fetched' at hfetch hfallback ⊢
  obtain ⟨result, c⟩ := fetched
  obtain ⟨result', c'⟩ := fetched'
  obtain rfl : result = result' := hfetch
  cases result with
  | error e => exact recoverStep_fst (hfallback c.manifest c'.manifest) e
  | ok fs =>
    dsimp only
    unfold assembleStep
    cases m.invalid fs with
    | none => rfl
    | some message => exact recoverStep_fst (hfallback _ _) _

section Made

variable (m) (a) (ctx : PropertyContext)

/-- The answers that the step of a turn can be made from; a fallback answers on the context that
`fetch` leaves, with any manifest. -/
inductive MadeFrom : FetchedSource → Prop
  | fetched {fs} (hf : (a.fetch ctx).1 = .ok fs) (hyields : Yields m a ctx) : MadeFrom fs
  | fallen {fs} (records : List ManifestEntry) (hno : ¬ Yields m a ctx)
      (hb : (a.fallback { (a.fetch ctx).2 with manifest := records }).1 = .ok fs) : MadeFrom fs
  | lastResort {e} (records : List ManifestEntry) (hno : ¬ Yields m a ctx)
      (hb : (a.fallback { (a.fetch ctx).2 with manifest := records }).1 = .error e) :
      MadeFrom lastResort

variable {m a ctx} {step : StepResult}

theorem assembleStep_made {c : PropertyContext} {fs : FetchedSource} {outcome : SourceOutcome}
    {error : Option ErrorInfo} {confidence : Confidence}
    (h : (assembleStep m c d fs outcome error confidence).1 = .ok step) :
    step = (assemble ctx d fs outcome error confidence).1 := by
  unfold assembleStep at h
  split at h
  · cases h
  · exact (Except.ok.inj h).symm

theorem failure_context {e : PyErr} {c : PropertyContext} (h : failure m a ctx = some (e, c)) :
    ∃ records, c = { (a.fetch ctx).2 with manifest := records } := by
  unfold failure at h
  generalize a.fetch ctx = fetched at h ⊢
  obtain ⟨e' | fs, c'⟩ := fetched
  · obtain ⟨-, rfl⟩ := Prod.mk.inj (Option.some.inj h)
    exact ⟨_, rfl⟩
  · obtain ⟨message, -, heq⟩ := Option.map_eq_some_iff.mp h
    obtain ⟨-, rfl⟩ := Prod.mk.inj heq
    exact ⟨_, rfl⟩

/-- A step shows one answer: what `fetch` returned if that makes a step, and otherwise what the
fallback did, or the last resort when it raised. -/
theorem runOneWith_made (h : (runOneWith m d a ctx).1 = .ok step) :
    ∃ fs outcome error confidence, MadeFrom m a ctx fs ∧
      step = (assemble ctx d fs outcome error confidence).1 := by
  cases hf : failure m a ctx with
  | none =>
    have hyields := yields_iff.mpr hf
    unfold Yields at hyields
    cases hfetch : a.fetch ctx with
    | mk result c =>
      cases result with
      | error e =>
        rw [hfetch] at hyields
        exact hyields.elim
      | ok fs =>
        rw [hfetch] at hyields
        have hvalid : m.invalid fs = none := hyields
        unfold runOneWith attempt at h
        simp only [hfetch, assembleStep, hvalid] at h
        exact ⟨fs, _, _, _, .fetched (congrArg Prod.fst hfetch) (yields_iff.mpr hf),
          (Except.ok.inj h).symm⟩
  | some p =>
    obtain ⟨e, c⟩ := p
    obtain ⟨records, rfl⟩ := failure_context hf
    have hno : ¬ Yields m a ctx := fun hy => by simp [yields_iff.mp hy] at hf
    rw [runOneWith_of_failure hf] at h
    unfold recoverStep at h
    generalize hb : a.fallback { (a.fetch ctx).2 with manifest := records } = fallen at h
    obtain ⟨e' | fs, c'⟩ := fallen
    · cases e with
      | source => cases h
      | http | network | other =>
        exact ⟨_, _, _, _, .lastResort records hno (congrArg Prod.fst hb), assembleStep_made h⟩
    · exact ⟨fs, _, _, _, .fallen records hno (congrArg Prod.fst hb), assembleStep_made h⟩

end Made

section Shipped

variable [PyText] [PyFloat] (dep : Deployment) (src : SourceAnswers) (ctx : PropertyContext)

/-- Every document has a source, and its step shows one answer of that source. -/
theorem docTurn_made {step : StepResult} (h : (docTurn m (shipped dep src) d ctx).1 = .ok step) :
    ∃ a fs outcome error confidence, shipped dep src d.key = some a ∧ MadeFrom m a ctx fs ∧
      step = (assemble ctx d fs outcome error confidence).1 := by
  obtain ⟨a, ha⟩ : ∃ a, shipped dep src d.key = some a := by
    cases d.key <;> exact ⟨_, rfl⟩
  simp only [docTurn, ha] at h
  obtain ⟨fs, outcome, error, confidence, hmade, hstep⟩ := runOneWith_made h
  exact ⟨a, fs, outcome, error, confidence, ha, hmade, hstep⟩

theorem docTurn_scraped (m : StepModel) (d : ResidentialDoc) :
    (docTurn m (shipped dep src) d ctx).2.scraped dep src = ctx.scraped dep src := by
  unfold docTurn
  cases ha : shipped dep src d.key with
  | none =>
    dsimp only
    rw [assembleStep_snd]
    exact scraped_logged dep src ctx _
  | some a =>
    have hsteady := shipped_steady ha
    exact runOneWith_keeps (PropertyContext.scraped dep src) (fun c _ => scraped_logged dep src c _)
      hsteady.fetch_keeps hsteady.fallback_keeps ctx

theorem docTurn_appr (m : StepModel) {d : ResidentialDoc}
    (hkey : d.key = .parcel ∨ d.key = .appraiser) :
    (docTurn m (shipped dep src) d ctx).2.appr = ctx.appr := by
  unfold docTurn
  cases ha : shipped dep src d.key with
  | none =>
    dsimp only
    rw [assembleStep_snd]
    rfl
  | some a =>
    exact runOneWith_keeps PropertyContext.appr (fun _ _ => rfl)
      (fun c => (shipped_appr ha hkey c).1) (fun c => (shipped_appr ha hkey c).2) ctx

/-- A turn gives the same step on every context that shows it the same. -/
theorem docTurn_fst (m : StepModel) (d : ResidentialDoc) (appr : Option Appraisal)
    (happr : d.key = .appraiser → appr = ctx.appr) :
    (docTurn m (shipped dep src) d ctx).1 =
      (docTurn m (shipped dep src) d ((ctx.scraped dep src).withRecord appr)).1 := by
  unfold docTurn
  cases ha : shipped dep src d.key with
  | none => exact assembleStep_fst _ _ _ _ _ _
  | some a =>
    have hsteady := shipped_steady ha
    refine runOneWith_fst (shipped_fetch ha ctx appr happr) fun records records' => ?_
    have hleft := (scraped_logged dep src (a.fetch ctx).2 records).trans (hsteady.fetch_keeps ctx)
    have hright := (scraped_logged dep src _ records').trans
      (hsteady.fetch_keeps ((ctx.scraped dep src).withRecord appr))
    exact hsteady.fallback_congr (hleft.trans hright.symm)

/-- Every turn of the loop gives the step that it gives on the context of the run's start,
as long as the documents before the appraiser's leave its record alone. -/
theorem stepsForWith_turns (m : StepModel) (wanted : Option (List StepKey))
    {appr : Option Appraisal} {ds : List ResidentialDoc}
    (horder : ds.Pairwise fun d d' => d'.key = .appraiser → d.key = .parcel)
    (happr : (∃ d ∈ ds, d.key = .appraiser) → appr = ctx.appr) :
    (stepsForWith m (shipped dep src) wanted ds ctx).1 =
      (wantedDocs wanted ds).mapM fun d =>
        (docTurn m (shipped dep src) d ((ctx.scraped dep src).withRecord appr)).1 := by
  induction ds generalizing ctx with
  | nil => rfl
  | cons d ds ih =>
    obtain ⟨hd, horder⟩ := List.pairwise_cons.mp horder
    have hturn := docTurn_fst dep src ctx m d appr fun hkey =>
      happr ⟨d, List.mem_cons_self, hkey⟩
    by_cases hskip : (wanted.any fun keys => decide (d.key ∉ keys)) = true
    · have hrest := ih ctx horder fun ⟨d', hd', hkey⟩ => happr ⟨d', List.mem_cons_of_mem _ hd', hkey⟩
      simp only [stepsForWith, wantedDocs, List.filter_cons, hskip] at hrest ⊢
      exact hrest
    · have hafter := ih (docTurn m (shipped dep src) d ctx).2 horder fun ⟨d', hd', hkey⟩ => by
        rw [docTurn_appr dep src ctx m (.inl (hd d' hd' hkey))]
        exact happr ⟨d', List.mem_cons_of_mem _ hd', hkey⟩
      rw [docTurn_scraped] at hafter
      have hwanted : wantedDocs wanted (d :: ds) = d :: wantedDocs wanted ds :=
        List.filter_cons_of_pos (Bool.not_eq_true' _ ▸ eq_false_of_ne_true hskip)
      rw [hwanted, List.mapM_cons, stepsForWith, if_neg hskip, ← hturn, ← hafter]
      generalize docTurn m (shipped dep src) d ctx = made
      obtain ⟨e | step, ctx₁⟩ := made
      · rfl
      · dsimp only
        generalize stepsForWith m (shipped dep src) wanted ds ctx₁ = rest
        obtain ⟨e | steps, ctx₂⟩ := rest <;> rfl

/-- What `build_steps` returns, turn by turn, is told by the context that it starts from. -/
theorem buildStepsWith_turns (m : StepModel) (staging : Staging) (wanted : Option (List StepKey)) :
    (buildStepsWith m (shipped dep src) staging wanted ctx).1 =
      staging.docsDir.bind fun _ => (wantedDocs wanted residentialDocs).mapM fun d =>
        (docTurn m (shipped dep src) d ((ctx.scraped dep src).withRecord ctx.appr)).1 := by
  unfold buildStepsWith
  cases staging.docsDir with
  | error e => rfl
  | ok _ => exact stepsForWith_turns dep src ctx m wanted (by decide) fun _ => rfl

end Shipped

theorem docTurn_key {adapters : StepKey → Option SourceAdapter} {ctx : PropertyContext}
    {step : StepResult} (h : (docTurn m adapters d ctx).1 = .ok step) : step.key = d.key := by
  by_cases hcrash : Crashes m adapters d ctx
  · obtain ⟨e, he⟩ := docTurn_error hcrash
    rw [h] at he
    cases he
  · obtain ⟨step', hstep, hof⟩ := docTurn_ok hcrash
    obtain rfl := Except.ok.inj (h.symm.trans hstep)
    exact hof.key

/-- There is one reference document of a key. -/
theorem residentialDocs_key (key : StepKey) :
    ∃ d, residentialDocs.filter (fun d => d.key = key) = [d] := by
  cases key <;> exact ⟨_, rfl⟩

section Shipped

variable [PyText] [PyFloat] (dep : Deployment) (src : SourceAnswers) (ctx : PropertyContext)

/-- When every step is well-formed, a turn with a shipped adapter makes one. -/
theorem docTurn_total (hm : ∀ fs, m.invalid fs = none) (d : ResidentialDoc) :
    ∃ step, (docTurn m (shipped dep src) d ctx).1 = .ok step := by
  have hcrash : ¬ Crashes m (shipped dep src) d ctx := by
    rintro ⟨a, ha, e, ctx', -, hunguarded⟩
    obtain ⟨fs, hfs⟩ := shipped_fallback_ok ha ctx'
    rw [hfs] at hunguarded
    exact hunguarded (hm fs)
  obtain ⟨step, hstep, -⟩ := docTurn_ok hcrash
  exact ⟨step, hstep⟩

/-- Of the steps of a full run, a run with an include set makes those that it names. -/
theorem buildStepsWith_include (m : StepModel) {staging : Staging} (hdir : staging.docsDir = .ok ())
    (staging' : Staging) (keys : List StepKey) {all : List StepResult}
    (hall : (buildStepsWith m (shipped dep src) staging' none ctx).1 = .ok all) :
    (buildStepsWith m (shipped dep src) staging (some keys) ctx).1 =
        .ok (all.filter fun step => step.key ∈ keys) ∧
      ∀ key, ∃ step, all.filter (fun step => step.key = key) = [step] := by
  rw [buildStepsWith_turns] at hall
  cases hdir' : staging'.docsDir with
  | error e =>
    rw [hdir'] at hall
    cases hall
  | ok _ =>
    rw [hdir'] at hall
    have hturns : (residentialDocs.mapM fun d =>
        (docTurn m (shipped dep src) d ((ctx.scraped dep src).withRecord ctx.appr)).1) = .ok all := hall
    constructor
    · rw [buildStepsWith_turns, hdir]
      have hwanted := mapM_filter (p := fun d => d.key ∈ keys) (q := fun step => step.key ∈ keys)
        (fun d step hstep => by rw [docTurn_key hstep]) hturns
      have hdocs : wantedDocs (some keys) residentialDocs =
          residentialDocs.filter fun d => d.key ∈ keys := by simp [wantedDocs]
      rw [← hdocs] at hwanted
      exact hwanted
    · intro key
      obtain ⟨d, hd⟩ := residentialDocs_key key
      have hone := mapM_filter (p := fun d => d.key = key) (q := fun step => step.key = key)
        (fun d step hstep => by rw [docTurn_key hstep]) hturns
      rw [hd, List.mapM_cons] at hone
      obtain ⟨step, -, hone⟩ := bind_eq_ok.mp hone
      obtain ⟨rest, hrest, hone⟩ := bind_eq_ok.mp hone
      obtain rfl := Except.ok.inj hrest
      exact ⟨step, (Except.ok.inj hone).symm⟩

/-- When every step is well-formed, a run has its steps. -/
theorem buildStepsWith_total {m : StepModel} (hm : ∀ fs, m.invalid fs = none) {staging : Staging}
    (hdir : staging.docsDir = .ok ()) (wanted : Option (List StepKey)) :
    ∃ steps, (buildStepsWith m (shipped dep src) staging wanted ctx).1 = .ok steps := by
  rw [buildStepsWith_turns, hdir]
  exact mapM_total (docTurn_total dep src _ hm) _

/-- Every step of a run is a turn of one of the reference documents, on the context that the
run starts from. -/
theorem mem_buildStepsWith {m : StepModel} {staging : Staging} {wanted : Option (List StepKey)}
    {steps : List StepResult}
    (h : (buildStepsWith m (shipped dep src) staging wanted ctx).1 = .ok steps) {step : StepResult}
    (hstep : step ∈ steps) : ∃ d,
      (docTurn m (shipped dep src) d ((ctx.scraped dep src).withRecord ctx.appr)).1 = .ok step := by
  rw [buildStepsWith_turns] at h
  cases hdir : staging.docsDir with
  | error e =>
    rw [hdir] at h
    cases h
  | ok _ =>
    rw [hdir] at h
    obtain ⟨d, -, hd⟩ := mem_of_mapM h hstep
    exact ⟨d, hd⟩

/-- Which other documents a run fetches never changes a document's step: when a full run
returns, so does the run with an include set, from the same context, and the step of each
key of the set is the full run's. Without malformed steps the full run does return. -/
theorem step_independent_of_include (dep : Deployment) (svc : SourceServices)
    (ctx : PropertyContext) (m : StepModel) (staging staging' : Staging)
    (hdir : staging.docsDir = .ok ()) (hdir' : staging'.docsDir = .ok ()) (keys : List StepKey) :
    (∀ all, (buildStepsWith m (shipped dep (svc.answers ctx)) staging' none ctx).1 = .ok all →
      ∃ steps, (buildStepsWith m (shipped dep (svc.answers ctx)) staging (some keys) ctx).1 =
          .ok steps ∧
        ∀ key ∈ keys, ∃ step, steps.filter (fun step => step.key = key) = [step] ∧
          all.filter (fun step => step.key = key) = [step]) ∧
    ((∀ fs, m.invalid fs = none) →
      ∃ all, (buildStepsWith m (shipped dep (svc.answers ctx)) staging' none ctx).1 = .ok all) := by
  constructor
  · intro all hall
    obtain ⟨hsteps, hone⟩ := buildStepsWith_include dep (svc.answers ctx) ctx m hdir staging' keys hall
    refine ⟨_, hsteps, fun key hkey => ?_⟩
    obtain ⟨step, hstep⟩ := hone key
    refine ⟨step, ?_, hstep⟩
    rw [List.filter_filter, ← hstep]
    refine List.filter_congr fun step' _ => ?_
    by_cases hk : step'.key = key
    · simp [hk, hkey]
    · simp [hk]
  · intro hm
    exact buildStepsWith_total dep _ ctx hm hdir' none

end Shipped

section Concrete

open scoped PyText.Ascii PyFloat.Whole

/-- Sources that are all down. -/
def silentServices : SourceServices where
  saveParcelRecord _ _ _ := .error (.other "down")
  saveAppraiserRecord _ _ _ _ := .error (.other "down")
  fetchAppraisal _ _ := .error (.other "down")
  fetchDocuments _ _ _ := .error (.other "down")
  floodZones _ _ := .error (.network "down")
  floodPanels _ _ := .error (.network "down")
  saveFloodMap _ _ _ _ _ := .error (.other "down")
  saveFloodReport _ _ _ _ := .error (.other "down")
  marks _ _ := .error (.network "down")
  downloadDatasheets _ _ := .error (.other "down")

theorem step_independent_of_include_down : ∃ steps all : List StepResult,
    (buildStepsWith anyStep (shipped Context.sampleDeployment (silentServices.answers bareContext))
      Context.sampleStaging (some [.deed, .flood]) bareContext).1 = .ok steps ∧
    (buildStepsWith anyStep (shipped Context.sampleDeployment (silentServices.answers bareContext))
      Context.sampleStaging none bareContext).1 = .ok all ∧
    ∀ key ∈ [StepKey.deed, StepKey.flood], ∃ step,
      steps.filter (fun step => step.key = key) = [step] ∧
        all.filter (fun step => step.key = key) = [step] := by
  obtain ⟨hsame, htotal⟩ := step_independent_of_include Context.sampleDeployment silentServices
    bareContext anyStep Context.sampleStaging Context.sampleStaging rfl rfl [.deed, .flood]
  obtain ⟨all, hall⟩ := htotal fun _ => rfl
  obtain ⟨steps, hsteps, hone⟩ := hsame all hall
  exact ⟨steps, all, hsteps, hall, hone⟩

end Concrete

end Steps
end ResearchEngine
