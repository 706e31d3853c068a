import ResearchEngine.ClerkReferences
import ResearchEngine.SearchedAddress

/-! Fetches of clerk documents on one context: the calls that they make, and the references that
these calls carry. -/
namespace ResearchEngine
namespace Adapters

open PyText Legal Situs

/-- A fetch of a document that comes from the clerk's scrape. -/
inductive ClerkFetch
  | deed
  | plat
  | family (label : String) (read : ClerkDocs → Option String)

/-- A number without any digit but zero. -/
def zerosOnly (v : String) : Bool := v ≠ "" ∧ v.toList.all (· ∈ "0 ".toList)

def isDocuments : ScrapeCall → Bool
  | .appraisal _ _ => false
  | .documents _ _ _ => true

section Calls

variable [PyText] (dep : Deployment) (svc : ClerkServices) (src : SourceAnswers)
  {ctx : PropertyContext}

def ClerkFetch.fetch : ClerkFetch → PropertyContext → FetchedSource × PropertyContext
  | .deed => deedFetch dep src
  | .plat => platFetch dep src
  | .family label read => attemptClerk dep src label read

/-- The calls of fetches made one after the other. -/
def fetchCalls : List ClerkFetch → PropertyContext → List ScrapeCall
  | [], _ => []
  | f :: fs, ctx =>
    (scrapeCalls dep svc ctx).1 ++ fetchCalls fs (f.fetch dep (sourcesOf svc src) ctx).2

theorem portalPart_documents (attrs : Attrs) (appr : Option Appraisal) :
    (portalPart svc ctx attrs appr).2 = ((sourcesOf svc src).clerkDocs attrs appr).toOption.getD {} := by
  dsimp only [portalPart, sourcesOf]
  split
  · cases svc.fetchDocuments (platArg (deedReads attrs).legal appr) (deedArg (deedReads attrs)) with
    | ok docs => rfl
    | error e => rfl
  · rfl

theorem appraiserPart_record (ctx : PropertyContext) :
    (appraiserPart dep svc ctx).2 = recordForScrape dep (sourcesOf svc src) ctx := by
  unfold appraiserPart recordForScrape
  split <;> rfl

/-- The scrape with its calls gives what the scrape of the run gives. -/
theorem scrapeCalls_documents (ctx : PropertyContext) :
    (scrapeCalls dep svc ctx).2 = scrapeDocuments dep (sourcesOf svc src) ctx := by
  cases hdocs : ctx.clerkDocs with
  | some docs =>
    unfold scrapeCalls scrapeDocuments
    rw [hdocs]
  | none =>
    have hcalls : (scrapeCalls dep svc ctx).2.1 = if Scraped dep ctx then
        (portalPart svc ctx (ctx.parcel.parcels.headD []) (appraiserPart dep svc ctx).2).2 else {} := by
      unfold scrapeCalls
      rw [hdocs]
      dsimp only
      split <;> rfl
    have hrest : (scrapeCalls dep svc ctx).2.2 = { ctx with
        appr := (appraiserPart dep svc ctx).2
        clerkDocs := some (scrapeCalls dep svc ctx).2.1 } := by
      unfold scrapeCalls
      rw [hdocs]
    have hcontext : (scrapeDocuments dep (sourcesOf svc src) ctx).2 = { ctx with
        appr := recordForScrape dep (sourcesOf svc src) ctx
        clerkDocs := some (scrapeDocuments dep (sourcesOf svc src) ctx).1 } := by
      unfold scrapeDocuments
      rw [hdocs]
      rfl
    have hscraped : Scraped dep ctx ↔
        (ctx.parcelOk ∧ dep.clerkScraper ctx.countyFips ∧ !ctx.parcel.parcels.isEmpty) := by
      simp [Scraped]
    have hsame : (scrapeCalls dep svc ctx).2.1 = (scrapeDocuments dep (sourcesOf svc src) ctx).1 := by
      rw [hcalls, scrapeDocuments_fresh _ _ _ hdocs, appraiserPart_record dep svc src]
      by_cases hs : Scraped dep ctx
      · rw [if_pos hs, if_pos (hscraped.mp hs), portalPart_documents svc src]
        cases (sourcesOf svc src).clerkDocs (ctx.parcel.parcels.headD [])
            (recordForScrape dep (sourcesOf svc src) ctx) with
        | ok docs => rfl
        | error e => rfl
      · rw [if_neg hs, if_neg (mt hscraped.mpr hs)]
    refine Prod.ext hsame ?_
    rw [hrest, hcontext, hsame, appraiserPart_record dep svc src]

theorem ClerkFetch.fetch_context (f : ClerkFetch) (ctx : PropertyContext) :
    (f.fetch dep src ctx).2 = (scrapeDocuments dep src ctx).2 := by
  cases f <;> rfl

theorem scrapeCalls_keeps (ctx : PropertyContext) :
    ∃ docs, (scrapeCalls dep svc ctx).2.2.clerkDocs = some docs := by
  unfold scrapeCalls
  cases hdocs : ctx.clerkDocs with
  | some docs => exact ⟨docs, hdocs⟩
  | none => exact ⟨_, rfl⟩

variable {dep svc src}

/-- Behind the first fetch no call is made. -/
theorem fetchCalls_cached {docs : ClerkDocs} (fs : List ClerkFetch) (h : ctx.clerkDocs = some docs) :
    fetchCalls dep svc src fs ctx = [] := by
  induction fs generalizing ctx with
  | nil => rfl
  | cons f fs ih =>
    have hnone : (scrapeCalls dep svc ctx).1 = [] := by
      unfold scrapeCalls
      rw [h]
    have hsame : (f.fetch dep (sourcesOf svc src) ctx).2.clerkDocs = some docs := by
      rw [f.fetch_context, ← scrapeCalls_documents]
      unfold scrapeCalls
      rw [h]
      exact h
    rw [fetchCalls, hnone, List.nil_append]
    exact ih hsame

theorem fetchCalls_cons (f : ClerkFetch) (fs : List ClerkFetch) (ctx : PropertyContext) :
    fetchCalls dep svc src (f :: fs) ctx = (scrapeCalls dep svc ctx).1 := by
  obtain ⟨docs, hdocs⟩ := scrapeCalls_keeps dep svc ctx
  have hcached : (f.fetch dep (sourcesOf svc src) ctx).2.clerkDocs = some docs := by
    rw [f.fetch_context, ← scrapeCalls_documents]
    exact hdocs
  rw [fetchCalls, fetchCalls_cached fs hcached, List.append_nil]

/-- A context as it comes from phase 2: with an empty appraisal, and nothing scraped. -/
structure Unfetched (ctx : PropertyContext) : Prop where
  appr : ctx.appr = some {}
  clerkDocs : ctx.clerkDocs = none

/-- On such a context the appraiser is never asked. -/
theorem scrapeCalls_unfetched (h : Unfetched ctx) :
    (scrapeCalls dep svc ctx).1 =
      if Scraped dep ctx then (portalPart svc ctx (ctx.parcel.parcels.headD []) (some {})).1 else [] := by
  have happr : appraiserPart dep svc ctx = ([], some {}) := by
    unfold appraiserPart
    rw [h.appr, if_neg (by simp)]
  unfold scrapeCalls
  rw [h.clerkDocs]
  simp only [happr, List.nil_append]
  split <;> rfl

/-- What the plat argument is made of: the book and page of the legal, else the page of the
appraiser. -/
structure PlatSelected (legal : String) (page : Appraisal) (plat : Option PlatArg) : Prop where
  legals : ∀ b p, platRef legal = (some b, some p) → b ≠ "" →
    plat = some ⟨b, some p, subdivision legal⟩
  pages : ((platRef legal).1 = none ∨ (platRef legal).2 = none) →
    ∀ b, page.platBook = some b → b ≠ "" → plat = some ⟨b, page.platPage, subdivision legal⟩
  none : (platRef legal).1 = none → page.platBook = none → plat = none

/-- The tax roll has a book and a page. -/
def RollPair (r : DeedReads) : Prop := r.orBook ≠ "" ∧ r.orPage ≠ ""

/-- The legal has a book and a page of the official records. -/
def LegalPair (r : DeedReads) (b p : String) : Prop :=
  orRef r.legal = (some b, some p) ∧ b ≠ "" ∧ p ≠ ""

/-- What the deed argument is made of: the instrument number and the book and page of the tax
roll, or else of the legal; and without any of these the owner. -/
structure DeedSelected (r : DeedReads) (deed : Option DeedArg) : Prop where
  rolls : RollPair r → deed = some (.recorded r.clerkNo r.orBook r.orPage)
  legals : ¬ RollPair r → ∀ b p, LegalPair r b p → deed = some (.recorded r.clerkNo b p)
  numbers : ¬ RollPair r → (¬ ∃ b p, LegalPair r b p) → r.clerkNo ≠ "" →
    ∃ b p, deed = some (.recorded r.clerkNo b p) ∧ (b = "" ∨ p = "")
  owners : ¬ RollPair r → (¬ ∃ b p, LegalPair r b p) → r.clerkNo = "" →
    deed = if r.owner ≠ "" then some (.owned r.owner (subdivision r.legal)) else none

/-- No number of the arguments is made of zeros and blanks. -/
structure Nonzero (plat : Option PlatArg) (deed : Option DeedArg) : Prop where
  plat : ∀ a, plat = some a →
    zerosOnly a.book = false ∧ ∀ p, a.page = some p → zerosOnly p = false
  deed : ∀ n b p, deed = some (.recorded n b p) →
    zerosOnly n = false ∧ zerosOnly b = false ∧ zerosOnly p = false

/-- What fetches of clerk documents may ask, and with which references. -/
structure SelectsReferences (dep : Deployment) (svc : ClerkServices) (ctx : PropertyContext)
    (fs : List ClerkFetch) (calls : List ScrapeCall) : Prop where
  documentsOnce : calls.countP isDocuments ≤ 1
  appraisalOnce : calls.countP (fun c => !isDocuments c) ≤ 1
  consulted : fs ≠ [] → dep.appraiserSite ctx.countyFips = true → ctx.parcelId ≠ "" →
    .appraisal ctx.countyFips ctx.parcelId ∈ calls
  selected : ∀ county plat deed, .documents county plat deed ∈ calls →
    PlatSelected (deedReads (ctx.parcel.parcels.headD [])).legal
      (if dep.appraiserSite ctx.countyFips ∧ ctx.parcelId ≠ "" then svc.appraisal.toOption.getD {}
        else {}) plat ∧
    DeedSelected (deedReads (ctx.parcel.parcels.headD [])) deed ∧ Nonzero plat deed

/-- The references of the legal that are used have a digit other than zero. -/
structure LegalNonzero (r : DeedReads) : Prop where
  plat : ∀ b p, platRef r.legal = (some b, p) → b ≠ "" →
    zerosOnly b = false ∧ ∀ q, p = some q → zerosOnly q = false
  deed : ¬ RollPair r → ∀ b p, LegalPair r b p → zerosOnly b = false ∧ zerosOnly p = false

theorem numref_nonzero (v : String) : zerosOnly (numref v) = false := by
  unfold numref
  dsimp only
  split
  · rename_i h
    obtain ⟨c, hc, hzero⟩ := List.any_eq_true.mp h.2
    refine decide_eq_false fun hz => ?_
    have hmem := List.all_eq_true.mp hz.2 c hc
    exact absurd (of_decide_eq_true hmem) (of_decide_eq_true hzero)
  · rfl

theorem deedPair_roll {r : DeedReads} (h : RollPair r) : deedPair r = (r.orBook, r.orPage) := by
  unfold deedPair
  exact if_pos h

theorem deedPair_legal {r : DeedReads} {b p : String} (h : ¬ RollPair r) (hl : LegalPair r b p) :
    deedPair r = (b, p) := by
  obtain ⟨hor, hb, hp⟩ := hl
  unfold RollPair at h
  unfold deedPair
  rw [if_neg h, hor]
  simp [hb, hp]

theorem deedPair_none {r : DeedReads} (h : ¬ RollPair r) (hl : ¬ ∃ b p, LegalPair r b p) :
    deedPair r = (r.orBook, r.orPage) := by
  unfold RollPair at h
  unfold deedPair
  rw [if_neg h]
  cases hor : orRef r.legal with
  | mk lb lp =>
    cases lb with
    | none => simp
    | some b =>
      cases lp with
      | none => simp
      | some p =>
        refine if_neg fun hboth => hl ⟨b, p, hor, ?_, ?_⟩
        · simpa using hboth.1
        · simpa using hboth.2

theorem deedArg_pair {r : DeedReads} {b p : String} (h : deedPair r = (b, p)) :
    deedArg r = if r.clerkNo ≠ "" ∨ (b ≠ "" ∧ p ≠ "") then some (.recorded r.clerkNo b p)
      else if r.owner ≠ "" then some (.owned r.owner (subdivision r.legal)) else none := by
  unfold deedArg
  rw [h]

theorem deedArg_selected (r : DeedReads) : DeedSelected r (deedArg r) where
  rolls h := by
    rw [deedArg_pair (deedPair_roll h)]
    exact if_pos (Or.inr h)
  legals h b p hl := by
    rw [deedArg_pair (deedPair_legal h hl)]
    exact if_pos (Or.inr hl.2)
  numbers h hl hn := by
    rw [deedArg_pair (deedPair_none h hl), if_pos (Or.inl hn)]
    refine ⟨_, _, rfl, ?_⟩
    rcases not_and_or.mp h with hb | hp
    · exact Or.inl (not_not.mp hb)
    · exact Or.inr (not_not.mp hp)
  owners h hl hn := by
    have hno : ¬ (r.clerkNo ≠ "" ∨ (r.orBook ≠ "" ∧ r.orPage ≠ "")) :=
      not_or.mpr ⟨not_not.mpr hn, h⟩
    rw [deedArg_pair (deedPair_none h hl), if_neg hno]

/-- Without an appraisal the plat argument is the legal's reference. -/
theorem platArg_legal (legal : String) : platArg legal (some {}) =
    if (platRef legal).1.getD "" ≠ "" then
      some ⟨(platRef legal).1.getD "", (platRef legal).2, subdivision legal⟩
    else none := by
  simp [platArg]

theorem platArg_selected (legal : String) : PlatSelected legal {} (platArg legal (some {})) where
  legals b p h hb := by
    rw [platArg_legal, h]
    exact if_pos hb
  pages _ b h := by cases h
  none h _ := by
    rw [platArg_legal, h]
    exact if_neg (by simp)

theorem platArg_nonzero {legal : String} {a : PlatArg}
    (h : ∀ b p, platRef legal = (some b, p) → b ≠ "" →
      zerosOnly b = false ∧ ∀ q, p = some q → zerosOnly q = false)
    (ha : platArg legal (some {}) = some a) :
    zerosOnly a.book = false ∧ ∀ p, a.page = some p → zerosOnly p = false := by
  rw [platArg_legal] at ha
  split at ha
  · rename_i hb
    obtain rfl := Option.some.inj ha
    cases hp : platRef legal with
    | mk book page =>
      rw [hp] at hb
      cases book with
      | none => exact (hb rfl).elim
      | some b => exact h b page hp hb
  · cases ha

theorem deedArg_nonzero {attrs : Attrs} {n b p : String} (h : LegalNonzero (deedReads attrs))
    (hd : deedArg (deedReads attrs) = some (.recorded n b p)) :
    zerosOnly n = false ∧ zerosOnly b = false ∧ zerosOnly p = false := by
  have hselected := deedArg_selected (deedReads attrs)
  have hnumber : zerosOnly (deedReads attrs).clerkNo = false := by
    simp only [deedReads]
    exact numref_nonzero _
  have hbook : zerosOnly (deedReads attrs).orBook = false := by
    simp only [deedReads]
    exact numref_nonzero _
  have hpage : zerosOnly (deedReads attrs).orPage = false := by
    simp only [deedReads]
    exact numref_nonzero _
  by_cases hroll : RollPair (deedReads attrs)
  · rw [hselected.rolls hroll] at hd
    obtain ⟨rfl, rfl, rfl⟩ := DeedArg.recorded.inj (Option.some.inj hd)
    exact ⟨hnumber, hbook, hpage⟩
  by_cases hlegal : ∃ b p, LegalPair (deedReads attrs) b p
  · obtain ⟨b', p', hl⟩ := hlegal
    rw [hselected.legals hroll b' p' hl] at hd
    obtain ⟨rfl, rfl, rfl⟩ := DeedArg.recorded.inj (Option.some.inj hd)
    exact ⟨hnumber, h.deed hroll b' p' hl⟩
  · rw [deedArg_pair (deedPair_none hroll hlegal)] at hd
    split at hd
    · obtain ⟨rfl, rfl, rfl⟩ := DeedArg.recorded.inj (Option.some.inj hd)
      exact ⟨hnumber, hbook, hpage⟩
    · split at hd
      · cases hd
      · cases hd

theorem nonzero_iff (attrs : Attrs) :
    Nonzero (platArg (deedReads attrs).legal (some {})) (deedArg (deedReads attrs)) ↔
      LegalNonzero (deedReads attrs) := by
  constructor
  · intro h
    constructor
    · intro b p hp hb
      apply h.plat ⟨b, p, subdivision (deedReads attrs).legal⟩
      rw [platArg_legal, hp]
      exact if_pos hb
    · intro hroll b p hl
      exact (h.deed _ b p ((deedArg_selected _).legals hroll b p hl)).2
  · exact fun h => ⟨fun _ => platArg_nonzero h.plat, fun _ _ _ => deedArg_nonzero h⟩

/-- A reference that is used is one that the portal is asked for. -/
theorem portalPart_calls (svc : ClerkServices) (attrs : Attrs) (appr : Option Appraisal) :
    (portalPart svc ctx attrs appr).1 =
      let plat := platArg (deedReads attrs).legal appr
      let deed := deedArg (deedReads attrs)
      if plat ≠ none ∨ deed ≠ none then [.documents ctx.countyFips plat deed] else [] := by
  unfold portalPart
  dsimp only
  split <;> rfl

/-- No call is right when there is no fetch, or no appraiser to ask. -/
theorem selects_nothing {fs : List ClerkFetch}
    (h : fs ≠ [] → ¬ (dep.appraiserSite ctx.countyFips = true ∧ ctx.parcelId ≠ "")) :
    SelectsReferences dep svc ctx fs [] :=
  ⟨Nat.zero_le _, Nat.zero_le _, fun hfs hsite hid => (h hfs ⟨hsite, hid⟩).elim,
    fun _ _ _ hmem => by cases hmem⟩

/-- Fetches on an unfetched context ask at most once, and select as they should exactly when there
is no appraiser to ask and no zero number to drop. -/
theorem unfetched_selects_iff (h : Unfetched ctx) (svc : ClerkServices) (src : SourceAnswers)
    (fs : List ClerkFetch) :
    SelectsReferences dep svc ctx fs (fetchCalls dep svc src fs ctx) ↔
      fs = [] ∨ ¬ (dep.appraiserSite ctx.countyFips = true ∧ ctx.parcelId ≠ "") ∧
        (Scraped dep ctx → LegalNonzero (deedReads (ctx.parcel.parcels.headD []))) := by
  cases fs with
  | nil =>
    exact iff_of_true (selects_nothing fun h => (h rfl).elim) (Or.inl rfl)
  | cons f fs =>
    rw [fetchCalls_cons, scrapeCalls_unfetched h, portalPart_calls]
    have hplat := platArg_selected (deedReads (ctx.parcel.parcels.headD [])).legal
    have hdeed := deedArg_selected (deedReads (ctx.parcel.parcels.headD []))
    have hnonzero := nonzero_iff (ctx.parcel.parcels.headD [])
    dsimp only
    generalize platArg (deedReads (ctx.parcel.parcels.headD [])).legal (some {}) = plat at *
    generalize deedArg (deedReads (ctx.parcel.parcels.headD [])) = deed at *
    constructor
    · intro hsel
      refine Or.inr ⟨fun ⟨hsite, hid⟩ => ?_, fun hs => ?_⟩
      · have hasked := hsel.consulted (by simp) hsite hid
        split at hasked
        · split at hasked
          · simp at hasked
          · cases hasked
        · cases hasked
      · rw [← hnonzero]
        by_cases hcall : plat ≠ none ∨ deed ≠ none
        · rw [if_pos hs, if_pos hcall] at hsel
          exact (hsel.selected ctx.countyFips plat deed (List.mem_singleton.mpr rfl)).2.2
        · obtain ⟨hno, hno'⟩ := not_or.mp hcall
          rw [not_not.mp hno, not_not.mp hno']
          exact ⟨fun _ h => (by cases h), fun _ _ _ h => (by cases h)⟩
    · rintro (hnil | ⟨hsite, hlegal⟩)
      · cases hnil
      by_cases hs : Scraped dep ctx
      · rw [if_pos hs]
        split
        · refine ⟨by simp [isDocuments], by simp [isDocuments], fun _ h1 h2 => (hsite ⟨h1, h2⟩).elim,
            fun county plat' deed' hmem => ?_⟩
          obtain ⟨rfl, rfl, rfl⟩ := ScrapeCall.documents.inj (List.mem_singleton.mp hmem)
          rw [if_neg hsite]
          exact ⟨hplat, hdeed, hnonzero.mpr (hlegal hs)⟩
        · exact selects_nothing fun _ => hsite
      · rw [if_neg hs]
        exact selects_nothing fun _ => hsite

/-- What phase 2 returns has an empty appraisal and no documents. -/
theorem unfetched_of_returned [PyFloat] {geo : GeocoderAnswers} {sv : ParcelServices}
    {staging : Staging} {args : ResearchArgs}
    (h : Context.resolvePropertyContext dep geo sv staging args = .ok ctx) : Unfetched ctx := by
  obtain ⟨found, p, -, hctx⟩ := Context.resolvePropertyContext_ok h
  exact ⟨hctx.appr, hctx.clerkDocs⟩

/-- Any fetches on a context of phase 2 ask each service at most once; they ask all they should,
and with no reference of zeros, exactly when no fetch is made, or there is no appraiser to ask and
the numbers used of the legal are not zeros. -/
theorem fetches_select_iff [PyFloat] {geo : GeocoderAnswers} {sv : ParcelServices}
    {staging : Staging} {args : ResearchArgs}
    (h : Context.resolvePropertyContext dep geo sv staging args = .ok ctx) (svc : ClerkServices)
    (src : SourceAnswers) (fs : List ClerkFetch) :
    SelectsReferences dep svc ctx fs (fetchCalls dep svc src fs ctx) ↔
      fs = [] ∨ ¬ (dep.appraiserSite ctx.countyFips = true ∧ ctx.parcelId ≠ "") ∧
        (Scraped dep ctx → LegalNonzero (deedReads (ctx.parcel.parcels.headD []))) :=
  unfetched_selects_iff (unfetched_of_returned h) svc src fs

end Calls

section Concrete

open scoped PyText.Ascii PyFloat.Whole
open Context

/-- The sample county with a scraping adapter, and maybe an appraiser's site. -/
def wiredDeployment (site : Bool) : Deployment :=
  { sampleDeployment with clerkScraper := fun _ => true, appraiserSite := fun _ => site }

def wiredResolution (site : Bool) : Except PyErr PropertyContext :=
  resolvePropertyContext (wiredDeployment site) (sampleGeocoder "9 OAK AVE, TAMPA, FL" hillsborough)
    (sampleLayers "9 OAK AVE" "A-1") sampleStaging { address := "9 Oak Avenue" }

/-- Services that have nothing. -/
def emptyServices : ClerkServices where
  appraisal := .ok {}
  fetchDocuments _ _ := .ok {}

theorem fetches_select_sample :
    ∃ ctx, wiredResolution false = .ok ctx ∧
      SelectsReferences (wiredDeployment false) emptyServices ctx [.plat, .deed, .plat]
        (fetchCalls (wiredDeployment false) emptyServices Fetching.sampleSources
          [.plat, .deed, .plat] ctx) := by
  obtain ⟨ctx, hctx, hp⟩ := succeeds_iff.mp (show succeeds (wiredResolution false) (fun ctx =>
    (platRef (deedReads (ctx.parcel.parcels.headD [])).legal).1 = none ∧
      orRef (deedReads (ctx.parcel.parcels.headD [])).legal = (none, none)) = true by decide +kernel)
  obtain ⟨hplat, hor⟩ := of_decide_eq_true hp
  refine ⟨ctx, hctx, (fetches_select_iff hctx _ _ _).mpr (Or.inr ⟨?_, fun _ => ⟨?_, ?_⟩⟩)⟩
  · rintro ⟨hsite, -⟩
    cases hsite
  · intro b p h
    rw [h] at hplat
    cases hplat
  · rintro - b p ⟨h, -⟩
    rw [hor] at h
    cases h

/-- The appraiser of a wired county is not asked. -/
theorem appraiser_never_asked :
    ¬ ∀ (dep : Deployment) (geo : GeocoderAnswers) (sv : ParcelServices) (staging : Staging)
      (args : ResearchArgs) (ctx : PropertyContext) (svc : ClerkServices) (src : SourceAnswers)
      (fs : List ClerkFetch), resolvePropertyContext dep geo sv staging args = .ok ctx →
      SelectsReferences dep svc ctx fs (fetchCalls dep svc src fs ctx) := by
  intro hall
  obtain ⟨ctx, hctx, hp⟩ := succeeds_iff.mp (show succeeds (wiredResolution true)
    (fun ctx => ctx.parcelId ≠ "") = true by decide +kernel)
  have hselects := hall _ _ _ _ _ ctx emptyServices Fetching.sampleSources [.deed] hctx
  rcases (unfetched_selects_iff (unfetched_of_returned hctx) _ _ _).mp hselects with hnil | ⟨hsite, -⟩
  · cases hnil
  · exact hsite ⟨rfl, of_decide_eq_true hp⟩

end Concrete

end Adapters
end ResearchEngine
