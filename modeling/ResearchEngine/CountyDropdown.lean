import ResearchEngine.StepLinks
import ResearchEngine.ConfirmedParcel
import Mathlib.Data.List.Nodup

/-! The county dropdown: the links and the parcel service that it advertises for a county, and what
a job located in that county comes to. -/
namespace ResearchEngine

open PyText Situs Parcel Context

/-- One county of the bundled dataset. -/
structure CountyRow where
  fips : String
  name : String
  basename : String
  deriving DecidableEq, Repr

/-- `_counties_raw`: the counties of each state code. -/
structure CountiesRaw where
  rows : String → List CountyRow
  code : ∀ st, ∀ row ∈ rows st, String.ofList (row.fips.toList.take 2) = st
  named : ∀ st, ∀ row ∈ rows st, row.basename ≠ ""
  distinct : ∀ st, ((rows st).map CountyRow.fips).Nodup

/-- What `_annotate` returns, without the clerk's platform. -/
structure CountyEntry where
  fips : String
  name : String
  basename : String
  hasParcelApi : Bool
  clerkUrl : String
  appraiserUrl : Option String
  inRegistry : Bool
  deriving DecidableEq, Repr

namespace Geography

/-- `STATES`, without the names. -/
def states : List (String × String) :=
  [("01", "AL"), ("02", "AK"), ("04", "AZ"), ("05", "AR"), ("06", "CA"), ("08", "CO"), ("09", "CT"),
    ("10", "DE"), ("11", "DC"), ("12", "FL"), ("13", "GA"), ("15", "HI"), ("16", "ID"), ("17", "IL"),
    ("18", "IN"), ("19", "IA"), ("20", "KS"), ("21", "KY"), ("22", "LA"), ("23", "ME"), ("24", "MD"),
    ("25", "MA"), ("26", "MI"), ("27", "MN"), ("28", "MS"), ("29", "MO"), ("30", "MT"), ("31", "NE"),
    ("32", "NV"), ("33", "NH"), ("34", "NJ"), ("35", "NM"), ("36", "NY"), ("37", "NC"), ("38", "ND"),
    ("39", "OH"), ("40", "OK"), ("41", "OR"), ("42", "PA"), ("44", "RI"), ("45", "SC"), ("46", "SD"),
    ("47", "TN"), ("48", "TX"), ("49", "UT"), ("50", "VT"), ("51", "VA"), ("53", "WA"), ("54", "WV"),
    ("55", "WI"), ("56", "WY"), ("60", "AS"), ("66", "GU"), ("69", "MP"), ("72", "PR"), ("78", "VI")]

/-- `STATES.get(fips, ("", ""))[0]` -/
def abbrOf (fips : String) : String :=
  ((states.find? fun p => p.1 = fips).map Prod.snd).getD ""

/-- `county_name` -/
def countyName (data : CountiesRaw) (countyFips : String) : String :=
  (((data.rows (String.ofList (countyFips.toList.take 2))).find? fun row =>
    row.fips = countyFips).map CountyRow.basename).getD ""

section Annotate

variable [PyText]

/-- `state_fips` -/
def stateFips (state : String) : String :=
  let s := upper (strip state)
  if states.any fun p => p.1 = s then s
  else ((states.find? fun p => p.2 = s).map Prod.fst).getD ""

/-- `_annotate`; `idOnly` is the `id_only` of a statewide parcel service. -/
def annotate (reg : Registry) (idOnly : String → Bool) (fips abbr name basename : String) :
    CountyEntry :=
  let county := reg.lookup fips
  { fips := fips
    name := name
    basename := basename
    hasParcelApi := (county.map County.gisRest).getD [] ≠ [] ∨
      !(if (reg.stateParcel abbr).isSome then idOnly abbr else true)
    clerkUrl := firstUrl [county.bind County.clerkUrl, reg.stateDeed abbr] (netronline abbr basename)
    appraiserUrl := county.bind County.appraiserUrl
    inRegistry := county.isSome }

/-- `counties` -/
def counties (reg : Registry) (idOnly : String → Bool) (data : CountiesRaw) (state : String) :
    List CountyEntry :=
  let fips := stateFips state
  if fips = "" then []
  else (data.rows fips).map fun c => annotate reg idOnly c.fips (abbrOf fips) c.name c.basename

end Annotate

/-- The deployment whose county names are those of the dataset. -/
def reading (dep : Deployment) (data : CountiesRaw) : Deployment :=
  { dep with registry := { dep.registry with countyName := countyName data } }

/-- The two tables of state codes agree where both have a code. -/
theorem abbrOf_eq {fips : String} (h : Geocode.stateOfFips fips ≠ "") :
    abbrOf fips = Geocode.stateOfFips fips := by
  have hstates : states = Geocode.stateFipsTable ++
      [("60", "AS"), ("66", "GU"), ("69", "MP"), ("72", "PR"), ("78", "VI")] := rfl
  unfold Geocode.stateOfFips at h ⊢
  unfold abbrOf
  cases hfind : Geocode.stateFipsTable.find? fun p => p.1 = fips with
  | none =>
    rw [hfind] at h
    exact (h rfl).elim
  | some p => rw [hstates, List.find?_append, hfind, Option.some_or]

/-- The dataset names the county of each of its rows. -/
theorem countyName_row {data : CountiesRaw} {st : String} {row : CountyRow} (h : row ∈ data.rows st) :
    countyName data row.fips = row.basename := by
  unfold countyName
  rw [data.code st row h]
  cases hfind : (data.rows st).find? fun row' => row'.fips = row.fips with
  | none =>
    have hno := List.find?_eq_none.mp hfind row h
    simp at hno
  | some row' =>
    have hfips : row'.fips = row.fips := by simpa using List.find?_some hfind
    obtain rfl := List.inj_on_of_nodup_map (data.distinct st) (List.mem_of_find?_eq_some hfind) h hfips
    rfl

section Parcels

variable [PyText] {q : LayerAnswers} {address : String}

theorem addrMatch_noSitus (address : String) : addrMatch address "" = none := by
  have hfirst : (firstPart "").toList = [] := by simp [firstPart, splitOn, strip]
  have hhouse : house "" = "" := by simp [house, hfirst]
  unfold addrMatch
  exact if_pos (.inr hhouse)

/-- The parcel has no situs, joined to its tables or not. -/
structure NoSitus (related : List Related) (q : LayerAnswers) (attrs : Attrs) : Prop where
  plain : situsOf [] false attrs = ""
  joined : situsOf [] false (enrichRelated q.related 0 related attrs) = ""

/-- None of the features of a layer has a situs. -/
def SituslessLayer (related : List Related) (q : LayerAnswers) : Prop :=
  ∀ distance feats, q.features distance = .ok feats → ∀ attrs ∈ feats, NoSitus related q attrs

theorem hasMatch_noSitus {related : List Related} {feats : List Attrs}
    (h : ∀ attrs ∈ feats, NoSitus related q attrs) :
    hasMatch address (situsOf [] false) feats = false := by
  unfold hasMatch
  rw [decide_eq_false_iff_not]
  rintro ⟨-, hany⟩
  obtain ⟨attrs, hattrs, hmatch⟩ := List.any_eq_true.mp hany
  rw [(h attrs hattrs).plain, addrMatch_noSitus] at hmatch
  simp at hmatch

theorem pointQuery_noSitus {related : List Related} (hq : SituslessLayer related q) {distance : ℕ}
    {feats : List Attrs} (h : pointQuery q distance = .ok feats) :
    ∀ attrs ∈ feats, NoSitus related q attrs := by
  obtain ⟨all, hall, rfl⟩ := map_eq_ok.mp h
  exact fun attrs hattrs => hq distance all hall attrs (List.mem_of_mem_take hattrs)

/-- The boxes of such a layer give a guess at most, and flag it. -/
theorem searchBoxes_noSitus {related : List Related} (hq : SituslessLayer related q) {dists : List ℕ}
    {widest cands : List Attrs} {buffered : Bool}
    (hwidest : ∀ attrs ∈ widest, NoSitus related q attrs)
    (h : searchBoxes q address (situsOf [] false) dists widest = .ok (cands, buffered)) :
    (∀ attrs ∈ cands, NoSitus related q attrs) ∧ buffered = !cands.isEmpty := by
  induction dists generalizing widest with
  | nil =>
    obtain ⟨rfl, rfl⟩ := Prod.mk.inj (Except.ok.inj h)
    exact ⟨hwidest, rfl⟩
  | cons dist dists ih =>
    obtain ⟨feats, hfeats, hrest⟩ := bind_eq_ok.mp h
    have hnone := pointQuery_noSitus hq hfeats
    split at hrest
    · exact ih hwidest hrest
    · rw [hasMatch_noSitus hnone] at hrest
      exact ih hnone hrest

/-- A layer without a situs gives a searched address no more than a flagged guess. -/
theorem locate_noSitus {related : List Related} (hq : SituslessLayer related q) (ha : address ≠ "")
    {hit : Hit} (h : locate q address (situsOf [] false) related = .ok (some hit)) :
    hit.buffered = true ∧ hit.matched = false := by
  obtain ⟨⟨cands, buffered⟩, hcands, hrest⟩ := bind_eq_ok.mp h
  obtain ⟨direct, hdirect, hcands⟩ := bind_eq_ok.mp hcands
  have hnone := pointQuery_noSitus hq hdirect
  rw [hasMatch_noSitus hnone, if_neg (by simp [ha])] at hcands
  obtain ⟨hsitus, rfl⟩ := searchBoxes_noSitus hq hnone hcands
  simp only [List.isEmpty_iff] at hrest
  split at hrest
  · cases hrest
  · rename_i hne
    have hchosen := hsitus _ (choose_mem address (situsOf [] false) hne)
    have hflag : (!cands.isEmpty) = true := by simp [hne]
    split at hrest
    · obtain rfl := Option.some.inj (Except.ok.inj hrest)
      refine ⟨hflag, eq_false_of_ne_true fun hmatch => ?_⟩
      have hreal := choose_matched hmatch
      rw [hchosen.plain, addrMatch_noSitus] at hreal
      cases hreal
    · obtain rfl := Option.some.inj (Except.ok.inj hrest)
      refine ⟨hflag, ?_⟩
      rw [hchosen.joined, addrMatch_noSitus]
      rfl

theorem statewideLayers_noSitus [PyFloat] {svc : Statewide} {answers : ℕ → LayerAnswers}
    (hq : ∀ n, SituslessLayer svc.related (answers n)) (ha : address ≠ "") (urls : List String)
    (n : ℕ) (result : ParcelResult)
    (h : (statewideLayers svc answers address n urls result).1 = true) :
    (statewideLayers svc answers address n urls result).2.bufferedMatch = true := by
  obtain ⟨k, url, hit, before, hhit, hfound⟩ := statewideLayers_hit urls n result h
  obtain ⟨hbuffered, hmatched⟩ := locate_noSitus (hq k) ha hhit
  obtain ⟨⟨sqft, acres⟩, -, hmade⟩ := bind_eq_ok.mp hfound
  rw [← Except.ok.inj hmade]
  simp [hbuffered, hmatched]

/-- Without county layers, and with a statewide service that has no situs at most, no searched
address gets a parcel confirmed. -/
theorem resolve_untrusted [PyFloat] {reg : Registry} {sv : ParcelServices} {fips st : String}
    (county : String) (hcounty : ((reg.lookup fips).map County.gisRest).getD [] = [])
    (hstate : ∀ svc, reg.stateParcel st = some svc →
      address ≠ "" ∧ ∀ n, SituslessLayer svc.related (sv.statewide n)) :
    trusted (resolve reg sv fips st county address) = false := by
  have hfirst : countyPart reg sv fips address = (false, { countyFips := some fips }) := by
    unfold countyPart
    cases hreg : reg.lookup fips with
    | none => rfl
    | some c =>
      have hrest : c.gisRest = [] := by simpa [hreg] using hcounty
      dsimp only
      rw [hrest]
      rfl
  unfold resolve
  rw [hfirst]
  unfold statewidePart
  cases hsvc : reg.stateParcel st with
  | none => rfl
  | some svc =>
    obtain ⟨ha, hq⟩ := hstate svc hsvc
    have hfound := statewideLayers_noSitus hq ha svc.urls 0 { countyFips := some fips }
    have hnone : (statewideLayers svc sv.statewide address 0 svc.urls
        { countyFips := some fips }).1 = false → _ := statewideLayers_parcels svc.urls 0 _
    simp only [Bool.false_eq_true, if_false]
    split
    · rename_i hone
      simp [trusted, hfound hone]
    · rename_i hone
      simp [trusted, directoryPart, hnone (eq_false_of_ne_true hone)]

end Parcels

section Job

variable [PyText] [PyFloat] {m : StepModel} {dep : Deployment} {src : SourceAnswers}
  {ctx : PropertyContext} {d : ResidentialDoc} {step : StepResult}

open Adapters Steps

/-- The deed step links to the official records, whether the deed was fetched or not. -/
theorem deedTurn_link (hkey : d.key = .deed)
    (h : (docTurn m (shipped dep src) d ctx).1 = .ok step) :
    step.link = ctx.clerkRef.officialRecordsSearch := by
  have ha : shipped dep src d.key =
      some (clerkAdapter (deedFetch dep src) fun ctx => (deedFallback ctx, ctx)) := by
    rw [hkey]
    rfl
  simp only [docTurn, ha] at h
  obtain ⟨fs, outcome, error, confidence, hmade, rfl⟩ := runOneWith_made h
  show fs.link = _
  cases hmade with
  | fetched hf _ =>
    obtain rfl := Except.ok.inj hf
    rfl
  | fallen records _ hb =>
    obtain rfl := Except.ok.inj hb
    have href := congrArg PropertyContext.clerkRef (scrapeDocuments_settled dep src ctx)
    exact congrArg ClerkRef.officialRecordsSearch href
  | lastResort records _ hb => cases hb

omit [PyFloat] in
/-- What a listed county advertises. -/
theorem mem_counties {reg : Registry} {idOnly : String → Bool} {data : CountiesRaw} {state : String}
    {entry : CountyEntry} (h : entry ∈ counties reg idOnly data state) :
    ∃ row ∈ data.rows (stateFips state), entry =
      annotate reg idOnly row.fips (abbrOf (stateFips state)) row.name row.basename := by
  unfold counties at h
  by_cases hfips : stateFips state = ""
  · simp [hfips] at h
  · simp only [hfips, if_false] at h
    obtain ⟨row, hrow, rfl⟩ := List.mem_map.mp h
    exact ⟨row, hrow, rfl⟩

omit [PyFloat] in
/-- A county is listed without a parcel service when it has no layers of its own, and its state no
service or an ID-only one. -/
theorem annotate_noParcelApi {reg : Registry} {idOnly : String → Bool}
    {fips abbr name basename : String}
    (h : (annotate reg idOnly fips abbr name basename).hasParcelApi = false) :
    ((reg.lookup fips).map County.gisRest).getD [] = [] ∧
      ∀ svc, reg.stateParcel abbr = some svc → idOnly abbr = true := by
  have hnone := of_decide_eq_false h
  obtain ⟨hrest, hservice⟩ := not_or.mp hnone
  refine ⟨not_not.mp hrest, fun svc hsvc => ?_⟩
  simpa [hsvc] using hservice

/-- For a job located in a listed county, under the state code that the dropdown uses, the clerk's
url is the link of the deed step and the appraiser's url is the job's; and a county without a parcel
service is one where none of the queried services confirms a parcel for a searched address, an
ID-only one being without a situs. -/
theorem dropdown_advertises_job (dep : Deployment) (idOnly : String → Bool) (data : CountiesRaw)
    (state : String) (entry : CountyEntry)
    (hentry : entry ∈ counties (reading dep data).registry idOnly data state)
    (geo : GeocoderAnswers) (sv : ParcelServices) (staging : Staging) (args : ResearchArgs)
    (ctx : PropertyContext)
    (hctx : resolvePropertyContext (reading dep data) geo sv staging args = .ok ctx)
    (hcounty : ctx.countyFips = entry.fips) (hstate : ctx.stateFips = stateFips state)
    (hcode : Geocode.stateOfFips (stateFips state) ≠ "" ∨ ctx.state = abbrOf (stateFips state)) :
    (∀ m src wanted steps, (buildStepsWith m (shipped (reading dep data) src) staging wanted ctx).1 =
        .ok steps → ∀ step ∈ steps, step.key = .deed → step.link = entry.clerkUrl) ∧
      entry.clerkUrl = ctx.clerkRef.officialRecordsSearch ∧
      (∀ url, entry.appraiserUrl = some url → url ≠ "" → url = ctx.appraiserUrl) ∧
      (entry.hasParcelApi = false → ∀ sv' address, address ≠ "" →
        (idOnly ctx.state = true → ∀ svc, (reading dep data).registry.stateParcel ctx.state =
          some svc → ∀ n, SituslessLayer svc.related (sv'.statewide n)) →
        trusted (resolve (reading dep data).registry sv' ctx.countyFips ctx.state ctx.county address) =
          false) := by
  obtain ⟨row, hrow, rfl⟩ := mem_counties hentry
  obtain ⟨found, -, hassembled⟩ := bind_eq_ok.mp hctx
  obtain ⟨⟨p, hp⟩, -, happraiser, hclerk⟩ := assembleContext_made hassembled
  obtain ⟨hplace, hname⟩ := assembleContext_place hassembled
  have hfips : ctx.countyFips = row.fips := hcounty
  have habbr : ctx.state = abbrOf (stateFips state) := by
    refine hcode.elim (fun hcode => ?_) id
    rw [hp.state, ← hplace, hstate, abbrOf_eq hcode, orElse, if_neg hcode]
  have hbase : ctx.county = row.basename := by
    have hlisted : (reading dep data).registry.countyName ctx.countyFips = row.basename :=
      hfips ▸ countyName_row hrow
    rw [hname, hlisted, orElse, if_neg (data.named _ row hrow)]
  have hlink : (annotate (reading dep data).registry idOnly row.fips (abbrOf (stateFips state))
      row.name row.basename).clerkUrl = ctx.clerkRef.officialRecordsSearch := by
    rw [hclerk, hfips, habbr, hbase]
    rfl
  refine ⟨fun m src wanted steps hsteps step hstep hkey => ?_, hlink, ?_, ?_⟩
  · obtain ⟨d, hturn⟩ := mem_buildStepsWith (reading dep data) src ctx hsteps hstep
    have hdeed := deedTurn_link ((docTurn_key hturn).symm.trans hkey) hturn
    exact hdeed.trans hlink.symm
  · intro url hurl hne
    have hreg : ((reading dep data).registry.lookup ctx.countyFips).bind County.appraiserUrl =
        some url := hfips ▸ hurl
    rw [happraiser, hreg]
    simp [firstUrl, hne]
  · intro hno sv' address ha hid
    obtain ⟨hrest, hservice⟩ := annotate_noParcelApi hno
    rw [← hfips] at hrest
    rw [← habbr] at hservice
    exact resolve_untrusted ctx.county hrest fun svc hsvc =>
      ⟨ha, hid (hservice svc hsvc) svc hsvc⟩

end Job

section Concrete

open scoped PyText.Ascii PyFloat.Whole

/-- One county of Florida, one of Ohio and one of Puerto Rico. -/
def sampleRows (st : String) : List CountyRow :=
  if st = "12" then [⟨"12057", "Hillsborough County", "Hillsborough"⟩]
  else if st = "39" then [⟨"39001", "Adams County", "Adams"⟩]
  else if st = "72" then [⟨"72001", "Adjuntas Municipio", "Adjuntas"⟩]
  else []

theorem sampleRows_cases (st : String) :
    (st = "12" ∧ sampleRows st = [⟨"12057", "Hillsborough County", "Hillsborough"⟩]) ∨
      (st = "39" ∧ sampleRows st = [⟨"39001", "Adams County", "Adams"⟩]) ∨
      (st = "72" ∧ sampleRows st = [⟨"72001", "Adjuntas Municipio", "Adjuntas"⟩]) ∨
      sampleRows st = [] := by
  unfold sampleRows
  split_ifs <;> simp_all

def sampleCounties : CountiesRaw where
  rows := sampleRows
  code st row h := by
    obtain ⟨rfl, hrows⟩ | ⟨rfl, hrows⟩ | ⟨rfl, hrows⟩ | hrows := sampleRows_cases st <;>
      rw [hrows] at h <;> simp at h <;> subst h <;> decide
  named st row h := by
    obtain ⟨-, hrows⟩ | ⟨-, hrows⟩ | ⟨-, hrows⟩ | hrows := sampleRows_cases st <;>
      rw [hrows] at h <;> simp at h <;> subst h <;> decide
  distinct st := by
    obtain ⟨-, hrows⟩ | ⟨-, hrows⟩ | ⟨-, hrows⟩ | hrows := sampleRows_cases st <;>
      rw [hrows] <;> simp

/-- A registry with an empty appraiser's url, and a statewide service for Ohio. -/
def ohioDeployment : Deployment :=
  { sampleDeployment with
    registry :=
      { sampleDeployment.registry with
        lookup := fun fips => if fips = "12057" then some { appraiserUrl := some "" } else none
        stateParcel := fun st =>
          if st = "OH" then some { urls := ["https://odnr/parcels/10"] } else none } }

/-- The service of Ohio is ID-only. -/
def ohioIdOnly (st : String) : Bool := st = "OH"

/-- Parcels with a PIN and no situs. -/
def pinLayers : ParcelServices :=
  let layer : LayerAnswers :=
    { description := .ok ⟨some "Parcels", []⟩
      features := fun _ => .ok [[("PIN", .str "A-1")]]
      related := fun _ => .ok []
      byId := .ok none }
  { county := fun _ => layer, statewide := fun _ => layer }

/-- A run for an address in the county of a row. -/
def listedRun (fips name state : String) : Except PyErr PropertyContext :=
  resolvePropertyContext (reading ohioDeployment sampleCounties)
    (sampleGeocoder "9 OAK AVE" { baseName := name, geoId := fips, state := state }) pinLayers
    sampleStaging { address := "9 Oak Avenue" }

def listed (state : String) : List CountyEntry :=
  counties (reading ohioDeployment sampleCounties).registry ohioIdOnly sampleCounties state

def adamsEntry : CountyEntry where
  fips := "39001"
  name := "Adams County"
  basename := "Adams"
  hasParcelApi := false
  clerkUrl := "https://publicrecords.netronline.com/state/OH/county/adams"
  appraiserUrl := none
  inRegistry := false

theorem adams_listed : adamsEntry ∈ listed "OH" := by
  decide +kernel

theorem dropdown_advertises_job_adams : ∃ ctx, listedRun "39001" "Adams" "39" = .ok ctx ∧
    adamsEntry.clerkUrl = ctx.clerkRef.officialRecordsSearch := by
  obtain ⟨ctx, hctx, hplace⟩ := succeeds_iff.mp (show succeeds (listedRun "39001" "Adams" "39")
    (fun ctx => ctx.countyFips = "39001" ∧ ctx.stateFips = "39") = true by decide +kernel)
  obtain ⟨hcounty, hstate⟩ := of_decide_eq_true hplace
  have hfips : stateFips "OH" = "39" := by decide +kernel
  have hcode : Geocode.stateOfFips (stateFips "OH") ≠ "" := by
    rw [hfips]
    decide
  exact ⟨ctx, hctx, (dropdown_advertises_job ohioDeployment ohioIdOnly sampleCounties "OH" adamsEntry
    adams_listed _ _ _ _ ctx hctx hcounty (hstate.trans hfips.symm) (.inl hcode)).2.1⟩

/-- An ID-only service has a parcel at the point, and a run without a matched address confirms it;
an empty url of the registry is advertised as it is; and the job of a county of Puerto Rico has no
state code. -/
theorem adams_parcel_confirmed :
    (adamsEntry ∈ listed "OH" ∧ adamsEntry.hasParcelApi = false ∧
      trusted (resolve (reading ohioDeployment sampleCounties).registry pinLayers "39001" "OH" "Adams"
        "") = true) ∧
    ((listed "FL").map CountyEntry.appraiserUrl = [some ""] ∧
      (listedRun "12057" "Hillsborough" "12").toOption.map PropertyContext.appraiserUrl =
        some "https://publicrecords.netronline.com/state/FL/county/hillsborough") ∧
    ((listed "PR").map CountyEntry.clerkUrl =
        ["https://publicrecords.netronline.com/state/PR/county/adjuntas"] ∧
      (listedRun "72001" "Adjuntas" "72").toOption.map (fun ctx =>
          ctx.clerkRef.officialRecordsSearch) =
        some "https://publicrecords.netronline.com/state//county/adjuntas") ∧
    ¬ ∀ (dep : Deployment) (idOnly : String → Bool) (data : CountiesRaw) (state : String)
      (entry : CountyEntry), entry ∈ counties (reading dep data).registry idOnly data state →
      ∀ (geo : GeocoderAnswers) (sv : ParcelServices) (staging : Staging) (args : ResearchArgs)
        (ctx : PropertyContext),
        resolvePropertyContext (reading dep data) geo sv staging args = .ok ctx →
        ctx.countyFips = entry.fips → ctx.stateFips = stateFips state →
        entry.clerkUrl = ctx.clerkRef.officialRecordsSearch ∧
          (∀ url, entry.appraiserUrl = some url → url = ctx.appraiserUrl) ∧
          (entry.hasParcelApi = false → ∀ sv' address, trusted (resolve (reading dep data).registry
            sv' ctx.countyFips ctx.state ctx.county address) = false) := by
  refine ⟨⟨adams_listed, rfl, by decide +kernel⟩, ⟨by decide +kernel, by decide +kernel⟩,
    ⟨by decide +kernel, by decide +kernel⟩, fun hall => ?_⟩
  obtain ⟨ctx, hctx, hplace⟩ := succeeds_iff.mp (show succeeds (listedRun "39001" "Adams" "39")
    (fun ctx => ctx.countyFips = "39001" ∧ ctx.stateFips = stateFips "OH" ∧
      trusted (resolve (reading ohioDeployment sampleCounties).registry pinLayers ctx.countyFips
        ctx.state ctx.county "") = true) = true by decide +kernel)
  obtain ⟨hcounty, hstate, hconfirmed⟩ := of_decide_eq_true hplace
  obtain ⟨-, -, hno⟩ := hall ohioDeployment ohioIdOnly sampleCounties "OH" adamsEntry adams_listed
    _ _ _ _ ctx hctx hcounty hstate
  rw [hno rfl pinLayers ""] at hconfirmed
  cases hconfirmed

end Concrete

end Geography
end ResearchEngine
