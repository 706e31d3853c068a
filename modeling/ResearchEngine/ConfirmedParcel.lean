import ResearchEngine.PropertyContext

/-! A parcel that passes the trust gate carries the address it was searched with. -/
namespace ResearchEngine

open Situs

/-- What a layer hands to `_finish`: a match is a real one, and the only hits that
are not matches come from a box. -/
structure Hit.Sound [PyText] (address : String) (sfn : Attrs → String) (hit : Hit) : Prop where
  matched : hit.matched = true → addrMatch address (sfn hit.chosen) = some true
  buffered : hit.buffered = false → hit.matched = true

/-- A result for one parcel whose flags come from a sound hit. -/
structure ParcelResult.Found [PyText] (address : String) (sfn : Attrs → String)
    (r : ParcelResult) : Prop where
  parcel : ∃ attrs, r.parcels = [attrs] ∧ r.situs = sfn attrs
  compared : r.addressMatch = addrMatch address r.situs
  confirmed : r.bufferedMatch = false → addrMatch address r.situs = some true

namespace Parcel

section Layer

variable [PyText] {q : LayerAnswers} {address : String} {sfn : Attrs → String}

/-- The boxes answer without a buffer flag only when they have nothing. -/
theorem searchBoxes_unbuffered {dists : List ℕ} {widest cands : List Attrs}
    (h : searchBoxes q address sfn dists widest = .ok (cands, false)) : cands = [] := by
  induction dists generalizing widest with
  | nil =>
    simp only [searchBoxes, Except.ok.injEq, Prod.mk.injEq] at h
    obtain ⟨rfl, hempty⟩ := h
    simpa using hempty
  | cons dist dists ih =>
    obtain ⟨feats, -, hrest⟩ := bind_eq_ok.mp h
    split at hrest
    · exact ih hrest
    · split at hrest
      · cases hrest
      · exact ih hrest

theorem candidates_unbuffered {cands : List Attrs} (ha : address ≠ "")
    (h : candidates q address sfn = .ok (cands, false)) (hne : cands ≠ []) :
    hasMatch address sfn cands = true := by
  obtain ⟨direct, -, hrest⟩ := bind_eq_ok.mp h
  split at hrest
  · rename_i hdirect
    obtain rfl : direct = cands := by simpa using hrest
    exact hdirect.2.resolve_left ha
  · exact absurd (searchBoxes_unbuffered hrest) hne

theorem choose_matched {cands : List Attrs} (h : (choose address sfn cands).2 = true) :
    addrMatch address (sfn (choose address sfn cands).1) = some true := by
  unfold choose at h ⊢
  split at h
  · rename_i c hc
    simpa using List.find?_some hc
  · split at h <;> cases h

theorem choose_of_hasMatch {cands : List Attrs} (h : hasMatch address sfn cands = true) :
    (choose address sfn cands).2 = true := by
  unfold choose
  split
  · rfl
  · rename_i hnone
    obtain ⟨c, hc, hm⟩ := List.any_eq_true.mp (of_decide_eq_true h).2
    exact absurd hm (List.find?_eq_none.mp hnone c hc)

theorem choose_mem (address : String) (sfn : Attrs → String) {cands : List Attrs} (h : cands ≠ []) :
    (choose address sfn cands).1 ∈ cands := by
  unfold choose
  split
  · exact List.mem_of_find?_eq_some ‹_›
  · split
    · exact List.mem_of_find?_eq_some ‹_›
    · cases hfind : cands.find? fun c => sfn c ≠ "" with
      | some c => exact List.mem_of_find?_eq_some hfind
      | none =>
        obtain ⟨c, cs, rfl⟩ := List.exists_cons_of_ne_nil h
        exact List.mem_cons_self

theorem locate_sound {hit : Hit} (ha : address ≠ "") (h : locate q address sfn [] = .ok (some hit)) :
    hit.Sound address sfn := by
  obtain ⟨⟨cands, buffered⟩, hcands, hrest⟩ := bind_eq_ok.mp h
  simp only [List.isEmpty_iff] at hrest
  split at hrest
  · cases hrest
  · rename_i hne
    obtain rfl : _ = hit := Option.some.inj (Except.ok.inj hrest)
    refine ⟨choose_matched, ?_⟩
    rintro (rfl : buffered = false)
    exact choose_of_hasMatch (candidates_unbuffered ha hcands hne)

theorem finish_found [PyFloat] {result r : ParcelResult} {hit : Hit} {src : String}
    {name : Option String} (hs : hit.Sound address sfn)
    (h : finish result hit address src name sfn = .ok r) : r.Found address sfn := by
  unfold finish at h
  obtain ⟨⟨sqft, acres⟩, -, hrest⟩ := bind_eq_ok.mp h
  obtain rfl := Except.ok.inj hrest
  refine ⟨⟨hit.chosen, rfl, rfl⟩, by dsimp only, fun hb => hs.matched ?_⟩
  cases hbuf : hit.buffered with
  | false => exact hs.buffered hbuf
  | true => simpa [hbuf] using hb

end Layer

section Walk

variable [PyText] [PyFloat] {address : String}

/-- What the first layer of a county's list does: the loop goes on with the next one, or the parcel
is the hit of this one. -/
theorem countyLayers_cons (address : String) (county : County) (answers : ℕ → LayerAnswers) (n : ℕ)
    (service : String) (services : List String) (result : ParcelResult) :
    (∃ result', result'.parcels = result.parcels ∧
      countyLayers county answers address n (service :: services) result =
        countyLayers county answers address (n + 1) services result') ∨
    ∃ url hit found,
      arcgisLayerUrl service county.layerHint (answers n).description = .ok (some url) ∧
      locate (answers n) address (situsFn (some county)) county.related = .ok (some hit) ∧
      finish result hit address url.1 url.2 (situsFn (some county)) = .ok found ∧
      countyLayers county answers address n (service :: services) result = (true, found) := by
  rw [countyLayers]
  split
  · rename_i found hturn
    obtain ⟨layer, hlayer, hturn⟩ := bind_eq_ok.mp hturn
    split at hturn
    · cases hturn
    · obtain ⟨hit, hhit, hturn⟩ := bind_eq_ok.mp hturn
      split at hturn
      · cases hturn
      · obtain ⟨r, hr, hfound⟩ := map_eq_ok.mp hturn
        obtain rfl := Option.some.inj hfound
        exact .inr ⟨_, _, _, hlayer, hhit, hr, rfl⟩
  · exact .inl ⟨result, rfl, rfl⟩
  · rename_i e hturn
    exact .inl ⟨{ result with arcgisError := some e.text }, rfl, rfl⟩

theorem countyLayers_found {county : County} (hrel : county.related = []) (ha : address ≠ "")
    (answers : ℕ → LayerAnswers) (services : List String) (n : ℕ) (result : ParcelResult) :
    (countyLayers county answers address n services result).1 = true →
      (countyLayers county answers address n services result).2.Found address
        (situsFn (some county)) := by
  induction services generalizing n result with
  | nil => exact fun h => by cases h
  | cons service services ih =>
    obtain ⟨result', -, hgoes⟩ | ⟨url, hit, found, -, hhit, hfound, hends⟩ :=
      countyLayers_cons address county answers n service services result
    · rw [hgoes]
      exact ih _ _
    · rw [hends]
      rw [hrel] at hhit
      exact fun _ => finish_found (locate_sound ha hhit) hfound

theorem countyLayers_parcels {county : County} {answers : ℕ → LayerAnswers} (services : List String)
    (n : ℕ) (result : ParcelResult)
    (h : (countyLayers county answers address n services result).1 = false) :
    (countyLayers county answers address n services result).2.parcels = result.parcels := by
  induction services generalizing n result with
  | nil => rfl
  | cons service services ih =>
    obtain ⟨result', hparcels, hgoes⟩ | ⟨url, hit, found, -, -, -, hends⟩ :=
      countyLayers_cons address county answers n service services result
    · rw [hgoes] at h ⊢
      rw [ih _ _ h, hparcels]
    · rw [hends] at h
      cases h

/-- What the first layer of a state's list does. -/
theorem statewideLayers_cons (address : String) (svc : Statewide) (answers : ℕ → LayerAnswers)
    (n : ℕ) (url : String) (urls : List String) (result : ParcelResult) :
    (∃ result', result'.parcels = result.parcels ∧
      statewideLayers svc answers address n (url :: urls) result =
        statewideLayers svc answers address (n + 1) urls result') ∨
    ∃ hit found, locate (answers n) address (situsOf [] false) svc.related = .ok (some hit) ∧
      finish { result with parcelSourceLabel := some svc.label } hit address url none
        (situsOf [] false) = .ok found ∧
      statewideLayers svc answers address n (url :: urls) result = (true, found) := by
  rw [statewideLayers]
  split
  · exact .inl ⟨result, rfl, rfl⟩
  · rename_i hit hhit
    simp only
    split
    · rename_i found hfound
      exact .inr ⟨hit, found, hhit, hfound, rfl⟩
    · rename_i e hfinish
      exact .inl ⟨{ result with
        parcelSourceLabel := some svc.label
        statewideError := some e.text }, rfl, rfl⟩
  · rename_i e hlocate
    exact .inl ⟨{ result with statewideError := some e.text }, rfl, rfl⟩

/-- A parcel of the state's layers is the hit of one of them. -/
theorem statewideLayers_hit {svc : Statewide} {answers : ℕ → LayerAnswers} (urls : List String)
    (n : ℕ) (result : ParcelResult) :
    (statewideLayers svc answers address n urls result).1 = true →
      ∃ k url hit before, locate (answers k) address (situsOf [] false) svc.related = .ok (some hit) ∧
        finish before hit address url none (situsOf [] false) =
          .ok (statewideLayers svc answers address n urls result).2 := by
  induction urls generalizing n result with
  | nil => exact fun h => by cases h
  | cons url urls ih =>
    obtain ⟨result', -, hgoes⟩ | ⟨hit, found, hhit, hfound, hends⟩ :=
      statewideLayers_cons address svc answers n url urls result
    · rw [hgoes]
      exact ih _ _
    · rw [hends]
      exact fun _ => ⟨n, url, hit, _, hhit, hfound⟩

theorem statewideLayers_found {svc : Statewide} (hrel : svc.related = []) (ha : address ≠ "")
    (answers : ℕ → LayerAnswers) (urls : List String) (n : ℕ) (result : ParcelResult)
    (h : (statewideLayers svc answers address n urls result).1 = true) :
    (statewideLayers svc answers address n urls result).2.Found address (situsOf [] false) := by
  obtain ⟨k, url, hit, before, hhit, hfound⟩ := statewideLayers_hit urls n result h
  rw [hrel] at hhit
  exact finish_found (locate_sound ha hhit) hfound

theorem statewideLayers_parcels {svc : Statewide} {answers : ℕ → LayerAnswers} (urls : List String)
    (n : ℕ) (result : ParcelResult)
    (h : (statewideLayers svc answers address n urls result).1 = false) :
    (statewideLayers svc answers address n urls result).2.parcels = result.parcels := by
  induction urls generalizing n result with
  | nil => rfl
  | cons url urls ih =>
    obtain ⟨result', hparcels, hgoes⟩ | ⟨hit, found, -, -, hends⟩ :=
      statewideLayers_cons address svc answers n url urls result
    · rw [hgoes] at h ⊢
      rw [ih _ _ h, hparcels]
    · rw [hends] at h
      cases h

/-- The configuration of one place joins no table to its layers. -/
def Unjoined (reg : Registry) (countyFips stateAbbr : String) : Prop :=
  (∀ c, reg.lookup countyFips = some c → c.related = []) ∧
    ∀ svc, reg.stateParcel stateAbbr = some svc → svc.related = []

theorem countyPart_cases (reg : Registry) (sv : ParcelServices) (fips : String)
    (hrel : ∀ c, reg.lookup fips = some c → c.related = []) (ha : address ≠ "") :
    if (countyPart reg sv fips address).1 then
      (countyPart reg sv fips address).2.Found address (situsFn (reg.lookup fips))
    else (countyPart reg sv fips address).2.parcels = [] := by
  unfold countyPart
  cases hc : reg.lookup fips with
  | none => rfl
  | some c =>
    simp only
    split
    · exact countyLayers_found (hrel c hc) ha _ _ _ _ ‹_›
    · exact countyLayers_parcels _ _ _ (eq_false_of_ne_true ‹_›)

theorem statewidePart_cases (reg : Registry) (sv : ParcelServices) (st : String)
    (result : ParcelResult) (hrel : ∀ svc, reg.stateParcel st = some svc → svc.related = [])
    (ha : address ≠ "") :
    if (statewidePart reg sv st address result).1 then
      (statewidePart reg sv st address result).2.Found address (situsOf [] false)
    else (statewidePart reg sv st address result).2.parcels = result.parcels := by
  unfold statewidePart
  cases hs : reg.stateParcel st with
  | none => rfl
  | some svc =>
    simp only
    split
    · exact statewideLayers_found (hrel svc hs) ha _ _ _ _ ‹_›
    · exact statewideLayers_parcels _ _ _ (eq_false_of_ne_true ‹_›)

/-- `resolve` gives no parcel, or one found by the county's or the state's layers. -/
theorem resolve_cases {reg : Registry} (sv : ParcelServices) {fips st : String} (county : String)
    (hrel : Unjoined reg fips st) (ha : address ≠ "") :
    (resolve reg sv fips st county address).parcels = [] ∨
      ∃ sfn, (sfn = situsFn (reg.lookup fips) ∨ sfn = situsOf [] false) ∧
        (resolve reg sv fips st county address).Found address sfn := by
  have hfirst := countyPart_cases reg sv fips hrel.1 ha
  have hsecond := statewidePart_cases reg sv st (countyPart reg sv fips address).2 hrel.2 ha
  unfold resolve
  simp only
  split
  · rename_i hone
    rw [if_pos hone] at hfirst
    exact Or.inr ⟨_, Or.inl rfl, hfirst⟩
  · rename_i hone
    rw [if_neg hone] at hfirst
    split
    · rename_i htwo
      rw [if_pos htwo] at hsecond
      exact Or.inr ⟨_, Or.inr rfl, hsecond⟩
    · rename_i htwo
      rw [if_neg htwo] at hsecond
      exact Or.inl (hsecond.trans hfirst)

end Walk

end Parcel

namespace Context

open Parcel Geocode PyText

theorem trusted_found [PyText] {address : String} {sfn : Attrs → String} {p : ParcelResult}
    (hp : p.Found address sfn) (h : trusted p = true) : addrMatch address p.situs = some true := by
  have hgate : p.parcels ≠ [] ∧ p.addressMatch ≠ some false ∧ p.bufferedMatch = false := by
    simpa [trusted] using h
  exact hp.confirmed hgate.2.2

section Confirmed

variable [PyText] [PyFloat]

/-- On the address path a confirmed parcel's situs matches the geocoder's address,
and nothing of an unconfirmed parcel is kept as the job's parcel. -/
theorem confirmed_parcel_matches (dep : Deployment) (geo : GeocoderAnswers) (sv : ParcelServices)
    (staging : Staging) (args : ResearchArgs) (ctx : PropertyContext)
    (hpath : strip args.searchParcelId = "" ∨ strip args.address ≠ "")
    (h : resolvePropertyContext dep geo sv staging args = .ok ctx)
    (hrel : Unjoined dep.registry ctx.countyFips ctx.state) (hne : ctx.matchedAddress ≠ "") :
    if ctx.parcelOk then
      (∃ attrs, ctx.parcel.parcels = [attrs] ∧
        (ctx.parcel.situs = situsFn (dep.registry.lookup ctx.countyFips) attrs ∨
          ctx.parcel.situs = situsOf [] false attrs)) ∧
      addrMatch ctx.matchedAddress ctx.parcel.situs = some true
    else ctx.parcelId = "" ∧ ctx.parcelHints = [] := by
  obtain ⟨found, p, hfound, hctx⟩ := resolvePropertyContext_ok h
  obtain ⟨g, -, rfl⟩ := locateProperty_address hpath hfound
  rw [hctx.parcelOk, hctx.parcelId, hctx.parcelHints, hctx.parcel]
  split
  · rename_i hok
    have hp : p = resolve dep.registry sv ctx.countyFips ctx.state ctx.county ctx.matchedAddress :=
      hctx.resolved
    rcases resolve_cases sv ctx.county hrel hne with hnone | ⟨sfn, hsfn, hf⟩
    · rw [← hp] at hnone
      simp [trusted, hnone] at hok
    · rw [← hp] at hf
      have hmatch := trusted_found hf hok
      refine ⟨?_, hmatch⟩
      obtain ⟨attrs, hattrs, hsitus⟩ := hf.parcel
      refine ⟨attrs, hattrs, ?_⟩
      rcases hsfn with rfl | rfl
      · exact Or.inl hsitus
      · exact Or.inr hsitus
  · exact ⟨rfl, rfl⟩

end Confirmed

/-! A county with one parcel layer, where the geocoder gives every search the same
address. -/

section Concrete

open scoped PyText.Ascii PyFloat.Whole

def sampleDeployment : Deployment where
  registry :=
    { lookup := fun fips => if fips = "12057" then some { gisRest := ["https://gis/parcels/0"] } else none
      stateParcel := fun _ => none
      stateAppraiser := fun _ => none
      stateDeed := fun _ => none
      statePlat := fun _ => none
      countyName := fun _ => "" }
  jobsDir := "jobs"
  clerkScraper _ := false
  appraiserSite _ := false

/-- The Census geocoder answers with one address in one county. -/
def sampleGeocoder (address : String) (county : CountyGeo) : GeocoderAnswers where
  census _ := .ok [{ matchedAddress := some address, coordinates := some (.int (-82), .int 28)
                     counties := [county] }]
  arcgis _ := .ok []
  nominatim _ := .ok []
  countyAt _ _ := .ok []

def hillsborough : CountyGeo := { baseName := "Hillsborough", geoId := "12057", state := "12" }

/-- Every layer has one parcel, at the point. -/
def sampleLayers (situs parcelId : String) : ParcelServices :=
  let layer : LayerAnswers :=
    { description := .ok ⟨some "Parcels", []⟩
      features := fun _ => .ok [[("SITUS_ADDR", .str situs), ("PARCEL_ID", .str parcelId)]]
      related := fun _ => .ok []
      byId := .ok none }
  { county := fun _ => layer, statewide := fun _ => layer }

def sampleStaging : Staging where
  makeFolder := .ok ()
  saveJson _ := .ok ⟨2, "digest", "2026-01-01T00:00:00Z"⟩
  docsDir := .ok ()
  writeManifest := .ok ()
  writeResult := .ok ()
  completedUtc := "2026-01-01T00:00:00Z"

theorem sample_unjoined (fips st : String) : Unjoined sampleDeployment.registry fips st := by
  refine ⟨fun c hc => ?_, fun svc hsvc => by cases hsvc⟩
  simp only [sampleDeployment] at hc
  split at hc
  · obtain rfl := Option.some.inj hc
    rfl
  · cases hc

/-- The run for a search at one address, when the geocoder answers with another. -/
def sampleResolution (search matched : String) : Except PyErr PropertyContext :=
  resolvePropertyContext sampleDeployment (sampleGeocoder matched hillsborough)
    (sampleLayers "9 OAK AVE" "A-1") sampleStaging { address := search }

/-- A run succeeded with a context that passes a check. -/
def succeeds (r : Except PyErr PropertyContext) (p : PropertyContext → Bool) : Bool :=
  match r with
  | .ok ctx => p ctx
  | .error _ => false

theorem succeeds_iff {r : Except PyErr PropertyContext} {p : PropertyContext → Bool} :
    succeeds r p = true ↔ ∃ ctx, r = .ok ctx ∧ p ctx = true := by
  cases r <;> simp [succeeds]

/-- A search by address alone. -/
theorem addressOnly_blank (address : String) :
    strip ({ address := address } : ResearchArgs).searchParcelId = "" := by
  show strip "" = ""
  decide +kernel

theorem confirmed_parcel_matches_sample :
    ∃ ctx, sampleResolution "9 Oak Avenue" "9 OAK AVE, TAMPA, FL" = .ok ctx ∧
      ctx.parcelOk = true ∧ addrMatch ctx.matchedAddress ctx.parcel.situs = some true := by
  obtain ⟨ctx, hctx, hp⟩ := succeeds_iff.mp (show succeeds
    (sampleResolution "9 Oak Avenue" "9 OAK AVE, TAMPA, FL")
    (fun ctx => ctx.parcelOk && ctx.matchedAddress ≠ "") = true by decide +kernel)
  obtain ⟨hok, hne⟩ := Bool.and_eq_true_iff.mp hp
  have hm := confirmed_parcel_matches _ _ _ _ _ ctx (Or.inl (addressOnly_blank _)) hctx (sample_unjoined _ _)
    (of_decide_eq_true hne)
  rw [if_pos hok] at hm
  exact ⟨ctx, hctx, hok, hm.2⟩

/-- The geocoder moves the search to another street, and that street's parcel is
confirmed. -/
theorem confirmed_parcel_elsewhere :
    ¬ ∀ (dep : Deployment) (geo : GeocoderAnswers) (sv : ParcelServices) (staging : Staging)
      (args : ResearchArgs) (ctx : PropertyContext),
      args.address ≠ "" → (∀ fips st, Unjoined dep.registry fips st) →
      (strip args.searchParcelId = "" ∨ strip args.address ≠ "") →
      resolvePropertyContext dep geo sv staging args = .ok ctx → ctx.parcelOk = true →
      addrMatch args.address ctx.parcel.situs = some true := by
  intro hall
  obtain ⟨ctx, hctx, hp⟩ := succeeds_iff.mp (show succeeds
    (sampleResolution "1 ELM ST" "9 OAK AVE, TAMPA, FL")
    (fun ctx => ctx.parcelOk && addrMatch "1 ELM ST" ctx.parcel.situs = some false) = true
      by decide +kernel)
  obtain ⟨hok, hno⟩ := Bool.and_eq_true_iff.mp hp
  have hyes := hall _ _ _ _ _ ctx (by decide) sample_unjoined
    (Or.inl (addressOnly_blank _)) hctx hok
  rw [of_decide_eq_true hno] at hyes
  cases hyes

end Concrete

end Context
end ResearchEngine
