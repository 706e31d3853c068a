import ResearchEngine.LayerSearch

/-! The walk of `resolve` over the layers of a place: which layer's feature the result carries. -/
namespace ResearchEngine
namespace Parcel

open PyText Situs

/-- One layer of the walk: what it answers, how its features are read, and what is found at its
configured url. -/
structure SearchedLayer where
  answers : LayerAnswers
  sfn : Attrs → String
  url : Except PyErr (Option (String × Option String))

section Order

variable [PyText]

/-- The layers of one county, in the order of its list. -/
def countySearched (county : County) (answers : ℕ → LayerAnswers) : ℕ → List String →
    List SearchedLayer
  | _, [] => []
  | n, service :: services =>
    ⟨answers n, situsFn (some county),
      arcgisLayerUrl service county.layerHint (answers n).description⟩ ::
        countySearched county answers (n + 1) services

/-- The layers that tile one state, in the order of their list. -/
def statewideSearched (answers : ℕ → LayerAnswers) : ℕ → List String → List SearchedLayer
  | _, [] => []
  | n, url :: urls =>
    ⟨answers n, situsOf [] false, .ok (some (url, none))⟩ :: statewideSearched answers (n + 1) urls

/-- The layers of the county's part of `resolve`, and of the state's part. -/
def ofCounty (reg : Registry) (sv : ParcelServices) (fips : String) : List SearchedLayer :=
  ((reg.lookup fips).map fun c => countySearched c sv.county 0 c.gisRest).getD []

def ofState (reg : Registry) (sv : ParcelServices) (st : String) : List SearchedLayer :=
  ((reg.stateParcel st).map fun svc => statewideSearched sv.statewide 0 svc.urls).getD []

namespace SearchedLayer

/-- The layer raises, or has no feature at any distance. -/
def Passed (l : SearchedLayer) (address : String) : Prop :=
  ∀ url, l.url = .ok (some url) → ∀ cands buffered,
    candidates l.answers address l.sfn = .ok (cands, buffered) → cands = []

/-- The layer raises nowhere, answers with at most 400 features, and has a matching one. -/
structure Holds (l : SearchedLayer) (address : String) (responses : ℕ → List Attrs) : Prop where
  url : ∃ url, l.url = .ok (some url)
  answers : Answers l.answers responses
  short : ∀ d ∈ radii, (responses d).length ≤ 400
  feature : ∃ d ∈ radii, ∃ c ∈ responses d, addrMatch address (l.sfn c) = some true

/-- The land area of the matching features can be read. -/
def Readable [PyFloat] (l : SearchedLayer) (address : String) (responses : ℕ → List Attrs) :
    Prop :=
  ∀ d ∈ radii, ∀ c ∈ responses d, addrMatch address (l.sfn c) = some true →
    ∃ area, landAreaOf c = .ok area

end SearchedLayer

variable {address : String} {l : SearchedLayer} {responses : ℕ → List Attrs}

theorem locate_passed {url : String × Option String} (hl : l.Passed address)
    (hurl : l.url = .ok (some url)) :
    ∀ hit, locate l.answers address l.sfn [] ≠ .ok (some hit) := by
  intro hit hhit
  obtain ⟨⟨cands, buffered⟩, hcands, hrest⟩ := bind_eq_ok.mp hhit
  rw [hl url hurl cands buffered hcands] at hrest
  cases hrest

theorem candidates_hasMatch {q : LayerAnswers} {sfn : Attrs → String} {d : ℕ} (ha : address ≠ "")
    (hans : Answers q responses) (hd : d ∈ radii)
    (hmatch : hasMatch address sfn ((responses d).take 400) = true) :
    ∃ e ∈ radii, ∃ buffered, candidates q address sfn = .ok ((responses e).take 400, buffered) ∧
      hasMatch address sfn ((responses e).take 400) = true := by
  have hsome : (radii.find? fun e => hasMatch address sfn ((responses e).take 400)).isSome = true :=
    List.find?_isSome.mpr ⟨d, hd, hmatch⟩
  obtain ⟨e, hfirst⟩ := Option.isSome_iff_exists.mp hsome
  obtain ⟨he, before, after, hradii, hbefore⟩ := List.find?_eq_some_iff_append.mp hfirst
  obtain ⟨buffered, hcands⟩ := candidates_first ha hans hradii
    (fun x hx => by simpa using hbefore x hx) he
  exact ⟨e, List.mem_of_find?_eq_some hfirst, buffered, hcands, he⟩

/-- The turn of a layer with a matching feature chooses one. -/
theorem locate_holds (hl : l.Holds address responses) (ha : address ≠ "") :
    ∃ hit, locate l.answers address l.sfn [] = .ok (some hit) ∧ hit.matched = true ∧
      addrMatch address (l.sfn hit.chosen) = some true ∧ ∃ d ∈ radii, hit.chosen ∈ responses d := by
  obtain ⟨d, hd, c, hc, hmatch⟩ := hl.feature
  rw [← List.take_of_length_le (hl.short d hd)] at hc
  obtain ⟨e, he, buffered, hcands, hkept⟩ :=
    candidates_hasMatch ha hl.answers hd ((hasMatch_iff ha).mpr ⟨c, hc, hmatch⟩)
  have hne := ne_nil_of_hasMatch hkept
  have htrue := choose_of_hasMatch hkept
  refine ⟨⟨(responses e).take 400, buffered, _, true⟩, ?_, rfl, choose_matched htrue, e, he,
    List.mem_of_mem_take (choose_mem address l.sfn hne)⟩
  rw [locate, hcands]
  simp only [bind, Except.bind, List.isEmpty_iff, if_neg hne, htrue]
  rfl

variable [PyFloat]

/-- The parcel of a result is confirmed by its address. -/
def Confirmed (r : ParcelResult) : Prop := r.addressMatch = some true ∧ r.bufferedMatch = false

theorem finish_flags {hit : Hit} {area : Value × Value} (address : String) (sfn : Attrs → String)
    (result : ParcelResult) (src : String) (name : Option String) (h : landAreaOf hit.chosen = .ok area) :
    ∃ r, finish result hit address src name sfn = .ok r ∧
      r.addressMatch = addrMatch address (sfn hit.chosen) ∧
      r.bufferedMatch = (hit.buffered && !hit.matched) := by
  simp only [finish, h, bind, Except.bind]
  exact ⟨_, rfl, by dsimp only, by dsimp only⟩

theorem finish_holds (hl : l.Holds address responses) (hread : l.Readable address responses)
    (ha : address ≠ "") :
    ∃ hit, locate l.answers address l.sfn [] = .ok (some hit) ∧
      ∀ result src name, ∃ r, finish result hit address src name l.sfn = .ok r ∧ Confirmed r := by
  obtain ⟨hit, hlocate, hmatched, hmatch, d, hd, hmem⟩ := locate_holds hl ha
  refine ⟨hit, hlocate, fun result src name => ?_⟩
  obtain ⟨area, harea⟩ := hread d hd _ hmem hmatch
  obtain ⟨r, hr, haddress, hbuffered⟩ := finish_flags address l.sfn result src name harea
  exact ⟨r, hr, haddress.trans hmatch, by simp [hbuffered, hmatched]⟩

section County

variable {county : County} {answers : ℕ → LayerAnswers}

/-- The loop goes on after a layer that raises or has nothing. -/
theorem countyLayers_skip (hrel : county.related = []) {n : ℕ} {service : String}
    (services : List String) (result : ParcelResult)
    (h : SearchedLayer.Passed ⟨answers n, situsFn (some county),
      arcgisLayerUrl service county.layerHint (answers n).description⟩ address) :
    ∃ result', countyLayers county answers address n (service :: services) result =
      countyLayers county answers address (n + 1) services result' := by
  obtain ⟨result', -, hgoes⟩ | ⟨url, hit, found, hurl, hhit, -, -⟩ :=
    countyLayers_cons address county answers n service services result
  · exact ⟨result', hgoes⟩
  · rw [hrel] at hhit
    exact (locate_passed h hurl _ hhit).elim

theorem countyLayers_passed (hrel : county.related = []) (services : List String) (n : ℕ)
    (result : ParcelResult)
    (h : ∀ l ∈ countySearched county answers n services, l.Passed address) :
    (countyLayers county answers address n services result).1 = false := by
  induction services generalizing n result with
  | nil => rfl
  | cons service services ih =>
    obtain ⟨hl, hrest⟩ := List.forall_mem_cons.mp h
    obtain ⟨result', hskip⟩ := countyLayers_skip hrel services result hl
    rw [hskip]
    exact ih _ _ hrest

/-- The first layer that is not passed gives the parcel, if it has a matching feature. -/
theorem countyLayers_confirms (hrel : county.related = []) (ha : address ≠ "")
    (services : List String) {before after : List SearchedLayer} (n : ℕ) (result : ParcelResult)
    (hlayers : countySearched county answers n services = before ++ l :: after)
    (hbefore : ∀ b ∈ before, b.Passed address) (hl : l.Holds address responses)
    (hread : l.Readable address responses) :
    (countyLayers county answers address n services result).1 = true ∧
      Confirmed (countyLayers county answers address n services result).2 := by
  induction services generalizing n result before with
  | nil => simp [countySearched] at hlayers
  | cons service services ih =>
    cases before with
    | nil =>
      obtain ⟨rfl, -⟩ := List.cons.inj hlayers
      obtain ⟨url, hurl⟩ := hl.url
      obtain ⟨hit, hlocate, hfinish⟩ := finish_holds hl hread ha
      obtain ⟨r, hr, hconfirmed⟩ := hfinish result url.1 url.2
      simp only at hurl hlocate hr
      unfold countyLayers
      simp only [hurl, hrel, hlocate, hr, bind, Except.bind, Except.map]
      exact ⟨trivial, hconfirmed⟩
    | cons b before =>
      obtain ⟨rfl, hrest⟩ := List.cons.inj hlayers
      obtain ⟨hb, hbefore⟩ := List.forall_mem_cons.mp hbefore
      obtain ⟨result', hskip⟩ := countyLayers_skip hrel services result hb
      rw [hskip]
      exact ih _ _ hrest hbefore

end County

section State

variable {svc : Statewide} {answers : ℕ → LayerAnswers}

theorem statewideLayers_skip (hrel : svc.related = []) {n : ℕ} {url : String} (urls : List String)
    (result : ParcelResult)
    (h : SearchedLayer.Passed ⟨answers n, situsOf [] false, .ok (some (url, none))⟩ address) :
    ∃ result', statewideLayers svc answers address n (url :: urls) result =
      statewideLayers svc answers address (n + 1) urls result' := by
  obtain ⟨result', -, hgoes⟩ | ⟨hit, found, hhit, -, -⟩ :=
    statewideLayers_cons address svc answers n url urls result
  · exact ⟨result', hgoes⟩
  · rw [hrel] at hhit
    exact (locate_passed h rfl _ hhit).elim

theorem statewideLayers_confirms (hrel : svc.related = []) (ha : address ≠ "")
    (urls : List String) {before after : List SearchedLayer} (n : ℕ) (result : ParcelResult)
    (hlayers : statewideSearched answers n urls = before ++ l :: after)
    (hbefore : ∀ b ∈ before, b.Passed address) (hl : l.Holds address responses)
    (hread : l.Readable address responses) :
    (statewideLayers svc answers address n urls result).1 = true ∧
      Confirmed (statewideLayers svc answers address n urls result).2 := by
  induction urls generalizing n result before with
  | nil => simp [statewideSearched] at hlayers
  | cons url urls ih =>
    cases before with
    | nil =>
      obtain ⟨rfl, -⟩ := List.cons.inj hlayers
      obtain ⟨hit, hlocate, hfinish⟩ := finish_holds hl hread ha
      obtain ⟨r, hr, hconfirmed⟩ := hfinish { result with parcelSourceLabel := some svc.label } url none
      simp only at hlocate hr
      unfold statewideLayers
      simp only [hrel, hlocate, hr]
      exact ⟨trivial, hconfirmed⟩
    | cons b before =>
      obtain ⟨rfl, hrest⟩ := List.cons.inj hlayers
      obtain ⟨hb, hbefore⟩ := List.forall_mem_cons.mp hbefore
      obtain ⟨result', hskip⟩ := statewideLayers_skip hrel urls result hb
      rw [hskip]
      exact ih _ _ hrest hbefore

end State

section Resolve

variable {reg : Registry} {sv : ParcelServices} {fips st : String}

theorem countyPart_passed (hrel : Unjoined reg fips st)
    (h : ∀ b ∈ ofCounty reg sv fips, b.Passed address) :
    (countyPart reg sv fips address).1 = false := by
  unfold countyPart
  cases hc : reg.lookup fips with
  | none => rfl
  | some c =>
    apply countyLayers_passed (hrel.1 c hc)
    simpa [ofCounty, hc] using h

theorem countyPart_confirms {before after : List SearchedLayer} (hrel : Unjoined reg fips st)
    (ha : address ≠ "") (hlayers : ofCounty reg sv fips = before ++ l :: after)
    (hbefore : ∀ b ∈ before, b.Passed address) (hl : l.Holds address responses)
    (hread : l.Readable address responses) :
    (countyPart reg sv fips address).1 = true ∧ Confirmed (countyPart reg sv fips address).2 := by
  unfold countyPart
  cases hc : reg.lookup fips with
  | none => simp [ofCounty, hc] at hlayers
  | some c =>
    apply countyLayers_confirms (hrel.1 c hc) ha _ _ _ ?_ hbefore hl hread
    · exact after
    · simpa [ofCounty, hc] using hlayers

theorem statewidePart_confirms {before after : List SearchedLayer} (hrel : Unjoined reg fips st)
    (ha : address ≠ "") (result : ParcelResult)
    (hlayers : ofState reg sv st = before ++ l :: after)
    (hbefore : ∀ b ∈ before, b.Passed address) (hl : l.Holds address responses)
    (hread : l.Readable address responses) :
    (statewidePart reg sv st address result).1 = true ∧
      Confirmed (statewidePart reg sv st address result).2 := by
  unfold statewidePart
  cases hs : reg.stateParcel st with
  | none => simp [ofState, hs] at hlayers
  | some svc =>
    apply statewideLayers_confirms (hrel.2 svc hs) ha _ _ _ ?_ hbefore hl hread
    · exact after
    · simpa [ofState, hs] using hlayers

/-- The first layer that neither raises nor comes up empty decides: when it has a matching
feature whose land area can be read, the result is confirmed by its address. -/
theorem resolve_confirms_first (county : String) {before after : List SearchedLayer}
    (ha : address ≠ "") (hrel : Unjoined reg fips st)
    (hlayers : ofCounty reg sv fips ++ ofState reg sv st = before ++ l :: after)
    (hbefore : ∀ b ∈ before, b.Passed address) (hl : l.Holds address responses)
    (hread : l.Readable address responses) :
    Confirmed (resolve reg sv fips st county address) := by
  have hstate : ∀ passed, ofState reg sv st = passed ++ l :: after →
      (∀ b ∈ ofCounty reg sv fips ++ passed, b.Passed address) →
        Confirmed (resolve reg sv fips st county address) := by
    intro passed hpassed hall
    obtain ⟨hcounty, hrest⟩ := List.forall_mem_append.mp hall
    have hfirst := countyPart_passed hrel hcounty
    obtain ⟨hfound, hconfirmed⟩ := statewidePart_confirms hrel ha
      (countyPart reg sv fips address).2 hpassed hrest hl hread
    unfold resolve
    simp only [hfirst, hfound, if_true]
    exact hconfirmed
  rcases List.append_eq_append_iff.mp hlayers with ⟨mid, rfl, hrest⟩ | ⟨mid, hcounty, hrest⟩
  · exact hstate mid hrest hbefore
  · cases mid with
    | nil =>
      rw [List.append_nil] at hcounty
      exact hstate [] hrest.symm (by rwa [hcounty, List.append_nil])
    | cons l' mid =>
      obtain ⟨rfl, -⟩ := List.cons.inj hrest
      obtain ⟨hfound, hconfirmed⟩ := countyPart_confirms hrel ha hcounty hbefore hl hread
      unfold resolve
      simp only [hfound, if_true]
      exact hconfirmed

end Resolve

end Order

end Parcel

/-- `float("NaN")`, its product with a number, and `round`, which raises on it. -/
@[reducible] def PyFloat.withNan : PyFloat where
  ofValue v := if v = .str "NaN" then some (.float "nan" false) else PyFloat.whole.ofValue v
  acresOf v := if v = .float "nan" false then .ok v else PyFloat.whole.acresOf v
  sqftOf v :=
    if v = .float "nan" false then .error (.other "cannot convert float NaN to integer")
    else PyFloat.whole.sqftOf v
  grouped := PyFloat.whole.grouped

namespace PyFloat.Nan

scoped instance instWithNan : PyFloat := PyFloat.withNan

end PyFloat.Nan

namespace Parcel

section TwoLayers

open scoped PyText.Ascii PyFloat.Nan
open Situs

/-- A county with a layer for its city and a layer for the rest. -/
def cityFirst : Registry where
  lookup fips :=
    if fips = "12057" then some { gisRest := ["https://gis/city/0", "https://gis/county/0"] } else none
  stateParcel _ := none
  stateAppraiser _ := none
  stateDeed _ := none
  statePlat _ := none
  countyName _ := ""

/-- The same features at every distance, in the city's layer and in the county's. -/
def cityAndCounty (city county : List Attrs) : ParcelServices where
  county n := answering fun _ => if n = 0 then city else county
  statewide _ := answering fun _ => []

theorem cityFirst_unjoined : Unjoined cityFirst "12057" "FL" := by
  refine ⟨fun c hc => ?_, fun svc hsvc => by cases hsvc⟩
  obtain rfl := Option.some.inj hc
  rfl

/-- The turn of one of the two layers. -/
def layerOf (n : ℕ) (features : List Attrs) : SearchedLayer where
  answers := answering fun _ => features
  sfn := situsFn (cityFirst.lookup "12057")
  url := .ok (some (if n = 0 then "https://gis/city/0" else "https://gis/county/0", some "Parcels"))

theorem layers_cityAndCounty (city county : List Attrs) :
    ofCounty cityFirst (cityAndCounty city county) "12057" ++
      ofState cityFirst (cityAndCounty city county) "FL" =
        [layerOf 0 city, layerOf 1 county] := rfl

theorem holds_of_match {n : ℕ} {c : Attrs}
    (h : addrMatch "9 Oak Avenue" ((layerOf n [c]).sfn c) = some true) :
    (layerOf n [c]).Holds "9 Oak Avenue" fun _ => [c] where
  url := ⟨_, rfl⟩
  answers := answers_answering _
  short _ _ := by simp
  feature := ⟨0, by decide, c, List.mem_singleton.mpr rfl, h⟩

theorem resolve_confirms_first_sample :
    Confirmed (resolve cityFirst (cityAndCounty [] [parcelAt "9 OAK AVE"]) "12057" "FL"
      "Hillsborough" "9 Oak Avenue") := by
  have hcity : (layerOf 0 []).Passed "9 Oak Avenue" := by
    intro url hurl cands buffered hcands
    have hnone : candidates (layerOf 0 []).answers "9 Oak Avenue" (layerOf 0 []).sfn =
        .ok ([], false) := rfl
    obtain ⟨rfl, -⟩ := Prod.mk.inj (Except.ok.inj (hcands.symm.trans hnone))
    rfl
  refine resolve_confirms_first "Hillsborough" (by decide) cityFirst_unjoined
    (layers_cityAndCounty [] [parcelAt "9 OAK AVE"]) (List.forall_mem_singleton.mpr hcity)
    (holds_of_match (by decide +kernel)) fun d hd c hc hmatch => ?_
  obtain rfl := List.mem_singleton.mp hc
  exact ⟨(.null, .null), by decide +kernel⟩

/-- The city's layer has the neighbour at the point, so the county's layer is not asked; and a
matching feature with an acreage of "NaN" is not returned even by the only layer that has one. -/
theorem resolve_hides_match :
    (¬ ∀ (reg : Registry) (sv : ParcelServices) (fips st county address : String)
        (l : SearchedLayer) (responses : ℕ → List Attrs),
      address ≠ "" → Unjoined reg fips st →
      (∀ n d feats, (sv.county n).features d = .ok feats ∨ (sv.statewide n).features d = .ok feats →
        feats.length ≤ 400) →
      l ∈ ofCounty reg sv fips ++ ofState reg sv st → l.Holds address responses →
      Confirmed (resolve reg sv fips st county address)) ∧
    ¬ ∀ (reg : Registry) (sv : ParcelServices) (fips st county address : String)
        (before after : List SearchedLayer) (l : SearchedLayer) (responses : ℕ → List Attrs),
      address ≠ "" → Unjoined reg fips st →
      ofCounty reg sv fips ++ ofState reg sv st = before ++ l :: after →
      (∀ b ∈ before, b.Passed address) → l.Holds address responses →
      Confirmed (resolve reg sv fips st county address) := by
  constructor
  · intro hall
    have hno : (resolve cityFirst (cityAndCounty [parcelAt "7 OAK AVE"] [parcelAt "9 OAK AVE"])
        "12057" "FL" "Hillsborough" "9 Oak Avenue").addressMatch = some false := by decide +kernel
    have hyes := hall cityFirst (cityAndCounty [parcelAt "7 OAK AVE"] [parcelAt "9 OAK AVE"])
      "12057" "FL" "Hillsborough" "9 Oak Avenue" (layerOf 1 [parcelAt "9 OAK AVE"]) _ (by decide)
      cityFirst_unjoined ?_ ?_ (holds_of_match (by decide +kernel))
    · exact absurd (hno.symm.trans hyes.1) (by decide)
    · intro n d feats h
      rcases h with h | h
      · obtain rfl := Except.ok.inj h
        split <;> simp
      · obtain rfl := Except.ok.inj h
        simp
    · rw [layers_cityAndCounty [parcelAt "7 OAK AVE"] [parcelAt "9 OAK AVE"]]
      simp
  · intro hall
    have hno : (resolve cityFirst (cityAndCounty [parcelAt "9 OAK AVE" ++ [("ACRES", .str "NaN")]] [])
        "12057" "FL" "Hillsborough" "9 Oak Avenue").addressMatch = none := by decide +kernel
    have hyes := hall cityFirst (cityAndCounty [parcelAt "9 OAK AVE" ++ [("ACRES", .str "NaN")]] [])
      "12057" "FL" "Hillsborough" "9 Oak Avenue" [] _ _ _ (by decide) cityFirst_unjoined
      (layers_cityAndCounty _ _) (by simp) (holds_of_match (by decide +kernel))
    exact absurd (hno.symm.trans hyes.1) (by decide)

end TwoLayers

end Parcel
end ResearchEngine
