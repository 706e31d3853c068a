import ResearchEngine.ConfirmedParcel
import ResearchEngine.DocumentFetcher

/-! Which of an order's location fields a research run looks at: its first address
line, and nothing else unless that line is blank. -/
namespace ResearchEngine

open PyText Geocode Context

/-- Two geocoder services that answer one search alike, whatever they say to others. -/
structure GeocoderAnswers.AgreeOn (address : String) (a b : GeocoderAnswers) : Prop where
  census : a.census address = b.census address
  arcgis : a.arcgis address = b.arcgis address
  nominatim : a.nominatim address = b.nominatim address
  countyAt : a.countyAt = b.countyAt

theorem geocode_agree [PyFloat] {address : String} {a b : GeocoderAnswers}
    (h : a.AgreeOn address b) : geocode a address = geocode b address := by
  have hcounty : countyFromCoords a = countyFromCoords b := by
    funext lat lon
    simp only [countyFromCoords, h.countyAt]
  have hfallback : fallbackGeo a = fallbackGeo b := by
    funext provider hit
    simp only [fallbackGeo, hcounty]
  simp only [geocode, censusAddress, arcgis, nominatim, h.census, h.arcgis, h.nominatim, hfallback]

namespace Fetching

section Order

variable [PyText] [PyFloat] {A : Type} {eng : Engine A} {input : ResearchInput A}
  {order : OrderData} {docTypes : List DocType}

/-- On the address path the property is located by geocoding the first address line. -/
theorem locate_order (h : strip order.addressLine1 ≠ "") (dep : Deployment)
    (geo : GeocoderAnswers) (sv : ParcelServices) :
    locateProperty dep geo sv (researchArgs order docTypes) =
      (geocode geo order.addressLine1).map
        fun g => { geo := g, address := order.addressLine1 } := by
  unfold locateProperty
  rw [if_neg fun hid => h hid.2]
  rfl

/-- The labels of a run that come from the order: its number and its survey type. -/
def relabel (args : ResearchArgs) (ctx : PropertyContext) : PropertyContext :=
  { ctx with
    order := orElse (strip args.orderNumber)
      (orElse ctx.parcelId (orElse ctx.jobNumber ctx.name))
    surveyType := args.surveyType }

theorem assembleContext_relabel (dep : Deployment) (sv : ParcelServices) (staging : Staging)
    (args args' : ResearchArgs) (found : Located) (hjob : args'.jobNumber = args.jobNumber) :
    assembleContext dep sv staging args' found =
      (assembleContext dep sv staging args found).map (relabel args') := by
  unfold assembleContext
  simp only [hjob, logJson]
  cases usableCoordinates found with
  | error e => rfl
  | ok coords =>
    cases staging.makeFolder with
    | error e => rfl
    | ok _ =>
      cases staging.saveJson "geocode.json" with
      | error e => rfl
      | ok _ =>
        cases staging.saveJson "parcel.json" with
        | error e => rfl
        | ok _ => cases staging.saveJson "clerk_search_refs.json" <;> rfl

omit [PyText] [PyFloat] in
theorem orElse_empty (a : String) : orElse a "" = a := by
  unfold orElse
  split
  · exact (‹a = ""›).symm
  · rfl

theorem resolveOrder_relabel {order' : OrderData} {docTypes' : List DocType}
    (h : strip order.addressLine1 ≠ "") (hsame : order'.addressLine1 = order.addressLine1) :
    resolveOrder eng input order' docTypes' =
      (resolveOrder eng input order docTypes).map (relabel (researchArgs order' docTypes')) := by
  unfold resolveOrder resolvePropertyContext
  rw [locate_order h, locate_order (hsame ▸ h), hsame]
  cases geocode input.geocoders order.addressLine1 with
  | error e => rfl
  | ok g => exact assembleContext_relabel _ _ _ _ _ _ rfl

theorem resolveOrder_agree {geo : GeocoderAnswers} (h : strip order.addressLine1 ≠ "")
    (hgeo : geo.AgreeOn order.addressLine1 input.geocoders) :
    resolveOrder eng { input with geocoders := geo } order docTypes =
      resolveOrder eng input order docTypes := by
  unfold resolveOrder resolvePropertyContext
  simp only [locate_order h, geocode_agree hgeo]

/-- For an order with a first address line that is not blank, that line is the one
search that the geocoders get, and the only field of the order that reaches the run
besides its labels; state and parcel ID are those of the place found. -/
theorem first_line_decides (eng : Engine A) (input : ResearchInput A) (order : OrderData)
    (docTypes : List DocType) (h : strip order.addressLine1 ≠ "") :
    (∀ order' docTypes', order'.addressLine1 = order.addressLine1 →
        resolveOrder eng input order' docTypes' =
          (resolveOrder eng input order docTypes).map (relabel (researchArgs order' docTypes'))) ∧
      (∀ geo : GeocoderAnswers, geo.AgreeOn order.addressLine1 input.geocoders →
        resolveOrder eng { input with geocoders := geo } order docTypes =
          resolveOrder eng input order docTypes) ∧
      ∀ ctx, resolveOrder eng input order docTypes = .ok ctx →
        ∃ g, geocode input.geocoders order.addressLine1 = .ok g ∧
          ctx.address = order.addressLine1 ∧ ctx.state = stateOfFips g.stateFips ∧
          ctx.parcelId = if ctx.parcelOk then findParcelId ctx.parcel.parcels else "" := by
  refine ⟨fun order' docTypes' hsame => resolveOrder_relabel h hsame,
    fun geo hgeo => resolveOrder_agree h hgeo, fun ctx hctx => ?_⟩
  obtain ⟨found, p, hfound, hp⟩ := resolvePropertyContext_ok hctx
  rw [locate_order h] at hfound
  obtain ⟨g, hg, rfl⟩ := map_eq_ok.mp hfound
  refine ⟨g, hg, hp.address, ?_, ?_⟩
  · rw [hp.state]
    exact orElse_empty _
  · rw [hp.parcelId, hp.parcelOk, hp.parcel]

end Order

section Concrete

open scoped PyText.Ascii PyFloat.Whole

def sampleEngine : Engine SourceAnswers where
  deployment := sampleDeployment
  adapters := Adapters.shipped sampleDeployment
  sha256 bytes := toString bytes.length

/-- Sources that save no file and know no marks. -/
def sampleSources : SourceAnswers where
  parcelRecord := .ok none
  appraiserRecord := .ok none
  appraisal := .ok {}
  clerkDocs _ _ := .ok {}
  floodZones := .ok []
  floodPanels := .ok []
  floodMap := .ok none
  floodReport := .ok none
  marks := .ok []
  datasheets := .ok []

/-- One call in which every search is geocoded to one parcel in Hillsborough county. -/
def sampleInput (situs parcelId : String) : ResearchInput SourceAnswers where
  geocoders := sampleGeocoder situs hillsborough
  parcels := sampleLayers situs parcelId
  staging := sampleStaging
  sources := sampleSources
  disk _ := none
  backend _ := { probeOk := true, copy := .done, evidence := .error "down" }

/-- An order for a parcel in Georgia. -/
def georgiaOrder : OrderData :=
  { id := 3, addressLine1 := "9 Oak Ave", city := some "Macon", state := some "GA"
    parcelId := some "X-9" }

theorem first_line_decides_georgia :
    strip georgiaOrder.addressLine1 ≠ "" ∧
      resolveOrder sampleEngine (sampleInput "9 OAK AVE" "A-1")
          { georgiaOrder with city := some "Tampa", state := some "FL" } [.parcelRecord] =
        (resolveOrder sampleEngine (sampleInput "9 OAK AVE" "A-1") georgiaOrder
          [.parcelRecord]).map (relabel (researchArgs georgiaOrder [.parcelRecord])) := by
  have h : strip georgiaOrder.addressLine1 ≠ "" := by decide +kernel
  exact ⟨h, (first_line_decides sampleEngine _ georgiaOrder _ h).1 _ _ rfl⟩

/-- The Georgia order is researched as a confirmed parcel of Florida, and the same
street address in another city is the same search. -/
theorem researched_elsewhere :
    (¬ ∀ (eng : Engine SourceAnswers) (input : ResearchInput SourceAnswers) (order : OrderData)
        (docTypes : List DocType) (ctx : PropertyContext),
        resolveOrder eng input order docTypes = .ok ctx → ctx.parcelOk = true →
        (∀ st, order.state = some st → st.length = 2 → ctx.state = st) ∧
          ∀ pid, order.parcelId = some pid → pid ≠ "" →
            without ' ' (without '-' ctx.parcelId) = without ' ' (without '-' pid)) ∧
      ¬ ∀ (order order' : OrderData) (docTypes : List DocType),
        order.addressLine1 = order'.addressLine1 → order.city ≠ order'.city →
        (researchArgs order docTypes).address ≠ (researchArgs order' docTypes).address := by
  refine ⟨fun hplace => ?_, fun hcity =>
    hcity georgiaOrder { georgiaOrder with city := some "Tampa" } [] rfl (by decide) rfl⟩
  obtain ⟨ctx, hctx, hp⟩ := succeeds_iff.mp (show succeeds
    (resolveOrder sampleEngine (sampleInput "9 OAK AVE" "A-1") georgiaOrder [.parcelRecord])
    (fun ctx => ctx.parcelOk && ctx.state = "FL") = true by decide +kernel)
  obtain ⟨hok, hfl⟩ := Bool.and_eq_true_iff.mp hp
  have hga := (hplace _ _ _ _ ctx hctx hok).1 "GA" rfl (by decide)
  rw [of_decide_eq_true hfl] at hga
  exact absurd hga (by decide)

end Concrete

end Fetching
end ResearchEngine
