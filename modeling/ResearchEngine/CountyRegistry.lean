import ResearchEngine.ConfirmedParcel
import ResearchEngine.TableLayers

/-! The county registry as it is put together on import: the seeded counties, the modules of the
states, and the bulk file of links. -/
namespace ResearchEngine

/-- A value of a county's entry. -/
inductive Setting
  | none
  | text (s : String)
  | texts (l : List String)
  | flag (b : Bool)
  | joined (tables : List Related)

namespace Setting

def truthy : Setting → Bool
  | none => false
  | text s => s ≠ ""
  | texts l => l ≠ []
  | flag b => b
  | joined tables => !tables.isEmpty

def text? : Setting → Option String
  | text s => some s
  | _ => Option.none

end Setting

/-- A county's entry in the registry. -/
abbrev Entry := Table String Setting

/-- A module of `data/states`; a name that it lacks is empty. -/
structure StateModule where
  state : String := ""
  parcel : Option Statewide := none
  deedLink : String := ""
  platLink : String := ""
  appraiserLink : String := ""
  counties : Table String Entry := .empty

/-- `STATE_PARCEL`, `STATE_COUNTIES`, `STATE_DEED`, `STATE_PLAT` and `STATE_APPRAISER`. -/
structure StateTables where
  parcel : Table String Statewide := .empty
  counties : Table String Entry := .empty
  deed : Table String String := .empty
  plat : Table String String := .empty
  appraiser : Table String String := .empty

namespace CountyRegistry

/-- `TABLE[_mod.STATE] = v`, where there is a state and a value. -/
def put {V : Type} (state : String) (v : Option V) (t : Table String V) : Table String V :=
  match v with
  | some v => if state ≠ "" then t.set state v else t
  | none => t

/-- A link, if it is not empty. -/
def link (url : String) : Option String := if url = "" then none else some url

/-- One turn of the loop over the modules. -/
def loadState (t : StateTables) (m : StateModule) : StateTables where
  parcel := put m.state m.parcel t.parcel
  deed := put m.state (link m.deedLink) t.deed
  plat := put m.state (link m.platLink) t.plat
  appraiser := put m.state (link m.appraiserLink) t.appraiser
  counties := m.counties.rows.foldl (fun t r => t.set r.1 r.2) t.counties

/-- The modules, in the order of their names. -/
def loadStates (states : List StateModule) : StateTables := states.foldl loadState {}

section Bulk

variable [PyText]

/-- `len(fips) == 5 and fips.isdigit()` -/
def isFips (fips : String) : Bool := fips.length = 5 ∧ fips.toList.all PyText.isDigit

/-- `cur.setdefault(k, v)` for the values of a bulk entry that are not empty. -/
def mergeEntry (cur entry : Entry) : Entry :=
  entry.rows.foldl (fun cur r => if r.2.truthy then cur.setDefault r.1 r.2 else cur) cur

/-- `_merge_bulk_links`; a file that is missing has no rows. -/
def mergeBulkLinks (registry bulk : Table String Entry) : Table String Entry :=
  bulk.rows.foldl (fun registry r =>
    if isFips r.1 then registry.set r.1 (mergeEntry ((registry.get r.1).getD .empty) r.2)
    else registry) registry

/-- `REGISTRY` after the import. -/
def load (seeded : Table String Entry) (states : List StateModule) (bulk : Table String Entry) :
    Table String Entry :=
  mergeBulkLinks (seeded.update (loadStates states).counties) bulk

end Bulk

/-- What the services read of an entry; the defaults are those of their `reg.get(key, default)`, which
gives `None` for a key that has it. -/
def countyOf (e : Entry) : County where
  name := ((e.get "county").bind Setting.text?).getD ""
  gisRest := match e.get "gis_rest" with
    | some (.text url) => if url = "" then [] else [url]
    | some (.texts urls) => urls
    | _ => []
  layerHint := ((e.get "parcel_layer_hint").bind Setting.text?).getD "parcel"
  related := match e.get "related" with
    | some (.joined tables) => tables
    | _ => []
  situsExclude := match e.get "situs_exclude" with
    | some (.texts names) => names
    | _ => []
  composeSitus := ((e.get "compose_situs").map Setting.truthy).getD false
  appraiserUrl := (e.get "appraiser_url").bind Setting.text?
  clerkUrl := (e.get "clerk_url").bind Setting.text?
  platUrl := (e.get "plat_url").bind Setting.text?
  clerkPlatform := ((e.get "clerk_platform").map Setting.text?).getD (some "unknown")
  clerkNote := ((e.get "clerk_note").map Setting.text?).getD (some "")

/-- The registry that the services look up; an entry without any key counts as none. -/
def registry [PyText] (countyName : String → String) (seeded : Table String Entry)
    (states : List StateModule) (bulk : Table String Entry) : Registry where
  lookup fips := (((load seeded states bulk).get fips).filter fun e => !e.rows.isEmpty).map countyOf
  stateParcel abbr := (loadStates states).parcel.get abbr
  stateAppraiser abbr := (loadStates states).appraiser.get abbr
  stateDeed abbr := (loadStates states).deed.get abbr
  statePlat abbr := (loadStates states).plat.get abbr
  countyName := countyName

/-! The layers that a value comes from. -/

section Layers

variable [PyText] (seeded : Table String Entry) (states : List StateModule) (bulk : Table String Entry)

/-- A hand-written entry: that of the last module that has the county, or else the seeded one. -/
def handWritten (fips : String) : Option Entry :=
  (states.reverse.findSome? fun m => m.counties.get fips).or (seeded.get fips)

/-- A value of the bulk file, if it counts. -/
def bulkValue (fips key : String) : Option Setting :=
  if isFips fips then ((bulk.get fips).bind (·.get key)).filter Setting.truthy else none

/-- A value of a county: the hand-written one, or else the one of the bulk file. -/
def setting (fips key : String) : Option Setting :=
  ((handWritten seeded states fips).bind (·.get key)).or (bulkValue bulk fips key)

/-- A text among the values of a county. -/
def settingText (fips key : String) : Option String :=
  (setting seeded states bulk fips key).bind Setting.text?

/-- A link of a state: the one of the last module of the state that has one. -/
def stateLink (links : StateModule → String) (abbr : String) : Option String :=
  states.reverse.findSome? fun m => if abbr ≠ "" ∧ m.state = abbr then link (links m) else none

end Layers

/-! The tables of the states. -/

theorem get_put {V : Type} (state : String) (v : Option V) (t : Table String V) (abbr : String) :
    (put state v t).get abbr =
      (if abbr ≠ "" ∧ state = abbr then v else none).or (t.get abbr) := by
  cases v with
  | none => simp [put]
  | some v =>
    by_cases hstate : state = ""
    · simp only [put, hstate, ne_eq, not_true_eq_false, if_false]
      by_cases habbr : abbr = ""
      · simp [habbr]
      · simp [habbr, Ne.symm habbr]
    · simp only [put, hstate, ne_eq, not_false_eq_true, if_true, Table.get_set]
      by_cases habbr : abbr = state
      · simp [habbr, hstate]
      · simp [habbr, Ne.symm habbr]

theorem get_counties (states : List StateModule) (fips : String) :
    (loadStates states).counties.get fips =
      states.reverse.findSome? fun m => m.counties.get fips := by
  have hstep (t : StateTables) (m : StateModule) (k : String) :
      (loadState t m).counties.get k = (m.counties.get k).or (t.counties.get k) :=
    Table.get_update t.counties m.counties k
  rw [loadStates, Table.get_foldl_last hstep, Table.get_empty, Option.or_none]

/-- The tables of the links are filled alike. -/
theorem get_stateLink (table : StateTables → Table String String) (links : StateModule → String)
    (hstep : ∀ t m, table (loadState t m) = put m.state (link (links m)) (table t))
    (hempty : table {} = .empty) (states : List StateModule) (abbr : String) :
    (table (loadStates states)).get abbr = stateLink states links abbr := by
  have hget (t : StateTables) (m : StateModule) (k : String) : (table (loadState t m)).get k =
      (if k ≠ "" ∧ m.state = k then link (links m) else none).or ((table t).get k) := by
    rw [hstep, get_put]
  rw [loadStates, Table.get_foldl_last hget, hempty, Table.get_empty, Option.or_none]
  rfl

/-! The bulk file. -/

theorem get_mergeEntry (cur entry : Entry) (key : String) :
    (mergeEntry cur entry).get key = (cur.get key).or ((entry.get key).filter Setting.truthy) := by
  unfold mergeEntry
  rw [Table.get_foldl_rows
    (g := fun _ old (v : Setting) => if v.truthy then some (old.getD v) else old) ?_]
  · cases entry.get key with
    | none => simp
    | some v => cases hv : v.truthy <;> cases cur.get key <;> simp [Option.filter, hv]
  · intro t k v k'
    cases hv : v.truthy with
    | true => simp [Table.get_setDefault]
    | false =>
      simp only [Bool.false_eq_true, if_false]
      exact Table.get_untouched t k k'

section Bulk

variable [PyText] (seeded bulk : Table String Entry) (states : List StateModule)

theorem get_mergeBulkLinks (fips : String) :
    (mergeBulkLinks seeded bulk).get fips =
      if isFips fips then
        ((bulk.get fips).map fun e => mergeEntry ((seeded.get fips).getD .empty) e).or (seeded.get fips)
      else seeded.get fips := by
  unfold mergeBulkLinks
  rw [Table.get_foldl_rows (g := fun k old (e : Entry) =>
    if isFips k then some (mergeEntry (old.getD .empty) e) else old) ?_]
  · cases hbulk : bulk.get fips <;> cases hfips : isFips fips <;> simp
  · intro t k e k'
    cases hk : isFips k with
    | true => simp [Table.get_set]
    | false =>
      simp only [Bool.false_eq_true, if_false]
      exact Table.get_untouched t k k'

theorem get_load (fips key : String) :
    ((load seeded states bulk).get fips).bind (·.get key) = setting seeded states bulk fips key := by
  have hhand : (seeded.update (loadStates states).counties).get fips = handWritten seeded states fips := by
    rw [Table.get_update, get_counties, handWritten]
  rw [load, get_mergeBulkLinks, hhand, setting, bulkValue]
  cases hfips : isFips fips with
  | false => simp
  | true =>
    cases hbulk : bulk.get fips with
    | none => simp
    | some e =>
      cases handWritten seeded states fips with
      | none => simp [get_mergeEntry]
      | some cur => simp [get_mergeEntry]

/-- A value that the services read of a county is read of its layers. -/
theorem lookup_reads {α : Type} (countyName : String → String) (fips key : String) {f : County → α}
    {g : Option Setting → α} (hf : ∀ e : Entry, f (countyOf e) = g (e.get key)) :
    (((registry countyName seeded states bulk).lookup fips).map f).getD (g none) =
      g (setting seeded states bulk fips key) := by
  rw [← get_load]
  simp only [registry]
  cases (load seeded states bulk).get fips with
  | none => rfl
  | some e =>
    by_cases hempty : e.rows = []
    · have hget : e.get key = none := by simp [Table.get, hempty]
      simp [Option.filter, hempty, hget]
    · simp [Option.filter, hempty, hf]

theorem lookup_link (countyName : String → String) (fips key : String) {f : County → Option String}
    (hf : ∀ e : Entry, f (countyOf e) = (e.get key).bind Setting.text?) :
    ((registry countyName seeded states bulk).lookup fips).bind f =
      settingText seeded states bulk fips key := by
  have h := lookup_reads seeded bulk states countyName fips key (f := f)
    (g := fun v => v.bind Setting.text?) hf
  rw [settingText, ← h]
  cases (registry countyName seeded states bulk).lookup fips <;> rfl

end Bulk

section Runs

variable [PyText] [PyFloat] {dep : Deployment} {geo : GeocoderAnswers} {sv : ParcelServices}
  {staging : Staging} {args : ResearchArgs} {ctx : PropertyContext}

/-- The links of a research run: each is the county's hand-written one, or else the one of the bulk
file, or else that of the state, or else, for the appraiser and the clerk, the directory's, and for the
plats the clerk's. -/
theorem context_links (countyName : String → String) (seeded bulk : Table String Entry)
    (states : List StateModule)
    (h : Context.resolvePropertyContext
      { dep with registry := registry countyName seeded states bulk } geo sv staging args = .ok ctx) :
    ctx.appraiserUrl = Context.firstUrl
        [settingText seeded states bulk ctx.countyFips "appraiser_url",
          stateLink states StateModule.appraiserLink ctx.state]
        (Parcel.netronline ctx.state ctx.county) ∧
      ctx.clerkRef.officialRecordsSearch = Context.firstUrl
        [settingText seeded states bulk ctx.countyFips "clerk_url",
          stateLink states StateModule.deedLink ctx.state]
        (Parcel.netronline ctx.state ctx.county) ∧
      ctx.clerkRef.platSearch = Context.firstUrl
        [settingText seeded states bulk ctx.countyFips "plat_url",
          stateLink states StateModule.platLink ctx.state]
        ctx.clerkRef.officialRecordsSearch ∧
      ctx.clerkRef.appraiserUrl = settingText seeded states bulk ctx.countyFips "appraiser_url" ∧
      ctx.clerkRef.platform =
        ((setting seeded states bulk ctx.countyFips "clerk_platform").map Setting.text?).getD
          (some "unknown") ∧
      ctx.clerkRef.note =
        ((setting seeded states bulk ctx.countyFips "clerk_note").map Setting.text?).getD (some "") := by
  obtain ⟨found, -, h⟩ := bind_eq_ok.mp h
  obtain ⟨-, -, happraiser, hclerk⟩ := Context.assembleContext_made h
  have hlink {key : String} {f : County → Option String}
      (hf : ∀ e : Entry, f (countyOf e) = (e.get key).bind Setting.text?) :=
    lookup_link seeded bulk states countyName ctx.countyFips key hf
  have hread {key : String} {default : Option String} {f : County → Option String}
      (hf : ∀ e : Entry, f (countyOf e) = ((e.get key).map Setting.text?).getD default) :=
    lookup_reads seeded bulk states countyName ctx.countyFips key
      (g := fun v => (v.map Setting.text?).getD default) hf
  -- a link of the county before that of its state
  have hlinks {key : String} {f : County → Option String} {table : StateTables → Table String String}
      {links : StateModule → String} (last : String)
      (hf : ∀ e : Entry, f (countyOf e) = (e.get key).bind Setting.text?)
      (hstep : ∀ t m, table (loadState t m) = put m.state (link (links m)) (table t))
      (hempty : table {} = .empty) :
      Context.firstUrl [((registry countyName seeded states bulk).lookup ctx.countyFips).bind f,
          (table (loadStates states)).get ctx.state] last =
        Context.firstUrl [settingText seeded states bulk ctx.countyFips key,
          stateLink states links ctx.state] last := by
    rw [hlink hf, get_stateLink table links hstep hempty]
  rw [hclerk]
  exact ⟨happraiser.trans (hlinks _ (fun _ => rfl) (fun _ _ => rfl) rfl),
    hlinks _ (fun _ => rfl) (fun _ _ => rfl) rfl, hlinks _ (fun _ => rfl) (fun _ _ => rfl) rfl,
    hlink fun _ => rfl, hread fun _ => rfl, hread fun _ => rfl⟩

end Runs

section Samples

open scoped PyText.Ascii PyFloat.Whole

/-- A county with a clerk's portal, and without an appraiser's site. -/
def seededCounty : Table String Entry :=
  ⟨[("12057", ⟨[("county", .text "Hillsborough"), ("clerk_url", .text "https://hand")], by decide⟩)],
    by decide⟩

/-- The bulk file has both, and a site that it does not know. -/
def bulkCounty : Table String Entry :=
  ⟨[("12057", ⟨[("clerk_url", .text "https://bulk"), ("appraiser_url", .text "https://appraiser"),
    ("plat_url", .text "")], by decide⟩)], by decide⟩

def platState : StateModule := { state := "FL", platLink := "https://plats" }

def layeredRun : Except PyErr PropertyContext :=
  Context.resolvePropertyContext
    { Context.sampleDeployment with
      registry := registry (fun _ => "") seededCounty [platState] bulkCounty }
    (Context.sampleGeocoder "9 OAK AVE, TAMPA, FL" Context.hillsborough)
    (Context.sampleLayers "9 OAK AVE" "A-1") Context.sampleStaging { address := "9 Oak Avenue" }

theorem layeredRun_links : ∃ ctx, layeredRun = .ok ctx ∧ ctx.appraiserUrl = "https://appraiser" ∧
    ctx.clerkRef.officialRecordsSearch = "https://hand" ∧
    ctx.clerkRef.platSearch = "https://plats" := by
  obtain ⟨ctx, hctx, hplace⟩ := Context.succeeds_iff.mp (show Context.succeeds layeredRun
    (fun ctx => ctx.countyFips = "12057" ∧ ctx.state = "FL") = true by decide +kernel)
  obtain ⟨hfips, hstate⟩ := of_decide_eq_true hplace
  obtain ⟨happraiser, hclerk, hplat, -, -, -⟩ := context_links _ _ _ _ hctx
  rw [hfips, hstate] at happraiser hclerk hplat
  have hhand : settingText seededCounty [platState] bulkCounty "12057" "clerk_url" =
      some "https://hand" := by decide +kernel
  have hbulk : settingText seededCounty [platState] bulkCounty "12057" "appraiser_url" =
      some "https://appraiser" := by decide +kernel
  have hempty : settingText seededCounty [platState] bulkCounty "12057" "plat_url" = none := by
    decide +kernel
  have hplats : stateLink [platState] StateModule.platLink "FL" = some "https://plats" := by
    decide +kernel
  rw [hbulk] at happraiser
  rw [hhand] at hclerk
  rw [hempty, hplats] at hplat
  exact ⟨ctx, hctx, happraiser.trans (by simp [Context.firstUrl]),
    hclerk.trans (by simp [Context.firstUrl]), hplat.trans (by simp [Context.firstUrl])⟩

end Samples

end CountyRegistry
end ResearchEngine
