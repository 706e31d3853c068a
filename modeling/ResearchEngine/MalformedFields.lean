import ResearchEngine.ReportPages
import ResearchEngine.StepIndependence

/-! The documents of a confirmed parcel whose fields are not what their names promise. Most figures
are printed as they came; the area of the land and the living area are converted without a guard,
and the guard of the four amounts lets an infinite one through. -/
namespace ResearchEngine

open PyText

/-- The sources with the renderers of `downloader.py`, each over the files of its folder. -/
def SourceServices.rendering [PyText] [PyFloat] [PyTruncate] (svc : SourceServices)
    (desk : String → Reports.Desk) : SourceServices :=
  { svc with
    saveParcelRecord := fun folder p doc => Reports.saveParcelRecord (desk folder) doc p
    saveAppraiserRecord := fun folder attrs doc appraiserUrl =>
      Reports.saveAppraiserRecord (desk folder) doc attrs appraiserUrl }

namespace Reports

section Fields

variable [PyText] [PyFloat] [PyTruncate]

/-! What each figure asks for. -/

/-- An area that is printed, or none. -/
def AreaFits (area : Value) : Prop := area.truthy = true → ∃ text, PyFloat.grouped area = .ok text

omit [PyText] [PyTruncate] in
theorem landText_ok_iff (doc : DocMeta) : (∃ lot, landText doc = .ok lot) ↔ AreaFits doc.landSqft := by
  unfold landText AreaFits
  split
  · rename_i htruthy
    cases h : PyFloat.grouped doc.landSqft with
    | error err => simp [Except.map, htruthy]
    | ok text => simp [Except.map]
  · rename_i hfalsy
    exact iff_of_true ⟨none, rfl⟩ fun htruthy => absurd htruthy hfalsy

omit [PyText] [PyTruncate] in
theorem areaText_ok_iff (p : ParcelResult) :
    (∃ text, Adapters.areaText p = .ok text) ↔ AreaFits p.landSqft := by
  unfold Adapters.areaText AreaFits
  split
  · rename_i htruthy
    cases h : PyFloat.grouped p.landSqft with
    | error err =>
      refine iff_of_false ?_ fun h => ?_
      · rintro ⟨text, htext⟩
        cases htext
      · obtain ⟨text, htext⟩ := h htruthy
        cases htext
    | ok text => exact iff_of_true ⟨_, rfl⟩ fun _ => ⟨text, rfl⟩
  · rename_i hfalsy
    exact iff_of_true ⟨_, rfl⟩ fun htruthy => absurd htruthy hfalsy

omit [PyText] [PyFloat] in
theorem money_ok_iff (v : Value) :
    (∃ m, money v = .ok m) ↔ PyTruncate.truncate v ≠ .overflow := by
  unfold money
  cases PyTruncate.truncate v <;> simp

omit [PyText] [PyFloat] in
theorem livingText_ok_iff (lvg : Value) : (∃ m, livingText lvg = .ok m) ↔
    (lvg.truthy = true → ∃ text, PyTruncate.truncate lvg = .grouped text) := by
  unfold livingText
  split
  · rename_i htruthy
    cases PyTruncate.truncate lvg <;> simp [htruthy]
  · rename_i hfalsy
    exact iff_of_true ⟨_, rfl⟩ fun htruthy => absurd htruthy hfalsy

/-- The four amounts of the roll. -/
def amountKeys : List (List String) := [marketKeys, assessedKeys, taxableKeys, saleKeys]

/-- The fields of a parcel that the renderers convert to numbers can be converted. -/
structure Printable (p : ParcelResult) (attrs : Attrs) : Prop where
  land : AreaFits p.landSqft
  living : (ga attrs livingKeys).truthy = true →
    ∃ text, PyTruncate.truncate (ga attrs livingKeys) = .grouped text
  amounts : ∀ keys ∈ amountKeys, PyTruncate.truncate (ga attrs keys) ≠ .overflow

omit [PyText] [PyFloat] [PyTruncate] in
theorem bind_ok_iff {α β : Type} {x : Except PyErr α} {f : α → Except PyErr β} {P : Prop}
    (hf : ∀ a, (∃ b, f a = .ok b) ↔ P) : (∃ b, (x >>= f) = .ok b) ↔ (∃ a, x = .ok a) ∧ P := by
  cases x with
  | error err =>
    refine iff_of_false ?_ ?_
    · rintro ⟨b, hb⟩
      cases hb
    · rintro ⟨⟨a, ha⟩, _⟩
      cases ha
  | ok a =>
    refine (hf a).trans ?_
    simp

theorem cardValues_ok_iff (doc : DocMeta) (attrs : Attrs) : (∃ v, cardValues doc attrs = .ok v) ↔
    (∀ keys ∈ amountKeys, PyTruncate.truncate (ga attrs keys) ≠ .overflow) ∧
      AreaFits doc.landSqft ∧ ((ga attrs livingKeys).truthy = true →
        ∃ text, PyTruncate.truncate (ga attrs livingKeys) = .grouped text) := by
  unfold cardValues
  rw [bind_ok_iff fun market => bind_ok_iff fun assessed => bind_ok_iff fun taxable =>
    bind_ok_iff fun sale => bind_ok_iff fun land => bind_ok_iff fun living => by
      show _ ↔ True
      simp [pure, Except.pure]]
  simp only [money_ok_iff, landText_ok_iff, livingText_ok_iff, amountKeys, List.forall_mem_cons,
    List.not_mem_nil, false_implies, implies_true, and_true, and_assoc]

theorem printable_iff (p : ParcelResult) (doc : DocMeta) (attrs : Attrs)
    (hland : doc.landSqft = p.landSqft) :
    (∃ v, cardValues doc attrs = .ok v) ↔ Printable p attrs := by
  rw [cardValues_ok_iff, hland]
  constructor
  · rintro ⟨hamounts, hland, hliving⟩
    exact ⟨hland, hliving, hamounts⟩
  · intro h
    exact ⟨h.amounts, h.land, h.living⟩

/-! The two documents. -/

section Documents

variable {desk : Desk} (hdesk : ∀ filename body, desk.write filename body = .ok ())

include hdesk

omit [PyTruncate] in
theorem saveParcelRecord_saved {doc : DocMeta} {p : ParcelResult} {attrs : Attrs} {rest : List Attrs}
    (hparcels : p.parcels = attrs :: rest) (hland : AreaFits doc.landSqft) :
    saveParcelRecord desk doc p = .ok (some "Parcel_Record.html") := by
  obtain ⟨lot, hlot⟩ := (landText_ok_iff doc).mpr hland
  have hpage : parcelPage desk doc p = .ok (some (parcelBody desk doc p attrs (lot.getD ""))) := by
    simp only [parcelPage, hparcels, hlot]
    rfl
  rw [saveParcelRecord, hpage]
  show (desk.write _ _).map _ = _
  rw [hdesk]
  rfl

theorem saveAppraiserRecord_saved {doc : DocMeta} {attrs : Attrs} {appraiserUrl : String}
    (hattrs : attrs ≠ []) {v : CardValues} (hvalues : cardValues doc attrs = .ok v) :
    saveAppraiserRecord desk doc attrs appraiserUrl = .ok (some "Property_Appraiser.html") := by
  have hpage : appraiserPage desk doc attrs appraiserUrl =
      .ok (some (appraiserBody desk doc attrs v appraiserUrl)) := by
    rw [appraiserPage, if_neg hattrs, hvalues]
    rfl
  rw [saveAppraiserRecord, hpage]
  show (desk.write _ _).map _ = _
  rw [hdesk]
  rfl

end Documents

theorem saveAppraiserRecord_values {desk : Desk} {doc : DocMeta} {attrs : Attrs}
    {appraiserUrl : String} (hattrs : attrs ≠ []) {saved : Option String}
    (h : saveAppraiserRecord desk doc attrs appraiserUrl = .ok saved) :
    ∃ v, cardValues doc attrs = .ok v := by
  rw [saveAppraiserRecord, appraiserPage, if_neg hattrs] at h
  cases hvalues : cardValues doc attrs with
  | error err =>
    rw [hvalues] at h
    cases h
  | ok v => exact ⟨v, rfl⟩

/-! The two steps. -/

/-- Both steps of a parcel are ok and have their document, and nothing is raised on the way. -/
structure RecordsKept (svc : SourceServices) (desk : String → Desk) (ctx : PropertyContext) : Prop where
  parcelStep : ∃ fs, Adapters.parcelFetch ((svc.rendering desk).answers ctx) ctx = .ok fs ∧
    fs.status = .ok ∧ "Parcel_Record.html" ∈ fs.downloaded
  appraiserStep :
    (Adapters.appraiserFetch ((svc.rendering desk).answers ctx) ctx).status = .ok ∧
      "Property_Appraiser.html" ∈
        (Adapters.appraiserFetch ((svc.rendering desk).answers ctx) ctx).downloaded
  parcelRecord : ∃ saved, saveParcelRecord (desk ctx.folder) ctx.docMeta ctx.parcel = .ok saved
  appraiserRecord : ∃ saved, saveAppraiserRecord (desk ctx.folder) ctx.docMeta
    (ctx.parcel.parcels.headD []) ctx.appraiserUrl = .ok saved

omit [PyText] [PyFloat] [PyTruncate] in
theorem confirmed_parcel {ctx : PropertyContext} (h : Adapters.parcelConfirmed ctx = true) :
    ctx.parcelOk = true ∧ ∃ attrs rest, ctx.parcel.parcels = attrs :: rest := by
  simp only [Adapters.parcelConfirmed, decide_eq_true_eq] at h
  obtain ⟨hok, _, hparcels⟩ := h
  refine ⟨hok, ?_⟩
  cases hp : ctx.parcel.parcels with
  | nil => simp [hp] at hparcels
  | cons attrs rest => exact ⟨attrs, rest, rfl⟩

omit [PyText] [PyFloat] [PyTruncate] in
theorem docMeta_landSqft {ctx : PropertyContext} (h : ctx.parcelOk = true) :
    ctx.docMeta.landSqft = ctx.parcel.landSqft := if_pos h

/-- A card that raises leaves an ok step without its document. -/
theorem appraiserFetch_lost {svc : SourceServices} {desk : String → Desk} {ctx : PropertyContext}
    {attrs : Attrs} {rest : List Attrs} (hok : ctx.parcelOk = true)
    (hparcels : ctx.parcel.parcels = attrs :: rest) {err : PyErr}
    (herr : saveAppraiserRecord (desk ctx.folder) ctx.docMeta attrs ctx.appraiserUrl = .error err) :
    (Adapters.appraiserFetch ((svc.rendering desk).answers ctx) ctx).status = .ok ∧
      (Adapters.appraiserFetch ((svc.rendering desk).answers ctx) ctx).downloaded =
        Adapters.appraisalFiles (ctx.appr.getD {}) := by
  have hrecord : ((svc.rendering desk).answers ctx).appraiserRecord = .error err := by
    rw [← herr]
    simp only [SourceServices.answers, SourceServices.lookups, SourceServices.rendering, hparcels, List.headD_cons]
  unfold Adapters.appraiserFetch
  simp [hok, hparcels, hrecord, Adapters.savedName]

/-- The records of a confirmed parcel are kept exactly when its figures can be converted. -/
theorem records_kept_iff {svc : SourceServices} {desk : String → Desk} {ctx : PropertyContext}
    (hconfirmed : Adapters.parcelConfirmed ctx = true) (hattrs : ctx.parcel.parcels.headD [] ≠ [])
    (hdesk : ∀ filename body, (desk ctx.folder).write filename body = .ok ()) :
    RecordsKept svc desk ctx ↔ Printable ctx.parcel (ctx.parcel.parcels.headD []) := by
  obtain ⟨hok, attrs, rest, hparcels⟩ := confirmed_parcel hconfirmed
  have hland := docMeta_landSqft hok
  constructor
  · intro h
    obtain ⟨saved, hsaved⟩ := h.appraiserRecord
    exact (printable_iff ctx.parcel ctx.docMeta _ hland).mp (saveAppraiserRecord_values hattrs hsaved)
  · intro h
    obtain ⟨v, hvalues⟩ := (printable_iff ctx.parcel ctx.docMeta _ hland).mpr h
    have hparcel : saveParcelRecord (desk ctx.folder) ctx.docMeta ctx.parcel =
        .ok (some "Parcel_Record.html") := by
      apply saveParcelRecord_saved hdesk hparcels
      rw [hland]
      exact h.land
    have hcard : saveAppraiserRecord (desk ctx.folder) ctx.docMeta (ctx.parcel.parcels.headD [])
        ctx.appraiserUrl = .ok (some "Property_Appraiser.html") :=
      saveAppraiserRecord_saved hdesk hattrs hvalues
    refine ⟨?_, ?_, ⟨_, hparcel⟩, ⟨_, hcard⟩⟩
    · obtain ⟨area, harea⟩ := (areaText_ok_iff ctx.parcel).mpr h.land
      have hrecord : ((svc.rendering desk).answers ctx).parcelRecord =
          .ok (some "Parcel_Record.html") := hparcel
      unfold Adapters.parcelFetch
      simp only [hconfirmed, harea, hrecord, Adapters.savedName]
      exact ⟨_, rfl, rfl, List.mem_cons_self⟩
    · have hrecord : ((svc.rendering desk).answers ctx).appraiserRecord =
          .ok (some "Property_Appraiser.html") := hcard
      unfold Adapters.appraiserFetch
      simp [hok, hparcels, hrecord, Adapters.savedName]

end Fields

/-! One record with plain fields, and one with the living area as a county may write it. -/

section Concrete

open Steps
open scoped PyText.Ascii PyFloat.Whole PyTruncate.Small

def writableDesk : Desk where
  now := ⟨2024, 5, 1, 9, 30⟩
  write _ _ := .ok ()
  readImage _ := .ok none

/-- A confirmed parcel with one field. -/
def fieldContext (name : String) (v : Value) : PropertyContext :=
  { bareContext with
    parcelOk := true
    parcel := { method := "arcgis-rest", parcels := [[(name, v)]] } }

theorem records_kept_plain :
    RecordsKept silentServices (fun _ => writableDesk) (fieldContext "ID" (.str "A-1")) := by
  have hliving : ga [("ID", .str "A-1")] livingKeys = .null := by decide +kernel
  have hamounts : ∀ keys ∈ amountKeys,
      PyTruncate.truncate (ga [("ID", .str "A-1")] keys) ≠ .overflow := by decide +kernel
  apply (records_kept_iff _ _ fun _ _ => rfl).mpr
  · refine ⟨fun h => ?_, fun h => ?_, hamounts⟩
    · cases h
    · have hgiven := h.symm.trans (congrArg Value.truthy hliving)
      cases hgiven
  · rfl
  · exact List.cons_ne_nil _ _

/-- A living area with a comma: the step is ok, and there is no card. -/
theorem living_area_comma :
    Adapters.parcelConfirmed (fieldContext "LIVING" (.str "1,850")) = true ∧
    (∀ filename body, writableDesk.write filename body = .ok ()) ∧
    (Adapters.appraiserFetch ((silentServices.rendering fun _ => writableDesk).answers
      (fieldContext "LIVING" (.str "1,850"))) (fieldContext "LIVING" (.str "1,850"))).status = .ok ∧
    (Adapters.appraiserFetch ((silentServices.rendering fun _ => writableDesk).answers
      (fieldContext "LIVING" (.str "1,850"))) (fieldContext "LIVING" (.str "1,850"))).downloaded = [] ∧
    ¬ RecordsKept silentServices (fun _ => writableDesk) (fieldContext "LIVING" (.str "1,850")) := by
  have herr : saveAppraiserRecord writableDesk (fieldContext "LIVING" (.str "1,850")).docMeta
      [("LIVING", .str "1,850")] (fieldContext "LIVING" (.str "1,850")).appraiserUrl =
        .error (.other "could not convert to float") := by decide +kernel
  obtain ⟨hstatus, hdownloaded⟩ := @appraiserFetch_lost _ _ _ silentServices (fun _ => writableDesk)
    (fieldContext "LIVING" (.str "1,850")) _ _ rfl rfl _ herr
  refine ⟨rfl, fun _ _ => rfl, hstatus, hdownloaded, fun h => ?_⟩
  obtain ⟨saved, hsaved⟩ := h.appraiserRecord
  have hboth := hsaved.symm.trans herr
  cases hboth

end Concrete

end Reports
end ResearchEngine
