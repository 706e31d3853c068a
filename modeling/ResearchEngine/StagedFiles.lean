import ResearchEngine.DocumentCall
import ResearchEngine.EvidenceGrowth

/-! Which staged files the shipped adapters name for a document that they call ok, and
what one `document_fetcher` call makes of them: a document with a key has its `files` and
`order_files` rows and its blob, and one without had no file on disk. -/
namespace ResearchEngine

namespace Adapters

variable [PyText] [PyFloat] (dep : Deployment) (src : SourceAnswers) (ctx : PropertyContext)

/-- Whether the adapter of a document type calls its fetch ok. -/
def reportsOk : DocType → Bool
  | .parcelRecord => parcelConfirmed ctx && (areaText ctx.parcel).toBool
  | .propertyAppraiserTaxRecord => ctx.parcelOk && !ctx.parcel.parcels.isEmpty
  | .recordedPlatSubdivisionMap | .deedSubjectParcel => true
  | .femaFloodZoneFirm =>
    match flood src ctx.countyFips with
    | .ok f => f.floodZone.truthy || (savedName src.floodMap).isSome
    | .error _ => false
  | .ngsControl =>
    match src.marks with
    | .ok marks => !marks.isEmpty
    | .error _ => false

/-- The staged files that an adapter names when it calls its fetch ok. -/
def stagedFiles : DocType → List String
  | .parcelRecord => (savedName src.parcelRecord).toList
  | .propertyAppraiserTaxRecord =>
    appraisalFiles (ctx.appr.getD {}) ++ (savedName src.appraiserRecord).toList
  | .recordedPlatSubdivisionMap => (savedName (.ok (scrapeDocuments dep src ctx).1.plat)).toList
  | .deedSubjectParcel => (savedName (.ok (scrapeDocuments dep src ctx).1.deed)).toList
  | .femaFloodZoneFirm =>
    match flood src ctx.countyFips with
    | .ok f =>
      ((if f.floodZone.truthy then savedName src.floodReport else none).or
        (savedName src.floodMap)).toList
    | .error _ => []
  | .ngsControl =>
    match src.datasheets with
    | .ok files => files
    | .error _ => []

/-- What the step of a type shows of its adapter's fetch. -/
structure Shows (docType : DocType) (step : StepResult) : Prop where
  ok : step.status = .ok ↔ reportsOk src ctx docType = true
  files : step.status = .ok → step.downloaded = stagedFiles dep src ctx docType

omit [PyText] [PyFloat] in
theorem runOne_plain {d : ResidentialDoc} {fetch : PropertyContext → Except PyErr FetchedSource}
    {fallback : PropertyContext → FetchedSource} {step : StepResult}
    (h : (Steps.runOne d (plainAdapter fetch fallback) ctx).1 = .ok step) :
    (∃ fs, fetch ctx = .ok fs ∧ step.status = fs.status ∧ step.downloaded = fs.downloaded) ∨
      ∃ e, fetch ctx = .error e ∧ step.status = (fallback ctx).status := by
  have hcase := Steps.runOne_cases d (plainAdapter fetch fallback) ctx
  generalize Steps.runOne d (plainAdapter fetch fallback) ctx = r at hcase h
  cases hcase with
  | fetched hf =>
    obtain rfl := Except.ok.inj h
    obtain ⟨hfetch, rfl⟩ := Prod.mk.inj hf
    exact .inl ⟨_, hfetch, rfl, rfl⟩
  | fallback hf hb =>
    obtain rfl := Except.ok.inj h
    obtain ⟨hfetch, rfl⟩ := Prod.mk.inj hf
    obtain ⟨hback, -⟩ := Prod.mk.inj hb
    obtain rfl := Except.ok.inj hback
    exact .inr ⟨_, hfetch, rfl⟩
  | escaped hf hs hb => cases h
  | lastResort hf hs hb => cases hb

omit [PyText] [PyFloat] in
theorem runOne_fetched {d : ResidentialDoc} {adapter : SourceAdapter} {step : StepResult}
    {fs : FetchedSource} {ctx' : PropertyContext}
    (h : (Steps.runOne d adapter ctx).1 = .ok step) (hf : adapter.fetch ctx = (.ok fs, ctx')) :
    step.status = fs.status ∧ step.downloaded = fs.downloaded := by
  unfold Steps.runOne at h
  rw [hf] at h
  obtain rfl := Except.ok.inj h
  exact ⟨rfl, rfl⟩

omit [PyText] in
/-- A plain adapter whose fallback only links shows what its fetch returned. -/
theorem shows_plain {docType : DocType} {d : ResidentialDoc}
    {fetch : PropertyContext → Except PyErr FetchedSource}
    {fallback : PropertyContext → FetchedSource} {step : StepResult}
    (h : (Steps.runOne d (plainAdapter fetch fallback) ctx).1 = .ok step)
    (hfallback : (fallback ctx).status = .link)
    (hok : ∀ fs, fetch ctx = .ok fs → (fs.status = .ok ↔ reportsOk src ctx docType = true) ∧
      (fs.status = .ok → fs.downloaded = stagedFiles dep src ctx docType))
    (herr : ∀ e, fetch ctx = .error e → reportsOk src ctx docType = false) :
    Shows dep src ctx docType step := by
  obtain ⟨fs, hfetch, hst, hfiles⟩ | ⟨e, hfetch, hst⟩ := runOne_plain ctx h
  · obtain ⟨hiff, hnames⟩ := hok fs hfetch
    exact ⟨by rw [hst]; exact hiff, fun hs => hfiles.trans (hnames (hst.symm.trans hs))⟩
  · rw [hfallback] at hst
    refine ⟨?_, fun hs => by rw [hst] at hs; cases hs⟩
    simp [hst, herr e hfetch]

omit [PyText] in
theorem parcel_shows {d : ResidentialDoc} {step : StepResult}
    (h : (Steps.runOne d (plainAdapter (parcelFetch src) parcelFallback) ctx).1 = .ok step) :
    Shows dep src ctx .parcelRecord step := by
  refine shows_plain dep src ctx h rfl (fun fs hfs => ?_) fun e he => ?_
  · unfold parcelFetch at hfs
    split at hfs
    · rename_i hc
      obtain rfl := Except.ok.inj hfs
      have hst : (parcelUnconfirmed ctx).status = .link := by
        unfold parcelUnconfirmed
        split <;> rfl
      simp_all [reportsOk]
    · rename_i hc
      obtain ⟨area, harea, hfs⟩ := bind_eq_ok.mp hfs
      obtain rfl := Except.ok.inj hfs
      refine ⟨?_, fun _ => rfl⟩
      simp_all [reportsOk, Except.toBool]
  · unfold parcelFetch at he
    split at he
    · cases he
    · cases harea : areaText ctx.parcel with
      | ok area =>
        simp only [harea] at he
        cases he
      | error e' => simp [reportsOk, harea, Except.toBool]

omit [PyText] in
theorem flood_shows {d : ResidentialDoc} {step : StepResult}
    (h : (Steps.runOne d (plainAdapter (floodFetch src) fun _ => floodFallback) ctx).1 = .ok step) :
    Shows dep src ctx .femaFloodZoneFirm step := by
  refine shows_plain dep src ctx h rfl (fun fs hfs => ?_) fun e he => ?_
  · obtain ⟨f, hf, hfs⟩ := bind_eq_ok.mp hfs
    obtain rfl := Except.ok.inj hfs
    refine ⟨?_, fun _ => by simp [stagedFiles, hf]⟩
    simp only [reportsOk, hf, Bool.or_eq_true]
    split
    · exact iff_of_true rfl ‹_›
    · exact iff_of_false (by simp) ‹_›
  · cases hf : flood src ctx.countyFips with
    | ok f =>
      rw [floodFetch, hf] at he
      cases he
    | error e' => simp [reportsOk, hf]

omit [PyFloat] in
/-- What the NGS adapter reports goes by the marks that it is given, and its files are the
datasheets. -/
theorem ngsFetch_ok {fs : FetchedSource} (h : ngsFetch src = .ok fs) :
    ∃ marks, src.marks = .ok marks ∧ (fs.status = if marks = [] then .empty else .ok) ∧
      fs.downloaded = src.datasheets.toOption.getD [] := by
  obtain ⟨b, hb, hfs⟩ := bind_eq_ok.mp h
  obtain ⟨marks, hmarks, hb⟩ := bind_eq_ok.mp hb
  obtain rfl := Except.ok.inj hfs
  obtain rfl := Except.ok.inj hb
  refine ⟨marks, hmarks, by cases marks <;> simp, ?_⟩
  cases src.datasheets <;> rfl

theorem ngs_shows {d : ResidentialDoc} {step : StepResult}
    (h : (Steps.runOne d (plainAdapter (fun _ => ngsFetch src) fun _ => ngsFallback) ctx).1 =
      .ok step) : Shows dep src ctx .ngsControl step := by
  refine shows_plain dep src ctx h rfl (fun fs hfs => ?_) fun e he => ?_
  · obtain ⟨marks, hmarks, hst, hfiles⟩ := ngsFetch_ok src hfs
    refine ⟨?_, fun _ => ?_⟩
    · cases marks <;> simp [reportsOk, hmarks, hst]
    · rw [hfiles]
      cases hsheets : src.datasheets <;> simp [stagedFiles, hsheets, Except.toOption]
  · cases hmarks : src.marks with
    | ok marks =>
      rw [ngsFetch, benchmarks, hmarks] at he
      cases he
    | error e' => simp [reportsOk, hmarks]

/-- The one turn of a call takes its status and its files from the adapter. -/
theorem turn_shows {docType : DocType} {step : StepResult}
    (h : (Steps.turn (shipped dep src) (docTypeToStep docType) ctx).1 = .ok step) :
    Shows dep src ctx docType step := by
  cases docType with
  | parcelRecord => exact parcel_shows dep src ctx h
  | propertyAppraiserTaxRecord =>
    refine shows_plain dep src ctx h rfl (fun fs hfs => ?_) fun e he => by cases he
    obtain rfl := Except.ok.inj hfs
    refine ⟨by simp [appraiserFetch, reportsOk], fun hs => ?_⟩
    simp_all [appraiserFetch, stagedFiles]
  | recordedPlatSubdivisionMap =>
    obtain ⟨hst, hfiles⟩ := runOne_fetched ctx h rfl
    exact ⟨by simp [hst, platFetch, reportsOk], fun _ => hfiles⟩
  | deedSubjectParcel =>
    obtain ⟨hst, hfiles⟩ := runOne_fetched ctx h rfl
    exact ⟨by simp [hst, deedFetch, reportsOk], fun _ => hfiles⟩
  | femaFloodZoneFirm => exact flood_shows dep src ctx h
  | ngsControl => exact ngs_shows dep src ctx h

omit [PyText] [PyFloat] in
/-- A turn whose fallback cannot fail makes a step. -/
theorem runOne_total {d : ResidentialDoc} {adapter : SourceAdapter}
    (h : ∀ ctx, ∃ fs ctx', adapter.fallback ctx = (.ok fs, ctx')) :
    ∃ step, (Steps.runOne d adapter ctx).1 = .ok step := by
  have hcase := Steps.runOne_cases d adapter ctx
  generalize Steps.runOne d adapter ctx = r at hcase ⊢
  cases hcase with
  | @escaped e ctx' e' ctx'' hf hs hb =>
    obtain ⟨fs, ctx₁, hfs⟩ := h ctx'
    rw [hfs] at hb
    cases hb
  | _ => exact ⟨_, rfl⟩

theorem turn_total (docType : DocType) :
    ∃ step, (Steps.turn (shipped dep src) (docTypeToStep docType) ctx).1 = .ok step := by
  cases docType <;> exact runOne_total ctx fun _ => ⟨_, _, rfl⟩

end Adapters

namespace EvidenceUpload

/-- The two ids name rows of the order, and the file's blob is there. -/
def Backs (ev : Evidence) (orderId : Uuid) (fileId orderFileId : Option Uuid) : Prop :=
  ∃ f o file key, fileId = some f ∧ orderFileId = some o ∧ ev.files.get f = some file ∧
    ev.orderFiles.get o = some { orderId := orderId, fileId := f } ∧
    file.contentKey = some key ∧ (ev.blobs key).isSome = true

theorem Backs.grows {ev ev' : Evidence} (h : Grows ev ev') {orderId : Uuid}
    {fileId orderFileId : Option Uuid} (hb : Backs ev orderId fileId orderFileId) :
    Backs ev' orderId fileId orderFileId := by
  obtain ⟨f, o, file, key, hf, ho, hfile, horder, hkey, hblob⟩ := hb
  exact ⟨f, o, file, key, hf, ho, h.files f file hfile, h.orderFiles o _ horder, hkey,
    h.blobs key hblob⟩

section Keys

variable [PyText]

theorem buildKey_ne_empty {orgId orderId documentId filename key : String}
    (h : buildKey orgId orderId documentId filename = .ok key) : key ≠ "" := by
  unfold buildKey at h
  split at h
  · cases h
  · obtain rfl := Except.ok.inj h
    intro he
    have hlen := congrArg String.length he
    simp [String.length_append] at hlen

variable (sha256 : Blob → String) (u : Upload) (doc : FetchedDocument) (ev : Evidence)

/-- A document that comes back uploaded from its evidence rows has a key. -/
theorem recordEvidence_fileKey {key filename : String} {bytes : Blob} (hkey : key ≠ "")
    (h : (recordEvidence sha256 u key filename bytes doc ev).1.status = .uploaded) :
    truthy (recordEvidence sha256 u key filename bytes doc ev).1.fileKey = true := by
  unfold recordEvidence at h ⊢
  split at h
  · cases h
  · simpa [truthy] using hkey

/-- An upload of a staged file gives the document a key, or fails. -/
theorem uploadArtifact_fileKey (hsource : u.source ≠ none)
    (h : (uploadArtifact sha256 u doc ev).1.status = .uploaded) :
    truthy (uploadArtifact sha256 u doc ev).1.fileKey = true := by
  revert h
  unfold uploadArtifact
  split
  · exact (hsource ‹_›).elim
  · split
    · intro h
      cases h
    · rename_i hk
      have hkey := buildKey_ne_empty hk
      unfold uploadFile
      split
      · exact recordEvidence_fileKey sha256 u doc ev hkey
      · split
        · intro h
          cases h
        · exact recordEvidence_fileKey sha256 u doc _ hkey

end Keys

end EvidenceUpload

namespace Fetching

open Adapters EvidenceUpload

/-- One of the files is on disk. -/
def onDisk (disk : String → Option Blob) (files : List String) : Bool :=
  files.any fun filename => (disk filename).isSome

theorem source_eq_none_iff (u : Upload) :
    u.source = none ↔ onDisk u.disk u.downloaded = false := by
  simp [Upload.source, onDisk, List.findSome?_eq_none_iff]

/-- The deployed engine: the shipped adapters. -/
def shippedEngine [PyText] [PyFloat] (dep : Deployment) (sha256 : Blob → String) :
    Engine SourceAnswers where
  deployment := dep
  adapters := shipped dep
  sha256 := sha256

section Call

variable [PyText] [PyFloat] (dep : Deployment) (sha256 : Blob → String)
  (input : ResearchInput SourceAnswers) (order : OrderData) (docType : DocType)

/-- When the adapter of the requested type calls its fetch ok, one of the files that it
names is on disk. -/
def StagesFile : Prop :=
  ∀ ctx, resolveOrder (shippedEngine dep sha256) input order [docType] = .ok ctx →
    input.staging.docsDir = .ok () → input.staging.writeManifest = .ok () →
    input.staging.writeResult = .ok () → reportsOk input.sources ctx docType = true →
    onDisk input.disk (stagedFiles dep input.sources ctx docType) = true

/-- What a returned document says of its evidence if it is uploaded: it has a key, and its
two rows and its blob exist, or it has none of them and no file was staged. -/
def Fetched (ev : Evidence) (f : FetchedDocument) : Prop :=
  (truthy f.fileKey = true ∧ Backs ev order.id f.fileId f.orderFileId) ∨
    (f.fileKey = none ∧ f.fileId = none ∧ ¬ StagesFile dep sha256 input order docType)

omit [PyText] [PyFloat] in
theorem mapStepStatus_eq_uploaded {status : StepStatus} :
    mapStepStatus status = .uploaded ↔ status = .ok := by
  cases status <;> simp [mapStepStatus]

omit [PyText] [PyFloat] in
theorem documentOf_status (docType : DocType) (step : StepResult) :
    (documentOf docType step).status = mapStepStatus step.status := by
  unfold documentOf
  split <;> rfl

omit [PyText] [PyFloat] in
theorem documentOf_noFile (docType : DocType) (step : StepResult) :
    (documentOf docType step).fileKey = none ∧ (documentOf docType step).fileId = none := by
  unfold documentOf
  split <;> exact ⟨rfl, rfl⟩

omit [PyFloat] in
/-- The evidence of a settled step: rows and blobs are only added, and an uploaded
document has them unless its step named no file that is on disk. -/
theorem settleStep_evidence (eng : Engine SourceAnswers) (tenantId : Option Uuid)
    (step : StepResult) (ev : Evidence) :
    let done := settleStep eng input order tenantId docType step ev
    Grows ev done.2 ∧ (done.1.status = .uploaded →
      (truthy done.1.fileKey = true ∧ Backs done.2 order.id done.1.fileId done.1.orderFileId) ∨
        (done.1.fileKey = none ∧ done.1.fileId = none ∧ step.status = .ok ∧
          onDisk input.disk step.downloaded = false)) := by
  intro done
  by_cases hst : (documentOf docType step).status = .uploaded
  · have hok : step.status = .ok :=
      mapStepStatus_eq_uploaded.mp ((documentOf_status docType step).symm.trans hst)
    have hdone : done = uploadArtifact eng.sha256 (uploadOf input order tenantId docType step)
        (documentOf docType step) ev := if_pos hst
    have hkey := uploadArtifact_fileKey eng.sha256 (uploadOf input order tenantId docType step)
      (documentOf docType step) ev
    have hcase := uploadArtifact_cases eng.sha256 (uploadOf input order tenantId docType step)
      (documentOf docType step) ev
    by_cases hnone : (uploadOf input order tenantId docType step).source = none
    · obtain ⟨hk, hf⟩ := documentOf_noFile docType step
      have habsent : done = (documentOf docType step, ev) := by
        rw [hdone, uploadArtifact, hnone]
      rw [habsent]
      exact ⟨.refl ev, fun _ => .inr ⟨hk, hf, hok, (source_eq_none_iff _).mp hnone⟩⟩
    · rw [← hdone] at hkey hcase
      clear_value done
      cases hcase with
      | absent h => exact (hnone h).elim
      | failed hg => exact ⟨hg, fun h => by cases h⟩
      | stored hg hfile horder hblob =>
        exact ⟨hg, fun h => .inl ⟨hkey hnone h, _, _, _, _, rfl, rfl, hfile, horder, rfl, hblob⟩⟩
  · have hdone : done = (documentOf docType step, ev) := if_neg hst
    rw [hdone]
    exact ⟨.refl ev, fun h => (hst h).elim⟩

/-- What a call leaves of the evidence, and what the document it returns says of it. -/
theorem documentFetcher_evidence (tenantId : Uuid) (w : World) :
    let out := documentFetcher (shippedEngine dep sha256) input ⟨some order, docType, tenantId⟩ w
    Grows w.evidence out.2.evidence ∧ ∀ f, out.1 = .ok f → f.status = .uploaded →
      Fetched dep sha256 input order docType out.2.evidence f := by
  intro out
  have hout : out = _ := documentFetcher_call (shippedEngine dep sha256) input order docType tenantId w
  rw [hout]
  simp only [outcomeOn]
  cases hres : resolveOrder (shippedEngine dep sha256) input order [docType] with
  | error e => exact ⟨.refl _, fun f hf => by cases hf⟩
  | ok ctx =>
    simp only [Except.bind]
    cases hstep : stepOn (shippedEngine dep sha256) input docType ctx with
    | error e => exact ⟨.refl _, fun f hf => by cases hf⟩
    | ok step =>
      obtain ⟨hg, hdoc⟩ := settleStep_evidence input order docType (shippedEngine dep sha256)
        (some tenantId) step w.evidence
      refine ⟨hg, fun f hf hst => ?_⟩
      obtain rfl := Except.ok.inj hf
      obtain hstored | ⟨hk, hid, hok, hdisk⟩ := hdoc hst
      · exact .inl hstored
      · refine .inr ⟨hk, hid, fun hstages => ?_⟩
        obtain ⟨hdir, hturn, hmanifest, hresult⟩ := (stepOn_eq_ok_iff _).mp hstep
        have hshows := turn_shows dep input.sources ctx hturn
        have hon := hstages ctx hres hdir hmanifest hresult (hshows.ok.mp hok)
        rw [← hshows.files hok, hdisk] at hon
        cases hon

/-- A call that stages no file returns a document that is called uploaded all the same. -/
theorem documentFetcher_unstaged (tenantId : Uuid) (w : World)
    (h : ¬ StagesFile dep sha256 input order docType) :
    let out := documentFetcher (shippedEngine dep sha256) input ⟨some order, docType, tenantId⟩ w
    ∃ f, out.1 = .ok f ∧ f.status = .uploaded ∧ f.fileKey = none ∧ f.fileId = none ∧
      out.2.evidence = w.evidence := by
  intro out
  simp only [StagesFile, not_forall] at h
  obtain ⟨ctx, hres, hdir, hmanifest, hresult, hok, hdisk⟩ := h
  obtain ⟨step, hturn⟩ := turn_total dep input.sources ctx docType
  have hshows := turn_shows dep input.sources ctx hturn
  have hstep : stepOn (shippedEngine dep sha256) input docType ctx = .ok step :=
    (stepOn_eq_ok_iff _).mpr ⟨hdir, hturn, hmanifest, hresult⟩
  have hstatus := hshows.ok.mpr hok
  have hsource : (uploadOf input order (some tenantId) docType step).source = none := by
    rw [source_eq_none_iff]
    show onDisk input.disk step.downloaded = false
    rw [hshows.files hstatus]
    exact eq_false_of_ne_true hdisk
  have huploaded : (documentOf docType step).status = .uploaded := by
    rw [documentOf_status, hstatus]
    rfl
  have hsettled : settleStep (shippedEngine dep sha256) input order (some tenantId) docType step
      w.evidence = (documentOf docType step, w.evidence) := by
    rw [settleStep, if_pos huploaded, uploadArtifact, hsource]
  have hout : out = (.ok (documentOf docType step), ⟨w.evidence, .ok ctx :: w.resolutions⟩) := by
    rw [show out = _ from
      documentFetcher_call (shippedEngine dep sha256) input order docType tenantId w]
    simp only [outcomeOn, hres, Except.bind, hstep, hsettled]
  obtain ⟨hk, hf⟩ := documentOf_noFile docType step
  rw [hout]
  exact ⟨_, rfl, huploaded, hk, hf, rfl⟩

/-- A call returns no uploaded document without its evidence exactly when it stages a file. -/
theorem documentFetcher_backed_iff (tenantId : Uuid) (w : World) :
    let out := documentFetcher (shippedEngine dep sha256) input ⟨some order, docType, tenantId⟩ w
    (∀ f, out.1 = .ok f → f.status = .uploaded →
        Backs out.2.evidence order.id f.fileId f.orderFileId) ↔
      StagesFile dep sha256 input order docType := by
  have hev := documentFetcher_evidence dep sha256 input order docType tenantId w
  have hunstaged := documentFetcher_unstaged dep sha256 input order docType tenantId w
  dsimp only at hev hunstaged ⊢
  generalize documentFetcher (shippedEngine dep sha256) input ⟨some order, docType, tenantId⟩ w = out
    at hev hunstaged ⊢
  constructor
  · intro h
    by_contra hno
    obtain ⟨f, hf, hst, -, hid, -⟩ := hunstaged hno
    obtain ⟨fileId, -, -, -, hsome, -⟩ := h f hf hst
    rw [hid] at hsome
    cases hsome
  · intro hstages f hf hst
    obtain ⟨-, hb⟩ | ⟨-, -, hno⟩ := hev.2 f hf hst
    · exact hb
    · exact (hno hstages).elim

end Call

end Fetching
end ResearchEngine
