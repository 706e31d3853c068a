import ResearchEngine.MalformedFields

/-! The reports as markup with values. Every value is escaped where a text or a quoted attribute
stands, and the tags depend only on the cells that are there, except that the appraiser's card
prints the name of the county as it is. -/
namespace ResearchEngine
namespace Reports

open PyText Markup

/-! The pages as they are meant. -/

/-- A value as `_e` takes it. -/
def held (v : Value) : Part := .value (if v = .null then "" else v.text)

def Cell.given (c : Cell) : Bool := !(c.value = .null ∨ c.value = .str "")

def rowParts (c : Cell) : Template :=
  if c.given then
    [.markup "<div class='", .markup (if c.full then "full" else ""), .markup "'><dt>",
      held (.str c.label), .markup "</dt>", .markup "<dd>", held c.value, .markup "</dd></div>"]
  else []

def rowsParts (cells : List Cell) : Template := (cells.map rowParts).flatten

def subtitleParts (address : String) (doc : DocMeta) : Template :=
  [held (.str address), .markup " &middot; ", held (.str doc.county), .markup " County, ",
    held (.str doc.state)]

/-- A page up to its source. -/
def shellHead (now : Clock) (eyebrow title : String) (subtitle : Template) : Template :=
  [.markup "<div class=doc><div class=head>", .markup "<div><div class=eyebrow>",
      held (.str eyebrow), .markup "</div><h1>", held (.str title), .markup "</h1>",
      .markup "<div class=sub>"] ++ subtitle ++
    [.markup "</div></div>", .markup "<div class=stamp>Generated ", .value (stamp now),
      .markup "<br>"]

def shellParts (now : Clock) (eyebrow title : String) (subtitle source inner : Template) : Template :=
  shellHead now eyebrow title subtitle ++ source ++
    [.markup "</div></div>", .markup "<div class=body>"] ++ inner ++ [.markup "</div></div>"]

def entryParts (f : String × Value) : Template :=
  [.markup "<div><dt>", held (.str f.1), .markup "</dt><dd>", held f.2, .markup "</dd></div>"]

def parcelSourceParts (p : ParcelResult) : Template :=
  let label := held (.str (Adapters.textOr p.parcelSourceLabel "county parcel service"))
  let src := p.source.getD ""
  if src ≠ "" then
    [.markup "<a href='", held (.str src), .markup "'>", label, .markup "</a>"]
  else [label]

def appraiserLinkParts (appraiserUrl : String) : Template :=
  if appraiserUrl ≠ "" then
    [.markup " &middot; <a href='", held (.str appraiserUrl),
      .markup "'>open county Property Appraiser</a>"]
  else []

/-- The source of the card's values, with the county's name as a value. -/
def sourceLabelParts (doc : DocMeta) : Template :=
  if doc.state = "FL" then [.markup "Florida DOR statewide tax roll (NAL/cadastral)"]
  else [.value doc.county, .markup " County parcel / assessor data"]

def bannerParts (inSfha : Bool) (risk : Risk) : Template :=
  [.markup "<div class='banner ", .value risk.cls, .markup "'><span class=lbl>Inside SFHA?</span>",
    held (.str (if inSfha then "INSIDE SPECIAL FLOOD HAZARD AREA"
      else "OUTSIDE SPECIAL FLOOD HAZARD AREA")), .markup "</div>"]

def exhibitParts : Option Blob → Template
  | none => []
  | some image =>
    [.markup "<div class=sec>Flood map exhibit</div><div class=exhibit><img src='",
      .value (dataUri image),
      .markup "' alt='FEMA flood map'><div class=cap>FEMA NFHL flood zones over topographic basemap; ",
      .markup "red crosshair marks the parcel.</div></div>"]

section Pages

variable [PyText] (desk : Desk) (doc : DocMeta)

def parcelParts (p : ParcelResult) (attrs : Attrs) (lot : String) : Template :=
  shellParts desk.now "Survey Research" "Parcel Record" (subtitleParts doc.matchedAddress doc)
    (parcelSourceParts p)
    ([.markup "<div class=sec>Parcel summary</div><dl class=grid>"] ++
      rowsParts (parcelCells doc attrs lot) ++
      [.markup "</dl><div class=sec>All recorded attributes</div><dl class=grid>"] ++
      ((dumped attrs).map entryParts).flatten ++
      [.markup "</dl>", .markup
          "<div class=note><b>Verify the situs address matches the subject property.</b> ",
        .markup "Values are the county parcel-service figures at fetch time.</div>"])

def appraiserParts (attrs : Attrs) (v : CardValues) (appraiserUrl : String) : Template :=
  shellParts desk.now "Survey Research" "Property Appraiser / Tax Record"
    (subtitleParts (orElse doc.situs doc.matchedAddress) doc)
    (sourceLabelParts doc ++ appraiserLinkParts appraiserUrl)
    ([.markup "<div class=sec>Property &amp; tax</div><dl class=grid>"] ++
      rowsParts (appraiserCells doc attrs v) ++
      [.markup
        "</dl><div class=note>Values (where shown) are the county roll figures. Verify current-year ",
        .markup "assessment, exemptions, and tax due on the county Property Appraiser / Assessor site.</div>"])

def floodParts (flood : Attrs) (zone : String) (risk : Risk) (inSfha : Bool) (image : Option Blob) :
    Template :=
  shellParts desk.now "FEMA · NFHL" "FEMA Flood Report" (subtitleParts doc.matchedAddress doc)
    [.markup "<a href='",
      held (if flood.hasKey "map_service_center" then flood.get "map_service_center" else .str ""),
      .markup "'>FEMA Map Service Center</a>"]
    (bannerParts inSfha risk ++ [.markup "<div class=sec>Flood determination</div><dl class=grid>"] ++
      rowsParts (floodCells doc flood zone risk) ++ [.markup "</dl>"] ++ exhibitParts image ++
      [.markup "<div class=note><b>Determination is from the effective FEMA NFHL</b> at the ",
        .markup "parcel location. Confirm the panel and any LOMA/LOMR on the FEMA Map Service ",
        .markup "Center before certifying.</div>"])

end Pages

/-! The skeletons: what a page is made of, apart from its values. -/

/-- The cells of a grid: which are there, and which span both columns. -/
def marks (cells : List Cell) : List (Bool × Bool) := cells.map fun c => (c.given, c.full)

def cellShape (given full : Bool) : Shape :=
  if given then
    [some "<div class='", some (if full then "full" else ""), some "'><dt>", none, some "</dt>",
      some "<dd>", none, some "</dd></div>"]
  else []

def gridShape (cells : List (Bool × Bool)) : Shape :=
  (cells.map fun c => cellShape c.1 c.2).flatten

def headShape : Shape :=
  [some "<div class=doc><div class=head>", some "<div><div class=eyebrow>", none,
      some "</div><h1>", none, some "</h1>", some "<div class=sub>"] ++
    [none, some " &middot; ", none, some " County, ", none] ++
    [some "</div></div>", some "<div class=stamp>Generated ", none, some "<br>"]

def shellShape (source inner : Shape) : Shape :=
  headShape ++ source ++ [some "</div></div>", some "<div class=body>"] ++ inner ++
    [some "</div></div>"]

def entryShape : Shape := [some "<div><dt>", none, some "</dt><dd>", none, some "</dd></div>"]

def parcelSkeleton (cells : List (Bool × Bool)) (entries : ℕ) (linked : Bool) : Shape :=
  shellShape (if linked then [some "<a href='", none, some "'>", none, some "</a>"] else [none])
    ([some "<div class=sec>Parcel summary</div><dl class=grid>"] ++ gridShape cells ++
      [some "</dl><div class=sec>All recorded attributes</div><dl class=grid>"] ++
      (List.replicate entries entryShape).flatten ++
      [some "</dl>", some
          "<div class=note><b>Verify the situs address matches the subject property.</b> ",
        some "Values are the county parcel-service figures at fetch time.</div>"])

def appraiserSkeleton (cells : List (Bool × Bool)) (florida linked : Bool) : Shape :=
  shellShape
    ((if florida then [some "Florida DOR statewide tax roll (NAL/cadastral)"]
      else [none, some " County parcel / assessor data"]) ++
      if linked then
        [some " &middot; <a href='", none, some "'>open county Property Appraiser</a>"]
      else [])
    ([some "<div class=sec>Property &amp; tax</div><dl class=grid>"] ++ gridShape cells ++
      [some
        "</dl><div class=note>Values (where shown) are the county roll figures. Verify current-year ",
        some "assessment, exemptions, and tax due on the county Property Appraiser / Assessor site.</div>"])

def floodSkeleton (cells : List (Bool × Bool)) (image : Bool) : Shape :=
  shellShape [some "<a href='", none, some "'>FEMA Map Service Center</a>"]
    ([some "<div class='banner ", none, some "'><span class=lbl>Inside SFHA?</span>", none,
        some "</div>"] ++
      [some "<div class=sec>Flood determination</div><dl class=grid>"] ++ gridShape cells ++
      [some "</dl>"] ++
      (if image then
        [some "<div class=sec>Flood map exhibit</div><div class=exhibit><img src='", none,
          some "' alt='FEMA flood map'><div class=cap>FEMA NFHL flood zones over topographic basemap; ",
          some "red crosshair marks the parcel.</div></div>"]
      else []) ++
      [some "<div class=note><b>Determination is from the effective FEMA NFHL</b> at the ",
        some "parcel location. Confirm the panel and any LOMA/LOMR on the FEMA Map Service ",
        some "Center before certifying.</div>"])

/-- The page is the template with its values escaped, and has the tags of the skeleton. -/
structure Contained (page : String) (t : Template) (skeleton : Shape) : Prop where
  escaped : page = text t
  shaped : shape t = skeleton
  tags : tags page = shapeTags skeleton

theorem Contained.of {page : String} {t : Template} {skeleton : Shape} (hpage : page = text t)
    (hshape : shape t = skeleton) (hclosed : Closed skeleton) : Contained page t skeleton := by
  refine ⟨hpage, hshape, ?_⟩
  rw [hpage, ← hshape]
  apply tags_text
  rwa [hshape]

/-! The skeletons are closed, and they are the shapes of the templates. -/

theorem closed_gridShape (cells : List (Bool × Bool)) : Closed (gridShape cells) := by
  apply Closed.flatten
  intro s hs
  obtain ⟨c, _, rfl⟩ := List.mem_map.mp hs
  obtain ⟨given, full⟩ := c
  cases given <;> cases full <;> decide +kernel

theorem closed_headShape : Closed headShape := by decide +kernel

theorem closed_shellShape {source inner : Shape} (hsource : Closed source) (hinner : Closed inner) :
    Closed (shellShape source inner) := by
  have hbody : Closed [some "</div></div>", some "<div class=body>"] := by decide +kernel
  have hfoot : Closed [some "</div></div>"] := by decide +kernel
  unfold shellShape
  exact (((closed_headShape.append hsource).append hbody).append hinner).append hfoot

theorem closed_parcelSkeleton (cells : List (Bool × Bool)) (entries : ℕ) (linked : Bool) :
    Closed (parcelSkeleton cells entries linked) := by
  apply closed_shellShape
  · cases linked <;> decide +kernel
  have htitle : Closed [some "<div class=sec>Parcel summary</div><dl class=grid>"] := by
    decide +kernel
  have hnext : Closed [some "</dl><div class=sec>All recorded attributes</div><dl class=grid>"] := by
    decide +kernel
  have hentries : Closed (List.replicate entries entryShape).flatten := by
    apply Closed.flatten
    intro s hs
    rw [List.eq_of_mem_replicate hs]
    decide +kernel
  refine (((htitle.append (closed_gridShape cells)).append hnext).append hentries).append ?_
  decide +kernel

theorem closed_appraiserSkeleton (cells : List (Bool × Bool)) (florida linked : Bool) :
    Closed (appraiserSkeleton cells florida linked) := by
  apply closed_shellShape
  · cases florida <;> cases linked <;> decide +kernel
  have htitle : Closed [some "<div class=sec>Property &amp; tax</div><dl class=grid>"] := by
    decide +kernel
  refine (htitle.append (closed_gridShape cells)).append ?_
  decide +kernel

theorem closed_floodSkeleton (cells : List (Bool × Bool)) (image : Bool) :
    Closed (floodSkeleton cells image) := by
  apply closed_shellShape
  · decide +kernel
  have htitle : Closed ([some "<div class='banner ", none,
      some "'><span class=lbl>Inside SFHA?</span>", none, some "</div>"] ++
      [some "<div class=sec>Flood determination</div><dl class=grid>"]) := by decide +kernel
  have hend : Closed [some "</dl>"] := by decide +kernel
  refine (((htitle.append (closed_gridShape cells)).append hend).append ?_).append ?_
  · cases image <;> decide +kernel
  · decide +kernel

@[simp] theorem shape_held (v : Value) : (held v).shape = none := rfl

theorem shape_rowsParts (cells : List Cell) : shape (rowsParts cells) = gridShape (marks cells) := by
  induction cells with
  | nil => rfl
  | cons c cells ih =>
    have hrow : shape (rowParts c) = cellShape c.given c.full := by
      unfold rowParts cellShape
      split <;> rfl
    simp only [rowsParts, marks, gridShape, List.map_cons, List.flatten_cons, shape_append] at ih ⊢
    rw [hrow, ih]

theorem shape_entries (fields : Attrs) :
    shape (fields.map entryParts).flatten = (List.replicate fields.length entryShape).flatten := by
  induction fields with
  | nil => rfl
  | cons f fields ih =>
    rw [List.map_cons, List.flatten_cons, shape_append, ih]
    rfl

theorem shape_shellHead (now : Clock) (eyebrow title address : String) (doc : DocMeta) :
    shape (shellHead now eyebrow title (subtitleParts address doc)) = headShape := rfl

theorem shape_shellParts (now : Clock) (eyebrow title address : String) (doc : DocMeta)
    (source inner : Template) :
    shape (shellParts now eyebrow title (subtitleParts address doc) source inner) =
      shellShape (shape source) (shape inner) := by
  simp only [shellParts, shape_append, shape_shellHead, shellShape]
  rfl

/-! The pages are the texts of the templates. -/

@[simp] theorem text_held (v : Value) : (held v).text = e v := rfl

theorem row_eq (c : Cell) : row c = text (rowParts c) := by
  unfold row rowParts Cell.given
  by_cases h : c.value = .null ∨ c.value = .str ""
  · simp [h]
  · simp only [h, if_false, decide_false, Bool.not_false, if_true, text_cons, text_nil, text_held,
      Part.text_markup, String.append_assoc, String.append_empty]

theorem rows_eq (cells : List Cell) : rows cells = text (rowsParts cells) := by
  have hrow : text ∘ rowParts = row := by
    funext c
    rw [Function.comp_apply, row_eq]
  rw [rows, rowsParts, text_flatten, List.map_map, hrow]

theorem dumpEntry_eq (f : String × Value) : dumpEntry f = text (entryParts f) := by
  simp only [dumpEntry, entryParts, text_cons, text_nil, text_held, Part.text_markup,
    String.append_assoc, String.append_empty]

theorem entries_eq (fields : Attrs) :
    String.join (fields.map dumpEntry) = text (fields.map entryParts).flatten := by
  have hentry : text ∘ entryParts = dumpEntry := by
    funext f
    rw [Function.comp_apply, dumpEntry_eq]
  rw [text_flatten, List.map_map, hentry]

theorem subtitleOf_eq (address : String) (doc : DocMeta) :
    subtitleOf address doc = text (subtitleParts address doc) := by
  simp only [subtitleOf, subtitleParts, text_cons, text_nil, text_held, Part.text_markup,
    String.append_assoc, String.append_empty]

theorem plain_digit {c : Char} (h : c.isDigit = true) : plain c = true := by
  by_contra hc
  have hspecial : c ∈ '&' :: delimiters := by
    simpa [plain, imp_iff_not_or] using hc
  have hall : (('&' :: delimiters).all fun c => !c.isDigit) = true := by decide
  have hdigit := List.all_eq_true.mp hall c hspecial
  rw [h] at hdigit
  cases hdigit

theorem plain_toString {n : ℕ} {c : Char} (h : c ∈ (toString n).toList) : plain c = true := by
  rw [Nat.toString_eq_ofList_toDigits, String.toList_ofList] at h
  exact plain_digit (Nat.isDigit_of_mem_toDigits (by decide) (by decide) h)

theorem plain_twoDigits {n : ℕ} {c : Char} (h : c ∈ (twoDigits n).toList) : plain c = true := by
  rw [twoDigits, String.toList_append, List.mem_append] at h
  rcases h with h | h
  · split at h
    · rw [List.mem_singleton.mp h]
      decide
    · cases h
  · exact plain_toString h

theorem plain_of_mem {text : String} (hall : text.toList.all plain = true) {c : Char}
    (hc : c ∈ text.toList) : plain c = true := List.all_eq_true.mp hall c hc

theorem escape_stamp (now : Clock) : escape (stamp now) = stamp now := by
  rw [escape_eq_iff]
  intro c hc
  simp only [stamp, String.toList_append, List.mem_append] at hc
  rcases hc with (((((((h | h) | h) | h) | h) | h) | h) | h) | h
  · exact plain_toString h
  · exact plain_of_mem (by decide) h
  · exact plain_twoDigits h
  · exact plain_of_mem (by decide) h
  · exact plain_twoDigits h
  · exact plain_of_mem (by decide) h
  · exact plain_twoDigits h
  · exact plain_of_mem (by decide) h
  · exact plain_twoDigits h

theorem shell_eq_head (now : Clock) (eyebrow title source inner : String) (subtitle : Template) :
    shell now eyebrow title (text subtitle) source inner =
      text (shellHead now eyebrow title subtitle) ++ source ++
        ("</div></div>" ++ "<div class=body>" ++ inner ++ "</div></div>") := by
  unfold shell shellHead
  simp only [text_append, text_cons, text_nil, text_held, Part.text_markup, Part.text_value,
    escape_stamp, String.append_empty]
  simp only [String.append_assoc]

theorem shell_eq (now : Clock) (eyebrow title : String) (subtitle source inner : Template) :
    shell now eyebrow title (text subtitle) (text source) (text inner) =
      text (shellParts now eyebrow title subtitle source inner) := by
  rw [shell_eq_head, shellParts]
  simp only [text_append, text_cons, text_nil, Part.text_markup, String.append_empty]
  simp only [String.append_assoc]

theorem parcelSource_eq (p : ParcelResult) : parcelSource p = text (parcelSourceParts p) := by
  unfold parcelSource parcelSourceParts
  dsimp only
  split
  · simp only [text_cons, text_nil, text_held, Part.text_markup, String.append_assoc,
      String.append_empty]
  · simp only [text_cons, text_nil, text_held, String.append_empty]

theorem appraiserLink_eq (appraiserUrl : String) :
    appraiserLink appraiserUrl = text (appraiserLinkParts appraiserUrl) := by
  unfold appraiserLink appraiserLinkParts
  split
  · simp only [text_cons, text_nil, text_held, Part.text_markup, String.append_assoc,
      String.append_empty]
  · rfl

theorem escape_cls (risk : Risk) : escape risk.cls = risk.cls := by
  rw [escape_eq_iff]
  intro c hc
  apply plain_of_mem _ hc
  cases risk <;> decide

theorem banner_eq (inSfha : Bool) (risk : Risk) :
    banner inSfha risk = text (bannerParts inSfha risk) := by
  unfold banner bannerParts
  simp only [text_cons, text_nil, text_held, Part.text_markup, Part.text_value]
  rw [escape_cls, String.append_empty]
  simp only [String.append_assoc]

theorem plain_base64Digit (n : ℕ) : plain (base64Digit n) = true := by
  have hall : base64Table.all plain = true := by decide
  rw [base64Digit, List.getD_eq_getElem?_getD]
  cases h : base64Table[n % 64]? with
  | none => decide
  | some c => exact List.all_eq_true.mp hall c (List.mem_of_getElem? h)

theorem plain_base64 (image : Blob) : ∀ c ∈ base64 image, plain c = true := by
  have hpad : plain '=' = true := by decide
  induction image using base64.induct with
  | case1 => simp [base64]
  | case2 a => simpa [base64, plain_base64Digit] using hpad
  | case3 a b => simpa [base64, plain_base64Digit] using hpad
  | case4 a b c rest ih => simpa [base64, plain_base64Digit] using ih

theorem escape_dataUri (image : Blob) : escape (dataUri image) = dataUri image := by
  rw [escape_eq_iff]
  intro c hc
  unfold dataUri at hc
  rw [String.toList_append] at hc
  rcases List.mem_append.mp hc with hc | hc
  · exact plain_of_mem (by decide +kernel) hc
  · rw [String.toList_ofList] at hc
    exact plain_base64 image c hc

theorem exhibit_eq (image : Option Blob) : exhibit image = text (exhibitParts image) := by
  cases image with
  | none => rfl
  | some image =>
    unfold exhibit exhibitParts
    simp only [text_cons, text_nil, Part.text_markup, Part.text_value]
    rw [escape_dataUri, String.append_empty]
    simp only [String.append_assoc]

section Pages

variable [PyText] (desk : Desk) (doc : DocMeta)

theorem parcelBody_eq (p : ParcelResult) (attrs : Attrs) (lot : String) :
    parcelBody desk doc p attrs lot = text (parcelParts desk doc p attrs lot) := by
  rw [parcelParts, ← shell_eq, ← subtitleOf_eq, ← parcelSource_eq, parcelBody]
  simp only [text_append, text_cons, text_nil, Part.text_markup, ← rows_eq, ← entries_eq,
    String.append_empty, String.append_assoc]

omit [PyText] in
theorem floodBody_eq (flood : Attrs) (zone : String) (risk : Risk) (inSfha : Bool)
    (image : Option Blob) : floodBody desk doc flood zone risk inSfha image =
      text (floodParts desk doc flood zone risk inSfha image) := by
  rw [floodParts, ← shell_eq, ← subtitleOf_eq, floodBody]
  simp only [text_append, text_cons, text_nil, text_held, Part.text_markup, ← rows_eq, ← banner_eq,
    ← exhibit_eq, String.append_empty, String.append_assoc]

theorem shape_parcelParts (p : ParcelResult) (attrs : Attrs) (lot : String) :
    shape (parcelParts desk doc p attrs lot) =
      parcelSkeleton (marks (parcelCells doc attrs lot)) (dumped attrs).length
        (p.source.getD "" ≠ "") := by
  have hsource : shape (parcelSourceParts p) = if (p.source.getD "" ≠ "" : Bool) then
      [some "<a href='", none, some "'>", none, some "</a>"] else [none] := by
    by_cases hsrc : p.source.getD "" = "" <;> simp [parcelSourceParts, shape, Part.shape, hsrc, held]
  rw [parcelParts, shape_shellParts, hsource]
  simp only [shape_append, shape_rowsParts, shape_entries]
  rfl

omit [PyText] in
theorem shape_floodParts (flood : Attrs) (zone : String) (risk : Risk) (inSfha : Bool)
    (image : Option Blob) : shape (floodParts desk doc flood zone risk inSfha image) =
      floodSkeleton (marks (floodCells doc flood zone risk)) image.isSome := by
  rw [floodParts, shape_shellParts]
  simp only [shape_append, shape_rowsParts]
  cases image <;> rfl

theorem shape_appraiserParts (attrs : Attrs) (v : CardValues) (appraiserUrl : String) :
    shape (appraiserParts desk doc attrs v appraiserUrl) =
      appraiserSkeleton (marks (appraiserCells doc attrs v)) (doc.state = "FL")
        (appraiserUrl ≠ "") := by
  rw [appraiserParts, shape_shellParts]
  simp only [shape_append, shape_rowsParts]
  by_cases hstate : doc.state = "FL" <;> by_cases hurl : appraiserUrl = "" <;>
    simp [appraiserSkeleton, sourceLabelParts, appraiserLinkParts, shape, Part.shape, held, hstate,
      hurl]

/-! A page that is written. -/

theorem parcelPage_written [PyFloat] {p : ParcelResult} {page : String}
    (h : parcelPage desk doc p = .ok (some page)) : ∃ attrs rest lot, p.parcels = attrs :: rest ∧
      landText doc = .ok lot ∧ page = parcelBody desk doc p attrs (lot.getD "") := by
  unfold parcelPage at h
  cases hparcels : p.parcels with
  | nil =>
    rw [hparcels] at h
    cases h
  | cons attrs rest =>
    rw [hparcels] at h
    cases hland : landText doc with
    | error err =>
      simp only [hland] at h
      cases h
    | ok lot =>
      simp only [hland] at h
      cases h
      exact ⟨attrs, rest, lot, rfl, rfl, rfl⟩

theorem appraiserPage_written [PyFloat] [PyTruncate] {attrs : Attrs} {appraiserUrl page : String}
    (h : appraiserPage desk doc attrs appraiserUrl = .ok (some page)) : ∃ v,
      cardValues doc attrs = .ok v ∧ page = appraiserBody desk doc attrs v appraiserUrl := by
  unfold appraiserPage at h
  split at h
  · cases h
  cases hvalues : cardValues doc attrs with
  | error err =>
    rw [hvalues] at h
    cases h
  | ok v =>
    rw [hvalues] at h
    cases h
    exact ⟨v, rfl, rfl⟩

theorem floodPage_written {flood : Attrs} {mapFile : Option String} {page : String}
    (h : floodPage desk doc flood mapFile = .ok (some page)) : ∃ zone subtype image,
      upperText (flood.get "flood_zone") = .ok zone ∧
      upperText (flood.get "zone_subtype") = .ok subtype ∧ mapImage desk mapFile = .ok image ∧
      page = floodBody desk doc flood (strip zone)
        (floodRisk (flood.get "in_sfha" = .str "T") (strip zone) subtype)
        (flood.get "in_sfha" = .str "T") image := by
  unfold floodPage at h
  split at h
  · cases h
  cases hzone : upperText (flood.get "flood_zone") with
  | error err =>
    rw [hzone] at h
    cases h
  | ok zone =>
    cases hsubtype : upperText (flood.get "zone_subtype") with
    | error err =>
      rw [hzone, hsubtype] at h
      cases h
    | ok subtype =>
      cases himage : mapImage desk mapFile with
      | error err =>
        rw [hzone, hsubtype, himage] at h
        cases h
      | ok image =>
        rw [hzone, hsubtype, himage] at h
        cases h
        exact ⟨zone, subtype, image, rfl, rfl, rfl, rfl⟩

/-- Every report that is written is its template with the values escaped, and its tags depend only
on the cells, the entries, the link and the image that are there. -/
structure ReportsContained [PyFloat] [PyTruncate] (p : ParcelResult) (attrs : Attrs)
    (appraiserUrl : String) (flood : Attrs) (mapFile : Option String) : Prop where
  parcel : ∀ page, parcelPage desk doc p = .ok (some page) → ∃ attrs rest lot,
    p.parcels = attrs :: rest ∧ landText doc = .ok lot ∧
      Contained page (parcelParts desk doc p attrs (lot.getD ""))
        (parcelSkeleton (marks (parcelCells doc attrs (lot.getD ""))) (dumped attrs).length
          (p.source.getD "" ≠ ""))
  card : ∀ page, appraiserPage desk doc attrs appraiserUrl = .ok (some page) → ∃ v,
    cardValues doc attrs = .ok v ∧
      Contained page (appraiserParts desk doc attrs v appraiserUrl)
        (appraiserSkeleton (marks (appraiserCells doc attrs v)) (doc.state = "FL")
          (appraiserUrl ≠ ""))
  flood : ∀ page, floodPage desk doc flood mapFile = .ok (some page) → ∃ zone subtype image,
    upperText (flood.get "flood_zone") = .ok zone ∧
      upperText (flood.get "zone_subtype") = .ok subtype ∧ mapImage desk mapFile = .ok image ∧
      Contained page
        (floodParts desk doc flood (strip zone)
          (floodRisk (flood.get "in_sfha" = .str "T") (strip zone) subtype)
          (flood.get "in_sfha" = .str "T") image)
        (floodSkeleton
          (marks (floodCells doc flood (strip zone)
            (floodRisk (flood.get "in_sfha" = .str "T") (strip zone) subtype))) image.isSome)

omit [PyText] in
theorem sourceLabel_eq_iff : sourceLabel doc = text (sourceLabelParts doc) ↔
    doc.state = "FL" ∨ ∀ c ∈ doc.county.toList, plain c = true := by
  unfold sourceLabel sourceLabelParts
  by_cases hstate : doc.state = "FL"
  · simp [hstate]
  · simp only [hstate, if_false, false_or, text_cons, text_nil, Part.text_value, Part.text_markup,
      String.append_empty]
    rw [String.append_left_inj, eq_comm, escape_eq_iff]

omit [PyText] in
theorem shell_source_inj (now : Clock) (eyebrow title subtitle source source' inner : String) :
    shell now eyebrow title subtitle source inner = shell now eyebrow title subtitle source' inner ↔
      source = source' := by
  unfold shell
  simp only [String.append_left_inj, String.append_right_inj]

theorem appraiserBody_eq_iff (attrs : Attrs) (v : CardValues) (appraiserUrl : String) :
    appraiserBody desk doc attrs v appraiserUrl =
        text (appraiserParts desk doc attrs v appraiserUrl) ↔
      doc.state = "FL" ∨ ∀ c ∈ doc.county.toList, plain c = true := by
  unfold appraiserBody appraiserParts
  rw [← shell_eq, ← subtitleOf_eq, ← sourceLabel_eq_iff]
  simp only [text_append, text_cons, text_nil, Part.text_markup, ← rows_eq, ← appraiserLink_eq,
    String.append_empty]
  simp only [String.append_assoc]
  rw [shell_source_inj, String.append_left_inj]

variable [PyFloat] [PyTruncate]

/-- The card is contained just when it needs no county's name, or when the name has no character
that `_e` would have escaped. -/
theorem appraiserPage_contained_iff {attrs : Attrs} {appraiserUrl card : String}
    (hcard : appraiserPage desk doc attrs appraiserUrl = .ok (some card)) :
    (∃ v, cardValues doc attrs = .ok v ∧
      Contained card (appraiserParts desk doc attrs v appraiserUrl)
        (appraiserSkeleton (marks (appraiserCells doc attrs v)) (doc.state = "FL")
          (appraiserUrl ≠ ""))) ↔
      doc.state = "FL" ∨ ∀ c ∈ doc.county.toList, plain c = true := by
  obtain ⟨v, hvalues, rfl⟩ := appraiserPage_written desk doc hcard
  rw [← appraiserBody_eq_iff desk doc attrs v appraiserUrl]
  constructor
  · rintro ⟨v', hvalues', hcontained⟩
    obtain rfl : v = v' := Except.ok.inj (hvalues.symm.trans hvalues')
    exact hcontained.escaped
  · intro hbody
    refine ⟨v, hvalues, Contained.of hbody ?_ ?_⟩
    · exact shape_appraiserParts desk doc attrs v appraiserUrl
    · exact closed_appraiserSkeleton _ _ _

/-- The card of the appraiser is written: there are attributes, and their figures can be
converted. -/
structure CardWritten (attrs : Attrs) : Prop where
  given : attrs ≠ []
  land : AreaFits doc.landSqft
  living : (ga attrs livingKeys).truthy = true →
    ∃ text, PyTruncate.truncate (ga attrs livingKeys) = .grouped text
  amounts : ∀ keys ∈ amountKeys, PyTruncate.truncate (ga attrs keys) ≠ .overflow

theorem appraiserPage_some_iff {attrs : Attrs} {appraiserUrl : String} :
    (∃ card, appraiserPage desk doc attrs appraiserUrl = .ok (some card)) ↔
      CardWritten doc attrs := by
  constructor
  · rintro ⟨card, hcard⟩
    obtain ⟨v, hvalues, -⟩ := appraiserPage_written desk doc hcard
    obtain ⟨hamounts, hland, hliving⟩ := (cardValues_ok_iff doc attrs).mp ⟨v, hvalues⟩
    refine ⟨?_, hland, hliving, hamounts⟩
    rintro rfl
    cases hcard
  · intro h
    obtain ⟨v, hvalues⟩ := (cardValues_ok_iff doc attrs).mpr ⟨h.amounts, h.land, h.living⟩
    refine ⟨appraiserBody desk doc attrs v appraiserUrl, ?_⟩
    rw [appraiserPage, if_neg h.given, hvalues]
    rfl

/-- The parcel record and the flood report are contained on every input, and the card is unless it
is written for a county of another state whose name has a character that `_e` escapes. -/
theorem reports_contained_iff {p : ParcelResult} {attrs flood : Attrs} {appraiserUrl : String}
    {mapFile : Option String} : ReportsContained desk doc p attrs appraiserUrl flood mapFile ↔
      (CardWritten doc attrs → doc.state = "FL" ∨ ∀ c ∈ doc.county.toList, plain c = true) := by
  constructor
  · intro h hwritten
    obtain ⟨card, hcard⟩ := (appraiserPage_some_iff desk doc).mpr hwritten
    exact (appraiserPage_contained_iff desk doc hcard).mp (h.card card hcard)
  · intro hplain
    refine ⟨fun page hpage => ?_, fun page hpage => ?_, fun page hpage => ?_⟩
    · obtain ⟨attrs, rest, lot, hparcels, hland, rfl⟩ := parcelPage_written desk doc hpage
      refine ⟨attrs, rest, lot, hparcels, hland, Contained.of ?_ ?_ ?_⟩
      · exact parcelBody_eq desk doc p attrs (lot.getD "")
      · exact shape_parcelParts desk doc p attrs (lot.getD "")
      · exact closed_parcelSkeleton _ _ _
    · have hwritten := (appraiserPage_some_iff desk doc).mp ⟨page, hpage⟩
      exact (appraiserPage_contained_iff desk doc hpage).mpr (hplain hwritten)
    · obtain ⟨zone, subtype, image, hzone, hsubtype, himage, rfl⟩ :=
        floodPage_written desk doc hpage
      refine ⟨zone, subtype, image, hzone, hsubtype, himage, Contained.of ?_ ?_ ?_⟩
      · exact floodBody_eq desk doc flood _ _ _ image
      · exact shape_floodParts desk doc flood _ _ _ image
      · exact closed_floodSkeleton _ _

end Pages

/-! The tags in the name of a county. -/

/-- What the source of a page is made of is read as markup. -/
theorem mem_tags_shell {now : Clock} {eyebrow title source inner address : String} {doc : DocMeta}
    {tag : Tag} (h : tag ∈ tags source) :
    tag ∈ tags (shell now eyebrow title (subtitleOf address doc) source inner) := by
  have hclosed : Closed (shape (shellHead now eyebrow title (subtitleParts address doc))) := by
    rw [shape_shellHead]
    exact closed_headShape
  rw [subtitleOf_eq, shell_eq_head]
  exact mem_tags_append _ (mem_tags_text hclosed h)

/-- Outside Florida every tag in the name of the county is a tag of the card. -/
theorem mem_tags_county [PyText] (desk : Desk) {doc : DocMeta} (hstate : doc.state ≠ "FL")
    (attrs : Attrs) (v : CardValues) (appraiserUrl : String) {tag : Tag}
    (h : tag ∈ tags doc.county) : tag ∈ tags (appraiserBody desk doc attrs v appraiserUrl) := by
  apply mem_tags_shell
  apply mem_tags_append
  rw [sourceLabel, if_neg hstate]
  exact mem_tags_append _ h

/-! The reports of one parcel, in a county of either kind. -/

section Counties

open scoped PyText.Ascii PyFloat.Whole PyTruncate.Small

def countyDesk : Desk where
  now := ⟨2024, 5, 1, 9, 30⟩
  write _ _ := .ok ()
  readImage _ := .ok none

/-- The header of a parcel of Texas. -/
def countyDoc (county : String) : DocMeta where
  parcelId := "12"
  matchedAddress := "1 Main St"
  county := county
  state := "TX"
  situs := ""
  landSqft := .null
  landAcres := .null

def countyAttrs : Attrs := [("ID", .str "12")]

def countyValues : CardValues := ⟨.null, .null, .null, .null, none, .null⟩

theorem countyValues_eq (county : String) :
    cardValues (countyDoc county) countyAttrs = .ok countyValues := by
  have hland : cardValues (countyDoc county) countyAttrs = cardValues (countyDoc "") countyAttrs := by
    unfold cardValues
    rfl
  rw [hland]
  decide +kernel

theorem countyCard (county appraiserUrl : String) :
    appraiserPage countyDesk (countyDoc county) countyAttrs appraiserUrl = .ok (some
      (appraiserBody countyDesk (countyDoc county) countyAttrs countyValues appraiserUrl)) := by
  have hne : countyAttrs ≠ [] := List.cons_ne_nil _ _
  rw [appraiserPage, if_neg hne, countyValues_eq]
  rfl

theorem reports_contained_travis : ReportsContained countyDesk (countyDoc "Travis")
    { parcels := [countyAttrs] } countyAttrs "https://example.org/?a=1&b=2"
    [("flood_zone", .str "ae"), ("in_sfha", .str "T")] none := by
  apply (reports_contained_iff countyDesk (countyDoc "Travis")).mpr
  intro _
  right
  intro c hc
  exact plain_of_mem (by decide) hc

/-- A county that the geocoder names `<script>alert(1)</script>` puts a script on the card. -/
theorem script_county :
    (∃ card, appraiserPage countyDesk (countyDoc "<script>alert(1)</script>") countyAttrs "" =
      .ok (some card) ∧ "<script>".toList ∈ tags card) ∧
    ¬ ReportsContained countyDesk (countyDoc "<script>alert(1)</script>")
      { parcels := [countyAttrs] } countyAttrs "" [("flood_zone", .str "ae")] none := by
  have hcard := countyCard "<script>alert(1)</script>" ""
  constructor
  · refine ⟨_, hcard, ?_⟩
    apply mem_tags_county
    · decide
    · decide +kernel
  · intro h
    rcases (appraiserPage_contained_iff _ _ hcard).mp (h.card _ hcard) with hstate | hplain
    · exact absurd hstate (by decide)
    · have hmark : '<' ∈ "<script>alert(1)</script>".toList := by decide
      exact absurd (hplain '<' hmark) (by decide)

end Counties

end Reports
end ResearchEngine
