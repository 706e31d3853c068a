import ResearchEngine.ConfirmedParcel
import ResearchEngine.FieldProjection
import ResearchEngine.FirstMatch

/-! What the readers of a parcel's attributes see of a feature that was queried with the
requested fields only. -/
namespace ResearchEngine

open PyText FirstMatch

namespace Situs

section Compose

variable [PyText]

/-- What the passes of `_compose_situs` look for: the house number, the directional before the
street, the street, its type, and the directional after it. -/
def addressPasses : List (String → Bool) :=
  [hasAny ["housenumb", "houseno", "housenum", "stnumber", "stnum", "strnum", "addrnum", "addressnu",
      "situsnum", "addno", "propnum", "propertynum", "bldgnum", "locations", "streetnum"],
    hasAny ["predir", "prefixdir", "streetdir", "stdir", "direction1", "situsdir"],
    isStreetName,
    hasAny ["suffixtype", "streettype", "sttype", "posttype", "strtype", "situstype", "rdtype"],
    hasAny ["suffixdir", "postdir", "direction2"]].map fun p kl => !isMail kl && p kl

/-- The passes found a house number and a street. -/
def composes {α : Type} : List (Option α) → Bool
  | [num, _, name, _, _] => num.isSome && name.isSome
  | _ => false

/-- The fields that the passes may take. -/
def usable (attrs : Attrs) (excl : List String) : Attrs :=
  attrs.filter fun f => norm f.1 ∉ excl ∧ !isBlank f.2

def pickText (pick : Option (String × Value)) : String :=
  (pick.map fun f => strip f.2.text).getD ""

/-- The address that is made of what the passes took. -/
def joinPicks : List (Option (String × Value)) → String
  | [num, predir, name, suftype, sufdir] =>
    let num := dropPointZero (pickText num)
    if num ≠ "" ∧ pickText name ≠ "" then
      " ".intercalate
        ([num, pickText predir, pickText name, pickText suftype, pickText sufdir].filter nonempty)
    else ""
  | _ => ""

theorem component_eq (attrs : Attrs) (excl taken : List String) (p : String → Bool) :
    component attrs excl p taken =
      let pick := firstLeft (fun f => norm f.1) (usable attrs excl) taken fun kl => !isMail kl && p kl
      (pickText pick, (pick.map fun f => norm f.1).toList ++ taken) := by
  have hfind : findField attrs excl taken p =
      (firstLeft (fun f => norm f.1) (usable attrs excl) taken fun kl => !isMail kl && p kl).map
        fun f => (norm f.1, strip f.2.text) := by
    unfold findField firstLeft usable
    rw [List.find?_filter]
    refine (findSome?_ite _ (fun f : String × Value => (norm f.1, strip f.2.text)) attrs).trans ?_
    congr 2
    funext f
    by_cases he : norm f.1 ∈ excl <;> by_cases ht : norm f.1 ∈ taken <;> cases isBlank f.2 <;>
      simp [he, ht, Bool.and_comm]
  unfold component
  rw [hfind]
  cases firstLeft (fun f => norm f.1) (usable attrs excl) taken fun kl => !isMail kl && p kl <;> rfl

/-- `_compose_situs` joins what its passes take. -/
theorem composeSitus_eq (attrs : Attrs) (exclude : List String) : composeSitus attrs exclude =
    joinPicks (passes (fun f => norm f.1) (usable attrs (exclude.map norm)) addressPasses []) := by
  simp only [composeSitus, component_eq, addressPasses, List.map_cons, List.map_nil, passes, joinPicks]

theorem joinPicks_eq_empty {picks : List (Option (String × Value))} (h : composes picks = false) :
    joinPicks picks = "" := by
  unfold joinPicks
  split
  · rename_i num predir name suftype sufdir
    cases num with
    | none =>
      have hnum : dropPointZero (pickText none) = "" := rfl
      simp [hnum]
    | some f =>
      cases name with
      | none =>
        have hname : pickText none = "" := rfl
        simp [hname]
      | some g => simp [composes] at h
  · rfl

omit [PyText] in
theorem composes_map {α β : Type} (g : α → β) (picks : List (Option α)) :
    composes (picks.map (Option.map g)) = composes picks := by
  match picks with
  | [num, predir, name, suftype, sufdir] => simp [composes]
  | [] | [_] | [_, _] | [_, _, _] | [_, _, _, _] | _ :: _ :: _ :: _ :: _ :: _ :: _ => rfl

/-- The fields of a layer that the passes take. -/
def picks (names : List String) : List (Option String) := passes norm names addressPasses []

/-- Of no part of the fields, with or without those that are left out, do the passes make an
address when they take a field that is left out. -/
def ComposesAlike (names : List String) (keep : String → Bool) : Prop :=
  ∀ part, part.Sublist names → (∃ n, some n ∈ picks part ∧ keep n = false) →
    composes (picks part) = false ∧ composes (picks (part.filter keep)) = false

theorem picks_names (fields : Attrs) : picks (fields.map Prod.fst) =
    (passes (fun f => norm f.1) fields addressPasses []).map (Option.map Prod.fst) :=
  passes_map Prod.fst (fun _ => rfl) fields addressPasses []

theorem composeSitus_left {attrs : Attrs} {keep : String → Bool}
    (h : ComposesAlike (attrs.map Prod.fst) keep) (exclude : List String) :
    composeSitus (attrs.filter fun f => keep f.1) exclude = composeSitus attrs exclude := by
  have hcomm : usable (attrs.filter fun f => keep f.1) (exclude.map norm) =
      (usable attrs (exclude.map norm)).filter fun f => keep f.1 := by
    simp only [usable, List.filter_filter, Bool.and_comm]
  rw [composeSitus_eq, composeSitus_eq, hcomm]
  by_cases htaken : ∃ n, some n ∈ picks ((usable attrs (exclude.map norm)).map Prod.fst) ∧
      keep n = false
  · obtain ⟨hfull, hrest⟩ := h ((usable attrs (exclude.map norm)).map Prod.fst)
      (List.filter_sublist.map Prod.fst) htaken
    have hmap : ((usable attrs (exclude.map norm)).map Prod.fst).filter keep =
        ((usable attrs (exclude.map norm)).filter fun f => keep f.1).map Prod.fst :=
      List.filter_map
    rw [picks_names, composes_map] at hfull
    rw [hmap, picks_names, composes_map] at hrest
    rw [joinPicks_eq_empty hfull, joinPicks_eq_empty hrest]
  · congr 1
    refine passes_left fun f hf => ?_
    by_contra hq
    refine htaken ⟨f.1, ?_, eq_false_of_ne_true hq⟩
    rw [picks_names]
    exact List.mem_map.mpr ⟨some f, hf, rfl⟩

/-- The names that may hold the whole address. -/
def holdsAddress (name : String) : Bool :=
  let kl := norm name
  (isFullAddress kl ∨ hasAny aliases kl) ∧ !hasAny skipped kl

theorem findStreet_left {attrs : Attrs} {q : String × Value → Bool} {p : String → Bool}
    (hp : ∀ kl, p kl = true → isFullAddress kl = true ∨ hasAny aliases kl = true)
    (h : ∀ f ∈ attrs, holdsAddress f.1 = true → q f = true) (excl : List String) :
    findStreet (attrs.filter q) excl p = findStreet attrs excl p := by
  refine findSome?_left fun f hf hs => h f hf ?_
  simp only at hs
  split at hs
  · rename_i hc
    simp only [holdsAddress, hc.2.2.1, decide_eq_true_eq, and_true]
    exact hp _ hc.2.1
  · cases hs

theorem situsOf_left {attrs : Attrs} {keep : String → Bool}
    (h : ∀ f ∈ attrs, holdsAddress f.1 = true → keep f.1 = true)
    (hc : ComposesAlike (attrs.map Prod.fst) keep) (exclude : List String) (compose : Bool) :
    situsOf exclude compose (attrs.filter fun f => keep f.1) = situsOf exclude compose attrs := by
  have hfull : ∀ excl, findStreet (attrs.filter fun f => keep f.1) excl isFullAddress =
      findStreet attrs excl isFullAddress := findStreet_left (fun _ => .inl) h
  have halias : ∀ excl, (aliases.findSome? fun a =>
      findStreet (attrs.filter fun f => keep f.1) excl (contains · a)) =
        aliases.findSome? fun a => findStreet attrs excl (contains · a) := by
    intro excl
    refine findSome?_congr fun a ha => ?_
    exact findStreet_left (fun kl hkl => .inr (List.any_eq_true.mpr ⟨a, ha, hkl⟩)) h excl
  simp only [situsOf, hfull, halias, composeSitus_left hc]

end Compose

end Situs

namespace Adapters

open Situs

variable [PyText]

/-- `_attr` of the source adapters. -/
def attrText (attrs : Attrs) (needles : List String) : String :=
  ((attrs.find? fun f => hasAny needles (without '_' (lower f.1)) ∧ !f.2.isEmpty ∧ !f.2.isZero).map
    fun f => strip f.2.text).getD ""

/-- `_field` -/
def fieldText (attrs : Attrs) (name : String) : String :=
  ((attrs.find? fun f => upper f.1 = name ∧ !f.2.isEmpty).map fun f => strip f.2.text).getD ""

/-- `_numref` -/
def numref (value : String) : String :=
  let v := strip value
  if v.toList.any isDigit ∧ v.toList.any (fun c => c ∉ "0 ".toList) then v else ""

/-- What `_scrape_documents` reads off the parcel for the deed and the plat. -/
structure DeedReads where
  legal : String
  owner : String
  orBook : String
  orPage : String
  clerkNo : String
  deriving DecidableEq, Repr

def deedReads (attrs : Attrs) : DeedReads where
  legal := attrText attrs ["slegal", "legal"]
  owner := attrText attrs ["ownname", "owner"]
  orBook := numref (fieldText attrs "OR_BOOK1")
  orPage := numref (fieldText attrs "OR_PAGE1")
  clerkNo := numref (fieldText attrs "CLERK_NO1")

end Adapters

namespace Parcel

open Situs Context Adapters

section Reads

variable [PyText]

def readsArea (name : String) : Bool :=
  hasAny ["lndsqfoot", "landsqft", "landsquare", "sqfoot"] (norm name) ∨
    hasAny ["gisacres", "acres", "acreage"] (norm name)

def readsParcelId (name : String) : Bool :=
  let kl := without '-' (without ' ' (lower name))
  !hasAny ["addr", "street", "situs", "owner", "city", "zip", "mail"] kl ∧ hasAny parcelIdKeys kl

def readsHint (name : String) : Bool := hasAny hintKeys (lower name)

def readsDeed (name : String) : Bool :=
  let kl := without '_' (lower name)
  hasAny ["slegal", "legal"] kl ∨ hasAny ["ownname", "owner"] kl ∨
    upper name ∈ ["OR_BOOK1", "OR_PAGE1", "CLERK_NO1"]

/-- The names that one of the readers takes by themselves. -/
def readsName (name : String) : Bool :=
  holdsAddress name ∨ readsArea name ∨ readsParcelId name ∨ readsHint name ∨ readsDeed name

/-- Every reader makes the same of two features. -/
structure SameReads [PyFloat] (attrs attrs' : Attrs) : Prop where
  situs : ∀ exclude compose, situsOf exclude compose attrs = situsOf exclude compose attrs'
  area : landAreaOf attrs = landAreaOf attrs'
  parcelId : findParcelId [attrs] = findParcelId [attrs']
  hints : extractHints [attrs] = extractHints [attrs']
  deed : deedReads attrs = deedReads attrs'

variable {attrs : Attrs} {keep : String → Bool}

theorem attr_left {keys : List String}
    (h : ∀ f ∈ attrs, hasAny keys (norm f.1) = true → keep f.1 = true) :
    attr (attrs.filter fun f => keep f.1) keys = attr attrs keys := by
  unfold attr
  rw [find?_left fun f hf hp => h f hf (of_decide_eq_true hp).1]

theorem findParcelId_left (h : ∀ f ∈ attrs, readsParcelId f.1 = true → keep f.1 = true) :
    findParcelId [attrs.filter fun f => keep f.1] = findParcelId [attrs] := by
  unfold findParcelId
  rw [List.flatten_singleton, List.flatten_singleton]
  rw [find?_left]
  intro f hf hp
  simp only [decide_eq_true_eq] at hp
  refine h f hf ?_
  simp only [readsParcelId, decide_eq_true_eq]
  exact hp.2

theorem extractHints_left (h : ∀ f ∈ attrs, readsHint f.1 = true → keep f.1 = true) :
    extractHints [attrs.filter fun f => keep f.1] = extractHints [attrs] := by
  unfold extractHints
  rw [List.flatten_singleton, List.flatten_singleton]
  refine foldl_left (fun f hf hq hints => if_neg fun hp => ?_) []
  rw [h f hf hp.2] at hq
  cases hq

theorem attrText_left {needles : List String}
    (h : ∀ f ∈ attrs, hasAny needles (without '_' (lower f.1)) = true → keep f.1 = true) :
    attrText (attrs.filter fun f => keep f.1) needles = attrText attrs needles := by
  unfold attrText
  rw [find?_left fun f hf hp => h f hf (of_decide_eq_true hp).1]

theorem fieldText_left {name : String} (h : ∀ f ∈ attrs, upper f.1 = name → keep f.1 = true) :
    fieldText (attrs.filter fun f => keep f.1) name = fieldText attrs name := by
  unfold fieldText
  rw [find?_left fun f hf hp => h f hf (of_decide_eq_true hp).1]

theorem deedReads_left (h : ∀ f ∈ attrs, readsDeed f.1 = true → keep f.1 = true) :
    deedReads (attrs.filter fun f => keep f.1) = deedReads attrs := by
  have hfield : ∀ name ∈ ["OR_BOOK1", "OR_PAGE1", "CLERK_NO1"],
      fieldText (attrs.filter fun f => keep f.1) name = fieldText attrs name := by
    intro name hname
    refine fieldText_left fun f hf hup => h f hf ?_
    subst hup
    exact decide_eq_true (.inr (.inr hname))
  unfold deedReads
  rw [attrText_left fun f hf hp => h f hf (decide_eq_true (.inl hp)),
    attrText_left fun f hf hp => h f hf (decide_eq_true (.inr (.inl hp))),
    hfield _ (by simp), hfield _ (by simp), hfield _ (by simp)]

/-- When all that the readers may use is kept, they read the same off what is left. -/
theorem sameReads_left [PyFloat] (h : ∀ n ∈ attrs.map Prod.fst, readsName n = true → keep n = true)
    (hc : ComposesAlike (attrs.map Prod.fst) keep) :
    SameReads (attrs.filter fun f => keep f.1) attrs := by
  have hreads : ∀ f ∈ attrs, readsName f.1 = true → keep f.1 = true :=
    fun f hf => h f.1 (List.mem_map_of_mem hf)
  have harea : ∀ f ∈ attrs, readsArea f.1 = true → keep f.1 = true :=
    fun f hf hr => hreads f hf (decide_eq_true (.inr (.inl hr)))
  refine ⟨?_, ?_, ?_, ?_, ?_⟩
  · exact situsOf_left (fun f hf hr => hreads f hf (decide_eq_true (.inl hr))) hc
  · unfold landAreaOf
    rw [attr_left fun f hf hr => harea f hf (decide_eq_true (.inl hr)),
      attr_left fun f hf hr => harea f hf (decide_eq_true (.inr hr))]
  · exact findParcelId_left fun f hf hr => hreads f hf (decide_eq_true (.inr (.inr (.inl hr))))
  · exact extractHints_left fun f hf hr =>
      hreads f hf (decide_eq_true (.inr (.inr (.inr (.inl hr)))))
  · exact deedReads_left fun f hf hr =>
      hreads f hf (decide_eq_true (.inr (.inr (.inr (.inr hr)))))

end Reads

end Parcel
end ResearchEngine
