import ResearchEngine.ManateeLabels

/-! The labels of what `fetch_documents` returns: NewVision, and then all portals. -/
namespace ResearchEngine
namespace Clerk

open PyText

section NewVision

variable [PyText] (plat deed : Attrs) (a : NewVisionAttempt)

/-- The page of the plat, if there is one to be fetched. -/
def platPage : Except Raised (Option String) :=
  if (plat.get "page").truthy then .ok (some (plat.get "page").text)
  else if (plat.get "subdivision").truthy then
    match a.platRows with
    | .error e => .error e
    | .ok rows => .ok ((pickPlatPage rows (plat.get "subdivision").text).filter (· ≠ ""))
  else .ok none

/-- The deed that an attempt asks for, and the text for it. -/
def asked : Option (Reference × String) :=
  if deed = [] then none
  else
    match a.deedOpens with
    | .error _ => none
    | .ok _ =>
      if deedBook deed ≠ "" ∧ deedPage deed ≠ "" then
        let ref := .bookPage (deedBook deed) (deedPage deed)
        some (ref, rollText .newVision ref)
      else if (deed.get "owner").truthy then
        match ownerDeed deed a with
        | .error _ => none
        | .ok found => found
      else none

variable {plat deed a} {ref : Reference} {text : String} {s s' : Filing}

variable (plat a)

variable {plat a}

variable (plat deed a)

variable {plat deed a}

variable (plat deed)

end NewVision

/-! All portals. -/

section Portals

variable [PyText] (countyFips : String) (plat deed : Attrs) (w : PortalAnswers)

end Portals

section Samples

open scoped PyText.Ascii

end Samples

end Clerk
end ResearchEngine
