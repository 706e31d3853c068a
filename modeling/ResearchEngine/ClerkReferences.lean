import ResearchEngine.ClerkDocuments
import ResearchEngine.LegalReferences
import ResearchEngine.ProjectedReads

/-! The clerk scrape call by call: what it asks the appraiser and the clerk's portal, with the
references that it finds in the parcel's record. -/
namespace ResearchEngine

/-- The `plat` argument of `fetch_documents`. -/
structure PlatArg where
  book : String
  page : Option String
  subdivision : String
  deriving DecidableEq, Repr

/-- The `deed` argument of `fetch_documents`: a recording reference, or an owner. -/
inductive DeedArg
  | recorded (docNumber book page : String)
  | owned (owner subdivision : String)
  deriving DecidableEq, Repr

/-- What the appraiser's site and the clerk's portal answer. -/
structure ClerkServices where
  appraisal : Except PyErr Appraisal
  fetchDocuments : Option PlatArg → Option DeedArg → Except PyErr ClerkDocs

/-- A call of `appraiser.fetch` or of `clerk_scraper.fetch_documents`. -/
inductive ScrapeCall
  | appraisal (countyFips parcelId : String)
  | documents (countyFips : String) (plat : Option PlatArg) (deed : Option DeedArg)
  deriving DecidableEq, Repr

namespace Adapters

open PyText Legal Situs

section Selection

variable [PyText]

/-- `plat_arg` of `_scrape_documents` -/
def platArg (legal : String) (appr : Option Appraisal) : Option PlatArg :=
  let (pb, pg) := platRef legal
  let appr := appr.getD {}
  let (pb, pg) :=
    if pb.getD "" = "" ∧ appr.platBook.getD "" ≠ "" then (appr.platBook, appr.platPage) else (pb, pg)
  if pb.getD "" ≠ "" then some ⟨pb.getD "", pg, subdivision legal⟩ else none

/-- `ob` and `op` of `_scrape_documents` -/
def deedPair (r : DeedReads) : String × String :=
  if r.orBook ≠ "" ∧ r.orPage ≠ "" then (r.orBook, r.orPage)
  else
    let (lb, lp) := orRef r.legal
    if lb.getD "" ≠ "" ∧ lp.getD "" ≠ "" then (lb.getD "", lp.getD "") else (r.orBook, r.orPage)

/-- `deed_arg` of `_scrape_documents` -/
def deedArg (r : DeedReads) : Option DeedArg :=
  let (ob, op) := deedPair r
  if r.clerkNo ≠ "" ∨ (ob ≠ "" ∧ op ≠ "") then some (.recorded r.clerkNo ob op)
  else if r.owner ≠ "" then some (.owned r.owner (subdivision r.legal))
  else none

end Selection

section Calls

variable [PyText] (dep : Deployment) (svc : ClerkServices) (ctx : PropertyContext)

/-- The parcel is confirmed and has a record, and its county a scraping adapter. -/
def Scraped : Prop :=
  ctx.parcelOk = true ∧ dep.clerkScraper ctx.countyFips = true ∧ ctx.parcel.parcels ≠ []

instance : Decidable (Scraped dep ctx) := inferInstanceAs (Decidable (_ ∧ _ ∧ _))

/-- The call of the appraiser, and the record that the scrape goes by. -/
def appraiserPart : List ScrapeCall × Option Appraisal :=
  if dep.appraiserSite ctx.countyFips ∧ ctx.parcelId ≠ "" ∧ ctx.appr = none then
    ([.appraisal ctx.countyFips ctx.parcelId],
      match svc.appraisal with
      | .ok appraisal => some appraisal
      | .error _ => some {})
  else ([], ctx.appr)

/-- The call of the portal for one record, and its documents. -/
def portalPart (attrs : Attrs) (appr : Option Appraisal) : List ScrapeCall × ClerkDocs :=
  let r := deedReads attrs
  let plat := platArg r.legal appr
  let deed := deedArg r
  if plat ≠ none ∨ deed ≠ none then
    ([.documents ctx.countyFips plat deed],
      match svc.fetchDocuments plat deed with
      | .ok docs => docs
      | .error _ => {})
  else ([], {})

/-- `_scrape_documents`, with the calls that it makes. -/
def scrapeCalls : List ScrapeCall × ClerkDocs × PropertyContext :=
  match ctx.clerkDocs with
  | some docs => ([], docs, ctx)
  | none =>
    let (asked, appr) := appraiserPart dep svc ctx
    let (called, docs) :=
      if Scraped dep ctx then portalPart svc ctx (ctx.parcel.parcels.headD []) appr else ([], {})
    (asked ++ called, docs, { ctx with appr := appr, clerkDocs := some docs })

/-- The sources of a run whose scrape goes to these services. -/
def sourcesOf (src : SourceAnswers) : SourceAnswers :=
  { src with
    appraisal := svc.appraisal
    clerkDocs := fun attrs appr =>
      let plat := platArg (deedReads attrs).legal appr
      let deed := deedArg (deedReads attrs)
      if plat ≠ none ∨ deed ≠ none then svc.fetchDocuments plat deed else .ok {} }

end Calls

end Adapters
end ResearchEngine
