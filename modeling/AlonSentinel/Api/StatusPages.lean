import AlonSentinel.Api.SiteState
import AlonSentinel.Foundation.SeparatedText

/-! The handlers that name sites and configure their status pages, past authentication. A page that
was never configured is answered with a slug made from the name of its site.
-/

namespace AlonSentinel.Api.Sites

open Domain
open KeyedTable
open SeparatedText
open UnicodeText

------------------------------------------------------------
-- Slugs
------------------------------------------------------------

def validateSlug (slug : String) : Except ApiError Unit :=
  if slug.utf8ByteSize < 3 || 60 < slug.utf8ByteSize then
    .error (.badRequest "slug must be between 3 and 60 characters")
  else if !slug.toList.all fun char => char.isLower || char.isDigit || char = '-' then
    .error (.badRequest "slug may only contain lowercase letters, digits, and hyphens")
  else .ok ()

/-- A letter or digit in lower case, and a hyphen for anything else. -/
def slugChar (char : Char) : Char := if char.isAlphanum then char.toLower else '-'

/-- `slugify`: the words of letters and digits with one hyphen between them. -/
def slugify (name : String) : String :=
  .ofList (['-'].intercalate (words '-' (name.toList.map slugChar)))

------------------------------------------------------------
-- Sites
------------------------------------------------------------

structure SiteStatusPage where
  id : Int
  siteId : Int
  isEnabled : Bool
  slug : String
  pageTitle : Option String
  showMonitorDetails : Bool
  showUptimePercentages : Bool

/-- The tables of sites and of their status pages. -/
structure StatusPageTables where
  db : Database
  pages : SerialTable SiteStatusPage SiteStatusPage.id

structure CreateSiteRequest where
  name : String
  baseUrl : String

def createSite (chrono : Rfc3339) (db : Database) (now : Timestamp) (payload : CreateSiteRequest)
    : Except ApiError (SiteResponse × Database) :=
  if trim payload.name = "" ∨ trim payload.baseUrl = "" then
    .error (.badRequest "name and base_url are required")
  else
    match Api.createSite db now (trim payload.name) (trim payload.baseUrl) with
    | .error (.uniqueViolation _) => .error (.conflict "a site with this base_url already exists")
    | .error _ => .error (.internal internalServerErrorMessage)
    | .ok (site, after) =>
        .ok (.fromSite chrono site .notConfigured false .notConfigured, after)

/-- A request that stores the name of a site. -/
inductive SaveSiteRequest where
  | create (now : Timestamp) (payload : CreateSiteRequest)
  | update (updatedAt resolvedAt : Timestamp) (siteId : Int) (payload : UpdateSiteRequest)

def SaveSiteRequest.name : SaveSiteRequest → String
  | .create _ payload => payload.name
  | .update _ _ _ payload => payload.name

def saveSite (chrono : Rfc3339) (db : Database)
    : SaveSiteRequest → Except ApiError (SiteResponse × Database)
  | .create now payload => createSite chrono db now payload
  | .update updatedAt resolvedAt siteId payload =>
      updateSite chrono db updatedAt resolvedAt siteId payload

------------------------------------------------------------
-- Status pages
------------------------------------------------------------

structure StatusPageConfigResponse where
  siteId : Int
  isEnabled : Bool
  slug : String
  pageTitle : Option String
  showMonitorDetails : Bool
  showUptimePercentages : Bool

def StatusPageConfigResponse.from (page : SiteStatusPage) : StatusPageConfigResponse where
  siteId := page.siteId
  isEnabled := page.isEnabled
  slug := page.slug
  pageTitle := page.pageTitle
  showMonitorDetails := page.showMonitorDetails
  showUptimePercentages := page.showUptimePercentages

structure UpsertStatusPageConfigBody where
  isEnabled : Bool
  slug : String
  pageTitle : Option String
  showMonitorDetails : Bool
  showUptimePercentages : Bool

def StatusPageTables.getBySiteId (tables : StatusPageTables) (siteId : Int)
    : Option SiteStatusPage :=
  tables.pages.rows.find? (·.siteId = siteId)

/-- The page of a site that has none yet. -/
def defaultStatusPage (site : Site) : SiteStatusPage where
  id := 0
  siteId := site.id
  isEnabled := false
  slug := slugify site.name
  pageTitle := none
  showMonitorDetails := true
  showUptimePercentages := true

def getStatusPageConfig (tables : StatusPageTables) (siteId : Int)
    : Except ApiError StatusPageConfigResponse := do
  let site ← ensureSiteExists tables.db siteId
  return .from ((tables.getBySiteId siteId).getD (defaultStatusPage site))

/-- `INSERT … ON CONFLICT (site_id) DO UPDATE`. -/
def upsertStatusPage (tables : StatusPageTables) (make : Int → SiteStatusPage)
    (keyed : ∀ id, (make id).id = id)
    : Except DatabaseError (SiteStatusPage × StatusPageTables) :=
  let new := make tables.pages.nextId
  if tables.pages.rows.any fun other => other.siteId != new.siteId && other.slug = new.slug then
    .error (.uniqueViolation "idx_site_status_pages_slug")
  else
    match tables.getBySiteId new.siteId with
    | some stored =>
        let set := fun page : SiteStatusPage => make page.id
        .ok (make stored.id,
          { tables with
            pages := tables.pages.update (·.siteId = new.siteId) set fun page _ => keyed page.id })
    | none => .ok (new, { tables with pages := tables.pages.insert make keyed })

def upsertStatusPageConfig (tables : StatusPageTables) (siteId : Int)
    (body : UpsertStatusPageConfigBody)
    : Except ApiError (StatusPageConfigResponse × StatusPageTables) := do
  let _ ← ensureSiteExists tables.db siteId
  let slug := trim body.slug
  validateSlug slug
  let make := fun id : Int =>
    ({ id
       siteId
       isEnabled := body.isEnabled
       slug
       pageTitle := (body.pageTitle.map trim).filter (!·.isEmpty)
       showMonitorDetails := body.showMonitorDetails
       showUptimePercentages := body.showUptimePercentages } : SiteStatusPage)
  match upsertStatusPage tables make fun _ => rfl with
  | .ok (page, tables) => return (.from page, tables)
  | .error (.uniqueViolation _) => throw (.conflict "slug already in use")
  | .error _ => throw (.internal internalServerErrorMessage)

end AlonSentinel.Api.Sites
