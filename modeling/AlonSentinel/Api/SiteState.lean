import AlonSentinel.Api.HistoryHandlers
import AlonSentinel.Api.SiteHandlers
import AlonSentinel.Domain.SiteHealth
import AlonSentinel.Foundation.UnicodeText

/-! The handlers that report the state of a site: the listing of sites, the update of a site and
its summary. The summary keeps the rows of monitors and checks before they are printed.
-/

namespace AlonSentinel.Api.Sites

open Domain
open IntegerText
open KeyedTable
open UnicodeText

variable (chrono : Rfc3339)

/-- The states of a site, from the one that says least of it to the worst. -/
inductive SiteState where
  | notConfigured
  | disabled
  | pendingFirstCheck
  | healthy
  | failing
  deriving DecidableEq

def SiteState.asStr : SiteState → String
  | .notConfigured => "not_configured"
  | .disabled => "disabled"
  | .pendingFirstCheck => "pending_first_check"
  | .healthy => "healthy"
  | .failing => "failing"

inductive HttpMonitorStatus where
  | notConfigured
  | disabled
  | active
  deriving DecidableEq

def HttpMonitorStatus.asStr : HttpMonitorStatus → String
  | .notConfigured => "not_configured"
  | .disabled => "disabled"
  | .active => "active"

def httpMonitorStatus (httpMonitors : List SiteMonitor) : HttpMonitorStatus :=
  if httpMonitors.any (·.isActive) then .active
  else if httpMonitors.isEmpty then .notConfigured
  else .disabled

structure SiteResponse where
  id : Int
  name : String
  baseUrl : String
  isActive : Bool
  hasHttpMonitor : Bool
  httpMonitorStatus : HttpMonitorStatus
  hasOpenIncident : Bool
  currentState : SiteState
  createdAt : String
  updatedAt : String

def SiteResponse.fromSite (site : Site) (httpMonitorStatus : HttpMonitorStatus)
    (hasOpenIncident : Bool) (currentState : SiteState)
    : SiteResponse where
  id := site.id
  name := site.name
  baseUrl := site.baseUrl
  isActive := site.isActive
  hasHttpMonitor := httpMonitorStatus ≠ .notConfigured
  httpMonitorStatus := httpMonitorStatus
  hasOpenIncident := hasOpenIncident
  currentState := currentState
  createdAt := chrono.toRfc3339 site.createdAt
  updatedAt := chrono.toRfc3339 site.updatedAt

def siteCurrentState : Option SiteHealthState → SiteState
  | none => .notConfigured
  | some health =>
      if !health.hasActiveMonitor then .disabled
      else if health.anyFailing = some true then .failing
      else if health.anySucceeding = some true then .healthy
      else .pendingFirstCheck

def summaryCurrentState (httpMonitors sslMonitors heartbeatMonitors : List SiteMonitor)
    : SiteState :=
  let allMonitors := httpMonitors ++ sslMonitors ++ heartbeatMonitors
  let activeMonitors := allMonitors.filter (·.isActive)
  if allMonitors.isEmpty then .notConfigured
  else if activeMonitors.isEmpty then .disabled
  else if activeMonitors.any (·.lastIsSuccess = some false) then .failing
  else if activeMonitors.any (·.lastIsSuccess = some true) then .healthy
  else .pendingFirstCheck

------------------------------------------------------------
-- The listing
------------------------------------------------------------

structure SitesQuery where
  q : Option String
  limit : Option Nat
  cursor : Option String

def parseSitesCursor (cursor : Option String) : Except ApiError (Option Int) :=
  match (cursor.map trim).filter (· ≠ "") with
  | none => .ok none
  | some cursor =>
      match readI64 cursor with
      | some id => .ok (some id)
      | none => .error (.badRequest "cursor must be a valid site id")

def listSites (ilike : String → String → Bool) (db : Database) (query : SitesQuery)
    : Except ApiError (List SiteResponse × Option String) := do
  let limit ← sitesLimit query.limit
  let cursorId ← parseSitesCursor query.cursor
  let searchQuery := (query.q.map trim).filter (· ≠ "")
  let sites := Domain.listSites ilike db searchQuery (limit + 1) cursorId
  let monitorStates := listHttpMonitorStates db
  let healthStates := listSiteHealthStates db
  let incidentSiteIds := getSiteIdsWithOpenIncidents db
  let payload :=
    sites.map fun site =>
      let httpMonitorStatus : HttpMonitorStatus :=
        match monitorStates.find? fun state => state.siteId = site.id with
        | some state => if state.hasActiveMonitor then .active else .disabled
        | none => .notConfigured
      let hasOpenIncident := incidentSiteIds.contains site.id
      let currentState :=
        siteCurrentState (healthStates.find? fun state => state.siteId = site.id)
      .fromSite chrono site httpMonitorStatus hasOpenIncident currentState
  return paginateVecWithCursor payload limit fun site => toString site.id

------------------------------------------------------------
-- The update
------------------------------------------------------------

structure UpdateSiteRequest where
  name : String
  baseUrl : String
  isActive : Bool

/-- The statements of the handler without another connection in between. -/
def updateSite (db : Database) (updatedAt resolvedAt : Timestamp) (siteId : Int)
    (payload : UpdateSiteRequest)
    : Except ApiError (SiteResponse × Database) :=
  if trim payload.name = "" ∨ trim payload.baseUrl = "" then
    .error (.badRequest "name and base_url are required")
  else
    match Api.updateSite db updatedAt siteId (trim payload.name) (trim payload.baseUrl)
        payload.isActive with
    | .error _ => .error (.internal internalServerErrorMessage)
    | .ok (none, _) => .error (.notFound "site not found")
    | .ok (some site, updated) =>
        let after :=
          if payload.isActive then updated
          else (resolveOpenIncidentsForSite updated resolvedAt siteId .siteDeactivated).2
        let httpMonitors := listHttpMonitorsBySiteId after siteId
        let healthState := getSiteHealthStateById after siteId
        .ok (.fromSite chrono site (httpMonitorStatus httpMonitors) false
              (siteCurrentState healthState),
            after)

------------------------------------------------------------
-- The summary
------------------------------------------------------------

def summaryWindow (limit : Option Nat) : Except ApiError Nat := boundedLimit limit 20 200 "limit"

structure RecentCheckStatsResponse where
  windowSize : Nat
  totalChecks : Nat
  successfulChecks : Nat
  failedChecks : Nat

def buildRecentCheckStats (checks : List SiteMonitorCheck) (windowSize : Nat)
    : RecentCheckStatsResponse where
  windowSize := windowSize
  totalChecks := checks.length
  successfulChecks := checks.countP (·.isSuccess)
  failedChecks := checks.length - checks.countP (·.isSuccess)

structure SiteSummaryResponse where
  site : SiteResponse
  httpMonitors : List SiteMonitor
  sslMonitors : List SiteMonitor
  heartbeatMonitors : List SiteMonitor
  currentState : SiteState
  incidentOpen : Bool
  recentChecks : RecentCheckStatsResponse
  latestCheck : Option SiteMonitorCheck
  latestFailure : Option SiteMonitorCheck

def getSiteSummary (db : Database) (siteId : Int) (limit : Option Nat)
    : Except ApiError SiteSummaryResponse := do
  let site ← ensureSiteExists db siteId
  let httpMonitors := listHttpMonitorsBySiteId db siteId
  let sslMonitors := listSslMonitorsBySiteId db siteId
  let heartbeatMonitors := listHeartbeatMonitorsBySiteId db siteId
  let windowSize ← summaryWindow limit
  let recentChecks :=
    listChecksBySiteId db siteId
      { cursorCheckedAt := none, cursorId := none, isSuccess := none, limit := windowSize }
  let currentState := summaryCurrentState httpMonitors sslMonitors heartbeatMonitors
  return {
    site :=
      .fromSite chrono site (httpMonitorStatus httpMonitors) false currentState
    httpMonitors
    sslMonitors
    heartbeatMonitors
    currentState
    incidentOpen := hasOpenIncidentForSite db siteId
    recentChecks := buildRecentCheckStats recentChecks windowSize
    latestCheck := recentChecks.head?
    latestFailure := recentChecks.find? fun check => !check.isSuccess }

------------------------------------------------------------
-- What the handlers answer
------------------------------------------------------------

variable {chrono : Rfc3339} {db : Database} {siteId : Int}

theorem getSiteSummary_ok {limit : Option Nat} {response : SiteSummaryResponse}
    (answered : getSiteSummary chrono db siteId limit = .ok response)
    : response.site.hasOpenIncident = false
      ∧ response.site.currentState
        = summaryCurrentState (listHttpMonitorsBySiteId db siteId)
            (listSslMonitorsBySiteId db siteId) (listHeartbeatMonitorsBySiteId db siteId) := by
  unfold getSiteSummary at answered
  cases exists? : ensureSiteExists db siteId with
  | error error =>
      rw [exists?] at answered
      cases answered
  | ok site =>
      cases window : summaryWindow limit with
      | error error =>
          rw [exists?, window] at answered
          cases answered
      | ok windowSize =>
          rw [exists?, window] at answered
          cases answered
          exact ⟨rfl, rfl⟩

/-- A site that exists has a summary. -/
theorem getSiteSummary_isOk (chrono : Rfc3339) {site : Site}
    (stored : db.sites.find? siteId = some site)
    : ∃ response, getSiteSummary chrono db siteId none = .ok response := by
  unfold getSiteSummary
  rw [show ensureSiteExists db siteId = .ok site by rw [ensureSiteExists, stored]]
  exact ⟨_, rfl⟩

theorem mem_listSites {ilike : String → String → Bool} {query : SitesQuery}
    {page : List SiteResponse} {next : Option String} {response : SiteResponse}
    (answered : listSites chrono ilike db query = .ok (page, next)) (listed : response ∈ page)
    : response.hasOpenIncident = (getSiteIdsWithOpenIncidents db).contains response.id
      ∧ response.currentState = siteCurrentState (getSiteHealthStateById db response.id) := by
  unfold listSites at answered
  cases limited : sitesLimit query.limit with
  | error error =>
      rw [limited] at answered
      cases answered
  | ok limit =>
      cases cursor : parseSitesCursor query.cursor with
      | error error =>
          rw [limited, cursor] at answered
          cases answered
      | ok cursorId =>
          rw [limited, cursor] at answered
          have shown : _ = page := congrArg Prod.fst (Except.ok.inj answered)
          rw [← shown] at listed
          obtain ⟨site, _, rfl⟩ := List.mem_map.mp (paginateVecWithCursor_subset listed)
          exact ⟨rfl, congrArg siteCurrentState (find?_listSiteHealthStates db site.id)⟩

/-- An update reports no open incident; it resolves them if it deactivates the site. -/
theorem updateSite_ok {updatedAt resolvedAt : Timestamp} {payload : UpdateSiteRequest}
    {response : SiteResponse} {after : Database}
    (answered : updateSite chrono db updatedAt resolvedAt siteId payload = .ok (response, after))
    : response.hasOpenIncident = false
      ∧ response.currentState = siteCurrentState (getSiteHealthStateById after siteId)
      ∧ after.siteMonitorIncidents
        = if payload.isActive then db.siteMonitorIncidents
          else
            (resolveOpenIncidentsForSite db resolvedAt siteId
              .siteDeactivated).2.siteMonitorIncidents := by
  unfold updateSite at answered
  split at answered
  · cases answered
  · unfold Api.updateSite at answered
    cases stored : db.sites.find? siteId with
    | none =>
        rw [stored] at answered
        cases answered
    | some site =>
        rw [stored] at answered
        simp only at answered
        split at answered
        · cases answered
        · rename_i updated
          split at updated
          · cases updated
          · cases updated
        · rename_i updated
          split at updated
          · cases updated
          · cases updated
            cases answered
            cases payload.isActive with
            | true => exact ⟨rfl, rfl, rfl⟩
            | false => exact ⟨rfl, rfl, rfl⟩

end AlonSentinel.Api.Sites
