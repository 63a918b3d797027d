import AlonSentinel.Api.RateLimit
import AlonSentinel.Api.StatusPages
import AlonSentinel.Api.UptimeHandlers
import AlonSentinel.Foundation.ConcurrentQueries
import AlonSentinel.Foundation.LruCache

/-! The public status page of a site: what it asks the database and the clock for, what it makes of
the answers, and the cache that it is served from. A body is kept before it is serialized.
-/

namespace AlonSentinel.Api

open Caching
open ConcurrentQueries
open Domain
open KeyedTable
open Sites
open StdTime

------------------------------------------------------------
-- Labels and states
------------------------------------------------------------

/-- What a visitor sees of a monitor. -/
inductive MonitorStatus where
  | paused
  | pending
  | down
  | degraded
  | up
  deriving DecidableEq

def MonitorStatus.asStr : MonitorStatus → String
  | .paused => "paused"
  | .pending => "pending"
  | .down => "down"
  | .degraded => "degraded"
  | .up => "up"

/-- What a visitor sees of the site. -/
inductive OverallStatus where
  | unknown
  | outage
  | degraded
  | operational
  deriving DecidableEq

def OverallStatus.asStr : OverallStatus → String
  | .unknown => "unknown"
  | .outage => "outage"
  | .degraded => "degraded"
  | .operational => "operational"

def monitorLabel (monitor : SiteMonitor) : String × String :=
  match monitor.monitorType with
  | .tcp =>
      ("TCP " ++ monitor.tcpTargetHost.getD "?" ++ ":" ++ toString (monitor.tcpTargetPort.getD 0),
        "tcp")
  | .dns =>
      ("DNS " ++ monitor.dnsRecordType.getD "?" ++ " " ++ monitor.dnsHostname.getD "?", "dns")
  | other => (monitor.targetUrl, other.asStr)

/-- The last response took longer than the monitor allows. -/
def isSlow (monitor : SiteMonitor) : Bool :=
  match monitor.lastResponseTimeMs, monitor.maxResponseTimeMs with
  | some actual, some threshold => threshold < actual
  | _, _ => false

def monitorStatus (monitor : SiteMonitor) : MonitorStatus :=
  if !monitor.isActive then .paused
  else
    match monitor.lastIsSuccess with
    | none => .pending
    | some false => .down
    | some true => if isSlow monitor then .degraded else .up

def deriveOverallStatus (activeMonitors : List SiteMonitor) : OverallStatus :=
  if activeMonitors.isEmpty then .unknown
  else if activeMonitors.any (·.lastIsSuccess = some false) then .outage
  else if activeMonitors.any (monitorStatus · = .degraded) then .degraded
  else if activeMonitors.all (·.lastIsSuccess = some true) then .operational
  else .unknown

def incidentLabel (incident : SiteMonitorIncident) : String × String :=
  let label :=
    match incident.monitorType with
    | .tcp => "TCP " ++ incident.targetUrl
    | .dns => "DNS " ++ incident.targetUrl
    | _ => incident.targetUrl
  (label, incident.monitorType.asStr)

------------------------------------------------------------
-- Responses
------------------------------------------------------------

structure PublicUptimeDayBucket where
  date : String
  total : Nat
  success : Nat

structure PublicMonitorStatus where
  label : String
  monitorType : String
  status : MonitorStatus
  responseTimeMs : Option Int
  lastCheckedAt : Option String
  uptime7d : Option Percentage
  uptime30d : Option Percentage
  uptimeHistory : List PublicUptimeDayBucket

structure PublicOpenIncident where
  openedAt : String
  monitorLabel : String
  monitorType : String

structure PublicResolvedIncident where
  openedAt : String
  resolvedAt : String
  monitorLabel : String
  monitorType : String
  downtimeSeconds : Option Int
  failureReason : Option String

structure PublicStatusPageResponse where
  slug : String
  pageTitle : String
  overallStatus : OverallStatus
  showMonitorDetails : Bool
  showUptimePercentages : Bool
  monitors : List PublicMonitorStatus
  uptime7d : Option Percentage
  uptime30d : Option Percentage
  openIncidents : List PublicOpenIncident
  incidentHistory : List PublicResolvedIncident
  lastUpdated : String

/-- The entries that a map is collected from; the last one of a key counts. -/
abbrev Collected (Value : Type) := List (Int × Value)

def Collected.get {Value : Type} (entries : Collected Value) (key : Int) : Option Value :=
  (entries.findRev? (·.1 = key)).map Prod.snd

/-- What is fetched where uptime is shown: figures of the site, and maps by monitor. -/
structure UptimeFigures where
  site7d : SiteUptimeStats
  site30d : SiteUptimeStats
  uptimeMap : Collected MonitorUptimeStats
  historyMap : Collected (List DailyUptimeBucket)

def PublicUptimeDayBucket.from (bucket : DailyUptimeBucket) : PublicUptimeDayBucket where
  date := bucket.date
  total := bucket.totalChecks
  success := bucket.successfulChecks

variable (chrono : Rfc3339)

def publicMonitorStatus (figures : Option UptimeFigures) (monitor : SiteMonitor)
    : PublicMonitorStatus :=
  let uptime := figures.bind (·.uptimeMap.get monitor.id)
  let history := (figures.bind (·.historyMap.get monitor.id)).getD []
  { label := (monitorLabel monitor).1
    monitorType := (monitorLabel monitor).2
    status := monitorStatus monitor
    responseTimeMs := monitor.lastResponseTimeMs
    lastCheckedAt := monitor.lastCheckedAt.map chrono.toRfc3339
    uptime7d := uptime.bind fun stats => pct stats.total7d stats.success7d
    uptime30d := uptime.bind fun stats => pct stats.total30d stats.success30d
    uptimeHistory := if uptime.isSome then history.map .from else [] }

def publicOpenIncident (incident : SiteMonitorIncident) : PublicOpenIncident where
  openedAt := chrono.toRfc3339 incident.openedAt
  monitorLabel := (incidentLabel incident).1
  monitorType := (incidentLabel incident).2

def publicResolvedIncident (incident : SiteMonitorIncident) : Option PublicResolvedIncident :=
  incident.resolvedAt.map fun resolvedAt =>
    { openedAt := chrono.toRfc3339 incident.openedAt
      resolvedAt := chrono.toRfc3339 resolvedAt
      monitorLabel := (incidentLabel incident).1
      monitorType := (incidentLabel incident).2
      downtimeSeconds := incident.downtimeSeconds
      failureReason := incident.openedFailureReason }

/-- What has been fetched for a page. -/
structure PageData where
  statusPage : SiteStatusPage
  site : Site
  allMonitors : List SiteMonitor
  openIncidents : List SiteMonitorIncident
  resolvedIncidents : List SiteMonitorIncident
  figures : Option UptimeFigures
  lastUpdated : Timestamp

def activeMonitors (allMonitors : List SiteMonitor) : List SiteMonitor :=
  allMonitors.filter (·.isActive)

def PageData.response (data : PageData) : PublicStatusPageResponse where
  slug := data.statusPage.slug
  pageTitle := data.statusPage.pageTitle.getD data.site.name
  overallStatus := deriveOverallStatus (activeMonitors data.allMonitors)
  showMonitorDetails := data.statusPage.showMonitorDetails
  showUptimePercentages := data.statusPage.showUptimePercentages
  monitors :=
    if data.statusPage.showMonitorDetails then
      data.allMonitors.map (publicMonitorStatus chrono data.figures)
    else []
  uptime7d := data.figures.bind fun figures =>
    pct figures.site7d.totalChecks figures.site7d.successfulChecks
  uptime30d := data.figures.bind fun figures =>
    pct figures.site30d.totalChecks figures.site30d.successfulChecks
  openIncidents := data.openIncidents.map (publicOpenIncident chrono)
  incidentHistory := data.resolvedIncidents.filterMap (publicResolvedIncident chrono)
  lastUpdated := chrono.toRfc3339 data.lastUpdated

------------------------------------------------------------
-- Queries
------------------------------------------------------------

/-- The statements of a page, and `Utc::now()`. -/
inductive PageQuery : Type → Type where
  | getBySlug (slug : String) : PageQuery (Option SiteStatusPage)
  | getSiteById (siteId : Int) : PageQuery (Option Site)
  | listMonitorsBySiteId (monitorType : SiteMonitorType) (siteId : Int)
    : PageQuery (List SiteMonitor)
  | listIncidentsBySiteId (siteId : Int) (query : IncidentCursorQuery)
    : PageQuery (List SiteMonitorIncident)
  | getSiteUptimeStats (siteId : Int) (since : Timestamp) : PageQuery SiteUptimeStats
  | getMonitorUptimeStats (monitorId : Int) (since7d since30d : Timestamp)
    : PageQuery MonitorUptimeStats
  | getMonitorDailyUptimeStats (monitorId days : Int) : PageQuery (List DailyUptimeBucket)
  | utcNow : PageQuery Timestamp

/-- What answers the queries: the tables with the clock of their database, and the clock of the
server.
-/
structure PageStore where
  tables : StatusPageTables
  databaseNow : Timestamp
  serverNow : Timestamp

def StatusPageTables.getBySlug (tables : StatusPageTables) (slug : String)
    : Option SiteStatusPage :=
  tables.pages.rows.find? (·.slug = slug)

def PageStore.answer (calendar : SessionCalendar) (store : PageStore) : Answers PageQuery
  | _, .getBySlug slug => StatusPageTables.getBySlug store.tables slug
  | _, .getSiteById siteId => store.tables.db.sites.find? siteId
  | _, .listMonitorsBySiteId monitorType siteId =>
      listMonitorsBySiteId monitorType store.tables.db siteId
  | _, .listIncidentsBySiteId siteId query => listIncidentsBySiteId store.tables.db siteId query
  | _, .getSiteUptimeStats siteId since => getSiteUptimeStats store.tables.db siteId since
  | _, .getMonitorUptimeStats monitorId since7d since30d =>
      getMonitorUptimeStats store.tables.db monitorId since7d since30d
  | _, .getMonitorDailyUptimeStats monitorId days =>
      getMonitorDailyUptimeStats calendar store.tables.db store.databaseNow monitorId days
  | _, .utcNow => store.serverNow

abbrev PageInquiry := Inquiry PageQuery

/-- `Utc::now() - chrono::Duration::days(days)`. -/
def sinceDays (days : Int) : PageInquiry Timestamp :=
  return (← .query .utcNow) - days * microsPerDay

/-- The monitors of all types, in five statements at once. -/
def listAllMonitors (siteId : Int) : PageInquiry (List SiteMonitor) :=
  let listed (monitorType : SiteMonitorType) : PageInquiry (List SiteMonitor) :=
    .query (.listMonitorsBySiteId monitorType siteId)
  return (← .all [listed .http, listed .ssl, listed .heartbeat, listed .tcp, listed .dns]).flatten

def incidentPage (siteId : Int) (status : SiteMonitorIncidentStatus)
    : PageInquiry (List SiteMonitorIncident) :=
  .query (.listIncidentsBySiteId siteId
    { cursorOpenedAt := none, cursorId := none, status := some status, limit := 10 })

/-- Both windows of a monitor. -/
def monitorUptime (monitorId : Int) : PageInquiry MonitorUptimeStats := do
  let since7d ← sinceDays 7
  let since30d ← sinceDays 30
  .query (.getMonitorUptimeStats monitorId since7d since30d)

/-- The figures of the site and of each monitor, in statements at once. -/
def uptimeFigures (siteId : Int) (ids : List Int) : PageInquiry UptimeFigures := do
  let since7d ← sinceDays 7
  let since30d ← sinceDays 30
  let ofSite : PageInquiry (SiteUptimeStats × SiteUptimeStats) :=
    .both (.query (.getSiteUptimeStats siteId since7d))
      (.query (.getSiteUptimeStats siteId since30d)) Prod.mk
  let ofMonitors : PageInquiry (List MonitorUptimeStats × List (List DailyUptimeBucket)) :=
    .both (.all (ids.map monitorUptime))
      (.all (ids.map fun id => .query (.getMonitorDailyUptimeStats id 90))) Prod.mk
  .both ofSite ofMonitors fun (site7d, site30d) (perUptime, perHistory) =>
    { site7d, site30d
      uptimeMap := ids.zip perUptime
      historyMap := ids.zip perHistory }

/-- The figures, where the page shows them and a monitor is active. -/
def shownFigures (statusPage : SiteStatusPage) (siteId : Int) (ids : List Int)
    : PageInquiry (Option UptimeFigures) :=
  if statusPage.showUptimePercentages && !ids.isEmpty then some <$> uptimeFigures siteId ids
  else return none

/-- What is fetched for a page that is enabled. -/
def fetchPage (statusPage : SiteStatusPage) (site : Site) : PageInquiry PageData := do
  let allMonitors ← listAllMonitors site.id
  let ids := (activeMonitors allMonitors).map (·.id)
  let (openIncidents, resolvedIncidents) ←
    .both (incidentPage site.id .opened) (incidentPage site.id .resolved) Prod.mk
  let figures ← shownFigures statusPage site.id ids
  let lastUpdated ← .query .utcNow
  return { statusPage, site, allMonitors, openIncidents, resolvedIncidents, figures, lastUpdated }

/-- The page behind the cache. -/
def getPublicStatusPage (slug : String)
    : PageInquiry (Except ApiError PublicStatusPageResponse) := do
  match (← .query (.getBySlug slug)).filter (·.isEnabled) with
  | none => return .error (.notFound "status page not found")
  | some statusPage =>
      match ← .query (.getSiteById statusPage.siteId) with
      | none => return .error (.notFound "status page not found")
      | some site => return .ok ((← fetchPage statusPage site).response chrono)

------------------------------------------------------------
-- The cache
------------------------------------------------------------

structure StatusPageCacheEntry where
  bytes : PublicStatusPageResponse
  cachedAt : Instant

structure StatusPageCache where
  inner : LruCache String StatusPageCacheEntry
  ttl : Duration

namespace StatusPageCache

def new (capacity : Nat) (positive : 0 < capacity) (ttl : Duration) : StatusPageCache where
  inner := .empty capacity positive
  ttl := ttl

/-- An entry that is too old is used nevertheless, and stays. -/
def get (cache : StatusPageCache) (now : Instant) (slug : String)
    : Option PublicStatusPageResponse × StatusPageCache :=
  let (found, inner) := cache.inner.get slug
  let fresh := found.filter fun entry => durationSince now entry.cachedAt < cache.ttl
  (fresh.map (·.bytes), { cache with inner })

def set (cache : StatusPageCache) (now : Instant) (slug : String) (bytes : PublicStatusPageResponse)
    : StatusPageCache :=
  { cache with inner := cache.inner.put slug { bytes, cachedAt := now } }

end StatusPageCache

end AlonSentinel.Api
