import AlonSentinel.Api.Error
import AlonSentinel.Domain.SiteMonitorConfiguration
import AlonSentinel.Domain.SiteMonitorIncidentRepository
import AlonSentinel.Domain.NotificationRepository

/-! The API handlers that write to the tables of the workers. A handler runs one statement
and, where monitoring stops, a second one that resolves open incidents; other connections may
run in between, so the two are kept apart.
-/

namespace AlonSentinel.Api

open Domain
open KeyedTable

------------------------------------------------------------
-- Sites
------------------------------------------------------------

/-- Whether another site than `siteId` has the base URL (`uq_sites_base_url`). -/
def baseUrlTaken (db : Database) (siteId : Int) (baseUrl : String) : Bool :=
  db.sites.rows.any fun other => other.id != siteId && other.baseUrl = baseUrl

def createSite (db : Database) (now : Timestamp) (name baseUrl : String)
    : Except DatabaseError (Site × Database) :=
  if baseUrlTaken db db.sites.nextId baseUrl then
    .error (.uniqueViolation "uq_sites_base_url")
  else
    let make := fun id : Int =>
      ({ id, name, baseUrl, isActive := true, createdAt := now, updatedAt := now } : Site)
    .ok (make db.sites.nextId, { db with sites := db.sites.insert make })

def updateSite (db : Database) (now : Timestamp) (siteId : Int) (name baseUrl : String)
    (isActive : Bool)
    : Except DatabaseError (Option Site × Database) :=
  match db.sites.find? siteId with
  | none => .ok (none, db)
  | some site =>
      if baseUrlTaken db siteId baseUrl then
        .error (.uniqueViolation "uq_sites_base_url")
      else
        let set := fun stored : Site => { stored with name, baseUrl, isActive, updatedAt := now }
        .ok (some (set site), { db with sites := db.sites.update (·.id = siteId) set })

------------------------------------------------------------
-- Resolving after monitoring stops
------------------------------------------------------------

/-- Which incidents the second statement of a handler resolves. -/
inductive ResolutionScope where
  | monitor (siteMonitorId : Int)
  | site (siteId : Int)
  deriving DecidableEq

/-- The second statement that a handler has still to run. Only a check resolves an incident
as recovered. -/
structure PendingResolution where
  scope : ResolutionScope
  reason : SiteMonitorIncidentResolvedReason
  notRecovered : reason ≠ .recovered

/-- Runs the second statement of a handler. -/
def PendingResolution.resolve (pending : PendingResolution) (db : Database) (now : Timestamp)
    : Nat × Database :=
  match pending.scope with
  | .monitor siteMonitorId => resolveOpenIncidentsForMonitor db now siteMonitorId pending.reason
  | .site siteId => resolveOpenIncidentsForSite db now siteId pending.reason

/-- What remains of a handler that stopped one monitor. -/
def monitorStopped (siteMonitorId : Int) : PendingResolution where
  scope := .monitor siteMonitorId
  reason := .monitoringDisabled
  notRecovered := nofun

/-- What remains of a handler that stopped the monitors of one type on a site. -/
def monitorTypeStopped (siteId : Int) : PendingResolution where
  scope := .site siteId
  reason := .monitoringDisabled
  notRecovered := nofun

/-- What remains of a handler that deactivated a site. -/
def siteStopped (siteId : Int) : PendingResolution where
  scope := .site siteId
  reason := .siteDeactivated
  notRecovered := nofun

------------------------------------------------------------
-- Requests
------------------------------------------------------------

/-- A request past authentication and validation, with its normalized payload. The requests that
delete a site or a channel, with what the database deletes along, are left out.
-/
inductive ApiRequest where
  | createSite (name baseUrl : String)
  | updateSite (siteId : Int) (name baseUrl : String) (isActive : Bool)
  | upsertHttpSiteMonitor (siteId : Int) (params : HttpMonitorParams)
  | updateHttpSiteMonitor (siteId siteMonitorId : Int) (params : HttpMonitorParams)
  | upsertSslSiteMonitor (siteId : Int) (params : SslMonitorParams)
  | updateSslSiteMonitor (siteId siteMonitorId : Int) (params : SslMonitorParams)
  | upsertTcpSiteMonitor (siteId : Int) (params : TcpMonitorParams)
  | updateTcpSiteMonitor (siteId siteMonitorId : Int) (params : TcpMonitorParams)
  | upsertDnsSiteMonitor (siteId : Int) (params : DnsMonitorParams)
  | updateDnsSiteMonitor (siteId siteMonitorId : Int) (params : DnsMonitorParams)
  | createHeartbeatSiteMonitor (siteId : Int) (params : HeartbeatMonitorParams)
  | updateHeartbeatSiteMonitor (siteId siteMonitorId : Int)
      (params : HeartbeatMonitorUpdateParams)
  | pauseSiteMonitorById (monitorType : SiteMonitorType) (siteId siteMonitorId : Int)
  | resumeSiteMonitorById (monitorType : SiteMonitorType) (siteId siteMonitorId : Int)
  | disableSiteMonitorById (monitorType : SiteMonitorType) (siteId siteMonitorId : Int)
  | disableSiteMonitor (monitorType : SiteMonitorType) (siteId : Int)
  | acknowledgeIncident (incidentId siteId adminUserId : Int)
  | recordHeartbeatPing (heartbeatToken : String)
  | createChannel (params : NotificationChannelParams)
  | updateChannel (channelId : Int) (params : NotificationChannelParams)
  | upsertChannelOverride (siteId overrideId : Int) (params : ChannelOverrideParams)
  | deleteChannelOverride (siteId notificationChannelId : Int)

/-- The state after the first statement of a handler and what it has still to run. -/
structure Started where
  db : Database
  pending : Option PendingResolution

/-- A handler that inserted or overwrote a monitor stops it if the payload says so. -/
def startUpsert (isActive : Bool) (result : Except DatabaseError (SiteMonitor × Database))
    : Except DatabaseError Started :=
  result.map fun (monitor, db) =>
    { db, pending := if isActive then none else some (monitorStopped monitor.id) }

/-- A handler that updated a monitor stops it if the payload says so; without a matching row
it answers that there is none. -/
def startUpdate (isActive : Bool)
    (result : Except DatabaseError (Option SiteMonitor × Database))
    : Except DatabaseError Started :=
  result.map fun (monitor, db) =>
    { db
      pending :=
        match monitor with
        | some monitor => if isActive then none else some (monitorStopped monitor.id)
        | none => none }

/-- A handler that switched monitors off resolves in a scope, if any row matched. -/
def startStop (pending : PendingResolution) (result : List SiteMonitor × Database) : Started where
  db := result.2
  pending := if result.1.isEmpty then none else some pending

/-- Runs the first statement of a request. -/
def startRequest (db : Database) (now : Timestamp)
    : ApiRequest → Except DatabaseError Started
  | .createSite name baseUrl => (createSite db now name baseUrl).map fun (_, db) => ⟨db, none⟩
  | .updateSite siteId name baseUrl isActive =>
      (updateSite db now siteId name baseUrl isActive).map fun (site, db) =>
        { db
          pending :=
            if site.isSome && !isActive then some (siteStopped siteId) else none }
  | .upsertHttpSiteMonitor siteId params =>
      startUpsert params.isActive (upsertHttpMonitorBySiteIdAndTargetUrl db now siteId params)
  | .updateHttpSiteMonitor siteId siteMonitorId params =>
      startUpdate params.isActive (updateHttpSiteMonitorById db now siteId siteMonitorId params)
  | .upsertSslSiteMonitor siteId params =>
      startUpsert params.isActive (upsertSslMonitorBySiteIdAndTargetUrl db now siteId params)
  | .updateSslSiteMonitor siteId siteMonitorId params =>
      startUpdate params.isActive (updateSslSiteMonitorById db now siteId siteMonitorId params)
  | .upsertTcpSiteMonitor siteId params =>
      startUpsert params.isActive (upsertTcpMonitorBySiteIdAndHostPort db now siteId params)
  | .updateTcpSiteMonitor siteId siteMonitorId params =>
      startUpdate params.isActive (updateTcpSiteMonitorById db now siteId siteMonitorId params)
  | .upsertDnsSiteMonitor siteId params =>
      startUpsert params.isActive
        (upsertDnsMonitorBySiteIdAndHostnameRecordType db now siteId params)
  | .updateDnsSiteMonitor siteId siteMonitorId params =>
      startUpdate params.isActive (updateDnsSiteMonitorById db now siteId siteMonitorId params)
  | .createHeartbeatSiteMonitor siteId params =>
      startUpsert params.isActive (createHeartbeatSiteMonitor db now siteId params)
  | .updateHeartbeatSiteMonitor siteId siteMonitorId params =>
      startUpdate params.isActive
        (updateHeartbeatSiteMonitorById db now siteId siteMonitorId params)
  | .pauseSiteMonitorById monitorType siteId siteMonitorId =>
      .ok (startStop (monitorStopped siteMonitorId)
        (pauseMonitorById monitorType db now siteId siteMonitorId))
  | .resumeSiteMonitorById monitorType siteId siteMonitorId =>
      .ok ⟨(resumeMonitorById monitorType db now siteId siteMonitorId).2, none⟩
  | .disableSiteMonitorById monitorType siteId siteMonitorId =>
      .ok (startStop (monitorStopped siteMonitorId)
        (disableMonitorById monitorType db now siteId siteMonitorId))
  | .disableSiteMonitor monitorType siteId =>
      .ok (startStop (monitorTypeStopped siteId)
        (disableMonitorsBySiteId monitorType db now siteId))
  | .acknowledgeIncident incidentId siteId adminUserId =>
      .ok ⟨(acknowledgeIncident db now incidentId siteId adminUserId).2, none⟩
  | .recordHeartbeatPing heartbeatToken => .ok ⟨(recordHeartbeatPing db now heartbeatToken).2, none⟩
  | .createChannel params => (createChannel db now params).map fun (_, db) => ⟨db, none⟩
  | .updateChannel channelId params =>
      (updateChannel db now channelId params).map fun (_, db) => ⟨db, none⟩
  | .upsertChannelOverride siteId overrideId params =>
      .ok ⟨upsertForSite db now siteId overrideId params, none⟩
  | .deleteChannelOverride siteId notificationChannelId =>
      .ok ⟨deleteForSite db siteId notificationChannelId, none⟩

------------------------------------------------------------
-- Disabling the monitors of one type
------------------------------------------------------------

structure DisableSiteMonitorResponse where
  disabled : Bool
  deriving DecidableEq

/-- Both statements of a handler that disables the monitors of one type on a site, without
another connection in between. -/
def disableSiteMonitor (monitorType : SiteMonitorType) (message : String) (db : Database)
    (disabledAt resolvedAt : Timestamp) (siteId : Int)
    : Except ApiError (DisableSiteMonitorResponse × Database) :=
  let (monitors, disabled) := disableMonitorsBySiteId monitorType db disabledAt siteId
  if monitors.isEmpty then
    .error (.notFound message)
  else
    .ok ({ disabled := true },
      (resolveOpenIncidentsForSite disabled resolvedAt siteId .monitoringDisabled).2)

def disableHttpSiteMonitor := disableSiteMonitor .http "http monitor not found"
def disableSslSiteMonitor := disableSiteMonitor .ssl "ssl monitor not found"
def disableTcpSiteMonitor := disableSiteMonitor .tcp "tcp monitor not found"
def disableDnsSiteMonitor := disableSiteMonitor .dns "dns monitor not found"
def disableHeartbeatSiteMonitor := disableSiteMonitor .heartbeat "heartbeat monitor not found"

/-- The handler of each type. -/
def disableHandler
    : SiteMonitorType → Database → Timestamp → Timestamp → Int
      → Except ApiError (DisableSiteMonitorResponse × Database)
  | .http => disableHttpSiteMonitor
  | .ssl => disableSslSiteMonitor
  | .tcp => disableTcpSiteMonitor
  | .dns => disableDnsSiteMonitor
  | .heartbeat => disableHeartbeatSiteMonitor

/-- What a handler that succeeds leaves: both statements ran. -/
theorem disableHandler_ok {monitorType : SiteMonitorType} {db after : Database}
    {disabledAt resolvedAt : Timestamp} {siteId : Int} {response : DisableSiteMonitorResponse}
    (done : disableHandler monitorType db disabledAt resolvedAt siteId = .ok (response, after))
    : after
      = (resolveOpenIncidentsForSite (disableMonitorsBySiteId monitorType db disabledAt siteId).2
          resolvedAt siteId .monitoringDisabled).2 := by
  have ran (message : String)
      (ok : disableSiteMonitor monitorType message db disabledAt resolvedAt siteId
        = .ok (response, after))
      : after
        = (resolveOpenIncidentsForSite
            (disableMonitorsBySiteId monitorType db disabledAt siteId).2 resolvedAt siteId
            .monitoringDisabled).2 := by
    unfold disableSiteMonitor at ok
    simp only at ok
    split at ok
    · cases ok
    · cases ok
      rfl
  cases monitorType with
  | http | ssl | tcp | dns | heartbeat => exact ran _ done

end AlonSentinel.Api
