import AlonSentinel.Domain.Models

/-! The statements on `site_monitors`: claims and their settlement by workers, and the
configuration changes of the API. Every statement reads the database clock as `now`.
-/

namespace AlonSentinel.Domain

open KeyedTable

------------------------------------------------------------
-- Claims
------------------------------------------------------------

/-- The `WHERE` clause of a claim; `locked` are the rows skipped by `SKIP LOCKED`. -/
def SiteMonitor.dueForCheck (db : Database) (now : Timestamp) (locked : List Int)
    (monitor : SiteMonitor)
    : Bool :=
  monitor.isActive
  && (db.sites.find? monitor.siteId).any (·.isActive)
  && monitor.lastCheckedAt.all (· ≤ now - seconds monitor.checkIntervalSeconds)
  && monitor.checkLeaseUntil.all (· < now)
  && monitor.id ∉ locked

/-- `ORDER BY last_checked_at NULLS FIRST, id`. -/
def SiteMonitor.checkOrder (first second : SiteMonitor) : Bool :=
  match first.lastCheckedAt, second.lastCheckedAt with
  | none, none => first.id ≤ second.id
  | none, some _ => true
  | some _, none => false
  | some earlier, some later => earlier < later || (earlier == later && first.id ≤ second.id)

/-- The `SET` list of a claim. -/
def SiteMonitor.asClaimed (now : Timestamp) (workerId : String) (leaseSeconds : Int)
    (monitor : SiteMonitor)
    : SiteMonitor :=
  { monitor with
    checkClaimedAt := some now
    checkLeaseUntil := some (now + seconds leaseSeconds)
    checkClaimedBy := some workerId
    updatedAt := now }

/-- Claims up to `limit` due monitors and returns the claimed rows. -/
def claimSiteMonitorsDueForCheck (db : Database) (now : Timestamp) (workerId : String)
    (limit : Nat) (leaseSeconds : Int) (locked : List Int)
    : Database × Table SiteMonitor SiteMonitor.id :=
  let due := db.siteMonitors.pick (·.dueForCheck db now locked) SiteMonitor.checkOrder limit
  let siteMonitors :=
    db.siteMonitors.update (fun monitor => monitor.id ∈ due)
      (·.asClaimed now workerId leaseSeconds)
  ({ db with siteMonitors }, siteMonitors.select fun monitor => monitor.id ∈ due)

/-- The later of due instant and end of the lease, none of them before `now`; a monitor that was
never checked is due at once. -/
def SiteMonitor.claimableFrom (now : Timestamp) (monitor : SiteMonitor) : Timestamp :=
  let dueAt := monitor.lastCheckedAt.map (· + seconds monitor.checkIntervalSeconds)
  max (max (dueAt.getD now) now)
    (match monitor.checkLeaseUntil with
      | some leaseUntil => if now < leaseUntil then leaseUntil else now
      | none => now)

/-- `MIN` of these instants over the active monitors of active sites. -/
def nextClaimableCheckAt (db : Database) (now : Timestamp) : Option Timestamp :=
  let monitors :=
    db.siteMonitors.rows.filter fun monitor =>
      monitor.isActive && (db.sites.find? monitor.siteId).any (·.isActive)
  (monitors.map (·.claimableFrom now)).min?

/-- `WHERE id = $1 AND check_claimed_by = $2`. -/
def SiteMonitor.isClaimedBy (siteMonitorId : Int) (claimedBy : String) (monitor : SiteMonitor)
    : Bool :=
  monitor.id = siteMonitorId && monitor.checkClaimedBy = some claimedBy

/-- Runs an update guarded by the claim; the result tells whether a row was updated. -/
def updateClaimedSiteMonitor (db : Database) (siteMonitorId : Int) (claimedBy : String)
    (set : SiteMonitor → SiteMonitor) (keeps : ∀ monitor, (set monitor).id = monitor.id)
    : Bool × Database :=
  ((db.siteMonitors.find? siteMonitorId).any (·.isClaimedBy siteMonitorId claimedBy),
    { db with
      siteMonitors :=
        db.siteMonitors.update (·.isClaimedBy siteMonitorId claimedBy) set
          fun monitor _ => keeps monitor })

/-- The columns that `update_site_monitor_last_check` binds. -/
structure MonitorLastCheckParams where
  isSuccess : Bool
  statusCode : Option Int
  responseTimeMs : Option Int
  failureReason : Option String
  errorMessage : Option String
  certificateExpiresAt : Option Timestamp
  certificateDaysRemaining : Option Int
  certificateIssuer : Option String
  certificateSubject : Option String
  certificateDomain : Option String

/-- The `SET` list of `update_site_monitor_last_check`. -/
def SiteMonitor.withLastCheck (now : Timestamp) (params : MonitorLastCheckParams)
    (monitor : SiteMonitor)
    : SiteMonitor :=
  { monitor with
    lastCheckedAt := some now
    lastSuccessfulCheckAt := if params.isSuccess then some now else monitor.lastSuccessfulCheckAt
    lastIsSuccess := some params.isSuccess
    lastStatusCode := params.statusCode
    lastResponseTimeMs := params.responseTimeMs
    lastFailureReason := params.failureReason
    lastErrorMessage := params.errorMessage
    lastCertificateExpiresAt := params.certificateExpiresAt
    lastCertificateDaysRemaining := params.certificateDaysRemaining
    lastCertificateIssuer := params.certificateIssuer
    lastCertificateSubject := params.certificateSubject
    lastCertificateDomain := params.certificateDomain
    checkClaimedAt := none
    checkLeaseUntil := none
    checkClaimedBy := none
    updatedAt := now }

/-- Records a check outcome and gives the claim back. -/
def updateSiteMonitorLastCheck (db : Database) (now : Timestamp) (siteMonitorId : Int)
    (claimedBy : String) (params : MonitorLastCheckParams)
    : Bool × Database :=
  updateClaimedSiteMonitor db siteMonitorId claimedBy (·.withLastCheck now params) fun _ => rfl

/-- The `SET` list of `release_site_monitor_claim`. -/
def SiteMonitor.asReleased (now : Timestamp) (monitor : SiteMonitor) : SiteMonitor :=
  { monitor with
    checkClaimedAt := none
    checkLeaseUntil := none
    checkClaimedBy := none
    updatedAt := now }

/-- Gives a claim back without recording a check. -/
def releaseSiteMonitorClaim (db : Database) (now : Timestamp) (siteMonitorId : Int)
    (claimedBy : String)
    : Bool × Database :=
  updateClaimedSiteMonitor db siteMonitorId claimedBy (·.asReleased now) fun _ => rfl

/-- The `SET` list of `extend_site_monitor_claim`. -/
def SiteMonitor.asExtended (now : Timestamp) (leaseSeconds : Int) (monitor : SiteMonitor)
    : SiteMonitor :=
  { monitor with
    checkLeaseUntil := some (now + seconds leaseSeconds)
    updatedAt := now }

/-- Moves the lease of a claim; the guard does not look at the old lease. -/
def extendSiteMonitorClaim (db : Database) (now : Timestamp) (siteMonitorId : Int)
    (claimedBy : String) (leaseSeconds : Int)
    : Bool × Database :=
  updateClaimedSiteMonitor db siteMonitorId claimedBy (·.asExtended now leaseSeconds)
    fun _ => rfl

------------------------------------------------------------
-- Activation
------------------------------------------------------------

/-- The `SET` list shared by pausing, resuming and disabling. -/
def SiteMonitor.withActive (now : Timestamp) (isActive : Bool) (monitor : SiteMonitor)
    : SiteMonitor :=
  { monitor with isActive, updatedAt := now }

/-- Sets `is_active` in the rows that meet a condition and returns those rows. -/
def setMonitorsActive (db : Database) (now : Timestamp) (condition : SiteMonitor → Bool)
    (isActive : Bool)
    : List SiteMonitor × Database :=
  ((db.siteMonitors.rows.filter condition).map (·.withActive now isActive),
    { db with
      siteMonitors := db.siteMonitors.update condition (·.withActive now isActive) })

/-- `WHERE id = $1 AND site_id = $2 AND monitor_type = …`. -/
def SiteMonitor.isAt (monitorType : SiteMonitorType) (siteId siteMonitorId : Int)
    (monitor : SiteMonitor)
    : Bool :=
  monitor.id = siteMonitorId && monitor.siteId = siteId && monitor.monitorType = monitorType

/-- Pauses one monitor of a type, whether or not it was active. -/
def pauseMonitorById (monitorType : SiteMonitorType) (db : Database) (now : Timestamp)
    (siteId siteMonitorId : Int)
    : List SiteMonitor × Database :=
  setMonitorsActive db now (·.isAt monitorType siteId siteMonitorId) false

/-- Resumes one monitor of a type, whether or not it was active. -/
def resumeMonitorById (monitorType : SiteMonitorType) (db : Database) (now : Timestamp)
    (siteId siteMonitorId : Int)
    : List SiteMonitor × Database :=
  setMonitorsActive db now (·.isAt monitorType siteId siteMonitorId) true

/-- Disables one monitor of a type; an inactive one is not matched. -/
def disableMonitorById (monitorType : SiteMonitorType) (db : Database) (now : Timestamp)
    (siteId siteMonitorId : Int)
    : List SiteMonitor × Database :=
  setMonitorsActive db now
    (fun monitor => monitor.isAt monitorType siteId siteMonitorId && monitor.isActive) false

/-- `WHERE site_id = $1 AND monitor_type = … AND is_active = TRUE`. -/
def SiteMonitor.isActiveOn (monitorType : SiteMonitorType) (siteId : Int)
    (monitor : SiteMonitor)
    : Bool :=
  monitor.siteId = siteId && monitor.monitorType = monitorType && monitor.isActive

/-- Disables every active monitor of a type on a site. -/
def disableMonitorsBySiteId (monitorType : SiteMonitorType) (db : Database) (now : Timestamp)
    (siteId : Int)
    : List SiteMonitor × Database :=
  setMonitorsActive db now (·.isActiveOn monitorType siteId) false

-- The source has one copy of each of these statements for every monitor type.
def pauseHttpMonitorById := pauseMonitorById .http
def pauseSslMonitorById := pauseMonitorById .ssl
def pauseHeartbeatMonitorById := pauseMonitorById .heartbeat
def pauseTcpMonitorById := pauseMonitorById .tcp
def pauseDnsMonitorById := pauseMonitorById .dns
def resumeHttpMonitorById := resumeMonitorById .http
def resumeSslMonitorById := resumeMonitorById .ssl
def resumeHeartbeatMonitorById := resumeMonitorById .heartbeat
def resumeTcpMonitorById := resumeMonitorById .tcp
def resumeDnsMonitorById := resumeMonitorById .dns
def disableHttpMonitorById := disableMonitorById .http
def disableSslMonitorById := disableMonitorById .ssl
def disableHeartbeatMonitorById := disableMonitorById .heartbeat
def disableTcpMonitorById := disableMonitorById .tcp
def disableDnsMonitorById := disableMonitorById .dns
def disableHttpMonitorsBySiteId := disableMonitorsBySiteId .http
def disableSslMonitorsBySiteId := disableMonitorsBySiteId .ssl
def disableHeartbeatMonitorsBySiteId := disableMonitorsBySiteId .heartbeat
def disableTcpMonitorsBySiteId := disableMonitorsBySiteId .tcp
def disableDnsMonitorsBySiteId := disableMonitorsBySiteId .dns

end AlonSentinel.Domain
