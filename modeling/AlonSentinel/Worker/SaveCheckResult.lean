import AlonSentinel.Domain.SiteMonitorRepository
import AlonSentinel.Domain.SiteMonitorIncidentRepository
import AlonSentinel.Notifications.Enqueue

/-! The transaction that saves a completed check: it records the check, carries the incident
of the monitor on, queues notifications and gives the claim back, or changes nothing.
-/

namespace AlonSentinel.Worker

open Domain
open KeyedTable
open Notifications

structure CertificateMetadata where
  expiresAt : Timestamp
  daysRemaining : Int
  issuer : String
  subject : String
  domain : String
  deriving DecidableEq

structure CheckResult where
  isSuccess : Bool
  statusCode : Option Int
  responseTimeMs : Option Int
  failureReason : Option String
  errorMessage : Option String
  certificateMetadata : Option CertificateMetadata
  deriving DecidableEq

structure CompletedMonitorCheck where
  result : CheckResult
  attemptCount : Nat
  totalDurationMs : Int
  deriving DecidableEq

inductive IncidentAction where
  | openNew
  | updateExisting
  | reopenMissing
  | resolve
  | noAction
  deriving DecidableEq

def classifyIncidentAction (lastIsSuccess : Option Bool) (currentIsSuccess : Bool)
    (hasOpenIncident : Bool)
    : IncidentAction :=
  match lastIsSuccess, currentIsSuccess with
  | none, false | some true, false => .openNew
  | some false, false => if hasOpenIncident then .updateExisting else .reopenMissing
  | some false, true => if hasOpenIncident then .resolve else .noAction
  | _, _ => .noAction

/-- The columns of the check row that a completed check fills in. -/
def CompletedMonitorCheck.checkParams (siteMonitor : SiteMonitor)
    (completed : CompletedMonitorCheck)
    : CreateMonitorCheckParams where
  monitorType := siteMonitor.monitorType
  urlChecked := siteMonitor.targetUrl
  expectedStatusCode :=
    match siteMonitor.monitorType with
    | .http => some siteMonitor.expectedStatusCode
    | .ssl | .heartbeat | .tcp | .dns => none
  isSuccess := completed.result.isSuccess
  statusCode := completed.result.statusCode
  responseTimeMs := completed.result.responseTimeMs
  totalDurationMs := some completed.totalDurationMs
  attemptCount := completed.attemptCount
  wasRetried := completed.attemptCount > 1
  failureReason := completed.result.failureReason
  errorMessage := completed.result.errorMessage
  certificateExpiresAt := completed.result.certificateMetadata.map (·.expiresAt)
  certificateDaysRemaining := completed.result.certificateMetadata.map (·.daysRemaining)
  certificateIssuer := completed.result.certificateMetadata.map (·.issuer)
  certificateSubject := completed.result.certificateMetadata.map (·.subject)
  certificateDomain := completed.result.certificateMetadata.map (·.domain)

/-- The columns of the monitor row that a completed check sets. -/
def CompletedMonitorCheck.lastCheckParams (completed : CompletedMonitorCheck)
    : MonitorLastCheckParams where
  isSuccess := completed.result.isSuccess
  statusCode := completed.result.statusCode
  responseTimeMs := completed.result.responseTimeMs
  failureReason := completed.result.failureReason
  errorMessage := completed.result.errorMessage
  certificateExpiresAt := completed.result.certificateMetadata.map (·.expiresAt)
  certificateDaysRemaining := completed.result.certificateMetadata.map (·.daysRemaining)
  certificateIssuer := completed.result.certificateMetadata.map (·.issuer)
  certificateSubject := completed.result.certificateMetadata.map (·.subject)
  certificateDomain := completed.result.certificateMetadata.map (·.domain)

/-- The read with which `manage_incident_lifecycle` begins: the open incident is looked up
only when the claimed row says that the last check failed. -/
def lookupOpenIncident (db : Database) (siteMonitor : SiteMonitor)
    : Option SiteMonitorIncident :=
  if siteMonitor.lastIsSuccess = some false then getOpenIncidentForMonitor db siteMonitor.id
  else none

def openIncidentParams (siteMonitor : SiteMonitor) (check : SiteMonitorCheck)
    : OpenIncidentParams where
  siteMonitorId := siteMonitor.id
  monitorType := siteMonitor.monitorType
  targetUrl := siteMonitor.targetUrl
  expectedStatusCode := siteMonitor.expectedStatusCode
  checkId := check.id
  checkedAt := check.checkedAt
  statusCode := check.statusCode
  failureReason := check.failureReason
  errorMessage := check.errorMessage

def incidentFailureParams (check : SiteMonitorCheck) : IncidentFailureParams where
  checkId := check.id
  checkedAt := check.checkedAt
  statusCode := check.statusCode
  failureReason := check.failureReason
  errorMessage := check.errorMessage

def resolveIncidentParams (check : SiteMonitorCheck) : ResolveIncidentParams where
  checkId := check.id
  checkedAt := check.checkedAt
  statusCode := check.statusCode
  responseTimeMs := check.responseTimeMs

/-- The writes of `manage_incident_lifecycle`, given the open incident it looked up, which
another connection may have resolved since. -/
def manageIncidentLifecycle (db : Database) (now : Timestamp) (siteMonitor : SiteMonitor)
    (check : SiteMonitorCheck) (found : Option SiteMonitorIncident)
    : Except DatabaseError (Option Int × Database) :=
  match classifyIncidentAction siteMonitor.lastIsSuccess check.isSuccess found.isSome, found with
  | .openNew, _ | .reopenMissing, _ => do
      let (incident, opened) ←
        openIncident db now siteMonitor.siteId (openIncidentParams siteMonitor check)
      .ok (some incident.id, opened)
  | .updateExisting, some incident =>
      let (_, updated) := updateIncidentFailure db now incident.id (incidentFailureParams check)
      .ok (some incident.id, updated)
  | .resolve, some incident =>
      let (_, resolved) := resolveIncident db now incident.id (resolveIncidentParams check)
      .ok (some incident.id, resolved)
  -- An update or a resolution is decided only with an open incident at hand.
  | .updateExisting, none | .resolve, none | .noAction, _ => .ok (none, db)

/-- Why a save was rolled back. -/
inductive SaveError where
  | database (error : DatabaseError)
  | claimLost (message : String)
  deriving DecidableEq

/-- `save_check_result` from the lookup of the open incident on; the transaction began at
`startedAt`, and its effects become visible at once when it commits. -/
def saveCheckResult (db : Database) (startedAt : Timestamp) (siteMonitor : SiteMonitor)
    (workerId : String) (completed : CompletedMonitorCheck)
    (found : Option SiteMonitorIncident)
    : Except SaveError Database := do
  let (check, created) :=
    createSiteMonitorCheck db startedAt siteMonitor.id (completed.checkParams siteMonitor)
  let (incidentId, managed) ←
    (manageIncidentLifecycle created startedAt siteMonitor check found).mapError .database
  let (_, enqueued) ←
    (enqueueSiteMonitorNotifications managed startedAt siteMonitor check incidentId).mapError
      .database
  let (updated, saved) :=
    updateSiteMonitorLastCheck enqueued startedAt siteMonitor.id workerId
      completed.lastCheckParams
  if updated then
    .ok saved
  else
    .error (.claimLost ("worker " ++ workerId ++ " no longer owns site monitor "
      ++ toString siteMonitor.id ++ " while saving check result"))

/-- The check row that a save inserts. -/
def CompletedMonitorCheck.savedCheck (db : Database) (startedAt : Timestamp)
    (siteMonitor : SiteMonitor) (completed : CompletedMonitorCheck)
    : SiteMonitorCheck :=
  (completed.checkParams siteMonitor).row startedAt siteMonitor.id db.siteMonitorChecks.nextId

end AlonSentinel.Worker
