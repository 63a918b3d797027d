import AlonSentinel.Domain.Models

/-! The statements on `site_monitor_incidents` and `site_monitor_checks`. Inside a
transaction `now` is the instant at which the transaction began.
-/

namespace AlonSentinel.Domain

open KeyedTable

structure CreateMonitorCheckParams where
  monitorType : SiteMonitorType
  urlChecked : String
  expectedStatusCode : Option Int
  isSuccess : Bool
  statusCode : Option Int
  responseTimeMs : Option Int
  totalDurationMs : Option Int
  attemptCount : Int
  wasRetried : Bool
  failureReason : Option String
  errorMessage : Option String
  certificateExpiresAt : Option Timestamp
  certificateDaysRemaining : Option Int
  certificateIssuer : Option String
  certificateSubject : Option String
  certificateDomain : Option String

/-- The row that `create_site_monitor_check` inserts; `checked_at` defaults to `NOW()`. -/
def CreateMonitorCheckParams.row (params : CreateMonitorCheckParams) (now : Timestamp)
    (siteMonitorId id : Int)
    : SiteMonitorCheck :=
  { params with id, siteMonitorId, checkedAt := now }

def createSiteMonitorCheck (db : Database) (now : Timestamp) (siteMonitorId : Int)
    (params : CreateMonitorCheckParams)
    : SiteMonitorCheck × Database :=
  (params.row now siteMonitorId db.siteMonitorChecks.nextId,
    { db with
      siteMonitorChecks := db.siteMonitorChecks.insert (params.row now siteMonitorId) })

------------------------------------------------------------
-- Opening and carrying on an incident
------------------------------------------------------------

structure OpenIncidentParams where
  siteMonitorId : Int
  monitorType : SiteMonitorType
  targetUrl : String
  expectedStatusCode : Int
  checkId : Int
  checkedAt : Timestamp
  statusCode : Option Int
  failureReason : Option String
  errorMessage : Option String

/-- The row that `open_incident` inserts. -/
def OpenIncidentParams.row (params : OpenIncidentParams) (now : Timestamp) (siteId id : Int)
    : SiteMonitorIncident where
  id := id
  siteId := siteId
  siteMonitorId := params.siteMonitorId
  status := .opened
  openedAt := params.checkedAt
  resolvedAt := none
  openedCheckId := some params.checkId
  resolvedCheckId := none
  lastCheckId := some params.checkId
  monitorType := params.monitorType
  targetUrl := params.targetUrl
  expectedStatusCode := params.expectedStatusCode
  openedStatusCode := params.statusCode
  openedFailureReason := params.failureReason
  openedErrorMessage := params.errorMessage
  failureCount := 1
  lastCheckedAt := params.checkedAt
  lastStatusCode := params.statusCode
  lastFailureReason := params.failureReason
  lastErrorMessage := params.errorMessage
  resolvedReason := none
  resolvedStatusCode := none
  resolvedResponseTimeMs := none
  downtimeSeconds := none
  acknowledgedAt := none
  acknowledgedBy := none
  createdAt := now
  updatedAt := now

/-- `WHERE site_monitor_id = $1 AND status = 'open'`. -/
def SiteMonitorIncident.isOpenFor (siteMonitorId : Int) (incident : SiteMonitorIncident)
    : Bool :=
  incident.siteMonitorId = siteMonitorId && incident.isOpen

/-- Inserts an open incident; the unique index admits one per monitor. -/
def openIncident (db : Database) (now : Timestamp) (siteId : Int) (params : OpenIncidentParams)
    : Except DatabaseError (SiteMonitorIncident × Database) :=
  if db.siteMonitorIncidents.rows.any (·.isOpenFor params.siteMonitorId) then
    .error (.uniqueViolation "uq_site_monitor_incidents_one_open_per_monitor")
  else
    .ok (params.row now siteId db.siteMonitorIncidents.nextId,
      { db with
        siteMonitorIncidents := db.siteMonitorIncidents.insert (params.row now siteId) })

def getOpenIncidentForMonitor (db : Database) (siteMonitorId : Int)
    : Option SiteMonitorIncident :=
  db.siteMonitorIncidents.rows.find? (·.isOpenFor siteMonitorId)

/-- `WHERE id = $1 AND status = 'open'`. -/
def SiteMonitorIncident.isOpenAt (incidentId : Int) (incident : SiteMonitorIncident) : Bool :=
  incident.id = incidentId && incident.isOpen

structure IncidentFailureParams where
  checkId : Int
  checkedAt : Timestamp
  statusCode : Option Int
  failureReason : Option String
  errorMessage : Option String

/-- The `SET` list of `update_incident_failure`. -/
def SiteMonitorIncident.withFailure (now : Timestamp) (params : IncidentFailureParams)
    (incident : SiteMonitorIncident)
    : SiteMonitorIncident :=
  { incident with
    failureCount := incident.failureCount + 1
    lastCheckId := some params.checkId
    lastCheckedAt := params.checkedAt
    lastStatusCode := params.statusCode
    lastFailureReason := params.failureReason
    lastErrorMessage := params.errorMessage
    updatedAt := now }

/-- Counts a further failing check; the result tells whether the incident was still open. -/
def updateIncidentFailure (db : Database) (now : Timestamp) (incidentId : Int)
    (params : IncidentFailureParams)
    : Bool × Database :=
  (db.siteMonitorIncidents.rows.any (·.isOpenAt incidentId),
    { db with
      siteMonitorIncidents :=
        db.siteMonitorIncidents.update (·.isOpenAt incidentId) (·.withFailure now params) })

------------------------------------------------------------
-- Resolving and acknowledging
------------------------------------------------------------

structure ResolveIncidentParams where
  checkId : Int
  checkedAt : Timestamp
  statusCode : Option Int
  responseTimeMs : Option Int

/-- The `SET` list of `resolve_incident`. -/
def SiteMonitorIncident.withRecovery (now : Timestamp) (params : ResolveIncidentParams)
    (incident : SiteMonitorIncident)
    : SiteMonitorIncident :=
  { incident with
    status := .resolved
    resolvedAt := some params.checkedAt
    resolvedCheckId := some params.checkId
    lastCheckId := some params.checkId
    lastCheckedAt := params.checkedAt
    lastStatusCode := params.statusCode
    lastFailureReason := none
    lastErrorMessage := none
    resolvedReason := some .recovered
    resolvedStatusCode := params.statusCode
    resolvedResponseTimeMs := params.responseTimeMs
    downtimeSeconds := some (wholeSeconds (params.checkedAt - incident.openedAt))
    updatedAt := now }

/-- Resolves an incident by a successful check; the result tells whether it was still open. -/
def resolveIncident (db : Database) (now : Timestamp) (incidentId : Int)
    (params : ResolveIncidentParams)
    : Bool × Database :=
  (db.siteMonitorIncidents.rows.any (·.isOpenAt incidentId),
    { db with
      siteMonitorIncidents :=
        db.siteMonitorIncidents.update (·.isOpenAt incidentId) (·.withRecovery now params) })

/-- The `SET` list shared by the two statements that resolve without a check. -/
def SiteMonitorIncident.withResolution (now : Timestamp)
    (reason : SiteMonitorIncidentResolvedReason) (incident : SiteMonitorIncident)
    : SiteMonitorIncident :=
  { incident with
    status := .resolved
    resolvedAt := some now
    lastCheckedAt := now
    resolvedReason := some reason
    downtimeSeconds := some (wholeSeconds (now - incident.openedAt))
    updatedAt := now }

/-- Resolves the rows that meet a condition; the result counts them. -/
def resolveIncidentsWhere (db : Database) (now : Timestamp)
    (condition : SiteMonitorIncident → Bool) (reason : SiteMonitorIncidentResolvedReason)
    : Nat × Database :=
  (db.siteMonitorIncidents.rows.countP condition,
    { db with
      siteMonitorIncidents :=
        db.siteMonitorIncidents.update condition (·.withResolution now reason) })

def resolveOpenIncidentsForMonitor (db : Database) (now : Timestamp) (siteMonitorId : Int)
    (reason : SiteMonitorIncidentResolvedReason)
    : Nat × Database :=
  resolveIncidentsWhere db now (·.isOpenFor siteMonitorId) reason

/-- `WHERE site_id = $1 AND status = 'open'`. -/
def SiteMonitorIncident.isOpenOn (siteId : Int) (incident : SiteMonitorIncident) : Bool :=
  incident.siteId = siteId && incident.isOpen

def resolveOpenIncidentsForSite (db : Database) (now : Timestamp) (siteId : Int)
    (reason : SiteMonitorIncidentResolvedReason)
    : Nat × Database :=
  resolveIncidentsWhere db now (·.isOpenOn siteId) reason

/-- Stamps an incident as acknowledged, whatever its status. -/
def acknowledgeIncident (db : Database) (now : Timestamp) (incidentId siteId adminUserId : Int)
    : Option SiteMonitorIncident × Database :=
  let condition := fun incident : SiteMonitorIncident =>
    decide (incident.id = incidentId) && incident.siteId = siteId
  let set := fun incident : SiteMonitorIncident =>
    { incident with
      acknowledgedAt := some now
      acknowledgedBy := some adminUserId
      updatedAt := now }
  ((db.siteMonitorIncidents.rows.find? condition).map set,
    { db with siteMonitorIncidents := db.siteMonitorIncidents.update condition set })

end AlonSentinel.Domain
