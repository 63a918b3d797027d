import AlonSentinel.Foundation.KeyedTable
import AlonSentinel.Foundation.SerdeJson

/-! The stored rows: sites, their monitors, checks and incidents, and the notification
channels, overrides and deliveries. Field names follow the columns. Instants are microseconds
of the database clock since the Unix epoch, the resolution of `TIMESTAMPTZ`.
-/

namespace AlonSentinel.Domain

open KeyedTable

/-- An instant in microseconds. -/
abbrev Timestamp := Int

/-- A number of seconds as a difference of instants. -/
def seconds (count : Int) : Int := count * 1000000

/-- `EXTRACT(EPOCH FROM span)::INTEGER`: a span in whole seconds, halves away from zero. -/
def wholeSeconds (span : Int) : Int :=
  if 0 ≤ span then (span + 500000) / 1000000 else -((-span + 500000) / 1000000)

inductive SiteMonitorType where
  | http
  | ssl
  | heartbeat
  | tcp
  | dns
  deriving DecidableEq

def SiteMonitorType.asStr : SiteMonitorType → String
  | .http => "http"
  | .ssl => "ssl"
  | .heartbeat => "heartbeat"
  | .tcp => "tcp"
  | .dns => "dns"

structure HttpHeaderAssertion where
  name : String
  equals : Option String
  contains : Option String
  deriving DecidableEq

structure JsonPathValueAssertion where
  path : String
  value : SerdeJson.Value

structure Site where
  id : Int
  name : String
  baseUrl : String
  isActive : Bool
  createdAt : Timestamp
  updatedAt : Timestamp

/-- A monitor with its configuration, its claim and the outcome of its last check. -/
structure SiteMonitor where
  id : Int
  siteId : Int
  monitorType : SiteMonitorType
  targetUrl : String
  checkIntervalSeconds : Int
  expectedStatusCode : Int
  bodyMustContain : Option String
  bodyMustNotContain : Option String
  bodyMustContainTexts : Option (List String)
  bodyMustNotContainTexts : Option (List String)
  jsonPathExists : Option (List String)
  jsonPathEquals : Option (List JsonPathValueAssertion)
  jsonPathNotEquals : Option (List JsonPathValueAssertion)
  maxResponseTimeMs : Option Int
  requiredHeaderName : Option String
  requiredHeaderValue : Option String
  headerAssertions : Option (List HttpHeaderAssertion)
  sslCertificateChecksEnabled : Bool
  sslExpiryWarningDays : Option Int
  tcpTargetHost : Option String
  tcpTargetPort : Option Int
  dnsHostname : Option String
  dnsRecordType : Option String
  dnsExpectedValue : Option String
  dnsNameserver : Option String
  heartbeatToken : Option String
  heartbeatGraceSeconds : Option Int
  httpCheckTimeoutSecondsOverride : Option Int
  httpCheckMaxAttemptsOverride : Option Int
  httpCheckRetryDelaysMsOverride : Option (List Int)
  isActive : Bool
  checkClaimedAt : Option Timestamp
  checkLeaseUntil : Option Timestamp
  checkClaimedBy : Option String
  lastCheckedAt : Option Timestamp
  lastSuccessfulCheckAt : Option Timestamp
  lastIsSuccess : Option Bool
  lastStatusCode : Option Int
  lastResponseTimeMs : Option Int
  lastFailureReason : Option String
  lastErrorMessage : Option String
  lastHeartbeatReceivedAt : Option Timestamp
  lastCertificateExpiresAt : Option Timestamp
  lastCertificateDaysRemaining : Option Int
  lastCertificateIssuer : Option String
  lastCertificateSubject : Option String
  lastCertificateDomain : Option String
  createdAt : Timestamp
  updatedAt : Timestamp

/-- One committed check of a monitor. -/
structure SiteMonitorCheck where
  id : Int
  siteMonitorId : Int
  checkedAt : Timestamp
  monitorType : SiteMonitorType
  urlChecked : String
  expectedStatusCode : Option Int
  isSuccess : Bool
  statusCode : Option Int
  responseTimeMs : Option Int
  totalDurationMs : Option Int
  attemptCount : Int
  wasRetried : Bool
  failureReason : Option String
  errorMessage : Option String
  certificateExpiresAt : Option Timestamp
  certificateDaysRemaining : Option Int
  certificateIssuer : Option String
  certificateSubject : Option String
  certificateDomain : Option String
  deriving DecidableEq

-- `open` is a keyword; `opened` is the source's `Open`.
inductive SiteMonitorIncidentStatus where
  | opened
  | resolved
  deriving DecidableEq

inductive SiteMonitorIncidentResolvedReason where
  | recovered
  | monitoringDisabled
  | siteDeactivated
  deriving DecidableEq

/-- A period during which a monitor failed. -/
structure SiteMonitorIncident where
  id : Int
  siteId : Int
  siteMonitorId : Int
  status : SiteMonitorIncidentStatus
  openedAt : Timestamp
  resolvedAt : Option Timestamp
  openedCheckId : Option Int
  resolvedCheckId : Option Int
  lastCheckId : Option Int
  monitorType : SiteMonitorType
  targetUrl : String
  expectedStatusCode : Int
  openedStatusCode : Option Int
  openedFailureReason : Option String
  openedErrorMessage : Option String
  failureCount : Int
  lastCheckedAt : Timestamp
  lastStatusCode : Option Int
  lastFailureReason : Option String
  lastErrorMessage : Option String
  resolvedReason : Option SiteMonitorIncidentResolvedReason
  resolvedStatusCode : Option Int
  resolvedResponseTimeMs : Option Int
  downtimeSeconds : Option Int
  acknowledgedAt : Option Timestamp
  acknowledgedBy : Option Int
  createdAt : Timestamp
  updatedAt : Timestamp
  deriving DecidableEq

/-- Whether an incident row is matched by `status = 'open'`. -/
def SiteMonitorIncident.isOpen (incident : SiteMonitorIncident) : Bool :=
  incident.status = .opened

inductive NotificationChannelType where
  | webhook
  | email
  | slack
  | discord
  deriving DecidableEq

/-- A destination for notifications with its default subscriptions. -/
structure NotificationChannel where
  id : Int
  channelType : NotificationChannelType
  name : String
  destination : String
  webhookSecretCiphertext : Option String
  notifyOnFailure : Bool
  notifyOnRecovery : Bool
  isActive : Bool
  createdAt : Timestamp
  updatedAt : Timestamp

/-- A site's own settings for a channel; `none` keeps the channel's default. -/
structure SiteNotificationChannelOverride where
  id : Int
  siteId : Int
  notificationChannelId : Int
  notifyOnFailure : Option Bool
  notifyOnRecovery : Option Bool
  isActive : Option Bool
  createdAt : Timestamp
  updatedAt : Timestamp

/-- The unique key `(site_id, notification_channel_id)` of an override. -/
def SiteNotificationChannelOverride.pair (row : SiteNotificationChannelOverride) : Int × Int :=
  (row.siteId, row.notificationChannelId)

inductive NotificationEventType where
  | failure
  | recovery
  deriving DecidableEq

inductive NotificationDeliveryStatus where
  | pending
  | delivered
  | failed
  deriving DecidableEq

/-- One notification queued for one channel. -/
structure NotificationDelivery where
  id : Int
  notificationChannelId : Int
  siteMonitorId : Int
  siteMonitorCheckId : Int
  incidentId : Option Int
  eventType : NotificationEventType
  payload : SerdeJson.Value
  status : NotificationDeliveryStatus
  attempts : Int
  nextAttemptAt : Option Timestamp
  claimedAt : Option Timestamp
  leaseUntil : Option Timestamp
  claimedBy : Option String
  deliveredAt : Option Timestamp
  lastError : Option String
  createdAt : Timestamp
  updatedAt : Timestamp

/-- What makes a statement fail; a failed statement changes nothing. -/
inductive DatabaseError where
  | uniqueViolation (constraint : String)
  | checkViolation (constraint : String)
  | foreignKeyViolation
  | rowNotFound
  deriving DecidableEq

/-- The tables the monitoring and notification code works on. -/
structure Database where
  sites : SerialTable Site Site.id
  siteMonitors : SerialTable SiteMonitor SiteMonitor.id
  siteMonitorChecks : SerialTable SiteMonitorCheck SiteMonitorCheck.id
  siteMonitorIncidents : SerialTable SiteMonitorIncident SiteMonitorIncident.id
  notificationChannels : SerialTable NotificationChannel NotificationChannel.id
  siteNotificationChannelOverrides
    : Table SiteNotificationChannelOverride SiteNotificationChannelOverride.pair
  notificationDeliveries : SerialTable NotificationDelivery NotificationDelivery.id

/-- A freshly migrated database. -/
def Database.empty : Database where
  sites := .empty
  siteMonitors := .empty
  siteMonitorChecks := .empty
  siteMonitorIncidents := .empty
  notificationChannels := .empty
  siteNotificationChannelOverrides := .empty
  notificationDeliveries := .empty

end AlonSentinel.Domain
