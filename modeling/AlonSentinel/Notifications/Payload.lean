import AlonSentinel.Domain.NotificationRepository

/-! The payload stored with a delivery: how a committed check is described, and how the
description is written to JSON when it is enqueued and read back when it is delivered.
-/

namespace AlonSentinel.Notifications

open Domain
open SerdeJson

------------------------------------------------------------
-- Instants as text
------------------------------------------------------------

/-- A natural number with at least `width` digits. -/
def padded (width : Nat) (value : Nat) : String :=
  let digits := toString value
  String.ofList (List.replicate (width - digits.length) '0') ++ digits

/-- The proleptic Gregorian date of a day counted from the Unix epoch. -/
def civilFromDays (days : Int) : Int × Nat × Nat :=
  -- Years start in March here, so that the leap day is the last day of a year.
  let shifted := days + 719468
  let era := shifted / 146097
  let dayOfEra := shifted % 146097
  let yearOfEra := (dayOfEra - dayOfEra / 1460 + dayOfEra / 36524 - dayOfEra / 146096) / 365
  let dayOfYear := dayOfEra - (365 * yearOfEra + yearOfEra / 4 - yearOfEra / 100)
  let month := (5 * dayOfYear + 2) / 153
  let day := dayOfYear - (153 * month + 2) / 5 + 1
  let calendarMonth := if month < 10 then month + 3 else month - 9
  let year := yearOfEra + era * 400 + (if calendarMonth ≤ 2 then 1 else 0)
  (year, calendarMonth.toNat, day.toNat)

/-- A year as `chrono` prints it: signed outside the four-digit range. -/
def yearText (year : Int) : String :=
  if 0 ≤ year ∧ year ≤ 9999 then padded 4 year.toNat
  else (if year < 0 then "-" else "+") ++ padded 4 year.natAbs

/-- The fraction of a second, printed with no, three or six digits. -/
def fractionText (micros : Nat) : String :=
  if micros = 0 then ""
  else if micros % 1000 = 0 then "." ++ padded 3 (micros / 1000)
  else "." ++ padded 6 micros

/-- `DateTime<Utc>::to_rfc3339`. -/
def toRfc3339 (instant : Timestamp) : String :=
  let micros := (instant % 1000000).toNat
  let secondOfDay := ((instant / 1000000) % 86400).toNat
  let (year, month, day) := civilFromDays (instant / 1000000 / 86400)
  yearText year ++ "-" ++ padded 2 month ++ "-" ++ padded 2 day
    ++ "T" ++ padded 2 (secondOfDay / 3600) ++ ":" ++ padded 2 (secondOfDay / 60 % 60)
    ++ ":" ++ padded 2 (secondOfDay % 60) ++ fractionText micros ++ "+00:00"

------------------------------------------------------------
-- Payload
------------------------------------------------------------

structure NotificationContext where
  siteId : Int
  siteName : String
  siteBaseUrl : String

/-- `load_notification_context`: the site of the monitor, which must exist. -/
def loadNotificationContext (db : Database) (siteId : Int)
    : Except DatabaseError NotificationContext :=
  match db.sites.find? siteId with
  | some site => .ok { siteId := site.id, siteName := site.name, siteBaseUrl := site.baseUrl }
  | none => .error .rowNotFound

structure NotificationSitePayload where
  id : Int
  name : String
  baseUrl : String

structure NotificationMonitorPayload where
  id : Int
  monitorType : String
  targetUrl : String
  expectedStatusCode : Int
  checkIntervalSeconds : Int

structure NotificationPreviousCheckPayload where
  checkedAt : Option String
  isSuccess : Option Bool
  statusCode : Option Int
  responseTimeMs : Option Int
  failureReason : Option String
  errorMessage : Option String

structure NotificationCurrentCheckPayload where
  id : Int
  checkedAt : String
  isSuccess : Bool
  statusCode : Option Int
  responseTimeMs : Option Int
  failureReason : Option String
  errorMessage : Option String

structure NotificationPayload where
  schemaVersion : Int
  eventType : NotificationEventType
  occurredAt : String
  summary : String
  emailSubject : String
  emailText : String
  site : NotificationSitePayload
  monitor : NotificationMonitorPayload
  previousCheck : NotificationPreviousCheckPayload
  currentCheck : NotificationCurrentCheckPayload

/-- `NOTIFICATION_PAYLOAD_SCHEMA_VERSION`, also the default of a payload without one. -/
def notificationPayloadSchemaVersion : Int := 1

/-- What the summary says between the site and the monitor. -/
def summaryPhrase : SiteMonitorType → NotificationEventType → String
  | .http, .failure => "' is DOWN for HTTP monitor "
  | .http, .recovery => "' recovered for HTTP monitor "
  | .ssl, .failure => "' has an SSL issue for monitor "
  | .ssl, .recovery => "' SSL monitor recovered for monitor "
  | .heartbeat, .failure => "' missed a heartbeat for monitor "
  | .heartbeat, .recovery => "' heartbeat monitor recovered for monitor "
  | .tcp, .failure => "' TCP port unreachable for monitor "
  | .tcp, .recovery => "' TCP port reachable again for monitor "
  | .dns, .failure => "' DNS check failed for monitor "
  | .dns, .recovery => "' DNS check recovered for monitor "

def buildSummary (context : NotificationContext) (siteMonitor : SiteMonitor)
    (eventType : NotificationEventType)
    : String :=
  "Site '" ++ context.siteName ++ summaryPhrase siteMonitor.monitorType eventType
    ++ toString siteMonitor.id ++ " (" ++ siteMonitor.targetUrl ++ ")"

def buildEmailSubject (context : NotificationContext) : NotificationEventType → String
  | .failure => "[Alon Sentinel] " ++ context.siteName ++ " is DOWN"
  | .recovery => "[Alon Sentinel] " ++ context.siteName ++ " recovered"

/-- The text of an optional value. -/
def orNotAvailable : Option String → String := (·.getD "n/a")

/-- A duration in milliseconds as text. -/
def millisText (value : Int) : String := toString value ++ " ms"

/-- The labelled lines of the email text between the base URL and the error. -/
def emailDetails (siteMonitor : SiteMonitor) (check : SiteMonitorCheck)
    : List (String × String) :=
  let occurredAt := ("Occurred at", toRfc3339 check.checkedAt)
  match siteMonitor.monitorType with
  | .http =>
      [("Monitor URL", siteMonitor.targetUrl),
        ("Expected status", toString siteMonitor.expectedStatusCode),
        occurredAt,
        ("Current status", orNotAvailable (check.statusCode.map toString)),
        ("Response time", orNotAvailable (check.responseTimeMs.map millisText))]
  | .ssl =>
      [("Monitor URL", siteMonitor.targetUrl),
        occurredAt,
        ("Certificate expires at", orNotAvailable (check.certificateExpiresAt.map toRfc3339)),
        ("Days remaining", orNotAvailable (check.certificateDaysRemaining.map toString)),
        ("Issuer", orNotAvailable check.certificateIssuer),
        ("Subject", orNotAvailable check.certificateSubject)]
  | .heartbeat =>
      [("Heartbeat path", siteMonitor.targetUrl),
        occurredAt,
        ("Last heartbeat received at",
          orNotAvailable (siteMonitor.lastHeartbeatReceivedAt.map toRfc3339))]
  | .tcp =>
      [("Host", orNotAvailable siteMonitor.tcpTargetHost),
        ("Port", orNotAvailable (siteMonitor.tcpTargetPort.map toString)),
        occurredAt,
        ("Connect time", orNotAvailable (check.responseTimeMs.map millisText))]
  | .dns =>
      [("Hostname", orNotAvailable siteMonitor.dnsHostname),
        ("Record type", orNotAvailable siteMonitor.dnsRecordType),
        ("Expected value", siteMonitor.dnsExpectedValue.getD "any"),
        occurredAt,
        ("Query time", orNotAvailable (check.responseTimeMs.map millisText))]

def buildEmailText (summary : String) (context : NotificationContext)
    (siteMonitor : SiteMonitor) (check : SiteMonitorCheck)
    : String :=
  let lines :=
    ("Site", context.siteName) :: ("Base URL", context.siteBaseUrl)
      :: emailDetails siteMonitor check ++ [("Error", orNotAvailable check.errorMessage)]
  summary ++ "\n\n" ++ String.join (lines.map fun line => line.1 ++ ": " ++ line.2 ++ "\n")

def buildPayload (context : NotificationContext) (siteMonitor : SiteMonitor)
    (check : SiteMonitorCheck) (eventType : NotificationEventType)
    : NotificationPayload :=
  let summary := buildSummary context siteMonitor eventType
  { schemaVersion := notificationPayloadSchemaVersion
    eventType
    occurredAt := toRfc3339 check.checkedAt
    summary
    emailSubject := buildEmailSubject context eventType
    emailText := buildEmailText summary context siteMonitor check
    site :=
      { id := context.siteId, name := context.siteName, baseUrl := context.siteBaseUrl }
    monitor :=
      { id := siteMonitor.id
        monitorType := siteMonitor.monitorType.asStr
        targetUrl := siteMonitor.targetUrl
        expectedStatusCode := siteMonitor.expectedStatusCode
        checkIntervalSeconds := siteMonitor.checkIntervalSeconds }
    previousCheck :=
      { checkedAt := siteMonitor.lastCheckedAt.map toRfc3339
        isSuccess := siteMonitor.lastIsSuccess
        statusCode := siteMonitor.lastStatusCode
        responseTimeMs := siteMonitor.lastResponseTimeMs
        failureReason := siteMonitor.lastFailureReason
        errorMessage := siteMonitor.lastErrorMessage }
    currentCheck :=
      { id := check.id
        checkedAt := toRfc3339 check.checkedAt
        isSuccess := check.isSuccess
        statusCode := check.statusCode
        responseTimeMs := check.responseTimeMs
        failureReason := check.failureReason
        errorMessage := check.errorMessage } }

------------------------------------------------------------
-- Writing to JSON and reading back
------------------------------------------------------------

def NotificationEventType.toJson : NotificationEventType → Value
  | .failure => .string "failure"
  | .recovery => .string "recovery"

def NotificationEventType.fromJson (value : Value) : Option NotificationEventType :=
  match value.readVariant with
  | some "failure" => some .failure
  | some "recovery" => some .recovery
  | _ => none

def NotificationSitePayload.toJson (site : NotificationSitePayload) : Value :=
  .object
    [("id", .ofInt site.id), ("name", .string site.name), ("base_url", .string site.baseUrl)]

def NotificationSitePayload.fromJson (value : Value) : Option NotificationSitePayload := do
  let source ← value.structFields ["id", "name", "base_url"]
  let id ← Value.required Value.readI64 source "id"
  let name ← Value.required Value.readString source "name"
  let baseUrl ← Value.required Value.readString source "base_url"
  return { id, name, baseUrl }

def NotificationMonitorPayload.toJson (monitor : NotificationMonitorPayload) : Value :=
  .object
    [("id", .ofInt monitor.id),
      ("monitor_type", .string monitor.monitorType),
      ("target_url", .string monitor.targetUrl),
      ("expected_status_code", .ofInt monitor.expectedStatusCode),
      ("check_interval_seconds", .ofInt monitor.checkIntervalSeconds)]

def NotificationMonitorPayload.fromJson (value : Value)
    : Option NotificationMonitorPayload := do
  let source ← value.structFields
    ["id", "monitor_type", "target_url", "expected_status_code", "check_interval_seconds"]
  let id ← Value.required Value.readI64 source "id"
  let monitorType ← Value.required Value.readString source "monitor_type"
  let targetUrl ← Value.required Value.readString source "target_url"
  let expectedStatusCode ← Value.required Value.readI32 source "expected_status_code"
  let checkIntervalSeconds ← Value.required Value.readI32 source "check_interval_seconds"
  return { id, monitorType, targetUrl, expectedStatusCode, checkIntervalSeconds }

def NotificationPreviousCheckPayload.toJson (check : NotificationPreviousCheckPayload) : Value :=
  .object
    [("checked_at", .ofOption .string check.checkedAt),
      ("is_success", .ofOption .bool check.isSuccess),
      ("status_code", .ofOption .ofInt check.statusCode),
      ("response_time_ms", .ofOption .ofInt check.responseTimeMs),
      ("failure_reason", .ofOption .string check.failureReason),
      ("error_message", .ofOption .string check.errorMessage)]

def NotificationPreviousCheckPayload.fromJson (value : Value)
    : Option NotificationPreviousCheckPayload := do
  let source ← value.structFields
    ["checked_at", "is_success", "status_code", "response_time_ms", "failure_reason",
      "error_message"]
  let checkedAt ← Value.optional Value.readString source "checked_at"
  let isSuccess ← Value.optional Value.readBool source "is_success"
  let statusCode ← Value.optional Value.readI32 source "status_code"
  let responseTimeMs ← Value.optional Value.readI32 source "response_time_ms"
  let failureReason ← Value.optional Value.readString source "failure_reason"
  let errorMessage ← Value.optional Value.readString source "error_message"
  return { checkedAt, isSuccess, statusCode, responseTimeMs, failureReason, errorMessage }

def NotificationCurrentCheckPayload.toJson (check : NotificationCurrentCheckPayload) : Value :=
  .object
    [("id", .ofInt check.id),
      ("checked_at", .string check.checkedAt),
      ("is_success", .bool check.isSuccess),
      ("status_code", .ofOption .ofInt check.statusCode),
      ("response_time_ms", .ofOption .ofInt check.responseTimeMs),
      ("failure_reason", .ofOption .string check.failureReason),
      ("error_message", .ofOption .string check.errorMessage)]

def NotificationCurrentCheckPayload.fromJson (value : Value)
    : Option NotificationCurrentCheckPayload := do
  let source ← value.structFields
    ["id", "checked_at", "is_success", "status_code", "response_time_ms", "failure_reason",
      "error_message"]
  let id ← Value.required Value.readI64 source "id"
  let checkedAt ← Value.required Value.readString source "checked_at"
  let isSuccess ← Value.required Value.readBool source "is_success"
  let statusCode ← Value.optional Value.readI32 source "status_code"
  let responseTimeMs ← Value.optional Value.readI32 source "response_time_ms"
  let failureReason ← Value.optional Value.readString source "failure_reason"
  let errorMessage ← Value.optional Value.readString source "error_message"
  return { id, checkedAt, isSuccess, statusCode, responseTimeMs, failureReason, errorMessage }

/-- `serde_json::to_value`. -/
def NotificationPayload.toJson (payload : NotificationPayload) : Value :=
  .object
    [("schema_version", .ofInt payload.schemaVersion),
      ("event_type", NotificationEventType.toJson payload.eventType),
      ("occurred_at", .string payload.occurredAt),
      ("summary", .string payload.summary),
      ("email_subject", .string payload.emailSubject),
      ("email_text", .string payload.emailText),
      ("site", payload.site.toJson),
      ("monitor", payload.monitor.toJson),
      ("previous_check", payload.previousCheck.toJson),
      ("current_check", payload.currentCheck.toJson)]

/-- `serde_json::from_value::<NotificationPayload>`. -/
def NotificationPayload.fromJson (value : Value) : Option NotificationPayload := do
  let source ← value.structFields
    ["schema_version", "event_type", "occurred_at", "summary", "email_subject", "email_text",
      "site", "monitor", "previous_check", "current_check"]
  let schemaVersion ←
    Value.defaulted notificationPayloadSchemaVersion Value.readI32 source "schema_version"
  let eventType ← Value.required NotificationEventType.fromJson source "event_type"
  let occurredAt ← Value.required Value.readString source "occurred_at"
  let summary ← Value.required Value.readString source "summary"
  let emailSubject ← Value.required Value.readString source "email_subject"
  let emailText ← Value.required Value.readString source "email_text"
  let site ← Value.required NotificationSitePayload.fromJson source "site"
  let monitor ← Value.required NotificationMonitorPayload.fromJson source "monitor"
  let previousCheck ←
    Value.required NotificationPreviousCheckPayload.fromJson source "previous_check"
  let currentCheck ←
    Value.required NotificationCurrentCheckPayload.fromJson source "current_check"
  return {
    schemaVersion, eventType, occurredAt, summary, emailSubject, emailText, site, monitor,
    previousCheck, currentCheck }

end AlonSentinel.Notifications
