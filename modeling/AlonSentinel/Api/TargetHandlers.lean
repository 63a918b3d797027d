import AlonSentinel.Api.MonitorPayloads
import AlonSentinel.Api.SiteHandlers

/-! The handlers that upsert and update TCP and DNS monitors, past authentication. Their target is
stored twice, as a text for the unique key and in columns of its own.
-/

namespace AlonSentinel.Api

open Domain
open MachineInteger
open Monitoring
open UnicodeText

------------------------------------------------------------
-- Responses
------------------------------------------------------------

/-- A TCP monitor in a response, before its instants are printed. -/
structure TcpSiteMonitorResponse where
  id : Int
  siteId : Int
  monitorType : String
  targetHost : String
  targetPort : Int
  checkIntervalSeconds : Int
  maxConnectTimeMs : Option Int
  timeoutSecondsOverride : Option Int
  maxAttemptsOverride : Option Int
  retryDelaysMsOverride : Option (List Int)
  isActive : Bool
  lastCheckedAt : Option Timestamp
  lastSuccessfulCheckAt : Option Timestamp
  lastIsSuccess : Option Bool
  lastResponseTimeMs : Option Int
  lastFailureReason : Option String
  lastErrorMessage : Option String
  createdAt : Timestamp
  updatedAt : Timestamp
  deriving DecidableEq

def TcpSiteMonitorResponse.fromSiteMonitor (monitor : SiteMonitor) : TcpSiteMonitorResponse where
  id := monitor.id
  siteId := monitor.siteId
  monitorType := "tcp"
  targetHost := monitor.tcpTargetHost.getD ""
  targetPort := monitor.tcpTargetPort.getD 0
  checkIntervalSeconds := monitor.checkIntervalSeconds
  maxConnectTimeMs := monitor.maxResponseTimeMs
  timeoutSecondsOverride := monitor.httpCheckTimeoutSecondsOverride
  maxAttemptsOverride := monitor.httpCheckMaxAttemptsOverride
  retryDelaysMsOverride := monitor.httpCheckRetryDelaysMsOverride
  isActive := monitor.isActive
  lastCheckedAt := monitor.lastCheckedAt
  lastSuccessfulCheckAt := monitor.lastSuccessfulCheckAt
  lastIsSuccess := monitor.lastIsSuccess
  lastResponseTimeMs := monitor.lastResponseTimeMs
  lastFailureReason := monitor.lastFailureReason
  lastErrorMessage := monitor.lastErrorMessage
  createdAt := monitor.createdAt
  updatedAt := monitor.updatedAt

/-- A DNS monitor in a response, before its instants are printed. -/
structure DnsSiteMonitorResponse where
  id : Int
  siteId : Int
  monitorType : String
  hostname : String
  recordType : String
  expectedValue : Option String
  nameserver : Option String
  checkIntervalSeconds : Int
  timeoutSecondsOverride : Option Int
  maxAttemptsOverride : Option Int
  retryDelaysMsOverride : Option (List Int)
  isActive : Bool
  lastCheckedAt : Option Timestamp
  lastSuccessfulCheckAt : Option Timestamp
  lastIsSuccess : Option Bool
  lastResponseTimeMs : Option Int
  lastFailureReason : Option String
  lastErrorMessage : Option String
  createdAt : Timestamp
  updatedAt : Timestamp
  deriving DecidableEq

def DnsSiteMonitorResponse.fromSiteMonitor (monitor : SiteMonitor) : DnsSiteMonitorResponse where
  id := monitor.id
  siteId := monitor.siteId
  monitorType := "dns"
  hostname := monitor.dnsHostname.getD ""
  recordType := monitor.dnsRecordType.getD ""
  expectedValue := monitor.dnsExpectedValue
  nameserver := monitor.dnsNameserver
  checkIntervalSeconds := monitor.checkIntervalSeconds
  timeoutSecondsOverride := monitor.httpCheckTimeoutSecondsOverride
  maxAttemptsOverride := monitor.httpCheckMaxAttemptsOverride
  retryDelaysMsOverride := monitor.httpCheckRetryDelaysMsOverride
  isActive := monitor.isActive
  lastCheckedAt := monitor.lastCheckedAt
  lastSuccessfulCheckAt := monitor.lastSuccessfulCheckAt
  lastIsSuccess := monitor.lastIsSuccess
  lastResponseTimeMs := monitor.lastResponseTimeMs
  lastFailureReason := monitor.lastFailureReason
  lastErrorMessage := monitor.lastErrorMessage
  createdAt := monitor.createdAt
  updatedAt := monitor.updatedAt

------------------------------------------------------------
-- Handlers
------------------------------------------------------------

/-- What an upsert answers once its payload is accepted. Its lookups were made in `lookedUp`; others
may have written since.
-/
def answerUpsert {Response : Type} (respond : SiteMonitor → Response) (lookedUp : Database)
    (siteId : Int) (isActive : Bool) (upserted : Except DatabaseError (SiteMonitor × Database))
    : Except ApiError (Response × Started) :=
  if (lookedUp.sites.find? siteId).isNone then
    .error (.notFound "site not found")
  else
    match upserted with
    | .error _ => .error (.internal internalServerErrorMessage)
    | .ok (monitor, db) =>
        .ok (respond monitor,
          { db, pending := if isActive then none else some (monitorStopped monitor.id) })

/-- What an update answers once its payload is accepted, with the monitor that had the target when
it was looked up.
-/
def answerUpdate {Response : Type} (respond : SiteMonitor → Response) (taken missing : String)
    (lookedUp : Database) (siteId siteMonitorId : Int) (existing : Option SiteMonitor)
    (isActive : Bool) (updated : Except DatabaseError (Option SiteMonitor × Database))
    : Except ApiError (Response × Started) :=
  if (lookedUp.sites.find? siteId).isNone then
    .error (.notFound "site not found")
  else if existing.any (·.id != siteMonitorId) then
    .error (.badRequest taken)
  else
    match updated with
    | .error _ => .error (.internal internalServerErrorMessage)
    | .ok (none, _) => .error (.notFound missing)
    | .ok (some monitor, db) =>
        .ok (respond monitor,
          { db, pending := if isActive then none else some (monitorStopped siteMonitorId) })

def upsertTcpSiteMonitor (lookupHost : LookupHost) (lookedUp db : Database) (now : Timestamp)
    (siteId : Int) (payload : UpsertTcpSiteMonitorRequest)
    : Except ApiError (TcpSiteMonitorResponse × Started) := do
  let retryDelays ← validateAndNormalizeTcpMonitorPayload payload
  validateTcpTarget lookupHost (trim payload.targetHost) payload.targetPort
  answerUpsert .fromSiteMonitor lookedUp siteId payload.isActive
    (upsertTcpMonitorBySiteIdAndHostPort db now siteId (payload.params retryDelays))

def updateTcpSiteMonitor (lookupHost : LookupHost) (lookedUp db : Database) (now : Timestamp)
    (siteId siteMonitorId : Int) (payload : UpsertTcpSiteMonitorRequest)
    : Except ApiError (TcpSiteMonitorResponse × Started) := do
  let retryDelays ← validateAndNormalizeTcpMonitorPayload payload
  validateTcpTarget lookupHost (trim payload.targetHost) payload.targetPort
  answerUpdate .fromSiteMonitor
    "target_host:target_port already exists for another tcp monitor on this site"
    "tcp monitor not found" lookedUp siteId siteMonitorId
    (getTcpMonitorBySiteIdAndHostPort lookedUp siteId (trim payload.targetHost)
      payload.targetPort.toNat)
    payload.isActive
    (updateTcpSiteMonitorById db now siteId siteMonitorId (payload.params retryDelays))

def upsertDnsSiteMonitor (toUppercase : String → String) (lookedUp db : Database)
    (now : Timestamp) (siteId : Int) (payload : UpsertDnsSiteMonitorRequest)
    : Except ApiError (DnsSiteMonitorResponse × Started) := do
  let retryDelays ← validateAndNormalizeDnsMonitorPayload toUppercase payload
  answerUpsert .fromSiteMonitor lookedUp siteId payload.isActive
    (upsertDnsMonitorBySiteIdAndHostnameRecordType db now siteId
      (payload.params toUppercase retryDelays))

def updateDnsSiteMonitor (toUppercase : String → String) (lookedUp db : Database)
    (now : Timestamp) (siteId siteMonitorId : Int) (payload : UpsertDnsSiteMonitorRequest)
    : Except ApiError (DnsSiteMonitorResponse × Started) := do
  let retryDelays ← validateAndNormalizeDnsMonitorPayload toUppercase payload
  answerUpdate .fromSiteMonitor
    "hostname+record_type already exists for another dns monitor on this site"
    "dns monitor not found" lookedUp siteId siteMonitorId
    (getDnsMonitorBySiteIdAndHostnameRecordType lookedUp siteId (trim payload.hostname)
      (toUppercase (trim payload.recordType)))
    payload.isActive
    (updateDnsSiteMonitorById db now siteId siteMonitorId (payload.params toUppercase retryDelays))

------------------------------------------------------------
-- What a handler that succeeds did
------------------------------------------------------------

section Answers

variable {Response : Type} {respond : SiteMonitor → Response} {lookedUp : Database} {siteId : Int}
  {isActive : Bool} {response : Response} {started : Started}

theorem answerUpsert_ok {upserted : Except DatabaseError (SiteMonitor × Database)}
    (answered
      : answerUpsert respond lookedUp siteId isActive upserted = .ok (response, started))
    : ∃ monitor,
        upserted = .ok (monitor, started.db)
        ∧ response = respond monitor
        ∧ startUpsert isActive upserted = .ok started := by
  unfold answerUpsert at answered
  split at answered
  · cases answered
  · split at answered
    · cases answered
    · cases answered
      exact ⟨_, rfl, rfl, rfl⟩

theorem answerUpdate_ok {taken missing : String} {siteMonitorId : Int}
    {existing : Option SiteMonitor}
    {updated : Except DatabaseError (Option SiteMonitor × Database)}
    (answered
      : answerUpdate respond taken missing lookedUp siteId siteMonitorId existing isActive updated
        = .ok (response, started))
    : ∃ monitor,
        updated = .ok (some monitor, started.db)
        ∧ response = respond monitor
        ∧ (monitor.id = siteMonitorId → startUpdate isActive updated = .ok started) := by
  unfold answerUpdate at answered
  split at answered
  · cases answered
  · split at answered
    · cases answered
    · split at answered
      · cases answered
      · cases answered
      · cases answered
        refine ⟨_, rfl, rfl, ?_⟩
        rintro rfl
        rfl

/-- An upsert whose statement succeeds is answered, if its site was found. -/
theorem answerUpsert_done {upserted : Except DatabaseError (SiteMonitor × Database)}
    (siteExists : (lookedUp.sites.find? siteId).isSome = true)
    (done : ∃ row after, upserted = .ok (row, after))
    : ∃ response started,
        answerUpsert respond lookedUp siteId isActive upserted = .ok (response, started) := by
  obtain ⟨row, after, rfl⟩ := done
  unfold answerUpsert
  rw [if_neg (by simpa [← Option.isSome_iff_ne_none] using siteExists)]
  exact ⟨_, _, rfl⟩

/-- An update whose statement sets a row is answered, if its site was found and no other monitor
was found with the target.
-/
theorem answerUpdate_done {taken missing : String} {siteMonitorId : Int}
    {existing : Option SiteMonitor}
    {updated : Except DatabaseError (Option SiteMonitor × Database)}
    (siteExists : (lookedUp.sites.find? siteId).isSome = true)
    (free : ∀ other ∈ existing, other.id = siteMonitorId)
    (done : ∃ row after, updated = .ok (some row, after))
    : ∃ response started,
        answerUpdate respond taken missing lookedUp siteId siteMonitorId existing isActive updated
        = .ok (response, started) := by
  obtain ⟨row, after, rfl⟩ := done
  have notTaken : ¬existing.any (·.id != siteMonitorId) = true := by
    rw [Option.any_eq_true]
    rintro ⟨other, isOther, differs⟩
    exact bne_iff_ne.mp differs (free other isOther)
  unfold answerUpdate
  rw [if_neg (by simpa [← Option.isSome_iff_ne_none] using siteExists), if_neg notTaken]
  exact ⟨_, _, rfl⟩

end Answers

end AlonSentinel.Api
