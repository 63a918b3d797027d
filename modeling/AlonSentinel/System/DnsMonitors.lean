import AlonSentinel.Api.MonitorPayloads
import AlonSentinel.Foundation.Fallible
import AlonSentinel.Foundation.SeparatedText
import AlonSentinel.System.TransientFailures
import AlonSentinel.System.World

/-! DNS monitors from their payload to their check. A validator accepts the payload, a handler
stores it, and the worker reads the record type and the nameserver of the row again.
-/

namespace AlonSentinel.System

open Api
open Domain
open Monitoring
open SeparatedText
open UnicodeText
open Worker

------------------------------------------------------------
-- Record types
------------------------------------------------------------

/-- The name of a record type, as rows have it. -/
def recordTypeName : RecordType → String
  | .a => "A"
  | .aaaa => "AAAA"
  | .cname => "CNAME"
  | .mx => "MX"
  | .txt => "TXT"
  | .ns => "NS"

/-- Upper-case ASCII letters have no other upper case. -/
def KeepsUppercase (toUppercase : String → String) : Prop :=
  ∀ text, text.toList.all Char.isUpper = true → toUppercase text = text

variable {toUppercase : String → String}

theorem parseRecordType_eq_ok {text : String} {recordType : RecordType}
    : parseRecordType toUppercase text = .ok recordType
      ↔ toUppercase text = recordTypeName recordType := by
  unfold parseRecordType
  constructor
  · intro parsed
    split at parsed <;> cases parsed <;> assumption
  · intro isName
    rw [isName]
    cases recordType <;> rfl

/-- What a handler stores of an accepted type is parsed to the same type. -/
theorem parseRecordType_name (keeps : KeepsUppercase toUppercase) (recordType : RecordType)
    : parseRecordType toUppercase (recordTypeName recordType) = .ok recordType := by
  refine parseRecordType_eq_ok.mpr (keeps _ ?_)
  cases recordType <;> decide

theorem slash_not_mem_recordTypeName (recordType : RecordType)
    : '/' ∉ (recordTypeName recordType).toList := by
  cases recordType <;> decide

/-- A target names one record: no type has a slash, so that the last one ends the hostname. -/
theorem dnsTarget_inj {hostname other : String} {recordType otherType : RecordType}
    (same
      : "dns://" ++ hostname ++ "/" ++ recordTypeName recordType
        = "dns://" ++ other ++ "/" ++ recordTypeName otherType)
    : hostname = other ∧ recordTypeName recordType = recordTypeName otherType := by
  obtain ⟨hosts, names⟩ := text_inj (slash_not_mem_recordTypeName recordType)
    (slash_not_mem_recordTypeName otherType) same
  exact ⟨(String.append_right_inj _).mp hosts, names⟩

------------------------------------------------------------
-- Stored monitors
------------------------------------------------------------

/-- A handler stores an accepted payload: the row that it answers, and the database behind it. -/
inductive StoresDns (toUppercase : String → String) (payload : UpsertDnsSiteMonitorRequest)
    (db : Database) (row : SiteMonitor) (after : Database)
    : Prop where
  | upserted {retryDelays : Option (List Int)} {now : Timestamp} {siteId : Int}
      (accepted : validateAndNormalizeDnsMonitorPayload toUppercase payload = .ok retryDelays)
      (done
        : upsertDnsMonitorBySiteIdAndHostnameRecordType db now siteId
            (payload.params toUppercase retryDelays)
          = .ok (row, after))
  | updated {retryDelays : Option (List Int)} {now : Timestamp} {siteId monitorId : Int}
      (accepted : validateAndNormalizeDnsMonitorPayload toUppercase payload = .ok retryDelays)
      (done
        : updateDnsSiteMonitorById db now siteId monitorId
            (payload.params toUppercase retryDelays)
          = .ok (some row, after))

/-- Two rows of one record and one nameserver. -/
structure SameRecord (monitor other : SiteMonitor) : Prop where
  monitorType : monitor.monitorType = other.monitorType
  targetUrl : monitor.targetUrl = other.targetUrl
  hostname : monitor.dnsHostname = other.dnsHostname
  recordType : monitor.dnsRecordType = other.dnsRecordType

/-- The databases whose DNS monitors were stored by the handlers. Every other statement of the
program leaves the records of DNS monitors as they are.
-/
inductive DnsHistory (toUppercase : String → String) : Database → Prop where
  | fresh {db : Database}
      (none : ∀ monitor ∈ db.siteMonitors.rows, monitor.monitorType ≠ .dns)
      : DnsHistory toUppercase db
  | stored {payload : UpsertDnsSiteMonitorRequest} {db after : Database} {row : SiteMonitor}
      (history : DnsHistory toUppercase db) (stores : StoresDns toUppercase payload db row after)
      : DnsHistory toUppercase after
  | other {db after : Database} (history : DnsHistory toUppercase db)
      (keeps
        : ∀ monitor ∈ after.siteMonitors.rows,
            monitor.monitorType = .dns
            → ∃ before ∈ db.siteMonitors.rows, SameRecord monitor before)
      : DnsHistory toUppercase after

/-- The record of a row is that of its target. -/
def NamesRecord (monitor : SiteMonitor) (hostname : String) (recordType : RecordType) : Prop :=
  monitor.targetUrl = "dns://" ++ hostname ++ "/" ++ recordTypeName recordType
  ∧ monitor.dnsHostname = some hostname
  ∧ monitor.dnsRecordType = some (recordTypeName recordType)

def DnsMonitorsNamed (db : Database) : Prop :=
  ∀ monitor ∈ db.siteMonitors.rows,
    monitor.monitorType = .dns → ∃ hostname recordType, NamesRecord monitor hostname recordType

/-- What the validator makes sure of. -/
structure AcceptedDns (toUppercase : String → String) (payload : UpsertDnsSiteMonitorRequest)
    (recordType : RecordType)
    : Prop where
  recordType : toUppercase (trim payload.recordType) = recordTypeName recordType
  nameserver : ∀ ns ∈ payload.nameserver, ∃ ip, IpAddress.IpAddr.parse (trim ns) = some ip
  timeout : payload.timeoutSecondsOverride ≠ some 0
  attempts : payload.maxAttemptsOverride ≠ some 0

theorem acceptedDns {payload : UpsertDnsSiteMonitorRequest} {retryDelays : Option (List Int)}
    (accepted : validateAndNormalizeDnsMonitorPayload toUppercase payload = .ok retryDelays)
    : (∃ recordType, AcceptedDns toUppercase payload recordType)
      ∧ retryDelays = storedRetryDelays payload.retryDelaysMsOverride := by
  unfold validateAndNormalizeDnsMonitorPayload at accepted
  simp only [rejectIf_bind] at accepted
  obtain ⟨_, isType, _, timeout, attempts, nameserver, ⟨⟩⟩ := accepted
  refine ⟨?_, rfl⟩
  cases parsed : parseRecordType toUppercase (trim payload.recordType) with
  | error error => simp [isValidRecordType, parsed, Except.isOk, Except.toBool] at isType
  | ok recordType =>
      refine ⟨recordType, parseRecordType_eq_ok.mp parsed, ?_, by simpa using timeout,
        by simpa using attempts⟩
      intro ns isGiven
      rw [Option.mem_def.mp isGiven] at nameserver
      simpa [Option.isSome_iff_exists, ← Option.isSome_iff_ne_none] using nameserver

/-- The columns of a stored row that the check of its record reads. -/
structure CarriesDns (toUppercase : String → String) (payload : UpsertDnsSiteMonitorRequest)
    (recordType : RecordType) (row : SiteMonitor)
    : Prop where
  accepted : AcceptedDns toUppercase payload recordType
  isDns : row.monitorType = .dns
  record : NamesRecord row (trim payload.hostname) recordType
  expectedValue : row.dnsExpectedValue = payload.expectedValue
  nameserver : row.dnsNameserver = payload.nameserver

theorem StoresDns.carries {payload : UpsertDnsSiteMonitorRequest} {db after : Database}
    {row : SiteMonitor} (stores : StoresDns toUppercase payload db row after)
    (named : DnsMonitorsNamed db)
    : (∃ recordType, CarriesDns toUppercase payload recordType row)
      ∧ ∀ monitor ∈ after.siteMonitors.rows, monitor ∈ db.siteMonitors.rows ∨ monitor = row := by
  cases stores with
  | upserted accepted done =>
      obtain ⟨⟨recordType, isAccepted⟩, _⟩ := acceptedDns accepted
      obtain ⟨source, rows⟩ := upsertSiteMonitor_source done
      refine ⟨⟨recordType, ?_⟩, rows⟩
      have isType := isAccepted.recordType
      rcases source with ⟨id, rfl⟩ | ⟨stored, isStored, isTarget, rfl⟩
      · refine ⟨isAccepted, rfl, ⟨?_, rfl, congrArg some isType⟩, rfl, rfl⟩
        exact congrArg ("dns://" ++ trim payload.hostname ++ "/" ++ ·) isType
      · -- The stored row has the same target, and so the same record.
        simp only [SiteMonitor.isTarget, Bool.and_eq_true, decide_eq_true_eq] at isTarget
        obtain ⟨⟨_, isDns⟩, isUrl⟩ := isTarget
        obtain ⟨hostname, storedType, url, isHost, isStoredType⟩ := named stored isStored isDns
        have sameTarget
            : "dns://" ++ trim payload.hostname ++ "/" ++ recordTypeName recordType
              = "dns://" ++ hostname ++ "/" ++ recordTypeName storedType := by
          rw [← isType, ← url, isUrl]
          rfl
        obtain ⟨sameHost, sameType⟩ := dnsTarget_inj sameTarget
        refine ⟨isAccepted, isDns, ⟨url.trans sameTarget.symm, ?_, ?_⟩, rfl, rfl⟩
        · exact isHost.trans (congrArg some sameHost.symm)
        · exact isStoredType.trans (congrArg some sameType.symm)
  | updated accepted done =>
      obtain ⟨⟨recordType, isAccepted⟩, _⟩ := acceptedDns accepted
      obtain ⟨⟨stored, isStored, isDns, rfl⟩, rows⟩ := updateSiteMonitorById_source done
      have isType := isAccepted.recordType
      refine ⟨⟨recordType, isAccepted, isDns, ⟨?_, rfl, congrArg some isType⟩, rfl, rfl⟩, rows⟩
      exact congrArg ("dns://" ++ trim payload.hostname ++ "/" ++ ·) isType

/-- Every DNS monitor of a history names its record, by induction over the history. -/
theorem DnsHistory.named {db : Database} (history : DnsHistory toUppercase db)
    : DnsMonitorsNamed db := by
  induction history with
  | fresh none => exact fun monitor member isDns => absurd isDns (none monitor member)
  | stored _ stores named =>
      obtain ⟨⟨recordType, carries⟩, rows⟩ := stores.carries named
      intro monitor member isDns
      rcases rows monitor member with before | rfl
      · exact named monitor before isDns
      · exact ⟨_, recordType, carries.record⟩
  | other _ keeps named =>
      intro monitor member isDns
      obtain ⟨before, isBefore, same⟩ := keeps monitor member isDns
      obtain ⟨hostname, recordType, url, isHost, isType⟩ :=
        named before isBefore (same.monitorType.symm.trans isDns)
      exact ⟨hostname, recordType, same.targetUrl.trans url, same.hostname.trans isHost,
        same.recordType.trans isType⟩

------------------------------------------------------------
-- The check of a stored monitor
------------------------------------------------------------

/-- The nameserver of a payload may be asked. -/
def HasPublicNameserver (payload : UpsertDnsSiteMonitorRequest) : Prop :=
  ∀ ns ∈ payload.nameserver,
    ∀ ip, IpAddress.IpAddr.parse (trim ns) = some ip → checkIpIsPublic ip = true

section Check

variable {Certificate : Type} {libraries : CheckerLibraries Certificate}
  {policy : ResolvedMonitorCheckPolicy} {payload : UpsertDnsSiteMonitorRequest}
  {recordType : RecordType} {row : SiteMonitor} {run : MonitorCheckRun Certificate}

/-- The check of a stored row asks for what its payload says. -/
theorem checkMonitor_of_carriesDns (keeps : KeepsUppercase libraries.toUppercase)
    (carries : CarriesDns libraries.toUppercase payload recordType row)
    : checkMonitor libraries policy row run
      = match buildResolver payload.nameserver true run.dns.build with
        | .error error => plainFailure run.dns.elapsedMs ⟨"config_error", error⟩
        | .ok () =>
            match run.dns.lookup (trim payload.hostname) recordType with
            | .error error => plainFailure run.dns.elapsedMs ⟨"lookup_error", error⟩
            | .ok answers =>
                match evaluateRecords (dnsCheckParams row) (answers.filterMap rdataToString) with
                | some failure => plainFailure run.dns.elapsedMs failure
                | none => plainSuccess run.dns.elapsedMs := by
  obtain ⟨_, isHost, isType⟩ := carries.record
  have hostname : (dnsCheckParams row).hostname = trim payload.hostname := by
    simp [dnsCheckParams, isHost]
  have asked : (dnsCheckParams row).recordType = recordTypeName recordType := by
    simp [dnsCheckParams, isType]
  have nameserver : (dnsCheckParams row).nameserver = payload.nameserver := carries.nameserver
  have checked
      : checkMonitor libraries policy row run
        = checkDns libraries.toUppercase (dnsCheckParams row) true run.dns := by
    unfold checkMonitor
    rw [carries.isDns]
  unfold checkDns at checked
  rw [asked, parseRecordType_name keeps, nameserver, hostname] at checked
  exact checked

/-- A resolver is built for a nameserver that is an address, if it is public. -/
theorem buildResolver_eq_ok (accepted : AcceptedDns toUppercase payload recordType)
    : buildResolver payload.nameserver true (.ok ()) = .ok () ↔ HasPublicNameserver payload := by
  unfold buildResolver HasPublicNameserver
  cases given : payload.nameserver with
  | none => exact iff_of_true rfl nofun
  | some ns =>
      obtain ⟨ip, isIp⟩ := accepted.nameserver ns given
      have parsed : parseNameserverIp ns = .ok ip := by
        unfold parseNameserverIp
        simp only [isIp]
      have isPublic
          : (∀ ns' ∈ some ns,
              ∀ ip, IpAddress.IpAddr.parse (trim ns') = some ip → checkIpIsPublic ip = true)
            ↔ checkIpIsPublic ip = true := by
        simp only [Option.mem_some_iff, forall_eq', isIp, Option.some.injEq]
      rw [isPublic]
      dsimp only
      rw [parsed]
      dsimp only [bind, Except.bind]
      cases checkIpIsPublic ip with
      | true => exact iff_of_true rfl rfl
      | false => exact iff_of_false nofun nofun

/-- Whatever the records are, their evaluation does not blame the configuration. -/
theorem evaluateRecords_reason {p : DnsCheckParams} {records : List String} {failure : Failure}
    (fails : evaluateRecords p records = some failure)
    : failure.reason ≠ "config_error" := by
  unfold evaluateRecords at fails
  split at fails
  · cases fails
    simp
  · obtain ⟨expected, _, mismatch⟩ := Option.bind_eq_some_iff.mp fails
    split at mismatch
    · cases mismatch
    · cases mismatch
      simp

/-- The check of a stored DNS monitor does not fail for its configuration, exactly if its
nameserver, if it has one, is public.
-/
theorem dnsMonitor_runnable_iff {db after : Database}
    (keeps : KeepsUppercase libraries.toUppercase)
    (history : DnsHistory libraries.toUppercase db)
    (stores : StoresDns libraries.toUppercase payload db row after)
    (built : run.dns.build = .ok ())
    : (checkMonitor libraries policy row run).failureReason ≠ some "config_error"
      ↔ HasPublicNameserver payload := by
  obtain ⟨⟨recordType, carries⟩, _⟩ := stores.carries history.named
  rw [checkMonitor_of_carriesDns keeps carries, built, ← buildResolver_eq_ok carries.accepted]
  cases buildResolver payload.nameserver true (.ok ()) with
  | error error => exact iff_of_false (fun other => other rfl) nofun
  | ok =>
      refine iff_of_true ?_ rfl
      simp only
      split
      · simp [plainFailure, failedCheck]
      · split
        · rename_i fails
          simp [plainFailure, failedCheck, evaluateRecords_reason fails]
        · simp [plainSuccess]

end Check

------------------------------------------------------------
-- A monitor of an address
------------------------------------------------------------

/-- The shop's address, asked of a nameserver. -/
def addressPayload (expectedValue nameserver : Option String) : UpsertDnsSiteMonitorRequest where
  hostname := " shop.test"
  recordType := "a "
  expectedValue := expectedValue
  nameserver := nameserver
  checkIntervalSeconds := 60
  timeoutSecondsOverride := none
  maxAttemptsOverride := none
  retryDelaysMsOverride := none
  isActive := true

/-- What the upsert of the address stores. -/
def storedAddress (expectedValue nameserver : Option String) : Option (SiteMonitor × Database) := do
  let payload := addressPayload expectedValue nameserver
  let retryDelays ←
    (validateAndNormalizeDnsMonitorPayload portLibraries.toUppercase payload).toOption
  (upsertDnsMonitorBySiteIdAndHostnameRecordType smallDatabase 0 1
    (payload.params portLibraries.toUppercase retryDelays)).toOption

theorem storedAddress_stores {expectedValue nameserver : Option String} {row : SiteMonitor}
    {after : Database} (stored : storedAddress expectedValue nameserver = some (row, after))
    : StoresDns portLibraries.toUppercase (addressPayload expectedValue nameserver) smallDatabase
        row after := by
  obtain ⟨retryDelays, accepted, done⟩ := Option.bind_eq_some_iff.mp stored
  exact .upserted (Fallible.toOption_eq_some.mp accepted) (Fallible.toOption_eq_some.mp done)

theorem toUpper_eq_self {char : Char} (upper : char.isUpper = true) : char.toUpper = char := by
  have isUpper : 'A'.val ≤ char.val ∧ char.val ≤ 'Z'.val := of_decide_eq_true upper
  refine dif_neg fun isLower => ?_
  have crossed : 'a'.val ≤ 'Z'.val := UInt32.le_trans isLower.1 isUpper.2
  revert crossed
  decide

theorem portLibraries_keepsUppercase : KeepsUppercase portLibraries.toUppercase := by
  intro text upper
  apply String.toList_inj.mp
  rw [portLibraries, String.toList_map]
  refine (List.map_congr_left fun char member => ?_).trans (List.map_id _)
  exact toUpper_eq_self (List.all_eq_true.mp upper char member)

/-- The database has no DNS monitor yet. -/
theorem smallDatabase_dnsHistory : DnsHistory portLibraries.toUppercase smallDatabase :=
  .fresh (by decide)

theorem dnsMonitor_runnable_publicNameserver
    : ∃ row after,
        storedAddress none (some " 93.184.216.53") = some (row, after)
        ∧ (checkMonitor portLibraries threeAttempts row (portRun .connected)).failureReason
          ≠ some "config_error" := by
  have scenario : (storedAddress none (some " 93.184.216.53")).isSome = true := by decide +kernel
  obtain ⟨⟨row, after⟩, stored⟩ := Option.isSome_iff_exists.mp scenario
  refine ⟨row, after, stored, ?_⟩
  refine (dnsMonitor_runnable_iff portLibraries_keepsUppercase smallDatabase_dnsHistory
    (storedAddress_stores stored) rfl).mpr ?_
  rintro ns ⟨⟩ ip isIp
  have isPublic
      : (IpAddress.IpAddr.parse (trim " 93.184.216.53")).all checkIpIsPublic = true := by
    decide +kernel
  rw [isIp] at isPublic
  exact isPublic

/-- The validator accepts a nameserver of the local network, and the worker does not ask it. -/
theorem dnsMonitor_not_runnable
    : ∃ row after,
        StoresDns portLibraries.toUppercase (addressPayload none (some "10.0.0.53")) smallDatabase
          row after
        ∧ (checkMonitor portLibraries threeAttempts row (portRun .connected)).failureReason
          = some "config_error" := by
  have scenario
      : ((storedAddress none (some "10.0.0.53")).any fun stored =>
          (checkMonitor portLibraries threeAttempts stored.1 (portRun .connected)).failureReason
          = some "config_error") = true := by
    decide +kernel
  obtain ⟨⟨row, after⟩, stored, fails⟩ := (Option.any_eq_true _ _).mp scenario
  exact ⟨row, after, storedAddress_stores stored, of_decide_eq_true fails⟩

end AlonSentinel.System
