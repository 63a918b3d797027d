import AlonSentinel.Api.TargetHandlers
import AlonSentinel.Foundation.IntegerText
import AlonSentinel.System.DnsMonitors
import AlonSentinel.System.WorldSteps

/-! The targets of TCP and DNS monitors. The unique key and the conflict of an upsert are about a
text; the checks and the lookups are about the columns that the text was written from.
-/

namespace AlonSentinel.System

open Api
open Domain
open IntegerText
open KeyedTable
open Monitoring
open Notifications
open Relation
open SeparatedText
open TransitionSystem
open UnicodeText

variable {toUppercase : String → String} {config : DeliveryConfig} {world after : World}
  {db : Database} {now : Timestamp} {siteId : Int}

------------------------------------------------------------
-- Texts
------------------------------------------------------------

def tcpTarget (host : String) (port : Int) : String := "tcp://" ++ host ++ ":" ++ toString port

def dnsTarget (hostname recordType : String) : String := "dns://" ++ hostname ++ "/" ++ recordType

theorem tcpTarget_inj {host other : String} {port otherPort : Int}
    (same : tcpTarget host port = tcpTarget other otherPort)
    : host = other ∧ port = otherPort := by
  have noColon (value : Int) : ':' ∉ (toString value).toList := by
    intro member
    rcases mem_toString member with minus | digit
    · cases minus
    · cases digit
  obtain ⟨hosts, ports⟩ := text_inj (noColon port) (noColon otherPort) same
  exact ⟨(String.append_right_inj _).mp hosts, toString_inj ports⟩

------------------------------------------------------------
-- Targets of a database
------------------------------------------------------------

/-- The target of a TCP or DNS monitor, as text and in columns. -/
structure MonitorTarget where
  siteId : Int
  monitorType : SiteMonitorType
  targetUrl : String
  tcpTargetHost : Option String
  tcpTargetPort : Option Int
  dnsHostname : Option String
  dnsRecordType : Option String

def monitorTarget (monitor : SiteMonitor) : MonitorTarget where
  siteId := monitor.siteId
  monitorType := monitor.monitorType
  targetUrl := monitor.targetUrl
  tcpTargetHost := monitor.tcpTargetHost
  tcpTargetPort := monitor.tcpTargetPort
  dnsHostname := monitor.dnsHostname
  dnsRecordType := monitor.dnsRecordType

def hasTarget (monitor : SiteMonitor) : Bool :=
  monitor.monitorType = .tcp || monitor.monitorType = .dns

def monitorTarget? (monitor : SiteMonitor) : Option MonitorTarget :=
  if hasTarget monitor then some (monitorTarget monitor) else none

/-- The targets of a database, by the ids of their monitors. -/
def targets (db : Database) (siteMonitorId : Int) : Option MonitorTarget :=
  (db.siteMonitors.find? siteMonitorId).bind monitorTarget?

/-- The text is written from the columns. -/
structure MonitorTarget.InSync (target : MonitorTarget) : Prop where
  tcp
    : target.monitorType = .tcp
      → ∃ host port,
          target.tcpTargetHost = some host
          ∧ target.tcpTargetPort = some port
          ∧ target.targetUrl = tcpTarget host port
  dns
    : target.monitorType = .dns
      → ∃ hostname recordType,
          target.dnsHostname = some hostname
          ∧ target.dnsRecordType = some (recordTypeName recordType)
          ∧ target.targetUrl = dnsTarget hostname (recordTypeName recordType)

/-- The unique key of monitors is the same. -/
structure MonitorTarget.SameKey (target other : MonitorTarget) : Prop where
  siteId : target.siteId = other.siteId
  monitorType : target.monitorType = other.monitorType
  targetUrl : target.targetUrl = other.targetUrl

/-- All targets are in sync, and no two monitors have one key. -/
structure Consistent (targets : Int → Option MonitorTarget) : Prop where
  inSync : ∀ id target, targets id = some target → target.InSync
  distinct
    : ∀ id other target otherTarget,
        targets id = some target
        → targets other = some otherTarget
        → target.SameKey otherTarget
        → id = other

/-- What a statement may do to the targets: nothing, or store one that is in sync and that no other
monitor has.
-/
inductive TargetStored (before : Int → Option MonitorTarget)
    : (Int → Option MonitorTarget) → Prop
  | kept : TargetStored before before
  | stored (id : Int) (target : MonitorTarget) (inSync : target.InSync)
      (free
        : ∀ other otherTarget,
            before other = some otherTarget → target.SameKey otherTarget → other = id)
    : TargetStored before (Function.update before id (some target))

theorem MonitorTarget.SameKey.symm {target other : MonitorTarget} (same : target.SameKey other)
    : other.SameKey target :=
  ⟨same.siteId.symm, same.monitorType.symm, same.targetUrl.symm⟩

theorem Consistent.stored {before after : Int → Option MonitorTarget}
    (consistent : Consistent before) (stored : TargetStored before after)
    : Consistent after := by
  cases stored with
  | kept => exact consistent
  | stored id target inSync free =>
      constructor
      · intro wanted found isFound
        by_cases isNew : wanted = id
        · subst isNew
          rw [Function.update_self] at isFound
          exact Option.some.inj isFound ▸ inSync
        · rw [Function.update_of_ne isNew] at isFound
          exact consistent.inSync wanted found isFound
      · intro first second target₁ target₂ isFirst isSecond same
        by_cases firstNew : first = id
        · by_cases secondNew : second = id
          · rw [firstNew, secondNew]
          · subst firstNew
            rw [Function.update_self] at isFirst
            rw [Function.update_of_ne secondNew] at isSecond
            cases isFirst
            exact (free second target₂ isSecond same).symm
        · rw [Function.update_of_ne firstNew] at isFirst
          by_cases secondNew : second = id
          · subst secondNew
            rw [Function.update_self] at isSecond
            cases isSecond
            exact free first target₁ isFirst same.symm
          · rw [Function.update_of_ne secondNew] at isSecond
            exact consistent.distinct first second target₁ target₂ isFirst isSecond same

theorem monitorTarget?_eq_some {monitor : SiteMonitor} {target : MonitorTarget}
    : monitorTarget? monitor = some target
      ↔ (monitor.monitorType = .tcp ∨ monitor.monitorType = .dns)
        ∧ monitorTarget monitor = target := by
  simp [monitorTarget?, hasTarget]

theorem targets_of_mem {monitor : SiteMonitor} (stored : monitor ∈ db.siteMonitors.rows)
    : targets db monitor.id = monitorTarget? monitor := by
  unfold targets
  rw [Table.find?_key stored, Option.bind_some]

------------------------------------------------------------
-- Targets and statements
------------------------------------------------------------

/-- An update that keeps the targets of the rows that it sets. -/
theorem targets_update {condition : SiteMonitor → Bool} {set : SiteMonitor → SiteMonitor}
    {keeps : ∀ monitor, condition monitor = true → (set monitor).id = monitor.id}
    (same
      : ∀ monitor ∈ db.siteMonitors.rows,
          condition monitor = true → monitorTarget? (set monitor) = monitorTarget? monitor)
    : targets { db with siteMonitors := db.siteMonitors.update condition set keeps }
      = targets db := by
  funext wanted
  unfold targets
  rw [SerialTable.find?_update]
  cases found : db.siteMonitors.find? wanted with
  | none => rfl
  | some monitor =>
      rw [Option.map_some, Option.bind_some, Option.bind_some]
      by_cases met : condition monitor = true
      · rw [if_pos met]
        exact same monitor (Table.mem_of_find? found).1 met
      · rw [if_neg met]

/-- An update of the row under an id stores its new target. -/
theorem targets_updateOne {condition : SiteMonitor → Bool} {set : SiteMonitor → SiteMonitor}
    {keeps : ∀ monitor, condition monitor = true → (set monitor).id = monitor.id}
    {stored : SiteMonitor} (isStored : stored ∈ db.siteMonitors.rows)
    (condition_iff
      : ∀ monitor ∈ db.siteMonitors.rows, condition monitor = true ↔ monitor.id = stored.id)
    : targets { db with siteMonitors := db.siteMonitors.update condition set keeps }
      = Function.update (targets db) stored.id (monitorTarget? (set stored)) := by
  funext wanted
  unfold targets
  rw [SerialTable.find?_update]
  by_cases isWanted : wanted = stored.id
  · subst isWanted
    have met : condition stored = true := (condition_iff stored isStored).mpr rfl
    rw [Table.find?_key isStored, Function.update_self, Option.map_some, Option.bind_some,
      if_pos met]
  · rw [Function.update_of_ne isWanted]
    cases found : db.siteMonitors.find? wanted with
    | none => rfl
    | some monitor =>
        obtain ⟨isMonitor, rfl⟩ := Table.mem_of_find? found
        have unmet : ¬condition monitor = true := mt (condition_iff monitor isMonitor).mp isWanted
        rw [Option.map_some, if_neg unmet]

theorem targets_insert {monitorType : SiteMonitorType} {targetUrl : String}
    {fill : SiteMonitor → SiteMonitor} {keeps : ∀ monitor, (fill monitor).id = monitor.id}
    {row : SiteMonitor} {after : Database}
    (done
      : insertSiteMonitor db now siteId monitorType targetUrl fill keeps = .ok (row, after))
    : targets after
      = Function.update (targets db) db.siteMonitors.nextId (monitorTarget? row) := by
  funext wanted
  unfold targets
  rw [insertSiteMonitor_find? done]
  by_cases isNew : wanted = db.siteMonitors.nextId
  · rw [if_pos isNew, isNew, Function.update_self, Option.bind_some]
  · rw [if_neg isNew, Function.update_of_ne isNew]

/-- A statement that stores a row without a target leaves the targets alone. -/
theorem targets_insert_of_none {monitorType : SiteMonitorType} {targetUrl : String}
    {fill : SiteMonitor → SiteMonitor} {keeps : ∀ monitor, (fill monitor).id = monitor.id}
    {row : SiteMonitor} {after : Database}
    (done
      : insertSiteMonitor db now siteId monitorType targetUrl fill keeps = .ok (row, after))
    (noTarget : monitorTarget? row = none)
    : targets after = targets db := by
  have unused : targets db db.siteMonitors.nextId = none := by
    unfold targets
    rw [SerialTable.find?_nextId, Option.bind_none]
  rw [targets_insert done, noTarget, ← unused, Function.update_eq_self]

section Statements

variable {monitorType : SiteMonitorType} {targetUrl : String}
  {fill merge set : SiteMonitor → SiteMonitor}
  {fillKeeps : ∀ monitor, (fill monitor).id = monitor.id}
  {mergeKeeps : ∀ monitor, (merge monitor).id = monitor.id}
  {setKeeps : ∀ monitor, (set monitor).id = monitor.id}
  {siteMonitorId : Int} {row : SiteMonitor} {result : Option SiteMonitor} {afterDb : Database}

theorem monitorTarget?_of_other {monitor : SiteMonitor} (notTcp : monitor.monitorType ≠ .tcp)
    (notDns : monitor.monitorType ≠ .dns)
    : monitorTarget? monitor = none := by
  simp [monitorTarget?, hasTarget, notTcp, notDns]

theorem monitorType_of_isTarget {monitor : SiteMonitor}
    (isTarget : monitor.isTarget siteId monitorType targetUrl = true)
    : monitor.siteId = siteId
      ∧ monitor.monitorType = monitorType
      ∧ monitor.targetUrl = targetUrl := by
  simp only [SiteMonitor.isTarget, Bool.and_eq_true, decide_eq_true_eq] at isTarget
  exact ⟨isTarget.1.1, isTarget.1.2, isTarget.2⟩

/-- An upsert of a monitor of another type leaves the targets alone. -/
theorem targets_upsert_of_other
    (done
      : upsertSiteMonitor db now siteId monitorType targetUrl fill merge fillKeeps mergeKeeps
        = .ok (row, afterDb))
    (notTcp : monitorType ≠ .tcp) (notDns : monitorType ≠ .dns)
    (fillType : ∀ monitor, (fill monitor).monitorType = monitor.monitorType)
    (mergeType : ∀ monitor, (merge monitor).monitorType = monitor.monitorType)
    : targets afterDb = targets db := by
  rcases upsertSiteMonitor_cases done with ⟨stored, isStored, isTarget, _, rfl⟩ | ⟨_, inserted⟩
  · apply targets_update
    intro monitor isMonitor met
    obtain rfl := Table.eq_of_key_eq isMonitor isStored (of_decide_eq_true met)
    obtain ⟨_, rfl, _⟩ := monitorType_of_isTarget isTarget
    rw [monitorTarget?_of_other notTcp notDns,
      monitorTarget?_of_other (mergeType monitor ▸ notTcp) (mergeType monitor ▸ notDns)]
  · apply targets_insert_of_none inserted
    rw [(insertSiteMonitor_ok inserted).1]
    exact monitorTarget?_of_other ((fillType _).trans_ne notTcp) ((fillType _).trans_ne notDns)

/-- An update of a monitor of another type leaves the targets alone. -/
theorem targets_updateById_of_other
    (done
      : updateSiteMonitorById monitorType db siteId siteMonitorId set setKeeps
        = .ok (result, afterDb))
    (notTcp : monitorType ≠ .tcp) (notDns : monitorType ≠ .dns)
    (setType : ∀ monitor, (set monitor).monitorType = monitor.monitorType)
    : targets afterDb = targets db := by
  rcases updateSiteMonitorById_cases done with ⟨_, _, rfl⟩ | ⟨_, _, _, _, _, rfl⟩
  · rfl
  · apply targets_update
    intro monitor _ met
    simp only [SiteMonitor.isAt, Bool.and_eq_true, decide_eq_true_eq] at met
    obtain ⟨_, rfl⟩ := met
    rw [monitorTarget?_of_other notTcp notDns,
      monitorTarget?_of_other (setType monitor ▸ notTcp) (setType monitor ▸ notDns)]

/-- An upsert that merges no target, and fills in one that is in sync with the unique key. -/
theorem targetStored_upsert
    (done
      : upsertSiteMonitor db now siteId monitorType targetUrl fill merge fillKeeps mergeKeeps
        = .ok (row, afterDb))
    (key
      : let target := monitorTarget (fill (.withDefaults now siteId monitorType targetUrl 0))
        target.InSync
        ∧ target.siteId = siteId
        ∧ target.monitorType = monitorType
        ∧ target.targetUrl = targetUrl)
    (filled
      : ∀ id,
          monitorTarget? (fill (.withDefaults now siteId monitorType targetUrl id))
          = some (monitorTarget (fill (.withDefaults now siteId monitorType targetUrl 0))))
    (merged : ∀ monitor, monitorTarget? (merge monitor) = monitorTarget? monitor)
    : TargetStored (targets db) (targets afterDb) := by
  rcases upsertSiteMonitor_cases done with ⟨stored, _, _, _, rfl⟩ | ⟨absent, inserted⟩
  · rw [targets_update fun monitor _ _ => merged monitor]
    exact .kept
  · rw [targets_insert inserted, (insertSiteMonitor_ok inserted).1, filled]
    obtain ⟨inSync, sameSite, sameType, sameUrl⟩ := key
    refine .stored _ _ inSync fun other otherTarget isOther same => ?_
    obtain ⟨monitor, found, isTarget⟩ := Option.bind_eq_some_iff.mp isOther
    obtain ⟨_, rfl⟩ := monitorTarget?_eq_some.mp isTarget
    refine absurd ?_ (absent monitor (Table.mem_of_find? found).1)
    simp only [SiteMonitor.isTarget, Bool.and_eq_true, decide_eq_true_eq]
    exact ⟨⟨same.siteId.symm.trans sameSite, same.monitorType.symm.trans sameType⟩,
      same.targetUrl.symm.trans sameUrl⟩

/-- An update that sets a target that is in sync. -/
theorem targetStored_updateById
    (done
      : updateSiteMonitorById monitorType db siteId siteMonitorId set setKeeps
        = .ok (result, afterDb))
    (stores
      : ∀ monitor,
          monitor.isAt monitorType siteId siteMonitorId = true
          → ∃ target,
              monitorTarget? (set monitor) = some target
              ∧ target.InSync
              ∧ target.siteId = siteId
              ∧ target.monitorType = monitorType
              ∧ target.targetUrl = (set monitor).targetUrl)
    : TargetStored (targets db) (targets afterDb) := by
  rcases updateSiteMonitorById_cases done with ⟨_, _, rfl⟩ | ⟨stored, found, isAt, _, free, rfl⟩
  · exact .kept
  · obtain ⟨isStored, rfl⟩ := Table.mem_of_find? found
    obtain ⟨target, isTarget, inSync, sameSite, sameType, sameUrl⟩ := stores stored isAt
    have isOne
        : ∀ monitor ∈ db.siteMonitors.rows,
            monitor.isAt monitorType siteId stored.id = true ↔ monitor.id = stored.id := by
      intro monitor isMonitor
      constructor
      · intro met
        simp only [SiteMonitor.isAt, Bool.and_eq_true, decide_eq_true_eq] at met
        exact met.1.1
      · intro same
        exact Table.eq_of_key_eq isMonitor isStored same ▸ isAt
    rw [targets_updateOne isStored isOne, isTarget]
    refine .stored _ target inSync fun other otherTarget isOther same => ?_
    obtain ⟨monitor, otherFound, isOtherTarget⟩ := Option.bind_eq_some_iff.mp isOther
    obtain ⟨isMonitor, rfl⟩ := Table.mem_of_find? otherFound
    obtain ⟨_, rfl⟩ := monitorTarget?_eq_some.mp isOtherTarget
    apply free monitor isMonitor
    simp only [SiteMonitor.isTarget, Bool.and_eq_true, decide_eq_true_eq]
    exact ⟨⟨same.siteId.symm.trans sameSite, same.monitorType.symm.trans sameType⟩,
      same.targetUrl.symm.trans sameUrl⟩

end Statements

------------------------------------------------------------
-- Requests with accepted payloads
------------------------------------------------------------

/-- The columns that a TCP handler binds for a payload that it accepts. -/
def AcceptedTcpParams (payload : UpsertTcpSiteMonitorRequest) (params : TcpMonitorParams) : Prop :=
  ∃ retryDelays,
    validateAndNormalizeTcpMonitorPayload payload = .ok retryDelays
    ∧ params = payload.params retryDelays

/-- The columns that a DNS handler binds for a payload that it accepts. -/
def AcceptedDnsParams (toUppercase : String → String) (payload : UpsertDnsSiteMonitorRequest)
    (params : DnsMonitorParams)
    : Prop :=
  ∃ retryDelays,
    validateAndNormalizeDnsMonitorPayload toUppercase payload = .ok retryDelays
    ∧ params = payload.params toUppercase retryDelays

/-- A request that stores a TCP or DNS monitor does so for an accepted payload. -/
def CarriesAccepted (toUppercase : String → String) : ApiRequest → Prop
  | .upsertTcpSiteMonitor _ params | .updateTcpSiteMonitor _ _ params =>
      ∃ payload, AcceptedTcpParams payload params
  | .upsertDnsSiteMonitor _ params | .updateDnsSiteMonitor _ _ params =>
      ∃ payload, AcceptedDnsParams toUppercase payload params
  | _ => True

theorem startUpsert_ok {isActive : Bool} {started : Started}
    {upserted : Except DatabaseError (SiteMonitor × Database)}
    (done : startUpsert isActive upserted = .ok started)
    : ∃ row, upserted = .ok (row, started.db) := by
  cases upserted with
  | error error => cases done
  | ok stored =>
      cases done
      exact ⟨stored.1, rfl⟩

theorem startUpdate_ok {isActive : Bool} {started : Started}
    {updated : Except DatabaseError (Option SiteMonitor × Database)}
    (done : startUpdate isActive updated = .ok started)
    : ∃ result, updated = .ok (result, started.db) := by
  cases updated with
  | error error => cases done
  | ok stored =>
      cases done
      exact ⟨stored.1, rfl⟩

theorem inSync_tcp {target : MonitorTarget} {host : String} {port : Int}
    (isTcp : target.monitorType = .tcp) (isHost : target.tcpTargetHost = some host)
    (isPort : target.tcpTargetPort = some port) (isUrl : target.targetUrl = tcpTarget host port)
    : target.InSync where
  tcp _ := ⟨host, port, isHost, isPort, isUrl⟩
  dns isDns := by cases isTcp.symm.trans isDns

theorem inSync_dns {target : MonitorTarget} {hostname : String} {recordType : RecordType}
    (isDns : target.monitorType = .dns) (isHost : target.dnsHostname = some hostname)
    (isType : target.dnsRecordType = some (recordTypeName recordType))
    (isUrl : target.targetUrl = dnsTarget hostname (recordTypeName recordType))
    : target.InSync where
  tcp isTcp := by cases isTcp.symm.trans isDns
  dns _ := ⟨hostname, recordType, isHost, isType, isUrl⟩

/-- The record type of an accepted payload has one of the known names. -/
theorem AcceptedDnsParams.recordType {payload : UpsertDnsSiteMonitorRequest}
    {params : DnsMonitorParams} (accepted : AcceptedDnsParams toUppercase payload params)
    : ∃ recordType, params.recordType = recordTypeName recordType := by
  obtain ⟨retryDelays, isAccepted, rfl⟩ := accepted
  obtain ⟨⟨recordType, isType⟩, _⟩ := acceptedDns isAccepted
  exact ⟨recordType, isType.recordType⟩

/-- Every request stores targets that are in sync, or none; one case per request. -/
theorem targetStored_request {request : ApiRequest} {started : Started}
    (carries : CarriesAccepted toUppercase request)
    (done : startRequest db now request = .ok started)
    : TargetStored (targets db) (targets started.db) := by
  -- Only the requests for TCP and DNS monitors store a target.
  have kept (same : targets started.db = targets db)
      : TargetStored (targets db) (targets started.db) :=
    same ▸ .kept
  cases request with
  | upsertTcpSiteMonitor siteId params =>
      obtain ⟨row, upserted⟩ := startUpsert_ok done
      refine targetStored_upsert upserted ⟨?_, rfl, rfl, rfl⟩ (fun _ => rfl) fun _ => rfl
      exact inSync_tcp rfl rfl rfl rfl
  | updateTcpSiteMonitor siteId siteMonitorId params =>
      obtain ⟨result, updated⟩ := startUpdate_ok done
      refine targetStored_updateById updated fun monitor isAt => ?_
      simp only [SiteMonitor.isAt, Bool.and_eq_true, decide_eq_true_eq] at isAt
      refine ⟨monitorTarget (params.configureTarget monitor),
        monitorTarget?_eq_some.mpr ⟨.inl isAt.2, rfl⟩, ?_, isAt.1.2, isAt.2, rfl⟩
      exact inSync_tcp isAt.2 rfl rfl rfl
  | upsertDnsSiteMonitor siteId params =>
      obtain ⟨row, upserted⟩ := startUpsert_ok done
      obtain ⟨payload, accepted⟩ := carries
      obtain ⟨recordType, isType⟩ := accepted.recordType
      refine targetStored_upsert upserted ⟨?_, rfl, rfl, rfl⟩ (fun _ => rfl) fun _ => rfl
      exact inSync_dns rfl rfl (congrArg some isType) (congrArg (dnsTarget params.hostname) isType)
  | updateDnsSiteMonitor siteId siteMonitorId params =>
      obtain ⟨result, updated⟩ := startUpdate_ok done
      obtain ⟨payload, accepted⟩ := carries
      obtain ⟨recordType, isType⟩ := accepted.recordType
      refine targetStored_updateById updated fun monitor isAt => ?_
      simp only [SiteMonitor.isAt, Bool.and_eq_true, decide_eq_true_eq] at isAt
      refine ⟨monitorTarget (params.configureTarget monitor),
        monitorTarget?_eq_some.mpr ⟨.inr isAt.2, rfl⟩, ?_, isAt.1.2, isAt.2, rfl⟩
      exact inSync_dns isAt.2 rfl (congrArg some isType)
        (congrArg (dnsTarget params.hostname) isType)
  | upsertHttpSiteMonitor siteId params | upsertSslSiteMonitor siteId params =>
      obtain ⟨row, upserted⟩ := startUpsert_ok done
      apply kept
      exact targets_upsert_of_other upserted (by decide) (by decide) (fun _ => rfl) fun _ => rfl
  | updateHttpSiteMonitor siteId siteMonitorId params
  | updateSslSiteMonitor siteId siteMonitorId params
  | updateHeartbeatSiteMonitor siteId siteMonitorId params =>
      obtain ⟨result, updated⟩ := startUpdate_ok done
      exact kept (targets_updateById_of_other updated (by decide) (by decide) fun _ => rfl)
  | createHeartbeatSiteMonitor siteId params =>
      obtain ⟨row, inserted⟩ := startUpsert_ok done
      apply kept (targets_insert_of_none inserted _)
      rw [(insertSiteMonitor_ok inserted).1]
      rfl
  | pauseSiteMonitorById monitorType siteId siteMonitorId
  | resumeSiteMonitorById monitorType siteId siteMonitorId
  | disableSiteMonitorById monitorType siteId siteMonitorId
  | disableSiteMonitor monitorType siteId =>
      cases done
      exact kept (targets_update fun _ _ _ => rfl)
  | recordHeartbeatPing heartbeatToken =>
      cases done
      exact kept (targets_update fun _ _ _ => rfl)
  | acknowledgeIncident incidentId siteId adminUserId =>
      cases done
      exact .kept
  | createSite name baseUrl =>
      simp only [startRequest, createSite] at done
      split at done
      · cases done
      · cases done
        exact .kept
  | updateSite siteId name baseUrl isActive =>
      simp only [startRequest, updateSite] at done
      split at done
      · cases done
        exact .kept
      · split at done
        · cases done
        · cases done
          exact .kept
  | createChannel params =>
      simp only [startRequest, createChannel] at done
      split at done
      · cases done
      · cases done
        exact .kept
  | updateChannel channelId params =>
      simp only [startRequest, updateChannel] at done
      split at done
      · cases done
        exact .kept
      · split at done
        · cases done
        · cases done
          exact .kept
  | upsertChannelOverride siteId overrideId params =>
      cases done
      simp only [upsertForSite]
      split
      · exact .kept
      · exact .kept
  | deleteChannelOverride siteId notificationChannelId =>
      cases done
      exact .kept

------------------------------------------------------------
-- Runs
------------------------------------------------------------

theorem targets_congr {before afterDb : Database}
    (same : afterDb.siteMonitors = before.siteMonitors)
    : targets afterDb = targets before := by
  unfold targets
  rw [same]

/-- The action is none that stores a TCP or DNS monitor, or one for an accepted payload. -/
def StoresAccepted (toUppercase : String → String) (_world : World) : Action → World → Prop
  | .request request, _ => CarriesAccepted toUppercase request
  | _, _ => True

theorem targetStored_step {action : Action} (taken : step config world action = some after)
    (admitted : StoresAccepted toUppercase world action after)
    : TargetStored (targets world.db) (targets after.db) := by
  have kept (same : targets after.db = targets world.db)
      : TargetStored (targets world.db) (targets after.db) :=
    same ▸ .kept
  cases action with
  | request request =>
      simp only [step] at taken
      split at taken
      · next started =>
          cases taken
          exact targetStored_request admitted started
      · cases taken
        exact .kept
  | claimSiteMonitors workerId limit leaseSeconds locked =>
      simp only [step] at taken
      split at taken
      · cases taken
        exact kept (targets_update fun _ _ _ => rfl)
      · cases taken
  | check workerId siteMonitorId checkAction =>
      obtain ⟨job, _, rest⟩ := Option.bind_eq_some_iff.mp taken
      obtain ⟨outcome, stepped, rest⟩ := Option.bind_eq_some_iff.mp rest
      cases rest
      cases checkStep_cases stepped with
      | extended _ _ | released _ => exact kept (targets_update fun _ _ _ => rfl)
      | waited _ | began _ | lookedUp _ | ended => exact .kept
      | @committed startedAt completed _ saved _ effect =>
          have saves
              : targets saved
                = targets
                    { world.db with
                      siteMonitors :=
                        world.db.siteMonitors.update
                          (·.isClaimedBy job.siteMonitor.id workerId)
                          (·.withLastCheck startedAt completed.lastCheckParams) } :=
            targets_congr effect.siteMonitors
          exact kept (saves.trans (targets_update fun _ _ _ => rfl))
  | deliver workerId deliveryId deliveryAction =>
      obtain ⟨delivery, _, rest⟩ := Option.bind_eq_some_iff.mp taken
      obtain ⟨outcome, stepped, rest⟩ := Option.bind_eq_some_iff.mp rest
      cases rest
      cases deliveryStep_cases stepped with
      | extended _ _ | released _ | delivered _ | failed _ _ _ | ended => exact .kept
  | advanceClock _ | claimDeliveries _ _ _ _ =>
      simp only [step] at taken
      split at taken
      · cases taken
        exact .kept
      · cases taken
  | finishHandler index =>
      obtain ⟨pending, _, rest⟩ := Option.bind_eq_some_iff.mp taken
      cases rest
      apply kept (targets_congr _)
      unfold PendingResolution.resolve
      split <;> rfl
  | dropHandler index =>
      cases taken
      exact .kept

/-- The states that everybody's actions lead to from a deployment without TCP and DNS monitors,
while their handlers store accepted payloads.
-/
def TargetsReached (toUppercase : String → String) (config : DeliveryConfig) (world : World)
    : Prop :=
  ∃ start,
    (∀ monitor ∈ start.db.siteMonitors.rows, hasTarget monitor = false)
    ∧ ReflTransGen (NextWhere (step config) (StoresAccepted toUppercase)) start world

theorem TargetsReached.consistent (reached : TargetsReached toUppercase config world)
    : Consistent (targets world.db) := by
  obtain ⟨start, untargeted, path⟩ := reached
  have noTargets (id : Int) : targets start.db id = none := by
    unfold targets
    cases found : start.db.siteMonitors.find? id with
    | none => rfl
    | some monitor =>
        rw [Option.bind_some, monitorTarget?, untargeted monitor (Table.mem_of_find? found).1]
        rfl
  refine kept_along (fun world => Consistent (targets world.db)) ?_ ⟨?_, ?_⟩ path
  · exact fun _ _ _ consistent taken admitted =>
      consistent.stored (targetStored_step taken admitted)
  · intro id target isTarget
    cases (noTargets id).symm.trans isTarget
  · intro id other target otherTarget isTarget
    cases (noTargets id).symm.trans isTarget

------------------------------------------------------------
-- Monitors by their identity
------------------------------------------------------------

/-- A statement changes the one monitor with an identity, or creates it. -/
structure Upserts (identity : SiteMonitor → Bool) (before afterDb : Database) (row : SiteMonitor)
    : Prop where
  isRow : identity row = true
  changed
    : (∃ stored ∈ before.siteMonitors.rows,
        identity stored = true
        ∧ (∀ other ∈ before.siteMonitors.rows, identity other = true → other = stored)
        ∧ row.id = stored.id
        ∧ afterDb.siteMonitors.rows
          = before.siteMonitors.rows.map fun monitor =>
              if monitor.id = stored.id then row else monitor)
      ∨ ((∀ other ∈ before.siteMonitors.rows, ¬identity other = true)
        ∧ (∀ other ∈ before.siteMonitors.rows, other.id ≠ row.id)
        ∧ afterDb.siteMonitors.rows = before.siteMonitors.rows ++ [row])

/-- A statement gives a stored monitor an identity, and leaves the others as they are. -/
structure Updates (siteMonitorId : Int) (identity : SiteMonitor → Bool)
    (before afterDb : Database) (row : SiteMonitor)
    : Prop where
  isRow : identity row = true
  sameId : row.id = siteMonitorId
  changed
    : (before.siteMonitors.find? siteMonitorId).isSome = true
      ∧ afterDb.siteMonitors.rows
        = before.siteMonitors.rows.map fun monitor =>
            if monitor.id = siteMonitorId then row else monitor

theorem mem_targets {monitor : SiteMonitor} (stored : monitor ∈ db.siteMonitors.rows)
    (typed : monitor.monitorType = .tcp ∨ monitor.monitorType = .dns)
    : targets db monitor.id = some (monitorTarget monitor) := by
  rw [targets_of_mem stored]
  exact monitorTarget?_eq_some.mpr ⟨typed, rfl⟩

/-- The columns of a TCP monitor identify it as well as its text does. -/
theorem isTcpTarget_iff (consistent : Consistent (targets db)) {monitor : SiteMonitor}
    (stored : monitor ∈ db.siteMonitors.rows) {host : String} {port : Int}
    : monitor.isTcpTarget siteId host port = true
      ↔ monitor.isTarget siteId .tcp (tcpTarget host port) = true := by
  simp only [SiteMonitor.isTcpTarget, SiteMonitor.isTarget, Bool.and_eq_true, decide_eq_true_eq,
    and_assoc]
  refine and_congr_right fun _ => and_congr_right fun isTcp => ?_
  obtain ⟨ownHost, ownPort, isHost, isPort, isUrl⟩ :=
    (consistent.inSync _ _ (mem_targets stored (.inl isTcp))).tcp isTcp
  simp only [monitorTarget] at isHost isPort isUrl
  rw [isHost, isPort, isUrl, Option.some.injEq, Option.some.injEq]
  constructor
  · rintro ⟨rfl, rfl⟩
    rfl
  · exact tcpTarget_inj

/-- The columns of a DNS monitor identify it as well as its text does. -/
theorem isDnsTarget_iff (consistent : Consistent (targets db)) {monitor : SiteMonitor}
    (stored : monitor ∈ db.siteMonitors.rows) {hostname : String} {recordType : RecordType}
    : monitor.isDnsTarget siteId hostname (recordTypeName recordType) = true
      ↔ monitor.isTarget siteId .dns (dnsTarget hostname (recordTypeName recordType)) = true := by
  simp only [SiteMonitor.isDnsTarget, SiteMonitor.isTarget, Bool.and_eq_true, decide_eq_true_eq,
    and_assoc]
  refine and_congr_right fun _ => and_congr_right fun isDns => ?_
  obtain ⟨ownHost, ownType, isHost, isType, isUrl⟩ :=
    (consistent.inSync _ _ (mem_targets stored (.inr isDns))).dns isDns
  simp only [monitorTarget] at isHost isType isUrl
  rw [isHost, isType, isUrl, Option.some.injEq, Option.some.injEq]
  constructor
  · rintro ⟨rfl, same⟩
    rw [same]
  · exact dnsTarget_inj

/-- Two monitors with one key are one monitor. -/
theorem eq_of_isTarget (consistent : Consistent (targets db)) {monitorType : SiteMonitorType}
    (typed : monitorType = .tcp ∨ monitorType = .dns) {targetUrl : String}
    {monitor other : SiteMonitor} (stored : monitor ∈ db.siteMonitors.rows)
    (otherStored : other ∈ db.siteMonitors.rows)
    (isTarget : monitor.isTarget siteId monitorType targetUrl = true)
    (otherTarget : other.isTarget siteId monitorType targetUrl = true)
    : monitor = other := by
  obtain ⟨rfl, rfl, rfl⟩ := monitorType_of_isTarget isTarget
  obtain ⟨sameSite, sameType, sameUrl⟩ := monitorType_of_isTarget otherTarget
  have sameId := consistent.distinct _ _ _ _ (mem_targets stored typed)
    (mem_targets otherStored (sameType ▸ typed)) ⟨sameSite.symm, sameType.symm, sameUrl.symm⟩
  exact Table.eq_of_key_eq stored otherStored sameId

section Identities

variable {monitorType : SiteMonitorType} {targetUrl : String}
  {fill merge set : SiteMonitor → SiteMonitor}
  {fillKeeps : ∀ monitor, (fill monitor).id = monitor.id}
  {mergeKeeps : ∀ monitor, (merge monitor).id = monitor.id}
  {setKeeps : ∀ monitor, (set monitor).id = monitor.id} {identity : SiteMonitor → Bool}
  {siteMonitorId : Int} {row : SiteMonitor} {afterDb : Database}

/-- An upsert by a key changes the monitor with the identity that the key stands for. -/
theorem upserts_of_done (consistent : Consistent (targets db))
    (typed : monitorType = .tcp ∨ monitorType = .dns)
    (done
      : upsertSiteMonitor db now siteId monitorType targetUrl fill merge fillKeeps mergeKeeps
        = .ok (row, afterDb))
    (identifies
      : ∀ monitor ∈ db.siteMonitors.rows,
          identity monitor = true ↔ monitor.isTarget siteId monitorType targetUrl = true)
    (filled
      : identity (fill (.withDefaults now siteId monitorType targetUrl db.siteMonitors.nextId))
        = true)
    (merged : ∀ monitor, identity (merge monitor) = identity monitor)
    : Upserts identity db afterDb row := by
  rcases upsertSiteMonitor_cases done with
    ⟨stored, isStored, isTarget, rfl, rfl⟩ | ⟨absent, inserted⟩
  · have hasIdentity := (identifies stored isStored).mpr isTarget
    have isOne (other : SiteMonitor) (isOther : other ∈ db.siteMonitors.rows)
        (same : identity other = true)
        : other = stored :=
      eq_of_isTarget consistent typed isOther isStored ((identifies other isOther).mp same) isTarget
    refine ⟨(merged stored).trans hasIdentity,
      .inl ⟨stored, isStored, hasIdentity, isOne, mergeKeeps stored, ?_⟩⟩
    refine List.map_congr_left fun monitor isMonitor => ?_
    by_cases same : monitor.id = stored.id
    · rw [if_pos (decide_eq_true same), if_pos same, Table.eq_of_key_eq isMonitor isStored same]
    · rw [if_neg (by simpa using same), if_neg same]
  · obtain ⟨rfl, rows⟩ := insertSiteMonitor_rows inserted
    refine ⟨filled, .inr ⟨fun other isOther => ?_, fun other isOther => ?_, rows⟩⟩
    · exact mt (identifies other isOther).mp (absent other isOther)
    · rw [fillKeeps]
      exact ne_of_lt (db.siteMonitors.belowNext other isOther)

/-- An update by id gives the row that it finds its identity. -/
theorem updates_of_done
    (done
      : updateSiteMonitorById monitorType db siteId siteMonitorId set setKeeps
        = .ok (some row, afterDb))
    (identified
      : ∀ monitor,
          monitor.isAt monitorType siteId siteMonitorId = true → identity (set monitor) = true)
    : Updates siteMonitorId identity db afterDb row := by
  rcases updateSiteMonitorById_cases done with ⟨absent, _⟩ | ⟨stored, found, isAt, isRow, _, rfl⟩
  · cases absent
  · obtain rfl := Option.some.inj isRow
    obtain ⟨isStored, rfl⟩ := Table.mem_of_find? found
    refine ⟨identified stored isAt, setKeeps stored, Option.isSome_of_eq_some found, ?_⟩
    refine List.map_congr_left fun monitor isMonitor => ?_
    by_cases same : monitor.id = stored.id
    · obtain rfl := Table.eq_of_key_eq isMonitor isStored same
      rw [if_pos isAt, if_pos rfl]
    · have notAt : ¬monitor.isAt monitorType siteId stored.id = true := by
        simp only [SiteMonitor.isAt, Bool.and_eq_true, decide_eq_true_eq]
        exact fun met => same met.1.1
      rw [if_neg notAt, if_neg same]

end Identities

------------------------------------------------------------
-- Handlers
------------------------------------------------------------

/-- A handler succeeds. -/
def IsAnswered {Response : Type} (answer : Except ApiError (Response × Started)) : Prop :=
  ∃ response started, answer = .ok (response, started)

/-- A site is there when a handler looks it up and when it writes. -/
structure SiteExists (lookedUp db : Database) (siteId : Int) : Prop where
  found : (lookedUp.sites.find? siteId).isSome = true
  stored : (db.sites.find? siteId).isSome = true

/-- A monitor can be given an identity: it is there, and no other one has the identity when a
handler looks it up and when it writes.
-/
structure Updatable (lookedUp db : Database) (monitorType : SiteMonitorType)
    (siteId siteMonitorId : Int) (identity : SiteMonitor → Bool)
    : Prop where
  siteFound : (lookedUp.sites.find? siteId).isSome = true
  stored : ∃ monitor ∈ db.siteMonitors.rows, monitor.isAt monitorType siteId siteMonitorId = true
  notFound
    : ∀ other ∈ lookedUp.siteMonitors.rows, identity other = true → other.id = siteMonitorId
  free : ∀ other ∈ db.siteMonitors.rows, identity other = true → other.id = siteMonitorId

/-- What the handlers of a database do with TCP and DNS monitors: they answer what they accept, and
what they answer they did to the monitor with the identity.
-/
structure TargetsInSync (toUppercase : String → String) (db : Database) : Prop where
  tcpRows
    : ∀ monitor ∈ db.siteMonitors.rows,
        monitor.monitorType = .tcp
        → ∃ host port,
            monitor.tcpTargetHost = some host
            ∧ monitor.tcpTargetPort = some port
            ∧ monitor.targetUrl = tcpTarget host port
  dnsRows
    : ∀ monitor ∈ db.siteMonitors.rows,
        monitor.monitorType = .dns
        → ∃ hostname recordType,
            monitor.dnsHostname = some hostname
            ∧ monitor.dnsRecordType = some recordType
            ∧ monitor.targetUrl = dnsTarget hostname recordType
  upsertTcp
    : ∀ lookupHost lookedUp now siteId payload response started,
        upsertTcpSiteMonitor lookupHost lookedUp db now siteId payload = .ok (response, started)
        → ∃ row,
            Upserts (·.isTcpTarget siteId (trim payload.targetHost) payload.targetPort.toNat) db
              started.db row
            ∧ response = .fromSiteMonitor row
            ∧ response.targetHost = trim payload.targetHost
            ∧ response.targetPort = payload.targetPort.toNat
  updateTcp
    : ∀ lookupHost lookedUp now siteId siteMonitorId payload response started,
        updateTcpSiteMonitor lookupHost lookedUp db now siteId siteMonitorId payload
          = .ok (response, started)
        → ∃ row,
            Updates siteMonitorId
              (·.isTcpTarget siteId (trim payload.targetHost) payload.targetPort.toNat) db
              started.db row
            ∧ response = .fromSiteMonitor row
            ∧ response.targetHost = trim payload.targetHost
            ∧ response.targetPort = payload.targetPort.toNat
  upsertDns
    : ∀ lookedUp now siteId payload response started,
        upsertDnsSiteMonitor toUppercase lookedUp db now siteId payload = .ok (response, started)
        → ∃ row,
            Upserts
              (·.isDnsTarget siteId (trim payload.hostname) (toUppercase (trim payload.recordType)))
              db started.db row
            ∧ response = .fromSiteMonitor row
            ∧ response.hostname = trim payload.hostname
            ∧ response.recordType = toUppercase (trim payload.recordType)
  updateDns
    : ∀ lookedUp now siteId siteMonitorId payload response started,
        updateDnsSiteMonitor toUppercase lookedUp db now siteId siteMonitorId payload
          = .ok (response, started)
        → ∃ row,
            Updates siteMonitorId
              (·.isDnsTarget siteId (trim payload.hostname) (toUppercase (trim payload.recordType)))
              db started.db row
            ∧ response = .fromSiteMonitor row
            ∧ response.hostname = trim payload.hostname
            ∧ response.recordType = toUppercase (trim payload.recordType)
  upsertTcpAnswers
    : ∀ lookupHost lookedUp now siteId payload retryDelays,
        validateAndNormalizeTcpMonitorPayload payload = .ok retryDelays
        → validateTcpTarget lookupHost (trim payload.targetHost) payload.targetPort = .ok ()
        → SiteExists lookedUp db siteId
        → IsAnswered (upsertTcpSiteMonitor lookupHost lookedUp db now siteId payload)
  updateTcpAnswers
    : ∀ lookupHost lookedUp now siteId siteMonitorId payload retryDelays,
        validateAndNormalizeTcpMonitorPayload payload = .ok retryDelays
        → validateTcpTarget lookupHost (trim payload.targetHost) payload.targetPort = .ok ()
        → Updatable lookedUp db .tcp siteId siteMonitorId
            (·.isTcpTarget siteId (trim payload.targetHost) payload.targetPort.toNat)
        → IsAnswered (updateTcpSiteMonitor lookupHost lookedUp db now siteId siteMonitorId payload)
  upsertDnsAnswers
    : ∀ lookedUp now siteId payload retryDelays,
        validateAndNormalizeDnsMonitorPayload toUppercase payload = .ok retryDelays
        → SiteExists lookedUp db siteId
        → IsAnswered (upsertDnsSiteMonitor toUppercase lookedUp db now siteId payload)
  updateDnsAnswers
    : ∀ lookedUp now siteId siteMonitorId payload retryDelays,
        validateAndNormalizeDnsMonitorPayload toUppercase payload = .ok retryDelays
        → Updatable lookedUp db .dns siteId siteMonitorId
            (·.isDnsTarget siteId (trim payload.hostname) (toUppercase (trim payload.recordType)))
        → IsAnswered (updateDnsSiteMonitor toUppercase lookedUp db now siteId siteMonitorId payload)

/-- Accepted payloads with one text have one target. -/
structure TargetsInjective (toUppercase : String → String) : Prop where
  tcp
    : ∀ payload other params otherParams,
        AcceptedTcpParams payload params
        → AcceptedTcpParams other otherParams
        → params.targetUrl = otherParams.targetUrl
        → params.targetHost = otherParams.targetHost ∧ params.targetPort = otherParams.targetPort
  dns
    : ∀ payload other params otherParams,
        AcceptedDnsParams toUppercase payload params
        → AcceptedDnsParams toUppercase other otherParams
        → params.targetUrl = otherParams.targetUrl
        → params.hostname = otherParams.hostname ∧ params.recordType = otherParams.recordType

theorem targetsInjective (toUppercase : String → String) : TargetsInjective toUppercase where
  tcp _ _ _ _ _ _ same := tcpTarget_inj same
  dns payload other params otherParams accepted otherAccepted same := by
    obtain ⟨recordType, isType⟩ := accepted.recordType
    obtain ⟨otherType, isOtherType⟩ := otherAccepted.recordType
    unfold DnsMonitorParams.targetUrl at same
    rw [isType, isOtherType] at same ⊢
    exact dnsTarget_inj same

/-- What is common to the rows of an identity and the responses that carry them. -/
theorem tcpResponse {row : SiteMonitor} {host : String} {port : Int}
    (isRow : row.isTcpTarget siteId host port = true)
    : (TcpSiteMonitorResponse.fromSiteMonitor row).targetHost = host
      ∧ (TcpSiteMonitorResponse.fromSiteMonitor row).targetPort = port := by
  simp only [SiteMonitor.isTcpTarget, Bool.and_eq_true, decide_eq_true_eq] at isRow
  simp [TcpSiteMonitorResponse.fromSiteMonitor, isRow]

theorem dnsResponse {row : SiteMonitor} {hostname recordType : String}
    (isRow : row.isDnsTarget siteId hostname recordType = true)
    : (DnsSiteMonitorResponse.fromSiteMonitor row).hostname = hostname
      ∧ (DnsSiteMonitorResponse.fromSiteMonitor row).recordType = recordType := by
  simp only [SiteMonitor.isDnsTarget, Bool.and_eq_true, decide_eq_true_eq] at isRow
  simp [DnsSiteMonitorResponse.fromSiteMonitor, isRow]

theorem targetsInSync (consistent : Consistent (targets db)) : TargetsInSync toUppercase db where
  tcpRows monitor stored isTcp :=
    (consistent.inSync _ _ (mem_targets stored (.inl isTcp))).tcp isTcp
  dnsRows monitor stored isDns := by
    obtain ⟨hostname, recordType, isHost, isType, isUrl⟩ :=
      (consistent.inSync _ _ (mem_targets stored (.inr isDns))).dns isDns
    exact ⟨hostname, recordTypeName recordType, isHost, isType, isUrl⟩
  upsertTcp lookupHost lookedUp now siteId payload response started answered := by
    obtain ⟨retryDelays, accepted, answered⟩ := Fallible.bind_eq_ok.mp answered
    obtain ⟨_, reachable, answered⟩ := Fallible.bind_eq_ok.mp answered
    obtain ⟨row, done, rfl, _⟩ := answerUpsert_ok answered
    have upserts
        : Upserts (·.isTcpTarget siteId (trim payload.targetHost) payload.targetPort.toNat) db
            started.db row := by
      refine upserts_of_done consistent (.inl rfl) done
        (fun monitor stored => isTcpTarget_iff consistent stored) ?_ fun _ => rfl
      simp [SiteMonitor.isTcpTarget, TcpMonitorParams.configureTarget, TcpMonitorParams.configure,
        SiteMonitor.withDefaults, UpsertTcpSiteMonitorRequest.params]
    exact ⟨row, upserts, rfl, tcpResponse upserts.isRow⟩
  updateTcp lookupHost lookedUp now siteId siteMonitorId payload response started answered := by
    obtain ⟨retryDelays, accepted, answered⟩ := Fallible.bind_eq_ok.mp answered
    obtain ⟨_, reachable, answered⟩ := Fallible.bind_eq_ok.mp answered
    obtain ⟨row, done, rfl, _⟩ := answerUpdate_ok answered
    have updates
        : Updates siteMonitorId
            (·.isTcpTarget siteId (trim payload.targetHost) payload.targetPort.toNat) db
            started.db row := by
      refine updates_of_done done fun monitor isAt => ?_
      simp only [SiteMonitor.isAt, Bool.and_eq_true, decide_eq_true_eq] at isAt
      simp [SiteMonitor.isTcpTarget, TcpMonitorParams.configureTarget, TcpMonitorParams.configure,
        UpsertTcpSiteMonitorRequest.params, isAt]
    exact ⟨row, updates, rfl, tcpResponse updates.isRow⟩
  upsertDns lookedUp now siteId payload response started answered := by
    obtain ⟨retryDelays, accepted, answered⟩ := Fallible.bind_eq_ok.mp answered
    obtain ⟨row, done, rfl, _⟩ := answerUpsert_ok answered
    obtain ⟨⟨recordType, isAccepted⟩, _⟩ := acceptedDns accepted
    have isType := isAccepted.recordType
    have upserts
        : Upserts
            (·.isDnsTarget siteId (trim payload.hostname) (toUppercase (trim payload.recordType)))
            db started.db row := by
      refine upserts_of_done consistent (.inr rfl) done (fun monitor stored => ?_) ?_ fun _ => rfl
      · rw [isType]
        refine (isDnsTarget_iff consistent stored).trans (iff_of_eq ?_)
        simp [DnsMonitorParams.targetUrl, UpsertDnsSiteMonitorRequest.params, dnsTarget, isType]
      · simp [SiteMonitor.isDnsTarget, DnsMonitorParams.configureTarget,
          DnsMonitorParams.configure, SiteMonitor.withDefaults, UpsertDnsSiteMonitorRequest.params]
    exact ⟨row, upserts, rfl, dnsResponse upserts.isRow⟩
  updateDns lookedUp now siteId siteMonitorId payload response started answered := by
    obtain ⟨retryDelays, accepted, answered⟩ := Fallible.bind_eq_ok.mp answered
    obtain ⟨row, done, rfl, _⟩ := answerUpdate_ok answered
    have updates
        : Updates siteMonitorId
            (·.isDnsTarget siteId (trim payload.hostname) (toUppercase (trim payload.recordType)))
            db started.db row := by
      refine updates_of_done done fun monitor isAt => ?_
      simp only [SiteMonitor.isAt, Bool.and_eq_true, decide_eq_true_eq] at isAt
      simp [SiteMonitor.isDnsTarget, DnsMonitorParams.configureTarget, DnsMonitorParams.configure,
        UpsertDnsSiteMonitorRequest.params, isAt]
    exact ⟨row, updates, rfl, dnsResponse updates.isRow⟩
  upsertTcpAnswers lookupHost lookedUp now siteId payload retryDelays accepted reachable sites := by
    unfold upsertTcpSiteMonitor
    rw [accepted, reachable]
    exact answerUpsert_done sites.found (upsertSiteMonitor_done sites.stored rfl)
  updateTcpAnswers lookupHost lookedUp now siteId siteMonitorId payload retryDelays accepted
      reachable updatable := by
    obtain ⟨stored, isStored, isAt⟩ := updatable.stored
    unfold updateTcpSiteMonitor
    rw [accepted, reachable]
    refine answerUpdate_done updatable.siteFound (fun other isOther => ?_)
      ⟨_, updateSiteMonitorById_done isStored isAt fun other isOther isTarget => ?_⟩
    · exact updatable.notFound other (List.mem_of_find?_eq_some isOther) (List.find?_some isOther)
    · exact updatable.free other isOther ((isTcpTarget_iff consistent isOther).mpr isTarget)
  upsertDnsAnswers lookedUp now siteId payload retryDelays accepted sites := by
    unfold upsertDnsSiteMonitor
    rw [accepted]
    exact answerUpsert_done sites.found (upsertSiteMonitor_done sites.stored rfl)
  updateDnsAnswers lookedUp now siteId siteMonitorId payload retryDelays accepted updatable := by
    obtain ⟨stored, isStored, isAt⟩ := updatable.stored
    obtain ⟨⟨recordType, isAccepted⟩, _⟩ := acceptedDns accepted
    have isType := isAccepted.recordType
    unfold updateDnsSiteMonitor
    rw [accepted]
    refine answerUpdate_done updatable.siteFound (fun other isOther => ?_)
      ⟨_, updateSiteMonitorById_done isStored isAt fun other isOther isTarget => ?_⟩
    · exact updatable.notFound other (List.mem_of_find?_eq_some isOther) (List.find?_some isOther)
    · apply updatable.free other isOther
      rw [isType]
      refine (isDnsTarget_iff consistent isOther).mpr ?_
      rw [← isType]
      exact isTarget

/-- A handler for TCP or DNS monitors succeeded. -/
inductive ServedTarget (toUppercase : String → String) (db : Database) (now : Timestamp)
    (started : Started)
    : Prop
  | upsertTcp {lookupHost : LookupHost} {lookedUp : Database} {siteId : Int}
      {payload : UpsertTcpSiteMonitorRequest} {response : TcpSiteMonitorResponse}
      (answered
        : upsertTcpSiteMonitor lookupHost lookedUp db now siteId payload
          = .ok (response, started))
  | updateTcp {lookupHost : LookupHost} {lookedUp : Database} {siteId siteMonitorId : Int}
      {payload : UpsertTcpSiteMonitorRequest} {response : TcpSiteMonitorResponse}
      (answered
        : updateTcpSiteMonitor lookupHost lookedUp db now siteId siteMonitorId payload
          = .ok (response, started))
  | upsertDns {lookedUp : Database} {siteId : Int} {payload : UpsertDnsSiteMonitorRequest}
      {response : DnsSiteMonitorResponse}
      (answered
        : upsertDnsSiteMonitor toUppercase lookedUp db now siteId payload
          = .ok (response, started))
  | updateDns {lookedUp : Database} {siteId siteMonitorId : Int}
      {payload : UpsertDnsSiteMonitorRequest} {response : DnsSiteMonitorResponse}
      (answered
        : updateDnsSiteMonitor toUppercase lookedUp db now siteId siteMonitorId payload
          = .ok (response, started))

theorem updatedId {monitorType : SiteMonitorType} {siteMonitorId : Int}
    {set : SiteMonitor → SiteMonitor} {keeps : ∀ monitor, (set monitor).id = monitor.id}
    {row : SiteMonitor} {afterDb : Database}
    (done
      : updateSiteMonitorById monitorType db siteId siteMonitorId set keeps
        = .ok (some row, afterDb))
    : row.id = siteMonitorId := by
  have updates : Updates siteMonitorId (fun _ => true) db afterDb row :=
    updates_of_done done fun _ _ => rfl
  exact updates.sameId

/-- What a handler does is a request of the system with an accepted payload. -/
theorem ServedTarget.request {started : Started}
    (served : ServedTarget toUppercase db now started)
    : ∃ request,
        CarriesAccepted toUppercase request ∧ startRequest db now request = .ok started := by
  cases served with
  | @upsertTcp lookupHost lookedUp siteId payload response answered =>
      obtain ⟨retryDelays, accepted, answered⟩ := Fallible.bind_eq_ok.mp answered
      obtain ⟨_, _, answered⟩ := Fallible.bind_eq_ok.mp answered
      obtain ⟨row, _, _, request⟩ := answerUpsert_ok answered
      exact ⟨.upsertTcpSiteMonitor siteId _, ⟨payload, retryDelays, accepted, rfl⟩, request⟩
  | @updateTcp lookupHost lookedUp siteId siteMonitorId payload response answered =>
      obtain ⟨retryDelays, accepted, answered⟩ := Fallible.bind_eq_ok.mp answered
      obtain ⟨_, _, answered⟩ := Fallible.bind_eq_ok.mp answered
      obtain ⟨row, done, _, request⟩ := answerUpdate_ok answered
      exact ⟨.updateTcpSiteMonitor siteId siteMonitorId _, ⟨payload, retryDelays, accepted, rfl⟩,
        request (updatedId done)⟩
  | @upsertDns lookedUp siteId payload response answered =>
      obtain ⟨retryDelays, accepted, answered⟩ := Fallible.bind_eq_ok.mp answered
      obtain ⟨row, _, _, request⟩ := answerUpsert_ok answered
      exact ⟨.upsertDnsSiteMonitor siteId _, ⟨payload, retryDelays, accepted, rfl⟩, request⟩
  | @updateDns lookedUp siteId siteMonitorId payload response answered =>
      obtain ⟨retryDelays, accepted, answered⟩ := Fallible.bind_eq_ok.mp answered
      obtain ⟨row, done, _, request⟩ := answerUpdate_ok answered
      exact ⟨.updateDnsSiteMonitor siteId siteMonitorId _, ⟨payload, retryDelays, accepted, rfl⟩,
        request (updatedId done)⟩

/-- The world after the first statement of a handler. -/
def World.afterRequest (world : World) (started : Started) : World :=
  { world with db := started.db, handlers := world.handlers ++ started.pending.toList }

theorem TargetsReached.served {started : Started}
    (reached : TargetsReached toUppercase config world)
    (served : ServedTarget toUppercase world.db world.now started)
    : TargetsReached toUppercase config (world.afterRequest started) := by
  obtain ⟨start, untargeted, path⟩ := reached
  obtain ⟨request, carries, done⟩ := served.request
  refine ⟨start, untargeted, path.tail ⟨.request request, ?_, carries⟩⟩
  simp only [step, done]
  rfl

/-- In every state that the actions of all parties lead to, TCP and DNS monitors are in sync with
their targets; what their handlers do leads to another such state.
-/
theorem monitorTargets_in_sync (reached : TargetsReached toUppercase config world)
    : TargetsInSync toUppercase world.db
      ∧ TargetsInjective toUppercase
      ∧ ∀ started,
          ServedTarget toUppercase world.db world.now started
          → TargetsReached toUppercase config (world.afterRequest started) :=
  ⟨targetsInSync reached.consistent, targetsInjective toUppercase,
    fun _ served => reached.served served⟩

/-- A monitor of an address and a port. -/
def addressTarget (targetPort : UInt16) : UpsertTcpSiteMonitorRequest where
  targetHost := " 93.184.216.34"
  targetPort := targetPort
  checkIntervalSeconds := 60
  maxConnectTimeMs := none
  timeoutSecondsOverride := none
  maxAttemptsOverride := none
  retryDelaysMsOverride := none
  isActive := true

/-- The one monitor of the shop is for HTTP. -/
theorem smallWorld_reached
    : TargetsReached portLibraries.toUppercase smallConfig smallWorld :=
  ⟨smallWorld, by decide, .refl⟩

/-- The handler is asked for a monitor that the shop does not have yet. -/
theorem monitorTargets_in_sync_address
    : ∃ response started,
        upsertTcpSiteMonitor (fun _ => none) smallWorld.db smallWorld.db smallWorld.now 1
            (addressTarget 443)
          = .ok (response, started)
        ∧ response.targetHost = "93.184.216.34"
        ∧ started.db.siteMonitors.rows.map (·.targetUrl)
          = ["https://shop.test", "tcp://93.184.216.34:443"]
        ∧ TargetsInSync portLibraries.toUppercase started.db := by
  obtain ⟨inSync, _, next⟩ := monitorTargets_in_sync smallWorld_reached
  obtain ⟨response, started, answered⟩ :=
    inSync.upsertTcpAnswers (fun _ => none) smallWorld.db smallWorld.now 1 (addressTarget 443) none
      (by decide +kernel) (by decide +kernel) ⟨rfl, rfl⟩
  have written
      : ((upsertTcpSiteMonitor (fun _ => none) smallWorld.db smallWorld.db smallWorld.now 1
            (addressTarget 443)).toOption.any fun (response, started) =>
          response.targetHost = "93.184.216.34"
          && started.db.siteMonitors.rows.map (·.targetUrl)
            = ["https://shop.test", "tcp://93.184.216.34:443"]) = true := by
    decide +kernel
  have reached := next started (.upsertTcp answered)
  rw [answered] at written
  obtain ⟨isHost, areUrls⟩ := Bool.and_eq_true_iff.mp written
  exact ⟨response, started, answered, of_decide_eq_true isHost, of_decide_eq_true areUrls,
    (monitorTargets_in_sync reached).1⟩

end AlonSentinel.System
