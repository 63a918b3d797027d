import AlonSentinel.Api.SiteHandlers

/-! What API requests cannot do. They create monitors unclaimed and unchecked, never write
the claim of a monitor or the outcome of its last check, touch an incident only to acknowledge
it or to resolve it while it is open, and leave checks and deliveries alone.
-/

namespace AlonSentinel.System

open Api
open Domain
open KeyedTable

/-- The columns of a monitor that only workers write. -/
structure MonitorLedger where
  siteId : Int
  checkClaimedAt : Option Timestamp
  checkLeaseUntil : Option Timestamp
  checkClaimedBy : Option String
  lastCheckedAt : Option Timestamp
  lastIsSuccess : Option Bool

def monitorLedger (monitor : SiteMonitor) : MonitorLedger where
  siteId := monitor.siteId
  checkClaimedAt := monitor.checkClaimedAt
  checkLeaseUntil := monitor.checkLeaseUntil
  checkClaimedBy := monitor.checkClaimedBy
  lastCheckedAt := monitor.lastCheckedAt
  lastIsSuccess := monitor.lastIsSuccess

/-- A monitor that nobody has claimed or checked. -/
structure Untouched (monitor : SiteMonitor) : Prop where
  claimedBy : monitor.checkClaimedBy = none
  leaseUntil : monitor.checkLeaseUntil = none
  lastIsSuccess : monitor.lastIsSuccess = none

/-- What may become of the monitor stored under an id. -/
inductive MonitorTouched : Option SiteMonitor → Option SiteMonitor → Prop
  | absent : MonitorTouched none none
  | created {monitor : SiteMonitor} (untouched : Untouched monitor)
    : MonitorTouched none (some monitor)
  | kept {before after : SiteMonitor} (ledger : monitorLedger after = monitorLedger before)
    : MonitorTouched (some before) (some after)

/-- What may become of an incident. -/
inductive IncidentTouched (now : Timestamp) (incident : SiteMonitorIncident)
    : SiteMonitorIncident → Prop
  | same : IncidentTouched now incident incident
  | acknowledged (at' by' : Option Int) (updatedAt : Timestamp)
    : IncidentTouched now incident
        { incident with acknowledgedAt := at', acknowledgedBy := by', updatedAt }
  | resolved {reason : SiteMonitorIncidentResolvedReason} (wasOpen : incident.isOpen = true)
      (notRecovered : reason ≠ .recovered)
    : IncidentTouched now incident (incident.withResolution now reason)

/-- The effect of a statement of the API on the tables that workers write. -/
structure ApiEffect (now : Timestamp) (before after : Database) : Prop where
  sites : ∀ id, (before.sites.find? id).isSome = true → (after.sites.find? id).isSome = true
  checks : after.siteMonitorChecks = before.siteMonitorChecks
  deliveries : after.notificationDeliveries = before.notificationDeliveries
  monitors
    : ∀ id, MonitorTouched (before.siteMonitors.find? id) (after.siteMonitors.find? id)
  incidents
    : ∃ change : SiteMonitorIncident → SiteMonitorIncident,
        (∀ incident, IncidentTouched now incident (change incident))
        ∧ after.siteMonitorIncidents.rows = before.siteMonitorIncidents.rows.map change
  nextIncident : after.siteMonitorIncidents.nextId = before.siteMonitorIncidents.nextId

/-- A monitor that stays as it is, is touched. -/
theorem MonitorTouched.refl (monitor : Option SiteMonitor) : MonitorTouched monitor monitor := by
  cases monitor with
  | none => exact .absent
  | some monitor => exact .kept rfl

/-- A statement that leaves monitors, incidents, checks and deliveries alone. -/
theorem ApiEffect.elsewhere {now : Timestamp} {before after : Database}
    (sites : ∀ id, (before.sites.find? id).isSome = true → (after.sites.find? id).isSome = true)
    (checks : after.siteMonitorChecks = before.siteMonitorChecks)
    (deliveries : after.notificationDeliveries = before.notificationDeliveries)
    (monitors : after.siteMonitors = before.siteMonitors)
    (incidents : after.siteMonitorIncidents = before.siteMonitorIncidents)
    : ApiEffect now before after := by
  refine ⟨sites, checks, deliveries, fun id => ?_, ⟨fun incident => incident, fun _ => .same, ?_⟩,
    ?_⟩
  · rw [monitors]
    exact .refl _
  · rw [incidents, List.map_id']
  · rw [incidents]

/-- An update of monitors that keeps the ledger of each. -/
theorem ApiEffect.updateMonitors {now : Timestamp} {db : Database}
    {condition : SiteMonitor → Bool} {set : SiteMonitor → SiteMonitor}
    {keeps : ∀ monitor, condition monitor = true → (set monitor).id = monitor.id}
    (ledger : ∀ monitor, monitorLedger (set monitor) = monitorLedger monitor)
    : ApiEffect now db
        { db with siteMonitors := db.siteMonitors.update condition set keeps } := by
  refine ⟨fun _ => id, rfl, rfl, fun id => ?_, ⟨fun incident => incident, fun _ => .same, ?_⟩, rfl⟩
  · rw [SerialTable.find?_update]
    cases db.siteMonitors.find? id with
    | none => exact .absent
    | some monitor =>
        refine .kept ?_
        change monitorLedger (if condition monitor then set monitor else monitor) = _
        by_cases met : condition monitor = true
        · rw [if_pos met, ledger]
        · rw [if_neg met]
  · rw [List.map_id']

/-- An insert of an untouched monitor. -/
theorem ApiEffect.insertMonitor {now : Timestamp} {db : Database} {make : Int → SiteMonitor}
    {keyed : ∀ id, (make id).id = id} (untouched : ∀ id, Untouched (make id))
    : ApiEffect now db
        { db with siteMonitors := db.siteMonitors.insert make keyed } := by
  refine ⟨fun _ => id, rfl, rfl, fun id => ?_, ⟨fun incident => incident, fun _ => .same, ?_⟩, rfl⟩
  · rw [SerialTable.find?_insert]
    by_cases new : id = db.siteMonitors.nextId
    · rw [if_pos new, new, SerialTable.find?_nextId]
      exact .created (untouched _)
    · rw [if_neg new]
      exact .refl _
  · rw [List.map_id']

/-- An update of incidents whose set list touches the rows that meet the condition. -/
theorem ApiEffect.updateIncidents {now : Timestamp} {db : Database}
    {condition : SiteMonitorIncident → Bool} {set : SiteMonitorIncident → SiteMonitorIncident}
    {keeps : ∀ incident, condition incident = true → (set incident).id = incident.id}
    (touches : ∀ incident, condition incident = true → IncidentTouched now incident (set incident))
    : ApiEffect now db
        { db with siteMonitorIncidents := db.siteMonitorIncidents.update condition set keeps } := by
  refine ⟨fun _ => id, rfl, rfl, fun id => .refl _,
    ⟨fun incident => if condition incident then set incident else incident, fun incident => ?_,
      rfl⟩, rfl⟩
  change IncidentTouched now incident (if condition incident then set incident else incident)
  by_cases met : condition incident = true
  · rw [if_pos met]
    exact touches incident met
  · rw [if_neg met]
    exact .same

------------------------------------------------------------
-- Statements on monitors
------------------------------------------------------------

section Monitors

variable {db after : Database} {now : Timestamp} {siteId siteMonitorId : Int}
  {monitorType : SiteMonitorType} {targetUrl : String}

theorem insertSiteMonitor_effect {fill : SiteMonitor → SiteMonitor}
    {keeps : ∀ monitor, (fill monitor).id = monitor.id} {inserted : SiteMonitor}
    (untouched : ∀ monitor, Untouched monitor → Untouched (fill monitor))
    (done
      : insertSiteMonitor db now siteId monitorType targetUrl fill keeps = .ok (inserted, after))
    : ApiEffect now db after := by
  obtain ⟨_, _, rfl⟩ := insertSiteMonitor_ok done
  exact .insertMonitor fun id => untouched _ ⟨rfl, rfl, rfl⟩

theorem upsertSiteMonitor_effect {fill merge : SiteMonitor → SiteMonitor}
    {fillKeeps : ∀ monitor, (fill monitor).id = monitor.id}
    {mergeKeeps : ∀ monitor, (merge monitor).id = monitor.id} {upserted : SiteMonitor}
    (untouched : ∀ monitor, Untouched monitor → Untouched (fill monitor))
    (ledger : ∀ monitor, monitorLedger (merge monitor) = monitorLedger monitor)
    (done
      : upsertSiteMonitor db now siteId monitorType targetUrl fill merge fillKeeps mergeKeeps
        = .ok (upserted, after))
    : ApiEffect now db after := by
  rcases upsertSiteMonitor_cases done with ⟨_, _, _, _, rfl⟩ | ⟨_, inserted⟩
  · exact .updateMonitors ledger
  · exact insertSiteMonitor_effect untouched inserted

theorem updateSiteMonitorById_effect {set : SiteMonitor → SiteMonitor}
    {keeps : ∀ monitor, (set monitor).id = monitor.id} {updated : Option SiteMonitor}
    (ledger : ∀ monitor, monitorLedger (set monitor) = monitorLedger monitor)
    (done
      : updateSiteMonitorById monitorType db siteId siteMonitorId set keeps
        = .ok (updated, after))
    : ApiEffect now db after := by
  rcases updateSiteMonitorById_cases done with ⟨_, _, rfl⟩ | ⟨_, _, _, _, _, rfl⟩
  · exact .elsewhere (fun _ => id) rfl rfl rfl rfl
  · exact .updateMonitors ledger

theorem setMonitorsActive_effect (condition : SiteMonitor → Bool) (isActive : Bool)
    : ApiEffect now db (setMonitorsActive db now condition isActive).2 :=
  .updateMonitors fun _ => rfl

end Monitors

------------------------------------------------------------
-- Requests and their second statements
------------------------------------------------------------

section Requests

variable {db : Database} {now : Timestamp}

theorem startUpsert_effect {isActive : Bool} {started : Started}
    {result : Except DatabaseError (SiteMonitor × Database)}
    (effect : ∀ monitor after, result = .ok (monitor, after) → ApiEffect now db after)
    (done : startUpsert isActive result = .ok started)
    : ApiEffect now db started.db := by
  cases result with
  | error failure => cases done
  | ok pair =>
      cases done
      exact effect pair.1 pair.2 rfl

theorem startUpdate_effect {isActive : Bool} {started : Started}
    {result : Except DatabaseError (Option SiteMonitor × Database)}
    (effect : ∀ monitor after, result = .ok (monitor, after) → ApiEffect now db after)
    (done : startUpdate isActive result = .ok started)
    : ApiEffect now db started.db := by
  cases result with
  | error failure => cases done
  | ok pair =>
      cases done
      exact effect pair.1 pair.2 rfl

/-- The second statement of a handler has the effect the API is allowed. -/
theorem resolve_effect (pending : PendingResolution)
    : ApiEffect now db (pending.resolve db now).2 := by
  obtain ⟨scope, reason, notRecovered⟩ := pending
  cases scope with
  | monitor siteMonitorId =>
      exact .updateIncidents fun incident met =>
        .resolved (Bool.and_eq_true_iff.mp met).2 notRecovered
  | site siteId =>
      exact .updateIncidents fun incident met =>
        .resolved (Bool.and_eq_true_iff.mp met).2 notRecovered

/-- Every request has only the effect the API is allowed; one case per request. -/
theorem startRequest_effect {request : ApiRequest} {started : Started}
    (done : startRequest db now request = .ok started)
    : ApiEffect now db started.db := by
  cases request with
  | createSite name baseUrl =>
      simp only [startRequest, createSite] at done
      split at done
      · cases done
      · cases done
        refine .elsewhere (fun siteId present => ?_) rfl rfl rfl rfl
        rw [SerialTable.find?_insert]
        split
        · rfl
        · exact present
  | updateSite siteId name baseUrl isActive =>
      simp only [startRequest, updateSite] at done
      split at done
      · cases done
        exact .elsewhere (fun _ => id) rfl rfl rfl rfl
      · split at done
        · cases done
        · cases done
          refine .elsewhere (fun wanted present => ?_) rfl rfl rfl rfl
          rw [SerialTable.find?_update, Option.isSome_map]
          exact present
  | upsertHttpSiteMonitor siteId params =>
      refine startUpsert_effect (fun _ _ done => upsertSiteMonitor_effect ?_ ?_ done) done
      · exact fun _ fresh => ⟨fresh.claimedBy, fresh.leaseUntil, fresh.lastIsSuccess⟩
      · exact fun _ => rfl
  | upsertSslSiteMonitor siteId params =>
      refine startUpsert_effect (fun _ _ done => upsertSiteMonitor_effect ?_ ?_ done) done
      · exact fun _ fresh => ⟨fresh.claimedBy, fresh.leaseUntil, fresh.lastIsSuccess⟩
      · exact fun _ => rfl
  | upsertTcpSiteMonitor siteId params =>
      refine startUpsert_effect (fun _ _ done => upsertSiteMonitor_effect ?_ ?_ done) done
      · exact fun _ fresh => ⟨fresh.claimedBy, fresh.leaseUntil, fresh.lastIsSuccess⟩
      · exact fun _ => rfl
  | upsertDnsSiteMonitor siteId params =>
      refine startUpsert_effect (fun _ _ done => upsertSiteMonitor_effect ?_ ?_ done) done
      · exact fun _ fresh => ⟨fresh.claimedBy, fresh.leaseUntil, fresh.lastIsSuccess⟩
      · exact fun _ => rfl
  | createHeartbeatSiteMonitor siteId params =>
      refine startUpsert_effect (fun _ _ done => insertSiteMonitor_effect ?_ done) done
      exact fun _ fresh => ⟨fresh.claimedBy, fresh.leaseUntil, fresh.lastIsSuccess⟩
  | updateHttpSiteMonitor siteId siteMonitorId params
  | updateSslSiteMonitor siteId siteMonitorId params
  | updateTcpSiteMonitor siteId siteMonitorId params
  | updateDnsSiteMonitor siteId siteMonitorId params
  | updateHeartbeatSiteMonitor siteId siteMonitorId params =>
      refine startUpdate_effect (fun _ _ done => updateSiteMonitorById_effect ?_ done) done
      exact fun _ => rfl
  | pauseSiteMonitorById monitorType siteId siteMonitorId
  | resumeSiteMonitorById monitorType siteId siteMonitorId
  | disableSiteMonitorById monitorType siteId siteMonitorId
  | disableSiteMonitor monitorType siteId =>
      cases done
      exact setMonitorsActive_effect _ _
  | acknowledgeIncident incidentId siteId adminUserId =>
      cases done
      exact .updateIncidents fun _ _ => .acknowledged _ _ _
  | recordHeartbeatPing heartbeatToken =>
      cases done
      exact .updateMonitors fun _ => rfl
  | createChannel params =>
      simp only [startRequest, createChannel] at done
      split at done
      · cases done
      · cases done
        exact .elsewhere (fun _ => id) rfl rfl rfl rfl
  | updateChannel channelId params =>
      simp only [startRequest, updateChannel] at done
      split at done
      · cases done
        exact .elsewhere (fun _ => id) rfl rfl rfl rfl
      · split at done
        · cases done
        · cases done
          exact .elsewhere (fun _ => id) rfl rfl rfl rfl
  | upsertChannelOverride siteId overrideId params =>
      cases done
      simp only [upsertForSite]
      split
      · exact .elsewhere (fun _ => id) rfl rfl rfl rfl
      · exact .elsewhere (fun _ => id) rfl rfl rfl rfl
  | deleteChannelOverride siteId notificationChannelId =>
      cases done
      exact .elsewhere (fun _ => id) rfl rfl rfl rfl

end Requests

end AlonSentinel.System
