import AlonSentinel.System.StoppedMonitors

/-! Disabling the monitors of one type on a site. The handler switches off the monitors of that
type, but it resolves the open incidents of the whole site.
-/

namespace AlonSentinel.System

open Api
open Domain
open KeyedTable
open Notifications
open TransitionSystem

variable {config : DeliveryConfig} {world : World} {db after : Database}
  {monitorType : SiteMonitorType} {siteId : Int}

------------------------------------------------------------
-- Incidents and their sites
------------------------------------------------------------

/-- Every incident is one of a stored monitor and is filed under the site of that monitor. -/
def IncidentsSited (db : Database) : Prop :=
  ∀ incident ∈ db.siteMonitorIncidents.rows,
    ∃ monitor,
      db.siteMonitors.find? incident.siteMonitorId = some monitor
      ∧ incident.siteId = monitor.siteId

theorem incidentsSited_of_reached (reached : Reached config world) : IncidentsSited world.db := by
  intro incident stored
  obtain ⟨facts, present, sameSite⟩ :=
    (monitorHistory_of_reached reached incident.siteMonitorId).site incident
      (mem_incidentsOf stored)
  obtain ⟨monitor, found, rfl⟩ := Option.map_eq_some_iff.mp present
  exact ⟨monitor, found, sameSite.symm⟩

------------------------------------------------------------
-- The frame of the handler
------------------------------------------------------------

/-- An active monitor of another type on the site. -/
structure StillActive (db : Database) (monitorType : SiteMonitorType) (siteId : Int)
    (monitor : SiteMonitor)
    : Prop where
  stored : monitor ∈ db.siteMonitors.rows
  onSite : monitor.siteId = siteId
  otherType : monitor.monitorType ≠ monitorType
  active : monitor.isActive = true

/-- From one database to the next only monitors of one type on a site were disabled, with their
incidents. -/
structure DisablesOnly (monitorType : SiteMonitorType) (siteId : Int) (db after : Database)
    : Prop where
  monitors
    : ∀ monitor,
        StillActive db monitorType siteId monitor
        → after.siteMonitors.find? monitor.id = some monitor
  incidents
    : ∀ monitor,
        StillActive db monitorType siteId monitor
        → incidentsOf after monitor.id = incidentsOf db monitor.id
  resolved
    : ∀ monitor ∈ db.siteMonitors.rows,
        monitor.siteId = siteId
        → monitor.monitorType = monitorType
        → NoOpenIncident after monitor.id

/-- No monitor that stays active has an open incident. -/
def OthersHealthy (db : Database) (monitorType : SiteMonitorType) (siteId : Int) : Prop :=
  ∀ monitor, StillActive db monitorType siteId monitor → NoOpenIncident db monitor.id

/-- What the handler makes of an incident. -/
def resolvedOn (siteId : Int) (resolvedAt : Timestamp) (incident : SiteMonitorIncident)
    : SiteMonitorIncident :=
  if incident.isOpenOn siteId then incident.withResolution resolvedAt .monitoringDisabled
  else incident

theorem resolvedOn_siteMonitorId (siteId : Int) (resolvedAt : Timestamp)
    (incident : SiteMonitorIncident)
    : (resolvedOn siteId resolvedAt incident).siteMonitorId = incident.siteMonitorId := by
  unfold resolvedOn
  split <;> rfl

/-- On its site the handler leaves an incident as it was only if it was not open. -/
theorem resolvedOn_eq_self {resolvedAt : Timestamp} {incident : SiteMonitorIncident}
    (onSite : incident.siteId = siteId)
    : resolvedOn siteId resolvedAt incident = incident ↔ incident.isOpen = false := by
  unfold resolvedOn
  cases isOpen : incident.isOpen with
  | false => simp [SiteMonitorIncident.isOpenOn, isOpen]
  | true =>
      have matched : incident.isOpenOn siteId = true := by
        simp [SiteMonitorIncident.isOpenOn, onSite, isOpen]
      rw [if_pos matched]
      refine iff_of_false (fun same => ?_) (by decide)
      have closed : (incident.withResolution resolvedAt .monitoringDisabled).isOpen = false := rfl
      rw [same, isOpen] at closed
      cases closed

section Handler

variable {disabledAt resolvedAt : Timestamp} {response : DisableSiteMonitorResponse}
  (done : disableHandler monitorType db disabledAt resolvedAt siteId = .ok (response, after))

include done

theorem disableHandler_incidents
    : after.siteMonitorIncidents.rows
      = db.siteMonitorIncidents.rows.map (resolvedOn siteId resolvedAt) := by
  rw [disableHandler_ok done]
  rfl

/-- The handler disables no monitor of another type. -/
theorem disableHandler_monitors {monitor : SiteMonitor}
    (active : StillActive db monitorType siteId monitor)
    : after.siteMonitors.find? monitor.id = some monitor := by
  have unmatched : monitor.isActiveOn monitorType siteId ≠ true := by
    simp [SiteMonitor.isActiveOn, active.otherType]
  have found := Table.find?_key active.stored
  rw [disableHandler_ok done]
  refine (SerialTable.find?_update db.siteMonitors _ _ _ monitor.id).trans ?_
  rw [found, Option.map_some, if_neg unmatched]

/-- The incidents of one monitor after the handler. -/
theorem disableHandler_incidentsOf (siteMonitorId : Int)
    : incidentsOf after siteMonitorId
      = (incidentsOf db siteMonitorId).map (resolvedOn siteId resolvedAt) := by
  rw [incidentsOf, disableHandler_incidents done, List.filter_map, incidentsOf]
  refine congrArg _ (List.filter_congr fun incident _ => ?_)
  rw [Function.comp_apply, resolvedOn_siteMonitorId]

/-- No incident of the site stays open, whatever the type of its monitor. -/
theorem disableHandler_resolved (sited : IncidentsSited db) {monitor : SiteMonitor}
    (stored : monitor ∈ db.siteMonitors.rows) (onSite : monitor.siteId = siteId)
    : NoOpenIncident after monitor.id := by
  intro incident member ofMonitor
  rw [disableHandler_incidents done] at member
  obtain ⟨prior, wasStored, rfl⟩ := List.mem_map.mp member
  rw [resolvedOn_siteMonitorId] at ofMonitor
  obtain ⟨owner, found, sameSite⟩ := sited prior wasStored
  rw [ofMonitor, Table.find?_key stored] at found
  cases found
  have priorSite : prior.siteId = siteId := sameSite.trans onSite
  cases isOpen : prior.isOpen with
  | false => rwa [(resolvedOn_eq_self priorSite).mpr isOpen]
  | true =>
      have matched : prior.isOpenOn siteId = true := by
        simp [SiteMonitorIncident.isOpenOn, priorSite, isOpen]
      rw [resolvedOn, if_pos matched]
      rfl

/-- The handler touches only monitors of its type exactly when no monitor that stays active has
an open incident. -/
theorem disablesOnly_iff (sited : IncidentsSited db)
    : DisablesOnly monitorType siteId db after ↔ OthersHealthy db monitorType siteId := by
  have sites {monitor : SiteMonitor} (active : StillActive db monitorType siteId monitor)
      (incident : SiteMonitorIncident) (own : incident ∈ incidentsOf db monitor.id)
      : incident.siteId = siteId := by
    obtain ⟨stored, ofMonitor⟩ := List.mem_filter.mp own
    obtain ⟨owner, found, sameSite⟩ := sited incident stored
    rw [of_decide_eq_true ofMonitor, Table.find?_key active.stored] at found
    cases found
    exact sameSite.trans active.onSite
  constructor
  · intro only monitor active incident stored ofMonitor
    have own : incident ∈ incidentsOf db monitor.id :=
      List.mem_filter.mpr ⟨stored, decide_eq_true ofMonitor⟩
    have same := only.incidents monitor active
    rw [disableHandler_incidentsOf done] at same
    have kept := List.map_inj_left.mp (same.trans (List.map_id _).symm) incident own
    exact (resolvedOn_eq_self (sites active incident own)).mp kept
  · intro healthy
    refine ⟨fun _ => disableHandler_monitors done, fun monitor active => ?_,
      fun _ stored onSite _ => disableHandler_resolved done sited stored onSite⟩
    rw [disableHandler_incidentsOf done]
    refine (List.map_congr_left fun incident own => ?_).trans (List.map_id _)
    obtain ⟨stored, ofMonitor⟩ := List.mem_filter.mp own
    have closed := healthy monitor active incident stored (of_decide_eq_true ofMonitor)
    exact (resolvedOn_eq_self (sites active incident own)).mpr closed

end Handler

/-- The site has an SSL monitor besides its HTTP monitor, and the SSL monitor is failing. -/
def sslOutage : List Action :=
  [.request
      (.upsertSslSiteMonitor 1
        { targetUrl := "https://shop.test", checkIntervalSeconds := 60
          sslExpiryWarningDays := none, httpCheckTimeoutSecondsOverride := none
          httpCheckMaxAttemptsOverride := none, httpCheckRetryDelaysMsOverride := none
          isActive := true }),
    .claimSiteMonitors "w1" 10 60 [], .check "w1" 2 (.ensureInitialLease 60),
    .check "w1" 2 (.beginSave (completedCheck false)), .check "w1" 2 .lookupIncident,
    .check "w1" 2 .commitSave]

/-- The database after the HTTP monitor was disabled during that outage. -/
def httpDisabled : Database :=
  (resolveOpenIncidentsForSite
    (disableMonitorsBySiteId .http (smallRun sslOutage).db 0 1).2 0 1 .monitoringDisabled).2

theorem httpDisabled_ok
    : disableHandler .http (smallRun sslOutage).db 0 0 1 = .ok (⟨true⟩, httpDisabled) :=
  rfl

theorem disablesOnly_iff_sslOutage
    : DisablesOnly .http 1 (smallRun sslOutage).db httpDisabled
      ↔ OthersHealthy (smallRun sslOutage).db .http 1 :=
  disablesOnly_iff httpDisabled_ok (incidentsSited_of_reached smallRun_reached)

/-- Disabling the HTTP monitor resolves the incident of the SSL monitor. -/
theorem disableHandler_resolves_other
    : ¬∀ (db after : Database) (monitorType : SiteMonitorType)
          (disabledAt resolvedAt : Timestamp) (siteId : Int)
          (response : DisableSiteMonitorResponse),
        IncidentsSited db
        → disableHandler monitorType db disabledAt resolvedAt siteId = .ok (response, after)
        → DisablesOnly monitorType siteId db after := by
  intro frame
  have only : DisablesOnly .http 1 (smallRun sslOutage).db httpDisabled :=
    frame _ _ _ _ _ _ _ (incidentsSited_of_reached smallRun_reached) httpDisabled_ok
  let sslMonitor := (smallRun sslOutage).db.siteMonitors.rows.getLast (by decide +kernel)
  have active : StillActive (smallRun sslOutage).db .http 1 sslMonitor :=
    ⟨List.getLast_mem _, rfl, by decide +kernel, rfl⟩
  have same := congrArg (List.map (·.isOpen)) (only.incidents sslMonitor active)
  revert same
  decide +kernel

end AlonSentinel.System
