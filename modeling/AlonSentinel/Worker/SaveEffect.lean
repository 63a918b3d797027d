import AlonSentinel.Worker.SaveCheckResult

/-! What a save does to every table, when it commits, and what it does to the incidents of one
monitor.
-/

namespace AlonSentinel.Worker

open Domain
open KeyedTable
open Notifications

------------------------------------------------------------
-- Decisions
------------------------------------------------------------

/-- Whether a decision opens an incident. -/
def IncidentAction.opens (action : IncidentAction) : Bool :=
  action = .openNew || action = .reopenMissing

/-- Opening is decided for a failing check without an incident to carry on. -/
theorem classifyIncidentAction_opens {last : Option Bool} {current hasOpen : Bool}
    : (classifyIncidentAction last current hasOpen).opens = true
      ↔ current = false ∧ (last = some false → hasOpen = false) := by
  rcases last with _ | _ | _ <;> cases current <;> cases hasOpen <;> decide

theorem classifyIncidentAction_eq_updateExisting {last : Option Bool} {current hasOpen : Bool}
    : classifyIncidentAction last current hasOpen = .updateExisting
      ↔ last = some false ∧ current = false ∧ hasOpen = true := by
  rcases last with _ | _ | _ <;> cases current <;> cases hasOpen <;> decide

theorem classifyIncidentAction_eq_resolve {last : Option Bool} {current hasOpen : Bool}
    : classifyIncidentAction last current hasOpen = .resolve
      ↔ last = some false ∧ current = true ∧ hasOpen = true := by
  rcases last with _ | _ | _ <;> cases current <;> cases hasOpen <;> decide

------------------------------------------------------------
-- Incidents
------------------------------------------------------------

/-- Sets columns in the incidents that meet a condition. -/
def updateIncidents (condition : SiteMonitorIncident → Bool)
    (set : SiteMonitorIncident → SiteMonitorIncident) (incidents : List SiteMonitorIncident)
    : List SiteMonitorIncident :=
  incidents.map fun incident => if condition incident then set incident else incident

/-- The four ways in which a save leaves the incidents; `nextId` is the id of a new one. -/
inductive IncidentsManaged (now : Timestamp) (siteMonitor : SiteMonitor)
    (check : SiteMonitorCheck) (found : Option SiteMonitorIncident) (nextId : Int)
    (before : List SiteMonitorIncident)
    : List SiteMonitorIncident → Prop
  | opened
      (decided
        : (classifyIncidentAction siteMonitor.lastIsSuccess check.isSuccess
            found.isSome).opens = true)
      (noneOpen : ∀ incident ∈ before, incident.isOpenFor siteMonitor.id = false)
    : IncidentsManaged now siteMonitor check found nextId before
        (before ++ [(openIncidentParams siteMonitor check).row now siteMonitor.siteId nextId])
  | updated (incident : SiteMonitorIncident) (isFound : found = some incident)
      (failedBefore : siteMonitor.lastIsSuccess = some false)
      (fails : check.isSuccess = false)
    : IncidentsManaged now siteMonitor check found nextId before
        (updateIncidents (·.isOpenAt incident.id)
          (·.withFailure now (incidentFailureParams check)) before)
  | resolved (incident : SiteMonitorIncident) (isFound : found = some incident)
      (failedBefore : siteMonitor.lastIsSuccess = some false)
      (succeeds : check.isSuccess = true)
    : IncidentsManaged now siteMonitor check found nextId before
        (updateIncidents (·.isOpenAt incident.id)
          (·.withRecovery now (resolveIncidentParams check)) before)
  | unchanged
      (decided
        : classifyIncidentAction siteMonitor.lastIsSuccess check.isSuccess found.isSome
          = .noAction)
    : IncidentsManaged now siteMonitor check found nextId before before

/-- Every incident after a save either was there before, or is the new one. -/
theorem IncidentsManaged.origin {now : Timestamp} {siteMonitor : SiteMonitor}
    {check : SiteMonitorCheck} {found : Option SiteMonitorIncident} {nextId : Int}
    {before after : List SiteMonitorIncident}
    (managed : IncidentsManaged now siteMonitor check found nextId before after)
    {incident : SiteMonitorIncident} (member : incident ∈ after)
    : (∃ prior ∈ before,
        incident.id = prior.id ∧ incident.siteMonitorId = prior.siteMonitorId
        ∧ incident.siteId = prior.siteId)
      ∨ (incident.siteMonitorId = siteMonitor.id ∧ incident.siteId = siteMonitor.siteId) := by
  cases managed with
  | opened _ _ =>
      rcases List.mem_append.mp member with stored | new
      · exact .inl ⟨incident, stored, rfl, rfl, rfl⟩
      · rw [List.mem_singleton.mp new]
        exact .inr ⟨rfl, rfl⟩
  | updated _ _ _ _ | resolved _ _ _ _ =>
      obtain ⟨prior, stored, rfl⟩ := List.mem_map.mp member
      refine .inl ⟨prior, stored, ?_⟩
      split
      · exact ⟨rfl, rfl, rfl⟩
      · exact ⟨rfl, rfl, rfl⟩
  | unchanged _ => exact .inl ⟨incident, member, rfl, rfl, rfl⟩

/-- A save takes no incident away. -/
theorem IncidentsManaged.kept {now : Timestamp} {siteMonitor : SiteMonitor}
    {check : SiteMonitorCheck} {found : Option SiteMonitorIncident} {nextId : Int}
    {before after : List SiteMonitorIncident}
    (managed : IncidentsManaged now siteMonitor check found nextId before after)
    {incident : SiteMonitorIncident} (member : incident ∈ before)
    : ∃ kept ∈ after, kept.id = incident.id ∧ kept.siteMonitorId = incident.siteMonitorId := by
  cases managed with
  | opened _ _ => exact ⟨incident, List.mem_append_left _ member, rfl, rfl⟩
  | updated _ _ _ _ | resolved _ _ _ _ =>
      refine ⟨_, List.mem_map.mpr ⟨incident, member, rfl⟩, ?_⟩
      split
      · exact ⟨rfl, rfl⟩
      · exact ⟨rfl, rfl⟩
  | unchanged _ => exact ⟨incident, member, rfl, rfl⟩

------------------------------------------------------------
-- Saves seen from one monitor
------------------------------------------------------------

section Saves

variable {now : Timestamp} {siteMonitor : SiteMonitor} {check : SiteMonitorCheck}
  {found : Option SiteMonitorIncident} {nextId : Int}
  {before after incidents : List SiteMonitorIncident}

/-- An update that keeps the monitor of each incident acts on the incidents of a monitor. -/
theorem filter_updateIncidents (condition : SiteMonitorIncident → Bool)
    {set : SiteMonitorIncident → SiteMonitorIncident}
    (keeps : ∀ incident, (set incident).siteMonitorId = incident.siteMonitorId)
    (siteMonitorId : Int)
    : (updateIncidents condition set incidents).filter (·.siteMonitorId = siteMonitorId)
      = updateIncidents condition set (incidents.filter (·.siteMonitorId = siteMonitorId)) := by
  have sameMonitor (incident : SiteMonitorIncident)
      : (if condition incident then set incident else incident).siteMonitorId
        = incident.siteMonitorId := by
    split
    · exact keeps incident
    · rfl
  rw [updateIncidents, List.filter_map, updateIncidents]
  refine congrArg _ (List.filter_congr fun incident _ => ?_)
  rw [Function.comp_apply, sameMonitor]

/-- A save acts on the incidents of its own monitor as it does on the table. -/
theorem IncidentsManaged.ofMonitor
    (managed : IncidentsManaged now siteMonitor check found nextId before after)
    : IncidentsManaged now siteMonitor check found nextId
        (before.filter (·.siteMonitorId = siteMonitor.id))
        (after.filter (·.siteMonitorId = siteMonitor.id)) := by
  cases managed with
  | opened decided noneOpen =>
      have own
          : [(openIncidentParams siteMonitor check).row now siteMonitor.siteId nextId].filter
              (·.siteMonitorId = siteMonitor.id)
            = [(openIncidentParams siteMonitor check).row now siteMonitor.siteId nextId] :=
        List.filter_cons_of_pos (decide_eq_true rfl)
      rw [List.filter_append, own]
      exact .opened decided fun incident member => noneOpen incident (List.mem_filter.mp member).1
  | updated incident isFound failedBefore fails =>
      rw [filter_updateIncidents]
      · exact .updated incident isFound failedBefore fails
      · exact fun _ => rfl
  | resolved incident isFound failedBefore succeeds =>
      rw [filter_updateIncidents]
      · exact .resolved incident isFound failedBefore succeeds
      · exact fun _ => rfl
  | unchanged decided => exact .unchanged decided

/-- An update of one incident leaves those of other monitors alone. -/
theorem updateIncidents_elsewhere {incident : SiteMonitorIncident}
    {set : SiteMonitorIncident → SiteMonitorIncident} {siteMonitorId other : Int}
    (different : other ≠ siteMonitorId)
    (keeps : ∀ incident, (set incident).siteMonitorId = incident.siteMonitorId)
    (own
      : ∀ stored ∈ incidents,
          stored.id = incident.id → stored.siteMonitorId = siteMonitorId)
    : (updateIncidents (·.isOpenAt incident.id) set incidents).filter (·.siteMonitorId = other)
      = incidents.filter (·.siteMonitorId = other) := by
  rw [filter_updateIncidents _ keeps, updateIncidents]
  refine (List.map_congr_left fun stored member => ?_).trans (List.map_id' _)
  obtain ⟨there, ofOther⟩ := List.mem_filter.mp member
  refine if_neg fun matched => different ?_
  have sameId := of_decide_eq_true (Bool.and_eq_true_iff.mp matched).1
  exact (of_decide_eq_true ofOther).symm.trans (own stored there sameId)

/-- A save leaves the incidents of other monitors alone, if it looked up one of its own. -/
theorem IncidentsManaged.elsewhere {other : Int} (different : other ≠ siteMonitor.id)
    (own
      : ∀ incident,
          found = some incident
          → ∀ stored ∈ before, stored.id = incident.id → stored.siteMonitorId = siteMonitor.id)
    (managed : IncidentsManaged now siteMonitor check found nextId before after)
    : after.filter (·.siteMonitorId = other) = before.filter (·.siteMonitorId = other) := by
  cases managed with
  | opened _ _ =>
      have elsewhere
          : [(openIncidentParams siteMonitor check).row now siteMonitor.siteId nextId].filter
              (·.siteMonitorId = other)
            = [] :=
        List.filter_cons_of_neg (mt of_decide_eq_true different.symm)
      rw [List.filter_append, elsewhere, List.append_nil]
  | updated incident isFound _ _ =>
      exact updateIncidents_elsewhere different (fun _ => rfl) (own incident isFound)
  | resolved incident isFound _ _ =>
      exact updateIncidents_elsewhere different (fun _ => rfl) (own incident isFound)
  | unchanged _ => rfl

end Saves

------------------------------------------------------------
-- Whole saves
------------------------------------------------------------

/-- Managing incidents changes only their table, in one of the four ways. -/
theorem manageIncidentLifecycle_ok {db after : Database} {now : Timestamp}
    {siteMonitor : SiteMonitor} {check : SiteMonitorCheck} {found : Option SiteMonitorIncident}
    {incidentId : Option Int}
    (managed
      : manageIncidentLifecycle db now siteMonitor check found = .ok (incidentId, after))
    : ∃ incidents,
        after = { db with siteMonitorIncidents := incidents }
        ∧ IncidentsManaged now siteMonitor check found db.siteMonitorIncidents.nextId
            db.siteMonitorIncidents.rows incidents.rows := by
  have openedCase
      (decided
        : (classifyIncidentAction siteMonitor.lastIsSuccess check.isSuccess
            found.isSome).opens = true)
      (opened
        : (openIncident db now siteMonitor.siteId (openIncidentParams siteMonitor check)).bind
            (fun result => .ok (some result.1.id, result.2))
          = .ok (incidentId, after))
      : ∃ incidents,
          after = { db with siteMonitorIncidents := incidents }
          ∧ IncidentsManaged now siteMonitor check found db.siteMonitorIncidents.nextId
              db.siteMonitorIncidents.rows incidents.rows := by
    unfold openIncident at opened
    cases noneOpen : db.siteMonitorIncidents.rows.any (·.isOpenFor siteMonitor.id) with
    | true =>
        simp only [openIncidentParams, noneOpen, if_true] at opened
        cases opened
    | false =>
        simp only [openIncidentParams, noneOpen, Bool.false_eq_true, if_false] at opened
        cases opened
        exact ⟨_, rfl, .opened decided fun incident stored =>
          Bool.eq_false_iff.mpr (List.any_eq_false.mp noneOpen incident stored)⟩
  unfold manageIncidentLifecycle at managed
  split at managed
  · next decided => exact openedCase (by rw [decided]; rfl) managed
  · next decided => exact openedCase (by rw [decided]; rfl) managed
  · next incident decided =>
      cases managed
      obtain ⟨failedBefore, fails, _⟩ := classifyIncidentAction_eq_updateExisting.mp decided
      exact ⟨_, rfl, .updated incident rfl failedBefore fails⟩
  · next incident decided =>
      cases managed
      obtain ⟨failedBefore, succeeds, _⟩ := classifyIncidentAction_eq_resolve.mp decided
      exact ⟨_, rfl, .resolved incident rfl failedBefore succeeds⟩
  · next decided =>
      have isSome := (classifyIncidentAction_eq_updateExisting.mp decided).2.2
      cases isSome
  · next decided =>
      have isSome := (classifyIncidentAction_eq_resolve.mp decided).2.2
      cases isSome
  · next decided =>
      cases managed
      exact ⟨_, rfl, .unchanged decided⟩

/-- Managing incidents fails only where an open incident blocks a new one. -/
theorem manageIncidentLifecycle_succeeds (db : Database) (now : Timestamp)
    (siteMonitor : SiteMonitor) (check : SiteMonitorCheck) (found : Option SiteMonitorIncident)
    (unblocked
      : (classifyIncidentAction siteMonitor.lastIsSuccess check.isSuccess found.isSome).opens
          = true
        → db.siteMonitorIncidents.rows.any (·.isOpenFor siteMonitor.id) = false)
    : ∃ incidentId after,
        manageIncidentLifecycle db now siteMonitor check found = .ok (incidentId, after) := by
  unfold manageIncidentLifecycle
  split
  · next decided =>
      have noneOpen := unblocked (by rw [decided]; rfl)
      simp only [openIncident, openIncidentParams, noneOpen, Bool.false_eq_true, if_false]
      exact ⟨_, _, rfl⟩
  · next decided =>
      have noneOpen := unblocked (by rw [decided]; rfl)
      simp only [openIncident, openIncidentParams, noneOpen, Bool.false_eq_true, if_false]
      exact ⟨_, _, rfl⟩
  all_goals exact ⟨_, _, rfl⟩

/-- The effect of a committed save on every table. -/
structure SaveEffect (db : Database) (startedAt : Timestamp) (siteMonitor : SiteMonitor)
    (workerId : String) (completed : CompletedMonitorCheck)
    (found : Option SiteMonitorIncident) (saved : Database)
    : Prop where
  claimed
    : (db.siteMonitors.find? siteMonitor.id).any (·.isClaimedBy siteMonitor.id workerId) = true
  sites : saved.sites = db.sites
  notificationChannels : saved.notificationChannels = db.notificationChannels
  siteNotificationChannelOverrides
    : saved.siteNotificationChannelOverrides = db.siteNotificationChannelOverrides
  siteMonitors
    : saved.siteMonitors
      = db.siteMonitors.update (·.isClaimedBy siteMonitor.id workerId)
          (·.withLastCheck startedAt completed.lastCheckParams)
  siteMonitorChecks
    : saved.siteMonitorChecks
      = db.siteMonitorChecks.insert
          ((completed.checkParams siteMonitor).row startedAt siteMonitor.id)
  siteMonitorIncidents
    : IncidentsManaged startedAt siteMonitor (completed.savedCheck db startedAt siteMonitor)
        found db.siteMonitorIncidents.nextId db.siteMonitorIncidents.rows
        saved.siteMonitorIncidents.rows
  notificationDeliveries
    : ∃ incidentId payload,
        saved.notificationDeliveries
        = (requestedDeliveries db siteMonitor (completed.savedCheck db startedAt siteMonitor)
            incidentId payload).foldl (enqueueDelivery startedAt) db.notificationDeliveries

/-- A save that commits has its effect on every table. -/
theorem saveCheckResult_ok {db saved : Database} {startedAt : Timestamp}
    {siteMonitor : SiteMonitor} {workerId : String} {completed : CompletedMonitorCheck}
    {found : Option SiteMonitorIncident}
    (committed
      : saveCheckResult db startedAt siteMonitor workerId completed found = .ok saved)
    : SaveEffect db startedAt siteMonitor workerId completed found saved := by
  unfold saveCheckResult createSiteMonitorCheck at committed
  simp only at committed
  cases managed
      : manageIncidentLifecycle
          { db with
            siteMonitorChecks :=
              db.siteMonitorChecks.insert
                ((completed.checkParams siteMonitor).row startedAt siteMonitor.id) }
          startedAt siteMonitor (completed.savedCheck db startedAt siteMonitor) found with
  | error failure =>
      simp only [CompletedMonitorCheck.savedCheck] at managed
      rw [managed] at committed
      cases committed
  | ok result =>
      obtain ⟨incidentId, managedDb⟩ := result
      obtain ⟨incidents, rfl, change⟩ := manageIncidentLifecycle_ok managed
      simp only [CompletedMonitorCheck.savedCheck] at managed
      rw [managed] at committed
      obtain ⟨payload, enqueued⟩ :=
        enqueueSiteMonitorNotifications_eq
          { db with
            siteMonitorChecks :=
              db.siteMonitorChecks.insert
                ((completed.checkParams siteMonitor).row startedAt siteMonitor.id)
            siteMonitorIncidents := incidents }
          startedAt siteMonitor (completed.savedCheck db startedAt siteMonitor) incidentId
      simp only [CompletedMonitorCheck.savedCheck] at enqueued
      simp only [Except.mapError, bind, Except.bind, enqueued] at committed
      split at committed
      · next claimed =>
          cases committed
          exact ⟨claimed, rfl, rfl, rfl, rfl, rfl, change, incidentId, payload, rfl⟩
      · cases committed

/-- An owner's save commits, unless it decides to open an incident while one is open. -/
theorem saveCheckResult_succeeds {db : Database} {startedAt : Timestamp}
    {siteMonitor : SiteMonitor} {workerId : String} {completed : CompletedMonitorCheck}
    {found : Option SiteMonitorIncident}
    (claimed
      : (db.siteMonitors.find? siteMonitor.id).any (·.isClaimedBy siteMonitor.id workerId)
        = true)
    (unblocked
      : (classifyIncidentAction siteMonitor.lastIsSuccess completed.result.isSuccess
            found.isSome).opens
          = true
        → db.siteMonitorIncidents.rows.any (·.isOpenFor siteMonitor.id) = false)
    : ∃ saved,
        saveCheckResult db startedAt siteMonitor workerId completed found = .ok saved := by
  unfold saveCheckResult createSiteMonitorCheck
  simp only
  obtain ⟨incidentId, after, managed⟩ :=
    manageIncidentLifecycle_succeeds
      { db with
        siteMonitorChecks :=
          db.siteMonitorChecks.insert
            ((completed.checkParams siteMonitor).row startedAt siteMonitor.id) }
      startedAt siteMonitor (completed.savedCheck db startedAt siteMonitor) found unblocked
  obtain ⟨incidents, rfl, _⟩ := manageIncidentLifecycle_ok managed
  simp only [CompletedMonitorCheck.savedCheck] at managed
  rw [managed]
  obtain ⟨payload, enqueued⟩ :=
    enqueueSiteMonitorNotifications_eq
      { db with
        siteMonitorChecks :=
          db.siteMonitorChecks.insert
            ((completed.checkParams siteMonitor).row startedAt siteMonitor.id)
        siteMonitorIncidents := incidents }
      startedAt siteMonitor (completed.savedCheck db startedAt siteMonitor) incidentId
  simp only [CompletedMonitorCheck.savedCheck] at enqueued
  simp only [Except.mapError, bind, Except.bind, enqueued]
  exact ⟨_, if_pos claimed⟩

end AlonSentinel.Worker
