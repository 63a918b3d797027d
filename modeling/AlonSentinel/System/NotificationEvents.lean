import AlonSentinel.System.IncidentInvariants

/-! The events that committed checks determine, and the deliveries queued for them: failures and
recoveries take turns, and each event reaches every channel that wants it exactly once.
-/

namespace AlonSentinel.System

open Domain
open KeyedTable
open Notifications
open TransitionSystem
open Worker

variable {config : DeliveryConfig} {world after : World}

------------------------------------------------------------
-- Sites and checks that rows refer to
------------------------------------------------------------

/-- No site goes away. -/
theorem Stepped.sitesKept (stepped : Stepped config world after) (siteId : Int)
    (present : (world.db.sites.find? siteId).isSome = true)
    : (after.db.sites.find? siteId).isSome = true := by
  cases stepped with
  | waited _ | claimedMonitors _ _ _ | claimedDeliveries _ _ _ => exact present
  | checked _ checked =>
      cases checked with
      | committed _ effect => exact effect.sites ▸ present
      | extended _ _ | released _ | waited _ | began _ | lookedUp _ | ended => exact present
  | delivered _ delivered =>
      cases delivered with
      | extended _ _ | released _ | delivered _ | failed _ _ _ | ended => exact present
  | served _ effect => exact effect.sites siteId present

/-- The site of every claimed monitor exists. -/
def JobSitesExist (world : World) : Prop :=
  ∀ workerId siteMonitorId job,
    (world.checkBatches workerId).find? siteMonitorId = some job
    → (world.db.sites.find? job.siteMonitor.siteId).isSome = true

theorem jobSitesExist_of_reached (reached : Reached config world) : JobSitesExist world := by
  refine reached.invariant JobSitesExist ?_ ?_
  · intro start fresh workerId siteMonitorId job held
    have stored := (Table.mem_of_find? held).1
    rw [fresh.noCheckJobs workerId] at stored
    cases stored
  · intro state action next _ exist taken workerId siteMonitorId job held
    have stepped := step_cases taken
    rcases stepped.job_cases held with
      was | ⟨monitor, locked, _, due, rfl, _, sites⟩ | ⟨prior, _, was, _, _, sameMonitor, _⟩
    · exact stepped.sitesKept _ (exist _ _ _ was)
    · simp only [SiteMonitor.dueForCheck, Bool.and_eq_true] at due
      obtain ⟨site, found, _⟩ := (Option.any_eq_true _ _).mp due.1.1.1.2
      change (next.db.sites.find? monitor.siteId).isSome = true
      rw [sites, found]
      rfl
    · rw [sameMonitor]
      exact stepped.sitesKept _ (exist _ _ _ was)

/-- Every delivery is about a check that was issued its id. -/
def DeliveriesIssued (db : Database) : Prop :=
  ∀ deliveryId delivery,
    db.notificationDeliveries.find? deliveryId = some delivery
    → delivery.siteMonitorCheckId < db.siteMonitorChecks.nextId

/-- What a request asks for is about the check of the save. -/
theorem check_of_requestedDeliveries {db : Database} {siteMonitor : SiteMonitor}
    {check : SiteMonitorCheck} {incidentId : Option Int} {payload : SerdeJson.Value}
    {request : NewNotificationDelivery}
    (member : request ∈ requestedDeliveries db siteMonitor check incidentId payload)
    : request.siteMonitorCheckId = check.id
      ∧ request.siteMonitorId = siteMonitor.id
      ∧ determineEventType siteMonitor.lastIsSuccess check.isSuccess
        = some request.eventType := by
  unfold requestedDeliveries at member
  split at member
  · cases member
  · next determined =>
      obtain ⟨channel, _, rfl⟩ := List.mem_map.mp member
      exact ⟨rfl, rfl, determined⟩

/-- A guarded update that keeps the check of a delivery. -/
theorem DeliveriesIssued.updateClaimed {db : Database} {deliveryId : Int} {workerId : String}
    {set : NotificationDelivery → NotificationDelivery}
    {keeps : ∀ delivery, (set delivery).id = delivery.id} (issued : DeliveriesIssued db)
    (sameCheck : ∀ delivery, (set delivery).siteMonitorCheckId = delivery.siteMonitorCheckId)
    : DeliveriesIssued (updateClaimedDelivery db deliveryId workerId set keeps).2 := by
  intro wanted delivery found
  have updated : (updateClaimedDelivery db deliveryId workerId set
      keeps).2.notificationDeliveries.find? wanted = _ :=
    SerialTable.find?_update _ _ _ _ wanted
  obtain ⟨prior, was, rfl⟩ := Option.map_eq_some_iff.mp (updated.symm.trans found)
  have bound := issued wanted prior was
  split
  · rw [sameCheck]
    exact bound
  · exact bound

theorem deliveriesIssued_of_reached (reached : Reached config world)
    : DeliveriesIssued world.db := by
  refine reached.invariant (fun world => DeliveriesIssued world.db) ?_ ?_
  · intro start fresh deliveryId delivery found
    have stored := (Table.mem_of_find? found).1
    rw [fresh.noDeliveries] at stored
    cases stored
  · intro state action next _ issued taken
    cases step_cases taken with
    | waited _ | claimedMonitors _ _ _ => exact issued
    | checked _ checked =>
        cases checked with
        | extended _ _ | released _ | waited _ | began _ | lookedUp _ | ended => exact issued
        | @committed _ _ _ saved _ effect =>
            intro deliveryId delivery found
            obtain ⟨incidentId, payload, queued⟩ := effect.notificationDeliveries
            have grown
                : saved.siteMonitorChecks.nextId = state.db.siteMonitorChecks.nextId + 1 := by
              rw [effect.siteMonitorChecks]
              rfl
            simp only [World.afterCheck, queued] at found
            change delivery.siteMonitorCheckId < saved.siteMonitorChecks.nextId
            rcases find?_foldl_enqueueDelivery deliveryId with same | ⟨_, request, member, row⟩
            · have bound := issued deliveryId delivery (same.symm.trans found)
              omega
            · cases row.symm.trans found
              have ofCheck : request.siteMonitorCheckId = state.db.siteMonitorChecks.nextId :=
                (check_of_requestedDeliveries member).1
              change request.siteMonitorCheckId < saved.siteMonitorChecks.nextId
              omega
    | claimedDeliveries _ _ claim =>
        intro deliveryId delivery found
        rcases claim deliveryId with ⟨same, _⟩ | ⟨prior, _, was, _, taken, _⟩
        · exact issued deliveryId delivery (same.symm.trans found)
        · cases taken.symm.trans found
          exact issued deliveryId prior was
    | delivered _ delivered =>
        cases delivered with
        | extended _ _ | released _ | delivered _ | failed _ _ _ =>
            exact issued.updateClaimed fun _ => rfl
        | ended => exact issued
    | served _ effect =>
        intro deliveryId delivery found
        rw [effect.deliveries] at found
        rw [effect.checks]
        exact issued deliveryId delivery found

------------------------------------------------------------
-- Events and deliveries
------------------------------------------------------------

/-- A commit determines an event exactly when its outcome differs from the one before; a
monitor that was never checked counts as successful. -/
def EventsAtChanges (world : World) : Prop :=
  ∀ siteMonitorId before commit later,
    commitsOf world siteMonitorId = before ++ commit :: later
    → (commit.eventType.isSome = true
        ↔ commit.check.isSuccess ≠ (lastOutcome before).getD true)

/-- Whether a channel wants an event of a site: the settings of the site's override count where
they are set, else those of the channel. -/
def wantsEvent (db : Database) (siteId : Int) (channel : NotificationChannel)
    (eventType : NotificationEventType)
    : Bool :=
  let siteOverride := db.siteNotificationChannelOverrides.find? (siteId, channel.id)
  (siteOverride.bind (·.isActive)).getD channel.isActive
  && match eventType with
      | .failure => (siteOverride.bind (·.notifyOnFailure)).getD channel.notifyOnFailure
      | .recovery => (siteOverride.bind (·.notifyOnRecovery)).getD channel.notifyOnRecovery

/-- How many deliveries a commit owes a channel. -/
def deliveriesOwed (db : Database) (siteId channelId : Int)
    (eventType : Option NotificationEventType)
    : Nat :=
  if (db.notificationChannels.find? channelId).any fun channel =>
      eventType.any (wantsEvent db siteId channel)
  then 1 else 0

/-- A commit adds the deliveries of its event, one for each channel that wants it, and no
others. -/
def EventsDelivered (config : DeliveryConfig) (world : World) : Prop :=
  ∀ action after commit,
    step config world action = some after
    → after.commits = world.commits ++ [commit]
    → ∃ monitor added,
        world.db.siteMonitors.find? commit.check.siteMonitorId = some monitor
        ∧ after.db.notificationDeliveries.rows = world.db.notificationDeliveries.rows ++ added
        ∧ (∀ delivery ∈ added,
            delivery.siteMonitorCheckId = commit.check.id
            ∧ delivery.siteMonitorId = commit.check.siteMonitorId
            ∧ commit.eventType = some delivery.eventType
            ∧ delivery.status = .pending)
        ∧ ∀ channelId,
            added.countP (·.notificationChannelId = channelId)
            = deliveriesOwed world.db monitor.siteId channelId commit.eventType

theorem eventsAtChanges (reached : Reached config world) : EventsAtChanges world := by
  intro siteMonitorId before commit later split
  have events := (monitorHistory_of_reached reached siteMonitorId).events
  rw [events before commit later split]
  exact determineEventType_isSome _ _

/-- What `list_effective_by_site_id` and the two filters after it keep is what the settings
say. -/
theorem wantsEvent_iff {db : Database} {siteId : Int} {channel : NotificationChannel}
    {eventType : NotificationEventType}
    : wantsEvent db siteId channel eventType = true
      ↔ (channel.effective
            (db.siteNotificationChannelOverrides.find? (siteId, channel.id))).isActive = true
        ∧ subscribedTo eventType
            (channel.effective
              (db.siteNotificationChannelOverrides.find? (siteId, channel.id)))
          = true := by
  cases eventType with
  | failure | recovery => exact Bool.and_eq_true_iff

/-- The channels that a save asks to notify, counted by channel. -/
theorem count_requestedDeliveries {db : Database} {siteMonitor : SiteMonitor}
    {check : SiteMonitorCheck} {incidentId : Option Int} {payload : SerdeJson.Value}
    (siteExists : (db.sites.find? siteMonitor.siteId).isSome = true) (channelId : Int)
    : ((requestedDeliveries db siteMonitor check incidentId payload).map
          (·.notificationChannelId)).count channelId
      = deliveriesOwed db siteMonitor.siteId channelId
          (determineEventType siteMonitor.lastIsSuccess check.isSuccess) := by
  unfold requestedDeliveries deliveriesOwed
  cases determineEventType siteMonitor.lastIsSuccess check.isSuccess with
  | none => simp
  | some eventType =>
      rw [List.map_map]
      change ((notifiedChannels db siteMonitor.siteId eventType).map (·.id)).count channelId = _
      rw [(nodup_notifiedChannels db siteMonitor.siteId eventType).count]
      refine if_congr ?_ rfl rfl
      rw [mem_notifiedChannels siteExists, Option.any_eq_true]
      refine exists_congr fun channel => and_congr_right fun found => ?_
      have same : channel.id = channelId := (Table.mem_of_find? found).2
      rw [Option.any_some, wantsEvent_iff, same]

/-- Each request of a save is for a channel of its own, and conflicts with no stored delivery,
since the check is new: all of them are stored. -/
theorem deliveries_of_save {db saved : Database} {startedAt : Timestamp}
    {siteMonitor : SiteMonitor} {workerId : String} {completed : CompletedMonitorCheck}
    {found : Option SiteMonitorIncident} (issued : DeliveriesIssued db)
    (effect : SaveEffect db startedAt siteMonitor workerId completed found saved)
    : ∃ incidentId payload added,
        let requested :=
          requestedDeliveries db siteMonitor (completed.savedCheck db startedAt siteMonitor)
            incidentId payload
        saved.notificationDeliveries.rows = db.notificationDeliveries.rows ++ added
        ∧ added.map (·.notificationChannelId) = requested.map (·.notificationChannelId)
        ∧ ∀ delivery ∈ added,
            ∃ request ∈ requested, ∃ id, delivery = request.row startedAt id := by
  obtain ⟨incidentId, payload, queued⟩ := effect.notificationDeliveries
  have distinct
      : ((requestedDeliveries db siteMonitor (completed.savedCheck db startedAt siteMonitor)
          incidentId payload).map (·.notificationChannelId)).Nodup := by
    unfold requestedDeliveries
    split
    · exact List.nodup_nil
    · rw [List.map_map]
      exact nodup_notifiedChannels db _ _
  have unstored
      : ∀ request ∈ requestedDeliveries db siteMonitor
            (completed.savedCheck db startedAt siteMonitor) incidentId payload,
          ∀ stored ∈ db.notificationDeliveries.rows, request.conflictsWith stored = false := by
    intro request member stored isStored
    have ofCheck : request.siteMonitorCheckId = db.siteMonitorChecks.nextId :=
      (check_of_requestedDeliveries member).1
    have bound := issued stored.id stored (Table.find?_key isStored)
    have apart : stored.siteMonitorCheckId ≠ request.siteMonitorCheckId := by omega
    simp [NewNotificationDelivery.conflictsWith, apart]
  obtain ⟨added, rows, channels, each⟩ := rows_foldl_enqueueDelivery distinct unstored
  exact ⟨incidentId, payload, added, queued ▸ rows, channels, each⟩

/-- Counting deliveries of a channel is counting the channel. -/
theorem countP_channel (deliveries : List NotificationDelivery) (channelId : Int)
    : deliveries.countP (·.notificationChannelId = channelId)
      = (deliveries.map (·.notificationChannelId)).count channelId := by
  rw [List.count, List.countP_map]
  exact List.countP_congr fun delivery _ => by simp

theorem eventsDelivered (reached : Reached config world) : EventsDelivered config world := by
  intro action after commit taken extended
  obtain @⟨workerId, job, startedAt, completed, lookedUp, saved, holds, deciding, effect⟩ :=
    (step_cases taken).saveCommitted extended
  obtain ⟨monitor, found, claimed⟩ := claimGuard_iff.mp effect.claimed
  obtain ⟨facts, present, sameSite, _⟩ :=
    (jobAccurate_of_owns reached holds found claimed).facts
  have siteExists := jobSitesExist_of_reached reached workerId job.monitorId job holds
  obtain ⟨incidentId, payload, added, rows, channels, each⟩ :=
    deliveries_of_save (deliveriesIssued_of_reached reached) effect
  refine ⟨monitor, added, found, rows, ?_, fun channelId => ?_⟩
  · intro delivery member
    obtain ⟨request, isRequested, id, rfl⟩ := each delivery member
    obtain ⟨ofCheck, ofMonitor, ofEvent⟩ := check_of_requestedDeliveries isRequested
    exact ⟨ofCheck, ofMonitor, ofEvent, rfl⟩
  · cases (monitorView_monitor found).symm.trans present
    rw [countP_channel, channels, count_requestedDeliveries siteExists]
    exact congrArg (deliveriesOwed world.db · channelId _) sameSite.symm

/-- Failures and recoveries of a monitor take turns, events happen exactly at changes of the
outcome, and each event is delivered once to every channel that wants it. -/
theorem eventAlternation (reached : Reached config world)
    : (∀ siteMonitorId, Alternating (eventsOf (commitsOf world siteMonitorId)))
      ∧ EventsAtChanges world
      ∧ EventsDelivered config world := by
  refine ⟨fun siteMonitorId => ?_, eventsAtChanges reached, eventsDelivered reached⟩
  exact (monitorHistory_of_reached reached siteMonitorId).events.alternating.1

theorem eventAlternation_outage
    : eventsOf (commitsOf (smallRun outage outage_enabled) 1) = [.failure, .recovery]
      ∧ (smallRun outage outage_enabled).db.notificationDeliveries.rows.map
            (·.notificationChannelId)
          = [1, 1]
      ∧ (∀ siteMonitorId,
          Alternating (eventsOf (commitsOf (smallRun outage outage_enabled) siteMonitorId)))
      ∧ EventsAtChanges (smallRun outage outage_enabled)
      ∧ EventsDelivered smallConfig (smallRun outage outage_enabled) :=
  ⟨by decide +kernel, by decide +kernel, eventAlternation smallRun_reached⟩

end AlonSentinel.System
