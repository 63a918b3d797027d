import AlonSentinel.System.DeliveryClaims
import AlonSentinel.System.NotificationEvents

/-! Which queued deliveries are ever claimed. A save queues for the channels that the settings of
the site make active; a claim reads the channel alone.
-/

namespace AlonSentinel.System

open Api
open Domain
open KeyedTable
open Notifications
open TransitionSystem

variable {config : DeliveryConfig} {world after : World} {deliveryId : Int}

/-- A save asks for deliveries to channels that are active for the site. -/
theorem channel_of_requestedDeliveries {db : Database} {siteMonitor : SiteMonitor}
    {check : SiteMonitorCheck} {incidentId : Option Int} {payload : SerdeJson.Value}
    {request : NewNotificationDelivery}
    (siteExists : (db.sites.find? siteMonitor.siteId).isSome = true)
    (member : request ∈ requestedDeliveries db siteMonitor check incidentId payload)
    : ∃ channel,
        db.notificationChannels.find? request.notificationChannelId = some channel
        ∧ (channel.effective
            (db.siteNotificationChannelOverrides.find?
              (siteMonitor.siteId, request.notificationChannelId))).isActive
          = true := by
  unfold requestedDeliveries at member
  split at member
  · cases member
  · obtain ⟨notified, isNotified, rfl⟩ := List.mem_map.mp member
    obtain ⟨channel, found, active, _⟩ :=
      (mem_notifiedChannels siteExists).mp (List.mem_map.mpr ⟨notified, isNotified, rfl⟩)
    exact ⟨channel, found, active⟩

/-- An unclaimed delivery whose next attempt is due is claimable unless its channel is switched
off or it was sent. -/
theorem isClaimable_iff {db : Database} {now dueAt : Timestamp} {delivery : NotificationDelivery}
    {channel : NotificationChannel} (columns : ClaimColumns delivery)
    (unclaimed : delivery.claimedBy = none)
    (joins : db.notificationChannels.find? delivery.notificationChannelId = some channel)
    (next : delivery.nextAttemptAt = some dueAt) (due : dueAt ≤ now)
    : delivery.isClaimable db now = true
      ↔ channel.isActive = true ∧ delivery.status ≠ .delivered := by
  have unleased : delivery.leaseUntil = none := by
    rcases columns.together with ⟨_, unleased, _⟩ | ⟨_, _, claimed⟩
    · exact unleased
    · rw [unclaimed] at claimed
      cases claimed
  have unsettled : delivery.isUnsettled = true ↔ delivery.status ≠ .delivered := by
    unfold NotificationDelivery.isUnsettled
    rw [next]
    cases delivery.status with
    | pending | failed | delivered => simp
  simp only [NotificationDelivery.isClaimable, joins, next, unleased, due, Option.any_some,
    Option.all_none, decide_true, Bool.and_true, Bool.and_eq_true, unsettled]

/-- Every queued delivery is for a channel that the site made active, and while it is unclaimed
and due it is claimable exactly if the channel itself is active and it was not sent yet. -/
def QueuedEligibility (config : DeliveryConfig) (world : World) : Prop :=
  ∀ action after commit deliveryId queued,
    step config world action = some after
    → after.commits = world.commits ++ [commit]
    → world.db.notificationDeliveries.find? deliveryId = none
    → after.db.notificationDeliveries.find? deliveryId = some queued
    → ∃ monitor channel,
        world.db.siteMonitors.find? commit.check.siteMonitorId = some monitor
        ∧ after.db.notificationChannels.find? queued.notificationChannelId = some channel
        ∧ (channel.effective
            (after.db.siteNotificationChannelOverrides.find?
              (monitor.siteId, queued.notificationChannelId))).isActive
          = true
        ∧ ∀ later delivery dueAt,
            Relation.ReflTransGen (Next (step config)) after later
            → later.db.notificationChannels.find? queued.notificationChannelId = some channel
            → later.db.notificationDeliveries.find? deliveryId = some delivery
            → delivery.claimedBy = none
            → delivery.nextAttemptAt = some dueAt
            → dueAt ≤ later.now
            → (delivery.isClaimable later.db later.now = true
                ↔ channel.isActive = true ∧ delivery.status ≠ .delivered)

theorem queuedEligibility (reached : Reached config world) : QueuedEligibility config world := by
  intro action after commit deliveryId queued taken extended absent stored
  have afterReached := reached.next taken
  obtain @⟨workerId, job, startedAt, completed, lookedUp, saved, holds, deciding, effect⟩ :=
    (step_cases taken).saveCommitted extended
  obtain ⟨monitor, found, claimed⟩ := claimGuard_iff.mp effect.claimed
  obtain ⟨facts, present, siteOfFacts, _⟩ :=
    (jobAccurate_of_owns reached holds found claimed).facts
  cases (monitorView_monitor found).symm.trans present
  have sameSite : monitor.siteId = job.siteMonitor.siteId := siteOfFacts
  have siteExists := jobSitesExist_of_reached reached workerId job.monitorId job holds
  obtain ⟨incidentId, payload, rows⟩ := effect.notificationDeliveries
  change saved.notificationDeliveries.find? deliveryId = some queued at stored
  rcases find?_foldl_enqueueDelivery deliveryId with same | ⟨_, request, member, row⟩
  · cases absent.symm.trans (same.symm.trans (rows ▸ stored))
  · rw [← rows] at row
    cases row.symm.trans stored
    obtain ⟨channel, joins, active⟩ := channel_of_requestedDeliveries siteExists member
    refine ⟨monitor, channel, found, effect.notificationChannels ▸ joins, ?_, ?_⟩
    · change (channel.effective (saved.siteNotificationChannelOverrides.find?
        (monitor.siteId, request.notificationChannelId))).isActive = true
      rw [effect.siteNotificationChannelOverrides, sameSite]
      exact active
    · intro later delivery dueAt path sameChannel isStored unclaimed next due
      have columns := claimColumns_of_reached (afterReached.path path) isStored
      obtain ⟨same, isSame, kept, _⟩ := deliveryKept_of_path path stored
      cases isSame.symm.trans isStored
      exact isClaimable_iff columns unclaimed (kept ▸ sameChannel) next due

/-- The channel is switched off and back on for the site alone; a failing check of the site is
about to be saved.
-/
def switchedOnBySite : List Action :=
  [.request
      (.updateChannel 1
        { channelType := .webhook, name := "ops", destination := "https://ops.test"
          webhookSecretCiphertext := some "c2VjcmV0", notifyOnFailure := true
          notifyOnRecovery := true, isActive := false }),
    .request (.upsertChannelOverride 1 1 ⟨1, none, none, some true⟩)]
  ++ claimActions "w1"
  ++ [.check "w1" 1 (.beginSave (completedCheck false)), .check "w1" 1 .lookupIncident]

def queuedForSite : World :=
  smallNext (smallRun switchedOnBySite) (.check "w1" 1 .commitSave)

theorem queuedEligibility_switchedOnBySite
    : queuedForSite.db.notificationDeliveries.rows.map (·.notificationChannelId) = [1]
      ∧ QueuedEligibility smallConfig (smallRun switchedOnBySite) :=
  ⟨by decide +kernel, queuedEligibility smallRun_reached⟩

/-- A delivery that only the site's override asks for is queued, and no claim takes it. -/
theorem queued_never_claimable
    : ¬∀ (config : DeliveryConfig) (world : World) (action : Action) (after : World)
          (commit : CommittedCheck) (deliveryId : Int) (later : World)
          (delivery : NotificationDelivery) (dueAt : Timestamp),
        Reached config world
        → step config world action = some after
        → after.commits = world.commits ++ [commit]
        → world.db.notificationDeliveries.find? deliveryId = none
        → Relation.ReflTransGen
            (NextWhere (step config) fun _ _ state =>
              state.db.notificationChannels = after.db.notificationChannels
              ∧ state.db.siteNotificationChannelOverrides
                = after.db.siteNotificationChannelOverrides)
            after later
        → later.db.notificationDeliveries.find? deliveryId = some delivery
        → delivery.status = .pending
        → delivery.claimedBy = none
        → delivery.nextAttemptAt = some dueAt
        → dueAt ≤ later.now
        → delivery.isClaimable later.db later.now = true := by
  intro eligible
  have claimable :=
    eligible smallConfig (smallRun switchedOnBySite) (.check "w1" 1 .commitSave) queuedForSite
      (queuedForSite.commits.head (by decide +kernel)) 1 queuedForSite
      (queuedForSite.db.notificationDeliveries.rows.head (by decide +kernel)) 0 smallRun_reached
      smallNext_taken rfl rfl .refl rfl rfl rfl rfl (by decide)
  revert claimable
  decide +kernel

end AlonSentinel.System
