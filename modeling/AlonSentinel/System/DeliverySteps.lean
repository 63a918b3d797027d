import AlonSentinel.System.World

/-! What one action of the system does to deliveries and to the jobs that deliver them.
-/

namespace AlonSentinel.System

open Domain
open KeyedTable
open Notifications

------------------------------------------------------------
-- Claims on deliveries
------------------------------------------------------------

/-- Whether a worker is the recorded owner of a stored delivery. -/
def OwnsDelivery (db : Database) (deliveryId : Int) (workerId : String) : Prop :=
  ∃ delivery,
    db.notificationDeliveries.find? deliveryId = some delivery
    ∧ delivery.claimedBy = some workerId

section Claims

variable {db : Database} {deliveryId : Int} {workerId : String}

theorem deliveryGuard_iff
    : (db.notificationDeliveries.find? deliveryId).any (·.isClaimedBy deliveryId workerId) = true
      ↔ OwnsDelivery db deliveryId workerId := by
  cases found : db.notificationDeliveries.find? deliveryId with
  | none => simp [OwnsDelivery, found]
  | some delivery =>
      have same : delivery.id = deliveryId := (Table.mem_of_find? found).2
      simp [OwnsDelivery, found, NotificationDelivery.isClaimedBy, same]

/-- The owner's update sets the columns of its delivery. -/
theorem find?_updateClaimedDelivery_self {set : NotificationDelivery → NotificationDelivery}
    {keeps : ∀ delivery, (set delivery).id = delivery.id} {delivery : NotificationDelivery}
    (found : db.notificationDeliveries.find? deliveryId = some delivery)
    (claimed : delivery.claimedBy = some workerId)
    : (updateClaimedDelivery db deliveryId workerId set
        keeps).2.notificationDeliveries.find? deliveryId
      = some (set delivery) := by
  have same : delivery.id = deliveryId := (Table.mem_of_find? found).2
  exact SerialTable.find?_update_of_matched found
    (by simp [NotificationDelivery.isClaimedBy, same, claimed])

section Owner

variable {delivery : NotificationDelivery} (now : Timestamp)

theorem find?_extendDeliveryClaim (leaseSeconds : Int)
    (found : db.notificationDeliveries.find? deliveryId = some delivery)
    (claimed : delivery.claimedBy = some workerId)
    : (extendDeliveryClaim db now deliveryId workerId
        leaseSeconds).2.notificationDeliveries.find? deliveryId
      = some (delivery.asExtended now leaseSeconds) :=
  find?_updateClaimedDelivery_self found claimed

theorem find?_releaseDeliveryClaim
    (found : db.notificationDeliveries.find? deliveryId = some delivery)
    (claimed : delivery.claimedBy = some workerId)
    : (releaseDeliveryClaim db now deliveryId workerId).2.notificationDeliveries.find? deliveryId
      = some (delivery.asReleased now) :=
  find?_updateClaimedDelivery_self found claimed

theorem find?_markDelivered
    (found : db.notificationDeliveries.find? deliveryId = some delivery)
    (claimed : delivery.claimedBy = some workerId)
    : (Domain.markDelivered db now deliveryId workerId).2.notificationDeliveries.find? deliveryId
      = some (delivery.asDelivered now) :=
  find?_updateClaimedDelivery_self found claimed

theorem find?_markFailed (lastError : String) (nextAttemptAt : Option Timestamp)
    (found : db.notificationDeliveries.find? deliveryId = some delivery)
    (claimed : delivery.claimedBy = some workerId)
    : (markFailed db now deliveryId workerId lastError
        nextAttemptAt).2.notificationDeliveries.find? deliveryId
      = some (delivery.asFailed now lastError nextAttemptAt) :=
  find?_updateClaimedDelivery_self found claimed

end Owner

/-- Other deliveries than the one named stay as they are. -/
theorem find?_updateClaimedDelivery_of_ne {set : NotificationDelivery → NotificationDelivery}
    {keeps : ∀ delivery, (set delivery).id = delivery.id} {wanted : Int}
    (other : wanted ≠ deliveryId)
    : (updateClaimedDelivery db deliveryId workerId set
        keeps).2.notificationDeliveries.find? wanted
      = db.notificationDeliveries.find? wanted := by
  refine SerialTable.find?_update_of_unmatched fun delivery found => ?_
  have same : delivery.id = wanted := (Table.mem_of_find? found).2
  simp [NotificationDelivery.isClaimedBy, same, other]

/-- For a worker that does not own the delivery, the guarded update changes nothing. -/
theorem updateClaimedDelivery_of_not_owns {set : NotificationDelivery → NotificationDelivery}
    {keeps : ∀ delivery, (set delivery).id = delivery.id}
    (lost : ¬OwnsDelivery db deliveryId workerId)
    : updateClaimedDelivery db deliveryId workerId set keeps = (false, db) := by
  have unmatched : ∀ delivery ∈ db.notificationDeliveries.rows,
      ¬delivery.isClaimedBy deliveryId workerId = true := by
    intro delivery stored matched
    have parts := Bool.and_eq_true_iff.mp matched
    have here : db.notificationDeliveries.find? deliveryId = some delivery :=
      Table.find?_eq_some.mpr ⟨stored, of_decide_eq_true parts.1⟩
    exact lost ⟨delivery, here, of_decide_eq_true parts.2⟩
  have guard := Bool.eq_false_iff.mpr (mt deliveryGuard_iff.mp lost)
  have same : db.notificationDeliveries.update (·.isClaimedBy deliveryId workerId) set
      (fun delivery _ => keeps delivery) = db.notificationDeliveries :=
    SerialTable.update_of_unmatched unmatched
  simp only [updateClaimedDelivery, guard, same]

/-- A claimable delivery joins with its channel. -/
theorem channel_of_isClaimable {now : Timestamp} {delivery : NotificationDelivery}
    (claimable : delivery.isClaimable db now = true)
    : ∃ channel,
        db.notificationChannels.find? delivery.notificationChannelId = some channel := by
  cases found : db.notificationChannels.find? delivery.notificationChannelId with
  | some channel => exact ⟨channel, rfl⟩
  | none => simp [NotificationDelivery.isClaimable, found] at claimable

/-- A claim either leaves a delivery alone, or takes it in a state in which it is claimable and
hands out a copy of it. -/
theorem claimDueDeliveries_cases (db : Database) (now : Timestamp) (workerId : String)
    (limit : Nat) (leaseSeconds : Int) (locked : List Int) (wanted : Int)
    : let result := claimDueDeliveries db now workerId limit leaseSeconds locked
      (result.1.notificationDeliveries.find? wanted = db.notificationDeliveries.find? wanted
        ∧ result.2.find? wanted = none)
      ∨ ∃ delivery channel,
          db.notificationDeliveries.find? wanted = some delivery
          ∧ delivery.isClaimable db now = true
          ∧ result.1.notificationDeliveries.find? wanted
            = some (delivery.asClaimed now workerId leaseSeconds)
          ∧ result.2.find? wanted
            = some (.of (delivery.asClaimed now workerId leaseSeconds) channel) := by
  simp only [claimDueDeliveries, Table.find?_collect]
  rcases SerialTable.update_select_cases db.notificationDeliveries
      (·.asClaimed now workerId leaseSeconds) (fun _ => Table.mem_pick) (fun _ => rfl) wanted with
    ⟨same, passed⟩ | ⟨delivery, found, met, after, read⟩
  · refine .inl ⟨same, ?_⟩
    rw [passed, Option.bind_none]
  · have claimable := (Bool.and_eq_true_iff.mp met).1
    obtain ⟨channel, joins⟩ := channel_of_isClaimable claimable
    refine .inr ⟨delivery, channel, found, claimable, after, ?_⟩
    rw [read, Option.bind_some]
    exact congrArg (Option.map _) joins

end Claims

------------------------------------------------------------
-- Delivery jobs
------------------------------------------------------------

/-- The ways in which a delivery action can go. -/
inductive DeliveryStepped (config : DeliveryConfig) (db : Database) (now : Timestamp)
    (workerId : String) (delivery : ClaimedNotificationDelivery)
    : DeliveryOutcome → Prop
  /-- The owner moved its lease. -/
  | extended (leaseSeconds : Int) (owns : OwnsDelivery db delivery.id workerId)
    : DeliveryStepped config db now workerId delivery
        ⟨(extendDeliveryClaim db now delivery.id workerId leaseSeconds).2, false, none⟩
  /-- The owner gave the claim back. -/
  | released (owns : OwnsDelivery db delivery.id workerId)
    : DeliveryStepped config db now workerId delivery
        ⟨(releaseDeliveryClaim db now delivery.id workerId).2, true, none⟩
  /-- The owner recorded that the notification was sent. -/
  | delivered (owns : OwnsDelivery db delivery.id workerId)
    : DeliveryStepped config db now workerId delivery
        ⟨(Domain.markDelivered db now delivery.id workerId).2, true,
          some ⟨delivery.id, workerId, true⟩⟩
  /-- The owner recorded that sending failed. -/
  | failed {hostNow : Timestamp} {shouldRetry : Bool} {nextAttemptAt : Option Timestamp}
      (lastError : String) (owns : OwnsDelivery db delivery.id workerId)
      (retry : retryTime config hostNow delivery shouldRetry = some nextAttemptAt)
    : DeliveryStepped config db now workerId delivery
        ⟨(markFailed db now delivery.id workerId lastError nextAttemptAt).2, true,
          some ⟨delivery.id, workerId, false⟩⟩
  /-- The job ended without touching the database. -/
  | ended : DeliveryStepped config db now workerId delivery ⟨db, true, none⟩

/-- Every delivery action goes in one of those ways. -/
theorem deliveryStep_cases {config : DeliveryConfig} {db : Database} {now : Timestamp}
    {workerId : String} {delivery : ClaimedNotificationDelivery} {action : DeliveryAction}
    {outcome : DeliveryOutcome}
    (stepped : deliveryStep config db now workerId delivery action = some outcome)
    : DeliveryStepped config db now workerId delivery outcome := by
  by_cases owns : OwnsDelivery db delivery.id workerId
  · cases action with
    | extend leaseSeconds =>
        have updated : (extendDeliveryClaim db now delivery.id workerId leaseSeconds).1 = true :=
          deliveryGuard_iff.mpr owns
        cases stepped
        change DeliveryStepped config db now workerId delivery
          ⟨_, !(extendDeliveryClaim db now delivery.id workerId leaseSeconds).1, none⟩
        rw [updated]
        exact .extended leaseSeconds owns
    | markDelivered =>
        have updated : (Domain.markDelivered db now delivery.id workerId).1 = true :=
          deliveryGuard_iff.mpr owns
        cases stepped
        change DeliveryStepped config db now workerId delivery
          ⟨_, true, if (Domain.markDelivered db now delivery.id workerId).1 then _ else _⟩
        rw [if_pos updated]
        exact .delivered owns
    | recordFailure hostNow error =>
        obtain ⟨result, handled, rfl⟩ := Option.map_eq_some_iff.mp stepped
        obtain ⟨nextAttemptAt, retry, rfl⟩ := Option.map_eq_some_iff.mp handled
        have updated
            : (markFailed db now delivery.id workerId error.text nextAttemptAt).1 = true :=
          deliveryGuard_iff.mpr owns
        change DeliveryStepped config db now workerId delivery
          ⟨_, true,
            if (markFailed db now delivery.id workerId error.text nextAttemptAt).1 then _ else _⟩
        rw [if_pos updated]
        exact .failed error.text owns retry
    | release =>
        cases stepped
        exact .released owns
    | abandon =>
        cases stepped
        exact .ended
  -- Without the claim every statement leaves the database as it is.
  · cases action with
    | extend leaseSeconds =>
        have lost : extendDeliveryClaim db now delivery.id workerId leaseSeconds = (false, db) :=
          updateClaimedDelivery_of_not_owns owns
        simp only [deliveryStep, lost] at stepped
        cases stepped
        exact .ended
    | markDelivered =>
        have lost : Domain.markDelivered db now delivery.id workerId = (false, db) :=
          updateClaimedDelivery_of_not_owns owns
        simp only [deliveryStep, lost] at stepped
        cases stepped
        exact .ended
    | recordFailure hostNow error =>
        obtain ⟨result, handled, rfl⟩ := Option.map_eq_some_iff.mp stepped
        obtain ⟨nextAttemptAt, _, rfl⟩ := Option.map_eq_some_iff.mp handled
        have lost
            : markFailed db now delivery.id workerId error.text nextAttemptAt = (false, db) :=
          updateClaimedDelivery_of_not_owns owns
        rw [lost]
        exact .ended
    | release =>
        have lost : releaseDeliveryClaim db now delivery.id workerId = (false, db) :=
          updateClaimedDelivery_of_not_owns owns
        simp only [deliveryStep, lost] at stepped
        cases stepped
        exact .ended
    | abandon =>
        cases stepped
        exact .ended

end AlonSentinel.System
