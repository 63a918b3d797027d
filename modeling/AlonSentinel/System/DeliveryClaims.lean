import AlonSentinel.System.DeliveryRefinement

/-! What the claim on a delivery guarantees, whatever the order of claims, extensions, releases,
attempts, saves and expiring leases.
-/

namespace AlonSentinel.System

open Domain
open KeyedTable
open LeaseProtocol
open Notifications
open TransitionSystem

variable {config : DeliveryConfig} {world after : World} {deliveryId : Int}

------------------------------------------------------------
-- Rows of deliveries
------------------------------------------------------------

/-- The statements with which an owner changes its delivery. -/
inductive OwnerSet : (NotificationDelivery → NotificationDelivery) → Prop
  | extended (now : Timestamp) (leaseSeconds : Int) : OwnerSet (·.asExtended now leaseSeconds)
  | released (now : Timestamp) : OwnerSet (·.asReleased now)
  | delivered (now : Timestamp) : OwnerSet (·.asDelivered now)
  | failed (now : Timestamp) (lastError : String) (nextAttemptAt : Option Timestamp)
    : OwnerSet (·.asFailed now lastError nextAttemptAt)

/-- What an action can make of the row under an id. -/
inductive DeliveryChanged (world : World) (deliveryId : Int)
    : Option NotificationDelivery → Prop
  | same : DeliveryChanged world deliveryId (world.db.notificationDeliveries.find? deliveryId)
  | queued (startedAt : Timestamp) (request : NewNotificationDelivery)
      (absent : world.db.notificationDeliveries.find? deliveryId = none)
    : DeliveryChanged world deliveryId (some (request.row startedAt deliveryId))
  | claimed {delivery : NotificationDelivery} (workerId : String) (leaseSeconds : Int)
      (found : world.db.notificationDeliveries.find? deliveryId = some delivery)
      (claimable : delivery.isClaimable world.db world.now = true)
    : DeliveryChanged world deliveryId
        (some (delivery.asClaimed world.now workerId leaseSeconds))
  | owned {delivery : NotificationDelivery} {workerId : String}
      {set : NotificationDelivery → NotificationDelivery}
      (found : world.db.notificationDeliveries.find? deliveryId = some delivery)
      (claimed : delivery.claimedBy = some workerId) (changed : OwnerSet set)
    : DeliveryChanged world deliveryId (some (set delivery))

/-- An owner's statement changes its delivery and no other. -/
theorem deliveryChanged_of_owner {handledId : Int} {workerId : String} {db : Database}
    {set : NotificationDelivery → NotificationDelivery}
    {keeps : ∀ delivery, (set delivery).id = delivery.id}
    (owns : OwnsDelivery world.db handledId workerId) (changed : OwnerSet set)
    (updated : db = (updateClaimedDelivery world.db handledId workerId set keeps).2)
    : DeliveryChanged world deliveryId (db.notificationDeliveries.find? deliveryId) := by
  subst updated
  by_cases same : deliveryId = handledId
  · subst same
    obtain ⟨delivery, found, claimed⟩ := owns
    rw [find?_updateClaimedDelivery_self found claimed]
    exact .owned found claimed changed
  · rw [find?_updateClaimedDelivery_of_ne same]
    exact .same

theorem Stepped.deliveryChanged (stepped : Stepped config world after) (deliveryId : Int)
    : DeliveryChanged world deliveryId (after.db.notificationDeliveries.find? deliveryId) := by
  cases stepped with
  | waited _ | claimedMonitors _ _ _ => exact .same
  | checked _ checked =>
      cases checked with
      | extended _ _ | released _ | waited _ | began _ | lookedUp _ | ended => exact .same
      | committed _ effect =>
          obtain ⟨incidentId, payload, queued⟩ := effect.notificationDeliveries
          simp only [World.afterCheck, queued]
          rcases find?_foldl_enqueueDelivery deliveryId with same | ⟨absent, request, _, row⟩
          · rw [same]
            exact .same
          · rw [row]
            exact .queued _ request absent
  | claimedDeliveries leaseSeconds _ claim =>
      rcases claim deliveryId with ⟨same, _⟩ | ⟨delivery, _, found, claimable, taken, _⟩
      · simp only [same]
        exact .same
      · simp only [taken]
        exact .claimed _ _ found claimable
  | delivered _ delivered =>
      cases delivered with
      | extended leaseSeconds owns =>
          exact deliveryChanged_of_owner owns (.extended world.now leaseSeconds) rfl
      | released owns => exact deliveryChanged_of_owner owns (.released world.now) rfl
      | delivered owns => exact deliveryChanged_of_owner owns (.delivered world.now) rfl
      | failed lastError owns retry =>
          exact deliveryChanged_of_owner owns (.failed world.now lastError _) rfl
      | ended => exact .same
  | served _ effect =>
      simp only [effect.deliveries]
      exact .same

/-- No delivery goes away, or gets another channel or another payload. -/
theorem Stepped.deliveryKept {delivery : NotificationDelivery}
    (stepped : Stepped config world after)
    (found : world.db.notificationDeliveries.find? deliveryId = some delivery)
    : ∃ later,
        after.db.notificationDeliveries.find? deliveryId = some later
        ∧ later.notificationChannelId = delivery.notificationChannelId
        ∧ later.payload = delivery.payload := by
  have changed := stepped.deliveryChanged deliveryId
  generalize after.db.notificationDeliveries.find? deliveryId = row at changed ⊢
  cases changed with
  | same => exact ⟨delivery, found, rfl, rfl⟩
  | queued _ _ absent => cases absent.symm.trans found
  | claimed _ _ was _ =>
      cases was.symm.trans found
      exact ⟨_, rfl, rfl, rfl⟩
  | owned was _ set =>
      cases was.symm.trans found
      cases set with
      | extended _ _ | released _ | delivered _ | failed _ _ _ => exact ⟨_, rfl, rfl, rfl⟩

theorem deliveryKept_of_path {delivery : NotificationDelivery}
    (path : Relation.ReflTransGen (Next (step config)) world after)
    (found : world.db.notificationDeliveries.find? deliveryId = some delivery)
    : ∃ later,
        after.db.notificationDeliveries.find? deliveryId = some later
        ∧ later.notificationChannelId = delivery.notificationChannelId
        ∧ later.payload = delivery.payload := by
  induction path with
  | refl => exact ⟨delivery, found, rfl, rfl⟩
  | tail _ last ih =>
      obtain ⟨action, taken⟩ := last
      obtain ⟨middle, stored, sameChannel, samePayload⟩ := ih
      obtain ⟨later, isLater, keptChannel, keptPayload⟩ := (step_cases taken).deliveryKept stored
      exact ⟨later, isLater, keptChannel.trans sameChannel, keptPayload.trans samePayload⟩

------------------------------------------------------------
-- Claim columns
------------------------------------------------------------

/-- The columns of the claim are set together, and only while an attempt is ahead. -/
structure ClaimColumns (delivery : NotificationDelivery) : Prop where
  together
    : (delivery.claimedAt = none ∧ delivery.leaseUntil = none ∧ delivery.claimedBy = none)
      ∨ (delivery.claimedAt.isSome = true ∧ delivery.leaseUntil.isSome = true
        ∧ delivery.claimedBy.isSome = true)
  unsettled : delivery.claimedBy.isSome = true → delivery.isUnsettled = true

/-- A row whose claim columns are all empty. -/
theorem ClaimColumns.unclaimed {delivery : NotificationDelivery}
    (claimedAt : delivery.claimedAt = none) (leaseUntil : delivery.leaseUntil = none)
    (claimedBy : delivery.claimedBy = none)
    : ClaimColumns delivery :=
  ⟨.inl ⟨claimedAt, leaseUntil, claimedBy⟩,
    fun claimed => by rw [claimedBy] at claimed; cases claimed⟩

theorem OwnerSet.claimColumns {set : NotificationDelivery → NotificationDelivery}
    {delivery : NotificationDelivery} {workerId : String} (changed : OwnerSet set)
    (columns : ClaimColumns delivery) (claimed : delivery.claimedBy = some workerId)
    : ClaimColumns (set delivery) := by
  cases changed with
  | released _ | delivered _ | failed _ _ _ => exact .unclaimed rfl rfl rfl
  | extended now leaseSeconds =>
      rcases columns.together with ⟨_, _, unclaimed⟩ | ⟨claimedAt, _, claimedBy⟩
      · cases unclaimed.symm.trans claimed
      · exact ⟨.inr ⟨claimedAt, rfl, claimedBy⟩, columns.unsettled⟩

theorem claimColumns_of_reached (reached : Reached config world)
    {delivery : NotificationDelivery}
    (found : world.db.notificationDeliveries.find? deliveryId = some delivery)
    : ClaimColumns delivery := by
  let wellClaimed (world : World) : Prop :=
    ∀ deliveryId delivery,
      world.db.notificationDeliveries.find? deliveryId = some delivery → ClaimColumns delivery
  refine reached.invariant wellClaimed ?_ ?_ deliveryId delivery found
  · intro start fresh wanted row isStored
    have stored := (Table.mem_of_find? isStored).1
    rw [fresh.noDeliveries] at stored
    cases stored
  · intro state action next _ columns taken wanted row isStored
    have changed := (step_cases taken).deliveryChanged wanted
    rw [isStored] at changed
    generalize wasStored : some row = later at changed
    cases changed with
    | same => exact columns wanted row wasStored.symm
    | queued startedAt request _ =>
        cases wasStored
        exact .unclaimed rfl rfl rfl
    | claimed workerId leaseSeconds was claimable =>
        cases wasStored
        exact ⟨.inr ⟨rfl, rfl, rfl⟩, fun _ => (free_of_isClaimable claimable).1⟩
    | owned was claimed changed =>
        cases wasStored
        exact changed.claimColumns (columns wanted _ was) claimed

------------------------------------------------------------
-- Settled deliveries
------------------------------------------------------------

/-- A delivery that was sent, or failed for the last time. -/
def IsSettled (delivery : NotificationDelivery) : Prop :=
  delivery.status = .delivered
  ∨ (delivery.status = .failed ∧ delivery.nextAttemptAt = none)

theorem isSettled_iff {delivery : NotificationDelivery}
    : IsSettled delivery ↔ delivery.isUnsettled = false := by
  unfold IsSettled NotificationDelivery.isUnsettled
  cases delivery.status with
  | pending | delivered => simp
  | failed => simp

/-- No action changes a settled delivery. -/
theorem settled_step (reached : Reached config world) {delivery : NotificationDelivery}
    {action : Action} (taken : step config world action = some after)
    (found : world.db.notificationDeliveries.find? deliveryId = some delivery)
    (settled : IsSettled delivery)
    : after.db.notificationDeliveries.find? deliveryId = some delivery := by
  have settledRow := isSettled_iff.mp settled
  generalize row : after.db.notificationDeliveries.find? deliveryId = later
  have changed := (step_cases taken).deliveryChanged deliveryId
  rw [row] at changed
  cases changed with
  | same => exact found
  | queued _ _ absent => cases absent.symm.trans found
  | claimed _ _ was claimable =>
      cases was.symm.trans found
      cases settledRow.symm.trans (free_of_isClaimable claimable).1
  | owned was claimed _ =>
      cases was.symm.trans found
      have unsettled := (claimColumns_of_reached reached found).unsettled (by rw [claimed]; rfl)
      cases settledRow.symm.trans unsettled

/-- A settled delivery never changes again, and no claim hands it out. -/
def SettledStays (config : DeliveryConfig) (world : World) : Prop :=
  ∀ deliveryId delivery later,
    world.db.notificationDeliveries.find? deliveryId = some delivery
    → IsSettled delivery
    → Relation.ReflTransGen (Next (step config)) world later
    → later.db.notificationDeliveries.find? deliveryId = some delivery
      ∧ ∀ workerId limit leaseSeconds locked after,
          step config later (.claimDeliveries workerId limit leaseSeconds locked) = some after
          → (after.deliveryBatches workerId).find? deliveryId = none

theorem settledStays (reached : Reached config world) : SettledStays config world := by
  intro deliveryId delivery later found settled path
  have kept : later.db.notificationDeliveries.find? deliveryId = some delivery := by
    induction path with
    | refl => exact found
    | tail before last ih =>
        obtain ⟨action, taken⟩ := last
        exact settled_step (reached.path before) taken ih settled
  refine ⟨kept, fun workerId limit leaseSeconds locked after taken => ?_⟩
  simp only [step] at taken
  split at taken
  · cases taken
    simp only [Function.update_self]
    rcases claimDueDeliveries_cases later.db later.now workerId limit leaseSeconds locked
        deliveryId with
      ⟨_, passed⟩ | ⟨other, _, otherFound, claimable, _, _⟩
    · exact passed
    · cases otherFound.symm.trans kept
      cases (isSettled_iff.mp settled).symm.trans (free_of_isClaimable claimable).1
  · cases taken

------------------------------------------------------------
-- Outcomes
------------------------------------------------------------

/-- An outcome is recorded by the owner, for a job that it holds. -/
def OutcomesByOwner (config : DeliveryConfig) (world : World) : Prop :=
  ∀ action after outcome,
    step config world action = some after
    → after.outcomes = world.outcomes ++ [outcome]
    → OwnsDelivery world.db outcome.deliveryId outcome.workerId
      ∧ ((world.deliveryBatches outcome.workerId).find? outcome.deliveryId).isSome = true

theorem outcomesByOwner (config : DeliveryConfig) (world : World)
    : OutcomesByOwner config world := by
  intro action after outcome taken extended
  cases step_cases taken with
  | waited _ | claimedMonitors _ _ _ | checked _ _ | claimedDeliveries _ _ _ | served _ _ =>
      cases List.self_eq_append_right.mp extended
  | delivered holds delivered =>
      obtain ⟨_, rfl⟩ := Table.mem_of_find? holds
      cases delivered with
      | extended _ _ | released _ | ended => cases List.append_cancel_left extended
      | delivered owns | failed _ owns _ =>
          cases List.append_cancel_left extended
          exact ⟨owns, Option.isSome_of_eq_some holds⟩

/-- While a lease is in force, a claim passes the delivery over. -/
def LeaseExcludesDeliveryClaims (config : DeliveryConfig) (world : World) : Prop :=
  ∀ workerId limit leaseSeconds locked after deliveryId delivery deadline,
    step config world (.claimDeliveries workerId limit leaseSeconds locked) = some after
    → world.db.notificationDeliveries.find? deliveryId = some delivery
    → delivery.leaseUntil = some deadline
    → world.now ≤ deadline
    → after.db.notificationDeliveries.find? deliveryId = some delivery
      ∧ (after.deliveryBatches workerId).find? deliveryId = none

theorem leaseExcludesDeliveryClaims (config : DeliveryConfig) (world : World)
    : LeaseExcludesDeliveryClaims config world := by
  intro workerId limit leaseSeconds locked after deliveryId delivery deadline taken found leased
    inForce
  simp only [step] at taken
  split at taken
  · cases taken
    simp only [Function.update_self]
    rcases claimDueDeliveries_cases world.db world.now workerId limit leaseSeconds locked
        deliveryId with
      ⟨same, passed⟩ | ⟨other, _, otherFound, claimable, _, _⟩
    · exact ⟨same.trans found, passed⟩
    · cases found.symm.trans otherFound
      exact absurd ((free_of_isClaimable claimable).2 deadline leased) (not_lt.mpr inForce)
  · cases taken

/-- The attempts of every delivery are its recorded outcomes, within the configured maximum, and
the columns of its claim are set together. -/
def AttemptsCounted (config : DeliveryConfig) (world : World) : Prop :=
  ∀ delivery ∈ world.db.notificationDeliveries.rows,
    delivery.attempts = (outcomesOf world delivery.id).length
    ∧ delivery.attempts ≤ config.notificationMaxAttempts

theorem attemptsCounted (reached : Reached config world) : AttemptsCounted config world := by
  intro delivery stored
  have found := Table.find?_key stored
  have accounted :=
    (deliveryConsistent_of_reached reached delivery.id).good.accounted (deliveryFacts delivery)
      (congrArg (Option.map deliveryFacts) found)
  exact ⟨accounted.counted, accounted.bounded⟩

------------------------------------------------------------
-- The protocol
------------------------------------------------------------

/-- The claim protocol of deliveries. -/
theorem deliveryClaimProtocol (reached : Reached config world)
    : OutcomesByOwner config world
      ∧ LeaseExcludesDeliveryClaims config world
      ∧ SettledStays config world
      ∧ AttemptsCounted config world
      ∧ ∀ delivery ∈ world.db.notificationDeliveries.rows, ClaimColumns delivery :=
  ⟨outcomesByOwner config world, leaseExcludesDeliveryClaims config world,
    settledStays reached, attemptsCounted reached,
    fun _ stored => claimColumns_of_reached reached (Table.find?_key stored)⟩

/-- The first worker's lease runs out, the second one takes over and fails, the late outcome of
the first is refused; the retry is sent.
-/
def deliveryTakeover : List Action :=
  claimActions "w1" ++ saveActions "w1" false
    ++ [.claimDeliveries "w1" 10 60 [], .advanceClock (seconds 61),
      .claimDeliveries "w2" 10 60 [], .deliver "w1" 1 .markDelivered,
      .deliver "w2" 1 (.recordFailure (seconds 61) ⟨.other, "connection refused"⟩),
      .advanceClock (seconds 121), .claimDeliveries "w1" 10 60 [],
      .deliver "w1" 1 .markDelivered]

theorem deliveryClaimProtocol_takeover
    : (smallRun deliveryTakeover).outcomes = [⟨1, "w2", false⟩, ⟨1, "w1", true⟩]
      ∧ (smallRun deliveryTakeover).db.notificationDeliveries.rows.map (·.attempts) = [2]
      ∧ OutcomesByOwner smallConfig (smallRun deliveryTakeover)
      ∧ LeaseExcludesDeliveryClaims smallConfig (smallRun deliveryTakeover)
      ∧ SettledStays smallConfig (smallRun deliveryTakeover)
      ∧ AttemptsCounted smallConfig (smallRun deliveryTakeover)
      ∧ ∀ delivery ∈ (smallRun deliveryTakeover).db.notificationDeliveries.rows,
          ClaimColumns delivery :=
  ⟨by decide +kernel, by decide +kernel, deliveryClaimProtocol smallRun_reached⟩

end AlonSentinel.System
