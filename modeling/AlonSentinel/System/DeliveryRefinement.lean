import AlonSentinel.System.DeliveryProtocol
import AlonSentinel.System.WorldSteps

/-! The system refines the protocol of each delivery, and what an action can make of the row of
a delivery.
-/

namespace AlonSentinel.System

open Domain
open KeyedTable
open LeaseProtocol
open Notifications
open TransitionSystem
open Worker

variable {config : DeliveryConfig} {world after : World} {deliveryId : Int}

------------------------------------------------------------
-- The abstraction
------------------------------------------------------------

/-- The recorded outcomes of one delivery, oldest first. -/
def outcomesOf (world : World) (deliveryId : Int) : List RecordedOutcome :=
  world.outcomes.filter (·.deliveryId = deliveryId)

def deliveryView (world : World) (deliveryId : Int) : DeliveryView where
  delivery := (world.db.notificationDeliveries.find? deliveryId).map deliveryFacts
  outcomes := outcomesOf world deliveryId

/-- One delivery with its claim and the jobs that workers hold for it. -/
def deliveryState (world : World) (deliveryId : Int)
    : State String Timestamp ClaimedNotificationDelivery DeliveryView where
  owner := (world.db.notificationDeliveries.find? deliveryId).bind (·.claimedBy)
  leaseUntil := (world.db.notificationDeliveries.find? deliveryId).bind (·.leaseUntil)
  held := fun workerId => (world.deliveryBatches workerId).find? deliveryId
  view := deliveryView world deliveryId
  now := world.now

theorem deliveryState_owner {workerId : String}
    : (deliveryState world deliveryId).owner = some workerId
      ↔ OwnsDelivery world.db deliveryId workerId :=
  Option.bind_eq_some_iff

/-- A delivery whose row, outcomes and jobs stay as they are. -/
theorem deliveryState_congr
    (delivery
      : after.db.notificationDeliveries.find? deliveryId
        = world.db.notificationDeliveries.find? deliveryId)
    (outcomes : outcomesOf after deliveryId = outcomesOf world deliveryId)
    (held
      : (fun workerId => (after.deliveryBatches workerId).find? deliveryId)
        = fun workerId => (world.deliveryBatches workerId).find? deliveryId)
    (now : after.now = world.now)
    : deliveryState after deliveryId = deliveryState world deliveryId := by
  simp only [deliveryState, deliveryView, delivery, outcomes, held, now]

/-- A new batch of one worker changes what that worker holds. -/
theorem heldDelivery_update
    (batches : String → Table ClaimedNotificationDelivery ClaimedNotificationDelivery.id)
    (workerId : String)
    (batch : Table ClaimedNotificationDelivery ClaimedNotificationDelivery.id)
    (deliveryId : Int)
    : (fun worker => (Function.update batches workerId batch worker).find? deliveryId)
      = Function.update (fun worker => (batches worker).find? deliveryId) workerId
          (batch.find? deliveryId) :=
  funext fun worker =>
    Function.apply_update
      (fun _ (jobs : Table ClaimedNotificationDelivery ClaimedNotificationDelivery.id) =>
        jobs.find? deliveryId)
      batches workerId batch worker

------------------------------------------------------------
-- Jobs
------------------------------------------------------------

section Jobs

variable {workerId : String} {held : ClaimedNotificationDelivery}

/-- The jobs of a delivery after a job that is not over. -/
theorem afterDelivery_held (outcome : DeliveryOutcome)
    (holds : (world.deliveryBatches workerId).find? deliveryId = some held)
    : (deliveryState (world.afterDelivery workerId deliveryId outcome) deliveryId).held
      = Function.update (deliveryState world deliveryId).held workerId
          (if outcome.isOver then none else some held) := by
  have same : held.id = deliveryId := (Table.mem_of_find? holds).2
  have left
      : ((world.deliveryBatches workerId).select fun other =>
            other.id != deliveryId || !outcome.isOver).find? deliveryId
        = if outcome.isOver then none else some held := by
    rw [Table.find?_select, holds]
    cases isOver : outcome.isOver with
    | true | false => simp [Option.filter, same]
  exact (heldDelivery_update world.deliveryBatches workerId _ deliveryId).trans (by rw [left]; rfl)

/-- A job's action is none of another delivery's business. -/
theorem DeliveryStepped.elsewhere {other : Int} {outcome : DeliveryOutcome}
    (different : other ≠ deliveryId)
    (holds : (world.deliveryBatches workerId).find? deliveryId = some held)
    (stepped : DeliveryStepped config world.db world.now workerId held outcome)
    : deliveryState (world.afterDelivery workerId deliveryId outcome) other
      = deliveryState world other := by
  have sameJob : held.id = deliveryId := (Table.mem_of_find? holds).2
  have elsewhere : other ≠ held.id := sameJob ▸ different
  have kept
      : ((world.deliveryBatches workerId).select fun job =>
            job.id != deliveryId || !outcome.isOver).find? other
        = (world.deliveryBatches workerId).find? other := by
    rw [Table.find?_select]
    cases found : (world.deliveryBatches workerId).find? other with
    | none => rfl
    | some job =>
        have isOther : job.id = other := (Table.mem_of_find? found).2
        simp [Option.filter, isOther, different]
  refine deliveryState_congr ?_ ?_ ?_ rfl
  · cases stepped with
    | extended _ _ | released _ | delivered _ | failed _ _ _ =>
        exact find?_updateClaimedDelivery_of_ne elsewhere
    | ended => rfl
  · cases stepped with
    | delivered _ | failed _ _ _ =>
        simp [outcomesOf, World.afterDelivery, List.filter_append, elsewhere.symm]
    | extended _ _ | released _ | ended =>
        simp only [outcomesOf, World.afterDelivery, Option.toList_none, List.append_nil]
  · refine (heldDelivery_update world.deliveryBatches workerId _ other).trans ?_
    rw [kept]
    exact Function.update_eq_self workerId _

/-- A delivery after a statement of its owner. -/
theorem deliveryState_owned {moved : NotificationDelivery} (outcome : DeliveryOutcome)
    (holds : (world.deliveryBatches workerId).find? deliveryId = some held)
    (stored : outcome.db.notificationDeliveries.find? deliveryId = some moved)
    : deliveryState (world.afterDelivery workerId deliveryId outcome) deliveryId
      = { deliveryState world deliveryId with
          owner := moved.claimedBy
          leaseUntil := moved.leaseUntil
          held :=
            Function.update (deliveryState world deliveryId).held workerId
              (if outcome.isOver then none else some held)
          view := deliveryView (world.afterDelivery workerId deliveryId outcome) deliveryId } := by
  refine State.ext ?_ ?_ (afterDelivery_held outcome holds) rfl rfl
  · simp only [deliveryState, World.afterDelivery, stored, Option.bind_some]
  · simp only [deliveryState, World.afterDelivery, stored, Option.bind_some]

/-- A statement that only moves the claim keeps the view. -/
theorem deliveryView_kept {delivery moved : NotificationDelivery} {db : Database} (isOver : Bool)
    (found : world.db.notificationDeliveries.find? deliveryId = some delivery)
    (stored : db.notificationDeliveries.find? deliveryId = some moved)
    (facts : deliveryFacts moved = deliveryFacts delivery)
    : deliveryView (world.afterDelivery workerId deliveryId ⟨db, isOver, none⟩) deliveryId
      = deliveryView world deliveryId := by
  simp only [deliveryView, outcomesOf, World.afterDelivery, found, stored, Option.map_some, facts,
    Option.toList_none, List.append_nil]

theorem outcomesOf_recorded (db : Database) (isOver delivered : Bool)
    : outcomesOf
        (world.afterDelivery workerId deliveryId
          ⟨db, isOver, some ⟨deliveryId, workerId, delivered⟩⟩)
        deliveryId
      = outcomesOf world deliveryId ++ [⟨deliveryId, workerId, delivered⟩] := by
  simp [outcomesOf, World.afterDelivery, List.filter_append]

/-- A statement that records an outcome settles the view. -/
theorem deliverySettled_of_recorded {delivery moved : NotificationDelivery} {db : Database}
    (delivered : Bool)
    (found : world.db.notificationDeliveries.find? held.id = some delivery)
    (stored : db.notificationDeliveries.find? held.id = some moved)
    (attempt : AttemptSettled config held (deliveryFacts delivery) (deliveryFacts moved))
    : DeliverySettled config (deliveryView world held.id) held
        (deliveryView
          (world.afterDelivery workerId held.id
            ⟨db, true, some ⟨held.id, workerId, delivered⟩⟩)
          held.id) := by
  refine ⟨⟨_, _, ?_, ?_, attempt⟩, _, outcomesOf_recorded db true delivered⟩
  · simp only [deliveryView, found, Option.map_some]
  · simp only [deliveryView, World.afterDelivery, stored, Option.map_some]

/-- A job's action is a step of the protocol of its delivery. -/
theorem DeliveryStepped.refines {outcome : DeliveryOutcome}
    (holds : (world.deliveryBatches workerId).find? deliveryId = some held)
    (stepped : DeliveryStepped config world.db world.now workerId held outcome)
    : Step (deliveryRules config deliveryId) (deliveryState world deliveryId)
        (deliveryState (world.afterDelivery workerId deliveryId outcome) deliveryId) := by
  obtain ⟨_, rfl⟩ := Table.mem_of_find? holds
  cases stepped with
  | extended leaseSeconds owns =>
      have owner := deliveryState_owner.mpr owns
      obtain ⟨delivery, found, claimed⟩ := owns
      have same : delivery.claimedBy = (deliveryState world held.id).owner :=
        claimed.trans owner.symm
      have stored := find?_extendDeliveryClaim world.now leaseSeconds found claimed
      rw [deliveryState_owned _ holds stored, deliveryView_kept _ found stored rfl]
      simp only [NotificationDelivery.asExtended, same]
      exact .extend owner holds rfl
  | released owns =>
      have owner := deliveryState_owner.mpr owns
      obtain ⟨delivery, found, claimed⟩ := owns
      have stored := find?_releaseDeliveryClaim world.now found claimed
      rw [deliveryState_owned _ holds stored, deliveryView_kept _ found stored rfl]
      exact .release owner
  | delivered owns =>
      have owner := deliveryState_owner.mpr owns
      obtain ⟨delivery, found, claimed⟩ := owns
      have stored := find?_markDelivered world.now found claimed
      rw [deliveryState_owned _ holds stored]
      exact .settle owner holds (deliverySettled_of_recorded true found stored .delivered)
  | @failed _ _ nextAttemptAt lastError owns retry =>
      have owner := deliveryState_owner.mpr owns
      obtain ⟨delivery, found, claimed⟩ := owns
      have stored := find?_markFailed world.now lastError nextAttemptAt found claimed
      rw [deliveryState_owned _ holds stored]
      exact .settle owner holds (deliverySettled_of_recorded false found stored (.failed retry))
  | ended =>
      have jobs := afterDelivery_held ⟨world.db, true, none⟩ holds
      have state
          : deliveryState (world.afterDelivery workerId held.id ⟨world.db, true, none⟩) held.id
            = { deliveryState world held.id with
                held := Function.update (deliveryState world held.id).held workerId none } := by
        refine State.ext rfl rfl jobs ?_ rfl
        simp only [deliveryState, deliveryView, outcomesOf, World.afterDelivery,
          Option.toList_none, List.append_nil]
      rw [state]
      exact .drop

end Jobs

------------------------------------------------------------
-- Refinement
------------------------------------------------------------

/-- A claimable delivery is free and has an attempt ahead. -/
theorem free_of_isClaimable {db : Database} {now : Timestamp} {delivery : NotificationDelivery}
    (claimable : delivery.isClaimable db now = true)
    : delivery.isUnsettled = true ∧ Free delivery.leaseUntil now := by
  simp only [NotificationDelivery.isClaimable, Bool.and_eq_true] at claimable
  obtain ⟨⟨⟨_, unsettled⟩, _⟩, lease⟩ := claimable
  refine ⟨unsettled, fun deadline leased => ?_⟩
  rw [leased] at lease
  exact of_decide_eq_true lease

/-- A claim of deliveries takes a delivery or passes it over. -/
theorem deliveryClaim_refines {workerId : String} {leaseSeconds : Int}
    {notificationDeliveries : SerialTable NotificationDelivery NotificationDelivery.id}
    {batch : Table ClaimedNotificationDelivery ClaimedNotificationDelivery.id}
    (idle : (world.deliveryBatches workerId).find? deliveryId = none)
    (claim
      : DeliveryClaim world workerId leaseSeconds notificationDeliveries batch deliveryId)
    (stored : after.db.notificationDeliveries = notificationDeliveries)
    (outcomes : after.outcomes = world.outcomes) (now : after.now = world.now)
    (batches : after.deliveryBatches = Function.update world.deliveryBatches workerId batch)
    : deliveryState after deliveryId = deliveryState world deliveryId
      ∨ Step (deliveryRules config deliveryId) (deliveryState world deliveryId)
          (deliveryState after deliveryId) := by
  have jobs
      : (deliveryState after deliveryId).held
        = Function.update (deliveryState world deliveryId).held workerId
            (batch.find? deliveryId) := by
    simp only [deliveryState, batches]
    exact heldDelivery_update world.deliveryBatches workerId batch deliveryId
  rcases claim with ⟨same, passed⟩ | ⟨delivery, channel, found, claimable, taken, handed⟩
  · left
    refine deliveryState_congr ?_ ?_ ?_ now
    · rw [stored, same]
    · simp only [outcomesOf, outcomes]
    · refine jobs.trans ?_
      rw [passed, ← idle]
      exact Function.update_eq_self workerId _
  · right
    obtain ⟨unsettled, free⟩ := free_of_isClaimable claimable
    have sameId : delivery.id = deliveryId := (Table.mem_of_find? found).2
    have state
        : deliveryState after deliveryId
          = { deliveryState world deliveryId with
              owner := some workerId
              leaseUntil := some (world.now + seconds leaseSeconds)
              held :=
                Function.update (deliveryState world deliveryId).held workerId
                  (some (.of (delivery.asClaimed world.now workerId leaseSeconds) channel)) } := by
      refine State.ext ?_ ?_ (handed ▸ jobs) ?_ now
      · simp only [deliveryState, stored, taken, Option.bind_some,
          NotificationDelivery.asClaimed]
      · simp only [deliveryState, stored, taken, Option.bind_some,
          NotificationDelivery.asClaimed]
      · simp only [deliveryState, deliveryView, outcomesOf, stored, taken, found, outcomes]
        rfl
    rw [state]
    refine .take ?_ idle ⟨sameId, deliveryFacts delivery, ?_, rfl, rfl, unsettled⟩
    · simp only [deliveryState, found, Option.bind_some]
      exact free
    · simp only [deliveryState, deliveryView, found, Option.map_some]

/-- A save queues a delivery or leaves it alone. -/
theorem save_refines {workerId : String} {siteMonitorId : Int} {job : CheckJob}
    {startedAt : Timestamp} {completed : CompletedMonitorCheck}
    {found : Option SiteMonitorIncident} {saved : Database} (commit : CommittedCheck)
    (effect : SaveEffect world.db startedAt job.siteMonitor workerId completed found saved)
    (deliveryId : Int)
    : let next := world.afterCheck workerId siteMonitorId ⟨saved, none, some commit⟩
      deliveryState next deliveryId = deliveryState world deliveryId
      ∨ Step (deliveryRules config deliveryId) (deliveryState world deliveryId)
          (deliveryState next deliveryId) := by
  intro next
  obtain ⟨incidentId, payload, queued⟩ := effect.notificationDeliveries
  have stored : next.db.notificationDeliveries = _ := queued
  rcases find?_foldl_enqueueDelivery deliveryId with same | ⟨absent, request, member, row⟩
  · rw [← stored] at same
    exact .inl (deliveryState_congr same rfl rfl rfl)
  · rw [← stored] at row
    right
    have state
        : deliveryState next deliveryId
          = { deliveryState world deliveryId with
              view :=
                { deliveryView world deliveryId with
                  delivery := some (deliveryFacts (request.row startedAt deliveryId)) } } := by
      refine State.ext ?_ ?_ rfl ?_ rfl
      · simp only [deliveryState, row, absent, Option.bind_some, Option.bind_none]
        rfl
      · simp only [deliveryState, row, absent, Option.bind_some, Option.bind_none]
        rfl
      · simp only [deliveryState, deliveryView, row, Option.map_some]
        rfl
    rw [state]
    refine .background (.queued ?_ rfl)
    simp only [deliveryState, deliveryView, absent, Option.map_none]

/-- Seen from one delivery, an action of the system is a step of the protocol or nothing. -/
theorem Stepped.refinesDelivery (stepped : Stepped config world after) (deliveryId : Int)
    : deliveryState after deliveryId = deliveryState world deliveryId
      ∨ Step (deliveryRules config deliveryId) (deliveryState world deliveryId)
          (deliveryState after deliveryId) := by
  cases stepped with
  | waited ordered => exact .inr (.wait ordered)
  | claimedMonitors _ _ _ => exact .inl rfl
  | checked _ checked =>
      cases checked with
      | extended _ _ | released _ | waited _ | began _ | lookedUp _ | ended => exact .inl rfl
      | committed _ effect => exact save_refines _ effect deliveryId
  | claimedDeliveries _ idle claim =>
      exact deliveryClaim_refines (idle deliveryId) (claim deliveryId) rfl rfl rfl rfl
  | @delivered _ handledId _ _ holds delivered =>
      by_cases same : deliveryId = handledId
      · subst same
        exact .inr (delivered.refines holds)
      · exact .inl (delivered.elsewhere same holds)
  | served handlers effect =>
      refine .inl (deliveryState_congr ?_ rfl rfl rfl)
      rw [effect.deliveries]

/-- Runs of the system are runs of the protocol of every delivery. -/
theorem system_refinesDelivery (path : Relation.ReflTransGen (Next (step config)) world after)
    (deliveryId : Int)
    : Relation.ReflTransGen (Step (deliveryRules config deliveryId))
        (deliveryState world deliveryId) (deliveryState after deliveryId) := by
  have reached : Reachable (step config) (· = world) world := .start rfl
  refine reached.simulation (deliveryState · deliveryId) ?_ path
  intro state action next _ taken
  rcases (step_cases taken).refinesDelivery deliveryId with same | one
  · rw [same]
  · exact .single one

/-- A delivery agrees with its outcomes, and the job of its owner with the row. -/
abbrev DeliveryConsistent (config : DeliveryConfig) (world : World) (deliveryId : Int) : Prop :=
  Consistent (fun _ => DeliveryHistory config) (fun _ => DeliveryTaken deliveryId)
    (deliveryState world deliveryId)

theorem DeliveryConsistent.path (consistent : DeliveryConsistent config world deliveryId)
    (path : Relation.ReflTransGen (Next (step config)) world after)
    : DeliveryConsistent config after deliveryId :=
  consistent_of_path (deliveryRules_sound config deliveryId)
    (system_refinesDelivery path deliveryId) consistent

/-- Every delivery of every reachable state is consistent. -/
theorem deliveryConsistent_of_reached (reached : Reached config world) (deliveryId : Int)
    : DeliveryConsistent config world deliveryId := by
  obtain ⟨start, fresh, path⟩ := reached
  refine DeliveryConsistent.path ⟨⟨fun _ => ?_, ?_⟩, ?_⟩ path
  · simp only [deliveryState, deliveryView, outcomesOf, fresh.noOutcomes, List.filter_nil]
  · intro facts present
    obtain ⟨delivery, found, _⟩ := Option.map_eq_some_iff.mp present
    have stored := (Table.mem_of_find? found).1
    rw [fresh.noDeliveries] at stored
    cases stored
  · intro workerId held _ holds
    have stored := (Table.mem_of_find? holds).1
    rw [fresh.noDeliveryJobs workerId] at stored
    cases stored

end AlonSentinel.System
