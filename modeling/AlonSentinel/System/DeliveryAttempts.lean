import AlonSentinel.System.DeliveryClaims

/-! One attempt to deliver a claimed notification, carried out while everybody else goes on, and
the attempts of one delivery from its first claim to its last.
-/

namespace AlonSentinel.System

open Domain
open KeyedTable
open LeaseProtocol
open Notifications
open TransitionSystem

variable {config : DeliveryConfig} {world after : World} {workerId : String} {deliveryId : Int}
  {held : ClaimedNotificationDelivery}

------------------------------------------------------------
-- Statements of an attempt
------------------------------------------------------------

/-- Only a delivery action of its owner records an outcome of a delivery. -/
theorem outcomesOf_step {action : Action} (taken : step config world action = some after)
    (deliveryId : Int)
    : outcomesOf after deliveryId = outcomesOf world deliveryId
      ∨ ∃ workerId deliveryAction,
          action = .deliver workerId deliveryId deliveryAction
          ∧ OwnsDelivery world.db deliveryId workerId := by
  cases action with
  | deliver workerId handledId deliveryAction =>
      obtain ⟨delivery, holds, rest⟩ := Option.bind_eq_some_iff.mp taken
      obtain ⟨outcome, stepped, rest⟩ := Option.bind_eq_some_iff.mp rest
      cases rest
      have stepped := deliveryStep_cases stepped
      by_cases same : deliveryId = handledId
      · subst same
        obtain ⟨_, rfl⟩ := Table.mem_of_find? holds
        cases stepped with
        | extended _ owns | released owns | delivered owns | failed _ owns _ =>
            exact .inr ⟨workerId, deliveryAction, rfl, owns⟩
        | ended => exact .inl (congrArg _ (List.append_nil _))
      · exact .inl (congrArg (·.view.outcomes) (stepped.elsewhere same holds))
  | advanceClock _ | claimSiteMonitors _ _ _ _ | claimDeliveries _ _ _ _ =>
      simp only [step] at taken
      split at taken
      · cases taken
        exact .inl rfl
      · cases taken
  | check _ _ _ =>
      obtain ⟨_, _, rest⟩ := Option.bind_eq_some_iff.mp taken
      obtain ⟨_, _, rest⟩ := Option.bind_eq_some_iff.mp rest
      cases rest
      exact .inl rfl
  | request _ =>
      simp only [step] at taken
      split at taken
      · cases taken
        exact .inl rfl
      · cases taken
        exact .inl rfl
  | finishHandler _ =>
      obtain ⟨_, _, rest⟩ := Option.bind_eq_some_iff.mp taken
      cases rest
      exact .inl rfl
  | dropHandler _ =>
      cases taken
      exact .inl rfl

/-- A stored delivery keeps its view for as long as no outcome of it is recorded. -/
theorem deliveryView_step {action : Action} {facts : DeliveryFacts}
    (taken : step config world action = some after)
    (present : (deliveryView world deliveryId).delivery = some facts)
    (same : outcomesOf after deliveryId = outcomesOf world deliveryId)
    : deliveryView after deliveryId = deliveryView world deliveryId := by
  rcases (step_cases taken).refinesDelivery deliveryId with unchanged | one
  · exact congrArg (·.view) unchanged
  · rcases one.view_cases with unchanged | ⟨_, _, _, _, settled⟩ | queued
    · exact unchanged
    · obtain ⟨outcome, recorded⟩ := settled.outcomes
      cases List.self_eq_append_right.mp (same.symm.trans recorded)
    · have queued : DeliveryQueued _ _ := queued
      cases queued.wasAbsent.symm.trans present

/-- The jobs of a worker are nobody else's business. -/
theorem holds_of_foreign {action : Action} (taken : step config world action = some after)
    (foreign : ∀ deliveryAction, action ≠ .deliver workerId deliveryId deliveryAction)
    (holds : (world.deliveryBatches workerId).find? deliveryId = some held)
    : (after.deliveryBatches workerId).find? deliveryId = some held := by
  cases action with
  | deliver other handledId deliveryAction =>
      obtain ⟨delivery, isHeld, rest⟩ := Option.bind_eq_some_iff.mp taken
      obtain ⟨outcome, stepped, rest⟩ := Option.bind_eq_some_iff.mp rest
      cases rest
      by_cases sameDelivery : deliveryId = handledId
      · subst sameDelivery
        have different : workerId ≠ other := fun same => foreign deliveryAction (same ▸ rfl)
        simp only [Function.update_of_ne different]
        exact holds
      · have elsewhere := (deliveryStep_cases stepped).elsewhere sameDelivery isHeld
        exact (congrFun (congrArg (·.held) elsewhere) workerId).trans holds
  | claimDeliveries other limit leaseSeconds locked =>
      simp only [step] at taken
      split at taken
      · next empty =>
          cases taken
          have different : workerId ≠ other := by
            rintro rfl
            cases (find?_of_isEmpty empty deliveryId).symm.trans holds
          simp only [Function.update_of_ne different]
          exact holds
      · cases taken
  | advanceClock _ | claimSiteMonitors _ _ _ _ =>
      simp only [step] at taken
      split at taken
      · cases taken
        exact holds
      · cases taken
  | check _ _ _ =>
      obtain ⟨_, _, rest⟩ := Option.bind_eq_some_iff.mp taken
      obtain ⟨_, _, rest⟩ := Option.bind_eq_some_iff.mp rest
      cases rest
      exact holds
  | request _ =>
      simp only [step] at taken
      split at taken
      · cases taken
        exact holds
      · cases taken
        exact holds
  | finishHandler _ =>
      obtain ⟨_, _, rest⟩ := Option.bind_eq_some_iff.mp taken
      cases rest
      exact holds
  | dropHandler _ =>
      cases taken
      exact holds

------------------------------------------------------------
-- Executing an attempt
------------------------------------------------------------

/-- A worker carries out what its attempt at a delivery does, and keeps the claim meanwhile. -/
abbrev Attempts (config : DeliveryConfig) (workerId : String) (deliveryId : Int)
    : World → List DeliveryAction → World → Prop :=
  Executes (step config) (.deliver workerId deliveryId)
    fun world => OwnsDelivery world.db deliveryId workerId

/-- The worker still holds its job, and nothing has happened to the delivery. -/
def Underway (workerId : String) (held : ClaimedNotificationDelivery) (view : DeliveryView)
    (world : World)
    : Prop :=
  (world.deliveryBatches workerId).find? held.id = some held
  ∧ deliveryView world held.id = view

/-- A statement of a held job is a step of that job. -/
theorem deliver_taken {action : DeliveryAction}
    (taken : step config world (.deliver workerId deliveryId action) = some after)
    (holds : (world.deliveryBatches workerId).find? deliveryId = some held)
    : ∃ outcome,
        deliveryStep config world.db world.now workerId held action = some outcome
        ∧ after = world.afterDelivery workerId deliveryId outcome := by
  obtain ⟨delivery, isHeld, rest⟩ := Option.bind_eq_some_iff.mp taken
  cases isHeld.symm.trans holds
  obtain ⟨outcome, stepped, rest⟩ := Option.bind_eq_some_iff.mp rest
  cases rest
  exact ⟨outcome, stepped, rfl⟩

theorem Underway.foreign {view : DeliveryView} {action : Action}
    (owns : OwnsDelivery world.db held.id workerId) (underway : Underway workerId held view world)
    (foreign : ∀ deliveryAction, action ≠ .deliver workerId held.id deliveryAction)
    (taken : step config world action = some after)
    : Underway workerId held view after := by
  obtain ⟨holds, sameView⟩ := underway
  refine ⟨holds_of_foreign taken foreign holds, ?_⟩
  obtain ⟨delivery, found, claimed⟩ := owns
  have present : (deliveryView world held.id).delivery = some (deliveryFacts delivery) :=
    congrArg (Option.map deliveryFacts) found
  have sameOutcomes : outcomesOf after held.id = outcomesOf world held.id := by
    rcases outcomesOf_step taken held.id with
      same | ⟨other, deliveryAction, isDeliver, otherDelivery, otherFound, otherClaimed⟩
    · exact same
    · cases found.symm.trans otherFound
      cases claimed.symm.trans otherClaimed
      exact absurd isDeliver (foreign deliveryAction)
  exact (deliveryView_step taken present sameOutcomes).trans sameView

theorem Underway.extend {view : DeliveryView} {leaseSeconds : Int}
    (owns : OwnsDelivery world.db held.id workerId) (underway : Underway workerId held view world)
    (taken : step config world (.deliver workerId held.id (.extend leaseSeconds)) = some after)
    : Underway workerId held view after := by
  obtain ⟨holds, sameView⟩ := underway
  obtain ⟨outcome, stepped, rfl⟩ := deliver_taken taken holds
  have updated : (extendDeliveryClaim world.db world.now held.id workerId leaseSeconds).1 = true :=
    deliveryGuard_iff.mpr owns
  obtain ⟨delivery, found, claimed⟩ := owns
  have stored := find?_extendDeliveryClaim world.now leaseSeconds found claimed
  cases stepped
  refine ⟨?_, (deliveryView_kept _ found stored rfl).trans sameView⟩
  refine (congrFun (afterDelivery_held _ holds) workerId).trans ?_
  rw [Function.update_self]
  change (if !(extendDeliveryClaim world.db world.now held.id workerId leaseSeconds).1 then none
    else some held) = some held
  rw [updated]
  rfl

/-- The last action of an attempt finds the job as the claim left it. -/
theorem Underway.reaches_last {view : DeliveryView} {extensions : List DeliveryAction}
    {final : DeliveryAction} (underway : Underway workerId held view world)
    (onlyExtends : ∀ action ∈ extensions, ∃ leaseSeconds, action = .extend leaseSeconds)
    (attempts : Attempts config workerId held.id world (extensions ++ [final]) after)
    : ∃ last,
        OwnsDelivery last.db held.id workerId
        ∧ Underway workerId held view last
        ∧ step config last (.deliver workerId held.id final) = some after := by
  refine attempts.reaches_last ?_ ?_ onlyExtends underway
  · exact fun _ _ _ owns underway foreign taken => underway.foreign owns foreign taken
  · rintro before _ later owns underway ⟨leaseSeconds, rfl⟩ taken
    exact underway.extend owns taken

/-- What an attempt has done to its delivery when it returns. -/
inductive AttemptEffect (workerId : String) (deliveryId : Int) (world after : World)
    : Option NotificationDeliveryExecution → Prop
  /-- The worker still claims the delivery. -/
  | leftBehind (claimed : OwnsDelivery after.db deliveryId workerId)
      (sameView : deliveryView after deliveryId = deliveryView world deliveryId)
    : AttemptEffect workerId deliveryId world after none
  | released (unclaimed : ¬OwnsDelivery after.db deliveryId workerId)
      (sameView : deliveryView after deliveryId = deliveryView world deliveryId)
    : AttemptEffect workerId deliveryId world after (some .cancelled)
  | recorded (unclaimed : ¬OwnsDelivery after.db deliveryId workerId) (delivered : Bool)
      (outcomes
        : outcomesOf after deliveryId
          = outcomesOf world deliveryId ++ [⟨deliveryId, workerId, delivered⟩])
    : AttemptEffect workerId deliveryId world after (some .completed)

/-- A row without an owner is nobody's. -/
theorem not_ownsDelivery {db : Database} {delivery : NotificationDelivery}
    (stored : db.notificationDeliveries.find? deliveryId = some delivery)
    (unclaimed : delivery.claimedBy = none)
    : ¬OwnsDelivery db deliveryId workerId := by
  rintro ⟨other, found, claimed⟩
  cases stored.symm.trans found
  cases unclaimed.symm.trans claimed

/-- The last action of an attempt has the effect that the attempt returns. -/
theorem attemptEffect_of_last {course : AttemptCourse} {final : DeliveryAction}
    {returned : Option NotificationDeliveryExecution}
    (ends : AttemptEnds held course final returned)
    (owns : OwnsDelivery world.db held.id workerId)
    (holds : (world.deliveryBatches workerId).find? held.id = some held)
    (taken : step config world (.deliver workerId held.id final) = some after)
    : AttemptEffect workerId held.id world after returned := by
  obtain ⟨outcome, stepped, rfl⟩ := deliver_taken taken holds
  have isOwner := deliveryGuard_iff.mpr owns
  obtain ⟨delivery, found, claimed⟩ := id owns
  cases ends with
  | unreadable _ _ =>
      cases stepped
      refine .leftBehind owns ?_
      simp only [deliveryView, outcomesOf, World.afterDelivery, Option.toList_none,
        List.append_nil]
  | released _ =>
      have stored := find?_releaseDeliveryClaim world.now found claimed
      cases stepped
      exact .released (not_ownsDelivery stored rfl) (deliveryView_kept _ found stored rfl)
  | delivered _ =>
      have stored := find?_markDelivered world.now found claimed
      have updated : (Domain.markDelivered world.db world.now held.id workerId).1 = true := isOwner
      cases stepped
      change AttemptEffect workerId held.id world
        (world.afterDelivery workerId held.id
          ⟨_, true, if (Domain.markDelivered world.db world.now held.id workerId).1 then _ else _⟩)
        _
      rw [if_pos updated]
      exact .recorded (not_ownsDelivery stored rfl) true (outcomesOf_recorded _ _ _)
  | failed _ error =>
      obtain ⟨result, handled, rfl⟩ := Option.map_eq_some_iff.mp stepped
      obtain ⟨nextAttemptAt, _, rfl⟩ := Option.map_eq_some_iff.mp handled
      have stored := find?_markFailed world.now error.text nextAttemptAt found claimed
      have updated
          : (markFailed world.db world.now held.id workerId error.text nextAttemptAt).1 = true :=
        isOwner
      simp only [updated, if_true]
      exact .recorded (not_ownsDelivery stored rfl) false (outcomesOf_recorded _ _ _)

/-- An attempt has the effect that it returns, and ends accordingly. -/
theorem attemptEffect_of_attempts {course : AttemptCourse} {actions : List DeliveryAction}
    {returned : Option NotificationDeliveryExecution} (undisturbed : course.Undisturbed)
    (ran : deliverOneNotification held course = some (actions, returned))
    (holds : (world.deliveryBatches workerId).find? held.id = some held)
    (attempts : Attempts config workerId held.id world actions after)
    : AttemptEffect workerId held.id world after returned
      ∧ ∃ final, AttemptEnds held course final returned := by
  obtain ⟨extensions, final, rfl, onlyExtends, ends⟩ :=
    deliverOneNotification_ends undisturbed ran
  refine ⟨?_, final, ends⟩
  have underway : Underway workerId held (deliveryView world held.id) world := ⟨holds, rfl⟩
  obtain ⟨last, owns, ⟨stillHolds, sameView⟩, taken⟩ :=
    underway.reaches_last onlyExtends attempts
  cases attemptEffect_of_last ends owns stillHolds taken with
  | leftBehind claimed view => exact .leftBehind claimed (view.trans sameView)
  | released unclaimed view => exact .released unclaimed (view.trans sameView)
  | recorded unclaimed delivered outcomes =>
      have same : outcomesOf last held.id = outcomesOf world held.id :=
        congrArg DeliveryView.outcomes sameView
      exact .recorded unclaimed delivered (same ▸ outcomes)

------------------------------------------------------------
-- Settling
------------------------------------------------------------

/-- When the attempt returned, its worker did not claim the delivery any more: a shutdown had
released it, or exactly one outcome was recorded. -/
structure ClaimSettled (workerId : String) (deliveryId : Int) (world after : World)
    (returned : Option NotificationDeliveryExecution)
    : Prop where
  unclaimed : ¬OwnsDelivery after.db deliveryId workerId
  ended
    : (returned = some .cancelled ∧ outcomesOf after deliveryId = outcomesOf world deliveryId)
      ∨ ∃ delivered,
          outcomesOf after deliveryId
          = outcomesOf world deliveryId ++ [⟨deliveryId, workerId, delivered⟩]

/-- An attempt settles its claim exactly if a shutdown came before it or its payload can be
read. -/
theorem claimSettled_iff {course : AttemptCourse} {actions : List DeliveryAction}
    {returned : Option NotificationDeliveryExecution} (undisturbed : course.Undisturbed)
    (ran : deliverOneNotification held course = some (actions, returned))
    (holds : (world.deliveryBatches workerId).find? held.id = some held)
    (attempts : Attempts config workerId held.id world actions after)
    : ClaimSettled workerId held.id world after returned
      ↔ course.shutdownRequested = true ∨ payloadDecodes held.payload = true := by
  obtain ⟨effect, final, ends⟩ := attemptEffect_of_attempts undisturbed ran holds attempts
  cases effect with
  | leftBehind claimed _ =>
      cases ends with
      | unreadable started undecodable =>
          refine iff_of_false (fun settled => settled.unclaimed claimed) ?_
          simp [started, undecodable]
  | released unclaimed view =>
      cases ends with
      | released reached =>
          have same : outcomesOf after held.id = outcomesOf world held.id :=
            congrArg DeliveryView.outcomes view
          exact iff_of_true ⟨unclaimed, .inl ⟨rfl, same⟩⟩ reached
  | recorded unclaimed delivered outcomes =>
      cases ends with
      | delivered decodes | failed decodes _ =>
          exact iff_of_true ⟨unclaimed, .inr ⟨delivered, outcomes⟩⟩ (.inr decodes)

------------------------------------------------------------
-- All attempts of a delivery
------------------------------------------------------------

/-- Runs from `start` in which a delivery was attempted, and how many of its claims no shutdown
cut short. All attempts of such a run return, so that none fails with a retry time that cannot be
represented; that would be a panic in `retryTime`.
-/
inductive Attempted (config : DeliveryConfig) (deliveryId : Int) (start : World)
    : Nat → World → Prop
  | start : Attempted config deliveryId start 0 start
  | elsewhere {claims : Nat} {world after : World} {action : Action}
      (before : Attempted config deliveryId start claims world)
      (foreign : ∀ workerId deliveryAction, action ≠ .deliver workerId deliveryId deliveryAction)
      (taken : step config world action = some after)
    : Attempted config deliveryId start claims after
  | attempt {claims : Nat} {world after : World} {workerId : String}
      {held : ClaimedNotificationDelivery} {course : AttemptCourse}
      {actions : List DeliveryAction} {returned : Option NotificationDeliveryExecution}
      (before : Attempted config deliveryId start claims world)
      (undisturbed : course.Undisturbed)
      (ran : deliverOneNotification held course = some (actions, returned))
      (holds : (world.deliveryBatches workerId).find? deliveryId = some held)
      (attempts : Attempts config workerId deliveryId world actions after)
    : Attempted config deliveryId start
        (if returned = some .cancelled then claims else claims + 1) after

theorem Attempted.path {start : World} {claims : Nat}
    (attempted : Attempted config deliveryId start claims world)
    : Relation.ReflTransGen (Next (step config)) start world := by
  induction attempted with
  | start => exact .refl
  | elsewhere _ _ taken ih => exact ih.tail ⟨_, taken⟩
  | attempt _ _ _ _ attempts ih => exact ih.trans attempts.path

/-- An attempt has something to do. -/
theorem actions_ne_nil {course : AttemptCourse} {actions : List DeliveryAction}
    {returned : Option NotificationDeliveryExecution} (undisturbed : course.Undisturbed)
    (ran : deliverOneNotification held course = some (actions, returned))
    : actions ≠ [] := by
  obtain ⟨extensions, final, rfl, _⟩ := deliverOneNotification_ends undisturbed ran
  exact List.append_ne_nil_of_right_ne_nil _ (List.cons_ne_nil _ _)

section Terminal

variable {start : World} {delivery : NotificationDelivery} {claims : Nat}

/-- What an owner holds has the payload that is stored, and an attempt ahead. -/
theorem Attempted.held_accurate (consistent : DeliveryConsistent config start deliveryId)
    (found : start.db.notificationDeliveries.find? deliveryId = some delivery)
    (attempted : Attempted config deliveryId start claims world)
    (owns : OwnsDelivery world.db deliveryId workerId)
    (holds : (world.deliveryBatches workerId).find? deliveryId = some held)
    : held.payload = delivery.payload
      ∧ ∃ facts,
          (deliveryView world deliveryId).delivery = some facts ∧ facts.isUnsettled = true := by
  obtain ⟨later, stored, _, samePayload⟩ := deliveryKept_of_path attempted.path found
  obtain ⟨_, facts, present, payload, _, unsettled⟩ :=
    (consistent.path attempted.path).accurate workerId held (deliveryState_owner.mpr owns) holds
  have isStored : (deliveryView world deliveryId).delivery = some (deliveryFacts later) :=
    congrArg (Option.map deliveryFacts) stored
  cases isStored.symm.trans present
  exact ⟨payload.symm.trans samePayload, _, present, unsettled⟩

/-- Every claim of a readable delivery that no shutdown cut short has recorded an outcome. -/
theorem Attempted.outcomes (consistent : DeliveryConsistent config start deliveryId)
    (found : start.db.notificationDeliveries.find? deliveryId = some delivery)
    (decodes : payloadDecodes delivery.payload = true)
    (attempted : Attempted config deliveryId start claims world)
    : claims ≤ (outcomesOf world deliveryId).length := by
  induction attempted with
  | start => exact Nat.zero_le _
  | elsewhere before foreign taken ih =>
      rcases outcomesOf_step taken deliveryId with same | ⟨_, _, isDeliver, _⟩
      · exact same ▸ ih
      · exact absurd isDeliver (foreign _ _)
  | attempt before undisturbed ran holds attempts ih =>
      obtain ⟨_, rfl⟩ := Table.mem_of_find? holds
      have owns := attempts.guarded (actions_ne_nil undisturbed ran)
      obtain ⟨samePayload, _⟩ := before.held_accurate consistent found owns holds
      obtain ⟨effect, final, ends⟩ := attemptEffect_of_attempts undisturbed ran holds attempts
      cases effect with
      | leftBehind _ _ =>
          cases ends with
          | unreadable _ undecodable => cases undecodable.symm.trans (samePayload ▸ decodes)
      | released _ view =>
          have same : outcomesOf _ _ = outcomesOf _ _ := congrArg DeliveryView.outcomes view
          rw [if_pos rfl, same]
          exact ih
      | recorded _ delivered outcomes =>
          rw [if_neg (by decide), outcomes, List.length_append]
          exact Nat.succ_le_succ ih

/-- A delivery that cannot be read stays as it is, with an attempt ahead if it was claimed. -/
theorem Attempted.unchanged (consistent : DeliveryConsistent config start deliveryId)
    (found : start.db.notificationDeliveries.find? deliveryId = some delivery)
    (undecodable : payloadDecodes delivery.payload = false)
    (attempted : Attempted config deliveryId start claims world)
    : deliveryView world deliveryId = deliveryView start deliveryId
      ∧ (0 < claims
        → ∃ facts,
            (deliveryView world deliveryId).delivery = some facts ∧ facts.isUnsettled = true) := by
  induction attempted with
  | start => exact ⟨rfl, nofun⟩
  | @elsewhere claims before _ _ earlier foreign taken ih =>
      have present : (deliveryView before deliveryId).delivery = some (deliveryFacts delivery) :=
        (congrArg DeliveryView.delivery ih.1).trans (congrArg (Option.map deliveryFacts) found)
      rcases outcomesOf_step taken deliveryId with same | ⟨_, _, isDeliver, _⟩
      · have sameView := deliveryView_step taken present same
        exact ⟨sameView.trans ih.1, sameView ▸ ih.2⟩
      · exact absurd isDeliver (foreign _ _)
  | attempt before undisturbed ran holds attempts ih =>
      obtain ⟨_, rfl⟩ := Table.mem_of_find? holds
      have owns := attempts.guarded (actions_ne_nil undisturbed ran)
      obtain ⟨samePayload, unsettled⟩ := before.held_accurate consistent found owns holds
      obtain ⟨effect, final, ends⟩ := attemptEffect_of_attempts undisturbed ran holds attempts
      cases effect with
      | leftBehind _ view | released _ view => exact ⟨view.trans ih.1, fun _ => view ▸ unsettled⟩
      | recorded _ _ _ =>
          cases ends with
          | delivered decodes | failed decodes _ =>
              cases undecodable.symm.trans (samePayload ▸ decodes)

/-- A delivery that will never be attempted again. -/
def Terminal (world : World) (deliveryId : Int) : Prop :=
  ∃ delivery,
    world.db.notificationDeliveries.find? deliveryId = some delivery ∧ IsSettled delivery

/-- After as many claims as the maximum, none cut short, a delivery is terminal exactly if it can
be read. -/
theorem terminal_iff (consistent : DeliveryConsistent config start deliveryId)
    (found : start.db.notificationDeliveries.find? deliveryId = some delivery)
    (attempted : Attempted config deliveryId start claims world)
    (enough : config.notificationMaxAttempts ≤ claims)
    : Terminal world deliveryId ↔ payloadDecodes delivery.payload = true := by
  obtain ⟨later, stored, _, _⟩ := deliveryKept_of_path attempted.path found
  have present : (deliveryView world deliveryId).delivery = some (deliveryFacts later) :=
    congrArg (Option.map deliveryFacts) stored
  cases decodes : payloadDecodes delivery.payload with
  | true =>
      refine iff_of_true ⟨later, stored, isSettled_iff.mpr ?_⟩ rfl
      have recorded := attempted.outcomes consistent found decodes
      have accounted := (consistent.path attempted.path).good.accounted _ present
      refine Bool.eq_false_iff.mpr fun unsettled => ?_
      have fewer := accounted.left unsettled
      have counted : (deliveryFacts later).attempts = (outcomesOf world deliveryId).length :=
        accounted.counted
      omega
  | false =>
      refine iff_of_false ?_ nofun
      rintro ⟨other, isStored, settled⟩
      cases stored.symm.trans isStored
      have claimed : 0 < claims := lt_of_lt_of_le config.maxAttemptsPositive enough
      obtain ⟨facts, isPresent, unsettled⟩ :=
        (attempted.unchanged consistent found decodes).2 claimed
      cases present.symm.trans isPresent
      cases (isSettled_iff.mp settled).symm.trans unsettled

/-- Every attempt at a delivery that returns settles its claim exactly if a shutdown came before it
or the payload can be read. One that panics on its retry time does not return.
-/
def AttemptsSettle (config : DeliveryConfig) (world : World) (deliveryId : Int)
    (payload : SerdeJson.Value)
    : Prop :=
  ∀ workerId held course actions returned after,
    course.Undisturbed
    → deliverOneNotification held course = some (actions, returned)
    → (world.deliveryBatches workerId).find? deliveryId = some held
    → Attempts config workerId deliveryId world actions after
    → (ClaimSettled workerId deliveryId world after returned
        ↔ course.shutdownRequested = true ∨ payloadDecodes payload = true)

/-- Attempts at a delivery settle their claims, and a delivery that was claimed as often as the
maximum without being cut short is terminal, exactly if its payload can be read.
-/
theorem deliverySettlement (consistent : DeliveryConsistent config start deliveryId)
    (found : start.db.notificationDeliveries.find? deliveryId = some delivery)
    (attempted : Attempted config deliveryId start claims world)
    : AttemptsSettle config world deliveryId delivery.payload
      ∧ (config.notificationMaxAttempts ≤ claims
        → (Terminal world deliveryId ↔ payloadDecodes delivery.payload = true)) := by
  refine ⟨?_, terminal_iff consistent found attempted⟩
  intro workerId held course actions returned after undisturbed ran holds attempts
  have owns := attempts.guarded (actions_ne_nil undisturbed ran)
  obtain ⟨samePayload, _⟩ := attempted.held_accurate consistent found owns holds
  obtain ⟨_, rfl⟩ := Table.mem_of_find? holds
  rw [← samePayload]
  exact claimSettled_iff undisturbed ran holds attempts

end Terminal

------------------------------------------------------------
-- A stored delivery
------------------------------------------------------------

def queuedRow (payload : SerdeJson.Value) (id : Int) : NotificationDelivery :=
  NewNotificationDelivery.row
    { notificationChannelId := 1, siteMonitorId := 1, siteMonitorCheckId := 1
      incidentId := none, eventType := .failure, payload }
    0 id

/-- The small deployment with one queued delivery. -/
def queuedWorld (payload : SerdeJson.Value) : World :=
  { smallWorld with
    db :=
      { smallDatabase with
        notificationDeliveries := SerialTable.empty.insert (queuedRow payload) fun _ => rfl } }

theorem queuedWorld_found (payload : SerdeJson.Value)
    : (queuedWorld payload).db.notificationDeliveries.find? 1 = some (queuedRow payload 1) :=
  rfl

/-- Whatever its payload, the delivery is consistent: nobody has attempted or claimed it. -/
theorem queuedWorld_consistent (config : DeliveryConfig) (payload : SerdeJson.Value)
    : DeliveryConsistent config (queuedWorld payload) 1 := by
  have present : (deliveryView (queuedWorld payload) 1).delivery
      = some (deliveryFacts (queuedRow payload 1)) :=
    congrArg (Option.map deliveryFacts) (queuedWorld_found payload)
  refine ⟨⟨fun absent => ?_, fun facts isPresent => ?_⟩, fun _ _ _ holds => ?_⟩
  · cases absent.symm.trans present
  · cases present.symm.trans isPresent
    have positive : (0 : Int) < config.notificationMaxAttempts :=
      Int.natCast_pos.mpr config.maxAttemptsPositive
    exact ⟨rfl, positive.le, fun _ => positive⟩
  · cases holds

/-- A worker has claimed the delivery. -/
def claimedWorld (payload : SerdeJson.Value)
    (enabled
      : (step smallConfig (queuedWorld payload) (.claimDeliveries "w1" 10 60 [])).isSome
        = true := by
        rfl)
    : World :=
  smallNext (queuedWorld payload) (.claimDeliveries "w1" 10 60 []) enabled

theorem attempted_claimedWorld (payload : SerdeJson.Value)
    : Attempted smallConfig 1 (queuedWorld payload) 0 (claimedWorld payload) :=
  .elsewhere .start (fun _ _ same => by cases same) smallNext_taken

/-- The copy of the delivery that the worker holds. -/
def claimedDelivery (payload : SerdeJson.Value) : ClaimedNotificationDelivery :=
  .of ((queuedRow payload 1).asClaimed 0 "w1" 60)
    { id := 1, channelType := .webhook, name := "ops", destination := "https://ops.test"
      webhookSecretCiphertext := some "c2VjcmV0", notifyOnFailure := true
      notifyOnRecovery := true, isActive := true, createdAt := 0, updatedAt := 0 }

theorem claimedWorld_holds (payload : SerdeJson.Value)
    : ((claimedWorld payload).deliveryBatches "w1").find? 1 = some (claimedDelivery payload) :=
  rfl

theorem claimedWorld_owns (payload : SerdeJson.Value)
    : OwnsDelivery (claimedWorld payload).db 1 "w1" :=
  ⟨(queuedRow payload 1).asClaimed 0 "w1" 60, rfl, rfl⟩

/-- Nothing disturbs the attempt, and nothing happens while it sends but one heartbeat. -/
def quietCourse : AttemptCourse where
  shutdownRequested := false
  leaseSeconds := 60
  events := [.heartbeat .extended, .sendCompleted (.error ⟨.address, "invalid address"⟩)]
  hostNow := 0
  databaseAnswers := true

theorem quietCourse_undisturbed : quietCourse.Undisturbed where
  heartbeats reply member := by
    rcases List.mem_cons.mp member with same | member
    · cases same
      rfl
    · cases List.mem_singleton.mp member
  databaseAnswers := rfl

/-- One attempt is allowed. -/
def singleAttempt : DeliveryConfig :=
  { smallConfig with notificationMaxAttempts := 1, maxAttemptsPositive := by decide }

def readablePayload : SerdeJson.Value :=
  NotificationPayload.toJson
    { schemaVersion := 1, eventType := .failure, occurredAt := "1970-01-01T00:00:00+00:00"
      summary := "Site 'shop' is DOWN", emailSubject := "shop is DOWN", emailText := ""
      site := ⟨1, "shop", "https://shop.test"⟩
      monitor := ⟨1, "http", "https://shop.test", 200, 60⟩
      previousCheck := ⟨none, none, none, none, none, none⟩
      currentCheck := ⟨1, "1970-01-01T00:00:00+00:00", false, some 500, none, none, none⟩ }

/-- The claimed delivery after its lease was extended. -/
def extendedWorld : World :=
  (step singleAttempt (claimedWorld readablePayload) (.deliver "w1" 1 (.extend 60))).get
    (by decide +kernel)

/-- The claimed delivery after its only attempt failed. -/
def failedWorld : World :=
  (step singleAttempt extendedWorld
      (.deliver "w1" 1 (.recordFailure 0 ⟨.address, "invalid address"⟩))).get
    (by decide +kernel)

theorem attempted_failedWorld
    : Attempted singleAttempt 1 (queuedWorld readablePayload) 1 failedWorld := by
  have taken
      : step singleAttempt (queuedWorld readablePayload) (.claimDeliveries "w1" 10 60 [])
        = some (claimedWorld readablePayload) :=
    rfl
  have claimed
      : Attempted singleAttempt 1 (queuedWorld readablePayload) 0
          (claimedWorld readablePayload) :=
    .elsewhere .start (fun _ _ same => by cases same) taken
  have owns : OwnsDelivery extendedWorld.db 1 "w1" :=
    ⟨((queuedRow readablePayload 1).asClaimed 0 "w1" 60).asExtended 0 60, rfl, rfl⟩
  have attempts
      : Attempts singleAttempt "w1" 1 (claimedWorld readablePayload)
          [.extend 60, .recordFailure 0 ⟨.address, "invalid address"⟩] failedWorld :=
    .own (claimedWorld_owns _) (Option.some_get _).symm
      (.own owns (Option.some_get _).symm (.finished _))
  exact .attempt claimed quietCourse_undisturbed rfl (claimedWorld_holds _) attempts

theorem deliverySettlement_failedWorld
    : payloadDecodes readablePayload = true
      ∧ AttemptsSettle singleAttempt failedWorld 1 readablePayload
      ∧ (1 ≤ 1 → (Terminal failedWorld 1 ↔ payloadDecodes readablePayload = true)) :=
  ⟨by decide +kernel,
    deliverySettlement (queuedWorld_consistent singleAttempt readablePayload)
      (queuedWorld_found readablePayload) attempted_failedWorld⟩

/-- The claim of a delivery that cannot be read stays behind. -/
theorem unreadable_not_settled
    : ¬∀ (config : DeliveryConfig) (start : World) (deliveryId : Int) (claims : Nat)
          (world after : World) (workerId : String) (held : ClaimedNotificationDelivery)
          (course : AttemptCourse) (actions : List DeliveryAction)
          (returned : Option NotificationDeliveryExecution),
        DeliveryConsistent config start deliveryId
        → Attempted config deliveryId start claims world
        → course.Undisturbed
        → deliverOneNotification held course = some (actions, returned)
        → (world.deliveryBatches workerId).find? deliveryId = some held
        → Attempts config workerId deliveryId world actions after
        → ClaimSettled workerId deliveryId world after returned := by
  intro settles
  have attempts
      : Attempts smallConfig "w1" 1 (claimedWorld .null) [.abandon]
          (smallNext (claimedWorld .null) (.deliver "w1" 1 .abandon)) :=
    .own (claimedWorld_owns _) smallNext_taken (.finished _)
  have settled :=
    settles smallConfig (queuedWorld .null) 1 0 (claimedWorld .null) _ "w1"
      (claimedDelivery .null) quietCourse [.abandon] none (queuedWorld_consistent _ _)
      (attempted_claimedWorld _) quietCourse_undisturbed rfl (claimedWorld_holds _) attempts
  exact settled.unclaimed (claimedWorld_owns .null)

end AlonSentinel.System
