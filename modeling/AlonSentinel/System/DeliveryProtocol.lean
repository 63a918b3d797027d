import AlonSentinel.Foundation.LeaseProtocol
import AlonSentinel.System.World

/-! One delivery as a resource under a lease. Its view is the row's progress and the recorded
outcomes; a worker holds the attempts that its claim returned. As long as owners hold the
attempts of the row, the retry bound that they compute from them is the bound of the row.
-/

namespace AlonSentinel.System

open Domain
open LeaseProtocol
open Notifications

/-- The columns of a delivery that its attempts depend on. -/
structure DeliveryFacts where
  payload : SerdeJson.Value
  status : NotificationDeliveryStatus
  attempts : Int
  nextAttemptAt : Option Timestamp

def deliveryFacts (delivery : NotificationDelivery) : DeliveryFacts where
  payload := delivery.payload
  status := delivery.status
  attempts := delivery.attempts
  nextAttemptAt := delivery.nextAttemptAt

/-- A delivery that still has an attempt ahead. -/
def DeliveryFacts.isUnsettled (facts : DeliveryFacts) : Bool :=
  facts.status = .pending || (facts.status = .failed && facts.nextAttemptAt.isSome)

/-- A delivery with its recorded outcomes, oldest first. -/
structure DeliveryView where
  delivery : Option DeliveryFacts
  outcomes : List RecordedOutcome

------------------------------------------------------------
-- Rules
------------------------------------------------------------

/-- What a claim returns. -/
structure DeliveryTaken (deliveryId : Int) (view : DeliveryView)
    (held : ClaimedNotificationDelivery)
    : Prop where
  id : held.id = deliveryId
  facts
    : ∃ facts,
        view.delivery = some facts
        ∧ facts.payload = held.payload
        ∧ facts.attempts = held.attempts
        ∧ facts.isUnsettled = true

/-- How an attempt changes the row, given what its worker was handed. -/
inductive AttemptSettled (config : DeliveryConfig) (held : ClaimedNotificationDelivery)
    (facts : DeliveryFacts)
    : DeliveryFacts → Prop
  | delivered
    : AttemptSettled config held facts
        { facts with status := .delivered, attempts := facts.attempts + 1 }
  | failed {hostNow : Timestamp} {shouldRetry : Bool} {nextAttemptAt : Option Timestamp}
      (retry : retryTime config hostNow held shouldRetry = some nextAttemptAt)
    : AttemptSettled config held facts
        { facts with status := .failed, attempts := facts.attempts + 1, nextAttemptAt }

/-- An attempt of a delivery, with the outcome it records. -/
structure DeliverySettled (config : DeliveryConfig) (view : DeliveryView)
    (held : ClaimedNotificationDelivery) (settled : DeliveryView)
    : Prop where
  delivery
    : ∃ before after,
        view.delivery = some before
        ∧ settled.delivery = some after
        ∧ AttemptSettled config held before after
  outcomes : ∃ outcome, settled.outcomes = view.outcomes ++ [outcome]

/-- A save may queue the delivery. -/
inductive DeliveryQueued (view : DeliveryView) : DeliveryView → Prop
  | queued {facts : DeliveryFacts} (absent : view.delivery = none)
      (unattempted : facts.attempts = 0)
    : DeliveryQueued view { view with delivery := some facts }

/-- Claims, attempts and saves as rules on one delivery. -/
def deliveryRules (config : DeliveryConfig) (deliveryId : Int)
    : Rules Timestamp ClaimedNotificationDelivery DeliveryView where
  take := fun _ => DeliveryTaken deliveryId
  work := fun _ _ held progressed => progressed = held
  settle := fun _ => DeliverySettled config
  background := fun _ => DeliveryQueued

------------------------------------------------------------
-- Invariants
------------------------------------------------------------

/-- The attempts of a row are its outcomes, and an unsettled one has an attempt left. -/
structure AttemptsAccounted (config : DeliveryConfig) (outcomes : List RecordedOutcome)
    (facts : DeliveryFacts)
    : Prop where
  counted : facts.attempts = outcomes.length
  bounded : facts.attempts ≤ config.notificationMaxAttempts
  left : facts.isUnsettled = true → facts.attempts < config.notificationMaxAttempts

/-- A delivery agrees with its outcomes, and one that is not there has none. -/
structure DeliveryHistory (config : DeliveryConfig) (view : DeliveryView) : Prop where
  absent : view.delivery = none → view.outcomes = []
  accounted
    : ∀ facts, view.delivery = some facts → AttemptsAccounted config view.outcomes facts

section Soundness

variable {config : DeliveryConfig} {deliveryId : Int} {view settled : DeliveryView}
  {held : ClaimedNotificationDelivery}

/-- An attempt uses up one of those that are left. -/
theorem AttemptSettled.accounted {outcomes : List RecordedOutcome} {before after : DeliveryFacts}
    (attempt : AttemptSettled config held before after)
    (accounted : AttemptsAccounted config outcomes before) (outcome : RecordedOutcome)
    (sameAttempts : before.attempts = held.attempts) (unsettled : before.isUnsettled = true)
    : AttemptsAccounted config (outcomes ++ [outcome]) after := by
  have counted : before.attempts + 1 = ((outcomes ++ [outcome]).length : Int) := by
    rw [accounted.counted, List.length_append, List.length_singleton]
    rfl
  have left := accounted.left unsettled
  cases attempt with
  | delivered => exact ⟨counted, left, nofun⟩
  | @failed hostNow shouldRetry nextAttemptAt retry =>
      refine ⟨counted, left, fun retried => ?_⟩
      cases nextAttemptAt with
      | none => cases retried
      | some retryAt =>
          have nonneg : 0 ≤ held.attempts := by
            rw [← sameAttempts, accounted.counted]
            exact Int.natCast_nonneg _
          have fewer := retryTime_some nonneg retry
          rwa [← sameAttempts] at fewer

theorem DeliverySettled.history (settling : DeliverySettled config view held settled)
    (history : DeliveryHistory config view) (taken : DeliveryTaken deliveryId view held)
    : DeliveryHistory config settled := by
  obtain ⟨before, after, present, stored, attempt⟩ := settling.delivery
  obtain ⟨outcome, recorded⟩ := settling.outcomes
  obtain ⟨facts, stillPresent, _, sameAttempts, unsettled⟩ := taken.facts
  cases present.symm.trans stillPresent
  refine ⟨fun absent => absurd (absent.symm.trans stored) nofun, fun later isLater => ?_⟩
  cases stored.symm.trans isLater
  rw [recorded]
  exact attempt.accounted (history.accounted before present) outcome sameAttempts unsettled

theorem DeliveryQueued.wasAbsent {changed : DeliveryView} (queued : DeliveryQueued view changed)
    : view.delivery = none := by
  obtain ⟨absent, _⟩ := queued
  exact absent

theorem DeliveryQueued.history {changed : DeliveryView} (queued : DeliveryQueued view changed)
    (history : DeliveryHistory config view)
    : DeliveryHistory config changed := by
  obtain @⟨facts, absent, unattempted⟩ := queued
  refine ⟨nofun, fun later isLater => ?_⟩
  cases isLater
  change AttemptsAccounted config view.outcomes facts
  rw [history.absent absent]
  have positive : (0 : Int) < config.notificationMaxAttempts :=
    Int.natCast_pos.mpr config.maxAttemptsPositive
  refine ⟨unattempted, ?_, fun _ => ?_⟩
  · rw [unattempted]
    exact positive.le
  · rw [unattempted]
    exact positive

/-- Under the rules, deliveries agree with their outcomes and owners hold the attempts of the
row. -/
theorem deliveryRules_sound (config : DeliveryConfig) (deliveryId : Int)
    : (deliveryRules config deliveryId).Sound (fun _ => DeliveryHistory config)
        (fun _ => DeliveryTaken deliveryId) where
  goodLater _ history := history
  accurateLater _ accurate := accurate
  take _ taken := taken
  work _ accurate same := same ▸ accurate
  settle history accurate settling := settling.history history accurate
  backgroundGood history queued := queued.history history
  backgroundAccurate := by
    intro _ view changed held _ accurate queued
    obtain ⟨facts, present, _⟩ := accurate.facts
    cases queued.wasAbsent.symm.trans present

end Soundness

end AlonSentinel.System
