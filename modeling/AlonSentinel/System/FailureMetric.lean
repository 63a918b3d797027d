import AlonSentinel.Api.Metrics
import AlonSentinel.System.DeliveryAttempts

/-! The gauge of permanently failed deliveries against what a claim can still take. A failed
delivery that waits for its retry has the same status as one that has none left.
-/

namespace AlonSentinel.System

open Api
open Domain
open KeyedTable
open Notifications
open Relation
open TransitionSystem

variable {config : DeliveryConfig} {world : World} {deliveryId : Int}

/-- The database with all channels switched on. -/
def withActiveChannels (db : Database) : Database :=
  { db with
    notificationChannels :=
      db.notificationChannels.update (fun _ => true) ({ · with isActive := true }) }

/-- Whatever happens in between, some later claim returns the delivery if its channel is active. -/
def ClaimedAgain (config : DeliveryConfig) (world : World) (deliveryId : Int) : Prop :=
  ∃ later workerId limit leaseSeconds locked,
    ReflTransGen (Next (step config)) world later
    ∧ ((claimDueDeliveries (withActiveChannels later.db) later.now workerId limit leaseSeconds
          locked).2.find? deliveryId).isSome

/-- A delivery with a next attempt is claimable once that attempt is due and its lease is over. -/
theorem isClaimable_withActiveChannels {db : Database} {now dueAt : Timestamp}
    {delivery : NotificationDelivery}
    (joins : (db.notificationChannels.find? delivery.notificationChannelId).isSome = true)
    (unsettled : delivery.isUnsettled = true) (next : delivery.nextAttemptAt = some dueAt)
    (due : dueAt ≤ now)
    (free : ∀ leaseUntil, delivery.leaseUntil = some leaseUntil → leaseUntil < now)
    : delivery.isClaimable (withActiveChannels db) now = true := by
  obtain ⟨channel, found⟩ := Option.isSome_iff_exists.mp joins
  have active
      : (withActiveChannels db).notificationChannels.find? delivery.notificationChannelId
        = some { channel with isActive := true } :=
    SerialTable.find?_update_of_matched found rfl
  have leaseOver : delivery.leaseUntil.all (· < now) = true := by
    cases leased : delivery.leaseUntil with
    | none => rfl
    | some leaseUntil => exact decide_eq_true (free leaseUntil leased)
  simp only [NotificationDelivery.isClaimable, active, next, unsettled, leaseOver, due,
    Option.any_some, decide_true, Bool.and_true]

/-- A claim with room for all deliveries returns every claimable one. -/
theorem claimDueDeliveries_of_isClaimable (db : Database) {now : Timestamp}
    {delivery : NotificationDelivery} (workerId : String) (leaseSeconds : Int)
    (stored : delivery ∈ db.notificationDeliveries.rows)
    (claimable : delivery.isClaimable db now = true)
    : ((claimDueDeliveries db now workerId db.notificationDeliveries.rows.length leaseSeconds
          []).2.find? delivery.id).isSome
      = true := by
  obtain ⟨channel, joins⟩ := channel_of_isClaimable claimable
  have picked
      : delivery.id
        ∈ db.notificationDeliveries.pick
            (fun delivery => delivery.isClaimable db now && delivery.id ∉ ([] : List Int))
            NotificationDelivery.claimOrder db.notificationDeliveries.rows.length := by
    apply Table.mem_pick_of_room
    · exact stored
    · simp [claimable]
    · exact List.countP_le_length
  unfold claimDueDeliveries
  simp only [Table.find?_collect]
  rw [SerialTable.find?_select_update (·.asClaimed now workerId leaseSeconds) (fun _ => rfl)
    picked (Table.find?_key stored), Option.bind_some, Option.isSome_map]
  exact Option.isSome_of_eq_some joins

/-- A failed delivery is claimed again exactly if its next attempt is set. -/
theorem claimedAgain_iff (reached : Reached config world) {delivery : NotificationDelivery}
    (stored : delivery ∈ world.db.notificationDeliveries.rows)
    (joins : (world.db.notificationChannels.find? delivery.notificationChannelId).isSome = true)
    (failed : delivery.status = .failed)
    : ClaimedAgain config world delivery.id ↔ delivery.nextAttemptAt.isSome = true := by
  have found := Table.find?_key stored
  constructor
  · rintro ⟨later, workerId, limit, leaseSeconds, locked, path, claimed⟩
    by_contra absent
    have settled : IsSettled delivery := .inr ⟨failed, Option.not_isSome_iff_eq_none.mp absent⟩
    have kept := (settledStays reached delivery.id delivery later found settled path).1
    rcases claimDueDeliveries_cases (withActiveChannels later.db) later.now workerId limit
        leaseSeconds locked delivery.id with
      ⟨_, passed⟩ | ⟨other, _, otherFound, claimable, _, _⟩
    · rw [passed] at claimed
      cases claimed
    · cases otherFound.symm.trans kept
      cases (isSettled_iff.mp settled).symm.trans (free_of_isClaimable claimable).1
  · intro scheduled
    obtain ⟨dueAt, next⟩ := Option.isSome_iff_exists.mp scheduled
    -- Both the next attempt and the lease are over by then.
    let due : Timestamp := max world.now (max dueAt (delivery.leaseUntil.elim dueAt (· + 1)))
    have later : world.now ≤ due := le_max_left _ _
    have advanced : step config world (.advanceClock due) = some { world with now := due } :=
      if_pos later
    have claimable : delivery.isClaimable (withActiveChannels world.db) due = true := by
      apply isClaimable_withActiveChannels joins _ next
      · exact (le_max_left _ _).trans (le_max_right _ _)
      · intro leaseUntil leased
        have after : leaseUntil + 1 ≤ due := by
          simp only [due, leased, Option.elim_some]
          exact (le_max_right _ _).trans (le_max_right _ _)
        exact Int.lt_of_add_one_le after
      · simp [NotificationDelivery.isUnsettled, failed, scheduled]
    exact ⟨_, "", _, 0, [], .single ⟨_, advanced⟩,
      claimDueDeliveries_of_isClaimable (withActiveChannels world.db) "" 0 stored claimable⟩

/-- The gauge counts, for every channel type, the failed deliveries that are never claimed again. -/
def CountsDeadDeliveries (config : DeliveryConfig) (world : World) : Prop :=
  ∀ channelType,
    ∃ dead : List NotificationDelivery,
      dead.Nodup
      ∧ (∀ delivery,
          delivery ∈ dead
          ↔ delivery ∈ failedDeliveries world.db channelType
            ∧ ¬ClaimedAgain config world delivery.id)
      ∧ (notificationDeliveryFailures world.db channelType).getD 0 = dead.length

theorem mem_failedDeliveries {db : Database} {channelType : NotificationChannelType}
    {delivery : NotificationDelivery}
    : delivery ∈ failedDeliveries db channelType
      ↔ delivery ∈ db.notificationDeliveries.rows
        ∧ (∃ channel,
            db.notificationChannels.find? delivery.notificationChannelId = some channel
            ∧ channel.channelType = channelType)
        ∧ delivery.status = .failed := by
  simp [failedDeliveries, Option.any_eq_true]

theorem failedDeliveries_nodup (db : Database) (channelType : NotificationChannelType)
    : (failedDeliveries db channelType).Nodup :=
  (List.Nodup.of_map _ db.notificationDeliveries.keysNodup).filter _

/-- A failed delivery is dead exactly if it has no next attempt. -/
theorem not_claimedAgain_iff (reached : Reached config world)
    {channelType : NotificationChannelType} {delivery : NotificationDelivery}
    (member : delivery ∈ failedDeliveries world.db channelType)
    : ¬ClaimedAgain config world delivery.id ↔ delivery.nextAttemptAt = none := by
  obtain ⟨stored, ⟨channel, joins, _⟩, failed⟩ := mem_failedDeliveries.mp member
  rw [claimedAgain_iff reached stored (Option.isSome_of_eq_some joins) failed,
    Option.not_isSome_iff_eq_none]

/-- The gauge counts the dead deliveries exactly if no failed one waits for its retry. -/
theorem countsDeadDeliveries_iff (reached : Reached config world)
    : CountsDeadDeliveries config world
      ↔ ∀ channelType,
          ∀ delivery ∈ failedDeliveries world.db channelType, delivery.nextAttemptAt = none := by
  constructor
  · intro counts channelType delivery member
    obtain ⟨dead, distinct, isDead, count⟩ := counts channelType
    rw [notificationDeliveryFailures_getD] at count
    have within : dead.Subperm (failedDeliveries world.db channelType) :=
      List.subperm_of_subset distinct fun other isOther => ((isDead other).mp isOther).1
    -- As many dead deliveries as failed ones: all failed ones are dead.
    have all : dead.Perm (failedDeliveries world.db channelType) :=
      within.perm_of_length_le count.le
    have isDead := (isDead delivery).mp (all.mem_iff.mpr member)
    exact (not_claimedAgain_iff reached member).mp isDead.2
  · intro noRetries channelType
    refine ⟨failedDeliveries world.db channelType, failedDeliveries_nodup _ _, ?_,
      notificationDeliveryFailures_getD _ _⟩
    intro delivery
    constructor
    · intro member
      have last := noRetries channelType delivery member
      exact ⟨member, (not_claimedAgain_iff reached member).mpr last⟩
    · rintro ⟨member, _⟩
      exact member

------------------------------------------------------------
-- Runs without retries
------------------------------------------------------------

/-- The action records no failure after which the delivery is tried again. -/
def SchedulesNoRetry (config : DeliveryConfig) (world : World) : Action → World → Prop
  | .deliver workerId deliveryId (.recordFailure hostNow error), _ =>
      ∀ delivery,
        (world.deliveryBatches workerId).find? deliveryId = some delivery
        → retryTime config hostNow delivery (shouldRetryDeliveryError error) = some none
  | _, _ => True

/-- No failed delivery waits for a retry. -/
def NoRetryAhead (world : World) : Prop :=
  ∀ deliveryId delivery,
    world.db.notificationDeliveries.find? deliveryId = some delivery
    → delivery.status = .failed
    → delivery.nextAttemptAt = none

theorem noRetryAhead_step {action : Action} {after : World} (noRetry : NoRetryAhead world)
    (taken : step config world action = some after)
    (admitted : SchedulesNoRetry config world action after)
    : NoRetryAhead after := by
  intro deliveryId delivery stored failed
  cases was : world.db.notificationDeliveries.find? deliveryId with
  | none =>
      have changed := (step_cases taken).deliveryChanged deliveryId
      rw [stored] at changed
      generalize row : some delivery = later at changed
      cases changed with
      | same => cases row.trans was
      | queued startedAt request absent =>
          cases row
          cases failed
      | claimed _ _ found _ => cases was.symm.trans found
      | owned found _ _ => cases was.symm.trans found
  | some former =>
      rcases outcomesOf_step taken deliveryId with same | ⟨workerId, action, rfl, owns⟩
      · have present : (deliveryView world deliveryId).delivery = some (deliveryFacts former) :=
          congrArg (Option.map deliveryFacts) was
        have kept := congrArg DeliveryView.delivery (deliveryView_step taken present same)
        rw [present] at kept
        have facts : deliveryFacts delivery = deliveryFacts former :=
          Option.some.inj ((congrArg (Option.map deliveryFacts) stored).symm.trans kept)
        have sameStatus := congrArg DeliveryFacts.status facts
        have sameNext := congrArg DeliveryFacts.nextAttemptAt facts
        exact sameNext.trans (noRetry deliveryId former was (sameStatus.symm.trans failed))
      · obtain ⟨held, holds, _⟩ := Option.bind_eq_some_iff.mp taken
        obtain ⟨outcome, stepped, rfl⟩ := deliver_taken taken holds
        obtain ⟨_, rfl⟩ := Table.mem_of_find? holds
        obtain ⟨other, isFormer, claimed⟩ := owns
        cases was.symm.trans isFormer
        cases action with
        | extend leaseSeconds =>
            cases stepped
            cases (find?_extendDeliveryClaim world.now leaseSeconds was claimed).symm.trans stored
            exact noRetry held.id former was failed
        | release =>
            cases stepped
            cases (find?_releaseDeliveryClaim world.now was claimed).symm.trans stored
            exact noRetry held.id former was failed
        | markDelivered =>
            cases stepped
            cases (find?_markDelivered world.now was claimed).symm.trans stored
            cases failed
        | recordFailure hostNow error =>
            obtain ⟨⟨updated, db⟩, handled, rfl⟩ := Option.map_eq_some_iff.mp stepped
            obtain ⟨retryAt, retried, marked⟩ := Option.map_eq_some_iff.mp handled
            cases retried.symm.trans (admitted held holds)
            cases marked
            cases (find?_markFailed world.now error.text none was claimed).symm.trans stored
            rfl
        | abandon =>
            cases stepped
            exact noRetry held.id delivery stored failed

/-- In every state of every run, the gauge counts the dead deliveries exactly if no failed one waits
for its retry, as in all states of a run that schedules none.
-/
theorem failureMetric_counts_iff (config : DeliveryConfig)
    : (∀ world,
        Reached config world
        → (CountsDeadDeliveries config world
            ↔ ∀ channelType,
                ∀ delivery ∈ failedDeliveries world.db channelType,
                  delivery.nextAttemptAt = none))
      ∧ ∀ start world,
          Fresh start
          → ReflTransGen (NextWhere (step config) (SchedulesNoRetry config)) start world
          → CountsDeadDeliveries config world := by
  refine ⟨fun world reached => countsDeadDeliveries_iff reached, fun start world fresh path => ?_⟩
  have reached : Reached config world :=
    ⟨start, fresh, path.lift id fun _ _ taken => taken.next⟩
  have noRetry : NoRetryAhead world := by
    refine kept_along NoRetryAhead (fun _ _ _ => noRetryAhead_step) ?_ path
    intro deliveryId delivery stored
    have isRow := (Table.mem_of_find? stored).1
    rw [fresh.noDeliveries] at isRow
    cases isRow
  refine (countsDeadDeliveries_iff reached).mpr fun channelType delivery member => ?_
  obtain ⟨stored, _, failed⟩ := mem_failedDeliveries.mp member
  exact noRetry delivery.id delivery (Table.find?_key stored) failed

/-- A check fails, and so does the first attempt to deliver the notification. -/
def failedAttempt (error : DeliveryErrorKind) : List Action :=
  claimActions "w1" ++ saveActions "w1" false
    ++ [.claimDeliveries "w1" 10 60 [],
      .deliver "w1" 1 (.recordFailure (seconds 1) ⟨error, "not sent"⟩)]

theorem failureMetric_counts_message
    : (notificationDeliveryFailures (smallRun (failedAttempt .message)).db .webhook).getD 0 = 1
      ∧ CountsDeadDeliveries smallConfig (smallRun (failedAttempt .message)) := by
  refine ⟨by decide +kernel,
    ((failureMetric_counts_iff smallConfig).1 _ smallRun_reached).mpr fun channelType => ?_⟩
  cases channelType with
  | email | webhook | slack | discord => decide +kernel

/-- A delivery that waits for its retry is counted. -/
theorem failureMetric_miscounts
    : Reached smallConfig (smallRun (failedAttempt .other))
      ∧ (notificationDeliveryFailures (smallRun (failedAttempt .other)).db .webhook).getD 0 = 1
      ∧ ¬CountsDeadDeliveries smallConfig (smallRun (failedAttempt .other)) := by
  refine ⟨smallRun_reached, by decide +kernel, fun counts => ?_⟩
  have noRetry := (countsDeadDeliveries_iff smallRun_reached).mp counts .webhook
  revert noRetry
  decide +kernel

end AlonSentinel.System
