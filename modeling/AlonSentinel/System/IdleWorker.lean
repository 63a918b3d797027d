import AlonSentinel.Foundation.EligibleFrom
import AlonSentinel.Worker.IdleDelay

/-! What an idle worker may miss. Each claim statement is read as a condition on the instant it
runs at; the two statements that tell the next claimable instant answer these conditions, and the
delay of an idle worker ends no later than any of them asks for.
-/

namespace AlonSentinel.System

open Domain
open Eligibility
open KeyedTable
open Worker

variable {db : Database} {now instant : Timestamp} {locked : List Int}

/-- The statement `claim_site_monitors_due_for_check`, run at an instant, returns a row. -/
def ClaimsMonitor (db : Database) (workerId : String) (limit : Nat) (leaseSeconds : Int)
    (locked : List Int) (instant : Timestamp)
    : Prop :=
  (claimSiteMonitorsDueForCheck db instant workerId limit leaseSeconds locked).2.rows ≠ []

/-- The statement `claim_due_deliveries`, run at an instant, returns a row. -/
def ClaimsDelivery (db : Database) (workerId : String) (limit : Nat) (leaseSeconds : Int)
    (locked : List Int) (instant : Timestamp)
    : Prop :=
  (claimDueDeliveries db instant workerId limit leaseSeconds locked).2.rows ≠ []

section Claims

variable {workerId : String} {limit : Nat} {leaseSeconds : Int}

/-- A claim of monitors returns a row exactly when one is due. -/
theorem claimsMonitor_iff (positive : 0 < limit)
    : ClaimsMonitor db workerId limit leaseSeconds locked instant
      ↔ ∃ monitor ∈ db.siteMonitors.rows, monitor.dueForCheck db instant locked = true := by
  constructor
  · intro claims
    obtain ⟨claimed, member⟩ := List.exists_mem_of_ne_nil _ claims
    have picked := of_decide_eq_true (List.mem_filter.mp member).2
    obtain ⟨monitor, stored, due, _⟩ := Table.mem_pick picked
    exact ⟨monitor, stored, due⟩
  · intro due
    obtain ⟨picked, member⟩ :=
      List.exists_mem_of_ne_nil _ ((Table.pick_ne_nil positive).mpr due)
    obtain ⟨monitor, stored, _, rfl⟩ := Table.mem_pick member
    have claimed := SerialTable.find?_select_update
      (·.asClaimed instant workerId leaseSeconds) (fun _ => rfl) member
      (Table.find?_key stored)
    exact Table.rows_ne_nil claimed

/-- A claim of deliveries returns a row exactly when one is claimable. -/
theorem claimsDelivery_iff (positive : 0 < limit)
    : ClaimsDelivery db workerId limit leaseSeconds locked instant
      ↔ ∃ delivery ∈ db.notificationDeliveries.rows,
          (delivery.isClaimable db instant && delivery.id ∉ locked) = true := by
  constructor
  · intro claims
    obtain ⟨claimed, member⟩ := List.exists_mem_of_ne_nil _ claims
    obtain ⟨updated, read, _⟩ := List.mem_filterMap.mp member
    have picked := of_decide_eq_true (List.mem_filter.mp read).2
    obtain ⟨delivery, stored, claimable, _⟩ := Table.mem_pick picked
    exact ⟨delivery, stored, claimable⟩
  · intro claimable
    obtain ⟨picked, member⟩ :=
      List.exists_mem_of_ne_nil _ ((Table.pick_ne_nil positive).mpr claimable)
    obtain ⟨delivery, stored, met, rfl⟩ := Table.mem_pick member
    have claimed := SerialTable.find?_select_update
      (·.asClaimed instant workerId leaseSeconds) (fun _ => rfl) member
      (Table.find?_key stored)
    -- The joined channel is there: a delivery of a missing channel is not claimable.
    have joined
        : ∃ channel,
            db.notificationChannels.find? delivery.notificationChannelId = some channel := by
      simp only [NotificationDelivery.isClaimable, Bool.and_eq_true, Option.any_eq_true] at met
      obtain ⟨channel, found, _⟩ := met.1.1.1.1
      exact ⟨channel, found⟩
    obtain ⟨channel, found⟩ := joined
    have read := (Table.mem_of_find? claimed).1
    refine List.ne_nil_of_mem (a := .of (delivery.asClaimed instant workerId leaseSeconds) channel)
      (List.mem_filterMap.mpr ⟨_, read, ?_⟩)
    exact Option.map_eq_some_iff.mpr ⟨channel, found, rfl⟩

end Claims

/-- A lease that may be missing. -/
theorem eligibleFrom_lease (leaseUntil : Option Timestamp)
    : EligibleFrom (fun instant => leaseUntil.all (· < instant) = true) now
        (match leaseUntil with
          | some leaseUntil => if now < leaseUntil then leaseUntil else now
          | none => now) := by
  cases leaseUntil with
  | none => exact always.congr fun _ => by simp
  | some leaseUntil => exact (leaseOver leaseUntil).congr fun _ => by simp

/-- Due time and lease of a monitor, as `next_claimable_check_at` combines them. -/
theorem eligibleFrom_monitor (monitor : SiteMonitor)
    : EligibleFrom
        (fun instant =>
          monitor.lastCheckedAt.all (· ≤ instant - seconds monitor.checkIntervalSeconds) = true
          ∧ monitor.checkLeaseUntil.all (· < instant) = true)
        now (monitor.claimableFrom now) := by
  refine EligibleFrom.and ?_ (eligibleFrom_lease monitor.checkLeaseUntil)
  cases monitor.lastCheckedAt with
  | none =>
      simp only [Option.map_none, Option.getD_none, max_self]
      exact always.congr fun _ => by simp
  | some lastCheckedAt =>
      refine (due (lastCheckedAt + seconds monitor.checkIntervalSeconds)).congr fun instant => ?_
      simp only [Option.all_some, decide_eq_true_eq]
      exact ⟨Int.add_le_of_le_sub_right, Int.le_sub_right_of_add_le⟩

/-- Next attempt and lease of a delivery, as `next_claimable_delivery_at` combines them. -/
theorem eligibleFrom_delivery {delivery : NotificationDelivery}
    (scheduled : delivery.nextAttemptAt.isSome = true)
    : EligibleFrom
        (fun instant =>
          delivery.nextAttemptAt.any (· ≤ instant) = true
          ∧ delivery.leaseUntil.all (· < instant) = true)
        now (delivery.claimableFrom now) := by
  refine EligibleFrom.and ?_ (eligibleFrom_lease delivery.leaseUntil)
  obtain ⟨nextAttemptAt, planned⟩ := Option.isSome_iff_exists.mp scheduled
  rw [planned]
  exact (due nextAttemptAt).congr fun instant => by simp

/-- `next_claimable_check_at` answers when a monitor is due. -/
theorem answers_nextClaimableCheckAt (db : Database) (now : Timestamp)
    : Answers
        (fun instant => ∃ monitor ∈ db.siteMonitors.rows, monitor.dueForCheck db instant [] = true)
        now (nextClaimableCheckAt db now) := by
  have answers : Answers _ now _ := answers_min?
    (fun (monitor : SiteMonitor) instant =>
      monitor.lastCheckedAt.all (· ≤ instant - seconds monitor.checkIntervalSeconds) = true
      ∧ monitor.checkLeaseUntil.all (· < instant) = true)
    (·.claimableFrom now)
    (db.siteMonitors.rows.filter fun monitor =>
      monitor.isActive && (db.sites.find? monitor.siteId).any (·.isActive))
    fun monitor _ => eligibleFrom_monitor monitor
  refine answers.congr fun instant => exists_congr fun monitor => ?_
  simp only [SiteMonitor.dueForCheck, List.mem_filter, Bool.and_eq_true, List.not_mem_nil,
    not_false_eq_true, decide_true]
  tauto

/-- `next_claimable_delivery_at` answers when a delivery is claimable. -/
theorem answers_nextClaimableDeliveryAt (db : Database) (now : Timestamp)
    : Answers
        (fun instant =>
          ∃ delivery ∈ db.notificationDeliveries.rows, delivery.isClaimable db instant = true)
        now (nextClaimableDeliveryAt db now) := by
  have answers : Answers _ now _ := answers_min?
    (fun (delivery : NotificationDelivery) instant =>
      delivery.nextAttemptAt.any (· ≤ instant) = true
      ∧ delivery.leaseUntil.all (· < instant) = true)
    (·.claimableFrom now)
    (db.notificationDeliveries.rows.filter fun delivery =>
      (db.notificationChannels.find? delivery.notificationChannelId).any (·.isActive)
      && delivery.isUnsettled
      && delivery.nextAttemptAt.isSome)
    fun delivery member =>
      eligibleFrom_delivery (Bool.and_eq_true_iff.mp (List.mem_filter.mp member).2).2
  refine answers.congr fun instant => exists_congr fun delivery => ?_
  -- A next attempt that is due is there, so the extra condition of the second query is implied.
  have scheduled (due : delivery.nextAttemptAt.any (· ≤ instant) = true)
      : delivery.nextAttemptAt.isSome = true := by
    obtain ⟨nextAttemptAt, planned, _⟩ := (Option.any_eq_true _ _).mp due
    rw [planned]
    rfl
  simp only [NotificationDelivery.isClaimable, List.mem_filter, Bool.and_eq_true]
  tauto

/-- What an answer about the next claimable instant guarantees a worker that sleeps until then:
it misses no instant at which its claim returns a row, and soon after it one does. Row locks of
other transactions may only delay a claim.
-/
structure NeverOversleeps (claims : String → Nat → Int → List Int → Timestamp → Prop)
    (now : Timestamp) (next : Option Timestamp)
    : Prop where
  noneOnly
    : next = none
      → ∀ workerId limit leaseSeconds locked instant,
          0 < limit → now ≤ instant → ¬claims workerId limit leaseSeconds locked instant
  notLate
    : ∀ wakeAt,
        next = some wakeAt
        → ∀ workerId limit leaseSeconds locked instant,
            0 < limit
            → now ≤ instant
            → claims workerId limit leaseSeconds locked instant
            → wakeAt ≤ instant
  claimableAfter
    : ∀ wakeAt,
        next = some wakeAt
        → ∀ workerId limit leaseSeconds instant,
            0 < limit → wakeAt < instant → claims workerId limit leaseSeconds [] instant

/-- An answer about the claimable rows is one about the claims that find them. -/
theorem NeverOversleeps.of_answers
    {claims : String → Nat → Int → List Int → Timestamp → Prop}
    (eligible : List Int → Timestamp → Prop) {next : Option Timestamp}
    (finds
      : ∀ workerId limit leaseSeconds locked instant,
          0 < limit
          → (claims workerId limit leaseSeconds locked instant ↔ eligible locked instant))
    (unlocked : ∀ locked instant, eligible locked instant → eligible [] instant)
    (answers : Answers (eligible []) now next)
    : NeverOversleeps claims now next where
  noneOnly := by
    intro isNone workerId limit leaseSeconds locked instant positive later met
    have isEligible := (finds workerId limit leaseSeconds locked instant positive).mp met
    exact answers.missing isNone instant later (unlocked locked instant isEligible)
  notLate := by
    intro wakeAt isNext workerId limit leaseSeconds locked instant positive later met
    have isEligible := (finds workerId limit leaseSeconds locked instant positive).mp met
    exact (answers.present wakeAt isNext).notBefore instant later
      (unlocked locked instant isEligible)
  claimableAfter := by
    intro wakeAt isNext workerId limit leaseSeconds instant positive passed
    have isEligible := (answers.present wakeAt isNext).after instant passed
    exact (finds workerId limit leaseSeconds [] instant positive).mpr isEligible

/-- What the delay of an idle worker guarantees, given its wake-up times. -/
structure WakesInTime (now : Int) (wakeUps : List Int) (maxPollInterval delay : Duration)
    : Prop where
  notPast : ∀ wakeAt ∈ wakeUps, now < wakeAt → now + delay ≤ wakeAt
  capped : delay ≤ maxPollInterval
  atOnce : ∀ wakeAt ∈ wakeUps, wakeAt ≤ now → delay = 0

/-- The delay ends at the earliest wake-up time, or before it. -/
theorem wakesInTime_deriveWorkerIdleDelay (now : Int)
    (nextMonitorCheckAt nextNotificationDeliveryAt nextCheckHistoryRetentionAt : Option Int)
    (maxPollInterval : Duration)
    : WakesInTime now
        ([nextMonitorCheckAt, nextNotificationDeliveryAt,
          nextCheckHistoryRetentionAt].filterMap id)
        maxPollInterval
        (deriveWorkerIdleDelay now nextMonitorCheckAt nextNotificationDeliveryAt
          nextCheckHistoryRetentionAt maxPollInterval) := by
  unfold deriveWorkerIdleDelay
  generalize [nextMonitorCheckAt, nextNotificationDeliveryAt,
    nextCheckHistoryRetentionAt].filterMap id = wakeUps
  cases earliest : wakeUps.min? with
  | none =>
      have empty := List.min?_eq_none_iff.mp earliest
      subst empty
      constructor <;> simp
  | some nextWakeAt =>
      obtain ⟨_, bound⟩ := List.min?_eq_some_iff.mp earliest
      by_cases future : now < nextWakeAt
      · simp only [future, if_true]
        constructor
        · intro wakeAt member _
          have := bound wakeAt member
          omega
        · exact Nat.min_le_right _ maxPollInterval
        · intro wakeAt member passed
          have := bound wakeAt member
          omega
      · simp only [future, if_false]
        constructor
        · intro wakeAt _ later
          simpa using later.le
        · exact Nat.zero_le maxPollInterval
        · exact fun _ _ _ => rfl

/-- The delay does not pass a wake-up time, or ends at once. -/
theorem WakesInTime.le_max {now : Int} {wakeUps : List Int} {maxPollInterval delay : Duration}
    (wakes : WakesInTime now wakeUps maxPollInterval delay) (wakeAt : Int)
    (member : wakeAt ∈ wakeUps)
    : now + delay ≤ max now wakeAt := by
  rcases lt_or_ge now wakeAt with future | passed
  · exact (wakes.notPast wakeAt member future).trans (le_max_right now wakeAt)
  · have zero := wakes.atOnce wakeAt member passed
    subst zero
    simp

theorem neverOversleeps_nextClaimableCheckAt (db : Database) (now : Timestamp)
    : NeverOversleeps (ClaimsMonitor db) now (nextClaimableCheckAt db now) := by
  refine NeverOversleeps.of_answers
    (fun locked instant =>
      ∃ monitor ∈ db.siteMonitors.rows, monitor.dueForCheck db instant locked = true)
    (fun _ _ _ _ _ positive => claimsMonitor_iff positive) ?_
    (answers_nextClaimableCheckAt db now)
  intro locked instant ⟨monitor, stored, due⟩
  refine ⟨monitor, stored, ?_⟩
  simp only [SiteMonitor.dueForCheck, Bool.and_eq_true] at due ⊢
  exact ⟨due.1, by simp⟩

theorem neverOversleeps_nextClaimableDeliveryAt (db : Database) (now : Timestamp)
    : NeverOversleeps (ClaimsDelivery db) now (nextClaimableDeliveryAt db now) := by
  refine NeverOversleeps.of_answers
    (fun locked instant =>
      ∃ delivery ∈ db.notificationDeliveries.rows,
        (delivery.isClaimable db instant && delivery.id ∉ locked) = true)
    (fun _ _ _ _ _ positive => claimsDelivery_iff positive) ?_ ?_
  · intro locked instant ⟨delivery, stored, met⟩
    exact ⟨delivery, stored, by simpa using (Bool.and_eq_true_iff.mp met).1⟩
  · refine (answers_nextClaimableDeliveryAt db now).congr fun instant => ?_
    simp

/-- An idle worker sleeps past no instant at which it could claim something, and past none of its
wake-up times.
-/
theorem idleWorkerNeverOversleeps
    : (∀ db now, NeverOversleeps (ClaimsMonitor db) now (nextClaimableCheckAt db now))
      ∧ (∀ db now, NeverOversleeps (ClaimsDelivery db) now (nextClaimableDeliveryAt db now))
      ∧ ∀ now nextMonitorCheckAt nextNotificationDeliveryAt nextCheckHistoryRetentionAt
            maxPollInterval,
          WakesInTime now
            ([nextMonitorCheckAt, nextNotificationDeliveryAt,
              nextCheckHistoryRetentionAt].filterMap id)
            maxPollInterval
            (deriveWorkerIdleDelay now nextMonitorCheckAt nextNotificationDeliveryAt
              nextCheckHistoryRetentionAt maxPollInterval) :=
  ⟨neverOversleeps_nextClaimableCheckAt, neverOversleeps_nextClaimableDeliveryAt,
    wakesInTime_deriveWorkerIdleDelay⟩

/-- The delay of an idle worker, from the queries to the sleep: while nothing changes, it is over
by every instant at which a monitor or a delivery could be claimed.
-/
theorem nextWorkerIdleDelay_le {checkedAt listedAt : Timestamp} {clock : Int}
    {nextCheckHistoryRetentionAt : Option Int} {maxPollInterval : Duration} {workerId : String}
    {limit : Nat} {leaseSeconds : Int} (positive : 0 < limit)
    (claimed
      : checkedAt ≤ instant ∧ ClaimsMonitor db workerId limit leaseSeconds locked instant
        ∨ listedAt ≤ instant ∧ ClaimsDelivery db workerId limit leaseSeconds locked instant)
    : clock
        + nextWorkerIdleDelay db checkedAt listedAt clock nextCheckHistoryRetentionAt
            maxPollInterval
      ≤ max clock (nanoseconds instant) := by
  have checks := neverOversleeps_nextClaimableCheckAt db checkedAt
  have deliveries := neverOversleeps_nextClaimableDeliveryAt db listedAt
  have wakes := wakesInTime_deriveWorkerIdleDelay clock
    ((nextClaimableCheckAt db checkedAt).map nanoseconds)
    ((nextClaimableDeliveryAt db listedAt).map nanoseconds) nextCheckHistoryRetentionAt
    maxPollInterval
  have inTime {wakeAt : Timestamp} (notLate : wakeAt ≤ instant)
      : max clock (nanoseconds wakeAt) ≤ max clock (nanoseconds instant) :=
    max_le_max le_rfl (Int.mul_le_mul_of_nonneg_right notLate (by decide))
  rcases claimed with ⟨later, claims⟩ | ⟨later, claims⟩
  · cases next : nextClaimableCheckAt db checkedAt with
    | none =>
        exact absurd claims (checks.noneOnly next _ _ _ _ _ positive later)
    | some wakeAt =>
        refine (wakes.le_max (nanoseconds wakeAt) (by simp [next])).trans (inTime ?_)
        exact checks.notLate wakeAt next _ _ _ _ _ positive later claims
  · cases next : nextClaimableDeliveryAt db listedAt with
    | none =>
        exact absurd claims (deliveries.noneOnly next _ _ _ _ _ positive later)
    | some wakeAt =>
        refine (wakes.le_max (nanoseconds wakeAt) (by simp [next])).trans (inTime ?_)
        exact deliveries.notLate wakeAt next _ _ _ _ _ positive later claims

end AlonSentinel.System
