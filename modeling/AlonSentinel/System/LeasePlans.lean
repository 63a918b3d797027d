import AlonSentinel.Api.MonitorPayloads
import AlonSentinel.Foundation.Fallible
import AlonSentinel.Notifications.DeliveryLease
import AlonSentinel.System.World
import AlonSentinel.Worker.MonitorCheckRetries

/-! Lease plans against the work they are made for: the attempts of a check with all delays its loop
may draw, and the one attempt of a delivery.
-/

namespace AlonSentinel.System

open Api
open Configuration
open Domain
open MachineInteger
open Notifications
open Worker

------------------------------------------------------------
-- What a lease is made of
------------------------------------------------------------

section Work

variable {policy : ResolvedMonitorCheckPolicy} {inputs : RetryInputs}

/-- The waits of a run, in nanoseconds. -/
def waitNanos (run : RetryRun) : Nat := (run.waits.map (·.delay.nanos)).sum

/-- The longest delays behind the attempts from an index on, in nanoseconds. -/
def worstNanosFrom (policy : ResolvedMonitorCheckPolicy) (attemptIndex count : Nat) : Nat :=
  ((((List.range' attemptIndex count).filterMap policy.baseRetryDelayForAttempt).map
    (worstCaseRetryDelay · policy.retryJitterPercent)).map (·.nanos)).sum

/-- The longest delays of a whole run, in nanoseconds. -/
def worstRetryNanos (policy : ResolvedMonitorCheckPolicy) : Nat :=
  worstNanosFrom policy 0 (policy.maxAttempts.toNat - 1)

theorem worstNanosFrom_succ {attemptIndex count : Nat} {delay : StdTime.Duration}
    (base : policy.baseRetryDelayForAttempt attemptIndex = some delay)
    : worstNanosFrom policy attemptIndex (count + 1)
      = (worstCaseRetryDelay delay policy.retryJitterPercent).nanos
        + worstNanosFrom policy (attemptIndex + 1) count := by
  simp only [worstNanosFrom, List.range'_succ, List.filterMap_cons, base, List.map_cons,
    List.sum_cons]

/-- A delay that the loop draws is at most the longest one at its place. -/
theorem worstNanosFrom_cons {draw : Draw} {attemptIndex count : Nat} {delay : StdTime.Duration}
    (isDelay : policy.retryDelayForAttempt draw attemptIndex = some delay)
    : delay.nanos + worstNanosFrom policy (attemptIndex + 1) count
      ≤ worstNanosFrom policy attemptIndex (count + 1) := by
  have nonempty : policy.retryDelaysMs ≠ [] := by
    intro empty
    rw [retryDelayForAttempt_eq_none.mpr empty] at isDelay
    cases isDelay
  obtain ⟨millis, _, base⟩ := baseRetryDelayForAttempt_eq nonempty attemptIndex
  rw [ResolvedMonitorCheckPolicy.retryDelayForAttempt, base, Option.map_some] at isDelay
  have drawn : delay ≤ worstCaseRetryDelay (.fromMillis millis) policy.retryJitterPercent :=
    Option.some.inj isDelay ▸ jitterRetryDelay_le
  rw [StdTime.Duration.le_iff] at drawn
  rw [worstNanosFrom_succ base]
  omega

/-- The waits of the loop take no longer than estimated, by induction on the attempts left. -/
theorem waitNanos_attemptsFrom {remaining attemptIndex : Nat}
    (all : attemptIndex + remaining = policy.maxAttempts.toNat)
    : waitNanos (attemptsFrom policy inputs remaining attemptIndex)
      ≤ worstNanosFrom policy attemptIndex (remaining - 1) := by
  induction remaining generalizing attemptIndex with
  | zero => exact Nat.zero_le _
  | succ remaining ih =>
      cases round_cases policy inputs remaining attemptIndex with
      | interrupted _ run | final _ _ run =>
          rw [run]
          exact Nat.zero_le _
      | waits delay _ notFinal isDelay run =>
          obtain ⟨further, rfl⟩ : ∃ further, remaining = further + 1 := by
            refine Nat.exists_eq_succ_of_ne_zero fun none => ?_
            exact notFinal (.inr (.inl (by omega)))
          have longest
              : delay.nanos + worstNanosFrom policy (attemptIndex + 1) further
                ≤ worstNanosFrom policy attemptIndex (further + 1) :=
            worstNanosFrom_cons isDelay
          rw [run]
          split
          · have later := @ih (attemptIndex + 1) (by omega)
            simp only [waitNanos, RetryRun.precededBy, List.map_cons, List.sum_cons] at later ⊢
            simp only [Nat.add_sub_cancel] at later ⊢
            omega
          · simp only [waitNanos, RetryRun.endsInWait, List.map_cons, List.map_nil, List.sum_cons,
              List.sum_nil, Nat.add_sub_cancel]
            omega

theorem waitNanos_le (policy : ResolvedMonitorCheckPolicy) (inputs : RetryInputs)
    : waitNanos (runMonitorCheckWithRetries policy inputs) ≤ worstRetryNanos policy :=
  waitNanos_attemptsFrom (Nat.zero_add _)

/-- The estimate is the sum of the longest delays, cut off at the greatest duration. -/
theorem nanos_estimatedRetryDelay (policy : ResolvedMonitorCheckPolicy)
    : policy.estimatedRetryDelay.nanos = min (worstRetryNanos policy) StdTime.maxNanos := by
  rw [ResolvedMonitorCheckPolicy.estimatedRetryDelay,
    StdTime.Duration.nanos_foldl_saturatingAdd, StdTime.Duration.nanos_zero, Nat.zero_add,
    List.range_eq_range']
  rfl

/-- All that a policy may spend on one check, in nanoseconds: its attempts, the longest delays
between them, and the buffer. The number of attempts is read as the code reads it, in 32 bits.
-/
def workNanos (policy : ResolvedMonitorCheckPolicy) : Nat :=
  policy.timeout.nanos * asU32 policy.maxAttempts.toNat + worstRetryNanos policy
    + (safetyBuffer policy.timeout).nanos

/-- The initial lease is the work, cut off at the greatest duration, or the minimum. -/
theorem nanos_initialLease (policy : ResolvedMonitorCheckPolicy) (minimumLeaseSeconds : UInt64)
    : (deriveSiteMonitorLeasePlan policy minimumLeaseSeconds).initialLease.nanos
      = max (min (workNanos policy) StdTime.maxNanos)
          (minimumLeaseSeconds.toNat * StdTime.nanosPerSecond) := by
  simp only [deriveSiteMonitorLeasePlan, StdTime.Duration.nanos_max,
    StdTime.Duration.nanos_saturatingAdd, StdTime.Duration.nanos_saturatingMul,
    nanos_estimatedRetryDelay, StdTime.Duration.nanos_fromSecs, workNanos]
  omega

/-- A buffer takes at least two seconds. -/
theorem two_seconds_le_safetyBuffer (timeout : StdTime.Duration)
    : 2 * StdTime.nanosPerSecond ≤ (safetyBuffer timeout).nanos := by
  rw [safetyBuffer, StdTime.Duration.nanos_max]
  exact le_max_right _ _

end Work

/-- What a delivery may spend on its attempt, in nanoseconds. -/
def deliveryNanos (config : Config) : Nat :=
  let timeout := StdTime.Duration.fromSecs config.notificationDeliveryTimeoutSeconds
  timeout.nanos + (safetyBuffer timeout).nanos

theorem nanos_deliveryLease (config : Config)
    : (deriveNotificationDeliveryLeasePlan config).initialLease.nanos
      = max (config.leaseNotificationDeliverySeconds.toNat * StdTime.nanosPerSecond)
          (min (deliveryNanos config) StdTime.maxNanos) := by
  simp only [deriveNotificationDeliveryLeasePlan, StdTime.Duration.nanos_max,
    StdTime.Duration.nanos_saturatingAdd, StdTime.Duration.nanos_fromSecs, deliveryNanos]

------------------------------------------------------------
-- Leases cover the work
------------------------------------------------------------

/-- A plan that covers some nanoseconds of work and a minimum, with room for two heartbeats. -/
structure LeaseCovers (workNanos : Nat) (minimumLeaseSeconds : UInt64)
    (initialLease heartbeatInterval : StdTime.Duration)
    : Prop where
  work : min workNanos StdTime.maxNanos ≤ initialLease.nanos
  minimum : StdTime.Duration.fromSecs minimumLeaseSeconds ≤ initialLease
  twoHeartbeats : 2 * heartbeatInterval.nanos ≤ initialLease.nanos

/-- A lease of two seconds or more covers what it was cut off from, and two intervals of a third or
of at most a second fit into it.
-/
theorem LeaseCovers.of_lease {work estimate : Nat} {minimumLeaseSeconds : UInt64}
    {lease least : StdTime.Duration}
    (isLease
      : lease.nanos
        = max (min estimate StdTime.maxNanos)
            (minimumLeaseSeconds.toNat * StdTime.nanosPerSecond))
    (estimated : work ≤ estimate) (long : 2 * StdTime.nanosPerSecond ≤ estimate)
    (short : least.nanos ≤ StdTime.nanosPerSecond)
    : LeaseCovers work minimumLeaseSeconds lease (max (lease.div 3) least) := by
  refine ⟨by omega, ?_, ?_⟩
  · rw [StdTime.Duration.le_iff, StdTime.Duration.nanos_fromSecs]
    omega
  · have atLeast : 2 * StdTime.nanosPerSecond ≤ lease.nanos := by
      have fits : 2 * StdTime.nanosPerSecond ≤ StdTime.maxNanos := by decide
      omega
    rw [StdTime.Duration.nanos_max, StdTime.Duration.nanos_div]
    omega

/-- The lease of a check covers any run of its loop. -/
theorem siteMonitorLease_covers {policy : ResolvedMonitorCheckPolicy}
    (minimumLeaseSeconds : UInt64) (few : policy.maxAttempts.toNat < 2 ^ 32)
    (inputs : RetryInputs)
    : let plan := deriveSiteMonitorLeasePlan policy minimumLeaseSeconds
      LeaseCovers
        (policy.maxAttempts.toNat * policy.timeout.nanos
          + waitNanos (runMonitorCheckWithRetries policy inputs)
          + (safetyBuffer policy.timeout).nanos)
        minimumLeaseSeconds plan.initialLease plan.heartbeatInterval := by
  have waits := waitNanos_le policy inputs
  have buffer := two_seconds_le_safetyBuffer policy.timeout
  have noneLost : asU32 policy.maxAttempts.toNat = policy.maxAttempts.toNat :=
    Nat.mod_eq_of_lt few
  refine LeaseCovers.of_lease (nanos_initialLease policy minimumLeaseSeconds) ?_ ?_ (le_refl _)
  · rw [workNanos, noneLost, Nat.mul_comm policy.maxAttempts.toNat]
    omega
  · rw [workNanos]
    omega

/-- The lease of a delivery covers its one attempt. -/
theorem deliveryLease_covers (config : Config)
    : let plan := deriveNotificationDeliveryLeasePlan config
      LeaseCovers (deliveryNanos config) config.leaseNotificationDeliverySeconds plan.initialLease
        plan.heartbeatInterval := by
  have buffer := two_seconds_le_safetyBuffer (.fromSecs config.notificationDeliveryTimeoutSeconds)
  refine LeaseCovers.of_lease ((nanos_deliveryLease config).trans (max_comm _ _)) (le_refl _) ?_
    (by decide)
  rw [deliveryNanos]
  omega

/-- The lease of a check covers its attempts, whatever delays the loop draws, and the buffer; that
of a delivery covers its attempt and the buffer.
-/
theorem leasePlans_cover (siteMonitor : SiteMonitor) (config : Config)
    (minimumLeaseSeconds : UInt64)
    (few : (resolveMonitorCheckPolicy siteMonitor config).maxAttempts.toNat < 2 ^ 32)
    : let policy := resolveMonitorCheckPolicy siteMonitor config
      let plan := deriveSiteMonitorLeasePlan policy minimumLeaseSeconds
      let deliveryPlan := deriveNotificationDeliveryLeasePlan config
      (∀ inputs,
        LeaseCovers
          (policy.maxAttempts.toNat * policy.timeout.nanos
            + waitNanos (runMonitorCheckWithRetries policy inputs)
            + (safetyBuffer policy.timeout).nanos)
          minimumLeaseSeconds plan.initialLease plan.heartbeatInterval)
      ∧ LeaseCovers (deliveryNanos config) config.leaseNotificationDeliverySeconds
          deliveryPlan.initialLease deliveryPlan.heartbeatInterval :=
  ⟨siteMonitorLease_covers minimumLeaseSeconds few, deliveryLease_covers config⟩

/-- The plans of the default configuration cover the work of a monitor without overrides. -/
theorem leasePlans_cover_shop
    : ∃ config,
        Config.fromEnvGetter (environmentWith []) = .ok config
        ∧ ∀ inputs,
            let policy :=
              resolveMonitorCheckPolicy (.withDefaults 0 1 .http "https://shop.test" 1) config
            let plan := deriveSiteMonitorLeasePlan policy config.leaseSiteCheckSeconds
            LeaseCovers
              (policy.maxAttempts.toNat * policy.timeout.nanos
                + waitNanos (runMonitorCheckWithRetries policy inputs)
                + (safetyBuffer policy.timeout).nanos)
              config.leaseSiteCheckSeconds plan.initialLease plan.heartbeatInterval := by
  have scenario
      : ((Config.fromEnvGetter (environmentWith [])).toOption.any fun config =>
          (resolveMonitorCheckPolicy (.withDefaults 0 1 .http "https://shop.test" 1)
            config).maxAttempts.toNat < 2 ^ 32) = true := by
    decide +kernel
  obtain ⟨config, configured, few⟩ := Fallible.exists_of_any_toOption scenario
  exact ⟨config, configured,
    (leasePlans_cover (.withDefaults 0 1 .http "https://shop.test" 1) config
      config.leaseSiteCheckSeconds (of_decide_eq_true few)).1⟩

------------------------------------------------------------
-- Leases in whole seconds
------------------------------------------------------------

/-- The seconds that a statement binds are the lease, rounded up, so that a claim is extended into
the future.
-/
structure RoundsUp (lease : StdTime.Duration) (leaseSeconds : Int) : Prop where
  positive : 1 ≤ leaseSeconds
  roundedUp
    : leaseSeconds
      = ((lease.nanos + (StdTime.nanosPerSecond - 1)) / StdTime.nanosPerSecond : Nat)
  extendsClaim
    : ∀ (now : Timestamp) (monitor : SiteMonitor),
        ∃ leaseUntil,
          (monitor.asExtended now leaseSeconds).checkLeaseUntil = some leaseUntil
          ∧ now < leaseUntil

/-- The greatest lease that fits, in nanoseconds. -/
def greatestLeaseNanos : Nat := i64Max * StdTime.nanosPerSecond

/-- The seconds before the last cast. -/
theorem durationToLeaseSeconds_eq {lease : StdTime.Duration} (positive : 0 < lease.nanos)
    : Worker.durationToLeaseSeconds lease
      = MachineInteger.asI64
          (min ((lease.nanos + (StdTime.nanosPerSecond - 1)) / StdTime.nanosPerSecond) u64Max) := by
  have fraction
      : (if 0 < lease.subsecNanos then (1 : UInt64) else 0).toNat
        = if 0 < lease.nanos % 1000000000 then 1 else 0 := by
    rw [apply_ite UInt64.toNat]
    rfl
  unfold Worker.durationToLeaseSeconds
  rw [toNat_saturatingAdd, StdTime.Duration.toNat_asSecs, fraction]
  apply congrArg
  unfold StdTime.nanosPerSecond u64Max
  split
  · omega
  · omega

/-- A positive lease is rounded up exactly if it fits an `i64` of seconds; above, the cast makes it
negative.
-/
theorem roundsUp_iff {lease : StdTime.Duration} (positive : 0 < lease.nanos)
    : RoundsUp lease (Worker.durationToLeaseSeconds lease)
      ↔ lease.nanos ≤ greatestLeaseNanos := by
  have seconds := durationToLeaseSeconds_eq positive
  generalize whole
      : (lease.nanos + (StdTime.nanosPerSecond - 1)) / StdTime.nanosPerSecond = count at seconds
  have fits : count ≤ i64Max ↔ lease.nanos ≤ greatestLeaseNanos := by
    rw [← whole]
    unfold greatestLeaseNanos i64Max StdTime.nanosPerSecond
    omega
  have atLeast : 1 ≤ count := by
    rw [← whole]
    unfold StdTime.nanosPerSecond
    omega
  have smaller : i64Max ≤ u64Max := by decide
  rw [seconds, ← fits]
  constructor
  · intro rounds
    by_contra tooLong
    have negative := MachineInteger.asI64_neg (min_le_right count u64Max) (by
      unfold i64Max u64Max at *
      omega)
    have atLeastOne := rounds.positive
    omega
  · intro bound
    have kept : min count u64Max = count := min_eq_left (bound.trans smaller)
    rw [kept, (asI64_eq_self (bound.trans smaller)).mpr bound]
    refine ⟨by omega, ?_, ?_⟩
    · rw [whole]
    · intro now monitor
      have forward : 0 < (count : Int) * 1000000 := by omega
      exact ⟨_, rfl, Int.lt_add_of_pos_right now forward⟩

theorem initialLease_pos (policy : ResolvedMonitorCheckPolicy) (minimumLeaseSeconds : UInt64)
    : 0 < (deriveSiteMonitorLeasePlan policy minimumLeaseSeconds).initialLease.nanos := by
  have buffer := two_seconds_le_safetyBuffer policy.timeout
  have lease := nanos_initialLease policy minimumLeaseSeconds
  rw [workNanos] at lease
  unfold StdTime.nanosPerSecond StdTime.maxNanos u64Max at *
  omega

theorem deliveryLease_pos (config : Config)
    : 0 < (deriveNotificationDeliveryLeasePlan config).initialLease.nanos := by
  have buffer := two_seconds_le_safetyBuffer (.fromSecs config.notificationDeliveryTimeoutSeconds)
  have lease := nanos_deliveryLease config
  rw [deliveryNanos] at lease
  unfold StdTime.nanosPerSecond StdTime.maxNanos u64Max at *
  omega

/-- What the leases are made of fits an `i64` of seconds. -/
structure LeasesFit (policy : ResolvedMonitorCheckPolicy) (config : Config) : Prop where
  minimum : config.leaseSiteCheckSeconds.toNat ≤ i64Max
  work : workNanos policy ≤ greatestLeaseNanos
  deliveryMinimum : config.leaseNotificationDeliverySeconds.toNat ≤ i64Max
  delivery : deliveryNanos config ≤ greatestLeaseNanos

/-- The seconds of both leases are the leases rounded up, exactly if what they are made of fits. -/
theorem leaseSeconds_roundUp_iff (siteMonitor : SiteMonitor) (config : Config)
    : let policy := resolveMonitorCheckPolicy siteMonitor config
      let lease := (deriveSiteMonitorLeasePlan policy config.leaseSiteCheckSeconds).initialLease
      let deliveryLease := (deriveNotificationDeliveryLeasePlan config).initialLease
      RoundsUp lease (Worker.durationToLeaseSeconds lease)
        ∧ RoundsUp deliveryLease (Notifications.durationToLeaseSeconds deliveryLease)
      ↔ LeasesFit policy config := by
  intro policy lease deliveryLease
  have isLease := nanos_initialLease policy config.leaseSiteCheckSeconds
  have isDeliveryLease := nanos_deliveryLease config
  have rounds := roundsUp_iff (initialLease_pos policy config.leaseSiteCheckSeconds)
  have deliveryRounds := roundsUp_iff (deliveryLease_pos config)
  have cutOffLater : greatestLeaseNanos < StdTime.maxNanos := by decide
  have wholeSeconds (count : Nat)
      : count * StdTime.nanosPerSecond ≤ greatestLeaseNanos ↔ count ≤ i64Max :=
    Nat.mul_le_mul_right_iff (by decide)
  rw [isLease, max_le_iff, wholeSeconds, min_le_iff] at rounds
  rw [isDeliveryLease, max_le_iff, wholeSeconds, min_le_iff] at deliveryRounds
  have notCutOff : ¬StdTime.maxNanos ≤ greatestLeaseNanos := Nat.not_le_of_lt cutOffLater
  simp only [notCutOff, or_false] at rounds deliveryRounds
  constructor
  · rintro ⟨both, deliveryBoth⟩
    obtain ⟨work, minimum⟩ := rounds.mp both
    obtain ⟨deliveryMinimum, delivery⟩ := deliveryRounds.mp deliveryBoth
    exact ⟨minimum, work, deliveryMinimum, delivery⟩
  · intro fit
    exact ⟨rounds.mpr ⟨fit.work, fit.minimum⟩,
      deliveryRounds.mpr ⟨fit.deliveryMinimum, fit.delivery⟩⟩

/-- With a single delay every further attempt waits for it, by induction on their number. -/
theorem worstNanosFrom_singleton {policy : ResolvedMonitorCheckPolicy} {millis : UInt64}
    (single : policy.retryDelaysMs = [millis]) (attemptIndex count : Nat)
    : worstNanosFrom policy attemptIndex count
      = count * (worstCaseRetryDelay (.fromMillis millis) policy.retryJitterPercent).nanos := by
  have base (index : Nat) : policy.baseRetryDelayForAttempt index = some (.fromMillis millis) := by
    unfold ResolvedMonitorCheckPolicy.baseRetryDelayForAttempt
    cases index <;> simp [single]
  induction count generalizing attemptIndex with
  | zero => simp [worstNanosFrom]
  | succ count ih =>
      rw [worstNanosFrom_succ (base attemptIndex), ih, Nat.succ_mul]
      exact Nat.add_comm _ _

/-- A TCP monitor of the shop with more attempts and a longer delay than its checks refuse. -/
def patientPayload : UpsertTcpSiteMonitorRequest where
  targetHost := "shop.test"
  targetPort := 443
  checkIntervalSeconds := 60
  maxConnectTimeMs := none
  timeoutSecondsOverride := none
  maxAttemptsOverride := some 2147483647
  retryDelaysMsOverride := some [9223372036854775807]
  isActive := true

/-- The policy of that monitor under the default configuration. -/
def patientPolicy : ResolvedMonitorCheckPolicy where
  timeout := .fromSecs 10
  maxAttempts := 2147483647
  retryDelaysMs := [9223372036854775807]
  retryJitterPercent := 20
  maxResponseBodyBytes := 65536
  allowPrivateTargets := false

/-- Its longest delays take more seconds than an `i64` can count. -/
theorem patientPolicy_tooLong (minimumLeaseSeconds : UInt64)
    : greatestLeaseNanos
      < (deriveSiteMonitorLeasePlan patientPolicy minimumLeaseSeconds).initialLease.nanos := by
  have delays
      : greatestLeaseNanos
        < 2147483646
          * (worstCaseRetryDelay (.fromMillis 9223372036854775807)
              patientPolicy.retryJitterPercent).nanos := by
    decide
  have retries : worstRetryNanos patientPolicy = _ :=
    worstNanosFrom_singleton rfl 0 2147483646
  have work : worstRetryNanos patientPolicy ≤ workNanos patientPolicy := by
    rw [workNanos]
    omega
  have cutOffLater : greatestLeaseNanos < StdTime.maxNanos := by decide
  rw [nanos_initialLease]
  omega

/-- An accepted TCP payload under the default configuration makes the lease negative. -/
theorem leaseSeconds_not_roundUp
    : ¬∀ (getEnv : EnvGetter) (config : Config) (lookupHost : Monitoring.LookupHost)
        (payload : UpsertTcpSiteMonitorRequest) (retryDelays : Option (List Int))
        (db after : Database) (now : Timestamp) (siteId : Int) (row : SiteMonitor),
        Config.fromEnvGetter getEnv = .ok config
        → validateAndNormalizeTcpMonitorPayload payload = .ok retryDelays
        → validateTcpTarget lookupHost (UnicodeText.trim payload.targetHost) payload.targetPort
          = .ok ()
        → upsertTcpMonitorBySiteIdAndHostPort db now siteId (payload.params retryDelays)
          = .ok (row, after)
        → let policy := resolveMonitorCheckPolicy row config
          let lease :=
            (deriveSiteMonitorLeasePlan policy config.leaseSiteCheckSeconds).initialLease
          RoundsUp lease (Worker.durationToLeaseSeconds lease) := by
  intro roundsUp
  let answer : Monitoring.LookupHost := fun _ => some [.v4 ⟨#v[93, 184, 216, 34]⟩ 443]
  have scenario
      : ((Config.fromEnvGetter (environmentWith [])).toOption.any fun config =>
          (validateAndNormalizeTcpMonitorPayload patientPayload).toOption.any fun retryDelays =>
            decide (validateTcpTarget answer (UnicodeText.trim "shop.test") 443 = .ok ())
              && (upsertTcpMonitorBySiteIdAndHostPort smallDatabase 0 1
                  (patientPayload.params retryDelays)).toOption.any fun stored =>
                    resolveMonitorCheckPolicy stored.1 config = patientPolicy) = true := by
    decide +kernel
  obtain ⟨config, configured, accepted⟩ := Fallible.exists_of_any_toOption scenario
  obtain ⟨retryDelays, normalized, stored⟩ := Fallible.exists_of_any_toOption accepted
  obtain ⟨target, upserted⟩ := Bool.and_eq_true_iff.mp stored
  obtain ⟨⟨row, after⟩, done, resolved⟩ := Fallible.exists_of_any_toOption upserted
  have rounds :=
    roundsUp _ config answer patientPayload retryDelays _ after _ _ row configured normalized
      (of_decide_eq_true target) done
  simp only [of_decide_eq_true resolved] at rounds
  have fits := (roundsUp_iff (initialLease_pos _ _)).mp rounds
  exact absurd (patientPolicy_tooLong config.leaseSiteCheckSeconds) (Nat.not_lt_of_le fits)

end AlonSentinel.System
