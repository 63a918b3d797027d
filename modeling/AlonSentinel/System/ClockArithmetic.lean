import AlonSentinel.Auth.Service
import AlonSentinel.Foundation.ChronoTime
import AlonSentinel.Notifications.Delivery
import AlonSentinel.Notifications.DeliveryLease
import AlonSentinel.Worker.HistoryRetention
import AlonSentinel.Worker.IdleDelay

/-! Limits and instants that are computed from the configuration. Its settings are checked to be
positive only, and a large one is cast to a negative number, or panics in the clock arithmetic.
-/

namespace AlonSentinel.System

open Auth
open ChronoTime
open Configuration
open Domain
open MachineInteger
open Worker

------------------------------------------------------------
-- Casts
------------------------------------------------------------

/-- A positive number is positive after its cast exactly if it fits. -/
theorem asI64_pos_iff {value : UInt64} (positive : value ≠ 0)
    : 0 < asI64 value.toNat ↔ value.toNat ≤ i64Max := by
  have bound := toNat_le_u64Max value
  have nonzero : value.toNat ≠ 0 := fun zero => positive (UInt64.toNat_inj.mp zero)
  constructor
  · intro isPositive
    by_contra tooLarge
    have negative := asI64_neg bound (not_le.mp tooLarge)
    omega
  · intro fits
    rw [(asI64_eq_self bound).mpr fits]
    omega

theorem min_ne_zero {first second : UInt64} (firstPositive : first ≠ 0)
    (secondPositive : second ≠ 0)
    : min first second ≠ 0 := by
  change (if first ≤ second then first else second) ≠ 0
  split
  · exact firstPositive
  · exact secondPositive

/-- A positive number stays in a range above zero exactly if it is in it before the cast. -/
theorem asI64_mem_iff {value : UInt64} {upper : Nat} (positive : value ≠ 0)
    (fits : upper ≤ i64Max)
    : (0 < asI64 value.toNat ∧ asI64 value.toNat ≤ upper)
      ↔ value.toNat ≤ upper := by
  have bound := toNat_le_u64Max value
  rw [asI64_pos_iff positive]
  constructor
  · rintro ⟨kept, atMost⟩
    rw [(asI64_eq_self bound).mpr kept] at atMost
    omega
  · intro atMost
    have kept : value.toNat ≤ i64Max := atMost.trans fits
    rw [(asI64_eq_self bound).mpr kept]
    exact ⟨kept, by omega⟩

------------------------------------------------------------
-- Every ordinary instant
------------------------------------------------------------

/-- An instant of the years from 1970 to 9999. -/
def IsOrdinary (now : Int) : Prop := 0 ≤ now ∧ now < 253402300800 * nanosPerSecond

/-- The most seconds that can be added to every ordinary instant. -/
def maxAddedSeconds : Nat := 7956864576000

/-- The most days that can be subtracted from every ordinary instant. -/
def maxSubtractedDays : Nat := 96465292

theorem forall_addSeconds_after_iff {count : Int}
    : (∀ now, IsOrdinary now → ∃ sum, addSeconds now count = some sum ∧ now < sum)
      ↔ 0 < count ∧ count ≤ maxAddedSeconds := by
  have after (now : Int) (ordinary : IsOrdinary now)
      : (∃ sum, addSeconds now count = some sum ∧ now < sum) ↔ _ :=
    exists_addSeconds_after ((by decide : minInstant ≤ 0).trans ordinary.1)
  unfold maxAddedSeconds
  constructor
  · intro represented
    have isLast : IsOrdinary (253402300800 * nanosPerSecond - 1) := by
      unfold IsOrdinary
      decide
    obtain ⟨positive, _, below⟩ := (after _ isLast).mp (represented _ isLast)
    unfold endOfInstants nanosPerSecond at below
    omega
  · rintro ⟨positive, atMost⟩ now ordinary
    refine (after now ordinary).mpr ⟨positive, ?_, ?_⟩
    · unfold maxDeltaSeconds
      omega
    · obtain ⟨_, below⟩ := ordinary
      unfold nanosPerSecond at below
      unfold endOfInstants nanosPerSecond
      omega

theorem forall_subDays_before_iff {count : Int}
    : (∀ now,
        IsOrdinary now → ∃ difference, subDays now count = some difference ∧ difference < now)
      ↔ 0 < count ∧ count ≤ maxSubtractedDays := by
  have before (now : Int) (ordinary : IsOrdinary now)
      : (∃ difference, subDays now count = some difference ∧ difference < now) ↔ _ :=
    exists_subDays_before
      (ordinary.2.trans (by decide : 253402300800 * nanosPerSecond < endOfInstants))
  unfold maxSubtractedDays
  constructor
  · intro represented
    have isFirst : IsOrdinary 0 := by
      unfold IsOrdinary
      decide
    obtain ⟨positive, _, atLeast⟩ := (before _ isFirst).mp (represented _ isFirst)
    unfold minInstant secondsPerDay nanosPerSecond at atLeast
    omega
  · rintro ⟨positive, atMost⟩ now ordinary
    refine (before now ordinary).mpr ⟨positive, ?_, ?_⟩
    · unfold maxDeltaSeconds secondsPerDay
      omega
    · obtain ⟨atLeast, _⟩ := ordinary
      unfold minInstant secondsPerDay nanosPerSecond
      omega

------------------------------------------------------------
-- Retries of deliveries
------------------------------------------------------------

/-- When a delivery is attempted again, on the worker's clock. -/
def deliveryRetryAt (config : Config) (now attemptNumber : Int) : Option Int :=
  addSeconds now
    (Notifications.computeRetryDelaySeconds config.notificationRetryBaseSeconds.toNat attemptNumber)

/-- The factor of an attempt: doubled with each attempt behind the first, up to six times. -/
def backoffFactor (attemptNumber : Int) : Nat := 2 ^ (min (attemptNumber - 1).toNat 6)

/-- The sum of the database's microseconds is the same instant. -/
theorem addSeconds_nanoseconds (instant delay : Int)
    : addSeconds (nanoseconds instant) delay
      = (Notifications.addSeconds instant delay).map nanoseconds := by
  have sums
      : nanoseconds instant + delay * nanosPerSecond = nanoseconds (instant + seconds delay) := by
    unfold nanoseconds seconds nanosPerSecond
    omega
  have within (sum : Int)
      : (minInstant ≤ nanoseconds sum ∧ nanoseconds sum < endOfInstants)
        ↔ seconds (-8334601228800) ≤ sum ∧ sum < seconds 8210266876800 := by
    unfold minInstant endOfInstants nanoseconds nanosPerSecond seconds
    omega
  unfold Notifications.addSeconds
  simp only
  split
  · rename_i represented
    rw [Option.map_some]
    exact addSeconds_eq_some.mpr ⟨represented.1, (within _).mpr represented.2, sums⟩
  · rename_i beyond
    rw [Option.map_none]
    refine Option.eq_none_iff_forall_ne_some.mpr fun sum added => beyond ?_
    obtain ⟨few, represented, same⟩ := addSeconds_eq_some.mp added
    rw [← same, sums] at represented
    exact ⟨few, (within _).mp represented⟩

theorem computeRetryDelaySeconds_mem_iff {base : UInt64} {attemptNumber : Int} {upper : Nat}
    (positive : base ≠ 0) (fits : upper < i64Max)
    : (0 < Notifications.computeRetryDelaySeconds base.toNat attemptNumber
        ∧ Notifications.computeRetryDelaySeconds base.toNat attemptNumber ≤ upper)
      ↔ base.toNat * backoffFactor attemptNumber ≤ upper := by
  have factorPositive : 0 < backoffFactor attemptNumber := Nat.two_pow_pos _
  have factor
      : (2 : Int) ^ (max 0 (min 6 (attemptNumber - 1))).toNat = backoffFactor attemptNumber := by
    have exponent
        : (max 0 (min 6 (attemptNumber - 1))).toNat = min (attemptNumber - 1).toNat 6 := by
      omega
    rw [exponent, backoffFactor]
    norm_cast
  have nonzero : 0 < base.toNat :=
    Nat.pos_of_ne_zero fun zero => positive (UInt64.toNat_inj.mp zero)
  have bound := base.toNat_lt
  unfold Notifications.computeRetryDelaySeconds
  simp only [factor, Notifications.saturatingMul, Notifications.asI64]
  unfold i64Max at fits
  split
  · have product
        : (base.toNat : Int) * backoffFactor attemptNumber
          = ((base.toNat * backoffFactor attemptNumber : Nat) : Int) := by
      norm_cast
    have above : 0 < base.toNat * backoffFactor attemptNumber := Nat.mul_pos nonzero factorPositive
    rw [product]
    omega
  · -- The base is cast to a negative number.
    rename_i wraps
    have negative : ((base.toNat : Int) - 2 ^ 64) * backoffFactor attemptNumber < 0 :=
      Int.mul_neg_of_neg_of_pos (by omega) (by omega)
    have large : base.toNat ≤ base.toNat * backoffFactor attemptNumber :=
      Nat.le_mul_of_pos_right _ factorPositive
    omega

/-- The longest wait of a delivery is the one behind its last attempt. -/
theorem backoffFactor_le {attemptNumber : Int} {maxAttempts : Nat}
    (within : attemptNumber ≤ maxAttempts)
    : backoffFactor attemptNumber ≤ backoffFactor maxAttempts :=
  Nat.pow_le_pow_right (by decide) (by omega)

------------------------------------------------------------
-- What the configuration makes possible
------------------------------------------------------------

/-- The limits and instants that are computed at one time: limits are positive, and all instants can
be represented, on the right side of the present.
-/
structure SoundClock (config : Config) (now : Int) : Prop where
  siteMonitorClaims : 0 < siteMonitorClaimLimit config
  deliveryClaims : 0 < Notifications.notificationDeliveryClaimLimit config
  retentionBatch : 0 < retentionBatchLimit config
  minimumLease : 0 < asI64 config.leaseSiteCheckSeconds.toNat
  cutoff : ∃ instant, retentionCutoff config now = some instant ∧ instant < now
  nextRun : ∃ instant, nextRetentionRun config now = some instant ∧ now < instant
  retries
    : ∀ attemptNumber : Int,
        attemptNumber ≤ config.notificationMaxAttempts.toNat
        → ∃ instant, deliveryRetryAt config now attemptNumber = some instant ∧ now < instant
  tokenExpiry : ∃ instant, accessTokenExpiry config now = some instant ∧ now < instant

/-- The settings that casts and clock arithmetic can take. -/
structure ClockBounds (config : Config) : Prop where
  siteMonitorClaims
    : (min config.dueSitesBatchSize config.maxHttpConcurrentChecks).toNat ≤ i64Max
  deliveryClaims
    : (min config.dueNotificationBatchSize config.maxNotificationConcurrentDeliveries).toNat
      ≤ i64Max
  retentionBatch : config.siteMonitorCheckRetentionBatchSize.toNat ≤ i64Max
  minimumLease : config.leaseSiteCheckSeconds.toNat ≤ i64Max
  retentionDays : config.siteMonitorCheckRetentionDays.toNat ≤ maxSubtractedDays
  retentionInterval
    : config.siteMonitorCheckRetentionIntervalSeconds.toNat ≤ maxAddedSeconds
  retryDelay
    : config.notificationRetryBaseSeconds.toNat
        * backoffFactor config.notificationMaxAttempts.toNat
      ≤ maxAddedSeconds
  tokenTtl : config.accessTokenTtlSeconds.toNat ≤ maxAddedSeconds

theorem maxAddedSeconds_lt : maxAddedSeconds < i64Max := by decide

theorem maxSubtractedDays_lt : maxSubtractedDays < i64Max := by decide

section Settings

variable {config : Config} {setting : UInt64}

/-- A setting of seconds can be added to every ordinary instant. -/
theorem forall_addSetting_after_iff (positive : setting ≠ 0)
    : (∀ now,
        IsOrdinary now
        → ∃ sum, addSeconds now (asI64 setting.toNat) = some sum ∧ now < sum)
      ↔ setting.toNat ≤ maxAddedSeconds :=
  forall_addSeconds_after_iff.trans (asI64_mem_iff positive maxAddedSeconds_lt.le)

theorem forall_subSetting_before_iff (positive : setting ≠ 0)
    : (∀ now,
        IsOrdinary now
        → ∃ difference, subDays now (asI64 setting.toNat) = some difference ∧ difference < now)
      ↔ setting.toNat ≤ maxSubtractedDays :=
  forall_subDays_before_iff.trans (asI64_mem_iff positive maxSubtractedDays_lt.le)

/-- All retries can be represented exactly if that behind the last attempt can. -/
theorem forall_deliveryRetryAt_after_iff (positive : config.notificationRetryBaseSeconds ≠ 0)
    : (∀ now,
        IsOrdinary now
        → ∀ attemptNumber : Int,
            attemptNumber ≤ config.notificationMaxAttempts.toNat
            → ∃ instant, deliveryRetryAt config now attemptNumber = some instant ∧ now < instant)
      ↔ config.notificationRetryBaseSeconds.toNat
          * backoffFactor config.notificationMaxAttempts.toNat
        ≤ maxAddedSeconds := by
  have after (attemptNumber : Int)
      : (∀ now,
          IsOrdinary now
          → ∃ instant, deliveryRetryAt config now attemptNumber = some instant ∧ now < instant)
        ↔ config.notificationRetryBaseSeconds.toNat * backoffFactor attemptNumber
          ≤ maxAddedSeconds :=
    forall_addSeconds_after_iff.trans
      (computeRetryDelaySeconds_mem_iff positive maxAddedSeconds_lt)
  constructor
  · intro represented
    exact (after _).mp fun now ordinary => represented now ordinary _ le_rfl
  · intro bounded now ordinary attemptNumber within
    refine (after attemptNumber).mpr ?_ now ordinary
    exact (Nat.mul_le_mul_left _ (backoffFactor_le within)).trans bounded

end Settings

/-- The clock arithmetic of an accepted configuration is sound at every ordinary instant exactly
within these bounds.
-/
theorem clockArithmetic_sound_iff {getEnv : EnvGetter} {config : Config}
    (accepted : Config.fromEnvGetter getEnv = .ok config)
    : (∀ now, IsOrdinary now → SoundClock config now) ↔ ClockBounds config := by
  have positive := Config.positiveSettings accepted
  have siteMonitorClaims : 0 < siteMonitorClaimLimit config ↔ _ :=
    asI64_pos_iff (min_ne_zero positive.dueSites positive.concurrentChecks)
  have deliveryClaims : 0 < Notifications.notificationDeliveryClaimLimit config ↔ _ :=
    asI64_pos_iff (min_ne_zero positive.dueNotifications positive.concurrentDeliveries)
  have retentionBatch : 0 < retentionBatchLimit config ↔ _ :=
    asI64_pos_iff positive.retentionBatch
  have minimumLease := asI64_pos_iff positive.leaseSiteCheck
  have cutoff := forall_subSetting_before_iff positive.retentionDays
  have nextRun := forall_addSetting_after_iff positive.retentionInterval
  have retries := forall_deliveryRetryAt_after_iff positive.retryBase
  have tokenExpiry := forall_addSetting_after_iff positive.accessTokenTtl
  constructor
  · intro sound
    have isEpoch : IsOrdinary 0 := by
      unfold IsOrdinary
      decide
    have atEpoch := sound 0 isEpoch
    exact
      { siteMonitorClaims := siteMonitorClaims.mp atEpoch.siteMonitorClaims
        deliveryClaims := deliveryClaims.mp atEpoch.deliveryClaims
        retentionBatch := retentionBatch.mp atEpoch.retentionBatch
        minimumLease := minimumLease.mp atEpoch.minimumLease
        retentionDays := cutoff.mp fun now ordinary => (sound now ordinary).cutoff
        retentionInterval := nextRun.mp fun now ordinary => (sound now ordinary).nextRun
        retryDelay := retries.mp fun now ordinary => (sound now ordinary).retries
        tokenTtl := tokenExpiry.mp fun now ordinary => (sound now ordinary).tokenExpiry }
  · intro bounds now ordinary
    exact
      { siteMonitorClaims := siteMonitorClaims.mpr bounds.siteMonitorClaims
        deliveryClaims := deliveryClaims.mpr bounds.deliveryClaims
        retentionBatch := retentionBatch.mpr bounds.retentionBatch
        minimumLease := minimumLease.mpr bounds.minimumLease
        cutoff := cutoff.mpr bounds.retentionDays now ordinary
        nextRun := nextRun.mpr bounds.retentionInterval now ordinary
        retries := retries.mpr bounds.retryDelay now ordinary
        tokenExpiry := tokenExpiry.mpr bounds.tokenTtl now ordinary }

/-- The defaults are within the bounds. -/
theorem clockArithmetic_sound_defaults
    : ∃ config,
        Config.fromEnvGetter (environmentWith []) = .ok config
        ∧ ∀ now, IsOrdinary now → SoundClock config now := by
  have scenario
      : ((Config.fromEnvGetter (environmentWith [])).toOption.any fun config =>
          (min config.dueSitesBatchSize config.maxHttpConcurrentChecks).toNat ≤ i64Max
          ∧ (min config.dueNotificationBatchSize
              config.maxNotificationConcurrentDeliveries).toNat ≤ i64Max
          ∧ config.siteMonitorCheckRetentionBatchSize.toNat ≤ i64Max
          ∧ config.leaseSiteCheckSeconds.toNat ≤ i64Max
          ∧ config.siteMonitorCheckRetentionDays.toNat ≤ maxSubtractedDays
          ∧ config.siteMonitorCheckRetentionIntervalSeconds.toNat ≤ maxAddedSeconds
          ∧ config.notificationRetryBaseSeconds.toNat
              * backoffFactor config.notificationMaxAttempts.toNat ≤ maxAddedSeconds
          ∧ config.accessTokenTtlSeconds.toNat ≤ maxAddedSeconds) = true := by
    decide +kernel
  obtain ⟨config, configured, bounded⟩ := Fallible.exists_of_any_toOption scenario
  obtain ⟨sites, deliveries, batch, lease, days, interval, retries, ttl⟩ :=
    of_decide_eq_true bounded
  exact ⟨config, configured,
    (clockArithmetic_sound_iff configured).mpr
      ⟨sites, deliveries, batch, lease, days, interval, retries, ttl⟩⟩

/-- A retention of a hundred million days is accepted, and its cutoff panics. -/
theorem clockArithmetic_not_sound
    : ¬∀ (getEnv : EnvGetter) (config : Config),
        Config.fromEnvGetter getEnv = .ok config
        → ∀ now, IsOrdinary now → SoundClock config now := by
  intro sound
  have scenario
      : ((Config.fromEnvGetter
            (environmentWith [("SITE_MONITOR_CHECK_RETENTION_DAYS", "100000000")])).toOption.any
          fun config => retentionCutoff config 0 = none) = true := by
    decide +kernel
  obtain ⟨config, configured, panics⟩ := Fallible.exists_of_any_toOption scenario
  have isEpoch : IsOrdinary 0 := by
    unfold IsOrdinary
    decide
  obtain ⟨instant, represented, _⟩ := (sound _ config configured 0 isEpoch).cutoff
  rw [of_decide_eq_true panics] at represented
  cases represented

end AlonSentinel.System
