import AlonSentinel.Configuration.FromEnv
import AlonSentinel.Domain.Models
import AlonSentinel.Foundation.StdDuration

/-! How often and for how long a worker tries a check: the policy of a monitor, resolved from its
overrides and the configuration, the jittered delays between attempts, and the lease that covers
them all.
-/

namespace AlonSentinel.Worker

open Configuration
open Domain
open MachineInteger

------------------------------------------------------------
-- Policies
------------------------------------------------------------

structure ResolvedMonitorCheckPolicy where
  timeout : StdTime.Duration
  maxAttempts : UInt64
  retryDelaysMs : List UInt64
  retryJitterPercent : UInt64
  maxResponseBodyBytes : UInt64
  allowPrivateTargets : Bool
  deriving DecidableEq

/-- An override counts if it is a positive machine integer. -/
def positiveOverride (value : Option Int) : Option UInt64 :=
  (value.bind tryU64).filter (0 < ·)

def resolveMonitorCheckPolicy (siteMonitor : SiteMonitor) (config : Config)
    : ResolvedMonitorCheckPolicy :=
  let timeoutSeconds :=
    (positiveOverride siteMonitor.httpCheckTimeoutSecondsOverride).getD
      config.httpCheckTimeoutSeconds
  let maxAttempts :=
    (positiveOverride siteMonitor.httpCheckMaxAttemptsOverride).getD config.httpCheckMaxAttempts
  let overriddenDelays :=
    siteMonitor.httpCheckRetryDelaysMsOverride.map fun values =>
      values.filterMap fun value => positiveOverride (some value)
  let retryDelaysMs :=
    (overriddenDelays.filter (!·.isEmpty)).getD config.httpCheckRetryDelaysMs
  { timeout := .fromSecs timeoutSeconds
    maxAttempts
    retryDelaysMs
    retryJitterPercent := config.httpCheckRetryJitterPercent
    maxResponseBodyBytes := config.httpCheckMaxResponseBodyBytes
    allowPrivateTargets := config.httpMonitorAllowPrivateTargets }

/-- The delay behind an attempt; beyond the list its last delay is used. -/
def ResolvedMonitorCheckPolicy.baseRetryDelayForAttempt (policy : ResolvedMonitorCheckPolicy)
    (attemptIndex : Nat)
    : Option StdTime.Duration :=
  (policy.retryDelaysMs[attemptIndex]? <|> policy.retryDelaysMs.getLast?).map
    StdTime.Duration.fromMillis

------------------------------------------------------------
-- Jitter
------------------------------------------------------------

/-- One draw of `random_range`, which stays within the bounds it is given. -/
structure Draw where
  randomRange : UInt64 → UInt64 → UInt64
  inRange
    : ∀ lower upper,
        lower ≤ upper
        → lower ≤ randomRange lower upper ∧ randomRange lower upper ≤ upper

/-- The draw that is always the upper bound. -/
def Draw.greatest : Draw where
  randomRange _ upper := upper
  inRange _ upper ordered := ⟨ordered, UInt64.le_refl upper⟩

/-- A percentage of a delay in milliseconds, cut off at the greatest `u64`. -/
def jitterWindowMs (baseDelayMs jitterPercent : UInt64) : UInt64 :=
  .ofNat (min (baseDelayMs.toNat * jitterPercent.toNat / 100) u64Max)

def jitterRetryDelay (draw : Draw) (baseDelay : StdTime.Duration) (jitterPercent : UInt64)
    : StdTime.Duration :=
  if jitterPercent = 0 then baseDelay
  else
    let baseDelayMs := UInt64.ofNat baseDelay.asMillis
    let jitterWindowMs := jitterWindowMs baseDelayMs jitterPercent
    if jitterWindowMs = 0 then baseDelay
    else
      let minDelayMs := saturatingSub baseDelayMs jitterWindowMs
      let maxDelayMs := saturatingAdd baseDelayMs jitterWindowMs
      .fromMillis (draw.randomRange minDelayMs maxDelayMs)

def worstCaseRetryDelay (baseDelay : StdTime.Duration) (jitterPercent : UInt64)
    : StdTime.Duration :=
  if jitterPercent = 0 then baseDelay
  else
    let baseDelayMs := UInt64.ofNat baseDelay.asMillis
    .fromMillis (saturatingAdd baseDelayMs (jitterWindowMs baseDelayMs jitterPercent))

def ResolvedMonitorCheckPolicy.retryDelayForAttempt (policy : ResolvedMonitorCheckPolicy)
    (draw : Draw) (attemptIndex : Nat)
    : Option StdTime.Duration :=
  (policy.baseRetryDelayForAttempt attemptIndex).map
    (jitterRetryDelay draw · policy.retryJitterPercent)

------------------------------------------------------------
-- Claims and leases
------------------------------------------------------------

/-- How many monitors a worker claims at once. -/
def siteMonitorClaimLimit (config : Config) : Int :=
  asI64 (min config.dueSitesBatchSize config.maxHttpConcurrentChecks).toNat

structure SiteMonitorLeasePlan where
  initialLease : StdTime.Duration
  heartbeatInterval : StdTime.Duration
  deriving DecidableEq

/-- The sum of the longest delays before each further attempt. -/
def ResolvedMonitorCheckPolicy.estimatedRetryDelay (policy : ResolvedMonitorCheckPolicy)
    : StdTime.Duration :=
  (((List.range (policy.maxAttempts.toNat - 1)).filterMap policy.baseRetryDelayForAttempt).map
    (worstCaseRetryDelay · policy.retryJitterPercent)).foldl StdTime.Duration.saturatingAdd .zero

/-- Half of a timeout, and at least two seconds. -/
def safetyBuffer (timeout : StdTime.Duration) : StdTime.Duration :=
  max (timeout.div 2) (.fromSecs 2)

def deriveSiteMonitorLeasePlan (policy : ResolvedMonitorCheckPolicy)
    (minimumLeaseSeconds : UInt64)
    : SiteMonitorLeasePlan :=
  let estimatedAttemptTime := policy.timeout.saturatingMul (asU32 policy.maxAttempts.toNat)
  let derivedLease :=
    (estimatedAttemptTime.saturatingAdd policy.estimatedRetryDelay).saturatingAdd
      (safetyBuffer policy.timeout)
  let initialLease := max derivedLease (.fromSecs minimumLeaseSeconds)
  { initialLease
    heartbeatInterval := max (initialLease.div 3) (.fromSecs 1) }

/-- The lease in whole seconds, as the claim statements take it. -/
def durationToLeaseSeconds (duration : StdTime.Duration) : Int :=
  asI64
    (max
      (saturatingAdd duration.asSecs (if 0 < duration.subsecNanos then 1 else 0)).toNat 1)

------------------------------------------------------------
-- Facts about overrides
------------------------------------------------------------

/-- A positive machine integer is an override that counts. -/
theorem positiveOverride_toNat {value : UInt64} (positive : value ≠ 0)
    : positiveOverride (some (value.toNat : Int)) = some value := by
  have above : 0 < value := UInt64.pos_iff_ne_zero.mpr positive
  simp [positiveOverride, tryU64_of_le (toNat_le_u64Max value), above]

/-- A list of positive machine integers is kept. -/
theorem filterMap_positiveOverride {values : List UInt64} (positive : 0 ∉ values)
    : (values.map fun value => (value.toNat : Int)).filterMap
        (fun value => positiveOverride (some value))
      = values := by
  induction values with
  | nil => rfl
  | cons value rest ih =>
      obtain ⟨first, others⟩ := not_or.mp (List.mem_cons.not.mp positive)
      rw [List.map_cons, List.filterMap_cons, positiveOverride_toNat (Ne.symm first)]
      exact congrArg (value :: ·) (ih others)

------------------------------------------------------------
-- Facts about delays
------------------------------------------------------------

section Jitter

variable {draw : Draw} {millis jitterPercent : UInt64}

theorem toNat_jitterWindowMs (baseDelayMs jitterPercent : UInt64)
    : (jitterWindowMs baseDelayMs jitterPercent).toNat
      = min (baseDelayMs.toNat * jitterPercent.toNat / 100) u64Max :=
  UInt64.toNat_ofNat_of_lt' (by
    change _ < 18446744073709551616
    unfold u64Max
    omega)

/-- The bounds between which a jittered delay lies. -/
structure InJitterWindow (millis jitterPercent : UInt64) (delay : StdTime.Duration) : Prop where
  notBefore
    : StdTime.Duration.fromMillis
        (saturatingSub millis (jitterWindowMs millis jitterPercent)) ≤ delay
  notAfter
    : delay
      ≤ StdTime.Duration.fromMillis
          (saturatingAdd millis (jitterWindowMs millis jitterPercent))

theorem fromMillis_mono {first second : UInt64} (ordered : first ≤ second)
    : StdTime.Duration.fromMillis first ≤ StdTime.Duration.fromMillis second :=
  Nat.mul_le_mul_right _ (UInt64.le_iff_toNat_le.mp ordered)

/-- The base delay lies in its own window. -/
theorem inJitterWindow_base (millis jitterPercent : UInt64)
    : InJitterWindow millis jitterPercent (.fromMillis millis) := by
  have bound := toNat_le_u64Max millis
  refine ⟨fromMillis_mono ?_, fromMillis_mono ?_⟩
  · rw [UInt64.le_iff_toNat_le, toNat_saturatingSub]
    omega
  · rw [UInt64.le_iff_toNat_le, toNat_saturatingAdd]
    omega

/-- Whatever is drawn, the jittered delay lies in the window. -/
theorem inJitterWindow_jitterRetryDelay
    : InJitterWindow millis jitterPercent
        (jitterRetryDelay draw (.fromMillis millis) jitterPercent) := by
  have base := inJitterWindow_base millis jitterPercent
  unfold jitterRetryDelay
  simp only [StdTime.Duration.asMillis_fromMillis, UInt64.ofNat_toNat]
  split
  · exact base
  · split
    · exact base
    · have ordered
          : saturatingSub millis (jitterWindowMs millis jitterPercent)
            ≤ saturatingAdd millis (jitterWindowMs millis jitterPercent) := by
        have bound := toNat_le_u64Max millis
        rw [UInt64.le_iff_toNat_le, toNat_saturatingSub, toNat_saturatingAdd]
        omega
      obtain ⟨atLeast, atMost⟩ := draw.inRange _ _ ordered
      exact ⟨fromMillis_mono atLeast, fromMillis_mono atMost⟩

/-- The estimate of the longest delay is the end of the window. -/
theorem worstCaseRetryDelay_fromMillis
    : worstCaseRetryDelay (.fromMillis millis) jitterPercent
      = .fromMillis (saturatingAdd millis (jitterWindowMs millis jitterPercent)) := by
  unfold worstCaseRetryDelay
  simp only [StdTime.Duration.asMillis_fromMillis, UInt64.ofNat_toNat]
  split
  · rename_i none
    have noWindow : (jitterWindowMs millis jitterPercent).toNat = 0 := by
      simp [toNat_jitterWindowMs, none]
    congr 1
    apply UInt64.toNat_inj.mp
    have bound := toNat_le_u64Max millis
    rw [toNat_saturatingAdd, noWindow]
    omega
  · rfl

/-- No draw exceeds the estimate. -/
theorem jitterRetryDelay_le
    : jitterRetryDelay draw (.fromMillis millis) jitterPercent
      ≤ worstCaseRetryDelay (.fromMillis millis) jitterPercent := by
  rw [worstCaseRetryDelay_fromMillis]
  exact inJitterWindow_jitterRetryDelay.notAfter

end Jitter

section Delays

variable {policy : ResolvedMonitorCheckPolicy}

/-- A delay is missing only if the list is empty. -/
theorem baseRetryDelayForAttempt_eq_none {attemptIndex : Nat}
    : policy.baseRetryDelayForAttempt attemptIndex = none ↔ policy.retryDelaysMs = [] := by
  unfold ResolvedMonitorCheckPolicy.baseRetryDelayForAttempt
  cases found : policy.retryDelaysMs[attemptIndex]? with
  | none => simp
  | some millis =>
      have nonempty : policy.retryDelaysMs ≠ [] :=
        List.ne_nil_of_mem (List.mem_of_getElem? found)
      simp [nonempty]

theorem retryDelayForAttempt_eq_none {draw : Draw} {attemptIndex : Nat}
    : policy.retryDelayForAttempt draw attemptIndex = none ↔ policy.retryDelaysMs = [] := by
  rw [ResolvedMonitorCheckPolicy.retryDelayForAttempt, Option.map_eq_none_iff,
    baseRetryDelayForAttempt_eq_none]

/-- A nonempty list gives each attempt the delay at its index, or else the last one. -/
theorem baseRetryDelayForAttempt_eq (nonempty : policy.retryDelaysMs ≠ []) (attemptIndex : Nat)
    : ∃ millis,
        policy.retryDelaysMs[min attemptIndex (policy.retryDelaysMs.length - 1)]? = some millis
        ∧ policy.baseRetryDelayForAttempt attemptIndex = some (.fromMillis millis) := by
  have positive := List.length_pos_iff.mpr nonempty
  unfold ResolvedMonitorCheckPolicy.baseRetryDelayForAttempt
  by_cases within : attemptIndex < policy.retryDelaysMs.length
  · refine ⟨policy.retryDelaysMs[attemptIndex], ?_, ?_⟩
    · rw [min_eq_left (by omega)]
      exact List.getElem?_eq_getElem within
    · simp [List.getElem?_eq_getElem within]
  · refine ⟨policy.retryDelaysMs.getLast nonempty, ?_, ?_⟩
    · rw [min_eq_right (by omega), ← List.getLast?_eq_getElem?]
      exact List.getLast?_eq_some_getLast nonempty
    · rw [List.getElem?_eq_none (by omega), List.getLast?_eq_some_getLast nonempty]
      rfl

end Delays

end AlonSentinel.Worker
