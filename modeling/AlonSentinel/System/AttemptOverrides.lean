import AlonSentinel.Api.MonitorPayloads
import AlonSentinel.Foundation.Fallible
import AlonSentinel.System.CheckRetries
import AlonSentinel.System.World

/-! How often a monitor with an override for its attempts is tried. The payload is checked against
its own delays and the configuration against its own, but a monitor without delays of its own takes
those of the configuration, of which there may be none.
-/

namespace AlonSentinel.System

open Api
open Configuration
open Domain
open MachineInteger
open Monitoring
open Worker

------------------------------------------------------------
-- Stored monitors
------------------------------------------------------------

/-- The payloads whose retry policy is checked. -/
inductive RetriedPayload where
  | http (payload : UpsertHttpSiteMonitorRequest)
  | ssl (payload : UpsertSslSiteMonitorRequest)

def RetriedPayload.timeoutSecondsOverride : RetriedPayload → Option UInt64
  | .http payload => payload.httpCheckTimeoutSecondsOverride
  | .ssl payload => payload.httpCheckTimeoutSecondsOverride

def RetriedPayload.maxAttemptsOverride : RetriedPayload → Option UInt64
  | .http payload => payload.httpCheckMaxAttemptsOverride
  | .ssl payload => payload.httpCheckMaxAttemptsOverride

def RetriedPayload.retryDelaysMsOverride : RetriedPayload → Option (List UInt64)
  | .http payload => payload.httpCheckRetryDelaysMsOverride
  | .ssl payload => payload.httpCheckRetryDelaysMsOverride

/-- The row that a handler returns for an accepted payload, from the upsert or from the update. -/
def RetriedPayload.Stores (libraries : PayloadLibraries) (lookupHost : LookupHost)
    (allowPrivate : Bool) (row : SiteMonitor)
    : RetriedPayload → Prop
  | .http payload =>
      ∃ normalized db now siteId after,
        validateAndNormalizeHttpMonitorPayload libraries lookupHost payload allowPrivate
          = .ok normalized
        ∧ (upsertHttpMonitorBySiteIdAndTargetUrl db now siteId (payload.params normalized)
            = .ok (row, after)
          ∨ ∃ monitorId,
              updateHttpSiteMonitorById db now siteId monitorId (payload.params normalized)
              = .ok (some row, after))
  | .ssl payload =>
      ∃ normalized db now siteId after,
        validateAndNormalizeSslMonitorPayload libraries lookupHost payload allowPrivate
          = .ok normalized
        ∧ (upsertSslMonitorBySiteIdAndTargetUrl db now siteId (payload.params normalized)
            = .ok (row, after)
          ∨ ∃ monitorId,
              updateSslSiteMonitorById db now siteId monitorId (payload.params normalized)
              = .ok (some row, after))

variable {libraries : PayloadLibraries} {lookupHost : LookupHost} {allowPrivate : Bool}

/-- Accepted overrides, and the columns they became. -/
structure StoredOverrides (timeoutSeconds maxAttempts : Option UInt64)
    (retryDelaysMs : Option (List UInt64)) (row : SiteMonitor)
    : Prop where
  accepted : AcceptedOverrides timeoutSeconds maxAttempts retryDelaysMs
  timeoutColumn : row.httpCheckTimeoutSecondsOverride = storedOverride timeoutSeconds
  attemptsColumn : row.httpCheckMaxAttemptsOverride = storedOverride maxAttempts
  delaysColumn : row.httpCheckRetryDelaysMsOverride = storedRetryDelays retryDelaysMs

/-- The stored row carries the overrides of its payload. -/
theorem RetriedPayload.Stores.overrides {payload : RetriedPayload} {row : SiteMonitor}
    (stores : payload.Stores libraries lookupHost allowPrivate row)
    : StoredOverrides payload.timeoutSecondsOverride payload.maxAttemptsOverride
        payload.retryDelaysMsOverride row := by
  cases payload with
  | http payload =>
      obtain ⟨normalized, db, now, siteId, after, accepted, done⟩ := stores
      have isAccepted := acceptedHttp accepted
      rcases done with upserted | ⟨monitorId, updated⟩
      · obtain ⟨base, rfl | rfl⟩ := upsertSiteMonitor_row upserted
        · exact ⟨isAccepted.overrides, rfl, rfl, isAccepted.delays⟩
        · exact ⟨isAccepted.overrides, rfl, rfl, isAccepted.delays⟩
      · obtain ⟨base, rfl⟩ := updateSiteMonitorById_row updated
        exact ⟨isAccepted.overrides, rfl, rfl, isAccepted.delays⟩
  | ssl payload =>
      obtain ⟨normalized, db, now, siteId, after, accepted, done⟩ := stores
      obtain ⟨overrides, delays⟩ := acceptedSsl accepted
      rcases done with upserted | ⟨monitorId, updated⟩
      · obtain ⟨base, rfl | rfl⟩ := upsertSiteMonitor_row upserted
        · exact ⟨overrides, rfl, rfl, delays⟩
        · exact ⟨overrides, rfl, rfl, delays⟩
      · obtain ⟨base, rfl⟩ := updateSiteMonitorById_row updated
        exact ⟨overrides, rfl, rfl, delays⟩

------------------------------------------------------------
-- Resolved policies
------------------------------------------------------------

section Resolved

variable {timeoutSeconds maxAttempts : Option UInt64} {retryDelaysMs : Option (List UInt64)}
  {row : SiteMonitor} {config : Config}

/-- An override that fits its column is the number of attempts. -/
theorem StoredOverrides.maxAttempts_eq
    (stored : StoredOverrides timeoutSeconds maxAttempts retryDelaysMs row) {count : UInt64}
    (isOverride : maxAttempts = some count) (fits : count.toNat ≤ i32Max)
    : (resolveMonitorCheckPolicy row config).maxAttempts = count := by
  have positive : count ≠ 0 := by
    rintro rfl
    exact stored.accepted.attempts isOverride
  have column : row.httpCheckMaxAttemptsOverride = some (count.toNat : Int) := by
    rw [stored.attemptsColumn, isOverride, storedOverride, Option.map_some, asI32_of_le fits]
  simp only [resolveMonitorCheckPolicy, column, positiveOverride_toNat positive,
    Option.getD_some]

/-- Delays of its own are kept, and a monitor without them takes those of the configuration. -/
theorem StoredOverrides.retryDelaysMs_eq
    (stored : StoredOverrides timeoutSeconds maxAttempts retryDelaysMs row)
    : (resolveMonitorCheckPolicy row config).retryDelaysMs
      = retryDelaysMs.getD config.httpCheckRetryDelaysMs := by
  have column := stored.delaysColumn
  cases given : retryDelaysMs with
  | none =>
      rw [given] at column
      simp [resolveMonitorCheckPolicy, column, storedRetryDelays]
  | some delays =>
      have fit : delays.map (fun value => asI64 value.toNat)
          = delays.map fun value => (value.toNat : Int) :=
        List.map_congr_left fun value member =>
          (asI64_eq_self (toNat_le_u64Max value)).mpr
            (stored.accepted.delaysFit delays given value member)
      have kept := filterMap_positiveOverride (stored.accepted.delaysPositive delays given)
      have nonempty : (some delays).filter (!·.isEmpty) = some delays := by
        simpa [Option.filter] using stored.accepted.delaysGiven delays given
      rw [given, storedRetryDelays, Option.map_some, fit] at column
      simp only [resolveMonitorCheckPolicy, column, Option.map_some, kept, nonempty,
        Option.getD_some]

end Resolved

------------------------------------------------------------
-- Attempts
------------------------------------------------------------

/-- Whenever every attempt fails for a transient reason, the monitor is tried so many times. -/
def HonoursAttempts (policy : ResolvedMonitorCheckPolicy) (count : Nat) : Prop :=
  ∀ inputs,
    Undisturbed inputs
    → (∀ index, isRetryableCheckResult (inputs.attempt index).result = true)
    → (runMonitorCheckWithRetries policy inputs).attempts = count

/-- With nothing but transient failures all attempts are made, or a single one without delays. -/
theorem attempts_of_retryable {policy : ResolvedMonitorCheckPolicy} {inputs : RetryInputs}
    (positive : 0 < policy.maxAttempts.toNat) (undisturbed : Undisturbed inputs)
    (retryable : ∀ index, isRetryableCheckResult (inputs.attempt index).result = true)
    : (runMonitorCheckWithRetries policy inputs).attempts
      = if policy.retryDelaysMs = [] then 1 else policy.maxAttempts.toNat := by
  obtain ⟨count, completes⟩ := completesWith_of_undisturbed positive undisturbed
  obtain ⟨⟨counted, returns⟩, least⟩ := completes.least
  rw [completes.attempts]
  split
  · rename_i empty
    have first : 1 ∈ returnable policy inputs := ⟨Nat.one_pos, .inr (.inr empty)⟩
    exact le_antisymm (least first) counted
  · rename_i nonempty
    rcases returns with notRetryable | all | empty
    · rw [retryable] at notRetryable
      cases notRetryable
    · exact all
    · exact absurd empty nonempty

/-- A transient failure in every attempt. -/
theorem alwaysFails_retryable (index : Nat)
    : isRetryableCheckResult ((alwaysFails "timeout").attempt index).result = true := by
  simp [alwaysFails, failedWith, isRetryableCheckResult]

theorem alwaysFails_undisturbed (reason : String) : Undisturbed (alwaysFails reason) :=
  ⟨fun _ => rfl, fun _ => rfl⟩

/-- A monitor is tried as often as its override says, exactly if that is once or there are delays,
of its own or of the configuration.
-/
theorem maxAttemptsOverride_honoured_iff {payload : RetriedPayload} {row : SiteMonitor}
    {config : Config} {count : UInt64}
    (stores : payload.Stores libraries lookupHost allowPrivate row)
    (isOverride : payload.maxAttemptsOverride = some count) (fits : count.toNat ≤ i32Max)
    : HonoursAttempts (resolveMonitorCheckPolicy row config) count.toNat
      ↔ count = 1
        ∨ payload.retryDelaysMsOverride.isSome = true
        ∨ config.httpCheckRetryDelaysMs ≠ [] := by
  have stored := stores.overrides
  have attempts : (resolveMonitorCheckPolicy row config).maxAttempts = count :=
    stored.maxAttempts_eq isOverride fits
  have delays
      : (resolveMonitorCheckPolicy row config).retryDelaysMs
        = payload.retryDelaysMsOverride.getD config.httpCheckRetryDelaysMs :=
    stored.retryDelaysMs_eq
  have positive : 0 < count.toNat := by
    have nonzero : count ≠ 0 := by
      rintro rfl
      exact stored.accepted.attempts isOverride
    exact UInt64.lt_iff_toNat_lt.mp (UInt64.pos_iff_ne_zero.mpr nonzero)
  have made (inputs : RetryInputs) (undisturbed : Undisturbed inputs)
      (retryable : ∀ index, isRetryableCheckResult (inputs.attempt index).result = true)
      : (runMonitorCheckWithRetries (resolveMonitorCheckPolicy row config) inputs).attempts
        = if payload.retryDelaysMsOverride.getD config.httpCheckRetryDelaysMs = [] then 1
          else count.toNat := by
    rw [attempts_of_retryable (attempts.symm ▸ positive) undisturbed retryable, delays, attempts]
  constructor
  · intro honoured
    have run := honoured _ (alwaysFails_undisturbed "timeout") alwaysFails_retryable
    rw [made _ (alwaysFails_undisturbed "timeout") alwaysFails_retryable] at run
    cases given : payload.retryDelaysMsOverride with
    | some _ => exact .inr (.inl rfl)
    | none =>
        rw [given, Option.getD_none] at run
        by_cases empty : config.httpCheckRetryDelaysMs = []
        · rw [if_pos empty] at run
          exact .inl (UInt64.toNat_inj.mp run.symm)
        · exact .inr (.inr empty)
  · intro condition inputs undisturbed retryable
    rw [made inputs undisturbed retryable]
    split
    · rename_i empty
      rcases condition with rfl | given | configured
      · rfl
      · obtain ⟨own, isOwn⟩ := Option.isSome_iff_exists.mp given
        rw [isOwn, Option.getD_some] at empty
        exact absurd empty (stored.accepted.delaysGiven own isOwn)
      · cases given : payload.retryDelaysMsOverride with
        | some own =>
            rw [given, Option.getD_some] at empty
            exact absurd empty (stored.accepted.delaysGiven own given)
        | none =>
            rw [given, Option.getD_none] at empty
            exact absurd empty configured
    · rfl

------------------------------------------------------------
-- A monitor without delays
------------------------------------------------------------

/-- An HTTP monitor of the shop with overrides. -/
def shopPayload (maxAttempts : UInt64) (retryDelaysMs : Option (List UInt64))
    : UpsertHttpSiteMonitorRequest where
  targetUrl := "https://shop.test/health"
  checkIntervalSeconds := 60
  expectedStatusCode := 200
  bodyMustContain := none
  bodyMustNotContain := none
  bodyMustContainTexts := none
  bodyMustNotContainTexts := none
  jsonPathExists := none
  jsonPathEquals := none
  jsonPathNotEquals := none
  maxResponseTimeMs := none
  requiredHeaderName := none
  requiredHeaderValue := none
  headerAssertions := none
  sslCertificateChecksEnabled := none
  sslExpiryWarningDays := none
  httpCheckTimeoutSecondsOverride := none
  httpCheckMaxAttemptsOverride := some maxAttempts
  httpCheckRetryDelaysMsOverride := retryDelaysMs
  isActive := true

def shopLibraries : PayloadLibraries where
  parseUrl text :=
    if text = "https://shop.test/health" then
      some { scheme := "https", hostStr := some "shop.test", portOrKnownDefault := some 443 }
    else none
  headerName name := some (name.map Char.toLower)

def shopLookup : LookupHost := fun _ =>
  (IpAddress.IpAddr.parse "93.184.216.34").map fun ip => [.new ip 443]

/-- What the upsert of the shop's monitor stores. -/
def storedShop (maxAttempts : UInt64) (retryDelaysMs : Option (List UInt64))
    : Option SiteMonitor := do
  let payload := shopPayload maxAttempts retryDelaysMs
  let normalized ←
    (validateAndNormalizeHttpMonitorPayload shopLibraries shopLookup payload false).toOption
  let (row, _) ←
    (upsertHttpMonitorBySiteIdAndTargetUrl smallDatabase 0 1 (payload.params normalized)).toOption
  return row

theorem storedShop_stores {maxAttempts : UInt64} {retryDelaysMs : Option (List UInt64)}
    {row : SiteMonitor} (stored : storedShop maxAttempts retryDelaysMs = some row)
    : (RetriedPayload.http (shopPayload maxAttempts retryDelaysMs)).Stores shopLibraries shopLookup
        false row := by
  obtain ⟨normalized, accepted, upserted⟩ := Option.bind_eq_some_iff.mp stored
  obtain ⟨⟨stored, after⟩, done, same⟩ := Option.bind_eq_some_iff.mp upserted
  cases same
  exact ⟨normalized, _, _, _, after, Fallible.toOption_eq_some.mp accepted,
    .inl (Fallible.toOption_eq_some.mp done)⟩

/-- A configuration for a single attempt needs no delays, and then an override for two attempts
makes one.
-/
theorem maxAttemptsOverride_not_honoured
    : ¬∀ (getEnv : EnvGetter) (config : Config) (libraries : PayloadLibraries)
        (lookupHost : LookupHost) (allowPrivate : Bool) (payload : RetriedPayload)
        (row : SiteMonitor) (count : UInt64),
        Config.fromEnvGetter getEnv = .ok config
        → payload.Stores libraries lookupHost allowPrivate row
        → payload.maxAttemptsOverride = some count
        → count.toNat ≤ i32Max
        → HonoursAttempts (resolveMonitorCheckPolicy row config) count.toNat := by
  intro honoured
  have scenario
      : ((Config.fromEnvGetter
            (environmentWith
              [("HTTP_CHECK_MAX_ATTEMPTS", "1"), ("HTTP_CHECK_RETRY_DELAYS_MS", "")])).toOption.any
          fun config =>
            (storedShop 2 none).any fun row =>
              (runMonitorCheckWithRetries (resolveMonitorCheckPolicy row config)
                (alwaysFails "timeout")).attempts
              = 1) = true := by
    decide +kernel
  obtain ⟨config, configured, stored⟩ := Fallible.exists_of_any_toOption scenario
  obtain ⟨row, isStored, single⟩ := (Option.any_eq_true _ _).mp stored
  have twice :=
    honoured _ config _ _ _ _ row 2 configured (storedShop_stores isStored) rfl (by decide) _
      (alwaysFails_undisturbed "timeout") alwaysFails_retryable
  rw [of_decide_eq_true single] at twice
  cases twice

theorem maxAttemptsOverride_honoured_shop
    : ∃ row config,
        (RetriedPayload.http (shopPayload 2 (some [500]))).Stores shopLibraries shopLookup false row
        ∧ Config.fromEnvGetter (environmentWith []) = .ok config
        ∧ HonoursAttempts (resolveMonitorCheckPolicy row config) 2 := by
  have scenario
      : ((Config.fromEnvGetter (environmentWith [])).toOption.any fun _ =>
          (storedShop 2 (some [500])).isSome) = true := by
    decide +kernel
  obtain ⟨config, configured, isStored⟩ := Fallible.exists_of_any_toOption scenario
  obtain ⟨row, stored⟩ := Option.isSome_iff_exists.mp isStored
  have stores := storedShop_stores stored
  exact ⟨row, config, stores, configured,
    (maxAttemptsOverride_honoured_iff stores rfl (by decide)).mpr (.inr (.inl rfl))⟩

end AlonSentinel.System
