import AlonSentinel.System.AttemptOverrides
import AlonSentinel.System.DnsMonitors

/-! Overrides from a payload to the policy of the worker. The handlers cast them to the integers of
their columns, and each validator bounds some of them only.
-/

namespace AlonSentinel.System

open Api
open Configuration
open Domain
open MachineInteger
open Monitoring
open UnicodeText
open Worker

------------------------------------------------------------
-- Columns
------------------------------------------------------------

/-- A column has the value of a payload, as a number. -/
def SameNumber (column : Option Int) (value : Option UInt64) : Prop :=
  column = value.map fun value => (value.toNat : Int)

def SameNumbers (column : Option (List Int)) (values : Option (List UInt64)) : Prop :=
  column = values.map (·.map fun value => (value.toNat : Int))

theorem sameNumber_storedOverride {value : Option UInt64}
    : SameNumber (storedOverride value) value ↔ ∀ given ∈ value, given.toNat ≤ i32Max := by
  unfold SameNumber storedOverride
  cases value with
  | none => simp
  | some given => simp [asI32_eq_self]

theorem sameNumbers_storedRetryDelays {values : Option (List UInt64)}
    : SameNumbers (storedRetryDelays values) values
      ↔ ∀ given ∈ values, ∀ value ∈ given, value.toNat ≤ i64Max := by
  have kept (value : UInt64) : asI64 value.toNat = value.toNat ↔ value.toNat ≤ i64Max :=
    asI64_eq_self (toNat_le_u64Max value)
  unfold SameNumbers storedRetryDelays
  cases values with
  | none => simp
  | some given => simp [kept]

/-- The positive ones of a list of machine integers are kept, by induction over the list. -/
theorem filterMap_positiveOverride_eq_filter (values : List UInt64)
    : (values.map fun value => (value.toNat : Int)).filterMap
        (fun value => positiveOverride (some value))
      = values.filter (0 < ·) := by
  induction values with
  | nil => rfl
  | cons value rest ih =>
      rw [List.map_cons, List.filterMap_cons, ih]
      by_cases zero : value = 0
      · subst zero
        rfl
      · have positive : 0 < value := UInt64.pos_iff_ne_zero.mpr zero
        simp only [positiveOverride_toNat zero, List.filter_cons, positive, decide_true, if_true]

------------------------------------------------------------
-- Payloads
------------------------------------------------------------

/-- The payloads that take overrides. -/
inductive OverridePayload where
  | retried (payload : RetriedPayload)
  | tcp (payload : UpsertTcpSiteMonitorRequest)
  | dns (payload : UpsertDnsSiteMonitorRequest)

def OverridePayload.timeoutSecondsOverride : OverridePayload → Option UInt64
  | .retried payload => payload.timeoutSecondsOverride
  | .tcp payload => payload.timeoutSecondsOverride
  | .dns payload => payload.timeoutSecondsOverride

def OverridePayload.maxAttemptsOverride : OverridePayload → Option UInt64
  | .retried payload => payload.maxAttemptsOverride
  | .tcp payload => payload.maxAttemptsOverride
  | .dns payload => payload.maxAttemptsOverride

def OverridePayload.retryDelaysMsOverride : OverridePayload → Option (List UInt64)
  | .retried payload => payload.retryDelaysMsOverride
  | .tcp payload => payload.retryDelaysMsOverride
  | .dns payload => payload.retryDelaysMsOverride

/-- The longest time of a response or of a connection, for the payloads that have one. -/
def OverridePayload.maxTimeMs : OverridePayload → Option (Option UInt64)
  | .retried (.http payload) => some payload.maxResponseTimeMs
  | .tcp payload => some payload.maxConnectTimeMs
  | .retried (.ssl _) | .dns _ => none

/-- The row that a handler returns for an accepted payload, from the upsert or from the update. -/
inductive OverridePayload.Stores (libraries : PayloadLibraries) (toUppercase : String → String)
    (lookupHost : LookupHost) (allowPrivate : Bool) (row : SiteMonitor)
    : OverridePayload → Prop where
  | retried {payload : RetriedPayload}
      (stores : payload.Stores libraries lookupHost allowPrivate row)
      : Stores libraries toUppercase lookupHost allowPrivate row (.retried payload)
  | tcpUpserted {payload : UpsertTcpSiteMonitorRequest} {retryDelays : Option (List Int)}
      {db after : Database} {now : Timestamp} {siteId : Int}
      (accepted : validateAndNormalizeTcpMonitorPayload payload = .ok retryDelays)
      (reachable
        : validateTcpTarget lookupHost (trim payload.targetHost) payload.targetPort = .ok ())
      (done
        : upsertTcpMonitorBySiteIdAndHostPort db now siteId (payload.params retryDelays)
          = .ok (row, after))
      : Stores libraries toUppercase lookupHost allowPrivate row (.tcp payload)
  | tcpUpdated {payload : UpsertTcpSiteMonitorRequest} {retryDelays : Option (List Int)}
      {db after : Database} {now : Timestamp} {siteId monitorId : Int}
      (accepted : validateAndNormalizeTcpMonitorPayload payload = .ok retryDelays)
      (reachable
        : validateTcpTarget lookupHost (trim payload.targetHost) payload.targetPort = .ok ())
      (done
        : updateTcpSiteMonitorById db now siteId monitorId (payload.params retryDelays)
          = .ok (some row, after))
      : Stores libraries toUppercase lookupHost allowPrivate row (.tcp payload)
  | dns {payload : UpsertDnsSiteMonitorRequest} {db after : Database}
      (stores : StoresDns toUppercase payload db row after)
      : Stores libraries toUppercase lookupHost allowPrivate row (.dns payload)

/-- The columns that the overrides of a payload became. -/
structure OverridePayload.Casts (payload : OverridePayload) (row : SiteMonitor) : Prop where
  timeoutAccepted : payload.timeoutSecondsOverride ≠ some 0
  attemptsAccepted : payload.maxAttemptsOverride ≠ some 0
  timeoutColumn
    : row.httpCheckTimeoutSecondsOverride = storedOverride payload.timeoutSecondsOverride
  attemptsColumn : row.httpCheckMaxAttemptsOverride = storedOverride payload.maxAttemptsOverride
  delaysColumn
    : row.httpCheckRetryDelaysMsOverride = storedRetryDelays payload.retryDelaysMsOverride
  maxTimeColumn : ∀ value ∈ payload.maxTimeMs, row.maxResponseTimeMs = storedOverride value

theorem acceptedTcp {payload : UpsertTcpSiteMonitorRequest} {retryDelays : Option (List Int)}
    (accepted : validateAndNormalizeTcpMonitorPayload payload = .ok retryDelays)
    : payload.timeoutSecondsOverride ≠ some 0
      ∧ payload.maxAttemptsOverride ≠ some 0
      ∧ retryDelays = storedRetryDelays payload.retryDelaysMsOverride := by
  unfold validateAndNormalizeTcpMonitorPayload at accepted
  simp only [rejectIf_bind] at accepted
  obtain ⟨_, _, _, timeout, attempts, ⟨⟩⟩ := accepted
  exact ⟨by simpa using timeout, by simpa using attempts, rfl⟩

variable {libraries : PayloadLibraries} {toUppercase : String → String} {lookupHost : LookupHost}
  {allowPrivate : Bool} {payload : OverridePayload} {row : SiteMonitor}

/-- Every handler stores the casts of its overrides, by cases over the payloads. -/
theorem OverridePayload.Stores.casts
    (stores : payload.Stores libraries toUppercase lookupHost allowPrivate row)
    : payload.Casts row := by
  cases stores with
  | @retried payload stores =>
      have stored := stores.overrides
      refine ⟨stored.accepted.timeout, stored.accepted.attempts, stored.timeoutColumn,
        stored.attemptsColumn, stored.delaysColumn, ?_⟩
      cases payload with
      | http payload =>
          obtain ⟨normalized, db, now, siteId, after, _, done⟩ := stores
          rintro value ⟨⟩
          rcases done with upserted | ⟨monitorId, updated⟩
          · obtain ⟨base, rfl | rfl⟩ := upsertSiteMonitor_row upserted
            · rfl
            · rfl
          · obtain ⟨base, rfl⟩ := updateSiteMonitorById_row updated
            rfl
      | ssl payload => exact nofun
  | tcpUpserted accepted reachable done =>
      obtain ⟨timeout, attempts, rfl⟩ := acceptedTcp accepted
      obtain ⟨base, rfl | rfl⟩ := upsertSiteMonitor_row done
      · exact ⟨timeout, attempts, rfl, rfl, rfl, by rintro value ⟨⟩; rfl⟩
      · exact ⟨timeout, attempts, rfl, rfl, rfl, by rintro value ⟨⟩; rfl⟩
  | tcpUpdated accepted reachable done =>
      obtain ⟨timeout, attempts, rfl⟩ := acceptedTcp accepted
      obtain ⟨base, rfl⟩ := updateSiteMonitorById_row done
      exact ⟨timeout, attempts, rfl, rfl, rfl, by rintro value ⟨⟩; rfl⟩
  | dns stores =>
      cases stores with
      | upserted accepted done =>
          obtain ⟨⟨recordType, isAccepted⟩, rfl⟩ := acceptedDns accepted
          obtain ⟨base, rfl | rfl⟩ := upsertSiteMonitor_row done
          · exact ⟨isAccepted.timeout, isAccepted.attempts, rfl, rfl, rfl, nofun⟩
          · exact ⟨isAccepted.timeout, isAccepted.attempts, rfl, rfl, rfl, nofun⟩
      | updated accepted done =>
          obtain ⟨⟨recordType, isAccepted⟩, rfl⟩ := acceptedDns accepted
          obtain ⟨base, rfl⟩ := updateSiteMonitorById_row done
          exact ⟨isAccepted.timeout, isAccepted.attempts, rfl, rfl, rfl, nofun⟩

------------------------------------------------------------
-- Overrides as requested
------------------------------------------------------------

/-- The columns have the numbers of the payload. -/
structure OverridePayload.StoredAsRequested (payload : OverridePayload) (row : SiteMonitor)
    : Prop where
  timeout : SameNumber row.httpCheckTimeoutSecondsOverride payload.timeoutSecondsOverride
  attempts : SameNumber row.httpCheckMaxAttemptsOverride payload.maxAttemptsOverride
  delays : SameNumbers row.httpCheckRetryDelaysMsOverride payload.retryDelaysMsOverride
  maxTime : ∀ value ∈ payload.maxTimeMs, SameNumber row.maxResponseTimeMs value

/-- A policy has the values of the payload. Delays of zero are ignored, and so is a list that has no
others.
-/
structure OverridePayload.UsedAsRequested (payload : OverridePayload) (config : Config)
    (policy : ResolvedMonitorCheckPolicy)
    : Prop where
  timeout : ∀ value ∈ payload.timeoutSecondsOverride, policy.timeout = .fromSecs value
  attempts : ∀ value ∈ payload.maxAttemptsOverride, policy.maxAttempts = value
  delays
    : ∀ values ∈ payload.retryDelaysMsOverride,
        policy.retryDelaysMs
        = if values.filter (0 < ·) = [] then config.httpCheckRetryDelaysMs
          else values.filter (0 < ·)

/-- The overrides fit their columns. -/
structure OverridePayload.FitColumns (payload : OverridePayload) : Prop where
  timeout : ∀ value ∈ payload.timeoutSecondsOverride, value.toNat ≤ i32Max
  attempts : ∀ value ∈ payload.maxAttemptsOverride, value.toNat ≤ i32Max
  delays : ∀ values ∈ payload.retryDelaysMsOverride, ∀ value ∈ values, value.toNat ≤ i64Max
  maxTime : ∀ limit ∈ payload.maxTimeMs, ∀ value ∈ limit, value.toNat ≤ i32Max

theorem OverridePayload.Casts.storedAsRequested_iff (casts : payload.Casts row)
    : payload.StoredAsRequested row ↔ payload.FitColumns := by
  have timeout
      : SameNumber row.httpCheckTimeoutSecondsOverride payload.timeoutSecondsOverride ↔ _ :=
    casts.timeoutColumn ▸ sameNumber_storedOverride
  have attempts : SameNumber row.httpCheckMaxAttemptsOverride payload.maxAttemptsOverride ↔ _ :=
    casts.attemptsColumn ▸ sameNumber_storedOverride
  have delays : SameNumbers row.httpCheckRetryDelaysMsOverride payload.retryDelaysMsOverride ↔ _ :=
    casts.delaysColumn ▸ sameNumbers_storedRetryDelays
  have maxTime (value : Option UInt64) (isLimit : value ∈ payload.maxTimeMs)
      : SameNumber row.maxResponseTimeMs value ↔ ∀ given ∈ value, given.toNat ≤ i32Max :=
    casts.maxTimeColumn value isLimit ▸ sameNumber_storedOverride
  constructor
  · intro stored
    exact
      { timeout := timeout.mp stored.timeout
        attempts := attempts.mp stored.attempts
        delays := delays.mp stored.delays
        maxTime := fun limit isLimit => (maxTime limit isLimit).mp (stored.maxTime limit isLimit) }
  · intro fit
    exact
      { timeout := timeout.mpr fit.timeout
        attempts := attempts.mpr fit.attempts
        delays := delays.mpr fit.delays
        maxTime := fun limit isLimit => (maxTime limit isLimit).mpr (fit.maxTime limit isLimit) }

/-- A positive number in a column is an override that counts. -/
theorem positiveOverride_of_sameNumber {column : Option Int} {override : Option UInt64}
    {value : UInt64} (same : SameNumber column override) (positive : override ≠ some 0)
    (isGiven : value ∈ override)
    : positiveOverride column = some value := by
  obtain rfl := Option.mem_def.mp isGiven
  rw [same, Option.map_some]
  refine positiveOverride_toNat ?_
  rintro rfl
  exact positive rfl

/-- The worker uses what is stored as requested. -/
theorem OverridePayload.Casts.usedAsRequested (casts : payload.Casts row)
    (stored : payload.StoredAsRequested row) (config : Config)
    : payload.UsedAsRequested config (resolveMonitorCheckPolicy row config) := by
  constructor
  · intro value isGiven
    have counts := positiveOverride_of_sameNumber stored.timeout casts.timeoutAccepted isGiven
    simp only [resolveMonitorCheckPolicy, counts, Option.getD_some]
  · intro value isGiven
    have counts := positiveOverride_of_sameNumber stored.attempts casts.attemptsAccepted isGiven
    simp only [resolveMonitorCheckPolicy, counts, Option.getD_some]
  · intro values isGiven
    have column := stored.delays
    rw [Option.mem_def.mp isGiven, SameNumbers, Option.map_some] at column
    simp only [resolveMonitorCheckPolicy, column, Option.map_some,
      filterMap_positiveOverride_eq_filter]
    by_cases none : values.filter (0 < ·) = []
    · simp [none, Option.filter]
    · simp [none, Option.filter]

/-- Overrides are stored and used as requested exactly if they fit their columns. -/
theorem overrides_asRequested_iff
    (stores : payload.Stores libraries toUppercase lookupHost allowPrivate row)
    : (payload.StoredAsRequested row
        ∧ ∀ config,
            payload.UsedAsRequested config (resolveMonitorCheckPolicy row config))
      ↔ payload.FitColumns := by
  have casts := stores.casts
  rw [← casts.storedAsRequested_iff]
  exact ⟨fun asRequested => asRequested.1,
    fun stored => ⟨stored, casts.usedAsRequested stored⟩⟩

------------------------------------------------------------
-- A timeout that wraps
------------------------------------------------------------

/-- A TCP monitor of the shop with a timeout. -/
def portPayload (timeoutSeconds : UInt64) : UpsertTcpSiteMonitorRequest where
  targetHost := "93.184.216.34"
  targetPort := 443
  checkIntervalSeconds := 60
  maxConnectTimeMs := some 2000
  timeoutSecondsOverride := some timeoutSeconds
  maxAttemptsOverride := none
  retryDelaysMsOverride := some [0, 500]
  isActive := true

/-- What the upsert of the port stores. -/
def storedPort (timeoutSeconds : UInt64) : Option SiteMonitor := do
  let payload := portPayload timeoutSeconds
  let retryDelays ← (validateAndNormalizeTcpMonitorPayload payload).toOption
  let () ← (validateTcpTarget shopLookup (trim payload.targetHost) payload.targetPort).toOption
  let (row, _) ←
    (upsertTcpMonitorBySiteIdAndHostPort smallDatabase 0 1
      (payload.params retryDelays)).toOption
  return row

theorem storedPort_stores {timeoutSeconds : UInt64} {row : SiteMonitor}
    (stored : storedPort timeoutSeconds = some row)
    : OverridePayload.Stores shopLibraries id shopLookup false row
        (.tcp (portPayload timeoutSeconds)) := by
  obtain ⟨retryDelays, accepted, checked⟩ := Option.bind_eq_some_iff.mp stored
  obtain ⟨⟨⟩, reachable, upserted⟩ := Option.bind_eq_some_iff.mp checked
  obtain ⟨⟨stored, after⟩, done, same⟩ := Option.bind_eq_some_iff.mp upserted
  cases same
  exact .tcpUpserted (Fallible.toOption_eq_some.mp accepted)
    (Fallible.toOption_eq_some.mp reachable) (Fallible.toOption_eq_some.mp done)

theorem overrides_asRequested_port
    : ∃ row,
        storedPort 30 = some row
        ∧ (OverridePayload.tcp (portPayload 30)).StoredAsRequested row
        ∧ ∀ config,
            (OverridePayload.tcp (portPayload 30)).UsedAsRequested config
              (resolveMonitorCheckPolicy row config) := by
  have scenario : (storedPort 30).isSome = true := by decide +kernel
  obtain ⟨row, stored⟩ := Option.isSome_iff_exists.mp scenario
  refine ⟨row, stored, (overrides_asRequested_iff (storedPort_stores stored)).mpr ?_⟩
  constructor
  · rintro value ⟨⟩
    decide +kernel
  · rintro value ⟨⟩
  · rintro values ⟨⟩ value isDelay
    rcases List.mem_pair.mp isDelay with rfl | rfl
    · decide +kernel
    · decide +kernel
  · rintro limit ⟨⟩ value ⟨⟩
    decide +kernel

/-- A timeout beyond the `i32` range is accepted and stored as another one. -/
theorem overrides_not_asRequested
    : ¬∀ (libraries : PayloadLibraries) (toUppercase : String → String) (lookupHost : LookupHost)
          (allowPrivate : Bool) (payload : OverridePayload) (row : SiteMonitor),
        payload.Stores libraries toUppercase lookupHost allowPrivate row
        → payload.StoredAsRequested row
          ∧ ∀ config,
              payload.UsedAsRequested config (resolveMonitorCheckPolicy row config) := by
  intro asRequested
  have scenario
      : ((storedPort 4294967301).any fun row =>
          row.httpCheckTimeoutSecondsOverride = some 5) = true := by
    decide +kernel
  obtain ⟨row, stored, wrapped⟩ := (Option.any_eq_true _ _).mp scenario
  have timeout := (asRequested _ _ _ _ _ _ (storedPort_stores stored)).1.timeout
  rw [of_decide_eq_true wrapped] at timeout
  revert timeout
  simp [SameNumber, OverridePayload.timeoutSecondsOverride, portPayload]

end AlonSentinel.System
