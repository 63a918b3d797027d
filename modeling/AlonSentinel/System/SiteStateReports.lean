import AlonSentinel.Api.SiteState
import AlonSentinel.System.CursorPagination
import Mathlib.Order.Basic

/-! What the endpoints report of one site. The state of a site is that of its worst monitor; the
summary looks for it among the HTTP, SSL and heartbeat monitors only, and the summary and the
update report no open incident whatever the site has.
-/

namespace AlonSentinel.System

open Api
open Api.Sites
open Domain
open KeyedTable
open NullableAggregates

variable {db : Database} {siteId : Int}

------------------------------------------------------------
-- The worst monitor
------------------------------------------------------------

def SiteState.severity : SiteState → Nat
  | .notConfigured => 0
  | .disabled => 1
  | .pendingFirstCheck => 2
  | .healthy => 3
  | .failing => 4

/-- A state is greater the worse it is. -/
instance : LinearOrder SiteState :=
  LinearOrder.lift' SiteState.severity (by
    intro first second
    cases first <;> cases second <;> decide)

/-- The state that a monitor alone would give its site. -/
def stateOfMonitor (monitor : SiteMonitor) : SiteState :=
  if monitor.isActive then
    match monitor.lastIsSuccess with
    | none => .pendingFirstCheck
    | some true => .healthy
    | some false => .failing
  else .disabled

theorem stateOfMonitor_ne_notConfigured (monitor : SiteMonitor)
    : stateOfMonitor monitor ≠ .notConfigured := by
  unfold stateOfMonitor
  split
  · split <;> decide
  · decide

/-- The state of the worst monitor of a group. -/
def worstState (monitors : List SiteMonitor) : SiteState :=
  (monitors.map stateOfMonitor).maximum.unbotD .notConfigured

/-- The worst monitors of two groups are as bad exactly when the worst states are the same. -/
theorem worstState_eq_iff {first second : List SiteMonitor}
    : worstState first = worstState second
      ↔ (first.map stateOfMonitor).maximum = (second.map stateOfMonitor).maximum := by
  have configured {monitors : List SiteMonitor} {state : SiteState}
      (attained : (monitors.map stateOfMonitor).maximum = state)
      : state ≠ .notConfigured := by
    obtain ⟨monitor, _, rfl⟩ := List.mem_map.mp (List.maximum_mem attained)
    exact stateOfMonitor_ne_notConfigured monitor
  refine ⟨fun same => ?_, fun same => by rw [worstState, same, worstState]⟩
  unfold worstState at same
  cases firstMax : (first.map stateOfMonitor).maximum with
  | bot =>
      cases secondMax : (second.map stateOfMonitor).maximum with
      | bot => rfl
      | coe state =>
          rw [firstMax, secondMax] at same
          exact absurd same.symm (configured secondMax)
  | coe state =>
      cases secondMax : (second.map stateOfMonitor).maximum with
      | bot =>
          rw [firstMax, secondMax] at same
          exact absurd same (configured firstMax)
      | coe other =>
          rw [firstMax, secondMax] at same
          exact congrArg _ same

/-- A state that one monitor has and none exceeds is the worst. -/
theorem worstState_eq {monitors : List SiteMonitor} {monitor : SiteMonitor}
    (member : monitor ∈ monitors)
    (worst : ∀ other ∈ monitors, stateOfMonitor other ≤ stateOfMonitor monitor)
    : worstState monitors = stateOfMonitor monitor := by
  have attained : (monitors.map stateOfMonitor).maximum = stateOfMonitor monitor := by
    refine List.maximum_eq_coe_iff.mpr ⟨List.mem_map_of_mem member, ?_⟩
    intro state isState
    obtain ⟨other, isOther, rfl⟩ := List.mem_map.mp isState
    exact worst other isOther
  rw [worstState, attained, WithBot.unbotD_coe]

theorem stateOfMonitor_of_active {monitor : SiteMonitor} (active : monitor.isActive = true)
    {success : Bool} (checked : monitor.lastIsSuccess = some success)
    : stateOfMonitor monitor = if success then .healthy else .failing := by
  rw [stateOfMonitor, if_pos active, checked]
  cases success with
  | true => rfl
  | false => rfl

/-- A state that is bad enough comes from an active monitor with that outcome. -/
theorem active_of_stateOfMonitor {monitor : SiteMonitor} {success : Bool}
    (isState : stateOfMonitor monitor = if success then .healthy else .failing)
    : monitor.isActive = true ∧ monitor.lastIsSuccess = some success := by
  unfold stateOfMonitor at isState
  cases active : monitor.isActive with
  | false =>
      rw [active] at isState
      cases success <;> cases isState
  | true =>
      cases outcome : monitor.lastIsSuccess with
      | none =>
          rw [active, outcome] at isState
          cases success <;> cases isState
      | some other =>
          rw [active, outcome] at isState
          cases success <;> cases other <;> first | exact ⟨rfl, rfl⟩ | cases isState

/-- A state at least as bad as a successful check is one of the two that outcomes give. -/
theorem le_pendingFirstCheck {state : SiteState} (notHealthy : state ≠ .healthy)
    (notFailing : state ≠ .failing)
    : state ≤ .pendingFirstCheck := by
  cases state with
  | notConfigured | disabled | pendingFirstCheck => decide
  | healthy => exact absurd rfl notHealthy
  | failing => exact absurd rfl notFailing

theorem le_healthy {state : SiteState} (notFailing : state ≠ .failing)
    : state ≤ .healthy := by
  cases state with
  | notConfigured | disabled | pendingFirstCheck | healthy => decide
  | failing => exact absurd rfl notFailing

theorem le_failing (state : SiteState) : state ≤ .failing := by
  cases state with
  | notConfigured | disabled | pendingFirstCheck | healthy | failing => decide

/-- The aggregates over the monitors of a site tell its worst monitor. -/
theorem siteCurrentState_of (siteId : Int) {monitors : List SiteMonitor}
    (configured : monitors ≠ [])
    : siteCurrentState (some (.of siteId monitors)) = worstState monitors := by
  have anyOutcome (success : Bool)
      : boolOr ((monitors.filter (·.isActive)).map fun monitor =>
            monitor.lastIsSuccess.map (· == success)) = some true
        ↔ ∃ monitor ∈ monitors,
            stateOfMonitor monitor = if success then .healthy else .failing := by
    rw [boolOr_filter_map]
    refine exists_congr fun monitor => and_congr_right fun _ => ⟨?_, fun isState => ?_⟩
    · rintro ⟨active, outcome⟩
      obtain ⟨checked, outcome, same⟩ := Option.map_eq_some_iff.mp outcome
      exact stateOfMonitor_of_active active (beq_iff_eq.mp same ▸ outcome)
    · obtain ⟨active, outcome⟩ := active_of_stateOfMonitor isState
      exact ⟨active, by rw [outcome, Option.map_some, beq_self_eq_true]⟩
  have anyActive
      : hasActiveMonitor monitors = true ↔ ∃ monitor ∈ monitors, monitor.isActive = true := by
    simp only [hasActiveMonitor, decide_eq_true_eq, boolOr_eq_true, List.mem_map,
      Option.some.injEq]
  rw [siteCurrentState]
  by_cases active : ∃ monitor ∈ monitors, monitor.isActive = true
  · have notDisabled : ¬(!(SiteHealthState.of siteId monitors).hasActiveMonitor) = true := by
      simp only [SiteHealthState.of, anyActive.mpr active, Bool.not_true, Bool.false_eq_true,
        not_false_eq_true]
    rw [if_neg notDisabled]
    by_cases failing : ∃ monitor ∈ monitors, stateOfMonitor monitor = .failing
    · have isTrue := (anyOutcome false).mpr failing
      obtain ⟨monitor, member, isState⟩ := failing
      rw [worstState_eq member fun other _ => isState ▸ le_failing _, isState]
      exact if_pos isTrue
    · refine (if_neg (mt (anyOutcome false).mp failing)).trans ?_
      have notFailing : ∀ other ∈ monitors, stateOfMonitor other ≠ .failing :=
        fun other member isFailing => failing ⟨other, member, isFailing⟩
      by_cases healthy : ∃ monitor ∈ monitors, stateOfMonitor monitor = .healthy
      · have isTrue := (anyOutcome true).mpr healthy
        obtain ⟨monitor, member, isState⟩ := healthy
        have worst (other : SiteMonitor) (isOther : other ∈ monitors) :=
          le_healthy (notFailing other isOther)
        rw [worstState_eq member fun other isOther => isState ▸ worst other isOther, isState]
        exact if_pos isTrue
      · refine (if_neg (mt (anyOutcome true).mp healthy)).trans ?_
        have notHealthy : ∀ other ∈ monitors, stateOfMonitor other ≠ .healthy :=
          fun other member isHealthy => healthy ⟨other, member, isHealthy⟩
        obtain ⟨monitor, member, isActive⟩ := active
        have isState : stateOfMonitor monitor = .pendingFirstCheck := by
          cases outcome : monitor.lastIsSuccess with
          | none => rw [stateOfMonitor, if_pos isActive, outcome]
          | some success =>
              have checked := stateOfMonitor_of_active isActive outcome
              cases success with
              | true => exact absurd checked (notHealthy monitor member)
              | false => exact absurd checked (notFailing monitor member)
        rw [worstState_eq member fun other isOther => isState ▸
            le_pendingFirstCheck (notHealthy other isOther) (notFailing other isOther),
          isState]
  · have disabled : (!(SiteHealthState.of siteId monitors).hasActiveMonitor) = true := by
      simp only [SiteHealthState.of, Bool.not_eq_true', Bool.eq_false_iff]
      exact mt anyActive.mp active
    have inactive : ∀ other ∈ monitors, stateOfMonitor other = .disabled := by
      intro other member
      exact if_neg fun isActive => active ⟨other, member, isActive⟩
    obtain ⟨monitor, member⟩ := List.exists_mem_of_ne_nil monitors configured
    have worst : ∀ other ∈ monitors, stateOfMonitor other ≤ stateOfMonitor monitor := by
      intro other isOther
      rw [inactive other isOther, inactive monitor member]
    rw [if_pos disabled, worstState_eq member worst, inactive monitor member]

/-- The summary tells the worst of the monitors it looks at. -/
theorem summaryCurrentState_eq (httpMonitors sslMonitors heartbeatMonitors : List SiteMonitor)
    : summaryCurrentState httpMonitors sslMonitors heartbeatMonitors
      = worstState (httpMonitors ++ sslMonitors ++ heartbeatMonitors) := by
  unfold summaryCurrentState
  generalize httpMonitors ++ sslMonitors ++ heartbeatMonitors = allMonitors
  simp only
  by_cases configured : allMonitors = []
  · rw [configured]
    rfl
  · -- The tests of the summary are those of the aggregates over the same monitors.
    have outcome (success : Bool)
        : ((allMonitors.filter (·.isActive)).any fun monitor =>
              monitor.lastIsSuccess = some success) = true
          ↔ boolOr ((allMonitors.filter (·.isActive)).map fun monitor =>
              monitor.lastIsSuccess.map (· == success)) = some true := by
      simp only [boolOr_filter_map, List.any_eq_true, List.mem_filter, decide_eq_true_eq,
        Option.map_eq_some_iff, beq_iff_eq, exists_eq_right, and_assoc]
    have inactive
        : (allMonitors.filter (·.isActive)).isEmpty = true
          ↔ (!(SiteHealthState.of 0 allMonitors).hasActiveMonitor) = true := by
      simp only [SiteHealthState.of, hasActiveMonitor, List.isEmpty_iff, List.filter_eq_nil_iff,
        Bool.not_eq_true', decide_eq_false_iff_not, boolOr_eq_true, List.mem_map,
        Option.some.injEq, not_exists, not_and]
    rw [← siteCurrentState_of 0 configured, siteCurrentState,
      if_neg (mt List.isEmpty_iff.mp configured)]
    simp only [inactive, outcome]
    rfl

------------------------------------------------------------
-- The monitors of a site
------------------------------------------------------------

/-- All monitors of a site, as the aggregates see them. -/
def monitorsOn (db : Database) (siteId : Int) : List SiteMonitor :=
  db.siteMonitors.rows.filter (·.siteId = siteId)

/-- The monitors of a site that its summary looks at. -/
def summaryMonitors (db : Database) (siteId : Int) : List SiteMonitor :=
  listHttpMonitorsBySiteId db siteId ++ listSslMonitorsBySiteId db siteId
    ++ listHeartbeatMonitorsBySiteId db siteId

theorem siteCurrentState_health (db : Database) (siteId : Int)
    : siteCurrentState (getSiteHealthStateById db siteId) = worstState (monitorsOn db siteId) := by
  rw [getSiteHealthStateById_eq]
  split
  · rename_i member
    obtain ⟨monitor, stored, same⟩ := List.mem_map.mp member
    exact siteCurrentState_of siteId (List.ne_nil_of_mem
      (List.mem_filter.mpr ⟨stored, decide_eq_true same⟩))
  · rename_i absent
    have empty : monitorsOn db siteId = [] :=
      List.filter_eq_nil_iff.mpr fun monitor stored same =>
        absent (List.mem_map.mpr ⟨monitor, stored, of_decide_eq_true same⟩)
    rw [empty]
    rfl

theorem mem_listMonitorsBySiteId {monitorType : SiteMonitorType} {monitor : SiteMonitor}
    {site : Site} (stored : db.sites.find? siteId = some site)
    : monitor ∈ listMonitorsBySiteId monitorType db siteId
      ↔ monitor ∈ monitorsOn db siteId ∧ monitor.monitorType = monitorType := by
  simp only [listMonitorsBySiteId, List.mem_insertionSort, monitorsOn, List.mem_filter,
    Bool.and_eq_true, decide_eq_true_eq]
  constructor
  · rintro ⟨member, ⟨onSite, ofType⟩, _⟩
    exact ⟨⟨member, onSite⟩, ofType⟩
  · rintro ⟨⟨member, onSite⟩, ofType⟩
    exact ⟨member, ⟨onSite, ofType⟩, by rw [onSite, stored, Option.isSome_some]⟩

theorem mem_summaryMonitors {monitor : SiteMonitor} {site : Site}
    (stored : db.sites.find? siteId = some site)
    : monitor ∈ summaryMonitors db siteId
      ↔ monitor ∈ monitorsOn db siteId
        ∧ monitor.monitorType ≠ .tcp ∧ monitor.monitorType ≠ .dns := by
  simp only [summaryMonitors, List.mem_append, listHttpMonitorsBySiteId, listSslMonitorsBySiteId,
    listHeartbeatMonitorsBySiteId, mem_listMonitorsBySiteId stored]
  cases monitor.monitorType <;> simp

/-- Each TCP or DNS monitor of the site is no worse than a monitor of another type on it. -/
def NoWorseUnlisted (db : Database) (siteId : Int) : Prop :=
  ∀ unlisted ∈ monitorsOn db siteId,
    (unlisted.monitorType = .tcp ∨ unlisted.monitorType = .dns)
    → ∃ listed ∈ monitorsOn db siteId,
        listed.monitorType ≠ .tcp ∧ listed.monitorType ≠ .dns
        ∧ stateOfMonitor unlisted ≤ stateOfMonitor listed

/-- The summary tells the state of the site exactly when no monitor it leaves out is the worst. -/
theorem worstState_summaryMonitors_iff {site : Site} (stored : db.sites.find? siteId = some site)
    : worstState (summaryMonitors db siteId) = worstState (monitorsOn db siteId)
      ↔ NoWorseUnlisted db siteId := by
  have subset : (summaryMonitors db siteId).map stateOfMonitor
      ⊆ (monitorsOn db siteId).map stateOfMonitor :=
    List.map_subset _ fun _ member => ((mem_summaryMonitors stored).mp member).1
  rw [worstState_eq_iff, maximum_eq_maximum_iff subset]
  constructor
  · intro bounded unlisted member _
    obtain ⟨state, isState, noWorse⟩ :=
      bounded (stateOfMonitor unlisted) (List.mem_map_of_mem member)
    obtain ⟨listed, isListed, rfl⟩ := List.mem_map.mp isState
    obtain ⟨onSite, notTcp, notDns⟩ := (mem_summaryMonitors stored).mp isListed
    exact ⟨listed, onSite, notTcp, notDns, noWorse⟩
  · intro noWorse state isState
    obtain ⟨monitor, member, rfl⟩ := List.mem_map.mp isState
    by_cases unlisted : monitor.monitorType = .tcp ∨ monitor.monitorType = .dns
    · obtain ⟨listed, onSite, notTcp, notDns, bound⟩ := noWorse monitor member unlisted
      exact ⟨_, List.mem_map_of_mem ((mem_summaryMonitors stored).mpr ⟨onSite, notTcp, notDns⟩),
        bound⟩
    · rw [not_or] at unlisted
      exact ⟨_, List.mem_map_of_mem ((mem_summaryMonitors stored).mpr ⟨member, unlisted⟩), le_rfl⟩

------------------------------------------------------------
-- The reports
------------------------------------------------------------

def HasOpenIncident (db : Database) (siteId : Int) : Prop :=
  ∃ incident ∈ db.siteMonitorIncidents.rows, incident.siteId = siteId ∧ incident.isOpen = true

/-- A response tells the state by the health of the site, and whether it has an open incident. -/
structure Reports (db : Database) (siteId : Int) (response : SiteResponse) : Prop where
  state : response.currentState = siteCurrentState (getSiteHealthStateById db siteId)
  incident : response.hasOpenIncident = true ↔ HasOpenIncident db siteId

/-- All endpoints report a site alike; an update reports the state it leaves. -/
structure EndpointsAgree (chrono : Rfc3339) (ilike : String → String → Bool) (db : Database)
    (siteId : Int)
    : Prop where
  summary
    : ∀ limit response,
        getSiteSummary chrono db siteId limit = .ok response → Reports db siteId response.site
  listing
    : ∀ query page next,
        listSites chrono ilike db query = .ok (page, next)
        → ∀ response ∈ page, response.id = siteId → Reports db siteId response
  update
    : ∀ updatedAt resolvedAt payload response after,
        updateSite chrono db updatedAt resolvedAt siteId payload = .ok (response, after)
        → Reports after siteId response

theorem contains_getSiteIdsWithOpenIncidents (db : Database) (siteId : Int)
    : (getSiteIdsWithOpenIncidents db).contains siteId = true ↔ HasOpenIncident db siteId := by
  simp only [getSiteIdsWithOpenIncidents, List.contains_iff_mem, List.mem_dedup, List.mem_map,
    List.mem_filter, HasOpenIncident, and_right_comm, and_assoc]

/-- An update opens no incident. -/
theorem hasOpenIncident_of_update {chrono : Rfc3339} {updatedAt resolvedAt : Timestamp}
    {payload : UpdateSiteRequest} {response : SiteResponse} {after : Database}
    (answered : updateSite chrono db updatedAt resolvedAt siteId payload = .ok (response, after))
    (left : HasOpenIncident after siteId)
    : HasOpenIncident db siteId := by
  obtain ⟨incident, stored, onSite, isOpen⟩ := left
  rw [(updateSite_ok answered).2.2] at stored
  cases active : payload.isActive with
  | true =>
      rw [active] at stored
      exact ⟨incident, stored, onSite, isOpen⟩
  | false =>
      rw [active] at stored
      obtain ⟨prior, wasStored, same⟩ := List.mem_map.mp stored
      split at same
      · subst same
        cases isOpen
      · subst same
        exact ⟨prior, wasStored, onSite, isOpen⟩

/-- The endpoints agree on a site exactly when it has no open incident and no TCP or DNS monitor
that is worse than its other monitors.
-/
theorem endpointsAgree_iff {chrono : Rfc3339} {ilike : String → String → Bool} {site : Site}
    (stored : db.sites.find? siteId = some site)
    : EndpointsAgree chrono ilike db siteId
      ↔ ¬HasOpenIncident db siteId ∧ NoWorseUnlisted db siteId := by
  constructor
  · intro agree
    obtain ⟨response, answered⟩ := getSiteSummary_isOk chrono stored
    obtain ⟨noIncident, state⟩ := getSiteSummary_ok answered
    have reports := agree.summary none response answered
    refine ⟨fun isOpen => ?_, (worstState_summaryMonitors_iff stored).mp ?_⟩
    · rw [reports.incident.mpr isOpen] at noIncident
      cases noIncident
    · rw [← siteCurrentState_health, ← reports.state, state, summaryCurrentState_eq]
      rfl
  · rintro ⟨noIncident, noWorse⟩
    have closed {response : SiteResponse} {other : Database}
        (unflagged : response.hasOpenIncident = false) (none : ¬HasOpenIncident other siteId)
        : response.hasOpenIncident = true ↔ HasOpenIncident other siteId :=
      iff_of_false (by rw [unflagged]; decide) none
    refine ⟨?_, ?_, ?_⟩
    · intro limit response answered
      obtain ⟨unflagged, state⟩ := getSiteSummary_ok answered
      refine ⟨?_, closed unflagged noIncident⟩
      rw [state, summaryCurrentState_eq, siteCurrentState_health]
      exact (worstState_summaryMonitors_iff stored).mpr noWorse
    · intro query page next answered response listed same
      obtain ⟨flag, state⟩ := mem_listSites answered listed
      subst same
      exact ⟨state, flag ▸ contains_getSiteIdsWithOpenIncidents db response.id⟩
    · intro updatedAt resolvedAt payload response after answered
      obtain ⟨unflagged, state, _⟩ := updateSite_ok answered
      exact ⟨state, closed unflagged (mt (hasOpenIncident_of_update answered) noIncident)⟩

instance : Decidable (HasOpenIncident db siteId) :=
  inferInstanceAs (Decidable (∃ incident ∈ db.siteMonitorIncidents.rows, _))

instance : Decidable (NoWorseUnlisted db siteId) :=
  inferInstanceAs (Decidable (∀ unlisted ∈ monitorsOn db siteId, _ → ∃ listed ∈ _, _))

/-- The shop gets a TCP monitor. -/
def shopPort : ApiRequest :=
  .upsertTcpSiteMonitor 1
    { targetHost := "shop.test", targetPort := 443, checkIntervalSeconds := 60
      maxConnectTimeMs := none, timeoutSecondsOverride := none, maxAttemptsOverride := none
      retryDelaysMsOverride := none, isActive := true }

/-- The shop gets a DNS monitor. -/
def shopRecord : ApiRequest :=
  .upsertDnsSiteMonitor 1
    { hostname := "shop.test", recordType := "A", expectedValue := none, nameserver := none
      checkIntervalSeconds := 60, timeoutSecondsOverride := none, maxAttemptsOverride := none
      retryDelaysMsOverride := none, isActive := true }

/-- A worker checks a monitor that it claimed. -/
def checkedAs (siteMonitorId : Int) (isSuccess : Bool) : List Action :=
  [.check "w1" siteMonitorId (.ensureInitialLease 60),
    .check "w1" siteMonitorId (.beginSave (completedCheck isSuccess)),
    .check "w1" siteMonitorId .lookupIncident, .check "w1" siteMonitorId .commitSave]

/-- The HTTP and the TCP monitor are up, and the DNS monitor was not checked yet. -/
def shopIsUp : List Action :=
  [.request shopPort, .claimSiteMonitors "w1" 10 60 []] ++ checkedAs 1 true ++ checkedAs 2 true
    ++ [.request shopRecord]

theorem endpointsAgree_iff_shopIsUp
    : ((smallRun shopIsUp).db.siteMonitors.rows.map fun monitor =>
          (monitor.monitorType, stateOfMonitor monitor))
        = [(.http, .healthy), (.tcp, .healthy), (.dns, .pendingFirstCheck)]
      ∧ EndpointsAgree smallChrono (fun _ _ => true) (smallRun shopIsUp).db 1 := by
  have found : ((smallRun shopIsUp).db.sites.find? 1).isSome = true := by decide +kernel
  exact ⟨by decide +kernel,
    (endpointsAgree_iff (Option.some_get found).symm).mpr (by decide +kernel)⟩

/-- The site has a TCP monitor besides its HTTP monitor, and the TCP monitor is failing. -/
def tcpOutage : List Action :=
  [.request shopPort, .claimSiteMonitors "w1" 10 60 []] ++ checkedAs 2 false

/-- The listing tells that the site fails with an open incident, the summary neither. -/
theorem summary_hides_tcpOutage
    : ¬∀ (chrono : Rfc3339) (ilike : String → String → Bool) (db : Database) (siteId : Int)
          (site : Site),
        db.sites.find? siteId = some site → EndpointsAgree chrono ilike db siteId := by
  intro agree
  let db := (smallRun tcpOutage).db
  have stored : db.sites.find? 1 = some ((db.sites.find? 1).get (by decide +kernel)) :=
    (Option.some_get _).symm
  obtain ⟨response, answered⟩ := getSiteSummary_isOk smallChrono stored
  obtain ⟨unflagged, state⟩ := getSiteSummary_ok answered
  have reports :=
    (agree smallChrono (fun _ _ => true) db 1 _ stored).summary none response answered
  have states := state.symm.trans reports.state
  revert states
  decide +kernel

end AlonSentinel.System
