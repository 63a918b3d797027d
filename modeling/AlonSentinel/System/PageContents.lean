import AlonSentinel.System.DisabledTypes
import AlonSentinel.System.ServedPages
import AlonSentinel.System.SiteStateReports

/-! What a public status page shows: nothing of other sites, the worst state of the monitors that it
lists, the state that the operators see, and outages where incidents are open.
-/

namespace AlonSentinel.System

open Api
open ConcurrentQueries
open Domain
open KeyedTable
open Sites

variable {calendar : SessionCalendar} {chrono : Rfc3339} {store first second : PageStore}
  {slug : String} {body : PublicStatusPageResponse} {page : SiteStatusPage} {site : Site}
  {siteId : Int} {monitors : List SiteMonitor} {monitor : SiteMonitor}

------------------------------------------------------------
-- Pages of one moment
------------------------------------------------------------

/-- The page where all queries are answered at one moment. -/
def pageNow (calendar : SessionCalendar) (chrono : Rfc3339) (store : PageStore) (slug : String)
    : Except ApiError PublicStatusPageResponse :=
  (getPublicStatusPage chrono slug).eval (store.answer calendar)

/-- The monitors of a site, type by type. -/
def monitorsByType (db : Database) (siteId : Int) : List SiteMonitor :=
  listMonitorsBySiteId .http db siteId ++ listMonitorsBySiteId .ssl db siteId
    ++ listMonitorsBySiteId .heartbeat db siteId ++ listMonitorsBySiteId .tcp db siteId
    ++ listMonitorsBySiteId .dns db siteId

theorem eval_listAllMonitors
    : (listAllMonitors siteId).eval (store.answer calendar)
      = monitorsByType store.tables.db siteId := by
  simp [listAllMonitors, monitorsByType, PageStore.answer]

/-- A page shows what was fetched for an enabled page of a stored site. -/
theorem pageNow_ok (answered : pageNow calendar chrono store slug = .ok body)
    : ∃ page site,
        StatusPageTables.getBySlug store.tables slug = some page
        ∧ page.isEnabled = true
        ∧ store.tables.db.sites.find? page.siteId = some site
        ∧ ((fetchPage page site).eval (store.answer calendar)).response chrono = body := by
  unfold pageNow getPublicStatusPage at answered
  rw [Inquiry.eval_bind] at answered
  cases enabled : (StatusPageTables.getBySlug store.tables slug).filter (·.isEnabled) with
  | none =>
      have isError := answered
      simp only [Inquiry.eval_query, PageStore.answer, enabled] at isError
      cases isError
  | some page =>
      simp only [Inquiry.eval_query, PageStore.answer, enabled, Inquiry.eval_bind] at answered
      obtain ⟨found, isEnabled⟩ := Option.filter_eq_some_iff.mp enabled
      cases stored : store.tables.db.sites.find? page.siteId with
      | none =>
          rw [stored] at answered
          cases answered
      | some site =>
          rw [stored] at answered
          exact ⟨page, site, found, isEnabled, stored, Except.ok.inj answered⟩

/-- The types together list every monitor of a site that exists. -/
theorem mem_monitorsByType {db : Database} (stored : db.sites.find? siteId = some site)
    : monitor ∈ monitorsByType db siteId ↔ monitor ∈ monitorsOn db siteId := by
  have listed (monitorType : SiteMonitorType)
      : monitor ∈ listMonitorsBySiteId monitorType db siteId
        ↔ monitor ∈ monitorsOn db siteId ∧ monitor.monitorType = monitorType := by
    unfold listMonitorsBySiteId monitorsOn
    rw [List.mem_insertionSort, List.mem_filter, List.mem_filter]
    constructor
    · rintro ⟨member, condition⟩
      simp only [Bool.and_eq_true, decide_eq_true_eq] at condition ⊢
      exact ⟨⟨member, condition.1.1⟩, condition.1.2⟩
    · rintro ⟨⟨member, onSite⟩, isType⟩
      have isSite := of_decide_eq_true onSite
      simp only [isSite, stored, isType, decide_true, Option.isSome_some, Bool.and_self, and_true]
      exact member
  simp only [monitorsByType, List.mem_append, listed]
  cases monitor.monitorType <;> simp

------------------------------------------------------------
-- Other sites
------------------------------------------------------------

/-- The rows of a site and the clocks are the same in two stores; rows of other sites may differ. -/
structure AgreeOnSite (siteId : Int) (first second : PageStore) : Prop where
  site : first.tables.db.sites.find? siteId = second.tables.db.sites.find? siteId
  monitors : monitorsOn first.tables.db siteId = monitorsOn second.tables.db siteId
  incidents
    : first.tables.db.siteMonitorIncidents.rows.filter (·.siteId = siteId)
      = second.tables.db.siteMonitorIncidents.rows.filter (·.siteId = siteId)
  checks
    : first.tables.db.siteMonitorChecks.rows.filter (·.isOfSite first.tables.db siteId)
      = second.tables.db.siteMonitorChecks.rows.filter (·.isOfSite second.tables.db siteId)
  databaseNow : first.databaseNow = second.databaseNow
  serverNow : first.serverNow = second.serverNow

/-- A condition that implies another one selects from what the other one selects. -/
theorem filter_of_imp {Row : Type} (rows : List Row) {narrow wide : Row → Bool}
    (implies : ∀ row ∈ rows, narrow row = true → wide row = true)
    : rows.filter narrow = (rows.filter wide).filter narrow := by
  rw [List.filter_filter]
  refine List.filter_congr fun row member => ?_
  cases isNarrow : narrow row with
  | false => rfl
  | true => rw [implies row member isNarrow, Bool.and_self]

theorem listMonitorsBySiteId_congr (agree : AgreeOnSite siteId first second)
    (monitorType : SiteMonitorType)
    : listMonitorsBySiteId monitorType first.tables.db siteId
      = listMonitorsBySiteId monitorType second.tables.db siteId := by
  have ofSite (store : PageStore)
      : store.tables.db.siteMonitors.rows.filter (fun monitor =>
            monitor.siteId = siteId && monitor.monitorType = monitorType
            && (store.tables.db.sites.find? monitor.siteId).isSome)
        = (monitorsOn store.tables.db siteId).filter fun monitor =>
            monitor.monitorType = monitorType && (store.tables.db.sites.find? siteId).isSome := by
    unfold monitorsOn
    rw [List.filter_filter]
    refine List.filter_congr fun monitor _ => ?_
    by_cases onSite : monitor.siteId = siteId <;> simp [onSite]
  unfold listMonitorsBySiteId
  rw [ofSite first, ofSite second, agree.monitors, agree.site]

theorem listIncidentsBySiteId_congr (agree : AgreeOnSite siteId first second)
    (query : IncidentCursorQuery)
    : listIncidentsBySiteId first.tables.db siteId query
      = listIncidentsBySiteId second.tables.db siteId query := by
  have ofSite (db : Database)
      : db.siteMonitorIncidents.rows.filter (fun incident =>
            incident.isListed siteId query.status
            && isBehindCursor query.cursorOpenedAt query.cursorId incident.openedAt incident.id)
        = (db.siteMonitorIncidents.rows.filter (·.siteId = siteId)).filter fun incident =>
            incident.isListed siteId query.status
            && isBehindCursor query.cursorOpenedAt query.cursorId incident.openedAt
              incident.id := by
    refine filter_of_imp _ fun incident _ listed => ?_
    simp only [SiteMonitorIncident.isListed, Bool.and_eq_true] at listed
    exact listed.1.1
  unfold listIncidentsBySiteId listNewest
  rw [ofSite first.tables.db, ofSite second.tables.db, agree.incidents]

/-- Whether a check is one of a site depends on the monitors of the site only. -/
theorem isOfSite_congr {db other : Database} (same : monitorsOn db siteId = monitorsOn other siteId)
    (check : SiteMonitorCheck)
    : check.isOfSite db siteId = check.isOfSite other siteId := by
  rw [isOfSite_eq, isOfSite_eq]
  exact congrArg (fun monitors : List SiteMonitor =>
    decide (check.siteMonitorId ∈ monitors.map (·.id))) same

/-- A condition that only checks of the site meet selects the same from both stores. -/
theorem filter_checks_congr (agree : AgreeOnSite siteId first second)
    (condition : SiteMonitorCheck → Bool)
    (ofSite
      : ∀ check, condition check = true → check.isOfSite first.tables.db siteId = true)
    : first.tables.db.siteMonitorChecks.rows.filter condition
      = second.tables.db.siteMonitorChecks.rows.filter condition := by
  have selected :=
    filter_of_imp first.tables.db.siteMonitorChecks.rows fun check _ => ofSite check
  have alsoSelected :=
    filter_of_imp second.tables.db.siteMonitorChecks.rows fun check _ met =>
      (isOfSite_congr agree.monitors check).symm.trans (ofSite check met)
  rw [selected, agree.checks]
  exact alsoSelected.symm

theorem getSiteUptimeStats_congr (agree : AgreeOnSite siteId first second) (since : Timestamp)
    : getSiteUptimeStats first.tables.db siteId since
      = getSiteUptimeStats second.tables.db siteId since := by
  unfold getSiteUptimeStats
  rw [filter_checks_congr agree _ fun check condition => (Bool.and_eq_true_iff.mp condition).1]
  simp only [isOfSite_congr agree.monitors]

/-- The checks of a monitor of the site are checks of the site. -/
theorem isOfSite_of_monitor {db : Database} {check : SiteMonitorCheck}
    (member : monitor ∈ monitorsOn db siteId) (ofMonitor : check.siteMonitorId = monitor.id)
    : check.isOfSite db siteId = true := by
  rw [isOfSite_eq, decide_eq_true_eq, ofMonitor]
  exact List.mem_map_of_mem member

theorem getMonitorUptimeStats_congr (agree : AgreeOnSite siteId first second)
    (member : monitor ∈ monitorsOn first.tables.db siteId) (since7d since30d : Timestamp)
    : getMonitorUptimeStats first.tables.db monitor.id since7d since30d
      = getMonitorUptimeStats second.tables.db monitor.id since7d since30d := by
  unfold getMonitorUptimeStats
  rw [filter_checks_congr agree]
  intro check condition
  exact isOfSite_of_monitor member (of_decide_eq_true (Bool.and_eq_true_iff.mp condition).1)

theorem getMonitorDailyUptimeStats_congr (agree : AgreeOnSite siteId first second)
    (member : monitor ∈ monitorsOn first.tables.db siteId) (now : Timestamp) (days : Int)
    : getMonitorDailyUptimeStats calendar first.tables.db now monitor.id days
      = getMonitorDailyUptimeStats calendar second.tables.db now monitor.id days := by
  unfold getMonitorDailyUptimeStats dailyUptimeBuckets
  refine List.map_congr_left fun day _ => ?_
  simp only
  rw [filter_checks_congr agree]
  intro check condition
  exact isOfSite_of_monitor member (of_decide_eq_true (Bool.and_eq_true_iff.mp condition).2)

theorem eval_sinceDays (days : Int)
    : (sinceDays days).eval (store.answer calendar) = store.serverNow - days * microsPerDay :=
  rfl

theorem eval_monitorUptime (monitorId : Int)
    : (monitorUptime monitorId).eval (store.answer calendar)
      = getMonitorUptimeStats store.tables.db monitorId
          ((sinceDays 7).eval (store.answer calendar))
          ((sinceDays 30).eval (store.answer calendar)) :=
  rfl

/-- The figures of a site and of its monitors, at one moment. -/
theorem eval_uptimeFigures (ids : List Int)
    : (uptimeFigures siteId ids).eval (store.answer calendar)
      = { site7d :=
            getSiteUptimeStats store.tables.db siteId ((sinceDays 7).eval (store.answer calendar))
          site30d :=
            getSiteUptimeStats store.tables.db siteId ((sinceDays 30).eval (store.answer calendar))
          uptimeMap := ids.zip (ids.map fun id => (monitorUptime id).eval (store.answer calendar))
          historyMap :=
            ids.zip (ids.map fun id =>
              getMonitorDailyUptimeStats calendar store.tables.db store.databaseNow id 90) } := by
  simp only [uptimeFigures, Inquiry.eval_bind, Inquiry.eval_both, Inquiry.eval_all,
    Inquiry.eval_query, List.map_map]
  rfl

theorem eval_uptimeFigures_congr (agree : AgreeOnSite siteId first second) {ids : List Int}
    (ofSite : ∀ id ∈ ids, ∃ monitor ∈ monitorsOn first.tables.db siteId, monitor.id = id)
    : (uptimeFigures siteId ids).eval (first.answer calendar)
      = (uptimeFigures siteId ids).eval (second.answer calendar) := by
  have since (days : Int)
      : (sinceDays days).eval (first.answer calendar)
        = (sinceDays days).eval (second.answer calendar) := by
    rw [eval_sinceDays, eval_sinceDays, agree.serverNow]
  have uptime
      : ids.map (fun id => (monitorUptime id).eval (first.answer calendar))
        = ids.map fun id => (monitorUptime id).eval (second.answer calendar) := by
    refine List.map_congr_left fun id member => ?_
    obtain ⟨monitor, onSite, rfl⟩ := ofSite id member
    rw [eval_monitorUptime, eval_monitorUptime, since 7, since 30]
    exact getMonitorUptimeStats_congr agree onSite _ _
  have history
      : ids.map (fun id =>
            getMonitorDailyUptimeStats calendar first.tables.db first.databaseNow id 90)
        = ids.map fun id =>
            getMonitorDailyUptimeStats calendar second.tables.db second.databaseNow id 90 := by
    refine List.map_congr_left fun id member => ?_
    obtain ⟨monitor, onSite, rfl⟩ := ofSite id member
    rw [agree.databaseNow]
    exact getMonitorDailyUptimeStats_congr agree onSite _ _
  rw [eval_uptimeFigures, eval_uptimeFigures, since 7, since 30, uptime, history,
    getSiteUptimeStats_congr agree, getSiteUptimeStats_congr agree]

/-- What is fetched for a page comes from the rows of its site. -/
theorem eval_fetchPage_congr (agree : AgreeOnSite site.id first second)
    (stored : first.tables.db.sites.find? site.id = some site)
    : (fetchPage page site).eval (first.answer calendar)
      = (fetchPage page site).eval (second.answer calendar) := by
  have listed
      : (listAllMonitors site.id).eval (first.answer calendar)
        = (listAllMonitors site.id).eval (second.answer calendar) := by
    simp only [eval_listAllMonitors, monitorsByType, listMonitorsBySiteId_congr agree]
  have figures
      : (shownFigures page site.id ((activeMonitors ((listAllMonitors site.id).eval
            (first.answer calendar))).map (·.id))).eval (first.answer calendar)
        = (shownFigures page site.id ((activeMonitors ((listAllMonitors site.id).eval
            (first.answer calendar))).map (·.id))).eval (second.answer calendar) := by
    unfold shownFigures
    split
    · simp only [Inquiry.eval_map]
      refine congrArg some (eval_uptimeFigures_congr agree fun id member => ?_)
      obtain ⟨monitor, active, rfl⟩ := List.mem_map.mp member
      have isListed := (List.mem_filter.mp active).1
      rw [eval_listAllMonitors] at isListed
      exact ⟨monitor, (mem_monitorsByType stored).mp isListed, rfl⟩
    · rfl
  simp only [fetchPage, Inquiry.eval_bind, Inquiry.eval_pure, figures]
  simp only [listed, incidentPage, Inquiry.eval_both, Inquiry.eval_query, PageStore.answer,
    listIncidentsBySiteId_congr agree, agree.serverNow]

/-- A public page discloses nothing of other sites: stores that agree on the site of the page answer
the same, whatever else they hold.
-/
theorem publicPage_disclosesOnlyItsSite (calendar : SessionCalendar) (chrono : Rfc3339)
    (found : StatusPageTables.getBySlug first.tables slug = some page)
    (alsoFound : StatusPageTables.getBySlug second.tables slug = some page)
    (agree : AgreeOnSite page.siteId first second)
    : pageNow calendar chrono first slug = pageNow calendar chrono second slug := by
  unfold pageNow getPublicStatusPage
  simp only [Inquiry.eval_bind, Inquiry.eval_query, PageStore.answer, found, alsoFound]
  cases enabled : (some page).filter (·.isEnabled) with
  | none => rfl
  | some other =>
      cases (Option.filter_eq_some_iff.mp enabled).1
      simp only [Inquiry.eval_bind, Inquiry.eval_query, PageStore.answer, ← agree.site]
      cases stored : first.tables.db.sites.find? page.siteId with
      | none => rfl
      | some site =>
          obtain ⟨_, isSite⟩ := Table.mem_of_find? stored
          rw [← isSite] at agree stored
          exact congrArg (fun data : PageData => Except.ok (data.response chrono))
            (eval_fetchPage_congr agree stored)

/-- A failed check of the monitor of the second site. -/
def neighbourCheck (id : Int) : SiteMonitorCheck :=
  { smallCheck 1000000 false id with siteMonitorId := 2, urlChecked := "https://next.test" }

/-- The incident that it opened. -/
def neighbourIncident : Int → SiteMonitorIncident :=
  OpenIncidentParams.row
    { siteMonitorId := 2, monitorType := .http, targetUrl := "https://next.test"
      expectedStatusCode := 200, checkId := 5, checkedAt := 1000000, statusCode := none
      failureReason := some "timeout", errorMessage := none }
    1000000 2

/-- A second site, which is not that of the page, with a monitor that has failed. -/
def withNeighbour : PageStore :=
  { smallPages true with
    tables :=
      { (smallPages true).tables with
        db :=
          { smallHistory with
            sites :=
              smallHistory.sites.insert
                (fun id =>
                  { id, name := "Neighbour", baseUrl := "https://next.test", isActive := true
                    createdAt := 0, updatedAt := 0 })
                fun _ => rfl
            siteMonitors :=
              smallHistory.siteMonitors.insert
                (fun id =>
                  { SiteMonitor.withDefaults 0 2 .http "https://next.test" id with
                    lastCheckedAt := some 1000000, lastIsSuccess := some false })
                fun _ => rfl
            siteMonitorChecks := smallHistory.siteMonitorChecks.insert neighbourCheck
            siteMonitorIncidents := smallHistory.siteMonitorIncidents.insert neighbourIncident } } }

theorem publicPage_disclosesOnlyItsSite_withNeighbour
    : pageNow (.utc toString) smallChrono (smallPages true) "shop"
        = pageNow (.utc toString) smallChrono withNeighbour "shop"
      ∧ withNeighbour.tables.db.siteMonitors.rows.map (·.siteId) = [1, 2]
      ∧ withNeighbour.tables.db.siteMonitorChecks.rows.map (·.siteMonitorId) = [1, 1, 1, 1, 2]
      ∧ HasOpenIncident withNeighbour.tables.db 2 :=
  ⟨publicPage_disclosesOnlyItsSite (.utc toString) smallChrono rfl rfl
      ⟨rfl, rfl, rfl, rfl, rfl, rfl⟩,
    by decide +kernel, by decide +kernel, by decide +kernel⟩

------------------------------------------------------------
-- The state of a site
------------------------------------------------------------

/-- How bad a state is. -/
def severityOf : MonitorStatus → Nat
  | .paused => 0
  | .up => 1
  | .pending => 2
  | .degraded => 3
  | .down => 4

/-- The state of a site whose worst monitor is that bad. -/
def overallOf : Nat → OverallStatus
  | 1 => .operational
  | 3 => .degraded
  | 4 => .outage
  | _ => .unknown

/-- The greatest severity, or that of a paused monitor. -/
def worstSeverity (statuses : List MonitorStatus) : Nat := (statuses.map severityOf).foldr max 0

/-- What no state exceeds, the worst one does not exceed, by induction over the states. -/
theorem worstSeverity_le {statuses : List MonitorStatus} {bound : Nat}
    (worst : ∀ status ∈ statuses, severityOf status ≤ bound)
    : worstSeverity statuses ≤ bound := by
  induction statuses with
  | nil => exact Nat.zero_le _
  | cons status rest ih =>
      obtain ⟨here, later⟩ := List.forall_mem_cons.mp worst
      exact max_le here (ih later)

theorem le_worstSeverity {statuses : List MonitorStatus} {status : MonitorStatus}
    (member : status ∈ statuses)
    : severityOf status ≤ worstSeverity statuses := by
  induction member with
  | head rest => exact le_max_left _ _
  | tail other _ ih => exact ih.trans (le_max_right _ _)

/-- A state that is there and that none exceeds is the worst. -/
theorem worstSeverity_eq {statuses : List MonitorStatus} {status : MonitorStatus}
    (member : status ∈ statuses) (worst : ∀ other ∈ statuses, severityOf other ≤ severityOf status)
    : worstSeverity statuses = severityOf status :=
  (worstSeverity_le worst).antisymm (le_worstSeverity member)

/-- The state of a site by the states of its monitors. -/
def overallStatus (statuses : List MonitorStatus) : OverallStatus :=
  if ∀ status ∈ statuses, status = .paused then .unknown
  else if .down ∈ statuses then .outage
  else if .degraded ∈ statuses then .degraded
  else if .pending ∈ statuses then .unknown
  else .operational

/-- Where no other state is left, a monitor is up. -/
theorem mem_up {statuses : List MonitorStatus} (notPaused : ¬∀ status ∈ statuses, status = .paused)
    (notDown : .down ∉ statuses) (notDegraded : .degraded ∉ statuses)
    (notPending : .pending ∉ statuses)
    : .up ∈ statuses := by
  push Not at notPaused
  obtain ⟨status, member, active⟩ := notPaused
  cases status with
  | down => exact absurd member notDown
  | degraded => exact absurd member notDegraded
  | pending => exact absurd member notPending
  | paused => exact absurd rfl active
  | up => exact member

/-- It is the state that the worst monitor stands for. -/
theorem overallStatus_eq (statuses : List MonitorStatus)
    : overallStatus statuses = overallOf (worstSeverity statuses) := by
  unfold overallStatus
  split
  · rename_i paused
    have least : worstSeverity statuses ≤ 0 :=
      worstSeverity_le fun status member => (paused status member) ▸ le_rfl
    rw [Nat.le_zero.mp least]
    rfl
  · rename_i notPaused
    split
    · rename_i down
      rw [worstSeverity_eq down fun other _ => by cases other <;> decide]
      rfl
    · rename_i notDown
      split
      · rename_i degraded
        rw [worstSeverity_eq degraded fun other member => ?_]
        · rfl
        · cases other with
          | down => exact absurd member notDown
          | paused | up | pending | degraded => decide
      · rename_i notDegraded
        split
        · rename_i pending
          rw [worstSeverity_eq pending fun other member => ?_]
          · rfl
          · cases other with
            | down => exact absurd member notDown
            | degraded => exact absurd member notDegraded
            | paused | up | pending => decide
        · rename_i notPending
          have up := mem_up notPaused notDown notDegraded notPending
          rw [worstSeverity_eq up fun other isOther => ?_]
          · rfl
          · cases other with
            | down => exact absurd isOther notDown
            | degraded => exact absurd isOther notDegraded
            | pending => exact absurd isOther notPending
            | paused | up => decide

/-- What a state tells of its monitor. -/
def Tells (monitor : SiteMonitor) : MonitorStatus → Prop
  | .paused => monitor.isActive = false
  | .pending => monitor.isActive = true ∧ monitor.lastIsSuccess = none
  | .down => monitor.isActive = true ∧ monitor.lastIsSuccess = some false
  | .degraded | .up => monitor.isActive = true ∧ monitor.lastIsSuccess = some true

theorem tells_monitorStatus (monitor : SiteMonitor) : Tells monitor (monitorStatus monitor) := by
  unfold monitorStatus
  cases active : monitor.isActive with
  | false => exact active
  | true =>
      cases outcome : monitor.lastIsSuccess with
      | none => exact ⟨active, outcome⟩
      | some success =>
          cases success with
          | false => exact ⟨active, outcome⟩
          | true => cases isSlow monitor <;> exact ⟨active, outcome⟩

theorem monitorStatus_eq_paused : monitorStatus monitor = .paused ↔ monitor.isActive = false := by
  have tells := tells_monitorStatus monitor
  cases isStatus : monitorStatus monitor <;> rw [isStatus] at tells <;> simp_all [Tells]

theorem monitorStatus_eq_down
    : monitorStatus monitor = .down
      ↔ monitor.isActive = true ∧ monitor.lastIsSuccess = some false := by
  have tells := tells_monitorStatus monitor
  cases isStatus : monitorStatus monitor <;> rw [isStatus] at tells <;> simp_all [Tells]

theorem monitorStatus_eq_pending
    : monitorStatus monitor = .pending
      ↔ monitor.isActive = true ∧ monitor.lastIsSuccess = none := by
  have tells := tells_monitorStatus monitor
  cases isStatus : monitorStatus monitor <;> rw [isStatus] at tells <;> simp_all [Tells]

theorem mem_activeMonitors
    : monitor ∈ activeMonitors monitors ↔ monitor ∈ monitors ∧ monitor.isActive = true :=
  List.mem_filter

theorem active_of_degraded (isDegraded : monitorStatus monitor = .degraded)
    : monitor.isActive = true := by
  have tells := tells_monitorStatus monitor
  rw [isDegraded] at tells
  exact tells.1

/-- Without a failure, all active monitors have succeeded unless one is still to be checked. -/
theorem all_succeeded_iff (notDown : .down ∉ monitors.map monitorStatus)
    : ((activeMonitors monitors).all fun monitor => monitor.lastIsSuccess = some true) = true
      ↔ .pending ∉ monitors.map monitorStatus := by
  simp only [List.all_eq_true, mem_activeMonitors, decide_eq_true_eq, List.mem_map,
    monitorStatus_eq_pending, monitorStatus_eq_down] at notDown ⊢
  constructor
  · rintro succeeded ⟨monitor, member, active, unchecked⟩
    rw [succeeded monitor ⟨member, active⟩] at unchecked
    cases unchecked
  · rintro notPending monitor ⟨member, active⟩
    cases outcome : monitor.lastIsSuccess with
    | none => exact absurd ⟨monitor, member, active, outcome⟩ notPending
    | some success =>
        cases success with
        | false => exact absurd ⟨monitor, member, active, outcome⟩ notDown
        | true => rfl

/-- The state of a site is decided by the states that visitors see of its monitors. -/
theorem deriveOverallStatus_eq (monitors : List SiteMonitor)
    : deriveOverallStatus (activeMonitors monitors)
      = overallStatus (monitors.map monitorStatus) := by
  have empty
      : (activeMonitors monitors).isEmpty = true
        ↔ ∀ status ∈ monitors.map monitorStatus, status = .paused := by
    simp only [List.forall_mem_map, monitorStatus_eq_paused, List.isEmpty_iff, activeMonitors,
      List.filter_eq_nil_iff, Bool.not_eq_true]
  have failed
      : ((activeMonitors monitors).any fun monitor => monitor.lastIsSuccess = some false) = true
        ↔ .down ∈ monitors.map monitorStatus := by
    simp only [List.mem_map, monitorStatus_eq_down, List.any_eq_true, mem_activeMonitors,
      decide_eq_true_eq, and_assoc]
  have slow
      : ((activeMonitors monitors).any (monitorStatus · = .degraded)) = true
        ↔ .degraded ∈ monitors.map monitorStatus := by
    simp only [List.mem_map, List.any_eq_true, mem_activeMonitors, decide_eq_true_eq]
    refine exists_congr fun monitor => ?_
    exact ⟨fun ⟨⟨member, _⟩, isDegraded⟩ => ⟨member, isDegraded⟩, fun ⟨member, isDegraded⟩ =>
      ⟨⟨member, active_of_degraded isDegraded⟩, isDegraded⟩⟩
  unfold deriveOverallStatus overallStatus
  refine if_congr empty rfl (if_ctx_congr failed (fun _ => rfl) fun notDown => ?_)
  refine if_congr slow rfl ?_
  rw [if_congr (all_succeeded_iff notDown) rfl rfl, ite_not]

------------------------------------------------------------
-- Served pages
------------------------------------------------------------

/-- Whatever is changed while a page is rendered, it shows the state of the worst monitor that it
lists, and neither monitors nor figures that are switched off.
-/
theorem servedPage_isConsistent {history older : List PageServer} {before after : PageServer}
    {id : Nat}
    (run : TransitionSystem.History (pageStep calendar chrono) PageServer.Starts history)
    (passes : TransitionSystem.Passes history before after older)
    (answers : AnswersPage before after id slug body)
    : (body.showMonitorDetails = true
        → body.overallStatus = overallOf (worstSeverity (body.monitors.map (·.status))))
      ∧ (body.showMonitorDetails = false → body.monitors = [])
      ∧ (body.showUptimePercentages = false
          → body.uptime7d = none
            ∧ body.uptime30d = none
            ∧ ∀ monitor ∈ body.monitors,
                monitor.uptime7d = none
                ∧ monitor.uptime30d = none
                ∧ monitor.uptimeHistory = [])
      ∧ body.openIncidents.length ≤ 10
      ∧ body.incidentHistory.length ≤ 10 := by
  obtain ⟨last, stretch, _, _, rendered⟩ := renderedIn_of_answers run passes answers
  obtain ⟨page, site, data, _, _, gives, rfl⟩ := fetched_of_gives rendered.gives
  have fetched := fetched_of_fetchPage gives
  have bounded {status : SiteMonitorIncidentStatus} {incidents : List SiteMonitorIncident}
      (listed : (incidentPage site.id status).Gives (knownIn calendar (last :: stretch)) incidents)
      : incidents.length ≤ 10 := by
    obtain ⟨server, _, rfl⟩ := listed
    exact List.length_take_le _ _
  refine ⟨fun details => ?_, fun hidden => ?_, fun hidden => ?_, ?_, ?_⟩
  · have shown : (data.response chrono).monitors
        = data.allMonitors.map (publicMonitorStatus chrono data.figures) :=
      if_pos details
    rw [shown, List.map_map, ← overallStatus_eq]
    exact deriveOverallStatus_eq data.allMonitors
  · exact if_neg (ne_true_of_eq_false hidden)
  · have noFigures : data.figures = none := fetched.figures (fetched.statusPage ▸ hidden)
    refine ⟨congrArg (Option.bind · _) noFigures, congrArg (Option.bind · _) noFigures, ?_⟩
    intro monitor member
    simp only [PageData.response] at member
    split at member
    · obtain ⟨source, _, rfl⟩ := List.mem_map.mp member
      simp [publicMonitorStatus, noFigures]
    · cases member
  · exact (List.length_map ..).trans_le (bounded fetched.openIncidents)
  · exact (List.length_filterMap_le ..).trans (bounded fetched.resolvedIncidents)

theorem servedPage_isConsistent_firstVisit
    : ∃ (before after : PageServer) (body : PublicStatusPageResponse),
        AnswersPage before after 0 "shop" body
        ∧ body.openIncidents.length ≤ 10
        ∧ body.incidentHistory.length ≤ 10 := by
  obtain ⟨history, before, after, older, body, run, passes, answers⟩ := exists_firstAnswer
  obtain ⟨_, _, _, bounded⟩ := servedPage_isConsistent run passes answers
  exact ⟨before, after, body, answers, bounded⟩

------------------------------------------------------------
-- What operators see
------------------------------------------------------------

theorem stateOfMonitor_eq (success : Bool)
    : stateOfMonitor monitor = (if success then .healthy else .failing)
      ↔ monitor.isActive = true ∧ monitor.lastIsSuccess = some success :=
  ⟨active_of_stateOfMonitor, fun ⟨active, checked⟩ => stateOfMonitor_of_active active checked⟩

/-- The state of a site that has a monitor is that of one of them. -/
theorem exists_stateOfMonitor (configured : worstState monitors ≠ .notConfigured)
    : ∃ monitor ∈ monitors, stateOfMonitor monitor = worstState monitors := by
  unfold worstState at configured ⊢
  cases attained : (monitors.map stateOfMonitor).maximum with
  | bot =>
      rw [attained] at configured
      exact absurd rfl configured
  | coe state =>
      obtain ⟨monitor, member, isState⟩ := List.mem_map.mp (List.maximum_mem attained)
      exact ⟨monitor, member, isState⟩

/-- A site fails exactly if one of its monitors is down. -/
theorem worstState_eq_failing
    : worstState monitors = .failing ↔ .down ∈ monitors.map monitorStatus := by
  rw [List.mem_map]
  constructor
  · intro isFailing
    obtain ⟨monitor, member, isState⟩ := exists_stateOfMonitor (by rw [isFailing]; decide)
    rw [isFailing] at isState
    exact ⟨monitor, member, monitorStatus_eq_down.mpr ((stateOfMonitor_eq false).mp isState)⟩
  · rintro ⟨monitor, member, isDown⟩
    have failing : stateOfMonitor monitor = .failing :=
      (stateOfMonitor_eq false).mpr (monitorStatus_eq_down.mp isDown)
    rw [worstState_eq member fun other _ => failing ▸ le_failing _, failing]

/-- A site without a failing monitor is healthy if one of them has succeeded. -/
theorem worstState_of_succeeded (notDown : .down ∉ monitors.map monitorStatus)
    (member : monitor ∈ monitors)
    (succeeded : monitor.isActive = true ∧ monitor.lastIsSuccess = some true)
    : worstState monitors = .healthy := by
  have healthy : stateOfMonitor monitor = .healthy := (stateOfMonitor_eq true).mpr succeeded
  rw [worstState_eq member fun other isOther => ?_, healthy]
  rw [healthy]
  refine le_healthy fun failing => notDown ?_
  exact List.mem_map.mpr
    ⟨other, isOther, monitorStatus_eq_down.mpr ((stateOfMonitor_eq false).mp failing)⟩

/-- A monitor that is up or degraded has succeeded. -/
theorem exists_succeeded {status : MonitorStatus} (good : status = .up ∨ status = .degraded)
    (member : status ∈ monitors.map monitorStatus)
    : ∃ monitor ∈ monitors, monitor.isActive = true ∧ monitor.lastIsSuccess = some true := by
  obtain ⟨monitor, isMonitor, rfl⟩ := List.mem_map.mp member
  have tells := tells_monitorStatus monitor
  rcases good with same | same
  · rw [same] at tells
    exact ⟨monitor, isMonitor, tells⟩
  · rw [same] at tells
    exact ⟨monitor, isMonitor, tells⟩

theorem overallStatus_eq_outage {statuses : List MonitorStatus}
    : overallStatus statuses = .outage ↔ .down ∈ statuses := by
  unfold overallStatus
  constructor
  · intro isOutage
    split at isOutage
    · cases isOutage
    · split at isOutage
      · assumption
      · split at isOutage
        · cases isOutage
        · split at isOutage <;> cases isOutage
  · intro down
    have notPaused : ¬∀ status ∈ statuses, status = .paused := fun paused => nomatch paused _ down
    rw [if_neg notPaused, if_pos down]

/-- A site looks well only if a monitor does. -/
theorem mem_of_overallStatus {statuses : List MonitorStatus}
    (well : overallStatus statuses = .operational ∨ overallStatus statuses = .degraded)
    : .down ∉ statuses ∧ (.up ∈ statuses ∨ .degraded ∈ statuses) := by
  unfold overallStatus at well
  split at well
  · simp at well
  · rename_i notPaused
    split at well
    · simp at well
    · rename_i notDown
      split at well
      · rename_i degraded
        exact ⟨notDown, .inr degraded⟩
      · rename_i notDegraded
        split at well
        · simp at well
        · rename_i notPending
          exact ⟨notDown, .inl (mem_up notPaused notDown notDegraded notPending)⟩

/-- The state on a page is decided by the states of the monitors of its site. -/
theorem pageNow_overallStatus (answered : pageNow calendar chrono store slug = .ok body)
    : ∃ (page : SiteStatusPage) (statuses : List MonitorStatus),
        StatusPageTables.getBySlug store.tables slug = some page
        ∧ body.overallStatus = overallStatus statuses
        ∧ ∀ status,
            status ∈ statuses
            ↔ status ∈ (monitorsOn store.tables.db page.siteId).map monitorStatus := by
  obtain ⟨page, site, found, _, stored, rfl⟩ := pageNow_ok answered
  obtain ⟨_, isSite⟩ := Table.mem_of_find? stored
  rw [← isSite] at stored
  refine ⟨page, (monitorsByType store.tables.db site.id).map monitorStatus, found, ?_, ?_⟩
  · rw [← deriveOverallStatus_eq, ← eval_listAllMonitors]
    rfl
  · intro status
    rw [← isSite]
    simp only [List.mem_map, mem_monitorsByType stored]

/-- What a page says of a site agrees with a state that operators see of it: an outage is a failing
site, and only a healthy site looks operational or degraded.
-/
structure ToldAlike (state : SiteState) (overall : OverallStatus) : Prop where
  outage : overall = .outage ↔ state = .failing
  healthy : overall = .operational ∨ overall = .degraded → state = .healthy

/-- The state on the page of a site and its health are decided by the same monitors. -/
theorem toldAlike_health {statuses : List MonitorStatus} {db : Database}
    (listed
      : ∀ status,
          status ∈ statuses ↔ status ∈ (monitorsOn db siteId).map monitorStatus)
    : ToldAlike (siteCurrentState (getSiteHealthStateById db siteId))
        (overallStatus statuses) := by
  rw [siteCurrentState_health]
  refine ⟨?_, fun well => ?_⟩
  · rw [worstState_eq_failing, overallStatus_eq_outage]
    exact listed .down
  · obtain ⟨notDown, good⟩ := mem_of_overallStatus well
    obtain ⟨monitor, member, isGood⟩ :
        ∃ monitor ∈ monitorsOn db siteId,
          monitor.isActive = true ∧ monitor.lastIsSuccess = some true := by
      rcases good with up | degraded
      · exact exists_succeeded (.inl rfl) ((listed .up).mp up)
      · exact exists_succeeded (.inr rfl) ((listed .degraded).mp degraded)
    exact worstState_of_succeeded (mt (listed .down).mpr notDown) member isGood

/-- Visitors and operators are told the same of a site: the page agrees with the site's health, and
with every response that lists the site.
-/
theorem publicPage_agreesWithOperators
    (answered : pageNow calendar chrono store slug = .ok body)
    : ∃ page,
        StatusPageTables.getBySlug store.tables slug = some page
        ∧ ToldAlike (siteCurrentState (getSiteHealthStateById store.tables.db page.siteId))
            body.overallStatus
        ∧ ∀ ilike query responses next,
            listSites chrono ilike store.tables.db query = .ok (responses, next)
            → ∀ response ∈ responses,
                response.id = page.siteId
                → ToldAlike response.currentState body.overallStatus := by
  obtain ⟨page, statuses, found, isOverall, listed⟩ := pageNow_overallStatus answered
  have agrees := toldAlike_health listed
  rw [← isOverall] at agrees
  refine ⟨page, found, agrees, ?_⟩
  intro ilike query responses next listing response member sameSite
  rw [(mem_listSites listing member).2, sameSite]
  exact agrees

/-- The monitor of the small deployment has failed. -/
def outageWorld : World := smallRun (claimActions "w1" ++ saveActions "w1" false)

def outagePages : PageStore where
  tables :=
    { db := outageWorld.db
      pages := .insert .empty (shopPage true) fun _ => rfl }
  databaseNow := 0
  serverNow := 0

theorem outagePages_shown
    : ∃ body, pageNow (.utc toString) smallChrono outagePages "shop" = .ok body := by
  have answers : (pageNow (.utc toString) smallChrono outagePages "shop").isOk = true := by
    decide +kernel
  cases isPage : pageNow (.utc toString) smallChrono outagePages "shop" with
  | error error =>
      rw [isPage] at answers
      cases answers
  | ok body => exact ⟨body, rfl⟩

/-- The one site of the small deployment, as operators see it. -/
def failingShop : SiteResponse where
  id := 1
  name := "shop"
  baseUrl := "https://shop.test"
  isActive := true
  hasHttpMonitor := true
  httpMonitorStatus := .active
  hasOpenIncident := true
  currentState := .failing
  createdAt := smallChrono.toRfc3339 0
  updatedAt := smallChrono.toRfc3339 0

theorem publicPage_agreesWithOperators_outagePages
    : listSites smallChrono (fun _ _ => true) outageWorld.db ⟨none, none, none⟩
        = .ok ([failingShop], none)
      ∧ ∃ body,
          pageNow (.utc toString) smallChrono outagePages "shop" = .ok body
          ∧ body.overallStatus = .outage := by
  have listing
      : listSites smallChrono (fun _ _ => true) outageWorld.db ⟨none, none, none⟩
        = .ok ([failingShop], none) :=
    rfl
  obtain ⟨body, isPage⟩ := outagePages_shown
  obtain ⟨page, found, _, listed⟩ := publicPage_agreesWithOperators isPage
  have isPageOfShop : failingShop.id = page.siteId := congrArg (·.siteId) (Option.some.inj found)
  have agrees := listed _ _ _ _ listing failingShop (List.mem_singleton_self _) isPageOfShop
  exact ⟨listing, body, isPage, agrees.outage.mpr rfl⟩

------------------------------------------------------------
-- Open incidents
------------------------------------------------------------

/-- In a system that has run, an open incident of an active monitor shows as an outage. -/
theorem openIncident_showsOutage {config : Notifications.DeliveryConfig} {world : World}
    {incident : SiteMonitorIncident} (reached : Reached config world)
    (isWorld : store.tables.db = world.db)
    (answered : pageNow calendar chrono store slug = .ok body)
    (found : StatusPageTables.getBySlug store.tables slug = some page)
    (stored : incident ∈ world.db.siteMonitorIncidents.rows)
    (onSite : incident.siteId = page.siteId) (isOpen : incident.isOpen = true)
    (isMonitor : world.db.siteMonitors.find? incident.siteMonitorId = some monitor)
    (active : monitor.isActive = true)
    : body.overallStatus = .outage := by
  obtain ⟨other, statuses, alsoFound, isOverall, listed⟩ := pageNow_overallStatus answered
  cases found.symm.trans alsoFound
  obtain ⟨failing, isFailing, failed⟩ := openMeansFailed reached incident stored isOpen
  obtain ⟨owner, isOwner, sameSite⟩ := incidentsSited_of_reached reached incident stored
  cases isMonitor.symm.trans isFailing
  cases isMonitor.symm.trans isOwner
  have member : monitor ∈ monitorsOn store.tables.db page.siteId := by
    rw [isWorld]
    exact List.mem_filter.mpr
      ⟨(Table.mem_of_find? isMonitor).1, decide_eq_true (sameSite.symm.trans onSite)⟩
  have isDown : monitorStatus monitor = .down := monitorStatus_eq_down.mpr ⟨active, failed⟩
  rw [isOverall]
  have isShown := (listed .down).mpr (List.mem_map.mpr ⟨monitor, member, isDown⟩)
  exact overallStatus_eq_outage.mpr isShown

def outageIncident : SiteMonitorIncident :=
  outageWorld.db.siteMonitorIncidents.rows.head (by decide +kernel)

def outageMonitor : SiteMonitor := outageWorld.db.siteMonitors.rows.head (by decide +kernel)

theorem outageMonitor_found
    : outageWorld.db.siteMonitors.find? outageIncident.siteMonitorId = some outageMonitor :=
  rfl

theorem openIncident_showsOutage_outagePages
    : ∃ body,
        pageNow (.utc toString) smallChrono outagePages "shop" = .ok body
        ∧ body.overallStatus = .outage := by
  obtain ⟨body, isPage⟩ := outagePages_shown
  have reached : Reached smallConfig outageWorld := smallRun_reached
  have stored : outageIncident ∈ outageWorld.db.siteMonitorIncidents.rows := List.head_mem _
  refine ⟨body, isPage, ?_⟩
  exact openIncident_showsOutage reached rfl isPage rfl stored (by decide +kernel)
    (by decide +kernel) outageMonitor_found (by decide +kernel)

end AlonSentinel.System
