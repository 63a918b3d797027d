import AlonSentinel.Api.UptimeHandlers
import AlonSentinel.System.CursorPagination

/-! The figures of uptime agree with each other: the days of a chart with the checks they show,
those of a site with those of its monitors, and the chart of a monitor with its windows of days.
-/

namespace AlonSentinel.System

open Api
open CountedParts
open Domain
open MachineInteger

variable {calendar : SessionCalendar} {db : Database} {now : Timestamp} {siteId : Int}

/-- The check falls on one of the days. -/
def isWithinDays (calendar : SessionCalendar) (first last : Int) (check : SiteMonitorCheck)
    : Bool :=
  decide (calendar.midnight first ≤ check.checkedAt)
  && decide (check.checkedAt < calendar.midnight (last + 1))

theorem isWithinDays_iff {first last : Int} {check : SiteMonitorCheck}
    : isWithinDays calendar first last check = true
      ↔ calendar.midnight first ≤ check.checkedAt
        ∧ check.checkedAt < calendar.midnight (last + 1) := by
  simp only [isWithinDays, Bool.and_eq_true, decide_eq_true_eq]

/-- The total of a bucket, by its place in the chart. -/
def totalAt (buckets : List DailyUptimeBucket) (index : Nat) : Nat :=
  (buckets[index]?.map (·.totalChecks)).getD 0

def successfulAt (buckets : List DailyUptimeBucket) (index : Nat) : Nat :=
  (buckets[index]?.map (·.successfulChecks)).getD 0

/-- The last buckets of a chart, with their totals added up. -/
def totalOfLast (buckets : List DailyUptimeBucket) (count : Nat) : Nat :=
  ((buckets.drop (buckets.length - count)).map (·.totalChecks)).sum

------------------------------------------------------------
-- Days
------------------------------------------------------------

/-- A number of days that the interface accepts is not cut off. -/
theorem truncateI32_days {days : Int} (least : 0 ≤ days) (most : days ≤ 90)
    : truncateI32 days = days := by
  unfold truncateI32
  exact Int.bmod_eq_of_le_mul_two (by omega) (by omega)

/-- Consecutive days that end today. -/
theorem getElem?_daySeries {days : Int} {index : Nat} (within : index < days.toNat)
    : (daySeries now days)[index]? = some (utcDate now - (days - 1) + index) := by
  unfold daySeries
  rw [List.getElem?_map, List.getElem?_range within]
  rfl

/-- The last days of a series are a shorter series. -/
theorem drop_daySeries {days : Int} {count : Nat} (fits : (count : Int) ≤ days)
    : (daySeries now days).drop (days.toNat - count) = daySeries now count := by
  refine List.ext_getElem? fun index => ?_
  rw [List.getElem?_drop]
  rcases lt_or_ge index count with inside | outside
  · rw [getElem?_daySeries (by omega), getElem?_daySeries (by omega)]
    exact congrArg some (by omega)
  · rw [List.getElem?_eq_none (by rw [length_daySeries]; omega),
      List.getElem?_eq_none (by rw [length_daySeries]; omega)]

/-- A chart of the interface shows each check of its days once. -/
theorem dailyUptime_showsEachCheckOnce (calendar : SessionCalendar) (db : Database)
    (now : Timestamp) {siteId : Int} {site : Site}
    (stored : ensureSiteExists db siteId = .ok site) (days : Option Int)
    : ∃ response,
        getSiteUptimeDaily calendar db now siteId days = .ok response
        ∧ 7 ≤ response.days ∧ response.days ≤ 90
        ∧ response.buckets.map (·.date)
          = (List.range response.days.toNat).map
              (fun (offset : Nat) =>
                calendar.toChar (utcDate now - (response.days - 1) + offset))
        ∧ (response.buckets.map (·.totalChecks)).sum
          = db.siteMonitorChecks.rows.countP
              (fun check =>
                isWithinDays calendar (utcDate now - (response.days - 1)) (utcDate now) check
                && check.isOfSite db siteId)
        ∧ (response.buckets.map (·.successfulChecks)).sum
          = db.siteMonitorChecks.rows.countP
              (fun check =>
                isWithinDays calendar (utcDate now - (response.days - 1)) (utcDate now) check
                && (check.isOfSite db siteId && check.isSuccess))
        ∧ ∀ bucket ∈ response.buckets,
            bucket.successfulChecks ≤ bucket.totalChecks
            ∧ (bucket.uptimePercent = none ↔ bucket.totalChecks = 0) := by
  obtain ⟨least, most⟩ := clampDays_bounds days
  have kept := truncateI32_days (by omega) most
  refine ⟨{
    days := clampDays days
    buckets := (getDailyUptimeStats calendar db now siteId (clampDays days)).map .from },
    ?_, least, most, ?_, ?_, ?_, ?_⟩
  · unfold getSiteUptimeDaily
    rw [stored]
    rfl
  · simp only [getDailyUptimeStats, dailyUptimeBuckets, kept, daySeries, List.map_map]
    rfl
  · simp only [getDailyUptimeStats, dailyUptimeBuckets_eq, kept, List.map_map]
    exact sum_countP_days calendar db.siteMonitorChecks.rows now (by omega) (·.isOfSite db siteId)
  · simp only [getDailyUptimeStats, dailyUptimeBuckets_eq, kept, List.map_map]
    exact sum_countP_days calendar db.siteMonitorChecks.rows now (by omega) fun check =>
      check.isOfSite db siteId && check.isSuccess
  · intro bucket member
    obtain ⟨counted, isCounted, rfl⟩ := List.mem_map.mp member
    refine ⟨?_, pct_eq_none⟩
    obtain ⟨day, _, rfl⟩ := List.mem_map.mp isCounted
    exact List.countP_le_length

theorem smallHistory_site
    : ensureSiteExists smallHistory 1 = .ok (smallHistory.sites.rows.head (by decide)) :=
  rfl

theorem dailyUptime_smallHistory
    : ∃ response,
        getSiteUptimeDaily (.utc toString) smallHistory 0 1 none = .ok response
        ∧ (response.buckets.map (·.totalChecks)).sum = 4 := by
  obtain ⟨response, answered, _, _, _, total, _⟩ :=
    dailyUptime_showsEachCheckOnce (.utc toString) smallHistory 0 smallHistory_site none
  refine ⟨response, answered, total.trans ?_⟩
  cases answered
  decide +kernel

------------------------------------------------------------
-- Monitors
------------------------------------------------------------

/-- A figure of a site is the sum of that of its monitors, the paused ones included. -/
theorem siteFigures_areSumsOfMonitors (calendar : SessionCalendar) (db : Database) (now : Timestamp)
    (siteId days : Int) {since7d since30d : Timestamp} (within : since30d ≤ since7d)
    : let monitors := db.siteMonitors.rows.filter (·.siteId = siteId)
      let stats := fun monitor : SiteMonitor =>
        getMonitorUptimeStats db monitor.id since7d since30d
      let chart := getDailyUptimeStats calendar db now siteId days
      let chartOf := fun monitor : SiteMonitor =>
        getMonitorDailyUptimeStats calendar db now monitor.id days
      getSiteUptimeStats db siteId since7d
        = ⟨(monitors.map fun monitor => (stats monitor).total7d).sum,
            (monitors.map fun monitor => (stats monitor).success7d).sum⟩
      ∧ getSiteUptimeStats db siteId since30d
        = ⟨(monitors.map fun monitor => (stats monitor).total30d).sum,
            (monitors.map fun monitor => (stats monitor).success30d).sum⟩
      ∧ (∀ monitor, (chartOf monitor).map (·.date) = chart.map (·.date))
      ∧ ∀ index,
          totalAt chart index
            = (monitors.map fun monitor => totalAt (chartOf monitor) index).sum
          ∧ successfulAt chart index
            = (monitors.map fun monitor => successfulAt (chartOf monitor) index).sum := by
  simp only [getMonitorUptimeStats_eq _ within, sum_countP_monitors]
  refine ⟨?_, ?_, fun monitor => ?_, fun index => ?_⟩
  · rw [← totalChecks_getSiteUptimeStats, ← successfulChecks_getSiteUptimeStats]
  · rw [← totalChecks_getSiteUptimeStats, ← successfulChecks_getSiteUptimeStats]
  · simp only [getMonitorDailyUptimeStats, getDailyUptimeStats, dailyUptimeBuckets, List.map_map]
    rfl
  · simp only [totalAt, successfulAt, getMonitorDailyUptimeStats, getDailyUptimeStats,
      dailyUptimeBuckets_eq, List.getElem?_map]
    cases (daySeries now (truncateI32 days))[index]? with
    | none => simp
    | some day =>
        constructor
        · have parts := sum_countP_monitors db siteId (·.isOn calendar day)
          simp only [Bool.and_comm (decide _)] at parts
          simpa only [Option.map_some, Option.getD_some, Bool.and_comm] using parts.symm
        · have parts :=
            sum_countP_monitors db siteId fun check => check.isOn calendar day && check.isSuccess
          simpa only [Option.map_some, Option.getD_some, Bool.and_left_comm] using parts.symm

theorem siteFigures_smallHistory
    : getSiteUptimeStats smallHistory 1 1000000
      = ⟨((smallHistory.siteMonitors.rows.filter (·.siteId = 1)).map fun monitor =>
            (getMonitorUptimeStats smallHistory monitor.id 1000000 0).total7d).sum,
          ((smallHistory.siteMonitors.rows.filter (·.siteId = 1)).map fun monitor =>
            (getMonitorUptimeStats smallHistory monitor.id 1000000 0).success7d).sum⟩
      ∧ (getSiteUptimeStats smallHistory 1 1000000).totalChecks = 3 :=
  ⟨(siteFigures_areSumsOfMonitors (.utc toString) smallHistory 0 1 90 (by decide)).1,
    by decide +kernel⟩

------------------------------------------------------------
-- Windows
------------------------------------------------------------

/-- The last days of a chart count the checks since the first of them. -/
theorem totalOfLast_eq {condition : SiteMonitorCheck → Bool} {days : Int} {count : Nat}
    (fits : (count : Int) ≤ days) (most : days ≤ 90)
    : totalOfLast (dailyUptimeBuckets calendar db now days condition) count
      = db.siteMonitorChecks.rows.countP fun check =>
          isWithinDays calendar (utcDate now - (count - 1)) (utcDate now) check
          && condition check := by
  have kept := truncateI32_days (by omega) most
  unfold totalOfLast
  rw [dailyUptimeBuckets_eq, kept, List.length_map, length_daySeries, ← List.map_drop,
    drop_daySeries fits, List.map_map]
  exact sum_countP_days calendar db.siteMonitorChecks.rows now (by omega) condition

/-- The first of the last days begins in the window of so many days. -/
theorem window_le_of_day (now point : Int) {count : Nat}
    (since : (utcDate now - (count - 1)) * microsPerDay ≤ point)
    : now - count * microsPerDay ≤ point := by
  unfold utcDate microsPerDay at *
  omega

/-- The window begins on the day before. -/
theorem day_le_of_window (now point : Int) {count : Nat}
    (since : now - count * microsPerDay ≤ point)
    : (utcDate now - ((count + 1 : Nat) - 1)) * microsPerDay ≤ point := by
  unfold utcDate microsPerDay at *
  omega

/-- A window of days counts at least the last so many days of the chart, and at most one more. The
window is read from the clock of the server and the chart from that of the database; both clocks
show the same day.
-/
theorem window_isBetweenDays (toChar : Int → String) {serverNow : Timestamp}
    (sameDay : utcDate serverNow = utcDate now)
    (past : ∀ check ∈ db.siteMonitorChecks.rows,
      check.checkedAt < (utcDate now + 1) * microsPerDay)
    (monitorId : Int) (count : Nat) (fits : (count : Int) + 1 ≤ 90)
    : totalOfLast (getMonitorDailyUptimeStats (.utc toChar) db now monitorId 90) count
        ≤ db.siteMonitorChecks.rows.countP
            (fun check =>
              decide (check.siteMonitorId = monitorId)
              && decide (serverNow - count * microsPerDay ≤ check.checkedAt))
      ∧ db.siteMonitorChecks.rows.countP
            (fun check =>
              decide (check.siteMonitorId = monitorId)
              && decide (serverNow - count * microsPerDay ≤ check.checkedAt))
        ≤ totalOfLast (getMonitorDailyUptimeStats (.utc toChar) db now monitorId 90)
            (count + 1) := by
  unfold getMonitorDailyUptimeStats
  rw [totalOfLast_eq (by omega) le_rfl, totalOfLast_eq (by omega) le_rfl]
  constructor
  · refine List.countP_mono_left fun check _ counted => ?_
    simp only [Bool.and_eq_true, isWithinDays_iff, decide_eq_true_eq] at counted ⊢
    obtain ⟨⟨since, _⟩, ofMonitor⟩ := counted
    rw [← sameDay] at since
    exact ⟨ofMonitor, window_le_of_day serverNow _ since⟩
  · refine List.countP_mono_left fun check stored counted => ?_
    simp only [Bool.and_eq_true, isWithinDays_iff, decide_eq_true_eq] at counted ⊢
    obtain ⟨ofMonitor, since⟩ := counted
    rw [← sameDay]
    exact ⟨⟨day_le_of_window serverNow _ since, sameDay ▸ past check stored⟩, ofMonitor⟩

/-- The windows of a monitor on a status page agree with the chart beside them. -/
theorem chart_boundsWindows (toChar : Int → String) (db : Database) {now serverNow : Timestamp}
    (sameDay : utcDate serverNow = utcDate now)
    (past : ∀ check ∈ db.siteMonitorChecks.rows,
      check.checkedAt < (utcDate now + 1) * microsPerDay)
    (monitorId : Int)
    : let chart := getMonitorDailyUptimeStats (.utc toChar) db now monitorId 90
      let stats := getMonitorUptimeStats db monitorId (serverNow - 7 * microsPerDay)
        (serverNow - 30 * microsPerDay)
      totalOfLast chart 7 ≤ stats.total7d ∧ stats.total7d ≤ totalOfLast chart 8
      ∧ totalOfLast chart 30 ≤ stats.total30d ∧ stats.total30d ≤ totalOfLast chart 31 := by
  have within : serverNow - 30 * microsPerDay ≤ serverNow - 7 * microsPerDay :=
    Int.sub_le_sub_left (by decide) serverNow
  intro chart stats
  have isStats : stats = _ := getMonitorUptimeStats_eq monitorId within
  obtain ⟨atLeast7, atMost7⟩ :=
    window_isBetweenDays toChar sameDay past monitorId 7 (by decide)
  obtain ⟨atLeast30, atMost30⟩ :=
    window_isBetweenDays toChar sameDay past monitorId 30 (by decide)
  rw [isStats]
  exact ⟨atLeast7, atMost7, atLeast30, atMost30⟩

theorem smallHistory_sameDay : utcDate 1500000 = utcDate 2000000 := by decide

theorem chart_boundsWindows_smallHistory
    : totalOfLast (getMonitorDailyUptimeStats (.utc toString) smallHistory 2000000 1 90) 7
        ≤ (getMonitorUptimeStats smallHistory 1 (1500000 - 7 * microsPerDay)
            (1500000 - 30 * microsPerDay)).total7d
      ∧ totalOfLast (getMonitorDailyUptimeStats (.utc toString) smallHistory 2000000 1 90) 7 = 4 :=
  ⟨(chart_boundsWindows toString smallHistory smallHistory_sameDay (by decide +kernel) 1).1,
    by decide +kernel⟩

end AlonSentinel.System
