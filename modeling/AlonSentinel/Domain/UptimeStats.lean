import AlonSentinel.Domain.Models
import AlonSentinel.Foundation.CountedParts
import AlonSentinel.Foundation.MachineIntegers

/-! The statements that count checks: of a site or of a monitor, since an instant or day by day. -/

namespace AlonSentinel.Domain

open CountedParts
open KeyedTable
open MachineInteger

/-- How the session of a connection reads and prints dates: the instant of the midnight that a day
begins with, for a comparison with a `TIMESTAMPTZ`, and `to_char(day, 'YYYY-MM-DD')`. Days are
numbered from the Unix epoch.
-/
structure SessionCalendar where
  midnight : Int → Timestamp
  ordered : Monotone midnight
  toChar : Int → String

def microsPerDay : Int := 86400000000

/-- The calendar of a session in UTC. -/
def SessionCalendar.utc (toChar : Int → String) : SessionCalendar where
  midnight day := day * microsPerDay
  ordered _ _ earlier := Int.mul_le_mul_of_nonneg_right earlier (by decide)
  toChar := toChar

/-- `(now AT TIME ZONE 'UTC')::date`. -/
def utcDate (now : Timestamp) : Int := now / microsPerDay

structure SiteUptimeStats where
  totalChecks : Nat
  successfulChecks : Nat
  deriving DecidableEq

structure MonitorUptimeStats where
  total7d : Nat
  success7d : Nat
  total30d : Nat
  success30d : Nat
  deriving DecidableEq

structure DailyUptimeBucket where
  date : String
  totalChecks : Nat
  successfulChecks : Nat
  deriving DecidableEq

/-- The check is one of a monitor of the site. -/
def SiteMonitorCheck.isOfSite (db : Database) (siteId : Int) (check : SiteMonitorCheck) : Bool :=
  (db.siteMonitors.find? check.siteMonitorId).any (·.siteId = siteId)

def getSiteUptimeStats (db : Database) (siteId : Int) (since : Timestamp) : SiteUptimeStats :=
  let selected :=
    db.siteMonitorChecks.rows.filter fun check =>
      check.isOfSite db siteId && since ≤ check.checkedAt
  { totalChecks := selected.length
    successfulChecks := selected.countP (·.isSuccess) }

def getMonitorUptimeStats (db : Database) (monitorId : Int) (since7d since30d : Timestamp)
    : MonitorUptimeStats :=
  let selected :=
    db.siteMonitorChecks.rows.filter fun check =>
      check.siteMonitorId = monitorId && since30d ≤ check.checkedAt
  { total7d := selected.countP (since7d ≤ ·.checkedAt)
    success7d := selected.countP fun check => check.isSuccess && since7d ≤ check.checkedAt
    total30d := selected.length
    success30d := selected.countP (·.isSuccess) }

/-- `generate_series`: so many days, of which the last one is today. -/
def daySeries (now : Timestamp) (days : Int) : List Int :=
  (List.range days.toNat).map fun (offset : Nat) => (utcDate now - (days - 1)) + offset

/-- The check falls on the day. -/
def SiteMonitorCheck.isOn (calendar : SessionCalendar) (day : Int) (check : SiteMonitorCheck)
    : Bool :=
  calendar.midnight day ≤ check.checkedAt && check.checkedAt < calendar.midnight (day + 1)

/-- The days of a series, each joined with the checks that meet a condition: a day without one is
counted as zero.
-/
def dailyUptimeBuckets (calendar : SessionCalendar) (db : Database) (now : Timestamp) (days : Int)
    (condition : SiteMonitorCheck → Bool)
    : List DailyUptimeBucket :=
  (daySeries now (truncateI32 days)).map fun day =>
    let joined :=
      db.siteMonitorChecks.rows.filter fun check => check.isOn calendar day && condition check
    { date := calendar.toChar day
      totalChecks := joined.length
      successfulChecks := joined.countP (·.isSuccess) }

def getDailyUptimeStats (calendar : SessionCalendar) (db : Database) (now : Timestamp)
    (siteId days : Int)
    : List DailyUptimeBucket :=
  dailyUptimeBuckets calendar db now days (·.isOfSite db siteId)

def getMonitorDailyUptimeStats (calendar : SessionCalendar) (db : Database) (now : Timestamp)
    (monitorId days : Int)
    : List DailyUptimeBucket :=
  dailyUptimeBuckets calendar db now days (·.siteMonitorId = monitorId)

------------------------------------------------------------
-- Counts
------------------------------------------------------------

variable {calendar : SessionCalendar} {db : Database} {now since since7d since30d : Timestamp}
  {siteId days : Int} {condition : SiteMonitorCheck → Bool}

/-- A check of a site is one of its monitors. -/
theorem isOfSite_eq (check : SiteMonitorCheck)
    : check.isOfSite db siteId
      = decide (check.siteMonitorId
          ∈ (db.siteMonitors.rows.filter (·.siteId = siteId)).map (·.id)) := by
  rw [Bool.eq_iff_iff, decide_eq_true_eq]
  unfold SiteMonitorCheck.isOfSite
  rw [Option.any_eq_true]
  constructor
  · rintro ⟨monitor, found, onSite⟩
    obtain ⟨member, isMonitor⟩ := Table.mem_of_find? found
    exact List.mem_map.mpr ⟨monitor, List.mem_filter.mpr ⟨member, onSite⟩, isMonitor⟩
  · intro member
    obtain ⟨monitor, stored, isMonitor⟩ := List.mem_map.mp member
    obtain ⟨member, onSite⟩ := List.mem_filter.mp stored
    exact ⟨monitor, isMonitor ▸ Table.find?_key member, onSite⟩

theorem siteMonitorIds_nodup (db : Database) (siteId : Int)
    : ((db.siteMonitors.rows.filter (·.siteId = siteId)).map (·.id)).Nodup :=
  (List.filter_sublist.map _).nodup db.siteMonitors.keysNodup

/-- The checks of a site that meet a condition are counted monitor by monitor. -/
theorem sum_countP_monitors (db : Database) (siteId : Int) (condition : SiteMonitorCheck → Bool)
    : ((db.siteMonitors.rows.filter (·.siteId = siteId)).map fun monitor =>
        db.siteMonitorChecks.rows.countP fun check =>
          check.siteMonitorId = monitor.id && condition check).sum
      = db.siteMonitorChecks.rows.countP fun check =>
          check.isOfSite db siteId && condition check := by
  have parts :=
    sum_countP_key db.siteMonitorChecks.rows SiteMonitorCheck.siteMonitorId condition
      (siteMonitorIds_nodup db siteId)
  rw [List.map_map] at parts
  simp only [isOfSite_eq]
  exact parts

/-- The checks of a series of days are counted day by day. -/
theorem sum_countP_days (calendar : SessionCalendar) (checks : List SiteMonitorCheck)
    (now : Timestamp) {days : Int} (positive : 0 ≤ days) (condition : SiteMonitorCheck → Bool)
    : ((daySeries now days).map fun day =>
        checks.countP fun check => check.isOn calendar day && condition check).sum
      = checks.countP fun check =>
          (decide (calendar.midnight (utcDate now - (days - 1)) ≤ check.checkedAt)
            && decide (check.checkedAt < calendar.midnight (utcDate now + 1)))
          && condition check := by
  have parts :=
    sum_countP_intervals calendar.ordered checks SiteMonitorCheck.checkedAt condition
      (utcDate now - (days - 1)) days.toNat
  rw [show utcDate now - (days - 1) + (days.toNat : Int) = utcDate now + 1 by omega] at parts
  exact parts

@[simp] theorem length_daySeries : (daySeries now days).length = days.toNat := by
  simp [daySeries]

/-- The counts of a bucket are those of its day. -/
theorem dailyUptimeBuckets_eq
    : dailyUptimeBuckets calendar db now days condition
      = (daySeries now (truncateI32 days)).map fun day =>
          { date := calendar.toChar day
            totalChecks :=
              db.siteMonitorChecks.rows.countP fun check =>
                check.isOn calendar day && condition check
            successfulChecks :=
              db.siteMonitorChecks.rows.countP fun check =>
                check.isOn calendar day && (condition check && check.isSuccess) } := by
  refine List.map_congr_left fun day _ => ?_
  simp only [List.countP_filter, List.countP_eq_length_filter.symm, DailyUptimeBucket.mk.injEq,
    true_and]
  refine List.countP_congr fun check _ => ?_
  rw [Bool.and_comm, Bool.and_assoc]

theorem totalChecks_getSiteUptimeStats
    : (getSiteUptimeStats db siteId since).totalChecks
      = db.siteMonitorChecks.rows.countP fun check =>
          check.isOfSite db siteId && decide (since ≤ check.checkedAt) :=
  List.countP_eq_length_filter.symm

theorem successfulChecks_getSiteUptimeStats
    : (getSiteUptimeStats db siteId since).successfulChecks
      = db.siteMonitorChecks.rows.countP fun check =>
          check.isOfSite db siteId && (decide (since ≤ check.checkedAt) && check.isSuccess) := by
  refine List.countP_filter.trans (List.countP_congr fun check _ => ?_)
  rw [Bool.and_comm, Bool.and_assoc]

/-- The counts of a monitor in both windows, of which the shorter one lies in the longer one. -/
theorem getMonitorUptimeStats_eq (monitorId : Int) (within : since30d ≤ since7d)
    : getMonitorUptimeStats db monitorId since7d since30d
      = { total7d :=
            db.siteMonitorChecks.rows.countP fun check =>
              decide (check.siteMonitorId = monitorId) && decide (since7d ≤ check.checkedAt)
          success7d :=
            db.siteMonitorChecks.rows.countP fun check =>
              decide (check.siteMonitorId = monitorId)
              && (decide (since7d ≤ check.checkedAt) && check.isSuccess)
          total30d :=
            db.siteMonitorChecks.rows.countP fun check =>
              decide (check.siteMonitorId = monitorId) && decide (since30d ≤ check.checkedAt)
          success30d :=
            db.siteMonitorChecks.rows.countP fun check =>
              decide (check.siteMonitorId = monitorId)
              && (decide (since30d ≤ check.checkedAt) && check.isSuccess) } := by
  have inside (check : SiteMonitorCheck) (late : since7d ≤ check.checkedAt)
      : since30d ≤ check.checkedAt :=
    within.trans late
  simp only [getMonitorUptimeStats, List.countP_filter, List.countP_eq_length_filter.symm,
    MonitorUptimeStats.mk.injEq]
  refine ⟨?_, ?_, trivial, ?_⟩
  · refine List.countP_congr fun check _ => ?_
    grind
  · refine List.countP_congr fun check _ => ?_
    grind
  · refine List.countP_congr fun check _ => ?_
    rw [Bool.and_comm, Bool.and_assoc]

end AlonSentinel.Domain
