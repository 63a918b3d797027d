import AlonSentinel.Api.HistoryHandlers
import AlonSentinel.Domain.UptimeStats

/-! The handlers that report the uptime of a site, past authentication. A percentage is kept as the
two counts that are divided.
-/

namespace AlonSentinel.Api

open Domain

/-- `success as f64 / total as f64 * 100.0`. -/
structure Percentage where
  success : Nat
  total : Nat
  positive : 0 < total
  deriving DecidableEq

/-- The percentage, if there was a check. -/
def pct (total success : Nat) : Option Percentage :=
  if positive : 0 < total then some { success, total, positive } else none

structure DailyUptimeBucketResponse where
  date : String
  totalChecks : Nat
  successfulChecks : Nat
  uptimePercent : Option Percentage

def DailyUptimeBucketResponse.from (bucket : DailyUptimeBucket) : DailyUptimeBucketResponse where
  date := bucket.date
  totalChecks := bucket.totalChecks
  successfulChecks := bucket.successfulChecks
  uptimePercent := pct bucket.totalChecks bucket.successfulChecks

structure SiteUptimeDailyResponse where
  days : Int
  buckets : List DailyUptimeBucketResponse

/-- `query.days.unwrap_or(90).clamp(7, 90)`. -/
def clampDays (days : Option Int) : Int := min (max (days.getD 90) 7) 90

def getSiteUptimeDaily (calendar : SessionCalendar) (db : Database) (now : Timestamp) (siteId : Int)
    (days : Option Int)
    : Except ApiError SiteUptimeDailyResponse := do
  let _ ← ensureSiteExists db siteId
  let days := clampDays days
  return { days, buckets := (getDailyUptimeStats calendar db now siteId days).map .from }

/-- The label and the days of a window. -/
def uptimeWindow : Option String → String × Int
  | some "7d" => ("7d", 7)
  | _ => ("30d", 30)

structure SiteUptimeResponse where
  window : String
  windowDays : Int
  uptimePercent : Option Percentage
  totalChecks : Nat
  successfulChecks : Nat
  failedChecks : Int

def getSiteUptime (db : Database) (now : Timestamp) (siteId : Int) (window : Option String)
    : Except ApiError SiteUptimeResponse := do
  let _ ← ensureSiteExists db siteId
  let (windowLabel, windowDays) := uptimeWindow window
  let stats := getSiteUptimeStats db siteId (now - windowDays * microsPerDay)
  return {
    window := windowLabel
    windowDays
    uptimePercent := pct stats.totalChecks stats.successfulChecks
    totalChecks := stats.totalChecks
    successfulChecks := stats.successfulChecks
    failedChecks := stats.totalChecks - stats.successfulChecks }

variable {total success : Nat}

theorem pct_eq_none : pct total success = none ↔ total = 0 := by
  unfold pct
  split <;> simp <;> omega

theorem clampDays_bounds (days : Option Int) : 7 ≤ clampDays days ∧ clampDays days ≤ 90 := by
  unfold clampDays
  omega

end AlonSentinel.Api
