import AlonSentinel.Worker.IdleDelay
import AlonSentinel.Worker.SaveCheckResult

/-! The check of a heartbeat monitor, on the row and a clock in nanoseconds. -/

namespace AlonSentinel.Monitoring

open Domain
open Worker

/-- The age in seconds up to which the last heartbeat counts. -/
def allowedAgeSeconds (siteMonitor : SiteMonitor) : Int :=
  max siteMonitor.checkIntervalSeconds 0 + max (siteMonitor.heartbeatGraceSeconds.getD 0) 0

/-- `signed_duration_since` in whole seconds, rounded to zero. -/
def secondsSince (now : Int) (instant : Timestamp) : Int :=
  (now - nanoseconds instant).tdiv 1000000000

def checkHeartbeat (siteMonitor : SiteMonitor) (now : Int) : CheckResult :=
  let referenceTime := siteMonitor.lastHeartbeatReceivedAt.getD siteMonitor.createdAt
  let ageSeconds := max (secondsSince now referenceTime) 0
  if ageSeconds ≤ allowedAgeSeconds siteMonitor then
    { isSuccess := true
      statusCode := none
      responseTimeMs := none
      failureReason := none
      errorMessage := none
      certificateMetadata := none }
  else
    let overdueBySeconds := ageSeconds - allowedAgeSeconds siteMonitor
    let lastReceivedAt :=
      (siteMonitor.lastHeartbeatReceivedAt.map Notifications.toRfc3339).getD "never"
    { isSuccess := false
      statusCode := none
      responseTimeMs := none
      failureReason := some "heartbeat_overdue"
      errorMessage :=
        some s!"last heartbeat received at {lastReceivedAt}; overdue by {overdueBySeconds}s"
      certificateMetadata := none }

end AlonSentinel.Monitoring
