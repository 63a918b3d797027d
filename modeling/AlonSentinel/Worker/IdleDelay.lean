import AlonSentinel.Domain.NotificationRepository
import AlonSentinel.Domain.SiteMonitorRepository

/-! How long a worker without work sleeps. Instants of the worker's clock and durations are in
nanoseconds, the resolution of `chrono::DateTime` and `std::time::Duration`; the database answers
in microseconds.
-/

namespace AlonSentinel.Worker

open Domain

/-- A duration in nanoseconds. -/
abbrev Duration := Nat

/-- A database instant on the worker's clock. -/
def nanoseconds (instant : Timestamp) : Int := instant * 1000

/-- The wait for the earliest wake-up time that is present, up to `maxPollInterval`. -/
def deriveWorkerIdleDelay (now : Int)
    (nextMonitorCheckAt nextNotificationDeliveryAt nextCheckHistoryRetentionAt : Option Int)
    (maxPollInterval : Duration)
    : Duration :=
  let nextWakeAt :=
    ([nextMonitorCheckAt, nextNotificationDeliveryAt, nextCheckHistoryRetentionAt].filterMap
      id).min?
  match nextWakeAt with
  | some nextWakeAt =>
      if now < nextWakeAt then min (nextWakeAt - now).toNat maxPollInterval else 0
  | none => maxPollInterval

/-- Reads both wake-up times at database instants `checkedAt` and `listedAt`, and the worker's
own clock at `now`. -/
def nextWorkerIdleDelay (db : Database) (checkedAt listedAt : Timestamp) (now : Int)
    (nextCheckHistoryRetentionAt : Option Int) (maxPollInterval : Duration)
    : Duration :=
  let nextMonitorCheckAt := nextClaimableCheckAt db checkedAt
  let nextNotificationDeliveryAt := nextClaimableDeliveryAt db listedAt
  deriveWorkerIdleDelay now (nextMonitorCheckAt.map nanoseconds)
    (nextNotificationDeliveryAt.map nanoseconds) nextCheckHistoryRetentionAt maxPollInterval

end AlonSentinel.Worker
