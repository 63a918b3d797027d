import AlonSentinel.Worker.MonitorCheckPolicy

/-! How many deliveries a worker claims, and for how long: long enough for one attempt to time out.
-/

namespace AlonSentinel.Notifications

open Configuration

/-- How many deliveries a worker claims at once. -/
def notificationDeliveryClaimLimit (config : Config) : Int :=
  MachineInteger.asI64
    (min config.dueNotificationBatchSize config.maxNotificationConcurrentDeliveries).toNat

structure NotificationDeliveryLeasePlan where
  initialLease : StdTime.Duration
  heartbeatInterval : StdTime.Duration
  deriving DecidableEq

def deriveHeartbeatInterval (lease : StdTime.Duration) : StdTime.Duration :=
  max (lease.div 3) (.fromMillis 250)

def deriveNotificationDeliveryLeasePlan (config : Config) : NotificationDeliveryLeasePlan :=
  let timeout := StdTime.Duration.fromSecs config.notificationDeliveryTimeoutSeconds
  let minimumLease := StdTime.Duration.fromSecs config.leaseNotificationDeliverySeconds
  let initialLease := max minimumLease (timeout.saturatingAdd (Worker.safetyBuffer timeout))
  { initialLease
    heartbeatInterval := deriveHeartbeatInterval initialLease }

/-- The same conversion as that of the check worker. -/
def durationToLeaseSeconds (duration : StdTime.Duration) : Int :=
  Worker.durationToLeaseSeconds duration

end AlonSentinel.Notifications
