import AlonSentinel.Configuration.FromEnv
import AlonSentinel.Domain.SiteMonitorCheckRepository
import AlonSentinel.Foundation.ChronoTime

/-! Pruning the history of checks: which checks are old, how many of them one statement deletes, and
when the worker prunes again. The worker's clock is in nanoseconds; `none` is a panic.
-/

namespace AlonSentinel.Worker

open ChronoTime
open Configuration
open DatabaseSession
open Domain
open MachineInteger

/-- Checks before this instant are pruned. -/
def retentionCutoff (config : Config) (now : Int) : Option Int :=
  subDays now (asI64 config.siteMonitorCheckRetentionDays.toNat)

/-- The limit of one delete statement. -/
def retentionBatchLimit (config : Config) : Int :=
  asI64 config.siteMonitorCheckRetentionBatchSize.toNat

/-- When the worker prunes again after it has caught up. -/
def nextRetentionRun (config : Config) (now : Int) : Option Int :=
  addSeconds now (asI64 config.siteMonitorCheckRetentionIntervalSeconds.toNat)

/-- A value, or the panic of the arithmetic. -/
def orPanic (computed : Option Int) : RetentionSession Int :=
  .ofExcept (computed.elim (.error .panics) .ok)

/-- What a call returns: how many checks it deleted, and when the next one is due. -/
structure RetentionRun where
  deletedCount : Nat
  nextRunAt : Int
  deriving DecidableEq

/-- `prune_site_monitor_check_history_if_due`. A failure leaves `next_run_at` as it is;
`toTimestamptz` is how the driver sends an instant to the database.
-/
def pruneSiteMonitorCheckHistoryIfDue (toTimestamptz : Int → Timestamp) (config : Config)
    (now : Int) (lockAcquired : Bool) (nextRunAt : Int)
    : RetentionSession RetentionRun := do
  if now < nextRunAt then return ⟨0, nextRunAt⟩
  let cutoff ← orPanic (retentionCutoff config now)
  match ← pruneChecksOlderThan lockAcquired (toTimestamptz cutoff) (retentionBatchLimit config) with
  | none => return ⟨0, ← orPanic (nextRetentionRun config now)⟩
  | some deletedCount =>
      if config.siteMonitorCheckRetentionBatchSize.toNat ≤ deletedCount then
        return ⟨deletedCount, now⟩
      else
        return ⟨deletedCount, ← orPanic (nextRetentionRun config now)⟩

end AlonSentinel.Worker
