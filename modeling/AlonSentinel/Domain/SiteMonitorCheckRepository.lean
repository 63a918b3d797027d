import AlonSentinel.Domain.Models
import AlonSentinel.Foundation.DatabaseSession

/-! Deleting old checks. The statement names only the checks; what refers to them follows through
the foreign keys.
-/

namespace AlonSentinel.Domain

open DatabaseSession
open KeyedTable

/-- Why a statement of the retention fails. -/
inductive RetentionError where
  | unavailable
  | negativeLimit
  /-- The arithmetic of the clock overflows. -/
  | panics
  deriving DecidableEq

abbrev RetentionSession := Session RetentionError Database RetentionError

/-- `ORDER BY checked_at ASC, id ASC`. -/
def SiteMonitorCheck.retentionOrder (first second : SiteMonitorCheck) : Bool :=
  first.checkedAt < second.checkedAt
  || (first.checkedAt == second.checkedAt && first.id ≤ second.id)

/-- The oldest checks before the cutoff. -/
def expiredChecks (db : Database) (cutoff : Timestamp) (limit : Nat) : List Int :=
  db.siteMonitorChecks.pick (·.checkedAt < cutoff) SiteMonitorCheck.retentionOrder limit

/-- `ON DELETE SET NULL` on the columns of an incident. -/
def SiteMonitorIncident.withoutChecks (deleted : List Int) (incident : SiteMonitorIncident)
    : SiteMonitorIncident :=
  { incident with
    openedCheckId := incident.openedCheckId.filter (· ∉ deleted)
    resolvedCheckId := incident.resolvedCheckId.filter (· ∉ deleted)
    lastCheckId := incident.lastCheckId.filter (· ∉ deleted) }

/-- Deletes checks, with the deliveries that refer to them (`ON DELETE CASCADE`). -/
def deleteChecks (db : Database) (deleted : List Int) : Database :=
  { db with
    siteMonitorChecks := db.siteMonitorChecks.delete fun check => check.id ∈ deleted
    siteMonitorIncidents :=
      db.siteMonitorIncidents.update (fun _ => true) (·.withoutChecks deleted)
    notificationDeliveries :=
      db.notificationDeliveries.delete fun delivery => delivery.siteMonitorCheckId ∈ deleted }

/-- `prune_checks_older_than`; whether the lock is free depends on the other workers. -/
def pruneChecksOlderThan (lockAcquired : Bool) (cutoff : Timestamp) (limit : Int)
    : RetentionSession (Option Nat) :=
  .transaction do
    let acquired ← .query fun _ => lockAcquired
    if !acquired then
      -- The rollback of a transaction that has changed nothing.
      return none
    .statement fun db =>
      if limit < 0 then .error .negativeLimit
      else
        let deleted := expiredChecks db cutoff limit.toNat
        .ok (some deleted.length, deleteChecks db deleted)

/-- A delivery is kept exactly if its check is not deleted. -/
@[simp] theorem mem_deliveries_deleteChecks {db : Database} {deleted : List Int}
    {delivery : NotificationDelivery}
    : delivery ∈ (deleteChecks db deleted).notificationDeliveries.rows
      ↔ delivery ∈ db.notificationDeliveries.rows ∧ delivery.siteMonitorCheckId ∉ deleted := by
  simp [deleteChecks]

end AlonSentinel.Domain
