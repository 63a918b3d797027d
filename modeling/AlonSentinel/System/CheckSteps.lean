import AlonSentinel.System.ApiEffects
import AlonSentinel.System.World
import AlonSentinel.Worker.SaveEffect

/-! What one action of the system does to monitors, incidents and check jobs. The later
modules cite these inversions instead of unfolding the transition function.
-/

namespace AlonSentinel.System

open Api
open Domain
open KeyedTable
open Notifications
open TransitionSystem
open Worker

------------------------------------------------------------
-- Claims on monitors
------------------------------------------------------------

/-- Whether a worker is the recorded owner of a stored monitor. -/
def Owns (db : Database) (siteMonitorId : Int) (workerId : String) : Prop :=
  ∃ monitor,
    db.siteMonitors.find? siteMonitorId = some monitor
    ∧ monitor.checkClaimedBy = some workerId

section Claims

variable {db : Database} {siteMonitorId : Int} {workerId : String}

/-- The claim guard of an update is ownership. -/
theorem claimGuard_iff
    : (db.siteMonitors.find? siteMonitorId).any (·.isClaimedBy siteMonitorId workerId) = true
      ↔ Owns db siteMonitorId workerId := by
  cases found : db.siteMonitors.find? siteMonitorId with
  | none => simp [Owns, found]
  | some monitor =>
      have same : monitor.id = siteMonitorId := (Table.mem_of_find? found).2
      simp [Owns, found, SiteMonitor.isClaimedBy, same]

/-- The owner's update sets the columns of its monitor. -/
theorem find?_updateClaimedSiteMonitor_self {set : SiteMonitor → SiteMonitor}
    {keeps : ∀ monitor, (set monitor).id = monitor.id} {monitor : SiteMonitor}
    (found : db.siteMonitors.find? siteMonitorId = some monitor)
    (claimed : monitor.checkClaimedBy = some workerId)
    : (updateClaimedSiteMonitor db siteMonitorId workerId set keeps).2.siteMonitors.find?
        siteMonitorId
      = some (set monitor) := by
  have same : monitor.id = siteMonitorId := (Table.mem_of_find? found).2
  exact SerialTable.find?_update_of_matched found
    (by simp [SiteMonitor.isClaimedBy, same, claimed])

theorem find?_extendSiteMonitorClaim {monitor : SiteMonitor} (now : Timestamp)
    (leaseSeconds : Int) (found : db.siteMonitors.find? siteMonitorId = some monitor)
    (claimed : monitor.checkClaimedBy = some workerId)
    : (extendSiteMonitorClaim db now siteMonitorId workerId leaseSeconds).2.siteMonitors.find?
        siteMonitorId
      = some (monitor.asExtended now leaseSeconds) :=
  find?_updateClaimedSiteMonitor_self found claimed

theorem find?_releaseSiteMonitorClaim {monitor : SiteMonitor} (now : Timestamp)
    (found : db.siteMonitors.find? siteMonitorId = some monitor)
    (claimed : monitor.checkClaimedBy = some workerId)
    : (releaseSiteMonitorClaim db now siteMonitorId workerId).2.siteMonitors.find? siteMonitorId
      = some (monitor.asReleased now) :=
  find?_updateClaimedSiteMonitor_self found claimed

/-- Other monitors than the one named stay as they are. -/
theorem find?_updateClaimedSiteMonitor_of_ne {set : SiteMonitor → SiteMonitor}
    {keeps : ∀ monitor, (set monitor).id = monitor.id} {wanted : Int}
    (other : wanted ≠ siteMonitorId)
    : (updateClaimedSiteMonitor db siteMonitorId workerId set keeps).2.siteMonitors.find? wanted
      = db.siteMonitors.find? wanted := by
  refine SerialTable.find?_update_of_unmatched fun monitor found => ?_
  have same : monitor.id = wanted := (Table.mem_of_find? found).2
  simp [SiteMonitor.isClaimedBy, same, other]

/-- For a worker that does not own the monitor, the guarded update changes nothing. -/
theorem updateClaimedSiteMonitor_of_not_owns {set : SiteMonitor → SiteMonitor}
    {keeps : ∀ monitor, (set monitor).id = monitor.id}
    (lost : ¬Owns db siteMonitorId workerId)
    : updateClaimedSiteMonitor db siteMonitorId workerId set keeps = (false, db) := by
  have unmatched : ∀ monitor ∈ db.siteMonitors.rows,
      ¬monitor.isClaimedBy siteMonitorId workerId = true := by
    intro monitor stored matched
    have parts := Bool.and_eq_true_iff.mp matched
    have here : db.siteMonitors.find? siteMonitorId = some monitor :=
      Table.find?_eq_some.mpr ⟨stored, of_decide_eq_true parts.1⟩
    exact lost ⟨monitor, here, of_decide_eq_true parts.2⟩
  have guard := Bool.eq_false_iff.mpr (mt claimGuard_iff.mp lost)
  have same : db.siteMonitors.update (·.isClaimedBy siteMonitorId workerId) set
      (fun monitor _ => keeps monitor) = db.siteMonitors :=
    SerialTable.update_of_unmatched unmatched
  simp only [updateClaimedSiteMonitor, guard, same]

theorem extendSiteMonitorClaim_of_not_owns {now : Timestamp} (leaseSeconds : Int)
    (lost : ¬Owns db siteMonitorId workerId)
    : extendSiteMonitorClaim db now siteMonitorId workerId leaseSeconds = (false, db) :=
  updateClaimedSiteMonitor_of_not_owns lost

theorem releaseSiteMonitorClaim_of_not_owns {now : Timestamp}
    (lost : ¬Owns db siteMonitorId workerId)
    : releaseSiteMonitorClaim db now siteMonitorId workerId = (false, db) :=
  updateClaimedSiteMonitor_of_not_owns lost

/-- A claim either leaves a monitor alone or takes it in a state in which it is due. -/
theorem claimSiteMonitorsDueForCheck_cases (db : Database) (now : Timestamp)
    (workerId : String) (limit : Nat) (leaseSeconds : Int) (locked : List Int) (wanted : Int)
    : let result := claimSiteMonitorsDueForCheck db now workerId limit leaseSeconds locked
      (result.1.siteMonitors.find? wanted = db.siteMonitors.find? wanted
        ∧ result.2.find? wanted = none)
      ∨ ∃ monitor,
          db.siteMonitors.find? wanted = some monitor
          ∧ monitor.dueForCheck db now locked = true
          ∧ result.1.siteMonitors.find? wanted
            = some (monitor.asClaimed now workerId leaseSeconds)
          ∧ result.2.find? wanted = some (monitor.asClaimed now workerId leaseSeconds) := by
  exact SerialTable.update_select_cases db.siteMonitors
    (·.asClaimed now workerId leaseSeconds) (fun _ => Table.mem_pick) (fun _ => rfl) wanted

end Claims

------------------------------------------------------------
-- Check jobs
------------------------------------------------------------

/-- The record that a committed save leaves. -/
def CheckJob.commit (job : CheckJob) (workerId : String) (check : SiteMonitorCheck)
    : CommittedCheck where
  claimNumber := job.claimNumber
  workerId := workerId
  check := check
  eventType := determineEventType job.siteMonitor.lastIsSuccess check.isSuccess

@[simp] theorem CheckJob.commit_siteMonitorId (job : CheckJob) (workerId : String)
    (completed : CompletedMonitorCheck) (db : Database) (startedAt : Timestamp)
    : (job.commit workerId (completed.savedCheck db startedAt job.siteMonitor)).check.siteMonitorId
      = job.monitorId :=
  rfl

/-- The ways in which a check action can go. -/
inductive CheckStepped (db : Database) (now : Timestamp) (workerId : String) (job : CheckJob)
    : CheckOutcome → Prop
  /-- The owner moved its lease. -/
  | extended (leaseSeconds : Int) (owns : Owns db job.monitorId workerId)
    : CheckStepped db now workerId job
        ⟨(extendSiteMonitorClaim db now job.monitorId workerId leaseSeconds).2, some .checking,
          none⟩
  /-- The owner gave the claim back. -/
  | released (owns : Owns db job.monitorId workerId)
    : CheckStepped db now workerId job
        ⟨(releaseSiteMonitorClaim db now job.monitorId workerId).2, none, none⟩
  /-- The job went on without touching the database. -/
  | waited (checking : job.phase = .checking)
    : CheckStepped db now workerId job ⟨db, some .checking, none⟩
  | began (completed : CompletedMonitorCheck)
    : CheckStepped db now workerId job ⟨db, some (.saving now completed), none⟩
  | lookedUp {startedAt : Timestamp} {completed : CompletedMonitorCheck}
      (saving : job.phase = .saving startedAt completed)
    : CheckStepped db now workerId job
        ⟨db, some (.deciding startedAt completed (lookupOpenIncident db job.siteMonitor)), none⟩
  /-- The save committed. -/
  | committed {startedAt : Timestamp} {completed : CompletedMonitorCheck}
      {found : Option SiteMonitorIncident} {saved : Database}
      (deciding : job.phase = .deciding startedAt completed found)
      (effect : SaveEffect db startedAt job.siteMonitor workerId completed found saved)
    : CheckStepped db now workerId job
        ⟨saved, none,
          some (job.commit workerId (completed.savedCheck db startedAt job.siteMonitor))⟩
  /-- The job ended without touching the database. -/
  | ended : CheckStepped db now workerId job ⟨db, none, none⟩

/-- Every check action goes in one of those ways. -/
theorem checkStep_cases {db : Database} {now : Timestamp} {workerId : String} {job : CheckJob}
    {action : CheckAction} {outcome : CheckOutcome}
    (stepped : checkStep db now workerId job action = some outcome)
    : CheckStepped db now workerId job outcome := by
  cases action with
  | ensureInitialLease leaseSeconds =>
      simp only [checkStep] at stepped
      split at stepped
      · by_cases owns : Owns db job.monitorId workerId
        · have updated : (extendSiteMonitorClaim db now job.monitorId workerId leaseSeconds).1
              = true :=
            claimGuard_iff.mpr owns
          rw [if_pos updated] at stepped
          cases stepped
          exact .extended leaseSeconds owns
        · rw [extendSiteMonitorClaim_of_not_owns leaseSeconds owns] at stepped
          cases stepped
          exact .ended
      · cases stepped
  | heartbeat leaseSeconds =>
      simp only [checkStep] at stepped
      split at stepped
      · next checking =>
          cases stepped
          by_cases owns : Owns db job.monitorId workerId
          · exact .extended leaseSeconds owns
          · rw [extendSiteMonitorClaim_of_not_owns leaseSeconds owns]
            exact .waited checking
      · cases stepped
  | cancel =>
      simp only [checkStep] at stepped
      split at stepped
      · cases stepped
        by_cases owns : Owns db job.monitorId workerId
        · exact .released owns
        · rw [releaseSiteMonitorClaim_of_not_owns owns]
          exact .ended
      · cases stepped
  | beginSave completed =>
      simp only [checkStep] at stepped
      split at stepped
      · cases stepped
        exact .began completed
      · cases stepped
  | lookupIncident =>
      simp only [checkStep] at stepped
      split at stepped
      · next saving =>
          cases stepped
          exact .lookedUp saving
      · cases stepped
  | commitSave =>
      simp only [checkStep] at stepped
      split at stepped
      · next deciding =>
          split at stepped
          · cases stepped
            exact .ended
          · next committed =>
              cases stepped
              exact .committed deciding (saveCheckResult_ok committed)
      · cases stepped
  | abandon =>
      cases stepped
      exact .ended

/-- A save that goes through ends the job and leaves its record. -/
theorem checkStep_commitSave {db saved : Database} {now startedAt : Timestamp}
    {workerId : String} {job : CheckJob} {completed : CompletedMonitorCheck}
    {found : Option SiteMonitorIncident}
    (deciding : job.phase = .deciding startedAt completed found)
    (committed
      : saveCheckResult db startedAt job.siteMonitor workerId completed found = .ok saved)
    : checkStep db now workerId job .commitSave
      = some
          ⟨saved, none,
            some (job.commit workerId (completed.savedCheck db startedAt job.siteMonitor))⟩ := by
  simp only [checkStep, deciding, committed]
  rfl

/-- Only the last statement of a save commits, and it commits the job of its worker. -/
theorem commitSave_of_committed {db : Database} {now : Timestamp} {workerId : String}
    {job : CheckJob} {action : CheckAction} {outcome : CheckOutcome} {commit : CommittedCheck}
    (stepped : checkStep db now workerId job action = some outcome)
    (committed : outcome.committed = some commit)
    : action = .commitSave ∧ commit.workerId = workerId
      ∧ commit.check.siteMonitorId = job.monitorId := by
  cases action with
  | commitSave =>
      simp only [checkStep] at stepped
      split at stepped
      · split at stepped
        · cases stepped
          cases committed
        · cases stepped
          cases committed
          exact ⟨rfl, rfl, rfl⟩
      · cases stepped
  | abandon =>
      cases stepped
      cases committed
  | ensureInitialLease _ | heartbeat _ | cancel | beginSave _ | lookupIncident =>
      simp only [checkStep] at stepped
      split at stepped
      · cases stepped
        cases committed
      · cases stepped

/-- A batch after one of its jobs moved on. -/
theorem find?_setPhase (batch : Table CheckJob CheckJob.monitorId) (siteMonitorId : Int)
    (phase : Option CheckPhase) (wanted : Int)
    : (setPhase batch siteMonitorId phase).find? wanted
      = if wanted = siteMonitorId then
          (batch.find? wanted).bind fun job => phase.map fun phase => { job with phase }
        else batch.find? wanted := by
  rw [setPhase, Table.find?_collect]
  cases found : batch.find? wanted with
  | none => simp
  | some job =>
      have same : job.monitorId = wanted := (Table.mem_of_find? found).2
      simp only [Option.bind_some, same]

theorem find?_setPhase_self {batch : Table CheckJob CheckJob.monitorId} {siteMonitorId : Int}
    {job : CheckJob} (holds : batch.find? siteMonitorId = some job) (phase : Option CheckPhase)
    : (setPhase batch siteMonitorId phase).find? siteMonitorId
      = phase.map fun phase => { job with phase } := by
  rw [find?_setPhase, if_pos rfl, holds, Option.bind_some]

theorem find?_setPhase_of_ne {wanted siteMonitorId : Int} (other : wanted ≠ siteMonitorId)
    (batch : Table CheckJob CheckJob.monitorId) (phase : Option CheckPhase)
    : (setPhase batch siteMonitorId phase).find? wanted = batch.find? wanted := by
  rw [find?_setPhase, if_neg other]

/-- A job that is in a batch after one of its jobs moved on was in it before. -/
theorem find?_setPhase_eq_some {batch : Table CheckJob CheckJob.monitorId}
    {siteMonitorId wanted : Int} {phase : Option CheckPhase} {job : CheckJob}
    (found : (setPhase batch siteMonitorId phase).find? wanted = some job)
    : ∃ before,
        batch.find? wanted = some before
        ∧ job.siteMonitor = before.siteMonitor ∧ job.claimNumber = before.claimNumber
        ∧ (wanted = siteMonitorId ∧ phase = some job.phase
            ∨ wanted ≠ siteMonitorId ∧ job = before) := by
  rw [find?_setPhase] at found
  split at found
  · next same =>
      obtain ⟨before, was, moved⟩ := Option.bind_eq_some_iff.mp found
      obtain ⟨next, now, rfl⟩ := Option.map_eq_some_iff.mp moved
      exact ⟨before, was, rfl, rfl, .inl ⟨same, now⟩⟩
  · next other => exact ⟨job, found, rfl, rfl, .inr ⟨other, rfl⟩⟩

end AlonSentinel.System
