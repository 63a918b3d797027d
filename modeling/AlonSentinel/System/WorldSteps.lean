import AlonSentinel.System.CheckSteps
import AlonSentinel.System.DeliverySteps

/-! What one action of any party does to the whole system. Invariants and refinements are
proved from this inversion, one case for each kind of party.
-/

namespace AlonSentinel.System

open Api
open Domain
open KeyedTable
open Notifications
open Worker

/-- What a claim of monitors makes of the row and of the job under one id. -/
def MonitorClaim (world : World) (workerId : String) (leaseSeconds : Int)
    (siteMonitors : SerialTable SiteMonitor SiteMonitor.id)
    (batch : Table CheckJob CheckJob.monitorId) (siteMonitorId : Int)
    : Prop :=
  (siteMonitors.find? siteMonitorId = world.db.siteMonitors.find? siteMonitorId
    ∧ batch.find? siteMonitorId = none)
  ∨ ∃ monitor locked,
      world.db.siteMonitors.find? siteMonitorId = some monitor
      ∧ monitor.dueForCheck world.db world.now locked = true
      ∧ siteMonitors.find? siteMonitorId
        = some (monitor.asClaimed world.now workerId leaseSeconds)
      ∧ batch.find? siteMonitorId
        = some (.start world.claimsIssued (monitor.asClaimed world.now workerId leaseSeconds))

/-- What a claim of deliveries makes of the row and of the job under one id. -/
def DeliveryClaim (world : World) (workerId : String) (leaseSeconds : Int)
    (notificationDeliveries : SerialTable NotificationDelivery NotificationDelivery.id)
    (batch : Table ClaimedNotificationDelivery ClaimedNotificationDelivery.id)
    (deliveryId : Int)
    : Prop :=
  (notificationDeliveries.find? deliveryId = world.db.notificationDeliveries.find? deliveryId
    ∧ batch.find? deliveryId = none)
  ∨ ∃ delivery channel,
      world.db.notificationDeliveries.find? deliveryId = some delivery
      ∧ delivery.isClaimable world.db world.now = true
      ∧ notificationDeliveries.find? deliveryId
        = some (delivery.asClaimed world.now workerId leaseSeconds)
      ∧ batch.find? deliveryId
        = some (.of (delivery.asClaimed world.now workerId leaseSeconds) channel)

/-- The world after one action of a check job. -/
def World.afterCheck (world : World) (workerId : String) (siteMonitorId : Int)
    (outcome : CheckOutcome)
    : World :=
  { world with
    db := outcome.db
    checkBatches :=
      Function.update world.checkBatches workerId
        (setPhase (world.checkBatches workerId) siteMonitorId outcome.phase)
    commits := world.commits ++ outcome.committed.toList }

/-- The world after one action of a delivery job. -/
def World.afterDelivery (world : World) (workerId : String) (deliveryId : Int)
    (outcome : DeliveryOutcome)
    : World :=
  { world with
    db := outcome.db
    deliveryBatches :=
      Function.update world.deliveryBatches workerId
        ((world.deliveryBatches workerId).select fun other =>
          other.id != deliveryId || !outcome.isOver)
    outcomes := world.outcomes ++ outcome.recorded.toList }

/-- The ways in which an action of the system can go. -/
inductive Stepped (config : DeliveryConfig) (world : World) : World → Prop
  | waited {later : Timestamp} (ordered : world.now ≤ later)
    : Stepped config world { world with now := later }
  | claimedMonitors {workerId : String} (leaseSeconds : Int)
      {siteMonitors : SerialTable SiteMonitor SiteMonitor.id}
      {batch : Table CheckJob CheckJob.monitorId}
      (idle : ∀ siteMonitorId, (world.checkBatches workerId).find? siteMonitorId = none)
      (claim
        : ∀ siteMonitorId,
            MonitorClaim world workerId leaseSeconds siteMonitors batch siteMonitorId)
    : Stepped config world
        { world with
          db := { world.db with siteMonitors }
          checkBatches := Function.update world.checkBatches workerId batch
          claimsIssued := world.claimsIssued + 1 }
  | checked {workerId : String} {siteMonitorId : Int} {job : CheckJob} {outcome : CheckOutcome}
      (holds : (world.checkBatches workerId).find? siteMonitorId = some job)
      (stepped : CheckStepped world.db world.now workerId job outcome)
    : Stepped config world (world.afterCheck workerId siteMonitorId outcome)
  | claimedDeliveries {workerId : String} (leaseSeconds : Int)
      {notificationDeliveries : SerialTable NotificationDelivery NotificationDelivery.id}
      {batch : Table ClaimedNotificationDelivery ClaimedNotificationDelivery.id}
      (idle : ∀ deliveryId, (world.deliveryBatches workerId).find? deliveryId = none)
      (claim
        : ∀ deliveryId,
            DeliveryClaim world workerId leaseSeconds notificationDeliveries batch deliveryId)
    : Stepped config world
        { world with
          db := { world.db with notificationDeliveries }
          deliveryBatches := Function.update world.deliveryBatches workerId batch }
  | delivered {workerId : String} {deliveryId : Int} {delivery : ClaimedNotificationDelivery}
      {outcome : DeliveryOutcome}
      (holds : (world.deliveryBatches workerId).find? deliveryId = some delivery)
      (stepped : DeliveryStepped config world.db world.now workerId delivery outcome)
    : Stepped config world (world.afterDelivery workerId deliveryId outcome)
  /-- A handler ran a statement, was refused one, or went away. -/
  | served {db : Database} (handlers : List PendingResolution)
      (effect : ApiEffect world.now world.db db)
    : Stepped config world { world with db, handlers }

/-- A table without rows finds nothing. -/
theorem find?_of_isEmpty {Row : Type*} {key : Row → Int} {table : Table Row key}
    (empty : table.rows.isEmpty = true) (wanted : Int)
    : table.find? wanted = none := by
  rw [Table.find?_eq_none, List.isEmpty_iff.mp empty]
  exact fun _ member => nomatch member

/-- Every action of the system goes in one of those ways. -/
theorem step_cases {config : DeliveryConfig} {world after : World} {action : Action}
    (taken : step config world action = some after)
    : Stepped config world after := by
  cases action with
  | advanceClock later =>
      simp only [step] at taken
      split at taken
      · next ordered =>
          cases taken
          exact .waited ordered
      · cases taken
  | claimSiteMonitors workerId limit leaseSeconds locked =>
      simp only [step] at taken
      split at taken
      · next empty =>
          cases taken
          refine .claimedMonitors leaseSeconds (find?_of_isEmpty empty) fun siteMonitorId => ?_
          rcases claimSiteMonitorsDueForCheck_cases world.db world.now workerId limit
              leaseSeconds locked siteMonitorId with
            ⟨same, passed⟩ | ⟨monitor, found, due, stored, claimed⟩
          · refine .inl ⟨same, ?_⟩
            rw [Table.find?_collect, passed, Option.bind_none]
          · refine .inr ⟨monitor, locked, found, due, stored, ?_⟩
            rw [Table.find?_collect, claimed, Option.bind_some]
      · cases taken
  | check workerId siteMonitorId checkAction =>
      obtain ⟨job, holds, rest⟩ := Option.bind_eq_some_iff.mp taken
      obtain ⟨outcome, stepped, rest⟩ := Option.bind_eq_some_iff.mp rest
      cases rest
      exact .checked holds (checkStep_cases stepped)
  | claimDeliveries workerId limit leaseSeconds locked =>
      simp only [step] at taken
      split at taken
      · next empty =>
          cases taken
          exact .claimedDeliveries leaseSeconds (find?_of_isEmpty empty) fun deliveryId =>
            claimDueDeliveries_cases world.db world.now workerId limit leaseSeconds locked
              deliveryId
      · cases taken
  | deliver workerId deliveryId deliveryAction =>
      obtain ⟨delivery, holds, rest⟩ := Option.bind_eq_some_iff.mp taken
      obtain ⟨outcome, stepped, rest⟩ := Option.bind_eq_some_iff.mp rest
      cases rest
      exact .delivered holds (deliveryStep_cases stepped)
  | request request =>
      simp only [step] at taken
      split at taken
      · next started =>
          cases taken
          exact .served _ (startRequest_effect started)
      · cases taken
        exact .served world.handlers (.elsewhere (fun _ => id) rfl rfl rfl rfl)
  | finishHandler index =>
      obtain ⟨pending, _, rest⟩ := Option.bind_eq_some_iff.mp taken
      cases rest
      exact .served _ (resolve_effect pending)
  | dropHandler index =>
      cases taken
      exact .served _ (.elsewhere (fun _ => id) rfl rfl rfl rfl)

------------------------------------------------------------
-- Jobs of workers
------------------------------------------------------------

/-- How a worker comes to hold a check job: it held it before, it just claimed the monitor, or
the job moved on to another phase.
-/
theorem Stepped.job_cases {config : DeliveryConfig} {world after : World} {workerId : String}
    {siteMonitorId : Int} {job : CheckJob} (stepped : Stepped config world after)
    (held : (after.checkBatches workerId).find? siteMonitorId = some job)
    : (world.checkBatches workerId).find? siteMonitorId = some job
      ∨ (∃ (monitor : SiteMonitor) (locked : List Int) (leaseSeconds : Int),
          monitor.dueForCheck world.db world.now locked = true
          ∧ job = .start world.claimsIssued (monitor.asClaimed world.now workerId leaseSeconds)
          ∧ after.claimsIssued = world.claimsIssued + 1
          ∧ after.db.sites = world.db.sites)
      ∨ (∃ prior outcome,
          (world.checkBatches workerId).find? siteMonitorId = some prior
          ∧ CheckStepped world.db world.now workerId prior outcome
          ∧ outcome.phase = some job.phase
          ∧ job.siteMonitor = prior.siteMonitor
          ∧ job.claimNumber = prior.claimNumber
          ∧ after = world.afterCheck workerId siteMonitorId outcome) := by
  cases stepped with
  | waited _ | claimedDeliveries _ _ _ | delivered _ _ | served _ _ => exact .inl held
  | @claimedMonitors claimer leaseSeconds _ _ idle claim =>
      by_cases same : workerId = claimer
      · subst same
        simp only [Function.update_self] at held
        rcases claim siteMonitorId with ⟨_, passed⟩ | ⟨monitor, locked, _, due, _, started⟩
        · cases passed.symm.trans held
        · cases started.symm.trans held
          exact .inr (.inl ⟨monitor, locked, leaseSeconds, due, rfl, rfl, rfl⟩)
      · simp only [ne_eq, same, not_false_eq_true, Function.update_of_ne] at held
        exact .inl held
  | @checked checker checkedId before outcome holds checked =>
      by_cases same : workerId = checker
      · subst same
        simp only [World.afterCheck, Function.update_self] at held
        obtain ⟨prior, was, sameMonitor, sameNumber, ⟨rfl, moved⟩ | ⟨_, rfl⟩⟩ :=
          find?_setPhase_eq_some held
        · cases was.symm.trans holds
          exact .inr (.inr ⟨before, outcome, was, checked, moved, sameMonitor, sameNumber, rfl⟩)
        · exact .inl was
      · simp only [World.afterCheck, ne_eq, same, not_false_eq_true,
          Function.update_of_ne] at held
        exact .inl held

------------------------------------------------------------
-- Committed saves
------------------------------------------------------------

/-- The world after a save of a job committed. -/
def World.afterSave (world : World) (workerId : String) (job : CheckJob)
    (startedAt : Timestamp) (completed : CompletedMonitorCheck) (saved : Database)
    : World :=
  world.afterCheck workerId job.monitorId
    ⟨saved, none,
      some (job.commit workerId (completed.savedCheck world.db startedAt job.siteMonitor))⟩

/-- A save of a job that its worker holds committed. -/
inductive SaveCommitted (world : World) : CommittedCheck → World → Prop
  | intro {workerId : String} {job : CheckJob} {startedAt : Timestamp}
      {completed : CompletedMonitorCheck} {found : Option SiteMonitorIncident}
      {saved : Database}
      (holds : (world.checkBatches workerId).find? job.monitorId = some job)
      (deciding : job.phase = .deciding startedAt completed found)
      (effect : SaveEffect world.db startedAt job.siteMonitor workerId completed found saved)
    : SaveCommitted world
        (job.commit workerId (completed.savedCheck world.db startedAt job.siteMonitor))
        (world.afterSave workerId job startedAt completed saved)

/-- Only a save extends the record of commits. -/
theorem Stepped.saveCommitted {config : DeliveryConfig} {world after : World}
    {commit : CommittedCheck} (stepped : Stepped config world after)
    (extended : after.commits = world.commits ++ [commit])
    : SaveCommitted world commit after := by
  cases stepped with
  | waited _ | claimedMonitors _ _ _ | claimedDeliveries _ _ _ | delivered _ _ | served _ _ =>
      cases List.self_eq_append_right.mp extended
  | checked holds checked =>
      cases checked with
      | extended _ _ | released _ | waited _ | began _ | lookedUp _ | ended =>
          cases List.append_cancel_left extended
      | committed deciding effect =>
          obtain ⟨_, rfl⟩ := Table.mem_of_find? holds
          have same := List.append_cancel_left extended
          cases same
          exact .intro holds deciding effect

/-- The action that commits is the last statement of the save. -/
theorem action_of_commit {config : DeliveryConfig} {world after : World} {action : Action}
    {commit : CommittedCheck} (taken : step config world action = some after)
    (extended : after.commits = world.commits ++ [commit])
    : action = .check commit.workerId commit.check.siteMonitorId .commitSave := by
  cases action with
  | check workerId siteMonitorId checkAction =>
      obtain ⟨job, holds, rest⟩ := Option.bind_eq_some_iff.mp taken
      obtain ⟨outcome, stepped, rest⟩ := Option.bind_eq_some_iff.mp rest
      cases rest
      have added : outcome.committed.toList = [commit] := List.append_cancel_left extended
      cases committed : outcome.committed with
      | none =>
          rw [committed] at added
          cases added
      | some other =>
          rw [committed] at added
          cases added
          obtain ⟨rfl, rfl, sameMonitor⟩ := commitSave_of_committed stepped committed
          rw [sameMonitor, (Table.mem_of_find? holds).2]
  | advanceClock _ | claimSiteMonitors _ _ _ _ | claimDeliveries _ _ _ _ =>
      simp only [step] at taken
      split at taken
      · cases taken
        cases List.self_eq_append_right.mp extended
      · cases taken
  | deliver _ _ _ =>
      obtain ⟨_, _, rest⟩ := Option.bind_eq_some_iff.mp taken
      obtain ⟨_, _, rest⟩ := Option.bind_eq_some_iff.mp rest
      cases rest
      cases List.self_eq_append_right.mp extended
  | request _ =>
      simp only [step] at taken
      split at taken
      · cases taken
        cases List.self_eq_append_right.mp extended
      · cases taken
        cases List.self_eq_append_right.mp extended
  | finishHandler _ =>
      obtain ⟨_, _, rest⟩ := Option.bind_eq_some_iff.mp taken
      cases rest
      cases List.self_eq_append_right.mp extended
  | dropHandler _ =>
      cases taken
      cases List.self_eq_append_right.mp extended

end AlonSentinel.System
