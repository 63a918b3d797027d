import AlonSentinel.Notifications.DeliveryLease
import AlonSentinel.System.WorldSteps
import AlonSentinel.Worker.HistoryRetention

/-! The loops of the workers of one process around the statements that they execute: when a worker
claims what, and where it looks at the shutdown flag. The workers of other processes and the API
act in between.
-/

namespace AlonSentinel.System

open Configuration
open Domain
open KeyedTable
open Notifications
open TransitionSystem
open Worker

------------------------------------------------------------
-- The loop of a worker
------------------------------------------------------------

/-- Where a worker is in its loop. -/
inductive LoopPhase where
  /-- At the shutdown test that begins a round. -/
  | top
  | claimingMonitors
  | checking
  /-- At the shutdown test behind the checks. -/
  | beforeDeliveries
  /-- At the shutdown test of `deliver_due_notifications`. -/
  | enteringDeliveries
  | claimingDeliveries
  | delivering
  /-- At the shutdown test behind the deliveries. -/
  | beforeRetention
  | pruning
  | idle
  | stopped
  deriving DecidableEq

/-- The loop of a worker; `processedWork` is what the round has set so far. -/
structure WorkerLoop where
  phase : LoopPhase
  processedWork : Bool
  deriving DecidableEq

/-- What happens in a loop apart from the statements for monitors and deliveries. -/
inductive LoopEvent where
  /-- The next test of the flag, or the end of a batch. -/
  | proceed
  /-- A claim statement fails. -/
  | failClaim
  /-- The history of checks is pruned, or cannot be; the tables keep the rows here. -/
  | prune (deletedCount : Option Nat)
  /-- The idle delay is over. -/
  | wake

/-- The phase behind a test of the flag that ends the loop. -/
def unlessShutdown (shutdown : Bool) (phase : LoopPhase) : LoopPhase :=
  if shutdown then .stopped else phase

/-- `run` of a worker without its statements for monitors and deliveries. `checked` and `delivered`
tell that the worker is done with its batches.
-/
def WorkerLoop.next (shutdown checked delivered : Bool) (loop : WorkerLoop)
    : LoopEvent → Option WorkerLoop
  | .proceed =>
      match loop.phase with
      | .top => some ⟨unlessShutdown shutdown .claimingMonitors, false⟩
      | .checking => if checked then some { loop with phase := .beforeDeliveries } else none
      | .beforeDeliveries =>
          some { loop with phase := unlessShutdown shutdown .enteringDeliveries }
      | .enteringDeliveries =>
          some { loop with phase := if shutdown then .beforeRetention else .claimingDeliveries }
      | .delivering => if delivered then some { loop with phase := .beforeRetention } else none
      | .beforeRetention => some { loop with phase := unlessShutdown shutdown .pruning }
      | .idle => if shutdown then some { loop with phase := .stopped } else none
      | .claimingMonitors | .claimingDeliveries | .pruning | .stopped => none
  | .failClaim =>
      match loop.phase with
      | .claimingMonitors => some { loop with phase := .beforeDeliveries }
      | .claimingDeliveries => some { loop with phase := .beforeRetention }
      | _ => none
  | .prune deletedCount =>
      match loop.phase with
      | .pruning =>
          let processedWork := loop.processedWork || deletedCount.any (0 < ·)
          some ⟨if processedWork then .top else .idle, processedWork⟩
      | _ => none
  | .wake =>
      match loop.phase with
      | .idle => some { loop with phase := .top }
      | _ => none

------------------------------------------------------------
-- A process
------------------------------------------------------------

/-- The settings of a process, as they were read at its start. -/
structure WorkerSettings where
  config : Config
  accepted : ∃ getEnv, Config.fromEnvGetter getEnv = .ok config

theorem WorkerSettings.positive (settings : WorkerSettings) : settings.config.PositiveSettings := by
  obtain ⟨getEnv, accepted⟩ := settings.accepted
  exact Config.positiveSettings accepted

def WorkerSettings.delivery (settings : WorkerSettings) : DeliveryConfig where
  notificationMaxAttempts := settings.config.notificationMaxAttempts.toNat
  notificationRetryBaseSeconds := settings.config.notificationRetryBaseSeconds.toNat
  maxAttemptsPositive := UInt64.pos_iff_ne_zero.mpr settings.positive.maxAttempts
  retryBasePositive := UInt64.pos_iff_ne_zero.mpr settings.positive.retryBase

/-- How long a worker claims a monitor for, once it has read its row. -/
def checkLeaseSeconds (config : Config) (siteMonitor : SiteMonitor) : Int :=
  Worker.durationToLeaseSeconds
    (deriveSiteMonitorLeasePlan (resolveMonitorCheckPolicy siteMonitor config)
      config.leaseSiteCheckSeconds).initialLease

def deliveryLeaseSeconds (config : Config) : Int :=
  Notifications.durationToLeaseSeconds (deriveNotificationDeliveryLeasePlan config).initialLease

/-- A process with its workers and its shutdown flag. Names without a loop are those of workers of
other processes.
-/
structure Fleet where
  world : World
  loops : String → Option WorkerLoop
  shutdown : Bool

inductive FleetAction where
  | signalShutdown
  | loop (workerId : String) (event : LoopEvent)
  | act (action : Action)

/-- Whether a worker in the loop may do something for one of its monitors. -/
def WorkerLoop.checks (config : Config) (shutdown : Bool)
    (batch : Table CheckJob CheckJob.monitorId) (siteMonitorId : Int) (loop : WorkerLoop)
    (action : CheckAction)
    : Bool :=
  loop.phase = .checking
  && match action with
    | .ensureInitialLease leaseSeconds | .heartbeat leaseSeconds =>
        (batch.find? siteMonitorId).any fun job =>
          leaseSeconds = checkLeaseSeconds config job.siteMonitor
    -- Only a shutdown cancels a check.
    | .cancel => shutdown
    | .beginSave _ | .lookupIncident | .commitSave | .abandon => true

/-- Whether a worker in the loop may do something for one of its deliveries. -/
def WorkerLoop.delivers (config : Config) (shutdown : Bool) (loop : WorkerLoop)
    (action : DeliveryAction)
    : Bool :=
  loop.phase = .delivering
  && match action with
    | .extend leaseSeconds => leaseSeconds = deliveryLeaseSeconds config
    | .release => shutdown
    | .markDelivered | .recordFailure _ _ | .abandon => true

/-- Whether the loops let an action of the system happen. A negative limit fails the statement. -/
def Fleet.admits (config : Config) (fleet : Fleet) : Action → Bool
  | .claimSiteMonitors workerId limit leaseSeconds _ =>
      (fleet.loops workerId).all fun loop =>
        loop.phase = .claimingMonitors
        && limit = siteMonitorClaimLimit config
        && leaseSeconds = MachineInteger.asI64 config.leaseSiteCheckSeconds.toNat
  | .check workerId siteMonitorId action =>
      (fleet.loops workerId).all
        (·.checks config fleet.shutdown (fleet.world.checkBatches workerId) siteMonitorId action)
  | .claimDeliveries workerId limit leaseSeconds _ =>
      (fleet.loops workerId).all fun loop =>
        loop.phase = .claimingDeliveries
        && limit = notificationDeliveryClaimLimit config
        && leaseSeconds = deliveryLeaseSeconds config
  | .deliver workerId _ action =>
      (fleet.loops workerId).all (·.delivers config fleet.shutdown action)
  | .advanceClock _ | .request _ | .finishHandler _ | .dropHandler _ => true

/-- The loop of a worker behind a claim. -/
def WorkerLoop.afterMonitorClaim (world : World) (workerId : String) (loop : WorkerLoop)
    : WorkerLoop :=
  { loop with
    phase := .checking
    processedWork := !(world.checkBatches workerId).rows.isEmpty }

def WorkerLoop.afterDeliveryClaim (world : World) (workerId : String) (loop : WorkerLoop)
    : WorkerLoop :=
  { loop with
    phase := .delivering
    processedWork := loop.processedWork || !(world.deliveryBatches workerId).rows.isEmpty }

/-- The loops behind an action of the system that led to a world. -/
def Fleet.loopsAfter (fleet : Fleet) (world : World) : Action → String → Option WorkerLoop
  | .claimSiteMonitors workerId _ _ _ =>
      Function.update fleet.loops workerId
        ((fleet.loops workerId).map (·.afterMonitorClaim world workerId))
  | .claimDeliveries workerId _ _ _ =>
      Function.update fleet.loops workerId
        ((fleet.loops workerId).map (·.afterDeliveryClaim world workerId))
  | _ => fleet.loops

def fleetStep (settings : WorkerSettings) (fleet : Fleet) : FleetAction → Option Fleet
  | .signalShutdown => some { fleet with shutdown := true }
  | .loop workerId event => do
      let loop ← fleet.loops workerId
      let moved ←
        loop.next fleet.shutdown (fleet.world.checkBatches workerId).rows.isEmpty
          (fleet.world.deliveryBatches workerId).rows.isEmpty event
      return { fleet with loops := Function.update fleet.loops workerId (some moved) }
  | .act action =>
      if fleet.admits settings.config action then
        (step settings.delivery fleet.world action).map fun world =>
          { fleet with world, loops := fleet.loopsAfter world action }
      else
        none

/-- A process before its workers begin. -/
structure Fleet.Starts (fleet : Fleet) : Prop where
  fresh : Fresh fleet.world
  loops : ∀ workerId loop, fleet.loops workerId = some loop → loop = ⟨.top, false⟩
  running : fleet.shutdown = false

abbrev ReachedFleet (settings : WorkerSettings) : Fleet → Prop :=
  Reachable (fleetStep settings) Fleet.Starts

------------------------------------------------------------
-- One worker
------------------------------------------------------------

/-- A worker with its batches, and the flag that it looks at. -/
structure WorkerView where
  loop : WorkerLoop
  checks : Table CheckJob CheckJob.monitorId
  deliveries : Table ClaimedNotificationDelivery ClaimedNotificationDelivery.id
  shutdown : Bool

def Fleet.view (fleet : Fleet) (workerId : String) : Option WorkerView :=
  (fleet.loops workerId).map fun loop =>
    ⟨loop, fleet.world.checkBatches workerId, fleet.world.deliveryBatches workerId, fleet.shutdown⟩

/-- The worker that an action of the system is one of. -/
def Action.worker : Action → Option String
  | .claimSiteMonitors workerId _ _ _ | .check workerId _ _ | .claimDeliveries workerId _ _ _
  | .deliver workerId _ _ => some workerId
  | .advanceClock _ | .request _ | .finishHandler _ | .dropHandler _ => none

def FleetAction.worker : FleetAction → Option String
  | .signalShutdown => none
  | .loop workerId _ => some workerId
  | .act action => action.worker

/-- How many statements a job has still to execute at most, apart from heartbeats. -/
@[simp] def CheckPhase.statementsLeft : CheckPhase → Nat
  | .claimed => 4
  | .checking => 3
  | .saving _ _ => 2
  | .deciding _ _ _ => 1

@[simp] def CheckAction.isHeartbeat : CheckAction → Bool
  | .heartbeat _ => true
  | _ => false

def isExtension : DeliveryAction → Bool
  | .extend _ => true
  | _ => false

/-- What an action of the process is to one of its workers. -/
inductive ViewStep (config : Config) (workerId : String) (view : WorkerView)
    : FleetAction → WorkerView → Prop
  | elsewhere {action : FleetAction} (foreign : action.worker ≠ some workerId)
    : ViewStep config workerId view action view
  | signalled : ViewStep config workerId view .signalShutdown { view with shutdown := true }
  | looped {event : LoopEvent} {moved : WorkerLoop}
      (next
        : view.loop.next view.shutdown view.checks.rows.isEmpty view.deliveries.rows.isEmpty event
          = some moved)
    : ViewStep config workerId view (.loop workerId event) { view with loop := moved }
  | claimedMonitors {limit : Nat} {leaseSeconds : Int} {locked : List Int}
      {batch : Table CheckJob CheckJob.monitorId} {processedWork : Bool}
      (phase : view.loop.phase = .claimingMonitors)
      (within : batch.rows.length ≤ (siteMonitorClaimLimit config).toNat)
    : ViewStep config workerId view (.act (.claimSiteMonitors workerId limit leaseSeconds locked))
        { view with loop := ⟨.checking, processedWork⟩, checks := batch }
  | checked {siteMonitorId : Int} {job : CheckJob} {action : CheckAction}
      {phase : Option CheckPhase}
      (checking : view.loop.phase = .checking)
      (holds : view.checks.find? siteMonitorId = some job)
      (fewer
        : phase.elim 0 CheckPhase.statementsLeft + (if action.isHeartbeat then 0 else 1)
          ≤ job.phase.statementsLeft)
    : ViewStep config workerId view (.act (.check workerId siteMonitorId action))
        { view with checks := setPhase view.checks siteMonitorId phase }
  | claimedDeliveries {limit : Nat} {leaseSeconds : Int} {locked : List Int}
      {batch : Table ClaimedNotificationDelivery ClaimedNotificationDelivery.id}
      {processedWork : Bool}
      (phase : view.loop.phase = .claimingDeliveries)
      (within : batch.rows.length ≤ (notificationDeliveryClaimLimit config).toNat)
    : ViewStep config workerId view (.act (.claimDeliveries workerId limit leaseSeconds locked))
        { view with loop := ⟨.delivering, processedWork⟩, deliveries := batch }
  | delivered {deliveryId : Int} {delivery : ClaimedNotificationDelivery}
      {action : DeliveryAction} {isOver : Bool}
      (delivering : view.loop.phase = .delivering)
      (holds : view.deliveries.find? deliveryId = some delivery)
      (settles : isExtension action = false → isOver = true)
    : ViewStep config workerId view (.act (.deliver workerId deliveryId action))
        { view with
          deliveries := view.deliveries.select fun other => other.id != deliveryId || !isOver }

section Views

variable {settings : WorkerSettings} {config : Config} {fleet after : Fleet} {workerId : String}
  {view : WorkerView}

theorem CheckPhase.statementsLeft_pos (phase : CheckPhase) : 0 < phase.statementsLeft := by
  cases phase <;> simp

/-- A statement leaves a job fewer of them, a heartbeat as many. -/
theorem checkStep_fewer {db : Database} {now : Timestamp} {job : CheckJob} {action : CheckAction}
    {outcome : CheckOutcome} (stepped : checkStep db now workerId job action = some outcome)
    : outcome.phase.elim 0 CheckPhase.statementsLeft + (if action.isHeartbeat then 0 else 1)
      ≤ job.phase.statementsLeft := by
  cases action with
  | ensureInitialLease leaseSeconds =>
      simp only [checkStep] at stepped
      split at stepped
      · next phase =>
          cases stepped
          rw [phase]
          dsimp only
          split <;> simp
      · cases stepped
  | heartbeat _ | cancel | beginSave _ | lookupIncident =>
      simp only [checkStep] at stepped
      split at stepped
      · next phase =>
          cases stepped
          simp [phase]
      · cases stepped
  | commitSave =>
      simp only [checkStep] at stepped
      split at stepped
      · next phase =>
          split at stepped
          · cases stepped
            simp [phase]
          · cases stepped
            simp [phase]
      · cases stepped
  | abandon =>
      cases stepped
      exact job.phase.statementsLeft_pos

theorem deliveryStep_settles {config : DeliveryConfig} {db : Database} {now : Timestamp}
    {delivery : ClaimedNotificationDelivery} {action : DeliveryAction} {outcome : DeliveryOutcome}
    (stepped : deliveryStep config db now workerId delivery action = some outcome)
    (other : isExtension action = false)
    : outcome.isOver = true := by
  cases action with
  | extend leaseSeconds => cases other
  | recordFailure hostNow error =>
      obtain ⟨result, _, rfl⟩ := Option.map_eq_some_iff.mp stepped
      rfl
  | markDelivered | release | abandon =>
      cases stepped
      rfl

/-- A claim of monitors hands out no more of them than its limit allows. -/
theorem length_claimSiteMonitors_le (db : Database) (now : Timestamp) (limit : Nat)
    (leaseSeconds : Int) (locked : List Int)
    : (claimSiteMonitorsDueForCheck db now workerId limit leaseSeconds locked).2.rows.length
      ≤ limit := by
  refine (Table.length_select_keys_le _ _).trans ?_
  rw [Table.length_pick]
  exact Nat.min_le_left _ _

theorem length_claimDueDeliveries_le (db : Database) (now : Timestamp) (limit : Nat)
    (leaseSeconds : Int) (locked : List Int)
    : (claimDueDeliveries db now workerId limit leaseSeconds locked).2.rows.length ≤ limit := by
  refine (List.length_filterMap_le _ _).trans ((Table.length_select_keys_le _ _).trans ?_)
  rw [Table.length_pick]
  exact Nat.min_le_left _ _

/-- An action of the system is none of the other workers' business. -/
theorem batches_of_foreign {delivery : DeliveryConfig} {world next : World} {action : Action}
    (taken : step delivery world action = some next) (foreign : action.worker ≠ some workerId)
    : next.checkBatches workerId = world.checkBatches workerId
      ∧ next.deliveryBatches workerId = world.deliveryBatches workerId := by
  cases action with
  | claimSiteMonitors other _ _ _ | claimDeliveries other _ _ _ =>
      have different : workerId ≠ other := fun same => foreign (congrArg some same.symm)
      simp only [step] at taken
      split at taken
      · cases taken
        simp [different]
      · cases taken
  | check other _ _ | deliver other _ _ =>
      have different : workerId ≠ other := fun same => foreign (congrArg some same.symm)
      obtain ⟨_, _, rest⟩ := Option.bind_eq_some_iff.mp taken
      obtain ⟨_, _, rest⟩ := Option.bind_eq_some_iff.mp rest
      cases rest
      simp [different]
  | advanceClock later =>
      simp only [step] at taken
      split at taken <;> cases taken
      exact ⟨rfl, rfl⟩
  | request request =>
      simp only [step] at taken
      split at taken <;> cases taken <;> exact ⟨rfl, rfl⟩
  | finishHandler index =>
      obtain ⟨_, _, rest⟩ := Option.bind_eq_some_iff.mp taken
      cases rest
      exact ⟨rfl, rfl⟩
  | dropHandler index =>
      cases taken
      exact ⟨rfl, rfl⟩

/-- A step of the process is one of the system, or changes nothing there. -/
theorem world_of_fleetStep {action : FleetAction}
    (taken : fleetStep settings fleet action = some after)
    : after.world = fleet.world
      ∨ ∃ act, action = .act act ∧ step settings.delivery fleet.world act = some after.world := by
  cases action with
  | signalShutdown =>
      cases taken
      exact .inl rfl
  | loop other event =>
      obtain ⟨_, _, rest⟩ := Option.bind_eq_some_iff.mp taken
      obtain ⟨_, _, rest⟩ := Option.bind_eq_some_iff.mp rest
      cases rest
      exact .inl rfl
  | act action =>
      simp only [fleetStep] at taken
      split at taken
      · obtain ⟨world, stepped, rfl⟩ := Option.map_eq_some_iff.mp taken
        exact .inr ⟨action, rfl, stepped⟩
      · cases taken

/-- Every process is part of the system. -/
theorem reached_of_reachedFleet (reached : ReachedFleet settings fleet)
    : Reached settings.delivery fleet.world := by
  refine reached.invariant (fun fleet => Reached settings.delivery fleet.world)
    (fun start starts => .start starts.fresh) fun before action later _ ih taken => ?_
  rcases world_of_fleetStep taken with same | ⟨act, rfl, stepped⟩
  · exact same ▸ ih
  · exact ih.next stepped

/-- The loops behind an action are as before, but that of the worker who claims. -/
theorem loopsAfter_of_foreign {world : World} {action : Action}
    (foreign : action.worker ≠ some workerId)
    : fleet.loopsAfter world action workerId = fleet.loops workerId := by
  cases action with
  | claimSiteMonitors other _ _ _ | claimDeliveries other _ _ _ =>
      have different : workerId ≠ other := fun same => foreign (congrArg some same.symm)
      simp [Fleet.loopsAfter, different]
  | _ => rfl

/-- The action of a worker on its own batches, as the loop admits it. -/
theorem viewStep_of_own {world : World} {action : Action} {loop : WorkerLoop}
    (taken : step settings.delivery fleet.world action = some world)
    (admitted : fleet.admits settings.config action = true)
    (isLoop : fleet.loops workerId = some loop) (own : action.worker = some workerId)
    : ∃ next,
        Fleet.view { fleet with world, loops := fleet.loopsAfter world action } workerId = some next
        ∧ ViewStep settings.config workerId
            ⟨loop, fleet.world.checkBatches workerId, fleet.world.deliveryBatches workerId,
              fleet.shutdown⟩
            (.act action) next := by
  cases action with
  | claimSiteMonitors claimer limit leaseSeconds locked =>
      cases own
      simp only [Fleet.admits, isLoop, Option.all_some, Bool.and_eq_true, decide_eq_true_eq]
        at admitted
      obtain ⟨⟨phase, isLimit⟩, _⟩ := admitted
      simp only [step] at taken
      split at taken
      · cases taken
        refine ⟨_, by simp [Fleet.view, Fleet.loopsAfter, isLoop]; rfl, ?_⟩
        refine .claimedMonitors phase ?_
        rw [← isLimit, Int.toNat_natCast]
        refine (List.length_filterMap_le _ _).trans ?_
        exact length_claimSiteMonitors_le _ _ _ _ _
      · cases taken
  | check checker siteMonitorId checkAction =>
      cases own
      simp only [Fleet.admits, isLoop, Option.all_some, WorkerLoop.checks, Bool.and_eq_true,
        decide_eq_true_eq] at admitted
      obtain ⟨job, holds, rest⟩ := Option.bind_eq_some_iff.mp taken
      obtain ⟨outcome, stepped, rest⟩ := Option.bind_eq_some_iff.mp rest
      cases rest
      refine ⟨_, by simp [Fleet.view, Fleet.loopsAfter, isLoop]; rfl, ?_⟩
      exact .checked admitted.1 holds (checkStep_fewer stepped)
  | claimDeliveries claimer limit leaseSeconds locked =>
      cases own
      simp only [Fleet.admits, isLoop, Option.all_some, Bool.and_eq_true, decide_eq_true_eq]
        at admitted
      obtain ⟨⟨phase, isLimit⟩, _⟩ := admitted
      simp only [step] at taken
      split at taken
      · cases taken
        refine ⟨_, by simp [Fleet.view, Fleet.loopsAfter, isLoop]; rfl, ?_⟩
        refine .claimedDeliveries phase ?_
        rw [← isLimit, Int.toNat_natCast]
        exact length_claimDueDeliveries_le _ _ _ _ _
      · cases taken
  | deliver deliverer deliveryId deliveryAction =>
      cases own
      simp only [Fleet.admits, isLoop, Option.all_some, WorkerLoop.delivers, Bool.and_eq_true,
        decide_eq_true_eq] at admitted
      obtain ⟨delivery, holds, rest⟩ := Option.bind_eq_some_iff.mp taken
      obtain ⟨outcome, stepped, rest⟩ := Option.bind_eq_some_iff.mp rest
      cases rest
      refine ⟨_, by simp [Fleet.view, Fleet.loopsAfter, isLoop]; rfl, ?_⟩
      exact .delivered admitted.1 holds (deliveryStep_settles stepped)
  | advanceClock _ | request _ | finishHandler _ | dropHandler _ => cases own

/-- Each step of the process is one of every worker, or none of its business. -/
theorem viewStep_of_fleetStep {action : FleetAction}
    (taken : fleetStep settings fleet action = some after)
    (found : fleet.view workerId = some view)
    : ∃ next,
        after.view workerId = some next ∧ ViewStep settings.config workerId view action next := by
  obtain ⟨loop, isLoop, rfl⟩ := Option.map_eq_some_iff.mp found
  cases action with
  | signalShutdown =>
      cases taken
      exact ⟨_, by simp [Fleet.view, isLoop], .signalled⟩
  | loop other event =>
      obtain ⟨before, isBefore, rest⟩ := Option.bind_eq_some_iff.mp taken
      obtain ⟨moved, next, rest⟩ := Option.bind_eq_some_iff.mp rest
      cases rest
      by_cases same : workerId = other
      · subst same
        cases isLoop.symm.trans isBefore
        exact ⟨_, by simp [Fleet.view], .looped next⟩
      · refine ⟨_, by simp [Fleet.view, same, isLoop], .elsewhere ?_⟩
        exact fun own => same (Option.some.inj own).symm
  | act action =>
      simp only [fleetStep] at taken
      split at taken
      · next admitted =>
          obtain ⟨world, stepped, rfl⟩ := Option.map_eq_some_iff.mp taken
          by_cases own : action.worker = some workerId
          · exact viewStep_of_own stepped admitted isLoop own
          · obtain ⟨checks, deliveries⟩ := batches_of_foreign stepped own
            refine ⟨_, ?_, .elsewhere own⟩
            simp only [Fleet.view, loopsAfter_of_foreign own, isLoop, checks, deliveries]
            rfl
      · cases taken

/-- No worker joins the process later. -/
theorem loops_of_none {action : FleetAction} (taken : fleetStep settings fleet action = some after)
    (noLoop : fleet.loops workerId = none)
    : after.loops workerId = none := by
  cases action with
  | signalShutdown =>
      cases taken
      exact noLoop
  | loop other event =>
      obtain ⟨before, isBefore, rest⟩ := Option.bind_eq_some_iff.mp taken
      obtain ⟨moved, _, rest⟩ := Option.bind_eq_some_iff.mp rest
      cases rest
      have different : workerId ≠ other := by
        rintro rfl
        cases noLoop.symm.trans isBefore
      simp [different, noLoop]
  | act action =>
      simp only [fleetStep] at taken
      split at taken
      · obtain ⟨world, _, rfl⟩ := Option.map_eq_some_iff.mp taken
        cases action with
        | claimSiteMonitors other _ _ _ | claimDeliveries other _ _ _ =>
            by_cases same : workerId = other
            · subst same
              simp [Fleet.loopsAfter, noLoop]
            · simp [Fleet.loopsAfter, same, noLoop]
        | _ => exact noLoop
      · cases taken

end Views

------------------------------------------------------------
-- A small process
------------------------------------------------------------

/-- The settings of an environment without optional variables. -/
def defaultSettings : WorkerSettings where
  config := (Config.fromEnvGetter (environmentWith [])).toOption.get (by decide +kernel)
  accepted := ⟨environmentWith [], Fallible.eq_ok_get _⟩

/-- One worker on the small deployment. -/
def smallFleet : Fleet where
  world := smallWorld
  loops := fun workerId => if workerId = "w1" then some ⟨.top, false⟩ else none
  shutdown := false

theorem smallFleet_starts : smallFleet.Starts where
  fresh := smallWorld_fresh
  loops workerId loop isLoop := by
    simp only [smallFleet] at isLoop
    split at isLoop
    · exact (Option.some.inj isLoop).symm
    · cases isLoop
  running := rfl

/-- The worker claims the monitor and begins its check. -/
def firstCheck : List FleetAction :=
  [.loop "w1" .proceed, .act (.claimSiteMonitors "w1" 10 60 []),
    .act (.check "w1" 1 (.ensureInitialLease 60)), .act (.check "w1" 1 (.heartbeat 60))]

/-- The worker cancels the check and stops. -/
def lastStatements : List FleetAction :=
  [.act (.check "w1" 1 .cancel), .loop "w1" .proceed, .loop "w1" .proceed]

end AlonSentinel.System
