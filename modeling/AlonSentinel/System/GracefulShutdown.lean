import AlonSentinel.Foundation.Histories
import AlonSentinel.System.DeliveryRefinement
import AlonSentinel.System.IncidentInvariants
import AlonSentinel.System.WorkerLoops

/-! What the shutdown flag does to the workers of a process. Once it is set, a worker has a bounded
number of statements left whatever the others do, and it stops with nothing claimed.
-/

namespace AlonSentinel.System

open Configuration
open Domain
open KeyedTable
open LeaseProtocol
open Notifications
open TransitionSystem
open Worker

variable {settings : WorkerSettings} {config : Config} {fleet after : Fleet} {workerId : String}
  {view next : WorkerView} {action : FleetAction}

------------------------------------------------------------
-- Batches belong to phases
------------------------------------------------------------

/-- A worker holds monitors only while it checks them and deliveries only while it delivers them,
and never more of them than one claim hands out.
-/
structure WorkerView.Orderly (config : Config) (view : WorkerView) : Prop where
  checks : view.loop.phase ≠ .checking → view.checks.rows = []
  deliveries : view.loop.phase ≠ .delivering → view.deliveries.rows = []
  checkLimit : view.checks.rows.length ≤ (siteMonitorClaimLimit config).toNat
  deliveryLimit : view.deliveries.rows.length ≤ (notificationDeliveryClaimLimit config).toNat

/-- The loop leaves a batch only when the worker is done with it. -/
theorem WorkerLoop.next_leaves {shutdown checked delivered : Bool} {loop moved : WorkerLoop}
    {event : LoopEvent} (next : loop.next shutdown checked delivered event = some moved)
    : (loop.phase = .checking → checked = true)
      ∧ (loop.phase = .delivering → delivered = true) := by
  constructor
  all_goals
    intro phase
    cases event <;> simp [WorkerLoop.next, phase] at next
    exact next.1

theorem length_setPhase_le (batch : Table CheckJob CheckJob.monitorId) (siteMonitorId : Int)
    (phase : Option CheckPhase)
    : (setPhase batch siteMonitorId phase).rows.length ≤ batch.rows.length :=
  List.length_filterMap_le _ _

/-- Each step keeps the batches with their phases. One case for each kind of step. -/
theorem ViewStep.orderly (steps : ViewStep config workerId view action next)
    (orderly : view.Orderly config)
    : next.Orderly config := by
  cases steps with
  | elsewhere | signalled => exact ⟨orderly.checks, orderly.deliveries, orderly.checkLimit,
      orderly.deliveryLimit⟩
  | looped moves =>
      obtain ⟨checked, delivered⟩ := WorkerLoop.next_leaves moves
      refine ⟨fun _ => ?_, fun _ => ?_, orderly.checkLimit, orderly.deliveryLimit⟩
      · by_cases phase : view.loop.phase = .checking
        · exact List.isEmpty_iff.mp (checked phase)
        · exact orderly.checks phase
      · by_cases phase : view.loop.phase = .delivering
        · exact List.isEmpty_iff.mp (delivered phase)
        · exact orderly.deliveries phase
  | claimedMonitors phase within =>
      refine ⟨fun other => absurd rfl other, fun _ => ?_, within, orderly.deliveryLimit⟩
      exact orderly.deliveries (by rw [phase]; decide)
  | checked checking =>
      exact ⟨fun other => absurd checking other, orderly.deliveries,
        (length_setPhase_le _ _ _).trans orderly.checkLimit, orderly.deliveryLimit⟩
  | claimedDeliveries phase within =>
      refine ⟨fun _ => ?_, fun other => absurd rfl other, orderly.checkLimit, within⟩
      exact orderly.checks (by rw [phase]; decide)
  | delivered delivering =>
      exact ⟨orderly.checks, fun other => absurd delivering other, orderly.checkLimit,
        (List.length_filter_le _ _).trans orderly.deliveryLimit⟩

theorem orderly_of_reached (reached : ReachedFleet settings fleet)
    (found : fleet.view workerId = some view)
    : view.Orderly settings.config := by
  revert view
  refine reached.invariant
    (fun fleet => ∀ {view}, fleet.view workerId = some view → view.Orderly settings.config) ?_ ?_
  · intro start starts view found
    obtain ⟨loop, isLoop, rfl⟩ := Option.map_eq_some_iff.mp found
    have noChecks := starts.fresh.noCheckJobs workerId
    have noDeliveries := starts.fresh.noDeliveryJobs workerId
    refine ⟨fun _ => noChecks, fun _ => noDeliveries, ?_, ?_⟩
    · exact noChecks ▸ Nat.zero_le _
    · exact noDeliveries ▸ Nat.zero_le _
  · intro before action later _ ih taken view found
    cases isView : before.view workerId with
    | none =>
        have noLoop := loops_of_none taken (Option.map_eq_none_iff.mp isView)
        rw [Fleet.view, noLoop] at found
        cases found
    | some earlier =>
        obtain ⟨next, isNext, steps⟩ := viewStep_of_fleetStep taken isView
        cases isNext.symm.trans found
        exact steps.orderly (ih isView)

/-- A claim limit is at most the concurrency limit: the cast to a signed integer does not make it
larger.
-/
theorem toNat_claimLimit_le (batchSize concurrent : UInt64)
    : (MachineInteger.asI64 (min batchSize concurrent).toNat).toNat ≤ concurrent.toNat := by
  have least : (min batchSize concurrent).toNat ≤ concurrent.toNat := by
    change (if batchSize ≤ concurrent then batchSize else concurrent).toNat ≤ concurrent.toNat
    split
    · next below => exact UInt64.le_iff_toNat_le.mp below
    · exact le_rfl
  refine le_trans ?_ least
  generalize min batchSize concurrent = value
  by_cases fits : value.toNat ≤ MachineInteger.i64Max
  · rw [(MachineInteger.asI64_eq_self (MachineInteger.toNat_le_u64Max value)).mpr fits]
    exact le_rfl
  · have negative :=
      MachineInteger.asI64_neg (MachineInteger.toNat_le_u64Max value) (Nat.lt_of_not_le fits)
    omega

------------------------------------------------------------
-- Statements that are left
------------------------------------------------------------

/-- How many more actions a worker can take after the shutdown signal, apart from renewals of its
leases.
-/
def WorkerView.remaining (config : Config) (view : WorkerView) : Nat :=
  match view.loop.phase with
  | .stopped => 0
  | .top | .beforeDeliveries | .beforeRetention => 1
  | .idle | .enteringDeliveries => 2
  | .pruning => 3
  | .checking => (view.checks.rows.map fun job => job.phase.statementsLeft).sum + 2
  | .claimingMonitors => 4 * (siteMonitorClaimLimit config).toNat + 3
  | .delivering => view.deliveries.rows.length + 2
  | .claimingDeliveries => (notificationDeliveryClaimLimit config).toNat + 3

/-- Renewals of leases, which a worker makes as long as its checks and deliveries take. -/
def FleetAction.isRenewal : FleetAction → Bool
  | .act (.check _ _ action) => action.isHeartbeat
  | .act (.deliver _ _ action) => isExtension action
  | _ => false

/-- Actions of a worker on its way through the loop. -/
def FleetAction.advances (workerId : String) (action : FleetAction) : Bool :=
  action.worker = some workerId && !action.isRenewal

theorem CheckPhase.statementsLeft_le (phase : CheckPhase) : phase.statementsLeft ≤ 4 := by
  cases phase <;> simp

/-- A batch has four statements for each job at most. -/
theorem sum_statementsLeft_le (jobs : List CheckJob)
    : (jobs.map fun job => job.phase.statementsLeft).sum ≤ 4 * jobs.length := by
  induction jobs with
  | nil => exact le_rfl
  | cons job rest ih =>
      have first := job.phase.statementsLeft_le
      rw [List.map_cons, List.sum_cons, List.length_cons]
      omega

/-- One job of a batch is moved on or taken out, the others stay. -/
theorem rows_setPhase {batch : Table CheckJob CheckJob.monitorId} {siteMonitorId : Int}
    {job : CheckJob} (phase : Option CheckPhase)
    (holds : batch.find? siteMonitorId = some job)
    : ∃ before rest,
        batch.rows = before ++ job :: rest
        ∧ (setPhase batch siteMonitorId phase).rows
          = before ++ ((phase.map fun phase => { job with phase }).toList ++ rest) := by
  have same : job.monitorId = siteMonitorId := (Table.mem_of_find? holds).2
  have collected
      : ∃ before rest,
          batch.rows = before ++ job :: rest
          ∧ (setPhase batch siteMonitorId phase).rows
            = before
              ++ ((if job.monitorId = siteMonitorId then phase.map fun phase => { job with phase }
                  else some job).toList
                ++ rest) :=
    Table.rows_collect_of_find? holds fun other different => if_neg different
  simpa only [if_pos same] using collected

/-- The statements of a batch whose job under one id moves on. -/
theorem sum_setPhase {batch : Table CheckJob CheckJob.monitorId} {siteMonitorId : Int}
    {job : CheckJob} (phase : Option CheckPhase)
    (holds : batch.find? siteMonitorId = some job)
    : ((setPhase batch siteMonitorId phase).rows.map fun job => job.phase.statementsLeft).sum
        + job.phase.statementsLeft
      = (batch.rows.map fun job => job.phase.statementsLeft).sum
        + phase.elim 0 CheckPhase.statementsLeft := by
  obtain ⟨before, rest, rows, moved⟩ := rows_setPhase phase holds
  rw [rows, moved]
  cases phase with
  | none | some phase =>
      simp only [List.map_append, List.map_cons, List.sum_append, List.sum_cons, Option.map_none,
        Option.map_some, Option.toList_none, Option.toList_some, Option.elim_none,
        Option.elim_some, List.nil_append, List.cons_append]
      omega

/-- A delivery that is over leaves a shorter batch. -/
theorem length_select_lt
    {batch : Table ClaimedNotificationDelivery ClaimedNotificationDelivery.id} {deliveryId : Int}
    {delivery : ClaimedNotificationDelivery}
    (holds : batch.find? deliveryId = some delivery)
    : (batch.select fun other => other.id != deliveryId || !true).rows.length
      < batch.rows.length := by
  obtain ⟨stored, same⟩ := Table.mem_of_find? holds
  refine List.length_filter_lt_length_iff_exists.mpr ⟨delivery, stored, ?_⟩
  have isDelivery : delivery.id = deliveryId := same
  simp [isDelivery]

/-- An event of the loop uses up what is left of it. -/
theorem remaining_of_next {checked delivered : Bool} {event : LoopEvent} {moved : WorkerLoop}
    (moves : view.loop.next true checked delivered event = some moved)
    : WorkerView.remaining config { view with loop := moved } + 1 ≤ view.remaining config := by
  cases event with
  | proceed =>
      cases phase : view.loop.phase with
      | top | beforeDeliveries | enteringDeliveries | beforeRetention | idle =>
          simp only [WorkerLoop.next, phase, if_pos] at moves
          cases moves
          simp [WorkerView.remaining, phase, unlessShutdown]
      | checking | delivering =>
          simp only [WorkerLoop.next, phase] at moves
          split at moves
          · cases moves
            simp [WorkerView.remaining, phase]
          · cases moves
      | claimingMonitors | claimingDeliveries | pruning | stopped =>
          simp only [WorkerLoop.next, phase, reduceCtorEq] at moves
  | failClaim =>
      cases phase : view.loop.phase with
      | claimingMonitors | claimingDeliveries =>
          simp only [WorkerLoop.next, phase] at moves
          cases moves
          simp [WorkerView.remaining, phase]
      | _ => simp only [WorkerLoop.next, phase, reduceCtorEq] at moves
  | prune deletedCount =>
      cases phase : view.loop.phase with
      | pruning =>
          simp only [WorkerLoop.next, phase] at moves
          cases moves
          cases worked : view.loop.processedWork || deletedCount.any (0 < ·) with
          | true | false => simp [WorkerView.remaining, phase]
      | _ => simp only [WorkerLoop.next, phase, reduceCtorEq] at moves
  | wake =>
      cases phase : view.loop.phase with
      | idle =>
          simp only [WorkerLoop.next, phase] at moves
          cases moves
          simp [WorkerView.remaining, phase]
      | _ => simp only [WorkerLoop.next, phase, reduceCtorEq] at moves

/-- What is left of a worker after the shutdown signal does not grow, and gets less with every
action of its own but the renewals.
-/
theorem ViewStep.remaining_le (steps : ViewStep config workerId view action next)
    (shutdown : view.shutdown = true)
    : next.shutdown = true
      ∧ next.remaining config + (if action.advances workerId then 1 else 0)
        ≤ view.remaining config := by
  cases steps with
  | elsewhere foreign =>
      refine ⟨shutdown, ?_⟩
      simp [FleetAction.advances, foreign]
  | signalled =>
      exact ⟨rfl, le_rfl⟩
  | @looped event moved moves =>
      refine ⟨shutdown, ?_⟩
      rw [shutdown] at moves
      have own : (FleetAction.loop workerId event).advances workerId = true := by
        simp [FleetAction.advances, FleetAction.worker, FleetAction.isRenewal]
      rw [if_pos own]
      exact remaining_of_next moves
  | @claimedMonitors limit leaseSeconds locked batch processedWork phase within =>
      refine ⟨shutdown, ?_⟩
      have statements := sum_statementsLeft_le batch.rows
      simp only [WorkerView.remaining, phase]
      split <;> omega
  | @checked siteMonitorId job action moved checking holds fewer =>
      refine ⟨shutdown, ?_⟩
      have sums := sum_setPhase moved holds
      have advances
          : (FleetAction.act (.check workerId siteMonitorId action)).advances workerId
            = !action.isHeartbeat := by
        simp [FleetAction.advances, FleetAction.worker, Action.worker, FleetAction.isRenewal]
      simp only [WorkerView.remaining, checking, advances]
      cases isHeartbeat : action.isHeartbeat with
      | false | true =>
          rw [isHeartbeat] at fewer
          simp only [Bool.not_false, Bool.not_true, if_pos, Bool.false_eq_true, if_false] at fewer ⊢
          omega
  | @claimedDeliveries limit leaseSeconds locked batch processedWork phase within =>
      refine ⟨shutdown, ?_⟩
      simp only [WorkerView.remaining, phase]
      split <;> omega
  | @delivered deliveryId delivery action isOver delivering holds settles =>
      refine ⟨shutdown, ?_⟩
      have advances
          : (FleetAction.act (.deliver workerId deliveryId action)).advances workerId
            = !isExtension action := by
        simp [FleetAction.advances, FleetAction.worker, Action.worker, FleetAction.isRenewal]
      simp only [WorkerView.remaining, delivering, advances]
      cases extends_ : isExtension action with
      | false =>
          rw [settles extends_]
          have shorter := length_select_lt holds
          simp only [Bool.not_false, if_pos]
          omega
      | true =>
          have shorter := List.length_filter_le
            (fun other : ClaimedNotificationDelivery => other.id != deliveryId || !isOver)
            view.deliveries.rows
          exact Nat.add_le_add_right shorter 2

/-- A worker never has more left than two claims and their statements. -/
theorem WorkerView.Orderly.remaining_le (orderly : view.Orderly config)
    : view.remaining config
      ≤ 4 * (siteMonitorClaimLimit config).toNat
        + (notificationDeliveryClaimLimit config).toNat + 3 := by
  have statements := sum_statementsLeft_le view.checks.rows
  have checks := orderly.checkLimit
  have deliveries := orderly.deliveryLimit
  unfold WorkerView.remaining
  split <;> omega

/-- Claims of a worker. -/
def FleetAction.claims (workerId : String) : FleetAction → Bool
  | .act (.claimSiteMonitors claimer _ _ _) | .act (.claimDeliveries claimer _ _ _) =>
      claimer = workerId
  | _ => false

/-- Whether a worker is past the last test of the flag before a claim. -/
def LoopPhase.claimsLeft : LoopPhase → Nat
  | .claimingMonitors | .claimingDeliveries => 1
  | _ => 0

theorem claimsLeft_of_next {checked delivered : Bool} {loop moved : WorkerLoop} {event : LoopEvent}
    (moves : loop.next true checked delivered event = some moved)
    : moved.phase.claimsLeft ≤ loop.phase.claimsLeft := by
  cases event with
  | proceed =>
      cases phase : loop.phase with
      | top | beforeDeliveries | enteringDeliveries | beforeRetention | idle =>
          simp only [WorkerLoop.next, phase, if_pos] at moves
          cases moves
          exact le_rfl
      | checking | delivering =>
          simp only [WorkerLoop.next, phase] at moves
          split at moves <;> cases moves
          exact le_rfl
      | claimingMonitors | claimingDeliveries | pruning | stopped =>
          simp only [WorkerLoop.next, phase, reduceCtorEq] at moves
  | failClaim | wake =>
      simp only [WorkerLoop.next] at moves
      split at moves <;> cases moves <;> exact Nat.zero_le _
  | prune deletedCount =>
      simp only [WorkerLoop.next] at moves
      split at moves <;> cases moves
      dsimp only
      split <;> exact Nat.zero_le _

/-- After the shutdown signal a worker claims only what it was about to claim. -/
theorem ViewStep.claimsLeft_le (steps : ViewStep config workerId view action next)
    (shutdown : view.shutdown = true)
    : next.loop.phase.claimsLeft + (if action.claims workerId then 1 else 0)
      ≤ view.loop.phase.claimsLeft := by
  cases steps with
  | elsewhere foreign =>
      have noClaim : action.claims workerId = false := by
        unfold FleetAction.claims
        split
        · exact decide_eq_false fun same => foreign (congrArg some same)
        · exact decide_eq_false fun same => foreign (congrArg some same)
        · rfl
      rw [noClaim]
      exact le_rfl
  | looped moves =>
      rw [shutdown] at moves
      exact claimsLeft_of_next moves
  | claimedMonitors phase _ | claimedDeliveries phase _ =>
      rw [phase]
      simp [FleetAction.claims, LoopPhase.claimsLeft]
  | signalled | checked _ _ _ | delivered _ _ _ => exact le_rfl

/-- Actions by which a worker gives up: statements that fail, and jobs that are dropped. -/
def FleetAction.isFailure : FleetAction → Bool
  | .loop _ .failClaim | .act (.check _ _ .abandon) | .act (.deliver _ _ .abandon) => true
  | _ => false

/-- A worker goes on in the next step, and not because something fails. -/
def GoesOn (settings : WorkerSettings) (fleet : Fleet) (workerId : String) : Prop :=
  ∃ action : FleetAction,
    action.advances workerId = true
    ∧ action.isFailure = false
    ∧ (fleetStep settings fleet action).isSome = true

/-- An action of the system that the loops admit and that is enabled there. -/
theorem goesOn_of_act (act : Action) (own : (FleetAction.act act).advances workerId = true)
    (works : (FleetAction.act act).isFailure = false)
    (admitted : fleet.admits settings.config act = true)
    (enabled : (step settings.delivery fleet.world act).isSome = true)
    : GoesOn settings fleet workerId := by
  refine ⟨.act act, own, works, ?_⟩
  rw [fleetStep, if_pos admitted, Option.isSome_map]
  exact enabled

section Progress

variable {loop : WorkerLoop} (isLoop : fleet.loops workerId = some loop)
include isLoop

/-- An event of the loop that is due. -/
theorem goesOn_of_event (event : LoopEvent)
    (due
      : (loop.next fleet.shutdown (fleet.world.checkBatches workerId).rows.isEmpty
          (fleet.world.deliveryBatches workerId).rows.isEmpty event).isSome = true)
    (works : (FleetAction.loop workerId event).isFailure = false)
    : GoesOn settings fleet workerId := by
  refine ⟨.loop workerId event, ?_, works, ?_⟩
  · simp [FleetAction.advances, FleetAction.worker, FleetAction.isRenewal]
  · obtain ⟨moved, moves⟩ := Option.isSome_iff_exists.mp due
    simp [fleetStep, isLoop, moves]

/-- A check that goes on: it is cancelled, or executes the next statement of its save. -/
theorem goesOn_of_job (shutdown : fleet.shutdown = true) (checking : loop.phase = .checking)
    {job : CheckJob} (stored : job ∈ (fleet.world.checkBatches workerId).rows)
    : GoesOn settings fleet workerId := by
  have holds : (fleet.world.checkBatches workerId).find? job.monitorId = some job :=
    Table.find?_key stored
  have statement
      : ∃ action : CheckAction,
          action.isHeartbeat = false
          ∧ (FleetAction.act (.check workerId job.monitorId action)).isFailure = false
          ∧ loop.checks settings.config fleet.shutdown (fleet.world.checkBatches workerId)
              job.monitorId action
            = true
          ∧ (checkStep fleet.world.db fleet.world.now workerId job action).isSome = true := by
    cases phase : job.phase with
    | claimed =>
        refine ⟨.ensureInitialLease (checkLeaseSeconds settings.config job.siteMonitor), rfl, rfl,
          ?_, ?_⟩
        · exact Bool.and_eq_true_iff.mpr ⟨decide_eq_true checking,
            (Option.any_eq_true _ _).mpr ⟨job, holds, decide_eq_true rfl⟩⟩
        · simp [checkStep, phase]
    | checking =>
        refine ⟨.cancel, rfl, rfl, ?_, ?_⟩
        · simp [WorkerLoop.checks, checking, shutdown]
        · simp [checkStep, phase]
    | saving startedAt completed =>
        refine ⟨.lookupIncident, rfl, rfl, ?_, ?_⟩
        · simp [WorkerLoop.checks, checking]
        · simp [checkStep, phase]
    | deciding startedAt completed found =>
        refine ⟨.commitSave, rfl, rfl, ?_, ?_⟩
        · simp [WorkerLoop.checks, checking]
        · simp only [checkStep, phase]
          split <;> rfl
  obtain ⟨action, notHeartbeat, works, admitted, stepped⟩ := statement
  obtain ⟨outcome, stepped⟩ := Option.isSome_iff_exists.mp stepped
  refine ⟨.act (.check workerId job.monitorId action), ?_, works, ?_⟩
  · have advances
        : (FleetAction.act (.check workerId job.monitorId action)).advances workerId
          = !action.isHeartbeat := by
      simp [FleetAction.advances, FleetAction.worker, Action.worker, FleetAction.isRenewal]
    rw [advances, notHeartbeat]
    rfl
  · simp [fleetStep, Fleet.admits, isLoop, admitted, step, holds, stepped]

/-- A delivery that is cancelled. -/
theorem goesOn_of_delivery (shutdown : fleet.shutdown = true)
    (delivering : loop.phase = .delivering) {delivery : ClaimedNotificationDelivery}
    (stored : delivery ∈ (fleet.world.deliveryBatches workerId).rows)
    : GoesOn settings fleet workerId := by
  have holds : (fleet.world.deliveryBatches workerId).find? delivery.id = some delivery :=
    Table.find?_key stored
  refine ⟨.act (.deliver workerId delivery.id .release), ?_, rfl, ?_⟩
  · simp [FleetAction.advances, FleetAction.worker, Action.worker, FleetAction.isRenewal,
      isExtension]
  · have admitted
        : fleet.admits settings.config (.deliver workerId delivery.id .release) = true := by
      simp [Fleet.admits, isLoop, WorkerLoop.delivers, delivering, shutdown]
    simp [fleetStep, admitted, step, holds, deliveryStep]

/-- The `LIMIT` of neither claim is negative, which the database would reject. -/
structure LimitsNonnegative (config : Config) : Prop where
  siteMonitors : 0 ≤ siteMonitorClaimLimit config
  deliveries : 0 ≤ notificationDeliveryClaimLimit config

/-- After the shutdown signal a worker goes on until it has stopped. -/
theorem goesOn_of_shutdown
    (orderly
      : WorkerView.Orderly settings.config
          ⟨loop, fleet.world.checkBatches workerId, fleet.world.deliveryBatches workerId,
            fleet.shutdown⟩)
    (limits : LimitsNonnegative settings.config)
    (shutdown : fleet.shutdown = true) (works : loop.phase ≠ .stopped)
    : GoesOn settings fleet workerId := by
  cases phase : loop.phase with
  | stopped => exact absurd phase works
  | top | beforeDeliveries | enteringDeliveries | beforeRetention =>
      exact goesOn_of_event isLoop .proceed (by simp [WorkerLoop.next, phase]) rfl
  | idle =>
      exact goesOn_of_event isLoop .wake (by simp [WorkerLoop.next, phase]) rfl
  | pruning =>
      exact goesOn_of_event isLoop (.prune none) (by simp [WorkerLoop.next, phase]) rfl
  | checking =>
      cases batch : (fleet.world.checkBatches workerId).rows with
      | nil =>
          exact goesOn_of_event isLoop .proceed (by simp [WorkerLoop.next, phase, batch])
            rfl
      | cons job rest =>
          exact goesOn_of_job isLoop shutdown phase (batch ▸ List.mem_cons_self)
  | delivering =>
      cases batch : (fleet.world.deliveryBatches workerId).rows with
      | nil =>
          exact goesOn_of_event isLoop .proceed (by simp [WorkerLoop.next, phase, batch])
            rfl
      | cons delivery rest =>
          exact goesOn_of_delivery isLoop shutdown phase (batch ▸ List.mem_cons_self)
  | claimingMonitors =>
      have idle : (fleet.world.checkBatches workerId).rows = [] :=
        orderly.checks (by rw [phase]; decide)
      refine goesOn_of_act
        (.claimSiteMonitors workerId (siteMonitorClaimLimit settings.config).toNat
          (MachineInteger.asI64 settings.config.leaseSiteCheckSeconds.toNat) [])
        ?_ rfl ?_ ?_
      · simp [FleetAction.advances, FleetAction.worker, Action.worker, FleetAction.isRenewal]
      · rw [Fleet.admits, isLoop]
        exact Bool.and_eq_true_iff.mpr
          ⟨Bool.and_eq_true_iff.mpr
            ⟨decide_eq_true phase, decide_eq_true (Int.toNat_of_nonneg limits.siteMonitors)⟩,
            decide_eq_true rfl⟩
      · rw [step, idle]
        rfl
  | claimingDeliveries =>
      have idle : (fleet.world.deliveryBatches workerId).rows = [] :=
        orderly.deliveries (by rw [phase]; decide)
      refine goesOn_of_act
        (.claimDeliveries workerId (notificationDeliveryClaimLimit settings.config).toNat
          (deliveryLeaseSeconds settings.config) [])
        ?_ rfl ?_ ?_
      · simp [FleetAction.advances, FleetAction.worker, Action.worker, FleetAction.isRenewal]
      · rw [Fleet.admits, isLoop]
        exact Bool.and_eq_true_iff.mpr
          ⟨Bool.and_eq_true_iff.mpr
            ⟨decide_eq_true phase, decide_eq_true (Int.toNat_of_nonneg limits.deliveries)⟩,
            decide_eq_true rfl⟩
      · rw [step, idle]
        rfl

end Progress

------------------------------------------------------------
-- Claims of a worker
------------------------------------------------------------

section Claims

variable {delivery : DeliveryConfig} {world later : World} {siteMonitorId deliveryId : Int}

/-- A job that leaves a batch is one whose own action is its last. -/
theorem lastAction_of_gone {act : Action} {job : CheckJob}
    (taken : step delivery world act = some later)
    (holds : (world.checkBatches workerId).find? siteMonitorId = some job)
    (gone : (later.checkBatches workerId).find? siteMonitorId = none)
    : ∃ checkAction outcome,
        act = .check workerId siteMonitorId checkAction
        ∧ checkStep world.db world.now workerId job checkAction = some outcome
        ∧ outcome.phase = none
        ∧ later.db = outcome.db := by
  by_cases own : act.worker = some workerId
  · cases act with
    | claimSiteMonitors claimer limit leaseSeconds locked =>
        cases own
        simp only [step] at taken
        split at taken
        · next empty => cases (find?_of_isEmpty empty siteMonitorId).symm.trans holds
        · cases taken
    | check checker checkedId checkAction =>
        cases own
        obtain ⟨before, isBefore, rest⟩ := Option.bind_eq_some_iff.mp taken
        obtain ⟨outcome, stepped, rest⟩ := Option.bind_eq_some_iff.mp rest
        cases rest
        simp only [Function.update_self] at gone
        by_cases same : siteMonitorId = checkedId
        · subst same
          cases isBefore.symm.trans holds
          rw [find?_setPhase_self holds] at gone
          exact ⟨checkAction, outcome, rfl, stepped, Option.map_eq_none_iff.mp gone, rfl⟩
        · rw [find?_setPhase_of_ne same] at gone
          cases gone.symm.trans holds
    | claimDeliveries claimer limit leaseSeconds locked =>
        simp only [step] at taken
        split at taken <;> cases taken
        cases gone.symm.trans holds
    | deliver deliverer deliveryId deliveryAction =>
        obtain ⟨_, _, rest⟩ := Option.bind_eq_some_iff.mp taken
        obtain ⟨_, _, rest⟩ := Option.bind_eq_some_iff.mp rest
        cases rest
        cases gone.symm.trans holds
    | advanceClock _ | request _ | finishHandler _ | dropHandler _ => cases own
  · rw [(batches_of_foreign taken own).1] at gone
    cases gone.symm.trans holds

/-- The last statement of a check that is not abandoned gives the claim back, unless it was lost. -/
theorem notOwns_of_last {job : CheckJob} {checkAction : CheckAction} {outcome : CheckOutcome}
    (reached : Reached delivery world)
    (holds : (world.checkBatches workerId).find? siteMonitorId = some job)
    (stepped : checkStep world.db world.now workerId job checkAction = some outcome)
    (works : checkAction ≠ .abandon) (isLast : outcome.phase = none)
    : ¬Owns outcome.db siteMonitorId workerId := by
  obtain ⟨_, rfl⟩ := Table.mem_of_find? holds
  rintro ⟨moved, stored, claimed⟩
  cases checkAction with
  | ensureInitialLease leaseSeconds =>
      simp only [checkStep] at stepped
      split at stepped
      · by_cases owns : Owns world.db job.monitorId workerId
        · have updated
              : (extendSiteMonitorClaim world.db world.now job.monitorId workerId leaseSeconds).1
                = true :=
            claimGuard_iff.mpr owns
          rw [if_pos updated] at stepped
          cases stepped
          cases isLast
        · rw [extendSiteMonitorClaim_of_not_owns leaseSeconds owns] at stepped
          cases stepped
          exact owns ⟨moved, stored, claimed⟩
      · cases stepped
  | heartbeat _ | beginSave _ | lookupIncident =>
      simp only [checkStep] at stepped
      split at stepped <;> cases stepped
      cases isLast
  | cancel =>
      simp only [checkStep] at stepped
      split at stepped
      · cases stepped
        by_cases owns : Owns world.db job.monitorId workerId
        · obtain ⟨monitor, found, isOwner⟩ := owns
          rw [find?_releaseSiteMonitorClaim world.now found isOwner] at stored
          cases stored
          cases claimed
        · rw [releaseSiteMonitorClaim_of_not_owns owns] at stored
          exact owns ⟨moved, stored, claimed⟩
      · cases stepped
  | commitSave =>
      simp only [checkStep] at stepped
      split at stepped
      · next startedAt completed found deciding =>
          split at stepped
          -- The save of an owner does not fail.
          · next failed =>
              cases stepped
              obtain ⟨saved, commits⟩ :=
                ownersCommit reached _ _ _ _ _ _ holds deciding ⟨moved, stored, claimed⟩
              cases failed.symm.trans commits
          · next committed =>
              cases stepped
              have effect := saveCheckResult_ok committed
              obtain ⟨monitor, found, isOwner⟩ := claimGuard_iff.mp effect.claimed
              rw [monitor_of_save effect found isOwner] at stored
              cases stored
              cases claimed
      · cases stepped
  | abandon => exact works rfl

/-- A delivery that leaves a batch is one whose own action is its last. -/
theorem lastAction_of_goneDelivery {act : Action} {held : ClaimedNotificationDelivery}
    (taken : step delivery world act = some later)
    (holds : (world.deliveryBatches workerId).find? deliveryId = some held)
    (gone : (later.deliveryBatches workerId).find? deliveryId = none)
    : ∃ deliveryAction outcome,
        act = .deliver workerId deliveryId deliveryAction
        ∧ deliveryStep delivery world.db world.now workerId held deliveryAction = some outcome
        ∧ outcome.isOver = true
        ∧ later.db = outcome.db := by
  by_cases own : act.worker = some workerId
  · cases act with
    | claimSiteMonitors claimer limit leaseSeconds locked =>
        simp only [step] at taken
        split at taken <;> cases taken
        cases gone.symm.trans holds
    | check checker checkedId checkAction =>
        obtain ⟨_, _, rest⟩ := Option.bind_eq_some_iff.mp taken
        obtain ⟨_, _, rest⟩ := Option.bind_eq_some_iff.mp rest
        cases rest
        cases gone.symm.trans holds
    | claimDeliveries claimer limit leaseSeconds locked =>
        cases own
        simp only [step] at taken
        split at taken
        · next empty => cases (find?_of_isEmpty empty deliveryId).symm.trans holds
        · cases taken
    | deliver deliverer deliveredId deliveryAction =>
        cases own
        obtain ⟨before, isBefore, rest⟩ := Option.bind_eq_some_iff.mp taken
        obtain ⟨outcome, stepped, rest⟩ := Option.bind_eq_some_iff.mp rest
        cases rest
        simp only [Function.update_self, Table.find?_select, holds] at gone
        have isHeld : held.id = deliveryId := (Table.mem_of_find? holds).2
        by_cases same : deliveryId = deliveredId
        · subst same
          cases isBefore.symm.trans holds
          refine ⟨deliveryAction, outcome, rfl, stepped, ?_, rfl⟩
          simpa [Option.filter, isHeld] using gone
        · simp [Option.filter, isHeld, same] at gone
    | advanceClock _ | request _ | finishHandler _ | dropHandler _ => cases own
  · rw [(batches_of_foreign taken own).2] at gone
    cases gone.symm.trans holds

/-- The last statement of a delivery that is not abandoned gives the claim back, unless it was lost.
-/
theorem notOwnsDelivery_of_last {held : ClaimedNotificationDelivery}
    {deliveryAction : DeliveryAction} {outcome : DeliveryOutcome}
    (isHeld : held.id = deliveryId)
    (stepped
      : deliveryStep delivery world.db world.now workerId held deliveryAction = some outcome)
    (works : deliveryAction ≠ .abandon) (isLast : outcome.isOver = true)
    : ¬OwnsDelivery outcome.db deliveryId workerId := by
  subst isHeld
  rintro ⟨moved, stored, claimed⟩
  by_cases owns : OwnsDelivery world.db held.id workerId
  · obtain ⟨row, found, isOwner⟩ := owns
    cases deliveryAction with
    | extend leaseSeconds =>
        have updated
            : (extendDeliveryClaim world.db world.now held.id workerId leaseSeconds).1 = true :=
          deliveryGuard_iff.mpr ⟨row, found, isOwner⟩
        cases stepped
        change (!(extendDeliveryClaim world.db world.now held.id workerId leaseSeconds).1) = true
          at isLast
        rw [updated] at isLast
        cases isLast
    | markDelivered =>
        cases stepped
        have marked := find?_markDelivered world.now found isOwner
        cases stored.symm.trans marked
        cases claimed
    | recordFailure hostNow error =>
        obtain ⟨result, handled, rfl⟩ := Option.map_eq_some_iff.mp stepped
        obtain ⟨nextAttemptAt, _, rfl⟩ := Option.map_eq_some_iff.mp handled
        rw [find?_markFailed world.now error.text nextAttemptAt found isOwner] at stored
        cases stored
        cases claimed
    | release =>
        cases stepped
        have released := find?_releaseDeliveryClaim world.now found isOwner
        cases stored.symm.trans released
        cases claimed
    | abandon => exact works rfl
  · have unchanged : outcome.db = world.db := by
      cases deliveryStep_cases stepped with
      | extended _ isOwner | released isOwner | delivered isOwner | failed _ isOwner _ =>
          exact absurd isOwner owns
      | ended => rfl
    rw [unchanged] at stored
    exact owns ⟨moved, stored, claimed⟩

/-- Actions by which a worker gives up a job without settling its claim. -/
def FleetAction.abandons (workerId : String) : FleetAction → Bool
  | .act (.check checker _ .abandon) => checker = workerId
  | .act (.deliver deliverer _ .abandon) => deliverer = workerId
  | _ => false

/-- Whatever a worker has claimed, it is still working on. -/
structure ClaimsBacked (workerId : String) (world : World) : Prop where
  monitors : ∀ siteMonitorId, Backed workerId (monitorState world siteMonitorId)
  deliveries : ∀ deliveryId, Backed workerId (deliveryState world deliveryId)

/-- An action of the system leaves claims backed, if the worker does not abandon a job by it. -/
theorem ClaimsBacked.step {act : Action} (backed : ClaimsBacked workerId world)
    (reached : Reached delivery world) (taken : step delivery world act = some later)
    (keeps : (FleetAction.act act).abandons workerId = false)
    : ClaimsBacked workerId later := by
  constructor
  · intro siteMonitorId
    rcases (step_cases taken).refines (foundOwn_of_reached reached) siteMonitorId with same | steps
    · exact same ▸ backed.monitors siteMonitorId
    · refine steps.backed (backed.monitors siteMonitorId) fun held gone owner => ?_
      obtain ⟨job, holds⟩ := Option.ne_none_iff_exists'.mp held
      obtain ⟨checkAction, outcome, rfl, stepped, isLast, db⟩ := lastAction_of_gone taken holds gone
      have works : checkAction ≠ .abandon := by
        rintro rfl
        simp [FleetAction.abandons] at keeps
      have owns := monitorState_owner.mp owner
      rw [db] at owns
      exact notOwns_of_last reached holds stepped works isLast owns
  · intro deliveryId
    rcases (step_cases taken).refinesDelivery deliveryId with same | steps
    · exact same ▸ backed.deliveries deliveryId
    · refine steps.backed (backed.deliveries deliveryId) fun isHeld gone owner => ?_
      obtain ⟨held, holds⟩ := Option.ne_none_iff_exists'.mp isHeld
      obtain ⟨deliveryAction, outcome, rfl, stepped, isLast, db⟩ :=
        lastAction_of_goneDelivery taken holds gone
      have works : deliveryAction ≠ .abandon := by
        rintro rfl
        simp [FleetAction.abandons] at keeps
      have owns := deliveryState_owner.mp owner
      rw [db] at owns
      exact notOwnsDelivery_of_last (Table.mem_of_find? holds).2 stepped works isLast owns

end Claims

/-- A worker keeps its claims backed as long as it abandons no job. -/
theorem claimsBacked_of_path {start finish : Fleet} (starts : start.Starts)
    (unclaimed
      : ∀ monitor ∈ start.world.db.siteMonitors.rows, monitor.checkClaimedBy ≠ some workerId)
    (path
      : Relation.ReflTransGen
          (NextWhere (fleetStep settings) fun _ action _ => action.abandons workerId = false)
          start finish)
    : ReachedFleet settings finish ∧ ClaimsBacked workerId finish.world := by
  refine Reachable.along
    (fun before action later reached (backed : ClaimsBacked workerId before.world) taken keeps =>
      ?_)
    (Reachable.start starts) ?_ path
  · rcases world_of_fleetStep taken with same | ⟨act, rfl, stepped⟩
    · exact same ▸ backed
    · exact backed.step (reached_of_reachedFleet reached) stepped keeps
  · constructor
    · intro siteMonitorId owner
      obtain ⟨monitor, found, claimed⟩ := monitorState_owner.mp owner
      exact absurd claimed (unclaimed monitor (Table.mem_of_find? found).1)
    · intro deliveryId owner
      obtain ⟨delivery, found, _⟩ := deliveryState_owner.mp owner
      have stored := (Table.mem_of_find? found).1
      rw [starts.fresh.noDeliveries] at stored
      cases stored

------------------------------------------------------------
-- The workers of a process
------------------------------------------------------------

/-- What a worker holds, with the limits of its concurrency. -/
structure HoldsInPhase (settings : WorkerSettings) (world : World) (workerId : String)
    (loop : WorkerLoop)
    : Prop where
  checks : loop.phase ≠ .checking → (world.checkBatches workerId).rows = []
  deliveries : loop.phase ≠ .delivering → (world.deliveryBatches workerId).rows = []
  checkLimit
    : (world.checkBatches workerId).rows.length ≤ settings.config.maxHttpConcurrentChecks.toNat
  deliveryLimit
    : (world.deliveryBatches workerId).rows.length
      ≤ settings.config.maxNotificationConcurrentDeliveries.toNat

/-- In every interleaving with other workers and processes, a worker holds monitors only while it
checks and deliveries only while it delivers, and never more of them than it works on at once.
-/
theorem workers_holdInPhase {loop : WorkerLoop} (reached : ReachedFleet settings fleet)
    (isLoop : fleet.loops workerId = some loop)
    : HoldsInPhase settings fleet.world workerId loop := by
  have isView : fleet.view workerId = some _ := congrArg (Option.map _) isLoop
  have orderly := orderly_of_reached reached isView
  refine ⟨orderly.checks, orderly.deliveries, ?_, ?_⟩
  · exact orderly.checkLimit.trans (toNat_claimLimit_le _ _)
  · exact orderly.deliveryLimit.trans (toNat_claimLimit_le _ _)

/-- The worker of the small process checks its monitor. -/
theorem workers_holdInPhase_firstCheck
    : ∃ fleet loop,
        run (fleetStep defaultSettings) smallFleet firstCheck = some fleet
        ∧ fleet.loops "w1" = some loop
        ∧ (fleet.world.checkBatches "w1").rows.length = 1
        ∧ HoldsInPhase defaultSettings fleet.world "w1" loop := by
  have scenario
      : ((run (fleetStep defaultSettings) smallFleet firstCheck).any fun fleet =>
          (fleet.loops "w1").isSome && (fleet.world.checkBatches "w1").rows.length = 1)
        = true := by
    decide +kernel
  obtain ⟨fleet, ran, scenario⟩ := (Option.any_eq_true _ _).mp scenario
  obtain ⟨isLoop, held⟩ := Bool.and_eq_true_iff.mp scenario
  obtain ⟨loop, isLoop⟩ := Option.isSome_iff_exists.mp isLoop
  exact ⟨fleet, loop, ran, isLoop, of_decide_eq_true held,
    workers_holdInPhase (Reachable.of_run smallFleet_starts ran) isLoop⟩

/-- After the shutdown signal, a budget that the steps of one worker use up bounds the actions that
are counted against it, whatever the order of steps.
-/
theorem countP_le_of_views {counted : FleetAction → Bool} {left : WorkerView → Nat}
    (uses
      : ∀ view action next,
          ViewStep settings.config workerId view action next
          → view.shutdown = true
          → left next + (if counted action then 1 else 0) ≤ left view)
    {actions : List FleetAction} {finish : Fleet} (found : fleet.view workerId = some view)
    (shutdown : view.shutdown = true)
    (ran : run (fleetStep settings) fleet actions = some finish)
    : actions.countP counted ≤ left view
      ∧ ∃ last, finish.view workerId = some last ∧ last.shutdown = true := by
  have kept
      : ∀ before action later,
          (∃ view, Fleet.view before workerId = some view ∧ view.shutdown = true)
          → fleetStep settings before action = some later
          → (∃ view, Fleet.view later workerId = some view ∧ view.shutdown = true)
            ∧ (later.view workerId).elim 0 left + (if counted action then 1 else 0)
              ≤ (before.view workerId).elim 0 left := by
    rintro before action later ⟨view, isView, shutdown⟩ taken
    obtain ⟨next, isNext, steps⟩ := viewStep_of_fleetStep taken isView
    refine ⟨⟨next, isNext, (steps.remaining_le shutdown).1⟩, ?_⟩
    rw [isNext, isView]
    exact uses view action next steps shutdown
  obtain ⟨last, used⟩ := countP_le_budget kept ⟨view, found, shutdown⟩ ran
  rw [found] at used
  exact ⟨Nat.le_trans (Nat.le_add_right _ _) used, last⟩

/-- After the shutdown signal a worker executes at most the claim that it was about to execute, and
no more than so many actions apart from renewals of its leases, whatever the others do. Until it
has stopped, it can go on without anything failing; if a claim limit is negative, its claim fails.
-/
theorem shutdown_isBounded {loop : WorkerLoop} {actions : List FleetAction} {finish : Fleet}
    (reached : ReachedFleet settings fleet) (shutdown : fleet.shutdown = true)
    (isLoop : fleet.loops workerId = some loop)
    (ran : run (fleetStep settings) fleet actions = some finish)
    : actions.countP (·.claims workerId) ≤ 1
      ∧ actions.countP (·.advances workerId)
        ≤ 4 * (siteMonitorClaimLimit settings.config).toNat
          + (notificationDeliveryClaimLimit settings.config).toNat + 3
      ∧ ∃ last,
          finish.loops workerId = some last
          ∧ (LimitsNonnegative settings.config
            → last.phase ≠ .stopped
            → GoesOn settings finish workerId) := by
  have isView : fleet.view workerId = some _ := congrArg (Option.map _) isLoop
  obtain ⟨claims, last, isLast, stillShutdown⟩ :=
    countP_le_of_views (fun _ _ _ steps shutdown => steps.claimsLeft_le shutdown) isView shutdown
      ran
  obtain ⟨advances, _⟩ :=
    countP_le_of_views (fun _ _ _ steps shutdown => (steps.remaining_le shutdown).2) isView shutdown
      ran
  have finished := reached.path (path_of_run ran)
  have orderly := orderly_of_reached finished isLast
  obtain ⟨lastLoop, isLastLoop, rfl⟩ := Option.map_eq_some_iff.mp isLast
  refine ⟨claims.trans ?_, advances.trans (orderly_of_reached reached isView).remaining_le,
    lastLoop, isLastLoop, ?_⟩
  · unfold LoopPhase.claimsLeft
    split <;> decide
  · exact fun limits => goesOn_of_shutdown isLastLoop orderly limits stillShutdown

/-- The worker of the small process stops within its bound. -/
theorem shutdown_isBounded_firstCheck
    : ∃ fleet finish,
        run (fleetStep defaultSettings) smallFleet (firstCheck ++ [.signalShutdown]) = some fleet
        ∧ run (fleetStep defaultSettings) fleet lastStatements = some finish
        ∧ lastStatements.countP (·.claims "w1") ≤ 1
        ∧ lastStatements.countP (·.advances "w1") ≤ 53
        ∧ ∃ last,
            finish.loops "w1" = some last
            ∧ (last.phase ≠ .stopped → GoesOn defaultSettings finish "w1") := by
  have limits
      : siteMonitorClaimLimit defaultSettings.config = 10
        ∧ notificationDeliveryClaimLimit defaultSettings.config = 10 := by
    decide +kernel
  have scenario
      : ((run (fleetStep defaultSettings) smallFleet (firstCheck ++ [.signalShutdown])).any
          fun fleet =>
            (fleet.loops "w1").isSome
            && fleet.shutdown
            && (run (fleetStep defaultSettings) fleet lastStatements).isSome)
        = true := by
    decide +kernel
  obtain ⟨fleet, signalled, scenario⟩ := (Option.any_eq_true _ _).mp scenario
  obtain ⟨scenario, ran⟩ := Bool.and_eq_true_iff.mp scenario
  obtain ⟨isLoop, shutdown⟩ := Bool.and_eq_true_iff.mp scenario
  obtain ⟨loop, isLoop⟩ := Option.isSome_iff_exists.mp isLoop
  obtain ⟨finish, ran⟩ := Option.isSome_iff_exists.mp ran
  obtain ⟨claims, advances, last, isLast, goesOn⟩ :=
    shutdown_isBounded (Reachable.of_run smallFleet_starts signalled) shutdown isLoop ran
  rw [limits.1, limits.2] at advances
  exact ⟨fleet, finish, signalled, ran, claims, advances, last, isLast,
    goesOn ⟨limits.1 ▸ by decide, limits.2 ▸ by decide⟩⟩

/-- A worker that abandons no job leaves no claim behind: when it is not at its checks it owns no
monitor, and when it is not at its deliveries it owns no delivery. So it has none once it stopped.
-/
theorem workers_leaveNoClaims {loop : WorkerLoop} {start finish : Fleet} (starts : start.Starts)
    (unclaimed
      : ∀ monitor ∈ start.world.db.siteMonitors.rows, monitor.checkClaimedBy ≠ some workerId)
    (path
      : Relation.ReflTransGen
          (NextWhere (fleetStep settings) fun _ action _ => action.abandons workerId = false)
          start finish)
    (isLoop : finish.loops workerId = some loop)
    : (loop.phase ≠ .checking → ∀ siteMonitorId, ¬Owns finish.world.db siteMonitorId workerId)
      ∧ (loop.phase ≠ .delivering
          → ∀ deliveryId, ¬OwnsDelivery finish.world.db deliveryId workerId) := by
  obtain ⟨reached, backed⟩ := claimsBacked_of_path starts unclaimed path
  have isView : finish.view workerId = some _ := congrArg (Option.map _) isLoop
  have orderly := orderly_of_reached reached isView
  constructor
  · intro phase siteMonitorId owns
    have nothing : (finish.world.checkBatches workerId).find? siteMonitorId = none :=
      find?_of_isEmpty (List.isEmpty_iff.mpr (orderly.checks phase)) siteMonitorId
    exact backed.monitors siteMonitorId (monitorState_owner.mpr owns) nothing
  · intro phase deliveryId owns
    have nothing : (finish.world.deliveryBatches workerId).find? deliveryId = none :=
      find?_of_isEmpty (List.isEmpty_iff.mpr (orderly.deliveries phase)) deliveryId
    exact backed.deliveries deliveryId (deliveryState_owner.mpr owns) nothing

/-- The worker of the small process gives its claim back. -/
theorem workers_leaveNoClaims_firstCheck
    : ∃ finish,
        run (fleetStep defaultSettings) smallFleet
            (firstCheck ++ .signalShutdown :: lastStatements)
          = some finish
        ∧ (∀ siteMonitorId, ¬Owns finish.world.db siteMonitorId "w1")
        ∧ ∀ deliveryId, ¬OwnsDelivery finish.world.db deliveryId "w1" := by
  have scenario
      : ((run (fleetStep defaultSettings) smallFleet
            (firstCheck ++ .signalShutdown :: lastStatements)).any
          fun finish => finish.loops "w1" = some ⟨.stopped, true⟩)
        = true := by
    decide +kernel
  obtain ⟨finish, ran, stopped⟩ := (Option.any_eq_true _ _).mp scenario
  have keeps
      : ∀ action ∈ firstCheck ++ .signalShutdown :: lastStatements,
          action.abandons "w1" = false := by
    decide
  have unclaimed
      : ∀ monitor ∈ smallFleet.world.db.siteMonitors.rows,
          monitor.checkClaimedBy ≠ some "w1" := by
    intro monitor stored
    rw [List.mem_singleton.mp stored]
    nofun
  obtain ⟨noMonitor, noDelivery⟩ :=
    workers_leaveNoClaims smallFleet_starts unclaimed (path_of_admitted keeps ran)
      (of_decide_eq_true stopped)
  exact ⟨finish, ran, noMonitor nofun, noDelivery nofun⟩

end AlonSentinel.System
