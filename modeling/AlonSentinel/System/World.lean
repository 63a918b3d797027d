import AlonSentinel.Foundation.TransitionSystem
import AlonSentinel.Worker.SaveCheckResult
import AlonSentinel.Notifications.Delivery
import AlonSentinel.Api.SiteHandlers

/-! The deployed system: one database, any number of workers and API connections, and a
clock. Every action is one statement or one commit; actions of different parties interleave
in any order, and a party may stop at any point. The record of what was committed and claimed
is kept for the statements only: no action reads it. Rows are not deleted here: the deletion of a
site or a channel and the workers' pruning of old checks are no actions.
-/

namespace AlonSentinel.System

open Api
open Domain
open KeyedTable
open Notifications
open TransitionSystem
open Worker

------------------------------------------------------------
-- Checking a claimed monitor
------------------------------------------------------------

/-- How far a worker is with one claimed monitor. -/
inductive CheckPhase where
  /-- The initial lease has still to be set. -/
  | claimed
  /-- The check runs while the lease is extended from time to time. -/
  | checking
  /-- The save transaction began at `startedAt`. -/
  | saving (startedAt : Timestamp) (completed : CompletedMonitorCheck)
  /-- The save transaction has looked for the open incident. -/
  | deciding (startedAt : Timestamp) (completed : CompletedMonitorCheck)
      (found : Option SiteMonitorIncident)

/-- A claimed monitor in a worker's batch, as the claim returned it. -/
structure CheckJob where
  claimNumber : Nat
  siteMonitor : SiteMonitor
  phase : CheckPhase

def CheckJob.monitorId (job : CheckJob) : Int := job.siteMonitor.id

/-- The record of a committed save. -/
structure CommittedCheck where
  claimNumber : Nat
  workerId : String
  check : SiteMonitorCheck
  eventType : Option NotificationEventType
  deriving DecidableEq

/-- What a worker may do next for one claimed monitor. -/
inductive CheckAction where
  | ensureInitialLease (leaseSeconds : Int)
  | heartbeat (leaseSeconds : Int)
  | cancel
  | beginSave (completed : CompletedMonitorCheck)
  | lookupIncident
  | commitSave
  | abandon
  deriving DecidableEq

/-- The outcome of a check action; a job without a phase is over. -/
structure CheckOutcome where
  db : Database
  phase : Option CheckPhase
  committed : Option CommittedCheck

/-- `check_site_monitors` for one monitor, one statement at a time. -/
def checkStep (db : Database) (now : Timestamp) (workerId : String) (job : CheckJob)
    : CheckAction → Option CheckOutcome
  | .ensureInitialLease leaseSeconds =>
      match job.phase with
      | .claimed =>
          let (updated, db) := extendSiteMonitorClaim db now job.monitorId workerId leaseSeconds
          some ⟨db, if updated then some .checking else none, none⟩
      | _ => none
  | .heartbeat leaseSeconds =>
      match job.phase with
      | .checking =>
          some ⟨(extendSiteMonitorClaim db now job.monitorId workerId leaseSeconds).2,
            some .checking, none⟩
      | _ => none
  | .cancel =>
      match job.phase with
      | .checking =>
          some ⟨(releaseSiteMonitorClaim db now job.monitorId workerId).2, none, none⟩
      | _ => none
  | .beginSave completed =>
      match job.phase with
      | .checking => some ⟨db, some (.saving now completed), none⟩
      | _ => none
  | .lookupIncident =>
      match job.phase with
      | .saving startedAt completed =>
          some ⟨db,
            some (.deciding startedAt completed (lookupOpenIncident db job.siteMonitor)), none⟩
      | _ => none
  | .commitSave =>
      match job.phase with
      | .deciding startedAt completed found =>
          match saveCheckResult db startedAt job.siteMonitor workerId completed found with
          | .error _ => some ⟨db, none, none⟩
          | .ok saved =>
              let check := completed.savedCheck db startedAt job.siteMonitor
              some ⟨saved, none,
                some
                  { claimNumber := job.claimNumber
                    workerId
                    check
                    eventType :=
                      determineEventType job.siteMonitor.lastIsSuccess check.isSuccess }⟩
      | _ => none
  -- A crash, a failed statement or a lost connection ends the job wherever it is.
  | .abandon => some ⟨db, none, none⟩

------------------------------------------------------------
-- Delivering a claimed notification
------------------------------------------------------------

/-- The record of a settled attempt. -/
structure RecordedOutcome where
  deliveryId : Int
  workerId : String
  delivered : Bool
  deriving DecidableEq

/-- The outcome of a delivery action. -/
structure DeliveryOutcome where
  db : Database
  isOver : Bool
  recorded : Option RecordedOutcome

/-- `deliver_one_notification`, one statement at a time. -/
def deliveryStep (config : DeliveryConfig) (db : Database) (now : Timestamp)
    (workerId : String) (delivery : ClaimedNotificationDelivery)
    : DeliveryAction → Option DeliveryOutcome
  | .extend leaseSeconds =>
      -- A lease that cannot be extended cancels the delivery.
      let (updated, db) := extendDeliveryClaim db now delivery.id workerId leaseSeconds
      some ⟨db, !updated, none⟩
  | .markDelivered =>
      let (updated, db) := Domain.markDelivered db now delivery.id workerId
      some ⟨db, true, if updated then some ⟨delivery.id, workerId, true⟩ else none⟩
  | .recordFailure hostNow error =>
      (handleDeliveryFailure config db now hostNow delivery workerId error.text
          (shouldRetryDeliveryError error)).map fun (updated, db) =>
        ⟨db, true, if updated then some ⟨delivery.id, workerId, false⟩ else none⟩
  | .release => some ⟨(releaseDeliveryClaim db now delivery.id workerId).2, true, none⟩
  | .abandon => some ⟨db, true, none⟩

------------------------------------------------------------
-- The system
------------------------------------------------------------

/-- The database, the parties and the record of the run. -/
structure World where
  db : Database
  now : Timestamp
  checkBatches : String → Table CheckJob CheckJob.monitorId
  deliveryBatches : String → Table ClaimedNotificationDelivery ClaimedNotificationDelivery.id
  handlers : List PendingResolution
  commits : List CommittedCheck
  outcomes : List RecordedOutcome
  claimsIssued : Nat

/-- One action of one party. A claim names the rows that `SKIP LOCKED` passes over. Pruning of old
checks is not among the actions.
-/
inductive Action where
  | advanceClock (later : Timestamp)
  | claimSiteMonitors (workerId : String) (limit : Nat) (leaseSeconds : Int)
      (locked : List Int)
  | check (workerId : String) (siteMonitorId : Int) (action : CheckAction)
  | claimDeliveries (workerId : String) (limit : Nat) (leaseSeconds : Int) (locked : List Int)
  | deliver (workerId : String) (deliveryId : Int) (action : DeliveryAction)
  | request (request : ApiRequest)
  | finishHandler (index : Nat)
  | dropHandler (index : Nat)

/-- A job right after its claim. -/
def CheckJob.start (claimNumber : Nat) (siteMonitor : SiteMonitor) : CheckJob where
  claimNumber := claimNumber
  siteMonitor := siteMonitor
  phase := .claimed

/-- Moves one job of a batch to its next phase, or takes it out of the batch. -/
def setPhase (batch : Table CheckJob CheckJob.monitorId) (siteMonitorId : Int)
    (phase : Option CheckPhase)
    : Table CheckJob CheckJob.monitorId :=
  batch.collect
    (fun job =>
      if job.monitorId = siteMonitorId then phase.map fun phase => { job with phase }
      else some job)
    (by
      intro job moved collected
      split at collected
      · obtain ⟨_, _, rfl⟩ := Option.map_eq_some_iff.mp collected
        rfl
      · cases collected
        rfl)

/-- The transition function. A worker claims only once its last batch is finished. -/
def step (config : DeliveryConfig) (world : World) : Action → Option World
  | .advanceClock later => if world.now ≤ later then some { world with now := later } else none
  | .claimSiteMonitors workerId limit leaseSeconds locked =>
      if (world.checkBatches workerId).rows.isEmpty then
        let (db, claimed) :=
          claimSiteMonitorsDueForCheck world.db world.now workerId limit leaseSeconds locked
        let batch : Table CheckJob CheckJob.monitorId :=
          claimed.collect (fun siteMonitor => some (.start world.claimsIssued siteMonitor))
            fun _ _ started => by cases started; rfl
        some
          { world with
            db
            checkBatches := Function.update world.checkBatches workerId batch
            claimsIssued := world.claimsIssued + 1 }
      else
        none
  | .check workerId siteMonitorId action => do
      let job ← (world.checkBatches workerId).find? siteMonitorId
      let outcome ← checkStep world.db world.now workerId job action
      return {
        world with
        db := outcome.db
        checkBatches :=
          Function.update world.checkBatches workerId
            (setPhase (world.checkBatches workerId) siteMonitorId outcome.phase)
        commits := world.commits ++ outcome.committed.toList }
  | .claimDeliveries workerId limit leaseSeconds locked =>
      if (world.deliveryBatches workerId).rows.isEmpty then
        let (db, claimed) :=
          claimDueDeliveries world.db world.now workerId limit leaseSeconds locked
        some
          { world with
            db
            deliveryBatches := Function.update world.deliveryBatches workerId claimed }
      else
        none
  | .deliver workerId deliveryId action => do
      let delivery ← (world.deliveryBatches workerId).find? deliveryId
      let outcome ← deliveryStep config world.db world.now workerId delivery action
      return {
        world with
        db := outcome.db
        deliveryBatches :=
          Function.update world.deliveryBatches workerId
            ((world.deliveryBatches workerId).select fun other =>
              other.id != deliveryId || !outcome.isOver)
        outcomes := world.outcomes ++ outcome.recorded.toList }
  | .request request =>
      match startRequest world.db world.now request with
      | .ok started =>
          some
            { world with
              db := started.db
              handlers := world.handlers ++ started.pending.toList }
      | .error _ => some world
  | .finishHandler index => do
      let pending ← world.handlers[index]?
      return {
        world with
        db := (pending.resolve world.db world.now).2
        handlers := world.handlers.eraseIdx index }
  | .dropHandler index => some { world with handlers := world.handlers.eraseIdx index }

/-- A deployment on which nothing has run yet: any sites, monitors and channels, but no monitor
was ever checked, and nobody is in the middle of anything. -/
structure Fresh (world : World) : Prop where
  neverChecked : ∀ monitor ∈ world.db.siteMonitors.rows, monitor.lastIsSuccess = none
  noIncidents : world.db.siteMonitorIncidents.rows = []
  noDeliveries : world.db.notificationDeliveries.rows = []
  noCheckJobs : ∀ workerId, (world.checkBatches workerId).rows = []
  noDeliveryJobs : ∀ workerId, (world.deliveryBatches workerId).rows = []
  noHandlers : world.handlers = []
  noCommits : world.commits = []
  noOutcomes : world.outcomes = []

/-- The states that some interleaving leads to. -/
abbrev Reached (config : DeliveryConfig) : World → Prop := Reachable (step config) Fresh

/-- Executes a list of actions. -/
abbrev runFrom (config : DeliveryConfig) : World → List Action → Option World :=
  run (step config)

------------------------------------------------------------
-- A small deployment
------------------------------------------------------------

def smallConfig : DeliveryConfig where
  notificationMaxAttempts := 3
  notificationRetryBaseSeconds := 60
  maxAttemptsPositive := by decide
  retryBasePositive := by decide

/-- One site with one HTTP monitor, checked every minute, and one webhook channel. -/
def smallDatabase : Database :=
  { Database.empty with
    sites :=
      SerialTable.empty.insert fun id =>
        { id, name := "shop", baseUrl := "https://shop.test", isActive := true, createdAt := 0
          updatedAt := 0 }
    siteMonitors :=
      SerialTable.empty.insert fun id =>
        { SiteMonitor.withDefaults 0 1 .http "https://shop.test" id with
          checkIntervalSeconds := 60 }
    notificationChannels :=
      SerialTable.empty.insert fun id =>
        { id, channelType := .webhook, name := "ops", destination := "https://ops.test"
          webhookSecretCiphertext := some "c2VjcmV0", notifyOnFailure := true
          notifyOnRecovery := true, isActive := true, createdAt := 0, updatedAt := 0 } }

def smallWorld : World where
  db := smallDatabase
  now := 0
  checkBatches := fun _ => .empty
  deliveryBatches := fun _ => .empty
  handlers := []
  commits := []
  outcomes := []
  claimsIssued := 0

theorem smallWorld_fresh : Fresh smallWorld where
  neverChecked monitor stored := by
    rw [List.mem_singleton.mp stored]
    rfl
  noIncidents := rfl
  noDeliveries := rfl
  noCheckJobs _ := rfl
  noDeliveryJobs _ := rfl
  noHandlers := rfl
  noCommits := rfl
  noOutcomes := rfl

/-- The world that actions lead to from the small deployment. -/
def smallRun (actions : List Action)
    (enabled : (runFrom smallConfig smallWorld actions).isSome = true := by decide +kernel)
    : World :=
  (runFrom smallConfig smallWorld actions).get enabled

theorem smallRun_reached {actions : List Action}
    {enabled : (runFrom smallConfig smallWorld actions).isSome = true}
    : Reached smallConfig (smallRun actions enabled) :=
  .of_run smallWorld_fresh (Option.some_get enabled).symm

/-- The world after one more action. -/
def smallNext (world : World) (action : Action)
    (enabled : (step smallConfig world action).isSome = true := by decide +kernel)
    : World :=
  (step smallConfig world action).get enabled

theorem smallNext_taken {world : World} {action : Action}
    {enabled : (step smallConfig world action).isSome = true}
    : step smallConfig world action = some (smallNext world action enabled) :=
  (Option.some_get enabled).symm

/-- A check that ended with the given outcome after one attempt. -/
def completedCheck (isSuccess : Bool) : CompletedMonitorCheck where
  result :=
    { isSuccess, statusCode := some (if isSuccess then 200 else 500), responseTimeMs := some 10
      failureReason := none, errorMessage := none, certificateMetadata := none }
  attemptCount := 1
  totalDurationMs := 10

/-- A worker claims what is due and begins the check of the monitor. -/
def claimActions (workerId : String) : List Action :=
  [.claimSiteMonitors workerId 10 60 [], .check workerId 1 (.ensureInitialLease 60)]

/-- A worker saves the outcome of the check of the monitor. -/
def saveActions (workerId : String) (isSuccess : Bool) : List Action :=
  [.check workerId 1 (.beginSave (completedCheck isSuccess)),
    .check workerId 1 .lookupIncident,
    .check workerId 1 .commitSave]

end AlonSentinel.System
