import AlonSentinel.System.MonitorProtocol
import AlonSentinel.System.WorldSteps

/-! The system refines the claim protocol of each monitor: seen from one monitor, every action
of any party is a step of the protocol or nothing at all.
-/

namespace AlonSentinel.System

open Api
open Domain
open KeyedTable
open LeaseProtocol
open Notifications
open TransitionSystem
open Worker

------------------------------------------------------------
-- The abstraction
------------------------------------------------------------

/-- The committed checks of one monitor, oldest first. -/
def commitsOf (world : World) (siteMonitorId : Int) : List CommittedCheck :=
  world.commits.filter (·.check.siteMonitorId = siteMonitorId)

/-- The incidents of one monitor. -/
def incidentsOf (db : Database) (siteMonitorId : Int) : List SiteMonitorIncident :=
  db.siteMonitorIncidents.rows.filter (·.siteMonitorId = siteMonitorId)

/-- What the database and the record of the run say about one monitor. -/
def monitorView (world : World) (siteMonitorId : Int) : MonitorView where
  monitor := (world.db.siteMonitors.find? siteMonitorId).map monitorFacts
  incidents := incidentsOf world.db siteMonitorId
  commits := commitsOf world siteMonitorId

/-- One monitor with its claim and the jobs that workers hold for it. -/
def monitorState (world : World) (siteMonitorId : Int)
    : State String Timestamp CheckJob MonitorView where
  owner := (world.db.siteMonitors.find? siteMonitorId).bind (·.checkClaimedBy)
  leaseUntil := (world.db.siteMonitors.find? siteMonitorId).bind (·.checkLeaseUntil)
  held := fun workerId => (world.checkBatches workerId).find? siteMonitorId
  view := monitorView world siteMonitorId
  now := world.now

/-- A new batch of one worker changes what that worker holds. -/
theorem held_update (batches : String → Table CheckJob CheckJob.monitorId) (workerId : String)
    (batch : Table CheckJob CheckJob.monitorId) (siteMonitorId : Int)
    : (fun worker => (Function.update batches workerId batch worker).find? siteMonitorId)
      = Function.update (fun worker => (batches worker).find? siteMonitorId) workerId
          (batch.find? siteMonitorId) :=
  funext fun worker =>
    Function.apply_update (fun _ (jobs : Table CheckJob CheckJob.monitorId) =>
      jobs.find? siteMonitorId) batches workerId batch worker

/-- The recorded owner of the abstraction is the owner of the row. -/
theorem monitorState_owner {world : World} {siteMonitorId : Int} {workerId : String}
    : (monitorState world siteMonitorId).owner = some workerId
      ↔ Owns world.db siteMonitorId workerId :=
  Option.bind_eq_some_iff

------------------------------------------------------------
-- Incidents that saves have looked up
------------------------------------------------------------

/-- No incident goes away or changes its monitor. -/
def IncidentsKept (before after : Database) : Prop :=
  ∀ incident ∈ before.siteMonitorIncidents.rows,
    ∃ kept ∈ after.siteMonitorIncidents.rows,
      kept.id = incident.id ∧ kept.siteMonitorId = incident.siteMonitorId

theorem IncidentsKept.of_map {before after : Database}
    {change : SiteMonitorIncident → SiteMonitorIncident}
    (changed
      : after.siteMonitorIncidents.rows = before.siteMonitorIncidents.rows.map change)
    (keeps
      : ∀ incident,
          (change incident).id = incident.id
          ∧ (change incident).siteMonitorId = incident.siteMonitorId)
    : IncidentsKept before after := by
  intro incident stored
  refine ⟨change incident, ?_, keeps incident⟩
  rw [changed]
  exact List.mem_map.mpr ⟨incident, stored, rfl⟩

theorem IncidentsKept.of_eq {before after : Database}
    (same : after.siteMonitorIncidents = before.siteMonitorIncidents)
    : IncidentsKept before after := by
  intro incident stored
  exact ⟨incident, same ▸ stored, rfl, rfl⟩

/-- No action takes an incident away. -/
theorem Stepped.incidentsKept {config : DeliveryConfig} {world after : World}
    (stepped : Stepped config world after)
    : IncidentsKept world.db after.db := by
  cases stepped with
  | waited _ | claimedMonitors _ _ _ | claimedDeliveries _ _ _ => exact .of_eq rfl
  | checked _ checked =>
      cases checked with
      | committed _ effect => exact fun incident => effect.siteMonitorIncidents.kept
      | extended _ _ | released _ | waited _ | began _ | lookedUp _ | ended => exact .of_eq rfl
  | delivered _ delivered =>
      cases delivered with
      | extended _ _ | released _ | delivered _ | failed _ _ _ | ended => exact .of_eq rfl
  | served _ effect =>
      obtain ⟨change, touches, incidents⟩ := effect.incidents
      exact .of_map incidents fun incident =>
        ⟨(touches incident).identity.1, (touches incident).identity.2.1⟩

/-- The incident that a save looked up is one of its own monitor. -/
def FoundOwn (world : World) : Prop :=
  ∀ workerId siteMonitorId job startedAt completed incident,
    (world.checkBatches workerId).find? siteMonitorId = some job
    → job.phase = .deciding startedAt completed (some incident)
    → ∃ stored ∈ world.db.siteMonitorIncidents.rows,
        stored.id = incident.id ∧ stored.siteMonitorId = siteMonitorId

/-- A looked up incident is one of the monitor. -/
theorem lookupOpenIncident_own {db : Database} {siteMonitor : SiteMonitor}
    {incident : SiteMonitorIncident} (found : lookupOpenIncident db siteMonitor = some incident)
    : incident ∈ db.siteMonitorIncidents.rows ∧ incident.siteMonitorId = siteMonitor.id := by
  unfold lookupOpenIncident at found
  split at found
  · have met : incident.isOpenFor siteMonitor.id = true := List.find?_some found
    exact ⟨List.mem_of_find?_eq_some found, of_decide_eq_true (Bool.and_eq_true_iff.mp met).1⟩
  · cases found

theorem FoundOwn.step {config : DeliveryConfig} {world after : World} (own : FoundOwn world)
    (stepped : Stepped config world after)
    : FoundOwn after := by
  have kept := stepped.incidentsKept
  intro workerId siteMonitorId job startedAt completed incident held decided
  rcases stepped.job_cases held with
    was | ⟨_, _, _, _, rfl, _⟩ | ⟨prior, outcome, was, checked, moved, _, _, rfl⟩
  · obtain ⟨stored, member, sameId, sameMonitor⟩ := own _ _ _ _ _ _ was decided
    obtain ⟨later, there, keptId, keptMonitor⟩ := kept stored member
    exact ⟨later, there, keptId.trans sameId, keptMonitor.trans sameMonitor⟩
  · cases decided
  · rw [decided] at moved
    cases checked with
    | lookedUp saving =>
        simp only [Option.some.injEq, CheckPhase.deciding.injEq] at moved
        obtain ⟨member, ofMonitor⟩ := lookupOpenIncident_own moved.2.2
        obtain ⟨later, there, keptId, keptMonitor⟩ := kept incident member
        have sameJob : prior.siteMonitor.id = siteMonitorId := (Table.mem_of_find? was).2
        exact ⟨later, there, keptId, (keptMonitor.trans ofMonitor).trans sameJob⟩
    | extended _ _ | waited _ | began _ => cases moved
    | released _ | committed _ _ | ended => cases moved

theorem foundOwn_of_reached {config : DeliveryConfig} {world : World}
    (reached : Reached config world)
    : FoundOwn world := by
  refine reached.invariant FoundOwn ?_ ?_
  · intro start fresh workerId siteMonitorId job _ _ _ held _
    have stored := (Table.mem_of_find? held).1
    rw [fresh.noCheckJobs workerId] at stored
    cases stored
  · exact fun _ _ _ _ own taken => own.step (step_cases taken)

------------------------------------------------------------
-- Refinement
------------------------------------------------------------

section Refinement

variable {config : DeliveryConfig} {world after : World} {siteMonitorId : Int}

/-- A monitor whose row, incidents, commits and jobs stay as they are. -/
theorem monitorState_congr
    (monitor
      : after.db.siteMonitors.find? siteMonitorId = world.db.siteMonitors.find? siteMonitorId)
    (incidents : incidentsOf after.db siteMonitorId = incidentsOf world.db siteMonitorId)
    (commits : commitsOf after siteMonitorId = commitsOf world siteMonitorId)
    (held
      : ∀ workerId,
          (after.checkBatches workerId).find? siteMonitorId
          = (world.checkBatches workerId).find? siteMonitorId)
    (now : after.now = world.now)
    : monitorState after siteMonitorId = monitorState world siteMonitorId := by
  simp only [monitorState, monitorView, monitor, incidents, commits, held, now]

/-- A job's action is none of another monitor's business. -/
theorem CheckStepped.elsewhere {workerId : String} {other : Int} {job : CheckJob}
    {outcome : CheckOutcome} (own : FoundOwn world) (different : other ≠ siteMonitorId)
    (holds : (world.checkBatches workerId).find? siteMonitorId = some job)
    (stepped : CheckStepped world.db world.now workerId job outcome)
    : monitorState (world.afterCheck workerId siteMonitorId outcome) other
      = monitorState world other := by
  have sameJob : job.monitorId = siteMonitorId := (Table.mem_of_find? holds).2
  have elsewhere : other ≠ job.monitorId := sameJob ▸ different
  have held (worker : String)
      : ((world.afterCheck workerId siteMonitorId outcome).checkBatches worker).find? other
        = (world.checkBatches worker).find? other := by
    by_cases same : worker = workerId
    · subst same
      simp only [World.afterCheck, Function.update_self, find?_setPhase_of_ne different]
    · simp only [World.afterCheck, Function.update_of_ne same]
  refine monitorState_congr ?_ ?_ ?_ held rfl
  · cases stepped with
    | extended _ _ | released _ => exact find?_updateClaimedSiteMonitor_of_ne elsewhere
    | committed _ effect =>
        simp only [World.afterCheck, effect.siteMonitors]
        refine SerialTable.find?_update_of_unmatched fun monitor found => ?_
        have sameId : monitor.id = other := (Table.mem_of_find? found).2
        have notSaved : other ≠ job.siteMonitor.id := elsewhere
        simp [SiteMonitor.isClaimedBy, sameId, notSaved]
    | waited _ | began _ | lookedUp _ | ended => rfl
  · cases stepped with
    | committed deciding effect =>
        refine effect.siteMonitorIncidents.elsewhere elsewhere fun incident found => ?_
        subst found
        obtain ⟨stored, member, sameId, sameMonitor⟩ := own _ _ _ _ _ _ holds deciding
        intro row rowMember rowId
        have one : row = stored :=
          Table.eq_of_key_eq rowMember member (rowId.trans sameId.symm)
        exact one ▸ sameMonitor.trans sameJob.symm
    | extended _ _ | released _ | waited _ | began _ | lookedUp _ | ended => rfl
  · cases stepped with
    | committed _ _ =>
        simp [commitsOf, World.afterCheck, List.filter_append, elsewhere.symm]
    | extended _ _ | released _ | waited _ | began _ | lookedUp _ | ended =>
        simp only [commitsOf, World.afterCheck, Option.toList_none, List.append_nil]

/-- The jobs that workers hold for a monitor after one of them moved on. -/
theorem afterCheck_held {workerId : String} {job : CheckJob} (outcome : CheckOutcome)
    (holds : (world.checkBatches workerId).find? siteMonitorId = some job)
    : (monitorState (world.afterCheck workerId siteMonitorId outcome) siteMonitorId).held
      = Function.update (monitorState world siteMonitorId).held workerId
          (outcome.phase.map fun phase => { job with phase }) := by
  rw [← find?_setPhase_self holds]
  exact held_update world.checkBatches workerId _ siteMonitorId

/-- The lookup of a save reads the view of its monitor. -/
theorem lookup_monitorView (world : World) (siteMonitor : SiteMonitor)
    : (monitorView world siteMonitor.id).lookup siteMonitor
      = lookupOpenIncident world.db siteMonitor := by
  unfold MonitorView.lookup lookupOpenIncident getOpenIncidentForMonitor
  split
  · change (incidentsOf world.db siteMonitor.id).find? _ = _
    rw [incidentsOf, List.find?_filter]
    refine congrArg (List.find? · _) (funext fun incident => ?_)
    simp [SiteMonitorIncident.isOpenFor]
  · rfl

/-- A monitor after its owner's statement on the claim. -/
theorem monitorState_owned {workerId : String} {job : CheckJob} {db : Database}
    {monitor moved : SiteMonitor} (phase : Option CheckPhase)
    (holds : (world.checkBatches workerId).find? siteMonitorId = some job)
    (found : world.db.siteMonitors.find? siteMonitorId = some monitor)
    (stored : db.siteMonitors.find? siteMonitorId = some moved)
    (facts : monitorFacts moved = monitorFacts monitor)
    (incidents : db.siteMonitorIncidents = world.db.siteMonitorIncidents)
    : monitorState (world.afterCheck workerId siteMonitorId ⟨db, phase, none⟩) siteMonitorId
      = { monitorState world siteMonitorId with
          owner := moved.checkClaimedBy
          leaseUntil := moved.checkLeaseUntil
          held :=
            Function.update (monitorState world siteMonitorId).held workerId
              (phase.map fun phase => { job with phase }) } := by
  rw [← afterCheck_held ⟨db, phase, none⟩ holds]
  simp only [monitorState, monitorView, incidentsOf, commitsOf, World.afterCheck, found, stored,
    Option.bind_some, Option.map_some, facts, incidents, Option.toList_none, List.append_nil]

/-- A monitor after a step of a job that does not touch the database. -/
theorem monitorState_worked {workerId : String} {job : CheckJob} (phase : Option CheckPhase)
    (holds : (world.checkBatches workerId).find? siteMonitorId = some job)
    : monitorState (world.afterCheck workerId siteMonitorId ⟨world.db, phase, none⟩)
        siteMonitorId
      = { monitorState world siteMonitorId with
          held :=
            Function.update (monitorState world siteMonitorId).held workerId
              (phase.map fun phase => { job with phase }) } := by
  rw [← afterCheck_held ⟨world.db, phase, none⟩ holds]
  simp only [monitorState, monitorView, commitsOf, World.afterCheck, Option.toList_none,
    List.append_nil]

section Saves

variable {workerId : String} {job : CheckJob} {startedAt : Timestamp}
  {completed : CompletedMonitorCheck} {found : Option SiteMonitorIncident} {saved : Database}
  {monitor : SiteMonitor}

/-- The row of the monitor that a save leaves. -/
theorem monitor_of_save
    (effect : SaveEffect world.db startedAt job.siteMonitor workerId completed found saved)
    (stored : world.db.siteMonitors.find? job.monitorId = some monitor)
    (claimed : monitor.checkClaimedBy = some workerId)
    : saved.siteMonitors.find? job.monitorId
      = some (monitor.withLastCheck startedAt completed.lastCheckParams) := by
  rw [effect.siteMonitors]
  exact find?_updateClaimedSiteMonitor_self stored claimed

/-- A save settles the view of its monitor. -/
theorem settled_of_save
    (effect : SaveEffect world.db startedAt job.siteMonitor workerId completed found saved)
    (deciding : job.phase = .deciding startedAt completed found)
    (stored : world.db.siteMonitors.find? job.monitorId = some monitor)
    (claimed : monitor.checkClaimedBy = some workerId)
    : MonitorSettled (monitorView world job.monitorId) job
        (job.commit workerId (completed.savedCheck world.db startedAt job.siteMonitor))
        (monitorView (world.afterSave workerId job startedAt completed saved) job.monitorId) := by
  have after : saved.siteMonitors.find? job.monitorId = _ := monitor_of_save effect stored claimed
  refine ⟨⟨completed, found, _, deciding, rfl, effect.siteMonitorIncidents.ofMonitor⟩, rfl, rfl,
    ?_, ?_⟩
  · simp only [monitorView, World.afterSave, World.afterCheck, after, stored, Option.map_some]
    rfl
  · simp [monitorView, commitsOf, World.afterSave, World.afterCheck, List.filter_append]

end Saves

/-- A job's action is a step of the protocol of its monitor. One case for each way in which the
action can go. -/
theorem CheckStepped.refines {workerId : String} {job : CheckJob} {outcome : CheckOutcome}
    (holds : (world.checkBatches workerId).find? siteMonitorId = some job)
    (stepped : CheckStepped world.db world.now workerId job outcome)
    : Step (monitorRules siteMonitorId) (monitorState world siteMonitorId)
        (monitorState (world.afterCheck workerId siteMonitorId outcome) siteMonitorId) := by
  obtain ⟨_, rfl⟩ := Table.mem_of_find? holds
  cases stepped with
  | extended leaseSeconds owns =>
      obtain ⟨monitor, found, claimed⟩ := owns
      have owner : (monitorState world job.monitorId).owner = some workerId :=
        monitorState_owner.mpr ⟨monitor, found, claimed⟩
      have same : monitor.checkClaimedBy = (monitorState world job.monitorId).owner :=
        claimed.trans owner.symm
      have stored := find?_extendSiteMonitorClaim world.now leaseSeconds found claimed
      rw [monitorState_owned _ holds found stored rfl rfl]
      simp only [SiteMonitor.asExtended, same]
      exact .extend owner holds .checking
  | released owns =>
      obtain ⟨monitor, found, claimed⟩ := owns
      have stored := find?_releaseSiteMonitorClaim world.now found claimed
      rw [monitorState_owned _ holds found stored rfl rfl]
      exact .release (monitorState_owner.mpr ⟨monitor, found, claimed⟩)
  | waited _ =>
      rw [monitorState_worked _ holds]
      exact .work holds .checking
  | began completed =>
      rw [monitorState_worked _ holds]
      exact .work holds (.saving completed)
  | lookedUp saving =>
      rw [monitorState_worked _ holds, ← lookup_monitorView]
      exact .work holds (.deciding saving)
  | @committed startedAt completed lookedUp saved deciding effect =>
      obtain ⟨monitor, found, claimed⟩ := claimGuard_iff.mp effect.claimed
      have state
          : monitorState (world.afterSave workerId job startedAt completed saved) job.monitorId
            = { monitorState world job.monitorId with
                owner := none
                leaseUntil := none
                held := Function.update (monitorState world job.monitorId).held workerId none
                view :=
                  monitorView (world.afterSave workerId job startedAt completed saved)
                    job.monitorId } := by
        have stored := monitor_of_save effect found claimed
        refine State.ext ?_ ?_ (afterCheck_held _ holds) rfl rfl
        · change (saved.siteMonitors.find? job.monitorId).bind _ = none
          rw [stored]
          rfl
        · change (saved.siteMonitors.find? job.monitorId).bind _ = none
          rw [stored]
          rfl
      refine state ▸ ?_
      exact .settle (monitorState_owner.mpr ⟨monitor, found, claimed⟩) holds
        ⟨_, settled_of_save effect deciding found claimed⟩
  | ended =>
      rw [monitorState_worked _ holds]
      exact .drop

/-- What API statements leave of a row and of its claim. -/
theorem MonitorTouched.facts {before after : Option SiteMonitor}
    (touched : MonitorTouched before after)
    : FactsTouched (before.map monitorFacts) (after.map monitorFacts)
      ∧ after.bind (·.checkClaimedBy) = before.bind (·.checkClaimedBy)
      ∧ after.bind (·.checkLeaseUntil) = before.bind (·.checkLeaseUntil) := by
  cases touched with
  | absent => exact ⟨.absent, rfl, rfl⟩
  | created untouched =>
      exact ⟨.created untouched.lastIsSuccess, untouched.claimedBy, untouched.leaseUntil⟩
  | kept ledger =>
      refine ⟨.kept ?_ ?_ ?_, ?_, ?_⟩
      · exact congrArg MonitorLedger.siteId ledger
      · exact congrArg MonitorLedger.lastCheckedAt ledger
      · exact congrArg MonitorLedger.lastIsSuccess ledger
      · exact congrArg MonitorLedger.checkClaimedBy ledger
      · exact congrArg MonitorLedger.checkLeaseUntil ledger

/-- A statement of the API is background activity for every monitor. -/
theorem served_refines {db : Database} (handlers : List PendingResolution)
    (effect : ApiEffect world.now world.db db)
    : Step (monitorRules siteMonitorId) (monitorState world siteMonitorId)
        (monitorState { world with db, handlers } siteMonitorId) := by
  obtain ⟨facts, owner, leaseUntil⟩ := (effect.monitors siteMonitorId).facts
  obtain ⟨change, touches, incidents⟩ := effect.incidents
  have changed
      : MonitorBackground world.now (monitorView world siteMonitorId)
          (monitorView { world with db, handlers } siteMonitorId) := by
    refine ⟨facts, ⟨change, touches, ?_⟩, rfl⟩
    simp only [monitorView, incidentsOf, incidents, List.filter_map]
    refine congrArg _ (List.filter_congr fun incident _ => ?_)
    rw [Function.comp_apply, (touches incident).identity.2.1]
  have state
      : monitorState { world with db, handlers } siteMonitorId
        = { monitorState world siteMonitorId with
            view := monitorView { world with db, handlers } siteMonitorId } :=
    State.ext owner leaseUntil rfl rfl rfl
  rw [state]
  exact .background changed

/-- A due monitor is free and a check interval past its last check. -/
theorem due_of_dueForCheck {db : Database} {now : Timestamp} {locked : List Int}
    {monitor : SiteMonitor} (due : monitor.dueForCheck db now locked = true)
    : Free monitor.checkLeaseUntil now ∧ DueAt monitor now := by
  simp only [SiteMonitor.dueForCheck, Bool.and_eq_true] at due
  obtain ⟨⟨⟨_, interval⟩, lease⟩, _⟩ := due
  constructor
  · intro deadline leased
    rw [leased] at lease
    exact of_decide_eq_true lease
  · intro checkedAt last
    rw [last] at interval
    have elapsed : checkedAt ≤ now - seconds monitor.checkIntervalSeconds :=
      of_decide_eq_true interval
    exact Int.add_le_of_le_sub_right elapsed

/-- A claim of monitors takes a monitor or passes it over. -/
theorem claim_refines {workerId : String} {leaseSeconds : Int} {world after : World}
    {siteMonitors : SerialTable SiteMonitor SiteMonitor.id}
    {batch : Table CheckJob CheckJob.monitorId}
    (idle : (world.checkBatches workerId).find? siteMonitorId = none)
    (claim : MonitorClaim world workerId leaseSeconds siteMonitors batch siteMonitorId)
    (stored : after.db.siteMonitors = siteMonitors)
    (incidents : after.db.siteMonitorIncidents = world.db.siteMonitorIncidents)
    (commits : after.commits = world.commits) (now : after.now = world.now)
    (batches : after.checkBatches = Function.update world.checkBatches workerId batch)
    : monitorState after siteMonitorId = monitorState world siteMonitorId
      ∨ Step (monitorRules siteMonitorId) (monitorState world siteMonitorId)
          (monitorState after siteMonitorId) := by
  have held
      : (monitorState after siteMonitorId).held
        = Function.update (monitorState world siteMonitorId).held workerId
            (batch.find? siteMonitorId) := by
    simp only [monitorState, batches]
    exact held_update world.checkBatches workerId batch siteMonitorId
  rcases claim with ⟨same, passed⟩ | ⟨monitor, locked, found, due, taken, started⟩
  · left
    have sameHeld : (monitorState after siteMonitorId).held
        = (monitorState world siteMonitorId).held := by
      rw [held, passed, ← idle]
      exact Function.update_eq_self workerId _
    refine State.ext ?_ ?_ sameHeld ?_ now
    · simp only [monitorState, stored, same]
    · simp only [monitorState, stored, same]
    · simp only [monitorState, monitorView, incidentsOf, commitsOf, stored, same, incidents,
        commits]
  · right
    obtain ⟨free, dueAt⟩ := due_of_dueForCheck due
    have sameId : monitor.id = siteMonitorId := (Table.mem_of_find? found).2
    have state
        : monitorState after siteMonitorId
          = { monitorState world siteMonitorId with
              owner := some workerId
              leaseUntil := some (world.now + seconds leaseSeconds)
              held :=
                Function.update (monitorState world siteMonitorId).held workerId
                  (some
                    (.start world.claimsIssued
                      (monitor.asClaimed world.now workerId leaseSeconds))) } := by
      refine State.ext ?_ ?_ (started ▸ held) ?_ now
      · simp only [monitorState, stored, taken, Option.bind_some, SiteMonitor.asClaimed]
      · simp only [monitorState, stored, taken, Option.bind_some, SiteMonitor.asClaimed]
      · simp only [monitorState, monitorView, incidentsOf, commitsOf, stored, taken, found,
          incidents, commits]
        rfl
    rw [state]
    refine .take ?_ idle ⟨sameId, ?_, dueAt, rfl⟩
    · simp only [monitorState, found, Option.bind_some]
      exact free
    · simp only [monitorState, monitorView, found, Option.map_some]
      rfl

/-- Seen from one monitor, an action of the system is a step of the protocol or nothing. -/
theorem Stepped.refines (own : FoundOwn world) (stepped : Stepped config world after)
    (siteMonitorId : Int)
    : monitorState after siteMonitorId = monitorState world siteMonitorId
      ∨ Step (monitorRules siteMonitorId) (monitorState world siteMonitorId)
          (monitorState after siteMonitorId) := by
  cases stepped with
  | waited ordered => exact .inr (.wait ordered)
  | claimedMonitors _ idle claim =>
      exact claim_refines (idle siteMonitorId) (claim siteMonitorId) rfl rfl rfl rfl rfl
  | @checked _ checkedId _ _ holds checked =>
      by_cases same : siteMonitorId = checkedId
      · subst same
        exact .inr (checked.refines holds)
      · exact .inl (checked.elsewhere own same holds)
  | claimedDeliveries _ _ _ => exact .inl rfl
  | delivered _ delivered =>
      left
      cases delivered with
      | extended _ _ | released _ | delivered _ | failed _ _ _ | ended => rfl
  | served handlers effect => exact .inr (served_refines handlers effect)

/-- The system refines the protocol: runs of the system are runs of the protocol of every
monitor. -/
theorem system_refines (reached : Reached config world)
    (path : Relation.ReflTransGen (Next (step config)) world after) (siteMonitorId : Int)
    : Relation.ReflTransGen (Step (monitorRules siteMonitorId))
        (monitorState world siteMonitorId) (monitorState after siteMonitorId) := by
  refine reached.simulation (monitorState · siteMonitorId) ?_ path
  intro state action next isReached taken
  rcases (step_cases taken).refines (foundOwn_of_reached isReached) siteMonitorId with same | one
  · rw [same]
  · exact .single one

/-- On a fresh deployment every monitor agrees with its empty history. -/
theorem monitorHistory_of_fresh (fresh : Fresh world) (siteMonitorId : Int)
    : MonitorHistory siteMonitorId world.now (monitorView world siteMonitorId) := by
  have noIncidents : (monitorView world siteMonitorId).incidents = [] := by
    simp only [monitorView, incidentsOf, fresh.noIncidents, List.filter_nil]
  have noCommits : (monitorView world siteMonitorId).commits = [] := by
    simp only [monitorView, commitsOf, fresh.noCommits, List.filter_nil]
  refine ⟨⟨?_, ?_, ?_, ?_⟩, fun _ => noCommits, ?_, ?_, ?_, ?_, ?_⟩
  · simp [noIncidents]
  · simp [noIncidents]
  · simp [noIncidents]
  · simp [noIncidents]
  · simp [noIncidents]
  · intro facts present
    obtain ⟨monitor, found, rfl⟩ := Option.map_eq_some_iff.mp present
    rw [noCommits]
    exact fresh.neverChecked monitor (Table.mem_of_find? found).1
  · simp [noCommits]
  · simp [noCommits]
  · rw [noCommits]
    exact eventsDetermined_nil

/-- In every reachable state each monitor agrees with its history, and the job of its owner
with the row. -/
theorem consistent_of_reached (reached : Reached config world) (siteMonitorId : Int)
    : Consistent (MonitorHistory siteMonitorId) (JobAccurate siteMonitorId)
        (monitorState world siteMonitorId) := by
  obtain ⟨start, fresh, path⟩ := reached
  refine consistent_of_path (monitorRules_sound siteMonitorId)
    (system_refines (.start fresh) path siteMonitorId) ⟨?_, ?_⟩
  · exact monitorHistory_of_fresh fresh siteMonitorId
  · intro workerId job _ holds
    have stored := (Table.mem_of_find? holds).1
    rw [fresh.noCheckJobs workerId] at stored
    cases stored

/-- What the owner of a monitor holds is accurate. -/
theorem jobAccurate_of_owns (reached : Reached config world) {workerId : String} {job : CheckJob}
    {monitor : SiteMonitor}
    (holds : (world.checkBatches workerId).find? siteMonitorId = some job)
    (found : world.db.siteMonitors.find? siteMonitorId = some monitor)
    (claimed : monitor.checkClaimedBy = some workerId)
    : JobAccurate siteMonitorId world.now (monitorView world siteMonitorId) job :=
  (consistent_of_reached reached siteMonitorId).accurate workerId job
    (monitorState_owner.mpr ⟨monitor, found, claimed⟩) holds

/-- The facts of a stored row are in the view. -/
theorem monitorView_monitor {monitor : SiteMonitor}
    (found : world.db.siteMonitors.find? siteMonitorId = some monitor)
    : (monitorView world siteMonitorId).monitor = some (monitorFacts monitor) := by
  simp only [monitorView, found, Option.map_some]

end Refinement

end AlonSentinel.System
