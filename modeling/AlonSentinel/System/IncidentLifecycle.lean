import AlonSentinel.System.NotificationEvents

/-! Which saves open and recover incidents, and how that compares with the events that they
determine. A save that finds the previous outcome failed but no incident open, because the API
resolved it, opens a new one without an event.
-/

namespace AlonSentinel.System

open Domain
open KeyedTable
open Notifications
open TransitionSystem
open Worker

variable {config : DeliveryConfig} {world after : World}

/-- An incident of the monitor is open afterwards that was not there before. -/
def OpensIncident (before after : Database) (siteMonitorId : Int) : Prop :=
  ∃ incident ∈ after.siteMonitorIncidents.rows,
    incident.siteMonitorId = siteMonitorId
    ∧ incident.isOpen = true
    ∧ ∀ prior ∈ before.siteMonitorIncidents.rows, prior.id ≠ incident.id

instance (before after : Database) (siteMonitorId : Int)
    : Decidable (OpensIncident before after siteMonitorId) :=
  inferInstanceAs (Decidable (∃ incident ∈ after.siteMonitorIncidents.rows, _))

/-- An open incident is resolved as recovered afterwards. -/
def RecoversIncident (before after : Database) : Prop :=
  ∃ prior ∈ before.siteMonitorIncidents.rows,
    prior.isOpen = true
    ∧ ∃ incident ∈ after.siteMonitorIncidents.rows,
        incident.id = prior.id
        ∧ incident.isOpen = false
        ∧ incident.resolvedReason = some .recovered

/-- A decision opens an incident for a failure event, and for a failure after a failure without
an incident at hand. -/
theorem opens_iff_event {last : Option Bool} {current hasOpen : Bool}
    : (classifyIncidentAction last current hasOpen).opens = true
      ↔ determineEventType last current = some .failure
        ∨ (last = some false ∧ current = false ∧ hasOpen = false) := by
  rcases last with _ | _ | _ <;> cases current <;> cases hasOpen <;> decide

section Saves

variable {db saved : Database} {startedAt : Timestamp} {siteMonitor : SiteMonitor}
  {workerId : String} {completed : CompletedMonitorCheck} {found : Option SiteMonitorIncident}

/-- An update of incidents leaves no incident that was not there. -/
theorem not_opensIncident_of_update {condition : SiteMonitorIncident → Bool}
    {set : SiteMonitorIncident → SiteMonitorIncident} {siteMonitorId : Int}
    (rows
      : saved.siteMonitorIncidents.rows
        = updateIncidents condition set db.siteMonitorIncidents.rows)
    (keeps : ∀ incident, (set incident).id = incident.id)
    : ¬OpensIncident db saved siteMonitorId := by
  rintro ⟨incident, member, _, _, new⟩
  rw [rows] at member
  obtain ⟨prior, stored, rfl⟩ := List.mem_map.mp member
  refine new prior stored ?_
  split
  · exact (keeps prior).symm
  · rfl

/-- A save opens an incident exactly when it decides to. -/
theorem opensIncident_iff
    (effect : SaveEffect db startedAt siteMonitor workerId completed found saved)
    : OpensIncident db saved siteMonitor.id
      ↔ (classifyIncidentAction siteMonitor.lastIsSuccess completed.result.isSuccess
          found.isSome).opens = true := by
  generalize rows : saved.siteMonitorIncidents.rows = after
  have managed := effect.siteMonitorIncidents
  rw [rows] at managed
  cases managed with
  | opened decided _ =>
      refine iff_of_true
        ⟨(openIncidentParams siteMonitor (completed.savedCheck db startedAt siteMonitor)).row
          startedAt siteMonitor.siteId db.siteMonitorIncidents.nextId, ?_, rfl, rfl, ?_⟩ decided
      · rw [rows]
        exact List.mem_append_right _ (List.mem_singleton_self _)
      · exact fun prior stored => ne_of_lt (db.siteMonitorIncidents.belowNext prior stored)
  | updated incident isFound failedBefore _ =>
      refine iff_of_false (not_opensIncident_of_update rows fun _ => rfl) fun opens => ?_
      have missing := (classifyIncidentAction_opens.mp opens).2 failedBefore
      rw [isFound] at missing
      cases missing
  | resolved incident isFound failedBefore _ =>
      refine iff_of_false (not_opensIncident_of_update rows fun _ => rfl) fun opens => ?_
      have missing := (classifyIncidentAction_opens.mp opens).2 failedBefore
      rw [isFound] at missing
      cases missing
  | unchanged decided =>
      refine iff_of_false ?_ fun opens => ?_
      · rintro ⟨incident, member, _, _, new⟩
        rw [rows] at member
        exact new incident member rfl
      · change (classifyIncidentAction siteMonitor.lastIsSuccess completed.result.isSuccess
          found.isSome) = .noAction at decided
        rw [decided] at opens
        cases opens

/-- A save that resolves an incident as recovered determines a recovery. -/
theorem recovery_of_recoversIncident
    (effect : SaveEffect db startedAt siteMonitor workerId completed found saved)
    (recovers : RecoversIncident db saved)
    : determineEventType siteMonitor.lastIsSuccess completed.result.isSuccess
      = some .recovery := by
  obtain ⟨prior, stored, wasOpen, incident, member, sameId, closed, _⟩ := recovers
  have kept {other : SiteMonitorIncident} (isStored : other ∈ db.siteMonitorIncidents.rows)
      (otherId : other.id = prior.id)
      : other = prior :=
    Table.eq_of_key_eq isStored stored otherId
  generalize rows : saved.siteMonitorIncidents.rows = after at member
  have managed := effect.siteMonitorIncidents
  rw [rows] at managed
  cases managed with
  | opened _ _ =>
      rcases List.mem_append.mp member with old | new
      · rw [kept old sameId, wasOpen] at closed
        cases closed
      · rw [List.mem_singleton.mp new] at closed
        cases closed
  | updated other _ _ _ =>
      obtain ⟨before, isStored, rfl⟩ := List.mem_map.mp member
      have same : before = prior := by
        refine kept isStored (Eq.trans ?_ sameId)
        split <;> rfl
      subst same
      split at closed
      · exact absurd (wasOpen.symm.trans closed) nofun
      · exact absurd (wasOpen.symm.trans closed) nofun
  | resolved other _ failedBefore succeeds =>
      exact determineEventType_eq_recovery.mpr ⟨succeeds, failedBefore⟩
  | unchanged _ =>
      rw [kept member sameId, wasOpen] at closed
      cases closed

end Saves

/-- What a committed save does to incidents, given the outcome stored before it and what its
lookup found. -/
def SavesMatchEvents (config : DeliveryConfig) (world : World) : Prop :=
  ∀ action after commit,
    step config world action = some after
    → after.commits = world.commits ++ [commit]
    → ∃ job startedAt completed found monitor,
        (world.checkBatches commit.workerId).find? commit.check.siteMonitorId = some job
        ∧ job.phase = .deciding startedAt completed found
        ∧ world.db.siteMonitors.find? commit.check.siteMonitorId = some monitor
        ∧ (OpensIncident world.db after.db commit.check.siteMonitorId
          ↔ commit.eventType = some .failure
            ∨ (monitor.lastIsSuccess = some false ∧ commit.check.isSuccess = false
              ∧ found = none))
        ∧ (RecoversIncident world.db after.db → commit.eventType = some .recovery)

/-- A committed save opens an incident when it determines a failure, or when the previous outcome
is a failure without an open incident; it recovers one only when it determines a recovery. -/
theorem incidentLifecycle (reached : Reached config world) : SavesMatchEvents config world := by
  intro action after commit taken extended
  obtain @⟨workerId, job, startedAt, completed, lookedUp, saved, holds, deciding, effect⟩ :=
    (step_cases taken).saveCommitted extended
  obtain ⟨monitor, found, claimed⟩ := claimGuard_iff.mp effect.claimed
  obtain ⟨facts, present, _, _, sameOutcome⟩ :=
    (jobAccurate_of_owns reached holds found claimed).facts
  cases (monitorView_monitor found).symm.trans present
  refine ⟨job, startedAt, completed, lookedUp, monitor, holds, deciding, found, ?_, ?_⟩
  · refine (opensIncident_iff effect).trans (opens_iff_event.trans ?_)
    refine or_congr Iff.rfl (and_congr (by rw [← sameOutcome]; rfl) (and_congr Iff.rfl ?_))
    exact Option.isSome_eq_false_iff.trans Option.isNone_iff_eq_none
  · exact recovery_of_recoversIncident effect

/-- A failing check opened an incident, pausing the monitor resolved it, the monitor was resumed
and the next failing check is about to be saved. -/
def resumedOutage : List Action :=
  claimActions "w1" ++ saveActions "w1" false
    ++ [.request (.pauseSiteMonitorById .http 1 1), .finishHandler 0,
      .request (.resumeSiteMonitorById .http 1 1), .advanceClock (seconds 60)]
    ++ claimActions "w2"
    ++ [.check "w2" 1 (.beginSave (completedCheck false)), .check "w2" 1 .lookupIncident]

/-- The next save of that run. -/
def reopening : World := smallNext (smallRun resumedOutage) (.check "w2" 1 .commitSave)

theorem incidentLifecycle_resumedOutage
    : reopening.db.siteMonitorIncidents.rows.map (·.resolvedReason)
        = [some .monitoringDisabled, none]
      ∧ SavesMatchEvents smallConfig (smallRun resumedOutage) :=
  ⟨by decide +kernel, incidentLifecycle smallRun_reached⟩

/-- The save after a resumed outage opens an incident without a failure event. -/
theorem incidentWithoutFailure
    : ¬∀ (config : DeliveryConfig) (world : World) (action : Action) (after : World)
          (commit : CommittedCheck),
        Reached config world
        → step config world action = some after
        → after.commits = world.commits ++ [commit]
        → (OpensIncident world.db after.db commit.check.siteMonitorId
            ↔ commit.eventType = some .failure)
          ∧ (RecoversIncident world.db after.db → commit.eventType = some .recovery) := by
  intro agree
  obtain ⟨opensOnFailure, _⟩ :=
    agree smallConfig (smallRun resumedOutage) (.check "w2" 1 .commitSave) reopening
      (reopening.commits.getLast (by decide +kernel)) smallRun_reached smallNext_taken
      (by decide +kernel)
  have event := opensOnFailure.mp (by decide +kernel)
  revert event
  decide +kernel

end AlonSentinel.System
