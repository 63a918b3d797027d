import AlonSentinel.System.MonitorRefinement

/-! The incidents of every monitor in every reachable state: at most one is open, and the open
and recovered ones are the record of the committed checks.
-/

namespace AlonSentinel.System

open Domain
open KeyedTable
open Notifications
open Worker

variable {config : DeliveryConfig} {world : World}

/-- In every reachable state the incidents of a monitor agree with its commits. -/
theorem monitorHistory_of_reached (reached : Reached config world) (siteMonitorId : Int)
    : MonitorHistory siteMonitorId world.now (monitorView world siteMonitorId) :=
  (consistent_of_reached reached siteMonitorId).good

theorem mem_incidentsOf {db : Database} {incident : SiteMonitorIncident}
    (stored : incident ∈ db.siteMonitorIncidents.rows)
    : incident ∈ incidentsOf db incident.siteMonitorId :=
  List.mem_filter.mpr ⟨stored, decide_eq_true rfl⟩

------------------------------------------------------------
-- Open incidents
------------------------------------------------------------

/-- Two open incidents of one monitor are one incident. -/
def OneOpenPerMonitor (db : Database) : Prop :=
  ∀ first ∈ db.siteMonitorIncidents.rows,
    ∀ second ∈ db.siteMonitorIncidents.rows,
      first.siteMonitorId = second.siteMonitorId
      → first.isOpen = true
      → second.isOpen = true
      → first = second

/-- The monitor of an open incident is stored with a failure as its last outcome. -/
def OpenMeansFailed (db : Database) : Prop :=
  ∀ incident ∈ db.siteMonitorIncidents.rows,
    incident.isOpen = true
    → ∃ monitor,
        db.siteMonitors.find? incident.siteMonitorId = some monitor
        ∧ monitor.lastIsSuccess = some false

/-- Saves of owners commit, so none of them violates the unique index. -/
def OwnersCommit (world : World) : Prop :=
  ∀ workerId siteMonitorId job startedAt completed found,
    (world.checkBatches workerId).find? siteMonitorId = some job
    → job.phase = .deciding startedAt completed found
    → Owns world.db siteMonitorId workerId
    → ∃ saved,
        saveCheckResult world.db startedAt job.siteMonitor workerId completed found = .ok saved

theorem oneOpenPerMonitor (reached : Reached config world) : OneOpenPerMonitor world.db := by
  intro first firstStored second secondStored same firstOpen secondOpen
  exact (monitorHistory_of_reached reached _).incidents.open_unique (mem_incidentsOf firstStored)
    (same ▸ mem_incidentsOf secondStored) firstOpen secondOpen

theorem openMeansFailed (reached : Reached config world) : OpenMeansFailed world.db := by
  intro incident stored isOpen
  have history := monitorHistory_of_reached reached incident.siteMonitorId
  obtain ⟨facts, present, _⟩ := history.site incident (mem_incidentsOf stored)
  have failed := history.failed_of_open present (mem_incidentsOf stored) isOpen
  obtain ⟨monitor, found, rfl⟩ := Option.map_eq_some_iff.mp present
  exact ⟨monitor, found, failed⟩

/-- An owner that is about to open an incident finds none open: it would have been handed the
failure that comes with an open incident, and its lookup would have found the incident. -/
theorem ownersCommit (reached : Reached config world) : OwnersCommit world := by
  intro workerId siteMonitorId job startedAt completed found holds deciding owns
  obtain ⟨_, rfl⟩ := Table.mem_of_find? holds
  refine saveCheckResult_succeeds (claimGuard_iff.mpr owns) fun opens => ?_
  obtain ⟨monitor, stored, claimed⟩ := owns
  have accurate := jobAccurate_of_owns reached holds stored claimed
  have history := monitorHistory_of_reached reached job.monitorId
  obtain ⟨facts, present, _, _, sameOutcome⟩ := accurate.facts
  refine List.any_eq_false.mpr fun incident member isOpenFor => ?_
  obtain ⟨ofMonitor, isOpen⟩ := Bool.and_eq_true_iff.mp isOpenFor
  have own : incident ∈ incidentsOf world.db job.monitorId :=
    List.mem_filter.mpr ⟨member, ofMonitor⟩
  have failed : job.siteMonitor.lastIsSuccess = some false :=
    sameOutcome.symm.trans (history.failed_of_open present own isOpen)
  obtain ⟨known, isFound, _⟩ := accurate.found _ _ _ deciding incident own isOpen
  have missing := (classifyIncidentAction_opens.mp opens).2 failed
  rw [isFound] at missing
  cases missing

/-- In every reachable state a monitor has at most one open incident, an open incident means
that the last outcome is a failure, and no owner's save runs into the unique index. -/
theorem openIncidentInvariant (reached : Reached config world)
    : OneOpenPerMonitor world.db ∧ OpenMeansFailed world.db ∧ OwnersCommit world :=
  ⟨oneOpenPerMonitor reached, openMeansFailed reached, ownersCommit reached⟩

/-- A failing check opened an incident, and the next one is about to be saved. -/
def secondFailure : List Action :=
  claimActions "w1" ++ saveActions "w1" false ++ .advanceClock (seconds 60) :: claimActions "w2"
    ++ [.check "w2" 1 (.beginSave (completedCheck false)), .check "w2" 1 .lookupIncident]

theorem openIncidentInvariant_secondFailure
    : ((smallRun secondFailure).db.siteMonitorIncidents.rows.map (·.isOpen)) = [true]
      ∧ OneOpenPerMonitor (smallRun secondFailure).db
      ∧ OpenMeansFailed (smallRun secondFailure).db
      ∧ OwnersCommit (smallRun secondFailure) :=
  ⟨by decide +kernel, openIncidentInvariant smallRun_reached⟩

------------------------------------------------------------
-- Bookkeeping
------------------------------------------------------------

/-- Open and recovered incidents are records of the committed checks of their monitor. -/
def IncidentsRecorded (world : World) : Prop :=
  ∀ incident ∈ world.db.siteMonitorIncidents.rows,
    (incident.isOpen = true
      → OpenRecord (commitsOf world incident.siteMonitorId) incident)
    ∧ (incident.resolvedReason = some .recovered
      → RecoveredRecord (commitsOf world incident.siteMonitorId) incident)

theorem incidentBookkeeping (reached : Reached config world) : IncidentsRecorded world := by
  intro incident stored
  have history := (monitorHistory_of_reached reached incident.siteMonitorId).incidents
  exact ⟨history.openRecord incident (mem_incidentsOf stored),
    history.recoveredRecord incident (mem_incidentsOf stored)⟩

/-- Two failing checks, then a successful one. -/
def outage : List Action :=
  claimActions "w1" ++ saveActions "w1" false ++ .advanceClock (seconds 60) :: claimActions "w2"
    ++ saveActions "w2" false ++ .advanceClock (seconds 120) :: claimActions "w1"
    ++ saveActions "w1" true

theorem outage_enabled : (runFrom smallConfig smallWorld outage).isSome = true := by
  decide +kernel

theorem incidentBookkeeping_outage
    : (smallRun outage outage_enabled).db.siteMonitorIncidents.rows.map
          (fun incident => (incident.failureCount, incident.resolvedReason))
        = [(2, some .recovered)]
      ∧ IncidentsRecorded (smallRun outage outage_enabled) :=
  ⟨by decide +kernel, incidentBookkeeping smallRun_reached⟩

end AlonSentinel.System
