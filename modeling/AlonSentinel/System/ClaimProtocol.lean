import AlonSentinel.System.ClaimNumbers
import AlonSentinel.System.MonitorRefinement

/-! What the claim on a monitor guarantees, whatever the order of claims, extensions, releases,
saves, API statements and expiring leases.
-/

namespace AlonSentinel.System

open Domain
open KeyedTable
open LeaseProtocol
open Notifications
open TransitionSystem

variable {config : DeliveryConfig} {world : World}

------------------------------------------------------------
-- Exclusion
------------------------------------------------------------

/-- While a lease is in force, a claim passes the monitor over. -/
def LeaseExcludesClaims (config : DeliveryConfig) (world : World) : Prop :=
  ∀ workerId limit leaseSeconds locked after siteMonitorId monitor deadline,
    step config world (.claimSiteMonitors workerId limit leaseSeconds locked) = some after
    → world.db.siteMonitors.find? siteMonitorId = some monitor
    → monitor.checkLeaseUntil = some deadline
    → world.now ≤ deadline
    → after.db.siteMonitors.find? siteMonitorId = some monitor
      ∧ (after.checkBatches workerId).find? siteMonitorId = none

theorem leaseExcludesClaims (config : DeliveryConfig) (world : World)
    : LeaseExcludesClaims config world := by
  intro workerId limit leaseSeconds locked after siteMonitorId monitor deadline taken found
    leased inForce
  simp only [step] at taken
  split at taken
  · cases taken
    simp only [Function.update_self, Table.find?_collect]
    rcases claimSiteMonitorsDueForCheck_cases world.db world.now workerId limit leaseSeconds
        locked siteMonitorId with
      ⟨same, passed⟩ | ⟨other, otherFound, due, _, _⟩
    · exact ⟨same.trans found, by rw [passed, Option.bind_none]⟩
    · cases found.symm.trans otherFound
      exact absurd ((due_of_dueForCheck due).1 deadline leased) (not_lt.mpr inForce)
  · cases taken

------------------------------------------------------------
-- Commits
------------------------------------------------------------

/-- A save that commits is the owner's, for a claim that it holds, and its worker was handed
the outcome that is stored. -/
def CommitsByOwner (config : DeliveryConfig) (world : World) : Prop :=
  ∀ action after commit,
    step config world action = some after
    → after.commits = world.commits ++ [commit]
    → ∃ job monitor,
        (world.checkBatches commit.workerId).find? commit.check.siteMonitorId = some job
        ∧ job.claimNumber = commit.claimNumber
        ∧ world.db.siteMonitors.find? commit.check.siteMonitorId = some monitor
        ∧ monitor.checkClaimedBy = some commit.workerId
        ∧ job.siteMonitor.lastIsSuccess = monitor.lastIsSuccess

theorem commitsByOwner (reached : Reached config world) : CommitsByOwner config world := by
  intro action after commit taken extended
  obtain ⟨holds, deciding, effect⟩ := (step_cases taken).saveCommitted extended
  obtain ⟨monitor, found, claimed⟩ := claimGuard_iff.mp effect.claimed
  obtain ⟨facts, present, _, _, same⟩ :=
    (jobAccurate_of_owns reached holds found claimed).facts
  cases (monitorView_monitor found).symm.trans present
  exact ⟨_, monitor, holds, rfl, found, claimed, same.symm⟩

/-- Nothing that a worker does for a monitor it no longer owns has an effect. -/
def LostClaimsInert (config : DeliveryConfig) (world : World) : Prop :=
  ∀ workerId siteMonitorId action after,
    ¬Owns world.db siteMonitorId workerId
    → step config world (.check workerId siteMonitorId action) = some after
    → after.db = world.db ∧ after.commits = world.commits

theorem lostClaimsInert (config : DeliveryConfig) (world : World)
    : LostClaimsInert config world := by
  intro workerId siteMonitorId action after lost taken
  obtain ⟨job, holds, rest⟩ := Option.bind_eq_some_iff.mp taken
  obtain ⟨outcome, stepped, rest⟩ := Option.bind_eq_some_iff.mp rest
  cases rest
  have sameJob : job.monitorId = siteMonitorId := (Table.mem_of_find? holds).2
  cases checkStep_cases stepped with
  | extended _ owns | released owns => exact absurd (sameJob ▸ owns) lost
  | committed _ effect =>
      have owns : Owns world.db job.monitorId workerId := claimGuard_iff.mp effect.claimed
      exact absurd (sameJob ▸ owns) lost
  | waited _ | began _ | lookedUp _ | ended => exact ⟨rfl, List.append_nil _⟩

------------------------------------------------------------
-- Intervals between commits
------------------------------------------------------------

def checkInterval (db : Database) (siteMonitorId : Int) : Option Int :=
  (db.siteMonitors.find? siteMonitorId).map (·.checkIntervalSeconds)

/-- Two commits of a monitor with none in between are a check interval apart, if the interval
stays the same from the first commit to the second. -/
def CommitsSpaced (config : DeliveryConfig) (world : World) : Prop :=
  ∀ action middle last lastAction after first second siteMonitorId interval,
    step config world action = some middle
    → middle.commits = world.commits ++ [first]
    → first.check.siteMonitorId = siteMonitorId
    → checkInterval middle.db siteMonitorId = some interval
    → Relation.ReflTransGen
        (NextWhere (step config) fun _ _ later =>
          checkInterval later.db siteMonitorId = some interval)
        middle last
    → commitsOf last siteMonitorId = commitsOf world siteMonitorId ++ [first]
    → step config last lastAction = some after
    → after.commits = last.commits ++ [second]
    → second.check.siteMonitorId = siteMonitorId
    → first.check.checkedAt + seconds interval ≤ second.check.checkedAt

/-- The interval of a monitor, and of what its owner was handed. -/
def IntervalHeld (siteMonitorId interval : Int) (world : World) : Prop :=
  checkInterval world.db siteMonitorId = some interval
  ∧ ∀ workerId job,
      (monitorState world siteMonitorId).owner = some workerId
      → (monitorState world siteMonitorId).held workerId = some job
      → job.siteMonitor.checkIntervalSeconds = interval

theorem IntervalHeld.step {siteMonitorId interval : Int} {after : World} {action : Action}
    (reached : Reached config world) (held : IntervalHeld siteMonitorId interval world)
    (taken : step config world action = some after)
    (kept : checkInterval after.db siteMonitorId = some interval)
    : IntervalHeld siteMonitorId interval after := by
  refine ⟨kept, ?_⟩
  obtain ⟨before, jobs⟩ := held
  rcases (step_cases taken).refines (foundOwn_of_reached reached) siteMonitorId with same | one
  · rw [same]
    exact jobs
  · refine one.ownerHolds ?_ ?_ jobs
    · intro job handed
      obtain ⟨monitor, found, interval⟩ := Option.map_eq_some_iff.mp before
      have facts := handed.facts
      rw [monitorState, monitorView_monitor found] at facts
      have same := congrArg MonitorFacts.checkIntervalSeconds (Option.some.inj facts)
      exact same.symm.trans interval
    · intro job progressed worked same
      cases worked with
      | checking | saving _ | deciding _ => exact same

/-- Right after a commit nobody owns the monitor. -/
theorem SaveCommitted.unowned {commit : CommittedCheck} {after : World}
    (committed : SaveCommitted world commit after)
    : (monitorState after commit.check.siteMonitorId).owner = none := by
  obtain @⟨workerId, job, startedAt, completed, lookedUp, saved, _, _, effect⟩ := committed
  obtain ⟨monitor, found, claimed⟩ := claimGuard_iff.mp effect.claimed
  change (saved.siteMonitors.find? job.monitorId).bind (·.checkClaimedBy) = none
  rw [monitor_of_save effect found claimed]
  rfl

/-- From the first commit on the owner was handed the interval, and the second commit waited
for it to pass. -/
theorem commitsSpaced (reached : Reached config world) : CommitsSpaced config world := by
  intro action middle last lastAction after first second siteMonitorId interval firstTaken
    firstCommit ofMonitor intervalSet path consecutive lastTaken secondCommit ofMonitor'
  have middleReached := reached.next firstTaken
  have start : IntervalHeld siteMonitorId interval middle := by
    refine ⟨intervalSet, fun workerId job owner _ => ?_⟩
    have unowned := ((step_cases firstTaken).saveCommitted firstCommit).unowned
    rw [ofMonitor, owner] at unowned
    cases unowned
  obtain ⟨lastReached, _, jobs⟩ :=
    middleReached.along (fun _ _ _ reached held taken kept => held.step reached taken kept) start
      path
  obtain @⟨workerId, job, startedAt, completed, lookedUp, saved, holds, deciding, effect⟩ :=
    (step_cases lastTaken).saveCommitted secondCommit
  obtain ⟨monitor, found, claimed⟩ := claimGuard_iff.mp effect.claimed
  have sameJob : job.monitorId = siteMonitorId := ofMonitor'
  subst sameJob
  have accurate := jobAccurate_of_owns lastReached holds found claimed
  obtain ⟨facts, present, _, lastCheckedAt, _⟩ := accurate.facts
  have newest : (commitsOf last job.monitorId).getLast? = some first := by
    rw [consecutive, List.getLast?_concat]
  have checkedAt :=
    (consistent_of_reached lastReached _).good.checkedAt facts first present newest
  obtain ⟨_, due, _⟩ := accurate.started startedAt (by rw [deciding]; rfl)
  have waited := due first.check.checkedAt (lastCheckedAt.symm.trans checkedAt)
  rw [jobs _ _ (monitorState_owner.mpr ⟨monitor, found, claimed⟩) holds] at waited
  exact waited

------------------------------------------------------------
-- The protocol
------------------------------------------------------------

/-- The claim protocol of monitors. -/
theorem monitorClaimProtocol (reached : Reached config world)
    : LeaseExcludesClaims config world
      ∧ CommitsByOwner config world
      ∧ world.commits.Pairwise DifferentClaims
      ∧ LostClaimsInert config world
      ∧ CommitsSpaced config world :=
  ⟨leaseExcludesClaims config world, commitsByOwner reached,
    (claimsTracked_of_reached reached).once, lostClaimsInert config world,
    commitsSpaced reached⟩

/-- The first worker's lease runs out, the second one takes over and commits, the late save of
the first is refused; a minute after the commit the first worker is back. -/
def takeover : List Action :=
  claimActions "w1" ++ .advanceClock (seconds 61) :: claimActions "w2"
    ++ saveActions "w1" false ++ saveActions "w2" false
    ++ .advanceClock (seconds 121) :: claimActions "w1" ++ saveActions "w1" true

theorem monitorClaimProtocol_takeover
    : (smallRun takeover).commits.map (fun commit => (commit.workerId, commit.check.checkedAt))
        = [("w2", seconds 61), ("w1", seconds 121)]
      ∧ LeaseExcludesClaims smallConfig (smallRun takeover)
      ∧ CommitsByOwner smallConfig (smallRun takeover)
      ∧ (smallRun takeover).commits.Pairwise DifferentClaims
      ∧ LostClaimsInert smallConfig (smallRun takeover)
      ∧ CommitsSpaced smallConfig (smallRun takeover) :=
  ⟨by decide +kernel, monitorClaimProtocol smallRun_reached⟩

end AlonSentinel.System
