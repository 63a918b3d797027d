import Mathlib.Data.List.Pairwise
import AlonSentinel.System.WorldSteps

/-! Claims are numbered in the record of the run. A claim of a monitor is held by one worker
until its job is over, and a job that commits is over, so no claim commits twice.
-/

namespace AlonSentinel.System

open Domain
open KeyedTable
open Notifications
open TransitionSystem

/-- Two commits that do not come from one claim of one monitor. -/
def DifferentClaims (first second : CommittedCheck) : Prop :=
  ¬(first.claimNumber = second.claimNumber
    ∧ first.check.siteMonitorId = second.check.siteMonitorId)

/-- Every claim of a monitor is either in the hands of one worker, or spent. -/
structure ClaimsTracked (world : World) : Prop where
  jobsIssued
    : ∀ workerId siteMonitorId job,
        (world.checkBatches workerId).find? siteMonitorId = some job
        → job.claimNumber < world.claimsIssued
  commitsIssued : ∀ commit ∈ world.commits, commit.claimNumber < world.claimsIssued
  oneHolder
    : ∀ first second siteMonitorId job other,
        (world.checkBatches first).find? siteMonitorId = some job
        → (world.checkBatches second).find? siteMonitorId = some other
        → job.claimNumber = other.claimNumber
        → first = second
  unspent
    : ∀ workerId siteMonitorId job,
        (world.checkBatches workerId).find? siteMonitorId = some job
        → ∀ commit ∈ world.commits,
            commit.claimNumber = job.claimNumber
            → commit.check.siteMonitorId ≠ siteMonitorId
  once : world.commits.Pairwise DifferentClaims

/-- A step that commits nothing and starts no claim keeps track, if every job held afterwards
continues one with the same number. -/
theorem ClaimsTracked.continued {world after : World} (tracked : ClaimsTracked world)
    (commits : after.commits = world.commits)
    (claimsIssued : after.claimsIssued = world.claimsIssued)
    (jobs
      : ∀ workerId siteMonitorId job,
          (after.checkBatches workerId).find? siteMonitorId = some job
          → ∃ prior,
              (world.checkBatches workerId).find? siteMonitorId = some prior
              ∧ job.claimNumber = prior.claimNumber)
    : ClaimsTracked after := by
  refine ⟨?_, ?_, ?_, ?_, ?_⟩
  · intro workerId siteMonitorId job held
    obtain ⟨prior, was, number⟩ := jobs _ _ _ held
    rw [claimsIssued, number]
    exact tracked.jobsIssued _ _ _ was
  · rw [commits, claimsIssued]
    exact tracked.commitsIssued
  · intro first second siteMonitorId job other held otherHeld same
    obtain ⟨prior, was, number⟩ := jobs _ _ _ held
    obtain ⟨otherPrior, otherWas, otherNumber⟩ := jobs _ _ _ otherHeld
    exact tracked.oneHolder _ _ _ _ _ was otherWas (number.symm.trans (same.trans otherNumber))
  · intro workerId siteMonitorId job held commit member same
    obtain ⟨prior, was, number⟩ := jobs _ _ _ held
    exact tracked.unspent _ _ _ was commit (commits ▸ member) (same.trans number)
  · rw [commits]
    exact tracked.once

/-- A claim takes a number that no job and no commit has. -/
theorem ClaimsTracked.claimed {world after : World} (tracked : ClaimsTracked world)
    (commits : after.commits = world.commits)
    (claimsIssued : after.claimsIssued = world.claimsIssued + 1) (claimer : String)
    (jobs
      : ∀ workerId siteMonitorId job,
          (after.checkBatches workerId).find? siteMonitorId = some job
          → (world.checkBatches workerId).find? siteMonitorId = some job
            ∨ (workerId = claimer ∧ job.claimNumber = world.claimsIssued))
    : ClaimsTracked after := by
  refine ⟨?_, ?_, ?_, ?_, ?_⟩
  · intro workerId siteMonitorId job held
    rw [claimsIssued]
    rcases jobs _ _ _ held with was | ⟨_, new⟩
    · exact Nat.lt_succ_of_lt (tracked.jobsIssued _ _ _ was)
    · exact new ▸ Nat.lt_succ_self _
  · intro commit member
    rw [claimsIssued]
    exact Nat.lt_succ_of_lt (tracked.commitsIssued commit (commits ▸ member))
  · intro first second siteMonitorId job other held otherHeld same
    rcases jobs _ _ _ held with was | ⟨isClaimer, new⟩
    · have old := tracked.jobsIssued _ _ _ was
      rcases jobs _ _ _ otherHeld with otherWas | ⟨_, otherNew⟩
      · exact tracked.oneHolder _ _ _ _ _ was otherWas same
      · omega
    · rcases jobs _ _ _ otherHeld with otherWas | ⟨otherIsClaimer, _⟩
      · have old := tracked.jobsIssued _ _ _ otherWas
        omega
      · exact isClaimer.trans otherIsClaimer.symm
  · intro workerId siteMonitorId job held commit member same
    have stored := commits ▸ member
    rcases jobs _ _ _ held with was | ⟨_, new⟩
    · exact tracked.unspent _ _ _ was commit stored same
    · have old := tracked.commitsIssued commit stored
      omega
  · rw [commits]
    exact tracked.once

/-- A commit spends the claim of a job that its worker no longer holds. -/
theorem ClaimsTracked.spent {world after : World} (tracked : ClaimsTracked world)
    {workerId : String} {siteMonitorId : Int} {job : CheckJob} {commit : CommittedCheck}
    (holds : (world.checkBatches workerId).find? siteMonitorId = some job)
    (number : commit.claimNumber = job.claimNumber)
    (ofMonitor : commit.check.siteMonitorId = siteMonitorId)
    (commits : after.commits = world.commits ++ [commit])
    (claimsIssued : after.claimsIssued = world.claimsIssued)
    (jobs
      : ∀ worker other held,
          (after.checkBatches worker).find? other = some held
          → (world.checkBatches worker).find? other = some held
            ∧ ¬(worker = workerId ∧ other = siteMonitorId))
    : ClaimsTracked after := by
  refine ⟨?_, ?_, ?_, ?_, ?_⟩
  · intro worker other job held
    rw [claimsIssued]
    exact tracked.jobsIssued _ _ _ (jobs _ _ _ held).1
  · intro other member
    rw [claimsIssued]
    rcases List.mem_append.mp (commits ▸ member) with old | new
    · exact tracked.commitsIssued other old
    · rw [List.mem_singleton.mp new, number]
      exact tracked.jobsIssued _ _ _ holds
  · intro first second other job otherJob held otherHeld
    exact tracked.oneHolder _ _ _ _ _ (jobs _ _ _ held).1 (jobs _ _ _ otherHeld).1
  · intro worker other otherJob held spent member same
    obtain ⟨was, notThis⟩ := jobs _ _ _ held
    rcases List.mem_append.mp (commits ▸ member) with old | new
    · exact tracked.unspent _ _ _ was spent old same
    · rw [List.mem_singleton.mp new] at same ⊢
      intro sameMonitor
      have here : siteMonitorId = other := ofMonitor.symm.trans sameMonitor
      subst here
      exact notThis ⟨tracked.oneHolder _ _ _ _ _ was holds (same.symm.trans number), rfl⟩
  · rw [commits]
    refine List.pairwise_append.mpr ⟨tracked.once, List.pairwise_singleton _ _, ?_⟩
    intro earlier old new isNew both
    rw [List.mem_singleton.mp isNew] at both
    exact tracked.unspent _ _ _ holds earlier old (both.1.trans number)
      (both.2.trans ofMonitor)

/-- A step keeps track of claims, one case for each kind of party. -/
theorem ClaimsTracked.step {config : DeliveryConfig} {world after : World}
    (tracked : ClaimsTracked world) (stepped : Stepped config world after)
    : ClaimsTracked after := by
  cases stepped with
  | waited _ | claimedDeliveries _ _ _ | delivered _ _ | served _ _ =>
      exact tracked.continued rfl rfl fun _ _ job held => ⟨job, held, rfl⟩
  | @claimedMonitors claimer _ _ batch idle claim =>
      refine tracked.claimed rfl rfl claimer fun worker siteMonitorId job held => ?_
      by_cases same : worker = claimer
      · subst same
        simp only [Function.update_self] at held
        rcases claim siteMonitorId with ⟨_, passed⟩ | ⟨_, _, _, _, _, started⟩
        · cases passed.symm.trans held
        · cases started.symm.trans held
          exact .inr ⟨rfl, rfl⟩
      · simp only [ne_eq, same, not_false_eq_true, Function.update_of_ne] at held
        exact .inl held
  | @checked checker checkedId before outcome holds checked =>
      have continues (worker : String) (siteMonitorId : Int) (job : CheckJob)
          (held
            : ((world.afterCheck checker checkedId outcome).checkBatches worker).find?
                siteMonitorId
              = some job)
          : ∃ prior,
              (world.checkBatches worker).find? siteMonitorId = some prior
              ∧ job.claimNumber = prior.claimNumber := by
        have stepped : Stepped config world (world.afterCheck checker checkedId outcome) :=
          .checked holds checked
        rcases stepped.job_cases held with
          was | ⟨_, _, _, _, _, issued, _⟩ | ⟨prior, _, was, _, _, _, number, _⟩
        · exact ⟨job, was, rfl⟩
        · have unchanged : world.claimsIssued = world.claimsIssued + 1 := issued
          omega
        · exact ⟨prior, was, number⟩
      cases checked with
      | extended _ _ | released _ | waited _ | began _ | lookedUp _ | ended =>
          exact tracked.continued (List.append_nil _) rfl continues
      | committed _ _ =>
          have sameMonitor : before.monitorId = checkedId := (Table.mem_of_find? holds).2
          refine tracked.spent holds rfl sameMonitor rfl rfl fun worker other job held => ?_
          by_cases same : worker = checker
          · subst same
            simp only [World.afterCheck, Function.update_self] at held
            obtain ⟨prior, was, _, _, ⟨_, gone⟩ | ⟨different, rfl⟩⟩ :=
              find?_setPhase_eq_some held
            · cases gone
            · exact ⟨was, fun both => different both.2⟩
          · simp only [World.afterCheck, ne_eq, same, not_false_eq_true,
              Function.update_of_ne] at held
            exact ⟨held, fun both => same both.1⟩

/-- In every reachable state claims are tracked. -/
theorem claimsTracked_of_reached {config : DeliveryConfig} {world : World}
    (reached : Reached config world)
    : ClaimsTracked world := by
  refine reached.invariant ClaimsTracked ?_ ?_
  · intro start fresh
    have noJobs (workerId : String) (siteMonitorId : Int) (job : CheckJob)
        (held : (start.checkBatches workerId).find? siteMonitorId = some job)
        : False := by
      have stored := (Table.mem_of_find? held).1
      rw [fresh.noCheckJobs workerId] at stored
      cases stored
    refine ⟨?_, ?_, ?_, ?_, ?_⟩
    · exact fun _ _ _ held => (noJobs _ _ _ held).elim
    · simp [fresh.noCommits]
    · exact fun _ _ _ _ _ held => (noJobs _ _ _ held).elim
    · exact fun _ _ _ held => (noJobs _ _ _ held).elim
    · simp [fresh.noCommits]
  · exact fun _ _ _ _ tracked taken => tracked.step (step_cases taken)

end AlonSentinel.System
