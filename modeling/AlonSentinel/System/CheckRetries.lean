import Mathlib.Order.Bounds.Defs
import AlonSentinel.Worker.MonitorCheckRetries

/-! What a run of the retry loop returns, and when. Undisturbed, it ends with the first attempt that
is final; a shutdown ends it at once.
-/

namespace AlonSentinel.System

open Worker

/-- The attempts, counted from one, whose result the loop may return. -/
def returnable (policy : ResolvedMonitorCheckPolicy) (inputs : RetryInputs) : Set Nat :=
  {count |
    0 < count
    ∧ (isRetryableCheckResult (inputs.attempt (count - 1)).result = false
      ∨ count = policy.maxAttempts.toNat
      ∨ policy.retryDelaysMs = [])}

/-- A run that returns the result of its last attempt, the first one it may return, and that waited
between any two attempts for a delay of the list, jittered.
-/
structure CompletesWith (policy : ResolvedMonitorCheckPolicy) (inputs : RetryInputs)
    (run : RetryRun) (count : Nat)
    : Prop where
  least : IsLeast (returnable policy inputs) count
  execution
    : ∃ check,
        run.execution = some (.completed check)
        ∧ check.result = (inputs.attempt (count - 1)).result
        ∧ check.attemptCount = count
  attempts : run.attempts = count
  waits : run.waits.length = count - 1
  windows
    : ∀ index wait,
        run.waits[index]? = some wait
        → ∃ millis,
            policy.retryDelaysMs[min index (policy.retryDelaysMs.length - 1)]? = some millis
            ∧ InJitterWindow millis policy.retryJitterPercent wait.delay
  fullWaits
    : ∀ index wait,
        run.waits[index]? = some wait
        → (inputs.wait index).event = none
        → wait.isFull = true

/-- A run that a shutdown cancels in the attempt or the wait it arrives in. -/
structure CancelledByShutdown (inputs : RetryInputs) (run : RetryRun) : Prop where
  inAttempt
    : ∀ index < run.attempts,
        (inputs.attempt index).isInterrupted = true
        → run.execution = some .cancelled ∧ run.attempts = index + 1
  inWait
    : ∀ index < run.waits.length,
        waitForRetryDelayOrShutdown (inputs.wait index) = false
        → run.execution = some .cancelled ∧ run.attempts = index + 1

variable {policy : ResolvedMonitorCheckPolicy} {inputs : RetryInputs}

/-- Between two attempts the loop waits within the window of the delay at that place. -/
theorem run_window {index : Nat} {wait : RetryWait}
    (member : (runMonitorCheckWithRetries policy inputs).waits[index]? = some wait)
    : ∃ millis,
        policy.retryDelaysMs[min index (policy.retryDelaysMs.length - 1)]? = some millis
        ∧ InJitterWindow millis policy.retryJitterPercent wait.delay := by
  obtain ⟨isDelay, _⟩ := attemptsFrom_waits member
  rw [Nat.zero_add] at isDelay
  have nonempty : policy.retryDelaysMs ≠ [] := by
    intro empty
    rw [retryDelayForAttempt_eq_none.mpr empty] at isDelay
    cases isDelay
  obtain ⟨millis, listed, base⟩ := baseRetryDelayForAttempt_eq nonempty index
  rw [ResolvedMonitorCheckPolicy.retryDelayForAttempt, base, Option.map_some] at isDelay
  refine ⟨millis, listed, ?_⟩
  rw [← Option.some.inj isDelay]
  exact inJitterWindow_jitterRetryDelay

/-- In an undisturbed run the first final attempt is the least returnable one. -/
theorem completesWith_of_undisturbed (positive : 0 < policy.maxAttempts.toNat)
    (undisturbed : Undisturbed inputs)
    : ∃ count, CompletesWith policy inputs (runMonitorCheckWithRetries policy inputs) count := by
  obtain ⟨further, isFinal, earlier, bound, execution, attempts, waits⟩ :=
    attemptsFrom_of_undisturbed undisturbed (Nat.zero_add _) positive
  rw [Nat.zero_add] at isFinal execution
  refine ⟨further + 1, ?_, ⟨_, execution, rfl, rfl⟩, attempts, waits,
    fun _ _ member => run_window member, ?_⟩
  · constructor
    · refine ⟨Nat.succ_pos _, ?_⟩
      rcases isFinal with notRetryable | last | empty
      · exact .inl notRetryable
      · exact .inr (.inl (by omega))
      · exact .inr (.inr empty)
    · rintro count ⟨counted, returns⟩
      by_contra before
      refine earlier (count - 1) (by omega) ?_
      rw [Nat.zero_add]
      rcases returns with notRetryable | last | empty
      · exact .inl notRetryable
      · exact .inr (.inl (by omega))
      · exact .inr (.inr empty)
  · intro index wait member quiet
    obtain ⟨_, isFull⟩ := attemptsFrom_waits member
    have goesOn := undisturbed.waits index
    simp only [Nat.zero_add, quiet, Option.isNone_none, Bool.and_true] at isFull
    simp only [waitForRetryDelayOrShutdown, quiet, Option.all_none, Bool.and_true] at goesOn
    rw [isFull, goesOn]

/-- The retry loop never reaches its `unreachable!`, returns the first final attempt of an
undisturbed run, and is cancelled by a shutdown without another attempt.
-/
theorem retryLoop_returns (policy : ResolvedMonitorCheckPolicy)
    (positive : 1 ≤ policy.maxAttempts) (inputs : RetryInputs)
    : (runMonitorCheckWithRetries policy inputs).execution.isSome = true
      ∧ (Undisturbed inputs
        → ∃ count, CompletesWith policy inputs (runMonitorCheckWithRetries policy inputs) count)
      ∧ CancelledByShutdown inputs (runMonitorCheckWithRetries policy inputs) := by
  have attemptsLeft : 0 < policy.maxAttempts.toNat := UInt64.le_iff_toNat_le.mp positive
  refine ⟨attemptsFrom_isSome (Nat.zero_add _) attemptsLeft,
    completesWith_of_undisturbed attemptsLeft, ?_⟩
  constructor
  · intro index begun isInterrupted
    exact attemptsFrom_interrupted begun ((Nat.zero_add index).symm ▸ isInterrupted)
  · intro index begun refused
    exact attemptsFrom_refused begun ((Nat.zero_add index).symm ▸ refused)

/-- A check that fails for a reason. -/
def failedWith (reason : String) : CheckResult where
  isSuccess := false
  statusCode := none
  responseTimeMs := none
  failureReason := some reason
  errorMessage := none
  certificateMetadata := none

/-- Inputs of a run in which every attempt fails for a reason and nothing disturbs it. -/
def alwaysFails (reason : String) : RetryInputs where
  attempt _ := { events := [], result := failedWith reason, elapsedMs := 0 }
  wait _ := { shutdownRequested := false, event := none }
  draw _ := .greatest

/-- Three attempts with one delay. -/
def threeAttempts : ResolvedMonitorCheckPolicy where
  timeout := .fromSecs 10
  maxAttempts := 3
  retryDelaysMs := [1000]
  retryJitterPercent := 20
  maxResponseBodyBytes := 65536
  allowPrivateTargets := false

theorem retryLoop_returns_threeAttempts
    : 1 ≤ threeAttempts.maxAttempts
      ∧ (runMonitorCheckWithRetries threeAttempts (alwaysFails "timeout")).execution.isSome = true
      ∧ ∃ count,
          CompletesWith threeAttempts (alwaysFails "timeout")
            (runMonitorCheckWithRetries threeAttempts (alwaysFails "timeout")) count := by
  have positive : 1 ≤ threeAttempts.maxAttempts := by decide
  have returns := retryLoop_returns threeAttempts positive (alwaysFails "timeout")
  exact ⟨positive, returns.1, returns.2.1 ⟨fun _ => rfl, fun _ => rfl⟩⟩

-- The first delay is used again for the second wait.
example
    : (runMonitorCheckWithRetries threeAttempts (alwaysFails "timeout")).waits
      = [⟨.fromMillis 1200, true⟩, ⟨.fromMillis 1200, true⟩] := by
  decide +kernel

end AlonSentinel.System
