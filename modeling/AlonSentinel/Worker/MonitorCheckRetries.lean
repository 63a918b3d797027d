import AlonSentinel.Worker.MonitorCheckPolicy
import AlonSentinel.Worker.SaveCheckResult

/-! The loop that repeats a check while it fails for a transient reason. What each attempt returns,
what is drawn for each delay and what arrives on the shutdown channel are inputs of a run.
-/

namespace AlonSentinel.Worker

open MachineInteger

------------------------------------------------------------
-- Inputs of a run
------------------------------------------------------------

/-- What a receiver learns of the shutdown channel: a new value, or that its sender is gone. -/
inductive ShutdownEvent where
  | changed (requested : Bool)
  | closed
  deriving DecidableEq

def ShutdownEvent.isShutdown : ShutdownEvent → Bool
  | .changed requested => requested
  | .closed => true

/-- One attempt: the events that `select!` takes before the check is done, and what the check
returns. Where both are ready `select!` takes either one, so an event may come first or not.
-/
structure AttemptInput where
  events : List ShutdownEvent
  result : CheckResult
  elapsedMs : Nat

def AttemptInput.isInterrupted (attempt : AttemptInput) : Bool :=
  attempt.events.any (·.isShutdown)

/-- One wait: the value of the channel when it begins, and the event that ends it early. -/
structure WaitInput where
  shutdownRequested : Bool
  event : Option ShutdownEvent

/-- The inputs of a run, by the index of the attempt. -/
structure RetryInputs where
  attempt : Nat → AttemptInput
  wait : Nat → WaitInput
  draw : Nat → Draw

------------------------------------------------------------
-- The loop
------------------------------------------------------------

def isRetryableCheckResult (result : CheckResult) : Bool :=
  result.failureReason = some "timeout" || result.failureReason = some "connect_error"

/-- Whether the loop goes on behind a wait. -/
def waitForRetryDelayOrShutdown (wait : WaitInput) : Bool :=
  !wait.shutdownRequested && wait.event.all (!·.isShutdown)

inductive MonitorCheckExecution where
  | completed (check : CompletedMonitorCheck)
  | cancelled
  deriving DecidableEq

/-- A wait that was begun, and whether nothing cut it short. -/
structure RetryWait where
  delay : StdTime.Duration
  isFull : Bool
  deriving DecidableEq

/-- What a run did; without an execution it reached `unreachable!`. -/
structure RetryRun where
  execution : Option MonitorCheckExecution
  attempts : Nat
  waits : List RetryWait
  deriving DecidableEq

/-- A run that ends in its current attempt. -/
def RetryRun.endsWith (execution : MonitorCheckExecution) : RetryRun where
  execution := some execution
  attempts := 1
  waits := []

/-- A run that ends in the wait behind its current attempt. -/
def RetryRun.endsInWait (wait : RetryWait) : RetryRun where
  execution := some .cancelled
  attempts := 1
  waits := [wait]

/-- A run with one more attempt and wait in front. -/
def RetryRun.precededBy (wait : RetryWait) (rest : RetryRun) : RetryRun where
  execution := rest.execution
  attempts := rest.attempts + 1
  waits := wait :: rest.waits

variable (policy : ResolvedMonitorCheckPolicy) (inputs : RetryInputs)

/-- What the loop returns behind the attempt at an index. -/
def completedAt (attemptIndex : Nat) : MonitorCheckExecution :=
  .completed
    { result := (inputs.attempt attemptIndex).result
      attemptCount := attemptIndex + 1
      totalDurationMs := asI32 (inputs.attempt attemptIndex).elapsedMs }

/-- The loop with a number of attempts left. -/
def attemptsFrom : Nat → Nat → RetryRun
  -- Behind the last attempt there is only `unreachable!`.
  | 0, _ => { execution := none, attempts := 0, waits := [] }
  | remaining + 1, attemptIndex =>
      if (inputs.attempt attemptIndex).isInterrupted then .endsWith .cancelled
      else
        let shouldRetry :=
          decide (attemptIndex + 1 < policy.maxAttempts.toNat)
            && isRetryableCheckResult (inputs.attempt attemptIndex).result
        if !shouldRetry then .endsWith (completedAt inputs attemptIndex)
        else
          match policy.retryDelayForAttempt (inputs.draw attemptIndex) attemptIndex with
          | none => .endsWith (completedAt inputs attemptIndex)
          | some delay =>
              let input := inputs.wait attemptIndex
              let wait : RetryWait :=
                ⟨delay, !input.shutdownRequested && input.event.isNone⟩
              if waitForRetryDelayOrShutdown input then
                (attemptsFrom remaining (attemptIndex + 1)).precededBy wait
              else .endsInWait wait

def runMonitorCheckWithRetries : RetryRun :=
  attemptsFrom policy inputs policy.maxAttempts.toNat 0

------------------------------------------------------------
-- One round of the loop
------------------------------------------------------------

/-- Whether the loop returns the result of the attempt at an index: the result does not ask for
another attempt, there is none left, or no delay is given.
-/
def IsFinal (attemptIndex : Nat) : Prop :=
  isRetryableCheckResult (inputs.attempt attemptIndex).result = false
  ∨ policy.maxAttempts.toNat ≤ attemptIndex + 1
  ∨ policy.retryDelaysMs = []

variable {policy inputs}

/-- What one round does, with the wait it begins. -/
inductive Round (policy : ResolvedMonitorCheckPolicy) (inputs : RetryInputs)
    (remaining attemptIndex : Nat)
    : Prop
  | interrupted
      (isInterrupted : (inputs.attempt attemptIndex).isInterrupted = true)
      (run : attemptsFrom policy inputs (remaining + 1) attemptIndex = .endsWith .cancelled)
  | final
      (undisturbed : (inputs.attempt attemptIndex).isInterrupted = false)
      (isFinal : IsFinal policy inputs attemptIndex)
      (run
        : attemptsFrom policy inputs (remaining + 1) attemptIndex
          = .endsWith (completedAt inputs attemptIndex))
  | waits (delay : StdTime.Duration)
      (undisturbed : (inputs.attempt attemptIndex).isInterrupted = false)
      (notFinal : ¬IsFinal policy inputs attemptIndex)
      (isDelay
        : policy.retryDelayForAttempt (inputs.draw attemptIndex) attemptIndex = some delay)
      (run
        : attemptsFrom policy inputs (remaining + 1) attemptIndex
          = if waitForRetryDelayOrShutdown (inputs.wait attemptIndex) then
              (attemptsFrom policy inputs remaining (attemptIndex + 1)).precededBy
                ⟨delay,
                  !(inputs.wait attemptIndex).shutdownRequested
                    && (inputs.wait attemptIndex).event.isNone⟩
            else
              .endsInWait
                ⟨delay,
                  !(inputs.wait attemptIndex).shutdownRequested
                    && (inputs.wait attemptIndex).event.isNone⟩)

/-- Every round is of one of these kinds. -/
theorem round_cases (policy : ResolvedMonitorCheckPolicy) (inputs : RetryInputs)
    (remaining attemptIndex : Nat)
    : Round policy inputs remaining attemptIndex := by
  by_cases isInterrupted : (inputs.attempt attemptIndex).isInterrupted = true
  · exact .interrupted isInterrupted (by rw [attemptsFrom, if_pos isInterrupted])
  · have undisturbed := Bool.eq_false_iff.mpr isInterrupted
    by_cases retries
      : attemptIndex + 1 < policy.maxAttempts.toNat
        ∧ isRetryableCheckResult (inputs.attempt attemptIndex).result = true
    · cases isDelay
          : policy.retryDelayForAttempt (inputs.draw attemptIndex) attemptIndex with
      | none =>
          refine .final undisturbed (.inr (.inr (retryDelayForAttempt_eq_none.mp isDelay))) ?_
          simp [attemptsFrom, undisturbed, retries, isDelay]
      | some delay =>
          refine .waits delay undisturbed ?_ isDelay ?_
          · rintro (notRetryable | last | empty)
            · rw [retries.2] at notRetryable
              cases notRetryable
            · omega
            · rw [retryDelayForAttempt_eq_none.mpr empty] at isDelay
              cases isDelay
          · simp [attemptsFrom, undisturbed, retries, isDelay]
    · refine .final undisturbed ?_ ?_
      · rw [not_and_or, Bool.not_eq_true] at retries
        rcases retries with last | notRetryable
        · exact .inr (.inl (by omega))
        · exact .inl notRetryable
      · have stops
            : (decide (attemptIndex + 1 < policy.maxAttempts.toNat)
                && isRetryableCheckResult (inputs.attempt attemptIndex).result) = false := by
          simpa using retries
        simp [attemptsFrom, undisturbed, stops]

------------------------------------------------------------
-- Whole runs
------------------------------------------------------------

/-- No shutdown is signalled in any attempt or wait. -/
structure Undisturbed (inputs : RetryInputs) : Prop where
  attempts : ∀ attemptIndex, (inputs.attempt attemptIndex).isInterrupted = false
  waits : ∀ attemptIndex, waitForRetryDelayOrShutdown (inputs.wait attemptIndex) = true

/-- A loop with attempts left never runs off its end. -/
theorem attemptsFrom_isSome {remaining attemptIndex : Nat}
    (all : attemptIndex + remaining = policy.maxAttempts.toNat) (left : 0 < remaining)
    : (attemptsFrom policy inputs remaining attemptIndex).execution.isSome = true := by
  induction remaining generalizing attemptIndex with
  | zero => omega
  | succ remaining ih =>
      cases round_cases policy inputs remaining attemptIndex with
      | interrupted _ run | final _ _ run =>
          rw [run]
          rfl
      | waits delay _ notFinal _ run =>
          rw [run]
          split
          · apply ih
            · omega
            · by_contra none
              exact notFinal (.inr (.inl (by omega)))
          · rfl

/-- The first index from which the loop does not go on, by induction on the attempts left: before
it no attempt is final, and all waits between were begun.
-/
theorem attemptsFrom_of_undisturbed (undisturbed : Undisturbed inputs)
    {remaining attemptIndex : Nat} (all : attemptIndex + remaining = policy.maxAttempts.toNat)
    (left : 0 < remaining)
    : ∃ further,
        IsFinal policy inputs (attemptIndex + further)
        ∧ (∀ earlier < further, ¬IsFinal policy inputs (attemptIndex + earlier))
        ∧ further < remaining
        ∧ (attemptsFrom policy inputs remaining attemptIndex).execution
          = some (completedAt inputs (attemptIndex + further))
        ∧ (attemptsFrom policy inputs remaining attemptIndex).attempts = further + 1
        ∧ (attemptsFrom policy inputs remaining attemptIndex).waits.length = further := by
  induction remaining generalizing attemptIndex with
  | zero => omega
  | succ remaining ih =>
      cases round_cases policy inputs remaining attemptIndex with
      | interrupted isInterrupted _ =>
          rw [undisturbed.attempts] at isInterrupted
          cases isInterrupted
      | final _ isFinal run =>
          refine ⟨0, isFinal, fun _ none => absurd none (Nat.not_lt_zero _), left, ?_⟩
          rw [run]
          exact ⟨rfl, rfl, rfl⟩
      | waits delay _ notFinal _ run =>
          have more : 0 < remaining := by
            by_contra none
            exact notFinal (.inr (.inl (by omega)))
          obtain ⟨further, isFinal, earlier, bound, execution, attempts, waits⟩ :=
            @ih (attemptIndex + 1) (by omega) more
          have shift : attemptIndex + 1 + further = attemptIndex + (further + 1) := by omega
          rw [shift] at isFinal execution
          rw [if_pos (undisturbed.waits attemptIndex)] at run
          refine ⟨further + 1, isFinal, ?_, by omega, ?_⟩
          · intro index before
            cases index with
            | zero => exact notFinal
            | succ index =>
                have notYet := earlier index (by omega)
                rwa [show attemptIndex + 1 + index = attemptIndex + (index + 1) by omega]
                  at notYet
          · rw [run]
            refine ⟨execution, ?_, ?_⟩
            · exact congrArg (· + 1) attempts
            · exact congrArg (· + 1) waits

/-- An attempt is made as long as there are some left. -/
theorem attemptsFrom_attempts_pos {remaining attemptIndex : Nat}
    : 0 < (attemptsFrom policy inputs (remaining + 1) attemptIndex).attempts := by
  cases round_cases policy inputs remaining attemptIndex with
  | interrupted _ run | final _ _ run =>
      rw [run]
      exact Nat.one_pos
  | waits _ _ _ _ run =>
      rw [run]
      split
      · exact Nat.succ_pos _
      · exact Nat.one_pos

/-- Behind an attempt that was begun and that no shutdown disturbs, there is another exactly if it
is not final. By induction on the attempts left.
-/
theorem attemptsFrom_goesOn_iff {remaining attemptIndex index : Nat}
    (all : attemptIndex + remaining = policy.maxAttempts.toNat)
    (begun : index < (attemptsFrom policy inputs remaining attemptIndex).attempts)
    (quiet : (inputs.attempt (attemptIndex + index)).isInterrupted = false)
    (goesOn : waitForRetryDelayOrShutdown (inputs.wait (attemptIndex + index)) = true)
    : index + 1 < (attemptsFrom policy inputs remaining attemptIndex).attempts
      ↔ ¬IsFinal policy inputs (attemptIndex + index) := by
  induction remaining generalizing attemptIndex index with
  | zero => cases begun
  | succ remaining ih =>
      cases round_cases policy inputs remaining attemptIndex with
      | interrupted isInterrupted run =>
          rw [run] at begun
          obtain rfl := Nat.lt_one_iff.mp begun
          rw [Nat.add_zero, isInterrupted] at quiet
          cases quiet
      | final _ isFinal run =>
          rw [run] at begun ⊢
          obtain rfl := Nat.lt_one_iff.mp begun
          exact iff_of_false (Nat.lt_irrefl _) (not_not.mpr isFinal)
      | waits delay _ notFinal _ run =>
          rw [run] at begun ⊢
          cases index with
          | zero =>
              rw [Nat.add_zero] at goesOn
              rw [if_pos goesOn]
              refine iff_of_true ?_ notFinal
              cases remaining with
              | zero => exact absurd (.inr (.inl (by omega))) notFinal
              | succ remaining => exact Nat.succ_lt_succ attemptsFrom_attempts_pos
          | succ index =>
              split at begun
              · rename_i waited
                rw [if_pos waited]
                rw [show attemptIndex + (index + 1) = attemptIndex + 1 + index by omega]
                  at quiet goesOn ⊢
                have later := ih (by omega) (Nat.lt_of_succ_lt_succ begun) quiet goesOn
                rw [← later]
                exact Nat.succ_lt_succ_iff
              · exact absurd (Nat.lt_of_succ_lt_succ begun) (Nat.not_lt_zero _)

/-- What each wait is about, in any run. -/
theorem attemptsFrom_waits {remaining attemptIndex : Nat} {index : Nat} {wait : RetryWait}
    (member : (attemptsFrom policy inputs remaining attemptIndex).waits[index]? = some wait)
    : policy.retryDelayForAttempt (inputs.draw (attemptIndex + index)) (attemptIndex + index)
        = some wait.delay
      ∧ wait.isFull
        = (!(inputs.wait (attemptIndex + index)).shutdownRequested
          && (inputs.wait (attemptIndex + index)).event.isNone) := by
  induction remaining generalizing attemptIndex index with
  | zero => cases member
  | succ remaining ih =>
      cases round_cases policy inputs remaining attemptIndex with
      | interrupted _ run | final _ _ run =>
          rw [run] at member
          cases member
      | waits delay _ _ isDelay run =>
          rw [run] at member
          cases index with
          | zero =>
              split at member
              · cases member
                exact ⟨isDelay, rfl⟩
              · cases member
                exact ⟨isDelay, rfl⟩
          | succ index =>
              split at member
              · have shifted := ih member
                rwa [show attemptIndex + 1 + index = attemptIndex + (index + 1) by omega]
                  at shifted
              · cases member

/-- A shutdown in an attempt that was begun is the end of the run. -/
theorem attemptsFrom_interrupted {remaining attemptIndex index : Nat}
    (begun : index < (attemptsFrom policy inputs remaining attemptIndex).attempts)
    (isInterrupted : (inputs.attempt (attemptIndex + index)).isInterrupted = true)
    : (attemptsFrom policy inputs remaining attemptIndex).execution = some .cancelled
      ∧ (attemptsFrom policy inputs remaining attemptIndex).attempts = index + 1 := by
  induction remaining generalizing attemptIndex index with
  | zero => cases begun
  | succ remaining ih =>
      cases round_cases policy inputs remaining attemptIndex with
      | interrupted _ run =>
          rw [run] at begun ⊢
          obtain rfl := Nat.lt_one_iff.mp begun
          exact ⟨rfl, rfl⟩
      | final undisturbed _ run =>
          rw [run] at begun
          obtain rfl := Nat.lt_one_iff.mp begun
          rw [Nat.add_zero, undisturbed] at isInterrupted
          cases isInterrupted
      | waits delay undisturbed _ _ run =>
          rw [run] at begun ⊢
          cases index with
          | zero =>
              rw [Nat.add_zero, undisturbed] at isInterrupted
              cases isInterrupted
          | succ index =>
              split at begun
              · rename_i goesOn
                rw [show attemptIndex + (index + 1) = attemptIndex + 1 + index by omega]
                  at isInterrupted
                obtain ⟨execution, attempts⟩ := ih (Nat.lt_of_succ_lt_succ begun) isInterrupted
                rw [if_pos goesOn]
                exact ⟨execution, congrArg (· + 1) attempts⟩
              · exact absurd (Nat.lt_of_succ_lt_succ begun) (Nat.not_lt_zero _)

/-- A shutdown in a wait that was begun is the end of the run. -/
theorem attemptsFrom_refused {remaining attemptIndex index : Nat}
    (begun : index < (attemptsFrom policy inputs remaining attemptIndex).waits.length)
    (refused : waitForRetryDelayOrShutdown (inputs.wait (attemptIndex + index)) = false)
    : (attemptsFrom policy inputs remaining attemptIndex).execution = some .cancelled
      ∧ (attemptsFrom policy inputs remaining attemptIndex).attempts = index + 1 := by
  induction remaining generalizing attemptIndex index with
  | zero => cases begun
  | succ remaining ih =>
      cases round_cases policy inputs remaining attemptIndex with
      | interrupted _ run | final _ _ run =>
          rw [run] at begun
          cases begun
      | waits delay _ _ _ run =>
          rw [run] at begun ⊢
          cases index with
          | zero =>
              rw [Nat.add_zero] at refused
              rw [refused]
              exact ⟨rfl, rfl⟩
          | succ index =>
              split at begun
              · rename_i goesOn
                rw [show attemptIndex + (index + 1) = attemptIndex + 1 + index by omega]
                  at refused
                obtain ⟨execution, attempts⟩ := ih (Nat.lt_of_succ_lt_succ begun) refused
                rw [if_pos goesOn]
                exact ⟨execution, congrArg (· + 1) attempts⟩
              · exact absurd (Nat.lt_of_succ_lt_succ begun) (Nat.not_lt_zero _)

end AlonSentinel.Worker
