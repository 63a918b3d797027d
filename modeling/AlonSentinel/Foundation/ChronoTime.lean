import Mathlib.Algebra.Order.Group.Int

/-! Instants and their differences as `chrono` keeps them, in nanoseconds. Neither is unbounded, and
the operators panic where a value leaves its range: here the result is `none`.
-/

namespace ChronoTime

def nanosPerSecond : Int := 1000000000
def secondsPerDay : Int := 86400

/-- The first instant that can be represented. -/
def minInstant : Int := -8334601228800 * nanosPerSecond

/-- The end of the instants that can be represented. -/
def endOfInstants : Int := 8210266876800 * nanosPerSecond

/-- The seconds of the greatest difference, which is as many milliseconds as an `i64` holds. -/
def maxDeltaSeconds : Nat := 9223372036854775

/-- `TimeDelta::seconds`. -/
def deltaSeconds (count : Int) : Option Int :=
  if count.natAbs ≤ maxDeltaSeconds then some (count * nanosPerSecond) else none

/-- `TimeDelta::days`. -/
def deltaDays (count : Int) : Option Int := deltaSeconds (count * secondsPerDay)

/-- The sum of an instant and a difference. -/
def checkedAdd (instant delta : Int) : Option Int :=
  if minInstant ≤ instant + delta ∧ instant + delta < endOfInstants then some (instant + delta)
  else none

/-- `instant + TimeDelta::seconds(count)`. -/
def addSeconds (instant count : Int) : Option Int :=
  (deltaSeconds count).bind (checkedAdd instant)

/-- `instant - TimeDelta::days(count)`. -/
def subDays (instant count : Int) : Option Int :=
  (deltaDays count).bind fun delta => checkedAdd instant (-delta)

variable {instant count sum delta : Int}

theorem deltaSeconds_eq_some
    : deltaSeconds count = some delta
      ↔ count.natAbs ≤ maxDeltaSeconds ∧ count * nanosPerSecond = delta := by
  unfold deltaSeconds
  split
  · rename_i within
    simp [within]
  · rename_i beyond
    simp [beyond]

theorem checkedAdd_eq_some
    : checkedAdd instant delta = some sum
      ↔ (minInstant ≤ sum ∧ sum < endOfInstants) ∧ instant + delta = sum := by
  unfold checkedAdd
  constructor
  · intro added
    split at added
    · rename_i within
      cases added
      exact ⟨within, rfl⟩
    · cases added
  · rintro ⟨within, rfl⟩
    exact if_pos within

theorem addSeconds_eq_some
    : addSeconds instant count = some sum
      ↔ count.natAbs ≤ maxDeltaSeconds
        ∧ (minInstant ≤ sum ∧ sum < endOfInstants)
        ∧ instant + count * nanosPerSecond = sum := by
  simp only [addSeconds, Option.bind_eq_some_iff, deltaSeconds_eq_some, checkedAdd_eq_some]
  constructor
  · rintro ⟨delta, ⟨within, rfl⟩, represented, same⟩
    exact ⟨within, represented, same⟩
  · rintro ⟨within, represented, same⟩
    exact ⟨_, ⟨within, rfl⟩, represented, same⟩

theorem subDays_eq_some
    : subDays instant count = some sum
      ↔ (count * secondsPerDay).natAbs ≤ maxDeltaSeconds
        ∧ (minInstant ≤ sum ∧ sum < endOfInstants)
        ∧ instant - count * secondsPerDay * nanosPerSecond = sum := by
  simp only [subDays, deltaDays, Option.bind_eq_some_iff, deltaSeconds_eq_some,
    checkedAdd_eq_some, Int.sub_eq_add_neg]
  constructor
  · rintro ⟨delta, ⟨within, rfl⟩, represented, same⟩
    exact ⟨within, represented, same⟩
  · rintro ⟨within, represented, same⟩
    exact ⟨_, ⟨within, rfl⟩, represented, same⟩

/-- A later instant is reached by a positive number of seconds, if it can be represented. -/
theorem exists_addSeconds_after (isInstant : minInstant ≤ instant)
    : (∃ sum, addSeconds instant count = some sum ∧ instant < sum)
      ↔ 0 < count
        ∧ count.natAbs ≤ maxDeltaSeconds
        ∧ instant + count * nanosPerSecond < endOfInstants := by
  simp only [addSeconds_eq_some]
  constructor
  · rintro ⟨sum, ⟨within, ⟨_, below⟩, rfl⟩, after⟩
    unfold nanosPerSecond at after
    exact ⟨by omega, within, below⟩
  · rintro ⟨positive, within, below⟩
    have after : instant < instant + count * nanosPerSecond := by
      unfold nanosPerSecond
      omega
    exact ⟨_, ⟨within, ⟨isInstant.trans after.le, below⟩, rfl⟩, after⟩

/-- An earlier instant is reached by a positive number of days, if it can be represented. -/
theorem exists_subDays_before (isInstant : instant < endOfInstants)
    : (∃ difference, subDays instant count = some difference ∧ difference < instant)
      ↔ 0 < count
        ∧ (count * secondsPerDay).natAbs ≤ maxDeltaSeconds
        ∧ minInstant ≤ instant - count * secondsPerDay * nanosPerSecond := by
  simp only [subDays_eq_some]
  constructor
  · rintro ⟨sum, ⟨within, ⟨atLeast, _⟩, rfl⟩, before⟩
    unfold nanosPerSecond secondsPerDay at before
    exact ⟨by omega, within, atLeast⟩
  · rintro ⟨positive, within, atLeast⟩
    have before : instant - count * secondsPerDay * nanosPerSecond < instant := by
      unfold nanosPerSecond secondsPerDay
      omega
    exact ⟨_, ⟨within, ⟨atLeast, before.trans isInstant⟩, rfl⟩, before⟩

end ChronoTime
