import Mathlib.Algebra.GroupWithZero.Nat
import Mathlib.Order.Lattice
import Mathlib.Order.MinMax
import AlonSentinel.Foundation.MachineIntegers

/-! Durations as the standard library keeps them: whole seconds in 64 bits and a fraction in
nanoseconds. Sums and products that do not fit stay at the greatest duration.
-/

namespace StdTime

open MachineInteger

def nanosPerSecond : Nat := 1000000000
def nanosPerMilli : Nat := 1000000

/-- The nanoseconds of `Duration::MAX`. -/
def maxNanos : Nat := u64Max * nanosPerSecond + 999999999

@[ext]
structure Duration where
  nanos : Nat
  bounded : nanos ≤ maxNanos
  deriving DecidableEq

namespace Duration

theorem nanos_injective : Function.Injective nanos := fun _ _ => Duration.ext

instance : LinearOrder Duration := LinearOrder.lift' nanos nanos_injective

/-- The duration of a number of nanoseconds, or the greatest one. -/
def saturating (nanos : Nat) : Duration := ⟨min nanos maxNanos, min_le_right _ _⟩

def zero : Duration := ⟨0, Nat.zero_le _⟩

def fromSecs (secs : UInt64) : Duration where
  nanos := secs.toNat * nanosPerSecond
  bounded := by
    have bound := secs.toNat_lt
    unfold maxNanos u64Max nanosPerSecond
    omega

def fromMillis (millis : UInt64) : Duration where
  nanos := millis.toNat * nanosPerMilli
  bounded := by
    have bound := millis.toNat_lt
    unfold maxNanos u64Max nanosPerSecond nanosPerMilli
    omega

def saturatingAdd (first second : Duration) : Duration := saturating (first.nanos + second.nanos)

def saturatingMul (duration : Duration) (factor : Nat) : Duration :=
  saturating (duration.nanos * factor)

/-- Division by a positive number, rounding down. -/
def div (duration : Duration) (divisor : Nat) : Duration where
  nanos := duration.nanos / divisor
  bounded := (Nat.div_le_self _ _).trans duration.bounded

/-- The whole seconds. -/
def asSecs (duration : Duration) : UInt64 := .ofNat (duration.nanos / nanosPerSecond)

def subsecNanos (duration : Duration) : Nat := duration.nanos % nanosPerSecond

def asMillis (duration : Duration) : Nat := duration.nanos / nanosPerMilli

@[simp] theorem nanos_saturating (nanos : Nat) : (saturating nanos).nanos = min nanos maxNanos :=
  rfl

@[simp] theorem nanos_zero : zero.nanos = 0 := rfl

@[simp] theorem nanos_fromSecs (secs : UInt64)
    : (fromSecs secs).nanos = secs.toNat * nanosPerSecond :=
  rfl

@[simp] theorem nanos_saturatingAdd (first second : Duration)
    : (first.saturatingAdd second).nanos = min (first.nanos + second.nanos) maxNanos :=
  rfl

@[simp] theorem nanos_saturatingMul (duration : Duration) (factor : Nat)
    : (duration.saturatingMul factor).nanos = min (duration.nanos * factor) maxNanos :=
  rfl

@[simp] theorem nanos_div (duration : Duration) (divisor : Nat)
    : (duration.div divisor).nanos = duration.nanos / divisor :=
  rfl

theorem le_iff {first second : Duration} : first ≤ second ↔ first.nanos ≤ second.nanos := Iff.rfl

theorem nanos_mono : Monotone nanos := fun _ _ => id

@[simp] theorem nanos_max (first second : Duration)
    : (max first second).nanos = max first.nanos second.nanos :=
  nanos_mono.map_max

/-- Milliseconds are read back as written. -/
theorem asMillis_fromMillis (millis : UInt64) : (fromMillis millis).asMillis = millis.toNat :=
  Nat.mul_div_cancel _ (by decide)

@[simp] theorem toNat_asSecs (duration : Duration)
    : duration.asSecs.toNat = duration.nanos / nanosPerSecond := by
  have bound := duration.bounded
  refine UInt64.toNat_ofNat_of_lt' ?_
  unfold maxNanos u64Max nanosPerSecond at *
  change _ < 18446744073709551616
  omega

/-- Saturating sums in sequence are the sum, cut off once. Witness: induction over the list, from
any sum already reached.
-/
theorem nanos_foldl_saturatingAdd (durations : List Duration) (reached : Duration)
    : (durations.foldl saturatingAdd reached).nanos
      = min (reached.nanos + (durations.map nanos).sum) maxNanos := by
  induction durations generalizing reached with
  | nil => simp [reached.bounded]
  | cons duration rest ih =>
      rw [List.foldl_cons, ih, nanos_saturatingAdd, List.map_cons, List.sum_cons]
      omega

end Duration

/-- An instant of a clock that never goes back, in nanoseconds. -/
abbrev Instant := Nat

/-- The time since an earlier instant, or none if it is a later one. -/
def durationSince (now earlier : Instant) : Duration := .saturating (now - earlier)

/-- A positive duration has passed since an instant exactly if the instant it leads to has. -/
theorem le_durationSince_iff {now earlier : Nat} {length : Duration} (positive : 0 < length.nanos)
    : length ≤ durationSince now earlier ↔ earlier + length.nanos ≤ now := by
  have bounded := length.bounded
  rw [Duration.le_iff, durationSince, Duration.nanos_saturating]
  omega

end StdTime
