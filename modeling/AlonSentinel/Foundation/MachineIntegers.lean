import Mathlib.Algebra.Order.Group.Int

/-! Casts between machine integers. `as` keeps the low bits of a value and reads them in the new
type; `try_from` refuses a value that does not fit.
-/

namespace MachineInteger

def i32Max : Nat := 2147483647
def i64Max : Nat := 9223372036854775807
def u64Max : Nat := 18446744073709551615

/-- `as u32` of an unsigned value. -/
def asU32 (value : Nat) : Nat := value % 4294967296

/-- `as i32` of an unsigned value. -/
def asI32 (value : Nat) : Int := (value : Int).bmod 4294967296

/-- `as i64` of an unsigned value. -/
def asI64 (value : Nat) : Int := (value : Int).bmod 18446744073709551616

/-- `as i32` of a signed value. -/
def truncateI32 (value : Int) : Int := value.bmod 4294967296

/-- `u64::try_from` and, where addresses have 64 bits, `usize::try_from`. -/
def tryU64 (value : Int) : Option UInt64 :=
  if 0 ≤ value ∧ value ≤ u64Max then some (.ofNat value.toNat) else none

/-- Addition of `u64` that stays at the greatest value. -/
def saturatingAdd (first second : UInt64) : UInt64 :=
  .ofNat (min (first.toNat + second.toNat) u64Max)

/-- Subtraction of `u64` that stays at zero. -/
def saturatingSub (first second : UInt64) : UInt64 := .ofNat (first.toNat - second.toNat)

@[simp] theorem toNat_saturatingAdd (first second : UInt64)
    : (saturatingAdd first second).toNat = min (first.toNat + second.toNat) u64Max :=
  UInt64.toNat_ofNat_of_lt' (by simp only [u64Max, UInt64.size]; omega)

@[simp] theorem toNat_saturatingSub (first second : UInt64)
    : (saturatingSub first second).toNat = first.toNat - second.toNat := by
  have bound := first.toNat_lt
  exact UInt64.toNat_ofNat_of_lt' (by simp only [UInt64.size]; omega)

theorem toNat_le_u64Max (value : UInt64) : value.toNat ≤ u64Max := by
  have bound := value.toNat_lt
  simp only [u64Max]
  omega

/-- A value that fits an `i32` is kept. -/
theorem asI32_of_le {value : Nat} (fits : value ≤ i32Max) : asI32 value = value := by
  unfold i32Max at fits
  apply Int.bmod_eq_of_le_mul_two
  · omega
  · omega

/-- A value is kept by the cast to `i32` exactly if it fits. -/
theorem asI32_eq_self {value : Nat} : asI32 value = value ↔ value ≤ i32Max := by
  refine ⟨fun kept => ?_, asI32_of_le⟩
  have below : Int.bmod value 4294967296 < (4294967296 + 1) / 2 := Int.bmod_lt (by decide)
  unfold asI32 at kept
  unfold i32Max
  omega

theorem truncateI32_of_natAbs_le {value : Int} (fits : value.natAbs ≤ i32Max)
    : truncateI32 value = value := by
  unfold i32Max at fits
  apply Int.bmod_eq_of_le_mul_two
  · omega
  · omega

/-- The cast to `i32` never makes a value larger. -/
theorem asI32_le (value : Nat) : asI32 value ≤ value := by
  unfold asI32
  rw [Int.bmod_def]
  split <;> omega

/-- A `u64` is kept by the cast to `i64` exactly if it fits. -/
theorem asI64_eq_self {value : Nat} (bound : value ≤ u64Max)
    : asI64 value = value ↔ value ≤ i64Max := by
  unfold u64Max at bound
  unfold asI64 i64Max
  constructor
  · intro kept
    have below : Int.bmod value 18446744073709551616 < (18446744073709551616 + 1) / 2 :=
      Int.bmod_lt (by decide)
    omega
  · intro fits
    apply Int.bmod_eq_of_le_mul_two
    · omega
    · omega

/-- A value that does not fit an `i64` wraps below zero. -/
theorem asI64_neg {value : Nat} (bound : value ≤ u64Max) (tooLarge : i64Max < value)
    : asI64 value < 0 := by
  unfold u64Max at bound
  unfold i64Max at tooLarge
  have wrapped : asI64 value = value - 18446744073709551616 := by
    apply (Int.bmod_eq_iff (by decide)).mpr
    omega
  omega

/-- A value that fits is accepted. -/
theorem tryU64_of_le {value : Nat} (bound : value ≤ u64Max)
    : tryU64 value = some (.ofNat value) := by
  have fits : 0 ≤ (value : Int) ∧ (value : Int) ≤ u64Max := ⟨by omega, by omega⟩
  rw [tryU64, if_pos fits, Int.toNat_natCast]

/-- A quotient that is rounded to zero is so far below it exactly if the dividend is. -/
theorem tdiv_le_neg_iff {dividend divisor count : Int} (positive : 0 < divisor)
    (counts : 0 < count)
    : dividend.tdiv divisor ≤ -count ↔ dividend ≤ -(count * divisor) := by
  have product : 0 < count * divisor := Int.mul_pos counts positive
  rcases Int.le_total 0 dividend with nonneg | nonpos
  · have quotient := Int.tdiv_nonneg nonneg positive.le
    omega
  · have magnitude : dividend.tdiv divisor = -(-dividend / divisor) := by
      rw [← Int.tdiv_eq_ediv_of_nonneg (by omega), Int.neg_tdiv, Int.neg_neg]
    have quotient : count ≤ -dividend / divisor ↔ count * divisor ≤ -dividend :=
      Int.le_ediv_iff_mul_le positive
    rw [magnitude]
    omega

end MachineInteger
