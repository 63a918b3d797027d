import Mathlib.Data.List.MinMax

/-! Aggregates over nullable values, and the greatest element of a list. `BOOL_OR` leaves out
`NULL`s and is `NULL` where nothing is left.
-/

namespace NullableAggregates

variable {α : Type*}

/-- `BOOL_OR`. -/
def boolOr (values : List (Option Bool)) : Option Bool :=
  if values.all Option.isNone then none else some (values.contains (some true))

/-- `BOOL_OR` is true exactly when one of the values is. -/
theorem boolOr_eq_true {values : List (Option Bool)}
    : boolOr values = some true ↔ some true ∈ values := by
  unfold boolOr
  split
  · rename_i allNull
    have isNull := List.all_eq_true.mp allNull
    constructor
    · intro isTrue
      cases isTrue
    · intro member
      cases isNull (some true) member
  · simp

/-- `BOOL_OR` over the rows that a `FILTER` keeps. -/
theorem boolOr_filter_map {rows : List α} {keeps : α → Bool} {value : α → Option Bool}
    : boolOr ((rows.filter keeps).map value) = some true
      ↔ ∃ row ∈ rows, keeps row = true ∧ value row = some true := by
  rw [boolOr_eq_true, List.mem_map]
  simp only [List.mem_filter, and_assoc]

/-- More elements have the same greatest one exactly when each is at most one of the first. -/
theorem maximum_eq_maximum_iff [LinearOrder α] {part all : List α} (subset : part ⊆ all)
    : part.maximum = all.maximum ↔ ∀ value ∈ all, ∃ bound ∈ part, value ≤ bound := by
  constructor
  · intro same value member
    exact List.coe_le_maximum_iff.mp (same ▸ List.le_maximum_of_mem' member)
  · intro bounded
    refine le_antisymm (List.maximum_mono subset) (List.maximum_le_of_forall_le ?_)
    intro value member
    exact List.coe_le_maximum_iff.mpr (bounded value member)

end NullableAggregates
