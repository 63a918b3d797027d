import Mathlib

/-! Counts over the parts of a list: by key, and by the intervals between consecutive marks. -/

namespace CountedParts

variable {Row Key Point : Type*} {rows : List Row}

/-- Rows that meet one of two conditions are those that meet the one and those that meet the other,
where none meets both. Witness: induction over the list.
-/
theorem countP_or {first second : Row → Bool}
    (disjoint : ∀ row ∈ rows, first row = true → second row = false)
    : rows.countP (fun row => first row || second row)
      = rows.countP first + rows.countP second := by
  induction rows with
  | nil => rfl
  | cons row rest ih =>
      obtain ⟨here, later⟩ := List.forall_mem_cons.mp disjoint
      rw [List.countP_cons, List.countP_cons, List.countP_cons, ih later]
      cases isFirst : first row with
      | true =>
          simp only [here isFirst, Bool.or_false, if_true, Bool.false_eq_true, if_false]
          omega
      | false =>
          simp only [Bool.false_or, Bool.false_eq_true, if_false]
          omega

/-- The counts by key add up, by induction over the keys. -/
theorem sum_countP_key [DecidableEq Key] (rows : List Row) (key : Row → Key)
    (counted : Row → Bool) {keys : List Key} (distinct : keys.Nodup)
    : (keys.map fun wanted => rows.countP fun row => key row = wanted && counted row).sum
      = rows.countP fun row => key row ∈ keys && counted row := by
  induction keys with
  | nil => simp
  | cons wanted rest ih =>
      obtain ⟨absent, distinctRest⟩ := List.nodup_cons.mp distinct
      have parts (row : Row)
          : (decide (key row ∈ wanted :: rest) && counted row)
            = (decide (key row = wanted) && counted row
              || decide (key row ∈ rest) && counted row) := by
        rw [← Bool.and_or_distrib_right, ← Bool.decide_or]
        simp only [List.mem_cons]
      rw [List.map_cons, List.sum_cons, ih distinctRest, funext parts, countP_or]
      intro row _ isWanted
      have isKey := of_decide_eq_true (Bool.and_eq_true_iff.mp isWanted).1
      simp [isKey, absent]

/-- The counts of the intervals between consecutive marks add up to the count between the first and
the last one. Witness: induction over the number of intervals.
-/
theorem sum_countP_intervals [LinearOrder Point] {mark : Int → Point} (ordered : Monotone mark)
    (rows : List Row) (point : Row → Point) (counted : Row → Bool) (first : Int) (count : Nat)
    : (((List.range count).map fun (offset : Nat) => first + offset).map fun here =>
        rows.countP fun row =>
          (decide (mark here ≤ point row) && decide (point row < mark (here + 1)))
          && counted row).sum
      = rows.countP fun row =>
          (decide (mark first ≤ point row) && decide (point row < mark (first + count)))
          && counted row := by
  induction count with
  | zero =>
      refine (List.countP_eq_zero.mpr fun row _ within => ?_).symm
      obtain ⟨bounds, _⟩ := Bool.and_eq_true_iff.mp within
      obtain ⟨atLeast, below⟩ := Bool.and_eq_true_iff.mp bounds
      have isBelow := of_decide_eq_true below
      rw [show first + ((0 : Nat) : Int) = first by omega] at isBelow
      exact (of_decide_eq_true atLeast).not_gt isBelow
  | succ count ih =>
      have next : first + ↑(count + 1) = first + count + 1 := by omega
      have lower : mark first ≤ mark (first + count) := ordered (by omega)
      have upper : mark (first + count) ≤ mark (first + count + 1) := ordered (by omega)
      rw [List.range_succ, List.map_append, List.map_append, List.sum_append, ih,
        List.map_singleton, List.map_singleton, List.sum_singleton, next, ← countP_or]
      · refine List.countP_congr fun row _ => ?_
        rw [← Bool.and_or_distrib_right, Bool.and_eq_true_iff, Bool.and_eq_true_iff]
        refine and_congr_left' ?_
        simp only [Bool.or_eq_true, Bool.and_eq_true, decide_eq_true_eq]
        constructor
        · rintro (⟨atLeast, below⟩ | ⟨atLeast, below⟩)
          · exact ⟨atLeast, below.trans_le upper⟩
          · exact ⟨lower.trans atLeast, below⟩
        · rintro ⟨atLeast, below⟩
          rcases lt_or_ge (point row) (mark (first + count)) with earlier | later
          · exact .inl ⟨atLeast, earlier⟩
          · exact .inr ⟨later, below⟩
      · intro row _ within
        have inFirst := (Bool.and_eq_true_iff.mp within).1
        have below := of_decide_eq_true (Bool.and_eq_true_iff.mp inFirst).2
        simp [below.not_ge]

end CountedParts
