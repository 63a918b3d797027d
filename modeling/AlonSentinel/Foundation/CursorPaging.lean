import Mathlib.Data.List.Sort
import Mathlib.Order.Basic

/-! Paging through a listing by cursor. A listing shows the rows that meet a condition, the
greatest key first; a page ends with a cursor while rows are left, and the next page shows the
rows below the cursor. The pages concatenate to the listing.
-/

namespace CursorPaging

variable {Row Key Cursor : Type*}

/-- Follows the cursors from page to page, and fails when it is not done within `fuel` pages or
a page fails.
-/
def follow (page : Option Cursor → Option (List Row × Option Cursor))
    : Nat → Option Cursor → Option (List Row)
  | 0, _ => none
  | fuel + 1, cursor =>
      (page cursor).bind fun shown =>
        match shown.2 with
        | none => some shown.1
        | some next => (follow page fuel (some next)).map (shown.1 ++ ·)

/-- The first `limit` rows of what is left, and a cursor at the last of them if there are more. -/
def firstPage (cursorOf : Row → Cursor) (limit : Nat) (rows : List Row)
    : List Row × Option Cursor :=
  (rows.take limit, if limit < rows.length then rows[limit - 1]?.map cursorOf else none)

/-- Following the cursors shows all that is left, if each page shows the first rows of it and its
cursor leaves the others. Witness: induction over the fuel; a page takes a row at least.
-/
theorem follow_eq {page : Option Cursor → Option (List Row × Option Cursor)}
    (cursorOf : Row → Cursor) (leaves : Option Cursor → List Row → Prop) {limit : Nat}
    (positive : 0 < limit)
    (shows : ∀ cursor rest, leaves cursor rest → page cursor = some (firstPage cursorOf limit rest))
    (goesOn
      : ∀ cursor front last rest,
          leaves cursor (front ++ last :: rest) → leaves (some (cursorOf last)) rest)
    {fuel : Nat} {cursor : Option Cursor} {rest : List Row} (left : leaves cursor rest)
    (enough : rest.length < fuel)
    : follow page fuel cursor = some rest := by
  induction fuel generalizing cursor rest with
  | zero => omega
  | succ fuel ih =>
      rw [follow, shows cursor rest left, Option.bind_some]
      by_cases more : limit < rest.length
      · have index : limit - 1 < rest.length := by omega
        have split : rest = rest.take (limit - 1) ++ rest[limit - 1] :: rest.drop limit := by
          have dropped := List.drop_eq_getElem_cons index
          rw [show limit - 1 + 1 = limit by omega] at dropped
          rw [← dropped, List.take_append_drop]
        have next := goesOn cursor _ _ _ (split ▸ left)
        have shorter : (rest.drop limit).length < fuel := by
          rw [List.length_drop]
          omega
        have later := ih next shorter
        simp only [firstPage, if_pos more, List.getElem?_eq_getElem index, Option.map_some, later,
          List.take_append_drop]
      · simp only [firstPage, if_neg more]
        rw [List.take_of_length_le (Nat.le_of_not_lt more)]

section Listing

variable [LinearOrder Key] {key : Row → Key}

/-- A list shows exactly the rows that meet a condition, each once, the greatest key first. -/
structure Shows (key : Row → Key) (rows : List Row) (meets : Row → Prop) (shown : List Row)
    : Prop where
  descending : shown.Pairwise fun first second => key second < key first
  exactly : ∀ row, row ∈ shown ↔ row ∈ rows ∧ meets row

/-- Every row is shown once, since keys strictly descend. -/
theorem Shows.nodup {rows shown : List Row} {meets : Row → Prop}
    (shows : Shows key rows meets shown)
    : shown.Nodup :=
  shows.descending.imp fun descends same => absurd (congrArg key same) descends.ne'

/-- A listing is determined by its rows and its condition. -/
theorem Shows.unique {rows shown other : List Row} {meets : Row → Prop}
    (shows : Shows key rows meets shown) (also : Shows key rows meets other)
    : shown = other := by
  have same : shown.Perm other :=
    (List.perm_ext_iff_of_nodup shows.nodup also.nodup).mpr fun row =>
      (shows.exactly row).trans (also.exactly row).symm
  exact same.eq_of_pairwise
    (fun _ _ _ _ below above => absurd (below.trans above) (lt_irrefl _))
    shows.descending also.descending

/-- An equivalent condition has the same listing. -/
theorem Shows.congr {rows shown : List Row} {meets also : Row → Prop}
    (shows : Shows key rows meets shown) (same : ∀ row ∈ rows, (also row ↔ meets row))
    : Shows key rows also shown where
  descending := shows.descending
  exactly := fun row =>
    (shows.exactly row).trans (and_congr_right fun stored => (same row stored).symm)

/-- No more rows are shown than there are. -/
theorem Shows.length_le {rows shown : List Row} {meets : Row → Prop}
    (shows : Shows key rows meets shown)
    : shown.length ≤ rows.length :=
  (List.subperm_of_subset shows.nodup fun row member =>
    ((shows.exactly row).mp member).1).length_le

/-- Sorting the rows that meet a condition shows them, if no two rows share a key. -/
theorem shows_insertionSort {rows : List Row} (keysNodup : (rows.map key).Nodup)
    (order : Row → Row → Prop) [DecidableRel order]
    (descending : ∀ first second, order first second ↔ key second ≤ key first)
    (condition : Row → Bool)
    : Shows key rows (condition · = true)
        ((rows.filter condition).insertionSort order) := by
  have permuted := List.perm_insertionSort order (rows.filter condition)
  constructor
  · have : Std.Total order := ⟨fun first second =>
      (le_total (key second) (key first)).imp (descending _ _).mpr (descending _ _).mpr⟩
    have : IsTrans Row order := ⟨fun first second third above below =>
      (descending _ _).mpr (((descending _ _).mp below).trans ((descending _ _).mp above))⟩
    have sorted := List.pairwise_insertionSort order (rows.filter condition)
    have distinct : (((rows.filter condition).insertionSort order).map key).Nodup :=
      (permuted.map key).nodup_iff.mpr ((List.filter_sublist.map key).nodup keysNodup)
    have apart := List.pairwise_map.mp distinct
    exact (sorted.and apart).imp fun pair =>
      lt_of_le_of_ne ((descending _ _).mp pair.1) (Ne.symm pair.2)
  · intro row
    rw [permuted.mem_iff, List.mem_filter]

/-- What a listing shows after one of its rows is the listing of the rows below that one. -/
theorem Shows.after {rows front rest : List Row} {last : Row} {meets : Row → Prop}
    (shows : Shows key rows meets (front ++ last :: rest))
    : Shows key rows (fun row => meets row ∧ key row < key last) rest := by
  obtain ⟨_, tail, above⟩ := List.pairwise_append.mp shows.descending
  obtain ⟨below, descending⟩ := List.pairwise_cons.mp tail
  refine ⟨descending, fun row => ⟨fun member => ?_, fun ⟨stored, met, isBelow⟩ => ?_⟩⟩
  · have shown := (shows.exactly row).mp (by simp [member])
    exact ⟨shown.1, shown.2, below row member⟩
  · have member := (shows.exactly row).mpr ⟨stored, met⟩
    rcases List.mem_append.mp member with inFront | inTail
    · exact absurd (above row inFront last List.mem_cons_self) (not_lt_of_gt isBelow)
    · rcases List.mem_cons.mp inTail with rfl | inRest
      · exact absurd isBelow (lt_irrefl _)
      · exact inRest

end Listing

end CursorPaging
