import Mathlib.Algebra.Order.Monoid.Unbundled.Basic
import AlonSentinel.Foundation.KeyedAutomata

/-! The fixed-window counter. It accepts up to `limit` calls in a window, and a call after the end
of a window opens the next one.
-/

namespace FixedWindow

open KeyedAutomata

structure Window (Time : Type*) where
  startedAt : Time
  count : Nat
  deriving DecidableEq

variable {Time Input : Type*} [LinearOrder Time] [Add Time]

/-- The window of a call: the last one as long as it lasts, and else a new one. -/
def current (length : Time) (last : Option (Window Time)) (now : Time) : Window Time :=
  match last with
  | some window => if now < window.startedAt + length then window else ⟨now, 0⟩
  | none => ⟨now, 0⟩

/-- Accepts a call while its window has room. -/
def counter (limit : Nat) (length : Time) (timeOf : Input → Time)
    : Machine (Window Time) Input Bool := fun last input =>
  let window := current length last (timeOf input)
  if window.count < limit then (true, { window with count := window.count + 1 })
  else (false, window)

variable {limit : Nat} {length start now : Time} {timeOf : Input → Time}
  {last : Option (Window Time)} {window : Window Time} {input : Input} {inputs rest : List Input}

------------------------------------------------------------
-- Windows
------------------------------------------------------------

/-- A window that is over is as good as none. -/
theorem forgettable_of_over
    (isOver : ∀ input ∈ inputs, window.startedAt + length ≤ timeOf input)
    : Forgettable (counter limit length timeOf) inputs window := by
  intro input member
  have same : current length (some window) (timeOf input) = current length none (timeOf input) :=
    if_neg (not_lt.mpr (isOver input member))
  unfold counter
  rw [same]

/-- A limit of zero rejects every call. -/
theorem counter_zero : (counter 0 length timeOf last input).1 = false := by
  simp [counter]

/-- A rejected call found its window full, and left it alone. -/
theorem counter_of_rejected (rejected : (counter limit length timeOf last input).1 = false)
    : (counter limit length timeOf last input).2 = current length last (timeOf input)
      ∧ limit ≤ (current length last (timeOf input)).count := by
  unfold counter at rejected ⊢
  dsimp only at rejected ⊢
  split at rejected
  · cases rejected
  · next full => exact ⟨by rw [if_neg full], not_lt.mp full⟩

/-- A rejected call is one in the last window, which stays as it was, unless the limit is zero and
the last window is over.
-/
theorem state_of_rejected (rejected : (counter limit length timeOf last input).1 = false)
    : last = some (counter limit length timeOf last input).2
      ∨ limit = 0 ∧ ∀ window ∈ last, window.startedAt + length ≤ timeOf input := by
  obtain ⟨same, full⟩ := counter_of_rejected rejected
  rw [same]
  cases last with
  | none => exact .inr ⟨Nat.le_zero.mp full, nofun⟩
  | some window =>
      by_cases isRunning : timeOf input < window.startedAt + length
      · exact .inl (by rw [current, if_pos isRunning])
      · rw [current, if_neg isRunning] at full
        refine .inr ⟨Nat.le_zero.mp full, ?_⟩
        rintro _ ⟨⟩
        exact not_lt.mp isRunning

------------------------------------------------------------
-- Rejected calls
------------------------------------------------------------

section Rejected

variable {Key : Type*} [DecidableEq Key] {keyOf : Input → Key}
  {states other : Key → Option (Window Time)}

/-- A limit of zero answers the same from all states. -/
theorem transcript_zero
    : transcript (each (counter 0 length timeOf) keyOf) states inputs
      = transcript (each (counter 0 length timeOf) keyOf) other inputs := by
  refine transcript_eq_of_simulation (fun _ _ _ => True) ?_ trivial
  intro states other input rest _
  rw [each_fst, each_fst, counter_zero, counter_zero]
  exact ⟨rfl, trivial⟩

/-- Without its rejected calls, a history has the same answers. -/
theorem transcript_erase_rejected {before after : List (Input × Bool)}
    (splits
      : transcript (each (counter limit length timeOf) keyOf) states inputs
        = before ++ (input, false) :: after)
    : transcript (each (counter limit length timeOf) keyOf) states
        ((before ++ after).map Prod.fst)
      = before ++ after := by
  obtain ⟨_, isBefore, rejected, isAfter⟩ := transcript_split splits
  dsimp only at rejected isAfter
  rw [List.map_append, transcript_append, ← isBefore]
  refine congrArg (before ++ ·) (Eq.trans ?_ isAfter.symm)
  rcases state_of_rejected rejected with same | ⟨rfl, _⟩
  · rw [each_snd, ← same, Function.update_eq_self]
  · exact transcript_zero

end Rejected

------------------------------------------------------------
-- Accepted calls
------------------------------------------------------------

/-- The accepted calls of an interval that is as long as a window. -/
def acceptedWithin (length : Time) (timeOf : Input → Time) (start : Time)
    (entry : Input × Bool)
    : Bool :=
  entry.2 && start ≤ timeOf entry.1 && timeOf entry.1 < start + length

/-- How many calls can be accepted from `start` on, before `start + length`: what is left in the
window, and all of the next one unless the window is as late as the interval.
-/
def budget (limit : Nat) (start : Time) : Option (Window Time) → Nat
  | none => limit
  | some window => (limit - window.count) + if window.startedAt < start then limit else 0

omit [Add Time] in
theorem budget_le : budget limit start last ≤ 2 * limit := by
  cases last with
  | none =>
      simp only [budget]
      omega
  | some window =>
      simp only [budget]
      split <;> omega

/-- Calls after the interval are not within it. -/
theorem countP_acceptedWithin_of_late
    (late : ∀ input ∈ inputs, start + length ≤ timeOf input)
    : (transcript (alone (counter limit length timeOf)) last inputs).countP
        (acceptedWithin length timeOf start)
      = 0 := by
  refine List.countP_eq_zero.mpr fun entry member isWithin => ?_
  have isInput := List.mem_map_of_mem (f := Prod.fst) member
  rw [map_fst_transcript] at isInput
  simp only [acceptedWithin, Bool.and_eq_true, decide_eq_true_eq] at isWithin
  exact absurd isWithin.2 (not_lt.mpr (late _ isInput))

variable [AddRightMono Time]

/-- The window of a call within the interval has no more room than was left before. -/
theorem budget_current (limit : Nat) (last : Option (Window Time)) (fromStart : start ≤ now)
    (within : now < start + length)
    : budget limit start (some (current length last now)) ≤ budget limit start last := by
  have opened : budget limit start (some ⟨now, 0⟩) = limit := by
    simp [budget, not_lt.mpr fromStart]
  cases last with
  | none => exact opened.le
  | some window =>
      unfold current
      dsimp only
      split
      · exact le_rfl
      · next ended =>
          -- the window ended within the interval, so it started before it
          have before : window.startedAt < start :=
            lt_of_add_lt_add_right ((not_lt.mp ended).trans_lt within)
          rw [opened]
          simp only [budget, if_pos before]
          omega

/-- An accepted call within the interval spends some of the budget. -/
theorem budget_counter (limit : Nat) (last : Option (Window Time))
    (fromStart : start ≤ timeOf input) (within : timeOf input < start + length)
    : budget limit start (some (counter limit length timeOf last input).2)
        + (counter limit length timeOf last input).1.toNat
      ≤ budget limit start last := by
  refine le_trans ?_ (budget_current limit last fromStart within)
  unfold counter
  dsimp only
  split
  · next room =>
      simp only [budget, Bool.toNat_true]
      omega
  · exact le_rfl

/-- No more calls are accepted within the interval than the budget says, once it has started.
Witness: induction over the calls, which are in the order of their times.
-/
theorem countP_acceptedWithin_le_budget
    (ordered : inputs.Pairwise fun first second => timeOf first ≤ timeOf second)
    (fromStart : ∀ input ∈ inputs, start ≤ timeOf input)
    : (transcript (alone (counter limit length timeOf)) last inputs).countP
        (acceptedWithin length timeOf start)
      ≤ budget limit start last := by
  induction inputs generalizing last with
  | nil => exact Nat.zero_le _
  | cons input rest ih =>
      obtain ⟨isFirst, restOrdered⟩ := List.pairwise_cons.mp ordered
      by_cases within : timeOf input < start + length
      · have later
            : _ ≤ budget limit start (some (counter limit length timeOf last input).2) :=
          ih restOrdered fun input member => fromStart input (List.mem_cons_of_mem _ member)
        have spent := budget_counter limit last (fromStart input List.mem_cons_self) within
        rw [transcript, List.countP_cons]
        refine (Nat.add_le_add later ?_).trans spent
        rw [alone_fst]
        cases (counter limit length timeOf last input).1 with
        | true => split <;> decide
        | false => exact le_rfl
      · have late : ∀ other ∈ input :: rest, start + length ≤ timeOf other := by
          rw [List.forall_mem_cons]
          exact
            ⟨not_lt.mp within, fun other member => (not_lt.mp within).trans (isFirst other member)⟩
        rw [countP_acceptedWithin_of_late late]
        exact Nat.zero_le _

/-- In an interval that is as long as a window, at most twice the limit is accepted. Witness:
induction over the calls before the interval, none of which counts.
-/
theorem countP_acceptedWithin_le (limit : Nat) (length start : Time) (last : Option (Window Time))
    (ordered : inputs.Pairwise fun first second => timeOf first ≤ timeOf second)
    : (transcript (alone (counter limit length timeOf)) last inputs).countP
        (acceptedWithin length timeOf start)
      ≤ 2 * limit := by
  induction inputs generalizing last with
  | nil => exact Nat.zero_le _
  | cons input rest ih =>
      obtain ⟨isFirst, restOrdered⟩ := List.pairwise_cons.mp ordered
      by_cases started : start ≤ timeOf input
      · apply (countP_acceptedWithin_le_budget ordered ?_).trans budget_le
        rw [List.forall_mem_cons]
        exact ⟨started, fun other member => started.trans (isFirst other member)⟩
      · have before
            : acceptedWithin length timeOf start
                (input, (alone (counter limit length timeOf) last input).1) = false := by
          simp [acceptedWithin, started]
        rw [transcript, List.countP_cons_of_neg (ne_true_of_eq_false before)]
        exact ih _ restOrdered

end FixedWindow
