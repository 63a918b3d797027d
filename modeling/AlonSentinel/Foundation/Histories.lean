import AlonSentinel.Foundation.TransitionSystem
import Mathlib.Data.Set.Finite.Basic

/-! Runs of a transition system as the states that they pass through, the last one first, and where
in a run the facts come from that hold at its end.
-/

namespace TransitionSystem

open Relation

variable {State Action Fact : Type*} {step : State → Action → Option State} {initial : State → Prop}
  {state before after : State} {past newer older : List State}

/-- The states of a run, from its end back to its start. -/
inductive History (step : State → Action → Option State) (initial : State → Prop)
    : List State → Prop
  | start {state : State} (first : initial state) : History step initial [state]
  | next {before after : State} {past : List State} {action : Action}
      (run : History step initial (before :: past)) (taken : step before action = some after)
    : History step initial (after :: before :: past)

/-- A run has two states directly after one another, with others before the two of them. -/
def Passes (history : List State) (before after : State) (older : List State) : Prop :=
  ∃ newer, history = newer ++ after :: before :: older

/-- The end of a run is reached. -/
theorem History.reachable (run : History step initial (state :: past))
    : Reachable step initial state := by
  generalize same : state :: past = history at run
  induction run generalizing state past with
  | start first =>
      cases same
      exact .start first
  | next run taken ih =>
      cases same
      exact (ih rfl).next taken

/-- Whatever is reached is the end of a run. Witness: induction along the path. -/
theorem Reachable.history (reachable : Reachable step initial state)
    : ∃ past, History step initial (state :: past) := by
  obtain ⟨start, first, path⟩ := reachable
  induction path with
  | refl => exact ⟨[], .start first⟩
  | tail _ last ih =>
      obtain ⟨action, taken⟩ := last
      obtain ⟨past, run⟩ := ih
      exact ⟨_, .next run taken⟩

/-- A run without its last state is a run. -/
theorem History.before_last (run : History step initial (state :: past)) (longer : past ≠ [])
    : History step initial past := by
  cases run with
  | start first => exact absurd rfl longer
  | next run taken => exact run

/-- A run up to any of its states is a run, by induction over the states after it. -/
theorem History.upTo (run : History step initial (newer ++ state :: older))
    : History step initial (state :: older) := by
  induction newer with
  | nil => exact run
  | cons last rest ih => exact ih (run.before_last (by simp))

theorem History.upTo_passes (run : History step initial past)
    (passes : Passes past before after older)
    : History step initial (before :: older) := by
  obtain ⟨newer, rfl⟩ := passes
  rw [List.append_cons] at run
  exact run.upTo

/-- A run passes from one state to another by a step. -/
theorem History.step_passes (run : History step initial past)
    (passes : Passes past before after older)
    : ∃ action, step before action = some after := by
  obtain ⟨newer, rfl⟩ := passes
  cases run.upTo with
  | next run taken => exact ⟨_, taken⟩

/-- The part of a run up to the first of two states that it passes. -/
theorem Passes.suffix (passes : Passes past before after older) : before :: older <:+ past := by
  obtain ⟨newer, rfl⟩ := passes
  exact ⟨newer ++ [after], List.append_assoc ..⟩

/-- What a part of a run passes, the whole run passes. -/
theorem Passes.of_suffix {longer : List State} (passes : Passes past before after older)
    (suffix : past <:+ longer)
    : Passes longer before after older := by
  obtain ⟨newer, rfl⟩ := passes
  obtain ⟨newest, rfl⟩ := suffix
  exact ⟨newest ++ newer, (List.append_assoc ..).symm⟩

/-- Invariant rule with the past: a property of a state and of the states before it that holds at
the start and is kept by every step. Witness: induction along the run.
-/
theorem History.invariant (property : State → List State → Prop)
    (first : ∀ state, initial state → property state [])
    (stepped
      : ∀ before action after past,
          property before past → step before action = some after → property after (before :: past))
    (run : History step initial (state :: past))
    : property state past := by
  generalize same : state :: past = history at run
  induction run generalizing state past with
  | start isInitial =>
      cases same
      exact first _ isInitial
  | next run taken ih =>
      cases same
      exact stepped _ _ _ _ (ih rfl) taken

/-- Origin rule: a fact that no run starts with has arisen at some step of the run, if each step
that leads to it either had it or lets it arise. Witness: induction along the run.
-/
theorem History.origin (holds : State → Fact → Prop) (arises : State → State → Fact → Prop)
    {fact : Fact} (absent : ∀ state, initial state → ¬holds state fact)
    (stepped
      : ∀ before action after,
          Reachable step initial before
          → step before action = some after
          → holds after fact
          → holds before fact ∨ arises before after fact)
    (run : History step initial (state :: past)) (holding : holds state fact)
    : ∃ before after older,
        Passes (state :: past) before after older ∧ arises before after fact := by
  generalize same : state :: past = history at run
  induction run generalizing state past with
  | start first =>
      cases same
      exact absurd holding (absent _ first)
  | @next before after older action run taken ih =>
      cases same
      rcases stepped before action after run.reachable taken holding with held | arose
      · obtain ⟨earlier, later, rest, passes, arose⟩ := ih held rfl
        exact ⟨earlier, later, rest, passes.of_suffix (List.suffix_cons after _), arose⟩
      · exact ⟨before, after, older, ⟨[], rfl⟩, arose⟩

/-- A stretch of a run that does not pass through a state lies after it or before it. -/
theorem infix_of_split {stretch : List State} (within : stretch <:+: newer ++ state :: older)
    : state ∈ stretch ∨ stretch <:+: newer ∨ stretch <:+: older := by
  obtain ⟨left, right, same⟩ := within
  rw [List.append_assoc] at same
  rcases List.append_eq_append_iff.mp same with ⟨middle, rfl, isRest⟩ | ⟨middle, rfl, isRest⟩
  · rcases List.append_eq_append_iff.mp isRest with ⟨rest, rfl, isLast⟩ | ⟨rest, rfl, isLast⟩
    · exact .inr (.inl ⟨left, rest, by simp⟩)
    · cases rest with
      | nil => exact .inr (.inl ⟨left, [], by simp⟩)
      | cons first rest =>
          cases isLast
          exact .inl (by simp)
  · cases middle with
    | nil =>
        cases stretch with
        | nil => exact .inr (.inl ⟨[], newer, by simp⟩)
        | cons first rest =>
            cases isRest
            exact .inl (by simp)
    | cons first rest =>
        cases isRest
        exact .inr (.inr ⟨rest, right, by simp⟩)

/-- Moves that lower a rank end, where all other steps keep it: an infinite run has finitely many of
them. Witness: induction over the rank, from one such move to the next.
-/
theorem finite_moves {Rank : Type*} {lower : Rank → Rank → Prop} (rank : ℕ → Rank)
    {moves : ℕ → Prop} (ends : Acc lower (rank 0))
    (lowers : ∀ time, moves time → lower (rank (time + 1)) (rank time))
    (keeps : ∀ time, ¬moves time → rank (time + 1) = rank time)
    : {time | moves time}.Finite := by
  classical
  generalize isRank : rank 0 = start at ends
  induction ends generalizing rank moves with
  | intro start _ ih =>
      by_cases some : ∃ time, moves time
      · obtain ⟨first, isMove, isFirst⟩ : ∃ first, moves first ∧ ∀ time < first, ¬moves time :=
          ⟨Nat.find some, Nat.find_spec some, fun _ => Nat.find_min some⟩
        have kept : ∀ time ≤ first, rank time = start := by
          intro time before
          induction time with
          | zero => exact isRank
          | succ time earlier => rw [keeps time (isFirst time before), earlier (by omega)]
        have later : {time | moves (first + 1 + time)}.Finite := by
          refine ih (rank (first + 1)) (kept first le_rfl ▸ lowers first isMove)
            (fun time => rank (first + 1 + time)) ?_ ?_ rfl
          · exact fun time => lowers (first + 1 + time)
          · exact fun time => keeps (first + 1 + time)
        refine ((Set.finite_singleton first).union (later.image (first + 1 + ·))).subset ?_
        intro time isMoveThen
        rcases lt_trichotomy time first with before | rfl | after
        · exact absurd isMoveThen (isFirst time before)
        · exact .inl rfl
        · have reached : first + 1 + (time - (first + 1)) = time := Nat.add_sub_of_le after
          exact .inr ⟨time - (first + 1), (congrArg moves reached).mpr isMoveThen, reached⟩
      · rw [Set.eq_empty_of_forall_notMem fun time isMove => some ⟨time, isMove⟩]
        exact Set.finite_empty

/-- Budget rule: each step keeps a property and uses up a budget for a counted action, and no step
adds to it. A run from a state with the property counts no more actions than the budget there.
Witness: induction over the actions.
-/
theorem countP_le_budget {property : State → Prop} {counted : Action → Bool} {budget : State → Nat}
    (kept
      : ∀ before action after,
          property before
          → step before action = some after
          → property after
            ∧ budget after + (if counted action then 1 else 0) ≤ budget before)
    {start finish : State} {actions : List Action} (holds : property start)
    (ran : run step start actions = some finish)
    : property finish ∧ actions.countP counted + budget finish ≤ budget start := by
  induction actions generalizing start with
  | nil =>
      cases ran
      exact ⟨holds, by simp⟩
  | cons action rest ih =>
      obtain ⟨middle, taken, later⟩ := Option.bind_eq_some_iff.mp ran
      obtain ⟨holdsThen, used⟩ := kept start action middle holds taken
      obtain ⟨holdsLast, left⟩ := ih holdsThen later
      refine ⟨holdsLast, ?_⟩
      rw [List.countP_cons]
      omega

end TransitionSystem
