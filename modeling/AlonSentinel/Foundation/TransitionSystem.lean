import Mathlib.Logic.Relation

/-! Transition systems given by a partial step function, with the induction rules for
reachable states, for restricted runs and for simulations into an abstract relation.
A step function returns `none` where the action is not enabled.
-/

namespace TransitionSystem

open Relation

variable {State Action Abstract : Type*}

/-- Some action of the system leads from `before` to `after`. -/
def Next (step : State → Action → Option State) (before after : State) : Prop :=
  ∃ action, step before action = some after

/-- An admitted action leads from `before` to `after`; `admits` sees both end states. -/
def NextWhere (step : State → Action → Option State)
    (admits : State → Action → State → Prop) (before after : State)
    : Prop :=
  ∃ action, step before action = some after ∧ admits before action after

/-- Finitely many steps lead from an initial state to `state`. -/
def Reachable (step : State → Action → Option State) (initial : State → Prop)
    (state : State)
    : Prop :=
  ∃ start, initial start ∧ ReflTransGen (Next step) start state

/-- Executes a list of actions in order, failing at the first one not enabled. -/
def run (step : State → Action → Option State) : State → List Action → Option State
  | start, [] => some start
  | start, action :: rest => (step start action).bind (run step · rest)

/-- Executes a list of actions in order, failing at the first one not enabled or not admitted. -/
def runWhere (step : State → Action → Option State) (admits : State → Action → State → Prop)
    [∀ before action after, Decidable (admits before action after)]
    : State → List Action → Option State
  | start, [] => some start
  | start, action :: rest =>
      (step start action).bind fun after =>
        if admits start action after then runWhere step admits after rest else none

/-- One party executes its labels in order while the others act in between. Until its last label
is executed, `guard` holds whenever anybody acts.
-/
inductive Executes {Label : Type*} (step : State → Action → Option State)
    (own : Label → Action) (guard : State → Prop)
    : State → List Label → State → Prop
  | finished (state : State) : Executes step own guard state [] state
  | interleaved {before middle after : State} {action : Action} {label : Label}
      {labels : List Label}
      (guarded : guard before) (foreign : ∀ label, action ≠ own label)
      (taken : step before action = some middle)
      (rest : Executes step own guard middle (label :: labels) after)
    : Executes step own guard before (label :: labels) after
  | own {before middle after : State} {label : Label} {labels : List Label}
      (guarded : guard before) (taken : step before (own label) = some middle)
      (rest : Executes step own guard middle labels after)
    : Executes step own guard before (label :: labels) after

/-- Parties kept in a list: after one of them has moved, each is as before or the one that moved. -/
theorem mem_modify {Party : Type*} {parties : List Party} {index : Nat} {move : Party → Party}
    {party : Party} (member : party ∈ parties.modify index move)
    : party ∈ parties ∨ ∃ former, parties[index]? = some former ∧ party = move former := by
  obtain ⟨other, isParty⟩ := List.mem_iff_getElem?.mp member
  rw [List.getElem?_modify] at isParty
  obtain ⟨former, found, same⟩ := Option.map_eq_some_iff.mp isParty
  split at same
  · next isIndex =>
      subst isIndex
      exact .inr ⟨former, found, same.symm⟩
  · exact .inl (List.mem_of_getElem? (found.trans (congrArg some same)))

section Rules

variable {step : State → Action → Option State} {initial : State → Prop}

/-- Restricting the admitted actions keeps every step a step. -/
theorem NextWhere.next {admits : State → Action → State → Prop} {before after : State}
    (h : NextWhere step admits before after)
    : Next step before after :=
  h.imp fun _ taken => taken.1

/-- A successful execution is a path of steps, by induction over the action list. -/
theorem path_of_run {start finish : State} {actions : List Action}
    (h : run step start actions = some finish)
    : ReflTransGen (Next step) start finish := by
  induction actions generalizing start with
  | nil =>
      have same : start = finish := Option.some.inj h
      exact same ▸ .refl
  | cons action rest ih =>
      obtain ⟨middle, first, later⟩ := Option.bind_eq_some_iff.mp h
      exact .head ⟨action, first⟩ (ih later)

/-- An execution of admitted actions is a path of admitted steps. -/
theorem path_of_admitted {admits : Action → Prop} {start finish : State} {actions : List Action}
    (admitted : ∀ action ∈ actions, admits action) (h : run step start actions = some finish)
    : ReflTransGen (NextWhere step fun _ action _ => admits action) start finish := by
  induction actions generalizing start with
  | nil =>
      have same : start = finish := Option.some.inj h
      exact same ▸ .refl
  | cons action rest ih =>
      obtain ⟨middle, first, later⟩ := Option.bind_eq_some_iff.mp h
      obtain ⟨isAdmitted, others⟩ := List.forall_mem_cons.mp admitted
      exact .head ⟨action, first, isAdmitted⟩ (ih others later)

/-- A successful restricted execution is a path of admitted steps. -/
theorem path_of_runWhere {admits : State → Action → State → Prop}
    [∀ before action after, Decidable (admits before action after)] {start finish : State}
    {actions : List Action} (h : runWhere step admits start actions = some finish)
    : ReflTransGen (NextWhere step admits) start finish := by
  induction actions generalizing start with
  | nil =>
      have same : start = finish := Option.some.inj h
      exact same ▸ .refl
  | cons action rest ih =>
      obtain ⟨middle, first, later⟩ := Option.bind_eq_some_iff.mp h
      split at later
      · exact .head ⟨action, first, ‹_›⟩ (ih later)
      · cases later

/-- An initial state is reachable in no steps. -/
theorem Reachable.start {state : State} (h : initial state) : Reachable step initial state :=
  ⟨state, h, .refl⟩

/-- A path from a reachable state ends in a reachable state. -/
theorem Reachable.path {state later : State} (h : Reachable step initial state)
    (path : ReflTransGen (Next step) state later)
    : Reachable step initial later := by
  obtain ⟨start, first, before⟩ := h
  exact ⟨start, first, before.trans path⟩

/-- A step from a reachable state ends in a reachable state. -/
theorem Reachable.next {state after : State} {action : Action}
    (h : Reachable step initial state) (taken : step state action = some after)
    : Reachable step initial after :=
  h.path (.single ⟨action, taken⟩)

/-- A successful execution from an initial state ends in a reachable state. -/
theorem Reachable.of_run {start finish : State} {actions : List Action}
    (first : initial start) (h : run step start actions = some finish)
    : Reachable step initial finish :=
  ⟨start, first, path_of_run h⟩

/-- What each admitted step preserves still holds at the end of admitted steps. Witness: induction
along the path.
-/
theorem kept_along {admits : State → Action → State → Prop} (property : State → Prop)
    (preserved
      : ∀ state action after,
          property state
          → step state action = some after
          → admits state action after
          → property after)
    {state later : State} (holds : property state)
    (path : ReflTransGen (NextWhere step admits) state later)
    : property later := by
  induction path with
  | refl => exact holds
  | tail _ last ih =>
      obtain ⟨action, taken, admitted⟩ := last
      exact preserved _ action _ ih taken admitted

/-- Persistence rule: what every step from a reachable state preserves still holds at the end of
a path. Witness: induction along the path.
-/
theorem Reachable.persists (property : State → Prop)
    (preserved
      : ∀ state action after,
          Reachable step initial state
          → property state
          → step state action = some after
          → property after)
    {state later : State} (h : Reachable step initial state) (holds : property state)
    (path : ReflTransGen (Next step) state later)
    : property later := by
  induction path with
  | refl => exact holds
  | tail before last ih =>
      obtain ⟨action, taken⟩ := last
      exact preserved _ action _ (h.path before) ih taken

/-- Invariant rule: a property of the initial states that every step from a reachable
state preserves holds in every reachable state.
-/
theorem Reachable.invariant (property : State → Prop)
    (first : ∀ state, initial state → property state)
    (preserved
      : ∀ state action after,
          Reachable step initial state
          → property state
          → step state action = some after
          → property after)
    {state : State} (h : Reachable step initial state)
    : property state := by
  obtain ⟨start, isInitial, path⟩ := h
  exact (Reachable.start isInitial).persists property preserved (first start isInitial) path

/-- Restricted-run rule: along admitted steps from a reachable state, a property that each
admitted step preserves holds at the end, and the end is reachable.
-/
theorem Reachable.along {admits : State → Action → State → Prop} {property : State → Prop}
    (preserved
      : ∀ state action after,
          Reachable step initial state
          → property state
          → step state action = some after
          → admits state action after
          → property after)
    {state later : State} (h : Reachable step initial state) (holds : property state)
    (path : ReflTransGen (NextWhere step admits) state later)
    : Reachable step initial later ∧ property later :=
  kept_along (fun state => Reachable step initial state ∧ property state)
    (fun _ action _ ih taken admitted =>
      ⟨ih.1.next taken, preserved _ action _ ih.1 ih.2 taken admitted⟩)
    ⟨h, holds⟩ path

/-- Simulation rule: when each step from a reachable state is matched by finitely many
abstract steps between the images, paths are matched by abstract paths.
-/
theorem Reachable.simulation (image : State → Abstract)
    {abstractNext : Abstract → Abstract → Prop}
    (matched
      : ∀ state action after,
          Reachable step initial state
          → step state action = some after
          → ReflTransGen abstractNext (image state) (image after))
    {state later : State} (h : Reachable step initial state)
    (path : ReflTransGen (Next step) state later)
    : ReflTransGen abstractNext (image state) (image later) := by
  induction path with
  | refl => exact .refl
  | tail before last ih =>
      obtain ⟨action, taken⟩ := last
      exact ih.trans (matched _ action _ (h.path before) taken)

/-- An interleaved execution is a path. -/
theorem Executes.path {Label : Type*} {own : Label → Action} {guard : State → Prop}
    {start finish : State} {labels : List Label}
    (executes : Executes step own guard start labels finish)
    : ReflTransGen (Next step) start finish := by
  induction executes with
  | finished state => exact .refl
  | interleaved _ _ taken _ ih | own _ taken _ ih => exact .head ⟨_, taken⟩ ih

/-- The guard holds where a label has still to be executed. -/
theorem Executes.guarded {Label : Type*} {own : Label → Action} {guard : State → Prop}
    {start finish : State} {labels : List Label} (left : labels ≠ [])
    (executes : Executes step own guard start labels finish)
    : guard start := by
  cases executes with
  | finished => exact absurd rfl left
  | interleaved guarded _ _ _ | own guarded _ _ => exact guarded

/-- Last-label rule: what the others and all labels but the last one preserve still holds when the
last one is executed.
-/
theorem Executes.reaches_last {Label : Type*} {own : Label → Action}
    {guard property : State → Prop} {quiet : Label → Prop}
    (foreignKeeps
      : ∀ before action after,
          guard before
          → property before
          → (∀ label, action ≠ own label)
          → step before action = some after
          → property after)
    (quietKeeps
      : ∀ before label after,
          guard before
          → property before
          → quiet label
          → step before (own label) = some after
          → property after)
    {start finish : State} {labels : List Label} {final : Label}
    (allQuiet : ∀ label ∈ labels, quiet label)
    (executes : Executes step own guard start (labels ++ [final]) finish)
    (holds : property start)
    : ∃ last, guard last ∧ property last ∧ step last (own final) = some finish := by
  generalize same : labels ++ [final] = all at executes
  induction executes generalizing labels with
  | finished state => cases List.append_ne_nil_of_right_ne_nil labels (List.cons_ne_nil _ _) same
  | interleaved guarded foreign taken _ ih =>
      exact ih allQuiet (foreignKeeps _ _ _ guarded holds foreign taken) same
  | @own before middle after label rest guarded taken executes ih =>
      cases labels with
      | nil =>
          cases same
          cases executes
          exact ⟨before, guarded, holds, taken⟩
      | cons first others =>
          cases same
          obtain ⟨isQuiet, othersQuiet⟩ := List.forall_mem_cons.mp allQuiet
          exact ih othersQuiet (quietKeeps _ _ _ guarded holds isQuiet taken) rfl

end Rules

end TransitionSystem
