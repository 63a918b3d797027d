import Mathlib.Logic.Function.Basic
import Mathlib.Logic.Relation
import Mathlib.Order.Lattice

/-! One resource under a lease that several workers compete for. A worker takes the resource
when no lease is in force, keeps a copy of what it saw, and may settle the resource as long as
it is still recorded as the owner, whether or not its lease has run out. Workers may be
arbitrarily slow, and background activity may change the resource at any time.
-/

namespace LeaseProtocol

open Relation

variable {Worker Instant Held View : Type*}

/-- The resource, its recorded owner and lease, and what each worker holds from its claim. -/
@[ext]
structure State (Worker Instant Held View : Type*) where
  owner : Option Worker
  leaseUntil : Option Instant
  held : Worker → Option Held
  view : View
  now : Instant

/-- What the parties may do to the resource and to what they hold. -/
structure Rules (Instant Held View : Type*) where
  /-- What a worker may hold right after a claim. -/
  take : Instant → View → Held → Prop
  /-- How a worker's own progress may change what it holds. -/
  work : Instant → View → Held → Held → Prop
  /-- How an owner may change the resource when it gives up the claim. -/
  settle : Instant → View → Held → View → Prop
  /-- How the resource changes without regard to claims. -/
  background : Instant → View → View → Prop

/-- No lease is in force at `now`. -/
def Free [LT Instant] (leaseUntil : Option Instant) (now : Instant) : Prop :=
  ∀ deadline, leaseUntil = some deadline → deadline < now

/-- One atomic step of the protocol. -/
inductive Step [DecidableEq Worker] [LinearOrder Instant] (rules : Rules Instant Held View)
    : State Worker Instant Held View → State Worker Instant Held View → Prop
  /-- Time passes. -/
  | wait {state : State Worker Instant Held View} {later : Instant} (ordered : state.now ≤ later)
    : Step rules state { state with now := later }
  /-- A worker that holds nothing claims the resource while no lease is in force. -/
  | take {state : State Worker Instant Held View} {worker : Worker} {deadline : Instant}
      {held : Held}
      (free : Free state.leaseUntil state.now) (idle : state.held worker = none)
      (taken : rules.take state.now state.view held)
    : Step rules state
        { state with
          owner := some worker
          leaseUntil := some deadline
          held := Function.update state.held worker (some held) }
  /-- The owner moves its lease, expired or not, as part of its work. -/
  | extend {state : State Worker Instant Held View} {worker : Worker} {deadline : Instant}
      {held progressed : Held}
      (owns : state.owner = some worker) (holds : state.held worker = some held)
      (worked : rules.work state.now state.view held progressed)
    : Step rules state
        { state with
          leaseUntil := some deadline
          held := Function.update state.held worker (some progressed) }
  /-- The owner gives the claim back without touching the resource. -/
  | release {state : State Worker Instant Held View} {worker : Worker}
      (owns : state.owner = some worker)
    : Step rules state
        { state with
          owner := none
          leaseUntil := none
          held := Function.update state.held worker none }
  /-- A worker forgets what it holds; the claim stays recorded. -/
  | drop {state : State Worker Instant Held View} {worker : Worker}
    : Step rules state { state with held := Function.update state.held worker none }
  /-- A worker makes progress on what it holds. -/
  | work {state : State Worker Instant Held View} {worker : Worker} {held progressed : Held}
      (holds : state.held worker = some held)
      (worked : rules.work state.now state.view held progressed)
    : Step rules state
        { state with held := Function.update state.held worker (some progressed) }
  /-- The owner changes the resource and gives the claim back. -/
  | settle {state : State Worker Instant Held View} {worker : Worker} {held : Held}
      {view : View}
      (owns : state.owner = some worker) (holds : state.held worker = some held)
      (settled : rules.settle state.now state.view held view)
    : Step rules state
        { state with
          owner := none
          leaseUntil := none
          held := Function.update state.held worker none
          view := view }
  /-- The resource changes in the background. -/
  | background {state : State Worker Instant Held View} {view : View}
      (changed : rules.background state.now state.view view)
    : Step rules state { state with view := view }

/-- The obligations under which claims keep what owners hold accurate: `good` is an
invariant of the resource, `accurate` relates it to what its owner holds. -/
structure Rules.Sound [LE Instant] (rules : Rules Instant Held View)
    (good : Instant → View → Prop) (accurate : Instant → View → Held → Prop)
    : Prop where
  goodLater
    : ∀ {now later view}, now ≤ later → good now view → good later view
  accurateLater
    : ∀ {now later view held}, now ≤ later → accurate now view held → accurate later view held
  take
    : ∀ {now view held}, good now view → rules.take now view held → accurate now view held
  work
    : ∀ {now view held progressed},
        good now view
        → accurate now view held
        → rules.work now view held progressed
        → accurate now view progressed
  settle
    : ∀ {now view held settled},
        good now view
        → accurate now view held
        → rules.settle now view held settled
        → good now settled
  backgroundGood
    : ∀ {now view changed},
        good now view
        → rules.background now view changed
        → good now changed
  backgroundAccurate
    : ∀ {now view changed held},
        good now view
        → accurate now view held
        → rules.background now view changed
        → accurate now changed held

/-- The resource is good, and whatever its recorded owner holds is accurate. A worker that
lost its claim may hold anything. -/
structure Consistent (good : Instant → View → Prop) (accurate : Instant → View → Held → Prop)
    (state : State Worker Instant Held View)
    : Prop where
  good : good state.now state.view
  accurate
    : ∀ worker held,
        state.owner = some worker
        → state.held worker = some held
        → accurate state.now state.view held

section Steps

variable [DecidableEq Worker] [LinearOrder Instant] {rules : Rules Instant Held View}
  {good : Instant → View → Prop} {accurate : Instant → View → Held → Prop}
  {before after : State Worker Instant Held View}

/-- How a step leads to an owner that holds something: the owner held it before, and only
time or the background moved on; or the owner just took it; or it is the owner's progress on
what it held.
-/
theorem Step.owner_holds_cases {worker : Worker} {held : Held} (step : Step rules before after)
    (owns : after.owner = some worker) (holds : after.held worker = some held)
    : (before.owner = some worker ∧ before.held worker = some held
        ∧ (before.now ≤ after.now ∧ after.view = before.view
          ∨ after.now = before.now ∧ rules.background before.now before.view after.view))
      ∨ (rules.take before.now before.view held
        ∧ after.now = before.now ∧ after.view = before.view)
      ∨ (∃ prior,
          before.owner = some worker ∧ before.held worker = some prior
          ∧ rules.work before.now before.view prior held
          ∧ after.now = before.now ∧ after.view = before.view) := by
  cases step with
  | wait ordered => exact .inl ⟨owns, holds, .inl ⟨ordered, rfl⟩⟩
  | @take taker deadline copy free idle taken =>
      have same : taker = worker := Option.some.inj owns
      subst same
      simp only [Function.update_self, Option.some.injEq] at holds
      exact .inr (.inl ⟨holds ▸ taken, rfl, rfl⟩)
  | release _ => exact nomatch owns
  | @drop dropper =>
      by_cases same : worker = dropper
      · subst same
        simp only [Function.update_self, reduceCtorEq] at holds
      · simp only [ne_eq, same, not_false_eq_true, Function.update_of_ne] at holds
        exact .inl ⟨owns, holds, .inl ⟨le_refl _, rfl⟩⟩
  | @extend working deadline copy progressed _ holdsCopy worked
  | @work working copy progressed holdsCopy worked =>
      by_cases same : worker = working
      · subst same
        simp only [Function.update_self, Option.some.injEq] at holds
        exact .inr (.inr ⟨copy, owns, holdsCopy, holds ▸ worked, rfl, rfl⟩)
      · simp only [ne_eq, same, not_false_eq_true, Function.update_of_ne] at holds
        exact .inl ⟨owns, holds, .inl ⟨le_refl _, rfl⟩⟩
  | settle _ _ _ => exact nomatch owns
  | background changed => exact .inl ⟨owns, holds, .inr ⟨rfl, changed⟩⟩

/-- One step keeps the resource good, given that what its owner holds is accurate. -/
theorem Step.keeps_good (sound : rules.Sound good accurate) (step : Step rules before after)
    (consistent : Consistent good accurate before)
    : good after.now after.view := by
  cases step with
  | wait ordered => exact sound.goodLater ordered consistent.good
  | take _ _ _ | extend _ _ _ | release _ | drop | work _ _ => exact consistent.good
  | settle owns holds settled =>
      exact sound.settle consistent.good (consistent.accurate _ _ owns holds) settled
  | background changed => exact sound.backgroundGood consistent.good changed

/-- One step preserves consistency: a take makes every other worker a non-owner and a
settlement leaves no owner at all, so a stale copy is never an owner's. -/
theorem Step.consistent (sound : rules.Sound good accurate) (step : Step rules before after)
    (consistent : Consistent good accurate before)
    : Consistent good accurate after := by
  refine ⟨step.keeps_good sound consistent, fun worker held owns holds => ?_⟩
  rcases step.owner_holds_cases owns holds with
    ⟨owned, held, ⟨ordered, view⟩ | ⟨now, changed⟩⟩ | ⟨taken, now, view⟩
      | ⟨prior, owned, held, worked, now, view⟩
  · rw [view]
    exact sound.accurateLater ordered (consistent.accurate worker _ owned held)
  · rw [now]
    exact sound.backgroundAccurate consistent.good (consistent.accurate worker _ owned held)
      changed
  · rw [now, view]
    exact sound.take consistent.good taken
  · rw [now, view]
    exact sound.work consistent.good (consistent.accurate worker _ owned held) worked

/-- Consistency holds along every path, by induction over its steps. -/
theorem consistent_of_path (sound : rules.Sound good accurate)
    (path : ReflTransGen (Step rules) before after)
    (consistent : Consistent good accurate before)
    : Consistent good accurate after := by
  induction path with
  | refl => exact consistent
  | tail _ step ih => exact step.consistent sound ih

/-- A property of what the owner holds that every take establishes and every piece of work
keeps is preserved by a step, whatever the background does to the resource.
-/
theorem Step.ownerHolds {property : Held → Prop} (step : Step rules before after)
    (onTake : ∀ held, rules.take before.now before.view held → property held)
    (onWork
      : ∀ held progressed,
          rules.work before.now before.view held progressed
          → property held
          → property progressed)
    (holdsBefore
      : ∀ worker held,
          before.owner = some worker → before.held worker = some held → property held)
    : ∀ worker held,
        after.owner = some worker → after.held worker = some held → property held := by
  intro worker held owns holds
  rcases step.owner_holds_cases owns holds with
    ⟨owned, held, _⟩ | ⟨taken, _⟩ | ⟨prior, owned, held, worked, _⟩
  · exact holdsBefore worker _ owned held
  · exact onTake _ taken
  · exact onWork prior _ worked (holdsBefore worker prior owned held)

/-- A worker that is recorded as the owner still holds what it claimed. -/
def Backed (worker : Worker) (state : State Worker Instant Held View) : Prop :=
  state.owner = some worker → state.held worker ≠ none

/-- A step leaves claims backed, if it is none by which an owner forgets what it holds. -/
theorem Step.backed {worker : Worker} (step : Step rules before after)
    (backed : Backed worker before)
    (letsGo
      : before.held worker ≠ none
        → after.held worker = none
        → after.owner ≠ some worker)
    : Backed worker after := by
  intro owns gone
  by_cases held : before.held worker = none
  · have notOwner : before.owner ≠ some worker := fun owned => backed owned held
    cases step with
    | wait _ | drop | background _ | work _ _ | extend _ _ _ => exact notOwner owns
    | release _ | settle _ _ _ => cases owns
    | take _ _ _ =>
        cases owns
        simp only [Function.update_self, reduceCtorEq] at gone
  · exact letsGo held gone owns

/-- Only a settlement by an owner and the background change the resource. -/
theorem Step.view_cases (step : Step rules before after)
    : after.view = before.view
      ∨ (∃ worker held,
          before.owner = some worker
          ∧ before.held worker = some held
          ∧ rules.settle before.now before.view held after.view)
      ∨ rules.background before.now before.view after.view := by
  cases step with
  | wait _ | take _ _ _ | extend _ _ _ | release _ | drop | work _ _ => exact .inl rfl
  | settle owns holds settled => exact .inr (.inl ⟨_, _, owns, holds, settled⟩)
  | background changed => exact .inr (.inr changed)

end Steps

end LeaseProtocol
