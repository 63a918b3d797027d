import Mathlib.Order.Lattice
import Mathlib.Order.MinMax

/-! Instants from which something is eligible. A condition that stays met once it is met is
answered by a single instant; a conjunction of conditions is answered by the greatest of their
instants, and a disjunction over items by the least one.
-/

namespace Eligibility

variable {Item Time : Type*} [LinearOrder Time] {now : Time}

/-- No instant from `now` on that is before `ready` is eligible, and every one after it is. -/
structure EligibleFrom (eligible : Time → Prop) (now ready : Time) : Prop where
  notBefore : ∀ instant, now ≤ instant → eligible instant → ready ≤ instant
  after : ∀ instant, ready < instant → eligible instant

/-- The same of an answer that may be missing: then no instant from `now` on is eligible. -/
structure Answers (eligible : Time → Prop) (now : Time) (answer : Option Time) : Prop where
  missing : answer = none → ∀ instant, now ≤ instant → ¬eligible instant
  present : ∀ ready, answer = some ready → EligibleFrom eligible now ready

/-- A condition without content is met from now on. -/
theorem always : EligibleFrom (fun _ : Time => True) now now :=
  ⟨fun _ later _ => later, fun _ _ => trivial⟩

/-- A due instant is met from itself on, and asked for from now on. -/
theorem due (dueAt : Time) : EligibleFrom (dueAt ≤ ·) now (max dueAt now) where
  notBefore := fun _ later met => max_le met later
  after := fun _ passed => (le_max_left dueAt now).trans passed.le

/-- A lease is over strictly after its end; one that has ended by now asks for nothing. -/
theorem leaseOver (leaseUntil : Time)
    : EligibleFrom (leaseUntil < ·) now (if now < leaseUntil then leaseUntil else now) := by
  by_cases running : now < leaseUntil
  · rw [if_pos running]
    exact ⟨fun _ _ met => met.le, fun _ passed => passed⟩
  · rw [if_neg running]
    exact ⟨fun _ later _ => later, fun _ passed => (not_lt.mp running).trans_lt passed⟩

/-- Both of two conditions are met from the later of their instants on. -/
theorem EligibleFrom.and {first second : Time → Prop} {ready other : Time}
    (left : EligibleFrom first now ready) (right : EligibleFrom second now other)
    : EligibleFrom (fun instant => first instant ∧ second instant) now (max ready other) where
  notBefore := fun instant later met =>
    max_le (left.notBefore instant later met.1) (right.notBefore instant later met.2)
  after := fun instant passed =>
    ⟨left.after instant ((le_max_left _ _).trans_lt passed),
      right.after instant ((le_max_right _ _).trans_lt passed)⟩

/-- An equivalent condition has the same instant. -/
theorem EligibleFrom.congr {eligible other : Time → Prop} {ready : Time}
    (holds : EligibleFrom eligible now ready) (same : ∀ instant, other instant ↔ eligible instant)
    : EligibleFrom other now ready where
  notBefore := fun instant later met => holds.notBefore instant later ((same instant).mp met)
  after := fun instant passed => (same instant).mpr (holds.after instant passed)

/-- An equivalent condition has the same answer. -/
theorem Answers.congr {eligible other : Time → Prop} {answer : Option Time}
    (holds : Answers eligible now answer) (same : ∀ instant, other instant ↔ eligible instant)
    : Answers other now answer where
  missing := fun isMissing instant later met =>
    holds.missing isMissing instant later ((same instant).mp met)
  present := fun ready isReady => (holds.present ready isReady).congr same

/-- Some item is eligible from the least instant of an item on. -/
theorem answers_min? (eligible : Item → Time → Prop) (ready : Item → Time) (items : List Item)
    (each : ∀ item ∈ items, EligibleFrom (eligible item) now (ready item))
    : Answers (fun instant => ∃ item ∈ items, eligible item instant) now
        (items.map ready).min? where
  missing := by
    intro isMissing instant _ met
    obtain ⟨item, member, _⟩ := met
    have empty := List.map_eq_nil_iff.mp (List.min?_eq_none_iff.mp isMissing)
    rw [empty] at member
    exact List.not_mem_nil member
  present := by
    intro least isLeast
    obtain ⟨attained, bound⟩ := List.min?_eq_some_iff.mp isLeast
    constructor
    · intro instant later met
      obtain ⟨item, member, isEligible⟩ := met
      have atMost := bound (ready item) (List.mem_map_of_mem member)
      exact atMost.trans ((each item member).notBefore instant later isEligible)
    · intro instant passed
      obtain ⟨item, member, rfl⟩ := List.mem_map.mp attained
      exact ⟨item, member, (each item member).after instant passed⟩

end Eligibility
