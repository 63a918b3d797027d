import Mathlib.Data.List.Defs

/-! Requirements that are checked in a fixed order. A judgement is right if it tells nothing when
all requirements hold, and otherwise the name of the first one that does not.
-/

namespace OrderedRequirements

universe u v

/-- A requirement, and the name under which its violation is told. -/
structure Requirement (Name : Type u) where
  name : Name
  Holds : Prop

/-- The first requirement that does not hold has this name. -/
inductive FirstViolated {Name : Type u} : List (Requirement Name) → Name → Prop where
  | here {requirement : Requirement Name} {rest : List (Requirement Name)}
      (violated : ¬ requirement.Holds)
      : FirstViolated (requirement :: rest) requirement.name
  | later {requirement : Requirement Name} {rest : List (Requirement Name)} {name : Name}
      (holds : requirement.Holds) (first : FirstViolated rest name)
      : FirstViolated (requirement :: rest) name

/-- A violation is told exactly if there is one, and then the first. -/
inductive Judges {Name : Type u} (requirements : List (Requirement Name)) : Option Name → Prop where
  | accepted (holds : ∀ requirement ∈ requirements, requirement.Holds) : Judges requirements none
  | refused {name : Name} (isFirst : FirstViolated requirements name)
      : Judges requirements (some name)

variable {Name : Type u} {first second : List (Requirement Name)} {violation next : Option Name}

/-- A first violation splits the list: all before it hold. -/
theorem firstViolated_iff {requirements : List (Requirement Name)} {name : Name}
    : FirstViolated requirements name
      ↔ ∃ before violated after,
          requirements = before ++ violated :: after
          ∧ (∀ earlier ∈ before, earlier.Holds)
          ∧ ¬ violated.Holds
          ∧ violated.name = name := by
  constructor
  · intro isFirst
    induction isFirst with
    | here violated => exact ⟨[], _, _, rfl, by simp, violated, rfl⟩
    | later holds _ ih =>
        obtain ⟨before, violated, after, rfl, allHold, isViolated, named⟩ := ih
        refine ⟨_ :: before, violated, after, rfl, ?_, isViolated, named⟩
        simpa only [List.forall_mem_cons] using ⟨holds, allHold⟩
  · rintro ⟨before, violated, after, rfl, allHold, isViolated, rfl⟩
    induction before with
    | nil => exact .here isViolated
    | cons earlier rest ih =>
        rw [List.forall_mem_cons] at allHold
        exact .later allHold.1 (ih allHold.2)

/-- A judgement tells nothing exactly if all requirements hold. -/
theorem Judges.eq_none_iff {requirements : List (Requirement Name)}
    (judges : Judges requirements violation)
    : violation = none ↔ ∀ requirement ∈ requirements, requirement.Holds := by
  cases judges with
  | accepted holds => exact ⟨fun _ => holds, fun _ => rfl⟩
  | refused isFirst =>
      obtain ⟨before, violated, after, rfl, _, isViolated, _⟩ := firstViolated_iff.mp isFirst
      refine ⟨nofun, fun allHold => absurd ?_ isViolated⟩
      exact allHold violated (by simp)

/-- Either the first requirement holds and the rest decides, or its name is told. -/
theorem judges_cons_iff {requirement : Requirement Name} {rest : List (Requirement Name)}
    : Judges (requirement :: rest) violation
      ↔ (requirement.Holds ∧ Judges rest violation)
        ∨ (¬ requirement.Holds ∧ violation = some requirement.name) := by
  constructor
  · intro judges
    cases judges with
    | accepted holds =>
        obtain ⟨headHolds, restHolds⟩ := List.forall_mem_cons.mp holds
        exact .inl ⟨headHolds, .accepted restHolds⟩
    | refused isFirst =>
        cases isFirst with
        | here violated => exact .inr ⟨violated, rfl⟩
        | later holds isFirst => exact .inl ⟨holds, .refused isFirst⟩
  · rintro (⟨holds, judges⟩ | ⟨violated, rfl⟩)
    · cases judges with
      | accepted restHolds => exact .accepted (List.forall_mem_cons.mpr ⟨holds, restHolds⟩)
      | refused isFirst => exact .refused (.later holds isFirst)
    · exact .refused (.here violated)

/-- What is told is the name of a requirement. -/
theorem Judges.name_mem {requirements : List (Requirement Name)} {name : Name}
    (judges : Judges requirements (some name))
    : ∃ requirement ∈ requirements, requirement.name = name := by
  cases judges with
  | refused isFirst =>
      obtain ⟨before, violated, after, rfl, _, _, named⟩ := firstViolated_iff.mp isFirst
      exact ⟨violated, by simp, named⟩

/-- One requirement: nothing is told if it holds, its name if it does not. -/
theorem judges_single {requirement : Requirement Name}
    (holds : violation = none ↔ requirement.Holds)
    (named : ∀ name ∈ violation, name = requirement.name)
    : Judges [requirement] violation := by
  cases violation with
  | none => exact .accepted (List.forall_mem_singleton.mpr (holds.mp rfl))
  | some name =>
      rw [named name rfl]
      exact .refused (.here fun isHeld => nomatch holds.mpr isHeld)

/-- A violation of the first list is one of both, whatever comes behind. -/
theorem FirstViolated.append {name : Name} (isFirst : FirstViolated first name)
    : FirstViolated (first ++ second) name := by
  induction isFirst with
  | here violated => exact .here violated
  | later holds _ ih => exact .later holds ih

/-- Behind requirements that hold, the first violation is that of the rest. -/
theorem FirstViolated.behind {name : Name} (holds : ∀ requirement ∈ first, requirement.Holds)
    (isFirst : FirstViolated second name)
    : FirstViolated (first ++ second) name := by
  induction first with
  | nil => exact isFirst
  | cons requirement rest ih =>
      obtain ⟨headHolds, restHolds⟩ := List.forall_mem_cons.mp holds
      exact .later headHolds (ih restHolds)

/-- Judging two lists in turn. The second counts only if nothing is told of the first. -/
theorem Judges.or (judges : Judges first violation)
    (judgesNext : violation = none → Judges second next)
    : Judges (first ++ second) (violation.or next) := by
  cases judges with
  | accepted holds =>
      cases judgesNext rfl with
      | accepted restHolds => exact .accepted (List.forall_mem_append.mpr ⟨holds, restHolds⟩)
      | refused isFirst => exact .refused (isFirst.behind holds)
  | refused isFirst => exact .refused isFirst.append

/-- A loop that stops at the first item with a violation judges the requirements of all items,
by induction over the items.
-/
theorem judges_findSome? {Item : Type v} {requirements : Item → List (Requirement Name)}
    {evaluate : Item → Option Name} {items : List Item}
    (judges : ∀ item ∈ items, Judges (requirements item) (evaluate item))
    : Judges (items.flatMap requirements) (items.findSome? evaluate) := by
  induction items with
  | nil => exact .accepted (List.forall_mem_nil _)
  | cons item rest ih =>
      rw [List.forall_mem_cons] at judges
      have both := judges.1.or fun _ => ih judges.2
      rw [List.flatMap_cons, List.findSome?_cons]
      cases told : evaluate item <;> simpa only [told, Option.none_or, Option.some_or] using both

end OrderedRequirements
