import AlonSentinel.Foundation.TransitionSystem
import Mathlib.Data.List.Forall2

/-! Inquiries: programs that ask queries, one after the other or several at once. What answers the
queries may change from one answer to the next, and queries that are asked at once are answered in
any order.
-/

namespace ConcurrentQueries

/-- A query knows the type of its answer. -/
inductive Inquiry (Query : Type → Type) : Type → Type 1 where
  | give {Result : Type} (result : Result) : Inquiry Query Result
  | query {Result : Type} (asked : Query Result) : Inquiry Query Result
  | both {First Second Result : Type} (first : Inquiry Query First)
      (second : Inquiry Query Second) (join : First → Second → Result)
    : Inquiry Query Result
  | andThen {First Result : Type} (first : Inquiry Query First)
      (next : First → Inquiry Query Result)
    : Inquiry Query Result

/-- One answer to every query. -/
abbrev Answers (Query : Type → Type) := ∀ {Result : Type}, Query Result → Result

/-- The answers that a query may have been given. -/
abbrev Known (Query : Type → Type) := ∀ {Result : Type}, Query Result → Result → Prop

/-- Which part of an inquiry acts next. -/
inductive Turn where
  | here
  | first (turn : Turn)
  | second (turn : Turn)

namespace Inquiry

variable {Query : Type → Type} {Result First Second : Type}

instance : Monad (Inquiry Query) where
  pure := give
  bind := andThen

/-- Inquiries at once, with their results in the order of the list. -/
def all (inquiries : List (Inquiry Query Result)) : Inquiry Query (List Result) :=
  inquiries.foldr (fun inquiry rest => .both inquiry rest List.cons) (.give [])

/-- The result of an inquiry that has one. -/
def given : Inquiry Query Result → Option Result
  | .give result => some result
  | _ => none

/-- The result where all queries are answered at one moment. -/
def eval (answers : Answers Query) {Result : Type} : Inquiry Query Result → Result
  | .give result => result
  | .query asked => answers asked
  | .both first second join => join (first.eval answers) (second.eval answers)
  | .andThen first next => (next (first.eval answers)).eval answers

/-- The inquiry may have a result, where each query has one of the known answers. -/
def Gives (known : Known Query) {Result : Type} : Inquiry Query Result → Result → Prop
  | .give result, given => result = given
  | .query asked, given => known asked given
  | .both first second join, given =>
      ∃ left right, first.Gives known left ∧ second.Gives known right ∧ join left right = given
  | .andThen first next, given =>
      ∃ result, first.Gives known result ∧ (next result).Gives known given

/-- One query is answered, or results are passed on. -/
def advance (answers : Answers Query) {Result : Type}
    : Inquiry Query Result → Turn → Option (Inquiry Query Result)
  | .query asked, .here => some (.give (answers asked))
  | .both first second join, .here =>
      first.given.bind fun left => second.given.map fun right => .give (join left right)
  | .both first second join, .first turn =>
      (first.advance answers turn).map fun first => .both first second join
  | .both first second join, .second turn =>
      (second.advance answers turn).map fun second => .both first second join
  | .andThen first next, .here => first.given.map next
  | .andThen first next, .first turn =>
      (first.advance answers turn).map fun first => .andThen first next
  | _, _ => none

variable {answers : Answers Query} {known more : Known Query} {inquiry after : Inquiry Query Result}
  {turn : Turn} {result : Result}

theorem given_eq_some : inquiry.given = some result ↔ inquiry = .give result := by
  cases inquiry <;> simp [given]

------------------------------------------------------------
-- Results
------------------------------------------------------------

@[simp] theorem gives_pure {given : Result}
    : (pure result : Inquiry Query Result).Gives known given ↔ result = given :=
  .rfl

@[simp] theorem gives_query {asked : Query Result}
    : (query asked).Gives known result ↔ known asked result :=
  .rfl

@[simp] theorem gives_both {first : Inquiry Query First} {second : Inquiry Query Second}
    {join : First → Second → Result}
    : (both first second join).Gives known result
      ↔ ∃ left right,
          first.Gives known left ∧ second.Gives known right ∧ join left right = result :=
  .rfl

@[simp] theorem gives_bind {first : Inquiry Query First} {next : First → Inquiry Query Result}
    : (first >>= next).Gives known result
      ↔ ∃ given, first.Gives known given ∧ (next given).Gives known result :=
  .rfl

/-- Results at once are results of each inquiry. Witness: induction over the list. -/
theorem gives_all {inquiries : List (Inquiry Query Result)} {results : List Result}
    : (all inquiries).Gives known results
      ↔ List.Forall₂ (fun inquiry result => inquiry.Gives known result) inquiries results := by
  induction inquiries generalizing results with
  | nil =>
      rw [List.forall₂_nil_left_iff]
      exact eq_comm
  | cons inquiry rest ih =>
      rw [List.forall₂_cons_left_iff]
      constructor
      · rintro ⟨left, right, isLeft, isRight, rfl⟩
        exact ⟨left, right, isLeft, ih.mp isRight, rfl⟩
      · rintro ⟨left, right, isLeft, isRight, rfl⟩
        exact ⟨left, right, isLeft, ih.mpr isRight, rfl⟩

/-- More answers allow more results, by induction over the inquiry. -/
theorem Gives.mono (wider : ∀ {Asked : Type} (asked : Query Asked) answer,
      known asked answer → more asked answer)
    (gives : inquiry.Gives known result)
    : inquiry.Gives more result := by
  induction inquiry with
  | give given => exact gives
  | query asked => exact wider asked result gives
  | both first second join firstIh secondIh =>
      obtain ⟨left, right, isLeft, isRight, joined⟩ := gives
      exact ⟨left, right, firstIh isLeft, secondIh isRight, joined⟩
  | andThen first next firstIh nextIh =>
      obtain ⟨middle, isFirst, isNext⟩ := gives
      exact ⟨middle, firstIh isFirst, nextIh middle isNext⟩

@[simp] theorem eval_pure : (pure result : Inquiry Query Result).eval answers = result := rfl

@[simp] theorem eval_query {asked : Query Result} : (query asked).eval answers = answers asked :=
  rfl

@[simp] theorem eval_both {first : Inquiry Query First} {second : Inquiry Query Second}
    {join : First → Second → Result}
    : (both first second join).eval answers = join (first.eval answers) (second.eval answers) :=
  rfl

@[simp] theorem eval_bind {first : Inquiry Query First} {next : First → Inquiry Query Result}
    : (first >>= next).eval answers = (next (first.eval answers)).eval answers :=
  rfl

@[simp] theorem eval_map {convert : First → Result} {first : Inquiry Query First}
    : (convert <$> first).eval answers = convert (first.eval answers) :=
  rfl

/-- Inquiries at once have the results of each of them, by induction over the list. -/
@[simp] theorem eval_all {inquiries : List (Inquiry Query Result)}
    : (all inquiries).eval answers = inquiries.map (·.eval answers) := by
  induction inquiries with
  | nil => rfl
  | cons inquiry rest ih => exact congrArg (List.cons _) ih

/-- Where each query has one answer, there is one result. Witness: induction over the inquiry. -/
theorem gives_answers
    : inquiry.Gives (fun asked answer => answers asked = answer) result
      ↔ inquiry.eval answers = result := by
  induction inquiry with
  | give given => exact .rfl
  | query asked => exact .rfl
  | both first second join firstIh secondIh => simp [Gives, eval, firstIh, secondIh]
  | andThen first next firstIh nextIh => simp [Gives, eval, firstIh, nextIh]

------------------------------------------------------------
-- Steps
------------------------------------------------------------

/-- What an inquiry may still give after a step, it might have given before. Witness: induction over
the inquiry, with the parts of a step.
-/
theorem gives_of_advance
    (isKnown : ∀ {Asked : Type} (asked : Query Asked), known asked (answers asked))
    (advanced : inquiry.advance answers turn = some after) (gives : after.Gives known result)
    : inquiry.Gives known result := by
  induction inquiry generalizing turn with
  | give given => cases turn <;> cases advanced
  | query asked =>
      cases turn with
      | here =>
          cases advanced
          exact gives ▸ isKnown asked
      | first turn | second turn => cases advanced
  | both first second join firstIh secondIh =>
      cases turn with
      | here =>
          obtain ⟨left, isLeft, later⟩ := Option.bind_eq_some_iff.mp advanced
          obtain ⟨right, isRight, rfl⟩ := Option.map_eq_some_iff.mp later
          cases given_eq_some.mp isLeft
          cases given_eq_some.mp isRight
          exact ⟨left, right, rfl, rfl, gives⟩
      | first turn =>
          obtain ⟨moved, isMoved, rfl⟩ := Option.map_eq_some_iff.mp advanced
          obtain ⟨left, right, isLeft, isRight, joined⟩ := gives
          exact ⟨left, right, firstIh isMoved isLeft, isRight, joined⟩
      | second turn =>
          obtain ⟨moved, isMoved, rfl⟩ := Option.map_eq_some_iff.mp advanced
          obtain ⟨left, right, isLeft, isRight, joined⟩ := gives
          exact ⟨left, right, isLeft, secondIh isMoved isRight, joined⟩
  | andThen first next firstIh nextIh =>
      cases turn with
      | here =>
          obtain ⟨middle, isMiddle, rfl⟩ := Option.map_eq_some_iff.mp advanced
          cases given_eq_some.mp isMiddle
          exact ⟨middle, rfl, gives⟩
      | first turn =>
          obtain ⟨moved, isMoved, rfl⟩ := Option.map_eq_some_iff.mp advanced
          obtain ⟨middle, isFirst, isNext⟩ := gives
          exact ⟨middle, firstIh isMoved isFirst, isNext⟩
      | second turn => cases advanced

/-- While the answers stay, a step does not change what the result will be. -/
theorem eval_advance (advanced : inquiry.advance answers turn = some after)
    : after.eval answers = inquiry.eval answers :=
  (gives_answers.mp (gives_of_advance (fun _ => rfl) advanced (gives_answers.mpr rfl))).symm

/-- An inquiry without a result can go on. Witness: induction over the inquiry. -/
theorem exists_advance (answers : Answers Query) (unfinished : inquiry.given = none)
    : ∃ turn after, inquiry.advance answers turn = some after := by
  induction inquiry with
  | give given => cases unfinished
  | query asked => exact ⟨.here, _, rfl⟩
  | both first second join firstIh secondIh =>
      cases isFirst : first.given with
      | none =>
          obtain ⟨turn, moved, isMoved⟩ := firstIh isFirst
          exact ⟨.first turn, _, congrArg _ isMoved⟩
      | some left =>
          cases isSecond : second.given with
          | none =>
              obtain ⟨turn, moved, isMoved⟩ := secondIh isSecond
              exact ⟨.second turn, _, congrArg _ isMoved⟩
          | some right => exact ⟨.here, .give (join left right), by simp [advance, *]⟩
  | andThen first next firstIh nextIh =>
      cases isFirst : first.given with
      | none =>
          obtain ⟨turn, moved, isMoved⟩ := firstIh isFirst
          exact ⟨.first turn, _, congrArg _ isMoved⟩
      | some middle => exact ⟨.here, next middle, by simp [advance, *]⟩

------------------------------------------------------------
-- Termination
------------------------------------------------------------

/-- The inquiry `after` comes next, whatever was answered. -/
def Follows (after before : Inquiry Query Result) : Prop :=
  ∃ (answers : Answers Query) (turn : Turn), before.advance answers turn = some after

/-- No inquiry goes on forever, even with answers that change all the time. Witness: induction over
the inquiry; the parts of one that asks at once are ended in any order.
-/
theorem acc_follows (inquiry : Inquiry Query Result) : Acc Follows inquiry := by
  have accGive {Given : Type} (given : Given) : Acc Follows (give given : Inquiry Query Given) := by
    refine .intro _ fun after ⟨answers, turn, advanced⟩ => ?_
    cases turn <;> cases advanced
  induction inquiry with
  | give given => exact accGive given
  | query asked =>
      refine .intro _ fun after ⟨answers, turn, advanced⟩ => ?_
      cases turn with
      | here =>
          cases advanced
          exact accGive _
      | first turn | second turn => cases advanced
  | both first second join firstIh secondIh =>
      induction firstIh generalizing second with
      | intro first _ firstIh =>
          induction secondIh with
          | intro second isAcc secondIh =>
              refine .intro _ fun after ⟨answers, turn, advanced⟩ => ?_
              cases turn with
              | here =>
                  obtain ⟨left, _, later⟩ := Option.bind_eq_some_iff.mp advanced
                  obtain ⟨right, _, rfl⟩ := Option.map_eq_some_iff.mp later
                  exact accGive _
              | first turn =>
                  obtain ⟨moved, isMoved, rfl⟩ := Option.map_eq_some_iff.mp advanced
                  exact firstIh moved ⟨answers, turn, isMoved⟩ second (.intro second isAcc)
              | second turn =>
                  obtain ⟨moved, isMoved, rfl⟩ := Option.map_eq_some_iff.mp advanced
                  exact secondIh moved ⟨answers, turn, isMoved⟩
  | andThen first next firstIh nextIh =>
      induction firstIh with
      | intro first _ firstIh =>
          refine .intro _ fun after ⟨answers, turn, advanced⟩ => ?_
          cases turn with
          | here =>
              obtain ⟨middle, _, rfl⟩ := Option.map_eq_some_iff.mp advanced
              exact nextIh middle
          | first turn =>
              obtain ⟨moved, isMoved, rfl⟩ := Option.map_eq_some_iff.mp advanced
              exact firstIh moved ⟨answers, turn, isMoved⟩
          | second turn => cases advanced

/-- An inquiry that is answered at one moment can be brought to its result. Witness: induction over
what follows.
-/
theorem exists_run (answers : Answers Query) (inquiry : Inquiry Query Result)
    : ∃ turns,
        TransitionSystem.run (fun inquiry turn => inquiry.advance answers turn) inquiry turns
        = some (.give (inquiry.eval answers)) := by
  induction acc_follows inquiry with
  | intro inquiry _ ih =>
      cases isGiven : inquiry.given with
      | some result =>
          obtain rfl := given_eq_some.mp isGiven
          exact ⟨[], rfl⟩
      | none =>
          obtain ⟨turn, after, advanced⟩ := exists_advance answers isGiven
          obtain ⟨turns, finishes⟩ := ih after ⟨answers, turn, advanced⟩
          refine ⟨turn :: turns, Option.bind_eq_some_iff.mpr ⟨after, advanced, ?_⟩⟩
          rw [finishes, eval_advance advanced]

end Inquiry

end ConcurrentQueries
