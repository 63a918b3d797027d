import Mathlib.Data.List.Basic
import Mathlib.Logic.Function.Basic

/-! Machines that answer one input after the other, with a copy of the machine for every key. A copy
has no state before its first input. Its state may be forgotten once no later input can tell the
difference.
-/

namespace KeyedAutomata

variable {World Abstract State Input Output Key : Type*}

/-- What is answered to the inputs, one after the other. -/
def transcript (step : World → Input → Output × World) : World → List Input → List (Input × Output)
  | _, [] => []
  | world, input :: rest =>
      (input, (step world input).1) :: transcript step (step world input).2 rest

/-- Where the inputs lead. -/
def final (step : World → Input → Output × World) (world : World) (inputs : List Input) : World :=
  inputs.foldl (fun world input => (step world input).2) world

/-- A machine that may have no state yet. -/
abbrev Machine (State Input Output : Type*) := Option State → Input → Output × State

/-- One copy of a machine. -/
def alone (machine : Machine State Input Output) (state : Option State) (input : Input)
    : Output × Option State :=
  (machine state input).map id some

/-- A copy of a machine for every key. An input goes to the copy of its key. -/
def each [DecidableEq Key] (machine : Machine State Input Output) (keyOf : Input → Key)
    (states : Key → Option State) (input : Input)
    : Output × (Key → Option State) :=
  (machine (states (keyOf input)) input).map id
    fun state => Function.update states (keyOf input) (some state)

------------------------------------------------------------
-- Transcripts
------------------------------------------------------------

section Transcript

variable {step : World → Input → Output × World} {world : World} {inputs : List Input}

theorem transcript_append (more : List Input)
    : transcript step world (inputs ++ more)
      = transcript step world inputs ++ transcript step (final step world inputs) more := by
  induction inputs generalizing world with
  | nil => rfl
  | cons input rest ih => exact congrArg _ ih

/-- The inputs of a transcript are those that were given, by induction over them. -/
@[simp] theorem map_fst_transcript : (transcript step world inputs).map Prod.fst = inputs := by
  induction inputs generalizing world with
  | nil => rfl
  | cons input rest ih => exact congrArg _ ih

@[simp] theorem length_transcript : (transcript step world inputs).length = inputs.length := by
  rw [← List.length_map Prod.fst, map_fst_transcript]

/-- A transcript splits where its inputs do. -/
theorem transcript_split {before after : List (Input × Output)} {entry : Input × Output}
    (splits : transcript step world inputs = before ++ entry :: after)
    : inputs = before.map Prod.fst ++ entry.1 :: after.map Prod.fst
      ∧ before = transcript step world (before.map Prod.fst)
      ∧ (step (final step world (before.map Prod.fst)) entry.1).1 = entry.2
      ∧ after
        = transcript step (step (final step world (before.map Prod.fst)) entry.1).2
            (after.map Prod.fst) := by
  have isInputs := congrArg (List.map Prod.fst) splits
  rw [map_fst_transcript, List.map_append, List.map_cons] at isInputs
  have parts := splits
  rw [isInputs, transcript_append] at parts
  obtain ⟨isBefore, isRest⟩ := List.append_inj parts.symm (by simp)
  obtain ⟨isEntry, isAfter⟩ := List.cons_eq_cons.mp isRest
  exact ⟨isInputs, isBefore, (congrArg Prod.snd isEntry).symm, isAfter⟩

/-- A simulation gives equal transcripts. The relation may look ahead at the inputs still to come.
Witness: induction over the inputs.
-/
theorem transcript_eq_of_simulation {abstractStep : Abstract → Input → Output × Abstract}
    (related : World → Abstract → List Input → Prop)
    (simulates
      : ∀ world state input rest,
          related world state (input :: rest)
          → (step world input).1 = (abstractStep state input).1
            ∧ related (step world input).2 (abstractStep state input).2 rest)
    {state : Abstract} (start : related world state inputs)
    : transcript step world inputs = transcript abstractStep state inputs := by
  induction inputs generalizing world state with
  | nil => rfl
  | cons input rest ih =>
      obtain ⟨same, later⟩ := simulates world state input rest start
      simp only [transcript, same, ih later]

end Transcript

------------------------------------------------------------
-- Forgotten states
------------------------------------------------------------

section Forgotten

variable {machine : Machine State Input Output} {kept states : Key → Option State}
  {inputs : List Input}

/-- A state that acts on these inputs as none does. -/
def Forgettable (machine : Machine State Input Output) (inputs : List Input) (state : State)
    : Prop :=
  ∀ input ∈ inputs, machine (some state) input = machine none input

/-- States are kept or have been forgotten, which these inputs cannot tell. -/
def Forgets (machine : Machine State Input Output) (kept states : Key → Option State)
    (inputs : List Input)
    : Prop :=
  ∀ key,
    kept key = states key
    ∨ kept key = none ∧ ∃ state, states key = some state ∧ Forgettable machine inputs state

theorem Forgets.refl : Forgets machine states states inputs := fun _ => .inl rfl

/-- More states are forgotten. -/
theorem Forgets.filter (forgets : Forgets machine kept states inputs) (keeps : Key → State → Bool)
    (forgettable
      : ∀ key state, states key = some state → keeps key state = false
          → Forgettable machine inputs state)
    : Forgets machine (fun key => (kept key).filter (keeps key)) states inputs := by
  intro key
  rcases forgets key with same | ⟨forgotten, state, isState, isForgettable⟩
  · cases found : states key with
    | none => exact .inl (by simp [same, found])
    | some state =>
        cases isKept : keeps key state with
        | true => exact .inl (by simp [same, found, Option.filter, isKept])
        | false =>
            refine .inr ⟨by simp [same, found, Option.filter, isKept], state, rfl, ?_⟩
            exact forgettable key state found isKept
  · exact .inr ⟨by simp [forgotten], state, isState, isForgettable⟩

end Forgotten

------------------------------------------------------------
-- Copies of a machine
------------------------------------------------------------

section Copies

variable [DecidableEq Key] {machine : Machine State Input Output} {keyOf : Input → Key}
  {states kept : Key → Option State} {input : Input} {inputs rest : List Input}

theorem each_fst : (each machine keyOf states input).1 = (machine (states (keyOf input)) input).1 :=
  rfl

theorem each_snd
    : (each machine keyOf states input).2
      = Function.update states (keyOf input) (some (machine (states (keyOf input)) input).2) :=
  rfl

theorem alone_fst {state : Option State}
    : (alone machine state input).1 = (machine state input).1 :=
  rfl

/-- A key is answered as by a machine of its own that gets the inputs of that key. Witness:
induction over the inputs.
-/
theorem filter_transcript_each (key : Key)
    : (transcript (each machine keyOf) states inputs).filter (fun entry => keyOf entry.1 = key)
      = transcript (alone machine) (states key) (inputs.filter fun input => keyOf input = key) := by
  induction inputs generalizing states with
  | nil => rfl
  | cons input rest ih =>
      rw [transcript, List.filter_cons, List.filter_cons, ih, each_snd]
      by_cases isKey : keyOf input = key
      · subst isKey
        simp only [decide_true, if_true, Function.update_self]
        rfl
      · simp only [isKey, decide_false, Bool.false_eq_true, if_false]
        rw [Function.update_of_ne (Ne.symm isKey)]

/-- The inputs of other keys change none of the answers to a key. -/
theorem transcript_each_filter (key : Key)
    : transcript (each machine keyOf) states (inputs.filter fun input => keyOf input = key)
      = (transcript (each machine keyOf) states inputs).filter
          fun entry => keyOf entry.1 = key := by
  have own
      : ∀ entry ∈ transcript (each machine keyOf) states
          (inputs.filter fun input => keyOf input = key), keyOf entry.1 = key := by
    intro entry member
    have isInput := List.mem_map_of_mem (f := Prod.fst) member
    rw [map_fst_transcript] at isInput
    exact of_decide_eq_true (List.mem_filter.mp isInput).2
  rw [← List.filter_eq_self.mpr fun entry member => decide_eq_true (own entry member),
    filter_transcript_each, filter_transcript_each, List.filter_filter]
  simp only [Bool.and_self]

/-- An input is answered the same with what is kept, and still forgets nothing that counts. -/
theorem Forgets.each (keyOf : Input → Key)
    (forgets : Forgets machine kept states (input :: rest))
    : (each machine keyOf kept input).1 = (each machine keyOf states input).1
      ∧ Forgets machine (KeyedAutomata.each machine keyOf kept input).2
          (KeyedAutomata.each machine keyOf states input).2 rest := by
  have same : machine (kept (keyOf input)) input = machine (states (keyOf input)) input := by
    rcases forgets (keyOf input) with kept | ⟨forgotten, state, isState, forgettable⟩
    · rw [kept]
    · rw [forgotten, isState, forgettable input List.mem_cons_self]
  refine ⟨?_, fun key => ?_⟩
  · rw [each_fst, each_fst, same]
  rw [each_snd, each_snd, same]
  by_cases isKey : key = keyOf input
  · subst isKey
    exact .inl (by rw [Function.update_self, Function.update_self])
  · rw [Function.update_of_ne isKey, Function.update_of_ne isKey]
    rcases forgets key with kept | ⟨forgotten, state, isState, forgettable⟩
    · exact .inl kept
    · refine .inr ⟨forgotten, state, isState, fun input member => ?_⟩
      exact forgettable input (List.mem_cons_of_mem _ member)

end Copies

end KeyedAutomata
