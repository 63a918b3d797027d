/-! Inverting computations that may fail: a sequence succeeds when each part does. -/

namespace Fallible

universe u v

variable {Error : Type u} {First Result : Type v}

theorem bind_eq_ok {first : Except Error First} {next : First → Except Error Result}
    {result : Result}
    : (first >>= next) = .ok result ↔ ∃ value, first = .ok value ∧ next value = .ok result := by
  cases first with
  | error error => exact ⟨nofun, fun ⟨_, isOk, _⟩ => nomatch isOk⟩
  | ok value =>
      constructor
      · exact fun isOk => ⟨value, rfl, isOk⟩
      · rintro ⟨_, ⟨⟩, isOk⟩
        exact isOk

theorem map_eq_ok {first : Except Error First} {next : First → Result} {result : Result}
    : first.map next = .ok result ↔ ∃ value, first = .ok value ∧ next value = result := by
  cases first with
  | error error => exact ⟨nofun, fun ⟨_, isOk, _⟩ => nomatch isOk⟩
  | ok value =>
      constructor
      · exact fun isOk => ⟨value, rfl, Except.ok.inj isOk⟩
      · rintro ⟨_, ⟨⟩, rfl⟩
        rfl

theorem toOption_eq_some {first : Except Error First} {value : First}
    : first.toOption = some value ↔ first = .ok value := by
  cases first with
  | error error => exact ⟨nofun, nofun⟩
  | ok stored =>
      exact ⟨fun same => congrArg _ (Option.some.inj same), fun same => by rw [same]; rfl⟩

/-- A value that is there is the one of the computation. -/
theorem eq_ok_get {first : Except Error First} (isOk : first.toOption.isSome = true)
    : first = .ok (first.toOption.get isOk) := by
  cases first with
  | error error => cases isOk
  | ok value => rfl

/-- What a test finds out about a result that is there. -/
theorem exists_of_any_toOption {first : Except Error First} {test : First → Bool}
    (passed : first.toOption.any test = true)
    : ∃ value, first = .ok value ∧ test value = true := by
  cases first with
  | error error => cases passed
  | ok value => exact ⟨value, rfl, passed⟩

section Lists

variable {State : Type u} {Item : Type v} {step : State → Item → Except Error State}
  {items : List Item}

/-- A fold goes on as long as each step keeps what the next one needs, by induction over the items.
-/
theorem foldlM_ok {property : State → Prop} {state : State}
    (progress
      : ∀ state,
          property state → ∀ item ∈ items, ∃ after, step state item = .ok after ∧ property after)
    (holds : property state)
    : ∃ after, items.foldlM step state = .ok after ∧ property after := by
  induction items generalizing state with
  | nil => exact ⟨state, rfl, holds⟩
  | cons item rest ih =>
      obtain ⟨middle, stepped, kept⟩ := progress state holds item List.mem_cons_self
      obtain ⟨after, folded, done⟩ :=
        ih (fun state holds item member => progress state holds item (.tail _ member)) kept
      exact ⟨after, by rw [List.foldlM_cons, stepped]; exact folded, done⟩

/-- A list of results is as long as the list they come from. -/
theorem length_of_mapM {convert : Item → Except Error State} {results : List State}
    (converted : items.mapM convert = .ok results)
    : results.length = items.length := by
  induction items generalizing results with
  | nil =>
      cases converted
      rfl
  | cons item rest ih =>
      rw [List.mapM_cons] at converted
      obtain ⟨value, _, later⟩ := bind_eq_ok.mp converted
      obtain ⟨values, isRest, same⟩ := bind_eq_ok.mp later
      cases same
      exact congrArg (· + 1) (ih isRest)

end Lists

/-- A property of the result, whenever there is one. -/
def Ensures (computation : Except Error Result) (property : Result → Prop) : Prop :=
  ∀ result, computation = .ok result → property result

theorem Ensures.bind {first : Except Error First} {next : First → Except Error Result}
    {property : Result → Prop}
    (later : ∀ value, first = .ok value → Ensures (next value) property)
    : Ensures (first >>= next) property := by
  intro result isOk
  obtain ⟨value, done, rest⟩ := bind_eq_ok.mp isOk
  exact later value done result rest

theorem Ensures.pure {result : Result} {property : Result → Prop} (holds : property result)
    : Ensures (Pure.pure result : Except Error Result) property := by
  rintro _ ⟨⟩
  exact holds

end Fallible
