import Mathlib.Algebra.Order.Group.Int

/-! Integers as text: printed in decimal, and read back with an optional sign when they fit a
machine type.
-/

namespace IntegerText

/-- Reads a nonempty run of decimal digits. -/
def readDigits (digits : List Char) : Option Nat :=
  if digits ≠ [] ∧ digits.all Char.isDigit then some (Nat.ofDigitChars 10 digits 0) else none

/-- Reads decimal digits behind an optional sign, as a value between two bounds. -/
def readInt (lower upper : Int) (text : String) : Option Int :=
  let value :=
    match text.toList with
    | '-' :: digits => (readDigits digits).map fun magnitude => -(magnitude : Int)
    | '+' :: digits => (readDigits digits).map Int.ofNat
    | digits => (readDigits digits).map Int.ofNat
  value.filter fun value => lower ≤ value ∧ value ≤ upper

/-- The bounds of an `i64`. -/
def IsI64 (value : Int) : Prop :=
  -9223372036854775808 ≤ value ∧ value ≤ 9223372036854775807

/-- Reads an `i64`. -/
def readI64 : String → Option Int := readInt (-9223372036854775808) 9223372036854775807

/-- Why a text is no unsigned integer. -/
inductive ParseIntError where
  | empty
  | invalidDigit
  | posOverflow
  deriving DecidableEq

/-- Reads further digits of a value up to a bound; the first digit that does not fit decides. -/
def parseDigits (upper : Nat) : Nat → List Char → Except ParseIntError Nat
  | value, [] => .ok value
  | value, digit :: rest =>
      if !digit.isDigit then .error .invalidDigit
      else
        let extended := value * 10 + (digit.toNat - '0'.toNat)
        if upper < extended then .error .posOverflow else parseDigits upper extended rest

/-- Reads an unsigned integer up to a bound, behind an optional plus sign. -/
def parseUnsigned (upper : Nat) (text : String) : Except ParseIntError Nat :=
  match text.toList with
  | [] => .error .empty
  | ['+'] => .error .invalidDigit
  | '+' :: digits => parseDigits upper 0 digits
  | digits => parseDigits upper 0 digits

theorem all_isDigit_toDigits (magnitude : Nat)
    : (Nat.toDigits 10 magnitude).all Char.isDigit = true := by
  apply List.all_eq_true.mpr
  intro digit member
  exact Nat.isDigit_of_mem_toDigits (by decide) (by decide) member

/-- The digits of a number are read as that number. -/
theorem readDigits_toDigits (magnitude : Nat)
    : readDigits (Nat.toDigits 10 magnitude) = some magnitude := by
  rw [readDigits, if_pos ⟨Nat.toDigits_ne_nil, all_isDigit_toDigits magnitude⟩,
    Nat.ofDigitChars_ten_toDigits]

/-- A digit is no sign, so the first character of a number is none. -/
theorem head_toDigits (magnitude : Nat)
    : ∃ first rest,
        Nat.toDigits 10 magnitude = first :: rest ∧ first ≠ '-' ∧ first ≠ '+' := by
  have nonempty : Nat.toDigits 10 magnitude ≠ [] := Nat.toDigits_ne_nil
  obtain ⟨first, rest, same⟩ := List.exists_cons_of_ne_nil nonempty
  have digit : first.isDigit = true :=
    Nat.isDigit_of_mem_toDigits (by decide) (by decide) (same ▸ List.mem_cons_self)
  refine ⟨first, rest, same, ?_, ?_⟩ <;>
  · rintro rfl
    revert digit
    decide

theorem toList_ofNat (magnitude : Nat)
    : (toString (Int.ofNat magnitude)).toList = Nat.toDigits 10 magnitude :=
  Nat.toList_repr

theorem toList_negSucc (predecessor : Nat)
    : (toString (Int.negSucc predecessor)).toList = '-' :: Nat.toDigits 10 (predecessor + 1) := by
  show ("-" ++ Nat.repr (predecessor + 1)).toList = _
  rw [String.toList_append, Nat.toList_repr]
  rfl

/-- A printed integer in range is read back. -/
theorem readInt_toString {lower upper value : Int} (atLeast : lower ≤ value)
    (atMost : value ≤ upper)
    : readInt lower upper (toString value) = some value := by
  have kept : (some value).filter (fun value => lower ≤ value ∧ value ≤ upper) = some value := by
    simp [atLeast, atMost]
  cases value with
  | ofNat magnitude =>
      obtain ⟨first, rest, digits, noMinus, noPlus⟩ := head_toDigits magnitude
      have read := readDigits_toDigits magnitude
      rw [digits] at read
      rw [readInt, toList_ofNat, digits]
      split
      · exact absurd (List.cons.inj ‹_›).1 noMinus
      · exact absurd (List.cons.inj ‹_›).1 noPlus
      · rw [read]
        exact kept
  | negSucc predecessor =>
      rw [readInt, toList_negSucc]
      simp only [readDigits_toDigits]
      exact kept

/-- Different integers are printed differently. -/
theorem toString_inj {value other : Int} (same : toString value = toString other)
    : value = other := by
  have isValue := readInt_toString (min_le_left value other) (le_max_left value other)
  have isOther := readInt_toString (min_le_right value other) (le_max_right value other)
  rw [same, isOther] at isValue
  exact (Option.some.inj isValue).symm

/-- A printed integer has a sign and digits. -/
theorem mem_toString {value : Int} {char : Char} (member : char ∈ (toString value).toList)
    : char = '-' ∨ char.isDigit = true := by
  have digit (magnitude : Nat) (isIn : char ∈ Nat.toDigits 10 magnitude) : char.isDigit = true :=
    Nat.isDigit_of_mem_toDigits (by decide) (by decide) isIn
  cases value with
  | ofNat magnitude =>
      exact .inr (digit magnitude (toList_ofNat magnitude ▸ member))
  | negSucc predecessor =>
      rw [toList_negSucc] at member
      rcases List.mem_cons.mp member with minus | isIn
      · exact .inl minus
      · exact .inr (digit _ isIn)

/-- Further digits only make a value greater, by induction over them. -/
theorem le_ofDigitChars (value : Nat) (digits : List Char)
    : value ≤ Nat.ofDigitChars 10 digits value := by
  induction digits generalizing value with
  | nil => simp
  | cons digit rest ih =>
      rw [Nat.ofDigitChars_cons]
      exact le_trans (by omega) (ih _)

/-- Digits are read as their value exactly if they all are digits and it is within the bound, by
induction over them.
-/
theorem parseDigits_eq_ok {upper value number : Nat} {digits : List Char} (within : value ≤ upper)
    : parseDigits upper value digits = .ok number
      ↔ digits.all Char.isDigit = true
        ∧ Nat.ofDigitChars 10 digits value = number
        ∧ number ≤ upper := by
  induction digits generalizing value with
  | nil =>
      rw [parseDigits, Except.ok.injEq, Nat.ofDigitChars_nil]
      constructor
      · rintro rfl
        exact ⟨rfl, rfl, within⟩
      · exact fun all => all.2.1
  | cons digit rest ih =>
      rw [Nat.ofDigitChars_cons, List.all_cons, parseDigits]
      cases isDigit : digit.isDigit with
      | false => simp
      | true =>
          have extended
              : value * 10 + (digit.toNat - '0'.toNat)
                = 10 * value + (digit.toNat - '0'.toNat) := by
            omega
          simp only [Bool.not_true, Bool.false_eq_true, if_false, Bool.true_and, extended]
          split
          · rename_i tooGreat
            have greater := le_ofDigitChars (10 * value + (digit.toNat - '0'.toNat)) rest
            simp only [reduceCtorEq, false_iff, not_and]
            omega
          · rename_i fits
            exact ih (by omega)

/-- A text of digits has no sign to read. -/
theorem parseUnsigned_ofList {upper : Nat} {digits : List Char} (nonempty : digits ≠ [])
    (allDigits : digits.all Char.isDigit = true)
    : parseUnsigned upper (.ofList digits) = parseDigits upper 0 digits := by
  obtain ⟨digit, rest, rfl⟩ := List.exists_cons_of_ne_nil nonempty
  have isDigit : digit.isDigit = true := List.all_eq_true.mp allDigits digit List.mem_cons_self
  have notPlus : digit ≠ '+' := by
    rintro rfl
    cases isDigit
  unfold parseUnsigned
  rw [String.toList_ofList]
  split
  · rename_i same
    cases same
  · rename_i same
    exact absurd (List.cons.inj same).1 notPlus
  · rename_i same
    exact absurd (List.cons.inj same).1 notPlus
  · rfl

/-- A printed number within the bound is read back. -/
theorem parseUnsigned_toDigits {upper number : Nat} (within : number ≤ upper)
    : parseUnsigned upper (.ofList (Nat.toDigits 10 number)) = .ok number := by
  rw [parseUnsigned_ofList Nat.toDigits_ne_nil (all_isDigit_toDigits number),
    parseDigits_eq_ok (Nat.zero_le upper)]
  exact ⟨all_isDigit_toDigits number, Nat.ofDigitChars_ten_toDigits, within⟩

end IntegerText
