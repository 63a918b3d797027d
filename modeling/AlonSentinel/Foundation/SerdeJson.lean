import Mathlib.Data.List.Defs

/-! JSON values and the way derived deserializers read them: a structure is read from an
object by field name or from an array by position, an absent optional field reads as null, and
an integer is accepted when it fits its machine type.
-/

namespace SerdeJson

/-- A number is kept as an integer or as a floating-point literal. -/
inductive Number where
  | integer (value : Int)
  | decimal (mantissa exponent : Int)
  deriving DecidableEq

inductive Value where
  | null
  | bool (value : Bool)
  | number (value : Number)
  | string (value : String)
  | array (items : List Value)
  | object (fields : List (String × Value))

namespace Value

/-- Writes an integer. -/
def ofInt (value : Int) : Value := .number (.integer value)

/-- Writes an optional value, `none` as null. -/
def ofOption {α : Type*} (write : α → Value) : Option α → Value
  | none => .null
  | some value => write value

/-- Reads an integer between two bounds; floating-point literals are refused. -/
def readInt (lower upper : Int) : Value → Option Int
  | .number (.integer value) => if lower ≤ value ∧ value ≤ upper then some value else none
  | _ => none

/-- Reads an `i32`. -/
def readI32 : Value → Option Int := readInt (-2147483648) 2147483647

/-- Reads an `i64`. -/
def readI64 : Value → Option Int := readInt (-9223372036854775808) 9223372036854775807

def readBool : Value → Option Bool
  | .bool value => some value
  | _ => none

def readString : Value → Option String
  | .string value => some value
  | _ => none

/-- Reads an optional value, null as `none`. -/
def readOption {α : Type*} (read : Value → Option α) : Value → Option (Option α)
  | .null => some none
  | value => (read value).map some

/-- Reads the name of a unit variant: a string, or an object with that one name and null. -/
def readVariant : Value → Option String
  | .string name => some name
  | .object [(name, .null)] => some name
  | _ => none

/-- The fields of a structure with the given names. An array must have exactly one item for
each name. -/
def structFields (names : List String) : Value → Option (String → Option Value)
  | .object fields => some fun name => fields.lookup name
  | .array items =>
      if items.length = names.length then some fun name => (names.zip items).lookup name
      else none
  | _ => none

/-- Reads a field that must be present. -/
def required {α : Type*} (read : Value → Option α) (source : String → Option Value)
    (name : String)
    : Option α :=
  (source name).bind read

/-- Reads an optional field, absent as `none`. -/
def optional {α : Type*} (read : Value → Option α) (source : String → Option Value)
    (name : String)
    : Option (Option α) :=
  match source name with
  | none => some none
  | some value => readOption read value

/-- Reads a field with a default. -/
def defaulted {α : Type*} (default : α) (read : Value → Option α)
    (source : String → Option Value) (name : String)
    : Option α :=
  match source name with
  | none => some default
  | some value => read value

end Value

end SerdeJson
