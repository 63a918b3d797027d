import AlonSentinel.Api.Error
import AlonSentinel.Domain.Models
import AlonSentinel.Foundation.IntegerText

/-! Limits and cursors of the listings. `chrono` prints and reads the timestamps of cursors; it
is a parameter here.
-/

namespace AlonSentinel.Api

open Domain
open IntegerText

/-- A value between one and `max`, `default` where none is given. -/
def boundedLimit (value : Option Nat) (default max : Nat) (fieldName : String)
    : Except ApiError Nat :=
  let limit := value.getD default
  if limit = 0 then .error (.badRequest s!"{fieldName} must be greater than 0")
  else if max < limit then
    .error (.badRequest s!"{fieldName} must be less than or equal to {max}")
  else .ok limit

def historyLimit (limit : Option Nat) : Except ApiError Nat := boundedLimit limit 50 200 "limit"
def checksLimit (limit : Option Nat) : Except ApiError Nat := boundedLimit limit 500 2000 "limit"
def sitesLimit (limit : Option Nat) : Except ApiError Nat := boundedLimit limit 10 100 "limit"

/-- One row more than the page shows, to see whether there is a next page; a `usize` saturates. -/
def pageFetchLimit (limit : Nat) : Nat := min (limit + 1) 18446744073709551615

/-- Cuts fetched rows to a page, with a cursor at its last row if rows were cut off. -/
def paginateVecWithCursor {Row : Type} (items : List Row) (limit : Nat)
    (cursorFn : Row → String)
    : List Row × Option String :=
  if limit < items.length then (items.take limit, items[limit - 1]?.map cursorFn)
  else (items, none)

/-- How `chrono` prints a timestamp in RFC 3339 and reads one. -/
structure Rfc3339 where
  toRfc3339 : Timestamp → String
  parseFromRfc3339 : String → Option Timestamp

/-- The instants of the years 0 to 9999. -/
def InYears0To9999 (instant : Timestamp) : Prop :=
  -62167219200000000 ≤ instant ∧ instant < 253402300800000000

/-- Printer and parser are inverse in the years that RFC 3339 covers; its texts have no comma. -/
structure Rfc3339.Lawful (chrono : Rfc3339) : Prop where
  inverse
    : ∀ instant,
        InYears0To9999 instant
        → chrono.parseFromRfc3339 (chrono.toRfc3339 instant) = some instant
  noComma : ∀ instant, InYears0To9999 instant → ',' ∉ (chrono.toRfc3339 instant).toList

/-- The place in a listing behind which the next page starts. -/
structure CursorToken where
  timestamp : Timestamp
  id : Int
  deriving DecidableEq

def encodeCursor (chrono : Rfc3339) (token : CursorToken) : String :=
  chrono.toRfc3339 token.timestamp ++ "," ++ toString token.id

/-- The texts before and after the first occurrence of a character. -/
def splitOnce (text : String) (separator : Char) : Option (String × String) :=
  match text.toList.dropWhile (· ≠ separator) with
  | [] => none
  | _ :: after => some (.ofList (text.toList.takeWhile (· ≠ separator)), .ofList after)

def parseCursor (chrono : Rfc3339) : Option String → Except ApiError (Option CursorToken)
  | none => .ok none
  | some cursor =>
      match splitOnce cursor ',' with
      | none => .error (.badRequest "cursor must be in '<timestamp>,<id>' format")
      | some (timestamp, id) =>
          match chrono.parseFromRfc3339 timestamp with
          | none => .error (.badRequest "cursor timestamp must be RFC 3339")
          | some timestamp =>
              match readI64 id with
              | none => .error (.badRequest "cursor id must be an integer")
              | some id => .ok (some { timestamp, id })

/-- A character that does not occur in a text splits it off what follows. -/
theorem splitOnce_append {before after : String} {separator : Char}
    (absent : separator ∉ before.toList)
    : splitOnce (before ++ String.ofList [separator] ++ after) separator
      = some (before, after) := by
  have others : ∀ char ∈ before.toList, decide (char ≠ separator) = true := by
    rintro char member
    exact decide_eq_true fun same => absent (same ▸ member)
  have text
      : (before ++ String.ofList [separator] ++ after).toList
        = before.toList ++ separator :: after.toList := by
    simp
  rw [splitOnce, text, List.takeWhile_append_of_pos others, List.dropWhile_append_of_pos others]
  simp

/-- A cursor is read back as it was written. -/
theorem parseCursor_encodeCursor {chrono : Rfc3339} (lawful : chrono.Lawful) {token : CursorToken}
    (years : InYears0To9999 token.timestamp) (i64 : IsI64 token.id)
    : parseCursor chrono (some (encodeCursor chrono token)) = .ok (some token) := by
  have split : splitOnce (encodeCursor chrono token) ','
      = some (chrono.toRfc3339 token.timestamp, toString token.id) :=
    splitOnce_append (lawful.noComma token.timestamp years)
  have id : readI64 (toString token.id) = some token.id := readInt_toString i64.1 i64.2
  simp only [parseCursor, split, lawful.inverse token.timestamp years, id]

/-- An accepted limit is positive, and far from the range of its type. -/
theorem boundedLimit_ok {value : Option Nat} {default max limit : Nat} {fieldName : String}
    (accepted : boundedLimit value default max fieldName = .ok limit)
    : 0 < limit ∧ limit ≤ max := by
  unfold boundedLimit at accepted
  simp only at accepted
  split at accepted
  · cases accepted
  · split at accepted
    · cases accepted
    · cases accepted
      omega

/-- A page shows fetched rows only. -/
theorem paginateVecWithCursor_subset {Row : Type} {items : List Row} {limit : Nat}
    {cursorFn : Row → String}
    : (paginateVecWithCursor items limit cursorFn).1 ⊆ items := by
  unfold paginateVecWithCursor
  split
  · exact List.take_subset limit items
  · exact List.Subset.refl items

/-- Where a page is cut from one row more than it shows, it shows the first rows of all, with a
cursor if there are more.
-/
theorem paginateVecWithCursor_take {Row : Type} {rows : List Row} {limit fetched : Nat}
    {cursorFn : Row → String} (positive : 0 < limit) (oneMore : fetched = limit + 1)
    : paginateVecWithCursor (rows.take fetched) limit cursorFn
      = (rows.take limit,
          if limit < rows.length then rows[limit - 1]?.map cursorFn else none) := by
  subst oneMore
  unfold paginateVecWithCursor
  by_cases more : limit < rows.length
  · have longer : limit < (rows.take (limit + 1)).length := by
      rw [List.length_take]
      omega
    have index : (rows.take (limit + 1))[limit - 1]? = rows[limit - 1]? :=
      List.getElem?_take_of_lt (by omega)
    rw [if_pos longer, if_pos more, index, List.take_take, Nat.min_eq_left (Nat.le_succ limit)]
  · have all : rows.take (limit + 1) = rows := List.take_of_length_le (by omega)
    rw [all, if_neg more, if_neg more, List.take_of_length_le (Nat.le_of_not_lt more)]

end AlonSentinel.Api
