import Mathlib.Data.List.DropRight
import Mathlib.Data.List.Infix

/-! Text: trimming it of white space, as Unicode defines it, finding a part of it, and printing it
with escapes.
-/

namespace UnicodeText

/-- The characters with the property `White_Space`. -/
def isWhitespace (char : Char) : Bool :=
  let code := char.toNat
  (9 ≤ code && code ≤ 13) || code = 0x20 || code = 0x85 || code = 0xA0 || code = 0x1680
    || (0x2000 ≤ code && code ≤ 0x200A) || code = 0x2028 || code = 0x2029 || code = 0x202F
    || code = 0x205F || code = 0x3000

/-- The characters between leading and trailing white space. -/
def trimChars (chars : List Char) : List Char :=
  (chars.dropWhile isWhitespace).rdropWhile isWhitespace

/-- A text without its leading and trailing white space. -/
def trim (text : String) : String := .ofList (trimChars text.toList)

/-- `str::contains` of a part. -/
def contains (text part : String) : Bool := decide (part.toList <:+: text.toList)

/-- A character in the `Debug` form of a text. Those that Unicode has as grapheme extenders or as
not printable are written by their code.
-/
def escapeDebug (isUnprintable : Char → Bool) (char : Char) : List Char :=
  if char = '"' || char = '\\' then ['\\', char]
  else if char = '\t' then "\\t".toList
  else if char = '\r' then "\\r".toList
  else if char = '\n' then "\\n".toList
  else if char = '\x00' then "\\0".toList
  else if isUnprintable char then
    "\\u\x7b".toList ++ Nat.toDigits 16 char.toNat ++ "\x7d".toList
  else [char]

/-- The `Debug` form of a text. -/
def debug (isUnprintable : Char → Bool) (text : String) : String :=
  .ofList ('"' :: text.toList.flatMap (escapeDebug isUnprintable) ++ ['"'])

/-- Leading white space does not matter. -/
theorem trimChars_cons {char : Char} {chars : List Char} (blank : isWhitespace char = true)
    : trimChars (char :: chars) = trimChars chars := by
  rw [trimChars, List.dropWhile_cons_of_pos blank, trimChars]

/-- Characters are trimmed already exactly if they neither begin nor end with white space. -/
theorem trimChars_eq_self_iff {chars : List Char}
    : trimChars chars = chars
      ↔ (∀ first ∈ chars.head?, isWhitespace first = false)
        ∧ ∀ last ∈ chars.getLast?, isWhitespace last = false := by
  have front
      : chars.dropWhile isWhitespace = chars
        ↔ ∀ first ∈ chars.head?, isWhitespace first = false := by
    cases chars with
    | nil => simp
    | cons first rest => simp [List.dropWhile_eq_self_iff]
  have back
      : chars.rdropWhile isWhitespace = chars
        ↔ ∀ last ∈ chars.getLast?, isWhitespace last = false := by
    rcases List.eq_nil_or_concat chars with rfl | ⟨before, last, rfl⟩
    · simp
    · simp [List.rdropWhile_eq_self_iff]
  rw [← front, ← back]
  constructor
  · intro same
    have kept : chars.dropWhile isWhitespace = chars := by
      have shorter
          : (trimChars chars).length ≤ (chars.dropWhile isWhitespace).length :=
        (List.rdropWhile_prefix isWhitespace _).length_le
      rw [same] at shorter
      exact (List.dropWhile_suffix isWhitespace).eq_of_length_le shorter
    rw [trimChars, kept] at same
    exact ⟨kept, same⟩
  · rintro ⟨kept, keptBack⟩
    rw [trimChars, kept, keptBack]

/-- Characters without white space stay as they are. -/
theorem trimChars_eq_self {chars : List Char}
    (plain : ∀ char ∈ chars, isWhitespace char = false)
    : trimChars chars = chars := by
  rw [trimChars_eq_self_iff]
  exact ⟨fun first isFirst => plain first (List.mem_of_mem_head? isFirst),
    fun last isLast => plain last (List.mem_of_getLast? isLast)⟩

/-- Trimmed characters stay as they are. -/
theorem trimChars_trimChars (chars : List Char)
    : trimChars (trimChars chars) = trimChars chars := by
  have front : (trimChars chars).dropWhile isWhitespace = trimChars chars := by
    rw [List.dropWhile_eq_self_iff]
    intro nonempty blank
    have front := List.rdropWhile_prefix isWhitespace (l := chars.dropWhile isWhitespace)
    refine List.dropWhile_get_zero_not isWhitespace chars (nonempty.trans_le front.length_le) ?_
    rw [List.get_eq_getElem, ← front.getElem nonempty]
    exact blank
  calc trimChars (trimChars chars)
      = ((trimChars chars).dropWhile isWhitespace).rdropWhile isWhitespace := rfl
    _ = (trimChars chars).rdropWhile isWhitespace := by rw [front]
    _ = trimChars chars := List.rdropWhile_idempotent _ _

theorem trim_trim (text : String) : trim (trim text) = trim text := by
  simp only [trim, String.toList_ofList, trimChars_trimChars]

/-- An ASCII text has as many bytes as characters, by induction over the characters. -/
theorem utf8ByteSize_ofList {chars : List Char} (isAscii : ∀ char ∈ chars, char.toNat < 128)
    : (String.ofList chars).utf8ByteSize = chars.length := by
  induction chars with
  | nil => rfl
  | cons char rest ih =>
      obtain ⟨first, later⟩ := List.forall_mem_cons.mp isAscii
      have oneByte : char.utf8Size = 1 := by
        have small : char.val ≤ 127 := UInt32.le_iff_toNat_le.mpr (Nat.le_of_lt_succ first)
        simp [Char.utf8Size, small]
      have parts : String.ofList (char :: rest) = String.singleton char ++ String.ofList rest := by
        rw [← String.toList_inj]
        simp
      rw [parts, String.utf8ByteSize_append, String.utf8ByteSize_singleton, oneByte, ih later,
        List.length_cons, Nat.add_comm]

end UnicodeText
