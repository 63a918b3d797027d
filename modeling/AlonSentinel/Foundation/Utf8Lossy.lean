import Mathlib.Data.List.Defs

/-! Bytes as text, where each longest part of an ill-formed sequence becomes one replacement
character.
-/

namespace Utf8Lossy

def replacement : Char := '\uFFFD'

/-- A sequence that has begun: the bits read so far, how many bytes are missing, and the range of
the next one.
-/
structure Pending where
  bits : Nat
  missing : Nat
  low : UInt8
  high : UInt8
  deriving DecidableEq

/-- What a byte leads to: the characters it completes, and the sequence left open. -/
abbrev Decoded := List Char × Option Pending

/-- Opens a sequence of further bytes. -/
def opens (bits missing : Nat) (low high : UInt8) : Decoded := ([], some ⟨bits, missing, low, high⟩)

/-- A byte between two characters. -/
def first (byte : UInt8) : Decoded :=
  if byte < 0x80 then ([Char.ofNat byte.toNat], none)
  else if 0xC2 ≤ byte ∧ byte ≤ 0xDF then opens (byte.toNat - 0xC0) 1 0x80 0xBF
  else if byte = 0xE0 then opens 0 2 0xA0 0xBF
  else if 0xE1 ≤ byte ∧ byte ≤ 0xEC then opens (byte.toNat - 0xE0) 2 0x80 0xBF
  else if byte = 0xED then opens 0xD 2 0x80 0x9F
  else if 0xEE ≤ byte ∧ byte ≤ 0xEF then opens (byte.toNat - 0xE0) 2 0x80 0xBF
  else if byte = 0xF0 then opens 0 3 0x90 0xBF
  else if 0xF1 ≤ byte ∧ byte ≤ 0xF3 then opens (byte.toNat - 0xF0) 3 0x80 0xBF
  else if byte = 0xF4 then opens 4 3 0x80 0x8F
  else ([replacement], none)

/-- A byte inside of a sequence. One that does not continue it begins anew. -/
def next (pending : Pending) (byte : UInt8) : Decoded :=
  if pending.low ≤ byte ∧ byte ≤ pending.high then
    let bits := pending.bits * 64 + (byte.toNat - 0x80)
    if pending.missing = 1 then ([Char.ofNat bits], none)
    else opens bits (pending.missing - 1) 0x80 0xBF
  else
    let (chars, opened) := first byte
    (replacement :: chars, opened)

def step : Option Pending → UInt8 → Decoded
  | none => first
  | some pending => next pending

def decodeFrom : Option Pending → List UInt8 → List Char
  | none, [] => []
  | some _, [] => [replacement]
  | pending, byte :: rest =>
      let (chars, opened) := step pending byte
      chars ++ decodeFrom opened rest

/-- `String::from_utf8_lossy`. -/
def decode (bytes : List UInt8) : String := .ofList (decodeFrom none bytes)

/-- The UTF-8 bytes of a text. -/
def encode (text : String) : List UInt8 := text.toList.flatMap String.utf8EncodeChar

------------------------------------------------------------
-- Decoding what was encoded
------------------------------------------------------------

theorem toNat_byte {value : Nat} (small : value < 256) : (UInt8.ofNat value).toNat = value :=
  UInt8.toNat_ofNat_of_lt' small

theorem next_continues {pending : Pending} {payload : Nat} (small : payload < 64)
    (low : pending.low.toNat ≤ payload + 0x80) (high : payload + 0x80 ≤ pending.high.toNat)
    : next pending (.ofNat (payload + 0x80))
      = if pending.missing = 1 then ([Char.ofNat (pending.bits * 64 + payload)], none)
        else opens (pending.bits * 64 + payload) (pending.missing - 1) 0x80 0xBF := by
  have value : (UInt8.ofNat (payload + 0x80)).toNat = payload + 0x80 := toNat_byte (by omega)
  have inRange
      : pending.low ≤ UInt8.ofNat (payload + 0x80)
        ∧ UInt8.ofNat (payload + 0x80) ≤ pending.high := by
    rw [UInt8.le_iff_toNat_le, UInt8.le_iff_toNat_le, value]
    exact ⟨low, high⟩
  simp only [next, if_pos inRange, value, Nat.add_sub_cancel]

/-- What a byte between two characters leads to, by its value. -/
theorem first_ofNat {value : Nat} (small : value < 256)
    : first (.ofNat value)
      = if value < 0x80 then ([Char.ofNat value], none)
        else if 0xC2 ≤ value ∧ value ≤ 0xDF then opens (value - 0xC0) 1 0x80 0xBF
        else if value = 0xE0 then opens 0 2 0xA0 0xBF
        else if 0xE1 ≤ value ∧ value ≤ 0xEC then opens (value - 0xE0) 2 0x80 0xBF
        else if value = 0xED then opens 0xD 2 0x80 0x9F
        else if 0xEE ≤ value ∧ value ≤ 0xEF then opens (value - 0xE0) 2 0x80 0xBF
        else if value = 0xF0 then opens 0 3 0x90 0xBF
        else if 0xF1 ≤ value ∧ value ≤ 0xF3 then opens (value - 0xF0) 3 0x80 0xBF
        else if value = 0xF4 then opens 4 3 0x80 0x8F
        else ([replacement], none) := by
  simp only [first, UInt8.lt_iff_toNat_lt, UInt8.le_iff_toNat_le, ← UInt8.toNat_inj,
    toNat_byte small, UInt8.reduceToNat]

/-- A byte that opens a sequence. -/
theorem decodeFrom_opens {byte low high : UInt8} {bits missing : Nat} {rest : List UInt8}
    (isFirst : first byte = opens bits missing low high)
    : decodeFrom none (byte :: rest) = decodeFrom (some ⟨bits, missing, low, high⟩) rest := by
  rw [decodeFrom, step, isFirst]
  rfl

/-- A byte that continues a sequence. -/
theorem decodeFrom_continues {bits missing payload : Nat} {low high : UInt8} {rest : List UInt8}
    (small : payload < 64) (isLow : low.toNat ≤ payload + 0x80)
    (isHigh : payload + 0x80 ≤ high.toNat)
    : decodeFrom (some ⟨bits, missing + 2, low, high⟩) (.ofNat (payload + 0x80) :: rest)
      = decodeFrom (some ⟨bits * 64 + payload, missing + 1, 0x80, 0xBF⟩) rest := by
  rw [decodeFrom, step, next_continues small isLow isHigh, if_neg (by simp)]
  rfl

/-- The byte that completes a sequence. -/
theorem decodeFrom_completes {bits payload : Nat} {low high : UInt8} {rest : List UInt8}
    (small : payload < 64) (isLow : low.toNat ≤ payload + 0x80)
    (isHigh : payload + 0x80 ≤ high.toNat)
    : decodeFrom (some ⟨bits, 1, low, high⟩) (.ofNat (payload + 0x80) :: rest)
      = Char.ofNat (bits * 64 + payload) :: decodeFrom none rest := by
  rw [decodeFrom, step, next_continues small isLow isHigh, if_pos rfl]
  rfl

theorem le_continuation (payload : Nat) : (0x80 : UInt8).toNat ≤ payload + 0x80 :=
  Nat.le_add_left 0x80 payload

theorem continuation_le {payload : Nat} (small : payload < 64)
    : payload + 0x80 ≤ (0xBF : UInt8).toNat := by
  simp only [UInt8.reduceToNat]
  omega

/-- The first of three bytes, and the range of the second. -/
theorem first_ofThree {code : Nat} (low : 0x7FF < code) (high : code ≤ 0xFFFF)
    (valid : code < 0xD800 ∨ 0xDFFF < code)
    : ∃ lowest highest,
        first (.ofNat (code / 4096 % 16 + 0xE0)) = opens (code / 4096) 2 lowest highest
        ∧ lowest.toNat ≤ code / 64 % 64 + 0x80
        ∧ code / 64 % 64 + 0x80 ≤ highest.toNat := by
  have lead : code / 4096 % 16 = code / 4096 := by omega
  have byte : code / 4096 + 0xE0 - 0xE0 = code / 4096 := by omega
  rw [lead, first_ofNat (by omega), if_neg (by omega), if_neg (by omega)]
  by_cases isE0 : code / 4096 = 0
  · rw [isE0, if_pos rfl]
    exact ⟨_, _, rfl, by simp only [UInt8.reduceToNat]; omega, continuation_le (by omega)⟩
  · rw [if_neg (by omega)]
    by_cases toEC : code / 4096 ≤ 0xC
    · rw [if_pos (by omega), byte]
      exact ⟨_, _, rfl, le_continuation _, continuation_le (by omega)⟩
    · rw [if_neg (by omega)]
      by_cases isED : code / 4096 = 0xD
      · rw [isED, if_pos rfl]
        exact ⟨_, _, rfl, le_continuation _, by simp only [UInt8.reduceToNat]; omega⟩
      · rw [if_neg (by omega), if_pos (by omega), byte]
        exact ⟨_, _, rfl, le_continuation _, continuation_le (by omega)⟩

/-- The first of four bytes, and the range of the second. -/
theorem first_ofFour {code : Nat} (low : 0xFFFF < code) (high : code < 0x110000)
    : ∃ lowest highest,
        first (.ofNat (code / 262144 % 8 + 0xF0)) = opens (code / 262144) 3 lowest highest
        ∧ lowest.toNat ≤ code / 4096 % 64 + 0x80
        ∧ code / 4096 % 64 + 0x80 ≤ highest.toNat := by
  have lead : code / 262144 % 8 = code / 262144 := by omega
  have byte : code / 262144 + 0xF0 - 0xF0 = code / 262144 := by omega
  rw [lead, first_ofNat (by omega), if_neg (by omega), if_neg (by omega), if_neg (by omega),
    if_neg (by omega), if_neg (by omega), if_neg (by omega)]
  by_cases isF0 : code / 262144 = 0
  · rw [isF0, if_pos rfl]
    exact ⟨_, _, rfl, by simp only [UInt8.reduceToNat]; omega, continuation_le (by omega)⟩
  · rw [if_neg (by omega)]
    by_cases toF3 : code / 262144 ≤ 3
    · rw [if_pos (by omega), byte]
      exact ⟨_, _, rfl, le_continuation _, continuation_le (by omega)⟩
    · have isF4 : code / 262144 = 4 := by omega
      rw [if_neg (by omega), isF4, if_pos rfl]
      exact ⟨_, _, rfl, le_continuation _, by simp only [UInt8.reduceToNat]; omega⟩

/-- The bytes of a character are decoded to it, by its width. -/
theorem decodeFrom_encodeChar (char : Char) (rest : List UInt8)
    : decodeFrom none (String.utf8EncodeChar char ++ rest) = char :: decodeFrom none rest := by
  have valid := char.valid
  have isCode : Char.ofNat char.toNat = char := Char.ofNat_toNat char
  have isVal : char.val.toNat = char.toNat := rfl
  simp only [UInt32.isValidChar, Nat.isValidChar, isVal] at valid
  rw [String.utf8EncodeChar]
  simp only [isVal]
  generalize char.toNat = code at *
  split
  · rw [List.singleton_append, decodeFrom, step, first_ofNat (by omega), if_pos (by omega), isCode]
    rfl
  · split
    · have isFirst
          : first (.ofNat (code / 64 % 32 + 0xC0)) = opens (code / 64) 1 0x80 0xBF := by
        have lead : code / 64 % 32 + 0xC0 - 0xC0 = code / 64 := by omega
        rw [first_ofNat (by omega), if_neg (by omega), if_pos (by omega), lead]
      have joined : code / 64 * 64 + code % 64 = code := by omega
      rw [List.cons_append, List.cons_append, List.nil_append, decodeFrom_opens isFirst,
        decodeFrom_completes (by omega) (le_continuation _) (continuation_le (by omega)),
        joined, isCode]
    · split
      · obtain ⟨lowest, highest, isFirst, isLow, isHigh⟩ :=
          @first_ofThree code (by omega) (by omega) (by omega)
        have joined : (code / 4096 * 64 + code / 64 % 64) * 64 + code % 64 = code := by omega
        rw [List.cons_append, List.cons_append, List.cons_append, List.nil_append,
          decodeFrom_opens isFirst, decodeFrom_continues (by omega) isLow isHigh,
          decodeFrom_completes (by omega) (le_continuation _) (continuation_le (by omega)),
          joined, isCode]
      · obtain ⟨lowest, highest, isFirst, isLow, isHigh⟩ :=
          @first_ofFour code (by omega) (by omega)
        have joined
            : ((code / 262144 * 64 + code / 4096 % 64) * 64 + code / 64 % 64) * 64 + code % 64
              = code := by
          omega
        rw [List.cons_append, List.cons_append, List.cons_append, List.cons_append, List.nil_append,
          decodeFrom_opens isFirst, decodeFrom_continues (by omega) isLow isHigh,
          decodeFrom_continues (by omega) (le_continuation _) (continuation_le (by omega)),
          decodeFrom_completes (by omega) (le_continuation _) (continuation_le (by omega)),
          joined, isCode]

/-- Whole characters before other bytes are decoded as they are, by induction over them. -/
theorem decodeFrom_encode (chars : List Char) (rest : List UInt8)
    : decodeFrom none (chars.flatMap String.utf8EncodeChar ++ rest)
      = chars ++ decodeFrom none rest := by
  induction chars with
  | nil => rfl
  | cons char chars ih =>
      rw [List.flatMap_cons, List.append_assoc, decodeFrom_encodeChar, ih, List.cons_append]

theorem encode_append (front back : String)
    : encode (front ++ back) = encode front ++ encode back := by
  rw [encode, String.toList_append, List.flatMap_append, encode, encode]

/-- A whole text before other bytes is decoded as it is. -/
theorem decode_encode_append (text : String) (rest : List UInt8)
    : decode (encode text ++ rest) = text ++ decode rest := by
  rw [decode, encode, decodeFrom_encode, String.ofList_append, String.ofList_toList, decode]

end Utf8Lossy
