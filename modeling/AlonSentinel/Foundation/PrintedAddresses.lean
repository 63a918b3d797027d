import AlonSentinel.Foundation.IpAddress
import AlonSentinel.Foundation.UnicodeText

/-! What is printed of an IP address is read as that address. So every address has one canonical
text, and texts of different addresses differ.
-/

namespace IpAddress

variable {radix maxDigits number : Nat} {rest : List Char}

------------------------------------------------------------
-- Numbers
------------------------------------------------------------

theorem toDigit_digitChar {value : Nat} (small : radix ≤ 16) (below : value < radix)
    : toDigit radix value.digitChar = some value := by
  have asHex : ∀ value < 16, toDigit 16 (Nat.digitChar value) = some value := by decide
  obtain ⟨read, _⟩ := Option.filter_eq_some_iff.mp (asHex value (by omega))
  exact Option.filter_eq_some_iff.mpr ⟨read, decide_eq_true below⟩

/-- Every printed digit is one, by induction over the number. -/
theorem toDigit_of_mem_toDigits (large : 1 < radix) (small : radix ≤ 16) {char : Char}
    (member : char ∈ Nat.toDigits radix number)
    : (toDigit radix char).isSome = true := by
  induction number using Nat.base_induction radix large with
  | single digit below =>
      rw [Nat.toDigits_of_lt_base below, List.mem_singleton] at member
      rw [member, toDigit_digitChar small below]
      rfl
  | digit front digit below positive ih =>
      rw [← Nat.toDigits_append_toDigits large positive below, Nat.toDigits_of_lt_base below,
        List.mem_append, List.mem_singleton] at member
      rcases member with inFront | rfl
      · exact ih inFront
      · rw [toDigit_digitChar small below]
        rfl

/-- The digits of a number have its value, by induction over the number. -/
theorem value_toDigits (large : 1 < radix) (small : radix ≤ 16)
    : ((Nat.toDigits radix number).filterMap (toDigit radix)).foldl
        (fun value digit => value * radix + digit) 0
      = number := by
  induction number using Nat.base_induction radix large with
  | single digit below =>
      rw [Nat.toDigits_of_lt_base below, List.filterMap_cons, toDigit_digitChar small below]
      simp
  | digit front digit below positive ih =>
      rw [← Nat.toDigits_append_toDigits large positive below, List.filterMap_append,
        List.foldl_append, ih, Nat.toDigits_of_lt_base below, List.filterMap_cons,
        toDigit_digitChar small below, Nat.mul_comm radix front]
      rfl

/-- A positive number has no leading zero, by induction over the number. -/
theorem head_toDigits_ne_zero (large : 1 < radix) (positive : 0 < number)
    : (Nat.toDigits radix number).head? ≠ some '0' := by
  induction number using Nat.base_induction radix large with
  | single digit below =>
      rw [Nat.toDigits_of_lt_base below, List.head?_cons, ne_eq, Option.some.injEq,
        Nat.digitChar_eq_zero]
      omega
  | digit front digit below frontPositive ih =>
      rw [← Nat.toDigits_append_toDigits large frontPositive below,
        List.head?_append_of_ne_nil _ Nat.toDigits_ne_nil]
      exact ih frontPositive

/-- No digit follows. -/
def EndsNumber (radix : Nat) (rest : List Char) : Prop :=
  ∀ char ∈ rest.head?, toDigit radix char = none

/-- A printed number is read up to what is no digit. -/
theorem readNumber_toDigits {allowZeroPrefix : Bool} (large : 1 < radix) (small : radix ≤ 16)
    (positive : 0 < maxDigits) (fits : number < radix ^ maxDigits) (ends : EndsNumber radix rest)
    : readNumber radix maxDigits allowZeroPrefix (Nat.toDigits radix number ++ rest)
      = some (number, rest) := by
  have digits (char : Char) (member : char ∈ Nat.toDigits radix number)
      : (toDigit radix char).isSome = true :=
    toDigit_of_mem_toDigits large small member
  have restFree
      : rest.takeWhile (fun char => (toDigit radix char).isSome) = []
        ∧ rest.dropWhile (fun char => (toDigit radix char).isSome) = rest := by
    cases rest with
    | nil => exact ⟨rfl, rfl⟩
    | cons head tail =>
        have noDigit : toDigit radix head = none := ends head rfl
        simp [noDigit]
  have read : (Nat.toDigits radix number ++ rest).takeWhile (fun char =>
      (toDigit radix char).isSome) = Nat.toDigits radix number := by
    rw [List.takeWhile_append_of_pos digits, restFree.1, List.append_nil]
  have left : (Nat.toDigits radix number ++ rest).dropWhile (fun char =>
      (toDigit radix char).isSome) = rest := by
    rw [List.dropWhile_append_of_pos digits, restFree.2]
  have short : ¬maxDigits < (Nat.toDigits radix number).length :=
    Nat.not_lt.mpr ((Nat.length_toDigits_le_iff large positive).mpr fits)
  have noPrefix
      : ¬((Nat.toDigits radix number).head? = some '0'
          ∧ 1 < (Nat.toDigits radix number).length) := by
    rintro ⟨isZero, long⟩
    rcases Nat.eq_zero_or_pos number with rfl | isPositive
    · rw [Nat.toDigits_zero] at long
      exact absurd long (by decide)
    · exact head_toDigits_ne_zero large isPositive isZero
  unfold readNumber
  simp only [read, left, value_toDigits large small]
  rw [if_neg (by simp [short]), if_neg (by simpa [and_assoc] using fun _ => noPrefix)]

------------------------------------------------------------
-- IPv4 addresses
------------------------------------------------------------

theorem endsNumber_nil : EndsNumber radix [] := nofun

theorem endsNumber_cons {char : Char} {tail : List Char} (noDigit : toDigit radix char = none)
    : EndsNumber radix (char :: tail) := by
  rintro _ ⟨⟩
  exact noDigit

/-- An octet as it is printed. -/
def octetChars (octet : UInt8) : List Char := Nat.toDigits 10 octet.toNat

theorem readOctet_zero (octet : UInt8) (ends : EndsNumber 10 rest)
    : readOctet 0 (octetChars octet ++ rest) = some (octet, rest) := by
  have below := octet.toNat_lt
  have small : octet.toNat < 10 ^ 3 := by omega
  have read : readNumber 10 3 false (octetChars octet ++ rest) = some (octet.toNat, rest) :=
    readNumber_toDigits (by decide) (by decide) (by decide) small ends
  simp only [readOctet, readSeparator, if_pos, read, Option.bind_eq_bind, Option.bind_some]
  rw [if_pos (by omega)]
  simp

theorem readOctet_succ (index : Nat) (octet : UInt8) (ends : EndsNumber 10 rest)
    : readOctet (index + 1) ('.' :: (octetChars octet ++ rest)) = some (octet, rest) := by
  rw [← readOctet_zero octet ends]
  rfl

theorem Ipv4Addr.toList_toString (ip : Ipv4Addr)
    : ip.toString.toList
      = octetChars (ip.octet 0) ++ '.' :: (octetChars (ip.octet 1)
          ++ '.' :: (octetChars (ip.octet 2) ++ '.' :: octetChars (ip.octet 3))) := by
  obtain ⟨⟨⟨octets⟩, size⟩⟩ := ip
  match octets, size with
  | [a, b, c, d], _ =>
      have printed (octet : UInt8) : (ToString.toString octet).toList = octetChars octet :=
        Nat.toList_repr
      simp [Ipv4Addr.toString, Ipv4Addr.octet, printed]

theorem readIpv4Addr_toString (ip : Ipv4Addr) (ends : EndsNumber 10 rest)
    : readIpv4Addr (ip.toString.toList ++ rest) = some (ip, rest) := by
  have dotEnds (tail : List Char) : EndsNumber 10 ('.' :: tail) := endsNumber_cons (by decide)
  simp only [ip.toList_toString, List.append_assoc, List.cons_append, readIpv4Addr,
    readOctet_zero _ (dotEnds _), readOctet_succ _ _ (dotEnds _), readOctet_succ _ _ ends,
    Option.bind_eq_bind, Option.bind_some, ip.eq_of_octets]
  rfl

/-- Without a digit there is no number. -/
theorem readNumber_eq_none {allowZeroPrefix : Bool} {char : Char} {tail : List Char}
    (noDigit : toDigit radix char = none)
    : readNumber radix maxDigits allowZeroPrefix (char :: tail) = none := by
  simp [readNumber, noDigit]

theorem readIpv4Addr_eq_none {char : Char} {tail : List Char} (noDigit : toDigit 10 char = none)
    : readIpv4Addr (char :: tail) = none := by
  have noOctet : readOctet 0 (char :: tail) = none := by
    simp [readOctet, readSeparator, readNumber_eq_none noDigit]
  simp [readIpv4Addr, noOctet]

/-- An IPv4 address has dots. -/
theorem readIpv4Addr_noDot {chars : List Char} (noDot : '.' ∉ chars)
    : readIpv4Addr chars = none := by
  rw [Option.eq_none_iff_forall_ne_some]
  rintro ⟨ip, rest⟩ read
  obtain ⟨⟨a, afterA⟩, readA, read⟩ := Option.bind_eq_some_iff.mp read
  obtain ⟨⟨b, afterB⟩, readB, _⟩ := Option.bind_eq_some_iff.mp read
  obtain ⟨_, separated, _⟩ := Option.bind_eq_some_iff.mp readB
  obtain ⟨_, given, _⟩ := Option.bind_eq_some_iff.mp separated
  obtain ⟨consumed, rfl, _⟩ := readOctet_consumed readA
  cases afterA with
  | nil => cases given
  | cons char tail =>
      by_cases isDot : char = '.'
      · exact noDot (by simp [isDot])
      · rw [readGivenChar, if_neg isDot] at given
        cases given

------------------------------------------------------------
-- Groups of IPv6 addresses
------------------------------------------------------------

/-- Groups as they are printed from a place on: those behind the first place are separated. -/
def groupsChars : Nat → List UInt16 → List Char
  | _, [] => []
  | index, group :: groups =>
      (if index = 0 then [] else [':']) ++ Nat.toDigits 16 group.toNat
        ++ groupsChars (index + 1) groups

/-- No group follows: either nothing does, or the omitted groups and no dot. -/
inductive EndsGroups : List Char → Prop where
  | nothing : EndsGroups []
  | omitted {tail : List Char} (noDot : '.' ∉ tail) : EndsGroups (':' :: ':' :: tail)

theorem readSeparator_zero {Item : Type} {separator : Char}
    {inner : List Char → Option (Item × List Char)} {chars : List Char}
    : readSeparator separator 0 inner chars = inner chars :=
  if_pos rfl

theorem readSeparator_chars {Item : Type} {separator : Char} {index : Nat}
    {inner : List Char → Option (Item × List Char)} {chars : List Char}
    : readSeparator separator index inner
        ((if index = 0 then [] else [separator]) ++ chars)
      = inner chars := by
  unfold readSeparator
  split
  · rfl
  · simp [readGivenChar]

/-- What is read behind a separator is read behind fewer characters. -/
theorem readSeparator_eq_some {Item : Type} {separator : Char} {index : Nat}
    {inner : List Char → Option (Item × List Char)} {chars : List Char} {result : Item × List Char}
    (read : readSeparator separator index inner chars = some result)
    : ∃ behind, behind <:+ chars ∧ inner behind = some result := by
  unfold readSeparator at read
  split at read
  · exact ⟨chars, List.suffix_refl chars, read⟩
  · obtain ⟨behind, given, inside⟩ := Option.bind_eq_some_iff.mp read
    cases chars with
    | nil => cases given
    | cons char tail =>
        by_cases same : char = separator
        · rw [readGivenChar, if_pos same] at given
          cases given
          exact ⟨behind, List.suffix_cons char behind, inside⟩
        · rw [readGivenChar, if_neg same] at given
          cases given

/-- Without dots there is no IPv4 address behind a separator. -/
theorem readSeparator_readIpv4Addr {separator : Char} {index : Nat} {chars : List Char}
    (noDot : '.' ∉ chars)
    : readSeparator separator index readIpv4Addr chars = none := by
  by_contra isSome
  obtain ⟨⟨ip, rest⟩, read⟩ := Option.ne_none_iff_exists'.mp isSome
  obtain ⟨behind, suffix, inside⟩ := readSeparator_eq_some read
  rw [readIpv4Addr_noDot fun member => noDot (suffix.subset member)] at inside
  cases inside

section Slots

variable {slots index : Nat} {chars : List Char}

theorem readGroups_ipv4 {ip : Ipv4Addr} (positive : 0 < slots)
    (read : readSeparator ':' index readIpv4Addr chars = some (ip, rest))
    : readGroups (slots + 1) index chars
      = ([fromBeBytes (ip.octet 0) (ip.octet 1), fromBeBytes (ip.octet 2) (ip.octet 3)], true,
        rest) := by
  simp [readGroups, positive, read]

theorem readGroups_group {group : Nat} {groups : List UInt16} {embedded : Bool}
    {after : List Char}
    (notIpv4 : readSeparator ':' index readIpv4Addr chars = none)
    (read : readSeparator ':' index (readNumber 16 4 true) chars = some (group, rest))
    (others : readGroups slots (index + 1) rest = (groups, embedded, after))
    : readGroups (slots + 1) index chars = (group.toUInt16 :: groups, embedded, after) := by
  simp [readGroups, notIpv4, read, others]

theorem readGroups_none (notIpv4 : readSeparator ':' index readIpv4Addr chars = none)
    (noGroup : readSeparator ':' index (readNumber 16 4 true) chars = none)
    : readGroups slots index chars = ([], false, chars) := by
  cases slots with
  | zero => rfl
  | succ slots => simp [readGroups, notIpv4, noGroup]

end Slots

theorem dot_not_mem_groupsChars (index : Nat) (groups : List UInt16)
    : '.' ∉ groupsChars index groups := by
  induction groups generalizing index with
  | nil => exact List.not_mem_nil
  | cons group groups ih =>
      have noDigit : '.' ∉ Nat.toDigits 16 group.toNat := fun member =>
        absurd (toDigit_of_mem_toDigits (by decide) (by decide) member) (by decide)
      have noSeparator : '.' ∉ (if index = 0 then [] else [':']) := by split <;> decide
      simp only [groupsChars, List.mem_append, not_or]
      exact ⟨⟨noSeparator, noDigit⟩, ih (index + 1)⟩

theorem EndsGroups.noDot (ends : EndsGroups rest) : '.' ∉ rest := by
  cases ends with
  | nothing => exact List.not_mem_nil
  | omitted noDot => simpa using noDot

theorem EndsGroups.readGroups (ends : EndsGroups rest) (slots index : Nat)
    : readGroups slots index rest = ([], false, rest) := by
  refine readGroups_none (readSeparator_readIpv4Addr ends.noDot) ?_
  unfold readSeparator
  cases ends <;> split <;> rfl

/-- Behind a group, another one follows with its separator, or none does. -/
theorem endsNumber_groupsChars (ends : EndsGroups rest) (index : Nat) (groups : List UInt16)
    : EndsNumber 16 (groupsChars (index + 1) groups ++ rest) := by
  cases groups with
  | nil =>
      cases ends with
      | nothing => exact endsNumber_nil
      | omitted _ => exact endsNumber_cons (by decide)
  | cons group groups => exact endsNumber_cons (by decide)

/-- Printed groups are read, by induction over them. -/
theorem readGroups_groupsChars (groups : List UInt16) (slots index : Nat)
    (fits : groups.length ≤ slots) (ends : EndsGroups rest)
    : readGroups slots index (groupsChars index groups ++ rest) = (groups, false, rest) := by
  induction groups generalizing slots index with
  | nil => exact ends.readGroups slots index
  | cons group groups ih =>
      obtain ⟨slots, rfl⟩ := Nat.exists_eq_add_of_lt (Nat.zero_lt_of_lt fits)
      have noDot : '.' ∉ groupsChars index (group :: groups) ++ rest := by
        simp only [List.mem_append, not_or]
        exact ⟨dot_not_mem_groupsChars _ _, ends.noDot⟩
      have below := group.toNat_lt
      have isGroup
          : readSeparator ':' index (readNumber 16 4 true)
              (groupsChars index (group :: groups) ++ rest)
            = some (group.toNat, groupsChars (index + 1) groups ++ rest) := by
        simp only [groupsChars, List.append_assoc, readSeparator_chars]
        exact readNumber_toDigits (by decide) (by decide) (by decide) (by omega)
          (endsNumber_groupsChars ends index groups)
      have others := ih (0 + slots) (index + 1) (by simpa using fits)
      simpa using readGroups_group (readSeparator_readIpv4Addr noDot) isGroup others

theorem toList_fmtSubslice (segments : List UInt16)
    : (fmtSubslice segments).toList = groupsChars 0 segments := by
  have separated (first : UInt16) (others : List UInt16) (index : Nat)
      : List.intercalate [':'] ((first :: others).map fun segment => Nat.toDigits 16 segment.toNat)
        = Nat.toDigits 16 first.toNat ++ groupsChars (index + 1) others := by
    induction others generalizing first index with
    | nil => simp [groupsChars]
    | cons second others ih =>
        have later := ih second (index + 1)
        rw [List.map_cons] at later
        rw [List.map_cons, List.map_cons, List.intercalate_cons_cons, later]
        simp [groupsChars]
  cases segments with
  | nil => rfl
  | cons first others =>
      simpa [fmtSubslice, String.toList_intercalate, Function.comp_def, groupsChars]
        using separated first others 0

------------------------------------------------------------
-- Omitted groups
------------------------------------------------------------

/-- A run of zero segments. -/
def Span.IsRun (span : Span) (segments : List UInt16) : Prop :=
  ∃ before after,
    segments = before ++ List.replicate span.len 0 ++ after ∧ before.length = span.start

/-- The run of zero segments that reaches up to here, which has no place while it is empty. -/
def Span.EndsRun (span : Span) (segments : List UInt16) : Prop :=
  ∃ before,
    segments = before ++ List.replicate span.len 0 ∧ (span.len ≠ 0 → before.length = span.start)

theorem Span.IsRun.append {span : Span} {segments : List UInt16} (isRun : span.IsRun segments)
    (segment : UInt16)
    : span.IsRun (segments ++ [segment]) := by
  obtain ⟨before, after, rfl, isStart⟩ := isRun
  exact ⟨before, after ++ [segment], by simp, isStart⟩

theorem Span.EndsRun.append_zero {span : Span} {segments : List UInt16}
    (endsRun : span.EndsRun segments)
    : let grown : Span :=
        ⟨if span.len = 0 then segments.length else span.start, span.len + 1⟩
      grown.EndsRun (segments ++ [0]) ∧ grown.IsRun (segments ++ [0]) := by
  obtain ⟨before, rfl, isStart⟩ := endsRun
  have grows
      : before ++ List.replicate span.len 0 ++ [0]
        = before ++ List.replicate (span.len + 1) (0 : UInt16) := by
    rw [List.append_assoc, ← List.replicate_succ']
  have place
      : before.length
        = if span.len = 0 then (before ++ List.replicate span.len (0 : UInt16)).length
          else span.start := by
    split
    · simp_all
    · exact isStart ‹_›
  exact ⟨⟨before, grows, fun _ => place⟩, before, [], by rw [grows, List.append_nil], place⟩

/-- What a segment makes of the longest run and of the run that ends before it. -/
def spansAfter (spans : Span × Span) (place : UInt16 × Nat) : Span × Span :=
  if place.1 = 0 then
    let current : Span :=
      { start := if spans.2.len = 0 then place.2 else spans.2.start, len := spans.2.len + 1 }
    (if spans.1.len < current.len then current else spans.1, current)
  else (spans.1, ⟨0, 0⟩)

/-- Both spans are runs, by induction over the segments in their order. -/
theorem foldl_spansAfter (segments : List UInt16)
    : let spans := segments.zipIdx.foldl spansAfter (⟨0, 0⟩, ⟨0, 0⟩)
      spans.1.IsRun segments ∧ spans.2.EndsRun segments := by
  induction segments using List.reverseRecOn with
  | nil => exact ⟨⟨[], [], rfl, rfl⟩, [], rfl, fun _ => rfl⟩
  | append_singleton segments segment ih =>
      obtain ⟨isRun, endsRun⟩ := ih
      rw [List.zipIdx_append, List.foldl_append]
      simp only [List.zipIdx_singleton, List.foldl_cons, List.foldl_nil, Nat.zero_add, spansAfter]
      split
      · rename_i isZero
        obtain ⟨grownEnds, grownRuns⟩ := endsRun.append_zero
        rw [isZero]
        refine ⟨?_, grownEnds⟩
        dsimp only
        split
        · exact grownRuns
        · exact isRun.append 0
      · exact ⟨isRun.append segment, segments ++ [segment], by simp, fun some => (some rfl).elim⟩

theorem longestZeroes_isRun (segments : List UInt16) : (longestZeroes segments).IsRun segments :=
  (foldl_spansAfter segments).1

/-- The omitted groups are zeros between the printed ones. -/
theorem longestZeroes_splits (segments : List UInt16)
    : segments
      = segments.take (longestZeroes segments).start
        ++ List.replicate (longestZeroes segments).len 0
        ++ segments.drop ((longestZeroes segments).start + (longestZeroes segments).len) := by
  obtain ⟨before, after, same, isStart⟩ := longestZeroes_isRun segments
  rw [← isStart]
  generalize (longestZeroes segments).len = len at same
  subst same
  simp [List.drop_append, List.drop_eq_nil_of_le]

------------------------------------------------------------
-- IPv6 addresses
------------------------------------------------------------

theorem Ipv6Addr.ofGroups_segments (ip : Ipv6Addr) : .ofGroups ip.segments.toList = ip := by
  obtain ⟨segments⟩ := ip
  simp only [Ipv6Addr.ofGroups, Ipv6Addr.mk.injEq]
  ext index below
  simp [List.getD_eq_getElem?_getD]

theorem fromBeBytes_toBeBytes (segment : UInt16)
    : fromBeBytes (toBeBytes segment).1 (toBeBytes segment).2 = segment := by
  have below := segment.toNat_lt
  rw [← UInt16.toNat_inj, toNat_fromBeBytes, toBeBytes]
  simp only [UInt16.toNat_toUInt8, UInt16.toNat_shiftRight, Nat.shiftRight_eq_div_pow]
  change segment.toNat / 2 ^ 8 % 2 ^ 8 * 256 + segment.toNat % 2 ^ 8 = segment.toNat
  omega

/-- A mapped address is the embedding of its IPv4 address. -/
theorem Ipv6Addr.eq_embed {ip : Ipv6Addr} {ipv4 : Ipv4Addr} (isMapped : ip.toIpv4Mapped = some ipv4)
    : ip = Ipv6Embedding.ipv4Mapped.embed ipv4 := by
  obtain ⟨⟨⟨segments⟩, size⟩⟩ := ip
  match segments, size with
  | [a, b, c, d, e, f, high, low], _ =>
      unfold Ipv6Addr.toIpv4Mapped at isMapped
      split at isMapped
      · rename_i zeroes
        cases isMapped
        have leading : [a, b, c, d, e, f] = [0, 0, 0, 0, 0, 0xffff] := congrArg Vector.toList zeroes
        cases leading
        have isHigh := fromBeBytes_toBeBytes high
        have isLow := fromBeBytes_toBeBytes low
        change _ = (⟨#v[0, 0, 0, 0, 0, 0xffff, fromBeBytes (toBeBytes high).1 (toBeBytes high).2,
          fromBeBytes (toBeBytes low).1 (toBeBytes low).2]⟩ : Ipv6Addr)
        rw [isHigh, isLow]
      · cases isMapped

/-- Groups are omitted between two others. -/
theorem readIpv6Addr_omitted {chars between after : List Char} {head tail : List UInt16}
    {embedded : Bool}
    (short : head.length < 8)
    (readHead : readGroups 8 0 chars = (head, false, ':' :: ':' :: between))
    (readTail : readGroups (8 - (head.length + 1)) 0 between = (tail, embedded, after))
    : readIpv6Addr chars
      = some (.ofGroups
          (head ++ List.replicate (8 - head.length - tail.length) 0 ++ tail), after) := by
  simp only [readIpv6Addr, readHead, if_neg short.ne, readGivenChar, if_true, readTail,
    Bool.false_eq_true, if_false, Option.bind_eq_bind, Option.bind_some]
  rfl

/-- The printed IPv4 address of a mapped one is read behind its group of ones. -/
theorem readIpv6Addr_mapped (ipv4 : Ipv4Addr)
    : readIpv6Addr ("::ffff:" ++ ipv4.toString).toList
      = some (Ipv6Embedding.ipv4Mapped.embed ipv4, []) := by
  have isIpv4 : readIpv4Addr ipv4.toString.toList = some (ipv4, []) := by
    simpa using readIpv4Addr_toString ipv4 endsNumber_nil
  have isEmbedded
      : readSeparator ':' 1 readIpv4Addr (':' :: ipv4.toString.toList) = some (ipv4, []) :=
    isIpv4
  have isOnes
      : readSeparator ':' 0 (readNumber 16 4 true) ("ffff:".toList ++ ipv4.toString.toList)
        = some (0xffff, ':' :: ipv4.toString.toList) := by
    rw [readSeparator_zero]
    exact readNumber_toDigits (by decide) (by decide) (by decide) (by decide : 0xffff < 16 ^ 4)
      (endsNumber_cons (by decide))
  have noIpv4 {char : Char} {tail : List Char} (noDigit : toDigit 10 char = none)
      : readSeparator ':' 0 readIpv4Addr (char :: tail) = none :=
    readSeparator_zero.trans (readIpv4Addr_eq_none noDigit)
  have noGroup {tail : List Char}
      : readSeparator ':' 0 (readNumber 16 4 true) (':' :: tail) = none :=
    readSeparator_zero.trans (readNumber_eq_none (by decide))
  rw [String.toList_append]
  exact readIpv6Addr_omitted (by decide) (readGroups_none (noIpv4 (by decide)) noGroup)
    (readGroups_group (noIpv4 (by decide)) isOnes (readGroups_ipv4 (by decide) isEmbedded))

/-- An address that is not mapped is read as its groups. -/
theorem readIpv6Addr_groups {ip : Ipv6Addr} (notMapped : ip.toIpv4Mapped = none)
    : readIpv6Addr ip.toString.toList = some (ip, []) ∧ '.' ∉ ip.toString.toList := by
  have size : ip.segments.toList.length = 8 := ip.segments.length_toList
  have splits := longestZeroes_splits ip.segments.toList
  simp only [Ipv6Addr.toString, notMapped]
  split
  · rename_i omits
    generalize (longestZeroes ip.segments.toList).len = len at *
    generalize ip.segments.toList.take _ = before at *
    generalize ip.segments.toList.drop _ = after at *
    have lengths : before.length + len + after.length = 8 := by
      have total := congrArg List.length splits
      simp only [size, List.length_append, List.length_replicate] at total
      exact total.symm
    have isText
        : (fmtSubslice before ++ "::" ++ fmtSubslice after).toList
          = groupsChars 0 before ++ ':' :: ':' :: groupsChars 0 after := by
      simp [toList_fmtSubslice]
    have readHead := readGroups_groupsChars before 8 0 (by omega)
      (.omitted (dot_not_mem_groupsChars 0 after))
    have readTail :=
      readGroups_groupsChars after (8 - (before.length + 1)) 0 (by omega) .nothing
    rw [List.append_nil] at readTail
    have zeroes : 8 - before.length - after.length = len := by omega
    rw [isText]
    constructor
    · rw [readIpv6Addr_omitted (by omega) readHead readTail, zeroes, ← splits,
        ip.ofGroups_segments]
    · simp [dot_not_mem_groupsChars]
  · have groups := readGroups_groupsChars ip.segments.toList 8 0 size.le .nothing
    rw [List.append_nil] at groups
    rw [toList_fmtSubslice]
    refine ⟨?_, dot_not_mem_groupsChars 0 _⟩
    simp only [readIpv6Addr, groups, if_pos size, ip.ofGroups_segments]

/-- What is printed of an address is read as that address. -/
theorem IpAddr.parse_toString (ip : IpAddr) : IpAddr.parse ip.toString = some ip := by
  cases ip with
  | v4 ip =>
      have read : readIpv4Addr ip.toString.toList = some (ip, []) := by
        simpa using readIpv4Addr_toString ip endsNumber_nil
      simp only [IpAddr.parse, IpAddr.toString, read]
  | v6 ip =>
      obtain ⟨notIpv4, read⟩
          : readIpv4Addr ip.toString.toList = none
            ∧ readIpv6Addr ip.toString.toList = some (ip, []) := by
        cases isMapped : ip.toIpv4Mapped with
        | some ipv4 =>
            simp only [Ipv6Addr.toString, isMapped]
            refine ⟨?_, ?_⟩
            · rw [String.toList_append]
              exact readIpv4Addr_eq_none (by decide)
            · rw [readIpv6Addr_mapped, ← ip.eq_embed isMapped]
        | none =>
            obtain ⟨read, noDot⟩ := readIpv6Addr_groups isMapped
            exact ⟨readIpv4Addr_noDot noDot, read⟩
      simp only [IpAddr.parse, IpAddr.toString, notIpv4, read, Option.map_some]

/-- The text of an address has no white space to trim. -/
theorem IpAddr.trimChars_of_parse {text : String} {ip : IpAddr} (read : IpAddr.parse text = some ip)
    : UnicodeText.trimChars text.toList = text.toList := by
  refine UnicodeText.trimChars_eq_self fun char member => ?_
  obtain ⟨low, high⟩ := isAddressChar_bounds (IpAddr.parse_chars read member)
  simp only [UnicodeText.isWhitespace, Bool.or_eq_false_iff, Bool.and_eq_false_iff,
    decide_eq_false_iff_not]
  omega

theorem IpAddr.trim_toString (ip : IpAddr) : UnicodeText.trim ip.toString = ip.toString := by
  rw [UnicodeText.trim, trimChars_of_parse ip.parse_toString, String.ofList_toList]

end IpAddress
