import Mathlib.Algebra.Group.Nat.Defs
import Mathlib.Data.List.Destutter
import Mathlib.Data.List.Sort
import Mathlib.Data.List.TakeWhile

/-! IP and socket addresses: their order, and their text forms as the standard library prints and
reads them. A reader returns what it read and the characters behind it.
-/

namespace IpAddress

------------------------------------------------------------
-- Addresses
------------------------------------------------------------

structure Ipv4Addr where
  octets : Vector UInt8 4
  deriving DecidableEq

structure Ipv6Addr where
  segments : Vector UInt16 8
  deriving DecidableEq

/-- The octet at an index, from zero to three. -/
def Ipv4Addr.octet (ip : Ipv4Addr) (index : Nat) : UInt8 := ip.octets.toList.getD index 0

/-- The segment at an index, from zero to seven. -/
def Ipv6Addr.segment (ip : Ipv6Addr) (index : Nat) : UInt16 := ip.segments.toList.getD index 0

inductive IpAddr where
  | v4 (ip : Ipv4Addr)
  | v6 (ip : Ipv6Addr)
  deriving DecidableEq

inductive SocketAddr where
  | v4 (ip : Ipv4Addr) (port : UInt16)
  | v6 (ip : Ipv6Addr) (port : UInt16) (flowinfo scopeId : UInt32)
  deriving DecidableEq

def SocketAddr.new (ip : IpAddr) (port : UInt16) : SocketAddr :=
  match ip with
  | .v4 ip => .v4 ip port
  | .v6 ip => .v6 ip port 0 0

def SocketAddr.ip : SocketAddr → IpAddr
  | .v4 ip _ => .v4 ip
  | .v6 ip _ _ _ => .v6 ip

/-- The two octets of a segment. -/
def toBeBytes (segment : UInt16) : UInt8 × UInt8 := ((segment >>> 8).toUInt8, segment.toUInt8)

/-- The segment of two octets. -/
def fromBeBytes (high low : UInt8) : UInt16 := (high.toUInt16 <<< 8) ||| low.toUInt16

/-- The IPv4 address embedded as `::ffff:a.b.c.d`. -/
def Ipv6Addr.toIpv4Mapped (ip : Ipv6Addr) : Option Ipv4Addr :=
  if ip.segments.take 6 = #v[0, 0, 0, 0, 0, 0xffff] then
    let (a, b) := toBeBytes (ip.segment 6)
    let (c, d) := toBeBytes (ip.segment 7)
    some ⟨#v[a, b, c, d]⟩
  else none

/-- What socket addresses are ordered by, field after field. -/
def SocketAddr.fields : SocketAddr → List Nat
  | .v4 ip port => 0 :: ip.octets.toList.map (·.toNat) ++ [port.toNat]
  | .v6 ip port flowinfo scopeId =>
      1 :: ip.segments.toList.map (·.toNat) ++ [port.toNat, flowinfo.toNat, scopeId.toNat]

/-- `sort_unstable` and `dedup`. -/
def sortDedup (addrs : List SocketAddr) : List SocketAddr :=
  (addrs.insertionSort fun first second => first.fields ≤ second.fields).destutter (· ≠ ·)

/-- The order of socket addresses tells them apart, by cases over their kinds. -/
theorem SocketAddr.fields_injective : Function.Injective SocketAddr.fields := by
  have sameOctets {first second : Vector UInt8 4}
      (same : first.toList.map (·.toNat) = second.toList.map (·.toNat))
      : first = second :=
    Vector.toList_inj.mp (List.map_injective_iff.mpr (fun _ _ => UInt8.toNat_inj.mp) same)
  have sameSegments {first second : Vector UInt16 8}
      (same : first.toList.map (·.toNat) = second.toList.map (·.toNat))
      : first = second :=
    Vector.toList_inj.mp (List.map_injective_iff.mpr (fun _ _ => UInt16.toNat_inj.mp) same)
  intro first second same
  cases first with
  | v4 ip port =>
      cases second with
      | v4 otherIp otherPort =>
          simp only [fields, List.cons.injEq, true_and, List.cons_append] at same
          obtain ⟨octets, rest⟩ := List.append_inj same (by simp)
          have isPort : port = otherPort := by simpa [UInt16.toNat_inj] using rest
          have isIp : ip = otherIp := congrArg Ipv4Addr.mk (sameOctets octets)
          rw [isIp, isPort]
      | v6 => simp [fields] at same
  | v6 ip port flowinfo scopeId =>
      cases second with
      | v4 => simp [fields] at same
      | v6 otherIp otherPort otherFlowinfo otherScopeId =>
          simp only [fields, List.cons.injEq, true_and, List.cons_append] at same
          obtain ⟨segments, rest⟩ := List.append_inj same (by simp)
          obtain ⟨rfl, rfl, rfl⟩
              : port = otherPort ∧ flowinfo = otherFlowinfo ∧ scopeId = otherScopeId := by
            simpa [UInt16.toNat_inj, UInt32.toNat_inj] using rest
          have isIp : ip = otherIp := congrArg Ipv6Addr.mk (sameSegments segments)
          rw [isIp]

/-- Sorting forgets the order in which addresses were answered. -/
theorem sortDedup_eq_of_perm {addrs other : List SocketAddr} (same : addrs.Perm other)
    : sortDedup addrs = sortDedup other := by
  let le (first second : SocketAddr) : Prop := first.fields ≤ second.fields
  have : Std.Total le := ⟨fun first second => le_total first.fields second.fields⟩
  have : IsTrans SocketAddr le := ⟨fun _ _ _ => le_trans⟩
  have perm : (addrs.insertionSort le).Perm (other.insertionSort le) :=
    ((List.perm_insertionSort le addrs).trans same).trans (List.perm_insertionSort le other).symm
  have sorted : addrs.insertionSort le = other.insertionSort le :=
    perm.eq_of_pairwise
      (fun _ _ _ _ below above => SocketAddr.fields_injective (le_antisymm below above))
      (List.pairwise_insertionSort le addrs) (List.pairwise_insertionSort le other)
  unfold sortDedup
  exact congrArg (List.destutter (· ≠ ·)) sorted

------------------------------------------------------------
-- Blocks and embeddings
------------------------------------------------------------

def Ipv4Addr.unspecified : Ipv4Addr := ⟨#v[0, 0, 0, 0]⟩

/-- The address as a number of 32 bits. -/
def Ipv4Addr.toBits (ip : Ipv4Addr) : Nat :=
  (((ip.octet 0).toNat * 256 + (ip.octet 1).toNat) * 256 + (ip.octet 2).toNat) * 256
    + (ip.octet 3).toNat

/-- The addresses that share a number of leading bits with a network. -/
structure Ipv4Block where
  network : Ipv4Addr
  networkBits : Nat

def Ipv4Block.contains (block : Ipv4Block) (ip : Ipv4Addr) : Prop :=
  ip.toBits / 2 ^ (32 - block.networkBits) = block.network.toBits / 2 ^ (32 - block.networkBits)

instance (block : Ipv4Block) (ip : Ipv4Addr) : Decidable (block.contains ip) :=
  inferInstanceAs (Decidable (_ = _))

section Blocks

variable {ip : Ipv4Addr} {a b c d : UInt8}

theorem Ipv4Block.contains_8_iff
    : (⟨⟨#v[a, 0, 0, 0]⟩, 8⟩ : Ipv4Block).contains ip ↔ ip.octet 0 = a := by
  have networkBits : Ipv4Addr.toBits ⟨#v[a, 0, 0, 0]⟩ = ((a.toNat * 256 + 0) * 256 + 0) * 256 + 0 :=
    rfl
  have second := (ip.octet 1).toNat_lt
  have third := (ip.octet 2).toNat_lt
  have fourth := (ip.octet 3).toNat_lt
  change ip.toBits / 2 ^ 24 = _ / 2 ^ 24 ↔ _
  rw [networkBits, Ipv4Addr.toBits, ← UInt8.toNat_inj]
  omega

theorem Ipv4Block.contains_16_iff
    : (⟨⟨#v[a, b, 0, 0]⟩, 16⟩ : Ipv4Block).contains ip ↔ ip.octet 0 = a ∧ ip.octet 1 = b := by
  have networkBits
      : Ipv4Addr.toBits ⟨#v[a, b, 0, 0]⟩ = ((a.toNat * 256 + b.toNat) * 256 + 0) * 256 + 0 :=
    rfl
  have bound := b.toNat_lt
  have second := (ip.octet 1).toNat_lt
  have third := (ip.octet 2).toNat_lt
  have fourth := (ip.octet 3).toNat_lt
  change ip.toBits / 2 ^ 16 = _ / 2 ^ 16 ↔ _
  rw [networkBits, Ipv4Addr.toBits, ← UInt8.toNat_inj, ← UInt8.toNat_inj]
  omega

theorem Ipv4Block.contains_24_iff
    : (⟨⟨#v[a, b, c, 0]⟩, 24⟩ : Ipv4Block).contains ip
      ↔ ip.octet 0 = a ∧ ip.octet 1 = b ∧ ip.octet 2 = c := by
  have networkBits
      : Ipv4Addr.toBits ⟨#v[a, b, c, 0]⟩ = ((a.toNat * 256 + b.toNat) * 256 + c.toNat) * 256 + 0 :=
    rfl
  have boundB := b.toNat_lt
  have boundC := c.toNat_lt
  have second := (ip.octet 1).toNat_lt
  have third := (ip.octet 2).toNat_lt
  have fourth := (ip.octet 3).toNat_lt
  change ip.toBits / 2 ^ 8 = _ / 2 ^ 8 ↔ _
  rw [networkBits, Ipv4Addr.toBits, ← UInt8.toNat_inj, ← UInt8.toNat_inj,
    ← UInt8.toNat_inj]
  omega

theorem Ipv4Block.contains_32_iff
    : (⟨⟨#v[a, b, c, d]⟩, 32⟩ : Ipv4Block).contains ip
      ↔ ip.octet 0 = a ∧ ip.octet 1 = b ∧ ip.octet 2 = c ∧ ip.octet 3 = d := by
  have networkBits
      : Ipv4Addr.toBits ⟨#v[a, b, c, d]⟩
        = ((a.toNat * 256 + b.toNat) * 256 + c.toNat) * 256 + d.toNat :=
    rfl
  have boundB := b.toNat_lt
  have boundC := c.toNat_lt
  have boundD := d.toNat_lt
  have second := (ip.octet 1).toNat_lt
  have third := (ip.octet 2).toNat_lt
  have fourth := (ip.octet 3).toNat_lt
  change ip.toBits / 2 ^ 0 = _ / 2 ^ 0 ↔ _
  rw [networkBits, Ipv4Addr.toBits, ← UInt8.toNat_inj, ← UInt8.toNat_inj,
    ← UInt8.toNat_inj, ← UInt8.toNat_inj]
  omega

/-- A block of `172.16.0.0/12` is bounded in its second octet. -/
theorem Ipv4Block.contains_12_iff
    : (⟨⟨#v[a, 16, 0, 0]⟩, 12⟩ : Ipv4Block).contains ip
      ↔ ip.octet 0 = a ∧ 16 ≤ ip.octet 1 ∧ ip.octet 1 ≤ 31 := by
  have networkBits
      : Ipv4Addr.toBits ⟨#v[a, 16, 0, 0]⟩ = ((a.toNat * 256 + 16) * 256 + 0) * 256 + 0 :=
    rfl
  have second := (ip.octet 1).toNat_lt
  have third := (ip.octet 2).toNat_lt
  have fourth := (ip.octet 3).toNat_lt
  change ip.toBits / 2 ^ 20 = _ / 2 ^ 20 ↔ _
  rw [networkBits, Ipv4Addr.toBits, ← UInt8.toNat_inj, UInt8.le_iff_toNat_le,
    UInt8.le_iff_toNat_le]
  change _ ↔ _ ∧ 16 ≤ (ip.octet 1).toNat ∧ (ip.octet 1).toNat ≤ 31
  omega

/-- The block `224.0.0.0/4` is bounded in its first octet. -/
theorem Ipv4Block.contains_4_iff
    : (⟨⟨#v[224, 0, 0, 0]⟩, 4⟩ : Ipv4Block).contains ip
      ↔ 224 ≤ ip.octet 0 ∧ ip.octet 0 ≤ 239 := by
  have networkBits : Ipv4Addr.toBits ⟨#v[224, 0, 0, 0]⟩ = ((224 * 256 + 0) * 256 + 0) * 256 + 0 :=
    rfl
  have second := (ip.octet 1).toNat_lt
  have third := (ip.octet 2).toNat_lt
  have fourth := (ip.octet 3).toNat_lt
  change ip.toBits / 2 ^ 28 = _ / 2 ^ 28 ↔ _
  rw [networkBits, Ipv4Addr.toBits, UInt8.le_iff_toNat_le,
    UInt8.le_iff_toNat_le]
  change _ ↔ 224 ≤ (ip.octet 0).toNat ∧ (ip.octet 0).toNat ≤ 239
  omega

end Blocks

/-- The ways to write an IPv4 address within an IPv6 address: `::ffff:a.b.c.d`, `::a.b.c.d`,
`64:ff9b::a.b.c.d`, and the addresses of `2002:ab:cd::/48`.
-/
inductive Ipv6Embedding where
  | ipv4Mapped
  | ipv4Compatible
  | nat64
  | sixToFour (lower : Vector UInt16 5)

def Ipv6Embedding.embed (embedding : Ipv6Embedding) (ip : Ipv4Addr) : Ipv6Addr :=
  let high := fromBeBytes (ip.octet 0) (ip.octet 1)
  let low := fromBeBytes (ip.octet 2) (ip.octet 3)
  match embedding with
  | .ipv4Mapped => ⟨#v[0, 0, 0, 0, 0, 0xffff, high, low]⟩
  | .ipv4Compatible => ⟨#v[0, 0, 0, 0, 0, 0, high, low]⟩
  | .nat64 => ⟨#v[0x64, 0xff9b, 0, 0, 0, 0, high, low]⟩
  | .sixToFour lower =>
      ⟨#v[0x2002, high, low, lower[0], lower[1], lower[2], lower[3], lower[4]]⟩

theorem toNat_fromBeBytes (high low : UInt8)
    : (fromBeBytes high low).toNat = high.toNat * 256 + low.toNat := by
  have below := low.toNat_lt
  have shifted : high.toUInt16.toNat <<< 8 % 2 ^ 16 = 2 ^ 8 * high.toNat := by
    have small := high.toNat_lt
    rw [UInt8.toNat_toUInt16, Nat.shiftLeft_eq]
    omega
  unfold fromBeBytes
  rw [UInt16.toNat_or, UInt16.toNat_shiftLeft]
  change (high.toUInt16.toNat <<< 8 % 2 ^ 16) ||| low.toUInt16.toNat = _
  rw [shifted, UInt8.toNat_toUInt16, ← Nat.two_pow_add_eq_or_of_lt below]
  omega

/-- The octets of a segment are those it was made of. -/
theorem toBeBytes_fromBeBytes (high low : UInt8)
    : toBeBytes (fromBeBytes high low) = (high, low) := by
  have value := toNat_fromBeBytes high low
  have highBelow := high.toNat_lt
  have lowBelow := low.toNat_lt
  refine Prod.ext (UInt8.toNat_inj.mp ?_) (UInt8.toNat_inj.mp ?_)
  · unfold toBeBytes
    rw [UInt16.toNat_toUInt8, UInt16.toNat_shiftRight, value, Nat.shiftRight_eq_div_pow]
    change (_ / 2 ^ 8) % 2 ^ 8 = high.toNat
    omega
  · unfold toBeBytes
    rw [UInt16.toNat_toUInt8, value]
    change _ = low.toNat
    omega

theorem Ipv4Addr.eq_of_octets (ip : Ipv4Addr)
    : (⟨#v[ip.octet 0, ip.octet 1, ip.octet 2, ip.octet 3]⟩ : Ipv4Addr) = ip := by
  obtain ⟨⟨⟨octets⟩, size⟩⟩ := ip
  match octets, size with
  | [a, b, c, d], _ => rfl

/-- Two segments hold an address. -/
theorem Ipv4Addr.eq_of_segments {first second : Ipv4Addr}
    (sameHigh
      : fromBeBytes (first.octet 0) (first.octet 1) = fromBeBytes (second.octet 0) (second.octet 1))
    (sameLow
      : fromBeBytes (first.octet 2) (first.octet 3) = fromBeBytes (second.octet 2) (second.octet 3))
    : first = second := by
  have high := congrArg toBeBytes sameHigh
  have low := congrArg toBeBytes sameLow
  rw [toBeBytes_fromBeBytes, toBeBytes_fromBeBytes, Prod.mk.injEq] at high low
  rw [← first.eq_of_octets, ← second.eq_of_octets, high.1, high.2, low.1, low.2]

/-- No embedding takes two addresses for one. -/
theorem Ipv6Embedding.embed_injective (embedding : Ipv6Embedding)
    : Function.Injective embedding.embed := by
  intro first second same
  have sameSegment (index : Nat)
      : (embedding.embed first).segment index = (embedding.embed second).segment index :=
    congrArg (·.segment index) same
  cases embedding with
  | ipv4Mapped => exact Ipv4Addr.eq_of_segments (sameSegment 6) (sameSegment 7)
  | ipv4Compatible => exact Ipv4Addr.eq_of_segments (sameSegment 6) (sameSegment 7)
  | nat64 => exact Ipv4Addr.eq_of_segments (sameSegment 6) (sameSegment 7)
  | sixToFour lower => exact Ipv4Addr.eq_of_segments (sameSegment 1) (sameSegment 2)

theorem Ipv6Embedding.toIpv4Mapped_embed (embedding : Ipv6Embedding) (ip : Ipv4Addr)
    : (embedding.embed ip).toIpv4Mapped
      = match embedding with
        | .ipv4Mapped => some ip
        | _ => none := by
  cases embedding with
  | ipv4Mapped =>
      have isMapped
          : (Ipv6Embedding.ipv4Mapped.embed ip).segments.take 6 = #v[0, 0, 0, 0, 0, 0xffff] :=
        rfl
      refine (if_pos isMapped).trans ?_
      change
        some (⟨#v[(toBeBytes (fromBeBytes (ip.octet 0) (ip.octet 1))).1,
          (toBeBytes (fromBeBytes (ip.octet 0) (ip.octet 1))).2,
          (toBeBytes (fromBeBytes (ip.octet 2) (ip.octet 3))).1,
          (toBeBytes (fromBeBytes (ip.octet 2) (ip.octet 3))).2]⟩ : Ipv4Addr) = some ip
      rw [toBeBytes_fromBeBytes, toBeBytes_fromBeBytes, ip.eq_of_octets]
  | ipv4Compatible =>
      refine if_neg fun same => ?_
      have sixth : (0 : UInt16) = 0xffff :=
        congrArg (fun segments => segments.toList.getD 5 0) same
      exact absurd sixth (by decide)
  | nat64 =>
      refine if_neg fun same => ?_
      have first : (0x64 : UInt16) = 0 :=
        congrArg (fun segments => segments.toList.getD 0 0) same
      exact absurd first (by decide)
  | sixToFour lower =>
      refine if_neg fun same => ?_
      have first : (0x2002 : UInt16) = 0 :=
        congrArg (fun segments => segments.toList.getD 0 0) same
      exact absurd first (by decide)

------------------------------------------------------------
-- Printing
------------------------------------------------------------

def Ipv4Addr.toString (ip : Ipv4Addr) : String :=
  ".".intercalate (ip.octets.toList.map fun octet => s!"{octet}")

/-- The groups of a part of an IPv6 address, in lower case without leading zeros. -/
def fmtSubslice (segments : List UInt16) : String :=
  ":".intercalate (segments.map fun segment => String.ofList (Nat.toDigits 16 segment.toNat))

/-- A run of segments. -/
structure Span where
  start : Nat
  len : Nat

/-- The first of the longest runs of zero segments, among those up to here and in all. -/
def longestZeroes (segments : List UInt16) : Span :=
  (segments.zipIdx.foldl
    (fun (longest, current) (segment, index) =>
      if segment = 0 then
        let current : Span :=
          { start := if current.len = 0 then index else current.start, len := current.len + 1 }
        (if longest.len < current.len then current else longest, current)
      else (longest, ⟨0, 0⟩))
    ((⟨0, 0⟩ : Span), (⟨0, 0⟩ : Span))).1

def Ipv6Addr.toString (ip : Ipv6Addr) : String :=
  match ip.toIpv4Mapped with
  | some ipv4 => "::ffff:" ++ ipv4.toString
  | none =>
      let segments := ip.segments.toList
      let zeroes := longestZeroes segments
      if 1 < zeroes.len then
        fmtSubslice (segments.take zeroes.start) ++ "::"
          ++ fmtSubslice (segments.drop (zeroes.start + zeroes.len))
      else fmtSubslice segments

def IpAddr.toString : IpAddr → String
  | .v4 ip => ip.toString
  | .v6 ip => ip.toString

def SocketAddr.toString : SocketAddr → String
  | .v4 ip port => s!"{ip.toString}:{port}"
  | .v6 ip port _ scopeId =>
      if scopeId = 0 then s!"[{ip.toString}]:{port}" else s!"[{ip.toString}%{scopeId}]:{port}"

------------------------------------------------------------
-- Reading
------------------------------------------------------------

/-- The value of a digit of a radix of at most 16. -/
def toDigit (radix : Nat) (char : Char) : Option Nat :=
  let value :=
    if char.isDigit then some (char.toNat - '0'.toNat)
    else if 'a' ≤ char ∧ char ≤ 'f' then some (char.toNat - 'a'.toNat + 10)
    else if 'A' ≤ char ∧ char ≤ 'F' then some (char.toNat - 'A'.toNat + 10)
    else none
  value.filter (· < radix)

/-- Reads a nonempty run of at most `maxDigits` digits. -/
def readNumber (radix maxDigits : Nat) (allowZeroPrefix : Bool) (chars : List Char)
    : Option (Nat × List Char) :=
  let isDigit (char : Char) : Bool := (toDigit radix char).isSome
  let digits := chars.takeWhile isDigit
  if digits = [] ∨ maxDigits < digits.length then none
  else if !allowZeroPrefix && digits.head? = some '0' && 1 < digits.length then none
  else
    some ((digits.filterMap (toDigit radix)).foldl (fun value digit => value * radix + digit) 0,
      chars.dropWhile isDigit)

def readGivenChar (wanted : Char) : List Char → Option (List Char)
  | [] => none
  | char :: rest => if char = wanted then some rest else none

/-- Reads an item of a list, behind a separator unless it is the first. -/
def readSeparator {Item : Type} (separator : Char) (index : Nat)
    (inner : List Char → Option (Item × List Char)) (chars : List Char)
    : Option (Item × List Char) :=
  if index = 0 then inner chars else (readGivenChar separator chars).bind inner

/-- Reads the octet at a place of an IPv4 address. -/
def readOctet (index : Nat) (chars : List Char) : Option (UInt8 × List Char) := do
  let (value, rest) ← readSeparator '.' index (readNumber 10 3 false) chars
  if value < 256 then some (value.toUInt8, rest) else none

def readIpv4Addr (chars : List Char) : Option (Ipv4Addr × List Char) := do
  let (a, rest) ← readOctet 0 chars
  let (b, rest) ← readOctet 1 rest
  let (c, rest) ← readOctet 2 rest
  let (d, rest) ← readOctet 3 rest
  return (⟨#v[a, b, c, d]⟩, rest)

/-- Reads as many groups as there are slots, or fewer; the last two may be an IPv4 address, which
the second result tells.
-/
def readGroups : Nat → Nat → List Char → List UInt16 × Bool × List Char
  | 0, _, chars => ([], false, chars)
  | slots + 1, index, chars =>
      let ipv4 := if 0 < slots then readSeparator ':' index readIpv4Addr chars else none
      match ipv4 with
      | some (ip, rest) =>
          ([fromBeBytes (ip.octet 0) (ip.octet 1), fromBeBytes (ip.octet 2) (ip.octet 3)], true,
            rest)
      | none =>
          match readSeparator ':' index (readNumber 16 4 true) chars with
          | some (group, rest) =>
              let (groups, embedded, rest) := readGroups slots (index + 1) rest
              (group.toUInt16 :: groups, embedded, rest)
          | none => ([], false, chars)

/-- The address of eight groups. -/
def Ipv6Addr.ofGroups (groups : List UInt16) : Ipv6Addr where
  segments := .ofFn fun index => groups.getD index 0

def readIpv6Addr (chars : List Char) : Option (Ipv6Addr × List Char) :=
  let (head, embedded, rest) := readGroups 8 0 chars
  if head.length = 8 then some (.ofGroups head, rest)
  else if embedded then none
  else do
    let rest ← readGivenChar ':' rest
    let rest ← readGivenChar ':' rest
    let (tail, _, rest) := readGroups (8 - (head.length + 1)) 0 rest
    let zeroes := List.replicate (8 - head.length - tail.length) 0
    return (.ofGroups (head ++ zeroes ++ tail), rest)

/-- `text.parse::<IpAddr>()`. -/
def IpAddr.parse (text : String) : Option IpAddr :=
  let read : Option (IpAddr × List Char) :=
    match readIpv4Addr text.toList with
    | some (ip, rest) => some (.v4 ip, rest)
    | none => (readIpv6Addr text.toList).map fun (ip, rest) => (.v6 ip, rest)
  match read with
  | some (ip, []) => some ip
  | _ => none

------------------------------------------------------------
-- The characters of an address
------------------------------------------------------------

/-- Hexadecimal digits, dots and colons. -/
def isAddressChar (char : Char) : Bool :=
  (toDigit 16 char).isSome || char = '.' || char = ':'

/-- A reader consumed characters of an address only. -/
def Consumed (chars rest : List Char) : Prop :=
  ∃ read, chars = read ++ rest ∧ ∀ char ∈ read, isAddressChar char = true

variable {chars middle rest : List Char}

theorem Consumed.refl (chars : List Char) : Consumed chars chars :=
  ⟨[], rfl, fun _ member => (List.not_mem_nil member).elim⟩

theorem Consumed.trans (first : Consumed chars middle) (second : Consumed middle rest)
    : Consumed chars rest := by
  obtain ⟨read, rfl, onlyFirst⟩ := first
  obtain ⟨more, rfl, onlySecond⟩ := second
  refine ⟨read ++ more, (List.append_assoc _ _ _).symm, fun char member => ?_⟩
  exact (List.mem_append.mp member).elim (onlyFirst char) (onlySecond char)

theorem isAddressChar_of_toDigit {radix : Nat} (small : radix ≤ 16) {char : Char}
    (digit : (toDigit radix char).isSome = true)
    : isAddressChar char = true := by
  obtain ⟨value, isValue⟩ := Option.isSome_iff_exists.mp digit
  obtain ⟨read, below⟩ := Option.filter_eq_some_iff.mp isValue
  have isHex : toDigit 16 char = some value :=
    Option.filter_eq_some_iff.mpr
      ⟨read, decide_eq_true ((of_decide_eq_true below).trans_le small)⟩
  simp [isAddressChar, isHex]

theorem readNumber_consumed {radix maxDigits value : Nat} {allowZeroPrefix : Bool}
    (small : radix ≤ 16)
    (read : readNumber radix maxDigits allowZeroPrefix chars = some (value, rest))
    : Consumed chars rest := by
  unfold readNumber at read
  simp only at read
  split at read
  · cases read
  · split at read
    · cases read
    · cases read
      refine ⟨_, List.takeWhile_append_dropWhile.symm, fun char member => ?_⟩
      have digit : (toDigit radix char).isSome = true :=
        List.mem_takeWhile_imp (p := fun char => (toDigit radix char).isSome) member
      exact isAddressChar_of_toDigit small digit

theorem readGivenChar_consumed {wanted : Char} (isOne : isAddressChar wanted = true)
    (read : readGivenChar wanted chars = some rest)
    : Consumed chars rest := by
  unfold readGivenChar at read
  split at read
  · cases read
  · rename_i char others
    split at read
    · rename_i same
      cases read
      refine ⟨[char], rfl, fun other member => ?_⟩
      rw [List.mem_singleton.mp member, same]
      exact isOne
    · cases read

theorem readSeparator_consumed {Item : Type} {separator : Char} {index : Nat}
    {inner : List Char → Option (Item × List Char)} {item : Item}
    (isOne : isAddressChar separator = true)
    (consumes : ∀ {before after item}, inner before = some (item, after) → Consumed before after)
    (read : readSeparator separator index inner chars = some (item, rest))
    : Consumed chars rest := by
  unfold readSeparator at read
  split at read
  · exact consumes read
  · obtain ⟨between, given, inside⟩ := Option.bind_eq_some_iff.mp read
    exact (readGivenChar_consumed isOne given).trans (consumes inside)

theorem readOctet_consumed {index : Nat} {octet : UInt8}
    (read : readOctet index chars = some (octet, rest))
    : Consumed chars rest := by
  obtain ⟨⟨value, after⟩, number, small⟩ := Option.bind_eq_some_iff.mp read
  simp only at small
  split at small
  · cases small
    exact readSeparator_consumed (by decide) (readNumber_consumed (by decide)) number
  · cases small

theorem readIpv4Addr_consumed {ip : Ipv4Addr} (read : readIpv4Addr chars = some (ip, rest))
    : Consumed chars rest := by
  obtain ⟨⟨a, afterA⟩, readA, read⟩ := Option.bind_eq_some_iff.mp read
  obtain ⟨⟨b, afterB⟩, readB, read⟩ := Option.bind_eq_some_iff.mp read
  obtain ⟨⟨c, afterC⟩, readC, read⟩ := Option.bind_eq_some_iff.mp read
  obtain ⟨⟨d, afterD⟩, readD, read⟩ := Option.bind_eq_some_iff.mp read
  cases read
  exact (((readOctet_consumed readA).trans (readOctet_consumed readB)).trans
    (readOctet_consumed readC)).trans (readOctet_consumed readD)

/-- By induction over the slots. -/
theorem readGroups_consumed (slots index : Nat) (chars : List Char)
    : Consumed chars (readGroups slots index chars).2.2 := by
  induction slots generalizing index chars with
  | zero => exact .refl chars
  | succ slots ih =>
      unfold readGroups
      simp only
      split
      · rename_i ip rest embedded
        split at embedded
        · exact readSeparator_consumed (by decide) readIpv4Addr_consumed embedded
        · cases embedded
      · split
        · rename_i group rest read
          exact (readSeparator_consumed (by decide) (readNumber_consumed (by decide)) read).trans
            (ih (index + 1) rest)
        · exact .refl chars

theorem readIpv6Addr_consumed {ip : Ipv6Addr} (read : readIpv6Addr chars = some (ip, rest))
    : Consumed chars rest := by
  have head := readGroups_consumed 8 0 chars
  unfold readIpv6Addr at read
  simp only at read
  split at read
  · cases read
    exact head
  · split at read
    · cases read
    · obtain ⟨afterFirst, first, read⟩ := Option.bind_eq_some_iff.mp read
      obtain ⟨afterSecond, second, read⟩ := Option.bind_eq_some_iff.mp read
      cases read
      exact ((head.trans (readGivenChar_consumed (by decide) first)).trans
        (readGivenChar_consumed (by decide) second)).trans (readGroups_consumed _ 0 afterSecond)

/-- A text that reads as an address has characters of an address only. -/
theorem IpAddr.parse_chars {text : String} {ip : IpAddr} (read : IpAddr.parse text = some ip)
    {char : Char} (member : char ∈ text.toList)
    : isAddressChar char = true := by
  have all : Consumed text.toList [] := by
    unfold IpAddr.parse at read
    simp only at read
    split at read
    · rename_i found parsed
      split at parsed
      · rename_i ipv4 rest isIpv4
        cases parsed
        exact readIpv4Addr_consumed isIpv4
      · obtain ⟨⟨ipv6, rest⟩, isIpv6, same⟩ := Option.map_eq_some_iff.mp parsed
        cases same
        exact readIpv6Addr_consumed isIpv6
    · cases read
  obtain ⟨consumed, same, only⟩ := all
  rw [List.append_nil] at same
  exact only char (same ▸ member)

/-- The code points of these characters. -/
theorem isAddressChar_bounds {char : Char} (isOne : isAddressChar char = true)
    : 46 ≤ char.toNat ∧ char.toNat ≤ 102 := by
  simp only [isAddressChar, Bool.or_eq_true, decide_eq_true_eq] at isOne
  rcases isOne with (digit | rfl) | rfl
  · obtain ⟨value, isValue⟩ := Option.isSome_iff_exists.mp digit
    have read := (Option.filter_eq_some_iff.mp isValue).1
    -- Each range of digits lies between the dot and the letter `f`.
    have between {low high : Char} (inLow : low ≤ char) (inHigh : char ≤ high)
        (lower : 46 ≤ low.toNat) (upper : high.toNat ≤ 102)
        : 46 ≤ char.toNat ∧ char.toNat ≤ 102 :=
      ⟨lower.trans inLow, Nat.le_trans inHigh upper⟩
    split at read
    · rename_i isDigit
      obtain ⟨low, high⟩ := Bool.and_eq_true_iff.mp isDigit
      exact between (of_decide_eq_true low) (of_decide_eq_true high) (by decide) (by decide)
    · split at read
      · rename_i isLower
        exact between isLower.1 isLower.2 (by decide) (by decide)
      · split at read
        · rename_i isUpper
          exact between isUpper.1 isUpper.2 (by decide) (by decide)
        · cases read
  · decide
  · decide

example : (IpAddr.parse "2001:DB8::1").map IpAddr.toString = some "2001:db8::1" := by
  decide +kernel

example : (IpAddr.parse "::ffff:127.0.0.1").map IpAddr.toString = some "::ffff:127.0.0.1" := by
  decide +kernel

example : IpAddr.parse "127.0.0.01" = none := by decide +kernel

end IpAddress
