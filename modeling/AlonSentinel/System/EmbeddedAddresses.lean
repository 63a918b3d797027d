import AlonSentinel.Monitoring.RuntimeTarget

/-! Whether the guard against internal targets sees the IPv4 address within an IPv6 address. It
looks through one of the four embeddings, `::ffff:a.b.c.d`, and takes the others for addresses of
the public network.
-/

namespace AlonSentinel.System

open IpAddress
open Monitoring

/-- The blocks of IPv4 addresses that are not public. -/
def nonPublicBlocks : List Ipv4Block :=
  [⟨⟨#v[127, 0, 0, 0]⟩, 8⟩, ⟨⟨#v[10, 0, 0, 0]⟩, 8⟩, ⟨⟨#v[172, 16, 0, 0]⟩, 12⟩,
    ⟨⟨#v[192, 168, 0, 0]⟩, 16⟩, ⟨⟨#v[169, 254, 0, 0]⟩, 16⟩, ⟨.unspecified, 32⟩,
    ⟨⟨#v[255, 255, 255, 255]⟩, 32⟩, ⟨⟨#v[224, 0, 0, 0]⟩, 4⟩, ⟨⟨#v[192, 0, 2, 0]⟩, 24⟩,
    ⟨⟨#v[198, 51, 100, 0]⟩, 24⟩, ⟨⟨#v[203, 0, 113, 0]⟩, 24⟩]

/-- An IPv4 address is public exactly if it lies in none of the blocks. -/
theorem isPublicIpv4_iff (ip : Ipv4Addr)
    : isPublicIpv4 ip = true ↔ ∀ block ∈ nonPublicBlocks, ¬block.contains ip := by
  simp only [nonPublicBlocks, Ipv4Addr.unspecified, List.forall_mem_cons, Ipv4Block.contains_8_iff,
    Ipv4Block.contains_12_iff, Ipv4Block.contains_16_iff, Ipv4Block.contains_32_iff,
    Ipv4Block.contains_4_iff, Ipv4Block.contains_24_iff]
  simp only [isPublicIpv4, Bool.not_eq_true', Bool.or_eq_false_iff, Bool.and_eq_false_iff,
    decide_eq_false_iff_not, List.not_mem_nil, false_implies, implies_true, and_true, not_and_or,
    and_assoc, or_assoc]

------------------------------------------------------------
-- The four embeddings
------------------------------------------------------------

/-- An address whose first segment lies outside the special ranges is public unless it embeds an
address of its own, is the loopback address, or is unspecified.
-/
theorem checkIpIsPublic_of_segment {ip : Ipv6Addr} (notMapped : ip.toIpv4Mapped = none)
    (notMulticast : ip.segment 0 &&& 0xff00 ≠ 0xff00)
    (notLinkLocal : ip.segment 0 &&& 0xffc0 ≠ 0xfe80)
    (notUniqueLocal : ip.segment 0 &&& 0xfe00 ≠ 0xfc00)
    : checkIpIsPublic (.v6 ip) = true
      ↔ ip.segments ≠ #v[0, 0, 0, 0, 0, 0, 0, 1] ∧ ip.segments ≠ #v[0, 0, 0, 0, 0, 0, 0, 0] := by
  simp [checkIpIsPublic, notMapped, notMulticast, notLinkLocal, notUniqueLocal]

theorem checkIpIsPublic_ipv4Mapped (ip : Ipv4Addr)
    : checkIpIsPublic (.v6 (Ipv6Embedding.ipv4Mapped.embed ip)) = checkIpIsPublic (.v4 ip) := by
  simp only [checkIpIsPublic, Ipv6Embedding.toIpv4Mapped_embed]

/-- Under a nonzero first segment outside the special ranges, every address is public. -/
theorem checkIpIsPublic_of_first {ip : Ipv6Addr} {first : UInt16}
    (notMapped : ip.toIpv4Mapped = none) (isFirst : ip.segment 0 = first) (nonzero : first ≠ 0)
    (notMulticast : first &&& 0xff00 ≠ 0xff00) (notLinkLocal : first &&& 0xffc0 ≠ 0xfe80)
    (notUniqueLocal : first &&& 0xfe00 ≠ 0xfc00)
    : checkIpIsPublic (.v6 ip) = true := by
  subst isFirst
  apply (checkIpIsPublic_of_segment notMapped notMulticast notLinkLocal notUniqueLocal).mpr
  constructor
  · intro isLoopback
    apply nonzero
    rw [Ipv6Addr.segment, isLoopback]
    rfl
  · intro isUnspecified
    apply nonzero
    rw [Ipv6Addr.segment, isUnspecified]
    rfl

theorem checkIpIsPublic_nat64 (ip : Ipv4Addr)
    : checkIpIsPublic (.v6 (Ipv6Embedding.nat64.embed ip)) = true := by
  have first : (Ipv6Embedding.nat64.embed ip).segment 0 = 0x64 := rfl
  apply checkIpIsPublic_of_first (Ipv6Embedding.toIpv4Mapped_embed _ ip) first
  all_goals decide

theorem checkIpIsPublic_sixToFour (lower : Vector UInt16 5) (ip : Ipv4Addr)
    : checkIpIsPublic (.v6 ((Ipv6Embedding.sixToFour lower).embed ip)) = true := by
  have first : ((Ipv6Embedding.sixToFour lower).embed ip).segment 0 = 0x2002 := rfl
  apply checkIpIsPublic_of_first (Ipv6Embedding.toIpv4Mapped_embed _ ip) first
  all_goals decide

/-- Of the addresses `::a.b.c.d`, only the unspecified and the loopback address are not public. -/
theorem checkIpIsPublic_ipv4Compatible (ip : Ipv4Addr)
    : checkIpIsPublic (.v6 (Ipv6Embedding.ipv4Compatible.embed ip)) = true
      ↔ ip ≠ ⟨#v[0, 0, 0, 1]⟩ ∧ ip ≠ .unspecified := by
  have first : (Ipv6Embedding.ipv4Compatible.embed ip).segment 0 = 0 := rfl
  have isEmbedded (other : Ipv4Addr)
      : (Ipv6Embedding.ipv4Compatible.embed ip).segments
          = (Ipv6Embedding.ipv4Compatible.embed other).segments
        ↔ ip = other := by
    rw [← Ipv6Addr.mk.injEq, Ipv6Embedding.ipv4Compatible.embed_injective.eq_iff]
  have isLoopback
      : (Ipv6Embedding.ipv4Compatible.embed ⟨#v[0, 0, 0, 1]⟩).segments
        = #v[0, 0, 0, 0, 0, 0, 0, 1] := by
    decide
  have isUnspecified
      : (Ipv6Embedding.ipv4Compatible.embed .unspecified).segments
        = #v[0, 0, 0, 0, 0, 0, 0, 0] := by
    decide
  rw [checkIpIsPublic_of_segment (Ipv6Embedding.toIpv4Mapped_embed _ ip) (first ▸ by decide)
    (first ▸ by decide) (first ▸ by decide), ← isLoopback, ← isUnspecified, ne_eq, ne_eq,
    isEmbedded, isEmbedded]

------------------------------------------------------------
-- The guard
------------------------------------------------------------

/-- The guard judges an embedded address as the address itself: it looks through the embedding, or
the address is in no block, or it is embedded as the unspecified address.
-/
def SeesThrough (embedding : Ipv6Embedding) (ip : Ipv4Addr) : Prop :=
  embedding = .ipv4Mapped
  ∨ embedding = .ipv4Compatible ∧ ip = .unspecified
  ∨ ∀ block ∈ nonPublicBlocks, ¬block.contains ip

/-- By cases over the embeddings. -/
theorem accepted_embeds_accepted_iff (embedding : Ipv6Embedding) (ip : Ipv4Addr)
    : (checkIpIsPublic (.v6 (embedding.embed ip)) = true → checkIpIsPublic (.v4 ip) = true)
      ↔ SeesThrough embedding ip := by
  have isPublic : checkIpIsPublic (.v4 ip) = true ↔ ∀ block ∈ nonPublicBlocks, ¬block.contains ip :=
    isPublicIpv4_iff ip
  unfold SeesThrough
  cases embedding with
  | ipv4Mapped => simp [checkIpIsPublic_ipv4Mapped]
  | ipv4Compatible =>
      rw [checkIpIsPublic_ipv4Compatible, ← isPublic]
      simp only [reduceCtorEq, false_or, true_and]
      constructor
      · intro accepted
        by_cases isUnspecified : ip = .unspecified
        · exact .inl isUnspecified
        · by_cases isOne : ip = ⟨#v[0, 0, 0, 1]⟩
          -- `::1` is refused as the loopback address, but `0.0.0.1` is accepted anyway.
          · rw [isOne]
            exact .inr (by decide)
          · exact .inr (accepted ⟨isOne, isUnspecified⟩)
      · rintro (isUnspecified | accepted) ⟨_, specified⟩
        · exact absurd isUnspecified specified
        · exact accepted
  | nat64 => simp [checkIpIsPublic_nat64, isPublic]
  | sixToFour lower => simp [checkIpIsPublic_sixToFour, isPublic]

/-- An accepted address embeds an accepted one exactly under this condition, and so does each
address of a target that was validated.
-/
theorem embedded_isPublic_iff (embedding : Ipv6Embedding) (ip : Ipv4Addr)
    : ((checkIpIsPublic (.v6 (embedding.embed ip)) = true → checkIpIsPublic (.v4 ip) = true)
        ↔ SeesThrough embedding ip)
      ∧ ∀ lookupHost host port resolved,
          resolveRuntimeTarget lookupHost host port true = .ok resolved
          → ∀ addr ∈ resolved,
              addr.ip = .v6 (embedding.embed ip)
              → (checkIpIsPublic (.v4 ip) = true ↔ SeesThrough embedding ip) := by
  refine ⟨accepted_embeds_accepted_iff embedding ip, ?_⟩
  intro lookupHost host port resolved isResolved addr member isEmbedded
  have accepted := resolveRuntimeTarget_ok isResolved rfl member
  rw [isEmbedded] at accepted
  rw [← accepted_embeds_accepted_iff]
  exact ⟨fun isPublic _ => isPublic, fun embeds => embeds accepted⟩

/-- A validated target at the embedding of `8.8.8.8`, which lies in no block. -/
theorem embedded_isPublic_resolved
    : SeesThrough .nat64 ⟨#v[8, 8, 8, 8]⟩ :=
  let addr : SocketAddr := .v6 (Ipv6Embedding.nat64.embed ⟨#v[8, 8, 8, 8]⟩) 443 0 0
  ((embedded_isPublic_iff .nat64 ⟨#v[8, 8, 8, 8]⟩).2 (fun _ => some [addr]) "example.org" 443 [addr]
    (by decide +kernel) addr (List.mem_singleton_self addr) rfl).mp (by decide)

/-- The address `10.0.0.1` behind a NAT64 gateway passes for a public one. -/
theorem privateAddress_acceptedThroughNat64
    : ¬∀ (embedding : Ipv6Embedding) (ip : Ipv4Addr),
        checkIpIsPublic (.v6 (embedding.embed ip)) = true → checkIpIsPublic (.v4 ip) = true := by
  intro seesThrough
  have accepted := seesThrough .nat64 ⟨#v[10, 0, 0, 1]⟩ (by decide)
  exact absurd accepted (by decide)

end AlonSentinel.System
