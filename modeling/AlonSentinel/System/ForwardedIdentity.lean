import AlonSentinel.Api.RequestContext
import AlonSentinel.Foundation.PrintedAddresses

/-! The identity of a client behind a proxy that appends the client's address to the
`x-forwarded-for` value the client sent. The address is read from the front of that list, where
the client's own value stands.
-/

namespace AlonSentinel.System

open Api
open IpAddress
open UnicodeText

/-- `$proxy_add_x_forwarded_for`. -/
def proxyAddXForwardedFor (sent : Option HeaderValue) (remoteAddr : String) : HeaderValue :=
  match sent with
  | some value => value ++ ", " ++ remoteAddr
  | none => remoteAddr

/-- The context of a request from `remoteAddr` behind a proxy. -/
def proxiedContext (settings : ProxySettings) (peer : SocketAddr)
    (userAgent : Option HeaderValue) (remoteAddr : String) (sent : Option HeaderValue)
    : Except ApiError RequestContext :=
  RequestContext.fromRequestParts settings
    { connectInfo := some peer
      xForwardedFor := some (proxyAddXForwardedFor sent remoteAddr)
      userAgent }

/-- Two requests are counted as those of one client. -/
structure SameIdentity (first second : Except ApiError RequestContext) : Prop where
  ipAddress : first.toOption.map (·.ipAddress) = second.toOption.map (·.ipAddress)
  rateLimitKey
    : ∀ bucket,
        first.toOption.map (authRateLimitKey bucket)
        = second.toOption.map (authRateLimitKey bucket)

/-- The address that a value sent by a client begins with, as text; without an item the client's
own. A value that does not begin with an address, or is no text, has none.
-/
def claimedAddress (remoteAddr : String) (sent : Option HeaderValue) : Option String :=
  let item :=
    match sent with
    | none => some remoteAddr
    | some value =>
        value.toStr.map fun text => ((headerItems text).find? (· ≠ "")).getD remoteAddr
  (item.bind IpAddr.parse).map IpAddr.toString

------------------------------------------------------------
-- The header behind the proxy
------------------------------------------------------------

section Header

variable {remoteAddr : String} {ip : IpAddr} (address : IpAddr.parse remoteAddr = some ip)

include address

theorem remoteAddr_isText : remoteAddr.toList.all isTextChar = true := by
  refine List.all_eq_true.mpr fun char member => ?_
  obtain ⟨low, high⟩ := isAddressChar_bounds (IpAddr.parse_chars address member)
  have inRange : 32 ≤ char.toNat ∧ char.toNat < 127 := by omega
  simp [isTextChar, inRange]

/-- A header is as much text as what the client sent. -/
theorem toStr_append (value : HeaderValue)
    : HeaderValue.toStr (value ++ ", " ++ remoteAddr)
      = (HeaderValue.toStr value).map fun text => text ++ ", " ++ remoteAddr := by
  have separator : ", ".toList.all isTextChar = true := by decide
  unfold HeaderValue.toStr
  rw [String.toList_append, String.toList_append, List.all_append, List.all_append, separator,
    remoteAddr_isText address, Bool.and_true, Bool.and_true]
  split <;> rfl

/-- An address is a single item. -/
theorem remoteAddr_plain
    : ',' ∉ remoteAddr.toList ∧ trimChars remoteAddr.toList = remoteAddr.toList := by
  refine ⟨fun member => ?_, IpAddr.trimChars_of_parse address⟩
  exact absurd (isAddressChar_bounds (IpAddr.parse_chars address member)).1 (by decide)

theorem headerItems_remoteAddr : headerItems remoteAddr = [remoteAddr] := by
  obtain ⟨noComma, trimmed⟩ := remoteAddr_plain address
  rw [headerItems, List.splitOn_eq_singleton noComma, List.map_singleton, trim,
    String.toList_ofList, trimmed, String.ofList_toList]

/-- The proxy adds one item behind those that the client sent. -/
theorem headerItems_append (text : String)
    : headerItems (text ++ ", " ++ remoteAddr) = headerItems text ++ [remoteAddr] := by
  obtain ⟨noComma, trimmed⟩ := remoteAddr_plain address
  have chars
      : (text ++ ", " ++ remoteAddr).toList
        = text.toList ++ ',' :: (' ' :: remoteAddr.toList) := by
    simp
  have last : (' ' :: remoteAddr.toList).splitOn ',' = [' ' :: remoteAddr.toList] :=
    List.splitOn_eq_singleton (by simpa using noComma)
  rw [headerItems, chars, List.splitOn_append_cons_self, last, List.map_append,
    List.map_singleton, trim, String.toList_ofList, trimChars_cons (by decide), trimmed,
    String.ofList_toList, headerItems]

theorem remoteAddr_ne_empty : remoteAddr ≠ "" := by
  rintro rfl
  have unread : IpAddr.parse "" = none := by decide +kernel
  rw [unread] at address
  cases address

/-- What is read from the header behind the proxy is the address that the client claims. -/
theorem extractForwardedIpAddress_toOption (peer : Option SocketAddr)
    (sent userAgent : Option HeaderValue)
    : (extractForwardedIpAddress
          { connectInfo := peer
            xForwardedFor := some (proxyAddXForwardedFor sent remoteAddr)
            userAgent }).toOption
      = claimedAddress remoteAddr sent := by
  have own : [remoteAddr].find? (· ≠ "") = some remoteAddr := by
    simp [remoteAddr_ne_empty address]
  unfold extractForwardedIpAddress claimedAddress
  cases sent with
  | none =>
      have isText : HeaderValue.toStr remoteAddr = some remoteAddr :=
        if_pos (remoteAddr_isText address)
      simp only [proxyAddXForwardedFor, Option.bind_some, isText,
        headerItems_remoteAddr address, own, address]
      rfl
  | some value =>
      simp only [proxyAddXForwardedFor, Option.bind_some, toStr_append address]
      cases value.toStr with
      | none => rfl
      | some text =>
          have first
              : (headerItems (text ++ ", " ++ remoteAddr)).find? (· ≠ "")
                = some (((headerItems text).find? (· ≠ "")).getD remoteAddr) := by
            rw [headerItems_append address, List.find?_append, own]
            cases (headerItems text).find? (· ≠ "") <;> rfl
          simp only [Option.map_some, first, Option.bind_some]
          cases IpAddr.parse (((headerItems text).find? (· ≠ "")).getD remoteAddr) <;> rfl

end Header

------------------------------------------------------------
-- Two requests of one client
------------------------------------------------------------

variable {settings : ProxySettings} {peer : SocketAddr} {remoteAddr : String}

/-- Two requests that differ in what the client sent are counted as those of one client exactly
when the client claims the same address in both.
-/
theorem sameIdentity_iff (trusts : settings.trustProxyHeaders = true)
    (trusted : peer.ip ∈ settings.trustedProxyIps)
    (address : (IpAddr.parse remoteAddr).isSome = true)
    (userAgent first second : Option HeaderValue)
    : SameIdentity (proxiedContext settings peer userAgent remoteAddr first)
          (proxiedContext settings peer userAgent remoteAddr second)
      ↔ claimedAddress remoteAddr first = claimedAddress remoteAddr second := by
  obtain ⟨ip, isAddress⟩ := Option.isSome_iff_exists.mp address
  have behindProxy : (settings.trustProxyHeaders && settings.trustedProxyIps.contains peer.ip)
      = true := by
    rw [trusts, List.contains_iff_mem.mpr trusted, Bool.true_and]
  have identity (sent : Option HeaderValue)
      : (proxiedContext settings peer userAgent remoteAddr sent).toOption.map (·.ipAddress)
        = claimedAddress remoteAddr sent := by
    rw [← extractForwardedIpAddress_toOption isAddress (some peer) sent userAgent]
    unfold proxiedContext RequestContext.fromRequestParts extractRequestIpAddress
    simp only [behindProxy, if_true]
    cases extractForwardedIpAddress
      { connectInfo := some peer
        xForwardedFor := some (proxyAddXForwardedFor sent remoteAddr)
        userAgent } <;> rfl
  constructor
  · intro same
    rw [← identity first, ← identity second]
    exact same.ipAddress
  · intro same
    have sameAddress := (identity first).trans (same.trans (identity second).symm)
    refine ⟨sameAddress, fun bucket => ?_⟩
    have keys (context : Except ApiError RequestContext)
        : context.toOption.map (authRateLimitKey bucket)
          = (context.toOption.map (·.ipAddress)).map fun ipAddress =>
              { bucket, ipAddress : AuthRateLimitKey } := by
      rw [Option.map_map]
      rfl
    rw [keys, keys, sameAddress]

def smallProxy : SocketAddr := .v4 ⟨#v[127, 0, 0, 1]⟩ 8080

def smallSettings : ProxySettings where
  trustProxyHeaders := true
  trustedProxyIps := [smallProxy.ip]

/-- Items without an address before its own do not change the identity of a client. -/
theorem sameIdentity_iff_blankItems
    : SameIdentity (proxiedContext smallSettings smallProxy none "203.0.113.10" none)
        (proxiedContext smallSettings smallProxy none "203.0.113.10" (some " , ")) := by
  refine (sameIdentity_iff rfl List.mem_cons_self ?_ none none (some " , ")).mpr ?_
  · decide +kernel
  · decide +kernel

/-- A client that sends an address of its choice is counted under that address. -/
theorem client_chooses_identity
    : ¬∀ (settings : ProxySettings) (peer : SocketAddr) (remoteAddr : String)
          (userAgent first second : Option HeaderValue),
        settings.trustProxyHeaders = true
        → peer.ip ∈ settings.trustedProxyIps
        → (IpAddr.parse remoteAddr).isSome = true
        → SameIdentity (proxiedContext settings peer userAgent remoteAddr first)
            (proxiedContext settings peer userAgent remoteAddr second) := by
  intro same
  have isAddress : (IpAddr.parse "203.0.113.10").isSome = true := by decide +kernel
  have sameAddress := (same smallSettings smallProxy "203.0.113.10" none none
    (some "198.51.100.8") rfl List.mem_cons_self isAddress).ipAddress
  revert sameAddress
  decide +kernel

end AlonSentinel.System
