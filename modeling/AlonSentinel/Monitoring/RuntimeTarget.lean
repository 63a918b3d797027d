import AlonSentinel.Foundation.IpAddress

/-! The target of an HTTP or SSL check: the parsed URL with the addresses that its host resolved to
when the check started. What the resolver answers is an input of each check.
-/

namespace AlonSentinel.Monitoring

open IpAddress

------------------------------------------------------------
-- Public addresses
------------------------------------------------------------

def isPublicIpv4 (ip : Ipv4Addr) : Bool :=
  let a := ip.octet 0
  let b := ip.octet 1
  let c := ip.octet 2
  let d := ip.octet 3
  let isLoopback := a = 127
  let isPrivate := a = 10 || (a = 172 && 16 ≤ b && b ≤ 31) || (a = 192 && b = 168)
  let isLinkLocal := a = 169 && b = 254
  let isUnspecified := a = 0 && b = 0 && c = 0 && d = 0
  let isBroadcast := a = 255 && b = 255 && c = 255 && d = 255
  let isMulticast := 224 ≤ a && a ≤ 239
  let isDocumentation :=
    (a = 192 && b = 0 && c = 2) || (a = 198 && b = 51 && c = 100) || (a = 203 && b = 0 && c = 113)
  !(isLoopback || isPrivate || isLinkLocal || isUnspecified || isBroadcast || isMulticast
    || isDocumentation)

def checkIpIsPublic : IpAddr → Bool
  | .v4 ip => isPublicIpv4 ip
  | .v6 ip =>
      match ip.toIpv4Mapped with
      | some ipv4 => isPublicIpv4 ipv4
      | none =>
          let isLoopback := ip.segments = #v[0, 0, 0, 0, 0, 0, 0, 1]
          let isUnspecified := ip.segments = #v[0, 0, 0, 0, 0, 0, 0, 0]
          let isMulticast := ip.segment 0 &&& 0xff00 = 0xff00
          let isUnicastLinkLocal := ip.segment 0 &&& 0xffc0 = 0xfe80
          let isUniqueLocal := ip.segment 0 &&& 0xfe00 = 0xfc00
          !(isLoopback || isUnspecified || isMulticast || isUnicastLinkLocal || isUniqueLocal)

------------------------------------------------------------
-- Resolving
------------------------------------------------------------

/-- A failed step of a check: its reason and message. -/
structure Failure where
  reason : String
  message : String
  deriving DecidableEq

/-- What the checks read of a `reqwest::Url`. -/
structure Url where
  scheme : String
  hostStr : Option String
  portOrKnownDefault : Option UInt16
  deriving DecidableEq

/-- `Url::parse`. -/
abbrev UrlParser := String → Option Url

/-- What the resolver answers for a host and port, or that it fails. -/
abbrev LookupHost := String → Option (List SocketAddr)

structure RuntimeRequestTarget where
  url : Url
  scheme : String
  host : String
  port : UInt16
  resolvedAddrs : List SocketAddr
  deriving DecidableEq

def unresolvedHostname : Failure where
  reason := "connect_error"
  message := "target_url hostname could not be resolved"

def blockedAddress : Failure where
  reason := "blocked_address"
  message := "target_url must not resolve to a loopback, private, or link-local address"

def resolveRuntimeTarget (lookupHost : LookupHost) (host : String) (port : UInt16)
    (validatePublicTarget : Bool)
    : Except Failure (List SocketAddr) :=
  let resolved :=
    match IpAddr.parse host with
    | some ip => some [SocketAddr.new ip port]
    | none => lookupHost s!"{host}:{port}"
  match resolved with
  | none => .error unresolvedHostname
  | some [] => .error unresolvedHostname
  | some answer =>
      let resolved := sortDedup answer
      if validatePublicTarget && resolved.any fun addr => !checkIpIsPublic addr.ip then
        .error blockedAddress
      else .ok resolved

def resolveRuntimeRequestTarget (parseUrl : UrlParser) (lookupHost : LookupHost) (url : String)
    (validatePublicTarget : Bool)
    : Except Failure RuntimeRequestTarget :=
  match parseUrl url with
  | none => .error ⟨"request_error", "target_url is not a valid URL"⟩
  | some parsed =>
      if parsed.scheme ≠ "http" ∧ parsed.scheme ≠ "https" then
        .error ⟨"request_error",
          s!"target_url scheme '{parsed.scheme}' is not allowed; use http or https"⟩
      else
        match parsed.hostStr with
        | none => .error ⟨"request_error", "target_url must have a host"⟩
        | some host =>
            let port := parsed.portOrKnownDefault.getD 80
            match resolveRuntimeTarget lookupHost host port validatePublicTarget with
            | .error failure => .error failure
            | .ok resolved =>
                .ok
                  { url := parsed
                    scheme := parsed.scheme
                    host := host.map Char.toLower
                    port
                    resolvedAddrs := resolved }

/-- What a target says of its addresses: they are all public, if that was asked for. -/
theorem resolveRuntimeTarget_ok {lookupHost : LookupHost} {host : String} {port : UInt16}
    {validatePublicTarget : Bool} {resolved : List SocketAddr}
    (ok : resolveRuntimeTarget lookupHost host port validatePublicTarget = .ok resolved)
    (validated : validatePublicTarget = true) {addr : SocketAddr} (member : addr ∈ resolved)
    : checkIpIsPublic addr.ip = true := by
  unfold resolveRuntimeTarget at ok
  simp only at ok
  split at ok
  · cases ok
  · cases ok
  · split at ok
    · cases ok
    · rename_i allPublic
      cases ok
      simp only [validated, Bool.true_and, List.any_eq_true, Bool.not_eq_true', not_exists,
        not_and, Bool.not_eq_false] at allPublic
      exact allPublic addr member

theorem resolveRuntimeRequestTarget_ok {parseUrl : UrlParser} {lookupHost : LookupHost}
    {url : String} {validatePublicTarget : Bool} {target : RuntimeRequestTarget}
    (ok : resolveRuntimeRequestTarget parseUrl lookupHost url validatePublicTarget = .ok target)
    : parseUrl url = some target.url
      ∧ (target.url.scheme = "http" ∨ target.url.scheme = "https")
      ∧ ∃ host,
          target.url.hostStr = some host
          ∧ target.host = host.map Char.toLower
          ∧ resolveRuntimeTarget lookupHost host target.port validatePublicTarget
            = .ok target.resolvedAddrs := by
  unfold resolveRuntimeRequestTarget at ok
  split at ok
  · cases ok
  · rename_i parsed isParsed
    split at ok
    · cases ok
    · rename_i scheme
      split at ok
      · cases ok
      · rename_i host isHost
        simp only at ok
        split at ok
        · cases ok
        · rename_i resolved isResolved
          cases ok
          exact ⟨isParsed, by tauto, host, isHost, rfl, isResolved⟩

end AlonSentinel.Monitoring
