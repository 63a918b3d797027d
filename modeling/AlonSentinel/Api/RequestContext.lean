import AlonSentinel.Api.Error
import AlonSentinel.Foundation.IpAddress
import AlonSentinel.Foundation.UnicodeText

/-! What a request tells of its client: the address that the rate limiters count by, and the user
agent. Behind a trusted proxy the address is read from the `x-forwarded-for` header.
-/

namespace AlonSentinel.Api

open IpAddress
open UnicodeText

/-- A header value: its bytes as characters. -/
abbrev HeaderValue := String

/-- Printable ASCII characters and tabs. -/
def isTextChar (char : Char) : Bool :=
  (32 ≤ char.toNat && char.toNat < 127) || char.toNat = 9

/-- Reads a header value that is text. -/
def HeaderValue.toStr (value : HeaderValue) : Option String :=
  if value.toList.all isTextChar then some value else none

/-- The settings for requests behind a proxy. -/
structure ProxySettings where
  trustProxyHeaders : Bool
  trustedProxyIps : List IpAddr

/-- The parts of a request that are read here, with the address of its peer. -/
structure RequestParts where
  connectInfo : Option SocketAddr
  xForwardedFor : Option HeaderValue
  userAgent : Option HeaderValue

structure RequestContext where
  ipAddress : String
  userAgent : Option String
  deriving DecidableEq

/-- The items of a list in a header, without the white space around them. -/
def headerItems (text : String) : List String :=
  (text.toList.splitOn ',').map fun chars => trim (String.ofList chars)

def extractForwardedIpAddress (parts : RequestParts) : Except ApiError String :=
  match parts.xForwardedFor.bind HeaderValue.toStr with
  | none => .error (.badRequest "missing x-forwarded-for header")
  | some forwardedFor =>
      match (headerItems forwardedFor).find? (· ≠ "") with
      | none => .error (.badRequest "x-forwarded-for header is empty")
      | some forwardedIp =>
          match IpAddr.parse forwardedIp with
          | some ip => .ok ip.toString
          | none =>
              .error (.badRequest "x-forwarded-for header must end with a valid IP address")

def extractRequestIpAddress (settings : ProxySettings) (parts : RequestParts)
    : Except ApiError String :=
  match parts.connectInfo with
  | none => .error (.internal internalServerErrorMessage)
  | some peer =>
      if settings.trustProxyHeaders && settings.trustedProxyIps.contains peer.ip then
        extractForwardedIpAddress parts
      else .ok peer.ip.toString

def RequestContext.fromRequestParts (settings : ProxySettings) (parts : RequestParts)
    : Except ApiError RequestContext := do
  let userAgent := parts.userAgent.bind HeaderValue.toStr
  let ipAddress ← extractRequestIpAddress settings parts
  return { ipAddress, userAgent }

structure AuthRateLimitKey where
  bucket : String
  ipAddress : String
  deriving DecidableEq

/-- What the rate limiters count a request under. -/
def authRateLimitKey (bucket : String) (context : RequestContext) : AuthRateLimitKey where
  bucket := bucket
  ipAddress := context.ipAddress

end AlonSentinel.Api
