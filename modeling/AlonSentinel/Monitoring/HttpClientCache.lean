import AlonSentinel.Foundation.LruCache
import AlonSentinel.Monitoring.TlsProbe

/-! HTTP checks: their clients, the cache of clients that all checks share, and the steps of a
check up to its request. Other checks may run between two steps, so each step is one function.
-/

namespace AlonSentinel.Monitoring

open Caching
open IpAddress

------------------------------------------------------------
-- Clients
------------------------------------------------------------

inductive RedirectPolicy where
  | none
  | limited (maxRedirects : Nat)
  deriving DecidableEq

/-- The settings of a `reqwest::Client`. -/
structure Client where
  redirect : RedirectPolicy
  systemProxy : Bool
  resolveToAddrs : List (String × List SocketAddr)
  deriving DecidableEq

/-- `Client::builder()`. -/
def Client.builder : Client where
  redirect := .limited 10
  systemProxy := true
  resolveToAddrs := []

structure RuntimeHttpClientCacheKey where
  host : String
  resolvedAddrs : List SocketAddr
  deriving DecidableEq

abbrev RuntimeHttpClientCache := LruCache RuntimeHttpClientCacheKey Client

def runtimeHttpClientCache : RuntimeHttpClientCache := .empty 256 (by decide)

/-- Stores a client, unless another check stored one in the meantime. -/
def insertClient (cache : RuntimeHttpClientCache) (key : RuntimeHttpClientCacheKey)
    (client : Client)
    : Client × RuntimeHttpClientCache :=
  match cache.get key with
  | (some existing, used) => (existing, used)
  | (none, _) => (client, cache.put key client)

def RuntimeRequestTarget.cacheKey (target : RuntimeRequestTarget) : RuntimeHttpClientCacheKey where
  host := target.host
  resolvedAddrs := target.resolvedAddrs

/-- The client that a check builds for its target. -/
def runtimeClient (key : RuntimeHttpClientCacheKey) : Client :=
  { Client.builder with
    redirect := .none
    systemProxy := false
    resolveToAddrs := [(key.host, key.resolvedAddrs)] }

------------------------------------------------------------
-- Steps of a check
------------------------------------------------------------

/-- `check_url`, of whose assertions only these decide what it connects to, and
`check_ssl_certificate`.
-/
inductive CheckKind where
  | http (sslCertificateChecksEnabled : Bool) (sslExpiryWarningDays : Option Int)
  | sslCertificate (warningDays : Option Int)

/-- A call of a check, with what the resolver answers it. -/
structure CheckCall where
  kind : CheckKind
  url : String
  validatePublicTarget : Bool
  lookupHost : LookupHost

/-- What a running check does next. -/
inductive CheckPhase where
  | evaluateCertificate (warningDays : Int)
  | lookupClient
  | buildClient
  | send (client : Client)

structure RunningCheck where
  call : CheckCall
  target : RuntimeRequestTarget
  phase : CheckPhase

/-- Resolves the target of a check; without one the check ends. -/
def startCheck (parseUrl : UrlParser) (call : CheckCall) : Option RunningCheck :=
  match resolveRuntimeRequestTarget parseUrl call.lookupHost call.url
      call.validatePublicTarget with
  | .error _ => none
  | .ok target =>
      let phase :=
        match call.kind with
        | .http true warningDays =>
            .evaluateCertificate (warningDays.getD defaultSslExpiryWarningDays)
        | .http false _ => .lookupClient
        | .sslCertificate warningDays =>
            .evaluateCertificate (warningDays.getD defaultSslExpiryWarningDays)
      some { call, target, phase }

/-- The phase behind a certificate that passes; a check of the certificate alone ends there. -/
def afterCertificate (check : RunningCheck) : Option RunningCheck :=
  match check.call.kind with
  | .http _ _ => some { check with phase := .lookupClient }
  | .sslCertificate _ => none

/-- The phase behind the lookup of a client. -/
def afterLookup (check : RunningCheck) : Option Client → RunningCheck
  | some client => { check with phase := .send client }
  | none => { check with phase := .buildClient }

end AlonSentinel.Monitoring
