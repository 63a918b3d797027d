import AlonSentinel.Foundation.MachineIntegers
import AlonSentinel.Monitoring.RuntimeTarget
import AlonSentinel.Worker.IdleDelay
import AlonSentinel.Worker.SaveCheckResult

/-! The certificate check of an HTTPS target. A probe connects twice: once without verifying, to
read the certificate, and once with the verifier of the platform. What each address does under
either configuration is an input; a result comes with the addresses it was connected to.
-/

namespace AlonSentinel.Monitoring

open Domain
open IpAddress
open MachineInteger
open Worker

------------------------------------------------------------
-- Certificates
------------------------------------------------------------

/-- What the probe reads of a parsed certificate; `notAfter` is in seconds. -/
structure X509Certificate where
  notAfter : Int
  subject : String
  issuer : String
  dnsNames : List String
  commonName : Option String

/-- The TLS and X.509 libraries: the names TLS accepts, the certificates that parse, and the
configuration of the platform's verifier, which may be unavailable.
-/
structure TlsLibrary (Certificate : Type) where
  isServerName : String → Bool
  fromDer : Certificate → Except String X509Certificate
  platformVerifier : Except String Unit

def defaultSslExpiryWarningDays : Int := 14
def sslExpiryCriticalDays : Int := 7

/-- Whole days until an instant, from a clock in nanoseconds; both divisions round to zero. -/
def daysRemaining (now : Int) (expiresAt : Timestamp) : Int :=
  truncateI32 (((nanoseconds expiresAt - now).tdiv 1000000000).tdiv 86400)

variable {Certificate : Type} (tls : TlsLibrary Certificate) (now : Int)

def parseCertificateMetadata (certificate : Certificate) (fallbackHost : String)
    : Except String CertificateMetadata :=
  match tls.fromDer certificate with
  | .error error => .error s!"Failed to parse TLS certificate: {error}"
  | .ok cert =>
      -- The instants that `chrono` can represent, in seconds.
      if cert.notAfter < -8334601228800 ∨ 8210266876799 < cert.notAfter then
        .error "TLS certificate expiry timestamp is out of range"
      else
        let expiresAt := seconds cert.notAfter
        .ok
          { expiresAt
            daysRemaining := daysRemaining now expiresAt
            issuer := cert.issuer
            subject := cert.subject
            domain := (cert.dnsNames.head? <|> cert.commonName).getD fallbackHost }

/-- The failure of a certificate that is about to expire. -/
def evaluateCertificateExpiry (metadata : CertificateMetadata) (warningDays : Int)
    : Option Failure :=
  let warningDays := max warningDays (sslExpiryCriticalDays + 1)
  let message :=
    s!"TLS certificate for {metadata.domain} expires in {metadata.daysRemaining} days at "
      ++ Notifications.toRfc3339 metadata.expiresAt
  if metadata.daysRemaining ≤ sslExpiryCriticalDays then
    some ⟨"ssl_certificate_expiring_critical", message⟩
  else if metadata.daysRemaining ≤ warningDays then
    some ⟨"ssl_certificate_expiring_warning", message⟩
  else none

------------------------------------------------------------
-- Connections
------------------------------------------------------------

/-- The configuration that accepts every certificate, and that of the platform's verifier. -/
inductive ClientConfig where
  | inspection
  | validated
  deriving DecidableEq

inductive ConnectOutcome where
  | connected
  | refused (error : String)
  | timedOut

inductive HandshakeOutcome where
  | completed
  | failed (error : String)
  | timedOut

/-- What happens to a connection: how it is opened, and then the handshake. -/
structure Attempt where
  connect : ConnectOutcome
  handshake : HandshakeOutcome

/-- The server behind an address: the certificates it presents, and what it does to each pass. -/
structure Server (Certificate : Type) where
  peerCertificates : Option (List Certificate)
  attempt : ClientConfig → Attempt

/-- The addresses a step connected to, and what came of it. -/
structure Connected (Error Result : Type) where
  addrs : List SocketAddr
  result : Except Error Result

/-- The loop over the addresses; a completed handshake is told by its address. -/
def connectLoop (attempt : SocketAddr → Attempt) (noAddress : Failure)
    : List SocketAddr → Option Failure → Connected Failure SocketAddr
  | [], lastError => ⟨[], .error (lastError.getD noAddress)⟩
  | addr :: rest, _ =>
      let next (failure : Failure) :=
        let later := connectLoop attempt noAddress rest (some failure)
        ⟨addr :: later.addrs, later.result⟩
      match (attempt addr).connect with
      | .refused error => next ⟨"connect_error", error⟩
      | .timedOut =>
          ⟨[addr], .error ⟨"timeout", s!"Timed out connecting to {addr.toString}"⟩⟩
      | .connected =>
          match (attempt addr).handshake with
          | .completed => ⟨[addr], .ok addr⟩
          | .failed error => next ⟨"ssl_certificate_invalid", error⟩
          | .timedOut =>
              ⟨[addr], .error ⟨"timeout",
                s!"Timed out during TLS handshake to {addr.toString}"⟩⟩

variable (servers : SocketAddr → Server Certificate) (target : RuntimeRequestTarget)

def connectTlsWithConfig (clientConfig : ClientConfig) : Connected Failure SocketAddr :=
  if !tls.isServerName target.host then
    ⟨[], .error ⟨"ssl_certificate_invalid", "target_url host is not a valid TLS server name"⟩⟩
  else
    let noAddress : Failure :=
      { reason := "connect_error"
        message :=
          s!"Could not connect to any resolved address for {target.host}:{target.port}" }
    connectLoop (fun addr => (servers addr).attempt clientConfig) noAddress target.resolvedAddrs
      none

/-- The first certificate a server presents. -/
def leafCertificate (server : Server Certificate) : Option Certificate :=
  server.peerCertificates.bind List.head?

/-- A failure, with the certificate that was read before it. -/
structure ProbeFailure where
  failure : Failure
  certificateMetadata : Option CertificateMetadata

def inspectTlsCertificate : Connected ProbeFailure CertificateMetadata :=
  let connected := connectTlsWithConfig tls servers target .inspection
  { addrs := connected.addrs
    result :=
      match connected.result with
      | .error failure => .error ⟨failure, none⟩
      | .ok addr =>
          match leafCertificate (servers addr) with
          | none =>
              .error
                ⟨⟨"ssl_certificate_invalid", "TLS server did not present a certificate"⟩, none⟩
          | some leaf =>
              match parseCertificateMetadata tls now leaf target.host with
              | .error error => .error ⟨⟨"ssl_certificate_invalid", error⟩, none⟩
              | .ok metadata => .ok metadata }

def validateTlsCertificate : Connected Failure Unit :=
  match tls.platformVerifier with
  | .error error => ⟨[], .error ⟨"ssl_certificate_invalid", error⟩⟩
  | .ok () =>
      let connected := connectTlsWithConfig tls servers target .validated
      ⟨connected.addrs, connected.result.map fun _ => ()⟩

def probeTlsCertificate : Connected ProbeFailure CertificateMetadata :=
  let inspection := inspectTlsCertificate tls now servers target
  match inspection.result with
  | .error failure => ⟨inspection.addrs, .error failure⟩
  | .ok inspected =>
      let validation := validateTlsCertificate tls servers target
      { addrs := inspection.addrs ++ validation.addrs
        result :=
          match validation.result with
          | .ok () => .ok inspected
          | .error failure =>
              let reason :=
                if inspected.daysRemaining < 0 then "ssl_certificate_expired" else failure.reason
              .error ⟨⟨reason, failure.message⟩, some inspected⟩ }

def evaluateSslCertificateForTarget (warningDays : Int)
    : Connected ProbeFailure CertificateMetadata :=
  if target.scheme ≠ "https" then
    ⟨[],
      .error
        ⟨⟨"ssl_certificate_invalid", "SSL certificate checks require an https target_url"⟩,
          none⟩⟩
  else
    let probe := probeTlsCertificate tls now servers target
    { addrs := probe.addrs
      result :=
        match probe.result with
        | .error failure => .error failure
        | .ok metadata =>
            match evaluateCertificateExpiry metadata warningDays with
            | some failure => .error ⟨failure, some metadata⟩
            | none => .ok metadata }

------------------------------------------------------------
-- The check
------------------------------------------------------------

/-- The result of a check that fails before there is a response. -/
def failedCheck (elapsedMs : Int) (probe : ProbeFailure) : CheckResult where
  isSuccess := false
  statusCode := none
  responseTimeMs := some elapsedMs
  failureReason := some probe.failure.reason
  errorMessage := some probe.failure.message
  certificateMetadata := probe.certificateMetadata

def checkSslCertificate (parseUrl : UrlParser) (lookupHost : LookupHost) (elapsedMs : Int)
    (url : String) (warningDays : Option Int) (validatePublicTarget : Bool)
    : CheckResult :=
  match resolveRuntimeRequestTarget parseUrl lookupHost url validatePublicTarget with
  | .error failure => failedCheck elapsedMs ⟨failure, none⟩
  | .ok target =>
      let evaluated :=
        evaluateSslCertificateForTarget tls now servers target
          (warningDays.getD defaultSslExpiryWarningDays)
      match evaluated.result with
      | .error failure => failedCheck elapsedMs failure
      | .ok metadata =>
          { isSuccess := true
            statusCode := none
            responseTimeMs := some elapsedMs
            failureReason := none
            errorMessage := none
            certificateMetadata := some metadata }

------------------------------------------------------------
-- The addresses of a probe
------------------------------------------------------------

variable {tls : TlsLibrary Certificate} {now : Int} {servers : SocketAddr → Server Certificate}
  {target : RuntimeRequestTarget}

/-- The loop connects to addresses of its list only, by induction over the list. -/
theorem connectLoop_addrs_subset {attempt : SocketAddr → Attempt} {noAddress : Failure}
    {addrs : List SocketAddr} {lastError : Option Failure}
    : (connectLoop attempt noAddress addrs lastError).addrs ⊆ addrs := by
  induction addrs generalizing lastError with
  | nil => exact List.Subset.refl []
  | cons addr rest ih =>
      have single : [addr] ⊆ addr :: rest :=
        List.cons_subset_cons addr (List.nil_subset rest)
      unfold connectLoop
      simp only
      split
      · exact List.cons_subset_cons addr ih
      · exact single
      · split
        · exact single
        · exact List.cons_subset_cons addr ih
        · exact single

theorem connectTlsWithConfig_addrs_subset {clientConfig : ClientConfig}
    : (connectTlsWithConfig tls servers target clientConfig).addrs ⊆ target.resolvedAddrs := by
  unfold connectTlsWithConfig
  split
  · exact List.nil_subset _
  · exact connectLoop_addrs_subset

theorem probeTlsCertificate_addrs_subset
    : (probeTlsCertificate tls now servers target).addrs ⊆ target.resolvedAddrs := by
  have validation : (validateTlsCertificate tls servers target).addrs ⊆ target.resolvedAddrs := by
    unfold validateTlsCertificate
    split
    · exact List.nil_subset _
    · exact connectTlsWithConfig_addrs_subset
  unfold probeTlsCertificate
  simp only
  split
  · exact connectTlsWithConfig_addrs_subset
  · exact List.append_subset.mpr ⟨connectTlsWithConfig_addrs_subset, validation⟩

/-- The check of a certificate connects to resolved addresses only. -/
theorem evaluateSslCertificateForTarget_addrs_subset {warningDays : Int}
    : (evaluateSslCertificateForTarget tls now servers target warningDays).addrs
      ⊆ target.resolvedAddrs := by
  unfold evaluateSslCertificateForTarget
  split
  · exact List.nil_subset _
  · exact probeTlsCertificate_addrs_subset

end AlonSentinel.Monitoring
