import AlonSentinel.Monitoring.TlsProbe

/-! The two passes of a certificate check. Each pass settles on the first address that it does not
pass over; the check reads its certificate in the first pass and verifies in the second, which may
settle on another server.
-/

namespace AlonSentinel.System

open Domain
open IpAddress
open Monitoring
open Worker

------------------------------------------------------------
-- Where a pass settles
------------------------------------------------------------

/-- A pass goes on behind an address that refuses it or fails the handshake. -/
def PassedOver (attempt : Attempt) : Prop :=
  (∃ error, attempt.connect = .refused error)
  ∨ attempt.connect = .connected ∧ ∃ error, attempt.handshake = .failed error

def Completes (attempt : Attempt) : Prop :=
  attempt.connect = .connected ∧ attempt.handshake = .completed

/-- The first address that is not passed over completes the handshake. -/
def SettlesAt (attempt : SocketAddr → Attempt) (addrs : List SocketAddr) (addr : SocketAddr)
    : Prop :=
  ∃ before after,
    addrs = before ++ addr :: after
    ∧ (∀ other ∈ before, PassedOver (attempt other))
    ∧ Completes (attempt addr)

variable {attempt : SocketAddr → Attempt} {addrs : List SocketAddr} {addr other : SocketAddr}

/-- A pass does not settle behind an address that it does not pass over. -/
theorem settlesAt_cons_of_passedOver {first : SocketAddr} (passed : PassedOver (attempt first))
    : SettlesAt attempt (first :: addrs) addr ↔ SettlesAt attempt addrs addr := by
  constructor
  · rintro ⟨before, after, same, allPassed, completes⟩
    cases before with
    | nil =>
        cases same
        obtain ⟨connected, completed⟩ := completes
        rcases passed with ⟨error, refused⟩ | ⟨_, error, failed⟩
        · rw [connected] at refused
          cases refused
        · rw [completed] at failed
          cases failed
    | cons head before =>
        cases same
        exact ⟨before, after, rfl, fun other member => allPassed other (.tail _ member), completes⟩
  · rintro ⟨before, after, rfl, allPassed, completes⟩
    refine ⟨first :: before, after, rfl, fun other member => ?_, completes⟩
    rcases List.mem_cons.mp member with rfl | later
    · exact passed
    · exact allPassed other later

theorem settlesAt_cons_of_not_passedOver {first : SocketAddr}
    (stays : ¬PassedOver (attempt first))
    : SettlesAt attempt (first :: addrs) addr ↔ addr = first ∧ Completes (attempt first) := by
  constructor
  · rintro ⟨before, after, same, allPassed, completes⟩
    cases before with
    | nil =>
        cases same
        exact ⟨rfl, completes⟩
    | cons head before =>
        cases same
        exact absurd (allPassed first List.mem_cons_self) stays
  · rintro ⟨rfl, completes⟩
    exact ⟨[], addrs, rfl, fun other member => (List.not_mem_nil member).elim, completes⟩

/-- The loop succeeds with the address that the pass settles at, by induction over the list. -/
theorem connectLoop_eq_ok (noAddress : Failure) (lastError : Option Failure)
    : (connectLoop attempt noAddress addrs lastError).result = .ok addr
      ↔ SettlesAt attempt addrs addr := by
  induction addrs generalizing lastError with
  | nil =>
      refine iff_of_false (fun ok => by cases ok) ?_
      rintro ⟨before, after, same, _⟩
      cases before <;> cases same
  | cons first rest ih =>
      unfold connectLoop
      simp only
      cases connect : (attempt first).connect with
      | refused error =>
          exact (ih _).trans (settlesAt_cons_of_passedOver (.inl ⟨error, connect⟩)).symm
      | timedOut =>
          have stays : ¬PassedOver (attempt first) := by simp [PassedOver, connect]
          rw [settlesAt_cons_of_not_passedOver stays, Completes, connect]
          exact iff_of_false (fun ok => by cases ok) (fun settles => by cases settles.2.1)
      | connected =>
          cases handshake : (attempt first).handshake with
          | completed =>
              have stays : ¬PassedOver (attempt first) := by simp [PassedOver, connect, handshake]
              rw [settlesAt_cons_of_not_passedOver stays]
              simp only [Except.ok.injEq]
              exact ⟨fun same => ⟨same.symm, connect, handshake⟩, fun settles => settles.1.symm⟩
          | failed error =>
              exact (ih _).trans
                (settlesAt_cons_of_passedOver (.inr ⟨connect, error, handshake⟩)).symm
          | timedOut =>
              have stays : ¬PassedOver (attempt first) := by simp [PassedOver, connect, handshake]
              rw [settlesAt_cons_of_not_passedOver stays, Completes, handshake]
              exact iff_of_false (fun ok => by cases ok) (fun settles => by cases settles.2.2)

/-- A pass settles at one address only. -/
theorem SettlesAt.unique (settles : SettlesAt attempt addrs addr)
    (also : SettlesAt attempt addrs other)
    : addr = other := by
  have first := (connectLoop_eq_ok ⟨"", ""⟩ none).mpr settles
  rw [(connectLoop_eq_ok ⟨"", ""⟩ none).mpr also] at first
  exact (Except.ok.inj first).symm

------------------------------------------------------------
-- What a passing check reports
------------------------------------------------------------

section Check

variable {Certificate : Type} (tls : TlsLibrary Certificate) (now : Int)
  (servers : SocketAddr → Server Certificate) (target : RuntimeRequestTarget)

/-- One pass over the addresses of a target settles at an address. -/
def PassSettlesAt (clientConfig : ClientConfig) (addr : SocketAddr) : Prop :=
  SettlesAt (fun addr => (servers addr).attempt clientConfig) target.resolvedAddrs addr

/-- The certificate that the first pass reads, and what it says. -/
structure Reads (certificate : Certificate) (metadata : CertificateMetadata) : Prop where
  served
    : ∃ addr,
        PassSettlesAt servers target .inspection addr
        ∧ leafCertificate (servers addr) = some certificate
  parses : parseCertificateMetadata tls now certificate target.host = .ok metadata

/-- The target can be verified: an HTTPS URL with a TLS name, and the verifier is available. -/
structure CanVerify : Prop where
  https : target.scheme = "https"
  serverName : tls.isServerName target.host = true
  platformVerifier : tls.platformVerifier = .ok ()

/-- A certificate that the verifying pass accepted. -/
def AcceptedByVerifying (certificate : Certificate) : Prop :=
  ∃ addr,
    PassSettlesAt servers target .validated addr
    ∧ leafCertificate (servers addr) = some certificate

/-- What a passing check reports was read from a certificate that a verifying handshake accepted. -/
def VouchesFor (result : CheckResult) : Prop :=
  ∀ metadata,
    result.isSuccess = true
    → result.certificateMetadata = some metadata
    → ∃ certificate,
        Reads tls now servers target certificate metadata
        ∧ AcceptedByVerifying servers target certificate

/-- The certificate that is read is not about to expire, and the verifying pass settles on a
server with another one.
-/
def VerifiesOther (warningDays : Int) : Prop :=
  CanVerify tls target
  ∧ ∃ certificate metadata addr,
      Reads tls now servers target certificate metadata
      ∧ evaluateCertificateExpiry metadata warningDays = none
      ∧ PassSettlesAt servers target .validated addr
      ∧ leafCertificate (servers addr) ≠ some certificate

variable {tls : TlsLibrary Certificate} {now : Int} {servers : SocketAddr → Server Certificate}
  {target : RuntimeRequestTarget} {metadata : CertificateMetadata}

theorem connectTlsWithConfig_eq_ok {clientConfig : ClientConfig} {addr : SocketAddr}
    : (connectTlsWithConfig tls servers target clientConfig).result = .ok addr
      ↔ tls.isServerName target.host = true ∧ PassSettlesAt servers target clientConfig addr := by
  unfold connectTlsWithConfig
  cases tls.isServerName target.host with
  | false => simp
  | true => simpa [PassSettlesAt] using connectLoop_eq_ok _ none

theorem inspectTlsCertificate_eq_ok
    : (inspectTlsCertificate tls now servers target).result = .ok metadata
      ↔ tls.isServerName target.host = true
        ∧ ∃ addr certificate,
            PassSettlesAt servers target .inspection addr
            ∧ leafCertificate (servers addr) = some certificate
            ∧ parseCertificateMetadata tls now certificate target.host = .ok metadata := by
  unfold inspectTlsCertificate
  simp only
  constructor
  · intro ok
    split at ok
    · cases ok
    · rename_i addr settled
      obtain ⟨serverName, settles⟩ := connectTlsWithConfig_eq_ok.mp settled
      split at ok
      · cases ok
      · rename_i certificate leaf
        split at ok
        · cases ok
        · rename_i parsed
          cases ok
          exact ⟨serverName, addr, certificate, settles, leaf, parsed⟩
  · rintro ⟨serverName, addr, certificate, settles, leaf, parsed⟩
    rw [connectTlsWithConfig_eq_ok.mpr ⟨serverName, settles⟩]
    simp only [leaf, parsed]

theorem validateTlsCertificate_eq_ok
    : (validateTlsCertificate tls servers target).result = .ok ()
      ↔ tls.platformVerifier = .ok () ∧ tls.isServerName target.host = true
        ∧ ∃ addr, PassSettlesAt servers target .validated addr := by
  unfold validateTlsCertificate
  cases verifier : tls.platformVerifier with
  | error error => simp
  | ok =>
      simp only [true_and]
      constructor
      · intro ok
        cases settled : (connectTlsWithConfig tls servers target .validated).result with
        | error failure =>
            rw [settled] at ok
            cases ok
        | ok addr =>
            obtain ⟨serverName, settles⟩ := connectTlsWithConfig_eq_ok.mp settled
            exact ⟨serverName, addr, settles⟩
      · rintro ⟨serverName, addr, settles⟩
        rw [connectTlsWithConfig_eq_ok.mpr ⟨serverName, settles⟩]
        rfl

/-- When the evaluation of a target passes. -/
theorem evaluateSslCertificateForTarget_eq_ok {warningDays : Int}
    : (evaluateSslCertificateForTarget tls now servers target warningDays).result = .ok metadata
      ↔ CanVerify tls target
        ∧ (∃ certificate, Reads tls now servers target certificate metadata)
        ∧ evaluateCertificateExpiry metadata warningDays = none
        ∧ ∃ addr, PassSettlesAt servers target .validated addr := by
  have probe
      : (probeTlsCertificate tls now servers target).result = .ok metadata
        ↔ (inspectTlsCertificate tls now servers target).result = .ok metadata
          ∧ (validateTlsCertificate tls servers target).result = .ok () := by
    unfold probeTlsCertificate
    simp only
    cases (inspectTlsCertificate tls now servers target).result with
    | error failure => simp
    | ok inspected => cases (validateTlsCertificate tls servers target).result <;> simp
  unfold evaluateSslCertificateForTarget
  constructor
  · intro ok
    split at ok
    · cases ok
    · rename_i https
      simp only at ok
      split at ok
      · cases ok
      · rename_i read probed
        split at ok
        · cases ok
        · rename_i sound
          cases ok
          obtain ⟨inspected, validated⟩ := probe.mp probed
          obtain ⟨serverName, addr, certificate, settles, leaf, parsed⟩ :=
            inspectTlsCertificate_eq_ok.mp inspected
          obtain ⟨verifier, _, accepted⟩ := validateTlsCertificate_eq_ok.mp validated
          exact ⟨⟨not_not.mp https, serverName, verifier⟩,
            ⟨certificate, ⟨addr, settles, leaf⟩, parsed⟩, sound, accepted⟩
  · rintro ⟨canVerify, ⟨certificate, ⟨addr, settles, leaf⟩, parsed⟩, sound, accepted⟩
    have inspected := inspectTlsCertificate_eq_ok.mpr
      ⟨canVerify.serverName, addr, certificate, settles, leaf, parsed⟩
    have validated := validateTlsCertificate_eq_ok.mpr
      ⟨canVerify.platformVerifier, canVerify.serverName, accepted⟩
    rw [if_neg (not_not.mpr canVerify.https)]
    simp only [probe.mpr ⟨inspected, validated⟩, sound]

/-- The check vouches for the certificate it reports exactly when the verifying pass does not settle
on a server with another certificate.
-/
theorem checkSslCertificate_vouches_iff {parseUrl : UrlParser} {lookupHost : LookupHost}
    {elapsedMs : Int} {url : String} {warningDays : Option Int} {validatePublicTarget : Bool}
    (resolved
      : resolveRuntimeRequestTarget parseUrl lookupHost url validatePublicTarget = .ok target)
    : VouchesFor tls now servers target
        (checkSslCertificate tls now servers parseUrl lookupHost elapsedMs url warningDays
          validatePublicTarget)
      ↔ ¬VerifiesOther tls now servers target
          (warningDays.getD defaultSslExpiryWarningDays) := by
  unfold checkSslCertificate
  rw [resolved]
  simp only
  constructor
  · rintro vouches ⟨canVerify, certificate, metadata, addr, reads, sound, settles, other⟩
    have passes := evaluateSslCertificateForTarget_eq_ok.mpr
      ⟨canVerify, ⟨certificate, reads⟩, sound, addr, settles⟩
    rw [passes] at vouches
    obtain ⟨reported, ⟨⟨read, settlesRead, leafRead⟩, _⟩, accepted, settlesAccepted, leaf⟩ :=
      vouches metadata rfl rfl
    obtain ⟨served, settlesServed, leafServed⟩ := reads.served
    obtain rfl := settlesRead.unique settlesServed
    obtain rfl := settlesAccepted.unique settles
    rw [leafRead] at leafServed
    exact other (leaf.trans leafServed)
  · intro same metadata success reported
    cases evaluated : (evaluateSslCertificateForTarget tls now servers target
        (warningDays.getD defaultSslExpiryWarningDays)).result with
    | error failure =>
        rw [evaluated] at success
        cases success
    | ok read =>
        rw [evaluated] at reported
        cases reported
        obtain ⟨canVerify, ⟨certificate, reads⟩, sound, addr, settles⟩ :=
          evaluateSslCertificateForTarget_eq_ok.mp evaluated
        refine ⟨certificate, reads, addr, settles, ?_⟩
        by_contra other
        exact same ⟨canVerify, certificate, metadata, addr, reads, sound, settles, other⟩

end Check

------------------------------------------------------------
-- Two servers of one host
------------------------------------------------------------

/-- Certificates as numbers: certificate one expires in a year, all others in two. -/
def smallTls : TlsLibrary Nat where
  isServerName := fun _ => true
  fromDer := fun certificate =>
    .ok
      { notAfter := if certificate = 1 then 31536000 else 63072000
        subject := "CN=shop.test"
        issuer := "CN=ca.test"
        dnsNames := ["shop.test"]
        commonName := none }
  platformVerifier := .ok ()

def firstAddr : SocketAddr := .v4 ⟨#v[93, 184, 216, 34]⟩ 443
def secondAddr : SocketAddr := .v4 ⟨#v[93, 184, 216, 35]⟩ 443

def smallTarget : RuntimeRequestTarget where
  url := ⟨"https", some "shop.test", some 443⟩
  scheme := "https"
  host := "shop.test"
  port := 443
  resolvedAddrs := [firstAddr, secondAddr]

/-- The first server presents certificate one, which fails verification; the second another. -/
def twoServers (addr : SocketAddr) : Server Nat :=
  if addr = firstAddr then
    { peerCertificates := some [1]
      attempt := fun
        | .inspection => ⟨.connected, .completed⟩
        | .validated => ⟨.connected, .failed "invalid peer certificate: UnknownIssuer"⟩ }
  else
    { peerCertificates := some [2], attempt := fun _ => ⟨.connected, .completed⟩ }

def smallParseUrl : UrlParser := fun _ => some smallTarget.url
def smallLookupHost : LookupHost := fun _ => some [firstAddr, secondAddr]

theorem smallTarget_resolved
    : resolveRuntimeRequestTarget smallParseUrl smallLookupHost "https://shop.test" true
      = .ok smallTarget := by
  have resolved
      : resolveRuntimeTarget smallLookupHost "shop.test" 443 true
        = .ok [firstAddr, secondAddr] := by
    decide +kernel
  have lower : "shop.test".map Char.toLower = "shop.test" := by decide +kernel
  simp [resolveRuntimeRequestTarget, smallParseUrl, smallTarget, resolved, lower]

/-- Both addresses are of one healthy server. -/
theorem checkSslCertificate_vouches_iff_oneServer
    : let servers : SocketAddr → Server Nat :=
        fun _ => { peerCertificates := some [2], attempt := fun _ => ⟨.connected, .completed⟩ }
      VouchesFor smallTls 0 servers smallTarget
        (checkSslCertificate smallTls 0 servers smallParseUrl smallLookupHost 25
          "https://shop.test" none true) := by
  refine (checkSslCertificate_vouches_iff smallTarget_resolved).mpr ?_
  rintro ⟨_, certificate, metadata, addr, reads, _, _, other⟩
  obtain ⟨read, _, leaf⟩ := reads.served
  exact other leaf

/-- A check passes and reports a certificate that no verifying handshake accepted. -/
theorem check_reports_unverified
    : ¬∀ (Certificate : Type) (tls : TlsLibrary Certificate) (now : Int)
          (servers : SocketAddr → Server Certificate) (target : RuntimeRequestTarget)
          (parseUrl : UrlParser) (lookupHost : LookupHost) (elapsedMs : Int) (url : String)
          (warningDays : Option Int) (validatePublicTarget : Bool),
        resolveRuntimeRequestTarget parseUrl lookupHost url validatePublicTarget = .ok target
        → VouchesFor tls now servers target
            (checkSslCertificate tls now servers parseUrl lookupHost elapsedMs url warningDays
              validatePublicTarget) := by
  intro vouches
  have vouchesHere := vouches Nat smallTls 0 twoServers smallTarget smallParseUrl
    smallLookupHost 25 "https://shop.test" none true smallTarget_resolved
  have readsFirst : PassSettlesAt twoServers smallTarget .inspection firstAddr :=
    ⟨[], [secondAddr], rfl, fun _ member => (List.not_mem_nil member).elim, rfl, rfl⟩
  have acceptsSecond : PassSettlesAt twoServers smallTarget .validated secondAddr := by
    refine ⟨[firstAddr], [], rfl, fun other member => ?_, rfl, rfl⟩
    obtain rfl := List.mem_singleton.mp member
    exact .inr ⟨rfl, _, rfl⟩
  have success
      : (checkSslCertificate smallTls 0 twoServers smallParseUrl smallLookupHost 25
          "https://shop.test" none true).isSuccess = true := by
    decide +kernel
  have reported
      : (checkSslCertificate smallTls 0 twoServers smallParseUrl smallLookupHost 25
          "https://shop.test" none true).certificateMetadata.isSome = true := by
    decide +kernel
  obtain ⟨metadata, isReported⟩ := Option.isSome_iff_exists.mp reported
  obtain ⟨certificate, ⟨⟨read, settlesRead, leafRead⟩, _⟩, accepted, settlesAccepted, leaf⟩ :=
    vouchesHere metadata success isReported
  obtain rfl := settlesRead.unique readsFirst
  obtain rfl := settlesAccepted.unique acceptsSecond
  have same : leafCertificate (twoServers firstAddr) = leafCertificate (twoServers secondAddr) :=
    leafRead.trans leaf.symm
  revert same
  decide

end AlonSentinel.System
