import AlonSentinel.System.CertificateProbe

/-! Which certificates are reported as expired. The check counts whole days, rounded to zero, and so
a certificate that expired less than a day ago has zero days left.
-/

namespace AlonSentinel.System

open Domain
open IpAddress
open MachineInteger
open Monitoring
open Worker

------------------------------------------------------------
-- Days
------------------------------------------------------------

/-- The nanoseconds of a day. -/
def dayNanos : Int := 86400 * 1000000000

/-- A clock in nanoseconds that `chrono` can represent. -/
structure IsChronoInstant (now : Int) : Prop where
  atLeast : -8334601228800 * 1000000000 ≤ now
  below : now < 8210266876800 * 1000000000

/-- The certificate is not valid any more. -/
def HasExpired (now : Int) (metadata : CertificateMetadata) : Prop :=
  nanoseconds metadata.expiresAt < now

/-- Between two instants there are few enough days for their cast. -/
theorem daysRemaining_eq {now notAfter : Int} (instant : IsChronoInstant now)
    (atLeast : -8334601228800 ≤ notAfter) (atMost : notAfter ≤ 8210266876799)
    : daysRemaining now (seconds notAfter)
      = ((nanoseconds (seconds notAfter) - now).tdiv 1000000000).tdiv 86400 := by
  have span : (nanoseconds (seconds notAfter) - now).natAbs ≤ 16544868105600000000000 := by
    have := instant.atLeast
    have := instant.below
    unfold nanoseconds seconds
    omega
  have days
      : (((nanoseconds (seconds notAfter) - now).tdiv 1000000000).tdiv 86400).natAbs
        = (nanoseconds (seconds notAfter) - now).natAbs / 1000000000 / 86400 := by
    rw [Int.natAbs_tdiv, Int.natAbs_tdiv]
    rfl
  apply truncateI32_of_natAbs_le
  rw [days]
  unfold i32Max
  omega

/-- The days are negative exactly if a day has passed since the certificate expired. -/
theorem daysRemaining_neg_iff {now notAfter : Int} (instant : IsChronoInstant now)
    (atLeast : -8334601228800 ≤ notAfter) (atMost : notAfter ≤ 8210266876799)
    : daysRemaining now (seconds notAfter) < 0
      ↔ nanoseconds (seconds notAfter) + dayNanos ≤ now := by
  have day (span : Int)
      : (span.tdiv 1000000000).tdiv 86400 < 0 ↔ span ≤ -(86400 * 1000000000) := by
    have seconds : span.tdiv 1000000000 ≤ -86400 ↔ span ≤ -(86400 * 1000000000) :=
      tdiv_le_neg_iff (by decide) (by decide)
    have days : (span.tdiv 1000000000).tdiv 86400 ≤ -1 ↔ span.tdiv 1000000000 ≤ -(1 * 86400) :=
      tdiv_le_neg_iff (by decide) (by decide)
    omega
  rw [daysRemaining_eq instant atLeast atMost, day]
  unfold dayNanos
  omega

------------------------------------------------------------
-- Reasons
------------------------------------------------------------

variable {Certificate : Type} {tls : TlsLibrary Certificate} {now : Int}
  {servers : SocketAddr → Server Certificate} {target : RuntimeRequestTarget}
  {certificate : Certificate} {metadata : CertificateMetadata}

/-- No pass says that a certificate has expired, by induction over the addresses. -/
theorem connectLoop_reason {attempt : SocketAddr → Attempt} {noAddress failure : Failure}
    {lastError : Option Failure} {addrs : List SocketAddr}
    (noAddressReason : noAddress.reason ≠ "ssl_certificate_expired")
    (lastReason : ∀ error ∈ lastError, error.reason ≠ "ssl_certificate_expired")
    (fails : (connectLoop attempt noAddress addrs lastError).result = .error failure)
    : failure.reason ≠ "ssl_certificate_expired" := by
  induction addrs generalizing lastError with
  | nil =>
      cases fails
      cases lastError with
      | none => exact noAddressReason
      | some error => exact lastReason error rfl
  | cons addr rest ih =>
      unfold connectLoop at fails
      simp only at fails
      split at fails
      · exact ih (by rintro _ ⟨⟩; simp) fails
      · cases fails
        simp
      · split at fails
        · cases fails
        · exact ih (by rintro _ ⟨⟩; simp) fails
        · cases fails
          simp

theorem connectTlsWithConfig_reason {clientConfig : ClientConfig} {failure : Failure}
    (fails : (connectTlsWithConfig tls servers target clientConfig).result = .error failure)
    : failure.reason ≠ "ssl_certificate_expired" := by
  unfold connectTlsWithConfig at fails
  split at fails
  · cases fails
    simp
  · exact connectLoop_reason (by simp) (by simp) fails

theorem validateTlsCertificate_reason {failure : Failure}
    (fails : (validateTlsCertificate tls servers target).result = .error failure)
    : failure.reason ≠ "ssl_certificate_expired" := by
  unfold validateTlsCertificate at fails
  split at fails
  · cases fails
    simp
  · cases connected : (connectTlsWithConfig tls servers target .validated).result with
    | ok addr =>
        simp only [connected] at fails
        cases fails
    | error error =>
        simp only [connected] at fails
        cases fails
        exact connectTlsWithConfig_reason connected

theorem evaluateCertificateExpiry_reason {warningDays : Int} {failure : Failure}
    (fails : evaluateCertificateExpiry metadata warningDays = some failure)
    : failure.reason ≠ "ssl_certificate_expired" := by
  unfold evaluateCertificateExpiry at fails
  simp only at fails
  split at fails
  · cases fails
    simp
  · split at fails
    · cases fails
      simp
    · cases fails

theorem inspectTlsCertificate_reason {probe : ProbeFailure}
    (fails : (inspectTlsCertificate tls now servers target).result = .error probe)
    : probe.failure.reason ≠ "ssl_certificate_expired" := by
  unfold inspectTlsCertificate at fails
  simp only at fails
  split at fails
  · rename_i failure connected
    cases fails
    exact connectTlsWithConfig_reason connected
  · split at fails
    · cases fails
      simp
    · split at fails
      · cases fails
        simp
      · cases fails

------------------------------------------------------------
-- What is reported
------------------------------------------------------------

section Check

variable (tls : TlsLibrary Certificate) (now : Int) (servers : SocketAddr → Server Certificate)
  (target : RuntimeRequestTarget)

/-- The certificate that a check of an HTTPS target inspects, and what it says. -/
structure InspectsLeaf (certificate : Certificate) (metadata : CertificateMetadata) : Prop where
  https : target.scheme = "https"
  serverName : tls.isServerName target.host = true
  reads : Reads tls now servers target certificate metadata

/-- The verifier is not available, or the verifying pass settles at no address. -/
def FailsVerifying : Prop :=
  tls.platformVerifier ≠ .ok () ∨ ¬∃ addr, PassSettlesAt servers target .validated addr

/-- A check reports exactly the expired ones of the certificates that fail verification, and no
certificate that is still valid.
-/
structure ReportsExpired (result : CheckResult) : Prop where
  expired
    : ∀ certificate metadata,
        InspectsLeaf tls now servers target certificate metadata
        → HasExpired now metadata
        → FailsVerifying tls servers target
        → result.isSuccess = false ∧ result.failureReason = some "ssl_certificate_expired"
  onlyExpired
    : result.failureReason = some "ssl_certificate_expired"
      → ∃ certificate metadata,
          InspectsLeaf tls now servers target certificate metadata ∧ HasExpired now metadata

/-- The certificate that is inspected expired less than a day ago, and fails verification. -/
def ExpiredWithinDay : Prop :=
  FailsVerifying tls servers target
  ∧ ∃ certificate metadata,
      InspectsLeaf tls now servers target certificate metadata
      ∧ HasExpired now metadata
      ∧ now < nanoseconds metadata.expiresAt + dayNanos

variable {tls now servers target}

theorem InspectsLeaf.inspected (inspects : InspectsLeaf tls now servers target certificate metadata)
    : (inspectTlsCertificate tls now servers target).result = .ok metadata := by
  obtain ⟨addr, settles, leaf⟩ := inspects.reads.served
  exact inspectTlsCertificate_eq_ok.mpr
    ⟨inspects.serverName, addr, certificate, settles, leaf, inspects.reads.parses⟩

theorem InspectsLeaf.unique {other : Certificate} {also : CertificateMetadata}
    (inspects : InspectsLeaf tls now servers target certificate metadata)
    (inspectsAlso : InspectsLeaf tls now servers target other also)
    : also = metadata := by
  have same := inspectsAlso.inspected
  rw [inspects.inspected] at same
  exact (Except.ok.inj same).symm

/-- The days that are left of a certificate are negative a day after it expired. -/
theorem InspectsLeaf.daysRemaining_neg_iff (instant : IsChronoInstant now)
    (inspects : InspectsLeaf tls now servers target certificate metadata)
    : metadata.daysRemaining < 0 ↔ nanoseconds metadata.expiresAt + dayNanos ≤ now := by
  have parses := inspects.reads.parses
  unfold parseCertificateMetadata at parses
  split at parses
  · cases parses
  · split at parses
    · cases parses
    · rename_i representable
      cases parses
      exact System.daysRemaining_neg_iff instant (by omega) (by omega)

theorem failsVerifying_iff (serverName : tls.isServerName target.host = true)
    : FailsVerifying tls servers target
      ↔ ∃ failure, (validateTlsCertificate tls servers target).result = .error failure := by
  have passes
      : (validateTlsCertificate tls servers target).result = .ok ()
        ↔ ¬FailsVerifying tls servers target := by
    rw [validateTlsCertificate_eq_ok, FailsVerifying]
    simp [serverName]
  cases validated : (validateTlsCertificate tls servers target).result with
  | ok accepted =>
      refine iff_of_false (passes.mp validated) ?_
      rintro ⟨failure, failed⟩
      cases failed
  | error failure =>
      refine iff_of_true (not_not.mp fun verified => ?_) ⟨failure, rfl⟩
      rw [passes.mpr verified] at validated
      cases validated

/-- A certificate is reported as expired a day after it expired, if it fails verification. -/
theorem evaluateSslCertificateForTarget_expired_iff (warningDays : Int)
    : (∃ probe,
        (evaluateSslCertificateForTarget tls now servers target warningDays).result = .error probe
        ∧ probe.failure.reason = "ssl_certificate_expired")
      ↔ FailsVerifying tls servers target
        ∧ ∃ certificate metadata,
            InspectsLeaf tls now servers target certificate metadata
            ∧ metadata.daysRemaining < 0 := by
  unfold evaluateSslCertificateForTarget probeTlsCertificate
  constructor
  · rintro ⟨probe, fails, reason⟩
    split at fails
    · cases fails
      simp at reason
    · rename_i https
      cases inspected : (inspectTlsCertificate tls now servers target).result with
      | error failure =>
          simp only [inspected] at fails
          cases fails
          exact absurd reason (inspectTlsCertificate_reason inspected)
      | ok metadata =>
          simp only [inspected] at fails
          obtain ⟨serverName, addr, certificate, settles, leaf, parses⟩ :=
            inspectTlsCertificate_eq_ok.mp inspected
          cases validated : (validateTlsCertificate tls servers target).result with
          | error failure =>
              simp only [validated] at fails
              cases fails
              refine ⟨(failsVerifying_iff serverName).mpr ⟨failure, validated⟩, certificate,
                metadata, ⟨not_not.mp https, serverName, ⟨addr, settles, leaf⟩, parses⟩, ?_⟩
              by_contra notBefore
              rw [if_neg notBefore] at reason
              exact validateTlsCertificate_reason validated reason
          | ok accepted =>
              simp only [validated] at fails
              split at fails
              · rename_i failure expiring
                cases fails
                exact absurd reason (evaluateCertificateExpiry_reason expiring)
              · cases fails
  · rintro ⟨failsVerifying, certificate, metadata, inspects, negative⟩
    obtain ⟨failure, validated⟩ := (failsVerifying_iff inspects.serverName).mp failsVerifying
    rw [if_neg (not_not.mpr inspects.https)]
    simp only [inspects.inspected, validated, if_pos negative]
    exact ⟨_, rfl, rfl⟩

/-- The reason that a check of a resolved target gives. -/
theorem checkSslCertificate_expired_iff {parseUrl : UrlParser} {lookupHost : LookupHost}
    {elapsedMs : Int} {url : String} {warningDays : Option Int} {validatePublicTarget : Bool}
    (resolved
      : resolveRuntimeRequestTarget parseUrl lookupHost url validatePublicTarget = .ok target)
    : (checkSslCertificate tls now servers parseUrl lookupHost elapsedMs url warningDays
        validatePublicTarget).failureReason = some "ssl_certificate_expired"
      ↔ FailsVerifying tls servers target
        ∧ ∃ certificate metadata,
            InspectsLeaf tls now servers target certificate metadata
            ∧ metadata.daysRemaining < 0 := by
  rw [← evaluateSslCertificateForTarget_expired_iff
    (warningDays.getD defaultSslExpiryWarningDays)]
  unfold checkSslCertificate
  simp only [resolved]
  cases (evaluateSslCertificateForTarget tls now servers target
      (warningDays.getD defaultSslExpiryWarningDays)).result with
  | error probe => simp [failedCheck]
  | ok metadata => simp

theorem checkSslCertificate_isSuccess {parseUrl : UrlParser} {lookupHost : LookupHost}
    {elapsedMs : Int} {url reason : String} {warningDays : Option Int}
    {validatePublicTarget : Bool}
    (failed
      : (checkSslCertificate tls now servers parseUrl lookupHost elapsedMs url warningDays
          validatePublicTarget).failureReason = some reason)
    : (checkSslCertificate tls now servers parseUrl lookupHost elapsedMs url warningDays
        validatePublicTarget).isSuccess = false := by
  unfold checkSslCertificate at failed ⊢
  split at failed
  · rfl
  · simp only at failed
    split at failed
    · rename_i probe evaluated
      simp only [evaluated]
      rfl
    · cases failed

/-- The check reports what has expired exactly if the certificate did not expire within the day
before, or passes verification.
-/
theorem checkSslCertificate_reportsExpired_iff {parseUrl : UrlParser} {lookupHost : LookupHost}
    {elapsedMs : Int} {url : String} {warningDays : Option Int} {validatePublicTarget : Bool}
    (instant : IsChronoInstant now)
    (resolved
      : resolveRuntimeRequestTarget parseUrl lookupHost url validatePublicTarget = .ok target)
    : ReportsExpired tls now servers target
        (checkSslCertificate tls now servers parseUrl lookupHost elapsedMs url warningDays
          validatePublicTarget)
      ↔ ¬ExpiredWithinDay tls now servers target := by
  constructor
  · rintro reports ⟨fails, certificate, metadata, inspects, expired, withinDay⟩
    have reason := (reports.expired certificate metadata inspects expired fails).2
    obtain ⟨_, other, also, inspectsAlso, negative⟩ :=
      (checkSslCertificate_expired_iff resolved).mp reason
    obtain rfl := inspects.unique inspectsAlso
    have := (inspects.daysRemaining_neg_iff instant).mp negative
    omega
  · intro notWithin
    refine ⟨fun certificate metadata inspects expired fails => ?_, fun reason => ?_⟩
    · have passed : nanoseconds metadata.expiresAt + dayNanos ≤ now := by
        by_contra withinDay
        exact notWithin ⟨fails, certificate, metadata, inspects, expired, by omega⟩
      have negative := (inspects.daysRemaining_neg_iff instant).mpr passed
      rw [and_iff_right_of_imp checkSslCertificate_isSuccess]
      exact (checkSslCertificate_expired_iff resolved).mpr
        ⟨fails, certificate, metadata, inspects, negative⟩
    · obtain ⟨_, certificate, metadata, inspects, negative⟩ :=
        (checkSslCertificate_expired_iff resolved).mp reason
      have passed := (inspects.daysRemaining_neg_iff instant).mp negative
      refine ⟨certificate, metadata, inspects, ?_⟩
      unfold HasExpired
      unfold dayNanos at passed
      omega

end Check

------------------------------------------------------------
-- A certificate that nobody renewed
------------------------------------------------------------

/-- A server with certificate one, whose verifying handshake fails. -/
def expiredServer (_addr : SocketAddr) : Server Nat where
  peerCertificates := some [1]
  attempt := fun
    | .inspection => ⟨.connected, .completed⟩
    | .validated => ⟨.connected, .failed "invalid peer certificate: Expired"⟩

/-- A number of hours after certificate one expired. -/
def hoursAfterExpiry (hours : Int) : Int :=
  nanoseconds (seconds 31536000) + hours * 3600 * 1000000000

theorem expiredServer_failsVerifying : FailsVerifying smallTls expiredServer smallTarget := by
  refine .inr ?_
  rintro ⟨addr, before, after, _, _, _, completed⟩
  cases completed

/-- The check inspects certificate one, at any time. -/
theorem expiredServer_inspects (now : Int)
    : InspectsLeaf smallTls now expiredServer smallTarget 1
        { expiresAt := seconds 31536000
          daysRemaining := daysRemaining now (seconds 31536000)
          issuer := "CN=ca.test"
          subject := "CN=shop.test"
          domain := "shop.test" } := by
  have first : PassSettlesAt expiredServer smallTarget .inspection firstAddr :=
    ⟨[], [secondAddr], rfl, fun _ member => (List.not_mem_nil member).elim, rfl, rfl⟩
  exact ⟨rfl, rfl, ⟨firstAddr, first, rfl⟩, rfl⟩

theorem hoursAfterExpiry_isChronoInstant (hours : Int) (positive : 0 ≤ hours)
    (bound : hours ≤ 1000)
    : IsChronoInstant (hoursAfterExpiry hours) := by
  unfold hoursAfterExpiry nanoseconds seconds
  constructor <;> omega

/-- Two days after its expiry the certificate is reported. -/
theorem checkSslCertificate_reportsExpired_twoDays
    : ReportsExpired smallTls (hoursAfterExpiry 48) expiredServer smallTarget
        (checkSslCertificate smallTls (hoursAfterExpiry 48) expiredServer smallParseUrl
          smallLookupHost 25 "https://shop.test" none true) := by
  have instant := hoursAfterExpiry_isChronoInstant 48 (by decide) (by decide)
  refine (checkSslCertificate_reportsExpired_iff instant smallTarget_resolved).mpr ?_
  rintro ⟨_, certificate, metadata, inspects, _, withinDay⟩
  obtain rfl := (expiredServer_inspects (hoursAfterExpiry 48)).unique inspects
  revert withinDay
  decide

/-- An hour after its expiry a certificate is not reported as expired. -/
theorem check_misses_expired
    : ¬∀ (Certificate : Type) (tls : TlsLibrary Certificate) (now : Int)
          (servers : SocketAddr → Server Certificate) (target : RuntimeRequestTarget)
          (parseUrl : UrlParser) (lookupHost : LookupHost) (elapsedMs : Int) (url : String)
          (warningDays : Option Int) (validatePublicTarget : Bool),
        IsChronoInstant now
        → resolveRuntimeRequestTarget parseUrl lookupHost url validatePublicTarget = .ok target
        → ReportsExpired tls now servers target
            (checkSslCertificate tls now servers parseUrl lookupHost elapsedMs url warningDays
              validatePublicTarget) := by
  intro reports
  have instant := hoursAfterExpiry_isChronoInstant 1 (by decide) (by decide)
  have reportsHere := reports Nat smallTls (hoursAfterExpiry 1) expiredServer smallTarget
    smallParseUrl smallLookupHost 25 "https://shop.test" none true instant smallTarget_resolved
  have expired : HasExpired (hoursAfterExpiry 1)
      { expiresAt := seconds 31536000
        daysRemaining := daysRemaining (hoursAfterExpiry 1) (seconds 31536000)
        issuer := "CN=ca.test"
        subject := "CN=shop.test"
        domain := "shop.test" } := by
    unfold HasExpired
    decide
  have reported := reportsHere.expired 1 _ (expiredServer_inspects (hoursAfterExpiry 1)) expired
    expiredServer_failsVerifying
  have reason
      : (checkSslCertificate smallTls (hoursAfterExpiry 1) expiredServer smallParseUrl
          smallLookupHost 25 "https://shop.test" none true).failureReason
        = some "ssl_certificate_invalid" := by
    decide +kernel
  rw [reason] at reported
  exact absurd reported.2 (by decide)

end AlonSentinel.System
