import AlonSentinel.Domain.SiteMonitorConfiguration
import AlonSentinel.System.CertificateProbe
import AlonSentinel.System.CheckRetries
import AlonSentinel.System.HttpVerdicts
import AlonSentinel.Worker.MonitorChecks

/-! Which transient failures the worker tries again. A failure is transient by what the network did;
whether there is another attempt depends on the text of the reason that a checker gives it.
-/

namespace AlonSentinel.System

open Domain
open IpAddress
open Monitoring
open Worker

------------------------------------------------------------
-- Transient failures
------------------------------------------------------------

/-- The host of a URL has to be looked up, and no address is found. -/
def HostUnresolved (parseUrl : UrlParser) (lookupHost : LookupHost) (url : String) : Prop :=
  ∃ parsed host,
    parseUrl url = some parsed
    ∧ (parsed.scheme = "http" ∨ parsed.scheme = "https")
    ∧ parsed.hostStr = some host
    ∧ IpAddr.parse host = none
    ∧ (lookupHost s!"{host}:{parsed.portOrKnownDefault.getD 80}" = none
      ∨ lookupHost s!"{host}:{parsed.portOrKnownDefault.getD 80}" = some [])

/-- A pass comes to an address where connecting or the handshake times out. -/
def PassTimesOut (attempt : SocketAddr → Attempt) (addrs : List SocketAddr) : Prop :=
  ∃ before addr after,
    addrs = before ++ addr :: after
    ∧ (∀ other ∈ before, PassedOver (attempt other))
    ∧ ((attempt addr).connect = .timedOut
      ∨ (attempt addr).connect = .connected ∧ (attempt addr).handshake = .timedOut)

/-- No address accepts a connection. -/
def NoneConnects (attempt : SocketAddr → Attempt) (addrs : List SocketAddr) : Prop :=
  ∀ addr ∈ addrs, ∃ error, (attempt addr).connect = .refused error

variable {Certificate : Type} (libraries : CheckerLibraries Certificate)
  (policy : ResolvedMonitorCheckPolicy) (siteMonitor : SiteMonitor)
  (run : MonitorCheckRun Certificate)

def ResolvesTo (target : RuntimeRequestTarget) : Prop :=
  resolveRuntimeRequestTarget libraries.http.parseUrl run.http.lookupHost siteMonitor.targetUrl
    (!policy.allowPrivateTargets)
  = .ok target

/-- The request is sent, and fails to connect or in time. -/
structure RequestLost : Prop where
  resolves : ∃ target, ResolvesTo libraries policy siteMonitor run target
  client : run.http.client = .ok ()
  lost
    : ∃ error,
        run.http.sent = .error error ∧ (error.isConnect = true ∨ error.isTimeout = true)

/-- A response passes up to its body, which does not arrive in time. -/
structure BodyTimesOut : Prop where
  resolves : ∃ target, ResolvesTo libraries policy siteMonitor run target
  client : run.http.client = .ok ()
  lost
    : ∃ response error,
        run.http.sent = .ok response
        ∧ (judgeHead libraries.http (httpAssertions siteMonitor) siteMonitor.expectedStatusCode
            (MachineInteger.asI32 run.http.elapsedMs) response).isSuccess
          = true
        ∧ (httpAssertions siteMonitor).onBody = true
        ∧ response.readBody policy.maxResponseBodyBytes = .error error
        ∧ error.isTimeout = true

/-- A pass over the addresses of a target fails without a verdict on its certificate. -/
def PassLost (target : RuntimeRequestTarget) (clientConfig : ClientConfig) : Prop :=
  libraries.tls.isServerName target.host = true
  ∧ let attempt addr := (run.http.servers addr).attempt clientConfig
    PassTimesOut attempt target.resolvedAddrs ∨ NoneConnects attempt target.resolvedAddrs

/-- What the first pass reads of the certificate. -/
def Inspects (target : RuntimeRequestTarget) (metadata : CertificateMetadata) : Prop :=
  (inspectTlsCertificate libraries.tls run.http.now run.http.servers target).result = .ok metadata

/-- One of the two passes of a certificate check is lost. -/
def ProbeLost : Prop :=
  ∃ target,
    ResolvesTo libraries policy siteMonitor run target
    ∧ target.scheme = "https"
    ∧ (PassLost libraries run target .inspection
      ∨ (∃ metadata, Inspects libraries run target metadata)
        ∧ libraries.tls.platformVerifier = .ok ()
        ∧ PassLost libraries run target .validated)

/-- What the resolver answers to a check of a port. -/
def tcpLookup : LookupOutcome :=
  run.tcp.lookup s!"{tcpHost siteMonitor}:{tcpPort siteMonitor}"

def TcpUnresolved : Prop :=
  tcpLookup siteMonitor run = .failed
  ∨ tcpLookup siteMonitor run = .timedOut
  ∨ tcpLookup siteMonitor run = .answered []

def TcpRefused : Prop :=
  ∃ addr error,
    resolveTcp true (tcpLookup siteMonitor run) = .ok addr
    ∧ run.tcp.connect addr = .refused error

def TcpTimesOut : Prop :=
  ∃ addr,
    resolveTcp true (tcpLookup siteMonitor run) = .ok addr
    ∧ run.tcp.connect addr = .timedOut

/-- A resolver is there, and the lookup fails. -/
def LookupFails : Prop :=
  ∃ recordType error,
    parseRecordType libraries.toUppercase (siteMonitor.dnsRecordType.getD "") = .ok recordType
    ∧ buildResolver siteMonitor.dnsNameserver true run.dns.build = .ok ()
    ∧ run.dns.lookup (siteMonitor.dnsHostname.getD "") recordType = .error error

/-- An attempt fails since the connection is not established or times out, or since a name is not
resolved.
-/
def TransientFailure : Prop :=
  match siteMonitor.monitorType with
  | .http =>
      HostUnresolved libraries.http.parseUrl run.http.lookupHost siteMonitor.targetUrl
      ∨ RequestLost libraries policy siteMonitor run
      ∨ BodyTimesOut libraries policy siteMonitor run
  | .ssl =>
      HostUnresolved libraries.http.parseUrl run.http.lookupHost siteMonitor.targetUrl
      ∨ ProbeLost libraries policy siteMonitor run
  | .tcp =>
      TcpUnresolved siteMonitor run ∨ TcpRefused siteMonitor run ∨ TcpTimesOut siteMonitor run
  | .dns => LookupFails libraries siteMonitor run
  | .heartbeat => False

/-- The transient failures that are tried again: of HTTP all but a body that does not arrive in
time, of SSL those without an expired certificate, of TCP a refused connection, and of DNS none.
-/
def TriedAgain : Prop :=
  match siteMonitor.monitorType with
  | .http => ¬BodyTimesOut libraries policy siteMonitor run
  | .ssl =>
      ∀ target metadata,
        ResolvesTo libraries policy siteMonitor run target
        → Inspects libraries run target metadata
        → 0 ≤ metadata.daysRemaining
  | .tcp => TcpRefused siteMonitor run
  | .dns | .heartbeat => False

------------------------------------------------------------
-- The reasons of the checkers
------------------------------------------------------------

/-- The reasons that the loop goes on for. -/
def IsRetried (reason : String) : Prop := reason = "timeout" ∨ reason = "connect_error"

theorem isRetryable_iff {result : CheckResult} {reason : String}
    (told : result.failureReason = some reason)
    : isRetryableCheckResult result = true ↔ IsRetried reason := by
  simp [isRetryableCheckResult, told, IsRetried]

theorem resolve_of_hostUnresolved {parseUrl : UrlParser} {lookupHost : LookupHost} {url : String}
    (validatePublicTarget : Bool) (unresolved : HostUnresolved parseUrl lookupHost url)
    : resolveRuntimeRequestTarget parseUrl lookupHost url validatePublicTarget
      = .error unresolvedHostname := by
  obtain ⟨parsed, host, isParsed, scheme, isHost, isName, noAddress⟩ := unresolved
  have allowed : ¬(parsed.scheme ≠ "http" ∧ parsed.scheme ≠ "https") := by tauto
  have noTarget
      : resolveRuntimeTarget lookupHost host (parsed.portOrKnownDefault.getD 80)
          validatePublicTarget
        = .error unresolvedHostname := by
    rcases noAddress with failed | empty
    · simp [resolveRuntimeTarget, isName, failed]
    · simp [resolveRuntimeTarget, isName, empty]
  simp only [resolveRuntimeRequestTarget, isParsed, if_neg allowed, isHost, noTarget]

section Pass

variable {attempt : SocketAddr → Attempt} {noAddress : Failure} {addrs : List SocketAddr}
  {lastError : Option Failure}

/-- A pass that times out says so, by induction over the addresses it passes over. -/
theorem connectLoop_of_timesOut (timesOut : PassTimesOut attempt addrs)
    : ∃ message,
        (connectLoop attempt noAddress addrs lastError).result = .error ⟨"timeout", message⟩ := by
  obtain ⟨before, addr, after, rfl, passed, late⟩ := timesOut
  induction before generalizing lastError with
  | nil =>
      rcases late with connect | ⟨connect, handshake⟩
      · simp only [List.nil_append, connectLoop, connect]
        exact ⟨_, rfl⟩
      · simp only [List.nil_append, connectLoop, connect, handshake]
        exact ⟨_, rfl⟩
  | cons first rest ih =>
      rw [List.forall_mem_cons] at passed
      obtain ⟨passedFirst, passedRest⟩ := passed
      rcases passedFirst with ⟨error, refused⟩ | ⟨connected, error, failed⟩
      · simpa only [List.cons_append, connectLoop, refused] using ih passedRest
      · simpa only [List.cons_append, connectLoop, connected, failed] using ih passedRest

/-- Without any connection the reason is that of the last address, or of there being none. -/
theorem connectLoop_of_noneConnects (reason : noAddress.reason = "connect_error")
    (earlier : ∀ error ∈ lastError, error.reason = "connect_error")
    (refused : NoneConnects attempt addrs)
    : ∃ message,
        (connectLoop attempt noAddress addrs lastError).result
        = .error ⟨"connect_error", message⟩ := by
  induction addrs generalizing lastError with
  | nil =>
      have told : (lastError.getD noAddress).reason = "connect_error" := by
        cases lastError with
        | none => exact reason
        | some error => exact earlier error rfl
      exact ⟨(lastError.getD noAddress).message, by rw [connectLoop, ← told]⟩
  | cons first rest ih =>
      obtain ⟨⟨error, refusedFirst⟩, noneBehind⟩ := List.forall_mem_cons.mp refused
      simp only [connectLoop, refusedFirst]
      refine ih ?_ noneBehind
      rintro _ ⟨⟩
      rfl

end Pass

variable {libraries policy siteMonitor run}

/-- A lost pass is told with a reason that the loop goes on for. -/
theorem connectTlsWithConfig_of_passLost {target : RuntimeRequestTarget}
    {clientConfig : ClientConfig} (lost : PassLost libraries run target clientConfig)
    : ∃ reason,
        IsRetried reason
        ∧ ∃ message,
            (connectTlsWithConfig libraries.tls run.http.servers target clientConfig).result
            = .error ⟨reason, message⟩ := by
  obtain ⟨serverName, lost⟩ := lost
  simp only [connectTlsWithConfig, serverName, Bool.not_true, Bool.false_eq_true, if_false]
  rcases lost with timesOut | refused
  · exact ⟨"timeout", .inl rfl, connectLoop_of_timesOut timesOut⟩
  · exact ⟨"connect_error", .inr rfl, connectLoop_of_noneConnects rfl nofun refused⟩

theorem checkUrl_reason_of_requestLost
    (lost : RequestLost libraries policy siteMonitor run)
    : ∃ reason,
        IsRetried reason
        ∧ (checkUrl libraries.http (httpAssertions siteMonitor) libraries.tls siteMonitor.targetUrl
            siteMonitor.expectedStatusCode policy.httpCheckConfig run.http).failureReason
          = some reason := by
  obtain ⟨⟨target, resolves⟩, client, error, sent, kind⟩ := lost
  have noCertificate
      : evaluateTargetCertificate (httpAssertions siteMonitor) libraries.tls run.http target
        = .ok none :=
    rfl
  refine ⟨classifyRequestError error, ?_, ?_⟩
  · unfold classifyRequestError
    by_cases isConnect : error.isConnect = true
    · exact .inr (if_pos isConnect)
    · rw [if_neg isConnect, if_pos (kind.resolve_left isConnect)]
      exact .inl rfl
  · unfold ResolvesTo at resolves
    simp only [checkUrl, ResolvedMonitorCheckPolicy.httpCheckConfig, resolves, noCertificate,
      client, sent]
    rfl

theorem checkUrl_reason_of_bodyTimesOut
    (lost : BodyTimesOut libraries policy siteMonitor run)
    : (checkUrl libraries.http (httpAssertions siteMonitor) libraries.tls siteMonitor.targetUrl
        siteMonitor.expectedStatusCode policy.httpCheckConfig run.http).failureReason
      = some "response_read_error" := by
  obtain ⟨⟨target, resolves⟩, client, response, error, sent, passes, onBody, read, _⟩ := lost
  have noCertificate
      : evaluateTargetCertificate (httpAssertions siteMonitor) libraries.tls run.http target
        = .ok none :=
    rfl
  unfold ResolvesTo at resolves
  simp only [checkUrl, ResolvedMonitorCheckPolicy.httpCheckConfig, resolves, noCertificate, client,
    sent, judgeResponse, passes, onBody, Bool.and_self, if_true, read]
  rfl

/-- The first pass of a certificate check is lost. -/
theorem evaluateSsl_of_inspectionLost {target : RuntimeRequestTarget} {warningDays : Int}
    (https : target.scheme = "https") (lost : PassLost libraries run target .inspection)
    : ∃ reason message,
        IsRetried reason
        ∧ (evaluateSslCertificateForTarget libraries.tls run.http.now run.http.servers target
            warningDays).result
          = .error ⟨⟨reason, message⟩, none⟩ := by
  obtain ⟨reason, retried, message, told⟩ := connectTlsWithConfig_of_passLost lost
  refine ⟨reason, message, retried, ?_⟩
  simp only [evaluateSslCertificateForTarget, https, ne_eq, not_true_eq_false, if_false,
    probeTlsCertificate, inspectTlsCertificate, told]

/-- The second pass is lost: its reason is kept unless the certificate has expired. -/
theorem evaluateSsl_of_validationLost {target : RuntimeRequestTarget} {warningDays : Int}
    {metadata : CertificateMetadata} (https : target.scheme = "https")
    (inspects : Inspects libraries run target metadata)
    (verifier : libraries.tls.platformVerifier = .ok ())
    (lost : PassLost libraries run target .validated)
    : ∃ reason message,
        IsRetried reason
        ∧ (evaluateSslCertificateForTarget libraries.tls run.http.now run.http.servers target
            warningDays).result
          = .error
              ⟨⟨if metadata.daysRemaining < 0 then "ssl_certificate_expired" else reason, message⟩,
                some metadata⟩ := by
  obtain ⟨reason, retried, message, told⟩ := connectTlsWithConfig_of_passLost lost
  refine ⟨reason, message, retried, ?_⟩
  unfold Inspects at inspects
  simp only [evaluateSslCertificateForTarget, https, ne_eq, not_true_eq_false, if_false,
    probeTlsCertificate, inspects, validateTlsCertificate, verifier, told, Except.map]

------------------------------------------------------------
-- The checks of the monitor types
------------------------------------------------------------

/-- A transient failure has a reason, which the loop goes on for exactly if it is tried again. -/
def AgreesWith (retried : Prop) (result : CheckResult) : Prop :=
  ∃ reason, result.failureReason = some reason ∧ (IsRetried reason ↔ retried)

theorem http_agrees (isHttp : siteMonitor.monitorType = .http)
    (transient
      : HostUnresolved libraries.http.parseUrl run.http.lookupHost siteMonitor.targetUrl
        ∨ RequestLost libraries policy siteMonitor run
        ∨ BodyTimesOut libraries policy siteMonitor run)
    : AgreesWith (¬BodyTimesOut libraries policy siteMonitor run)
        (checkMonitor libraries policy siteMonitor run) := by
  simp only [AgreesWith, checkMonitor, isHttp]
  rcases transient with unresolved | lost | timesOut
  · have noTarget := resolve_of_hostUnresolved (!policy.allowPrivateTargets) unresolved
    refine ⟨"connect_error", ?_, iff_of_true (.inr rfl) ?_⟩
    · simp only [checkUrl, ResolvedMonitorCheckPolicy.httpCheckConfig, noTarget]
      rfl
    · rintro ⟨⟨target, resolves⟩, _⟩
      rw [ResolvesTo, noTarget] at resolves
      cases resolves
  · obtain ⟨reason, retried, told⟩ := checkUrl_reason_of_requestLost lost
    refine ⟨reason, told, iff_of_true retried ?_⟩
    rintro ⟨_, _, response, error, sent, _⟩
    obtain ⟨_, _, error, failed, _⟩ := lost
    rw [sent] at failed
    cases failed
  · refine ⟨_, checkUrl_reason_of_bodyTimesOut timesOut, iff_of_false ?_ ?_⟩
    · simp [IsRetried]
    · exact not_not.mpr timesOut

theorem ssl_agrees (isSsl : siteMonitor.monitorType = .ssl)
    (transient
      : HostUnresolved libraries.http.parseUrl run.http.lookupHost siteMonitor.targetUrl
        ∨ ProbeLost libraries policy siteMonitor run)
    : AgreesWith
        (∀ target metadata,
          ResolvesTo libraries policy siteMonitor run target
          → Inspects libraries run target metadata
          → 0 ≤ metadata.daysRemaining)
        (checkMonitor libraries policy siteMonitor run) := by
  simp only [AgreesWith, checkMonitor, isSsl, checkSslCertificate]
  rcases transient with unresolved | ⟨target, resolves, https, lost⟩
  · have noTarget := resolve_of_hostUnresolved (!policy.allowPrivateTargets) unresolved
    refine ⟨"connect_error", ?_, iff_of_true (.inr rfl) ?_⟩
    · simp only [noTarget]
      rfl
    · intro target metadata resolves
      rw [ResolvesTo, noTarget] at resolves
      cases resolves
  · have only {other : RuntimeRequestTarget}
        (alsoResolves : ResolvesTo libraries policy siteMonitor run other)
        : other = target := by
      rw [ResolvesTo, resolves] at alsoResolves
      exact (Except.ok.inj alsoResolves).symm
    rw [ResolvesTo] at resolves
    simp only [resolves]
    rcases lost with lost | ⟨⟨metadata, inspects⟩, verifier, lost⟩
    · obtain ⟨reason, message, retried, told⟩ := evaluateSsl_of_inspectionLost https lost
      refine ⟨reason, by rw [told]; rfl, iff_of_true retried ?_⟩
      intro other metadata alsoResolves inspects
      obtain rfl := only alsoResolves
      obtain ⟨_, _, message, told⟩ := connectTlsWithConfig_of_passLost lost
      rw [Inspects, inspectTlsCertificate, told] at inspects
      cases inspects
    · obtain ⟨reason, message, retried, told⟩ :=
        evaluateSsl_of_validationLost https inspects verifier lost
      have unexpired
          : (∀ target metadata,
              ResolvesTo libraries policy siteMonitor run target
              → Inspects libraries run target metadata
              → 0 ≤ metadata.daysRemaining)
            ↔ 0 ≤ metadata.daysRemaining := by
        constructor
        · exact fun all => all target metadata resolves inspects
        · intro unexpired other read alsoResolves alsoInspects
          obtain rfl := only alsoResolves
          rw [Inspects, inspects] at alsoInspects
          rwa [← Except.ok.inj alsoInspects]
      refine ⟨_, by rw [told]; rfl, ?_⟩
      rw [unexpired]
      by_cases expired : metadata.daysRemaining < 0
      · simp [expired, IsRetried]
      · simp only [expired, if_false]
        exact iff_of_true retried (by omega)

theorem tcp_agrees (isTcp : siteMonitor.monitorType = .tcp)
    (transient
      : TcpUnresolved siteMonitor run ∨ TcpRefused siteMonitor run ∨ TcpTimesOut siteMonitor run)
    : AgreesWith (TcpRefused siteMonitor run) (checkMonitor libraries policy siteMonitor run) := by
  simp only [AgreesWith, checkMonitor, isTcp, checkTcp]
  have asked
      : run.tcp.lookup s!"{tcpHost siteMonitor}:{tcpPort siteMonitor}"
        = tcpLookup siteMonitor run :=
    rfl
  rw [asked]
  rcases transient with unresolved | ⟨addr, error, resolves, refused⟩ | ⟨addr, resolves, timedOut⟩
  · have noTarget
        : ∃ message,
            resolveTcp true (tcpLookup siteMonitor run) = .error ⟨"dns_error", message⟩ := by
      rcases unresolved with failed | timedOut | empty
      · exact ⟨_, by rw [failed]; rfl⟩
      · exact ⟨_, by rw [timedOut]; rfl⟩
      · exact ⟨_, by rw [empty]; rfl⟩
    obtain ⟨message, noTarget⟩ := noTarget
    refine ⟨"dns_error", by rw [noTarget]; rfl, iff_of_false (by simp [IsRetried]) ?_⟩
    rintro ⟨addr, error, resolves, _⟩
    rw [noTarget] at resolves
    cases resolves
  · have refusedAgain : TcpRefused siteMonitor run := ⟨addr, error, resolves, refused⟩
    simp only [resolves, refused, connectTcp]
    exact ⟨"connect_error", rfl, iff_of_true (.inr rfl) refusedAgain⟩
  · simp only [resolves, timedOut, connectTcp]
    refine ⟨"connect_timeout", rfl, iff_of_false (by simp [IsRetried]) ?_⟩
    rintro ⟨other, error, alsoResolves, refused⟩
    rw [resolves] at alsoResolves
    cases alsoResolves
    rw [timedOut] at refused
    cases refused

theorem dns_agrees (isDns : siteMonitor.monitorType = .dns)
    (transient : LookupFails libraries siteMonitor run)
    : AgreesWith False (checkMonitor libraries policy siteMonitor run) := by
  obtain ⟨recordType, error, parsed, built, failed⟩ := transient
  refine ⟨"lookup_error", ?_, ?_⟩
  · simp only [checkMonitor, isDns, checkDns, dnsCheckParams, parsed, built, failed]
    rfl
  · simp [IsRetried]

/-- What the check of a transient failure says, whatever the type of the monitor. -/
theorem checkMonitor_agrees (transient : TransientFailure libraries policy siteMonitor run)
    : AgreesWith (TriedAgain libraries policy siteMonitor run)
        (checkMonitor libraries policy siteMonitor run) := by
  unfold TransientFailure at transient
  unfold TriedAgain
  cases isType : siteMonitor.monitorType with
  | http =>
      simp only [isType] at transient ⊢
      exact http_agrees isType transient
  | ssl =>
      simp only [isType] at transient ⊢
      exact ssl_agrees isType transient
  | tcp =>
      simp only [isType] at transient ⊢
      exact tcp_agrees isType transient
  | dns =>
      simp only [isType] at transient ⊢
      exact dns_agrees isType transient
  | heartbeat =>
      simp only [isType] at transient

------------------------------------------------------------
-- The next attempt
------------------------------------------------------------

/-- An attempt at an index is begun and checks a monitor, and no shutdown arrives in it or in the
wait behind it.
-/
structure AttemptMade (libraries : CheckerLibraries Certificate)
    (policy : ResolvedMonitorCheckPolicy) (siteMonitor : SiteMonitor)
    (run : MonitorCheckRun Certificate) (inputs : RetryInputs) (index : Nat)
    : Prop where
  begun : index < (runMonitorCheckWithRetries policy inputs).attempts
  result : (inputs.attempt index).result = checkMonitor libraries policy siteMonitor run
  quiet : (inputs.attempt index).isInterrupted = false
  waits : waitForRetryDelayOrShutdown (inputs.wait index) = true

/-- Behind an attempt that fails for a transient reason, with delays and attempts left, there is
another attempt exactly for the failures that are tried again.
-/
theorem transientFailure_triedAgain_iff {inputs : RetryInputs} {index : Nat}
    (delays : policy.retryDelaysMs ≠ []) (below : index + 1 < policy.maxAttempts.toNat)
    (made : AttemptMade libraries policy siteMonitor run inputs index)
    (transient : TransientFailure libraries policy siteMonitor run)
    : index + 1 < (runMonitorCheckWithRetries policy inputs).attempts
      ↔ TriedAgain libraries policy siteMonitor run := by
  obtain ⟨reason, told, agrees⟩ := checkMonitor_agrees transient
  have shift : 0 + index = index := Nat.zero_add index
  have goesOn :=
    attemptsFrom_goesOn_iff (Nat.zero_add _) made.begun (shift.symm ▸ made.quiet)
      (shift.symm ▸ made.waits)
  rw [runMonitorCheckWithRetries, goesOn, shift, ← agrees, ← isRetryable_iff told, ← made.result]
  unfold IsFinal
  simp only [delays, or_false, not_or, Bool.not_eq_false, not_le]
  exact ⟨fun both => both.1, fun retryable => ⟨retryable, below⟩⟩

------------------------------------------------------------
-- A check of a port
------------------------------------------------------------

def portLibraries : CheckerLibraries Unit where
  http := statusPageLibraries
  tls := noTls
  toUppercase text := text.map Char.toUpper

def portMonitor : SiteMonitor :=
  { SiteMonitor.withDefaults 0 1 .tcp "tcp://93.184.216.34:443" 1 with
    tcpTargetHost := some "93.184.216.34"
    tcpTargetPort := some 443 }

/-- The host resolves to one public address, where connecting comes to an outcome. -/
def portRun (outcome : ConnectOutcome) : MonitorCheckRun Unit where
  http := statusPageRun 0
  tcp :=
    { lookup := fun _ => .answered [firstAddr], connect := fun _ => outcome, elapsedMs := 10000 }
  dns := { build := .ok (), lookup := fun _ _ => .ok [], elapsedMs := 0 }
  now := 0

/-- Inputs of a run in which every attempt checks the port with the same outcome. -/
def portInputs (outcome : ConnectOutcome) : RetryInputs where
  attempt _ :=
    { events := []
      result := checkMonitor portLibraries threeAttempts portMonitor (portRun outcome)
      elapsedMs := 10000 }
  wait _ := { shutdownRequested := false, event := none }
  draw _ := .greatest

theorem portAttempt_made (outcome : ConnectOutcome)
    : AttemptMade portLibraries threeAttempts portMonitor (portRun outcome) (portInputs outcome)
        0 where
  begun := attemptsFrom_attempts_pos
  result := rfl
  quiet := rfl
  waits := rfl

theorem portResolves (outcome : ConnectOutcome)
    : resolveTcp true (tcpLookup portMonitor (portRun outcome)) = .ok firstAddr := by
  have isPublic : resolveTcp true (.answered [firstAddr]) = .ok firstAddr := by decide +kernel
  exact isPublic

theorem transientFailure_triedAgain_refusedPort
    : let inputs := portInputs (.refused "Connection refused (os error 111)")
      1 < (runMonitorCheckWithRetries threeAttempts inputs).attempts :=
  (transientFailure_triedAgain_iff (by decide) (by decide) (portAttempt_made _)
    (.inr (.inl ⟨firstAddr, _, portResolves _, rfl⟩))).mpr
    ⟨firstAddr, _, portResolves _, rfl⟩

/-- A check of a port that times out is not tried again. -/
theorem transientFailure_not_triedAgain
    : threeAttempts.retryDelaysMs ≠ []
      ∧ 0 + 1 < threeAttempts.maxAttempts.toNat
      ∧ AttemptMade portLibraries threeAttempts portMonitor (portRun .timedOut)
          (portInputs .timedOut) 0
      ∧ TransientFailure portLibraries threeAttempts portMonitor (portRun .timedOut)
      ∧ ¬ 0 + 1 < (runMonitorCheckWithRetries threeAttempts (portInputs .timedOut)).attempts := by
  refine ⟨by decide, by decide, portAttempt_made _, ?_, ?_⟩
  · exact .inr (.inr ⟨firstAddr, portResolves _, rfl⟩)
  · have once
        : (runMonitorCheckWithRetries threeAttempts (portInputs .timedOut)).attempts = 1 := by
      decide +kernel
    rw [once]
    decide

end AlonSentinel.System
