import AlonSentinel.Api.Error
import AlonSentinel.Domain.SiteMonitorConfiguration
import AlonSentinel.Foundation.Fallible
import AlonSentinel.Foundation.MachineIntegers
import AlonSentinel.Foundation.UnicodeText
import AlonSentinel.Monitoring.DnsChecker
import AlonSentinel.Monitoring.RuntimeTarget

/-! The payloads that create and reconfigure monitors: their validation, and the columns they
become. What resolvers answer is an input of a validation, and so is the header name parser of the
HTTP library.
-/

namespace AlonSentinel.Api

open Domain
open MachineInteger
open Monitoring
open UnicodeText

------------------------------------------------------------
-- Checks shared by the payloads
------------------------------------------------------------

abbrev Validation := Except ApiError

/-- Answers with a bad request if a test fails. -/
def rejectIf (fails : Bool) (message : String) : Validation Unit :=
  if fails then .error (.badRequest message) else .ok ()

def isBlank (text : String) : Bool := trim text = ""

/-- The libraries that validations use. `HeaderName::from_bytes` writes a name in lower case. -/
structure PayloadLibraries where
  parseUrl : UrlParser
  headerName : String → Option String

def nonPublicTarget : ApiError :=
  .badRequest "target_url must not resolve to a loopback, private, or link-local address"

def validateMonitorTargetUrl (libraries : PayloadLibraries) (lookupHost : LookupHost)
    (targetUrl : String) (allowPrivate : Bool)
    : Validation Unit :=
  match libraries.parseUrl targetUrl with
  | none => .error (.badRequest "target_url is not a valid URL")
  | some url =>
      if url.scheme ≠ "http" ∧ url.scheme ≠ "https" then
        .error (.badRequest
          s!"target_url scheme '{url.scheme}' is not allowed; use http or https")
      else
        match url.hostStr with
        | none => .error (.badRequest "target_url must have a host")
        | some host =>
            match IpAddress.IpAddr.parse host with
            | some ip =>
                if !allowPrivate && !checkIpIsPublic ip then .error nonPublicTarget else .ok ()
            | none =>
                -- The lookup fails or takes longer than five seconds.
                match lookupHost s!"{host}:{url.portOrKnownDefault.getD 80}" with
                | none => .error (.badRequest "target_url hostname could not be resolved")
                | some resolved =>
                    if !allowPrivate && resolved.any fun addr => !checkIpIsPublic addr.ip then
                      .error nonPublicTarget
                    else .ok ()

def validateSslCertificateCheckTargetUrl (libraries : PayloadLibraries) (targetUrl : String)
    (sslCertificateChecksEnabled : Bool)
    : Validation Unit :=
  if !sslCertificateChecksEnabled then .ok ()
  else
    match libraries.parseUrl targetUrl with
    | none => .error (.badRequest "target_url is not a valid URL")
    | some parsed =>
        rejectIf (parsed.scheme ≠ "https")
          "ssl_certificate_checks_enabled requires an https target_url"

def normalizeSslExpiryWarningDays (sslCertificateChecksEnabled : Bool)
    (sslExpiryWarningDays : Option UInt64)
    : Validation (Option Int) := do
  if !sslCertificateChecksEnabled then
    rejectIf sslExpiryWarningDays.isSome
      "ssl_expiry_warning_days requires ssl_certificate_checks_enabled to be true"
    return none
  else
    let warningDays := (sslExpiryWarningDays.getD 14).toNat
    rejectIf (warningDays ≤ 7) "ssl_expiry_warning_days must be greater than 7"
    rejectIf (i32Max < warningDays) "ssl_expiry_warning_days is too large"
    return some (asI32 warningDays)

/-- The checks of timeouts, attempts and delays that HTTP and SSL payloads share. -/
def validateRetryOverrides (timeoutSeconds maxAttempts : Option UInt64)
    (retryDelaysMs : Option (List UInt64))
    : Validation Unit := do
  rejectIf (timeoutSeconds = some 0) "http_check_timeout_seconds_override must be greater than 0"
  rejectIf (maxAttempts = some 0) "http_check_max_attempts_override must be greater than 0"
  rejectIf (retryDelaysMs.any (·.isEmpty)) "http_check_retry_delays_ms_override must not be empty"
  rejectIf (retryDelaysMs.any (·.contains 0))
    "http_check_retry_delays_ms_override values must be greater than 0"
  rejectIf (retryDelaysMs.any (·.any fun value => i64Max < value.toNat))
    "http_check_retry_delays_ms_override values are too large"
  rejectIf
    (maxAttempts.any fun maxAttempts =>
      retryDelaysMs.any fun delays => delays.length < maxAttempts.toNat - 1)
    "http_check_retry_delays_ms_override must provide at least max_attempts - 1 values"

/-- `values.iter().map(|value| *value as i64)`. -/
def storedRetryDelays (retryDelaysMs : Option (List UInt64)) : Option (List Int) :=
  retryDelaysMs.map (·.map fun value => asI64 value.toNat)

/-- `value.map(|value| value as i32)`. -/
def storedOverride (value : Option UInt64) : Option Int := value.map fun value => asI32 value.toNat

------------------------------------------------------------
-- HTTP payloads
------------------------------------------------------------

structure UpsertHttpSiteMonitorRequest where
  targetUrl : String
  checkIntervalSeconds : Int
  expectedStatusCode : Int
  bodyMustContain : Option String
  bodyMustNotContain : Option String
  bodyMustContainTexts : Option (List String)
  bodyMustNotContainTexts : Option (List String)
  jsonPathExists : Option (List String)
  jsonPathEquals : Option (List JsonPathValueAssertion)
  jsonPathNotEquals : Option (List JsonPathValueAssertion)
  maxResponseTimeMs : Option UInt64
  requiredHeaderName : Option String
  requiredHeaderValue : Option String
  headerAssertions : Option (List HttpHeaderAssertion)
  sslCertificateChecksEnabled : Option Bool
  sslExpiryWarningDays : Option UInt64
  httpCheckTimeoutSecondsOverride : Option UInt64
  httpCheckMaxAttemptsOverride : Option UInt64
  httpCheckRetryDelaysMsOverride : Option (List UInt64)
  isActive : Bool

structure NormalizedHttpMonitorPayload where
  targetUrl : String
  bodyMustContain : Option String
  bodyMustNotContain : Option String
  bodyMustContainTexts : Option (List String)
  bodyMustNotContainTexts : Option (List String)
  jsonPathExists : Option (List String)
  jsonPathEquals : Option (List JsonPathValueAssertion)
  jsonPathNotEquals : Option (List JsonPathValueAssertion)
  requiredHeaderName : Option String
  requiredHeaderValue : Option String
  headerAssertions : Option (List HttpHeaderAssertion)
  sslCertificateChecksEnabled : Bool
  sslExpiryWarningDays : Option Int
  retryDelaysOverride : Option (List Int)

/-- A list of texts: neither empty nor with a blank one. -/
def validateTexts (fieldName : String) (values : Option (List String)) : Validation Unit := do
  rejectIf (values.any (·.isEmpty)) s!"{fieldName} must not be empty"
  rejectIf (values.any (·.any isBlank)) s!"{fieldName} must not contain blank values"

/-- A list of assertions on paths: neither empty nor with a blank path. -/
def validatePaths (fieldName : String) (assertions : Option (List JsonPathValueAssertion))
    : Validation Unit := do
  rejectIf (assertions.any (·.isEmpty)) s!"{fieldName} must not be empty"
  rejectIf (assertions.any (·.any fun assertion => isBlank assertion.path))
    s!"{fieldName} paths must not be blank"

def validateHeaderAssertion (libraries : PayloadLibraries) (assertion : HttpHeaderAssertion)
    : Validation Unit := do
  rejectIf (isBlank assertion.name) "header_assertions names must not be blank"
  rejectIf (libraries.headerName (trim assertion.name)).isNone
    "header_assertions contain an invalid HTTP header name"
  rejectIf (assertion.equals.any isBlank) "header_assertions equals values must not be blank"
  rejectIf (assertion.contains.any isBlank) "header_assertions contains values must not be blank"
  rejectIf (assertion.equals.isSome && assertion.contains.isSome)
    "header_assertions may specify only one of equals or contains"

def validateHttpMonitorPolicyOverrides (libraries : PayloadLibraries)
    (payload : UpsertHttpSiteMonitorRequest)
    : Validation Unit := do
  rejectIf (payload.bodyMustContain.any isBlank) "body_must_contain must not be blank"
  rejectIf (payload.bodyMustNotContain.any isBlank) "body_must_not_contain must not be blank"
  validateTexts "body_must_contain_texts" payload.bodyMustContainTexts
  validateTexts "body_must_not_contain_texts" payload.bodyMustNotContainTexts
  validateTexts "json_path_exists" payload.jsonPathExists
  validatePaths "json_path_equals" payload.jsonPathEquals
  validatePaths "json_path_not_equals" payload.jsonPathNotEquals
  rejectIf (payload.maxResponseTimeMs = some 0) "max_response_time_ms must be greater than 0"
  rejectIf (payload.requiredHeaderName.any isBlank) "required_header_name must not be blank"
  rejectIf (payload.requiredHeaderValue.any isBlank) "required_header_value must not be blank"
  rejectIf (payload.requiredHeaderName.isNone && payload.requiredHeaderValue.isSome)
    "required_header_name is required when required_header_value is provided"
  rejectIf (payload.headerAssertions.any (·.isEmpty)) "header_assertions must not be empty"
  (payload.headerAssertions.getD []).forM (validateHeaderAssertion libraries)
  rejectIf (payload.maxResponseTimeMs.any fun value => i32Max < value.toNat)
    "max_response_time_ms is too large"
  validateRetryOverrides payload.httpCheckTimeoutSecondsOverride
    payload.httpCheckMaxAttemptsOverride payload.httpCheckRetryDelaysMsOverride

def normalizeHttpAssertionText (value : Option String) (fieldName : String)
    : Validation (Option String) :=
  match value.map trim with
  | some "" => .error (.badRequest s!"{fieldName} must not be blank")
  | value => .ok value

/-- Trims the texts of a list; also the body of `normalize_json_path_exists`. -/
def normalizeHttpAssertionTexts (values : Option (List String)) (fieldName : String)
    : Validation (Option (List String)) :=
  match values with
  | none => .ok none
  | some values => do
      rejectIf values.isEmpty s!"{fieldName} must not be empty"
      rejectIf (values.any isBlank) s!"{fieldName} must not contain blank values"
      return some (values.map trim)

def normalizeJsonPathExists := normalizeHttpAssertionTexts

def normalizeJsonPathValueAssertions (assertions : Option (List JsonPathValueAssertion))
    (fieldName : String)
    : Validation (Option (List JsonPathValueAssertion)) :=
  match assertions with
  | none => .ok none
  | some assertions => do
      rejectIf assertions.isEmpty s!"{fieldName} must not be empty"
      rejectIf (assertions.any fun assertion => isBlank assertion.path)
        s!"{fieldName} paths must not be blank"
      return some (assertions.map fun assertion =>
        { assertion with path := trim assertion.path })

def normalizeHttpAssertionHeaderName (libraries : PayloadLibraries) (value : Option String)
    : Validation (Option String) :=
  match value.map trim with
  | none => .ok none
  | some value => do
      rejectIf (value = "") "required_header_name must not be blank"
      rejectIf (libraries.headerName value).isNone
        "required_header_name is not a valid HTTP header name"
      return some value

def normalizeHeaderAssertion (libraries : PayloadLibraries) (assertion : HttpHeaderAssertion)
    : Validation HttpHeaderAssertion := do
  let name := trim assertion.name
  rejectIf (name = "") "header_assertions names must not be blank"
  rejectIf (libraries.headerName name).isNone
    "header_assertions contain an invalid HTTP header name"
  let equals ← normalizeHttpAssertionText assertion.equals "equals"
  let contains ← normalizeHttpAssertionText assertion.contains "contains"
  rejectIf (equals.isSome && contains.isSome)
    "header_assertions may specify only one of equals or contains"
  return { name, equals, contains }

def normalizeHttpHeaderAssertions (libraries : PayloadLibraries)
    (assertions : Option (List HttpHeaderAssertion))
    : Validation (Option (List HttpHeaderAssertion)) :=
  match assertions with
  | none => .ok none
  | some assertions => do
      rejectIf assertions.isEmpty "header_assertions must not be empty"
      return some (← assertions.mapM (normalizeHeaderAssertion libraries))

def validateAndNormalizeHttpMonitorPayload (libraries : PayloadLibraries)
    (lookupHost : LookupHost) (payload : UpsertHttpSiteMonitorRequest) (allowPrivate : Bool)
    : Validation NormalizedHttpMonitorPayload := do
  rejectIf (isBlank payload.targetUrl) "target_url is required"
  validateMonitorTargetUrl libraries lookupHost (trim payload.targetUrl) allowPrivate
  rejectIf (payload.checkIntervalSeconds < 30) "check_interval_seconds must be at least 30"
  rejectIf (payload.expectedStatusCode < 100 || 599 < payload.expectedStatusCode)
    "expected_status_code must be between 100 and 599"
  validateHttpMonitorPolicyOverrides libraries payload
  let sslCertificateChecksEnabled := payload.sslCertificateChecksEnabled.getD false
  validateSslCertificateCheckTargetUrl libraries (trim payload.targetUrl)
    sslCertificateChecksEnabled
  let sslExpiryWarningDays ←
    normalizeSslExpiryWarningDays sslCertificateChecksEnabled payload.sslExpiryWarningDays
  let bodyMustContain ← normalizeHttpAssertionText payload.bodyMustContain "body_must_contain"
  let bodyMustNotContain ←
    normalizeHttpAssertionText payload.bodyMustNotContain "body_must_not_contain"
  let bodyMustContainTexts ←
    normalizeHttpAssertionTexts payload.bodyMustContainTexts "body_must_contain_texts"
  let bodyMustNotContainTexts ←
    normalizeHttpAssertionTexts payload.bodyMustNotContainTexts "body_must_not_contain_texts"
  let jsonPathExists ← normalizeJsonPathExists payload.jsonPathExists "json_path_exists"
  let jsonPathEquals ← normalizeJsonPathValueAssertions payload.jsonPathEquals "json_path_equals"
  let jsonPathNotEquals ←
    normalizeJsonPathValueAssertions payload.jsonPathNotEquals "json_path_not_equals"
  let requiredHeaderName ← normalizeHttpAssertionHeaderName libraries payload.requiredHeaderName
  let requiredHeaderValue ←
    normalizeHttpAssertionText payload.requiredHeaderValue "required_header_value"
  let headerAssertions ← normalizeHttpHeaderAssertions libraries payload.headerAssertions
  return {
    targetUrl := trim payload.targetUrl
    bodyMustContain, bodyMustNotContain, bodyMustContainTexts, bodyMustNotContainTexts,
    jsonPathExists, jsonPathEquals, jsonPathNotEquals, requiredHeaderName, requiredHeaderValue,
    headerAssertions, sslCertificateChecksEnabled, sslExpiryWarningDays
    retryDelaysOverride := storedRetryDelays payload.httpCheckRetryDelaysMsOverride }

/-- The columns that the upsert and the update handler bind. -/
def UpsertHttpSiteMonitorRequest.params (payload : UpsertHttpSiteMonitorRequest)
    (normalized : NormalizedHttpMonitorPayload)
    : HttpMonitorParams where
  targetUrl := normalized.targetUrl
  checkIntervalSeconds := payload.checkIntervalSeconds
  expectedStatusCode := payload.expectedStatusCode
  bodyMustContain := normalized.bodyMustContain
  bodyMustNotContain := normalized.bodyMustNotContain
  bodyMustContainTexts := normalized.bodyMustContainTexts
  bodyMustNotContainTexts := normalized.bodyMustNotContainTexts
  jsonPathExists := normalized.jsonPathExists
  jsonPathEquals := normalized.jsonPathEquals
  jsonPathNotEquals := normalized.jsonPathNotEquals
  maxResponseTimeMs := storedOverride payload.maxResponseTimeMs
  requiredHeaderName := normalized.requiredHeaderName
  requiredHeaderValue := normalized.requiredHeaderValue
  headerAssertions := normalized.headerAssertions
  sslCertificateChecksEnabled := normalized.sslCertificateChecksEnabled
  sslExpiryWarningDays := normalized.sslExpiryWarningDays
  httpCheckTimeoutSecondsOverride := storedOverride payload.httpCheckTimeoutSecondsOverride
  httpCheckMaxAttemptsOverride := storedOverride payload.httpCheckMaxAttemptsOverride
  httpCheckRetryDelaysMsOverride := normalized.retryDelaysOverride
  isActive := payload.isActive

------------------------------------------------------------
-- SSL payloads
------------------------------------------------------------

structure UpsertSslSiteMonitorRequest where
  targetUrl : String
  checkIntervalSeconds : Int
  sslExpiryWarningDays : Option UInt64
  httpCheckTimeoutSecondsOverride : Option UInt64
  httpCheckMaxAttemptsOverride : Option UInt64
  httpCheckRetryDelaysMsOverride : Option (List UInt64)
  isActive : Bool

structure NormalizedSslMonitorPayload where
  targetUrl : String
  sslExpiryWarningDays : Option Int
  retryDelaysOverride : Option (List Int)

def validateSslMonitorPolicyOverrides (payload : UpsertSslSiteMonitorRequest)
    : Validation Unit :=
  validateRetryOverrides payload.httpCheckTimeoutSecondsOverride
    payload.httpCheckMaxAttemptsOverride payload.httpCheckRetryDelaysMsOverride

def validateAndNormalizeSslMonitorPayload (libraries : PayloadLibraries)
    (lookupHost : LookupHost) (payload : UpsertSslSiteMonitorRequest) (allowPrivate : Bool)
    : Validation NormalizedSslMonitorPayload := do
  rejectIf (isBlank payload.targetUrl) "target_url is required"
  validateMonitorTargetUrl libraries lookupHost (trim payload.targetUrl) allowPrivate
  validateSslCertificateCheckTargetUrl libraries (trim payload.targetUrl) true
  rejectIf (payload.checkIntervalSeconds < 30) "check_interval_seconds must be at least 30"
  validateSslMonitorPolicyOverrides payload
  let sslExpiryWarningDays ← normalizeSslExpiryWarningDays true payload.sslExpiryWarningDays
  return {
    targetUrl := trim payload.targetUrl
    sslExpiryWarningDays
    retryDelaysOverride := storedRetryDelays payload.httpCheckRetryDelaysMsOverride }

def UpsertSslSiteMonitorRequest.params (payload : UpsertSslSiteMonitorRequest)
    (normalized : NormalizedSslMonitorPayload)
    : SslMonitorParams where
  targetUrl := normalized.targetUrl
  checkIntervalSeconds := payload.checkIntervalSeconds
  sslExpiryWarningDays := normalized.sslExpiryWarningDays
  httpCheckTimeoutSecondsOverride := storedOverride payload.httpCheckTimeoutSecondsOverride
  httpCheckMaxAttemptsOverride := storedOverride payload.httpCheckMaxAttemptsOverride
  httpCheckRetryDelaysMsOverride := normalized.retryDelaysOverride
  isActive := payload.isActive

------------------------------------------------------------
-- TCP payloads
------------------------------------------------------------

structure UpsertTcpSiteMonitorRequest where
  targetHost : String
  targetPort : UInt16
  checkIntervalSeconds : Int
  maxConnectTimeMs : Option UInt64
  timeoutSecondsOverride : Option UInt64
  maxAttemptsOverride : Option UInt64
  retryDelaysMsOverride : Option (List UInt64)
  isActive : Bool

-- The delays are not checked at all.
def validateAndNormalizeTcpMonitorPayload (payload : UpsertTcpSiteMonitorRequest)
    : Validation (Option (List Int)) := do
  rejectIf (isBlank payload.targetHost) "target_host is required"
  rejectIf (payload.targetPort = 0) "target_port must be between 1 and 65535"
  rejectIf (payload.checkIntervalSeconds < 30) "check_interval_seconds must be at least 30"
  rejectIf (payload.timeoutSecondsOverride = some 0)
    "timeout_seconds_override must be greater than 0"
  rejectIf (payload.maxAttemptsOverride = some 0) "max_attempts_override must be greater than 0"
  return storedRetryDelays payload.retryDelaysMsOverride

def validateTcpTarget (lookupHost : LookupHost) (host : String) (port : UInt16)
    : Validation Unit :=
  let host := trim host
  match IpAddress.IpAddr.parse host with
  | some ip => rejectIf (!checkIpIsPublic ip) "target_host must be a public IP address"
  | none =>
      match lookupHost s!"{host}:{port}" with
      | none => .error (.badRequest "target_host could not be resolved")
      | some resolved =>
          rejectIf (resolved.any fun addr => !checkIpIsPublic addr.ip)
            "target_host resolves to a non-public IP address"

def UpsertTcpSiteMonitorRequest.params (payload : UpsertTcpSiteMonitorRequest)
    (retryDelays : Option (List Int))
    : TcpMonitorParams where
  targetHost := trim payload.targetHost
  targetPort := payload.targetPort.toNat
  checkIntervalSeconds := payload.checkIntervalSeconds
  maxConnectTimeMs := storedOverride payload.maxConnectTimeMs
  timeoutSecondsOverride := storedOverride payload.timeoutSecondsOverride
  maxAttemptsOverride := storedOverride payload.maxAttemptsOverride
  retryDelaysMsOverride := retryDelays
  isActive := payload.isActive

------------------------------------------------------------
-- DNS payloads
------------------------------------------------------------

structure UpsertDnsSiteMonitorRequest where
  hostname : String
  recordType : String
  expectedValue : Option String
  nameserver : Option String
  checkIntervalSeconds : Int
  timeoutSecondsOverride : Option UInt64
  maxAttemptsOverride : Option UInt64
  retryDelaysMsOverride : Option (List UInt64)
  isActive : Bool

-- Neither the delays nor the expected value are checked.
def validateAndNormalizeDnsMonitorPayload (toUppercase : String → String)
    (payload : UpsertDnsSiteMonitorRequest)
    : Validation (Option (List Int)) := do
  rejectIf (isBlank payload.hostname) "hostname is required"
  rejectIf (!isValidRecordType toUppercase (trim payload.recordType))
    "record_type must be one of: A, AAAA, CNAME, MX, TXT, NS"
  rejectIf (payload.checkIntervalSeconds < 30) "check_interval_seconds must be at least 30"
  rejectIf (payload.timeoutSecondsOverride = some 0)
    "timeout_seconds_override must be greater than 0"
  rejectIf (payload.maxAttemptsOverride = some 0) "max_attempts_override must be greater than 0"
  rejectIf (payload.nameserver.any fun ns => (IpAddress.IpAddr.parse (trim ns)).isNone)
    "nameserver must be an IP address (e.g. 8.8.8.8)"
  return storedRetryDelays payload.retryDelaysMsOverride

def UpsertDnsSiteMonitorRequest.params (toUppercase : String → String)
    (payload : UpsertDnsSiteMonitorRequest) (retryDelays : Option (List Int))
    : DnsMonitorParams where
  hostname := trim payload.hostname
  recordType := toUppercase (trim payload.recordType)
  expectedValue := payload.expectedValue
  nameserver := payload.nameserver
  checkIntervalSeconds := payload.checkIntervalSeconds
  timeoutSecondsOverride := storedOverride payload.timeoutSecondsOverride
  maxAttemptsOverride := storedOverride payload.maxAttemptsOverride
  retryDelaysMsOverride := retryDelays
  isActive := payload.isActive

------------------------------------------------------------
-- What is accepted
------------------------------------------------------------

/-- A sequence of checks goes on exactly if its first one passes. -/
theorem rejectIf_bind {Result : Type} {fails : Bool} {message : String}
    {next : Unit → Validation Result} {result : Result}
    : (rejectIf fails message >>= next) = .ok result ↔ fails = false ∧ next () = .ok result := by
  cases fails with
  | true => exact ⟨nofun, fun passed => nomatch passed.1⟩
  | false => exact ⟨fun ok => ⟨rfl, ok⟩, fun passed => passed.2⟩

theorem rejectIf_ok {fails : Bool} {message : String}
    : rejectIf fails message = .ok () ↔ fails = false := by
  cases fails with
  | true => exact ⟨nofun, nofun⟩
  | false => exact ⟨fun _ => rfl, fun _ => rfl⟩

/-- What the shared checks accept: overrides are positive, delays fit an `i64`, and with both given
there is a delay for each further attempt.
-/
structure AcceptedOverrides (timeoutSeconds maxAttempts : Option UInt64)
    (retryDelaysMs : Option (List UInt64))
    : Prop where
  timeout : timeoutSeconds ≠ some 0
  attempts : maxAttempts ≠ some 0
  delaysGiven : ∀ delays ∈ retryDelaysMs, delays ≠ []
  delaysPositive : ∀ delays ∈ retryDelaysMs, 0 ∉ delays
  delaysFit : ∀ delays ∈ retryDelaysMs, ∀ value ∈ delays, value.toNat ≤ i64Max
  enoughDelays
    : ∀ delays ∈ retryDelaysMs, ∀ count ∈ maxAttempts, count.toNat - 1 ≤ delays.length

theorem validateRetryOverrides_ok {timeoutSeconds maxAttempts : Option UInt64}
    {retryDelaysMs : Option (List UInt64)}
    (accepted : validateRetryOverrides timeoutSeconds maxAttempts retryDelaysMs = .ok ())
    : AcceptedOverrides timeoutSeconds maxAttempts retryDelaysMs := by
  unfold validateRetryOverrides at accepted
  simp only [rejectIf_bind, rejectIf_ok] at accepted
  obtain ⟨timeout, attempts, given, positive, fit, enough⟩ := accepted
  refine
    { timeout := by simpa using timeout
      attempts := by simpa using attempts
      delaysGiven := ?_, delaysPositive := ?_, delaysFit := ?_, enoughDelays := ?_ }
  · rintro delays ⟨⟩
    simpa using given
  · rintro delays ⟨⟩
    simpa using positive
  · rintro delays ⟨⟩ value member
    simp only [Option.any_some, List.any_eq_false, decide_eq_true_eq, not_lt] at fit
    exact fit value member
  · rintro delays ⟨⟩ count ⟨⟩
    simpa using enough

/-- What an accepted HTTP payload has become: its retry policy is checked, its paths are trimmed,
and its delays are cast.
-/
structure AcceptedHttp (payload : UpsertHttpSiteMonitorRequest)
    (normalized : NormalizedHttpMonitorPayload)
    : Prop where
  overrides
    : AcceptedOverrides payload.httpCheckTimeoutSecondsOverride
        payload.httpCheckMaxAttemptsOverride payload.httpCheckRetryDelaysMsOverride
  pathsExist
    : normalizeJsonPathExists payload.jsonPathExists "json_path_exists"
      = .ok normalized.jsonPathExists
  pathsEqual
    : normalizeJsonPathValueAssertions payload.jsonPathEquals "json_path_equals"
      = .ok normalized.jsonPathEquals
  pathsDiffer
    : normalizeJsonPathValueAssertions payload.jsonPathNotEquals "json_path_not_equals"
      = .ok normalized.jsonPathNotEquals
  delays
    : normalized.retryDelaysOverride = storedRetryDelays payload.httpCheckRetryDelaysMsOverride

/-- The retry checks are the last ones of an HTTP payload's policy. -/
theorem validateHttpMonitorPolicyOverrides_ok {libraries : PayloadLibraries}
    {payload : UpsertHttpSiteMonitorRequest}
    (accepted : validateHttpMonitorPolicyOverrides libraries payload = .ok ())
    : AcceptedOverrides payload.httpCheckTimeoutSecondsOverride
        payload.httpCheckMaxAttemptsOverride payload.httpCheckRetryDelaysMsOverride := by
  unfold validateHttpMonitorPolicyOverrides at accepted
  simp only [Fallible.bind_eq_ok] at accepted
  -- the two body texts and their lists
  obtain ⟨_, _, _, _, _, _, _, _, accepted⟩ := accepted
  -- the lists of paths
  obtain ⟨_, _, _, _, _, _, accepted⟩ := accepted
  -- the response time and the required header
  obtain ⟨_, _, _, _, _, _, _, _, accepted⟩ := accepted
  -- the header assertions and the bound of the response time
  obtain ⟨_, _, _, _, _, _, retries⟩ := accepted
  exact validateRetryOverrides_ok retries

theorem acceptedHttp {libraries : PayloadLibraries} {lookupHost : LookupHost}
    {payload : UpsertHttpSiteMonitorRequest} {allowPrivate : Bool}
    {normalized : NormalizedHttpMonitorPayload}
    (accepted
      : validateAndNormalizeHttpMonitorPayload libraries lookupHost payload allowPrivate
        = .ok normalized)
    : AcceptedHttp payload normalized := by
  unfold validateAndNormalizeHttpMonitorPayload at accepted
  simp only [Fallible.bind_eq_ok] at accepted
  -- the target, the interval and the status code
  obtain ⟨_, _, _, _, _, _, _, _, accepted⟩ := accepted
  obtain ⟨_, policy, accepted⟩ := accepted
  -- the certificate checks and the days of their warning
  obtain ⟨_, _, _, _, accepted⟩ := accepted
  -- the body texts and their lists
  obtain ⟨_, _, _, _, _, _, _, _, accepted⟩ := accepted
  obtain ⟨_, pathsExist, _, pathsEqual, _, pathsDiffer, accepted⟩ := accepted
  -- the headers
  obtain ⟨_, _, _, _, _, _, ⟨⟩⟩ := accepted
  exact
    { overrides := validateHttpMonitorPolicyOverrides_ok policy
      pathsExist, pathsEqual, pathsDiffer, delays := rfl }

/-- What an accepted SSL payload has become. -/
theorem acceptedSsl {libraries : PayloadLibraries} {lookupHost : LookupHost}
    {payload : UpsertSslSiteMonitorRequest} {allowPrivate : Bool}
    {normalized : NormalizedSslMonitorPayload}
    (accepted
      : validateAndNormalizeSslMonitorPayload libraries lookupHost payload allowPrivate
        = .ok normalized)
    : AcceptedOverrides payload.httpCheckTimeoutSecondsOverride
        payload.httpCheckMaxAttemptsOverride payload.httpCheckRetryDelaysMsOverride
      ∧ normalized.retryDelaysOverride
        = storedRetryDelays payload.httpCheckRetryDelaysMsOverride := by
  unfold validateAndNormalizeSslMonitorPayload at accepted
  simp only [Fallible.bind_eq_ok] at accepted
  -- the target and the interval
  obtain ⟨_, _, _, _, _, _, _, _, accepted⟩ := accepted
  obtain ⟨_, retries, _, _, ⟨⟩⟩ := accepted
  exact ⟨validateRetryOverrides_ok retries, rfl⟩

end AlonSentinel.Api
