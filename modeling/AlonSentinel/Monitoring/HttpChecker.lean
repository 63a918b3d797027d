import AlonSentinel.Foundation.Utf8Lossy
import AlonSentinel.Monitoring.JsonPath
import AlonSentinel.Monitoring.TlsProbe

/-! The check of a URL. A response goes through stages that share one verdict: most of them run
only while it is a success, so the first failure stays. The libraries that read URLs, header names
and JSON are parameters; what the network does is an input of each check.
-/

namespace AlonSentinel.Monitoring

open Domain
open IpAddress
open MachineInteger
open SerdeJson
open Worker

------------------------------------------------------------
-- Responses
------------------------------------------------------------

/-- What the check asks a `reqwest::Error`, and its text. -/
structure RequestError where
  isConnect : Bool
  isTimeout : Bool
  isRedirect : Bool
  text : String
  deriving DecidableEq

/-- A response: its headers by lower-case name, and its body as the chunks that arrive before the
end or an error.
-/
structure HttpResponse where
  status : UInt16
  headers : List (String × List UInt8)
  chunks : List (List UInt8)
  readError : Option RequestError
  deriving DecidableEq

def HttpResponse.statusCode (response : HttpResponse) : Int := response.status.toNat

/-- `StatusCode::is_redirection`. -/
def HttpResponse.isRedirection (response : HttpResponse) : Bool :=
  300 ≤ response.status && response.status < 400

/-- `HeaderValue::to_str`: visible ASCII, spaces and tabs. -/
def headerText (value : List UInt8) : Option String :=
  if value.all fun byte => (32 ≤ byte && byte < 127) || byte = 9 then
    some (.ofList (value.map fun byte => Char.ofNat byte.toNat))
  else none

/-- The loop that reads a body, up to a limit. -/
def readChunks (limit : Nat) (readError : Option RequestError)
    : List UInt8 → List (List UInt8) → Except RequestError (List UInt8)
  | buf, [] =>
      match readError with
      | some error => .error error
      | none => .ok buf
  | buf, chunk :: rest =>
      let remaining := limit - buf.length
      let extended := buf ++ chunk.take (min chunk.length remaining)
      if limit ≤ extended.length then .ok extended else readChunks limit readError extended rest

def HttpResponse.readBody (response : HttpResponse) (maxResponseBodyBytes : UInt64)
    : Except RequestError (List UInt8) :=
  readChunks maxResponseBodyBytes.toNat response.readError [] response.chunks

------------------------------------------------------------
-- Assertions
------------------------------------------------------------

structure HttpAssertions where
  bodyMustContain : Option String
  bodyMustNotContain : Option String
  bodyMustContainTexts : List String
  bodyMustNotContainTexts : List String
  jsonPathExists : List String
  jsonPathEquals : List JsonPathValueAssertion
  jsonPathNotEquals : List JsonPathValueAssertion
  maxResponseTimeMs : Option Int
  requiredHeaderName : Option String
  requiredHeaderValue : Option String
  headerAssertions : List HttpHeaderAssertion
  sslCertificateChecksEnabled : Bool
  sslExpiryWarningDays : Option Int

structure HttpCheckConfig where
  maxResponseBodyBytes : UInt64
  validatePublicTarget : Bool

/-- The libraries of the check: header names in lower case, JSON as text and its equality, and the
characters that `Debug` does not print.
-/
structure HttpLibraries where
  parseUrl : UrlParser
  headerName : String → Option String
  readJson : String → Except String Value
  sameJson : Value → Value → Bool
  printJson : Value → String
  isUnprintable : Char → Bool

def assertionFailureReason (path : String) : String := s!"assertion_failed:{path}"

/-- A failed assertion. -/
def assertionFailed (path message : String) : Failure := ⟨assertionFailureReason path, message⟩

variable (libraries : HttpLibraries)

/-- The comparison of a header's value with a required text. -/
def evaluateHeaderText (headerName : String) (value : List UInt8) (path : String)
    (required : Option String) (meets : String → String → Bool) (expectation : String)
    : Option Failure :=
  match required with
  | none => none
  | some required =>
      match headerText value with
      | some actual =>
          if meets actual required then none
          else
            some <| assertionFailed path <|
              s!"Response header {headerName} had value "
                ++ UnicodeText.debug libraries.isUnprintable actual ++ expectation
                ++ UnicodeText.debug libraries.isUnprintable required
      | none => some (assertionFailed path s!"Response header {headerName} was not valid text")

def evaluateHeaderAssertion (headers : List (String × List UInt8))
    (assertion : HttpHeaderAssertion) (path : String)
    : Option Failure :=
  match libraries.headerName assertion.name with
  | none => some (assertionFailed path s!"{assertion.name} is not a valid HTTP header name")
  | some headerName =>
      match headers.lookup headerName with
      | none =>
          some <| assertionFailed s!"{path}.exists"
            s!"Response did not include required header: {headerName}"
      | some value =>
          (evaluateHeaderText libraries headerName value s!"{path}.equals" assertion.equals
            (fun actual required => actual = required) ", expected ").or
          (evaluateHeaderText libraries headerName value s!"{path}.contains" assertion.contains
            UnicodeText.contains ", expected it to contain ")

/-- A loop over assertions, which breaks at the first that fails. -/
def firstFailure {Assertion : Type} (field : String)
    (evaluate : String → Assertion → Option Failure) (assertions : List Assertion)
    : Option Failure :=
  assertions.zipIdx.findSome? fun indexed => evaluate s!"{field}[{indexed.2}]" indexed.1

def mustContain (body path required : String) : Option Failure :=
  if UnicodeText.contains body required then none
  else some (assertionFailed path s!"Response body did not contain required text: {required}")

def mustNotContain (body path forbidden : String) : Option Failure :=
  if UnicodeText.contains body forbidden then
    some (assertionFailed path s!"Response body contained forbidden text: {forbidden}")
  else none

/-- An assertion on the value a JSON path leads to. -/
def evaluateJsonPath (json : Value) (path jsonPath : String)
    (evaluate : Value → Option String)
    : Option Failure :=
  match resolveJsonPath json jsonPath with
  | .ok (some actual) => (evaluate actual).map (assertionFailed path)
  | .ok none => some (assertionFailed path s!"JSON path {jsonPath} did not exist")
  | .error error => some (assertionFailed path error)

def pathExists (json : Value) (path jsonPath : String) : Option Failure :=
  evaluateJsonPath json path jsonPath fun _ => none

def pathEquals (json : Value) (path : String) (assertion : JsonPathValueAssertion)
    : Option Failure :=
  evaluateJsonPath json path assertion.path fun actual =>
    if libraries.sameJson actual assertion.value then none
    else
      some <| s!"JSON path {assertion.path} had value {libraries.printJson actual}"
        ++ s!", expected {libraries.printJson assertion.value}"

def pathNotEquals (json : Value) (path : String) (assertion : JsonPathValueAssertion)
    : Option Failure :=
  evaluateJsonPath json path assertion.path fun actual =>
    if libraries.sameJson actual assertion.value then
      some s!"JSON path {assertion.path} unexpectedly had value {libraries.printJson actual}"
    else none

------------------------------------------------------------
-- The verdict
------------------------------------------------------------

/-- The variables `is_success`, `failure_reason` and `error_message`. -/
structure Verdict where
  isSuccess : Bool
  failureReason : Option String
  errorMessage : Option String
  deriving DecidableEq

def Verdict.success : Verdict := ⟨true, none, none⟩

def Verdict.failed (failure : Failure) : Verdict :=
  ⟨false, some failure.reason, some failure.message⟩

/-- A stage that always runs: a failure of it is written over the verdict. -/
def Verdict.always (verdict : Verdict) : Option Failure → Verdict
  | none => verdict
  | some failure => .failed failure

/-- A stage that runs on a success. -/
def Verdict.check (verdict : Verdict) (failure : Option Failure) : Verdict :=
  if verdict.isSuccess then verdict.always failure else verdict

def HttpResponse.judgeStatus (response : HttpResponse) (expectedStatusCode : Int) : Verdict :=
  if response.statusCode = expectedStatusCode then .success
  else if response.isRedirection then
    let redirectTarget :=
      ((response.headers.lookup "location").bind headerText).getD "<unknown>"
    .failed
      { reason := "redirect_blocked"
        message :=
          s!"Redirect blocked with HTTP status: {response.statusCode}"
            ++ s!", location: {redirectTarget}" }
  else
    .failed
      { reason := "unexpected_status"
        message :=
          s!"Unexpected HTTP status: {response.statusCode}, expected: {expectedStatusCode}" }

variable (assertions : HttpAssertions)

def maxResponseTimeFailure (elapsed : Int) : Option Failure :=
  assertions.maxResponseTimeMs.bind fun maxResponseTimeMs =>
    if maxResponseTimeMs < elapsed then
      some <| assertionFailed "max_response_time_ms" <|
        s!"Response time {elapsed}ms exceeded max_response_time_ms {maxResponseTimeMs}ms"
    else none

def requiredHeaderFailure (headers : List (String × List UInt8)) : Option Failure :=
  assertions.requiredHeaderName.bind fun requiredHeaderName =>
    evaluateHeaderAssertion libraries headers
      { name := requiredHeaderName
        equals := assertions.requiredHeaderValue
        contains := none }
      "required_header"

def HttpAssertions.onJson : Bool :=
  !assertions.jsonPathExists.isEmpty || !assertions.jsonPathEquals.isEmpty
    || !assertions.jsonPathNotEquals.isEmpty

def HttpAssertions.onBody : Bool :=
  assertions.bodyMustContain.isSome || assertions.bodyMustNotContain.isSome
    || !assertions.bodyMustContainTexts.isEmpty || !assertions.bodyMustNotContainTexts.isEmpty
    || assertions.onJson

def judgeJson (verdict : Verdict) (json : Value) : Verdict :=
  let verdict :=
    verdict.always (firstFailure "json_path_exists" (pathExists json) assertions.jsonPathExists)
  let verdict :=
    verdict.check <|
      firstFailure "json_path_equals" (pathEquals libraries json) assertions.jsonPathEquals
  verdict.check <|
    firstFailure "json_path_not_equals" (pathNotEquals libraries json)
      assertions.jsonPathNotEquals

/-- The stages on the texts of a body. -/
def judgeTexts (verdict : Verdict) (body : String) : Verdict :=
  let verdict :=
    verdict.always (assertions.bodyMustContain.bind (mustContain body "body_must_contain"))
  let verdict :=
    verdict.check <|
      firstFailure "body_must_contain_texts" (mustContain body) assertions.bodyMustContainTexts
  let verdict :=
    verdict.check <|
      assertions.bodyMustNotContain.bind (mustNotContain body "body_must_not_contain")
  verdict.check <|
    firstFailure "body_must_not_contain_texts" (mustNotContain body)
      assertions.bodyMustNotContainTexts

def judgeBody (verdict : Verdict) (body : String) : Verdict :=
  let verdict := judgeTexts assertions verdict body
  if verdict.isSuccess && assertions.onJson then
    match libraries.readJson body with
    | .error error =>
        .failed (assertionFailed "json_body" s!"Response body was not valid JSON: {error}")
    | .ok json => judgeJson libraries assertions verdict json
  else verdict

/-- The stages before the body is read. -/
def judgeHead (expectedStatusCode elapsed : Int) (response : HttpResponse) : Verdict :=
  let verdict := response.judgeStatus expectedStatusCode
  let verdict := verdict.check (maxResponseTimeFailure assertions elapsed)
  let verdict := verdict.check (requiredHeaderFailure libraries assertions response.headers)
  verdict.check <|
    firstFailure "header_assertions"
      (fun path assertion => evaluateHeaderAssertion libraries response.headers assertion path)
      assertions.headerAssertions

def judgeResponse (maxResponseBodyBytes : UInt64) (expectedStatusCode elapsed : Int)
    (response : HttpResponse)
    : Verdict :=
  let verdict := judgeHead libraries assertions expectedStatusCode elapsed response
  if verdict.isSuccess && assertions.onBody then
    match response.readBody maxResponseBodyBytes with
    | .ok body => judgeBody libraries assertions verdict (Utf8Lossy.decode body)
    | .error error => .failed ⟨"response_read_error", error.text⟩
  else verdict

------------------------------------------------------------
-- The check
------------------------------------------------------------

def classifyRequestError (error : RequestError) : String :=
  if error.isConnect then "connect_error"
  else if error.isTimeout then "timeout"
  else if error.isRedirect then "redirect_error"
  else "request_error"

/-- What a check meets: the answer of the resolver, the servers behind the addresses, the clock,
the client that is built, what comes of the request, and the milliseconds it took until then.
-/
structure HttpCheckRun (Certificate : Type) where
  lookupHost : LookupHost
  servers : SocketAddr → Server Certificate
  now : Int
  client : Except String Unit
  sent : Except RequestError HttpResponse
  elapsedMs : Nat

variable {Certificate : Type} (tls : TlsLibrary Certificate)

/-- The certificate of a target, if it is to be checked. -/
def evaluateTargetCertificate (run : HttpCheckRun Certificate) (target : RuntimeRequestTarget)
    : Except ProbeFailure (Option CertificateMetadata) :=
  if assertions.sslCertificateChecksEnabled then
    let evaluated :=
      evaluateSslCertificateForTarget tls run.now run.servers target
        (assertions.sslExpiryWarningDays.getD defaultSslExpiryWarningDays)
    evaluated.result.map some
  else .ok none

def checkUrl (url : String) (expectedStatusCode : Int) (config : HttpCheckConfig)
    (run : HttpCheckRun Certificate)
    : CheckResult :=
  let elapsed := asI32 run.elapsedMs
  match resolveRuntimeRequestTarget libraries.parseUrl run.lookupHost url
      config.validatePublicTarget with
  | .error failure => failedCheck elapsed ⟨failure, none⟩
  | .ok target =>
      match evaluateTargetCertificate assertions tls run target with
      | .error failure => failedCheck elapsed failure
      | .ok certificateMetadata =>
          match run.client with
          | .error error => failedCheck elapsed ⟨⟨"request_error", error⟩, certificateMetadata⟩
          | .ok () =>
              match run.sent with
              | .error error =>
                  failedCheck elapsed
                    ⟨⟨classifyRequestError error, error.text⟩, certificateMetadata⟩
              | .ok response =>
                  let verdict :=
                    judgeResponse libraries assertions config.maxResponseBodyBytes
                      expectedStatusCode elapsed response
                  { isSuccess := verdict.isSuccess
                    statusCode := some response.statusCode
                    responseTimeMs := some elapsed
                    failureReason := verdict.failureReason
                    errorMessage := verdict.errorMessage
                    certificateMetadata }

------------------------------------------------------------
-- Reading a body
------------------------------------------------------------

/-- A body that arrives is read up to the limit, by induction over its chunks. -/
theorem readChunks_eq {limit : Nat} {buf : List UInt8} {chunks : List (List UInt8)}
    (within : buf.length ≤ limit)
    : readChunks limit none buf chunks = .ok ((buf ++ chunks.flatten).take limit) := by
  induction chunks generalizing buf with
  | nil => rw [readChunks, List.flatten_nil, List.append_nil, List.take_of_length_le within]
  | cons chunk rest ih =>
      have taken : buf ++ chunk.take (min chunk.length (limit - buf.length))
          = (buf ++ chunk).take limit := by
        rw [List.take_append, List.take_of_length_le within, Nat.min_comm, ← List.take_take,
          List.take_length]
      rw [readChunks, taken, List.flatten_cons, ← List.append_assoc]
      split
      · rename_i full
        have long : limit ≤ (buf ++ chunk).length := by
          simp only [List.length_take] at full
          omega
        rw [List.take_append_of_le_length long]
      · rename_i short
        have fits : (buf ++ chunk).length ≤ limit := by
          simp only [List.length_take] at short
          omega
        rw [List.take_of_length_le fits]
        exact ih fits

theorem HttpResponse.readBody_eq {response : HttpResponse} {maxResponseBodyBytes : UInt64}
    (arrived : response.readError = none)
    : response.readBody maxResponseBodyBytes
      = .ok (response.chunks.flatten.take maxResponseBodyBytes.toNat) := by
  rw [HttpResponse.readBody, arrived]
  exact readChunks_eq (Nat.zero_le _)

end AlonSentinel.Monitoring
