import AlonSentinel.Foundation.Fallible
import AlonSentinel.Foundation.OrderedRequirements
import AlonSentinel.Monitoring.HttpChecker

/-! What the check of a URL says of a response that arrives: a success if all requirements on it
hold, and otherwise the first that does not, in a fixed order. The time of the response is the
exception, since the check compares it after a cast to 32 bits.
-/

namespace AlonSentinel.System

open Domain
open MachineInteger
open Monitoring
open OrderedRequirements
open SerdeJson
open Worker

------------------------------------------------------------
-- Requirements
------------------------------------------------------------

abbrev NamedRequirement := Requirement String

def IsPart (part text : String) : Prop := part.toList <:+: text.toList

variable (libraries : HttpLibraries) (assertions : HttpAssertions)

def statusRequirement (response : HttpResponse) (expectedStatusCode : Int)
    : NamedRequirement where
  name := if response.isRedirection then "redirect_blocked" else "unexpected_status"
  Holds := response.statusCode = expectedStatusCode

def responseTimeRequirement (elapsed : Int) : NamedRequirement where
  name := assertionFailureReason "max_response_time_ms"
  Holds := ∀ maxResponseTimeMs ∈ assertions.maxResponseTimeMs, elapsed ≤ maxResponseTimeMs

/-- A header of this name has this value. -/
def HasHeader (headers : List (String × List UInt8)) (name : String) (value : List UInt8) : Prop :=
  ∃ headerName, libraries.headerName name = some headerName
    ∧ headers.lookup headerName = some value

/-- A header assertion: its name is one, there is such a header, and its value is as required. -/
def headerRequirements (headers : List (String × List UInt8)) (path : String)
    (assertion : HttpHeaderAssertion)
    : List NamedRequirement :=
  [ { name := assertionFailureReason path
      Holds := ∃ headerName, libraries.headerName assertion.name = some headerName },
    { name := assertionFailureReason s!"{path}.exists"
      Holds := ∃ value, HasHeader libraries headers assertion.name value },
    { name := assertionFailureReason s!"{path}.equals"
      Holds :=
        ∀ required ∈ assertion.equals,
          ∃ value,
            HasHeader libraries headers assertion.name value
            ∧ headerText value = some required },
    { name := assertionFailureReason s!"{path}.contains"
      Holds :=
        ∀ required ∈ assertion.contains,
          ∃ value actual,
            HasHeader libraries headers assertion.name value
            ∧ headerText value = some actual
            ∧ IsPart required actual } ]

def requiredHeaderRequirements (headers : List (String × List UInt8)) : List NamedRequirement :=
  assertions.requiredHeaderName.toList.flatMap fun requiredHeaderName =>
    headerRequirements libraries headers "required_header"
      { name := requiredHeaderName
        equals := assertions.requiredHeaderValue
        contains := none }

def containRequirement (body path required : String) : NamedRequirement where
  name := assertionFailureReason path
  Holds := IsPart required body

def notContainRequirement (body path forbidden : String) : NamedRequirement where
  name := assertionFailureReason path
  Holds := ¬ IsPart forbidden body

/-- With an assertion on JSON the body parses. -/
def jsonRequirement (body : String) : NamedRequirement where
  name := assertionFailureReason "json_body"
  Holds :=
    assertions.jsonPathExists ≠ [] ∨ assertions.jsonPathEquals ≠ []
        ∨ assertions.jsonPathNotEquals ≠ []
      → ∃ json, libraries.readJson body = .ok json

/-- A path leads to a value in the body that is as required. -/
def pathRequirement (body path jsonPath : String) (meets : Value → Prop)
    : NamedRequirement where
  name := assertionFailureReason path
  Holds :=
    ∃ json target,
      libraries.readJson body = .ok json ∧ PathLeadsTo json jsonPath target ∧ meets target

/-- The requirements of a list of assertions, named by field and position. -/
def numbered {Assertion : Type} (field : String)
    (requirements : String → Assertion → List NamedRequirement) (assertions : List Assertion)
    : List NamedRequirement :=
  assertions.zipIdx.flatMap fun indexed => requirements s!"{field}[{indexed.2}]" indexed.1

def bodyRequirements (body : String) : List NamedRequirement :=
  assertions.bodyMustContain.toList.flatMap
    (fun required => [containRequirement body "body_must_contain" required])
  ++ numbered "body_must_contain_texts"
      (fun path required => [containRequirement body path required])
      assertions.bodyMustContainTexts
  ++ assertions.bodyMustNotContain.toList.flatMap
      (fun forbidden => [notContainRequirement body "body_must_not_contain" forbidden])
  ++ numbered "body_must_not_contain_texts"
      (fun path forbidden => [notContainRequirement body path forbidden])
      assertions.bodyMustNotContainTexts

def jsonRequirements (body : String) : List NamedRequirement :=
  numbered "json_path_exists"
    (fun path jsonPath => [pathRequirement libraries body path jsonPath fun _ => True])
    assertions.jsonPathExists
  ++ numbered "json_path_equals"
      (fun path assertion =>
        [pathRequirement libraries body path assertion.path fun target =>
          libraries.sameJson target assertion.value = true])
      assertions.jsonPathEquals
  ++ numbered "json_path_not_equals"
      (fun path assertion =>
        [pathRequirement libraries body path assertion.path fun target =>
          ¬ libraries.sameJson target assertion.value = true])
      assertions.jsonPathNotEquals

/-- The requirements behind status and time. -/
def contentRequirements (headers : List (String × List UInt8)) (body : String)
    : List NamedRequirement :=
  requiredHeaderRequirements libraries assertions headers
  ++ numbered "header_assertions" (headerRequirements libraries headers)
      assertions.headerAssertions
  ++ (bodyRequirements assertions body ++ jsonRequirement libraries assertions body
    :: jsonRequirements libraries assertions body)

/-- All requirements on a response, in their order. The body is decoded from the bytes within the
limit.
-/
def responseRequirements (maxResponseBodyBytes : UInt64) (expectedStatusCode elapsed : Int)
    (response : HttpResponse)
    : List NamedRequirement :=
  let body := Utf8Lossy.decode (response.chunks.flatten.take maxResponseBodyBytes.toNat)
  statusRequirement response expectedStatusCode
  :: responseTimeRequirement assertions elapsed
  :: contentRequirements libraries assertions response.headers body

/-- A result is a success if all requirements hold; without one its reason names the first
requirement that does not.
-/
structure TellsFirstViolation (requirements : List NamedRequirement) (result : CheckResult)
    : Prop where
  isSuccess : result.isSuccess = true ↔ ∀ requirement ∈ requirements, requirement.Holds
  noReason : result.failureReason = none ↔ result.isSuccess = true
  first {reason : String} : result.failureReason = some reason → FirstViolated requirements reason

------------------------------------------------------------
-- Stages
------------------------------------------------------------

/-- A verdict is a success without a reason, and a reason is the right one. -/
structure Verdict.Right (requirements : List NamedRequirement) (verdict : Verdict) : Prop where
  isSuccess : verdict.isSuccess = true ↔ verdict.failureReason = none
  judges : Judges requirements verdict.failureReason

/-- The reason of a stage's failure is right. -/
abbrev JudgesStage (requirements : List NamedRequirement) (failure : Option Failure) : Prop :=
  Judges requirements (failure.map Failure.reason)

variable {libraries} {assertions} {first second : List NamedRequirement} {verdict : Verdict}
  {failure : Option Failure}

theorem Verdict.Right.always (right : Verdict.Right first verdict)
    (success : verdict.isSuccess = true) (stage : JudgesStage second failure)
    : Verdict.Right (first ++ second) (verdict.always failure) := by
  have noReason : verdict.failureReason = none := right.isSuccess.mp success
  have both : Judges (first ++ second) (verdict.failureReason.or (failure.map Failure.reason)) :=
    right.judges.or fun _ => stage
  rw [noReason, Option.none_or] at both
  cases failure with
  | none =>
      refine ⟨right.isSuccess, ?_⟩
      rw [Verdict.always, noReason]
      exact both
  | some failure => exact ⟨⟨nofun, nofun⟩, both⟩

/-- Requirements that hold of every success may be added. -/
theorem Verdict.Right.append (right : Verdict.Right first verdict)
    (holds : verdict.isSuccess = true → ∀ requirement ∈ second, requirement.Holds)
    : Verdict.Right (first ++ second) verdict := by
  have both : Judges (first ++ second) (verdict.failureReason.or none) :=
    right.judges.or fun noReason => .accepted (holds (right.isSuccess.mpr noReason))
  rw [Option.or_none] at both
  exact ⟨right.isSuccess, both⟩

theorem Verdict.Right.check (right : Verdict.Right first verdict)
    (stage : JudgesStage second failure)
    : Verdict.Right (first ++ second) (verdict.check failure) := by
  unfold Verdict.check
  split
  · exact right.always ‹_› stage
  · exact right.append fun success => absurd success ‹_›

/-- A stage for one requirement tells nothing exactly if it holds, and otherwise its name. -/
theorem judgesStage_single {requirement : NamedRequirement}
    (holds : failure = none ↔ requirement.Holds)
    (named : ∀ told ∈ failure, told.reason = requirement.name)
    : JudgesStage [requirement] failure := by
  apply judges_single
  · rw [Option.map_eq_none_iff, holds]
  · intro name isTold
    obtain ⟨told, isFailure, rfl⟩ := Option.map_eq_some_iff.mp isTold
    exact named told isFailure

theorem judgesStage_bind {Assertion : Type} {assertion : Option Assertion}
    {requirements : Assertion → List NamedRequirement} {evaluate : Assertion → Option Failure}
    (judges : ∀ assertion, JudgesStage (requirements assertion) (evaluate assertion))
    : JudgesStage (assertion.toList.flatMap requirements) (assertion.bind evaluate) := by
  cases assertion with
  | none => exact .accepted (List.forall_mem_nil _)
  | some assertion =>
      rw [Option.toList_some, List.flatMap_singleton]
      exact judges assertion

/-- The loop over a list of assertions judges their requirements. -/
theorem judgesStage_firstFailure {Assertion : Type} {field : String} {listed : List Assertion}
    {requirements : String → Assertion → List NamedRequirement}
    {evaluate : String → Assertion → Option Failure}
    (judges
      : ∀ path assertion, JudgesStage (requirements path assertion) (evaluate path assertion))
    : JudgesStage (numbered field requirements listed) (firstFailure field evaluate listed) := by
  unfold JudgesStage firstFailure
  rw [List.map_findSome?]
  apply judges_findSome?
  intro indexed _
  exact judges _ _

theorem judges_maxResponseTimeFailure {elapsed : Int}
    : JudgesStage [responseTimeRequirement assertions elapsed]
        (maxResponseTimeFailure assertions elapsed) := by
  unfold maxResponseTimeFailure
  apply judgesStage_single
  · unfold responseTimeRequirement
    cases assertions.maxResponseTimeMs with
    | none => simp
    | some maxResponseTimeMs => simp
  · intro told isTold
    simp only [Option.mem_def, Option.bind_eq_some_iff] at isTold
    obtain ⟨_, _, isTold⟩ := isTold
    split at isTold <;> cases isTold
    rfl

theorem judges_evaluateHeaderText {headerName path : String} {value : List UInt8}
    {required : Option String} {meets : String → String → Bool} {expectation : String}
    {requirement : NamedRequirement} (named : requirement.name = assertionFailureReason path)
    (holds
      : requirement.Holds
        ↔ ∀ text ∈ required, ∃ actual, headerText value = some actual ∧ meets actual text = true)
    : JudgesStage [requirement]
        (evaluateHeaderText libraries headerName value path required meets expectation) := by
  apply judgesStage_single
  · rw [holds]
    unfold evaluateHeaderText
    cases required with
    | none => simp
    | some text => cases headerText value <;> simp
  · intro told isTold
    unfold evaluateHeaderText at isTold
    split at isTold
    · cases isTold
    · split at isTold
      · split at isTold <;> cases isTold
        exact named.symm
      · cases isTold
        exact named.symm

theorem judges_evaluateHeaderAssertion {headers : List (String × List UInt8)} {path : String}
    {assertion : HttpHeaderAssertion}
    : JudgesStage (headerRequirements libraries headers path assertion)
        (evaluateHeaderAssertion libraries headers assertion path) := by
  unfold JudgesStage evaluateHeaderAssertion headerRequirements
  cases isName : libraries.headerName assertion.name with
  | none => exact .refused (.here (by simp))
  | some headerName =>
      simp only
      cases found : headers.lookup headerName with
      | none =>
          apply Judges.refused
          apply FirstViolated.later
          · exact ⟨headerName, rfl⟩
          · exact .here (by simp [HasHeader, isName, found])
      | some value =>
          have hasHeader {other : List UInt8}
              : HasHeader libraries headers assertion.name other ↔ other = value := by
            simp only [HasHeader, isName, Option.some.injEq, exists_eq_left', found]
            exact eq_comm
          have present : Judges
              [ { name := assertionFailureReason path
                  Holds := ∃ name, some headerName = some name },
                { name := assertionFailureReason s!"{path}.exists"
                  Holds := ∃ other, other = value } ]
              none :=
            .accepted (by simp)
          simp only [hasHeader, Option.map_or]
          apply present.or fun _ => ?_
          rw [← List.singleton_append]
          apply Judges.or ?_ fun _ => ?_
          · apply judges_evaluateHeaderText rfl
            simp
          · apply judges_evaluateHeaderText rfl
            simp [UnicodeText.contains, IsPart]

theorem judges_mustContain {body path required : String}
    : JudgesStage [containRequirement body path required] (mustContain body path required) := by
  unfold mustContain
  apply judgesStage_single
  · simp [containRequirement, UnicodeText.contains, IsPart]
  · intro told isTold
    split at isTold <;> cases isTold
    rfl

theorem judges_mustNotContain {body path forbidden : String}
    : JudgesStage [notContainRequirement body path forbidden]
        (mustNotContain body path forbidden) := by
  unfold mustNotContain
  apply judgesStage_single
  · simp [notContainRequirement, UnicodeText.contains, IsPart]
  · intro told isTold
    split at isTold <;> cases isTold
    rfl

/-- An assertion on a path of a body that parses. -/
theorem judges_evaluateJsonPath {body path jsonPath : String} {json : Value}
    {evaluate : Value → Option String} {meets : Value → Prop}
    (parsed : libraries.readJson body = .ok json)
    (holds : ∀ target, evaluate target = none ↔ meets target)
    : JudgesStage [pathRequirement libraries body path jsonPath meets]
        (evaluateJsonPath json path jsonPath evaluate) := by
  have leads {target : Value}
      : PathLeadsTo json jsonPath target ↔ resolveJsonPath json jsonPath = .ok (some target) :=
    resolveJsonPath_eq_some.symm
  unfold evaluateJsonPath
  apply judgesStage_single
  · simp only [pathRequirement, parsed, Except.ok.injEq, exists_and_left, exists_eq_left', leads]
    split
    · rename_i actual isResolved
      simp [isResolved, holds]
    · rename_i isResolved
      simp [isResolved]
    · rename_i error isResolved
      simp [isResolved]
  · intro told isTold
    split at isTold
    · obtain ⟨message, _, rfl⟩ := Option.map_eq_some_iff.mp isTold
      rfl
    · cases isTold
      rfl
    · cases isTold
      rfl

------------------------------------------------------------
-- The response
------------------------------------------------------------

theorem judgeJson_right {body : String} {json : Value} (right : Verdict.Right first verdict)
    (success : verdict.isSuccess = true) (parsed : libraries.readJson body = .ok json)
    : Verdict.Right (first ++ jsonRequirements libraries assertions body)
        (judgeJson libraries assertions verdict json) := by
  have judgesPath {evaluate : Value → Option String} {meets : Value → Prop} {path jsonPath : String}
      (holds : ∀ target, evaluate target = none ↔ meets target)
      : JudgesStage [pathRequirement libraries body path jsonPath meets]
          (evaluateJsonPath json path jsonPath evaluate) :=
    judges_evaluateJsonPath parsed holds
  unfold judgeJson jsonRequirements
  simp only [← List.append_assoc]
  apply Verdict.Right.check
  · apply Verdict.Right.check
    · apply Verdict.Right.always right success
      apply judgesStage_firstFailure
      intro path jsonPath
      apply judgesPath
      simp
    · apply judgesStage_firstFailure
      intro path assertion
      apply judgesPath
      simp
  · apply judgesStage_firstFailure
    intro path assertion
    apply judgesPath
    simp

/-- Without an assertion on JSON the requirements on it hold. -/
theorem holds_of_onJson_false {body : String} (absent : assertions.onJson = false)
    : ∀ requirement
        ∈ jsonRequirement libraries assertions body :: jsonRequirements libraries assertions body,
        requirement.Holds := by
  simp only [HttpAssertions.onJson, Bool.or_eq_false_iff, Bool.not_eq_false', List.isEmpty_iff]
    at absent
  obtain ⟨⟨noPath, noEqual⟩, noUnequal⟩ := absent
  simp [jsonRequirement, jsonRequirements, numbered, noPath, noEqual, noUnequal]

theorem judgeTexts_right {body : String} (right : Verdict.Right first verdict)
    (success : verdict.isSuccess = true)
    : Verdict.Right (first ++ bodyRequirements assertions body)
        (judgeTexts assertions verdict body) := by
  unfold judgeTexts bodyRequirements
  simp only [← List.append_assoc]
  apply Verdict.Right.check
  · apply Verdict.Right.check
    · apply Verdict.Right.check
      · apply Verdict.Right.always right success
        exact judgesStage_bind fun required => judges_mustContain
      · exact judgesStage_firstFailure fun path required => judges_mustContain
    · exact judgesStage_bind fun forbidden => judges_mustNotContain
  · exact judgesStage_firstFailure fun path forbidden => judges_mustNotContain

theorem judgeBody_right {body : String} (right : Verdict.Right first verdict)
    (success : verdict.isSuccess = true)
    : Verdict.Right
        (first
          ++ (bodyRequirements assertions body
            ++ jsonRequirement libraries assertions body
              :: jsonRequirements libraries assertions body))
        (judgeBody libraries assertions verdict body) := by
  have texts
      : Verdict.Right (first ++ bodyRequirements assertions body)
          (judgeTexts assertions verdict body) :=
    judgeTexts_right right success
  rw [← List.append_assoc]
  unfold judgeBody
  simp only
  split
  · rename_i reads
    obtain ⟨stillSuccess, onJson⟩ := Bool.and_eq_true_iff.mp reads
    have present : assertions.jsonPathExists ≠ [] ∨ assertions.jsonPathEquals ≠ []
        ∨ assertions.jsonPathNotEquals ≠ [] := by
      simpa [HttpAssertions.onJson, or_assoc] using onJson
    rw [← List.singleton_append, ← List.append_assoc]
    cases parsed : libraries.readJson body with
    | error error =>
        have violated
            : JudgesStage [jsonRequirement libraries assertions body]
                (some
                  (assertionFailed "json_body" s!"Response body was not valid JSON: {error}")) := by
          refine .refused (.here fun holds => ?_)
          obtain ⟨json, isJson⟩ := holds present
          rw [parsed] at isJson
          cases isJson
        exact (texts.always stillSuccess violated).append nofun
    | ok json =>
        have holds
            : ∀ requirement ∈ [jsonRequirement libraries assertions body], requirement.Holds :=
          List.forall_mem_singleton.mpr fun _ => ⟨json, parsed⟩
        exact judgeJson_right (texts.append fun _ => holds) stillSuccess parsed
  · rename_i skips
    apply texts.append
    intro stillSuccess
    apply holds_of_onJson_false
    simpa [stillSuccess] using skips

theorem judgeStatus_right {response : HttpResponse} {expectedStatusCode : Int}
    : Verdict.Right [statusRequirement response expectedStatusCode]
        (response.judgeStatus expectedStatusCode) := by
  have judges {reason : String} (differs : response.statusCode ≠ expectedStatusCode)
      (named : reason = (statusRequirement response expectedStatusCode).name)
      : Judges [statusRequirement response expectedStatusCode] (some reason) := by
    rw [named]
    exact .refused (.here differs)
  unfold HttpResponse.judgeStatus
  split
  · rename_i same
    exact ⟨⟨fun _ => rfl, fun _ => rfl⟩, .accepted (List.forall_mem_singleton.mpr same)⟩
  · rename_i differs
    split
    · rename_i redirects
      exact ⟨⟨nofun, nofun⟩, judges differs (by simp [statusRequirement, redirects])⟩
    · rename_i stays
      exact ⟨⟨nofun, nofun⟩, judges differs (by simp [statusRequirement, stays])⟩

/-- Without an assertion on the body the requirements on it hold. -/
theorem holds_of_onBody_false {body : String} (absent : assertions.onBody = false)
    : ∀ requirement
        ∈ bodyRequirements assertions body
          ++ jsonRequirement libraries assertions body
            :: jsonRequirements libraries assertions body,
        requirement.Holds := by
  simp only [HttpAssertions.onBody, Bool.or_eq_false_iff, Bool.not_eq_false', List.isEmpty_iff,
    Option.isSome_eq_false_iff, Option.isNone_iff_eq_none] at absent
  obtain ⟨⟨⟨⟨noText, noForbidden⟩, noTexts⟩, noneForbidden⟩, noJson⟩ := absent
  rw [List.forall_mem_append]
  refine ⟨?_, holds_of_onJson_false noJson⟩
  simp [bodyRequirements, numbered, noText, noForbidden, noTexts, noneForbidden]

theorem judgeHead_right {expectedStatusCode elapsed : Int} {response : HttpResponse}
    : Verdict.Right
        (statusRequirement response expectedStatusCode
          :: responseTimeRequirement assertions elapsed
          :: (requiredHeaderRequirements libraries assertions response.headers
            ++ numbered "header_assertions" (headerRequirements libraries response.headers)
              assertions.headerAssertions))
        (judgeHead libraries assertions expectedStatusCode elapsed response) := by
  have timed
      : Verdict.Right
          [statusRequirement response expectedStatusCode,
            responseTimeRequirement assertions elapsed]
          ((response.judgeStatus expectedStatusCode).check
            (maxResponseTimeFailure assertions elapsed)) :=
    judgeStatus_right.check judges_maxResponseTimeFailure
  have required
      : JudgesStage (requiredHeaderRequirements libraries assertions response.headers)
          (requiredHeaderFailure libraries assertions response.headers) :=
    judgesStage_bind fun requiredHeaderName => judges_evaluateHeaderAssertion
  exact (timed.check required).check <|
    judgesStage_firstFailure fun path assertion => judges_evaluateHeaderAssertion

/-- The verdict on a response that arrives is right, stage by stage. -/
theorem judgeResponse_right {maxResponseBodyBytes : UInt64} {expectedStatusCode elapsed : Int}
    {response : HttpResponse} (arrived : response.readError = none)
    : Verdict.Right
        (responseRequirements libraries assertions maxResponseBodyBytes expectedStatusCode elapsed
          response)
        (judgeResponse libraries assertions maxResponseBodyBytes expectedStatusCode elapsed
          response) := by
  have head
      : Verdict.Right _ (judgeHead libraries assertions expectedStatusCode elapsed response) :=
    judgeHead_right
  unfold responseRequirements contentRequirements judgeResponse
  simp only [← List.cons_append]
  split
  · rename_i reads
    rw [HttpResponse.readBody_eq arrived]
    exact judgeBody_right head (Bool.and_eq_true_iff.mp reads).1
  · rename_i skips
    apply head.append
    intro success
    apply holds_of_onBody_false
    simpa [success] using skips

------------------------------------------------------------
-- The name of the time requirement
------------------------------------------------------------

/-- A path that no stage on the response time has. -/
def OffTime (path : String) : Prop := ∃ char rest, path.toList = char :: rest ∧ char ≠ 'm'

theorem OffTime.append {path more : String} (off : OffTime path) : OffTime (path ++ more) := by
  obtain ⟨char, rest, starts, differs⟩ := off
  exact ⟨char, rest ++ more.toList, by rw [String.toList_append, starts, List.cons_append], differs⟩

theorem assertionFailureReason_inj {path other : String}
    : assertionFailureReason path = assertionFailureReason other ↔ path = other :=
  String.append_right_inj _

theorem OffTime.name_ne {path : String} (off : OffTime path)
    : assertionFailureReason path ≠ assertionFailureReason "max_response_time_ms" := by
  obtain ⟨char, rest, starts, differs⟩ := off
  intro same
  rw [assertionFailureReason_inj.mp same] at starts
  exact differs (List.cons.inj starts).1.symm

def NamedOffTime (requirements : List NamedRequirement) : Prop :=
  ∀ requirement ∈ requirements,
    ∃ path, OffTime path ∧ requirement.name = assertionFailureReason path

theorem NamedOffTime.append (off : NamedOffTime first) (offNext : NamedOffTime second)
    : NamedOffTime (first ++ second) :=
  List.forall_mem_append.mpr ⟨off, offNext⟩

theorem namedOffTime_single {path : String} {requirement : NamedRequirement} (off : OffTime path)
    (named : requirement.name = assertionFailureReason path)
    : NamedOffTime [requirement] :=
  List.forall_mem_singleton.mpr ⟨path, off, named⟩

theorem namedOffTime_option {Assertion : Type} {assertion : Option Assertion}
    {requirements : Assertion → List NamedRequirement}
    (off : ∀ assertion, NamedOffTime (requirements assertion))
    : NamedOffTime (assertion.toList.flatMap requirements) := by
  cases assertion with
  | none => exact List.forall_mem_nil _
  | some assertion =>
      rw [Option.toList_some, List.flatMap_singleton]
      exact off assertion

theorem namedOffTime_numbered {Assertion : Type} {field : String} {listed : List Assertion}
    {requirements : String → Assertion → List NamedRequirement} (off : OffTime field)
    (named : ∀ path assertion, OffTime path → NamedOffTime (requirements path assertion))
    : NamedOffTime (numbered field requirements listed) := by
  intro requirement member
  obtain ⟨indexed, _, isOne⟩ := List.mem_flatMap.mp member
  exact named _ _ ((off.append.append).append) requirement isOne

theorem namedOffTime_header {headers : List (String × List UInt8)} {path : String}
    {assertion : HttpHeaderAssertion} (off : OffTime path)
    : NamedOffTime (headerRequirements libraries headers path assertion) := by
  unfold headerRequirements NamedOffTime
  simp only [List.forall_mem_cons]
  exact ⟨⟨_, off, rfl⟩, ⟨_, off.append, rfl⟩, ⟨_, off.append, rfl⟩, ⟨_, off.append, rfl⟩,
    List.forall_mem_nil _⟩

/-- No other requirement has the name of that on the response time. -/
theorem namedOffTime_content {headers : List (String × List UInt8)} {body : String}
    : NamedOffTime (contentRequirements libraries assertions headers body) := by
  have field {path : String} {char : Char} {rest : List Char}
      (starts : path.toList = char :: rest) (differs : char ≠ 'm')
      : OffTime path :=
    ⟨char, rest, starts, differs⟩
  have single {Assertion : Type} {requirement : String → Assertion → NamedRequirement}
      (named : ∀ path assertion, (requirement path assertion).name = assertionFailureReason path)
      : ∀ path assertion, OffTime path → NamedOffTime [requirement path assertion] :=
    fun path assertion off => namedOffTime_single off (named path assertion)
  unfold contentRequirements bodyRequirements jsonRequirements requiredHeaderRequirements
  rw [← List.singleton_append]
  refine .append (.append ?_ ?_)
    (.append (.append (.append (.append ?_ ?_) ?_) ?_) (.append ?_ (.append (.append ?_ ?_) ?_)))
  · exact namedOffTime_option fun _ => namedOffTime_header (field rfl (by decide))
  · exact namedOffTime_numbered (field rfl (by decide)) fun _ _ => namedOffTime_header
  · exact namedOffTime_option fun _ => namedOffTime_single (field rfl (by decide)) rfl
  · exact namedOffTime_numbered (field rfl (by decide)) (single fun _ _ => rfl)
  · exact namedOffTime_option fun _ => namedOffTime_single (field rfl (by decide)) rfl
  · exact namedOffTime_numbered (field rfl (by decide)) (single fun _ _ => rfl)
  · exact namedOffTime_single (field rfl (by decide)) rfl
  · exact namedOffTime_numbered (field rfl (by decide)) (single fun _ _ => rfl)
  · exact namedOffTime_numbered (field rfl (by decide)) (single fun _ _ => rfl)
  · exact namedOffTime_numbered (field rfl (by decide)) (single fun _ _ => rfl)

------------------------------------------------------------
-- The result
------------------------------------------------------------

theorem tellsFirstViolation_iff {requirements : List NamedRequirement} {result : CheckResult}
    (success : result.isSuccess = true ↔ result.failureReason = none)
    : TellsFirstViolation requirements result ↔ Judges requirements result.failureReason := by
  constructor
  · intro tells
    cases told : result.failureReason with
    | none => exact .accepted (tells.isSuccess.mp (success.mpr told))
    | some reason => exact .refused (tells.first told)
  · intro judges
    refine ⟨success.trans judges.eq_none_iff, success.symm, ?_⟩
    intro reason told
    rw [told] at judges
    cases judges with
    | refused isFirst => exact isFirst

/-- A response arrives: the target resolves, there is a client, and neither the request nor the
reading of its body fails.
-/
structure Received {Certificate : Type} (libraries : HttpLibraries) (url : String)
    (config : HttpCheckConfig) (run : HttpCheckRun Certificate) (response : HttpResponse)
    : Prop where
  resolves
    : ∃ target,
        resolveRuntimeRequestTarget libraries.parseUrl run.lookupHost url
          config.validatePublicTarget
        = .ok target
  client : run.client = .ok ()
  sent : run.sent = .ok response
  arrived : response.readError = none

variable {Certificate : Type} {tls : TlsLibrary Certificate} {url : String}
  {config : HttpCheckConfig} {run : HttpCheckRun Certificate} {response : HttpResponse}
  {expectedStatusCode : Int}

/-- Without a check of the certificate, a received response is judged. -/
theorem checkUrl_received (unchecked : assertions.sslCertificateChecksEnabled = false)
    (received : Received libraries url config run response)
    : let verdict :=
        judgeResponse libraries assertions config.maxResponseBodyBytes expectedStatusCode
          (asI32 run.elapsedMs) response
      checkUrl libraries assertions tls url expectedStatusCode config run
      = { isSuccess := verdict.isSuccess
          statusCode := some response.statusCode
          responseTimeMs := some (asI32 run.elapsedMs)
          failureReason := verdict.failureReason
          errorMessage := verdict.errorMessage
          certificateMetadata := none } := by
  obtain ⟨target, resolves⟩ := received.resolves
  have noCertificate : evaluateTargetCertificate assertions tls run target = .ok none := by
    simp [evaluateTargetCertificate, unchecked]
  simp only [checkUrl, resolves, noCertificate, received.client, received.sent]

theorem responseTimeRequirement_name {elapsed : Int}
    : (responseTimeRequirement assertions elapsed).name
      = assertionFailureReason "max_response_time_ms" :=
  rfl

/-- A response within its limit is within it after the cast, and so is the converse if it keeps to
the limits it is within after the cast.
-/
theorem responseTimeRequirement_cast (assertions : HttpAssertions) (elapsedMs : Nat)
    : ((responseTimeRequirement assertions elapsedMs).Holds
        → (responseTimeRequirement assertions (asI32 elapsedMs)).Holds)
      ∧ ((∀ maxResponseTimeMs ∈ assertions.maxResponseTimeMs,
            asI32 elapsedMs ≤ maxResponseTimeMs → elapsedMs ≤ maxResponseTimeMs)
        ↔ ((responseTimeRequirement assertions (asI32 elapsedMs)).Holds
          → (responseTimeRequirement assertions elapsedMs).Holds)) := by
  unfold responseTimeRequirement
  constructor
  · intro within maxResponseTimeMs isSet
    exact (asI32_le elapsedMs).trans (within maxResponseTimeMs isSet)
  · cases assertions.maxResponseTimeMs <;> simp

/-- The verdict after the cast judges the requirements before it, exactly if the cast keeps the
limit of a response of the expected status.
-/
theorem judgeResponse_judges_iff {maxResponseBodyBytes : UInt64} {elapsedMs : Nat}
    (arrived : response.readError = none)
    : Judges
        (responseRequirements libraries assertions maxResponseBodyBytes expectedStatusCode elapsedMs
          response)
        (judgeResponse libraries assertions maxResponseBodyBytes expectedStatusCode
          (asI32 elapsedMs) response).failureReason
      ↔ (response.statusCode = expectedStatusCode
        → ∀ maxResponseTimeMs ∈ assertions.maxResponseTimeMs,
            asI32 elapsedMs ≤ maxResponseTimeMs → elapsedMs ≤ maxResponseTimeMs) := by
  have judges
      : Judges
          (responseRequirements libraries assertions maxResponseBodyBytes expectedStatusCode
            (asI32 elapsedMs) response)
          (judgeResponse libraries assertions maxResponseBodyBytes expectedStatusCode
            (asI32 elapsedMs) response).failureReason :=
    (judgeResponse_right arrived).judges
  obtain ⟨castHolds, keeps⟩ := responseTimeRequirement_cast assertions elapsedMs
  rw [keeps]
  generalize (judgeResponse libraries assertions maxResponseBodyBytes expectedStatusCode
    (asI32 elapsedMs) response).failureReason = told at judges ⊢
  unfold responseRequirements at judges ⊢
  rw [judges_cons_iff, judges_cons_iff, responseTimeRequirement_name] at judges ⊢
  rcases judges with ⟨sameStatus, ⟨timely, content⟩ | ⟨late, isTold⟩⟩ | ⟨otherStatus, isTold⟩
  · -- No later requirement has the name of that on the time.
    have notTold : told ≠ some (assertionFailureReason "max_response_time_ms") := by
      rintro rfl
      obtain ⟨requirement, member, named⟩ := content.name_mem
      obtain ⟨path, off, isNamed⟩ := namedOffTime_content requirement member
      exact off.name_ne (isNamed.symm.trans named)
    constructor
    · rintro (⟨_, ⟨holds, _⟩ | ⟨_, isTold⟩⟩ | ⟨otherStatus, _⟩) _ _
      · exact holds
      · exact absurd isTold notTold
      · exact absurd sameStatus otherStatus
    · intro keeps
      exact .inl ⟨sameStatus, .inl ⟨keeps sameStatus timely, content⟩⟩
  · constructor
    · intro _ _ timely
      exact absurd timely late
    · intro _
      exact .inl ⟨sameStatus, .inr ⟨fun holds => late (castHolds holds), isTold⟩⟩
  · constructor
    · intro _ sameStatus
      exact absurd sameStatus otherStatus
    · intro _
      exact .inr ⟨otherStatus, isTold⟩

/-- The check of a received response succeeds if all requirements hold and otherwise names the first
that does not, exactly if a response of the expected status that is within its limit after the
cast to 32 bits is within it.
-/
theorem checkUrl_tellsFirstViolation_iff
    (unchecked : assertions.sslCertificateChecksEnabled = false)
    (received : Received libraries url config run response)
    : TellsFirstViolation
        (responseRequirements libraries assertions config.maxResponseBodyBytes expectedStatusCode
          run.elapsedMs response)
        (checkUrl libraries assertions tls url expectedStatusCode config run)
      ↔ (response.statusCode = expectedStatusCode
        → ∀ maxResponseTimeMs ∈ assertions.maxResponseTimeMs,
            asI32 run.elapsedMs ≤ maxResponseTimeMs → run.elapsedMs ≤ maxResponseTimeMs) := by
  have right
      : Verdict.Right _
          (judgeResponse libraries assertions config.maxResponseBodyBytes expectedStatusCode
            (asI32 run.elapsedMs) response) :=
    judgeResponse_right received.arrived
  have success
      : (checkUrl libraries assertions tls url expectedStatusCode config run).isSuccess = true
        ↔ (checkUrl libraries assertions tls url expectedStatusCode config run).failureReason
          = none := by
    rw [checkUrl_received unchecked received]
    exact right.isSuccess
  rw [tellsFirstViolation_iff success, checkUrl_received unchecked received]
  exact judgeResponse_judges_iff received.arrived

/-- A text of ASCII characters as bytes. -/
def asciiBytes (text : String) : List UInt8 := text.toList.map fun char => .ofNat char.toNat

/-- Libraries that know what a check of one page meets. -/
def statusPageLibraries : HttpLibraries where
  parseUrl text :=
    if text = "http://93.184.216.34/status" then
      some { scheme := "http", hostStr := some "93.184.216.34", portOrKnownDefault := some 80 }
    else none
  headerName name := if name = "Content-Type" then some "content-type" else none
  readJson text :=
    if text = "\x7b\"up\":true\x7d" then .ok (.object [("up", .bool true)])
    else .error "expected value at line 1 column 1"
  sameJson
    | .bool first, .bool second => first = second
    | _, _ => false
  printJson
    | .bool value => toString value
    | _ => "null"
  isUnprintable _ := false

def statusPageAssertions : HttpAssertions where
  bodyMustContain := some "up"
  bodyMustNotContain := some "down"
  bodyMustContainTexts := ["true"]
  bodyMustNotContainTexts := []
  jsonPathExists := ["$.up"]
  jsonPathEquals := [⟨"up", .bool true⟩]
  jsonPathNotEquals := [⟨"up", .bool false⟩]
  maxResponseTimeMs := some 1000
  requiredHeaderName := none
  requiredHeaderValue := none
  headerAssertions := [⟨"Content-Type", none, some "json"⟩]
  sslCertificateChecksEnabled := false
  sslExpiryWarningDays := none

def statusPage : HttpResponse where
  status := 200
  headers := [("content-type", asciiBytes "application/json")]
  chunks := [asciiBytes "\x7b\"up\":", asciiBytes "true\x7d"]
  readError := none

def statusPageConfig : HttpCheckConfig where
  maxResponseBodyBytes := 65536
  validatePublicTarget := true

def statusPageRun (elapsedMs : Nat) : HttpCheckRun Unit where
  lookupHost _ := none
  servers _ := { peerCertificates := none, attempt := fun _ => ⟨.timedOut, .timedOut⟩ }
  now := 0
  client := .ok ()
  sent := .ok statusPage
  elapsedMs

def noTls : TlsLibrary Unit where
  isServerName _ := false
  fromDer _ := .error "no certificate"
  platformVerifier := .ok ()

theorem statusPage_received {elapsedMs : Nat}
    : Received statusPageLibraries "http://93.184.216.34/status" statusPageConfig
        (statusPageRun elapsedMs) statusPage where
  resolves := by
    have resolves
        : (resolveRuntimeRequestTarget statusPageLibraries.parseUrl (fun _ => none)
            "http://93.184.216.34/status" true).toOption.any (fun _ => true)
          = true := by
      decide +kernel
    obtain ⟨target, isTarget, _⟩ := Fallible.exists_of_any_toOption resolves
    exact ⟨target, isTarget⟩
  client := rfl
  sent := rfl
  arrived := rfl

theorem checkUrl_tellsFirstViolation_statusPage
    : TellsFirstViolation
        (responseRequirements statusPageLibraries statusPageAssertions 65536 200 120 statusPage)
        (checkUrl statusPageLibraries statusPageAssertions noTls "http://93.184.216.34/status" 200
          statusPageConfig (statusPageRun 120)) :=
  (checkUrl_tellsFirstViolation_iff rfl statusPage_received).mpr (by decide)

/-- A response after 2^31 milliseconds counts as one before the request. -/
theorem checkUrl_not_tellsFirstViolation
    : Received statusPageLibraries "http://93.184.216.34/status" statusPageConfig
        (statusPageRun 2147483648) statusPage
      ∧ statusPageAssertions.sslCertificateChecksEnabled = false
      ∧ ¬ TellsFirstViolation
          (responseRequirements statusPageLibraries statusPageAssertions 65536 200 2147483648
            statusPage)
          (checkUrl statusPageLibraries statusPageAssertions noTls "http://93.184.216.34/status"
            200 statusPageConfig (statusPageRun 2147483648)) := by
  refine ⟨statusPage_received, rfl, fun tells => ?_⟩
  have succeeds
      : (checkUrl statusPageLibraries statusPageAssertions noTls "http://93.184.216.34/status" 200
          statusPageConfig (statusPageRun 2147483648)).isSuccess = true := by
    decide +kernel
  have timely : (responseTimeRequirement statusPageAssertions 2147483648).Holds :=
    tells.isSuccess.mp succeeds _ (List.mem_cons_of_mem _ List.mem_cons_self)
  exact absurd (timely 1000 rfl) (by decide)

end AlonSentinel.System
