import AlonSentinel.System.HttpVerdicts

/-! The texts that a body must not contain. The check looks for them in what it decodes of the bytes
within the limit, and so not in the rest of the body.
-/

namespace AlonSentinel.System

open MachineInteger
open Monitoring
open Worker

/-- The texts that assertions forbid. -/
def forbiddenTexts (assertions : HttpAssertions) : List String :=
  assertions.bodyMustNotContain.toList ++ assertions.bodyMustNotContainTexts

/-- All assertions but the forbidden texts. -/
def withoutForbidden (assertions : HttpAssertions) : HttpAssertions :=
  { assertions with bodyMustNotContain := none, bodyMustNotContainTexts := [] }

def HasForbidden (assertions : HttpAssertions) (body : String) : Prop :=
  ∃ forbidden ∈ forbiddenTexts assertions, IsPart forbidden body

/-- A success means that no forbidden text occurs in the body. -/
def KeepsForbiddenOut (assertions : HttpAssertions) (body : String) (result : CheckResult) : Prop :=
  result.isSuccess = true → ¬HasForbidden assertions body

/-- What the check reads of a body: the text of its bytes within the limit. -/
def bodyWithin (maxResponseBodyBytes : UInt64) (body : String) : String :=
  Utf8Lossy.decode ((Utf8Lossy.encode body).take maxResponseBodyBytes.toNat)

variable {libraries : HttpLibraries} {assertions : HttpAssertions} {response : HttpResponse}
  {maxResponseBodyBytes : UInt64} {expectedStatusCode elapsed : Int} {body : String}

theorem forall_numbered_notContain {field : String} {texts : List String}
    : (∀ requirement ∈
          numbered field (fun path forbidden => [notContainRequirement body path forbidden]) texts,
        requirement.Holds)
      ↔ ∀ forbidden ∈ texts, ¬IsPart forbidden body := by
  simp only [numbered, List.forall_mem_flatMap, List.forall_mem_singleton, notContainRequirement]
  constructor
  · intro holds forbidden member
    obtain ⟨index, bound, rfl⟩ := List.mem_iff_getElem.mp member
    exact holds (texts[index], index) (by simp [List.mem_zipIdx_iff_getElem?])
  · rintro holds ⟨forbidden, index⟩ member
    exact holds forbidden (List.fst_mem_of_mem_zipIdx member)

/-- The requirements on the texts of a body hold exactly if those on required texts do and no
forbidden text occurs.
-/
theorem bodyRequirements_iff
    : (∀ requirement ∈ bodyRequirements assertions body, requirement.Holds)
      ↔ (∀ requirement ∈ bodyRequirements (withoutForbidden assertions) body, requirement.Holds)
        ∧ ¬HasForbidden assertions body := by
  have single
      : (∀ requirement ∈
            assertions.bodyMustNotContain.toList.flatMap
              (fun forbidden => [notContainRequirement body "body_must_not_contain" forbidden]),
          requirement.Holds)
        ↔ ∀ forbidden ∈ assertions.bodyMustNotContain.toList, ¬IsPart forbidden body := by
    simp only [List.forall_mem_flatMap, List.forall_mem_singleton, notContainRequirement]
  have forbidden
      : ¬HasForbidden assertions body
        ↔ (∀ forbidden ∈ assertions.bodyMustNotContain.toList, ¬IsPart forbidden body)
          ∧ ∀ forbidden ∈ assertions.bodyMustNotContainTexts, ¬IsPart forbidden body := by
    simp only [HasForbidden, forbiddenTexts, not_exists, not_and, List.forall_mem_append]
  simp only [bodyRequirements, List.forall_mem_append, forall_numbered_notContain, single,
    forbidden, withoutForbidden, Option.toList_none, List.flatMap_nil, List.not_mem_nil,
    false_implies, implies_true, true_and, and_assoc]

/-- All requirements hold exactly if the others do and no forbidden text occurs in what is read. -/
theorem responseRequirements_iff (complete : response.chunks.flatten = Utf8Lossy.encode body)
    : (∀ requirement ∈
          responseRequirements libraries assertions maxResponseBodyBytes expectedStatusCode elapsed
            response,
        requirement.Holds)
      ↔ (∀ requirement ∈
            responseRequirements libraries (withoutForbidden assertions) maxResponseBodyBytes
              expectedStatusCode elapsed response,
          requirement.Holds)
        ∧ ¬HasForbidden assertions (bodyWithin maxResponseBodyBytes body) := by
  have time
      : responseTimeRequirement (withoutForbidden assertions) elapsed
        = responseTimeRequirement assertions elapsed :=
    rfl
  have header
      : requiredHeaderRequirements libraries (withoutForbidden assertions) response.headers
        = requiredHeaderRequirements libraries assertions response.headers :=
    rfl
  have headers : (withoutForbidden assertions).headerAssertions = assertions.headerAssertions := rfl
  have json (body : String)
      : jsonRequirement libraries (withoutForbidden assertions) body
          = jsonRequirement libraries assertions body
        ∧ jsonRequirements libraries (withoutForbidden assertions) body
          = jsonRequirements libraries assertions body :=
    ⟨rfl, rfl⟩
  simp only [responseRequirements, contentRequirements, List.forall_mem_cons,
    List.forall_mem_append, time, header, headers, (json _).1, (json _).2]
  rw [bodyRequirements_iff, complete, bodyWithin]
  tauto

/-- What occurs in a part of the body that is within the limit is read. -/
theorem hasForbidden_bodyWithin {front back : String} (isBody : body = front ++ back)
    (fits : (Utf8Lossy.encode front).length ≤ maxResponseBodyBytes.toNat)
    (occurs : HasForbidden assertions front)
    : HasForbidden assertions (bodyWithin maxResponseBodyBytes body) := by
  have bytes
      : (Utf8Lossy.encode body).take maxResponseBodyBytes.toNat
        = Utf8Lossy.encode front
          ++ (Utf8Lossy.encode back).take
              (maxResponseBodyBytes.toNat - (Utf8Lossy.encode front).length) := by
    rw [isBody, Utf8Lossy.encode_append, List.take_append, List.take_of_length_le fits]
  obtain ⟨forbidden, member, isPart⟩ := occurs
  refine ⟨forbidden, member, ?_⟩
  rw [IsPart, bodyWithin, bytes, Utf8Lossy.decode_encode_append, String.toList_append]
  exact isPart.trans (List.prefix_append _ _).isInfix

variable {Certificate : Type} {tls : TlsLibrary Certificate} {url : String}
  {config : HttpCheckConfig} {run : HttpCheckRun Certificate}

/-- A check succeeds exactly if all other requirements are met and it reads no forbidden text. -/
theorem checkUrl_isSuccess (unchecked : assertions.sslCertificateChecksEnabled = false)
    (received : Received libraries url config run response)
    (complete : response.chunks.flatten = Utf8Lossy.encode body)
    : (checkUrl libraries assertions tls url expectedStatusCode config run).isSuccess = true
      ↔ (∀ requirement ∈
            responseRequirements libraries (withoutForbidden assertions)
              config.maxResponseBodyBytes expectedStatusCode (asI32 run.elapsedMs) response,
          requirement.Holds)
        ∧ ¬HasForbidden assertions (bodyWithin config.maxResponseBodyBytes body) := by
  have right
      : Verdict.Right _
          (judgeResponse libraries assertions config.maxResponseBodyBytes expectedStatusCode
            (asI32 run.elapsedMs) response) :=
    judgeResponse_right received.arrived
  rw [checkUrl_received unchecked received, right.isSuccess, right.judges.eq_none_iff,
    responseRequirements_iff complete]

/-- A success keeps forbidden texts out of the complete body exactly if, with all other requirements
met, a forbidden text that occurs in the body makes one occur in what is read of it.
-/
theorem checkUrl_keepsForbiddenOut_iff
    (unchecked : assertions.sslCertificateChecksEnabled = false)
    (received : Received libraries url config run response)
    (complete : response.chunks.flatten = Utf8Lossy.encode body)
    : KeepsForbiddenOut assertions body
        (checkUrl libraries assertions tls url expectedStatusCode config run)
      ↔ ((∀ requirement ∈
              responseRequirements libraries (withoutForbidden assertions)
                config.maxResponseBodyBytes expectedStatusCode (asI32 run.elapsedMs) response,
            requirement.Holds)
          → HasForbidden assertions body
          → HasForbidden assertions (bodyWithin config.maxResponseBodyBytes body)) := by
  rw [KeepsForbiddenOut, checkUrl_isSuccess unchecked received complete]
  tauto

/-- A body within the limit is read as it is, so that a success keeps forbidden texts out of it. -/
theorem checkUrl_keepsForbiddenOut_of_fits
    (unchecked : assertions.sslCertificateChecksEnabled = false)
    (received : Received libraries url config run response)
    (complete : response.chunks.flatten = Utf8Lossy.encode body)
    (fits : (Utf8Lossy.encode body).length ≤ config.maxResponseBodyBytes.toNat)
    : KeepsForbiddenOut assertions body
        (checkUrl libraries assertions tls url expectedStatusCode config run) := by
  intro success occurs
  obtain ⟨_, noneRead⟩ := (checkUrl_isSuccess unchecked received complete).mp success
  exact noneRead (hasForbidden_bodyWithin (String.append_empty).symm fits occurs)

------------------------------------------------------------
-- A page beyond the limit
------------------------------------------------------------

/-- The status page may not say that it is down, and nothing else is required. -/
def upAssertions : HttpAssertions where
  bodyMustContain := none
  bodyMustNotContain := some "down"
  bodyMustContainTexts := []
  bodyMustNotContainTexts := []
  jsonPathExists := []
  jsonPathEquals := []
  jsonPathNotEquals := []
  maxResponseTimeMs := none
  requiredHeaderName := none
  requiredHeaderValue := none
  headerAssertions := []
  sslCertificateChecksEnabled := false
  sslExpiryWarningDays := none

/-- A page that comes in two chunks. -/
def downPage : HttpResponse :=
  { statusPage with chunks := [asciiBytes "all do", asciiBytes "wn"] }

def downPageRun : HttpCheckRun Unit := { statusPageRun 120 with sent := .ok downPage }

def downPageConfig (maxResponseBodyBytes : UInt64) : HttpCheckConfig where
  maxResponseBodyBytes
  validatePublicTarget := true

theorem downPage_received (maxResponseBodyBytes : UInt64)
    : Received statusPageLibraries "http://93.184.216.34/status"
        (downPageConfig maxResponseBodyBytes) downPageRun downPage := by
  have received
      : Received statusPageLibraries "http://93.184.216.34/status" statusPageConfig
          (statusPageRun 0) statusPage :=
    statusPage_received
  obtain ⟨target, resolves⟩ := received.resolves
  exact ⟨⟨target, resolves⟩, rfl, rfl, rfl⟩

theorem downPage_complete : downPage.chunks.flatten = Utf8Lossy.encode "all down" := by
  decide +kernel

theorem checkUrl_keepsForbiddenOut_withinLimit
    : KeepsForbiddenOut upAssertions "all down"
        (checkUrl statusPageLibraries upAssertions noTls "http://93.184.216.34/status" 200
          (downPageConfig 8) downPageRun) :=
  (checkUrl_keepsForbiddenOut_iff rfl (downPage_received 8) downPage_complete).mpr
    fun _ occurs => hasForbidden_bodyWithin (String.append_empty).symm (by decide +kernel) occurs

/-- The forbidden text crosses the limit, and the check succeeds. -/
theorem checkUrl_not_keepsForbiddenOut
    : Received statusPageLibraries "http://93.184.216.34/status" (downPageConfig 7) downPageRun
        downPage
      ∧ downPage.chunks.flatten = Utf8Lossy.encode "all down"
      ∧ ¬KeepsForbiddenOut upAssertions "all down"
          (checkUrl statusPageLibraries upAssertions noTls "http://93.184.216.34/status" 200
            (downPageConfig 7) downPageRun) := by
  refine ⟨downPage_received 7, downPage_complete, fun keepsOut => ?_⟩
  have success
      : (checkUrl statusPageLibraries upAssertions noTls "http://93.184.216.34/status" 200
          (downPageConfig 7) downPageRun).isSuccess = true := by
    decide +kernel
  have isPart : IsPart "down" "all down" := ⟨"all ".toList, [], by decide⟩
  exact keepsOut success ⟨"down", List.mem_singleton.mpr rfl, isPart⟩

end AlonSentinel.System
