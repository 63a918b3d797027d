import AlonSentinel.Monitoring.TcpChecker
import AlonSentinel.System.CertificateProbe

/-! Two orders of one DNS answer. The checks of a URL sort the addresses before they use them; the
check of a port connects to the first address of the answer as it came.
-/

namespace AlonSentinel.System

open IpAddress
open Monitoring
open Worker

------------------------------------------------------------
-- Outcomes
------------------------------------------------------------

/-- What an address does to a connection. -/
inductive Reachability where
  | connects
  | refuses
  | timesOut
  deriving DecidableEq

def reachability : ConnectOutcome → Reachability
  | .connected => .connects
  | .refused _ => .refuses
  | .timedOut => .timesOut

def Reachability.failureReason : Reachability → Option String
  | .connects => none
  | .refuses => some "connect_error"
  | .timesOut => some "connect_timeout"

/-- Two results that differ at most in their texts, times and certificates. -/
structure SameOutcome (result other : CheckResult) : Prop where
  isSuccess : result.isSuccess = other.isSuccess
  failureReason : result.failureReason = other.failureReason

/-- A check that may connect to public addresses only finds another one in the answer. -/
def BlocksAnswer (validatePublic : Bool) (addrs : List SocketAddr) : Prop :=
  validatePublic = true ∧ ∃ addr ∈ addrs, checkIpIsPublic addr.ip = false

variable {validatePublic : Bool} {first : SocketAddr} {rest : List SocketAddr} {host : String}
  {port : UInt16} {connectTimeout : StdTime.Duration} {connect : SocketAddr → ConnectOutcome}
  {elapsedMs : Nat}

theorem resolveTcp_eq_ok (allowed : ¬BlocksAnswer validatePublic (first :: rest))
    : resolveTcp validatePublic (.answered (first :: rest)) = .ok first := by
  have noneBlocked
      : (first :: rest).find? (fun addr => validatePublic && !checkIpIsPublic addr.ip) = none := by
    rw [List.find?_eq_none]
    intro addr member isBlocked
    rw [Bool.and_eq_true, Bool.not_eq_true'] at isBlocked
    exact allowed ⟨isBlocked.1, addr, member, isBlocked.2⟩
  rw [resolveTcp, noneBlocked]

theorem resolveTcp_eq_error (blocked : BlocksAnswer validatePublic (first :: rest))
    : ∃ message,
        resolveTcp validatePublic (.answered (first :: rest))
        = .error ⟨"ssrf_blocked", message⟩ := by
  obtain ⟨validates, addr, member, notPublic⟩ := blocked
  cases found
      : (first :: rest).find? fun addr => validatePublic && !checkIpIsPublic addr.ip with
  | none =>
      rw [List.find?_eq_none] at found
      exact absurd (by simp [validates, notPublic]) (found addr member)
  | some other => exact ⟨_, by rw [resolveTcp, found]⟩

/-- The outcome of an allowed check is what the first address does. -/
theorem checkTcp_outcome (allowed : ¬BlocksAnswer validatePublic (first :: rest))
    : let result :=
        checkTcp host port connectTimeout validatePublic
          ⟨fun _ => .answered (first :: rest), connect, elapsedMs⟩
      (result.isSuccess = true ↔ reachability (connect first) = .connects)
      ∧ result.failureReason = (reachability (connect first)).failureReason := by
  simp only [checkTcp, resolveTcp_eq_ok allowed]
  cases connect first with
  | connected => exact ⟨iff_of_true rfl rfl, rfl⟩
  | refused error => exact ⟨by simp [connectTcp, plainFailure, failedCheck, reachability], rfl⟩
  | timedOut => exact ⟨by simp [connectTcp, plainFailure, failedCheck, reachability], rfl⟩

theorem checkTcp_blocked (blocked : BlocksAnswer validatePublic (first :: rest))
    : let result :=
        checkTcp host port connectTimeout validatePublic
          ⟨fun _ => .answered (first :: rest), connect, elapsedMs⟩
      result.isSuccess = false ∧ result.failureReason = some "ssrf_blocked" := by
  obtain ⟨message, isBlocked⟩ := resolveTcp_eq_error blocked
  simp only [checkTcp, isBlocked]
  exact ⟨rfl, rfl⟩

------------------------------------------------------------
-- Two orders
------------------------------------------------------------

section Orders

variable {Certificate : Type} (tls : TlsLibrary Certificate) (now : Int)
  (servers : SocketAddr → Server Certificate) (parseUrl : UrlParser) (url : String)
  (warningDays : Option Int)

/-- What a check takes from the answer of the resolver is the same for two answers: the outcome of
the check of a port, the target of an HTTP check, and the outcome of a check of a certificate.
-/
structure SameForAnswers (host : String) (port : UInt16) (connectTimeout : StdTime.Duration)
    (connect : SocketAddr → ConnectOutcome) (validatePublic : Bool) (addrs other : List SocketAddr)
    : Prop where
  tcp (elapsedMs otherElapsedMs : Nat)
    : SameOutcome
        (checkTcp host port connectTimeout validatePublic
          ⟨fun _ => .answered addrs, connect, elapsedMs⟩)
        (checkTcp host port connectTimeout validatePublic
          ⟨fun _ => .answered other, connect, otherElapsedMs⟩)
  http
    : resolveRuntimeRequestTarget parseUrl (fun _ => some addrs) url validatePublic
      = resolveRuntimeRequestTarget parseUrl (fun _ => some other) url validatePublic
  ssl (elapsedMs otherElapsedMs : Int)
    : SameOutcome
        (checkSslCertificate tls now servers parseUrl (fun _ => some addrs) elapsedMs url
          warningDays validatePublic)
        (checkSslCertificate tls now servers parseUrl (fun _ => some other) otherElapsedMs url
          warningDays validatePublic)

variable {tls : TlsLibrary Certificate} {now : Int} {servers : SocketAddr → Server Certificate}
  {parseUrl : UrlParser} {url : String} {warningDays : Option Int} {otherFirst : SocketAddr}
  {otherRest : List SocketAddr}

/-- The target of a URL does not depend on the order of the answer. -/
theorem resolveRuntimeRequestTarget_eq_of_perm
    (same : (first :: rest).Perm (otherFirst :: otherRest))
    : resolveRuntimeRequestTarget parseUrl (fun _ => some (first :: rest)) url validatePublic
      = resolveRuntimeRequestTarget parseUrl (fun _ => some (otherFirst :: otherRest)) url
          validatePublic := by
  have resolves (host : String) (port : UInt16)
      : resolveRuntimeTarget (fun _ => some (first :: rest)) host port validatePublic
        = resolveRuntimeTarget (fun _ => some (otherFirst :: otherRest)) host port
            validatePublic := by
    unfold resolveRuntimeTarget
    cases IpAddr.parse host with
    | some ip => rfl
    | none => simp only [sortDedup_eq_of_perm same]
  unfold resolveRuntimeRequestTarget
  simp only [resolves]

theorem checkSslCertificate_sameOutcome
    (same : (first :: rest).Perm (otherFirst :: otherRest)) (elapsedMs otherElapsedMs : Int)
    : SameOutcome
        (checkSslCertificate tls now servers parseUrl (fun _ => some (first :: rest)) elapsedMs
          url warningDays validatePublic)
        (checkSslCertificate tls now servers parseUrl (fun _ => some (otherFirst :: otherRest))
          otherElapsedMs url warningDays validatePublic) := by
  unfold checkSslCertificate
  rw [resolveRuntimeRequestTarget_eq_of_perm same]
  split
  · exact ⟨rfl, rfl⟩
  · simp only
    split <;> exact ⟨rfl, rfl⟩

/-- Two orders of an answer come to the same exactly if they are blocked, or start with addresses
that do the same to a connection.
-/
theorem sameForAnswers_iff (same : (first :: rest).Perm (otherFirst :: otherRest))
    : SameForAnswers tls now servers parseUrl url warningDays host port connectTimeout connect
        validatePublic (first :: rest) (otherFirst :: otherRest)
      ↔ BlocksAnswer validatePublic (first :: rest)
        ∨ reachability (connect first) = reachability (connect otherFirst) := by
  have otherBlocked
      : BlocksAnswer validatePublic (otherFirst :: otherRest)
        ↔ BlocksAnswer validatePublic (first :: rest) := by
    simp only [BlocksAnswer, same.mem_iff]
  by_cases blocked : BlocksAnswer validatePublic (first :: rest)
  · refine iff_of_true ⟨fun elapsedMs otherElapsedMs => ?_, ?_, ?_⟩ (.inl blocked)
    · obtain ⟨fails, reason⟩ := checkTcp_blocked blocked
      obtain ⟨otherFails, otherReason⟩ := checkTcp_blocked (otherBlocked.mpr blocked)
      exact ⟨fails.trans otherFails.symm, reason.trans otherReason.symm⟩
    · exact resolveRuntimeRequestTarget_eq_of_perm same
    · exact checkSslCertificate_sameOutcome same
  · have otherAllowed := mt otherBlocked.mp blocked
    rw [or_iff_right blocked]
    constructor
    · intro sameFor
      obtain ⟨_, sameReason⟩ := sameFor.tcp 0 0
      rw [(checkTcp_outcome blocked).2, (checkTcp_outcome otherAllowed).2] at sameReason
      revert sameReason
      cases reachability (connect first) <;> cases reachability (connect otherFirst)
        <;> simp [Reachability.failureReason]
    · intro sameReach
      refine ⟨fun elapsedMs otherElapsedMs => ?_, ?_, ?_⟩
      · obtain ⟨succeeds, reason⟩ := checkTcp_outcome blocked
        obtain ⟨otherSucceeds, otherReason⟩ := checkTcp_outcome otherAllowed
        refine ⟨Bool.eq_iff_iff.mpr ?_, ?_⟩
        · rw [succeeds, otherSucceeds, sameReach]
        · rw [reason, otherReason, sameReach]
      · exact resolveRuntimeRequestTarget_eq_of_perm same
      · exact checkSslCertificate_sameOutcome same

end Orders

------------------------------------------------------------
-- A host with two addresses
------------------------------------------------------------

/-- The first address accepts connections, and the second refuses them. -/
def connectFirstOnly (addr : SocketAddr) : ConnectOutcome :=
  if addr = firstAddr then .connected else .refused "Connection refused (os error 111)"

theorem sameForAnswers_iff_healthy
    : SameForAnswers smallTls 0 twoServers smallParseUrl "https://shop.test" none "shop.test" 443
        (.fromSecs 5) (fun _ => .connected) true [firstAddr, secondAddr] [secondAddr, firstAddr] :=
  (sameForAnswers_iff (.swap secondAddr firstAddr [])).mpr (.inr rfl)

/-- One order finds the port open, and the other does not. -/
theorem answers_not_sameForOrders
    : [firstAddr, secondAddr].Perm [secondAddr, firstAddr]
      ∧ ¬SameForAnswers smallTls 0 twoServers smallParseUrl "https://shop.test" none "shop.test"
          443 (.fromSecs 5) connectFirstOnly true [firstAddr, secondAddr]
          [secondAddr, firstAddr] := by
  refine ⟨.swap secondAddr firstAddr [], fun sameFor => ?_⟩
  have sameSuccess := (sameFor.tcp 0 0).isSuccess
  revert sameSuccess
  decide +kernel

end AlonSentinel.System
