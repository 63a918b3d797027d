import AlonSentinel.Foundation.MachineIntegers
import AlonSentinel.Foundation.StdDuration
import AlonSentinel.Monitoring.TlsProbe

/-! The check of a TCP port: it connects to the first address that the host resolves to. -/

namespace AlonSentinel.Monitoring

open IpAddress
open MachineInteger
open Worker

/-- What a lookup with a time limit comes to. -/
inductive LookupOutcome where
  | answered (addrs : List SocketAddr)
  | failed
  | timedOut

/-- What a check of a port meets: the answers of the resolver and of the addresses, and the
milliseconds it took.
-/
structure TcpCheckRun where
  lookup : String → LookupOutcome
  connect : SocketAddr → ConnectOutcome
  elapsedMs : Nat

/-- A check without a certificate: `connect_failure` and `dns_failure`. -/
def plainFailure (elapsedMs : Nat) (failure : Failure) : CheckResult :=
  failedCheck (asI32 elapsedMs) ⟨failure, none⟩

/-- The result of a check of a port or a name that succeeds. -/
def plainSuccess (elapsedMs : Nat) : CheckResult where
  isSuccess := true
  statusCode := none
  responseTimeMs := some (asI32 elapsedMs)
  failureReason := none
  errorMessage := none
  certificateMetadata := none

def connectTcp (connectTimeout : StdTime.Duration) : ConnectOutcome → Except Failure Unit
  | .connected => .ok ()
  | .refused error => .error ⟨"connect_error", error⟩
  | .timedOut =>
      .error ⟨"connect_timeout", s!"connection timed out after {connectTimeout.asMillis}ms"⟩

/-- The first address of the host; with `validatePublic` all of them must be public. -/
def resolveTcp (validatePublic : Bool) : LookupOutcome → Except Failure SocketAddr
  | .failed => .error ⟨"dns_error", "hostname could not be resolved"⟩
  | .timedOut => .error ⟨"dns_error", "hostname DNS lookup timed out"⟩
  | .answered [] => .error ⟨"dns_error", "hostname resolved to no addresses"⟩
  | .answered (first :: rest) =>
      match (first :: rest).find? fun addr => validatePublic && !checkIpIsPublic addr.ip with
      | some addr =>
          .error ⟨"ssrf_blocked", s!"target resolved to non-public IP {addr.ip.toString}"⟩
      | none => .ok first

def checkTcp (host : String) (port : UInt16) (connectTimeout : StdTime.Duration)
    (validatePublic : Bool) (run : TcpCheckRun)
    : CheckResult :=
  match resolveTcp validatePublic (run.lookup s!"{host}:{port}") with
  | .error failure => plainFailure run.elapsedMs failure
  | .ok addr =>
      match connectTcp connectTimeout (run.connect addr) with
      | .error failure => plainFailure run.elapsedMs failure
      | .ok () => plainSuccess run.elapsedMs

end AlonSentinel.Monitoring
