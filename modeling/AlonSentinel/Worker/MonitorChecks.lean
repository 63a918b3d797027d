import AlonSentinel.Monitoring.DnsChecker
import AlonSentinel.Monitoring.HeartbeatChecker
import AlonSentinel.Monitoring.HttpChecker
import AlonSentinel.Worker.MonitorCheckRetries

/-! One attempt of the worker's loop: the check that belongs to the type of a monitor, with the
settings of its row and of its policy.
-/

namespace AlonSentinel.Worker

open Domain
open Monitoring

/-- What the attempts of a worker rest on. -/
structure CheckerLibraries (Certificate : Type) where
  http : HttpLibraries
  tls : TlsLibrary Certificate
  toUppercase : String → String

/-- What an attempt meets, by the kind of the check; `now` is the clock of a heartbeat check. -/
structure MonitorCheckRun (Certificate : Type) where
  http : HttpCheckRun Certificate
  tcp : TcpCheckRun
  dns : DnsCheckRun
  now : Int

/-- The assertions of a row; the worker never has them check the certificate. -/
def httpAssertions (siteMonitor : SiteMonitor) : HttpAssertions where
  bodyMustContain := siteMonitor.bodyMustContain
  bodyMustNotContain := siteMonitor.bodyMustNotContain
  bodyMustContainTexts := siteMonitor.bodyMustContainTexts.getD []
  bodyMustNotContainTexts := siteMonitor.bodyMustNotContainTexts.getD []
  jsonPathExists := siteMonitor.jsonPathExists.getD []
  jsonPathEquals := siteMonitor.jsonPathEquals.getD []
  jsonPathNotEquals := siteMonitor.jsonPathNotEquals.getD []
  maxResponseTimeMs := siteMonitor.maxResponseTimeMs
  requiredHeaderName := siteMonitor.requiredHeaderName
  requiredHeaderValue := siteMonitor.requiredHeaderValue
  headerAssertions := siteMonitor.headerAssertions.getD []
  sslCertificateChecksEnabled := false
  sslExpiryWarningDays := none

def ResolvedMonitorCheckPolicy.httpCheckConfig (policy : ResolvedMonitorCheckPolicy)
    : HttpCheckConfig where
  maxResponseBodyBytes := policy.maxResponseBodyBytes
  validatePublicTarget := !policy.allowPrivateTargets

def tcpHost (siteMonitor : SiteMonitor) : String := siteMonitor.tcpTargetHost.getD ""

/-- `clamp(0, 65535) as u16`. -/
def tcpPort (siteMonitor : SiteMonitor) : UInt16 :=
  .ofNat (min (max (siteMonitor.tcpTargetPort.getD 0) 0) 65535).toNat

def dnsCheckParams (siteMonitor : SiteMonitor) : DnsCheckParams where
  hostname := siteMonitor.dnsHostname.getD ""
  recordType := siteMonitor.dnsRecordType.getD ""
  expectedValue := siteMonitor.dnsExpectedValue
  nameserver := siteMonitor.dnsNameserver

variable {Certificate : Type} (libraries : CheckerLibraries Certificate)
  (policy : ResolvedMonitorCheckPolicy) (siteMonitor : SiteMonitor)

/-- The future of an attempt. Outside of tests the targets of TCP and DNS checks must be public. -/
def checkMonitor (run : MonitorCheckRun Certificate) : CheckResult :=
  match siteMonitor.monitorType with
  | .http =>
      checkUrl libraries.http (httpAssertions siteMonitor) libraries.tls siteMonitor.targetUrl
        siteMonitor.expectedStatusCode policy.httpCheckConfig run.http
  | .ssl =>
      checkSslCertificate libraries.tls run.http.now run.http.servers libraries.http.parseUrl
        run.http.lookupHost (MachineInteger.asI32 run.http.elapsedMs) siteMonitor.targetUrl
        siteMonitor.sslExpiryWarningDays (!policy.allowPrivateTargets)
  | .heartbeat => checkHeartbeat siteMonitor run.now
  | .tcp => checkTcp (tcpHost siteMonitor) (tcpPort siteMonitor) policy.timeout true run.tcp
  | .dns => checkDns libraries.toUppercase (dnsCheckParams siteMonitor) true run.dns

end AlonSentinel.Worker
