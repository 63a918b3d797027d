import AlonSentinel.Foundation.UnicodeText
import AlonSentinel.Foundation.Utf8Lossy
import AlonSentinel.Monitoring.TcpChecker

/-! The check of a DNS record. The resolver that is built, and what it answers, are inputs. -/

namespace AlonSentinel.Monitoring

open IpAddress
open Worker

------------------------------------------------------------
-- Records
------------------------------------------------------------

inductive RecordType where
  | a
  | aaaa
  | cname
  | mx
  | txt
  | ns
  deriving DecidableEq

/-- The data of a record; names are as the resolver prints them. -/
inductive RData where
  | a (ip : Ipv4Addr)
  | aaaa (ip : Ipv6Addr)
  | cname (name : String)
  | ns (name : String)
  | mx (preference : UInt16) (exchange : String)
  | txt (txtData : List (List UInt8))
  | other

/-- `trim_end_matches('.')`. -/
def trimEndDots (name : String) : String := .ofList (name.toList.rdropWhile (· = '.'))

def rdataToString : RData → Option String
  | .a ip => some ip.toString
  | .aaaa ip => some ip.toString
  | .cname name => some (trimEndDots name)
  | .ns name => some (trimEndDots name)
  | .mx preference exchange => some s!"{preference} {trimEndDots exchange}"
  | .txt txtData => some (String.join (txtData.map Utf8Lossy.decode))
  | .other => none

------------------------------------------------------------
-- The check
------------------------------------------------------------

structure DnsCheckParams where
  hostname : String
  recordType : String
  expectedValue : Option String
  nameserver : Option String

/-- What a check of a record meets: whether a resolver can be built, its answer to a lookup, and
the milliseconds it took.
-/
structure DnsCheckRun where
  build : Except String Unit
  lookup : String → RecordType → Except String (List RData)
  elapsedMs : Nat

/-- `to_uppercase` follows the Unicode tables and is a parameter. -/
def parseRecordType (toUppercase : String → String) (text : String) : Except String RecordType :=
  match toUppercase text with
  | "A" => .ok .a
  | "AAAA" => .ok .aaaa
  | "CNAME" => .ok .cname
  | "MX" => .ok .mx
  | "TXT" => .ok .txt
  | "NS" => .ok .ns
  | other =>
      .error s!"unsupported record type '{other}'; supported: A, AAAA, CNAME, MX, TXT, NS"

def isValidRecordType (toUppercase : String → String) (text : String) : Bool :=
  (parseRecordType toUppercase text).isOk

def parseNameserverIp (nameserver : String) : Except String IpAddr :=
  let addr := UnicodeText.trim nameserver
  match IpAddr.parse addr with
  | some ip => .ok ip
  | none => .error s!"nameserver must be an IP address, got: {addr}"

def buildResolver (nameserver : Option String) (validatePublic : Bool) (build : Except String Unit)
    : Except String Unit := do
  if let some ns := nameserver then
    let ip ← parseNameserverIp ns
    if validatePublic && !checkIpIsPublic ip then
      throw s!"nameserver {ip.toString} is not a public IP address"
  build

/-- The failure of a check whose lookup is answered. -/
def evaluateRecords (p : DnsCheckParams) (records : List String) : Option Failure :=
  if records.isEmpty then
    some ⟨"no_records", s!"no {p.recordType} records found for {p.hostname}"⟩
  else
    p.expectedValue.bind fun expected =>
      if records.contains expected then none
      else
        some
          { reason := "value_mismatch"
            message :=
              s!"expected {p.recordType} record '{expected}', got: "
                ++ ", ".intercalate records }

def checkDns (toUppercase : String → String) (p : DnsCheckParams) (validatePublic : Bool)
    (run : DnsCheckRun)
    : CheckResult :=
  match parseRecordType toUppercase p.recordType with
  | .error error => plainFailure run.elapsedMs ⟨"config_error", error⟩
  | .ok recordType =>
      match buildResolver p.nameserver validatePublic run.build with
      | .error error => plainFailure run.elapsedMs ⟨"config_error", error⟩
      | .ok () =>
          match run.lookup p.hostname recordType with
          | .error error => plainFailure run.elapsedMs ⟨"lookup_error", error⟩
          | .ok answers =>
              match evaluateRecords p (answers.filterMap rdataToString) with
              | some failure => plainFailure run.elapsedMs failure
              | none => plainSuccess run.elapsedMs

end AlonSentinel.Monitoring
