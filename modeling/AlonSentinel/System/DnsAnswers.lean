import AlonSentinel.Foundation.PrintedAddresses
import AlonSentinel.System.DnsMonitors
import AlonSentinel.System.ResolverOrder

/-! What the check of a DNS record makes of an answer. It renders the records of all types that it
knows into one list of texts, and looks for the expected value as it was stored.
-/

namespace AlonSentinel.System

open Domain
open IpAddress
open Monitoring
open UnicodeText
open Worker

------------------------------------------------------------
-- Matching records
------------------------------------------------------------

/-- The type of a record, if it is one that can be asked for. -/
def typeOfRData : RData → Option RecordType
  | .a _ => some .a
  | .aaaa _ => some .aaaa
  | .cname _ => some .cname
  | .ns _ => some .ns
  | .mx _ _ => some .mx
  | .txt _ => some .txt
  | .other => none

/-- A record that is rendered, and as the expected value if there is one. -/
def MatchesRecord (expectedValue : Option String) (rdata : RData) : Prop :=
  ∃ text, rdataToString rdata = some text ∧ ∀ value ∈ expectedValue, text = value

/-- Every record of a type that can be asked for is rendered. -/
theorem rdataToString_isSome {rdata : RData} {recordType : RecordType}
    (isType : typeOfRData rdata = some recordType)
    : ∃ text, rdataToString rdata = some text := by
  cases rdata with
  | other => cases isType
  | _ => exact ⟨_, rfl⟩

/-- Texts pass exactly if one of them is as expected, by cases on the expected value. -/
theorem evaluateRecords_eq_none {p : DnsCheckParams} {records : List String}
    : evaluateRecords p records = none
      ↔ ∃ text ∈ records, ∀ value ∈ p.expectedValue, text = value := by
  unfold evaluateRecords
  cases records with
  | nil =>
      refine iff_of_false nofun ?_
      rintro ⟨text, member, _⟩
      cases member
  | cons head rest =>
      rw [if_neg (by simp)]
      cases p.expectedValue with
      | none => exact iff_of_true rfl ⟨head, List.mem_cons_self, nofun⟩
      | some value => simp [or_iff_not_imp_left]

theorem evaluateAnswers_eq_none {p : DnsCheckParams} {answers : List RData}
    : evaluateRecords p (answers.filterMap rdataToString) = none
      ↔ ∃ rdata ∈ answers, MatchesRecord p.expectedValue rdata := by
  rw [evaluateRecords_eq_none]
  constructor
  · rintro ⟨text, member, isExpected⟩
    obtain ⟨rdata, isAnswer, isText⟩ := List.mem_filterMap.mp member
    exact ⟨rdata, isAnswer, text, isText, isExpected⟩
  · rintro ⟨rdata, isAnswer, text, isText, isExpected⟩
    exact ⟨text, List.mem_filterMap.mpr ⟨rdata, isAnswer, isText⟩, isExpected⟩

------------------------------------------------------------
-- The type of the records
------------------------------------------------------------

section Types

/-- A lookup of a type is made and answered. -/
structure Answered (toUppercase : String → String) (p : DnsCheckParams) (validatePublic : Bool)
    (run : DnsCheckRun) (recordType : RecordType) (answers : List RData)
    : Prop where
  parsed : parseRecordType toUppercase p.recordType = .ok recordType
  built : buildResolver p.nameserver validatePublic run.build = .ok ()
  answered : run.lookup p.hostname recordType = .ok answers

/-- A check succeeds only with a record of a type, and with the expected value if there is one. -/
structure Attests (recordType : RecordType) (expectedValue : Option String) (answers : List RData)
    (result : CheckResult)
    : Prop where
  record
    : result.isSuccess = true → ∃ rdata ∈ answers, typeOfRData rdata = some recordType
  value {value : String}
    : result.isSuccess = true
      → expectedValue = some value
      → ∃ rdata ∈ answers,
          typeOfRData rdata = some recordType ∧ rdataToString rdata = some value

/-- A record of another type matches, and no record of the type does. -/
structure StandsIn (recordType : RecordType) (expectedValue : Option String) (answers : List RData)
    : Prop where
  other
    : ∃ rdata ∈ answers,
        typeOfRData rdata ≠ some recordType ∧ MatchesRecord expectedValue rdata
  missing
    : ∀ rdata ∈ answers,
        typeOfRData rdata = some recordType → ¬MatchesRecord expectedValue rdata

variable {toUppercase : String → String} {p : DnsCheckParams} {validatePublic : Bool}
  {run : DnsCheckRun} {recordType : RecordType} {answers : List RData}

theorem checkDns_isSuccess (answered : Answered toUppercase p validatePublic run recordType answers)
    : (checkDns toUppercase p validatePublic run).isSuccess = true
      ↔ ∃ rdata ∈ answers, MatchesRecord p.expectedValue rdata := by
  rw [← evaluateAnswers_eq_none]
  unfold checkDns
  rw [answered.parsed]
  dsimp only
  rw [answered.built]
  dsimp only
  rw [answered.answered]
  dsimp only
  cases evaluateRecords p (answers.filterMap rdataToString) with
  | none => exact iff_of_true rfl rfl
  | some failure => exact iff_of_false nofun nofun

/-- A success with a matching record of the type is attested. -/
theorem Attests.of_match {result : CheckResult} {rdata : RData} (member : rdata ∈ answers)
    (isType : typeOfRData rdata = some recordType) (isMatch : MatchesRecord p.expectedValue rdata)
    : Attests recordType p.expectedValue answers result := by
  obtain ⟨text, isText, isExpected⟩ := isMatch
  refine ⟨fun _ => ⟨rdata, member, isType⟩, fun {value} _ isValue => ?_⟩
  exact ⟨rdata, member, isType, isText.trans (congrArg some (isExpected value isValue))⟩

/-- What is attested has a matching record of the type. -/
theorem Attests.exists_match {result : CheckResult}
    (attests : Attests recordType p.expectedValue answers result)
    (success : result.isSuccess = true)
    : ∃ rdata ∈ answers,
        typeOfRData rdata = some recordType ∧ MatchesRecord p.expectedValue rdata := by
  cases isExpected : p.expectedValue with
  | none =>
      obtain ⟨rdata, member, isType⟩ := attests.record success
      obtain ⟨text, isText⟩ := rdataToString_isSome isType
      exact ⟨rdata, member, isType, text, isText, nofun⟩
  | some value =>
      obtain ⟨rdata, member, isType, isText⟩ := attests.value success isExpected
      exact ⟨rdata, member, isType, value, isText, fun _ same => Option.some.inj same⟩

/-- A check attests the type it asks for exactly if no record of another type stands in for it. -/
theorem checkDns_attests_iff
    (answered : Answered toUppercase p validatePublic run recordType answers)
    : Attests recordType p.expectedValue answers (checkDns toUppercase p validatePublic run)
      ↔ ¬StandsIn recordType p.expectedValue answers := by
  have succeeds := checkDns_isSuccess answered
  constructor
  · rintro attests ⟨⟨rdata, member, _, isMatch⟩, missing⟩
    obtain ⟨own, isAnswer, isType, ownMatch⟩ :=
      attests.exists_match (succeeds.mpr ⟨rdata, member, isMatch⟩)
    exact missing own isAnswer isType ownMatch
  · intro noStandIn
    by_cases matched
        : ∃ rdata ∈ answers,
            typeOfRData rdata = some recordType ∧ MatchesRecord p.expectedValue rdata
    · obtain ⟨rdata, member, isType, isMatch⟩ := matched
      exact .of_match member isType isMatch
    · -- Without a matching record of the type there is none of another type either.
      have missing (rdata : RData) (member : rdata ∈ answers)
          (isType : typeOfRData rdata = some recordType)
          : ¬MatchesRecord p.expectedValue rdata :=
        fun isMatch => matched ⟨rdata, member, isType, isMatch⟩
      have fails : ¬(checkDns toUppercase p validatePublic run).isSuccess = true := by
        rw [succeeds]
        rintro ⟨rdata, member, isMatch⟩
        exact noStandIn
          ⟨⟨rdata, member, fun isType => missing rdata member isType isMatch, isMatch⟩, missing⟩
      exact ⟨fun success => absurd success fails, fun success => absurd success fails⟩

end Types

------------------------------------------------------------
-- The spelling of the expected value
------------------------------------------------------------

section Spelling

/-- A domain name in lower case, without surrounding whitespace and a trailing dot. -/
def domainName (text : String) : List Char :=
  let lower := (trim text).toList.map Char.toLower
  if lower.getLast? = some '.' then lower.dropLast else lower

/-- Two texts denote one value of a record: an address, or a domain name. -/
inductive SameValue : RecordType → String → String → Prop where
  | a {first second : String} {ip : Ipv4Addr} (reads : IpAddr.parse (trim first) = some (.v4 ip))
      (alsoReads : IpAddr.parse (trim second) = some (.v4 ip))
      : SameValue .a first second
  | aaaa {first second : String} {ip : Ipv6Addr}
      (reads : IpAddr.parse (trim first) = some (.v6 ip))
      (alsoReads : IpAddr.parse (trim second) = some (.v6 ip))
      : SameValue .aaaa first second
  | cname {first second : String} (same : domainName first = domainName second)
      : SameValue .cname first second
  | ns {first second : String} (same : domainName first = domainName second)
      : SameValue .ns first second

/-- An answer has a record that is rendered as a text. -/
def Renders (answers : List RData) (text : String) : Prop :=
  ∃ rdata ∈ answers, rdataToString rdata = some text

theorem contains_eq_true {answers : List RData} {value : String}
    : (answers.filterMap rdataToString).contains value = true ↔ Renders answers value := by
  rw [List.contains_iff_mem, List.mem_filterMap]
  rfl

/-- An answer has a record of a type with the value that a text denotes. -/
inductive HasValue (answers : List RData) : RecordType → String → Prop where
  | a {ip : Ipv4Addr} {text : String} (member : .a ip ∈ answers)
      (reads : IpAddr.parse (trim text) = some (.v4 ip))
      : HasValue answers .a text
  | aaaa {ip : Ipv6Addr} {text : String} (member : .aaaa ip ∈ answers)
      (reads : IpAddr.parse (trim text) = some (.v6 ip))
      : HasValue answers .aaaa text
  | cname {name text : String} (member : .cname name ∈ answers)
      (same : domainName (trimEndDots name) = domainName text)
      : HasValue answers .cname text
  | ns {name text : String} (member : .ns name ∈ answers)
      (same : domainName (trimEndDots name) = domainName text)
      : HasValue answers .ns text

/-- The spellings that are compared with: the one text that is printed of an address, and a name
with the letters that it has in the answer and without dots behind it.
-/
inductive IsCanonical (answers : List RData) : RecordType → String → Prop where
  | a (ip : Ipv4Addr) : IsCanonical answers .a ip.toString
  | aaaa (ip : Ipv6Addr) : IsCanonical answers .aaaa ip.toString
  | cname {name : String} (member : .cname name ∈ answers)
      : IsCanonical answers .cname (trimEndDots name)
  | ns {name : String} (member : .ns name ∈ answers) : IsCanonical answers .ns (trimEndDots name)

/-- A record of another type is printed as a text. -/
def PrintedByOther (answers : List RData) (recordType : RecordType) (text : String) : Prop :=
  ∃ rdata ∈ answers, typeOfRData rdata ≠ some recordType ∧ rdataToString rdata = some text

/-- Two spellings of one value fare alike. If a record of the type has the value, both of them are
canonical or neither is. A record of another type that is printed as a spelling makes up for what
is missing.
-/
structure SpellingsAgree (answers : List RData) (recordType : RecordType) (first second : String)
    : Prop where
  present
    : HasValue answers recordType first
      → (IsCanonical answers recordType first ∨ PrintedByOther answers recordType first
          ↔ IsCanonical answers recordType second ∨ PrintedByOther answers recordType second)
  missing
    : ¬HasValue answers recordType first
      → (PrintedByOther answers recordType first ↔ PrintedByOther answers recordType second)

section Spellings

variable {answers : List RData} {recordType : RecordType} {first second text : String}

theorem SameValue.symm (same : SameValue recordType first second)
    : SameValue recordType second first := by
  cases same with
  | a reads alsoReads => exact .a alsoReads reads
  | aaaa reads alsoReads => exact .aaaa alsoReads reads
  | cname same => exact .cname same.symm
  | ns same => exact .ns same.symm

theorem HasValue.of_sameValue (hasValue : HasValue answers recordType first)
    (same : SameValue recordType first second)
    : HasValue answers recordType second := by
  cases same with
  | a reads alsoReads =>
      cases hasValue with
      | a member isIp =>
          rw [reads] at isIp
          cases isIp
          exact .a member alsoReads
  | aaaa reads alsoReads =>
      cases hasValue with
      | aaaa member isIp =>
          rw [reads] at isIp
          cases isIp
          exact .aaaa member alsoReads
  | cname same =>
      cases hasValue with
      | cname member isName => exact .cname member (isName.trans same)
  | ns same =>
      cases hasValue with
      | ns member isName => exact .ns member (isName.trans same)

theorem parse_trim_toString (ip : IpAddr) : IpAddr.parse (trim ip.toString) = some ip :=
  (congrArg IpAddr.parse ip.trim_toString).trans ip.parse_toString

/-- What a record of the type is printed as spells its value, canonically. -/
theorem hasValue_of_printed {rdata : RData} (member : rdata ∈ answers)
    (isType : typeOfRData rdata = some recordType) (isText : rdataToString rdata = some text)
    (valued : recordType ≠ .mx ∧ recordType ≠ .txt)
    : HasValue answers recordType text ∧ IsCanonical answers recordType text := by
  cases rdata with
  | a ip =>
      cases isType
      cases isText
      exact ⟨.a member (parse_trim_toString (.v4 ip)), .a ip⟩
  | aaaa ip =>
      cases isType
      cases isText
      exact ⟨.aaaa member (parse_trim_toString (.v6 ip)), .aaaa ip⟩
  | cname name =>
      cases isType
      cases isText
      exact ⟨.cname member rfl, .cname member⟩
  | ns name =>
      cases isType
      cases isText
      exact ⟨.ns member rfl, .ns member⟩
  | mx =>
      cases isType
      exact absurd rfl valued.1
  | txt =>
      cases isType
      exact absurd rfl valued.2
  | other => cases isType

/-- The canonical spelling of a value that the answer has is what a record is printed as. -/
theorem HasValue.renders (hasValue : HasValue answers recordType text)
    (canonical : IsCanonical answers recordType text)
    : Renders answers text := by
  cases canonical with
  | a ip =>
      cases hasValue with
      | a member reads =>
          have same := (parse_trim_toString (.v4 ip)).symm.trans reads
          cases same
          exact ⟨.a ip, member, rfl⟩
  | aaaa ip =>
      cases hasValue with
      | aaaa member reads =>
          have same := (parse_trim_toString (.v6 ip)).symm.trans reads
          cases same
          exact ⟨.aaaa ip, member, rfl⟩
  | cname member => exact ⟨_, member, rfl⟩
  | ns member => exact ⟨_, member, rfl⟩

theorem SameValue.valued (same : SameValue recordType first second)
    : recordType ≠ .mx ∧ recordType ≠ .txt := by
  cases same <;> exact ⟨nofun, nofun⟩

/-- A text is printed for its value, by a record of the type, or by one of another type. -/
theorem renders_iff (valued : recordType ≠ .mx ∧ recordType ≠ .txt)
    : Renders answers text
      ↔ HasValue answers recordType text ∧ IsCanonical answers recordType text
        ∨ PrintedByOther answers recordType text := by
  constructor
  · rintro ⟨rdata, member, isText⟩
    by_cases isType : typeOfRData rdata = some recordType
    · exact .inl (hasValue_of_printed member isType isText valued)
    · exact .inr ⟨rdata, member, isType, isText⟩
  · rintro (⟨hasValue, canonical⟩ | ⟨rdata, member, _, isText⟩)
    · exact hasValue.renders canonical
    · exact ⟨rdata, member, isText⟩

theorem SameValue.spellingsAgree_iff (same : SameValue recordType first second)
    : SpellingsAgree answers recordType first second
      ↔ (Renders answers first ↔ Renders answers second) := by
  have sameHas : HasValue answers recordType second ↔ HasValue answers recordType first :=
    ⟨(·.of_sameValue same.symm), (·.of_sameValue same)⟩
  rw [renders_iff same.valued, renders_iff same.valued, sameHas]
  by_cases hasValue : HasValue answers recordType first
  · simp only [hasValue, true_and]
    exact ⟨fun agree => agree.present hasValue, fun agree => ⟨fun _ => agree, absurd hasValue⟩⟩
  · simp only [hasValue, false_and, false_or]
    exact ⟨fun agree => agree.missing hasValue,
      fun agree => ⟨fun has => absurd has hasValue, fun _ => agree⟩⟩

/-- Where no record of another type is printed as a spelling, the spellings alone decide. -/
theorem spellingsAgree_iff_canonical (noFirst : ¬PrintedByOther answers recordType first)
    (noSecond : ¬PrintedByOther answers recordType second)
    : SpellingsAgree answers recordType first second
      ↔ ¬HasValue answers recordType first
        ∨ (IsCanonical answers recordType first ↔ IsCanonical answers recordType second) := by
  constructor
  · intro agree
    refine or_iff_not_imp_left.mpr fun notMissing => ?_
    simpa [noFirst, noSecond] using agree.present (not_not.mp notMissing)
  · rintro (missing | alike)
    · exact ⟨fun has => absurd has missing, fun _ => iff_of_false noFirst noSecond⟩
    · exact ⟨fun _ => by simpa [noFirst, noSecond] using alike,
        fun _ => iff_of_false noFirst noSecond⟩

end Spellings

section Verdict

variable {toUppercase : String → String} {p : DnsCheckParams} {validatePublic : Bool}
  {run : DnsCheckRun} {recordType : RecordType} {answers : List RData} {value : String}

/-- The outcome of a check with an expected value. -/
theorem checkDns_expected (answered : Answered toUppercase p validatePublic run recordType answers)
    (isExpected : p.expectedValue = some value)
    : let records := answers.filterMap rdataToString
      let result := checkDns toUppercase p validatePublic run
      result.isSuccess = records.contains value
      ∧ result.failureReason
        = if records.contains value then none
          else some (if records.isEmpty then "no_records" else "value_mismatch") := by
  simp only [checkDns, answered.parsed, answered.built, answered.answered, evaluateRecords,
    isExpected, Option.bind_some]
  cases answers.filterMap rdataToString with
  | nil => exact ⟨rfl, rfl⟩
  | cons head rest =>
      simp only [List.isEmpty_cons, Bool.false_eq_true, if_false]
      cases (head :: rest).contains value <;> exact ⟨rfl, rfl⟩

end Verdict

variable {Certificate : Type} {libraries : CheckerLibraries Certificate}
  {policy : ResolvedMonitorCheckPolicy} {payload : Api.UpsertDnsSiteMonitorRequest}
  {recordType : RecordType} {row otherRow : SiteMonitor} {run : MonitorCheckRun Certificate}
  {answers : List RData}

/-- Two rows of payloads that differ in their expected values have the same check otherwise. -/
theorem dnsCheckParams_expected {toUppercase : String → String} {storedType otherType : RecordType}
    {first second : String}
    (carries : CarriesDns toUppercase { payload with expectedValue := some first } storedType row)
    (alsoCarries
      : CarriesDns toUppercase { payload with expectedValue := some second } otherType otherRow)
    : (dnsCheckParams row).expectedValue = some first
      ∧ dnsCheckParams otherRow = { dnsCheckParams row with expectedValue := some second } := by
  obtain ⟨_, isHost, isType⟩ := carries.record
  obtain ⟨_, alsoHost, alsoType⟩ := alsoCarries.record
  have sameType : recordTypeName storedType = recordTypeName otherType :=
    carries.accepted.recordType.symm.trans alsoCarries.accepted.recordType
  refine ⟨carries.expectedValue, ?_⟩
  simp [dnsCheckParams, isHost, isType, alsoHost, alsoType, sameType, carries.nameserver,
    alsoCarries.nameserver, alsoCarries.expectedValue]

/-- Two spellings of one value get the same verdict exactly if they fare alike. Where no record of
another type is printed as a spelling, they do so exactly if the answer lacks the value, or both
spellings are canonical, or neither is.
-/
theorem dnsVerdict_byMeaning_iff {first second : String} {db after otherDb otherAfter : Database}
    (history : DnsHistory libraries.toUppercase db)
    (otherHistory : DnsHistory libraries.toUppercase otherDb)
    (stores
      : StoresDns libraries.toUppercase { payload with expectedValue := some first } db row after)
    (otherStores
      : StoresDns libraries.toUppercase { payload with expectedValue := some second } otherDb
          otherRow otherAfter)
    (answered
      : Answered libraries.toUppercase (dnsCheckParams row) true run.dns recordType answers)
    (sameValue : SameValue recordType first second)
    : (SameOutcome (checkMonitor libraries policy row run)
          (checkMonitor libraries policy otherRow run)
        ↔ SpellingsAgree answers recordType first second)
      ∧ (¬PrintedByOther answers recordType first
          → ¬PrintedByOther answers recordType second
          → (SameOutcome (checkMonitor libraries policy row run)
                (checkMonitor libraries policy otherRow run)
              ↔ ¬HasValue answers recordType first
                ∨ (IsCanonical answers recordType first
                  ↔ IsCanonical answers recordType second))) := by
  obtain ⟨⟨storedType, carries⟩, _⟩ := stores.carries history.named
  obtain ⟨⟨otherType, alsoCarries⟩, _⟩ := otherStores.carries otherHistory.named
  obtain ⟨isExpected, otherParams⟩ := dnsCheckParams_expected carries alsoCarries
  have otherAnswered
      : Answered libraries.toUppercase (dnsCheckParams otherRow) true run.dns recordType
          answers := by
    rw [otherParams]
    exact ⟨answered.parsed, answered.built, answered.answered⟩
  obtain ⟨success, reason⟩ := checkDns_expected answered isExpected
  obtain ⟨otherSuccess, otherReason⟩ :=
    checkDns_expected otherAnswered (congrArg DnsCheckParams.expectedValue otherParams)
  have sameOutcome
      : SameOutcome (checkMonitor libraries policy row run)
          (checkMonitor libraries policy otherRow run)
        ↔ SpellingsAgree answers recordType first second := by
    simp only [checkMonitor, carries.isDns, alsoCarries.isDns]
    rw [sameValue.spellingsAgree_iff, ← contains_eq_true, ← contains_eq_true, ← Bool.eq_iff_iff]
    constructor
    · intro same
      exact success.symm.trans (same.isSuccess.trans otherSuccess)
    · intro same
      exact ⟨by rw [success, otherSuccess, same], by rw [reason, otherReason, same]⟩
  exact ⟨sameOutcome, fun noFirst noSecond =>
    sameOutcome.trans (spellingsAgree_iff_canonical noFirst noSecond)⟩

end Spelling

------------------------------------------------------------
-- Answers for the shop
------------------------------------------------------------

def shopIp : Ipv4Addr := ⟨#v[93, 184, 216, 40]⟩

/-- A check that is answered so. -/
def answeredRun (answers : List RData) : MonitorCheckRun Unit :=
  { portRun .connected with
    dns := { build := .ok (), lookup := fun _ _ => .ok answers, elapsedMs := 20 } }

/-- The address of the shop, as it is asked for. -/
def addressParams (expectedValue : Option String) : DnsCheckParams where
  hostname := "shop.test"
  recordType := "A"
  expectedValue := expectedValue
  nameserver := none

/-- The answer for a name that is an alias. -/
def aliasedAddress : List RData := [.cname "www.shop.test.", .a shopIp]

theorem addressParams_answered (expectedValue : Option String) (answers : List RData)
    : Answered portLibraries.toUppercase (addressParams expectedValue) true
        (answeredRun answers).dns .a answers where
  parsed := by
    change parseRecordType portLibraries.toUppercase "A" = .ok .a
    decide +kernel
  built := rfl
  answered := rfl

theorem checkDns_attests_address
    : Attests .a none aliasedAddress
        (checkDns portLibraries.toUppercase (addressParams none) true
          (answeredRun aliasedAddress).dns) := by
  refine (checkDns_attests_iff (addressParams_answered none _)).mpr fun standsIn => ?_
  exact standsIn.missing (.a shopIp) (by simp [aliasedAddress]) rfl ⟨_, rfl, nofun⟩

/-- The check of an address passes with the name that the address is an alias of. -/
theorem checkDns_not_attests
    : Answered portLibraries.toUppercase (addressParams (some "www.shop.test")) true
        (answeredRun aliasedAddress).dns .a aliasedAddress
      ∧ ¬Attests .a (some "www.shop.test") aliasedAddress
          (checkDns portLibraries.toUppercase (addressParams (some "www.shop.test")) true
            (answeredRun aliasedAddress).dns) := by
  refine ⟨addressParams_answered _ _, fun attests => ?_⟩
  have success
      : (checkDns portLibraries.toUppercase (addressParams (some "www.shop.test")) true
          (answeredRun aliasedAddress).dns).isSuccess = true := by
    decide +kernel
  have addressDiffers : ¬rdataToString (.a shopIp) = some "www.shop.test" := by decide +kernel
  obtain ⟨rdata, member, isType, isText⟩ := attests.value success rfl
  simp only [aliasedAddress, List.mem_cons, List.not_mem_nil, or_false] at member
  rcases member with rfl | rfl
  · cases isType
  · exact addressDiffers isText

theorem storedAddress_isSome {first second : String}
    (stored
      : ((storedAddress (some first) none).isSome && (storedAddress (some second) none).isSome)
        = true)
    : ∃ row after otherRow otherAfter,
        storedAddress (some first) none = some (row, after)
        ∧ storedAddress (some second) none = some (otherRow, otherAfter) := by
  obtain ⟨isStored, isStoredToo⟩ := Bool.and_eq_true_iff.mp stored
  obtain ⟨⟨row, after⟩, same⟩ := Option.isSome_iff_exists.mp isStored
  obtain ⟨⟨otherRow, otherAfter⟩, sameToo⟩ := Option.isSome_iff_exists.mp isStoredToo
  exact ⟨row, after, otherRow, otherAfter, same, sameToo⟩

theorem isShopIp {text : String}
    (reads : (IpAddr.parse (trim text) == some (.v4 shopIp)) = true)
    : IpAddr.parse (trim text) = some (.v4 shopIp) :=
  eq_of_beq reads

/-- The address is spelled with and without a blank before it. -/
theorem sameValue_blank : SameValue .a "93.184.216.40" " 93.184.216.40" :=
  .a (isShopIp (by decide +kernel)) (isShopIp (by decide +kernel))

/-- A text that has blanks is not what is printed of an address. -/
theorem notCanonical_of_trim {answers : List RData} {text : String} (blank : trim text ≠ text)
    : ¬IsCanonical answers .a text := by
  rintro ⟨ip⟩
  exact blank (IpAddr.v4 ip).trim_toString

theorem notPrintedByAlias {text : String} (differs : trimEndDots "www.shop.test." ≠ text)
    : ¬PrintedByOther aliasedAddress .a text := by
  rintro ⟨rdata, member, notType, isText⟩
  simp only [aliasedAddress, List.mem_cons, List.not_mem_nil, or_false] at member
  rcases member with rfl | rfl
  · exact differs (Option.some.inj isText)
  · exact notType rfl

/-- Whatever lookup of the stored address is answered. -/
theorem storedAddress_answered {expectedValue : Option String} {row : SiteMonitor}
    {after : Database} (stored : storedAddress expectedValue none = some (row, after))
    (answers : List RData)
    : Answered portLibraries.toUppercase (dnsCheckParams row) true (answeredRun answers).dns .a
        answers := by
  obtain ⟨⟨recordType, carries⟩, _⟩ :=
    (storedAddress_stores stored).carries smallDatabase_dnsHistory.named
  obtain ⟨_, _, isType⟩ := carries.record
  have read : portLibraries.toUppercase (trim "a ") = "A" := by decide +kernel
  have isA : row.dnsRecordType = some "A" :=
    isType.trans (congrArg some (carries.accepted.recordType.symm.trans read))
  have noNameserver : row.dnsNameserver = none := carries.nameserver
  refine ⟨?_, ?_, rfl⟩
  · simp only [dnsCheckParams, isA]
    exact parseRecordType_name portLibraries_keepsUppercase .a
  · simp only [dnsCheckParams, noNameserver]
    rfl

/-- Blanks before and behind the address, neither of which is a canonical spelling. -/
theorem dnsVerdict_byMeaning_blanks
    : ∃ row after otherRow otherAfter,
        storedAddress (some " 93.184.216.40") none = some (row, after)
        ∧ storedAddress (some "93.184.216.40 ") none = some (otherRow, otherAfter)
        ∧ SameOutcome
            (checkMonitor portLibraries threeAttempts row (answeredRun aliasedAddress))
            (checkMonitor portLibraries threeAttempts otherRow (answeredRun aliasedAddress)) := by
  obtain ⟨row, after, otherRow, otherAfter, stored, storedToo⟩ :
      ∃ row after otherRow otherAfter,
        storedAddress (some " 93.184.216.40") none = some (row, after)
        ∧ storedAddress (some "93.184.216.40 ") none = some (otherRow, otherAfter) :=
    storedAddress_isSome (by decide +kernel)
  refine ⟨row, after, otherRow, otherAfter, stored, storedToo, ?_⟩
  have stores
      : StoresDns portLibraries.toUppercase
          { addressPayload none none with expectedValue := some " 93.184.216.40" } smallDatabase
          row after :=
    storedAddress_stores stored
  have sameValue : SameValue .a " 93.184.216.40" "93.184.216.40 " :=
    .a (isShopIp (by decide +kernel)) (isShopIp (by decide +kernel))
  refine ((dnsVerdict_byMeaning_iff smallDatabase_dnsHistory smallDatabase_dnsHistory stores
    (storedAddress_stores storedToo) (storedAddress_answered stored _) sameValue).2 ?_ ?_).mpr
    (.inr (iff_of_false ?_ ?_))
  · exact notPrintedByAlias (by decide +kernel)
  · exact notPrintedByAlias (by decide +kernel)
  · exact notCanonical_of_trim (by decide +kernel)
  · exact notCanonical_of_trim (by decide +kernel)

/-- A blank before the expected address makes the check of a right answer fail. -/
theorem dnsVerdict_not_byMeaning
    : ∃ row after otherRow otherAfter,
        StoresDns portLibraries.toUppercase (addressPayload (some "93.184.216.40") none)
          smallDatabase row after
        ∧ StoresDns portLibraries.toUppercase (addressPayload (some " 93.184.216.40") none)
          smallDatabase otherRow otherAfter
        ∧ SameValue .a "93.184.216.40" " 93.184.216.40"
        ∧ ¬SameOutcome
            (checkMonitor portLibraries threeAttempts row (answeredRun [.a shopIp]))
            (checkMonitor portLibraries threeAttempts otherRow (answeredRun [.a shopIp])) := by
  have scenario
      : ((storedAddress (some "93.184.216.40") none).any fun stored =>
          (storedAddress (some " 93.184.216.40") none).any fun other =>
            (checkMonitor portLibraries threeAttempts stored.1
              (answeredRun [.a shopIp])).isSuccess
            && !(checkMonitor portLibraries threeAttempts other.1
              (answeredRun [.a shopIp])).isSuccess) = true := by
    decide +kernel
  obtain ⟨⟨row, after⟩, stored, others⟩ := (Option.any_eq_true _ _).mp scenario
  obtain ⟨⟨otherRow, otherAfter⟩, storedToo, verdicts⟩ := (Option.any_eq_true _ _).mp others
  obtain ⟨passes, fails⟩ := Bool.and_eq_true_iff.mp verdicts
  refine ⟨row, after, otherRow, otherAfter, storedAddress_stores stored,
    storedAddress_stores storedToo, sameValue_blank, fun same => ?_⟩
  rw [← same.isSuccess, passes] at fails
  cases fails

end AlonSentinel.System
