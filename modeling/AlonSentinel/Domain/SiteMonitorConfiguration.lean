import AlonSentinel.Domain.SiteMonitorRepository

/-! The statements that create and reconfigure monitors. Each monitor type has a list of
configuration columns that an insert fills, an upsert overwrites on conflict and an update
sets by id; the lists differ between the three statements and are kept apart here.
-/

namespace AlonSentinel.Domain

open KeyedTable

structure HttpMonitorParams where
  targetUrl : String
  checkIntervalSeconds : Int
  expectedStatusCode : Int
  bodyMustContain : Option String
  bodyMustNotContain : Option String
  bodyMustContainTexts : Option (List String)
  bodyMustNotContainTexts : Option (List String)
  jsonPathExists : Option (List String)
  jsonPathEquals : Option (List JsonPathValueAssertion)
  jsonPathNotEquals : Option (List JsonPathValueAssertion)
  maxResponseTimeMs : Option Int
  requiredHeaderName : Option String
  requiredHeaderValue : Option String
  headerAssertions : Option (List HttpHeaderAssertion)
  sslCertificateChecksEnabled : Bool
  sslExpiryWarningDays : Option Int
  httpCheckTimeoutSecondsOverride : Option Int
  httpCheckMaxAttemptsOverride : Option Int
  httpCheckRetryDelaysMsOverride : Option (List Int)
  isActive : Bool

structure SslMonitorParams where
  targetUrl : String
  checkIntervalSeconds : Int
  sslExpiryWarningDays : Option Int
  httpCheckTimeoutSecondsOverride : Option Int
  httpCheckMaxAttemptsOverride : Option Int
  httpCheckRetryDelaysMsOverride : Option (List Int)
  isActive : Bool

structure TcpMonitorParams where
  targetHost : String
  targetPort : Int
  checkIntervalSeconds : Int
  maxConnectTimeMs : Option Int
  timeoutSecondsOverride : Option Int
  maxAttemptsOverride : Option Int
  retryDelaysMsOverride : Option (List Int)
  isActive : Bool

structure DnsMonitorParams where
  hostname : String
  recordType : String
  expectedValue : Option String
  nameserver : Option String
  checkIntervalSeconds : Int
  timeoutSecondsOverride : Option Int
  maxAttemptsOverride : Option Int
  retryDelaysMsOverride : Option (List Int)
  isActive : Bool

structure HeartbeatMonitorParams where
  targetUrl : String
  heartbeatToken : String
  checkIntervalSeconds : Int
  heartbeatGraceSeconds : Option Int
  isActive : Bool

structure HeartbeatMonitorUpdateParams where
  checkIntervalSeconds : Int
  heartbeatGraceSeconds : Option Int
  isActive : Bool

------------------------------------------------------------
-- Inserting, upserting and updating a row
------------------------------------------------------------

/-- A row with the column defaults, before an insert fills in its own columns. -/
def SiteMonitor.withDefaults (now : Timestamp) (siteId : Int) (monitorType : SiteMonitorType)
    (targetUrl : String) (id : Int)
    : SiteMonitor where
  id := id
  siteId := siteId
  monitorType := monitorType
  targetUrl := targetUrl
  checkIntervalSeconds := 300
  expectedStatusCode := 200
  bodyMustContain := none
  bodyMustNotContain := none
  bodyMustContainTexts := none
  bodyMustNotContainTexts := none
  jsonPathExists := none
  jsonPathEquals := none
  jsonPathNotEquals := none
  maxResponseTimeMs := none
  requiredHeaderName := none
  requiredHeaderValue := none
  headerAssertions := none
  sslCertificateChecksEnabled := false
  sslExpiryWarningDays := none
  tcpTargetHost := none
  tcpTargetPort := none
  dnsHostname := none
  dnsRecordType := none
  dnsExpectedValue := none
  dnsNameserver := none
  heartbeatToken := none
  heartbeatGraceSeconds := none
  httpCheckTimeoutSecondsOverride := none
  httpCheckMaxAttemptsOverride := none
  httpCheckRetryDelaysMsOverride := none
  isActive := true
  checkClaimedAt := none
  checkLeaseUntil := none
  checkClaimedBy := none
  lastCheckedAt := none
  lastSuccessfulCheckAt := none
  lastIsSuccess := none
  lastStatusCode := none
  lastResponseTimeMs := none
  lastFailureReason := none
  lastErrorMessage := none
  lastHeartbeatReceivedAt := none
  lastCertificateExpiresAt := none
  lastCertificateDaysRemaining := none
  lastCertificateIssuer := none
  lastCertificateSubject := none
  lastCertificateDomain := none
  createdAt := now
  updatedAt := now

/-- The unique key `(site_id, monitor_type, target_url)`. -/
def SiteMonitor.isTarget (siteId : Int) (monitorType : SiteMonitorType) (targetUrl : String)
    (monitor : SiteMonitor)
    : Bool :=
  monitor.siteId = siteId && monitor.monitorType = monitorType && monitor.targetUrl = targetUrl

/-- `INSERT INTO site_monitors`, with the columns of `fill` in place of the defaults. -/
def insertSiteMonitor (db : Database) (now : Timestamp) (siteId : Int)
    (monitorType : SiteMonitorType) (targetUrl : String) (fill : SiteMonitor → SiteMonitor)
    (keeps : ∀ monitor, (fill monitor).id = monitor.id)
    : Except DatabaseError (SiteMonitor × Database) :=
  if (db.sites.find? siteId).isNone then
    .error .foreignKeyViolation
  else if db.siteMonitors.rows.any (·.isTarget siteId monitorType targetUrl) then
    .error (.uniqueViolation "uq_site_monitors_site_id_monitor_type_target_url")
  else
    let make := fun id => fill (.withDefaults now siteId monitorType targetUrl id)
    let inserted := make db.siteMonitors.nextId
    if inserted.heartbeatToken.isSome
        && db.siteMonitors.rows.any (·.heartbeatToken == inserted.heartbeatToken) then
      .error (.uniqueViolation "uq_site_monitors_heartbeat_token")
    else
      .ok (inserted, { db with siteMonitors := db.siteMonitors.insert make fun _ => keeps _ })

/-- `INSERT … ON CONFLICT (site_id, monitor_type, target_url) DO UPDATE`. -/
def upsertSiteMonitor (db : Database) (now : Timestamp) (siteId : Int)
    (monitorType : SiteMonitorType) (targetUrl : String) (fill : SiteMonitor → SiteMonitor)
    (merge : SiteMonitor → SiteMonitor)
    (fillKeeps : ∀ monitor, (fill monitor).id = monitor.id)
    (mergeKeeps : ∀ monitor, (merge monitor).id = monitor.id)
    : Except DatabaseError (SiteMonitor × Database) :=
  match db.siteMonitors.rows.find? (·.isTarget siteId monitorType targetUrl) with
  | some stored =>
      .ok (merge stored,
        { db with
          siteMonitors :=
            db.siteMonitors.update (·.id = stored.id) merge fun monitor _ => mergeKeeps monitor })
  | none => insertSiteMonitor db now siteId monitorType targetUrl fill fillKeeps

/-- `UPDATE … WHERE id = $1 AND site_id = $2 AND monitor_type = …`, subject to the unique key. -/
def updateSiteMonitorById (monitorType : SiteMonitorType) (db : Database)
    (siteId siteMonitorId : Int) (set : SiteMonitor → SiteMonitor)
    (keeps : ∀ monitor, (set monitor).id = monitor.id)
    : Except DatabaseError (Option SiteMonitor × Database) :=
  match (db.siteMonitors.find? siteMonitorId).filter
      (·.isAt monitorType siteId siteMonitorId) with
  | none => .ok (none, db)
  | some stored =>
      if db.siteMonitors.rows.any fun other =>
          other.id != siteMonitorId && other.isTarget siteId monitorType (set stored).targetUrl
      then
        .error (.uniqueViolation "uq_site_monitors_site_id_monitor_type_target_url")
      else
        .ok (some (set stored),
          { db with
            siteMonitors :=
              db.siteMonitors.update (·.isAt monitorType siteId siteMonitorId) set
                fun monitor _ => keeps monitor })

------------------------------------------------------------
-- What the statements do
------------------------------------------------------------

section Statements

variable {db after : Database} {now : Timestamp} {siteId siteMonitorId : Int}
  {monitorType : SiteMonitorType} {targetUrl : String} {fill merge set : SiteMonitor → SiteMonitor}
  {fillKeeps : ∀ monitor, (fill monitor).id = monitor.id}
  {mergeKeeps : ∀ monitor, (merge monitor).id = monitor.id}
  {setKeeps : ∀ monitor, (set monitor).id = monitor.id} {row : SiteMonitor}
  {result : Option SiteMonitor}

/-- An insert fills in the defaults and appends the row, if no other has the target. -/
theorem insertSiteMonitor_ok
    (done
      : insertSiteMonitor db now siteId monitorType targetUrl fill fillKeeps = .ok (row, after))
    : row = fill (.withDefaults now siteId monitorType targetUrl db.siteMonitors.nextId)
      ∧ (∀ stored ∈ db.siteMonitors.rows, ¬stored.isTarget siteId monitorType targetUrl = true)
      ∧ after
        = { db with
            siteMonitors :=
              db.siteMonitors.insert
                (fun id => fill (.withDefaults now siteId monitorType targetUrl id))
                fun _ => fillKeeps _ } := by
  unfold insertSiteMonitor at done
  simp only at done
  repeat' split at done
  · cases done
  · cases done
  · cases done
  · rename_i free _
    cases done
    refine ⟨rfl, fun stored isStored isTarget => free ?_, rfl⟩
    exact List.any_eq_true.mpr ⟨stored, isStored, isTarget⟩

/-- An upsert merges the first row with its target, or inserts one if there is none. -/
theorem upsertSiteMonitor_cases
    (done
      : upsertSiteMonitor db now siteId monitorType targetUrl fill merge fillKeeps mergeKeeps
        = .ok (row, after))
    : (∃ stored ∈ db.siteMonitors.rows,
        stored.isTarget siteId monitorType targetUrl = true
        ∧ row = merge stored
        ∧ after
          = { db with
              siteMonitors :=
                db.siteMonitors.update (·.id = stored.id) merge
                  fun monitor _ => mergeKeeps monitor })
      ∨ ((∀ stored ∈ db.siteMonitors.rows,
            ¬stored.isTarget siteId monitorType targetUrl = true)
        ∧ insertSiteMonitor db now siteId monitorType targetUrl fill fillKeeps
          = .ok (row, after)) := by
  unfold upsertSiteMonitor at done
  split at done
  · next stored found =>
      cases done
      exact .inl ⟨stored, List.mem_of_find?_eq_some found, List.find?_some found, rfl, rfl⟩
  · next absent => exact .inr ⟨List.find?_eq_none.mp absent, done⟩

/-- A row of a type and site is the one found under its id. -/
theorem find?_of_isAt {monitor : SiteMonitor} (stored : monitor ∈ db.siteMonitors.rows)
    (isAt : monitor.isAt monitorType siteId siteMonitorId = true)
    : db.siteMonitors.find? siteMonitorId = some monitor := by
  have sameId := isAt
  simp only [SiteMonitor.isAt, Bool.and_eq_true, decide_eq_true_eq] at sameId
  exact Table.find?_eq_some.mpr ⟨stored, sameId.1.1⟩

/-- An update by id finds no row, or sets the one that it finds if no other has the new target. -/
theorem updateSiteMonitorById_cases
    (done
      : updateSiteMonitorById monitorType db siteId siteMonitorId set setKeeps
        = .ok (result, after))
    : (result = none
        ∧ (∀ stored ∈ db.siteMonitors.rows,
            ¬stored.isAt monitorType siteId siteMonitorId = true)
        ∧ after = db)
      ∨ ∃ stored,
          db.siteMonitors.find? siteMonitorId = some stored
          ∧ stored.isAt monitorType siteId siteMonitorId = true
          ∧ result = some (set stored)
          ∧ (∀ other ∈ db.siteMonitors.rows,
              other.isTarget siteId monitorType (set stored).targetUrl = true
              → other.id = siteMonitorId)
          ∧ after
            = { db with
                siteMonitors :=
                  db.siteMonitors.update (·.isAt monitorType siteId siteMonitorId) set
                    fun monitor _ => setKeeps monitor } := by
  unfold updateSiteMonitorById at done
  split at done
  · next missing =>
      cases done
      refine .inl ⟨rfl, fun stored isStored isAt => ?_, rfl⟩
      rw [find?_of_isAt isStored isAt, Option.filter_some, if_pos isAt] at missing
      cases missing
  · next stored found =>
      obtain ⟨isFound, isAt⟩ := Option.filter_eq_some_iff.mp found
      split at done
      · cases done
      · next free =>
          cases done
          refine .inr ⟨stored, isFound, isAt, rfl, fun other isOther isTarget => ?_, rfl⟩
          by_contra different
          refine free (List.any_eq_true.mpr ⟨other, isOther, ?_⟩)
          exact Bool.and_eq_true_iff.mpr ⟨bne_iff_ne.mpr different, isTarget⟩

/-- An upsert on a site that exists succeeds, unless its row could clash with another's token. -/
theorem upsertSiteMonitor_done (siteExists : (db.sites.find? siteId).isSome = true)
    (noToken
      : (fill
            (.withDefaults now siteId monitorType targetUrl db.siteMonitors.nextId)).heartbeatToken
        = none)
    : ∃ row after,
        upsertSiteMonitor db now siteId monitorType targetUrl fill merge fillKeeps mergeKeeps
        = .ok (row, after) := by
  unfold upsertSiteMonitor
  split
  · exact ⟨_, _, rfl⟩
  · next absent =>
      have free : ¬db.siteMonitors.rows.any (·.isTarget siteId monitorType targetUrl) = true := by
        rw [List.any_eq_true]
        rintro ⟨stored, isStored, isTarget⟩
        exact List.find?_eq_none.mp absent stored isStored isTarget
      simp only [insertSiteMonitor]
      rw [if_neg (by simpa [← Option.isSome_iff_ne_none] using siteExists), if_neg free,
        if_neg (by simp [noToken])]
      exact ⟨_, _, rfl⟩

/-- An update of a stored monitor succeeds if no other one has the new target. -/
theorem updateSiteMonitorById_done {stored : SiteMonitor}
    (isStored : stored ∈ db.siteMonitors.rows)
    (isAt : stored.isAt monitorType siteId siteMonitorId = true)
    (free
      : ∀ other ∈ db.siteMonitors.rows,
          other.isTarget siteId monitorType (set stored).targetUrl = true
          → other.id = siteMonitorId)
    : ∃ after,
        updateSiteMonitorById monitorType db siteId siteMonitorId set setKeeps
        = .ok (some (set stored), after) := by
  have unclaimed
      : ¬(db.siteMonitors.rows.any fun other =>
          other.id != siteMonitorId
          && other.isTarget siteId monitorType (set stored).targetUrl) = true := by
    rw [List.any_eq_true]
    rintro ⟨other, isOther, differs⟩
    obtain ⟨notSame, isTarget⟩ := Bool.and_eq_true_iff.mp differs
    exact bne_iff_ne.mp notSame (free other isOther isTarget)
  unfold updateSiteMonitorById
  rw [find?_of_isAt isStored isAt, Option.filter_some, if_pos isAt]
  simp only
  rw [if_neg unclaimed]
  exact ⟨_, rfl⟩

theorem insertSiteMonitor_rows
    (done
      : insertSiteMonitor db now siteId monitorType targetUrl fill fillKeeps = .ok (row, after))
    : row = fill (.withDefaults now siteId monitorType targetUrl db.siteMonitors.nextId)
      ∧ after.siteMonitors.rows = db.siteMonitors.rows ++ [row] := by
  obtain ⟨rfl, _, rfl⟩ := insertSiteMonitor_ok done
  exact ⟨rfl, rfl⟩

/-- What an insert stores under each id. -/
theorem insertSiteMonitor_find?
    (done
      : insertSiteMonitor db now siteId monitorType targetUrl fill fillKeeps = .ok (row, after))
    (wanted : Int)
    : after.siteMonitors.find? wanted
      = if wanted = db.siteMonitors.nextId then some row else db.siteMonitors.find? wanted := by
  obtain ⟨rfl, _, rfl⟩ := insertSiteMonitor_ok done
  exact SerialTable.find?_insert _ _ _ wanted

/-- An update by id sets the row that is stored for its type and site, and leaves the others. -/
theorem updateSiteMonitorById_rows
    (done
      : updateSiteMonitorById monitorType db siteId siteMonitorId set setKeeps
        = .ok (result, after))
    : (∀ row,
        result = some row
        → ∃ stored ∈ db.siteMonitors.rows,
            stored.isAt monitorType siteId siteMonitorId = true ∧ row = set stored)
      ∧ after.siteMonitors.rows
        = db.siteMonitors.rows.map fun monitor =>
            if monitor.isAt monitorType siteId siteMonitorId then set monitor else monitor := by
  rcases updateSiteMonitorById_cases done with
    ⟨isNone, absent, isAfter⟩ | ⟨stored, found, isAt, isSome, _, isAfter⟩
  · subst isNone isAfter
    constructor
    · intro row returned
      cases returned
    · refine (List.map_id _).symm.trans (List.map_congr_left fun monitor isStored => ?_)
      split
      · next isAt => exact absurd isAt (absent monitor isStored)
      · rfl
  · subst isSome isAfter
    constructor
    · intro row returned
      obtain rfl := Option.some.inj returned
      exact ⟨stored, (Table.mem_of_find? found).1, isAt, rfl⟩
    · rfl

/-- The upserted row is a new one filled in, or a stored one merged. -/
theorem upsertSiteMonitor_row
    (done
      : upsertSiteMonitor db now siteId monitorType targetUrl fill merge fillKeeps mergeKeeps
        = .ok (row, after))
    : ∃ base, row = fill base ∨ row = merge base := by
  rcases upsertSiteMonitor_cases done with ⟨stored, _, _, isRow, _⟩ | ⟨_, inserted⟩
  · exact ⟨stored, .inr isRow⟩
  · exact ⟨_, .inl (insertSiteMonitor_ok inserted).1⟩

/-- The updated row has its columns set. -/
theorem updateSiteMonitorById_row
    (done
      : updateSiteMonitorById monitorType db siteId siteMonitorId set setKeeps
        = .ok (some row, after))
    : ∃ base, row = set base := by
  obtain ⟨stored, _, _, isRow⟩ := (updateSiteMonitorById_rows done).1 row rfl
  exact ⟨stored, isRow⟩

/-- An upsert fills in the defaults of its target, or merges the row that is stored for it. -/
theorem upsertSiteMonitor_source
    (done
      : upsertSiteMonitor db now siteId monitorType targetUrl fill merge fillKeeps mergeKeeps
        = .ok (row, after))
    : ((∃ id, row = fill (.withDefaults now siteId monitorType targetUrl id))
        ∨ ∃ stored ∈ db.siteMonitors.rows,
            stored.isTarget siteId monitorType targetUrl = true ∧ row = merge stored)
      ∧ ∀ monitor ∈ after.siteMonitors.rows, monitor ∈ db.siteMonitors.rows ∨ monitor = row := by
  rcases upsertSiteMonitor_cases done with ⟨stored, isStored, isTarget, rfl, rfl⟩ | ⟨_, inserted⟩
  · refine ⟨.inr ⟨stored, isStored, isTarget, rfl⟩, fun monitor member => ?_⟩
    obtain ⟨before, isBefore, rfl⟩ := List.mem_map.mp member
    split
    · rename_i isRow
      have same : before = stored := Table.eq_of_key_eq isBefore isStored (by simpa using isRow)
      exact .inr (congrArg merge same)
    · exact .inl isBefore
  · obtain ⟨isRow, appended⟩ := insertSiteMonitor_rows inserted
    refine ⟨.inl ⟨_, isRow⟩, fun monitor member => ?_⟩
    rw [appended] at member
    rcases List.mem_append.mp member with before | new
    · exact .inl before
    · exact .inr (List.mem_singleton.mp new)

/-- An update sets the columns of a row of its type. -/
theorem updateSiteMonitorById_source
    (done
      : updateSiteMonitorById monitorType db siteId siteMonitorId set setKeeps
        = .ok (some row, after))
    : (∃ stored ∈ db.siteMonitors.rows, stored.monitorType = monitorType ∧ row = set stored)
      ∧ ∀ monitor ∈ after.siteMonitors.rows, monitor ∈ db.siteMonitors.rows ∨ monitor = row := by
  obtain ⟨returns, rewritten⟩ := updateSiteMonitorById_rows done
  obtain ⟨stored, isStored, isAt, rfl⟩ := returns row rfl
  have isType := isAt
  simp only [SiteMonitor.isAt, Bool.and_eq_true, decide_eq_true_eq] at isType
  refine ⟨⟨stored, isStored, isType.2, rfl⟩, fun monitor member => ?_⟩
  rw [rewritten] at member
  obtain ⟨before, isBefore, rfl⟩ := List.mem_map.mp member
  split
  · rename_i isAtBefore
    have same : some before = some stored :=
      (find?_of_isAt isBefore isAtBefore).symm.trans (find?_of_isAt isStored isAt)
    exact .inr (congrArg set (Option.some.inj same))
  · exact .inl isBefore

end Statements

------------------------------------------------------------
-- HTTP monitors
------------------------------------------------------------

/-- The columns set by every HTTP statement. -/
def HttpMonitorParams.configure (params : HttpMonitorParams) (monitor : SiteMonitor)
    : SiteMonitor :=
  { monitor with
    checkIntervalSeconds := params.checkIntervalSeconds
    expectedStatusCode := params.expectedStatusCode
    bodyMustContain := params.bodyMustContain
    bodyMustNotContain := params.bodyMustNotContain
    bodyMustContainTexts := params.bodyMustContainTexts
    bodyMustNotContainTexts := params.bodyMustNotContainTexts
    jsonPathExists := params.jsonPathExists
    jsonPathEquals := params.jsonPathEquals
    jsonPathNotEquals := params.jsonPathNotEquals
    maxResponseTimeMs := params.maxResponseTimeMs
    requiredHeaderName := params.requiredHeaderName
    requiredHeaderValue := params.requiredHeaderValue
    headerAssertions := params.headerAssertions
    sslCertificateChecksEnabled := params.sslCertificateChecksEnabled
    sslExpiryWarningDays := params.sslExpiryWarningDays
    httpCheckTimeoutSecondsOverride := params.httpCheckTimeoutSecondsOverride
    httpCheckMaxAttemptsOverride := params.httpCheckMaxAttemptsOverride
    httpCheckRetryDelaysMsOverride := params.httpCheckRetryDelaysMsOverride
    isActive := params.isActive }

def upsertHttpMonitorBySiteIdAndTargetUrl (db : Database) (now : Timestamp) (siteId : Int)
    (params : HttpMonitorParams)
    : Except DatabaseError (SiteMonitor × Database) :=
  upsertSiteMonitor db now siteId .http params.targetUrl params.configure
    (fun monitor => { params.configure monitor with updatedAt := now })
    (fun _ => rfl) (fun _ => rfl)

def updateHttpSiteMonitorById (db : Database) (now : Timestamp) (siteId siteMonitorId : Int)
    (params : HttpMonitorParams)
    : Except DatabaseError (Option SiteMonitor × Database) :=
  updateSiteMonitorById .http db siteId siteMonitorId
    (fun monitor =>
      { params.configure monitor with targetUrl := params.targetUrl, updatedAt := now })
    fun _ => rfl

------------------------------------------------------------
-- SSL monitors
------------------------------------------------------------

/-- The columns set by every SSL statement. -/
def SslMonitorParams.configure (params : SslMonitorParams) (monitor : SiteMonitor)
    : SiteMonitor :=
  { monitor with
    checkIntervalSeconds := params.checkIntervalSeconds
    sslCertificateChecksEnabled := true
    sslExpiryWarningDays := params.sslExpiryWarningDays
    httpCheckTimeoutSecondsOverride := params.httpCheckTimeoutSecondsOverride
    httpCheckMaxAttemptsOverride := params.httpCheckMaxAttemptsOverride
    httpCheckRetryDelaysMsOverride := params.httpCheckRetryDelaysMsOverride
    isActive := params.isActive }

def upsertSslMonitorBySiteIdAndTargetUrl (db : Database) (now : Timestamp) (siteId : Int)
    (params : SslMonitorParams)
    : Except DatabaseError (SiteMonitor × Database) :=
  upsertSiteMonitor db now siteId .ssl params.targetUrl params.configure
    (fun monitor => { params.configure monitor with updatedAt := now })
    (fun _ => rfl) (fun _ => rfl)

-- Unlike the upsert, the update also clears the HTTP assertions.
def updateSslSiteMonitorById (db : Database) (now : Timestamp) (siteId siteMonitorId : Int)
    (params : SslMonitorParams)
    : Except DatabaseError (Option SiteMonitor × Database) :=
  updateSiteMonitorById .ssl db siteId siteMonitorId
    (fun monitor =>
      { params.configure monitor with
        targetUrl := params.targetUrl
        bodyMustContain := none
        bodyMustNotContain := none
        bodyMustContainTexts := none
        bodyMustNotContainTexts := none
        jsonPathExists := none
        jsonPathEquals := none
        jsonPathNotEquals := none
        maxResponseTimeMs := none
        requiredHeaderName := none
        requiredHeaderValue := none
        headerAssertions := none
        updatedAt := now })
    fun _ => rfl

------------------------------------------------------------
-- TCP monitors
------------------------------------------------------------

/-- `format!("tcp://{}:{}", …)`. -/
def TcpMonitorParams.targetUrl (params : TcpMonitorParams) : String :=
  "tcp://" ++ params.targetHost ++ ":" ++ toString params.targetPort

/-- The columns set by every TCP statement. -/
def TcpMonitorParams.configure (params : TcpMonitorParams) (monitor : SiteMonitor)
    : SiteMonitor :=
  { monitor with
    checkIntervalSeconds := params.checkIntervalSeconds
    maxResponseTimeMs := params.maxConnectTimeMs
    httpCheckTimeoutSecondsOverride := params.timeoutSecondsOverride
    httpCheckMaxAttemptsOverride := params.maxAttemptsOverride
    httpCheckRetryDelaysMsOverride := params.retryDelaysMsOverride
    isActive := params.isActive }

/-- The TCP columns together with the target, which an upsert does not overwrite. -/
def TcpMonitorParams.configureTarget (params : TcpMonitorParams) (monitor : SiteMonitor)
    : SiteMonitor :=
  { params.configure monitor with
    targetUrl := params.targetUrl
    tcpTargetHost := some params.targetHost
    tcpTargetPort := some params.targetPort }

/-- The TCP monitor of a site with a host and a port in its columns. -/
def SiteMonitor.isTcpTarget (siteId : Int) (tcpTargetHost : String) (tcpTargetPort : Int)
    (monitor : SiteMonitor)
    : Bool :=
  monitor.siteId = siteId && monitor.monitorType = .tcp
  && monitor.tcpTargetHost = some tcpTargetHost && monitor.tcpTargetPort = some tcpTargetPort

def getTcpMonitorBySiteIdAndHostPort (db : Database) (siteId : Int) (tcpTargetHost : String)
    (tcpTargetPort : Int)
    : Option SiteMonitor :=
  db.siteMonitors.rows.find? (·.isTcpTarget siteId tcpTargetHost tcpTargetPort)

def upsertTcpMonitorBySiteIdAndHostPort (db : Database) (now : Timestamp) (siteId : Int)
    (params : TcpMonitorParams)
    : Except DatabaseError (SiteMonitor × Database) :=
  upsertSiteMonitor db now siteId .tcp params.targetUrl params.configureTarget
    (fun monitor => { params.configure monitor with updatedAt := now })
    (fun _ => rfl) (fun _ => rfl)

def updateTcpSiteMonitorById (db : Database) (now : Timestamp) (siteId siteMonitorId : Int)
    (params : TcpMonitorParams)
    : Except DatabaseError (Option SiteMonitor × Database) :=
  updateSiteMonitorById .tcp db siteId siteMonitorId
    (fun monitor => { params.configureTarget monitor with updatedAt := now })
    fun _ => rfl

------------------------------------------------------------
-- DNS monitors
------------------------------------------------------------

/-- `format!("dns://{}/{}", …)`. -/
def DnsMonitorParams.targetUrl (params : DnsMonitorParams) : String :=
  "dns://" ++ params.hostname ++ "/" ++ params.recordType

/-- The columns set by every DNS statement. -/
def DnsMonitorParams.configure (params : DnsMonitorParams) (monitor : SiteMonitor)
    : SiteMonitor :=
  { monitor with
    dnsExpectedValue := params.expectedValue
    dnsNameserver := params.nameserver
    checkIntervalSeconds := params.checkIntervalSeconds
    httpCheckTimeoutSecondsOverride := params.timeoutSecondsOverride
    httpCheckMaxAttemptsOverride := params.maxAttemptsOverride
    httpCheckRetryDelaysMsOverride := params.retryDelaysMsOverride
    isActive := params.isActive }

/-- The DNS columns together with the target, which an upsert does not overwrite. -/
def DnsMonitorParams.configureTarget (params : DnsMonitorParams) (monitor : SiteMonitor)
    : SiteMonitor :=
  { params.configure monitor with
    targetUrl := params.targetUrl
    dnsHostname := some params.hostname
    dnsRecordType := some params.recordType }

/-- The DNS monitor of a site with a hostname and a record type in its columns. -/
def SiteMonitor.isDnsTarget (siteId : Int) (dnsHostname dnsRecordType : String)
    (monitor : SiteMonitor)
    : Bool :=
  monitor.siteId = siteId && monitor.monitorType = .dns
  && monitor.dnsHostname = some dnsHostname && monitor.dnsRecordType = some dnsRecordType

def getDnsMonitorBySiteIdAndHostnameRecordType (db : Database) (siteId : Int)
    (dnsHostname dnsRecordType : String)
    : Option SiteMonitor :=
  db.siteMonitors.rows.find? (·.isDnsTarget siteId dnsHostname dnsRecordType)

def upsertDnsMonitorBySiteIdAndHostnameRecordType (db : Database) (now : Timestamp)
    (siteId : Int) (params : DnsMonitorParams)
    : Except DatabaseError (SiteMonitor × Database) :=
  upsertSiteMonitor db now siteId .dns params.targetUrl params.configureTarget
    (fun monitor => { params.configure monitor with updatedAt := now })
    (fun _ => rfl) (fun _ => rfl)

def updateDnsSiteMonitorById (db : Database) (now : Timestamp) (siteId siteMonitorId : Int)
    (params : DnsMonitorParams)
    : Except DatabaseError (Option SiteMonitor × Database) :=
  updateSiteMonitorById .dns db siteId siteMonitorId
    (fun monitor => { params.configureTarget monitor with updatedAt := now })
    fun _ => rfl

------------------------------------------------------------
-- Heartbeat monitors
------------------------------------------------------------

-- A new heartbeat monitor counts as checked, so that its first due time is one interval away.
def createHeartbeatSiteMonitor (db : Database) (now : Timestamp) (siteId : Int)
    (params : HeartbeatMonitorParams)
    : Except DatabaseError (SiteMonitor × Database) :=
  insertSiteMonitor db now siteId .heartbeat params.targetUrl
    (fun monitor =>
      { monitor with
        checkIntervalSeconds := params.checkIntervalSeconds
        heartbeatToken := some params.heartbeatToken
        heartbeatGraceSeconds := params.heartbeatGraceSeconds
        isActive := params.isActive
        lastCheckedAt := some now })
    fun _ => rfl

def updateHeartbeatSiteMonitorById (db : Database) (now : Timestamp)
    (siteId siteMonitorId : Int) (params : HeartbeatMonitorUpdateParams)
    : Except DatabaseError (Option SiteMonitor × Database) :=
  updateSiteMonitorById .heartbeat db siteId siteMonitorId
    (fun monitor =>
      { monitor with
        checkIntervalSeconds := params.checkIntervalSeconds
        heartbeatGraceSeconds := params.heartbeatGraceSeconds
        isActive := params.isActive
        updatedAt := now })
    fun _ => rfl

/-- Stamps the ping time on the heartbeat monitor with a token. -/
def recordHeartbeatPing (db : Database) (now : Timestamp) (heartbeatToken : String)
    : Option SiteMonitor × Database :=
  let isPinged := fun monitor : SiteMonitor =>
    decide (monitor.monitorType = .heartbeat) && monitor.heartbeatToken = some heartbeatToken
  let set := fun monitor : SiteMonitor =>
    { monitor with lastHeartbeatReceivedAt := some now, updatedAt := now }
  ((db.siteMonitors.rows.find? isPinged).map set,
    { db with siteMonitors := db.siteMonitors.update isPinged set })

end AlonSentinel.Domain
