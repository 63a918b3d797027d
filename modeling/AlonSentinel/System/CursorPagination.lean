import AlonSentinel.Api.HistoryHandlers
import AlonSentinel.Foundation.CursorPaging
import AlonSentinel.System.World
import Mathlib.Data.Prod.Lex

/-! Following `x-next-cursor` through the listings of checks, incidents and deliveries. Rows are
ordered by timestamp and then by id; a cursor text stands for such a pair.
-/

namespace AlonSentinel.System

open Api
open CursorPaging
open Domain
open IntegerText
open KeyedTable

section Listing

variable {Row : Type} {rows : List Row} {stamp : Row → Timestamp} {id : Row → Int}
variable {condition : Row → Bool} {chrono : Rfc3339} {limit : Nat}

/-- What a listing is ordered by: the timestamp, and between equal timestamps the id. -/
def stampKey (stamp : Row → Timestamp) (id : Row → Int) (row : Row) : Timestamp ×ₗ Int :=
  toLex (stamp row, id row)

/-- The SQL condition on a cursor: rows below it. -/
theorem isBehindCursor_iff {token : CursorToken} {row : Row}
    : isBehindCursor (some token.timestamp) (some token.id) (stamp row) (id row) = true
      ↔ stampKey stamp id row < toLex (token.timestamp, token.id) := by
  rw [stampKey, Prod.Lex.toLex_lt_toLex]
  simp [isBehindCursor]

/-- Without its limit, a listing shows the rows that meet its condition behind the cursor. -/
theorem shows_listNewest (stamp : Row → Timestamp) (condition : Row → Bool)
    (idsNodup : (rows.map id).Nodup) (cursor : Option CursorToken) (fetched : Nat)
    : ∃ shown,
        listNewest rows stamp id condition (cursor.map (·.timestamp)) (cursor.map (·.id)) fetched
          = shown.take fetched
        ∧ Shows (stampKey stamp id) rows
            (fun row =>
              condition row = true
              ∧ ∀ token ∈ cursor, stampKey stamp id row < toLex (token.timestamp, token.id))
            shown := by
  have keysNodup : (rows.map (stampKey stamp id)).Nodup := by
    refine List.Nodup.of_map (fun key => (ofLex key).2) ?_
    rw [List.map_map]
    exact idsNodup
  have descending (first second : Row)
      : stamp second < stamp first ∨ (stamp second = stamp first ∧ id second ≤ id first)
        ↔ stampKey stamp id second ≤ stampKey stamp id first := by
    rw [stampKey, stampKey, Prod.Lex.toLex_le_toLex]
  have sorted := shows_insertionSort keysNodup
    (fun first second =>
      stamp second < stamp first ∨ (stamp second = stamp first ∧ id second ≤ id first))
    descending
    fun row =>
      condition row
      && isBehindCursor (cursor.map (·.timestamp)) (cursor.map (·.id)) (stamp row) (id row)
  refine ⟨_, rfl, sorted.congr fun row _ => ?_⟩
  rw [Bool.and_eq_true]
  refine and_congr_right fun _ => ?_
  cases cursor with
  | none => simp [isBehindCursor]
  | some token =>
      rw [Option.map_some, Option.map_some, isBehindCursor_iff]
      simp

/-- Following the cursors of a handler that lists the newest rows behind its cursor shows all of
them: after a page, the rows behind its cursor are exactly those not yet shown.
-/
theorem follow_listNewest (lawful : chrono.Lawful) (positive : 0 < limit)
    (inRange : limit < 18446744073709551615) (idsNodup : (rows.map id).Nodup)
    (printable : ∀ row ∈ rows, InYears0To9999 (stamp row) ∧ IsI64 (id row))
    {request : Option String → Except ApiError (List Row × Option String)}
    (answers
      : ∀ cursor token,
          parseCursor chrono cursor = .ok token
          → request cursor
            = .ok
                (paginateVecWithCursor
                  (listNewest rows stamp id condition (token.map (·.timestamp))
                    (token.map (·.id)) (pageFetchLimit limit))
                  limit fun row => encodeCursor chrono ⟨stamp row, id row⟩))
    : ∃ shown,
        Shows (stampKey stamp id) rows (condition · = true) shown
        ∧ ∀ fuel,
            rows.length < fuel
            → follow (fun cursor => (request cursor).toOption) fuel none = some shown := by
  obtain ⟨shown, _, all⟩ := shows_listNewest stamp condition idsNodup none 0
  refine ⟨shown, all.congr fun row _ => by simp, fun fuel enough => ?_⟩
  refine follow_eq (fun row => encodeCursor chrono ⟨stamp row, id row⟩)
    (fun cursor rest =>
      ∃ token,
        parseCursor chrono cursor = .ok token
        ∧ Shows (stampKey stamp id) rows
            (fun row =>
              condition row = true
              ∧ ∀ behind ∈ token, stampKey stamp id row < toLex (behind.timestamp, behind.id))
            rest)
    positive ?_ ?_ ⟨none, rfl, all⟩ (all.length_le.trans_lt enough)
  · rintro cursor rest ⟨token, read, left⟩
    obtain ⟨sorted, fetched, shows⟩ :=
      shows_listNewest stamp condition idsNodup token (pageFetchLimit limit)
    have oneMore : pageFetchLimit limit = limit + 1 := by
      unfold pageFetchLimit
      omega
    have page := answers cursor token read
    rw [fetched, shows.unique left, paginateVecWithCursor_take positive oneMore] at page
    simp only [page, Except.toOption, firstPage]
  · rintro cursor front last rest ⟨token, read, left⟩
    have inRows := (left.exactly last).mp (by simp)
    obtain ⟨years, i64⟩ := printable last inRows.1
    refine ⟨some ⟨stamp last, id last⟩, parseCursor_encodeCursor lawful years i64, ?_⟩
    refine left.after.congr fun row _ => ?_
    simp only [Option.mem_some_iff, forall_eq']
    constructor
    · rintro ⟨met, below⟩
      exact ⟨⟨met, fun behind member => below.trans (inRows.2.2 behind member)⟩, below⟩
    · rintro ⟨⟨met, _⟩, below⟩
      exact ⟨met, below⟩

/-- Requests without a cursor and then with the cursor of the response before, until a response
has none; `none` if a request fails or that takes more than `fuel` requests.
-/
def followNextCursor (request : Option String → Except ApiError (List Row × Option String))
    (fuel : Nat)
    : Option (List Row) :=
  follow (fun cursor => (request cursor).toOption) fuel none

/-- Following the cursors ends, and shows exactly the rows that meet a condition, each once, in
descending order of timestamp and then of id.
-/
def EnumeratesExactly (request : Option String → Except ApiError (List Row × Option String))
    (rows : List Row) (meets : Row → Prop) (stamp : Row → Timestamp) (id : Row → Int)
    : Prop :=
  ∃ shown,
    Shows (stampKey stamp id) rows meets shown
    ∧ ∀ fuel, rows.length < fuel → followNextCursor request fuel = some shown

/-- Timestamps and ids that a cursor can carry. -/
def Printable (rows : List Row) (stamp : Row → Timestamp) (id : Row → Int) : Prop :=
  ∀ row ∈ rows, InYears0To9999 (stamp row) ∧ IsI64 (id row)

end Listing

/-- What the cursors of the listings promise. -/
structure CursorPagination (chrono : Rfc3339) : Prop where
  codec
    : ∀ token,
        InYears0To9999 token.timestamp
        → IsI64 token.id
        → parseCursor chrono (some (encodeCursor chrono token)) = .ok (some token)
  checks
    : ∀ db siteId limit outcome,
        (db.sites.find? siteId).isSome = true
        → (checksLimit limit).isOk = true
        → Printable db.siteMonitorChecks.rows SiteMonitorCheck.checkedAt SiteMonitorCheck.id
        → EnumeratesExactly
            (fun cursor => listSiteChecks chrono db siteId { limit, cursor, outcome })
            db.siteMonitorChecks.rows
            (·.isListed db siteId (checkOutcomeToIsSuccess outcome) = true)
            SiteMonitorCheck.checkedAt SiteMonitorCheck.id
  incidents
    : ∀ db siteId limit status,
        (db.sites.find? siteId).isSome = true
        → (historyLimit limit).isOk = true
        → Printable db.siteMonitorIncidents.rows SiteMonitorIncident.openedAt
            SiteMonitorIncident.id
        → EnumeratesExactly
            (fun cursor => listSiteIncidents chrono db siteId { limit, cursor, status })
            db.siteMonitorIncidents.rows (·.isListed siteId status = true)
            SiteMonitorIncident.openedAt SiteMonitorIncident.id
  deliveries
    : ∀ db siteId limit status eventType,
        (db.sites.find? siteId).isSome = true
        → (historyLimit limit).isOk = true
        → Printable db.notificationDeliveries.rows NotificationDelivery.createdAt
            NotificationDelivery.id
        → EnumeratesExactly
            (fun cursor =>
              listSiteNotificationDeliveries chrono db siteId { limit, cursor, status, eventType })
            (db.notificationDeliveries.rows.filterMap (·.onSite db siteId))
            (·.isListed status eventType = true) (·.delivery.createdAt) (·.delivery.id)
  globalIncidents
    : ∀ db limit status,
        (historyLimit limit).isOk = true
        → Printable db.siteMonitorIncidents.rows SiteMonitorIncident.openedAt
            SiteMonitorIncident.id
        → EnumeratesExactly
            (fun cursor => Api.listGlobalIncidents chrono db { limit, cursor, status })
            (db.siteMonitorIncidents.rows.filterMap (·.withSite db))
            (fun row => status.all (row.incident.status = ·) = true) (·.incident.openedAt)
            (·.incident.id)

section Handlers

variable {chrono : Rfc3339} {db : Database} {siteId : Int} {limit : Option Nat}

/-- An accepted limit, with what the pages need of it. -/
theorem accepted_limit {default max : Nat} {fieldName : String} (small : max ≤ 2000)
    (accepted : (boundedLimit limit default max fieldName).isOk = true)
    : ∃ size,
        boundedLimit limit default max fieldName = .ok size
        ∧ 0 < size
        ∧ size < 18446744073709551615 := by
  cases bounded : boundedLimit limit default max fieldName with
  | error failure =>
      rw [bounded] at accepted
      cases accepted
  | ok size =>
      obtain ⟨positive, atMost⟩ := boundedLimit_ok bounded
      exact ⟨size, rfl, positive, by omega⟩

theorem ensureSiteExists_ok (exists_ : (db.sites.find? siteId).isSome = true)
    : ∃ site, ensureSiteExists db siteId = .ok site := by
  obtain ⟨site, found⟩ := Option.isSome_iff_exists.mp exists_
  exact ⟨site, by rw [ensureSiteExists, found]⟩

theorem listSiteChecks_enumerates (lawful : chrono.Lawful) {outcome : Option CheckOutcomeFilter}
    (known : (db.sites.find? siteId).isSome = true) (accepted : (checksLimit limit).isOk = true)
    (printable
      : Printable db.siteMonitorChecks.rows SiteMonitorCheck.checkedAt SiteMonitorCheck.id)
    : EnumeratesExactly
        (fun cursor => listSiteChecks chrono db siteId { limit, cursor, outcome })
        db.siteMonitorChecks.rows
        (·.isListed db siteId (checkOutcomeToIsSuccess outcome) = true)
        SiteMonitorCheck.checkedAt SiteMonitorCheck.id := by
  obtain ⟨size, bounded, positive, inRange⟩ := accepted_limit (by decide) accepted
  obtain ⟨site, found⟩ := ensureSiteExists_ok known
  refine follow_listNewest lawful positive inRange db.siteMonitorChecks.keysNodup printable ?_
  intro cursor token read
  simp only [listSiteChecks, found, checksLimit, bounded, read]
  rfl

theorem listSiteIncidents_enumerates (lawful : chrono.Lawful)
    {status : Option SiteMonitorIncidentStatus}
    (known : (db.sites.find? siteId).isSome = true) (accepted : (historyLimit limit).isOk = true)
    (printable
      : Printable db.siteMonitorIncidents.rows SiteMonitorIncident.openedAt
          SiteMonitorIncident.id)
    : EnumeratesExactly
        (fun cursor => listSiteIncidents chrono db siteId { limit, cursor, status })
        db.siteMonitorIncidents.rows (·.isListed siteId status = true)
        SiteMonitorIncident.openedAt SiteMonitorIncident.id := by
  obtain ⟨size, bounded, positive, inRange⟩ := accepted_limit (by decide) accepted
  obtain ⟨site, found⟩ := ensureSiteExists_ok known
  refine follow_listNewest lawful positive inRange db.siteMonitorIncidents.keysNodup printable ?_
  intro cursor token read
  simp only [listSiteIncidents, found, historyLimit, bounded, read]
  rfl

/-- A join that keeps the row keeps what a cursor carries of it. -/
theorem Printable.joined {Row Joined : Type} {rows : List Row} {stamp : Row → Timestamp}
    {id : Row → Int} (printable : Printable rows stamp id) {join : Row → Option Joined}
    {source : Joined → Row} (keeps : ∀ row joined, join row = some joined → source joined = row)
    : Printable (rows.filterMap join) (stamp ∘ source) (id ∘ source) := by
  intro joined member
  obtain ⟨row, stored, isJoined⟩ := List.mem_filterMap.mp member
  have same := keeps row joined isJoined
  subst same
  exact printable _ stored

theorem listSiteNotificationDeliveries_enumerates (lawful : chrono.Lawful)
    {status : Option NotificationDeliveryStatus} {eventType : Option NotificationEventType}
    (known : (db.sites.find? siteId).isSome = true) (accepted : (historyLimit limit).isOk = true)
    (printable
      : Printable db.notificationDeliveries.rows NotificationDelivery.createdAt
          NotificationDelivery.id)
    : EnumeratesExactly
        (fun cursor =>
          listSiteNotificationDeliveries chrono db siteId { limit, cursor, status, eventType })
        (db.notificationDeliveries.rows.filterMap (·.onSite db siteId))
        (·.isListed status eventType = true) (·.delivery.createdAt) (·.delivery.id) := by
  obtain ⟨size, bounded, positive, inRange⟩ := accepted_limit (by decide) accepted
  obtain ⟨site, found⟩ := ensureSiteExists_ok known
  have keeps (delivery : NotificationDelivery) (row : SiteNotificationDelivery)
      (joined : delivery.onSite db siteId = some row)
      : row.delivery = delivery := by
    unfold NotificationDelivery.onSite at joined
    split at joined
    · obtain ⟨_, _, rfl⟩ := Option.map_eq_some_iff.mp joined
      rfl
    · cases joined
  have ids : ((db.notificationDeliveries.rows.filterMap (·.onSite db siteId)).map
        fun row => row.delivery.id).Sublist (db.notificationDeliveries.rows.map (·.id)) :=
    Table.collected_keys_sublist db.notificationDeliveries.rows (·.onSite db siteId)
      fun delivery row joined => congrArg NotificationDelivery.id (keeps delivery row joined)
  have idsNodup := ids.nodup db.notificationDeliveries.keysNodup
  refine follow_listNewest lawful positive inRange idsNodup (printable.joined keeps) ?_
  intro cursor token read
  simp only [listSiteNotificationDeliveries, found, historyLimit, bounded, read]
  rfl

theorem listGlobalIncidents_enumerates (lawful : chrono.Lawful)
    {status : Option SiteMonitorIncidentStatus} (accepted : (historyLimit limit).isOk = true)
    (printable
      : Printable db.siteMonitorIncidents.rows SiteMonitorIncident.openedAt
          SiteMonitorIncident.id)
    : EnumeratesExactly
        (fun cursor => Api.listGlobalIncidents chrono db { limit, cursor, status })
        (db.siteMonitorIncidents.rows.filterMap (·.withSite db))
        (fun row => status.all (row.incident.status = ·) = true) (·.incident.openedAt)
        (·.incident.id) := by
  obtain ⟨size, bounded, positive, inRange⟩ := accepted_limit (by decide) accepted
  have keeps (incident : SiteMonitorIncident) (row : SiteMonitorIncidentWithSite)
      (joined : incident.withSite db = some row)
      : row.incident = incident := by
    obtain ⟨_, _, rfl⟩ := Option.map_eq_some_iff.mp joined
    rfl
  have ids : ((db.siteMonitorIncidents.rows.filterMap (·.withSite db)).map
        fun row => row.incident.id).Sublist (db.siteMonitorIncidents.rows.map (·.id)) :=
    Table.collected_keys_sublist db.siteMonitorIncidents.rows (·.withSite db)
      fun incident row joined => congrArg SiteMonitorIncident.id (keeps incident row joined)
  have idsNodup := ids.nodup db.siteMonitorIncidents.keysNodup
  refine follow_listNewest lawful positive inRange idsNodup (printable.joined keeps) ?_
  intro cursor token read
  simp only [Api.listGlobalIncidents, historyLimit, bounded, read]
  rfl

end Handlers

/-- Following the cursors of a listing enumerates it exactly. -/
theorem cursorPagination {chrono : Rfc3339} (lawful : chrono.Lawful) : CursorPagination chrono where
  codec := fun _ years i64 => parseCursor_encodeCursor lawful years i64
  checks := fun _ _ _ _ known accepted printable =>
    listSiteChecks_enumerates lawful known accepted printable
  incidents := fun _ _ _ _ known accepted printable =>
    listSiteIncidents_enumerates lawful known accepted printable
  deliveries := fun _ _ _ _ _ known accepted printable =>
    listSiteNotificationDeliveries_enumerates lawful known accepted printable
  globalIncidents := fun _ _ _ accepted printable =>
    listGlobalIncidents_enumerates lawful accepted printable

/-- Prints the two instants of the small history as `chrono` does, and any other one as its number
of microseconds.
-/
def smallChrono : Rfc3339 where
  toRfc3339 := fun instant =>
    if instant = 0 then "1970-01-01T00:00:00+00:00"
    else if instant = 1000000 then "1970-01-01T00:00:01+00:00"
    else toString instant
  parseFromRfc3339 := fun text =>
    if text = "1970-01-01T00:00:00+00:00" then some 0
    else if text = "1970-01-01T00:00:01+00:00" then some 1000000
    else readInt (-62167219200000000) 253402300800000000 text

/-- A decimal number has no comma. -/
theorem comma_not_mem_toString (value : Int) : ',' ∉ (toString value).toList := by
  have digits (magnitude : Nat) : ',' ∉ Nat.toDigits 10 magnitude := fun member => by
    have digit : Char.isDigit ',' = true :=
      Nat.isDigit_of_mem_toDigits (by decide) (by decide) member
    revert digit
    decide
  cases value with
  | ofNat magnitude =>
      show ',' ∉ (Nat.repr magnitude).toList
      rw [Nat.toList_repr]
      exact digits magnitude
  | negSucc predecessor =>
      show ',' ∉ ("-" ++ Nat.repr (predecessor + 1)).toList
      rw [String.toList_append, Nat.toList_repr, List.mem_append, not_or]
      exact ⟨by decide, digits (predecessor + 1)⟩

theorem smallChrono_lawful : smallChrono.Lawful where
  inverse := by
    intro instant ⟨after, before⟩
    have read : readInt (-62167219200000000) 253402300800000000 (toString instant) = some instant :=
      readInt_toString after before.le
    simp only [smallChrono]
    split
    · rename_i zero
      rw [zero]
      rfl
    · split
      · rename_i one
        rw [one]
        rfl
      · have notPrinted (text : String)
            (unread : readInt (-62167219200000000) 253402300800000000 text = none)
            : toString instant ≠ text := by
          intro same
          rw [same, unread] at read
          cases read
        rw [if_neg (notPrinted _ (by decide +kernel)), if_neg (notPrinted _ (by decide +kernel)),
          read]
  noComma := by
    intro instant _
    simp only [smallChrono]
    split
    · decide
    · split
      · decide
      · exact comma_not_mem_toString instant

/-- A check of the one monitor, with the columns that listings look at. -/
def smallCheck (checkedAt : Timestamp) (isSuccess : Bool) (id : Int) : SiteMonitorCheck :=
  CreateMonitorCheckParams.row
    { monitorType := .http, urlChecked := "https://shop.test", expectedStatusCode := some 200
      isSuccess, statusCode := none, responseTimeMs := none, totalDurationMs := none
      attemptCount := 1, wasRetried := false, failureReason := none, errorMessage := none
      certificateExpiresAt := none, certificateDaysRemaining := none, certificateIssuer := none
      certificateSubject := none, certificateDomain := none }
    checkedAt 1 id

/-- Four checks, three of them at one instant; the page size divides their number. -/
def smallHistory : Database :=
  { smallDatabase with
    siteMonitorChecks :=
      (((SerialTable.empty.insert (smallCheck 1000000 true)).insert
        (smallCheck 1000000 false)).insert (smallCheck 1000000 true)).insert (smallCheck 0 true) }

theorem smallHistory_printable
    : Printable smallHistory.siteMonitorChecks.rows SiteMonitorCheck.checkedAt
        SiteMonitorCheck.id := by
  unfold Printable InYears0To9999 IsI64
  decide +kernel

/-- Two pages of two checks, and all of the same instant in the order of their ids. -/
theorem cursorPagination_smallHistory
    : (followNextCursor
          (fun cursor =>
            listSiteChecks smallChrono smallHistory 1
              { limit := some 2, cursor, outcome := none }) 5).map
        (·.map (·.id))
      = some [3, 2, 1, 4]
      ∧ EnumeratesExactly
          (fun cursor =>
            listSiteChecks smallChrono smallHistory 1
              { limit := some 2, cursor, outcome := none })
          smallHistory.siteMonitorChecks.rows
          (·.isListed smallHistory 1 (checkOutcomeToIsSuccess none) = true)
          SiteMonitorCheck.checkedAt SiteMonitorCheck.id :=
  ⟨by decide +kernel,
    (cursorPagination smallChrono_lawful).checks smallHistory 1 (some 2) none rfl rfl
      smallHistory_printable⟩

end AlonSentinel.System
