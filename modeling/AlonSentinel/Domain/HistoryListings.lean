import AlonSentinel.Domain.Models

/-! The statements that list checks, incidents and deliveries, newest first, from a cursor on. -/

namespace AlonSentinel.Domain

open KeyedTable

/-- `$2 IS NULL OR stamp < $2 OR (stamp = $2 AND id < $3)`. -/
def isBehindCursor (cursorStamp : Option Timestamp) (cursorId : Option Int) (stamp : Timestamp)
    (id : Int)
    : Bool :=
  match cursorStamp with
  | none => true
  | some cursorStamp =>
      stamp < cursorStamp || (stamp = cursorStamp && cursorId.any (id < ·))

/-- `SELECT … ORDER BY stamp DESC, id DESC LIMIT limit`, from a cursor on. -/
def listNewest {Row : Type} (rows : List Row) (stamp : Row → Timestamp) (id : Row → Int)
    (condition : Row → Bool) (cursorStamp : Option Timestamp) (cursorId : Option Int)
    (limit : Nat)
    : List Row :=
  let selected :=
    rows.filter fun row => condition row && isBehindCursor cursorStamp cursorId (stamp row) (id row)
  (selected.insertionSort fun first second =>
    stamp second < stamp first ∨ (stamp second = stamp first ∧ id second ≤ id first)).take limit

structure CheckCursorQuery where
  cursorCheckedAt : Option Timestamp
  cursorId : Option Int
  isSuccess : Option Bool
  limit : Nat

/-- The site and outcome a listing of checks asks for. -/
def SiteMonitorCheck.isListed (db : Database) (siteId : Int) (isSuccess : Option Bool)
    (check : SiteMonitorCheck)
    : Bool :=
  (db.siteMonitors.find? check.siteMonitorId).any
    (fun monitor => monitor.siteId = siteId && (db.sites.find? monitor.siteId).isSome)
  && isSuccess.all (check.isSuccess = ·)

def listChecksBySiteId (db : Database) (siteId : Int) (query : CheckCursorQuery)
    : List SiteMonitorCheck :=
  listNewest db.siteMonitorChecks.rows SiteMonitorCheck.checkedAt SiteMonitorCheck.id
    (·.isListed db siteId query.isSuccess) query.cursorCheckedAt query.cursorId query.limit

structure IncidentCursorQuery where
  cursorOpenedAt : Option Timestamp
  cursorId : Option Int
  status : Option SiteMonitorIncidentStatus
  limit : Nat

/-- The site and status a listing of incidents asks for. -/
def SiteMonitorIncident.isListed (siteId : Int) (status : Option SiteMonitorIncidentStatus)
    (incident : SiteMonitorIncident)
    : Bool :=
  incident.siteId = siteId && status.all (incident.status = ·)

def listIncidentsBySiteId (db : Database) (siteId : Int) (query : IncidentCursorQuery)
    : List SiteMonitorIncident :=
  listNewest db.siteMonitorIncidents.rows SiteMonitorIncident.openedAt SiteMonitorIncident.id
    (·.isListed siteId query.status) query.cursorOpenedAt query.cursorId query.limit

/-- An incident joined with its site. -/
structure SiteMonitorIncidentWithSite where
  incident : SiteMonitorIncident
  siteName : String
  siteBaseUrl : String

def SiteMonitorIncident.withSite (db : Database) (incident : SiteMonitorIncident)
    : Option SiteMonitorIncidentWithSite :=
  (db.sites.find? incident.siteId).map fun site =>
    { incident, siteName := site.name, siteBaseUrl := site.baseUrl }

def listGlobalIncidents (db : Database) (cursorOpenedAt : Option Timestamp)
    (cursorId : Option Int) (status : Option SiteMonitorIncidentStatus) (limit : Nat)
    : List SiteMonitorIncidentWithSite :=
  listNewest (db.siteMonitorIncidents.rows.filterMap (·.withSite db))
    (·.incident.openedAt) (·.incident.id) (fun row => status.all (row.incident.status = ·))
    cursorOpenedAt cursorId limit

/-- A delivery joined with its channel. -/
structure SiteNotificationDelivery where
  delivery : NotificationDelivery
  channelType : NotificationChannelType
  channelName : String
  destination : String

structure DeliveryCursorQuery where
  cursorCreatedAt : Option Timestamp
  cursorId : Option Int
  status : Option NotificationDeliveryStatus
  eventType : Option NotificationEventType
  limit : Nat

/-- The join of a delivery with its channel, where its monitor belongs to the site. -/
def NotificationDelivery.onSite (db : Database) (siteId : Int) (delivery : NotificationDelivery)
    : Option SiteNotificationDelivery :=
  if (db.siteMonitors.find? delivery.siteMonitorId).any
      (fun monitor => monitor.siteId = siteId && (db.sites.find? monitor.siteId).isSome)
  then
    (db.notificationChannels.find? delivery.notificationChannelId).map fun channel =>
      { delivery
        channelType := channel.channelType
        channelName := channel.name
        destination := channel.destination }
  else
    none

/-- The status and event a listing of deliveries asks for. -/
def SiteNotificationDelivery.isListed (status : Option NotificationDeliveryStatus)
    (eventType : Option NotificationEventType) (row : SiteNotificationDelivery)
    : Bool :=
  status.all (row.delivery.status = ·) && eventType.all (row.delivery.eventType = ·)

def listDeliveriesBySiteId (db : Database) (siteId : Int) (query : DeliveryCursorQuery)
    : List SiteNotificationDelivery :=
  listNewest (db.notificationDeliveries.rows.filterMap (·.onSite db siteId))
    (·.delivery.createdAt) (·.delivery.id) (·.isListed query.status query.eventType)
    query.cursorCreatedAt query.cursorId query.limit

end AlonSentinel.Domain
