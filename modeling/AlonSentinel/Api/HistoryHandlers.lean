import AlonSentinel.Api.Pagination
import AlonSentinel.Domain.HistoryListings

/-! The handlers that list checks, incidents and deliveries page by page. A response is the rows
of the page, before they are printed, and the `x-next-cursor` header.
-/

namespace AlonSentinel.Api

open Domain
open KeyedTable

variable (chrono : Rfc3339) (db : Database)

def ensureSiteExists (siteId : Int) : Except ApiError Site :=
  match db.sites.find? siteId with
  | some site => .ok site
  | none => .error (.notFound "site not found")

inductive CheckOutcomeFilter where
  | success
  | failure
  deriving DecidableEq

def checkOutcomeToIsSuccess : Option CheckOutcomeFilter → Option Bool
  | some .success => some true
  | some .failure => some false
  | none => none

structure SiteChecksQuery where
  limit : Option Nat
  cursor : Option String
  outcome : Option CheckOutcomeFilter

def listSiteChecks (siteId : Int) (query : SiteChecksQuery)
    : Except ApiError (List SiteMonitorCheck × Option String) := do
  let _ ← ensureSiteExists db siteId
  let limit ← checksLimit query.limit
  let cursor ← parseCursor chrono query.cursor
  let checks :=
    listChecksBySiteId db siteId
      { cursorCheckedAt := cursor.map (·.timestamp)
        cursorId := cursor.map (·.id)
        isSuccess := checkOutcomeToIsSuccess query.outcome
        limit := pageFetchLimit limit }
  return paginateVecWithCursor checks limit fun check =>
    encodeCursor chrono ⟨check.checkedAt, check.id⟩

structure SiteIncidentsQuery where
  limit : Option Nat
  cursor : Option String
  status : Option SiteMonitorIncidentStatus

def listSiteIncidents (siteId : Int) (query : SiteIncidentsQuery)
    : Except ApiError (List SiteMonitorIncident × Option String) := do
  let _ ← ensureSiteExists db siteId
  let limit ← historyLimit query.limit
  let cursor ← parseCursor chrono query.cursor
  let incidents :=
    listIncidentsBySiteId db siteId
      { cursorOpenedAt := cursor.map (·.timestamp)
        cursorId := cursor.map (·.id)
        status := query.status
        limit := pageFetchLimit limit }
  return paginateVecWithCursor incidents limit fun incident =>
    encodeCursor chrono ⟨incident.openedAt, incident.id⟩

structure SiteNotificationDeliveriesQuery where
  limit : Option Nat
  cursor : Option String
  status : Option NotificationDeliveryStatus
  eventType : Option NotificationEventType

def listSiteNotificationDeliveries (siteId : Int) (query : SiteNotificationDeliveriesQuery)
    : Except ApiError (List SiteNotificationDelivery × Option String) := do
  let _ ← ensureSiteExists db siteId
  let limit ← historyLimit query.limit
  let cursor ← parseCursor chrono query.cursor
  let deliveries :=
    listDeliveriesBySiteId db siteId
      { cursorCreatedAt := cursor.map (·.timestamp)
        cursorId := cursor.map (·.id)
        status := query.status
        eventType := query.eventType
        limit := pageFetchLimit limit }
  return paginateVecWithCursor deliveries limit fun row =>
    encodeCursor chrono ⟨row.delivery.createdAt, row.delivery.id⟩

structure GlobalIncidentsQuery where
  limit : Option Nat
  cursor : Option String
  status : Option SiteMonitorIncidentStatus

def listGlobalIncidents (query : GlobalIncidentsQuery)
    : Except ApiError (List SiteMonitorIncidentWithSite × Option String) := do
  let limit ← historyLimit query.limit
  let cursor ← parseCursor chrono query.cursor
  let incidents :=
    Domain.listGlobalIncidents db (cursor.map (·.timestamp)) (cursor.map (·.id)) query.status
      (pageFetchLimit limit)
  return paginateVecWithCursor incidents limit fun row =>
    encodeCursor chrono ⟨row.incident.openedAt, row.incident.id⟩

end AlonSentinel.Api
