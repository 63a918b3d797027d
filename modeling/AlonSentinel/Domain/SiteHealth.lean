import AlonSentinel.Domain.Models
import AlonSentinel.Foundation.NullableAggregates
import Mathlib.Data.List.Dedup

/-! The statements that tell the state of sites: the listing of sites, their monitors by type, and
the aggregates over the monitors and open incidents of a site.
-/

namespace AlonSentinel.Domain

open KeyedTable
open NullableAggregates

/-- `list_sites`; `ilike` is the pattern match of the database. -/
def listSites (ilike : String → String → Bool) (db : Database) (query : Option String)
    (limit : Nat) (cursorId : Option Int)
    : List Site :=
  let matched (site : Site) (query : String) : Bool :=
    let pattern := "%" ++ query ++ "%"
    ilike site.name pattern || ilike site.baseUrl pattern || ilike (toString site.id) pattern
  let selected :=
    db.sites.rows.filter fun site => query.all (matched site) && cursorId.all (· < site.id)
  (selected.insertionSort fun first second => first.id ≤ second.id).take limit

/-- The monitors of one type on a site that exists, in the order of their ids. -/
def listMonitorsBySiteId (monitorType : SiteMonitorType) (db : Database) (siteId : Int)
    : List SiteMonitor :=
  let selected :=
    db.siteMonitors.rows.filter fun monitor =>
      monitor.siteId = siteId && monitor.monitorType = monitorType
      && (db.sites.find? monitor.siteId).isSome
  selected.insertionSort fun first second => first.id ≤ second.id

def listHttpMonitorsBySiteId := listMonitorsBySiteId .http
def listSslMonitorsBySiteId := listMonitorsBySiteId .ssl
def listHeartbeatMonitorsBySiteId := listMonitorsBySiteId .heartbeat

/-- One group of an aggregate by site. -/
structure HttpMonitorState where
  siteId : Int
  hasActiveMonitor : Bool

structure SiteHealthState where
  siteId : Int
  hasActiveMonitor : Bool
  anyFailing : Option Bool
  anySucceeding : Option Bool

/-- `BOOL_OR(is_active)` over a group, which has a row. -/
def hasActiveMonitor (group : List SiteMonitor) : Bool :=
  boolOr (group.map fun monitor => some monitor.isActive) = some true

/-- The aggregates over the monitors of one site; `last_is_success` may be `NULL`. -/
def SiteHealthState.of (siteId : Int) (group : List SiteMonitor) : SiteHealthState where
  siteId := siteId
  hasActiveMonitor := Domain.hasActiveMonitor group
  anyFailing :=
    boolOr ((group.filter (·.isActive)).map fun monitor => monitor.lastIsSuccess.map (· == false))
  anySucceeding :=
    boolOr ((group.filter (·.isActive)).map fun monitor => monitor.lastIsSuccess.map (· == true))

/-- `GROUP BY site_id`: one result for each site with a row. -/
def groupBySite {Group : Type} (monitors : List SiteMonitor)
    (aggregate : Int → List SiteMonitor → Group)
    : List Group :=
  (monitors.map (·.siteId)).dedup.map fun siteId =>
    aggregate siteId (monitors.filter (·.siteId = siteId))

def listHttpMonitorStates (db : Database) : List HttpMonitorState :=
  groupBySite (db.siteMonitors.rows.filter (·.monitorType = .http)) fun siteId group =>
    { siteId, hasActiveMonitor := hasActiveMonitor group }

def listSiteHealthStates (db : Database) : List SiteHealthState :=
  groupBySite db.siteMonitors.rows SiteHealthState.of

def getSiteHealthStateById (db : Database) (siteId : Int) : Option SiteHealthState :=
  (groupBySite (db.siteMonitors.rows.filter (·.siteId = siteId)) SiteHealthState.of).head?

def hasOpenIncidentForSite (db : Database) (siteId : Int) : Bool :=
  db.siteMonitorIncidents.rows.any fun incident => incident.siteId = siteId && incident.isOpen

def getSiteIdsWithOpenIncidents (db : Database) : List Int :=
  ((db.siteMonitorIncidents.rows.filter (·.isOpen)).map (·.siteId)).dedup

/-- The group of a site is found under its id, if the site has a row. -/
theorem find?_groupBySite {Group : Type} {monitors : List SiteMonitor}
    {aggregate : Int → List SiteMonitor → Group} {siteOf : Group → Int}
    (keyed : ∀ siteId group, siteOf (aggregate siteId group) = siteId) (siteId : Int)
    : (groupBySite monitors aggregate).find? (fun group => siteOf group = siteId)
      = if siteId ∈ monitors.map (·.siteId) then
          some (aggregate siteId (monitors.filter (·.siteId = siteId)))
        else none := by
  rw [groupBySite, List.find?_map]
  have sameSite (other : Int)
      : ((fun group => decide (siteOf group = siteId)) ∘ fun other =>
          aggregate other (monitors.filter (·.siteId = other))) other
        = decide (other = siteId) := by
    simp only [Function.comp_apply, keyed]
  simp only [funext sameSite]
  by_cases member : siteId ∈ monitors.map (·.siteId)
  · have found : (monitors.map (·.siteId)).dedup.find? (fun other => decide (other = siteId))
        = some siteId := by
      have isSome
          : ((monitors.map (·.siteId)).dedup.find? fun other => decide (other = siteId)).isSome :=
        List.find?_isSome.mpr ⟨siteId, List.mem_dedup.mpr member, decide_eq_true_eq.mpr rfl⟩
      obtain ⟨other, found⟩ := Option.isSome_iff_exists.mp isSome
      have same : other = siteId := by simpa using List.find?_some found
      rw [found, same]
    rw [if_pos member, found, Option.map_some]
  · have missing : (monitors.map (·.siteId)).dedup.find? (fun other => decide (other = siteId))
        = none := by
      refine List.find?_eq_none.mpr fun other stored same => member ?_
      exact of_decide_eq_true same ▸ List.mem_dedup.mp stored
    rw [if_neg member, missing, Option.map_none]

/-- The health of a site is that of all its monitors, where it has one; in the listing too. -/
theorem getSiteHealthStateById_eq (db : Database) (siteId : Int)
    : getSiteHealthStateById db siteId
      = if siteId ∈ db.siteMonitors.rows.map (·.siteId) then
          some (.of siteId (db.siteMonitors.rows.filter (·.siteId = siteId)))
        else none := by
  unfold getSiteHealthStateById groupBySite
  rw [List.head?_map]
  have onSite : ∀ other ∈ ((db.siteMonitors.rows.filter (·.siteId = siteId)).map
      (·.siteId)).dedup, other = siteId := by
    intro other member
    obtain ⟨monitor, stored, rfl⟩ := List.mem_map.mp (List.mem_dedup.mp member)
    exact of_decide_eq_true (List.mem_filter.mp stored).2
  have twice : (db.siteMonitors.rows.filter (·.siteId = siteId)).filter (·.siteId = siteId)
      = db.siteMonitors.rows.filter (·.siteId = siteId) := by
    simp
  by_cases member : siteId ∈ db.siteMonitors.rows.map (·.siteId)
  · obtain ⟨monitor, stored, same⟩ := List.mem_map.mp member
    have listed : siteId ∈ ((db.siteMonitors.rows.filter (·.siteId = siteId)).map
        (·.siteId)).dedup :=
      List.mem_dedup.mpr (List.mem_map.mpr
        ⟨monitor, List.mem_filter.mpr ⟨stored, decide_eq_true same⟩, same⟩)
    cases groups : ((db.siteMonitors.rows.filter (·.siteId = siteId)).map (·.siteId)).dedup with
    | nil =>
        rw [groups] at listed
        cases listed
    | cons first rest =>
        have isSite := onSite first (groups ▸ List.mem_cons_self)
        rw [if_pos member, List.head?_cons, Option.map_some, isSite, twice]
  · have empty : db.siteMonitors.rows.filter (·.siteId = siteId) = [] :=
      List.filter_eq_nil_iff.mpr fun monitor stored same =>
        member (List.mem_map.mpr ⟨monitor, stored, of_decide_eq_true same⟩)
    rw [if_neg member, empty]
    rfl

/-- The listing of all sites tells the same health. -/
theorem find?_listSiteHealthStates (db : Database) (siteId : Int)
    : (listSiteHealthStates db).find? (fun state => state.siteId = siteId)
      = getSiteHealthStateById db siteId := by
  rw [getSiteHealthStateById_eq]
  exact find?_groupBySite (fun _ _ => rfl) siteId

end AlonSentinel.Domain
