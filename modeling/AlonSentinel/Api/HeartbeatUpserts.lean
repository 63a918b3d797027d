import AlonSentinel.Api.SiteHandlers

/-! The handler that upserts the heartbeat monitor of a site, past authentication and validation,
one statement at a time: it looks the monitor up, and updates or creates it in another statement.
-/

namespace AlonSentinel.Api

open Domain
open KeyedTable

/-- The heartbeat monitors of a site. -/
def heartbeatMonitors (db : Database) (siteId : Int) : List SiteMonitor :=
  db.siteMonitors.rows.filter fun monitor =>
    monitor.siteId = siteId && monitor.monitorType = .heartbeat

/-- `ORDER BY sm.id LIMIT 1`. -/
def getHeartbeatMonitorBySiteId (db : Database) (siteId : Int) : Option SiteMonitor :=
  ((heartbeatMonitors db siteId).insertionSort fun first second => first.id ≤ second.id).head?

def heartbeatPingPath (heartbeatToken : String) : String := s!"/v1/heartbeat/{heartbeatToken}"

/-- The statement that a request executes next, or its answer. -/
inductive HeartbeatUpsertPhase where
  | findingSite
  | findingMonitor
  | updating (existing : SiteMonitor)
  | creating
  | resolving (monitor : SiteMonitor)
  | answered (answer : Except ApiError SiteMonitor)

/-- A request with its normalized payload. -/
structure HeartbeatUpsert where
  siteId : Int
  params : HeartbeatMonitorUpdateParams
  phase : HeartbeatUpsertPhase

/-- The monitor that a request returns, once it is written. -/
def HeartbeatUpsertPhase.monitor? : HeartbeatUpsertPhase → Option SiteMonitor
  | .resolving monitor | .answered (.ok monitor) => some monitor
  | _ => none

def HeartbeatUpsertPhase.isCreating : HeartbeatUpsertPhase → Bool
  | .creating => true
  | _ => false

def HeartbeatUpsertPhase.isAnswered : HeartbeatUpsertPhase → Bool
  | .answered _ => true
  | _ => false

/-- What follows the statement that wrote the monitor. -/
def HeartbeatUpsert.wrote (request : HeartbeatUpsert) (monitor : SiteMonitor)
    : HeartbeatUpsertPhase :=
  if request.params.isActive then .answered (.ok monitor) else .resolving monitor

/-- `upsert_heartbeat_site_monitor`, one statement; the token is drawn for a new monitor. -/
def HeartbeatUpsert.step (db : Database) (now : Timestamp) (heartbeatToken : String)
    (request : HeartbeatUpsert)
    : Option (Database × HeartbeatUpsertPhase) :=
  match request.phase with
  | .findingSite =>
      match db.sites.find? request.siteId with
      | none => some (db, .answered (.error (.notFound "site not found")))
      | some _ => some (db, .findingMonitor)
  | .findingMonitor =>
      match getHeartbeatMonitorBySiteId db request.siteId with
      | some existing => some (db, .updating existing)
      | none => some (db, .creating)
  | .updating existing =>
      match updateHeartbeatSiteMonitorById db now request.siteId existing.id request.params with
      | .error _ => some (db, .answered (.error (.internal internalServerErrorMessage)))
      | .ok (none, db) => some (db, .answered (.error (.notFound "heartbeat monitor not found")))
      | .ok (some monitor, db) => some (db, request.wrote monitor)
  | .creating =>
      match createHeartbeatSiteMonitor db now request.siteId
          { targetUrl := heartbeatPingPath heartbeatToken
            heartbeatToken
            checkIntervalSeconds := request.params.checkIntervalSeconds
            heartbeatGraceSeconds := request.params.heartbeatGraceSeconds
            isActive := request.params.isActive } with
      | .error _ => some (db, .answered (.error (.internal internalServerErrorMessage)))
      | .ok (monitor, db) => some (db, request.wrote monitor)
  | .resolving monitor =>
      some ((resolveOpenIncidentsForMonitor db now monitor.id .monitoringDisabled).2,
        .answered (.ok monitor))
  | .answered _ => none

------------------------------------------------------------
-- What a statement does to the heartbeat monitors
------------------------------------------------------------

/-- The ids and tokens of the heartbeat monitors of a site. -/
def heartbeatTokens (db : Database) (siteId : Int) : List (Int × Option String) :=
  (heartbeatMonitors db siteId).map fun monitor => (monitor.id, monitor.heartbeatToken)

theorem mem_heartbeatTokens {db : Database} {siteId : Int} {monitor : SiteMonitor}
    (stored : monitor ∈ db.siteMonitors.rows) (onSite : monitor.siteId = siteId)
    (isHeartbeat : monitor.monitorType = .heartbeat)
    : (monitor.id, monitor.heartbeatToken) ∈ heartbeatTokens db siteId := by
  refine List.mem_map.mpr ⟨monitor, List.mem_filter.mpr ⟨stored, ?_⟩, rfl⟩
  rw [Bool.and_eq_true_iff]
  exact ⟨decide_eq_true onSite, decide_eq_true isHeartbeat⟩

/-- A rewriting of rows that keeps site, type, id and token keeps the ids and tokens. -/
theorem heartbeatTokens_of_map {db after : Database} {rewrite : SiteMonitor → SiteMonitor}
    (rewritten : after.siteMonitors.rows = db.siteMonitors.rows.map rewrite)
    (keeps
      : ∀ monitor,
          (rewrite monitor).siteId = monitor.siteId
          ∧ (rewrite monitor).monitorType = monitor.monitorType
          ∧ (rewrite monitor).id = monitor.id
          ∧ (rewrite monitor).heartbeatToken = monitor.heartbeatToken)
    : heartbeatTokens after = heartbeatTokens db := by
  funext siteId
  unfold heartbeatTokens heartbeatMonitors
  rw [rewritten, List.filter_map, List.map_map]
  have sameSelection
      : ((fun monitor : SiteMonitor =>
            decide (monitor.siteId = siteId) && decide (monitor.monitorType = .heartbeat))
          ∘ rewrite)
        = fun monitor =>
            decide (monitor.siteId = siteId) && decide (monitor.monitorType = .heartbeat) := by
    funext monitor
    obtain ⟨sameSite, sameType, _⟩ := keeps monitor
    simp only [Function.comp_apply, sameSite, sameType]
  rw [sameSelection]
  refine List.map_congr_left fun monitor _ => ?_
  obtain ⟨_, _, sameId, sameToken⟩ := keeps monitor
  simp only [Function.comp_apply, sameId, sameToken]

theorem updateHeartbeatSiteMonitorById_tokens {db after : Database} {now : Timestamp}
    {siteId siteMonitorId : Int} {params : HeartbeatMonitorUpdateParams}
    {result : Option SiteMonitor}
    (updated
      : updateHeartbeatSiteMonitorById db now siteId siteMonitorId params = .ok (result, after))
    : heartbeatTokens after = heartbeatTokens db
      ∧ ∀ monitor,
          result = some monitor
          → (monitor.id, monitor.heartbeatToken) ∈ heartbeatTokens db siteId := by
  obtain ⟨returns, rewritten⟩ := updateSiteMonitorById_rows updated
  constructor
  · refine heartbeatTokens_of_map rewritten fun monitor => ?_
    split <;> exact ⟨rfl, rfl, rfl, rfl⟩
  · intro monitor returned
    obtain ⟨stored, isStored, isAt, rfl⟩ := returns monitor returned
    simp only [SiteMonitor.isAt, Bool.and_eq_true, decide_eq_true_eq] at isAt
    have known : (stored.id, stored.heartbeatToken) ∈ heartbeatTokens db siteId :=
      mem_heartbeatTokens isStored isAt.1.2 isAt.2
    exact known

theorem createHeartbeatSiteMonitor_tokens {db after : Database} {now : Timestamp} {siteId : Int}
    {params : HeartbeatMonitorParams} {monitor : SiteMonitor}
    (created : createHeartbeatSiteMonitor db now siteId params = .ok (monitor, after))
    (anySite : Int)
    : heartbeatTokens after anySite
      = heartbeatTokens db anySite
        ++ if siteId = anySite then [(monitor.id, monitor.heartbeatToken)] else [] := by
  obtain ⟨filled, appended⟩ := insertSiteMonitor_rows created
  have onSite : monitor.siteId = siteId := by rw [filled]; rfl
  have isHeartbeat : monitor.monitorType = .heartbeat := by rw [filled]; rfl
  unfold heartbeatTokens heartbeatMonitors
  rw [appended, List.filter_append, List.map_append]
  by_cases same : siteId = anySite
  · simp [onSite, isHeartbeat, same]
  · simp [onSite, same]

/-- What one statement of a request does to the heartbeat monitors: it leaves their ids and tokens
alone, or it creates one. The monitor that is returned is among them.
-/
inductive UpsertEffect (request : HeartbeatUpsert) (db after : Database)
    (phase : HeartbeatUpsertPhase)
    : Prop
  | kept (same : heartbeatTokens after = heartbeatTokens db)
    (known
      : ∀ monitor,
          phase.monitor? = some monitor
          → request.phase.monitor? = some monitor
            ∨ (monitor.id, monitor.heartbeatToken) ∈ heartbeatTokens db request.siteId)
  | created (monitor : SiteMonitor) (isCreating : request.phase = .creating)
    (returned : phase.monitor? = some monitor)
    (appended
      : ∀ siteId,
          heartbeatTokens after siteId
          = heartbeatTokens db siteId
            ++ if request.siteId = siteId then [(monitor.id, monitor.heartbeatToken)] else [])

/-- A statement that returns no monitor and leaves ids and tokens alone. -/
theorem UpsertEffect.silent {request : HeartbeatUpsert} {db after : Database}
    {phase : HeartbeatUpsertPhase} (same : heartbeatTokens after = heartbeatTokens db)
    (silent : phase.monitor? = none)
    : UpsertEffect request db after phase :=
  .kept same fun _ returned => by cases silent.symm.trans returned

theorem HeartbeatUpsert.wrote_monitor (request : HeartbeatUpsert) (monitor : SiteMonitor)
    : (request.wrote monitor).monitor? = some monitor := by
  unfold wrote
  split <;> rfl

theorem HeartbeatUpsert.step_effect {request : HeartbeatUpsert} {db after : Database}
    {now : Timestamp} {heartbeatToken : String} {phase : HeartbeatUpsertPhase}
    (taken : request.step db now heartbeatToken = some (after, phase))
    : UpsertEffect request db after phase := by
  unfold HeartbeatUpsert.step at taken
  split at taken
  · split at taken <;> cases taken <;> exact .silent rfl rfl
  · split at taken <;> cases taken <;> exact .silent rfl rfl
  · split at taken
    · cases taken
      exact .silent rfl rfl
    · next updated =>
        cases taken
        exact .silent (updateHeartbeatSiteMonitorById_tokens updated).1 rfl
    · next updated =>
        cases taken
        obtain ⟨same, known⟩ := updateHeartbeatSiteMonitorById_tokens updated
        refine .kept same fun monitor returned => .inr (known monitor ?_)
        rwa [wrote_monitor] at returned
  · next isCreating =>
      split at taken
      · cases taken
        exact .silent rfl rfl
      · next created =>
          cases taken
          exact .created _ isCreating (wrote_monitor _ _)
            (createHeartbeatSiteMonitor_tokens created)
  · next resolving =>
      cases taken
      refine .kept rfl fun monitor returned => .inl ?_
      rw [resolving]
      exact returned
  · cases taken

end AlonSentinel.Api
