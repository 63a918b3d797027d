import AlonSentinel.System.IncidentLifecycle

/-! Incidents of monitors that the API stopped. A handler that stops a monitor resolves its open
incident, but a check that was claimed before may still commit and open another one; nothing
else does.
-/

namespace AlonSentinel.System

open Api
open Domain
open KeyedTable
open Notifications
open TransitionSystem
open Worker

variable {config : DeliveryConfig} {world after : World} {siteMonitorId : Int}

def NoOpenIncident (db : Database) (siteMonitorId : Int) : Prop :=
  ∀ incident ∈ db.siteMonitorIncidents.rows,
    incident.siteMonitorId = siteMonitorId → incident.isOpen = false

instance (db : Database) (siteMonitorId : Int) : Decidable (NoOpenIncident db siteMonitorId) :=
  inferInstanceAs (Decidable (∀ incident ∈ db.siteMonitorIncidents.rows, _))

/-- The monitor is inactive, or its site is. -/
def IsStopped (db : Database) (siteMonitorId : Int) : Prop :=
  ∃ monitor,
    db.siteMonitors.find? siteMonitorId = some monitor
    ∧ (monitor.isActive = false ∨ (db.sites.find? monitor.siteId).any (·.isActive) = false)

------------------------------------------------------------
-- Handlers that stop a monitor
------------------------------------------------------------

/-- A handler that is about to resolve the incidents of a monitor. -/
def Covers (db : Database) (siteMonitorId : Int) (pending : PendingResolution) : Prop :=
  match pending.scope with
  | .monitor id => id = siteMonitorId
  | .site siteId =>
      ∃ monitor, db.siteMonitors.find? siteMonitorId = some monitor ∧ monitor.siteId = siteId

/-- An upsert for a target conflicts with a monitor. -/
def Conflicts (db : Database) (siteMonitorId siteId : Int) (monitorType : SiteMonitorType)
    (targetUrl : String)
    : Prop :=
  ∃ monitor,
    db.siteMonitors.rows.find? (·.isTarget siteId monitorType targetUrl) = some monitor
    ∧ monitor.id = siteMonitorId

/-- The requests that stop a monitor when they succeed. -/
inductive Stops (db : Database) (siteMonitorId : Int) : ApiRequest → Prop
  | pause (monitorType : SiteMonitorType) (siteId : Int)
    : Stops db siteMonitorId (.pauseSiteMonitorById monitorType siteId siteMonitorId)
  | disable (monitorType : SiteMonitorType) (siteId : Int)
    : Stops db siteMonitorId (.disableSiteMonitorById monitorType siteId siteMonitorId)
  | disableType {monitor : SiteMonitor}
      (stored : db.siteMonitors.find? siteMonitorId = some monitor)
    : Stops db siteMonitorId (.disableSiteMonitor monitor.monitorType monitor.siteId)
  | updateHttp {siteId : Int} {params : HttpMonitorParams} (inactive : params.isActive = false)
    : Stops db siteMonitorId (.updateHttpSiteMonitor siteId siteMonitorId params)
  | updateSsl {siteId : Int} {params : SslMonitorParams} (inactive : params.isActive = false)
    : Stops db siteMonitorId (.updateSslSiteMonitor siteId siteMonitorId params)
  | updateTcp {siteId : Int} {params : TcpMonitorParams} (inactive : params.isActive = false)
    : Stops db siteMonitorId (.updateTcpSiteMonitor siteId siteMonitorId params)
  | updateDns {siteId : Int} {params : DnsMonitorParams} (inactive : params.isActive = false)
    : Stops db siteMonitorId (.updateDnsSiteMonitor siteId siteMonitorId params)
  | updateHeartbeat {siteId : Int} {params : HeartbeatMonitorUpdateParams}
      (inactive : params.isActive = false)
    : Stops db siteMonitorId (.updateHeartbeatSiteMonitor siteId siteMonitorId params)
  | upsertHttp {siteId : Int} {params : HttpMonitorParams} (inactive : params.isActive = false)
      (conflicts : Conflicts db siteMonitorId siteId .http params.targetUrl)
    : Stops db siteMonitorId (.upsertHttpSiteMonitor siteId params)
  | upsertSsl {siteId : Int} {params : SslMonitorParams} (inactive : params.isActive = false)
      (conflicts : Conflicts db siteMonitorId siteId .ssl params.targetUrl)
    : Stops db siteMonitorId (.upsertSslSiteMonitor siteId params)
  | upsertTcp {siteId : Int} {params : TcpMonitorParams} (inactive : params.isActive = false)
      (conflicts : Conflicts db siteMonitorId siteId .tcp params.targetUrl)
    : Stops db siteMonitorId (.upsertTcpSiteMonitor siteId params)
  | upsertDns {siteId : Int} {params : DnsMonitorParams} (inactive : params.isActive = false)
      (conflicts : Conflicts db siteMonitorId siteId .dns params.targetUrl)
    : Stops db siteMonitorId (.upsertDnsSiteMonitor siteId params)
  | deactivateSite {monitor : SiteMonitor} {name baseUrl : String}
      (stored : db.siteMonitors.find? siteMonitorId = some monitor)
    : Stops db siteMonitorId (.updateSite monitor.siteId name baseUrl false)

/-- An update by id answers with the row under that id. -/
theorem id_of_updateSiteMonitorById {db after : Database} {monitorType : SiteMonitorType}
    {siteId siteMonitorId : Int} {set : SiteMonitor → SiteMonitor}
    {keeps : ∀ monitor, (set monitor).id = monitor.id} {updated : SiteMonitor}
    (done
      : updateSiteMonitorById monitorType db siteId siteMonitorId set keeps
        = .ok (some updated, after))
    : updated.id = siteMonitorId := by
  obtain ⟨stored, _, isAt, rfl⟩ := (updateSiteMonitorById_rows done).1 updated rfl
  simp only [SiteMonitor.isAt, Bool.and_eq_true, decide_eq_true_eq] at isAt
  exact (keeps stored).trans isAt.1.1

/-- What an update that stops a monitor leaves to be done. -/
theorem covers_of_startUpdate {db : Database} {isActive : Bool} {started : Started}
    {result : Except DatabaseError (Option SiteMonitor × Database)} {pending : PendingResolution}
    (id : ∀ updated after, result = .ok (some updated, after) → updated.id = siteMonitorId)
    (done : startUpdate isActive result = .ok started) (left : started.pending = some pending)
    : Covers db siteMonitorId pending := by
  cases result with
  | error failure => cases done
  | ok pair =>
      obtain ⟨monitor, after⟩ := pair
      cases done
      cases monitor with
      | none => cases left
      | some updated =>
          have same := id updated after rfl
          cases isActive with
          | true => cases left
          | false =>
              cases left
              exact same

/-- An upsert that conflicts with a monitor answers with that monitor. -/
theorem id_of_upsertSiteMonitor {db after : Database} {now : Timestamp} {siteId : Int}
    {monitorType : SiteMonitorType} {targetUrl : String} {fill merge : SiteMonitor → SiteMonitor}
    {fillKeeps : ∀ monitor, (fill monitor).id = monitor.id}
    {mergeKeeps : ∀ monitor, (merge monitor).id = monitor.id} {upserted : SiteMonitor}
    (conflicts : Conflicts db siteMonitorId siteId monitorType targetUrl)
    (done
      : upsertSiteMonitor db now siteId monitorType targetUrl fill merge fillKeeps mergeKeeps
        = .ok (upserted, after))
    : upserted.id = siteMonitorId := by
  obtain ⟨monitor, found, rfl⟩ := conflicts
  unfold upsertSiteMonitor at done
  rw [found] at done
  cases done
  exact mergeKeeps monitor

/-- What an upsert that stops a monitor leaves to be done. -/
theorem covers_of_startUpsert {db : Database} {isActive : Bool} {started : Started}
    {result : Except DatabaseError (SiteMonitor × Database)} {pending : PendingResolution}
    (id : ∀ upserted after, result = .ok (upserted, after) → upserted.id = siteMonitorId)
    (done : startUpsert isActive result = .ok started) (left : started.pending = some pending)
    : Covers db siteMonitorId pending := by
  cases result with
  | error failure => cases done
  | ok pair =>
      obtain ⟨upserted, after⟩ := pair
      have same := id upserted after rfl
      cases done
      cases isActive with
      | true => cases left
      | false =>
          cases left
          exact same

theorem covers_of_startStop {db : Database} (pending : PendingResolution)
    {left : PendingResolution} {result : List SiteMonitor × Database}
    (covers : Covers db siteMonitorId pending)
    (isLeft : (startStop pending result).pending = some left)
    : Covers db siteMonitorId left := by
  unfold startStop at isLeft
  simp only at isLeft
  split at isLeft
  · cases isLeft
  · cases isLeft
    exact covers

/-- A request that stops a monitor leaves a handler that resolves its incidents. -/
theorem covers_of_stops {db : Database} {now : Timestamp} {request : ApiRequest}
    {started : Started} {pending : PendingResolution} (stops : Stops db siteMonitorId request)
    (done : startRequest db now request = .ok started) (left : started.pending = some pending)
    : Covers db siteMonitorId pending := by
  cases stops with
  | pause monitorType siteId | disable monitorType siteId =>
      cases done
      exact covers_of_startStop (monitorStopped siteMonitorId) rfl left
  | @disableType monitor stored =>
      cases done
      exact covers_of_startStop (monitorTypeStopped monitor.siteId) ⟨monitor, stored, rfl⟩ left
  | updateHttp _ | updateSsl _ | updateTcp _ | updateDns _ | updateHeartbeat _ =>
      exact covers_of_startUpdate (fun _ _ => id_of_updateSiteMonitorById) done left
  | upsertHttp _ conflicts | upsertSsl _ conflicts | upsertTcp _ conflicts
  | upsertDns _ conflicts =>
      exact covers_of_startUpsert (fun _ _ => id_of_upsertSiteMonitor conflicts) done left
  | @deactivateSite monitor name baseUrl stored =>
      simp only [startRequest] at done
      cases updated : updateSite db now monitor.siteId name baseUrl false with
      | error failure =>
          rw [updated] at done
          cases done
      | ok pair =>
          rw [updated] at done
          cases done
          simp only at left
          split at left
          · cases left
            exact ⟨monitor, stored, rfl⟩
          · cases left

/-- No action takes a monitor away or moves it to another site. -/
theorem Stepped.siteKept {monitor : SiteMonitor} (stepped : Stepped config world after)
    (found : world.db.siteMonitors.find? siteMonitorId = some monitor)
    : ∃ kept,
        after.db.siteMonitors.find? siteMonitorId = some kept
        ∧ kept.siteId = monitor.siteId := by
  have ofUpdate {condition : SiteMonitor → Bool} {set : SiteMonitor → SiteMonitor}
      {keeps : ∀ row, condition row = true → (set row).id = row.id}
      (sameSite : ∀ row, (set row).siteId = row.siteId)
      : ∃ kept,
          (world.db.siteMonitors.update condition set keeps).find? siteMonitorId = some kept
          ∧ kept.siteId = monitor.siteId := by
    rw [SerialTable.find?_update, found, Option.map_some]
    refine ⟨_, rfl, ?_⟩
    split
    · exact sameSite monitor
    · rfl
  cases stepped with
  | waited _ | claimedDeliveries _ _ _ => exact ⟨monitor, found, rfl⟩
  | claimedMonitors leaseSeconds _ claim =>
      rcases claim siteMonitorId with ⟨same, _⟩ | ⟨prior, _, was, _, stored, _⟩
      · exact ⟨monitor, same.trans found, rfl⟩
      · cases was.symm.trans found
        exact ⟨_, stored, rfl⟩
  | delivered _ delivered =>
      cases delivered with
      | extended _ _ | released _ | delivered _ | failed _ _ _ | ended =>
          exact ⟨monitor, found, rfl⟩
  | checked _ checked =>
      cases checked with
      | waited _ | began _ | lookedUp _ | ended => exact ⟨monitor, found, rfl⟩
      | extended _ _ | released _ => exact ofUpdate fun _ => rfl
      | committed _ effect =>
          simp only [World.afterCheck, effect.siteMonitors]
          exact ofUpdate fun _ => rfl
  | @served db handlers effect =>
      have touched := effect.monitors siteMonitorId
      rw [found] at touched
      generalize rows : db.siteMonitors.find? siteMonitorId = later at touched ⊢
      cases touched with
      | kept ledger => exact ⟨_, rfl, congrArg MonitorLedger.siteId ledger⟩

/-- A handler that is about to resolve the incidents of a monitor stays about to. -/
theorem Covers.stepped {pending : PendingResolution}
    (covers : Covers world.db siteMonitorId pending)
    (stepped : Stepped config world after)
    : Covers after.db siteMonitorId pending := by
  obtain ⟨scope, reason, notRecovered⟩ := pending
  cases scope with
  | monitor id => exact covers
  | site siteId =>
      obtain ⟨monitor, found, onSite⟩ := covers
      obtain ⟨kept, stored, sameSite⟩ := stepped.siteKept found
      exact ⟨kept, stored, sameSite.trans onSite⟩

theorem Covers.along {pending : PendingResolution}
    (covers : Covers world.db siteMonitorId pending)
    (path : Relation.ReflTransGen (Next (step config)) world after)
    : Covers after.db siteMonitorId pending := by
  induction path with
  | refl => exact covers
  | tail _ last ih =>
      obtain ⟨action, taken⟩ := last
      exact ih.stepped (step_cases taken)

/-- A request stopped the monitor, and its handler has now run its second statement. -/
inductive StopCompleted (config : DeliveryConfig) (siteMonitorId : Int) : World → Prop
  | intro {before requested running stopped : World} {request : ApiRequest}
      {started : Started} {pending : PendingResolution} (index : Nat)
      (reached : Reached config before)
      (stops : Stops before.db siteMonitorId request)
      (accepted : startRequest before.db before.now request = .ok started)
      (left : started.pending = some pending)
      (taken : step config before (.request request) = some requested)
      (path : Relation.ReflTransGen (Next (step config)) requested running)
      (runs : running.handlers[index]? = some pending)
      (completed : step config running (.finishHandler index) = some stopped)
    : StopCompleted config siteMonitorId stopped

------------------------------------------------------------
-- What a handler resolves
------------------------------------------------------------

/-- When its second statement has run, a handler leaves no incident of the monitor open. -/
theorem noOpenIncident_of_resolve (reached : Reached config world) {pending : PendingResolution}
    (covers : Covers world.db siteMonitorId pending)
    : NoOpenIncident (pending.resolve world.db world.now).2 siteMonitorId := by
  have site := (monitorHistory_of_reached reached siteMonitorId).site
  obtain ⟨scope, reason, notRecovered⟩ := pending
  intro incident member ofMonitor
  cases scope with
  | monitor id =>
      have same : id = siteMonitorId := covers
      subst same
      obtain ⟨prior, stored, rfl⟩ := List.mem_map.mp member
      by_cases matched : prior.isOpenFor id = true
      · rw [if_pos matched]
        rfl
      · rw [if_neg matched] at ofMonitor ⊢
        simpa [SiteMonitorIncident.isOpenFor, ofMonitor] using matched
  | site siteId =>
      obtain ⟨monitor, found, sameSite⟩ := covers
      obtain ⟨prior, stored, rfl⟩ := List.mem_map.mp member
      by_cases matched : prior.isOpenOn siteId = true
      · rw [if_pos matched]
        rfl
      · rw [if_neg matched] at ofMonitor ⊢
        obtain ⟨facts, present, onSite⟩ := site prior (ofMonitor ▸ mem_incidentsOf stored)
        cases (monitorView_monitor found).symm.trans present
        have priorSite : prior.siteId = siteId := onSite.symm.trans sameSite
        simpa [SiteMonitorIncident.isOpenOn, priorSite] using matched

------------------------------------------------------------
-- What opens an incident
------------------------------------------------------------

/-- The action is the commit of a check of the monitor whose worker owns it and has decided to
open an incident. -/
def CommitsOpening (world : World) (siteMonitorId : Int) (action : Action) : Prop :=
  ∃ workerId job startedAt completed found,
    action = .check workerId siteMonitorId .commitSave
    ∧ (world.checkBatches workerId).find? siteMonitorId = some job
    ∧ job.phase = .deciding startedAt completed found
    ∧ Owns world.db siteMonitorId workerId
    ∧ (classifyIncidentAction job.siteMonitor.lastIsSuccess completed.result.isSuccess
        found.isSome).opens = true

/-- Changes of incidents that open none. -/
theorem NoOpenIncident.of_map {before after : Database}
    {change : SiteMonitorIncident → SiteMonitorIncident}
    (noOpen : NoOpenIncident before siteMonitorId)
    (rows : after.siteMonitorIncidents.rows = before.siteMonitorIncidents.rows.map change)
    (sameMonitor : ∀ incident, (change incident).siteMonitorId = incident.siteMonitorId)
    (opensNone : ∀ incident, (change incident).isOpen = true → incident.isOpen = true)
    : NoOpenIncident after siteMonitorId := by
  intro incident member ofMonitor
  rw [rows] at member
  obtain ⟨prior, stored, rfl⟩ := List.mem_map.mp member
  have closed := noOpen prior stored ((sameMonitor prior).symm.trans ofMonitor)
  exact Bool.eq_false_iff.mpr fun isOpen => absurd (opensNone prior isOpen) (by rw [closed]; nofun)

/-- A save that does not decide to open an incident leaves none open where none was. -/
theorem NoOpenIncident.of_save {db saved : Database} {startedAt : Timestamp}
    {siteMonitor : SiteMonitor} {workerId : String} {completed : CompletedMonitorCheck}
    {found : Option SiteMonitorIncident} (noOpen : NoOpenIncident db siteMonitorId)
    (effect : SaveEffect db startedAt siteMonitor workerId completed found saved)
    (keepsClosed
      : siteMonitor.id = siteMonitorId
        → (classifyIncidentAction siteMonitor.lastIsSuccess completed.result.isSuccess
            found.isSome).opens ≠ true)
    : NoOpenIncident saved siteMonitorId := by
  generalize rows : saved.siteMonitorIncidents.rows = after
  have managed := effect.siteMonitorIncidents
  rw [rows] at managed
  cases managed with
  | opened decided _ =>
      intro incident member ofMonitor
      rw [rows] at member
      rcases List.mem_append.mp member with old | new
      · exact noOpen incident old ofMonitor
      · rw [List.mem_singleton.mp new] at ofMonitor
        exact absurd decided (keepsClosed ofMonitor)
  | updated incident _ _ _ =>
      refine noOpen.of_map rows (fun other => ?_) fun other isOpen => ?_
      · split <;> rfl
      · split at isOpen <;> exact isOpen
  | resolved incident _ _ _ =>
      refine noOpen.of_map rows (fun other => ?_) fun other isOpen => ?_
      · split <;> rfl
      · split at isOpen
        · cases isOpen
        · exact isOpen
  | unchanged _ =>
      intro incident member
      rw [rows] at member
      exact noOpen incident member

/-- Only the commit of an owner that decided to open an incident opens one. -/
theorem noOpenIncident_step {action : Action} (taken : step config world action = some after)
    (noOpen : NoOpenIncident world.db siteMonitorId)
    (notOpening : ¬CommitsOpening world siteMonitorId action)
    : NoOpenIncident after.db siteMonitorId := by
  have stepped := step_cases taken
  cases stepped with
  | waited _ | claimedMonitors _ _ _ | claimedDeliveries _ _ _ => exact noOpen
  | delivered _ delivered =>
      cases delivered with
      | extended _ _ | released _ | delivered _ | failed _ _ _ | ended => exact noOpen
  | served _ effect =>
      obtain ⟨change, touches, rows⟩ := effect.incidents
      exact noOpen.of_map rows (fun incident => (touches incident).identity.2.1)
        fun incident => (touches incident).wasOpen
  | checked holds checked =>
      cases checked with
      | extended _ _ | released _ | waited _ | began _ | lookedUp _ | ended => exact noOpen
      | committed deciding effect =>
          obtain ⟨_, rfl⟩ := Table.mem_of_find? holds
          have isCommit := action_of_commit taken rfl
          refine noOpen.of_save effect fun same opens => notOpening ?_
          subst same
          exact ⟨_, _, _, _, _, isCommit, holds, deciding, claimGuard_iff.mp effect.claimed, opens⟩

/-- The commit of an owner that decided to open an incident leaves it open. -/
theorem openIncident_of_commitsOpening (reached : Reached config world) {action : Action}
    (taken : step config world action = some after)
    (opening : CommitsOpening world siteMonitorId action)
    : ¬NoOpenIncident after.db siteMonitorId := by
  obtain ⟨workerId, job, startedAt, completed, found, rfl, holds, deciding, owns, opens⟩ :=
    opening
  obtain ⟨saved, committed⟩ := ownersCommit reached _ _ _ _ _ _ holds deciding owns
  have sameMonitor : job.siteMonitor.id = siteMonitorId := (Table.mem_of_find? holds).2
  have after_db : after.db = saved := by
    obtain ⟨other, isHeld, rest⟩ := Option.bind_eq_some_iff.mp taken
    cases isHeld.symm.trans holds
    rw [checkStep_commitSave deciding committed] at rest
    cases rest
    rfl
  obtain ⟨incident, member, ofMonitor, isOpen, _⟩ :=
    (opensIncident_iff (saveCheckResult_ok committed)).mpr opens
  intro noOpen
  rw [after_db] at noOpen
  rw [noOpen incident member (ofMonitor.trans sameMonitor)] at isOpen
  cases isOpen

------------------------------------------------------------
-- After a handler has completed
------------------------------------------------------------

/-- From here on no incident of the monitor is open for as long as no owner commits a check that
opens one.
-/
def StaysResolved (config : DeliveryConfig) (stopped : World) (siteMonitorId : Int) : Prop :=
  ∀ later,
    Relation.ReflTransGen
        (NextWhere (step config) fun state action _ =>
          ¬CommitsOpening state siteMonitorId action)
        stopped later
    → NoOpenIncident later.db siteMonitorId

/-- Such a commit does leave an incident open, whether or not the monitor is still stopped. -/
def OpeningsStay (config : DeliveryConfig) (siteMonitorId : Int) : Prop :=
  ∀ state action next,
    Reached config state
    → step config state action = some next
    → CommitsOpening state siteMonitorId action
    → ¬NoOpenIncident next.db siteMonitorId

/-- A monitor whose incidents a handler has resolved stays without an open one exactly as long as
no check commits that opens one.
-/
theorem noOpenIncident_after_stop {stopped : World}
    (completed : StopCompleted config siteMonitorId stopped)
    : StaysResolved config stopped siteMonitorId ∧ OpeningsStay config siteMonitorId := by
  constructor
  · intro later path
    obtain @⟨before, requested, running, _, request, started, pending, index, reached, stops,
      accepted, left, taken, between, runs, completed⟩ := completed
    have isReached : Reached config running := (reached.next taken).path between
    have covers : Covers running.db siteMonitorId pending :=
      Covers.along (Covers.stepped (covers_of_stops stops accepted left) (step_cases taken)) between
    have start : NoOpenIncident stopped.db siteMonitorId := by
      obtain ⟨other, isRunning, rest⟩ := Option.bind_eq_some_iff.mp completed
      cases isRunning.symm.trans runs
      cases rest
      exact noOpenIncident_of_resolve isReached covers
    exact ((isReached.next completed).along
      (fun _ _ _ _ noOpen taken admitted => noOpenIncident_step taken noOpen admitted) start
      path).2
  · exact fun state action next isReached taken =>
      openIncident_of_commitsOpening isReached taken

/-- The monitor is paused between the lookup and the commit of a failing check. -/
def pausedDuringCheck : List Action :=
  claimActions "w1"
    ++ [.check "w1" 1 (.beginSave (completedCheck false)), .check "w1" 1 .lookupIncident]

def pausing : World :=
  smallNext (smallRun pausedDuringCheck) (.request (.pauseSiteMonitorById .http 1 1))

def paused : World := smallNext pausing (.finishHandler 0)

theorem stopCompleted_paused : StopCompleted smallConfig 1 paused :=
  .intro 0 smallRun_reached (.pause .http 1) rfl rfl smallNext_taken .refl rfl smallNext_taken

theorem noOpenIncident_after_stop_paused
    : NoOpenIncident paused.db 1
      ∧ StaysResolved smallConfig paused 1
      ∧ OpeningsStay smallConfig 1 :=
  ⟨by decide +kernel, noOpenIncident_after_stop stopCompleted_paused⟩

/-- The check that was claimed before the pause opens an incident after it. -/
theorem openIncident_on_stopped
    : ¬∀ (config : DeliveryConfig) (siteMonitorId : Int) (stopped later : World),
        StopCompleted config siteMonitorId stopped
        → Relation.ReflTransGen
            (NextWhere (step config) fun _ _ after => IsStopped after.db siteMonitorId)
            stopped later
        → NoOpenIncident later.db siteMonitorId := by
  intro staysResolved
  let saved := smallNext paused (.check "w1" 1 .commitSave)
  have stopped : IsStopped saved.db 1 :=
    ⟨saved.db.siteMonitors.rows.head (by decide +kernel), rfl, .inl rfl⟩
  have resolved : NoOpenIncident saved.db 1 :=
    staysResolved smallConfig 1 paused saved stopCompleted_paused
      (.single ⟨_, smallNext_taken, stopped⟩)
  revert resolved
  decide +kernel

end AlonSentinel.System
