import AlonSentinel.Domain.SiteMonitorConfiguration
import AlonSentinel.Foundation.TransitionSystem
import AlonSentinel.Monitoring.HeartbeatChecker

/-! Heartbeat checks among pings. A check reads the clock when it is evaluated, but the last ping as
the claim returned it; a ping in between is not seen.
-/

namespace AlonSentinel.System

open Domain
open KeyedTable
open Monitoring
open Relation
open TransitionSystem
open Worker

------------------------------------------------------------
-- The system
------------------------------------------------------------

/-- A committed ping of a monitor. -/
structure HeartbeatPing where
  monitorId : Int
  receivedAt : Timestamp
  deriving DecidableEq

/-- A claimed monitor, as the claim returned it; `pingsSeen` pings were committed by then. -/
structure HeartbeatJob where
  workerId : String
  siteMonitor : SiteMonitor
  pingsSeen : Nat
  hasInitialLease : Bool

/-- An evaluated check, with the pings that were committed by then. -/
structure EvaluatedHeartbeat where
  siteMonitor : SiteMonitor
  evaluatedAt : Int
  result : CheckResult
  pings : List HeartbeatPing

/-- The clock is in nanoseconds; `NOW()` is in microseconds. Pings and evaluations are recorded for
the statements only.
-/
structure HeartbeatState where
  db : Database
  now : Int
  jobs : List HeartbeatJob
  pings : List HeartbeatPing
  evaluated : List EvaluatedHeartbeat

inductive HeartbeatEvent where
  | advanceClock (later : Int)
  | ping (heartbeatToken : String)
  | claim (workerId : String) (limit : Nat) (leaseSeconds : Int) (locked : List Int)
  | ensureInitialLease (index : Nat) (leaseSeconds : Int)
  | extendLease (index : Nat) (leaseSeconds : Int)
  /-- One attempt of the check. -/
  | evaluate (index : Nat)
  | finish (index : Nat)

/-- `NOW()` of a statement. -/
def HeartbeatState.timestamp (state : HeartbeatState) : Timestamp := state.now / 1000

def stepHeartbeatCheck (state : HeartbeatState) : HeartbeatEvent → Option HeartbeatState
  | .advanceClock later => if state.now ≤ later then some { state with now := later } else none
  | .ping heartbeatToken =>
      let (pinged, db) := recordHeartbeatPing state.db state.timestamp heartbeatToken
      some
        { state with
          db
          pings := state.pings ++ (pinged.map fun monitor => ⟨monitor.id, state.timestamp⟩).toList }
  | .claim workerId limit leaseSeconds locked =>
      let (db, claimed) :=
        claimSiteMonitorsDueForCheck state.db state.timestamp workerId limit leaseSeconds locked
      some
        { state with
          db
          jobs :=
            state.jobs
            ++ claimed.rows.map fun siteMonitor =>
                ⟨workerId, siteMonitor, state.pings.length, false⟩ }
  | .ensureInitialLease index leaseSeconds => do
      let job ← state.jobs[index]?
      guard !job.hasInitialLease
      let (updated, db) :=
        extendSiteMonitorClaim state.db state.timestamp job.siteMonitor.id job.workerId leaseSeconds
      return {
        state with
        db
        jobs :=
          if updated then state.jobs.modify index fun job => { job with hasInitialLease := true }
          else state.jobs.eraseIdx index }
  | .extendLease index leaseSeconds => do
      let job ← state.jobs[index]?
      guard job.hasInitialLease
      return {
        state with
        db :=
          (extendSiteMonitorClaim state.db state.timestamp job.siteMonitor.id job.workerId
            leaseSeconds).2 }
  | .evaluate index => do
      let job ← state.jobs[index]?
      guard (job.hasInitialLease && job.siteMonitor.monitorType = .heartbeat)
      return {
        state with
        evaluated :=
          state.evaluated
          ++ [⟨job.siteMonitor, state.now, checkHeartbeat job.siteMonitor state.now,
              state.pings⟩] }
  | .finish index => some { state with jobs := state.jobs.eraseIdx index }

------------------------------------------------------------
-- What is claimed about it
------------------------------------------------------------

/-- A ping of the monitor that lies within the allowed age, in whole seconds. -/
def IsRecentPing (siteMonitor : SiteMonitor) (evaluatedAt : Int) (ping : HeartbeatPing) : Prop :=
  ping.monitorId = siteMonitor.id
  ∧ secondsSince evaluatedAt ping.receivedAt ≤ allowedAgeSeconds siteMonitor

/-- If a check reports a missed heartbeat, no ping that was committed by then is recent. -/
def EvaluatedHeartbeat.NoFalseAlarm (evaluated : EvaluatedHeartbeat) : Prop :=
  evaluated.result.failureReason = some "heartbeat_overdue"
  → ∀ ping ∈ evaluated.pings, ¬IsRecentPing evaluated.siteMonitor evaluated.evaluatedAt ping

/-- No ping that was committed after the claim is recent when the check is evaluated. -/
def SeesRecentPings (state : HeartbeatState) : HeartbeatEvent → Prop
  | .evaluate index =>
      ∀ job ∈ state.jobs[index]?,
        ∀ ping ∈ state.pings.drop job.pingsSeen, ¬IsRecentPing job.siteMonitor state.now ping
  | _ => True

/-- Where pings may still come, every recorded one is covered by the row. -/
def Covered (lastReceivedAt : Option Timestamp) (ping : HeartbeatPing) : Prop :=
  ∃ last ∈ lastReceivedAt, ping.receivedAt ≤ last

variable {state after start last : HeartbeatState} {event : HeartbeatEvent}
  {siteMonitor : SiteMonitor} {now : Int}

/-- The check reports a missed heartbeat exactly if its reference is older than allowed. -/
theorem checkHeartbeat_overdue_iff
    : (checkHeartbeat siteMonitor now).failureReason = some "heartbeat_overdue"
      ↔ allowedAgeSeconds siteMonitor
        < max (secondsSince now (siteMonitor.lastHeartbeatReceivedAt.getD siteMonitor.createdAt))
            0 := by
  unfold checkHeartbeat
  simp only
  split
  · next young => exact iff_of_false (by simp) (not_lt.mpr young)
  · next old => exact iff_of_true rfl (not_le.mp old)

theorem allowedAgeSeconds_nonneg (siteMonitor : SiteMonitor) : 0 ≤ allowedAgeSeconds siteMonitor :=
  Int.add_nonneg (le_max_right _ _) (le_max_right _ _)

/-- The age in whole seconds falls as the instant grows. -/
theorem secondsSince_anti {earlier later : Int} (ordered : earlier ≤ later)
    : secondsSince now later ≤ secondsSince now earlier := by
  unfold secondsSince nanoseconds
  exact Int.tdiv_le_tdiv (by decide) (by omega)

/-- A ping that the claimed row covers is not recent when the row is overdue. -/
theorem not_isRecentPing_of_covered {ping : HeartbeatPing}
    (covered : Covered siteMonitor.lastHeartbeatReceivedAt ping)
    (overdue : (checkHeartbeat siteMonitor now).failureReason = some "heartbeat_overdue")
    : ¬IsRecentPing siteMonitor now ping := by
  obtain ⟨last, isLast, atMost⟩ := covered
  rintro ⟨_, recent⟩
  have old := checkHeartbeat_overdue_iff.mp overdue
  rw [Option.mem_def.mp isLast, Option.getD_some] at old
  have allowed := allowedAgeSeconds_nonneg siteMonitor
  have younger := @secondsSince_anti now _ _ atMost
  omega

------------------------------------------------------------
-- The stored row covers every ping
------------------------------------------------------------

/-- The last ping of a monitor, as it is stored. -/
def pingedAt (db : Database) (monitorId : Int) : Option Timestamp :=
  (db.siteMonitors.find? monitorId).bind (·.lastHeartbeatReceivedAt)

/-- An update that leaves the last ping of each row alone. -/
theorem pingedAt_update {db : Database} {condition : SiteMonitor → Bool}
    {set : SiteMonitor → SiteMonitor}
    {keeps : ∀ monitor, condition monitor = true → (set monitor).id = monitor.id}
    (same : ∀ monitor, (set monitor).lastHeartbeatReceivedAt = monitor.lastHeartbeatReceivedAt)
    : pingedAt { db with siteMonitors := db.siteMonitors.update condition set keeps }
      = pingedAt db := by
  funext monitorId
  unfold pingedAt
  rw [SerialTable.find?_update]
  cases db.siteMonitors.find? monitorId with
  | none => rfl
  | some monitor =>
      simp only [Option.map_some, Option.bind_some]
      split
      · exact same monitor
      · rfl

theorem pingedAt_extendSiteMonitorClaim (db : Database) (now : Timestamp) (monitorId : Int)
    (workerId : String) (leaseSeconds : Int)
    : pingedAt (extendSiteMonitorClaim db now monitorId workerId leaseSeconds).2 = pingedAt db :=
  pingedAt_update fun _ => rfl

theorem pingedAt_claimSiteMonitorsDueForCheck (db : Database) (now : Timestamp)
    (workerId : String) (limit : Nat) (leaseSeconds : Int) (locked : List Int)
    : pingedAt (claimSiteMonitorsDueForCheck db now workerId limit leaseSeconds locked).1
      = pingedAt db :=
  pingedAt_update fun _ => rfl

/-- A claimed row carries the last ping that is stored. -/
theorem lastHeartbeatReceivedAt_of_claimed {db : Database} {now : Timestamp} {workerId : String}
    {limit : Nat} {leaseSeconds : Int} {locked : List Int} {row : SiteMonitor}
    (claimed
      : row ∈ (claimSiteMonitorsDueForCheck db now workerId limit leaseSeconds locked).2.rows)
    : row.lastHeartbeatReceivedAt = pingedAt db row.id := by
  rw [← pingedAt_claimSiteMonitorsDueForCheck db now workerId limit leaseSeconds locked]
  have stored := List.mem_of_mem_filter claimed
  have found
      : (claimSiteMonitorsDueForCheck db now workerId limit leaseSeconds
            locked).1.siteMonitors.find? row.id
        = some row :=
    Table.find?_eq_some.mpr ⟨stored, rfl⟩
  rw [pingedAt, found, Option.bind_some]

/-- A ping moves the last ping of a monitor to now, or leaves it alone. -/
theorem pingedAt_recordHeartbeatPing (db : Database) (now : Timestamp) (heartbeatToken : String)
    (monitorId : Int)
    : pingedAt (recordHeartbeatPing db now heartbeatToken).2 monitorId = some now
      ∨ pingedAt (recordHeartbeatPing db now heartbeatToken).2 monitorId
        = pingedAt db monitorId := by
  unfold pingedAt recordHeartbeatPing
  simp only
  rw [SerialTable.find?_update]
  cases db.siteMonitors.find? monitorId with
  | none => exact .inr rfl
  | some monitor =>
      simp only [Option.map_some, Option.bind_some]
      split
      · exact .inl rfl
      · exact .inr rfl

theorem pingedAt_of_pinged {db : Database} {now : Timestamp} {heartbeatToken : String}
    {pinged : SiteMonitor} (isPinged : (recordHeartbeatPing db now heartbeatToken).1 = some pinged)
    : pingedAt (recordHeartbeatPing db now heartbeatToken).2 pinged.id = some now := by
  unfold recordHeartbeatPing at isPinged
  simp only at isPinged
  obtain ⟨monitor, found, rfl⟩ := Option.map_eq_some_iff.mp isPinged
  have stored := List.mem_of_find?_eq_some found
  have matched := List.find?_some found
  have isStored : db.siteMonitors.find? monitor.id = some monitor :=
    Table.find?_eq_some.mpr ⟨stored, rfl⟩
  unfold pingedAt recordHeartbeatPing
  simp only
  rw [SerialTable.find?_update_of_matched isStored matched]
  rfl

/-- The stored rows cover every ping, the claimed ones every ping before the claim, and no check
has raised a false alarm.
-/
structure PingsCovered (state : HeartbeatState) : Prop where
  stored
    : ∀ ping ∈ state.pings,
        ping.receivedAt ≤ state.timestamp ∧ Covered (pingedAt state.db ping.monitorId) ping
  seen : ∀ job ∈ state.jobs, job.pingsSeen ≤ state.pings.length
  claimed
    : ∀ job ∈ state.jobs,
        ∀ ping ∈ state.pings.take job.pingsSeen,
          ping.monitorId = job.siteMonitor.id
          → Covered job.siteMonitor.lastHeartbeatReceivedAt ping
  sound : ∀ evaluated ∈ state.evaluated, evaluated.NoFalseAlarm

/-- A statement that changes no ping and no job that was not there. -/
theorem PingsCovered.keep {db : Database} {jobs : List HeartbeatJob}
    (covered : PingsCovered state) (same : pingedAt db = pingedAt state.db)
    (known : ∀ job ∈ jobs, ∃ former ∈ state.jobs,
      former.siteMonitor = job.siteMonitor ∧ former.pingsSeen = job.pingsSeen)
    : PingsCovered { state with db, jobs } where
  stored := by
    rw [same]
    exact covered.stored
  seen job member := by
    obtain ⟨former, isFormer, _, sameSeen⟩ := known job member
    exact sameSeen ▸ covered.seen former isFormer
  claimed job member := by
    obtain ⟨former, isFormer, sameRow, sameSeen⟩ := known job member
    exact sameRow ▸ sameSeen ▸ covered.claimed former isFormer
  sound := covered.sound

theorem PingsCovered.advance {later : Int} (covered : PingsCovered state)
    (after : state.now ≤ later)
    : PingsCovered { state with now := later } where
  stored ping member := by
    obtain ⟨before, isCovered⟩ := covered.stored ping member
    exact ⟨before.trans (Int.ediv_le_ediv (by decide) after), isCovered⟩
  seen := covered.seen
  claimed := covered.claimed
  sound := covered.sound

/-- A ping is covered by the row it updates, and covers the earlier ones of the same monitor. -/
theorem PingsCovered.ping (covered : PingsCovered state) (heartbeatToken : String)
    : PingsCovered
        { state with
          db := (recordHeartbeatPing state.db state.timestamp heartbeatToken).2
          pings :=
            state.pings
            ++ ((recordHeartbeatPing state.db state.timestamp heartbeatToken).1.map fun monitor =>
                ⟨monitor.id, state.timestamp⟩).toList } where
  stored ping member := by
    rcases List.mem_append.mp member with before | new
    · obtain ⟨atMost, last, isLast, covers⟩ := covered.stored ping before
      refine ⟨atMost, ?_⟩
      rcases pingedAt_recordHeartbeatPing state.db state.timestamp heartbeatToken ping.monitorId
        with moved | same
      · exact ⟨state.timestamp, moved, atMost⟩
      · exact ⟨last, same.trans isLast, covers⟩
    · obtain ⟨monitor, isPinged, rfl⟩ := Option.map_eq_some_iff.mp (Option.mem_toList.mp new)
      exact ⟨le_refl _, state.timestamp, pingedAt_of_pinged isPinged, le_refl _⟩
  seen job member := by
    rw [List.length_append]
    exact Nat.le_add_right_of_le (covered.seen job member)
  claimed job member ping seen := by
    rw [List.take_append_of_le_length (covered.seen job member)] at seen
    exact covered.claimed job member ping seen
  sound := covered.sound

theorem PingsCovered.claim (covered : PingsCovered state) (workerId : String) (limit : Nat)
    (leaseSeconds : Int) (locked : List Int)
    : PingsCovered
        { state with
          db :=
            (claimSiteMonitorsDueForCheck state.db state.timestamp workerId limit leaseSeconds
              locked).1
          jobs :=
            state.jobs
            ++ (claimSiteMonitorsDueForCheck state.db state.timestamp workerId limit leaseSeconds
                locked).2.rows.map fun siteMonitor =>
                ⟨workerId, siteMonitor, state.pings.length, false⟩ } where
  stored := by
    rw [pingedAt_claimSiteMonitorsDueForCheck]
    exact covered.stored
  seen job member := by
    rcases List.mem_append.mp member with before | new
    · exact covered.seen job before
    · obtain ⟨row, _, rfl⟩ := List.mem_map.mp new
      exact Nat.le_refl _
  claimed job member ping seen isOf := by
    rcases List.mem_append.mp member with before | new
    · exact covered.claimed job before ping seen isOf
    · obtain ⟨row, claimed, rfl⟩ := List.mem_map.mp new
      have isCovered := (covered.stored ping (List.mem_of_mem_take seen)).2
      rw [lastHeartbeatReceivedAt_of_claimed claimed, ← isOf]
      exact isCovered
  sound := covered.sound

/-- A check that sees every recent ping raises no false alarm. -/
theorem PingsCovered.evaluate {job : HeartbeatJob} (covered : PingsCovered state)
    (isJob : job ∈ state.jobs)
    (sees
      : ∀ ping ∈ state.pings.drop job.pingsSeen, ¬IsRecentPing job.siteMonitor state.now ping)
    : PingsCovered
        { state with
          evaluated :=
            state.evaluated
            ++ [⟨job.siteMonitor, state.now, checkHeartbeat job.siteMonitor state.now,
                state.pings⟩] } where
  stored := covered.stored
  seen := covered.seen
  claimed := covered.claimed
  sound evaluated member := by
    rcases List.mem_append.mp member with before | new
    · exact covered.sound evaluated before
    · obtain rfl := List.mem_singleton.mp new
      intro overdue ping committed recent
      rw [← List.take_append_drop job.pingsSeen state.pings] at committed
      rcases List.mem_append.mp committed with seen | missed
      · have isCovered := covered.claimed job isJob ping seen recent.1
        exact not_isRecentPing_of_covered isCovered overdue recent
      · exact sees ping missed recent

theorem PingsCovered.step (covered : PingsCovered state)
    (taken : stepHeartbeatCheck state event = some after) (sees : SeesRecentPings state event)
    : PingsCovered after := by
  cases event with
  | advanceClock later =>
      simp only [stepHeartbeatCheck] at taken
      split at taken
      · next ordered =>
          cases taken
          exact covered.advance ordered
      · cases taken
  | ping heartbeatToken =>
      cases taken
      exact covered.ping heartbeatToken
  | claim workerId limit leaseSeconds locked =>
      cases taken
      exact covered.claim workerId limit leaseSeconds locked
  | ensureInitialLease index leaseSeconds =>
      obtain ⟨job, found, continues⟩ := Option.bind_eq_some_iff.mp taken
      obtain ⟨_, _, rest⟩ := Option.bind_eq_some_iff.mp continues
      cases rest
      refine covered.keep (pingedAt_extendSiteMonitorClaim _ _ _ _ _) fun kept member => ?_
      split at member
      · rcases mem_modify member with before | ⟨former, found, rfl⟩
        · exact ⟨kept, before, rfl, rfl⟩
        · exact ⟨former, List.mem_of_getElem? found, rfl, rfl⟩
      · exact ⟨kept, List.mem_of_mem_eraseIdx member, rfl, rfl⟩
  | extendLease index leaseSeconds =>
      obtain ⟨job, found, continues⟩ := Option.bind_eq_some_iff.mp taken
      obtain ⟨_, _, rest⟩ := Option.bind_eq_some_iff.mp continues
      cases rest
      exact covered.keep (pingedAt_extendSiteMonitorClaim _ _ _ _ _)
        fun kept member => ⟨kept, member, rfl, rfl⟩
  | evaluate index =>
      obtain ⟨job, found, continues⟩ := Option.bind_eq_some_iff.mp taken
      obtain ⟨_, _, rest⟩ := Option.bind_eq_some_iff.mp continues
      cases rest
      exact covered.evaluate (List.mem_of_getElem? found) (sees job found)
  | finish index =>
      cases taken
      exact covered.keep rfl fun kept member => ⟨kept, List.mem_of_mem_eraseIdx member, rfl, rfl⟩

/-- However pings, claims, lease extensions and checks interleave, no check raises a false alarm, if
no recent ping has come between its claim and its evaluation.
-/
theorem checkHeartbeat_noFalseAlarm (noJobs : start.jobs = []) (noPings : start.pings = [])
    (noChecks : start.evaluated = [])
    (steps
      : ReflTransGen
          (NextWhere stepHeartbeatCheck fun state event _ => SeesRecentPings state event)
          start last)
    : ∀ evaluated ∈ last.evaluated, evaluated.NoFalseAlarm := by
  have initial : PingsCovered start := by
    constructor
    · rw [noPings]
      exact fun _ member => absurd member List.not_mem_nil
    · rw [noJobs]
      exact fun _ member => absurd member List.not_mem_nil
    · rw [noJobs]
      exact fun _ member => absurd member List.not_mem_nil
    · rw [noChecks]
      exact fun _ member => absurd member List.not_mem_nil
  have covered : PingsCovered last :=
    kept_along PingsCovered (fun _ _ _ covered taken sees => covered.step taken sees) initial steps
  exact covered.sound

------------------------------------------------------------
-- A small deployment
------------------------------------------------------------

instance {evaluatedAt : Int} {ping : HeartbeatPing}
    : Decidable (IsRecentPing siteMonitor evaluatedAt ping) :=
  inferInstanceAs (Decidable (_ ∧ _))

instance : Decidable (SeesRecentPings state event) :=
  match event with
  | .evaluate index =>
      inferInstanceAs (Decidable (∀ job ∈ state.jobs[index]?,
        ∀ ping ∈ state.pings.drop job.pingsSeen, ¬IsRecentPing job.siteMonitor state.now ping))
  | .advanceClock _ | .ping _ | .claim _ _ _ _ | .ensureInitialLease _ _ | .extendLease _ _
  | .finish _ => isTrue trivial

/-- One heartbeat monitor that expects a ping every minute. -/
def minutely : HeartbeatState where
  db :=
    { Database.empty with
      sites :=
        SerialTable.empty.insert fun id =>
          { id, name := "cron", baseUrl := "https://cron.test", isActive := true, createdAt := 0
            updatedAt := 0 }
      siteMonitors :=
        SerialTable.empty.insert fun id =>
          { SiteMonitor.withDefaults 0 1 .heartbeat "/v1/heartbeat/a" id with
            checkIntervalSeconds := 60
            heartbeatToken := some "a"
            lastCheckedAt := some 0 } }
  now := 0
  jobs := []
  pings := []
  evaluated := []

/-- A number of seconds in nanoseconds. -/
def secondsOfClock (count : Int) : Int := count * 1000000000

/-- The ping comes before the claim, and the next one is missed. -/
def pingedThenMissed : List HeartbeatEvent :=
  [.advanceClock (secondsOfClock 50), .ping "a", .advanceClock (secondsOfClock 90),
    .claim "w1" 10 60 [], .ensureInitialLease 0 60, .evaluate 0, .finish 0,
    .advanceClock (secondsOfClock 180), .claim "w1" 10 60 [], .ensureInitialLease 0 60,
    .extendLease 0 60, .evaluate 0]

theorem checkHeartbeat_noFalseAlarm_missed
    : ∃ last,
        runWhere stepHeartbeatCheck (fun state event _ => SeesRecentPings state event) minutely
          pingedThenMissed = some last
        ∧ last.evaluated.map (·.result.failureReason) = [none, some "heartbeat_overdue"]
        ∧ ∀ evaluated ∈ last.evaluated, evaluated.NoFalseAlarm := by
  have scenario
      : (runWhere stepHeartbeatCheck (fun state event _ => SeesRecentPings state event) minutely
          pingedThenMissed).any
          (·.evaluated.map (·.result.failureReason) = [none, some "heartbeat_overdue"])
        = true := by
    decide +kernel
  obtain ⟨last, ran, reported⟩ := Option.any_eq_true _ _ |>.mp scenario
  exact ⟨last, ran, of_decide_eq_true reported,
    checkHeartbeat_noFalseAlarm rfl rfl rfl (path_of_runWhere ran)⟩

/-- The ping comes between the claim and the evaluation. -/
def pingedAfterClaim : List HeartbeatEvent :=
  [.advanceClock (secondsOfClock 90), .claim "w1" 10 60 [], .ensureInitialLease 0 60, .ping "a",
    .evaluate 0]

/-- The check reports a missed heartbeat at the very instant of a ping. -/
theorem checkHeartbeat_falseAlarm
    : ∃ last,
        run stepHeartbeatCheck minutely pingedAfterClaim = some last
        ∧ ∃ evaluated ∈ last.evaluated, ¬evaluated.NoFalseAlarm := by
  have scenario
      : (run stepHeartbeatCheck minutely pingedAfterClaim).any
          (fun last =>
            last.evaluated.any fun evaluated =>
              evaluated.result.failureReason = some "heartbeat_overdue"
              && evaluated.pings.any fun ping =>
                  IsRecentPing evaluated.siteMonitor evaluated.evaluatedAt ping) = true := by
    decide +kernel
  obtain ⟨last, ran, alarms⟩ := Option.any_eq_true _ _ |>.mp scenario
  obtain ⟨evaluated, member, alarm⟩ := List.any_eq_true.mp alarms
  obtain ⟨overdue, pinged⟩ := Bool.and_eq_true_iff.mp alarm
  obtain ⟨ping, committed, recent⟩ := List.any_eq_true.mp pinged
  refine ⟨last, ran, evaluated, member, fun sound => ?_⟩
  exact sound (of_decide_eq_true overdue) ping committed (of_decide_eq_true recent)

end AlonSentinel.System
