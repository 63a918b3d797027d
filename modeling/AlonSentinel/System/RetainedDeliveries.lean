import AlonSentinel.System.World
import AlonSentinel.Worker.HistoryRetention

/-! What pruning the history of checks does to the deliveries that refer to them. A delivery that
still has an attempt ahead goes with its check.
-/

namespace AlonSentinel.System

open Configuration
open DatabaseSession
open DatabaseSession.Session
open Domain
open Worker

variable {db after : Database} {config : Config} {toTimestamptz : Int → Timestamp}
  {now nextRunAt : Int} {lockAcquired : Bool} {faults : Nat → Option RetentionError}
  {cutoff : Timestamp} {limit : Int} {index next : Nat} {result : Option Nat}

/-- What one transaction of the retention does if it succeeds: nothing without the lock, and
otherwise it deletes the expired checks.
-/
theorem pruneChecksOlderThan_eq_ok
    : (pruneChecksOlderThan lockAcquired cutoff limit).run faults index db
        = ⟨.ok result, next, after⟩
      ↔ (lockAcquired = false ∧ NoFaults faults index 3 ∧ result = none ∧ db = after
          ∧ index + 3 = next)
        ∨ (lockAcquired = true ∧ 0 ≤ limit ∧ NoFaults faults index 4
          ∧ result = some (expiredChecks db cutoff limit.toNat).length
          ∧ deleteChecks db (expiredChecks db cutoff limit.toNat) = after
          ∧ index + 4 = next) := by
  unfold pruneChecksOlderThan
  simp only [transaction_eq_ok, bind_eq_ok, query_eq_ok, noFaults_succ]
  constructor
  · rintro ⟨begun, _, ⟨_, _, _, ⟨asked, ⟨rfl, rfl⟩, rfl⟩, continues⟩, ended, rfl⟩
    cases lockAcquired with
    | false =>
        rw [if_pos Bool.not_false] at continues
        obtain ⟨rfl, rfl, rfl⟩ := pure_eq_ok.mp continues
        exact .inl ⟨rfl, ⟨begun, asked, ended, noFaults_zero⟩, rfl, rfl, rfl⟩
    | true =>
        rw [Bool.not_true, if_neg Bool.false_ne_true] at continues
        obtain ⟨executed, deleted, rfl⟩ := statement_eq_ok.mp continues
        split at deleted
        · cases deleted
        · next nonnegative =>
            cases deleted
            exact .inr ⟨rfl, not_lt.mp nonnegative, ⟨begun, asked, executed, ended, noFaults_zero⟩,
              rfl, rfl, rfl⟩
  · rintro (⟨rfl, ⟨begun, asked, ended, _⟩, rfl, rfl, rfl⟩
      | ⟨rfl, nonnegative, ⟨begun, asked, executed, ended, _⟩, rfl, rfl, rfl⟩)
    · refine ⟨begun, _, ⟨_, _, _, ⟨asked, ⟨rfl, rfl⟩, rfl⟩, ?_⟩, ended, rfl⟩
      rw [if_pos Bool.not_false]
      exact pure_eq_ok.mpr ⟨rfl, rfl, rfl⟩
    · refine ⟨begun, _, ⟨_, _, _, ⟨asked, ⟨rfl, rfl⟩, rfl⟩, ?_⟩, ended, rfl⟩
      rw [Bool.not_true, if_neg Bool.false_ne_true]
      exact statement_eq_ok.mpr ⟨executed, if_neg (not_lt.mpr nonnegative), rfl⟩

/-- A transaction of the retention deletes the expired checks if it has the lock and no statement
fails, and changes nothing otherwise.
-/
theorem pruneChecksOlderThan_deletes
    (commits : lockAcquired = true ∧ 0 ≤ limit ∧ NoFaults faults index 4)
    : ((pruneChecksOlderThan lockAcquired cutoff limit).run faults index db).db
      = deleteChecks db (expiredChecks db cutoff limit.toNat) := by
  obtain ⟨acquired, nonnegative, executed⟩ := commits
  have ran
      : (pruneChecksOlderThan lockAcquired cutoff limit).run faults index db
        = ⟨.ok (some (expiredChecks db cutoff limit.toNat).length), index + 4,
            deleteChecks db (expiredChecks db cutoff limit.toNat)⟩ :=
    pruneChecksOlderThan_eq_ok.mpr (.inr ⟨acquired, nonnegative, executed, rfl, rfl, rfl⟩)
  exact congrArg Ran.db ran

theorem pruneChecksOlderThan_keeps
    (stops : ¬(lockAcquired = true ∧ 0 ≤ limit ∧ NoFaults faults index 4))
    : ((pruneChecksOlderThan lockAcquired cutoff limit).run faults index db).db = db := by
  rcases ran : (pruneChecksOlderThan lockAcquired cutoff limit).run faults index db
    with ⟨error | result, next, after⟩
  · have keeps := allOrNothing_transaction _ faults index db error (congrArg Ran.result ran)
    exact (congrArg Ran.db ran).symm.trans keeps
  · rcases pruneChecksOlderThan_eq_ok.mp ran with
      ⟨_, _, _, same, _⟩ | ⟨acquired, nonnegative, executed, _⟩
    · exact same.symm
    · exact absurd ⟨acquired, nonnegative, executed⟩ stops

theorem readOnly_orPanic (computed : Option Int) : (orPanic computed).ReadOnly :=
  readOnly_ofExcept _

theorem run_orPanic_bind {value : Int} {later : Int → RetentionSession RetentionRun}
    : (orPanic (some value) >>= later).run faults index db = (later value).run faults index db :=
  rfl

/-- What a call leaves behind is what its transaction leaves behind, if it comes to it. -/
theorem pruneSiteMonitorCheckHistoryIfDue_db {cutoff : Int} (due : nextRunAt ≤ now)
    (isCutoff : retentionCutoff config now = some cutoff)
    : ((pruneSiteMonitorCheckHistoryIfDue toTimestamptz config now lockAcquired nextRunAt).run
        faults 0 db).db
      = ((pruneChecksOlderThan lockAcquired (toTimestamptz cutoff)
          (retentionBatchLimit config)).run faults 0 db).db := by
  unfold pruneSiteMonitorCheckHistoryIfDue
  rw [if_neg (not_lt.mpr due), isCutoff, run_orPanic_bind]
  apply db_bind_of_readOnly
  intro deletedCount
  cases deletedCount with
  | none => exact (readOnly_orPanic _).bind fun _ => readOnly_pure _
  | some deletedCount =>
      simp only
      split
      · exact readOnly_pure _
      · exact (readOnly_orPanic _).bind fun _ => readOnly_pure _

/-- One call prunes the checks before a cutoff: it is due, it gets the lock, the limit is none that
the database rejects, and no statement fails.
-/
structure Prunes (config : Config) (now : Int) (lockAcquired : Bool) (nextRunAt : Int)
    (faults : Nat → Option RetentionError) (cutoff : Int)
    : Prop where
  due : nextRunAt ≤ now
  isCutoff : retentionCutoff config now = some cutoff
  acquired : lockAcquired = true
  limit : 0 ≤ retentionBatchLimit config
  executed : NoFaults faults 0 4

/-- The checks that a call deletes if it prunes. -/
def prunedChecks (toTimestamptz : Int → Timestamp) (config : Config) (cutoff : Int)
    (db : Database)
    : List Int :=
  expiredChecks db (toTimestamptz cutoff) (retentionBatchLimit config).toNat

theorem Prunes.deletes {cutoff : Int}
    (prunes : Prunes config now lockAcquired nextRunAt faults cutoff)
    : ((pruneSiteMonitorCheckHistoryIfDue toTimestamptz config now lockAcquired nextRunAt).run
        faults 0 db).db
      = deleteChecks db (prunedChecks toTimestamptz config cutoff db) := by
  rw [pruneSiteMonitorCheckHistoryIfDue_db prunes.due prunes.isCutoff]
  exact pruneChecksOlderThan_deletes ⟨prunes.acquired, prunes.limit, prunes.executed⟩

/-- A call that does not prune changes nothing. -/
theorem unchanged_of_not_prunes
    (stops : ∀ cutoff, ¬Prunes config now lockAcquired nextRunAt faults cutoff)
    : ((pruneSiteMonitorCheckHistoryIfDue toTimestamptz config now lockAcquired nextRunAt).run
        faults 0 db).db
      = db := by
  by_cases due : nextRunAt ≤ now
  · cases isCutoff : retentionCutoff config now with
    | none =>
        unfold pruneSiteMonitorCheckHistoryIfDue
        rw [if_neg (not_lt.mpr due), isCutoff]
        rfl
    | some cutoff =>
        rw [pruneSiteMonitorCheckHistoryIfDue_db due isCutoff]
        apply pruneChecksOlderThan_keeps
        rintro ⟨acquired, limit, executed⟩
        exact stops cutoff ⟨due, isCutoff, acquired, limit, executed⟩
  · unfold pruneSiteMonitorCheckHistoryIfDue
    rw [if_pos (not_le.mp due)]
    rfl

/-- A call keeps every delivery that still has an attempt ahead exactly if it does not prune the
check of any of them.
-/
theorem prune_keepsUnsettled_iff (toTimestamptz : Int → Timestamp) (config : Config) (now : Int)
    (lockAcquired : Bool) (nextRunAt : Int) (faults : Nat → Option RetentionError) (db : Database)
    : (∀ delivery ∈ db.notificationDeliveries.rows,
        delivery.isUnsettled = true
        → delivery
          ∈ ((pruneSiteMonitorCheckHistoryIfDue toTimestamptz config now lockAcquired
              nextRunAt).run faults 0 db).db.notificationDeliveries.rows)
      ↔ ∀ cutoff,
          Prunes config now lockAcquired nextRunAt faults cutoff
          → ∀ delivery ∈ db.notificationDeliveries.rows,
              delivery.isUnsettled = true
              → delivery.siteMonitorCheckId ∉ prunedChecks toTimestamptz config cutoff db := by
  constructor
  · intro keeps cutoff prunes delivery stored unsettled
    have kept := keeps delivery stored unsettled
    rw [prunes.deletes, mem_deliveries_deleteChecks] at kept
    exact kept.2
  · intro spares delivery stored unsettled
    by_cases prunes : ∃ cutoff, Prunes config now lockAcquired nextRunAt faults cutoff
    · obtain ⟨cutoff, prunes⟩ := prunes
      rw [prunes.deletes, mem_deliveries_deleteChecks]
      exact ⟨stored, spares cutoff prunes delivery stored unsettled⟩
    · rw [unchanged_of_not_prunes (not_exists.mp prunes)]
      exact stored

/-- The monitor of the small deployment fails its second check, and nobody claims the delivery. -/
def neverDelivered : List Action :=
  claimActions "w1" ++ saveActions "w1" true ++ [.advanceClock (seconds 60)]
  ++ claimActions "w1" ++ saveActions "w1" false ++ [.advanceClock (seconds 8640000)]

theorem neverDelivered_enabled
    : (runFrom smallConfig smallWorld neverDelivered).isSome = true := by
  decide +kernel

/-- A hundred days later the default retention deletes the pending delivery with its check. -/
theorem prune_loses_delivery
    : ∃ config delivery,
        Config.fromEnvGetter (environmentWith []) = .ok config
        ∧ Reached smallConfig (smallRun neverDelivered)
        ∧ delivery ∈ (smallRun neverDelivered).db.notificationDeliveries.rows
        ∧ delivery.isUnsettled = true
        ∧ delivery
          ∉ ((pruneSiteMonitorCheckHistoryIfDue (· / 1000) config (seconds 8640000 * 1000) true
              0).run (fun _ => none) 0
              (smallRun neverDelivered).db).db.notificationDeliveries.rows := by
  have scenario
      : ((Config.fromEnvGetter (environmentWith [])).toOption.any fun config =>
          (smallRun neverDelivered).db.notificationDeliveries.rows.any fun delivery =>
            delivery.isUnsettled
            && ((pruneSiteMonitorCheckHistoryIfDue (· / 1000) config (seconds 8640000 * 1000) true
                0).run (fun _ => none) 0
                (smallRun neverDelivered).db).db.notificationDeliveries.rows.all
                (·.id ≠ delivery.id)) = true := by
    decide +kernel
  obtain ⟨config, configured, loses⟩ := Fallible.exists_of_any_toOption scenario
  obtain ⟨delivery, stored, lost⟩ := List.any_eq_true.mp loses
  obtain ⟨unsettled, absent⟩ := Bool.and_eq_true_iff.mp lost
  refine ⟨config, delivery, configured, smallRun_reached, stored, unsettled, fun kept => ?_⟩
  exact of_decide_eq_true (List.all_eq_true.mp absent delivery kept) rfl

end AlonSentinel.System
