import Mathlib.Data.Prod.Lex
import AlonSentinel.System.RetainedDeliveries

/-! The backlog of expired checks. A call deletes the oldest ones, up to a batch, and the calls go
on at once until one of them comes back with less than a batch.
-/

namespace AlonSentinel.System

open Configuration
open DatabaseSession
open DatabaseSession.Session
open Domain
open MachineInteger
open Worker

------------------------------------------------------------
-- The order of deletion
------------------------------------------------------------

theorem retentionOrder_iff {first second : SiteMonitorCheck}
    : first.retentionOrder second = true
      ↔ toLex (first.checkedAt, first.id) ≤ toLex (second.checkedAt, second.id) := by
  simp [SiteMonitorCheck.retentionOrder, Prod.Lex.toLex_le_toLex]

/-- The checks that a call may delete: some of those before the cutoff, up to a batch, and none
that leaves an older one behind.
-/
structure DeletesOldest (cutoff : Timestamp) (batch : Nat) (before after : Database) : Prop where
  noneAdded : after.siteMonitorChecks.rows.Sublist before.siteMonitorChecks.rows
  recentKept
    : ∀ check ∈ before.siteMonitorChecks.rows,
        cutoff ≤ check.checkedAt → check ∈ after.siteMonitorChecks.rows
  oldestFirst
    : ∀ check ∈ before.siteMonitorChecks.rows,
        check ∉ after.siteMonitorChecks.rows
        → ∀ older ∈ before.siteMonitorChecks.rows,
            older.retentionOrder check = true → older ∉ after.siteMonitorChecks.rows
  atMost
    : before.siteMonitorChecks.rows.length ≤ after.siteMonitorChecks.rows.length + batch

theorem DeletesOldest.refl {cutoff : Timestamp} {batch : Nat} {db : Database}
    : DeletesOldest cutoff batch db db where
  noneAdded := List.Sublist.refl _
  recentKept _ member _ := member
  oldestFirst _ member gone := absurd member gone
  atMost := Nat.le_add_right _ _

/-- How many checks are expired. -/
def backlog (cutoff : Timestamp) (db : Database) : Nat :=
  db.siteMonitorChecks.rows.countP (·.checkedAt < cutoff)

variable {db : Database} {cutoff : Timestamp} {batch : Nat}

theorem rows_deleteChecks {deleted : List Int}
    : (deleteChecks db deleted).siteMonitorChecks.rows
      = db.siteMonitorChecks.rows.filter fun check => decide (check.id ∉ deleted) := by
  simp [deleteChecks]

theorem mem_deleteChecks {deleted : List Int} {check : SiteMonitorCheck}
    : check ∈ (deleteChecks db deleted).siteMonitorChecks.rows
      ↔ check ∈ db.siteMonitorChecks.rows ∧ check.id ∉ deleted := by
  rw [rows_deleteChecks, List.mem_filter, decide_eq_true_iff]

/-- A check that is deleted is expired. -/
theorem expired_of_picked {check : SiteMonitorCheck} (stored : check ∈ db.siteMonitorChecks.rows)
    (picked : check.id ∈ expiredChecks db cutoff batch)
    : check.checkedAt < cutoff := by
  obtain ⟨row, isRow, met, same⟩ := KeyedTable.Table.mem_pick picked
  obtain rfl := KeyedTable.Table.eq_of_key_eq isRow stored same
  exact of_decide_eq_true met

/-- What comes before a deleted check is deleted too. -/
theorem picked_of_older {check older : SiteMonitorCheck}
    (stored : check ∈ db.siteMonitorChecks.rows)
    (picked : check.id ∈ expiredChecks db cutoff batch)
    (isOlder : older ∈ db.siteMonitorChecks.rows) (before : older.retentionOrder check = true)
    : older.id ∈ expiredChecks db cutoff batch := by
  have expired : older.checkedAt < cutoff := by
    apply lt_of_le_of_lt _ (expired_of_picked stored picked)
    rcases Prod.Lex.toLex_le_toLex.mp (retentionOrder_iff.mp before) with less | ⟨same, _⟩
    · exact less.le
    · exact same.le
  apply KeyedTable.Table.mem_pick_of_before _ _ _ stored picked isOlder (decide_eq_true expired)
    before
  · intro first second
    rw [retentionOrder_iff, retentionOrder_iff]
    exact le_total _ _
  · intro first second third
    rw [retentionOrder_iff, retentionOrder_iff, retentionOrder_iff]
    exact le_trans
  · intro first second
    rw [retentionOrder_iff, retentionOrder_iff]
    intro forth back
    exact congrArg Prod.snd (toLex.injective (le_antisymm forth back))

theorem length_expiredChecks_le : (expiredChecks db cutoff batch).length ≤ batch := by
  unfold expiredChecks
  rw [KeyedTable.Table.length_pick]
  exact min_le_left _ _

theorem deletesOldest_expiredChecks
    : DeletesOldest cutoff batch db (deleteChecks db (expiredChecks db cutoff batch)) where
  noneAdded := rows_deleteChecks ▸ List.filter_sublist
  recentKept := by
    intro check stored recent
    refine mem_deleteChecks.mpr ⟨stored, fun picked => ?_⟩
    exact absurd (expired_of_picked stored picked) (not_lt.mpr recent)
  oldestFirst := by
    intro check stored gone older isOlder before kept
    have picked : check.id ∈ expiredChecks db cutoff batch := by
      by_contra unpicked
      exact gone (mem_deleteChecks.mpr ⟨stored, unpicked⟩)
    exact (mem_deleteChecks.mp kept).2 (picked_of_older stored picked isOlder before)
  atMost := by
    have deleted := db.siteMonitorChecks.countP_mem_le (expiredChecks db cutoff batch)
    rw [rows_deleteChecks, ← List.countP_eq_length_filter,
      List.length_eq_countP_add_countP fun check =>
        decide (check.id ∉ expiredChecks db cutoff batch)]
    refine Nat.add_le_add_left (le_trans ?_ (deleted.trans length_expiredChecks_le)) _
    exact List.countP_mono_left fun check _ => by simp

theorem backlog_deleteChecks
    : backlog cutoff (deleteChecks db (expiredChecks db cutoff batch))
      = backlog cutoff db - batch := by
  unfold backlog
  rw [rows_deleteChecks, List.countP_filter]
  rw [← KeyedTable.Table.countP_unpicked _ _ SiteMonitorCheck.retentionOrder]
  exact List.countP_congr fun check _ => by rw [Bool.and_comm, expiredChecks]

/-- Without a backlog, no check is older than the cutoff. -/
theorem backlog_eq_zero
    : backlog cutoff db = 0 ↔ ∀ check ∈ db.siteMonitorChecks.rows, cutoff ≤ check.checkedAt := by
  simp [backlog, List.countP_eq_zero]

------------------------------------------------------------
-- One call
------------------------------------------------------------

theorem asI64_nonneg_iff {value : UInt64} : 0 ≤ asI64 value.toNat ↔ value.toNat ≤ i64Max := by
  have bound := toNat_le_u64Max value
  constructor
  · intro nonnegative
    by_contra tooLarge
    exact absurd nonnegative (not_le.mpr (asI64_neg bound (not_le.mp tooLarge)))
  · intro fits
    rw [(asI64_eq_self bound).mpr fits]
    exact Int.natCast_nonneg _

variable {config : Config} {toTimestamptz : Int → Timestamp} {now nextRunAt : Int}
  {cutoffInstant : Int} {lockAcquired : Bool} {faults : Nat → Option RetentionError}

/-- The limit of the statement is the batch size, if it is not negative. -/
theorem toNat_retentionBatchLimit (fits : 0 ≤ retentionBatchLimit config)
    : (retentionBatchLimit config).toNat = config.siteMonitorCheckRetentionBatchSize.toNat := by
  have bound := toNat_le_u64Max config.siteMonitorCheckRetentionBatchSize
  unfold retentionBatchLimit at fits ⊢
  rw [(asI64_eq_self bound).mpr (asI64_nonneg_iff.mp fits), Int.toNat_natCast]

/-- Whatever becomes of a call, it deletes the oldest expired checks or none. -/
theorem prune_deletesOldest (isCutoff : retentionCutoff config now = some cutoffInstant)
    : DeletesOldest (toTimestamptz cutoffInstant) config.siteMonitorCheckRetentionBatchSize.toNat
        db
        ((pruneSiteMonitorCheckHistoryIfDue toTimestamptz config now lockAcquired nextRunAt).run
          faults 0 db).db := by
  by_cases prunes : ∃ cutoff, Prunes config now lockAcquired nextRunAt faults cutoff
  · obtain ⟨cutoff, prunes⟩ := prunes
    obtain rfl := Option.some.inj (prunes.isCutoff.symm.trans isCutoff)
    rw [prunes.deletes, prunedChecks, toNat_retentionBatchLimit prunes.limit]
    exact deletesOldest_expiredChecks
  · rw [unchanged_of_not_prunes (not_exists.mp prunes)]
    exact .refl

/-- The database and the next run, from one call to the next. -/
@[ext]
structure RetentionState where
  db : Database
  nextRunAt : Int

/-- One more call at the same time, with the lock free and no statement failing. -/
def pruneAgain (toTimestamptz : Int → Timestamp) (config : Config) (now : Int)
    (state : RetentionState)
    : RetentionState :=
  let ran :=
    (pruneSiteMonitorCheckHistoryIfDue toTimestamptz config now true state.nextRunAt).run
      (fun _ => none) 0 state.db
  { db := ran.db
    nextRunAt := ran.result.toOption.elim state.nextRunAt (·.nextRunAt) }

variable {state : RetentionState}

theorem db_pruneAgain
    : (pruneAgain toTimestamptz config now state).db
      = ((pruneSiteMonitorCheckHistoryIfDue toTimestamptz config now true state.nextRunAt).run
          (fun _ => none) 0 state.db).db :=
  rfl

theorem nextRunAt_pruneAgain {result : Except RetentionError RetentionRun} {next : Nat}
    {after : Database}
    (ran
      : (pruneSiteMonitorCheckHistoryIfDue toTimestamptz config now true state.nextRunAt).run
          (fun _ => none) 0 state.db = ⟨result, next, after⟩)
    : (pruneAgain toTimestamptz config now state).nextRunAt
      = result.toOption.elim state.nextRunAt (·.nextRunAt) := by
  unfold pruneAgain
  rw [ran]

/-- A call that is due deletes a batch of the backlog; the next one is due if that was full. -/
theorem pruneAgain_backlog (toTimestamptz : Int → Timestamp)
    (isCutoff : retentionCutoff config now = some cutoffInstant)
    (due : state.nextRunAt ≤ now) (fits : 0 ≤ retentionBatchLimit config)
    : backlog (toTimestamptz cutoffInstant) (pruneAgain toTimestamptz config now state).db
        = backlog (toTimestamptz cutoffInstant) state.db
          - config.siteMonitorCheckRetentionBatchSize.toNat
      ∧ (config.siteMonitorCheckRetentionBatchSize.toNat
            ≤ backlog (toTimestamptz cutoffInstant) state.db
          → (pruneAgain toTimestamptz config now state).nextRunAt = now) := by
  have prunes : Prunes config now true state.nextRunAt (fun _ => none) cutoffInstant :=
    ⟨due, isCutoff, rfl, fits, fun _ _ => rfl⟩
  constructor
  · rw [db_pruneAgain, prunes.deletes, prunedChecks, toNat_retentionBatchLimit fits]
    exact backlog_deleteChecks
  · intro full
    have deleted
        : (expiredChecks state.db (toTimestamptz cutoffInstant)
            (retentionBatchLimit config).toNat).length
          = config.siteMonitorCheckRetentionBatchSize.toNat := by
      unfold expiredChecks
      rw [KeyedTable.Table.length_pick, toNat_retentionBatchLimit fits]
      exact min_eq_left full
    have ran
        : (pruneSiteMonitorCheckHistoryIfDue toTimestamptz config now true state.nextRunAt).run
            (fun _ => none) 0 state.db
          = ⟨.ok ⟨config.siteMonitorCheckRetentionBatchSize.toNat, now⟩, 0 + 4,
              deleteChecks state.db
                (expiredChecks state.db (toTimestamptz cutoffInstant)
                  (retentionBatchLimit config).toNat)⟩ := by
      unfold pruneSiteMonitorCheckHistoryIfDue
      rw [if_neg (not_lt.mpr due), isCutoff, run_orPanic_bind, bind_eq_ok]
      refine ⟨_, _, _, pruneChecksOlderThan_eq_ok.mpr
        (.inr ⟨rfl, fits, fun _ _ => rfl, rfl, rfl, rfl⟩), ?_⟩
      rw [deleted]
      dsimp only
      rw [if_pos le_rfl]
      exact pure_eq_ok.mpr ⟨rfl, rfl, rfl⟩
    exact nextRunAt_pruneAgain ran

/-- With a negative limit, a call deletes nothing and fails if it is due. -/
theorem pruneAgain_of_negative (isCutoff : retentionCutoff config now = some cutoffInstant)
    (negative : retentionBatchLimit config < 0)
    : pruneAgain toTimestamptz config now state = state := by
  have unchanged : (pruneAgain toTimestamptz config now state).db = state.db :=
    unchanged_of_not_prunes fun _ prunes => absurd prunes.limit (not_le.mpr negative)
  have notMoved : (pruneAgain toTimestamptz config now state).nextRunAt = state.nextRunAt := by
    rcases ran
      : (pruneSiteMonitorCheckHistoryIfDue toTimestamptz config now true state.nextRunAt).run
          (fun _ => none) 0 state.db
      with ⟨error | result, next, after⟩
    · exact nextRunAt_pruneAgain ran
    · rw [nextRunAt_pruneAgain ran]
      unfold pruneSiteMonitorCheckHistoryIfDue at ran
      by_cases due : state.nextRunAt ≤ now
      · rw [if_neg (not_lt.mpr due), isCutoff, run_orPanic_bind, bind_eq_ok] at ran
        obtain ⟨_, _, _, transaction, _⟩ := ran
        rcases pruneChecksOlderThan_eq_ok.mp transaction with ⟨noLock, _⟩ | ⟨_, nonnegative, _⟩
        · cases noLock
        · exact absurd nonnegative (not_le.mpr negative)
      · rw [if_pos (not_le.mp due)] at ran
        obtain ⟨rfl, _, _⟩ := pure_eq_ok.mp ran
        rfl
  exact RetentionState.ext unchanged notMoved

------------------------------------------------------------
-- Calls at one time
------------------------------------------------------------

/-- After finitely many calls, all of them due, no check is older than the cutoff. -/
def Drains (toTimestamptz : Int → Timestamp) (config : Config) (now : Int) (cutoff : Timestamp)
    (start : RetentionState)
    : Prop :=
  ∃ calls,
    (∀ earlier < calls, ((pruneAgain toTimestamptz config now)^[earlier] start).nextRunAt ≤ now)
    ∧ ∀ check
        ∈ ((pruneAgain toTimestamptz config now)^[calls] start).db.siteMonitorChecks.rows,
        cutoff ≤ check.checkedAt

/-- A batch at a time, the backlog is deleted. Witness: strong induction on its size. -/
theorem drains_of_fits (isCutoff : retentionCutoff config now = some cutoffInstant)
    (positive : config.siteMonitorCheckRetentionBatchSize ≠ 0)
    (fits : 0 ≤ retentionBatchLimit config) (due : state.nextRunAt ≤ now)
    : Drains toTimestamptz config now (toTimestamptz cutoffInstant) state := by
  have someBatch : 0 < config.siteMonitorCheckRetentionBatchSize.toNat :=
    Nat.pos_of_ne_zero fun zero => positive (UInt64.toNat_inj.mp zero)
  induction size : backlog (toTimestamptz cutoffInstant) state.db using Nat.strong_induction_on
    generalizing state with
  | _ size ih =>
      subst size
      obtain ⟨smaller, goesOn⟩ := pruneAgain_backlog toTimestamptz isCutoff due fits
      by_cases full
          : config.siteMonitorCheckRetentionBatchSize.toNat
            ≤ backlog (toTimestamptz cutoffInstant) state.db
      · obtain ⟨calls, allDue, drained⟩ := ih _ (by omega) (goesOn full).le smaller
        refine ⟨calls + 1, fun earlier before => ?_, ?_⟩
        · cases earlier with
          | zero => exact due
          | succ earlier =>
              rw [Function.iterate_succ_apply]
              exact allDue earlier (Nat.lt_of_succ_lt_succ before)
        · rw [Function.iterate_succ_apply]
          exact drained
      · refine ⟨1, fun earlier before => ?_, backlog_eq_zero.mp ?_⟩
        · rw [Nat.lt_one_iff.mp before]
          exact due
        · rw [Function.iterate_one, smaller]
          omega

/-- The backlog drains exactly if the batch size is none that becomes negative, or if there is no
backlog.
-/
theorem drains_iff (isCutoff : retentionCutoff config now = some cutoffInstant)
    (positive : config.siteMonitorCheckRetentionBatchSize ≠ 0) (due : state.nextRunAt ≤ now)
    : Drains toTimestamptz config now (toTimestamptz cutoffInstant) state
      ↔ config.siteMonitorCheckRetentionBatchSize.toNat ≤ i64Max
        ∨ ∀ check ∈ state.db.siteMonitorChecks.rows,
            toTimestamptz cutoffInstant ≤ check.checkedAt := by
  constructor
  · rintro ⟨calls, _, drained⟩
    by_cases fits : config.siteMonitorCheckRetentionBatchSize.toNat ≤ i64Max
    · exact .inl fits
    · have negative : retentionBatchLimit config < 0 :=
        asI64_neg (toNat_le_u64Max _) (not_le.mp fits)
      have stays : (pruneAgain toTimestamptz config now)^[calls] state = state :=
        Function.iterate_fixed (pruneAgain_of_negative isCutoff negative) calls
      rw [stays] at drained
      exact .inr drained
  · rintro (fits | drained)
    · exact drains_of_fits isCutoff positive (asI64_nonneg_iff.mpr fits) due
    · exact ⟨0, fun _ before => absurd before (Nat.not_lt_zero _), drained⟩

/-- Each call deletes the oldest expired checks or none, and the calls drain the backlog, exactly if
the batch size fits the limit of a statement or there is no backlog.
-/
theorem retention_drains_iff (toTimestamptz : Int → Timestamp) (config : Config) (now : Int)
    (state : RetentionState) (isCutoff : retentionCutoff config now = some cutoffInstant)
    (positive : config.siteMonitorCheckRetentionBatchSize ≠ 0) (due : state.nextRunAt ≤ now)
    : (∀ lockAcquired nextRunAt faults db,
          DeletesOldest (toTimestamptz cutoffInstant)
            config.siteMonitorCheckRetentionBatchSize.toNat db
            ((pruneSiteMonitorCheckHistoryIfDue toTimestamptz config now lockAcquired
                nextRunAt).run faults 0 db).db)
        ∧ Drains toTimestamptz config now (toTimestamptz cutoffInstant) state
      ↔ config.siteMonitorCheckRetentionBatchSize.toNat ≤ i64Max
        ∨ ∀ check ∈ state.db.siteMonitorChecks.rows,
            toTimestamptz cutoffInstant ≤ check.checkedAt := by
  rw [← drains_iff isCutoff positive due]
  exact and_iff_right fun _ _ _ _ => prune_deletesOldest isCutoff

/-- A hundred days after the checks of the small deployment. -/
def hundredDaysLater : Int := seconds 8640000 * 1000

theorem retention_drains_default
    : ∃ config cutoff,
        Config.fromEnvGetter (environmentWith []) = .ok config
        ∧ retentionCutoff config hundredDaysLater = some cutoff
        ∧ Drains (· / 1000) config hundredDaysLater (cutoff / 1000)
            ⟨(smallRun neverDelivered neverDelivered_enabled).db, 0⟩ := by
  have scenario
      : ((Config.fromEnvGetter (environmentWith [])).toOption.any fun config =>
          (retentionCutoff config hundredDaysLater).any fun _ =>
            config.siteMonitorCheckRetentionBatchSize ≠ 0
            && config.siteMonitorCheckRetentionBatchSize.toNat ≤ i64Max) = true := by
    decide +kernel
  obtain ⟨config, configured, hasCutoff⟩ := Fallible.exists_of_any_toOption scenario
  obtain ⟨cutoff, isCutoff, fits⟩ := (Option.any_eq_true _ _).mp hasCutoff
  obtain ⟨positive, fits⟩ := Bool.and_eq_true_iff.mp fits
  refine ⟨config, cutoff, configured, isCutoff, ?_⟩
  refine ((retention_drains_iff (· / 1000) config hundredDaysLater
    ⟨(smallRun neverDelivered neverDelivered_enabled).db, 0⟩ isCutoff
    (of_decide_eq_true positive) ?_).mpr
    (.inl (of_decide_eq_true fits))).2
  decide +kernel

/-- A batch size beyond the `i64` range is accepted, and the old checks stay. -/
theorem retention_not_drained
    : ∃ config cutoff,
        Config.fromEnvGetter
            (environmentWith
              [("SITE_MONITOR_CHECK_RETENTION_BATCH_SIZE", "9223372036854775808")])
          = .ok config
        ∧ retentionCutoff config hundredDaysLater = some cutoff
        ∧ Reached smallConfig (smallRun neverDelivered neverDelivered_enabled)
        ∧ ¬Drains (· / 1000) config hundredDaysLater (cutoff / 1000)
            ⟨(smallRun neverDelivered neverDelivered_enabled).db, 0⟩ := by
  have scenario
      : ((Config.fromEnvGetter
            (environmentWith
              [("SITE_MONITOR_CHECK_RETENTION_BATCH_SIZE", "9223372036854775808")])).toOption.any
          fun config =>
            (retentionCutoff config hundredDaysLater).any fun cutoff =>
              config.siteMonitorCheckRetentionBatchSize ≠ 0
              && i64Max < config.siteMonitorCheckRetentionBatchSize.toNat
              && (smallRun neverDelivered neverDelivered_enabled).db.siteMonitorChecks.rows.any
                  fun check => check.checkedAt < cutoff / 1000) = true := by
    decide +kernel
  obtain ⟨config, configured, hasCutoff⟩ := Fallible.exists_of_any_toOption scenario
  obtain ⟨cutoff, isCutoff, fails⟩ := (Option.any_eq_true _ _).mp hasCutoff
  simp only [Bool.and_eq_true, decide_eq_true_eq, List.any_eq_true] at fails
  obtain ⟨⟨positive, tooLarge⟩, check, stored, expired⟩ := fails
  refine ⟨config, cutoff, configured, isCutoff, smallRun_reached, fun drains => ?_⟩
  have due
      : (⟨(smallRun neverDelivered neverDelivered_enabled).db, 0⟩ : RetentionState).nextRunAt
        ≤ hundredDaysLater := by
    decide +kernel
  rcases (drains_iff isCutoff positive due).mp drains with fits | drained
  · exact absurd fits (not_le.mpr tooLarge)
  · exact absurd expired (not_lt.mpr (drained check stored))

end AlonSentinel.System
