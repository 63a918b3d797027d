import AlonSentinel.Db.Migrations
import AlonSentinel.Foundation.TransitionSystem

/-! Runs of the migration runner that follow one another, each of which may be stopped before any
of its statements.
-/

namespace AlonSentinel.System

open DatabaseSession
open DatabaseSession.Session
open Db
open Db.MigrationDatabase
open KeyedTable
open Relation
open TransitionSystem

variable {Schema : Type} {directory : MigrationsDirectory Schema}
  {db after : MigrationDatabase Schema} {faults : Nat → Option MigrationError} {index next : Nat}

------------------------------------------------------------
-- What the statements do
------------------------------------------------------------

/-- Some files were executed and recorded, and nothing else happened. -/
structure Applied (filenames : List String) (db after : MigrationDatabase Schema) : Prop where
  executed : after.executed = db.executed ++ filenames
  recorded : after.recorded = db.recorded ++ filenames
  legacy : after.sqlxMigrations = db.sqlxMigrations

theorem Applied.refl (db : MigrationDatabase Schema) : Applied [] db db :=
  ⟨(List.append_nil _).symm, (List.append_nil _).symm, rfl⟩

theorem Applied.trans {first second : List String} {middle : MigrationDatabase Schema}
    (before : Applied first db middle) (later : Applied second middle after)
    : Applied (first ++ second) db after where
  executed := by rw [later.executed, before.executed, List.append_assoc]
  recorded := by rw [later.recorded, before.recorded, List.append_assoc]
  legacy := later.legacy.trans before.legacy

/-- The names recorded are distinct. -/
theorem nodup_recorded (db : MigrationDatabase Schema) : db.recorded.Nodup := by
  unfold recorded
  cases db.schemaMigrations with
  | none => exact List.nodup_nil
  | some table =>
      have unique := table.keysNodup
      rwa [List.map_id] at unique

/-- An insert records a name that is not recorded yet, or leaves it to the conflict. -/
theorem insertMigration_cases {filename : String}
    {conflict : MigrationDatabase Schema → Except MigrationError (MigrationDatabase Schema)}
    (inserted : insertMigration conflict filename db = .ok after)
    : (after.recorded = db.recorded ++ [filename]
        ∧ after.executed = db.executed ∧ after.sqlxMigrations = db.sqlxMigrations)
      ∨ (filename ∈ db.recorded ∧ conflict db = .ok after) := by
  unfold insertMigration at inserted
  unfold recorded
  cases stored : db.schemaMigrations with
  | none => simp [stored] at inserted
  | some table =>
      rw [stored] at inserted
      simp only at inserted
      split at inserted
      · cases inserted
        exact .inl ⟨rfl, rfl, rfl⟩
      · next used =>
          rw [List.map_id] at used
          exact .inr ⟨not_not.mp used, inserted⟩

/-- A file is applied, or nothing has changed. -/
theorem allOrNothing_applyMigration (file : MigrationFile Schema) (filename : String)
    : (applyMigration directory file filename).AllOrNothing := by
  have reading : (readToString file).ReadOnly := by
    intro faults index db
    unfold readToString
    rw [run_statement]
    cases faults index with
    | some fault => rfl
    | none => cases file.sql <;> rfl
  exact reading.mapError.bind_allOrNothing fun _ => allOrNothing_transaction _

theorem applyMigration_applied {file : MigrationFile Schema} {filename : String}
    (ran : (applyMigration directory file filename).run faults index db = ⟨.ok (), next, after⟩)
    : Applied [filename] db after := by
  simp only [applyMigration, bind_eq_ok, mapError_eq_ok, transaction_eq_ok, statement_eq_ok,
    readToString, Fallible.map_eq_ok, Prod.mk.injEq, true_and] at ran
  obtain ⟨sql, _, read, ⟨_, isRead, rfl⟩, _, _, ⟨_, _, inner, ⟨_, ⟨_, executed, rfl⟩, rfl⟩, _,
    ⟨_, inserted, rfl⟩, rfl⟩, _, rfl⟩ := ran
  unfold executeSql at executed
  split at isRead
  · cases isRead
  · cases isRead
    split at executed
    · cases executed
    · cases executed
      rcases insertMigration_cases inserted with ⟨isRecorded, isExecuted, isLegacy⟩ | ⟨_, refused⟩
      · exact ⟨isExecuted, isRecorded, isLegacy⟩
      · cases refused

/-- The names of the files that are not in the set. -/
def pendingFiles (appliedSet : List String) (files : List (MigrationFile Schema)) : List String :=
  (files.filterMap (·.fileName)).filter (· ∉ appliedSet)

theorem pendingFiles_cons_of_mem {appliedSet : List String} {file : MigrationFile Schema}
    {rest : List (MigrationFile Schema)} {filename : String}
    (isName : file.fileName = some filename) (present : filename ∈ appliedSet)
    : pendingFiles appliedSet (file :: rest) = pendingFiles appliedSet rest := by
  unfold pendingFiles
  rw [List.filterMap_cons_some isName, List.filter_cons_of_neg (by simpa using present)]

theorem pendingFiles_cons_of_notMem {appliedSet : List String} {file : MigrationFile Schema}
    {rest : List (MigrationFile Schema)} {filename : String}
    (isName : file.fileName = some filename) (absent : filename ∉ appliedSet)
    : pendingFiles appliedSet (file :: rest) = filename :: pendingFiles appliedSet rest := by
  unfold pendingFiles
  rw [List.filterMap_cons_some isName, List.filter_cons_of_pos (by simpa using absent)]

/-- The first of the pending files were applied. -/
def AppliedFirst (pending : List String) (db after : MigrationDatabase Schema) : Prop :=
  ∃ filenames, filenames <+: pending ∧ Applied filenames db after

theorem AppliedFirst.refl (pending : List String) (db : MigrationDatabase Schema)
    : AppliedFirst pending db db :=
  ⟨[], List.nil_prefix, .refl db⟩

theorem AppliedFirst.cons {filename : String} {pending : List String}
    {middle : MigrationDatabase Schema} (applied : Applied [filename] db middle)
    (later : AppliedFirst pending middle after)
    : AppliedFirst (filename :: pending) db after := by
  obtain ⟨filenames, isFirst, isApplied⟩ := later
  exact ⟨filename :: filenames, (List.prefix_cons_inj filename).mpr isFirst,
    applied.trans isApplied⟩

theorem parsedName_eq_ok {file : MigrationFile Schema} {filename : String}
    (named
      : (match file.fileName with
        | some filename => Except.ok filename
        | none => .error (MigrationError.message
            s!"invalid migration filename: {directory.display file}"))
        = .ok filename)
    : file.fileName = some filename := by
  split at named
  · next isName =>
      cases named
      exact isName
  · cases named

/-- However far the loop gets, it has applied the first of the pending files, by induction over the
files.
-/
theorem applyMigrations_applied {appliedSet : List String} {files : List (MigrationFile Schema)}
    {report : MigrationReport}
    : AppliedFirst (pendingFiles appliedSet files) db
        ((applyMigrations directory appliedSet files report).run faults index db).db := by
  induction files generalizing index db report with
  | nil => exact .refl _ db
  | cons file rest ih =>
      unfold applyMigrations
      apply leaves_bind (AppliedFirst _ db)
      · exact (readOnly_ofExcept _).allOrNothing.failsWith (.refl _ db)
      · intro filename mid inner parsed
        obtain ⟨named, rfl, rfl⟩ := ofExcept_eq_ok.mp parsed
        have isName := parsedName_eq_ok named
        split
        · next present =>
            rw [pendingFiles_cons_of_mem isName present]
            exact ih
        · next absent =>
            rw [pendingFiles_cons_of_notMem isName absent]
            apply leaves_bind (AppliedFirst _ db)
            · exact (allOrNothing_applyMigration file filename).failsWith (.refl _ db)
            · exact fun _ _ _ ran => .cons (applyMigration_applied ran) ih

/-- A loop that completes has applied all pending files, by induction over the files. -/
theorem applyMigrations_completed {appliedSet : List String} {files : List (MigrationFile Schema)}
    {report answer : MigrationReport}
    (ran
      : (applyMigrations directory appliedSet files report).run faults index db
        = ⟨.ok answer, next, after⟩)
    : (∀ file ∈ files, file.fileName.isSome = true)
      ∧ Applied (pendingFiles appliedSet files) db after := by
  induction files generalizing index db report with
  | nil =>
      obtain ⟨_, _, rfl⟩ := pure_eq_ok.mp ran
      exact ⟨fun _ member => absurd member List.not_mem_nil, .refl db⟩
  | cons file rest ih =>
      unfold applyMigrations at ran
      obtain ⟨filename, _, _, parsed, continues⟩ := bind_eq_ok.mp ran
      obtain ⟨named, rfl, rfl⟩ := ofExcept_eq_ok.mp parsed
      have isName := parsedName_eq_ok named
      rw [List.forall_mem_cons, isName]
      split at continues
      · next present =>
          obtain ⟨names, applied⟩ := ih continues
          rw [pendingFiles_cons_of_mem isName present]
          exact ⟨⟨rfl, names⟩, applied⟩
      · next absent =>
          obtain ⟨_, _, _, first, later⟩ := bind_eq_ok.mp continues
          obtain ⟨names, applied⟩ := ih later
          rw [pendingFiles_cons_of_notMem isName absent]
          exact ⟨⟨rfl, names⟩, (applyMigration_applied first).trans applied⟩

------------------------------------------------------------
-- The import
------------------------------------------------------------

/-- Names were recorded, and nothing was executed. -/
structure Imported (db after : MigrationDatabase Schema) : Prop where
  executed : after.executed = db.executed
  recorded : db.recorded ⊆ after.recorded
  legacy : after.sqlxMigrations = db.sqlxMigrations

theorem Imported.refl (db : MigrationDatabase Schema) : Imported db db :=
  ⟨rfl, List.Subset.refl _, rfl⟩

theorem Imported.trans (first second third : MigrationDatabase Schema)
    (before : Imported first second) (later : Imported second third)
    : Imported first third where
  executed := later.executed.trans before.executed
  recorded := List.Subset.trans before.recorded later.recorded
  legacy := later.legacy.trans before.legacy

theorem insertMigration_imported (filename : String) (db after : MigrationDatabase Schema)
    (inserted : insertMigration .ok filename db = .ok after)
    : Imported db after := by
  rcases insertMigration_cases inserted with ⟨isRecorded, isExecuted, isLegacy⟩ | ⟨_, same⟩
  · exact ⟨isExecuted, isRecorded ▸ List.subset_append_left _ _, isLegacy⟩
  · cases same
    exact .refl db

/-- Recorded after the inserts is what was recorded before and what is inserted, by induction over
the names.
-/
theorem mem_recorded_of_foldlM {filenames : List String}
    (inserted
      : filenames.foldlM (fun db filename => insertMigration .ok filename db) db = .ok after)
    (filename : String)
    : filename ∈ after.recorded ↔ filename ∈ db.recorded ∨ filename ∈ filenames := by
  induction filenames generalizing db with
  | nil =>
      cases inserted
      simp
  | cons first rest ih =>
      obtain ⟨middle, isMiddle, later⟩ := Fallible.bind_eq_ok.mp inserted
      rw [ih later, List.mem_cons]
      rcases insertMigration_cases isMiddle with ⟨isRecorded, _⟩ | ⟨present, same⟩
      · rw [isRecorded, List.mem_append, List.mem_singleton, or_assoc]
      · cases same
        constructor
        · rintro (before | later)
          · exact .inl before
          · exact .inr (.inr later)
        · rintro (before | rfl | later)
          · exact .inl before
          · exact .inl present
          · exact .inr later

/-- The files that the import finds for the versions of `_sqlx_migrations`. -/
def importedFiles (directory : MigrationsDirectory Schema) (db : MigrationDatabase Schema)
    : List String :=
  db.successfulVersions.filterMap (findByVersion directory.fileNames)

/-- A run takes a file as executed: it is recorded, or nothing is and the import finds it. -/
def TakenAsExecuted (directory : MigrationsDirectory Schema) (db : MigrationDatabase Schema)
    (filename : String)
    : Prop :=
  filename ∈ db.recorded ∨ (db.recorded = [] ∧ filename ∈ importedFiles directory db)

theorem readOnly_selectMigrations {Result : Type} (read : List String → Result)
    : (selectMigrations read : MigrationSession Schema Result).ReadOnly := by
  intro faults index db
  unfold selectMigrations
  rw [run_statement]
  cases faults index with
  | some fault => rfl
  | none => cases db.schemaMigrations <;> rfl

theorem readOnly_migrationPaths : (migrationPaths directory).ReadOnly := by
  intro faults index db
  unfold migrationPaths
  rw [run_statement]
  cases faults index with
  | some fault => rfl
  | none => cases directory.entries <;> rfl

theorem selectMigrations_eq_ok {Result : Type} {read : List String → Result} {result : Result}
    (ran
      : (selectMigrations read : MigrationSession Schema Result).run faults index db
        = ⟨.ok result, next, after⟩)
    : read db.recorded = result ∧ db = after := by
  obtain ⟨_, isRead, _⟩ := statement_eq_ok.mp ran
  unfold recorded
  split at isRead
  · cases isRead
  · next table stored =>
      cases isRead
      rw [stored]
      exact ⟨rfl, rfl⟩

theorem migrationPaths_eq_ok {files : List (MigrationFile Schema)}
    (ran : (migrationPaths directory).run faults index db = ⟨.ok files, next, after⟩)
    : directory.files = files ∧ db = after := by
  obtain ⟨_, isRead, _⟩ := statement_eq_ok.mp ran
  split at isRead
  · cases isRead
  · cases isRead
    exact ⟨rfl, rfl⟩

/-- However far the import gets, nothing is executed and no record is lost. -/
theorem importLegacySqlxMigrations_imported
    : Imported db ((importLegacySqlxMigrations directory).run faults index db).db := by
  have unchanged := Imported.refl db
  unfold importLegacySqlxMigrations
  apply leaves_bind (Imported db)
  · exact (readOnly_selectMigrations _).allOrNothing.failsWith unchanged
  intro appliedCount _ _ counted
  obtain ⟨rfl, rfl⟩ := selectMigrations_eq_ok counted
  split
  · exact unchanged
  apply leaves_bind (Imported db)
  · exact (readOnly_query _).allOrNothing.failsWith unchanged
  intro hasLegacyTable _ _ asked
  obtain ⟨_, ⟨rfl, rfl⟩, _⟩ := query_eq_ok.mp asked
  split
  · exact unchanged
  apply leaves_bind (Imported db)
  · exact (readOnly_query _).allOrNothing.failsWith unchanged
  intro legacyVersions _ _ versioned
  obtain ⟨_, ⟨rfl, rfl⟩, _⟩ := query_eq_ok.mp versioned
  split
  · exact unchanged
  apply leaves_bind (Imported db)
  · exact readOnly_migrationPaths.allOrNothing.failsWith unchanged
  intro paths _ _ listed
  obtain ⟨rfl, rfl⟩ := migrationPaths_eq_ok listed
  exact executeAll_leaves .refl .trans insertMigration_imported

/-- Behind an import that completes, the files taken as executed are recorded. -/
theorem mem_recorded_of_import {result : Unit}
    (ran
      : (importLegacySqlxMigrations directory).run faults index db = ⟨.ok result, next, after⟩)
    (filename : String)
    : filename ∈ after.recorded ↔ TakenAsExecuted directory db filename := by
  unfold importLegacySqlxMigrations at ran
  obtain ⟨_, _, _, counted, ran⟩ := bind_eq_ok.mp ran
  obtain ⟨rfl, rfl⟩ := selectMigrations_eq_ok counted
  unfold TakenAsExecuted importedFiles
  split at ran
  · next counted =>
      obtain ⟨_, _, rfl⟩ := pure_eq_ok.mp ran
      have nonempty : ¬db.recorded = [] := List.ne_nil_of_length_pos counted
      rw [or_iff_left fun ⟨empty, _⟩ => nonempty empty]
  next uncounted =>
  have empty : db.recorded = [] :=
    List.eq_nil_of_length_eq_zero (Nat.eq_zero_of_not_pos uncounted)
  rw [and_iff_right empty]
  obtain ⟨_, _, _, asked, ran⟩ := bind_eq_ok.mp ran
  obtain ⟨_, ⟨rfl, rfl⟩, _⟩ := query_eq_ok.mp asked
  have noVersions (finished : db.successfulVersions = []) (same : db = after)
      : filename ∈ after.recorded
        ↔ filename ∈ db.recorded
          ∨ filename ∈ db.successfulVersions.filterMap (findByVersion directory.fileNames) := by
    rw [finished, same, List.filterMap_nil, or_iff_left List.not_mem_nil]
  split at ran
  · next noTable =>
      obtain ⟨_, _, rfl⟩ := pure_eq_ok.mp ran
      have missing : db.sqlxMigrations = none := by simpa using noTable
      exact noVersions (by unfold successfulVersions; rw [missing]; rfl) rfl
  obtain ⟨_, _, _, versioned, ran⟩ := bind_eq_ok.mp ran
  obtain ⟨_, ⟨rfl, rfl⟩, _⟩ := query_eq_ok.mp versioned
  split at ran
  · next noVersion =>
      obtain ⟨_, _, rfl⟩ := pure_eq_ok.mp ran
      exact noVersions (List.isEmpty_iff.mp noVersion) rfl
  obtain ⟨_, _, _, listed, ran⟩ := bind_eq_ok.mp ran
  obtain ⟨rfl, rfl⟩ := migrationPaths_eq_ok listed
  exact mem_recorded_of_foldlM (executeAll_eq_ok.mp ran).2.1 filename

------------------------------------------------------------
-- One run
------------------------------------------------------------

theorem ensureMigrationsTable_eq_ok {result : Unit}
    (ran : ensureMigrationsTable.run faults index db = ⟨.ok result, next, after⟩)
    : after.executed = db.executed ∧ after.recorded = db.recorded
      ∧ after.sqlxMigrations = db.sqlxMigrations := by
  obtain ⟨_, created, _⟩ := statement_eq_ok.mp ran
  cases created
  refine ⟨rfl, ?_, rfl⟩
  unfold recorded createTableIfNotExists
  cases db.schemaMigrations <;> rfl

/-- What a run takes as executed depends on what is recorded, there and in `_sqlx_migrations`. -/
theorem takenAsExecuted_congr (recorded : after.recorded = db.recorded)
    (legacy : after.sqlxMigrations = db.sqlxMigrations) (filename : String)
    : TakenAsExecuted directory after filename ↔ TakenAsExecuted directory db filename := by
  unfold TakenAsExecuted importedFiles successfulVersions
  rw [recorded, legacy]

/-- What a run has done when it stops: it executes and records files of the directory that it does
not take as executed.
-/
structure Advanced (directory : MigrationsDirectory Schema) (db after : MigrationDatabase Schema)
    : Prop where
  executed
    : ∃ filenames,
        after.executed = db.executed ++ filenames
        ∧ filenames.Nodup
        ∧ filenames ⊆ after.recorded
        ∧ ∀ filename ∈ filenames,
            filename ∈ directory.fileNames ∧ ¬TakenAsExecuted directory db filename
  recorded : db.recorded ⊆ after.recorded
  legacy : after.sqlxMigrations = db.sqlxMigrations

theorem Imported.advanced (imported : Imported db after) : Advanced directory db after where
  executed :=
    ⟨[], by rw [imported.executed, List.append_nil], List.nodup_nil, List.nil_subset _,
      fun _ member => absurd member List.not_mem_nil⟩
  recorded := imported.recorded
  legacy := imported.legacy

theorem mem_pendingFiles {appliedSet : List String} {filename : String}
    : filename ∈ pendingFiles appliedSet directory.files
      ↔ filename ∈ directory.fileNames ∧ filename ∉ appliedSet := by
  rw [pendingFiles, List.mem_filter, decide_eq_true_eq]
  rfl

/-- Files applied behind the import are new, because their names are recorded only once. -/
theorem AppliedFirst.advanced {inner : MigrationDatabase Schema}
    (appliedFirst : AppliedFirst (pendingFiles inner.recorded directory.files) inner after)
    (imported : Imported db inner)
    (taken : ∀ filename, filename ∈ inner.recorded ↔ TakenAsExecuted directory db filename)
    : Advanced directory db after := by
  obtain ⟨filenames, isFirst, applied⟩ := appliedFirst
  have unique := nodup_recorded after
  rw [applied.recorded] at unique
  refine ⟨⟨filenames, ?_, (List.nodup_append.mp unique).2.1, ?_, fun filename member => ?_⟩, ?_, ?_⟩
  · rw [applied.executed, imported.executed]
  · rw [applied.recorded]
    exact List.subset_append_right _ _
  · rw [← taken]
    exact mem_pendingFiles.mp (isFirst.subset member)
  · rw [applied.recorded]
    exact List.subset_append_of_subset_left _ imported.recorded
  · exact applied.legacy.trans imported.legacy

/-- The table is created, and the import completes: nothing is executed, and recorded are the files
taken as executed.
-/
theorem imported_of_completed {created inner : MigrationDatabase Schema} {result answer : Unit}
    {mid : Nat}
    (ensured : ensureMigrationsTable.run faults index db = ⟨.ok result, mid, created⟩)
    (completed
      : (importLegacySqlxMigrations directory).run faults mid created = ⟨.ok answer, next, inner⟩)
    : Imported db inner
      ∧ ∀ filename, filename ∈ inner.recorded ↔ TakenAsExecuted directory db filename := by
  obtain ⟨isExecuted, isRecorded, isLegacy⟩ := ensureMigrationsTable_eq_ok ensured
  have creating : Imported db created :=
    ⟨isExecuted, isRecorded ▸ List.Subset.refl _, isLegacy⟩
  have importing : Imported created inner := by
    have leaves
        : Imported created ((importLegacySqlxMigrations directory).run faults mid created).db :=
      importLegacySqlxMigrations_imported
    rwa [completed] at leaves
  refine ⟨creating.trans _ _ _ importing, fun filename => ?_⟩
  rw [mem_recorded_of_import completed, takenAsExecuted_congr isRecorded isLegacy]

/-- Wherever it is stopped, a run executes no file that it takes as executed, and records the files
it executes.
-/
theorem runPendingMigrations_advanced
    : Advanced directory db ((runPendingMigrations directory).run faults index db).db := by
  have unchanged : Advanced directory db db := (Imported.refl db).advanced
  unfold runPendingMigrations
  apply leaves_bind (Advanced directory db)
  · exact (allOrNothing_statement _).failsWith unchanged
  intro _ _ created ensured
  apply leaves_bind (Advanced directory db)
  · obtain ⟨isExecuted, isRecorded, isLegacy⟩ := ensureMigrationsTable_eq_ok ensured
    have creating : Imported db created :=
      ⟨isExecuted, isRecorded ▸ List.Subset.refl _, isLegacy⟩
    exact fun _ _ => (creating.trans _ _ _ importLegacySqlxMigrations_imported).advanced
  intro _ _ inner completed
  obtain ⟨imported, taken⟩ := imported_of_completed ensured completed
  apply leaves_bind (Advanced directory db)
  · exact (readOnly_selectMigrations _).allOrNothing.failsWith imported.advanced
  intro _ _ _ listed
  obtain ⟨rfl, rfl⟩ := selectMigrations_eq_ok listed
  apply leaves_bind (Advanced directory db)
  · exact readOnly_migrationPaths.allOrNothing.failsWith imported.advanced
  intro _ _ _ read
  obtain ⟨rfl, rfl⟩ := migrationPaths_eq_ok read
  exact applyMigrations_applied.advanced imported taken

/-- A run that completes finds the name of every file, and executes those that it does not take as
executed; in the end all are recorded.
-/
theorem runPendingMigrations_completed {report : MigrationReport}
    (ran : (runPendingMigrations directory).run faults index db = ⟨.ok report, next, after⟩)
    : (∀ file ∈ directory.files, file.fileName.isSome = true)
      ∧ directory.fileNames ⊆ after.recorded
      ∧ ∃ filenames,
          after.executed = db.executed ++ filenames
          ∧ ∀ filename,
              filename ∈ filenames
              ↔ filename ∈ directory.fileNames ∧ ¬TakenAsExecuted directory db filename := by
  unfold runPendingMigrations at ran
  obtain ⟨_, _, created, ensured, ran⟩ := bind_eq_ok.mp ran
  obtain ⟨_, _, inner, completed, ran⟩ := bind_eq_ok.mp ran
  obtain ⟨imported, taken⟩ := imported_of_completed ensured completed
  obtain ⟨_, _, _, listed, ran⟩ := bind_eq_ok.mp ran
  obtain ⟨rfl, rfl⟩ := selectMigrations_eq_ok listed
  obtain ⟨_, _, _, read, ran⟩ := bind_eq_ok.mp ran
  obtain ⟨rfl, rfl⟩ := migrationPaths_eq_ok read
  obtain ⟨named, applied⟩ := applyMigrations_completed ran
  refine ⟨named, fun filename member => ?_,
    pendingFiles inner.recorded directory.files, ?_, fun filename => ?_⟩
  · rw [applied.recorded, List.mem_append]
    by_cases present : filename ∈ inner.recorded
    · exact .inl present
    · exact .inr (mem_pendingFiles.mpr ⟨member, present⟩)
  · rw [applied.executed, imported.executed]
    rfl
  · rw [← taken]
    exact mem_pendingFiles

------------------------------------------------------------
-- Runs that follow one another
------------------------------------------------------------

/-- The version of a file is the number before the first underscore of its name. -/
def migrationVersion (filename : String) : Option Int :=
  if '_' ∈ filename.toList then
    IntegerText.readI64 (.ofList (filename.toList.takeWhile (· ≠ '_')))
  else none

/-- The version of a file is recorded as successful in `_sqlx_migrations`. -/
def SucceededBefore (db : MigrationDatabase Schema) (filename : String) : Prop :=
  ∃ version ∈ db.successfulVersions, migrationVersion filename = some version

/-- No migration is executed and committed twice, none is executed whose version succeeded before,
and a run that completes leaves every file recorded once.
-/
structure CrashSafe (directory : MigrationsDirectory Schema) (last : MigrationDatabase Schema)
    : Prop where
  once : last.executed.Nodup
  unrepeated : ∀ filename ∈ last.executed, ¬SucceededBefore last filename
  recordedOnce
    : ∀ faults report next after,
        (runPendingMigrations directory).run faults 0 last = ⟨.ok report, next, after⟩
        → ∀ file ∈ directory.files,
            ∃ filename, file.fileName = some filename ∧ after.recorded.count filename = 1

/-- A run, with the statements that fail or are not reached. -/
def migrate (directory : MigrationsDirectory Schema) (db : MigrationDatabase Schema)
    (faults : Nat → Option MigrationError)
    : Option (MigrationDatabase Schema) :=
  some ((runPendingMigrations directory).run faults 0 db).db

/-- Every file whose version succeeded before is recorded, or nothing is recorded yet and the import
finds the file.
-/
def TakesOver (directory : MigrationsDirectory Schema) (db : MigrationDatabase Schema) : Prop :=
  ∀ filename ∈ directory.fileNames,
    SucceededBefore db filename → TakenAsExecuted directory db filename

/-- A run from a database that it takes over executes nothing that succeeded before, and one that
completes does so from no other.
-/
theorem runPendingMigrations_unrepeated_iff {report : MigrationReport}
    (ran : (runPendingMigrations directory).run faults index db = ⟨.ok report, next, after⟩)
    : (∃ filenames,
        after.executed = db.executed ++ filenames
        ∧ ∀ filename ∈ filenames, ¬SucceededBefore db filename)
      ↔ TakesOver directory db := by
  obtain ⟨_, _, filenames, executed, isExecuted⟩ := runPendingMigrations_completed ran
  constructor
  · rintro ⟨others, same, unrepeated⟩ filename isFile succeeded
    obtain rfl := List.append_cancel_left (executed.symm.trans same)
    by_contra notTaken
    exact unrepeated filename ((isExecuted filename).mpr ⟨isFile, notTaken⟩) succeeded
  · intro takesOver
    refine ⟨filenames, executed, fun filename member succeeded => ?_⟩
    obtain ⟨isFile, notTaken⟩ := (isExecuted filename).mp member
    exact notTaken (takesOver filename isFile succeeded)

/-- A run that completes leaves every file recorded once. -/
theorem recordedOnce_of_completed {report : MigrationReport}
    (ran : (runPendingMigrations directory).run faults index db = ⟨.ok report, next, after⟩)
    {file : MigrationFile Schema} (isFile : file ∈ directory.files)
    : ∃ filename, file.fileName = some filename ∧ after.recorded.count filename = 1 := by
  obtain ⟨named, recorded, _⟩ := runPendingMigrations_completed ran
  obtain ⟨filename, isName⟩ := Option.isSome_iff_exists.mp (named file isFile)
  have member := recorded (List.mem_filterMap.mpr ⟨file, isFile, isName⟩)
  exact ⟨filename, isName, List.count_eq_one_of_mem (nodup_recorded after) member⟩

/-- Every file that was executed is recorded, and none was executed twice. -/
structure ExecutionLedger (db : MigrationDatabase Schema) : Prop where
  recorded : db.executed ⊆ db.recorded
  once : db.executed.Nodup

/-- A run keeps the ledger, because it executes only files that are not recorded. -/
theorem ExecutionLedger.advanced (ledger : ExecutionLedger db)
    (advanced : Advanced directory db after)
    : ExecutionLedger after := by
  obtain ⟨⟨filenames, executed, distinct, recorded, fresh⟩, kept, _⟩ := advanced
  constructor
  · rw [executed]
    exact List.append_subset.mpr ⟨List.Subset.trans ledger.recorded kept, recorded⟩
  · rw [executed]
    apply ledger.once.append distinct
    intro filename earlier later
    exact (fresh filename later).2 (.inl (ledger.recorded earlier))

theorem migrate_advanced (taken : migrate directory db faults = some after)
    : Advanced directory db after := by
  cases taken
  exact runPendingMigrations_advanced

variable {prior last : MigrationDatabase Schema}

/-- However runs are stopped, no file is executed and committed twice. -/
theorem executed_nodup (unexecuted : prior.executed = [])
    (runs : ReflTransGen (Next (migrate directory)) prior last)
    : last.executed.Nodup := by
  have first : ExecutionLedger prior := by
    constructor <;> rw [unexecuted]
    · exact List.nil_subset _
    · exact List.nodup_nil
  have ledger : ExecutionLedger last := by
    induction runs with
    | refl => exact first
    | tail _ taken ih =>
        obtain ⟨faults, ran⟩ := taken
        exact ih.advanced (migrate_advanced ran)
  exact ledger.once

/-- A run from a database that it takes over executes nothing that succeeded before. -/
theorem Advanced.unrepeated (advanced : Advanced directory db after)
    (takesOver : TakesOver directory db)
    (unrepeated : ∀ filename ∈ db.executed, ¬SucceededBefore db filename)
    : ∀ filename ∈ after.executed, ¬SucceededBefore after filename := by
  obtain ⟨⟨filenames, executed, _, _, fresh⟩, _, legacy⟩ := advanced
  intro filename member
  unfold SucceededBefore successfulVersions
  rw [legacy]
  rw [executed] at member
  rcases List.mem_append.mp member with earlier | later
  · exact unrepeated filename earlier
  · obtain ⟨isFile, notTaken⟩ := fresh filename later
    exact fun succeeded => notTaken (takesOver filename isFile succeeded)

/-- However runs are stopped, the migration runner is crash-safe if each run starts from a database
that it takes over.
-/
theorem migrations_crashSafe (unexecuted : prior.executed = [])
    (runs
      : ReflTransGen (NextWhere (migrate directory) fun db _ _ => TakesOver directory db)
        prior last)
    : CrashSafe directory last where
  once := executed_nodup unexecuted (runs.lift id fun _ _ step => step.next)
  unrepeated := by
    refine kept_along (fun db => ∀ filename ∈ db.executed, ¬SucceededBefore db filename) ?_ ?_ runs
    · intro db faults after unrepeated taken takesOver
      exact (migrate_advanced taken).unrepeated takesOver unrepeated
    · rw [unexecuted]
      exact fun _ member => absurd member List.not_mem_nil
  recordedOnce _ _ _ _ ran _ isFile := recordedOnce_of_completed ran isFile

------------------------------------------------------------
-- Two files
------------------------------------------------------------

/-- A file whose SQL adds its name to a list. -/
def listedMigration (name : String) : MigrationFile (List String) where
  name := Utf8Lossy.encode name
  sql := some fun names => some (names ++ [name])

def twoMigrations : MigrationsDirectory (List String) where
  path := "migrations"
  entries := some [listedMigration "2_channels.sql", listedMigration "1_sites.sql"]

/-- Both files were executed before, and nothing is recorded yet. -/
def bothSucceeded : MigrationDatabase (List String) where
  schemaMigrations := none
  sqlxMigrations := some ⟨[⟨1, true⟩, ⟨2, true⟩], by decide⟩
  schema := ["1_sites.sql", "2_channels.sql"]
  executed := []

/-- The program is stopped before a statement. -/
def stoppedBefore (statement : Nat) : Nat → Option MigrationError :=
  fun index => if index < statement then none else some .interrupted

instance {db : MigrationDatabase Schema} {filename : String}
    : Decidable (SucceededBefore db filename) :=
  inferInstanceAs (Decidable (∃ version ∈ db.successfulVersions, _))

instance {filename : String} : Decidable (TakenAsExecuted directory db filename) :=
  inferInstanceAs (Decidable (_ ∨ _))

instance : Decidable (TakesOver directory db) :=
  inferInstanceAs (Decidable (∀ filename ∈ directory.fileNames, _))

/-- Stopped before the first insert of the import, and then run to the end. -/
theorem migrations_crashSafe_twoMigrations
    : ∃ last,
        ReflTransGen
          (NextWhere (migrate twoMigrations) fun db _ _ => TakesOver twoMigrations db)
          bothSucceeded last
        ∧ last.recorded = ["1_sites.sql", "2_channels.sql"]
        ∧ CrashSafe twoMigrations last := by
  have scenario
      : (runWhere (migrate twoMigrations) (fun db _ _ => TakesOver twoMigrations db) bothSucceeded
          [stoppedBefore 5, stoppedBefore 20]).any
          (·.recorded = ["1_sites.sql", "2_channels.sql"]) = true := by
    decide +kernel
  obtain ⟨last, ran, recorded⟩ := Option.any_eq_true _ _ |>.mp scenario
  have runs := path_of_runWhere ran
  exact ⟨last, runs, of_decide_eq_true recorded, migrations_crashSafe rfl runs⟩

/-- Stopped between the two inserts of the import, the runner executes the second file again. -/
theorem migrations_not_crashSafe
    : ∃ last,
        run (migrate twoMigrations) bothSucceeded [stoppedBefore 6, stoppedBefore 20] = some last
        ∧ ¬CrashSafe twoMigrations last := by
  have scenario
      : (run (migrate twoMigrations) bothSucceeded [stoppedBefore 6, stoppedBefore 20]).any
          (fun last =>
            "2_channels.sql" ∈ last.executed ∧ SucceededBefore last "2_channels.sql")
        = true := by
    decide +kernel
  obtain ⟨last, ran, repeated⟩ := Option.any_eq_true _ _ |>.mp scenario
  obtain ⟨executed, succeeded⟩ := of_decide_eq_true repeated
  exact ⟨last, ran, fun safe => safe.unrepeated _ executed succeeded⟩

end AlonSentinel.System
