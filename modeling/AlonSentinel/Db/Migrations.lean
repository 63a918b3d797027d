import Mathlib.Data.List.Lex
import Mathlib.Data.List.Sort
import AlonSentinel.Foundation.DatabaseSession
import AlonSentinel.Foundation.IntegerText
import AlonSentinel.Foundation.KeyedTable
import AlonSentinel.Foundation.Utf8Lossy

/-! The migration runner. It records the files it has executed in `schema_migrations`, and when
nothing is recorded yet, it takes over what `_sqlx_migrations` says.
-/

namespace AlonSentinel.Db

open DatabaseSession
open KeyedTable

------------------------------------------------------------
-- The directory of migrations
------------------------------------------------------------

inductive MigrationError where
  /-- A statement or an access to a file fails, or the program is stopped before it. -/
  | interrupted
  | undefinedTable
  | uniqueViolation
  | invalidUtf8
  | failedSql
  | message (text : String)
  | context (text : String) (source : MigrationError)
  deriving DecidableEq

/-- A file of the directory: the bytes of its name, and what its SQL does to the rest of the
database if it succeeds. A file that is not UTF-8 has no SQL.
-/
structure MigrationFile (Schema : Type) where
  name : List UInt8
  sql : Option (Schema → Option Schema)

structure MigrationsDirectory (Schema : Type) where
  path : String
  entries : Option (List (MigrationFile Schema))

variable {Schema : Type}

/-- `Path::extension`: what follows the last dot, unless the name begins with it. -/
def pathExtension (name : List UInt8) : Option (List UInt8) :=
  match name.reverse.dropWhile (· ≠ 46) with
  | [] | [_] => none
  | _ :: _ :: _ => some (name.reverse.takeWhile (· ≠ 46)).reverse

def asciiLower (byte : UInt8) : UInt8 := if 65 ≤ byte ∧ byte ≤ 90 then byte + 32 else byte

def hasSqlExtension (name : List UInt8) : Bool :=
  (pathExtension name).any fun extension => extension.map asciiLower = Utf8Lossy.encode "sql"

/-- The name as text, if it is UTF-8. -/
def MigrationFile.fileName (file : MigrationFile Schema) : Option String :=
  let text := Utf8Lossy.decode file.name
  if Utf8Lossy.encode text = file.name then some text else none

def MigrationsDirectory.display (directory : MigrationsDirectory Schema)
    (file : MigrationFile Schema)
    : String :=
  s!"{directory.path}/{Utf8Lossy.decode file.name}"

/-- The `.sql` files of the directory, by name. -/
def MigrationsDirectory.files (directory : MigrationsDirectory Schema)
    : List (MigrationFile Schema) :=
  ((directory.entries.getD []).filter fun file => hasSqlExtension file.name).insertionSort
    fun first second => first.name.map (·.toNat) ≤ second.name.map (·.toNat)

/-- The names of these files, as far as they are UTF-8. -/
def MigrationsDirectory.fileNames (directory : MigrationsDirectory Schema) : List String :=
  directory.files.filterMap (·.fileName)

------------------------------------------------------------
-- The tables
------------------------------------------------------------

/-- A row of `_sqlx_migrations`. -/
structure LegacyMigration where
  version : Int
  success : Bool
  deriving DecidableEq

/-- The database as the runner sees it. `executed` lists the files whose SQL has been executed and
committed, in order.
-/
structure MigrationDatabase (Schema : Type) where
  schemaMigrations : Option (Table String id)
  sqlxMigrations : Option (Table LegacyMigration LegacyMigration.version)
  schema : Schema
  executed : List String

abbrev MigrationSession (Schema : Type) :=
  Session MigrationError (MigrationDatabase Schema) MigrationError

namespace MigrationDatabase

/-- The recorded file names; none if the table does not exist. -/
def recorded (db : MigrationDatabase Schema) : List String :=
  (db.schemaMigrations.map (·.rows)).getD []

/-- The versions of `_sqlx_migrations` that succeeded, in order. -/
def successfulVersions (db : MigrationDatabase Schema) : List Int :=
  (((db.sqlxMigrations.map (·.rows)).getD []).filter (·.success)).map (·.version)
    |>.insertionSort (· ≤ ·)

def createTableIfNotExists (db : MigrationDatabase Schema) : MigrationDatabase Schema :=
  { db with schemaMigrations := some (db.schemaMigrations.getD .empty) }

/-- An `INSERT` into `schema_migrations`, with what happens if the name is there already. -/
def insertMigration
    (conflict : MigrationDatabase Schema → Except MigrationError (MigrationDatabase Schema))
    (filename : String) (db : MigrationDatabase Schema)
    : Except MigrationError (MigrationDatabase Schema) :=
  match db.schemaMigrations with
  | none => .error .undefinedTable
  | some table =>
      if unused : filename ∉ table.rows.map id then
        .ok { db with schemaMigrations := some (table.append filename unused) }
      else conflict db

/-- Executes the SQL of a file. -/
def executeSql (filename : String) (sql : Schema → Option Schema) (db : MigrationDatabase Schema)
    : Except MigrationError (MigrationDatabase Schema) :=
  match sql db.schema with
  | none => .error .failedSql
  | some schema => .ok { db with schema, executed := db.executed ++ [filename] }

end MigrationDatabase

open MigrationDatabase

------------------------------------------------------------
-- The runner
------------------------------------------------------------

def ensureMigrationsTable : MigrationSession Schema Unit :=
  .statement fun db => .ok ((), createTableIfNotExists db)

/-- A read of `schema_migrations`. -/
def selectMigrations {Result : Type} (read : List String → Result)
    : MigrationSession Schema Result :=
  .statement fun db =>
    match db.schemaMigrations with
    | none => .error .undefinedTable
    | some table => .ok (read table.rows, db)

def migrationPaths (directory : MigrationsDirectory Schema)
    : MigrationSession Schema (List (MigrationFile Schema)) :=
  .statement fun db =>
    match directory.entries with
    | none => .error (.message s!"migrations directory not found: {directory.path}")
    | some _ => .ok (directory.files, db)

/-- The first file whose name starts with the digits of a version. -/
def findByVersion (filenames : List String) (version : Int) : Option String :=
  filenames.find? fun filename => (toString version).toList.isPrefixOf filename.toList

def importLegacySqlxMigrations (directory : MigrationsDirectory Schema)
    : MigrationSession Schema Unit := do
  let appliedCount ← selectMigrations List.length
  if appliedCount > 0 then return ()
  let hasLegacyTable ← .query fun db => db.sqlxMigrations.isSome
  if !hasLegacyTable then return ()
  let legacyVersions ← .query successfulVersions
  if legacyVersions.isEmpty then return ()
  let paths ← migrationPaths directory
  .executeAll (insertMigration .ok)
    (legacyVersions.filterMap (findByVersion (paths.filterMap (·.fileName))))

structure MigrationReport where
  applied : List String
  skipped : List String
  deriving DecidableEq

def readToString (file : MigrationFile Schema)
    : MigrationSession Schema (Schema → Option Schema) :=
  .statement fun db =>
    match file.sql with
    | none => .error .invalidUtf8
    | some sql => .ok (sql, db)

/-- Executes a file and records it, in one transaction. -/
def applyMigration (directory : MigrationsDirectory Schema) (file : MigrationFile Schema)
    (filename : String)
    : MigrationSession Schema Unit := do
  let sql ←
    (readToString file).mapError
      (.context s!"failed to read migration {directory.display file}")
  .transaction do
    (Session.statement fun db => (executeSql filename sql db).map fun after => ((), after)).mapError
      (.context s!"failed to execute migration {directory.display file}")
    (Session.statement fun db =>
      (insertMigration (fun _ => .error .uniqueViolation) filename db).map
        fun after => ((), after)).mapError
      (.context s!"failed to record migration {filename}")

/-- The loop over the files. -/
def applyMigrations (directory : MigrationsDirectory Schema) (appliedSet : List String)
    : List (MigrationFile Schema) → MigrationReport → MigrationSession Schema MigrationReport
  | [], report => pure report
  | file :: rest, report => do
      let filename ← .ofExcept
        (match file.fileName with
        | some filename => .ok filename
        | none => .error (.message s!"invalid migration filename: {directory.display file}"))
      if filename ∈ appliedSet then
        applyMigrations directory appliedSet rest
          { report with skipped := report.skipped ++ [filename] }
      else
        applyMigration directory file filename
        applyMigrations directory appliedSet rest
          { report with applied := report.applied ++ [filename] }

def runPendingMigrations (directory : MigrationsDirectory Schema)
    : MigrationSession Schema MigrationReport := do
  ensureMigrationsTable
  importLegacySqlxMigrations directory
  let appliedSet ← selectMigrations id
  let paths ← migrationPaths directory
  applyMigrations directory appliedSet paths ⟨[], []⟩

end AlonSentinel.Db
