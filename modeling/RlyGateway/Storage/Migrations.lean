import RlyGateway.Library.Interrupted
import RlyGateway.Library.JsonPrefix
import Mathlib.Data.Int.Order.Basic
import Mathlib.Data.List.Sort

/-!
# Migrations of the control plane

The database is migrated under a backup and a marker: what is left of a migration that was
interrupted is overwritten with the backup before the database is opened again. Every step may fail
or be the last of its process, and what SQLite makes of the files is the engine's.
-/

namespace RlyGateway

/-! ## Databases -/

structure Migration where
  version : ℤ
  checksum : String
  sql : String

/-- A row of `schema_migrations`. -/
structure MigrationRow where
  version : ℤ
  appliedAt : String
  checksum : String

/-- What is in a database: the rows of `schema_migrations`, where it has that table, and the rest. -/
structure SqliteContent (Data : Type) where
  rows : Option (List MigrationRow)
  data : Data

/-- How a step ends: as it should, with an error, or with the process, before or behind what it
does. -/
inductive StepOutcome
  | done
  | failed
  | killed (landed : Bool)

/-- SQLite, the platform, and what goes wrong at each moment. -/
structure SqliteEngine (Bytes Wal Data : Type) where
  /-- What a connection sees that opens a database file with its write-ahead log. -/
  read : Bytes → Option Wal → SqliteContent Data
  /-- A script run in a transaction, if it does not throw. -/
  exec : String → SqliteContent Data → Option (SqliteContent Data)
  /-- The files of a connection that has the given content. -/
  written : ℕ → SqliteContent Data → Bytes → Option Wal → Bytes × Option Wal
  /-- The file that an online backup of the given content writes. -/
  backup : ℕ → SqliteContent Data → Bytes
  /-- What is left of the files where a write was cut off. -/
  torn : ℕ → Bytes × Option Wal
  sha256 : Bytes → String
  isoString : ℕ → String
  outcome : ℕ → StepOutcome

/-- A connection sees what was written, and so does one that opens a backup. -/
structure SqliteEngine.Correct {Bytes Wal Data : Type} (engine : SqliteEngine Bytes Wal Data) : Prop where
  read_written : ∀ moment content main wal,
    engine.read (engine.written moment content main wal).1 (engine.written moment content main wal).2 =
      content
  read_backup : ∀ moment content, engine.read (engine.backup moment content) none = content

/-- The files, and the steps that were taken. -/
structure MigrationWorld (Bytes Wal : Type) where
  main : Bytes
  wal : Option Wal
  marker : Option String
  backups : String → Option Bytes
  moment : ℕ

/-- How a call ends that does not return. -/
inductive MigrationStop
  | crashed
  | thrown (message : String)

/-- The message of an error. -/
def MigrationStop.message? : MigrationStop → Option String
  | .crashed => none
  | .thrown message => some message

abbrev MigrationM (Bytes Wal : Type) := EStateM MigrationStop (MigrationWorld Bytes Wal)

section Program

variable {Bytes Wal Data : Type} (engine : SqliteEngine Bytes Wal Data)

/-! ## Steps -/

/-- A step that is done as a whole or not at all. -/
def atomically (change : MigrationWorld Bytes Wal → MigrationWorld Bytes Wal) :
    MigrationM Bytes Wal Unit := fun world =>
  let later := { world with moment := world.moment + 1 }
  match engine.outcome world.moment with
  | .done => .ok () (change later)
  | .failed => .error (.thrown "input/output error") later
  | .killed landed => .error .crashed (if landed then change later else later)

/-- A step that leaves something else behind where it is cut off. -/
def cutOff (change tear : ℕ → MigrationWorld Bytes Wal → MigrationWorld Bytes Wal) :
    MigrationM Bytes Wal Unit := fun world =>
  let later := { world with moment := world.moment + 1 }
  match engine.outcome world.moment with
  | .done => .ok () (change world.moment later)
  | .failed => .error (.thrown "input/output error") (tear world.moment later)
  | .killed _ => .error .crashed (tear world.moment later)

/-- A step that changes no content. -/
def passes : MigrationM Bytes Wal Unit := atomically engine id

/-- What a connection sees. -/
def content : MigrationM Bytes Wal (SqliteContent Data) :=
  EStateM.reads fun world => engine.read world.main world.wal

/-- SQLite touches its files and keeps their content. -/
def touches : MigrationM Bytes Wal Unit :=
  let touched := fun moment (world : MigrationWorld Bytes Wal) =>
    let files := engine.written moment (engine.read world.main world.wal) world.main world.wal
    { world with main := files.1, wal := files.2 }
  cutOff engine touched touched

/-! ## Schema checks -/

def FORBIDDEN_COLUMN_NAMES : List String :=
  ["access_token", "refresh_token", "authorization", "token", "secret", "password", "email", "prompt",
    "response", "identity"]

/-- A character that `\s` stands for. -/
def isRegexSpace (c : Char) : Bool :=
  c ∈ ['\t', '\n', '\x0b', '\x0c', '\r', ' ', '\u00a0', '\u1680', '\u2028', '\u2029', '\u202f',
    '\u205f', '\u3000', '\ufeff'] || ('\u2000' ≤ c && c ≤ '\u200a')

/-- A character of a column name. -/
def isColumnChar (c : Char) : Bool := ('a' ≤ c && c ≤ 'z') || c == '_'

/-- The names that stand behind a line break and two blanks. -/
def declaredColumns : ℕ → List Char → List String
  | 0, _ => []
  | fuel + 1, '\n' :: a :: b :: rest =>
      let name := rest.takeWhile isColumnChar
      let behind := rest.drop name.length
      if isRegexSpace a && isRegexSpace b && !name.isEmpty && behind.head?.any isRegexSpace then
        String.ofList name :: declaredColumns fuel (behind.drop 1)
      else declaredColumns fuel (a :: b :: rest)
  | fuel + 1, _ :: rest => declaredColumns fuel rest
  | _ + 1, [] => []

def assertSchemaHasNoSecretColumns (sql : String) : MigrationM Bytes Wal Unit :=
  if (declaredColumns sql.length sql.toList).any (· ∈ FORBIDDEN_COLUMN_NAMES) then
    throw (.thrown "Control-plane schema must not declare secret or identity columns")
  else pure ()

/-! ## Migrations -/

def currentSchemaVersion (content : SqliteContent Data) : ℤ :=
  match content.rows with
  | none => 0
  | some rows => ((rows.map MigrationRow.version).max?).getD 0

/-- The content behind a migration and the row that is inserted for it. The row needs the table, and
is refused where the table has one of its version. -/
def applyMigration (migration : Migration) (appliedAt : String) (content : SqliteContent Data) :
    Option (SqliteContent Data) := do
  let content ← engine.exec migration.sql content
  let rows ← content.rows
  if migration.version ∈ rows.map MigrationRow.version then none
  else
    some { content with
      rows := some (rows ++ [⟨migration.version, appliedAt, migration.checksum⟩]) }

def targetVersion (migrations : List Migration) : ℤ :=
  migrations.foldl (fun version migration => max version migration.version) 0

/-- The migrations above a version, in order. -/
def pendingMigrations (migrations : List Migration) (current : ℤ) : List Migration :=
  (migrations.filter fun migration => current < migration.version).insertionSort
    fun left right => left.version ≤ right.version

/-! ## Backups and markers -/

def markerOf (fromVersion toVersion : ℤ) (backupPath backupHash : String) : String :=
  Json.stringify (.obj [("fromVersion", .num fromVersion), ("toVersion", .num toVersion),
    ("backupPath", .str backupPath), ("backupHash", .str backupHash)]) ++ "\n"

def hashBinaryFile (path : String) : MigrationM Bytes Wal String := do
  passes engine
  match ← EStateM.reads (MigrationWorld.backups · path) with
  | none => throw (.thrown "no such file or directory")
  | some bytes => return engine.sha256 bytes

def removeMigrationMarker : MigrationM Bytes Wal Unit :=
  atomically engine fun world => { world with marker := none }

def restoreVerifiedBackup (backupPath expectedHash : String) : MigrationM Bytes Wal Unit := do
  let actualHash ← hashBinaryFile engine backupPath
  if actualHash ≠ expectedHash then throw (.thrown "migration backup failed verification")
  -- `copyFile` writes into the database file, so that it is torn where it is cut off
  cutOff engine
    (fun _ world => { world with main := (world.backups backupPath).getD world.main })
    (fun moment world => { world with main := (engine.torn moment).1 })
  passes engine
  atomically engine fun world => { world with wal := none }
  passes engine
  passes engine
  if engine.sha256 (← EStateM.reads MigrationWorld.main) ≠ expectedHash then
    throw (.thrown "restored database failed verification")

def recoverInterruptedMigration : MigrationM Bytes Wal Unit := do
  passes engine
  match ← EStateM.reads MigrationWorld.marker with
  | none => return ()
  | some raw =>
      match Json.parse raw with
      | none => throw (.thrown "migration marker is corrupt; refuse to open control-plane data")
      | some marker =>
          match marker.strField? "backupPath", marker.strField? "backupHash" with
          | some backupPath, some backupHash =>
              restoreVerifiedBackup engine backupPath backupHash
              removeMigrationMarker engine
          | some _, none => throw (.thrown "migration backup failed verification")
          | none, _ => throw (.thrown "The \"path\" argument must be of type string")

/-! ## Opening -/

def openDatabaseFile : MigrationM Bytes Wal Unit := touches engine

/-- One migration in a transaction of its own. What a script leaves that was cut off or has thrown is
the engine's. -/
def runMigration (migration : Migration) : MigrationM Bytes Wal Unit := do
  let before ← content engine
  let torn := fun moment (world : MigrationWorld Bytes Wal) =>
    { world with main := (engine.torn moment).1, wal := (engine.torn moment).2 }
  let moment ← EStateM.reads MigrationWorld.moment
  match applyMigration engine migration (engine.isoString moment) before with
  | none => do
      cutOff engine torn torn
      throw (.thrown "migration step failed")
  | some after =>
      cutOff engine
        (fun moment world =>
          let files := engine.written moment after world.main world.wal
          { world with main := files.1, wal := files.2 })
        torn

def runMigrations : List Migration → MigrationM Bytes Wal Unit
  | [] => return ()
  | migration :: pending => do
      runMigration engine migration
      runMigrations pending

/-- What is done under the marker. -/
def migrateUnderMarker (pending : List Migration) (target : ℤ) : MigrationM Bytes Wal Unit := do
  runMigrations engine pending
  if currentSchemaVersion (← content engine) ≠ target then
    throw (.thrown "migration did not reach the expected schema version")
  removeMigrationMarker engine

/-- A migration that throws is undone. -/
def undoMigration (backupPath backupHash message : String) : MigrationM Bytes Wal Unit := do
  touches engine
  restoreVerifiedBackup engine backupPath backupHash
  removeMigrationMarker engine
  throw (.thrown ("migration failed; prior schema restored: " ++ message))

/-- The online backup. -/
def backUp (backupPath : String) (content : SqliteContent Data) : MigrationM Bytes Wal Unit :=
  cutOff engine
    (fun moment world => { world with
      backups := fun path =>
        if path = backupPath then some (engine.backup moment content) else world.backups path })
    (fun moment world => { world with
      backups := fun path =>
        if path = backupPath then some (engine.torn moment).1 else world.backups path })

/-- Migrates behind a backup and under a marker, and undoes that where it throws. -/
def migrateWithBackup (backupPath : String) (before : SqliteContent Data) (pending : List Migration)
    (target : ℤ) : MigrationM Bytes Wal Unit := do
  backUp engine backupPath before
  passes engine
  let backupHash ← hashBinaryFile engine backupPath
  atomically engine fun world =>
    { world with
      marker := some (markerOf (currentSchemaVersion before) target backupPath backupHash) }
  EStateM.rescue (migrateUnderMarker engine pending target) MigrationStop.message?
    (undoMigration engine backupPath backupHash)

def migrateOpenDatabase (migrations : List Migration) : MigrationM Bytes Wal Unit := do
  let before ← content engine
  let current := currentSchemaVersion before
  let target := targetVersion migrations
  if current = target then return ()
  if target < current then throw (.thrown "database schema is newer than this binary")
  let stamp := engine.isoString (← EStateM.reads MigrationWorld.moment)
  migrateWithBackup engine s!"backups/control-plane.{current}.{stamp}.sqlite" before
    (pendingMigrations migrations current) target

/-- The database is closed where it cannot be migrated. -/
def openOrClose (migrations : List Migration) : MigrationM Bytes Wal (SqliteContent Data) := do
  recoverInterruptedMigration engine
  openDatabaseFile engine
  EStateM.rescue (migrateOpenDatabase engine migrations) MigrationStop.message? fun message => do
    touches engine
    throw (.thrown message)
  content engine

/-- Opens the database under the migration lock, which is released however that ends. -/
def openMigratedDatabase (migrations : List Migration) :
    MigrationM Bytes Wal (SqliteContent Data) := do
  assertSchemaHasNoSecretColumns ("\n".intercalate (migrations.map Migration.sql))
  passes engine
  passes engine
  passes engine
  let opened ← EStateM.rescue (openOrClose engine migrations) MigrationStop.message? fun message => do
    passes engine
    throw (.thrown message)
  passes engine
  return opened

end Program

end RlyGateway
