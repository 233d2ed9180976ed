import RlyGateway.Library.Runs
import RlyGateway.Storage.Migrations

/-!
# Migrations that are interrupted

Wherever a call is cut off, the files hold the content from before it or the migrated one, or a marker
names a backup of the content from before. So every call that returns has carried the original content
through all pending migrations.
-/

namespace RlyGateway

open EStateM

variable {Bytes Wal Data : Type} {engine : SqliteEngine Bytes Wal Data}

/-! ## Contents -/

/-- A content is carried through migrations, in order. -/
def AppliesAll (engine : SqliteEngine Bytes Wal Data) :
    List Migration → SqliteContent Data → SqliteContent Data → Prop
  | [], before, after => after = before
  | migration :: migrations, before, after => ∃ appliedAt between,
      applyMigration engine migration appliedAt before = some between ∧
        AppliesAll engine migrations between after

/-- A content is carried through all migrations that it lacks, up to the last of them. -/
def Migrated (engine : SqliteEngine Bytes Wal Data) (migrations : List Migration)
    (before after : SqliteContent Data) : Prop :=
  AppliesAll engine (pendingMigrations migrations (currentSchemaVersion before)) before after ∧
    currentSchemaVersion after = targetVersion migrations

theorem foldl_max_le (migrations : List Migration) (start : ℤ) :
    start ≤ migrations.foldl (fun version migration => max version migration.version) start ∧
      ∀ migration ∈ migrations, migration.version ≤
        migrations.foldl (fun version migration => max version migration.version) start := by
  induction migrations generalizing start with
  | nil => exact ⟨le_rfl, fun migration h => absurd h List.not_mem_nil⟩
  | cons migration migrations ih =>
      obtain ⟨hstart, hrest⟩ := ih (max start migration.version)
      refine ⟨(le_max_left _ _).trans hstart, List.forall_mem_cons.2 ⟨?_, hrest⟩⟩
      exact (le_max_right _ _).trans hstart

/-- Nothing is pending behind the last migration. -/
theorem pendingMigrations_target (migrations : List Migration) :
    pendingMigrations migrations (targetVersion migrations) = [] := by
  unfold pendingMigrations
  have hnone : migrations.filter (fun migration => targetVersion migrations < migration.version) = [] := by
    refine List.filter_eq_nil_iff.2 fun migration hmem => ?_
    rw [decide_eq_true_eq, not_lt]
    exact (foldl_max_le migrations 0).2 migration hmem
  rw [hnone]
  rfl

/-- A content of the last version is migrated already. -/
theorem Migrated.refl_of_version {migrations : List Migration} {before : SqliteContent Data}
    (h : currentSchemaVersion before = targetVersion migrations) :
    Migrated engine migrations before before := by
  refine ⟨?_, h⟩
  rw [h, pendingMigrations_target]
  rfl

/-- A migrated content is not migrated any further. -/
theorem Migrated.eq {migrations : List Migration} {before after later : SqliteContent Data}
    (h : Migrated engine migrations before after) (h' : Migrated engine migrations after later) :
    later = after := by
  have happlies := h'.1
  rw [h.2, pendingMigrations_target] at happlies
  exact happlies

/-! ## Files -/

/-- The files hold a content, and no migration is under way. -/
structure Plain (engine : SqliteEngine Bytes Wal Data) (content : SqliteContent Data)
    (world : MigrationWorld Bytes Wal) : Prop where
  marker : world.marker = none
  read : engine.read world.main world.wal = content

/-- A marker is there, and the backup that it may name. -/
structure BackedUp (marker : Option String) (path : String) (bytes : Bytes)
    (world : MigrationWorld Bytes Wal) : Prop where
  marker : world.marker = marker
  backup : world.backups path = some bytes

/-- A marker names a backup of a content. -/
def Marked (engine : SqliteEngine Bytes Wal Data) (content : SqliteContent Data)
    (world : MigrationWorld Bytes Wal) : Prop :=
  ∃ fromVersion toVersion path bytes,
    BackedUp (some (markerOf fromVersion toVersion path (engine.sha256 bytes))) path bytes world ∧
      engine.read bytes none = content

/-- A content can be had again: it is in the files, or a marker names its backup. -/
def Recoverable (engine : SqliteEngine Bytes Wal Data) (content : SqliteContent Data)
    (world : MigrationWorld Bytes Wal) : Prop :=
  Plain engine content world ∨ Marked engine content world

section Steps

variable {pre : MigrationWorld Bytes Wal → Prop} {post : Unit → MigrationWorld Bytes Wal → Prop}
  {stopped : MigrationStop → MigrationWorld Bytes Wal → Prop}

theorem meets_atomically {change : MigrationWorld Bytes Wal → MigrationWorld Bytes Wal}
    (hdone : ∀ world moment, pre world → post () (change { world with moment }))
    (hstopped : ∀ stop world moment, pre world → stopped stop { world with moment })
    (hlanded : ∀ world moment, pre world → stopped .crashed (change { world with moment })) :
    Meets pre (atomically engine change) post stopped := by
  intro world hpre
  unfold atomically
  cases engine.outcome world.moment with
  | done => exact hdone world _ hpre
  | failed => exact hstopped _ world _ hpre
  | killed landed =>
      cases landed with
      | true => exact hlanded world _ hpre
      | false => exact hstopped _ world _ hpre

theorem meets_cutOff {change tear : ℕ → MigrationWorld Bytes Wal → MigrationWorld Bytes Wal}
    (hdone : ∀ world moment later, pre world → post () (change moment { world with moment := later }))
    (hstopped : ∀ stop world moment later, pre world →
      stopped stop (tear moment { world with moment := later })) :
    Meets pre (cutOff engine change tear) post stopped := by
  intro world hpre
  unfold cutOff
  cases engine.outcome world.moment with
  | done => exact hdone world _ _ hpre
  | failed => exact hstopped _ world _ _ hpre
  | killed landed => exact hstopped _ world _ _ hpre

end Steps

/-- What is kept by steps that change nothing. -/
def Timeless (holds : MigrationWorld Bytes Wal → Prop) : Prop :=
  ∀ world moment, holds world → holds { world with moment }

theorem timeless_plain (content : SqliteContent Data) : Timeless (Plain engine content) :=
  fun _ _ h => ⟨h.marker, h.read⟩

theorem timeless_backed (marker : Option String) (path : String) (bytes : Bytes) :
    Timeless (BackedUp marker path bytes : MigrationWorld Bytes Wal → Prop) :=
  fun _ _ h => ⟨h.marker, h.backup⟩

theorem timeless_marked (content : SqliteContent Data) : Timeless (Marked engine content) :=
  fun world moment ⟨fromVersion, toVersion, path, bytes, hbacked, hread⟩ =>
    ⟨fromVersion, toVersion, path, bytes, timeless_backed _ _ _ world moment hbacked, hread⟩

theorem timeless_recoverable (content : SqliteContent Data) :
    Timeless (Recoverable engine content) :=
  fun world moment h => h.imp (timeless_plain content world moment) (timeless_marked content world moment)

/-- A step that changes nothing keeps what does not speak of time. -/
theorem meets_passes {holds : MigrationWorld Bytes Wal → Prop} (h : Timeless holds) :
    Meets holds (passes engine) (fun _ => holds) (fun _ => holds) :=
  meets_atomically h (fun _ => h) h

/-- A step that changes nothing, in front of the rest of a program. -/
theorem meets_passes_bind {α : Type} {holds : MigrationWorld Bytes Wal → Prop}
    {next : Unit → MigrationM Bytes Wal α} {post : α → MigrationWorld Bytes Wal → Prop}
    {stopped : MigrationStop → MigrationWorld Bytes Wal → Prop} (h : Timeless holds)
    (hstopped : ∀ stop world, holds world → stopped stop world)
    (hnext : Meets holds (next ()) post stopped) : Meets holds (passes engine >>= next) post stopped :=
  Meets.bind ((meets_passes h).mono (fun _ h => h) (fun _ _ h => h) hstopped) fun _ => hnext

/-- SQLite keeps the content of its files. -/
theorem meets_touches (hcorrect : engine.Correct) (content : SqliteContent Data) :
    Meets (Plain engine content) (touches engine) (fun _ => Plain engine content)
      (fun _ => Plain engine content) := by
  have hwritten : ∀ (world : MigrationWorld Bytes Wal) (moment later : ℕ), Plain engine content world →
      Plain engine content
        { world with
          main := (engine.written moment (engine.read world.main world.wal) world.main world.wal).1
          wal := (engine.written moment (engine.read world.main world.wal) world.main world.wal).2
          moment := later } :=
    fun world moment later h => ⟨h.marker, by rw [hcorrect.read_written, h.read]⟩
  unfold touches
  exact meets_cutOff (fun world moment later h => hwritten world moment later h)
    fun _ world moment later h => hwritten world moment later h

/-! ## Restoring -/

/-- The bytes of a backup that is there are hashed. -/
theorem meets_hashBinaryFile {holds : MigrationWorld Bytes Wal → Prop} (htimeless : Timeless holds)
    {path : String} {bytes : Bytes} (hbackup : ∀ world, holds world → world.backups path = some bytes) :
    Meets holds (hashBinaryFile engine path) (fun hash world => hash = engine.sha256 bytes ∧ holds world)
      (fun _ => holds) := by
  unfold hashBinaryFile
  refine meets_passes_bind htimeless (fun _ _ h => h) ?_
  refine meets_reads_bind (· = some bytes) hbackup ?_
  rintro _ rfl
  exact meets_pure fun _ h => ⟨rfl, h⟩

/-- Under its marker, a backup replaces the files, or is kept until it can. -/
theorem meets_restoreVerifiedBackup (engine : SqliteEngine Bytes Wal Data) (marker : Option String) (path : String) (bytes : Bytes) :
    Meets (BackedUp marker path bytes) (restoreVerifiedBackup engine path (engine.sha256 bytes))
      (fun _ world => BackedUp marker path bytes world ∧ world.main = bytes ∧ world.wal = none)
      (fun _ => BackedUp marker path bytes) := by
  have htimeless : Timeless (BackedUp marker path bytes : MigrationWorld Bytes Wal → Prop) :=
    timeless_backed marker path bytes
  unfold restoreVerifiedBackup
  refine (meets_hashBinaryFile htimeless fun _ h => h.backup).bind fun hash => meets_of_pre ?_
  rintro rfl
  rw [if_neg (not_not.2 rfl)]
  refine Meets.through (fun _ world => BackedUp marker path bytes world ∧ world.main = bytes)
    (meets_cutOff ?_ ?_) fun _ => ?_
  · intro world moment later h
    refine ⟨⟨h.marker, h.backup⟩, ?_⟩
    rw [h.backup]
    rfl
  · exact fun _ world moment later h => ⟨h.marker, h.backup⟩
  have hcopied : Timeless fun world : MigrationWorld Bytes Wal =>
      BackedUp marker path bytes world ∧ world.main = bytes :=
    fun world moment h => ⟨htimeless world moment h.1, h.2⟩
  refine meets_passes_bind hcopied (fun _ _ h => h.1) ?_
  refine Meets.through (fun _ world => BackedUp marker path bytes world ∧ world.main = bytes ∧
    world.wal = none) (meets_atomically ?_ ?_ ?_) fun _ => ?_
  · exact fun world moment h => ⟨⟨h.1.marker, h.1.backup⟩, h.2, rfl⟩
  · exact fun _ world moment h => ⟨h.1.marker, h.1.backup⟩
  · exact fun world moment h => ⟨h.1.marker, h.1.backup⟩
  have hrestored : Timeless fun world : MigrationWorld Bytes Wal =>
      BackedUp marker path bytes world ∧ world.main = bytes ∧ world.wal = none :=
    fun world moment h => ⟨htimeless world moment h.1, h.2⟩
  refine meets_passes_bind hrestored (fun _ _ h => h.1) ?_
  refine meets_passes_bind hrestored (fun _ _ h => h.1) ?_
  refine meets_reads_bind (· = bytes) (fun _ h => h.2.1) ?_
  rintro _ rfl
  exact Meets.ite (fun hne => absurd rfl hne) fun _ => meets_pure fun _ h => h

/-- The marker is removed over the files of its backup. -/
theorem meets_removeMigrationMarker (marker : Option String) (path : String) (bytes : Bytes)
    {content : SqliteContent Data} (hread : engine.read bytes none = content) :
    Meets (fun world => BackedUp marker path bytes world ∧ world.main = bytes ∧ world.wal = none)
      (removeMigrationMarker engine) (fun _ => Plain engine content)
      (fun stop world => BackedUp marker path bytes world ∨ stop = .crashed ∧ Plain engine content world) := by
  have hplain : ∀ (world : MigrationWorld Bytes Wal) (moment : ℕ),
      BackedUp marker path bytes world ∧ world.main = bytes ∧ world.wal = none →
      Plain engine content { world with marker := none, moment } := by
    rintro world moment ⟨-, hmain, hwal⟩
    refine ⟨rfl, ?_⟩
    rw [hmain, hwal]
    exact hread
  refine meets_atomically hplain ?_ fun world moment h => .inr ⟨rfl, hplain world moment h⟩
  exact fun _ world moment h => .inl (timeless_backed _ _ _ world moment h.1)

/-- A marker that was written is read, and names its backup. -/
theorem strField?_markerOf (fromVersion toVersion : ℤ) (path hash : String) :
    ∃ marker, Json.parse (markerOf fromVersion toVersion path hash) = some marker ∧
      marker.strField? "backupPath" = some path ∧ marker.strField? "backupHash" = some hash := by
  have hnum : ∀ version : ℤ, (Json.num (version : ℚ)).WellFormed :=
    fun version => .num ⟨0, by rw [Rat.den_intCast, pow_zero]⟩
  refine ⟨_, Json.parse_stringify_newline (.obj (by simp) ?_), rfl, rfl⟩
  simp only [List.forall_mem_cons]
  exact ⟨hnum _, hnum _, .str _, .str _, fun field h => absurd h List.not_mem_nil⟩

/-- What an interrupted migration has left is replaced by its backup. -/
theorem meets_recoverInterruptedMigration (content : SqliteContent Data) :
    Meets (Recoverable engine content) (recoverInterruptedMigration engine)
      (fun _ => Plain engine content) (fun _ => Recoverable engine content) := by
  unfold recoverInterruptedMigration
  refine meets_passes_bind (timeless_recoverable content) (fun _ _ h => h) ?_
  rintro world (hplain | ⟨fromVersion, toVersion, path, bytes, hbacked, hread⟩)
  · suffices hnone : Meets (Plain engine content) _ (fun _ => Plain engine content)
        (fun _ => Recoverable engine content) from hnone world hplain
    refine meets_reads_bind (· = none) (fun _ h => h.marker) ?_
    rintro _ rfl
    exact meets_pure fun _ h => h
  · let marker := markerOf fromVersion toVersion path (engine.sha256 bytes)
    suffices hsome : Meets (BackedUp (some marker) path bytes) _ (fun _ => Plain engine content)
        (fun _ => Recoverable engine content) from hsome world hbacked
    have hmarked : ∀ world : MigrationWorld Bytes Wal, BackedUp (some marker) path bytes world →
        Recoverable engine content world :=
      fun world h => .inr ⟨fromVersion, toVersion, path, bytes, h, hread⟩
    obtain ⟨value, hparse, hpath, hhash⟩ :=
      strField?_markerOf fromVersion toVersion path (engine.sha256 bytes)
    refine meets_reads_bind (· = some marker) (fun _ h => h.marker) ?_
    rintro _ rfl
    dsimp only
    rw [hparse]
    dsimp only
    rw [hpath, hhash]
    have hrestore := (meets_restoreVerifiedBackup engine (some marker) path bytes).mono
      (fun _ h => h) (fun _ _ h => h) fun _ => hmarked
    refine hrestore.bind fun _ => ?_
    refine (meets_removeMigrationMarker _ path bytes hread).mono (fun _ h => h) (fun _ _ h => h) ?_
    rintro stop world (h | ⟨-, h⟩)
    · exact hmarked world h
    · exact .inl h

/-! ## Migrating -/

/-- A migration changes the content as it says; one that is cut off leaves the marker. -/
theorem meets_runMigration (hcorrect : engine.Correct) (marker : Option String) (path : String)
    (bytes : Bytes) (migration : Migration) (before : SqliteContent Data) :
    Meets (fun world => BackedUp marker path bytes world ∧ engine.read world.main world.wal = before)
      (runMigration engine migration)
      (fun _ world => ∃ appliedAt after,
        applyMigration engine migration appliedAt before = some after ∧
          BackedUp marker path bytes world ∧ engine.read world.main world.wal = after)
      (fun _ => BackedUp marker path bytes) := by
  unfold runMigration
  refine meets_reads_bind (before = ·) (fun _ h => h.2.symm) ?_
  rintro _ rfl
  refine meets_reads_bind (fun _ => True) (fun _ _ => trivial) fun moment _ => ?_
  cases happly : applyMigration engine migration (engine.isoString moment) before with
  | none =>
      dsimp only
      refine Meets.through (fun _ => BackedUp marker path bytes) (meets_cutOff ?_ ?_) fun _ =>
        meets_throw fun _ h => h
      · exact fun world _ later h => ⟨h.1.marker, h.1.backup⟩
      · exact fun _ world _ later h => ⟨h.1.marker, h.1.backup⟩
  | some after =>
      dsimp only
      refine meets_cutOff ?_ ?_
      · intro world moment' later h
        exact ⟨_, after, happly, ⟨h.1.marker, h.1.backup⟩, hcorrect.read_written _ _ _ _⟩
      · exact fun _ world _ later h => ⟨h.1.marker, h.1.backup⟩

/-- The migrations are applied in order. -/
theorem meets_runMigrations (hcorrect : engine.Correct) (marker : Option String) (path : String)
    (bytes : Bytes) (migrations : List Migration) (before : SqliteContent Data) :
    Meets (fun world => BackedUp marker path bytes world ∧ engine.read world.main world.wal = before)
      (runMigrations engine migrations)
      (fun _ world => ∃ after, AppliesAll engine migrations before after ∧
        BackedUp marker path bytes world ∧ engine.read world.main world.wal = after)
      (fun _ => BackedUp marker path bytes) := by
  induction migrations generalizing before with
  | nil => exact meets_pure fun _ h => ⟨before, rfl, h⟩
  | cons migration migrations ih =>
      refine (meets_runMigration hcorrect marker path bytes migration before).bind fun _ => ?_
      rintro world ⟨appliedAt, between, happly, h⟩
      refine (ih between).mono (fun _ h => h) ?_ (fun _ _ h => h) world h
      rintro _ world' ⟨after, hall, h'⟩
      exact ⟨after, ⟨appliedAt, between, happly, hall⟩, h'⟩

/-- Under the marker the files come to the last version, and the marker goes; or the marker stays. -/
theorem meets_migrateUnderMarker (hcorrect : engine.Correct) (marker : Option String) (path : String)
    (bytes : Bytes) (migrations : List Migration) (target : ℤ) (before : SqliteContent Data) :
    Meets (fun world => BackedUp marker path bytes world ∧ engine.read world.main world.wal = before)
      (migrateUnderMarker engine migrations target)
      (fun _ world => ∃ after, AppliesAll engine migrations before after ∧
        currentSchemaVersion after = target ∧ Plain engine after world)
      (fun stop world => BackedUp marker path bytes world ∨ stop = .crashed ∧
        ∃ after, AppliesAll engine migrations before after ∧
          currentSchemaVersion after = target ∧ Plain engine after world) := by
  unfold migrateUnderMarker
  refine Meets.bind ((meets_runMigrations hcorrect marker path bytes migrations before).mono
    (fun _ h => h) (fun _ _ h => h) fun _ _ h => .inl h) fun _ => ?_
  rintro world ⟨after, hall, hbacked, hread⟩
  suffices hchecked : Meets
      (fun world => BackedUp marker path bytes world ∧ engine.read world.main world.wal = after) _ _ _
    from hchecked world ⟨hbacked, hread⟩
  refine meets_reads_bind (after = ·) (fun _ h => h.2.symm) ?_
  rintro _ rfl
  refine Meets.ite (fun _ => meets_throw fun _ h => .inl h.1) fun hversion => ?_
  rw [not_not] at hversion
  refine meets_atomically ?_ ?_ ?_
  · exact fun world moment h => ⟨after, hall, hversion, rfl, h.2⟩
  · exact fun _ world moment h => .inl (timeless_backed _ _ _ world moment h.1)
  · exact fun world moment h => .inr ⟨rfl, after, hall, hversion, rfl, h.2⟩

/-- A migration that is undone leaves the content from before, or the marker. -/
theorem meets_undoMigration {α : Unit → MigrationWorld Bytes Wal → Prop} (marker : Option String)
    (path message : String) (bytes : Bytes) {content : SqliteContent Data}
    (hread : engine.read bytes none = content) :
    Meets (BackedUp marker path bytes) (undoMigration engine path (engine.sha256 bytes) message) α
      (fun _ world => BackedUp marker path bytes world ∨ Plain engine content world) := by
  have htouches : Meets (BackedUp marker path bytes) (touches engine)
      (fun _ => BackedUp marker path bytes)
      (fun _ world => BackedUp marker path bytes world ∨ Plain engine content world) := by
    unfold touches
    refine meets_cutOff ?_ ?_
    · exact fun world _ later h => ⟨h.marker, h.backup⟩
    · exact fun _ world _ later h => .inl ⟨h.marker, h.backup⟩
  unfold undoMigration
  refine htouches.bind fun _ => ?_
  refine Meets.bind ((meets_restoreVerifiedBackup engine marker path bytes).mono (fun _ h => h)
    (fun _ _ h => h) fun _ _ h => .inl h) fun _ => ?_
  refine Meets.bind ((meets_removeMigrationMarker marker path bytes hread).mono (fun _ h => h)
    (fun _ _ h => h) fun _ _ h => h.imp_right And.right) fun _ => meets_throw fun _ h => .inr h

/-- What a call may leave: a content that can be had again, which is the one from before or the
migrated one. -/
def Settles (engine : SqliteEngine Bytes Wal Data) (migrations : List Migration)
    (before : SqliteContent Data) (world : MigrationWorld Bytes Wal) : Prop :=
  ∃ content, (content = before ∨ Migrated engine migrations before content) ∧
    Recoverable engine content world

/-- What a call has opened: the migrated content, with no migration under way. -/
def Opened (engine : SqliteEngine Bytes Wal Data) (migrations : List Migration)
    (before : SqliteContent Data) (world : MigrationWorld Bytes Wal) : Prop :=
  ∃ after, Migrated engine migrations before after ∧ Plain engine after world

/-- A content is backed up and migrated, or undone where that throws. -/
theorem meets_migrateWithBackup (hcorrect : engine.Correct) (migrations : List Migration)
    (before : SqliteContent Data) (path : String) :
    Meets (Plain engine before)
      (migrateWithBackup engine path before (pendingMigrations migrations (currentSchemaVersion before))
        (targetVersion migrations))
      (fun _ => Opened engine migrations before) (fun _ => Settles engine migrations before) := by
  have hplain : ∀ world, Plain engine before world → Settles engine migrations before world :=
    fun world h => ⟨before, .inl rfl, .inl h⟩
  unfold migrateWithBackup
  refine Meets.through (fun _ world => ∃ bytes, engine.read bytes none = before ∧
    Plain engine before world ∧ world.backups path = some bytes) (meets_cutOff ?_ ?_) fun _ => ?_
  · exact fun world moment later h =>
      ⟨_, hcorrect.read_backup moment before, ⟨h.marker, h.read⟩, if_pos rfl⟩
  · exact fun _ world _ later h => hplain _ ⟨h.marker, h.read⟩
  rintro world ⟨bytes, hread, h⟩
  suffices hbacked : Meets (fun world => Plain engine before world ∧ world.backups path = some bytes) _
      (fun _ => Opened engine migrations before) (fun _ => Settles engine migrations before)
    from hbacked world h
  let marker := some (markerOf (currentSchemaVersion before) (targetVersion migrations) path
    (engine.sha256 bytes))
  have hplain : ∀ world, Plain engine before world → Settles engine migrations before world :=
    fun world h => ⟨before, .inl rfl, .inl h⟩
  have hmarked : ∀ world, BackedUp marker path bytes world → Settles engine migrations before world :=
    fun world h => ⟨before, .inl rfl, .inr ⟨_, _, path, bytes, h, hread⟩⟩
  have htimeless : Timeless fun world : MigrationWorld Bytes Wal =>
      Plain engine before world ∧ world.backups path = some bytes :=
    fun world moment h => ⟨timeless_plain _ world moment h.1, h.2⟩
  refine meets_passes_bind htimeless (fun _ world h => hplain world h.1) ?_
  refine Meets.bind ((meets_hashBinaryFile htimeless fun _ h => h.2).mono (fun _ h => h)
    (fun _ _ h => h) fun _ world h => hplain world h.1) fun hash => meets_of_pre ?_
  rintro rfl
  refine Meets.through (fun _ world => BackedUp marker path bytes world ∧
    engine.read world.main world.wal = before) (meets_atomically ?_ ?_ ?_) fun _ => ?_
  · exact fun world moment h => ⟨⟨rfl, h.2⟩, h.1.read⟩
  · exact fun _ world moment h => hplain _ (timeless_plain _ world moment h.1)
  · exact fun world moment h => hmarked _ ⟨rfl, h.2⟩
  refine ((meets_migrateUnderMarker hcorrect marker path bytes _ _ before).mono (fun _ h => h) ?_
    fun _ _ h => h).rescue ?_ ?_
  · rintro _ world ⟨after, hall, hversion, h⟩
    exact ⟨after, ⟨hall, hversion⟩, h⟩
  · intro stop message hmessage
    have hthrown : stop ≠ .crashed := by
      rintro rfl
      cases hmessage
    refine (meets_undoMigration marker path message bytes hread).mono ?_ (fun _ _ h => h) ?_
    · rintro world (h | ⟨hcrashed, -⟩)
      · exact h
      · exact absurd hcrashed hthrown
    · exact fun _ world h => h.elim (hmarked world) (hplain world)
  · rintro stop world - (h | ⟨-, after, hall, hversion, h⟩)
    · exact hmarked world h
    · exact ⟨after, .inr ⟨hall, hversion⟩, .inl h⟩

/-- From a content the migrated one is opened, or one of the two can be had again. -/
theorem meets_migrateOpenDatabase (hcorrect : engine.Correct) (migrations : List Migration)
    (before : SqliteContent Data) :
    Meets (Plain engine before) (migrateOpenDatabase engine migrations)
      (fun _ => Opened engine migrations before)
      (fun _ => Settles engine migrations before) := by
  have hplain : ∀ world, Plain engine before world → Settles engine migrations before world :=
    fun world h => ⟨before, .inl rfl, .inl h⟩
  unfold migrateOpenDatabase
  refine meets_reads_bind (before = ·) (fun _ h => h.read.symm) ?_
  rintro _ rfl
  refine Meets.ite (fun hversion => meets_pure fun world h =>
    ⟨before, .refl_of_version hversion, h⟩) fun _ => ?_
  refine Meets.ite (fun _ => meets_throw fun world h => hplain world h) fun _ => ?_
  refine meets_reads_bind (fun _ => True) (fun _ _ => trivial) fun moment _ => ?_
  exact meets_migrateWithBackup hcorrect migrations before _

/-! ## Calls -/

theorem timeless_settles (migrations : List Migration) (before : SqliteContent Data) :
    Timeless (Settles engine migrations before) :=
  fun world moment ⟨content, hcontent, h⟩ =>
    ⟨content, hcontent, timeless_recoverable _ world moment h⟩

/-- SQLite keeps what a call may leave. -/
theorem meets_touches_settles (hcorrect : engine.Correct) (migrations : List Migration)
    (before : SqliteContent Data) :
    Meets (Settles engine migrations before) (touches engine)
      (fun _ => Settles engine migrations before) (fun _ => Settles engine migrations before) := by
  rintro world ⟨content, hcontent, hplain | ⟨fromVersion, toVersion, path, bytes, h, hread⟩⟩
  · exact (meets_touches hcorrect content).mono (fun _ h => h)
      (fun _ _ h => (⟨content, hcontent, .inl h⟩ : Settles engine migrations before _))
      (fun _ _ h => (⟨content, hcontent, .inl h⟩ : Settles engine migrations before _)) world hplain
  · have hmarked : ∀ world' : MigrationWorld Bytes Wal, world'.marker = world.marker →
        world'.backups = world.backups → Settles engine migrations before world' :=
      fun world' hmarker hbackups => ⟨content, hcontent, .inr ⟨fromVersion, toVersion, path, bytes,
        ⟨hmarker.trans h.marker, by rw [hbackups]; exact h.backup⟩, hread⟩⟩
    unfold touches cutOff
    cases engine.outcome world.moment with
    | done => exact hmarked _ rfl rfl
    | failed => exact hmarked _ rfl rfl
    | killed landed => exact hmarked _ rfl rfl

/-- A call opens the migrated content, or leaves one that can be had again. -/
theorem meets_openOrClose (hcorrect : engine.Correct) (migrations : List Migration)
    (before : SqliteContent Data) :
    Meets (Recoverable engine before) (openOrClose engine migrations)
      (fun opened world => Migrated engine migrations before opened ∧ Plain engine opened world)
      (fun _ => Settles engine migrations before) := by
  have hsettled : ∀ world, Recoverable engine before world → Settles engine migrations before world :=
    fun world h => ⟨before, .inl rfl, h⟩
  unfold openOrClose
  refine Meets.bind ((meets_recoverInterruptedMigration before).mono (fun _ h => h) (fun _ _ h => h)
    fun _ => hsettled) fun _ => ?_
  refine Meets.bind ((meets_touches hcorrect before).mono (fun _ h => h) (fun _ _ h => h)
    fun _ world h => hsettled world (.inl h)) fun _ => ?_
  refine Meets.through (fun _ => Opened engine migrations before)
    ((meets_migrateOpenDatabase hcorrect migrations before).rescue ?_ fun _ _ _ h => h) fun _ => ?_
  · intro stop message _
    exact (meets_touches_settles hcorrect migrations before).bind fun _ => meets_throw fun _ h => h
  · rintro world ⟨after, hmigrated, h⟩
    suffices hread : Meets (Plain engine after) (content engine)
        (fun opened world => Migrated engine migrations before opened ∧ Plain engine opened world)
        (fun _ => Settles engine migrations before) from hread world h
    rintro world' h'
    change Migrated engine migrations before (engine.read world'.main world'.wal) ∧
      Plain engine (engine.read world'.main world'.wal) world'
    rw [h'.read]
    exact ⟨hmigrated, h'⟩

/-- The same under the lock. -/
theorem meets_openMigratedDatabase (hcorrect : engine.Correct) (migrations : List Migration)
    (before : SqliteContent Data) :
    Meets (Recoverable engine before) (openMigratedDatabase engine migrations)
      (fun opened world => Migrated engine migrations before opened ∧ Plain engine opened world)
      (fun _ => Settles engine migrations before) := by
  have hsettled : ∀ world, Recoverable engine before world → Settles engine migrations before world :=
    fun world h => ⟨before, .inl rfl, h⟩
  have htimeless : Timeless (Recoverable engine before) := timeless_recoverable before
  unfold openMigratedDatabase
  refine Meets.through (fun _ => Recoverable engine before) ?_ fun _ => ?_
  · unfold assertSchemaHasNoSecretColumns
    exact Meets.ite (fun _ => meets_throw hsettled) fun _ => meets_pure fun _ h => h
  refine meets_passes_bind htimeless (fun _ => hsettled) ?_
  refine meets_passes_bind htimeless (fun _ => hsettled) ?_
  refine meets_passes_bind htimeless (fun _ => hsettled) ?_
  refine Meets.bind ((meets_openOrClose hcorrect migrations before).rescue ?_ fun _ _ _ h => h)
    fun opened => ?_
  · intro stop message _
    exact meets_passes_bind (timeless_settles migrations before) (fun _ _ h => h)
      (meets_throw fun _ h => h)
  · refine meets_passes_bind ?_ ?_ (meets_pure fun _ h => h)
    · exact fun world moment h => ⟨h.1, timeless_plain _ world moment h.2⟩
    · exact fun _ world h => ⟨opened, .inr h.1, .inl h.2⟩

/-! ## Histories -/

/-- The files over time, and the contents that the calls have opened. -/
structure MigrationHistory (Bytes Wal Data : Type) where
  world : MigrationWorld Bytes Wal
  opened : List (SqliteContent Data)

/-- One more call. -/
def MigrationHistory.step (engine : SqliteEngine Bytes Wal Data) (migrations : List Migration)
    (history : MigrationHistory Bytes Wal Data) (_ : Unit) :
    Option (MigrationHistory Bytes Wal Data) :=
  match openMigratedDatabase engine migrations history.world with
  | .ok content world => some ⟨world, history.opened ++ [content]⟩
  | .error _ world => some ⟨world, history.opened⟩

/-- However often the database is opened, and wherever the calls fail or are cut off, every call that
returns has opened the original content, carried through all pending migrations. -/
theorem migrated_of_run (hcorrect : engine.Correct) (migrations : List Migration)
    {start : MigrationWorld Bytes Wal} (hmarker : start.marker = none) {calls : List Unit}
    {history : MigrationHistory Bytes Wal Data}
    (hrun : List.run (MigrationHistory.step engine migrations) ⟨start, []⟩ calls = some history) :
    ∀ content ∈ history.opened,
      Migrated engine migrations (engine.read start.main start.wal) content := by
  let original := engine.read start.main start.wal
  have hkept : Settles engine migrations original history.world ∧
      ∀ content ∈ history.opened, Migrated engine migrations original content := by
    refine List.run_induction
      (motive := fun _ history => Settles engine migrations original history.world ∧
        ∀ content ∈ history.opened, Migrated engine migrations original content) ?_ ?_ hrun
    · exact ⟨⟨original, .inl rfl, .inl ⟨hmarker, rfl⟩⟩, fun content h => absurd h List.not_mem_nil⟩
    rintro _ ⟨world, opened⟩ _ history' - ⟨⟨current, hcurrent, hrecoverable⟩, hopened⟩ hstep
    -- A content that is migrated already stays what it is.
    have hmigrated : ∀ after, Migrated engine migrations current after →
        Migrated engine migrations original after := by
      intro after hafter
      rcases hcurrent with rfl | hcurrent
      · exact hafter
      · rw [hcurrent.eq hafter]
        exact hcurrent
    have hcall := meets_openMigratedDatabase hcorrect migrations current world hrecoverable
    unfold MigrationHistory.step at hstep
    cases hresult : openMigratedDatabase engine migrations world with
    | ok content world' =>
        rw [hresult] at hcall hstep
        cases hstep
        refine ⟨⟨content, .inr (hmigrated content hcall.1), .inl hcall.2⟩, fun other hother => ?_⟩
        rcases List.mem_append.1 hother with hmem | hmem
        · exact hopened other hmem
        · rw [List.mem_singleton.1 hmem]
          exact hmigrated content hcall.1
    | error stop world' =>
        rw [hresult] at hcall hstep
        cases hstep
        obtain ⟨left, hleft, hrecoverable'⟩ := hcall
        refine ⟨⟨left, ?_, hrecoverable'⟩, hopened⟩
        rcases hleft with rfl | hleft
        · exact hcurrent
        · exact .inr (hmigrated left hleft)
  exact hkept.2

/-! ## A call that is killed -/

/-- Two migrations, each of which the table of the versions must be there for. -/
def twoMigrations : List Migration :=
  [⟨1, "first", "CREATE TABLE schema_migrations"⟩, ⟨2, "second", "ALTER TABLE accounts"⟩]

/-- Files that hold their content as it is. The process is killed at one moment. -/
def killedEngine (moment : ℕ) : SqliteEngine (SqliteContent ℕ) Unit ℕ where
  read main _ := main
  exec sql content :=
    if sql = "CREATE TABLE schema_migrations" then some ⟨some [], content.data⟩
    else content.rows.map fun rows => ⟨some rows, content.data + 1⟩
  written _ content _ _ := (content, none)
  backup _ content := content
  torn _ := (⟨none, 0⟩, none)
  sha256 content := toString content.data
  isoString moment := toString moment
  outcome other := if other = moment then .killed false else .done

theorem correct_killedEngine (moment : ℕ) : (killedEngine moment).Correct :=
  ⟨fun _ _ _ _ => rfl, fun _ _ => rfl⟩

/-- A database without tables. -/
def emptyDatabase : MigrationWorld (SqliteContent ℕ) Unit := ⟨⟨none, 7⟩, none, none, fun _ => none, 0⟩

/-- A call that is killed between the two migrations, and one that takes up what it has left. -/
theorem migrated_of_killedEngine :
    ∃ history, List.run (MigrationHistory.step (killedEngine 10) twoMigrations) ⟨emptyDatabase, []⟩
        [(), ()] = some history ∧ history.opened.map currentSchemaVersion = [2] ∧
      ∀ content ∈ history.opened, Migrated (killedEngine 10) twoMigrations ⟨none, 7⟩ content := by
  have hopened : (List.run (MigrationHistory.step (killedEngine 10) twoMigrations)
      ⟨emptyDatabase, []⟩ [(), ()]).map (fun history => history.opened.map currentSchemaVersion) =
        some [2] := by
    decide +kernel
  obtain ⟨history, hrun, hversions⟩ := Option.map_eq_some_iff.1 hopened
  exact ⟨history, hrun, hversions,
    migrated_of_run (correct_killedEngine 10) twoMigrations rfl hrun⟩

end RlyGateway
