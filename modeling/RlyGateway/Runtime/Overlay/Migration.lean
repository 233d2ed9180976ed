import RlyGateway.Library.DirectoryTree
import RlyGateway.Library.Runs

/-!
# Migration of the shared overlay

`migrateSharedOverlay` of `src/runtime/claude-overlay.ts`: the directory `claude` is renamed to its
sibling `claude.legacy` and from there to `claude/views/default`. Each call of the file system is a
step; the runs of several launches interleave, and each may stop after any step.
-/

namespace RlyGateway

variable {Bytes : Type}

/-! ## The disk -/

/-- The listing with a name standing for a node. -/
def writeEntry (name : String) (node : TreeNode Bytes) :
    DirectoryListing Bytes → DirectoryListing Bytes
  | .empty => .entry name node .empty
  | .entry first old rest =>
      if first = name then .entry name node rest else .entry first old (writeEntry name node rest)

/-- What stands at `claude` and at `claude.legacy`. -/
structure OverlayDisk (Bytes : Type) where
  claude : Option (TreeNode Bytes)
  staging : Option (TreeNode Bytes)
deriving DecidableEq

def isDirectory : Option (TreeNode Bytes) → Bool
  | some (.directory _) => true
  | _ => false

/-- What a name stands for in a directory. -/
def entryOf (name : String) : Option (TreeNode Bytes) → Option (TreeNode Bytes)
  | some (.directory entries) => entries.lookup name
  | _ => none

/-- Whether `rename` moves what is at one path to another path: of a directory, to where nothing or
an empty directory is. -/
def canRename : Option (TreeNode Bytes) → Option (TreeNode Bytes) → Bool
  | none, _ => false
  | some _, none => true
  | some (.directory _), some (.directory .empty) => true
  | some (.directory _), some _ => false
  | some _, some (.directory _) => false
  | some _, some _ => true

namespace OverlayDisk

variable (disk : OverlayDisk Bytes)

def viewsRoot : Option (TreeNode Bytes) := entryOf "views" disk.claude

def defaultView : Option (TreeNode Bytes) := entryOf "default" disk.viewsRoot

/-- `rename(legacy, staging)`. -/
def renameLegacy : Option (OverlayDisk Bytes) :=
  if canRename disk.claude disk.staging then some ⟨none, disk.claude⟩ else none

/-- `rename(staging, defaultView)`. -/
def renameStaging : Option (OverlayDisk Bytes) :=
  match disk.claude, disk.viewsRoot, disk.staging with
  | some (.directory entries), some (.directory views), some node =>
      if canRename disk.staging disk.defaultView then
        some ⟨some (.directory (writeEntry "views" (.directory (writeEntry "default" node views))
          entries)), none⟩
      else none
  | _, _, _ => none

end OverlayDisk

/-- What one call of `mkdir` comes to on the way to a directory: it is there, its parent has been
made and it is tried again, or something else is in the way. -/
inductive MkdirOutcome (Bytes : Type) where
  | made (disk : OverlayDisk Bytes)
  | again (disk : OverlayDisk Bytes)
  | failed

/-- One call of `mkdir` on the way to `claude/views`. -/
def OverlayDisk.makeViews (disk : OverlayDisk Bytes) : MkdirOutcome Bytes :=
  match disk.claude with
  | none => .again { disk with claude := some (.directory .empty) }
  | some (.directory entries) =>
      match entries.lookup "views" with
      | none =>
          .made { disk with
            claude := some (.directory (writeEntry "views" (.directory .empty) entries)) }
      | some (.directory _) => .made disk
      | some _ => .failed
  | some _ => .failed

/-! ## A run -/

/-- The call of the file system that a run makes next. -/
inductive MigrationPoint where
  | checkLegacy
  | checkStaging
  | checkDefault
  | checkViews
  | renameLegacy
  | confirmStaging
  | makeViews
  | renameStaging
  | confirmDefault
deriving DecidableEq, Repr

inductive MigrationEnd where
  | returned (migrated : Bool)
  | threw
deriving DecidableEq, Repr

/-- One step of a run. The change of mode after the last rename is left out. -/
def migrationStep (disk : OverlayDisk Bytes) (sameRoot : Bool) :
    MigrationPoint → OverlayDisk Bytes × (MigrationPoint ⊕ MigrationEnd)
  | .checkLegacy =>
      (disk, if !isDirectory disk.claude then .inl .checkStaging
        -- never migrate a live native root
        else if sameRoot then .inr (.returned false)
        else .inl .checkDefault)
  | .checkStaging =>
      (disk, if isDirectory disk.staging then .inl .makeViews else .inr (.returned false))
  | .checkDefault =>
      (disk, if isDirectory disk.defaultView then .inr (.returned false) else .inl .checkViews)
  | .checkViews =>
      (disk, if isDirectory disk.viewsRoot then .inr (.returned false) else .inl .renameLegacy)
  | .renameLegacy =>
      match disk.renameLegacy with
      | some disk => (disk, .inl .makeViews)
      | none => (disk, .inl .confirmStaging)
  | .confirmStaging =>
      (disk, if isDirectory disk.staging then .inl .makeViews else .inr .threw)
  | .makeViews =>
      match disk.makeViews with
      | .made disk => (disk, .inl .renameStaging)
      | .again disk => (disk, .inl .makeViews)
      | .failed => (disk, .inr .threw)
  | .renameStaging =>
      match disk.renameStaging with
      | some disk => (disk, .inr (.returned true))
      | none => (disk, .inl .confirmDefault)
  | .confirmDefault => (disk, .inr (.returned (isDirectory disk.defaultView)))

/-- A run by itself, from a point to its end. -/
def runAlone : ℕ → OverlayDisk Bytes → MigrationPoint → Option (OverlayDisk Bytes)
  | 0, _, _ => none
  | fuel + 1, disk, point =>
      match migrationStep disk false point with
      | (disk, .inl point) => runAlone fuel disk point
      | (disk, .inr _) => some disk

/-- A complete run by itself, of a launch whose native root is elsewhere. It makes no more than ten
steps. -/
def migrateSharedOverlay (disk : OverlayDisk Bytes) : Option (OverlayDisk Bytes) :=
  runAlone 10 disk .checkLegacy

/-! ## Runs of several launches -/

structure MigrationRun where
  /-- The native root of the launch is the shared overlay itself. -/
  sameRoot : Bool
  point : MigrationPoint
deriving DecidableEq, Repr

/-- The disk and the runs that are on their way. -/
structure Migrations (Bytes : Type) where
  disk : OverlayDisk Bytes
  runs : List MigrationRun

inductive MigrationEvent where
  | start (sameRoot : Bool)
  | advance (i : ℕ)
  | crash (i : ℕ)
deriving DecidableEq, Repr

namespace Migrations

/-- A shared overlay, and no run yet. -/
def initial (overlay : DirectoryListing Bytes) : Migrations Bytes :=
  ⟨⟨some (.directory overlay), none⟩, []⟩

def step (state : Migrations Bytes) : MigrationEvent → Option (Migrations Bytes)
  | .start sameRoot => some { state with runs := state.runs ++ [⟨sameRoot, .checkLegacy⟩] }
  | .advance i =>
      state.runs[i]?.map fun run =>
        match migrationStep state.disk run.sameRoot run.point with
        | (disk, .inl point) => ⟨disk, state.runs.set i ⟨run.sameRoot, point⟩⟩
        | (disk, .inr _) => ⟨disk, state.runs.eraseIdx i⟩
  | .crash i => state.runs[i]?.map fun _ => { state with runs := state.runs.eraseIdx i }

end Migrations

/-- The overlay is the default view, and nothing is left beside it. -/
def OverlayMigrated (overlay : DirectoryListing Bytes) (disk : OverlayDisk Bytes) : Prop :=
  disk.defaultView = some (.directory overlay) ∧ disk.staging = none

/-- Whatever the runs have done and wherever they were stopped, a complete run after them leaves the
overlay migrated. -/
def MigrationLosesNothing (overlay : DirectoryListing Bytes) (events : List MigrationEvent) : Prop :=
  ∀ state, List.run Migrations.step (.initial overlay) events = some state → state.runs = [] →
    ∃ disk, migrateSharedOverlay state.disk = some disk ∧ OverlayMigrated overlay disk

/-- The run is past its guards, and on its way to move what is staged. -/
def MigrationPoint.Moves (point : MigrationPoint) : Prop :=
  point ∈ [.checkStaging, .renameLegacy, .confirmStaging, .makeViews, .renameStaging]

/-- A step that does not take the overlay apart. The first rename does not take the container of the
views; and where the container is there and the overlay still staged, a run is only stopped while
another is on its way to move it. -/
def Migrations.Careful (state : Migrations Bytes) : MigrationEvent → Prop
  | .start _ => True
  | .advance i => ∀ run, state.runs[i]? = some run → run.point = .renameLegacy →
      isDirectory state.disk.viewsRoot → state.disk.staging ≠ none ∧
        state.disk.staging ≠ some (.directory .empty)
  | .crash i => isDirectory state.disk.viewsRoot → isDirectory state.disk.staging →
      ∃ run ∈ state.runs.eraseIdx i, run.point.Moves

/-! ## The way of the overlay -/

/-- How far the overlay has come. -/
inductive OverlayPhase where
  /-- The overlay is the directory `claude`. -/
  | legacy
  /-- It is staged, and nothing is at `claude`. -/
  | staged
  /-- It is staged, and an empty directory is at `claude`. -/
  | refilled
  /-- It is staged, and the container of the views is at `claude`. -/
  | contained
  /-- It is the default view. -/
  | settled
deriving DecidableEq, Repr

/-- What the disk is then. -/
def OverlayPhase.disk (overlay : DirectoryListing Bytes) : OverlayPhase → OverlayDisk Bytes
  | .legacy => ⟨some (.directory overlay), none⟩
  | .staged => ⟨none, some (.directory overlay)⟩
  | .refilled => ⟨some (.directory .empty), some (.directory overlay)⟩
  | .contained =>
      ⟨some (.directory (.entry "views" (.directory .empty) .empty)), some (.directory overlay)⟩
  | .settled =>
      ⟨some (.directory (.entry "views" (.directory
        (.entry "default" (.directory overlay) .empty)) .empty)), none⟩

/-- Where a run can be then: before its first rename at first, and before its second only with the
container. -/
def OverlayPhase.Allows : OverlayPhase → MigrationPoint → Prop
  | .legacy, point => point ∈ [.checkLegacy, .checkDefault, .checkViews, .renameLegacy]
  | .staged, point | .refilled, point => point ≠ .renameStaging
  | .contained, _ | .settled, _ => True

/-- What a run's step can make of the disk, of what the other runs may be at, and of itself: the run
that makes the container is on its way to move the overlay, and a run that is on its way stays so
until it has been moved. -/
structure PhaseStep (overlay : DirectoryListing Bytes) (phase : OverlayPhase)
    (point : MigrationPoint) (next : OverlayDisk Bytes × (MigrationPoint ⊕ MigrationEnd))
    (phase' : OverlayPhase) : Prop where
  disk : next.1 = phase'.disk overlay
  others : ∀ point, phase.Allows point → phase'.Allows point
  allows : ∀ point', next.2 = .inl point' → phase'.Allows point'
  moves : phase' = .contained → phase ≠ .contained ∨ point.Moves →
    ∃ point', next.2 = .inl point' ∧ point'.Moves

section Phases

variable {overlay : DirectoryListing Bytes}

theorem phaseStep_self {phase : OverlayPhase} {point point' : MigrationPoint}
    (hallows : phase.Allows point') (hmoves : point.Moves → point'.Moves) :
    PhaseStep overlay phase point (phase.disk overlay, .inl point') phase where
  disk := rfl
  others _ h := h
  allows _ h := by
    cases h
    exact hallows
  moves hcontained h := by
    rcases h with h | h
    · exact absurd hcontained h
    · exact ⟨point', rfl, hmoves h⟩

theorem phaseStep_end {phase : OverlayPhase} {point : MigrationPoint} (ending : MigrationEnd)
    (h : phase = .contained → ¬ point.Moves) :
    PhaseStep overlay phase point (phase.disk overlay, .inr ending) phase where
  disk := rfl
  others _ h := h
  allows _ h := by cases h
  moves hcontained hmoves := by
    rcases hmoves with hne | hmoves
    · exact absurd hcontained hne
    · exact absurd hmoves (h hcontained)

variable (overlay) in
/-- The first rename, where it does not take the container of the views. -/
theorem phaseStep_renameLegacy {phase : OverlayPhase} (hallows : phase.Allows .renameLegacy)
    (hcareful : isDirectory (phase.disk overlay).viewsRoot → (phase.disk overlay).staging ≠ none ∧
      (phase.disk overlay).staging ≠ some (.directory .empty)) (sameRoot : Bool) :
    ∃ phase', PhaseStep overlay phase .renameLegacy
      (migrationStep (phase.disk overlay) sameRoot .renameLegacy) phase' := by
  have hstay (hrename : (phase.disk overlay).renameLegacy = none)
      (hconfirm : phase.Allows .confirmStaging) :
      PhaseStep overlay phase .renameLegacy
        (migrationStep (phase.disk overlay) sameRoot .renameLegacy) phase := by
    rw [migrationStep, hrename]
    exact phaseStep_self hconfirm fun _ => by simp [MigrationPoint.Moves]
  have hmove (hrename : (phase.disk overlay).renameLegacy = some (OverlayPhase.staged.disk overlay))
      (hothers : ∀ point, phase.Allows point → point ≠ .renameStaging) :
      PhaseStep overlay phase .renameLegacy
        (migrationStep (phase.disk overlay) sameRoot .renameLegacy) .staged := by
    rw [migrationStep, hrename]
    exact
      { disk := rfl
        others := hothers
        allows := by
          intro point' h
          cases h
          simp [OverlayPhase.Allows]
        moves := by
          intro h
          cases h }
  cases phase with
  | legacy =>
      refine ⟨.staged, hmove rfl ?_⟩
      rintro point hpoint rfl
      simp [OverlayPhase.Allows] at hpoint
  | staged => exact ⟨.staged, hstay rfl (by simp [OverlayPhase.Allows])⟩
  | refilled =>
      -- an empty overlay can be overwritten by the empty directory
      cases overlay with
      | empty => exact ⟨.staged, hmove rfl fun _ h => h⟩
      | entry name node rest => exact ⟨.refilled, hstay rfl (by simp [OverlayPhase.Allows])⟩
  | contained =>
      cases overlay with
      | empty => exact absurd rfl (hcareful rfl).2
      | entry name node rest => exact ⟨.contained, hstay rfl trivial⟩
  | settled => exact absurd rfl (hcareful rfl).1

/-- The container of the views is made once the overlay is staged. -/
theorem phaseStep_makeViews {phase : OverlayPhase} (hallows : phase.Allows .makeViews)
    (sameRoot : Bool) :
    ∃ phase', PhaseStep overlay phase .makeViews
      (migrationStep (phase.disk overlay) sameRoot .makeViews) phase' := by
  cases phase with
  | legacy => simp [OverlayPhase.Allows] at hallows
  | staged =>
      refine ⟨.refilled, rfl, fun _ h => h, ?_, by simp⟩
      intro point' h
      cases h
      simp [OverlayPhase.Allows]
  | refilled =>
      refine ⟨.contained, rfl, fun _ _ => trivial, fun _ _ => trivial, ?_⟩
      intro _ _
      exact ⟨.renameStaging, rfl, by simp [MigrationPoint.Moves]⟩
  | contained =>
      exact ⟨.contained, phaseStep_self trivial fun _ => by simp [MigrationPoint.Moves]⟩
  | settled => exact ⟨.settled, phaseStep_self trivial fun _ => by simp [MigrationPoint.Moves]⟩

/-- The second rename takes the overlay to the default view. -/
theorem phaseStep_renameStaging {phase : OverlayPhase} (hallows : phase.Allows .renameStaging)
    (sameRoot : Bool) :
    ∃ phase', PhaseStep overlay phase .renameStaging
      (migrationStep (phase.disk overlay) sameRoot .renameStaging) phase' := by
  cases phase with
  | legacy => simp [OverlayPhase.Allows] at hallows
  | staged => exact absurd rfl hallows
  | refilled => exact absurd rfl hallows
  | contained =>
      refine ⟨.settled, rfl, fun _ _ => trivial, ?_, by simp⟩
      intro point' h
      cases h
  | settled =>
      refine ⟨.settled, rfl, fun _ h => h, fun _ _ => trivial, by simp⟩

/-- What one step of a run makes of the overlay, wherever the overlay and the run are. -/
theorem exists_phaseStep {phase : OverlayPhase} {point : MigrationPoint} (hallows : phase.Allows point)
    (hcareful : point = .renameLegacy → isDirectory (phase.disk overlay).viewsRoot →
      (phase.disk overlay).staging ≠ none ∧
        (phase.disk overlay).staging ≠ some (.directory .empty)) (sameRoot : Bool) :
    ∃ phase', PhaseStep overlay phase point (migrationStep (phase.disk overlay) sameRoot point)
      phase' := by
  cases point with
  | checkLegacy =>
      refine ⟨phase, ?_⟩
      rw [migrationStep]
      cases hlegacy : isDirectory (phase.disk overlay).claude with
      | false =>
          refine phaseStep_self ?_ (by simp [MigrationPoint.Moves])
          cases phase <;> simp_all [OverlayPhase.disk, isDirectory, OverlayPhase.Allows]
      | true =>
          cases sameRoot with
          | true => exact phaseStep_end _ (by simp [MigrationPoint.Moves])
          | false =>
              refine phaseStep_self ?_ (by simp [MigrationPoint.Moves])
              cases phase <;> simp [OverlayPhase.Allows]
  | checkStaging =>
      refine ⟨phase, ?_⟩
      rw [migrationStep]
      cases hstaging : isDirectory (phase.disk overlay).staging with
      | true =>
          refine phaseStep_self ?_ (by simp [MigrationPoint.Moves])
          cases phase <;> simp_all [OverlayPhase.Allows]
      | false =>
          refine phaseStep_end _ ?_
          rintro rfl
          cases hstaging
  | checkDefault =>
      refine ⟨phase, ?_⟩
      rw [migrationStep]
      cases isDirectory (phase.disk overlay).defaultView with
      | true => exact phaseStep_end _ (by simp [MigrationPoint.Moves])
      | false =>
          refine phaseStep_self ?_ (by simp [MigrationPoint.Moves])
          cases phase <;> simp [OverlayPhase.Allows]
  | checkViews =>
      refine ⟨phase, ?_⟩
      rw [migrationStep]
      cases isDirectory (phase.disk overlay).viewsRoot with
      | true => exact phaseStep_end _ (by simp [MigrationPoint.Moves])
      | false =>
          refine phaseStep_self ?_ (by simp [MigrationPoint.Moves])
          cases phase <;> simp [OverlayPhase.Allows]
  | renameLegacy => exact phaseStep_renameLegacy overlay hallows (hcareful rfl) sameRoot
  | confirmStaging =>
      refine ⟨phase, ?_⟩
      rw [migrationStep]
      cases hstaging : isDirectory (phase.disk overlay).staging with
      | true =>
          refine phaseStep_self ?_ (by simp [MigrationPoint.Moves])
          cases phase <;> simp_all [OverlayPhase.Allows]
      | false =>
          refine phaseStep_end _ ?_
          rintro rfl
          cases hstaging
  | makeViews => exact phaseStep_makeViews hallows sameRoot
  | renameStaging => exact phaseStep_renameStaging hallows sameRoot
  | confirmDefault =>
      exact ⟨phase, phaseStep_end _ (by simp [MigrationPoint.Moves])⟩

/-! ## Runs that are careful -/

/-- The overlay is on its way: every run is where it can be, and where the container of the views is
there without the overlay, some run is going to move it. -/
structure OverlayOnItsWay (overlay : DirectoryListing Bytes) (state : Migrations Bytes)
    (phase : OverlayPhase) : Prop where
  disk : state.disk = phase.disk overlay
  allows : ∀ run ∈ state.runs, phase.Allows run.point
  moves : phase = .contained → ∃ run ∈ state.runs, run.point.Moves

variable (overlay) in
theorem overlayOnItsWay_initial : OverlayOnItsWay overlay (.initial overlay) .legacy where
  disk := rfl
  allows _ h := by cases h
  moves h := by cases h

theorem OverlayOnItsWay.start {state : Migrations Bytes} {phase : OverlayPhase}
    (h : OverlayOnItsWay overlay state phase) (sameRoot : Bool) :
    OverlayOnItsWay overlay { state with runs := state.runs ++ [⟨sameRoot, .checkLegacy⟩] }
      phase where
  disk := h.disk
  allows := by
    intro run hrun
    rcases List.mem_append.1 hrun with hrun | hrun
    · exact h.allows run hrun
    · cases List.mem_singleton.1 hrun
      cases phase <;> simp [OverlayPhase.Allows]
  moves hcontained := by
    obtain ⟨run, hrun, hmoves⟩ := h.moves hcontained
    exact ⟨run, List.mem_append_left _ hrun, hmoves⟩

theorem OverlayOnItsWay.crash {state : Migrations Bytes} {phase : OverlayPhase}
    (h : OverlayOnItsWay overlay state phase) {i : ℕ} (hcareful : state.Careful (.crash i)) :
    OverlayOnItsWay overlay { state with runs := state.runs.eraseIdx i } phase where
  disk := h.disk
  allows run hrun := h.allows run (List.mem_of_mem_eraseIdx hrun)
  moves hcontained := by
    rw [Migrations.Careful, h.disk, hcontained] at hcareful
    exact hcareful rfl rfl

/-- Some run other than the one at a place is on its way to move the overlay, or that one is. -/
theorem OverlayOnItsWay.moves_other {state : Migrations Bytes} {phase : OverlayPhase}
    (h : OverlayOnItsWay overlay state phase) (hcontained : phase = .contained) {i : ℕ}
    {run : MigrationRun} (hrun : state.runs[i]? = some run) :
    run.point.Moves ∨ ∃ j run', j ≠ i ∧ state.runs[j]? = some run' ∧ run'.point.Moves := by
  obtain ⟨run', hmem, hmoves⟩ := h.moves hcontained
  obtain ⟨j, hj⟩ := List.getElem?_of_mem hmem
  by_cases hij : j = i
  · rw [hij, hrun] at hj
    cases hj
    exact Or.inl hmoves
  · exact Or.inr ⟨j, run', hij, hj, hmoves⟩

theorem OverlayOnItsWay.advance {state : Migrations Bytes} {phase : OverlayPhase}
    (h : OverlayOnItsWay overlay state phase) {i : ℕ} (hcareful : state.Careful (.advance i))
    {state' : Migrations Bytes} (hstep : state.step (.advance i) = some state') :
    ∃ phase', OverlayOnItsWay overlay state' phase' := by
  obtain ⟨run, hrun, rfl⟩ := Option.map_eq_some_iff.1 hstep
  have hcareful := hcareful run hrun
  have hallows := h.allows run (List.mem_of_getElem? hrun)
  rw [h.disk] at hcareful ⊢
  obtain ⟨phase', hphase⟩ := exists_phaseStep hallows hcareful run.sameRoot
  refine ⟨phase', ?_⟩
  -- the others are where they were
  have hmoves (hcontained : phase' = .contained) :
      (∃ point', (migrationStep (phase.disk overlay) run.sameRoot run.point).2 = .inl point' ∧
        point'.Moves) ∨
      ∃ j run', j ≠ i ∧ state.runs[j]? = some run' ∧ run'.point.Moves := by
    by_cases hphase' : phase = .contained
    · rcases h.moves_other hphase' hrun with hmoves | hother
      · exact Or.inl (hphase.moves hcontained (Or.inr hmoves))
      · exact Or.inr hother
    · exact Or.inl (hphase.moves hcontained (Or.inl hphase'))
  have hlength := (List.getElem?_eq_some_iff.1 hrun).1
  rcases hnext : migrationStep (phase.disk overlay) run.sameRoot run.point with ⟨disk, point' | ending⟩
  · rw [hnext] at hphase hmoves
    refine ⟨hphase.disk, ?_, ?_⟩
    · intro run' hrun'
      rcases List.mem_or_eq_of_mem_set hrun' with hold | rfl
      · exact hphase.others _ (h.allows run' hold)
      · exact hphase.allows point' rfl
    · intro hcontained
      rcases hmoves hcontained with ⟨_, heq, hmoves⟩ | ⟨j, run', hij, hj, hmoves⟩
      · cases heq
        exact ⟨_, List.mem_set hlength _, hmoves⟩
      · refine ⟨run', List.mem_of_getElem? (i := j) ?_, hmoves⟩
        rw [List.getElem?_set_ne (Ne.symm hij)]
        exact hj
  · rw [hnext] at hphase hmoves
    refine ⟨hphase.disk, ?_, ?_⟩
    · intro run' hrun'
      exact hphase.others _ (h.allows run' (List.mem_of_mem_eraseIdx hrun'))
    · intro hcontained
      rcases hmoves hcontained with ⟨_, heq, -⟩ | ⟨j, run', hij, hj, hmoves⟩
      · cases heq
      · exact ⟨run', List.mem_eraseIdx_iff_getElem?.2 ⟨j, hij, hj⟩, hmoves⟩

/-- Along a careful run the overlay stays on its way. -/
theorem exists_overlayOnItsWay {events : List MigrationEvent} {state : Migrations Bytes}
    (halong : events.Along Migrations.Careful Migrations.step (.initial overlay))
    (hrun : List.run Migrations.step (.initial overlay) events = some state) :
    ∃ phase, OverlayOnItsWay overlay state phase := by
  revert halong
  refine List.run_induction (motive := fun events state =>
    events.Along Migrations.Careful Migrations.step (.initial overlay) →
      ∃ phase, OverlayOnItsWay overlay state phase) ?_ ?_ hrun
  · intro _
    exact ⟨.legacy, overlayOnItsWay_initial overlay⟩
  · intro events state event state' hrun ih hstep halong
    obtain ⟨halong, hcareful⟩ := (List.along_concat hrun).1 halong
    obtain ⟨phase, hphase⟩ := ih halong
    cases event with
    | start sameRoot =>
        cases hstep
        exact ⟨phase, hphase.start sameRoot⟩
    | advance i => exact hphase.advance hcareful hstep
    | crash i =>
        obtain ⟨-, -, rfl⟩ := Option.map_eq_some_iff.1 hstep
        exact ⟨phase, hphase.crash hcareful⟩

/-- From where no run has to move the overlay, a run by itself brings it to the default view. -/
theorem migrateSharedOverlay_disk (hviews : isDirectory (overlay.lookup "views") = false)
    {phase : OverlayPhase} (hphase : phase ≠ .contained) :
    migrateSharedOverlay (phase.disk overlay) = some (OverlayPhase.settled.disk overlay) := by
  cases phase with
  | legacy =>
      have hroot : (OverlayPhase.legacy.disk overlay).viewsRoot = overlay.lookup "views" := rfl
      have hdefault : isDirectory (OverlayPhase.legacy.disk overlay).defaultView = false := by
        rw [OverlayDisk.defaultView, hroot]
        revert hviews
        generalize overlay.lookup "views" = node
        rcases node with _ | ⟨_ | _ | _ | _⟩ <;> simp [isDirectory, entryOf]
      calc
        migrateSharedOverlay (OverlayPhase.legacy.disk overlay)
        _ = runAlone 9 (OverlayPhase.legacy.disk overlay) .checkDefault := rfl
        _ = runAlone 8 (OverlayPhase.legacy.disk overlay) .checkViews := by
            rw [runAlone, migrationStep, hdefault]
            rfl
        _ = runAlone 7 (OverlayPhase.legacy.disk overlay) .renameLegacy := by
            rw [runAlone, migrationStep, hroot, hviews]
            rfl
        _ = some (OverlayPhase.settled.disk overlay) := rfl
  | staged => rfl
  | refilled => cases overlay <;> rfl
  | contained => exact absurd rfl hphase
  | settled => rfl

/-- Of an overlay that holds no container of views, careful runs lose nothing. -/
theorem migrationLosesNothing_of_careful {events : List MigrationEvent}
    (hviews : isDirectory (overlay.lookup "views") = false)
    (halong : events.Along Migrations.Careful Migrations.step (.initial overlay)) :
    MigrationLosesNothing overlay events := by
  intro state hrun hruns
  obtain ⟨phase, hphase⟩ := exists_overlayOnItsWay halong hrun
  have hne : phase ≠ .contained := by
    intro hcontained
    obtain ⟨run, hmem, -⟩ := hphase.moves hcontained
    rw [hruns] at hmem
    cases hmem
  refine ⟨OverlayPhase.settled.disk overlay, ?_, rfl, rfl⟩
  rw [hphase.disk]
  exact migrateSharedOverlay_disk hviews hne

end Phases

/-- A shared overlay with the settings of the native command. -/
def sampleOverlay : DirectoryListing String :=
  .entry "settings.json" (.file "x") .empty

instance : DecidablePred MigrationPoint.Moves := fun point =>
  inferInstanceAs (Decidable (point ∈ [_, _, _, _, _]))

instance [DecidableEq Bytes] (state : Migrations Bytes) :
    (event : MigrationEvent) → Decidable (state.Careful event)
  | .start _ => isTrue trivial
  | .advance i => inferInstanceAs (Decidable (∀ run ∈ state.runs[i]?, run.point = .renameLegacy →
      isDirectory state.disk.viewsRoot → _ ∧ _))
  | .crash i => inferInstanceAs (Decidable (isDirectory state.disk.viewsRoot →
      isDirectory state.disk.staging → ∃ run ∈ state.runs.eraseIdx i, run.point.Moves))

/-- Two launches: one is stopped between the two renames, the other goes on from there. -/
def carefulMigrations : List MigrationEvent :=
  [.start false, .start false] ++ List.replicate 5 (.advance 1) ++ List.replicate 4 (.advance 0) ++
    [.crash 1] ++ List.replicate 3 (.advance 0)

theorem migrationLosesNothing_of_careful_sample :
    (List.run Migrations.step (.initial sampleOverlay) carefulMigrations).map (·.runs) = some [] ∧
      MigrationLosesNothing sampleOverlay carefulMigrations :=
  ⟨by decide, migrationLosesNothing_of_careful rfl (by decide)⟩

/-- A run that is stopped when it has made the container of the views leaves the overlay staged, and
no later run moves it. -/
theorem not_migrationLosesNothing : ¬ ∀ (overlay : DirectoryListing String)
    (events : List MigrationEvent), isDirectory (overlay.lookup "views") = false →
      MigrationLosesNothing overlay events := by
  intro h
  obtain ⟨disk, hrun, -, hstaging⟩ := h sampleOverlay
    (.start false :: List.replicate 6 (.advance 0) ++ [.crash 0]) rfl _ rfl rfl
  cases hrun
  cases hstaging

end RlyGateway
