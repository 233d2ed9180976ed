import RlyGateway.Runtime.Overlay.ViewPreparation

/-!
# Preparations that return

`prepareClaudeOverlay` of `src/runtime/claude-overlay.ts` returns, and gives up the reconcile lock,
unless it composes native settings that are JSON but no object.
-/

namespace RlyGateway.ViewPreparation

variable {Bytes : Type} {runtime : OverlayRuntime Bytes} {call : OverlayCall Bytes}
  {native : NativeDirectory Bytes} {locked : Bool}

/-! ## Settings -/

theorem parsedSettings_eq_notAnObject {value : Json} (h : value.obj? = none) :
    parsedSettings (some value) = .notAnObject := by
  cases value with
  | obj fields => cases h
  | _ => rfl

theorem exists_composeOverlaySettings {settings : ParsedSettings} (h : settings ≠ .notAnObject)
    (previous : ParsedSettings) (explicit : ExplicitClaudeSettings) :
    ∃ next, composeOverlaySettings settings previous explicit = .ok next := by
  cases settings with
  | undefined => exact ⟨_, rfl⟩
  | notAnObject => exact absurd rfl h
  | record fields =>
      obtain ⟨next, hnext, _⟩ := composeOverlaySettings_record fields previous explicit
      exact ⟨next, hnext⟩

theorem exists_settingsSourceKeys (fields : List (String × Json)) :
    ∃ keys, settingsSourceKeys (some (.obj fields)) = .ok keys :=
  ⟨_, rfl⟩

/-- Composing throws before anything is written. -/
theorem composeSettings_of_notAnObject (progress : Progress Bytes)
    (h : parsedSettings (readJsonFile runtime (native.readFile [SETTINGS_FILE])) = .notAnObject) :
    ∃ error, composeSettings runtime call native locked progress = (.error error, progress) := by
  rw [composeSettings, h]
  exact ⟨_, rfl⟩

theorem exists_composeSettings (progress : Progress Bytes)
    (hsome : (readJsonFile runtime (native.readFile [SETTINGS_FILE])).isSome)
    (h : parsedSettings (readJsonFile runtime (native.readFile [SETTINGS_FILE])) ≠ .notAnObject) :
    ∃ progress', composeSettings runtime call native locked progress = (.ok (), progress') := by
  obtain ⟨value, hvalue⟩ := Option.isSome_iff_exists.1 hsome
  rw [hvalue] at h
  obtain ⟨fields, rfl⟩ : ∃ fields, value = .obj fields := by
    cases value with
    | obj fields => exact ⟨fields, rfl⟩
    | _ => exact absurd rfl h
  obtain ⟨next, hnext⟩ := exists_composeOverlaySettings h
    (parsedSettings (readJsonFile runtime (progress.files SETTINGS_FILE))) call.explicit
  obtain ⟨keys, hkeys⟩ := exists_settingsSourceKeys fields
  rw [composeSettings, hvalue]
  simp only [hnext, hkeys]
  exact ⟨_, rfl⟩

theorem prepareSettings_of_rejects (call : OverlayCall Bytes) (locked : Bool)
    (marker : Option OverlayMarker) (progress : Progress Bytes)
    (hcompose : shouldComposeSettings runtime native marker progress.files = true)
    (h : parsedSettings (readJsonFile runtime (native.readFile [SETTINGS_FILE])) = .notAnObject) :
    ∃ error, prepareSettings runtime call native locked marker progress =
      (.error error, progress) := by
  rw [prepareSettings, if_pos hcompose]
  exact composeSettings_of_notAnObject progress h

theorem exists_prepareSettings (call : OverlayCall Bytes) (locked : Bool)
    (marker : Option OverlayMarker) (progress : Progress Bytes)
    (h : ¬(shouldComposeSettings runtime native marker progress.files = true ∧
      parsedSettings (readJsonFile runtime (native.readFile [SETTINGS_FILE])) = .notAnObject)) :
    ∃ progress', prepareSettings runtime call native locked marker progress =
      (.ok (), progress') := by
  rw [prepareSettings]
  split
  · rename_i hcompose
    have hsome := (Bool.and_eq_true_iff.1 hcompose).1
    exact exists_composeSettings progress hsome fun heq => h ⟨hcompose, heq⟩
  · split
    · split <;> exact ⟨_, rfl⟩
    · exact ⟨_, rfl⟩

/-! ## Lock -/

/-- The lock file is the only one that changes. -/
theorem acquireReconcileLock_of_ne {path : String} (h : path ≠ CLAUDE_OVERLAY_RECONCILE_LOCK_NAME)
    (left attempt : ℕ) (files : ViewFiles Bytes) :
    (acquireReconcileLock runtime call left attempt files).2 path = files path := by
  induction left generalizing attempt files with
  | zero => rfl
  | succ left ih =>
      rw [acquireReconcileLock]
      split
      · exact ViewFiles.write_of_ne files h _
      · rw [ih, ViewFiles.write_of_ne files h]

theorem holdsLock_of_acquireReconcileLock {left attempt : ℕ} {files : ViewFiles Bytes}
    (h : (acquireReconcileLock runtime call left attempt files).1 = true) :
    holdsLock runtime call (acquireReconcileLock runtime call left attempt files).2 = true := by
  induction left generalizing attempt files with
  | zero => cases h
  | succ left ih =>
      rw [acquireReconcileLock] at h ⊢
      split at h
      · show Option.any _ (some _) = true
        rw [Option.any_some, runtime.decode_encode, decide_eq_true rfl]
      · exact ih h

theorem not_holdsLock_release (files : ViewFiles Bytes) :
    holdsLock runtime call (release runtime call files) = false := by
  rw [release]
  split
  · rw [holdsLock, ViewFiles.unlink, if_pos rfl]
    rfl
  · rename_i h
    exact Bool.eq_false_iff.2 h

theorem holdsLock_congr {files files' : ViewFiles Bytes}
    (h : files CLAUDE_OVERLAY_RECONCILE_LOCK_NAME = files' CLAUDE_OVERLAY_RECONCILE_LOCK_NAME) :
    holdsLock runtime call files = holdsLock runtime call files' := by
  rw [holdsLock, holdsLock, h]

theorem holdsLock_writeMarker (marker : Option OverlayMarker) (migratedFromShared : Bool)
    (progress : Progress Bytes) (files : ViewFiles Bytes) :
    holdsLock runtime call
        (writeMarker runtime call marker migratedFromShared progress files) =
      holdsLock runtime call files := by
  rw [writeMarker]
  split
  · exact holdsLock_congr (ViewFiles.write_of_ne files (by decide) _)
  · rfl

/-! ## Preparations -/

section

variable (runtime call native)

/-- The call returns a resolution, and a lock that it has acquired is released. -/
structure PreparesView (shared : SharedOverlay Bytes) (files : ViewFiles Bytes) : Prop where
  returns : ∃ resolution,
    (prepareClaudeOverlay runtime call native shared files).1 = .ok resolution
  released : call.sourceIsView = false → (acquired runtime call shared files).1 = true →
    holdsLock runtime call (prepareClaudeOverlay runtime call native shared files).2 = false

/-- The native settings are JSON but no object, and they are to be composed. -/
def RejectsSettings (shared : SharedOverlay Bytes) (files : ViewFiles Bytes) : Prop :=
  let view := (migrateSharedOverlay call shared files).2
  call.sourceIsView = false ∧
    (∃ value, readJsonFile runtime (native.readFile [SETTINGS_FILE]) = some value ∧
      value.obj? = none) ∧
    shouldComposeSettings runtime native
      (readMarker (readJsonFile runtime (view CLAUDE_OVERLAY_MARKER_NAME))) view = true

end

theorem parsedSettings_eq_notAnObject_iff (value : Option Json) :
    parsedSettings value = .notAnObject ↔ ∃ json, value = some json ∧ json.obj? = none := by
  constructor
  · intro h
    cases value with
    | none => cases h
    | some json =>
        refine ⟨json, rfl, ?_⟩
        cases json with
        | obj fields => cases h
        | _ => rfl
  · rintro ⟨json, rfl, hjson⟩
    exact parsedSettings_eq_notAnObject hjson

theorem shouldComposeSettings_acquired (shared : SharedOverlay Bytes) (files : ViewFiles Bytes) :
    shouldComposeSettings runtime native
        (readMarker (readJsonFile runtime
          ((acquired runtime call shared files).2 CLAUDE_OVERLAY_MARKER_NAME)))
        (acquired runtime call shared files).2 =
      shouldComposeSettings runtime native
        (readMarker (readJsonFile runtime
          ((migrateSharedOverlay call shared files).2 CLAUDE_OVERLAY_MARKER_NAME)))
        (migrateSharedOverlay call shared files).2 := by
  rw [acquired, acquireReconcileLock_of_ne (by decide), shouldComposeSettings,
    shouldComposeSettings, acquireReconcileLock_of_ne (by decide)]

/-- A call that rejects the settings throws, with the view as it was behind the lock. -/
theorem prepareClaudeOverlay_of_rejectsSettings {shared : SharedOverlay Bytes}
    {files : ViewFiles Bytes} (h : RejectsSettings runtime call native shared files) :
    ∃ error, prepareClaudeOverlay runtime call native shared files =
      (.error error, (acquired runtime call shared files).2) := by
  obtain ⟨hview, hvalue, hcompose⟩ := h
  rw [← shouldComposeSettings_acquired] at hcompose
  obtain ⟨error, herror⟩ := prepareSettings_of_rejects call
    (acquired runtime call shared files).1 _
    (Progress.initial runtime (acquired runtime call shared files).2) hcompose
    ((parsedSettings_eq_notAnObject_iff _).2 hvalue)
  refine ⟨error, ?_⟩
  rw [prepareClaudeOverlay, hview, if_neg Bool.false_ne_true, prepareView]
  simp only [herror]
  rfl

/-- The lock that was acquired is left behind. -/
theorem holdsLock_of_rejectsSettings {shared : SharedOverlay Bytes} {files : ViewFiles Bytes}
    (h : RejectsSettings runtime call native shared files)
    (hacquired : (acquired runtime call shared files).1 = true) :
    holdsLock runtime call (prepareClaudeOverlay runtime call native shared files).2 = true := by
  obtain ⟨error, herror⟩ := prepareClaudeOverlay_of_rejectsSettings h
  rw [herror]
  exact holdsLock_of_acquireReconcileLock hacquired

/-- Behind settings that are not rejected nothing throws, and the lock is released. -/
theorem preparesView_of_not_rejectsSettings {shared : SharedOverlay Bytes}
    {files : ViewFiles Bytes} (h : ¬RejectsSettings runtime call native shared files) :
    PreparesView runtime call native shared files := by
  by_cases hview : call.sourceIsView = true
  · refine ⟨?_, fun hnot => ?_⟩
    · rw [prepareClaudeOverlay, if_pos hview]
      exact ⟨_, rfl⟩
    · rw [hview] at hnot
      cases hnot
  rw [Bool.not_eq_true] at hview
  have hsettings : ¬(shouldComposeSettings runtime native
      (readMarker (readJsonFile runtime
        ((acquired runtime call shared files).2 CLAUDE_OVERLAY_MARKER_NAME)))
      (acquired runtime call shared files).2 = true ∧
        parsedSettings (readJsonFile runtime (native.readFile [SETTINGS_FILE])) = .notAnObject) := by
    rw [shouldComposeSettings_acquired, parsedSettings_eq_notAnObject_iff]
    exact fun hrejects => h ⟨hview, hrejects.2, hrejects.1⟩
  obtain ⟨progress, hprogress⟩ := exists_prepareSettings call
    (acquired runtime call shared files).1 _
    (Progress.initial runtime (acquired runtime call shared files).2) hsettings
  have heq : prepareClaudeOverlay runtime call native shared files =
      prepareView runtime call native (acquired runtime call shared files).1
        (migrateSharedOverlay call shared files).1 (acquired runtime call shared files).2 := by
    rw [prepareClaudeOverlay, hview, if_neg Bool.false_ne_true]
  rw [prepareView] at heq
  simp only [hprogress] at heq
  refine ⟨⟨_, congrArg Prod.fst heq⟩, fun _ hacquired => ?_⟩
  rw [heq]
  show holdsLock runtime call (writeMarker _ _ _ _ _ _) = false
  rw [holdsLock_writeMarker, hacquired, if_pos rfl, not_holdsLock_release]

/-- Preparation fails on user content just where it composes settings that are no object. -/
theorem preparesView_iff (runtime : OverlayRuntime Bytes) (call : OverlayCall Bytes)
    (native : NativeDirectory Bytes) (shared : SharedOverlay Bytes) (files : ViewFiles Bytes) :
    PreparesView runtime call native shared files ↔
      ¬RejectsSettings runtime call native shared files := by
  constructor
  · intro h hrejects
    obtain ⟨error, herror⟩ := prepareClaudeOverlay_of_rejectsSettings hrejects
    obtain ⟨resolution, hresolution⟩ := h.returns
    rw [herror] at hresolution
    cases hresolution
  · exact preparesView_of_not_rejectsSettings

/-- Files of text. -/
def textRuntime : OverlayRuntime String where
  decode := id
  encode := id
  decode_encode _ := rfl
  sha256 := id

/-- A native directory whose settings are an empty array. -/
def arraySettings : NativeDirectory String where
  entries := .entry SETTINGS_FILE (.file ⟨"[]", 1⟩) .empty
  resolve _ := none
  outside _ := none

def firstCall : OverlayCall String where
  viewId := "default"
  directory := "/rly/claude/views/default"
  source := "/home/ada/.claude"
  explicit := ⟨none⟩
  sourceIsView := false
  sourceIsLegacy := false
  lockId := "launch"
  siblingLock _ := none
  mtimeMs := 2
  reconcileAt := "2026-01-01T00:00:00.000Z"

/-- The first launch with settings that are an array throws, and its lock stays in the view. -/
theorem not_preparesView_arraySettings :
    ¬PreparesView textRuntime firstCall arraySettings .settled (fun _ => none) ∧
      holdsLock textRuntime firstCall
        (prepareClaudeOverlay textRuntime firstCall arraySettings .settled fun _ => none).2 =
          true := by
  have hrejects : RejectsSettings textRuntime firstCall arraySettings .settled fun _ => none := by
    refine ⟨rfl, ⟨.arr [], ?_, rfl⟩, ?_⟩
    · decide
    · decide
  refine ⟨fun h => ?_, holdsLock_of_rejectsSettings hrejects (by decide)⟩
  obtain ⟨error, herror⟩ := prepareClaudeOverlay_of_rejectsSettings hrejects
  obtain ⟨resolution, hresolution⟩ := h.returns
  rw [herror] at hresolution
  cases hresolution

end RlyGateway.ViewPreparation
