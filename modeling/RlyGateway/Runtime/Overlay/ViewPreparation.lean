import RlyGateway.Runtime.Overlay.ViewFiles

/-!
# Preparing a Claude view

`prepareClaudeOverlay` of `src/runtime/claude-overlay.ts`: the reconcile lock is acquired, the
settings are composed, the other surfaces are imported and reconciled, and the lock is released by
a plain statement behind them. Only composing the settings throws, and then the lock is left behind.
-/

namespace RlyGateway.ViewPreparation

variable {Bytes : Type}

def SETTINGS_FILE : String := "settings.json"

def PLUGIN_CONFIG_RELATIVE : String := "plugins/config.json"

def CLAUDE_OVERLAY_MARKER_NAME : String := ".rly-overlay.json"

def CLAUDE_OVERLAY_MANIFEST_NAME : String := ".rly-manifest.json"

def CLAUDE_OVERLAY_RECONCILE_LOCK_NAME : String := ".rly-reconcile.lock"

def RECONCILE_LOCK_ATTEMPTS : ℕ := 40

def DEFAULT_CLAUDE_VIEW_ID : String := "default"

/-- A call and what it finds: the paths it compares, the lock file that other launches hold at each
attempt, and the time. -/
structure OverlayCall (Bytes : Type) where
  viewId : String
  directory : String
  source : String
  explicit : ExplicitClaudeSettings
  /-- Whether the native directory is the view. -/
  sourceIsView : Bool
  /-- Whether the native directory is the legacy shared overlay. -/
  sourceIsLegacy : Bool
  lockId : String
  siblingLock : ℕ → Option (StampedFile Bytes)
  mtimeMs : ℕ
  reconcileAt : String

/-- Where the legacy shared overlay stands. -/
inductive SharedOverlay (Bytes : Type) where
  /-- A migration has stopped behind its first rename. -/
  | staged (files : ViewFiles Bytes)
  | legacy (files : ViewFiles Bytes)
  /-- There is none, or `claude` holds the views. -/
  | settled

structure ClaudeOverlayResolution where
  viewId : String
  directory : String
  source : String
  composed : Bool
  refreshed : List String
  reconciledDeletions : List String
  reclassified : List String
  migratedFromShared : Bool

/-- The variables of a preparation. -/
structure Progress (Bytes : Type) where
  files : ViewFiles Bytes
  manifest : Option OwnershipManifest
  manifestChanged : Bool
  composed : Bool
  refreshed : List String
  reconciledDeletions : List String
  reclassified : List String

/-! ## Migration and lock -/

/-- Whether the legacy shared overlay is moved, and the files of the view then. -/
def migrateSharedOverlay (call : OverlayCall Bytes) (shared : SharedOverlay Bytes)
    (files : ViewFiles Bytes) : Bool × ViewFiles Bytes :=
  let moved (legacy : ViewFiles Bytes) :=
    (true, if call.viewId = DEFAULT_CLAUDE_VIEW_ID then legacy else files)
  match shared with
  | .staged legacy => moved legacy
  | .legacy legacy => if call.sourceIsLegacy then (false, files) else moved legacy
  | .settled => (false, files)

section

variable (runtime : OverlayRuntime Bytes) (call : OverlayCall Bytes)

/-- Tries so often to create the lock file. -/
def acquireReconcileLock : ℕ → ℕ → ViewFiles Bytes → Bool × ViewFiles Bytes
  | 0, _, files => (false, files)
  | left + 1, attempt, files =>
      match call.siblingLock attempt with
      | none =>
          (true, files.write CLAUDE_OVERLAY_RECONCILE_LOCK_NAME
            ⟨runtime.encode (call.lockId ++ "\n"), call.mtimeMs⟩)
      | some held =>
          acquireReconcileLock left (attempt + 1)
            (files.write CLAUDE_OVERLAY_RECONCILE_LOCK_NAME held)

/-- Whether the lock file is the one that the call has created. -/
def holdsLock (files : ViewFiles Bytes) : Bool :=
  (files CLAUDE_OVERLAY_RECONCILE_LOCK_NAME).any fun file =>
    runtime.decode file.bytes = call.lockId ++ "\n"

/-- Removes the lock file, unless it is another's. -/
def release (files : ViewFiles Bytes) : ViewFiles Bytes :=
  if holdsLock runtime call files then files.unlink CLAUDE_OVERLAY_RECONCILE_LOCK_NAME else files

/-! ## Manifest -/

variable (native : NativeDirectory Bytes) (locked : Bool)

def entriesOf (manifest : Option OwnershipManifest) : OrderedMap String ManifestEntry :=
  manifest.elim .empty (·.entries)

/-- The manifest with other entries. -/
def withEntries (manifest : Option OwnershipManifest) (entries : OrderedMap String ManifestEntry) :
    OwnershipManifest where
  allowlistVersion := CLAUDE_OVERLAY_ALLOWLIST_VERSION
  source := call.source
  lastReconciledAt := if locked then some call.reconcileAt else manifest.bind (·.lastReconciledAt)
  entries := entries

def setEntry (progress : Progress Bytes) (path : String) (entry : ManifestEntry) :
    Progress Bytes :=
  { progress with
    manifestChanged := true
    manifest := some (withEntries call locked progress.manifest
      ((entriesOf progress.manifest).set path entry)) }

/-- The entry of a file that is imported from native. -/
def importedEntry (progress : Progress Bytes) (path : String)
    (source view : Option (StampedFile Bytes)) : ManifestEntry where
  category := .nativeImported
  source := some path
  sourceHash := fileHash runtime source
  viewHash := fileHash runtime view
  importedAt := ((entriesOf progress.manifest).get? path).bind (·.importedAt)
  lastRefreshedAt := some call.reconcileAt
  settingsSourceKeys := none

/-! ## Settings -/

/-- The native settings are composed where the view has none, is of an older version or is older. -/
def shouldComposeSettings (marker : Option OverlayMarker) (files : ViewFiles Bytes) : Bool :=
  (readJsonFile runtime (native.readFile [SETTINGS_FILE])).isSome &&
    ((files SETTINGS_FILE).isNone ||
      (marker.elim true fun marker =>
        marker.allowlistVersion.getD 0 < CLAUDE_OVERLAY_ALLOWLIST_VERSION) ||
      needsRefresh (native.readFile [SETTINGS_FILE]) (files SETTINGS_FILE))

/-- The keys of native settings that the composed view can have. -/
def settingsSourceKeys (nativeSettings : Option Json) : Except String (List String) := do
  let nativeEnv ← property nativeSettings "env"
  let keys ← objectKeys nativeSettings
  return keys.filter (· ∉ UNSUPPORTED_SETTINGS_KEYS) ++
    ((((nativeEnv.bind Json.obj?).elim (OrderedMap.empty : SettingsRecord) .ofList).keys).filter
      (· ∉ GATEWAY_CONTRACT_ENV_KEYS)).map ("env." ++ ·)

/-- Writes the settings of the view. -/
def writeSettings (progress : Progress Bytes) (settings : SettingsRecord) : Progress Bytes :=
  { progress with
    files := progress.files.write SETTINGS_FILE
      (jsonFile runtime (.obj settings.entries) call.mtimeMs)
    refreshed := progress.refreshed ++ [SETTINGS_FILE]
    composed := true }

/-- One-way merge of the native settings. A manifest that was read is not carried over besides its
entries. -/
def composeSettings (progress : Progress Bytes) : Except String Unit × Progress Bytes :=
  let nativeFile := native.readFile [SETTINGS_FILE]
  let nativeSettings := readJsonFile runtime nativeFile
  let previous := readJsonFile runtime (progress.files SETTINGS_FILE)
  match composeOverlaySettings (parsedSettings nativeSettings) (parsedSettings previous)
      call.explicit with
  | .error error => (.error error, progress)
  | .ok settings =>
      let written := writeSettings runtime call progress settings
      match settingsSourceKeys nativeSettings with
      | .error error => (.error error, written)
      | .ok keys =>
          let entry :=
            { importedEntry runtime call progress SETTINGS_FILE nativeFile
                (written.files SETTINGS_FILE) with settingsSourceKeys := some keys }
          (.ok (), setEntry call locked
            { written with manifest := written.manifest.map ({ · with lastReconciledAt := none }) }
            SETTINGS_FILE entry)

/-- The settings of the view without what was imported from native settings that are gone. -/
def stripSettings (progress : Progress Bytes) (entry : ManifestEntry) : Progress Bytes :=
  let previous := parsedSettings (readJsonFile runtime (progress.files SETTINGS_FILE))
  let written := writeSettings runtime call progress
    (withoutImported (entry.settingsSourceKeys.getD []) previous)
  setEntry call locked written SETTINGS_FILE
    { category := .rlyGenerated
      source := none
      sourceHash := none
      viewHash := fileHash runtime (written.files SETTINGS_FILE)
      importedAt := entry.importedAt
      lastRefreshedAt := some call.reconcileAt
      settingsSourceKeys := none }

def prepareSettings (marker : Option OverlayMarker) (progress : Progress Bytes) :
    Except String Unit × Progress Bytes :=
  if shouldComposeSettings runtime native marker progress.files then
    composeSettings runtime call native locked progress
  else
    match readJsonFile runtime (native.readFile [SETTINGS_FILE]),
        (entriesOf progress.manifest).get? SETTINGS_FILE with
    | none, some entry =>
        if entry.sourceHash.isSome && (progress.files SETTINGS_FILE).isSome then
          (.ok (), stripSettings runtime call locked progress entry)
        else (.ok (), progress)
    | _, _ => (.ok (), progress)

/-! ## Other surfaces -/

/-- One-way refresh copy of a file. -/
def refreshFileCopy (progress : Progress Bytes) (path : String) (file : StampedFile Bytes) :
    Progress Bytes :=
  if needsRefresh (some file) (progress.files path) then
    let copy : StampedFile Bytes := ⟨file.bytes, call.mtimeMs⟩
    setEntry call locked
      { progress with
        files := progress.files.write path copy
        refreshed := progress.refreshed ++ [path] }
      path (importedEntry runtime call progress path (some file) (some copy))
  else progress

/-- The files of `agents` or `commands`. -/
def importMarkdown (directoryName : String) (progress : Progress Bytes) : Progress Bytes :=
  ((listFiles false "" (native.readdir directoryName)).filter (·.1.endsWith ".md")).foldl
    (fun progress file =>
      refreshFileCopy runtime call locked progress (directoryName ++ "/" ++ file.1) file.2) progress

def importSkills (progress : Progress Bytes) : Progress Bytes :=
  (listFiles true "" (native.readdir "skills")).foldl
    (fun progress file =>
      refreshFileCopy runtime call locked progress ("skills/" ++ file.1) file.2) progress

/-- An import whose native source is gone is deleted where the view still has what was imported, and
is the view's own otherwise. -/
def reconcileMissingImport (progress : Progress Bytes) (relativePath : String)
    (entry : ManifestEntry) : Progress Bytes :=
  let path := viewPath relativePath
  match fileHash runtime (progress.files path) with
  | none => progress
  | some currentHash =>
      if entry.category ≠ .nativeImported || native.isRegularFile relativePath then progress
      else if entry.sourceHash = some currentHash then
        { progress with
          files := progress.files.unlink path
          reconciledDeletions := progress.reconciledDeletions ++ [relativePath]
          manifestChanged := true
          manifest := some (withEntries call locked progress.manifest
            ((entriesOf progress.manifest).erase relativePath)) }
      else
        setEntry call locked
          { progress with reclassified := progress.reclassified ++ [relativePath] } relativePath
          { category := .viewOwned
            source := none
            sourceHash := none
            viewHash := some currentHash
            importedAt := none
            lastRefreshedAt := some call.reconcileAt
            settingsSourceKeys := none }

/-- Whether an entry is of the surfaces that are reconciled file by file. -/
def isImportedPath (relativePath : String) : Bool :=
  relativePath ≠ SETTINGS_FILE && relativePath ≠ PLUGIN_CONFIG_RELATIVE &&
    (relativePath.startsWith "agents/" || relativePath.startsWith "commands/" ||
      relativePath.startsWith "skills/")

def reconcileImports (progress : Progress Bytes) : Progress Bytes :=
  (entriesOf progress.manifest).entries.foldl
    (fun progress entry =>
      if isImportedPath entry.1 then
        reconcileMissingImport runtime call native locked progress entry.1 entry.2
      else progress) progress

/-- Keys carried from the native plugin config. -/
def PLUGIN_CONFIG_ALLOWED_KEYS : List String := ["enabledPlugins", "marketplaces"]

/-- Carries only the plugin enablement declaration. -/
def composeOverlayPluginConfig (pluginConfig : Json) : Option Json :=
  pluginConfig.obj?.bind fun fields =>
    let carried := (OrderedMap.ofList fields).filterKeys (· ∈ PLUGIN_CONFIG_ALLOWED_KEYS)
    if carried.size = 0 then none else some (.obj carried.entries)

/-- The plugin config is composed while its source is there, and reconciled when it is gone. -/
def preparePluginConfig (progress : Progress Bytes) : Progress Bytes :=
  let names := ["plugins", "config.json"]
  match native.regularFile names, readJsonFile runtime (native.readFile names),
      (entriesOf progress.manifest).get? PLUGIN_CONFIG_RELATIVE with
  | some source, some pluginConfig, _ =>
      if needsRefresh (some source) (progress.files PLUGIN_CONFIG_RELATIVE) then
        match composeOverlayPluginConfig pluginConfig with
        | none => progress
        | some carried =>
            let file := jsonFile runtime carried call.mtimeMs
            setEntry call locked
              { progress with
                files := progress.files.write PLUGIN_CONFIG_RELATIVE file
                refreshed := progress.refreshed ++ [PLUGIN_CONFIG_RELATIVE]
                composed := true }
              PLUGIN_CONFIG_RELATIVE
              (importedEntry runtime call progress PLUGIN_CONFIG_RELATIVE (some source) (some file))
      else progress
  | none, _, some entry =>
      if entry.sourceHash.isSome then
        reconcileMissingImport runtime call native locked progress PLUGIN_CONFIG_RELATIVE entry
      else progress
  | _, _, _ => progress

/-! ## The call -/

/-- Persists the manifest when anything changed or it is new. -/
def persistManifest (hadManifest : Bool) (progress : Progress Bytes) : Progress Bytes :=
  if progress.manifestChanged || !hadManifest then
    let manifest := progress.manifest.getD
      ⟨CLAUDE_OVERLAY_ALLOWLIST_VERSION, call.source, none, .empty⟩
    { progress with
      manifest := some manifest
      files := progress.files.write CLAUDE_OVERLAY_MANIFEST_NAME
        (jsonFile runtime manifest.toJson call.mtimeMs) }
  else progress

/-- The surfaces behind the settings. -/
def prepareSurfaces (hadManifest : Bool) (progress : Progress Bytes) : Progress Bytes :=
  let imported := importSkills runtime call native locked
    (importMarkdown runtime call native locked "commands"
      (importMarkdown runtime call native locked "agents" progress))
  persistManifest runtime call hadManifest
    (preparePluginConfig runtime call native locked
      (reconcileImports runtime call native locked imported))

def writeMarker (marker : Option OverlayMarker) (migratedFromShared : Bool)
    (progress : Progress Bytes) (files : ViewFiles Bytes) : ViewFiles Bytes :=
  if progress.composed || progress.refreshed ≠ [] || progress.reconciledDeletions ≠ [] ||
      marker.isNone then
    let written : OverlayMarker :=
      { allowlistVersion := some CLAUDE_OVERLAY_ALLOWLIST_VERSION
        source := some call.source
        lastComposedAt := some call.reconcileAt
        migratedFromShared := if migratedFromShared then some true else none }
    files.write CLAUDE_OVERLAY_MARKER_NAME (jsonFile runtime written.toJson call.mtimeMs)
  else files

/-- What a preparation starts from. -/
def Progress.initial (files : ViewFiles Bytes) : Progress Bytes where
  files := files
  manifest := readManifest (readJsonFile runtime (files CLAUDE_OVERLAY_MANIFEST_NAME))
  manifestChanged := false
  composed := false
  refreshed := []
  reconciledDeletions := []
  reclassified := []

def resolution (migratedFromShared : Bool) (progress : Progress Bytes) :
    ClaudeOverlayResolution where
  viewId := call.viewId
  directory := call.directory
  source := call.source
  composed := progress.composed
  refreshed := progress.refreshed
  reconciledDeletions := progress.reconciledDeletions
  reclassified := progress.reclassified
  migratedFromShared := migratedFromShared

/-- What the call does behind the lock: what it returns or throws, and the files of the view. -/
def prepareView (migratedFromShared : Bool) (files : ViewFiles Bytes) :
    Except String ClaudeOverlayResolution × ViewFiles Bytes :=
  let marker := readMarker (readJsonFile runtime (files CLAUDE_OVERLAY_MARKER_NAME))
  let initial := Progress.initial runtime files
  match prepareSettings runtime call native locked marker initial with
  | (.error error, progress) => (.error error, progress.files)
  | (.ok (), progress) =>
      let progress := prepareSurfaces runtime call native locked initial.manifest.isSome progress
      let released := if locked then release runtime call progress.files else progress.files
      (.ok (resolution call migratedFromShared progress),
        writeMarker runtime call marker migratedFromShared progress released)

/-- The lock of a call, and the files of the view behind it. -/
def acquired (shared : SharedOverlay Bytes) (files : ViewFiles Bytes) : Bool × ViewFiles Bytes :=
  acquireReconcileLock runtime call RECONCILE_LOCK_ATTEMPTS 0
    (migrateSharedOverlay call shared files).2

/-- Prepares the view for a launch. -/
def prepareClaudeOverlay (shared : SharedOverlay Bytes) (files : ViewFiles Bytes) :
    Except String ClaudeOverlayResolution × ViewFiles Bytes :=
  let migrated := migrateSharedOverlay call shared files
  if call.sourceIsView then
    (.ok (resolution call migrated.1 ⟨migrated.2, none, false, false, [], [], []⟩), migrated.2)
  else
    prepareView runtime call native (acquired runtime call shared files).1 migrated.1
      (acquired runtime call shared files).2

end

end RlyGateway.ViewPreparation
