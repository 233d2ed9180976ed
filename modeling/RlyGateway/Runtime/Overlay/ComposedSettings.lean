import RlyGateway.Library.Json
import RlyGateway.Library.MapMerge
import RlyGateway.Routing.ModelProjection

/-!
# The settings of a Claude view

`src/runtime/claude-overlay.ts`: how the settings of a view are composed from the native settings,
the settings that the view already has and the launch policy, and the part of `prepareClaudeOverlay`
that keeps `settings.json`, its entry of the ownership manifest and the marker.
-/

namespace RlyGateway

/-! ## Settings -/

/-- The fields of a settings file. -/
abbrev SettingsRecord := OrderedMap String Json

/-- A `settings.json`: what is at its path. -/
inductive SettingsFile where
  | missing
  | malformed
  /-- JSON, but no object. -/
  | notAnObject
  | object (fields : SettingsRecord)
deriving DecidableEq

/-- What is read from a settings file. -/
inductive ParsedSettings where
  | undefined
  | notAnObject
  | record (fields : SettingsRecord)
deriving DecidableEq

/-- A file that is missing or malformed counts as absent. -/
def readJsonFile : SettingsFile → ParsedSettings
  | .missing => .undefined
  | .malformed => .undefined
  | .notAnObject => .notAnObject
  | .object fields => .record fields

/-- Env keys of the child-only gateway contract. -/
def GATEWAY_CONTRACT_ENV_KEYS : List String :=
  ["ANTHROPIC_BASE_URL", "ANTHROPIC_AUTH_TOKEN", "ANTHROPIC_API_KEY", "OPENAI_BASE_URL",
    "OPENAI_API_KEY", "CODEX_HOME", "CODEX_API_KEY", "CLAUDE_CODE_ENABLE_GATEWAY_MODEL_DISCOVERY"]

/-- Credential-bearing settings that are never composed. -/
def UNSUPPORTED_SETTINGS_KEYS : List String := ["oauthAccounts"]

/-- The composition version that the marker of a view records. -/
def CLAUDE_OVERLAY_ALLOWLIST_VERSION : ℕ := 3

/-- The settings of a launch policy. -/
structure ExplicitClaudeSettings where
  model : Option String
deriving DecidableEq

/-- Keys that the `in` operator finds in every object. -/
def inheritedKeys : List String :=
  ["__proto__", "__defineGetter__", "__defineSetter__", "__lookupGetter__", "__lookupSetter__",
    "constructor", "hasOwnProperty", "isPrototypeOf", "propertyIsEnumerable", "toLocaleString",
    "toString", "valueOf"]

/-- The `env` of settings, where it is an object. -/
def envRecord (settings : SettingsRecord) : Option SettingsRecord :=
  match settings.get? "env" with
  | some (.obj fields) => some (.ofList fields)
  | _ => none

/-- The fields that spreading a value gives: an array has its indices for keys. -/
def spread : Option Json → SettingsRecord
  | some (.obj fields) => .ofList fields
  | some (.arr items) => .ofList (items.zipIdx.map fun item => (toString item.2, item.1))
  | _ => .empty

/-- Drops native `env` overrides that would fight the gateway contract. -/
def stripGatewayEnv (settings : SettingsRecord) : SettingsRecord :=
  match envRecord settings with
  | none => settings
  | some env =>
      settings.set "env" (.obj (env.filterKeys (· ∉ GATEWAY_CONTRACT_ENV_KEYS)).entries)

/-- The model of a view, where it is a projection id. -/
def rlyOwnedModel (settings : ParsedSettings) : Option String :=
  match settings with
  | .record fields =>
      match fields.get? "model" with
      | some (.str model) => if isProjectionId model then some model else none
      | _ => none
  | _ => none

/-- Settings that are no object count as absent. -/
def normalizeSettings : ParsedSettings → Option SettingsRecord
  | .record fields => some fields
  | _ => none

/-- The fields that a settings file has. -/
def SettingsFile.fields (file : SettingsFile) : SettingsRecord :=
  (normalizeSettings (readJsonFile file)).getD .empty

/-- The env keys and their values that a settings file has. -/
def SettingsFile.env (file : SettingsFile) : SettingsRecord :=
  (envRecord file.fields).getD .empty

/-! ## Composition -/

/-- The native fields that a view may have; assigning `__proto__` makes no field. -/
def composedSurface (native : SettingsRecord) : SettingsRecord :=
  ((stripGatewayEnv native).filterKeys (· ∉ UNSUPPORTED_SETTINGS_KEYS)).filterKeys
    (· ≠ "__proto__")

/-- Keys of the previous view that are not taken over as they are. -/
def isPersistedKey (key : String) : Bool :=
  key ≠ "env" && key ≠ "model" && key ∉ UNSUPPORTED_SETTINGS_KEYS && key ∉ inheritedKeys

/-- Client persistence: what the view has and the result has not. -/
def persistKeys (result previous : SettingsRecord) : SettingsRecord :=
  result.addMissing (fun key => !isPersistedKey key) previous

/-- The `env` of the result with what the previous view adds to it. -/
def mergedEnv (result previousEnv : SettingsRecord) : SettingsRecord :=
  (spread (result.get? "env")).addMissing
    (fun key => key ∈ GATEWAY_CONTRACT_ENV_KEYS || key ∈ inheritedKeys) previousEnv

def persistEnv (result previous : SettingsRecord) : SettingsRecord :=
  match envRecord previous with
  | none => result
  | some previousEnv =>
      if (mergedEnv result previousEnv).size > 0 then
        result.set "env" (.obj (mergedEnv result previousEnv).entries)
      else result

/-- The explicit model is written first, and a projection model of the view over it. -/
def overrideModel (result : SettingsRecord) (previous : Option SettingsRecord)
    (explicit : ExplicitClaudeSettings) : SettingsRecord :=
  let result := match explicit.model with
    | some model => result.set "model" (.str model)
    | none => result
  match rlyOwnedModel (previous.elim .undefined .record) with
  | some model => result.set "model" (.str model)
  | none => result

/-- A string model of the view stays where there is no other. -/
def persistModel (result : SettingsRecord) (previous : Option SettingsRecord) : SettingsRecord :=
  match result.get? "model", previous.bind (·.get? "model") with
  | none, some (.str model) => result.set "model" (.str model)
  | _, _ => result

/-- Merges native settings with RLY-owned and view-local state. -/
def composeOverlaySettings (native previous : ParsedSettings) (explicit : ExplicitClaudeSettings) :
    Except String SettingsRecord := do
  let surface ← match native with
    | .notAnObject =>
        throw "RLY cannot compose Claude settings: native settings.json is not a JSON object"
    | .undefined => pure OrderedMap.empty
    | .record native => pure (OrderedMap.empty.assign (composedSurface native))
  let previous := normalizeSettings previous
  let result := match previous with
    | none => surface
    | some previous => persistEnv (persistKeys surface previous) previous
  return persistModel (overrideModel result previous explicit) previous

/-! ## Preparing a view -/

/-- The entry of `settings.json` in the ownership manifest. -/
structure SettingsEntry where
  /-- Whether the hash of the native source is recorded. -/
  sourceHashed : Bool
  settingsSourceKeys : Option (List String)
deriving DecidableEq

/-- The native settings and what a view keeps; files have the times of their last writes. -/
structure OverlayFiles where
  native : SettingsFile
  nativeTime : ℕ
  settings : SettingsFile
  settingsTime : ℕ
  /-- The marker of the view and the composition version in it. -/
  marker : Option (Option ℕ)
  settingsEntry : Option SettingsEntry
deriving DecidableEq

/-- A launch that prepares the view. -/
structure OverlayLaunch where
  explicit : ExplicitClaudeSettings
  time : ℕ
  /-- Whether another surface of the view is refreshed or reconciled. -/
  othersRefreshed : Bool
deriving DecidableEq

/-- The native settings are newer than those of the view, or the view has none. -/
def needsRefresh (files : OverlayFiles) : Bool :=
  files.settings = .missing || files.nativeTime > files.settingsTime

def shouldComposeSettings (files : OverlayFiles) : Bool :=
  readJsonFile files.native ≠ .undefined &&
    (files.settings = .missing ||
      (files.marker.elim true fun version =>
        version.getD 0 < CLAUDE_OVERLAY_ALLOWLIST_VERSION) ||
      needsRefresh files)

/-- The keys of native settings that the composed view can have. -/
def settingsSourceKeys (native : SettingsRecord) : List String :=
  native.keys.filter (· ∉ UNSUPPORTED_SETTINGS_KEYS) ++
    (((envRecord native).getD .empty).keys.filter (· ∉ GATEWAY_CONTRACT_ENV_KEYS)).map ("env." ++ ·)

/-- A field of the previous view when the native settings are gone: keys that were imported are
dropped, the model stays. -/
def keptField (snapshot : List String) (key : String) (value : Json) : Option Json :=
  if key = "model" then some value
  else if key = "env" then
    match value with
    | .obj fields =>
        let keptEnv : SettingsRecord :=
          (OrderedMap.ofList fields).filterKeys fun envKey => "env." ++ envKey ∉ snapshot
        if keptEnv.size > 0 then some (.obj keptEnv.entries) else none
    | value => if key ∈ snapshot then none else some value
  else if key ∈ snapshot || key = "__proto__" then none
  else some value

/-- The view without what was imported from native settings. -/
def withoutImported (snapshot : List String) (previous : ParsedSettings) : SettingsRecord :=
  let next := ((normalizeSettings previous).getD .empty).filterMapValues (keptField snapshot)
  match rlyOwnedModel previous with
  | some model => next.set "model" (.str model)
  | none => next

/-- What happens to the settings of the view in one preparation. -/
inductive SettingsUpdate where
  | composed (next : SettingsRecord) (entry : SettingsEntry)
  | stripped (next : SettingsRecord)
  | kept
deriving DecidableEq

def updateSettings (files : OverlayFiles) (launch : OverlayLaunch) :
    Except String SettingsUpdate := do
  if shouldComposeSettings files then
    let next ← composeOverlaySettings (readJsonFile files.native) (readJsonFile files.settings)
      launch.explicit
    return .composed next ⟨true, some (settingsSourceKeys files.native.fields)⟩
  else
    match readJsonFile files.native, files.settingsEntry with
    | .undefined, some ⟨true, keys⟩ =>
        if files.settings = .missing then return .kept
        else return .stripped (withoutImported (keys.getD []) (readJsonFile files.settings))
    | _, _ => return .kept

/-- The settings, their manifest entry and the marker after a preparation. -/
def prepareClaudeOverlay (files : OverlayFiles) (launch : OverlayLaunch) :
    Except String OverlayFiles := do
  let update ← updateSettings files launch
  let written := match update with
    | .composed next entry =>
        { files with
          settings := .object next, settingsTime := launch.time, settingsEntry := some entry }
    | .stripped next =>
        { files with
          settings := .object next, settingsTime := launch.time
          settingsEntry := some ⟨false, none⟩ }
    | .kept => files
  if update ≠ .kept || launch.othersRefreshed || files.marker.isNone then
    return { written with marker := some (some CLAUDE_OVERLAY_ALLOWLIST_VERSION) }
  else return written

/-! ## What a composed view holds -/

theorem envRecord_set_env (settings env : SettingsRecord) (key : String) :
    ((envRecord (settings.set "env" (.obj env.entries))).getD .empty).get? key = env.get? key := by
  rw [envRecord, OrderedMap.get?_set_self]
  exact OrderedMap.get?_ofList_entries env key

theorem envRecord_congr {settings settings' : SettingsRecord}
    (h : settings.get? "env" = settings'.get? "env") : envRecord settings = envRecord settings' := by
  rw [envRecord, envRecord, h]

theorem get?_stripGatewayEnv (settings : SettingsRecord) {key : String} (hkey : key ≠ "env") :
    (stripGatewayEnv settings).get? key = settings.get? key := by
  unfold stripGatewayEnv
  split
  · rfl
  · exact OrderedMap.get?_set_ne settings hkey.symm _

/-- No env key of the gateway contract is left, and the others are as they were. -/
theorem env_stripGatewayEnv (settings : SettingsRecord) (key : String) :
    ((envRecord (stripGatewayEnv settings)).getD .empty).get? key =
      if key ∈ GATEWAY_CONTRACT_ENV_KEYS then none
      else ((envRecord settings).getD .empty).get? key := by
  unfold stripGatewayEnv
  split
  case h_1 hnone => simp [hnone]
  case h_2 env hsome =>
      rw [envRecord_set_env, OrderedMap.get?_filterKeys, hsome, Option.getD_some]
      by_cases hkey : key ∈ GATEWAY_CONTRACT_ENV_KEYS <;> simp [hkey]

/-- The native fields of a composed view. -/
theorem get?_composedSurface (native : SettingsRecord) {key : String} (hkey : key ≠ "env") :
    (composedSurface native).get? key =
      if key ∈ UNSUPPORTED_SETTINGS_KEYS ∨ key = "__proto__" then none else native.get? key := by
  rw [composedSurface, OrderedMap.get?_filterKeys, OrderedMap.get?_filterKeys,
    get?_stripGatewayEnv native hkey]
  by_cases hproto : key = "__proto__"
  · simp [hproto]
  · by_cases hunsupported : key ∈ UNSUPPORTED_SETTINGS_KEYS <;> simp [hproto, hunsupported]

theorem get?_env_composedSurface (native : SettingsRecord) :
    (composedSurface native).get? "env" = (stripGatewayEnv native).get? "env" := by
  rw [composedSurface, OrderedMap.get?_filterKeys, OrderedMap.get?_filterKeys, if_pos (by decide),
    if_pos (by decide)]

/-- What spreading an `env` that is no array gives. -/
theorem get?_spread {settings : SettingsRecord} (h : (settings.get? "env").bind Json.arr? = none)
    (key : String) :
    (spread (settings.get? "env")).get? key = ((envRecord settings).getD .empty).get? key := by
  unfold envRecord
  generalize settings.get? "env" = env at h ⊢
  match env, h with
  | none, _ | some .null, _ | some (.bool _), _ | some (.num _), _ | some (.str _), _
  | some (.obj _), _ => rfl

theorem get?_persistEnv (result previous : SettingsRecord) {key : String} (hkey : key ≠ "env") :
    (persistEnv result previous).get? key = result.get? key := by
  unfold persistEnv
  split
  · rfl
  · split
    · exact OrderedMap.get?_set_ne result hkey.symm _
    · rfl

theorem get?_persistKeys (result previous : SettingsRecord) (key : String) :
    (persistKeys result previous).get? key =
      (result.get? key).or (if isPersistedKey key then previous.get? key else none) := by
  rw [persistKeys, OrderedMap.get?_addMissing]
  cases isPersistedKey key <;> rfl

/-- A map without entries finds nothing. -/
theorem get?_of_size_eq_zero {m : SettingsRecord} (h : ¬ m.size > 0) (key : String) :
    m.get? key = none := by
  cases hget : m.get? key with
  | none => rfl
  | some value => exact absurd (OrderedMap.size_pos_of_get? hget) h

/-- The env keys of a composed view are those of the result so far and those that the previous view
adds. -/
theorem env_persistEnv {result : SettingsRecord}
    (harray : (result.get? "env").bind Json.arr? = none) (previous : SettingsRecord)
    (key : String) :
    ((envRecord (persistEnv result previous)).getD .empty).get? key =
      (((envRecord result).getD .empty).get? key).or
        (if key ∈ GATEWAY_CONTRACT_ENV_KEYS ∨ key ∈ inheritedKeys then none
          else ((envRecord previous).getD .empty).get? key) := by
  have hmerged : ∀ previousEnv : SettingsRecord, (mergedEnv result previousEnv).get? key =
      (((envRecord result).getD .empty).get? key).or
        (if key ∈ GATEWAY_CONTRACT_ENV_KEYS ∨ key ∈ inheritedKeys then none
          else previousEnv.get? key) := by
    intro previousEnv
    rw [mergedEnv, OrderedMap.get?_addMissing, get?_spread harray]
    simp only [Bool.or_eq_true, decide_eq_true_eq]
  unfold persistEnv
  split
  case h_1 hnone => simp [hnone]
  case h_2 previousEnv hsome =>
      rw [hsome, Option.getD_some, ← hmerged]
      split
      · exact envRecord_set_env result _ key
      · rename_i hempty
        have hnone := get?_of_size_eq_zero hempty key
        rw [hnone]
        rw [hmerged] at hnone
        exact (Option.or_eq_none_iff.1 hnone).1

theorem get?_overrideModel (result : SettingsRecord) (previous : Option SettingsRecord)
    (explicit : ExplicitClaudeSettings) {key : String} (hkey : key ≠ "model") :
    (overrideModel result previous explicit).get? key = result.get? key := by
  have hset : ∀ (settings : SettingsRecord) (model : String),
      (settings.set "model" (.str model)).get? key = settings.get? key :=
    fun settings model => OrderedMap.get?_set_ne settings hkey.symm _
  unfold overrideModel
  split <;> split <;> simp only [hset]

theorem get?_persistModel (result : SettingsRecord) (previous : Option SettingsRecord)
    {key : String} (hkey : key ≠ "model") :
    (persistModel result previous).get? key = result.get? key := by
  unfold persistModel
  split
  · exact OrderedMap.get?_set_ne result hkey.symm _
  · rfl

theorem get?_model_overrideModel (result : SettingsRecord) (previous : ParsedSettings)
    (explicit : ExplicitClaudeSettings) :
    (overrideModel result (normalizeSettings previous) explicit).get? "model" =
      (((rlyOwnedModel previous).map Json.str).or (explicit.model.map Json.str)).or
        (result.get? "model") := by
  have hprevious : rlyOwnedModel ((normalizeSettings previous).elim .undefined .record) =
      rlyOwnedModel previous := by
    cases previous <;> rfl
  unfold overrideModel
  rw [hprevious]
  cases rlyOwnedModel previous with
  | some model => simp
  | none => cases explicit.model <;> simp

theorem get?_model_persistModel (result : SettingsRecord) (previous : Option SettingsRecord) :
    (persistModel result previous).get? "model" =
      (result.get? "model").or
        ((previous.bind (·.get? "model")).bind fun model => model.str?.map Json.str) := by
  unfold persistModel
  split
  case h_1 model hmodel hprevious => simp [hmodel, hprevious]
  case h_2 hnone =>
      cases hmodel : result.get? "model" with
      | some model => rfl
      | none =>
          cases hprevious : previous.bind (·.get? "model") with
          | none => rfl
          | some value => cases value <;> first | rfl | exact absurd hprevious (hnone _ hmodel)

/-- What a view composed from native settings holds, key by key. -/
structure IsComposed (native : SettingsRecord) (previous : ParsedSettings)
    (explicit : ExplicitClaudeSettings) (next : SettingsRecord) : Prop where
  keys (key : String) (henv : key ≠ "env") (hmodel : key ≠ "model") : next.get? key =
    (if key ∈ UNSUPPORTED_SETTINGS_KEYS ∨ key = "__proto__" then none else native.get? key).or
      (if isPersistedKey key then ((normalizeSettings previous).getD .empty).get? key else none)
  model : next.get? "model" =
    ((((rlyOwnedModel previous).map Json.str).or (explicit.model.map Json.str)).or
      (native.get? "model")).or
        (((normalizeSettings previous).bind (·.get? "model")).bind
          fun model => model.str?.map Json.str)
  env (harray : (native.get? "env").bind Json.arr? = none) (key : String) :
    ((envRecord next).getD .empty).get? key =
      (if key ∈ GATEWAY_CONTRACT_ENV_KEYS then none
        else ((envRecord native).getD .empty).get? key).or
          (if key ∈ GATEWAY_CONTRACT_ENV_KEYS ∨ key ∈ inheritedKeys then none
            else ((envRecord ((normalizeSettings previous).getD .empty)).getD .empty).get? key)

theorem bind_arr?_stripGatewayEnv {native : SettingsRecord}
    (h : (native.get? "env").bind Json.arr? = none) :
    ((stripGatewayEnv native).get? "env").bind Json.arr? = none := by
  unfold stripGatewayEnv
  split
  · exact h
  · rw [OrderedMap.get?_set_self]
    rfl

/-- The fields of the surface and of the previous view, before the model is settled. -/
def mergedSurface (native : SettingsRecord) (previous : Option SettingsRecord) : SettingsRecord :=
  match previous with
  | none => OrderedMap.empty.assign (composedSurface native)
  | some previous =>
      persistEnv (persistKeys (OrderedMap.empty.assign (composedSurface native)) previous) previous

theorem get?_surface (native : SettingsRecord) (key : String) :
    ((OrderedMap.empty : SettingsRecord).assign (composedSurface native)).get? key =
      (composedSurface native).get? key := by
  rw [OrderedMap.get?_assign, OrderedMap.get?_empty, Option.or_none]

theorem get?_mergedSurface (native : SettingsRecord) (previous : Option SettingsRecord)
    {key : String} (hkey : key ≠ "env") :
    (mergedSurface native previous).get? key =
      ((composedSurface native).get? key).or
        (if isPersistedKey key then (previous.getD .empty).get? key else none) := by
  cases previous with
  | none => simp [mergedSurface, get?_surface]
  | some previous =>
      rw [mergedSurface, get?_persistEnv _ _ hkey, get?_persistKeys, get?_surface]
      rfl

theorem env_mergedSurface {native : SettingsRecord}
    (harray : (native.get? "env").bind Json.arr? = none) (previous : Option SettingsRecord)
    (key : String) :
    ((envRecord (mergedSurface native previous)).getD .empty).get? key =
      (if key ∈ GATEWAY_CONTRACT_ENV_KEYS then none
        else ((envRecord native).getD .empty).get? key).or
          (if key ∈ GATEWAY_CONTRACT_ENV_KEYS ∨ key ∈ inheritedKeys then none
            else ((envRecord (previous.getD .empty)).getD .empty).get? key) := by
  rw [← env_stripGatewayEnv]
  have hsurface : ((OrderedMap.empty : SettingsRecord).assign (composedSurface native)).get? "env" =
      (stripGatewayEnv native).get? "env" := by
    rw [get?_surface, get?_env_composedSurface]
  cases previous with
  | none =>
      rw [mergedSurface, envRecord_congr hsurface]
      simp [envRecord]
  | some previous =>
      -- no other key of the previous view becomes an `env`
      have hpersisted : (persistKeys (OrderedMap.empty.assign (composedSurface native)) previous).get?
          "env" = (stripGatewayEnv native).get? "env" := by
        rw [get?_persistKeys, if_neg (by decide), Option.or_none, hsurface]
      rw [mergedSurface, env_persistEnv (hpersisted ▸ bind_arr?_stripGatewayEnv harray),
        envRecord_congr hpersisted]
      rfl

theorem composeOverlaySettings_record (native : SettingsRecord) (previous : ParsedSettings)
    (explicit : ExplicitClaudeSettings) :
    ∃ next, composeOverlaySettings (.record native) previous explicit = .ok next ∧
      IsComposed native previous explicit next := by
  let merged := mergedSurface native (normalizeSettings previous)
  refine ⟨persistModel (overrideModel merged (normalizeSettings previous) explicit)
    (normalizeSettings previous), ?_, ?_, ?_, ?_⟩
  · cases previous <;> rfl
  · intro key henv hmodel
    rw [get?_persistModel _ _ hmodel, get?_overrideModel _ _ _ hmodel,
      get?_mergedSurface native _ henv, get?_composedSurface native henv]
  · rw [get?_model_persistModel, get?_model_overrideModel, get?_mergedSurface native _ (by decide),
      get?_composedSurface native (by decide), if_neg (by decide), if_neg (by decide),
      Option.or_none]
  · intro harray key
    have hmodel : (persistModel (overrideModel merged (normalizeSettings previous) explicit)
        (normalizeSettings previous)).get? "env" = merged.get? "env" := by
      rw [get?_persistModel _ _ (by decide), get?_overrideModel _ _ _ (by decide)]
    rw [envRecord_congr hmodel]
    exact env_mergedSurface harray (normalizeSettings previous) key

/-! ## What is left without native settings -/

theorem get?_withoutImported (snapshot : List String) (previous : ParsedSettings) {key : String}
    (hkey : key ≠ "model") : (withoutImported snapshot previous).get? key =
      (((normalizeSettings previous).getD .empty).get? key).bind (keptField snapshot key) := by
  unfold withoutImported
  rw [← OrderedMap.get?_filterMapValues]
  split
  · exact OrderedMap.get?_set_ne _ hkey.symm _
  · rfl

/-- The model stays as it is. -/
theorem get?_model_withoutImported (snapshot : List String) (previous : ParsedSettings) :
    (withoutImported snapshot previous).get? "model" =
      ((normalizeSettings previous).getD .empty).get? "model" := by
  have hkept : ((((normalizeSettings previous).getD .empty).filterMapValues
      (keptField snapshot)).get? "model") =
        ((normalizeSettings previous).getD .empty).get? "model" := by
    have hkept : keptField snapshot "model" = some := funext fun _ => if_pos rfl
    rw [OrderedMap.get?_filterMapValues, hkept, Option.bind_fun_some]
  unfold withoutImported
  cases howned : rlyOwnedModel previous with
  | none => exact hkept
  | some model =>
      dsimp only
      rw [OrderedMap.get?_set_self]
      unfold rlyOwnedModel at howned
      split at howned
      · rename_i fields
        split at howned
        · rename_i persisted hpersisted
          split at howned
          · cases howned
            exact hpersisted.symm
          · cases howned
        · cases howned
      · cases howned

/-- An imported key is dropped. -/
theorem get?_withoutImported_of_mem {snapshot : List String} {key : String} (hmem : key ∈ snapshot)
    (henv : key ≠ "env") (hmodel : key ≠ "model") (previous : ParsedSettings) :
    (withoutImported snapshot previous).get? key = none := by
  rw [get?_withoutImported snapshot previous hmodel]
  cases ((normalizeSettings previous).getD .empty).get? key with
  | none => rfl
  | some value => simp [keptField, henv, hmodel, hmem]

/-- The env keys that are left. -/
theorem env_withoutImported (snapshot : List String) (previous : ParsedSettings) (key : String) :
    ((envRecord (withoutImported snapshot previous)).getD .empty).get? key = none ∨
      "env." ++ key ∉ snapshot ∧
        ((envRecord (withoutImported snapshot previous)).getD .empty).get? key =
          ((envRecord ((normalizeSettings previous).getD .empty)).getD .empty).get? key := by
  have hget : (withoutImported snapshot previous).get? "env" = _ :=
    get?_withoutImported snapshot previous (by decide)
  cases hprevious : ((normalizeSettings previous).getD .empty).get? "env" with
  | none =>
      left
      rw [hprevious] at hget
      simp [envRecord, hget]
  | some value =>
      rw [hprevious, Option.bind_some] at hget
      cases value with
      | obj fields =>
          simp only [keptField, if_neg (show ("env" : String) ≠ "model" by decide), if_true] at hget
          split at hget
          · rw [envRecord, hget]
            dsimp only
            rw [Option.getD_some, OrderedMap.get?_ofList_entries, OrderedMap.get?_filterKeys,
              envRecord, hprevious]
            by_cases hmem : "env." ++ key ∈ snapshot
            · exact Or.inl (if_neg (by simpa using hmem))
            · exact Or.inr ⟨hmem, if_pos (by simpa using hmem)⟩
          · left
            simp [envRecord, hget]
      | _ =>
          left
          by_cases hmem : "env" ∈ snapshot <;> simp [envRecord, hget, keptField, hmem]

end RlyGateway
