import RlyGateway.Library.Runs
import RlyGateway.Runtime.Overlay.ComposedSettings

/-!
# The settings of a view over time

The native settings and those of the view are edited between launches, and each launch prepares the
view. The settings contract says what a view holds behind a preparation. It speaks of what the
client has persisted and of what was imported: both are followed here beside the files.
-/

namespace RlyGateway

/-! ## Histories -/

/-- The files, and what is known of where the settings of the view come from. -/
structure OverlayHistory where
  files : OverlayFiles
  /-- Keys composed from native settings that the client has not changed since. -/
  imported : List String
  importedEnv : List String
  /-- Whether the model of the view is one that the client has persisted. -/
  clientModel : Bool
deriving DecidableEq

inductive OverlayInput where
  | editNative (content : SettingsFile) (time : ℕ)
  | editView (content : SettingsFile) (time : ℕ)
  | prepare (launch : OverlayLaunch)

/-- A view that no launch has prepared yet. -/
def OverlayHistory.fresh (native : SettingsFile) (time : ℕ) : OverlayHistory :=
  ⟨⟨native, time, .missing, 0, none, none⟩, [], [], false⟩

/-- Keys of native settings that a view gets; the model and `env` are spoken of on their own. -/
def importableKeys (native : SettingsFile) : List String :=
  native.fields.keys.filter fun key =>
    key ≠ "env" && key ≠ "model" && key ∉ UNSUPPORTED_SETTINGS_KEYS

def importableEnvKeys (native : SettingsFile) : List String :=
  native.env.keys.filter (· ∉ GATEWAY_CONTRACT_ENV_KEYS)

namespace OverlayHistory

/-- The client writes the settings of the view: what it changes is its own. -/
def editView (history : OverlayHistory) (content : SettingsFile) (time : ℕ) : OverlayHistory :=
  let before := history.files.settings
  { files := { history.files with settings := content, settingsTime := time }
    imported := history.imported.filter fun key => before.fields.get? key = content.fields.get? key
    importedEnv := history.importedEnv.filter fun key => before.env.get? key = content.env.get? key
    clientModel := history.clientModel || before.fields.get? "model" ≠ content.fields.get? "model" }

/-- A launch prepares the view. Where the settings cannot be composed, the launch fails. -/
def prepare (history : OverlayHistory) (launch : OverlayLaunch) : OverlayHistory :=
  match prepareClaudeOverlay history.files launch with
  | .error _ => history
  | .ok files =>
      let imports := match updateSettings history.files launch with
        | .ok (.composed _ _) => true
        | _ => false
      { files
        imported :=
          if imports then history.imported ++ importableKeys history.files.native
          else history.imported
        importedEnv :=
          if imports then history.importedEnv ++ importableEnvKeys history.files.native
          else history.importedEnv
        -- a model that a launch has written is not the client's
        clientModel := history.clientModel &&
          history.files.settings.fields.get? "model" = files.settings.fields.get? "model" }

def step (history : OverlayHistory) : OverlayInput → Option OverlayHistory
  | .editNative content time =>
      some { history with
        files := { history.files with native := content, nativeTime := time } }
  | .editView content time => some (history.editView content time)
  | .prepare launch => some (history.prepare launch)

/-! ## The contract -/

/-- The projection model of the view, else the explicit model, else the native one, else the one
that the client persisted. -/
def contractModel (history : OverlayHistory) (explicit : ExplicitClaudeSettings) : Option Json :=
  ((((rlyOwnedModel (readJsonFile history.files.settings)).map Json.str).or
    (explicit.model.map Json.str)).or (history.files.native.fields.get? "model")).or
      (if history.clientModel then history.files.settings.fields.get? "model" else none)

/-- No key of the gateway contract and no unsupported key. -/
def Clean (settings : SettingsFile) : Prop :=
  (∀ key ∈ GATEWAY_CONTRACT_ENV_KEYS, settings.env.get? key = none) ∧
    ∀ key ∈ UNSUPPORTED_SETTINGS_KEYS, settings.fields.get? key = none

/-- What the settings of the view are to be behind a preparation. -/
structure MeetsContract (history : OverlayHistory) (explicit : ExplicitClaudeSettings)
    (settings : SettingsFile) : Prop where
  clean : Clean settings
  model : settings.fields.get? "model" = history.contractModel explicit
  removed : ∀ key ∈ history.imported, history.files.native.fields.get? key = none →
    settings.fields.get? key = none
  removedEnv : ∀ key ∈ history.importedEnv, history.files.native.env.get? key = none →
    settings.env.get? key = none

/-- A preparation leaves settings that meet the contract. -/
def KeepsContract (history : OverlayHistory) : OverlayInput → Prop
  | .prepare launch =>
      history.MeetsContract launch.explicit (history.prepare launch).files.settings
  | _ => True

/-! ## Where it is kept -/

/-- The preparation composes the settings. -/
def Composes (files : OverlayFiles) : Bool :=
  shouldComposeSettings files && files.native ≠ .notAnObject

/-- What was imported and is still in the view is still in the native settings. -/
def LiveImports (history : OverlayHistory) : Prop :=
  (∀ key ∈ history.imported, history.files.settings.fields.get? key ≠ none →
    history.files.native.fields.get? key ≠ none) ∧
  ∀ key ∈ history.importedEnv, history.files.settings.env.get? key ≠ none →
    history.files.native.env.get? key ≠ none

/-- The native `env` is no array, and a model that no other tier overrides is a string of the
client's. -/
def PlainModel (history : OverlayHistory) (explicit : ExplicitClaudeSettings) : Prop :=
  (history.files.native.fields.get? "env").bind Json.arr? = none ∧
    (explicit.model = none → history.files.native.fields.get? "model" = none →
      ∀ model ∈ history.files.settings.fields.get? "model",
        model.str?.isSome ∧ (history.clientModel ∨
          (rlyOwnedModel (readJsonFile history.files.settings)).isSome))

/-- The settings of the view, where they are left as they are, are what the contract asks for. -/
def Settled (history : OverlayHistory) (explicit : ExplicitClaudeSettings) : Prop :=
  Clean history.files.settings ∧
    history.files.settings.fields.get? "model" = history.contractModel explicit

/-- A preparation that finds settings with which it does what the contract says. -/
def CarefulRun (history : OverlayHistory) (launch : OverlayLaunch) : Prop :=
  (readJsonFile history.files.native ≠ .undefined → history.LiveImports) ∧
    if Composes history.files then history.PlainModel launch.explicit
    else history.Settled launch.explicit

def Careful (history : OverlayHistory) : OverlayInput → Prop
  | .prepare launch => history.CarefulRun launch
  | _ => True

/-! ## One preparation -/

/-- What a preparation does with the settings. -/
theorem updateSettings_cases (files : OverlayFiles) (launch : OverlayLaunch) :
    (∃ native next, files.native = .object native ∧ Composes files = true ∧
      IsComposed native (readJsonFile files.settings) launch.explicit next ∧
      updateSettings files launch = .ok (.composed next ⟨true, some (settingsSourceKeys native)⟩)) ∨
    (∃ keys, readJsonFile files.native = .undefined ∧ files.settings ≠ .missing ∧
      files.settingsEntry = some ⟨true, keys⟩ ∧ updateSettings files launch =
        .ok (.stripped (withoutImported (keys.getD []) (readJsonFile files.settings)))) ∨
    (Composes files = false ∧ (readJsonFile files.native = .undefined → files.settings ≠ .missing →
        ∀ keys, files.settingsEntry ≠ some ⟨true, keys⟩) ∧
      (updateSettings files launch = .ok .kept ∨
        ∃ message, updateSettings files launch = .error message)) := by
  unfold updateSettings
  by_cases hshould : shouldComposeSettings files = true
  · rw [if_pos hshould]
    have hread : readJsonFile files.native ≠ .undefined := by
      intro hundefined
      simp [shouldComposeSettings, hundefined] at hshould
    cases hnative : files.native with
    | missing => exact absurd (congrArg readJsonFile hnative) hread
    | malformed => exact absurd (congrArg readJsonFile hnative) hread
    | notAnObject =>
        refine Or.inr (Or.inr ⟨?_, fun h => absurd h (by simp [readJsonFile]), Or.inr ⟨_, rfl⟩⟩)
        simp [Composes, hnative]
    | object native =>
        obtain ⟨next, hnext, hcomposed⟩ := composeOverlaySettings_record native
          (readJsonFile files.settings) launch.explicit
        refine Or.inl ⟨native, next, rfl, ?_, hcomposed, ?_⟩
        · simp [Composes, hshould, hnative]
        · have hread : readJsonFile (.object native) = .record native := rfl
          rw [hread, hnext]
          rfl
  · rw [if_neg hshould]
    have hcomposes : Composes files = false := by simp [Composes, hshould]
    split
    case h_1 keys hundefined hentry =>
        by_cases hmissing : files.settings = .missing
        · rw [if_pos hmissing]
          exact Or.inr (Or.inr ⟨hcomposes, fun _ h => absurd hmissing h, Or.inl rfl⟩)
        · rw [if_neg hmissing]
          exact Or.inr (Or.inl ⟨keys, hundefined, hmissing, hentry, rfl⟩)
    case h_2 hother =>
        refine Or.inr (Or.inr ⟨hcomposes, fun hundefined _ keys hentry => ?_, Or.inl rfl⟩)
        exact hother keys hundefined hentry

/-! ## What is tracked -/

/-- What was imported and is still in the view is listed in the manifest. -/
structure Tracked (history : OverlayHistory) : Prop where
  keys : ∀ key ∈ history.imported, history.files.settings.fields.get? key ≠ none →
    ∃ names, history.files.settingsEntry = some ⟨true, some names⟩ ∧ key ∈ names
  env : ∀ key ∈ history.importedEnv, history.files.settings.env.get? key ≠ none →
    ∃ names, history.files.settingsEntry = some ⟨true, some names⟩ ∧ "env." ++ key ∈ names
  plain : ∀ key ∈ history.imported, key ≠ "env" ∧ key ≠ "model"

theorem Tracked.fresh (native : SettingsFile) (time : ℕ) : Tracked (fresh native time) where
  keys _ h := absurd h List.not_mem_nil
  env _ h := absurd h List.not_mem_nil
  plain _ h := absurd h List.not_mem_nil

variable {history : OverlayHistory}

theorem Tracked.editNative (h : history.Tracked) (content : SettingsFile) (time : ℕ) :
    Tracked { history with
      files := { history.files with native := content, nativeTime := time } } :=
  ⟨h.keys, h.env, h.plain⟩

/-- What the client has not changed is where it was. -/
theorem Tracked.editView (h : history.Tracked) (content : SettingsFile) (time : ℕ) :
    (history.editView content time).Tracked where
  keys key hkey hget := by
    obtain ⟨himported, hsame⟩ := List.mem_filter.1 hkey
    rw [decide_eq_true_eq] at hsame
    exact h.keys key himported (hsame ▸ hget)
  env key hkey hget := by
    obtain ⟨himported, hsame⟩ := List.mem_filter.1 hkey
    rw [decide_eq_true_eq] at hsame
    exact h.env key himported (hsame ▸ hget)
  plain key hkey := h.plain key (List.mem_filter.1 hkey).1

/-! ## A preparation that composes -/

section Composed

variable {native next : SettingsRecord} {launch : OverlayLaunch} {entry : SettingsEntry}

theorem prepare_composed
    (h : updateSettings history.files launch = .ok (.composed next entry)) :
    (history.prepare launch).files.settings = .object next ∧
      (history.prepare launch).files.settingsEntry = some entry ∧
      (history.prepare launch).imported =
        history.imported ++ importableKeys history.files.native ∧
      (history.prepare launch).importedEnv =
        history.importedEnv ++ importableEnvKeys history.files.native := by
  unfold prepare prepareClaudeOverlay
  rw [h]
  exact ⟨rfl, rfl, rfl, rfl⟩

theorem clean_composed (harray : (native.get? "env").bind Json.arr? = none)
    {previous : ParsedSettings} {explicit : ExplicitClaudeSettings}
    (h : IsComposed native previous explicit next) : Clean (.object next) := by
  constructor
  · intro key hkey
    rw [show (SettingsFile.object next).env = (envRecord next).getD .empty from rfl,
      h.env harray key, if_pos hkey, if_pos (Or.inl hkey), Option.or_none]
  · intro key hkey
    have henv : key ≠ "env" := by
      rintro rfl
      exact absurd hkey (by decide)
    have hmodel : key ≠ "model" := by
      rintro rfl
      exact absurd hkey (by decide)
    rw [show (SettingsFile.object next).fields = next from rfl, h.keys key henv hmodel,
      if_pos (Or.inl hkey), Option.none_or, if_neg]
    simp [isPersistedKey, hkey]

/-- A key of the composed view is one of the native settings or one of the previous view. -/
theorem get?_ne_none_of_composed {previous : ParsedSettings} {explicit : ExplicitClaudeSettings}
    (h : IsComposed native previous explicit next) {key : String} (henv : key ≠ "env")
    (hmodel : key ≠ "model") (hget : next.get? key ≠ none) :
    native.get? key ≠ none ∨ ((normalizeSettings previous).getD .empty).get? key ≠ none := by
  rw [h.keys key henv hmodel] at hget
  by_contra hneither
  rw [not_or, not_not, not_not] at hneither
  apply hget
  rw [hneither.1, hneither.2, ite_self, ite_self]
  rfl

theorem env_ne_none_of_composed (harray : (native.get? "env").bind Json.arr? = none)
    {previous : ParsedSettings} {explicit : ExplicitClaudeSettings}
    (h : IsComposed native previous explicit next) {key : String}
    (hget : ((envRecord next).getD .empty).get? key ≠ none) :
    key ∉ GATEWAY_CONTRACT_ENV_KEYS ∧ (((envRecord native).getD .empty).get? key ≠ none ∨
      ((envRecord ((normalizeSettings previous).getD .empty)).getD .empty).get? key ≠ none) := by
  rw [h.env harray key] at hget
  constructor
  · intro hkey
    rw [if_pos hkey, if_pos (Or.inl hkey)] at hget
    exact hget rfl
  · by_contra hneither
    rw [not_or, not_not, not_not] at hneither
    apply hget
    rw [hneither.1, hneither.2, ite_self, ite_self]
    rfl

/-- Where no other tier has a model, the string of the view is the client's. -/
theorem model_composed (hplain : history.PlainModel launch.explicit)
    (hnative : history.files.native = .object native)
    (h : IsComposed native (readJsonFile history.files.settings) launch.explicit next) :
    next.get? "model" = history.contractModel launch.explicit := by
  have hfields : history.files.native.fields = native := by
    rw [hnative]
    rfl
  have hview : (normalizeSettings (readJsonFile history.files.settings)).bind (·.get? "model") =
      history.files.settings.fields.get? "model" := by
    rw [SettingsFile.fields]
    cases normalizeSettings (readJsonFile history.files.settings) <;> rfl
  rw [h.model, contractModel, hfields, hview]
  obtain ⟨-, hstring⟩ := hplain
  rw [hfields] at hstring
  cases howned : rlyOwnedModel (readJsonFile history.files.settings) with
  | some model => rfl
  | none =>
      cases hexplicit : launch.explicit.model with
      | some model => rfl
      | none =>
          cases hmodel : native.get? "model" with
          | some model => rfl
          | none =>
              cases hpersisted : history.files.settings.fields.get? "model" with
              | none => simp
              | some model =>
                  obtain ⟨hstr, hclient⟩ := hstring hexplicit hmodel model hpersisted
                  rw [howned] at hclient
                  have hclient : history.clientModel = true :=
                    hclient.resolve_right (by simp)
                  obtain ⟨text, htext⟩ := Option.isSome_iff_exists.1 hstr
                  cases model with
                  | str text => simp [hclient, Json.str?]
                  | _ => cases htext

theorem meetsContract_composed (hlive : history.LiveImports)
    (hplain : history.PlainModel launch.explicit) (htracked : history.Tracked)
    (hnative : history.files.native = .object native)
    (h : IsComposed native (readJsonFile history.files.settings) launch.explicit next) :
    history.MeetsContract launch.explicit (.object next) := by
  have harray : (native.get? "env").bind Json.arr? = none := by
    have := hplain.1
    rwa [hnative] at this
  refine ⟨clean_composed harray h, model_composed hplain hnative h, ?_, ?_⟩
  · intro key hkey hgone
    by_contra hget
    obtain ⟨henv, hmodel⟩ := htracked.plain key hkey
    rcases get?_ne_none_of_composed h henv hmodel hget with hfound | hfound
    · rw [hnative] at hgone
      exact hfound hgone
    · exact hlive.1 key hkey hfound hgone
  · intro key hkey hgone
    by_contra hget
    obtain ⟨-, hfound | hfound⟩ := env_ne_none_of_composed harray h hget
    · rw [hnative] at hgone
      exact hfound hgone
    · exact hlive.2 key hkey hfound hgone

theorem mem_settingsSourceKeys {key : String} (h : native.get? key ≠ none)
    (hsupported : key ∉ UNSUPPORTED_SETTINGS_KEYS) : key ∈ settingsSourceKeys native := by
  have hkey : key ∈ native.keys := by
    by_contra hnot
    exact h (OrderedMap.get?_eq_none.2 hnot)
  refine List.mem_append_left _ (List.mem_filter.2 ⟨hkey, ?_⟩)
  rwa [decide_eq_true_eq]

theorem env_mem_settingsSourceKeys {key : String}
    (h : ((envRecord native).getD .empty).get? key ≠ none)
    (hgateway : key ∉ GATEWAY_CONTRACT_ENV_KEYS) : "env." ++ key ∈ settingsSourceKeys native := by
  have hkey : key ∈ ((envRecord native).getD .empty).keys := by
    by_contra hnot
    exact h (OrderedMap.get?_eq_none.2 hnot)
  refine List.mem_append_right _ (List.mem_map.2 ⟨key, List.mem_filter.2 ⟨hkey, ?_⟩, rfl⟩)
  rwa [decide_eq_true_eq]

/-- The manifest lists the native keys, and what else was imported is still native. -/
theorem tracked_composed (hlive : history.LiveImports)
    (hplain : history.PlainModel launch.explicit) (htracked : history.Tracked)
    (hnative : history.files.native = .object native)
    (h : IsComposed native (readJsonFile history.files.settings) launch.explicit next)
    (hupdate : updateSettings history.files launch =
      .ok (.composed next ⟨true, some (settingsSourceKeys native)⟩)) :
    (history.prepare launch).Tracked := by
  have harray : (native.get? "env").bind Json.arr? = none := by
    have := hplain.1
    rwa [hnative] at this
  have hclean := clean_composed harray h
  obtain ⟨hsettings, hentry, himported, himportedEnv⟩ := prepare_composed hupdate
  have hplainKeys : ∀ key ∈ history.imported ++ importableKeys history.files.native,
      key ≠ "env" ∧ key ≠ "model" := by
    intro key hkey
    rcases List.mem_append.1 hkey with hkey | hkey
    · exact htracked.plain key hkey
    · have himportable := (List.mem_filter.1 hkey).2
      simp only [Bool.and_eq_true, decide_eq_true_eq] at himportable
      exact himportable.1
  constructor
  · rw [himported, hsettings, hentry]
    intro key hkey hget
    refine ⟨_, rfl, mem_settingsSourceKeys ?_ fun hkey => hget (hclean.2 key hkey)⟩
    obtain ⟨henv, hmodel⟩ := hplainKeys key hkey
    rcases get?_ne_none_of_composed h henv hmodel hget with hfound | hfound
    · exact hfound
    · rcases List.mem_append.1 hkey with hkey | hkey
      · have hlives := hlive.1 key hkey hfound
        rwa [hnative] at hlives
      · rw [hnative] at hkey
        have hmem : key ∈ native.keys := (List.mem_filter.1 hkey).1
        exact fun hnone => OrderedMap.get?_eq_none.1 hnone hmem
  · rw [himportedEnv, hsettings, hentry]
    intro key hkey hget
    obtain ⟨hgateway, hfound⟩ := env_ne_none_of_composed harray h hget
    refine ⟨_, rfl, env_mem_settingsSourceKeys ?_ hgateway⟩
    rcases hfound with hfound | hfound
    · exact hfound
    · rcases List.mem_append.1 hkey with hkey | hkey
      · have hlives := hlive.2 key hkey hfound
        rwa [hnative] at hlives
      · rw [hnative] at hkey
        have hmem : key ∈ ((envRecord native).getD .empty).keys := (List.mem_filter.1 hkey).1
        exact fun hnone => OrderedMap.get?_eq_none.1 hnone hmem
  · rw [himported]
    exact hplainKeys

end Composed

/-! ## A preparation without native settings -/

section Stripped

variable {launch : OverlayLaunch} {keys : Option (List String)}

theorem prepare_stripped {next : SettingsRecord}
    (h : updateSettings history.files launch = .ok (.stripped next)) :
    (history.prepare launch).files.settings = .object next ∧
      (history.prepare launch).imported = history.imported ∧
      (history.prepare launch).importedEnv = history.importedEnv := by
  unfold prepare prepareClaudeOverlay
  rw [h]
  exact ⟨rfl, rfl, rfl⟩

/-- Everything that was imported is dropped. -/
theorem dropped_of_tracked (htracked : history.Tracked)
    (hentry : history.files.settingsEntry = some ⟨true, keys⟩) :
    (∀ key ∈ history.imported, (withoutImported (keys.getD [])
        (readJsonFile history.files.settings)).get? key = none) ∧
      ∀ key ∈ history.importedEnv, ((envRecord (withoutImported (keys.getD [])
        (readJsonFile history.files.settings))).getD .empty).get? key = none := by
  have hlisted : ∀ names, history.files.settingsEntry = some ⟨true, some names⟩ →
      names = keys.getD [] := by
    intro names hnames
    rw [hentry] at hnames
    cases hnames
    rfl
  constructor
  · intro key hkey
    obtain ⟨henv, hmodel⟩ := htracked.plain key hkey
    by_cases hget : history.files.settings.fields.get? key = none
    · rw [get?_withoutImported _ _ hmodel]
      exact (congrArg (·.bind (keptField (keys.getD []) key)) hget)
    · obtain ⟨names, hnames, hmem⟩ := htracked.keys key hkey hget
      rw [hlisted names hnames] at hmem
      exact get?_withoutImported_of_mem hmem henv hmodel _
  · intro key hkey
    rcases env_withoutImported (keys.getD []) (readJsonFile history.files.settings) key with
      hnone | ⟨hnot, hsame⟩
    · exact hnone
    · rw [hsame]
      by_contra hget
      obtain ⟨names, hnames, hmem⟩ := htracked.env key hkey hget
      rw [hlisted names hnames] at hmem
      exact hnot hmem

theorem clean_withoutImported {settings : SettingsFile} (h : Clean settings)
    (snapshot : List String) :
    Clean (.object (withoutImported snapshot (readJsonFile settings))) := by
  constructor
  · intro key hkey
    rcases env_withoutImported snapshot (readJsonFile settings) key with hnone | ⟨-, hsame⟩
    · exact hnone
    · exact hsame.trans (h.1 key hkey)
  · intro key hkey
    have hmodel : key ≠ "model" := by
      rintro rfl
      exact absurd hkey (by decide)
    refine (get?_withoutImported snapshot _ hmodel).trans ?_
    exact congrArg (·.bind (keptField snapshot key)) (h.2 key hkey)

theorem meetsContract_stripped (hsettled : history.Settled launch.explicit)
    (htracked : history.Tracked)
    (hentry : history.files.settingsEntry = some ⟨true, keys⟩) :
    history.MeetsContract launch.explicit
      (.object (withoutImported (keys.getD []) (readJsonFile history.files.settings))) where
  clean := clean_withoutImported hsettled.1 _
  model := (get?_model_withoutImported _ _).trans hsettled.2
  removed key hkey _ := (dropped_of_tracked htracked hentry).1 key hkey
  removedEnv key hkey _ := (dropped_of_tracked htracked hentry).2 key hkey

theorem tracked_stripped (htracked : history.Tracked)
    (hentry : history.files.settingsEntry = some ⟨true, keys⟩)
    (hupdate : updateSettings history.files launch = .ok (.stripped
      (withoutImported (keys.getD []) (readJsonFile history.files.settings)))) :
    (history.prepare launch).Tracked := by
  obtain ⟨hsettings, himported, himportedEnv⟩ := prepare_stripped hupdate
  obtain ⟨hkeys, henv⟩ := dropped_of_tracked htracked hentry
  constructor
  · rw [himported, hsettings]
    exact fun key hkey hget => absurd (hkeys key hkey) hget
  · rw [himportedEnv, hsettings]
    exact fun key hkey hget => absurd (henv key hkey) hget
  · rw [himported]
    exact htracked.plain

end Stripped

/-! ## A preparation that leaves the settings alone -/

section Kept

variable {launch : OverlayLaunch}

theorem prepare_kept (h : updateSettings history.files launch = .ok .kept ∨
      ∃ message, updateSettings history.files launch = .error message) :
    (history.prepare launch).files.settings = history.files.settings ∧
      (history.prepare launch).files.settingsEntry = history.files.settingsEntry ∧
      (history.prepare launch).imported = history.imported ∧
      (history.prepare launch).importedEnv = history.importedEnv := by
  unfold prepare prepareClaudeOverlay
  rcases h with h | ⟨message, h⟩
  · rw [h]
    by_cases hmarker : launch.othersRefreshed || history.files.marker.isNone
    · simp [hmarker, bind, Except.bind, pure, Except.pure]
    · simp [hmarker, bind, Except.bind, pure, Except.pure]
  · rw [h]
    exact ⟨rfl, rfl, rfl, rfl⟩

theorem tracked_kept (htracked : history.Tracked)
    (hupdate : updateSettings history.files launch = .ok .kept ∨
      ∃ message, updateSettings history.files launch = .error message) :
    (history.prepare launch).Tracked := by
  obtain ⟨hsettings, hentry, himported, himportedEnv⟩ := prepare_kept hupdate
  constructor
  · rw [himported, hsettings, hentry]
    exact htracked.keys
  · rw [himportedEnv, hsettings, hentry]
    exact htracked.env
  · rw [himported]
    exact htracked.plain

/-- Settings without fields are those of a file that is not there, among others. -/
theorem ne_missing_of_get? {settings : SettingsFile} {key : String}
    (h : settings.fields.get? key ≠ none ∨ settings.env.get? key ≠ none) :
    settings ≠ .missing := by
  rintro rfl
  exact h.elim (fun h => h rfl) fun h => h rfl

theorem meetsContract_kept (hsettled : history.Settled launch.explicit)
    (hlive : readJsonFile history.files.native ≠ .undefined → history.LiveImports)
    (htracked : history.Tracked)
    (hunlisted : readJsonFile history.files.native = .undefined →
      history.files.settings ≠ .missing →
        ∀ keys, history.files.settingsEntry ≠ some ⟨true, keys⟩) :
    history.MeetsContract launch.explicit history.files.settings := by
  refine ⟨hsettled.1, hsettled.2, ?_, ?_⟩
  · intro key hkey hgone
    by_contra hget
    by_cases hread : readJsonFile history.files.native = .undefined
    · obtain ⟨names, hnames, -⟩ := htracked.keys key hkey hget
      exact hunlisted hread (ne_missing_of_get? (Or.inl hget)) _ hnames
    · exact (hlive hread).1 key hkey hget hgone
  · intro key hkey hgone
    by_contra hget
    by_cases hread : readJsonFile history.files.native = .undefined
    · obtain ⟨names, hnames, -⟩ := htracked.env key hkey hget
      exact hunlisted hread (ne_missing_of_get? (Or.inr hget)) _ hnames
    · exact (hlive hread).2 key hkey hget hgone

end Kept

/-! ## Every run -/

theorem prepare_of_carefulRun {launch : OverlayLaunch} (htracked : history.Tracked)
    (h : history.CarefulRun launch) :
    history.MeetsContract launch.explicit (history.prepare launch).files.settings ∧
      (history.prepare launch).Tracked := by
  obtain ⟨hlive, hrest⟩ := h
  rcases updateSettings_cases history.files launch with
    ⟨native, next, hnative, hcomposes, hcomposed, hupdate⟩ |
    ⟨keys, hundefined, -, hentry, hupdate⟩ | ⟨hcomposes, hunlisted, hupdate⟩
  · rw [if_pos hcomposes] at hrest
    have hlive := hlive (by rw [hnative]; exact ParsedSettings.noConfusion)
    rw [(prepare_composed hupdate).1]
    exact ⟨meetsContract_composed hlive hrest htracked hnative hcomposed,
      tracked_composed hlive hrest htracked hnative hcomposed hupdate⟩
  · have hcomposes : Composes history.files = false := by
      simp [Composes, shouldComposeSettings, hundefined]
    rw [hcomposes] at hrest
    rw [(prepare_stripped hupdate).1]
    exact ⟨meetsContract_stripped hrest htracked hentry, tracked_stripped htracked hentry hupdate⟩
  · rw [hcomposes] at hrest
    rw [(prepare_kept hupdate).1]
    exact ⟨meetsContract_kept hrest hlive htracked hunlisted, tracked_kept htracked hupdate⟩

theorem step_of_careful {input : OverlayInput} {history' : OverlayHistory}
    (htracked : history.Tracked) (hcareful : history.Careful input)
    (hstep : history.step input = some history') :
    history.KeepsContract input ∧ history'.Tracked := by
  cases input with
  | editNative content time =>
      cases hstep
      exact ⟨trivial, htracked.editNative content time⟩
  | editView content time =>
      cases hstep
      exact ⟨trivial, htracked.editView content time⟩
  | prepare launch =>
      cases hstep
      exact prepare_of_carefulRun htracked hcareful

theorem keepsContract_of_tracked {inputs : List OverlayInput} (htracked : history.Tracked)
    (hcareful : inputs.Along Careful step history) : inputs.Along KeepsContract step history := by
  induction inputs generalizing history with
  | nil => exact List.along_nil _
  | cons input inputs ih =>
      rw [List.along_cons] at hcareful ⊢
      obtain ⟨hfirst, hrest⟩ := hcareful
      obtain ⟨history', hstep⟩ : ∃ history', history.step input = some history' := by
        cases input <;> exact ⟨_, rfl⟩
      refine ⟨(step_of_careful htracked hfirst hstep).1, fun history'' hstep'' => ?_⟩
      exact ih (step_of_careful htracked hfirst hstep'').2 (hrest history'' hstep'')

section Decisions

instance (settings : SettingsFile) : Decidable (Clean settings) :=
  inferInstanceAs (Decidable (_ ∧ _))

instance : Decidable history.LiveImports :=
  inferInstanceAs (Decidable (_ ∧ _))

instance (explicit : ExplicitClaudeSettings) : Decidable (history.PlainModel explicit) :=
  inferInstanceAs (Decidable (_ ∧ (_ → _ → _)))

instance (explicit : ExplicitClaudeSettings) : Decidable (history.Settled explicit) :=
  inferInstanceAs (Decidable (_ ∧ _))

instance (history : OverlayHistory) : (input : OverlayInput) → Decidable (history.Careful input)
  | .prepare launch => inferInstanceAs (Decidable
      ((readJsonFile history.files.native ≠ .undefined → history.LiveImports) ∧
        if Composes history.files then history.PlainModel launch.explicit
        else history.Settled launch.explicit))
  | .editNative _ _ => isTrue trivial
  | .editView _ _ => isTrue trivial

end Decisions

/-- Native settings with one field. -/
def oneSetting (key : String) (value : Json) : SettingsFile :=
  .object (OrderedMap.empty.set key value)

/-- A launch without a policy of its own. -/
def plainLaunch (time : ℕ) : OverlayInput := .prepare ⟨⟨none⟩, time, false⟩

end OverlayHistory

end RlyGateway
