import RlyGateway.Library.Fallible
import RlyGateway.Providers.ReasoningTranslation

/-!
# Laws of the reasoning translation

When an effort of the client is kept, when reasoning stays off on a model without it, and how the
levels of a model follow the intents.
-/

namespace RlyGateway

/-- The levels of a model that reason. -/
def usableLevels (capability : ReasoningCapabilityEvidence) : List String :=
  nativeLevels (capability.effortLevels.getD [])

theorem mem_effortLevels_of_mem_usableLevels {capability : ReasoningCapabilityEvidence}
    {level : String} (h : level ∈ usableLevels capability) :
    level ∈ capability.effortLevels.getD [] :=
  (List.mem_filter.1 h).1

section Stages

variable {request : ReasoningRequest} {capability : ReasoningCapabilityEvidence}
  (options : ResolveReasoningOptions)

/-! ## The stages of a translation -/

theorem resolveReasoning_off (hoff : request.intent = .OFF) :
    resolveReasoning request capability options = .ok ⟨request, .OFF, .off, .exact, none⟩ := by
  unfold resolveReasoning
  dsimp only
  rw [if_pos hoff]

theorem resolveReasoning_adaptive (hoff : request.intent ≠ .OFF)
    (hmode : request.sourceMode = some .adaptive) (hadaptive : capability.adaptive = true) :
    resolveReasoning request capability options =
      .ok ⟨request, request.intent, .adaptive true, .exact, none⟩ := by
  unfold resolveReasoning
  dsimp only
  rw [if_neg hoff, if_pos hmode, if_pos hadaptive]

theorem resolveReasoning_enabled (hoff : request.intent ≠ .OFF)
    (hmode : request.sourceMode = some .adaptive) (hadaptive : capability.adaptive = false) :
    resolveReasoning request capability options =
      (enabledControl capability options).map fun control =>
        ⟨request, request.intent, control, .normalized,
          some ("adaptive source mode has no adaptive control; mapped to the nearest enabled " ++
            "control")⟩ := by
  unfold resolveReasoning
  dsimp only
  rw [if_neg hoff, if_pos hmode, if_neg (by rw [hadaptive]; exact Bool.false_ne_true)]

theorem resolveReasoning_auto (hmode : request.sourceMode ≠ some .adaptive)
    (hauto : request.intent = .AUTO) :
    resolveReasoning request capability options =
      .ok ⟨request, .AUTO, .providerDefault, .default, none⟩ := by
  have hoff : request.intent ≠ .OFF := by
    rw [hauto]
    decide
  unfold resolveReasoning
  dsimp only
  rw [if_neg hoff, if_neg hmode, if_pos hauto]

/-- The support of reasoning is looked at only after the stages before it. -/
theorem resolveReasoning_unsupported (hoff : request.intent ≠ .OFF)
    (hmode : request.sourceMode ≠ some .adaptive) (hauto : request.intent ≠ .AUTO)
    (hunsupported : capability.supported = false ∨ capability.controlKind = .none) :
    resolveReasoning request capability options =
      if options.bestEffort then
        .ok ⟨request, request.intent, .off, .downgraded,
          some ("selected model does not support reasoning; best-effort policy disabled " ++
            "reasoning")⟩
      else .error ⟨.unsupportedReasoning, "selected model does not support reasoning; cannot " ++
        "translate " ++ request.intent.name ++ " intent"⟩ := by
  have hstage : (!capability.supported || decide (capability.controlKind = .none)) = true := by
    rcases hunsupported with hsupported | hkind
    · rw [hsupported]
      rfl
    · rw [hkind]
      exact Bool.or_true _
  unfold resolveReasoning
  dsimp only
  rw [if_neg hoff, if_neg hmode, if_neg hauto, if_pos hstage]
  rfl

/-- A model with levels keeps the effort of the request, or maps the intent to the nearest level. -/
theorem resolveReasoning_discreteEffort (hoff : request.intent ≠ .OFF)
    (hmode : request.sourceMode ≠ some .adaptive) (hauto : request.intent ≠ .AUTO)
    (hsupported : capability.supported = true) (hkind : capability.controlKind = .discreteEffort) :
    resolveReasoning request capability options =
      match request.sourceEffort with
      | some effort =>
          if effort ∈ capability.effortLevels.getD [] then
            .ok ⟨request, request.intent, .effort effort, .exact, none⟩
          else translateIntent request capability options
      | none => translateIntent request capability options := by
  have hstage : ¬ (!capability.supported || decide (capability.controlKind = .none)) = true := by
    rw [hsupported, hkind]
    decide
  unfold resolveReasoning
  dsimp only
  rw [if_neg hoff, if_neg hmode, if_neg hauto, if_neg hstage, hkind]
  cases request.sourceEffort with
  | none => rfl
  | some effort => rfl

end Stages

/-! ## Native efforts -/

/-- The effort of a request is a level that the model reasons with. -/
structure NamesNativeLevel (request : ReasoningRequest) (capability : ReasoningCapabilityEvidence)
    (level : String) : Prop where
  sourceEffort : request.sourceEffort = some level
  supported : capability.supported = true
  controlKind : capability.controlKind = .discreteEffort
  usable : level ∈ usableLevels capability

/-- A translation gives exactly a level. -/
def GivesExactly (level : String)
    (result : Except ReasoningTranslationError ResolvedReasoning) : Prop :=
  ∃ resolved, result = .ok resolved ∧ resolved.mappingKind = .exact ∧
    resolved.effective = .effort level

theorem not_givesExactly_of_adaptive {request : ReasoningRequest}
    {capability : ReasoningCapabilityEvidence} (options : ResolveReasoningOptions) {level : String}
    (hoff : request.intent ≠ .OFF) (hmode : request.sourceMode = some .adaptive) :
    ¬ GivesExactly level (resolveReasoning request capability options) := by
  rintro ⟨resolved, hresolved, hexact, heffort⟩
  cases hadaptive : capability.adaptive with
  | true =>
      rw [resolveReasoning_adaptive options hoff hmode hadaptive] at hresolved
      cases hresolved
      cases heffort
  | false =>
      rw [resolveReasoning_enabled options hoff hmode hadaptive] at hresolved
      obtain ⟨control, -, rfl⟩ := Except.map_eq_ok.1 hresolved
      cases hexact

/-- A native effort is kept exactly where none of the stages before it takes the request. -/
theorem givesExactly_iff {request : ReasoningRequest} {capability : ReasoningCapabilityEvidence}
    {level : String} (h : NamesNativeLevel request capability level)
    (options : ResolveReasoningOptions) :
    GivesExactly level (resolveReasoning request capability options) ↔
      request.intent ≠ .OFF ∧ request.intent ≠ .AUTO ∧ request.sourceMode ≠ some .adaptive := by
  constructor
  · intro hexactly
    have hoff : request.intent ≠ .OFF := by
      intro hoff
      obtain ⟨resolved, hresolved, -, heffort⟩ := hexactly
      rw [resolveReasoning_off options hoff] at hresolved
      cases hresolved
      cases heffort
    have hmode : request.sourceMode ≠ some .adaptive := fun hmode =>
      not_givesExactly_of_adaptive options hoff hmode hexactly
    refine ⟨hoff, fun hauto => ?_, hmode⟩
    obtain ⟨resolved, hresolved, -, heffort⟩ := hexactly
    rw [resolveReasoning_auto options hmode hauto] at hresolved
    cases hresolved
    cases heffort
  · rintro ⟨hoff, hauto, hmode⟩
    refine ⟨⟨request, request.intent, .effort level, .exact, none⟩, ?_, rfl, rfl⟩
    rw [resolveReasoning_discreteEffort options hoff hmode hauto h.supported h.controlKind,
      h.sourceEffort]
    exact if_pos (mem_effortLevels_of_mem_usableLevels h.usable)

/-- A model with three levels and no adaptive control. -/
def threeLevels : ReasoningCapabilityEvidence where
  supported := true
  controlKind := .discreteEffort
  effortLevels := some ["low", "medium", "high"]
  adaptive := false
  tokenBudget := false
  reasoningWithTools := true

theorem namesNativeLevel_high :
    NamesNativeLevel (reasoningRequestFromWire (some .enabled) (some "high")) threeLevels "high" :=
  ⟨rfl, rfl, rfl, by decide⟩

theorem givesExactly_high :
    GivesExactly "high" (resolveReasoning (reasoningRequestFromWire (some .enabled) (some "high"))
        threeLevels ⟨none, false⟩) ↔
      (reasoningRequestFromWire (some .enabled) (some "high")).intent ≠ .OFF ∧
        (reasoningRequestFromWire (some .enabled) (some "high")).intent ≠ .AUTO ∧
          (reasoningRequestFromWire (some .enabled) (some "high")).sourceMode ≠ some .adaptive :=
  givesExactly_iff namesNativeLevel_high ⟨none, false⟩

/-- An adaptive mode beside a native effort puts the neutral level in its place. -/
theorem not_givesExactly :
    ¬ ∀ (request : ReasoningRequest) (capability : ReasoningCapabilityEvidence) (level : String)
      (options : ResolveReasoningOptions), NamesNativeLevel request capability level →
        GivesExactly level (resolveReasoning request capability options) := by
  intro h
  obtain ⟨resolved, hresolved, hexact, -⟩ :=
    h (reasoningRequestFromWire (some .adaptive) (some "high")) threeLevels "high" ⟨none, false⟩
      ⟨rfl, rfl, rfl, by decide⟩
  cases hresolved
  cases hexact

/-! ## Models without reasoning -/

/-- The nearest level is missing exactly where no level reasons. -/
theorem nearestLevel_of_nil {levels : List String} (h : nativeLevels levels = [])
    (intent : ReasoningIntent) :
    ∃ message, nearestLevel intent levels = .error ⟨.unsupportedReasoning, message⟩ := by
  unfold nearestLevel
  rw [h, List.getElem?_nil]
  exact ⟨_, rfl⟩

theorem exists_nearestLevel {levels : List String} (h : nativeLevels levels ≠ [])
    (intent : ReasoningIntent) :
    ∃ level, (nativeLevels levels)[levelIndex intent (nativeLevels levels).length]? = some level ∧
      nearestLevel intent levels = .ok level := by
  have hlt := levelIndex_lt intent (List.length_pos_of_ne_nil h)
  refine ⟨_, List.getElem?_eq_getElem hlt, ?_⟩
  unfold nearestLevel
  rw [List.getElem?_eq_getElem hlt]

/-- The model has no control that an adaptive mode could switch on. -/
def NothingToEnable (capability : ReasoningCapabilityEvidence) : Prop :=
  capability.controlKind = .none ∨
    capability.controlKind = .discreteEffort ∧ usableLevels capability = []

/-- A control is refused as unsupported exactly where there is none. -/
theorem enabledControl_unsupported_iff (capability : ReasoningCapabilityEvidence)
    (options : ResolveReasoningOptions) :
    (∃ message, enabledControl capability options = .error ⟨.unsupportedReasoning, message⟩) ↔
      NothingToEnable capability := by
  unfold NothingToEnable enabledControl
  cases hkind : capability.controlKind with
  | none => exact ⟨fun _ => .inl rfl, fun _ => ⟨_, rfl⟩⟩
  | binary => simp
  | adaptive => simp
  | tokenBudget => cases options.budgetPolicy <;> simp
  | discreteEffort =>
      by_cases husable : usableLevels capability = []
      · obtain ⟨message, hnearest⟩ := nearestLevel_of_nil husable .BALANCED
        dsimp only
        rw [hnearest]
        exact ⟨fun _ => .inr ⟨rfl, husable⟩, fun _ => ⟨message, rfl⟩⟩
      · obtain ⟨level, -, hnearest⟩ := exists_nearestLevel husable .BALANCED
        dsimp only
        rw [hnearest]
        constructor
        · rintro ⟨message, h⟩
          cases h
        · rintro (h | h)
          · cases h
          · exact absurd h.2 husable

/-- Reasoning is refused as unsupported or stays off; only an `AUTO` that nobody asked for is left to
the provider. -/
def KeepsReasoningOff (request : ReasoningRequest) :
    Except ReasoningTranslationError ResolvedReasoning → Prop
  | .error failure => failure.code = .unsupportedReasoning
  | .ok resolved => resolved.effective = .off ∨
      resolved.effective = .providerDefault ∧ request.intent = .AUTO ∧ request.explicit = false

theorem enabledControl_ok_ne {capability : ReasoningCapabilityEvidence}
    {options : ResolveReasoningOptions} {control : NativeReasoningControl}
    (h : enabledControl capability options = .ok control) :
    control ≠ .off ∧ control ≠ .providerDefault := by
  unfold enabledControl at h
  split at h
  · obtain ⟨level, -, rfl⟩ := Except.map_eq_ok.1 h
    simp
  · cases h
    simp
  · split at h
    · cases h
    · cases h
      simp
  · cases h
    simp
  · cases h

/-- An adaptive mode keeps reasoning off only where there is nothing to switch on. -/
theorem keepsReasoningOff_adaptive_iff {request : ReasoningRequest}
    {capability : ReasoningCapabilityEvidence} (options : ResolveReasoningOptions)
    (hoff : request.intent ≠ .OFF) (hmode : request.sourceMode = some .adaptive) :
    KeepsReasoningOff request (resolveReasoning request capability options) ↔
      capability.adaptive = false ∧ NothingToEnable capability := by
  cases hadaptive : capability.adaptive with
  | true =>
      rw [resolveReasoning_adaptive options hoff hmode hadaptive]
      simp [KeepsReasoningOff]
  | false =>
      rw [resolveReasoning_enabled options hoff hmode hadaptive,
        ← enabledControl_unsupported_iff capability options]
      cases hcontrol : enabledControl capability options with
      | ok control =>
          obtain ⟨hne, hne'⟩ := enabledControl_ok_ne hcontrol
          simp [KeepsReasoningOff, Except.map, hne, hne']
      | error failure =>
          obtain ⟨code, message⟩ := failure
          cases code <;> simp [KeepsReasoningOff, Except.map]

/-- Reasoning stays off on a model without it exactly where reasoning is switched off, or an adaptive
mode finds nothing to switch on, or another request does not ask for `AUTO` itself. -/
theorem keepsReasoningOff_iff {capability : ReasoningCapabilityEvidence}
    (h : capability.supported = false ∨ capability.controlKind = .none) (request : ReasoningRequest)
    (options : ResolveReasoningOptions) :
    KeepsReasoningOff request (resolveReasoning request capability options) ↔
      request.intent = .OFF ∨
      request.sourceMode = some .adaptive ∧ capability.adaptive = false ∧
        NothingToEnable capability ∨
      request.sourceMode ≠ some .adaptive ∧ (request.intent = .AUTO → request.explicit = false) := by
  by_cases hoff : request.intent = .OFF
  · rw [resolveReasoning_off options hoff]
    exact ⟨fun _ => .inl hoff, fun _ => .inl rfl⟩
  by_cases hmode : request.sourceMode = some .adaptive
  · rw [keepsReasoningOff_adaptive_iff options hoff hmode]
    simp [hoff, hmode]
  by_cases hauto : request.intent = .AUTO
  · rw [resolveReasoning_auto options hmode hauto]
    simp [KeepsReasoningOff, hmode, hauto]
  · rw [resolveReasoning_unsupported options hoff hmode hauto h]
    have hkept : KeepsReasoningOff request (if options.bestEffort then
        .ok ⟨request, request.intent, .off, .downgraded,
          some ("selected model does not support reasoning; best-effort policy disabled " ++
            "reasoning")⟩
      else .error ⟨.unsupportedReasoning, "selected model does not support reasoning; cannot " ++
        "translate " ++ request.intent.name ++ " intent"⟩) := by
      split
      · exact .inl rfl
      · rfl
    exact ⟨fun _ => .inr (.inr ⟨hmode, fun h => absurd h hauto⟩), fun _ => hkept⟩

/-- Evidence of a model without reasoning that names a switch all the same. -/
def unsupportedSwitch : ReasoningCapabilityEvidence where
  supported := false
  controlKind := .binary
  effortLevels := none
  adaptive := false
  tokenBudget := false
  reasoningWithTools := false

theorem keepsReasoningOff_unsupportedSwitch :
    KeepsReasoningOff (reasoningRequestFromWire none (some "high"))
        (resolveReasoning (reasoningRequestFromWire none (some "high")) unsupportedSwitch
          ⟨none, false⟩) ↔
      (reasoningRequestFromWire none (some "high")).intent = .OFF ∨
      (reasoningRequestFromWire none (some "high")).sourceMode = some .adaptive ∧
        unsupportedSwitch.adaptive = false ∧ NothingToEnable unsupportedSwitch ∨
      (reasoningRequestFromWire none (some "high")).sourceMode ≠ some .adaptive ∧
        ((reasoningRequestFromWire none (some "high")).intent = .AUTO →
          (reasoningRequestFromWire none (some "high")).explicit = false) :=
  keepsReasoningOff_iff (.inl rfl) _ _

/-- An adaptive mode switches reasoning on where the model has none. -/
theorem not_keepsReasoningOff :
    ¬ ∀ (request : ReasoningRequest) (capability : ReasoningCapabilityEvidence)
      (options : ResolveReasoningOptions),
      capability.supported = false ∨ capability.controlKind = .none →
        KeepsReasoningOff request (resolveReasoning request capability options) := by
  intro h
  have hkept := h (reasoningRequestFromWire (some .adaptive) none) unsupportedSwitch ⟨none, false⟩
    (.inl rfl)
  rcases hkept with hoff | hdefault
  · cases hoff
  · cases hdefault.1

/-! ## Levels in the order of the intents -/

/-- A request that asks for reasoning of some depth and is not translated exactly. -/
structure IsGraded (request : ReasoningRequest) (capability : ReasoningCapabilityEvidence)
    (options : ResolveReasoningOptions) : Prop where
  not_off : request.intent ≠ .OFF
  not_auto : request.intent ≠ .AUTO
  inexact : ∀ resolved, resolveReasoning request capability options = .ok resolved →
    resolved.mappingKind ≠ .exact

/-- The position of a request among the levels that reason. -/
def levelPosition (request : ReasoningRequest) (capability : ReasoningCapabilityEvidence) : ℕ :=
  levelIndex request.intent (usableLevels capability).length

/-- The translation chooses the level at the request's position, the first one for `ECONOMY` and the
last one for `MAXIMUM`. -/
structure ChoosesLevel (request : ReasoningRequest) (capability : ReasoningCapabilityEvidence)
    (options : ResolveReasoningOptions) : Prop where
  chosen : ∃ resolved level, resolveReasoning request capability options = .ok resolved ∧
    (usableLevels capability)[levelPosition request capability]? = some level ∧
    resolved.effective = .effort level
  economy : request.intent = .ECONOMY → levelPosition request capability = 0
  maximum : request.intent = .MAXIMUM →
    levelPosition request capability = (usableLevels capability).length - 1

/-- The place of an intent follows its depth. -/
theorem levelIndex_mono {weaker stronger : ReasoningIntent} (hoff : weaker ≠ .OFF)
    (hauto : weaker ≠ .AUTO) (hle : weaker.rank ≤ stronger.rank) (count : ℕ) :
    levelIndex weaker count ≤ levelIndex stronger count := by
  cases weaker <;> cases stronger <;> simp_all only [levelIndex, ReasoningIntent.rank, ne_eq,
    not_true_eq_false, reduceCtorEq, not_false_eq_true]
  all_goals (try split) <;> omega

theorem IsGraded.choosesLevel {request : ReasoningRequest}
    {capability : ReasoningCapabilityEvidence} {options : ResolveReasoningOptions}
    (h : IsGraded request capability options) (hsupported : capability.supported = true)
    (hkind : capability.controlKind = .discreteEffort) (husable : usableLevels capability ≠ [])
    (hmode : request.sourceMode ≠ some .adaptive) :
    ChoosesLevel request capability options where
  chosen := by
    obtain ⟨level, hlevel, hnearest⟩ := exists_nearestLevel husable request.intent
    have htranslated : translateIntent request capability options =
        .ok ⟨request, request.intent, .effort level, .normalized,
          some (effortReason request level)⟩ := by
      unfold translateIntent
      dsimp only
      rw [hkind]
      dsimp only
      rw [hnearest]
      rfl
    refine ⟨⟨request, request.intent, .effort level, .normalized, some (effortReason request level)⟩,
      level, ?_, hlevel, rfl⟩
    have hresolved := resolveReasoning_discreteEffort options h.not_off hmode h.not_auto hsupported
      hkind
    rw [hresolved, ← htranslated]
    cases heffort : request.sourceEffort with
    | none => rfl
    | some effort =>
        dsimp only
        split
        · rename_i hmem
          rw [heffort] at hresolved
          dsimp only at hresolved
          rw [if_pos hmem] at hresolved
          exact absurd rfl (h.inexact _ hresolved)
        · rfl
  economy := by
    intro heconomy
    rw [levelPosition, heconomy]
    rfl
  maximum := by
    intro hmaximum
    rw [levelPosition, hmaximum]
    rfl

/-- Without the adaptive mode, the levels of two requests are in the order of their intents. -/
theorem levels_in_order {capability : ReasoningCapabilityEvidence}
    {options : ResolveReasoningOptions} {weaker stronger : ReasoningRequest}
    (hsupported : capability.supported = true) (hkind : capability.controlKind = .discreteEffort)
    (husable : usableLevels capability ≠ []) (hweaker : IsGraded weaker capability options)
    (hstronger : IsGraded stronger capability options)
    (hle : weaker.intent.rank ≤ stronger.intent.rank)
    (hmodes : weaker.sourceMode ≠ some .adaptive ∧ stronger.sourceMode ≠ some .adaptive) :
    ChoosesLevel weaker capability options ∧ ChoosesLevel stronger capability options ∧
      levelPosition weaker capability ≤ levelPosition stronger capability ∧
      levelPosition stronger capability < (usableLevels capability).length :=
  ⟨hweaker.choosesLevel hsupported hkind husable hmodes.1,
    hstronger.choosesLevel hsupported hkind husable hmodes.2,
    levelIndex_mono hweaker.not_off hweaker.not_auto hle _,
    levelIndex_lt _ (List.length_pos_of_ne_nil husable)⟩

/-- A request of an intent alone. -/
def requestOf (intent : ReasoningIntent) (sourceMode : Option ReasoningSourceMode) :
    ReasoningRequest where
  intent := intent
  sourceMode := sourceMode
  sourceEffort := none
  explicit := true

theorem isGraded_economy : IsGraded (requestOf .ECONOMY none) threeLevels ⟨none, false⟩ :=
  ⟨by decide, by decide, by rintro resolved ⟨⟩; decide⟩

theorem isGraded_maximum (sourceMode : Option ReasoningSourceMode) :
    IsGraded (requestOf .MAXIMUM sourceMode) threeLevels ⟨none, false⟩ := by
  refine ⟨by simp [requestOf], by simp [requestOf], ?_⟩
  rcases sourceMode with - | (- | - | -) <;> rintro resolved ⟨⟩ <;> decide

theorem levels_in_order_threeLevels :
    ChoosesLevel (requestOf .ECONOMY none) threeLevels ⟨none, false⟩ ∧
      ChoosesLevel (requestOf .MAXIMUM none) threeLevels ⟨none, false⟩ ∧
      levelPosition (requestOf .ECONOMY none) threeLevels ≤
        levelPosition (requestOf .MAXIMUM none) threeLevels ∧
      levelPosition (requestOf .MAXIMUM none) threeLevels < (usableLevels threeLevels).length :=
  levels_in_order rfl rfl (by decide) isGraded_economy (isGraded_maximum none) (by decide)
    ⟨by decide, by decide⟩

/-- An adaptive mode puts the middle level in the place of the last one. -/
theorem not_levels_in_order :
    ¬ ∀ (capability : ReasoningCapabilityEvidence) (options : ResolveReasoningOptions)
      (weaker stronger : ReasoningRequest), capability.supported = true →
      capability.controlKind = .discreteEffort → usableLevels capability ≠ [] →
      IsGraded weaker capability options → IsGraded stronger capability options →
      weaker.intent.rank ≤ stronger.intent.rank →
        ChoosesLevel weaker capability options ∧ ChoosesLevel stronger capability options ∧
          levelPosition weaker capability ≤ levelPosition stronger capability ∧
          levelPosition stronger capability < (usableLevels capability).length := by
  intro h
  obtain ⟨-, hstronger, -⟩ := h threeLevels ⟨none, false⟩ (requestOf .ECONOMY none)
    (requestOf .MAXIMUM (some .adaptive)) rfl rfl (by decide) isGraded_economy
    (isGraded_maximum (some .adaptive)) (by decide)
  obtain ⟨resolved, level, hresolved, hlevel, heffort⟩ := hstronger.chosen
  have hhigh : some "high" = some level := hlevel
  cases hresolved
  cases hhigh
  exact absurd (NativeReasoningControl.effort.inj heffort) (by decide)

end RlyGateway
