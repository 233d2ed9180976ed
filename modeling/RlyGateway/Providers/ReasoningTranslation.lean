import RlyGateway.Core.Capabilities
import RlyGateway.Core.Reasoning
import RlyGateway.Library.JsonText

/-!
# Reasoning translation

`src/providers/reasoning.ts`: the native control that a reasoning request is translated to, from the
reviewed controls of the selected model.
-/

namespace RlyGateway

/-! ## Failures and options -/

inductive ReasoningTranslationCode where
  | unsupportedReasoning
  | noBudgetPolicy
deriving DecidableEq, Repr

def ReasoningTranslationCode.name : ReasoningTranslationCode → String
  | .unsupportedReasoning => "unsupported-reasoning"
  | .noBudgetPolicy => "no-budget-policy"

structure ReasoningTranslationError where
  code : ReasoningTranslationCode
  message : String
deriving DecidableEq, Repr

/-- The reviewed budgets of a model. -/
structure ReasoningBudgetPolicy where
  economy : ℚ
  balanced : ℚ
  deep : ℚ
  maximum : ℚ

structure ResolveReasoningOptions where
  budgetPolicy : Option ReasoningBudgetPolicy
  bestEffort : Bool

def ReasoningIntent.name : ReasoningIntent → String
  | .OFF => "OFF"
  | .ECONOMY => "ECONOMY"
  | .BALANCED => "BALANCED"
  | .DEEP => "DEEP"
  | .MAXIMUM => "MAXIMUM"
  | .AUTO => "AUTO"

/-- The depth of an intent. -/
def ReasoningIntent.rank : ReasoningIntent → ℕ
  | .OFF => 0
  | .ECONOMY => 1
  | .BALANCED => 2
  | .DEEP => 3
  | .MAXIMUM => 4
  | .AUTO => 0

/-! ## Levels and budgets -/

/-- The levels that reason at all. -/
def nativeLevels (levels : List String) : List String :=
  levels.filter fun level => level ≠ "none" && level ≠ "off"

/-- The place of an intent among levels of a given number. -/
def levelIndex (intent : ReasoningIntent) (count : ℕ) : ℕ :=
  match intent with
  | .ECONOMY => 0
  | .DEEP => if count ≥ 3 then count - 2 else count - 1
  | .MAXIMUM => count - 1
  | _ => (count - 1) / 2

/-- The native level that is nearest to an intent. -/
def nearestLevel (intent : ReasoningIntent) (levels : List String) :
    Except ReasoningTranslationError String :=
  match (nativeLevels levels)[levelIndex intent (nativeLevels levels).length]? with
  | some level => .ok level
  | none => .error ⟨.unsupportedReasoning,
      "discrete-effort control declares only non-reasoning levels; cannot translate " ++
        intent.name ++ " intent"⟩

def budgetTokensFor (intent : ReasoningIntent) (policy : ReasoningBudgetPolicy) : ℚ :=
  match intent with
  | .ECONOMY => policy.economy
  | .DEEP => policy.deep
  | .MAXIMUM => policy.maximum
  | _ => policy.balanced

/-- Every intent has a place among the levels, if there is any. -/
theorem levelIndex_lt (intent : ReasoningIntent) {count : ℕ} (h : 0 < count) :
    levelIndex intent count < count := by
  cases intent <;> simp only [levelIndex]
  case DEEP => split <;> omega
  all_goals omega

/-! ## Translation -/

/-- Reasoning is switched on with the nearest control. -/
def enabledControl (capability : ReasoningCapabilityEvidence) (options : ResolveReasoningOptions) :
    Except ReasoningTranslationError NativeReasoningControl :=
  match capability.controlKind with
  | .discreteEffort => (nearestLevel .BALANCED (capability.effortLevels.getD [])).map .effort
  | .binary => .ok (.binary true)
  | .tokenBudget =>
      match options.budgetPolicy with
      | none => .error ⟨.noBudgetPolicy, "token-budget reasoning requires a reviewed per-model " ++
          "budget policy; cannot enable reasoning"⟩
      | some policy => .ok (.budget (budgetTokensFor .BALANCED policy))
  | .adaptive => .ok (.adaptive true)
  | .none => .error ⟨.unsupportedReasoning,
      "selected model does not support reasoning; cannot enable reasoning"⟩

/-- Why an effort is mapped to a level that is not simply its own. -/
def effortReason (request : ReasoningRequest) (level : String) : String :=
  let mapped := "intent " ++ request.intent.name ++ " mapped to native level " ++ level
  match request.sourceEffort with
  | some effort =>
      if level ≠ effort then
        "source effort " ++ effort ++ " is not natively supported; intent " ++
          request.intent.name ++ " mapped to nearest level " ++ level
      else mapped
  | none => mapped

/-- An intent that asks for reasoning, where the model supports it. -/
def translateIntent (request : ReasoningRequest) (capability : ReasoningCapabilityEvidence)
    (options : ResolveReasoningOptions) : Except ReasoningTranslationError ResolvedReasoning :=
  let intent := request.intent
  match capability.controlKind with
  | .discreteEffort =>
      (nearestLevel intent (capability.effortLevels.getD [])).map fun level =>
        ⟨request, intent, .effort level, .normalized, some (effortReason request level)⟩
  | .binary =>
      .ok ⟨request, intent, .binary true,
        if intent.rank ≥ ReasoningIntent.DEEP.rank then .downgraded else .normalized,
        some ("binary reasoning control has no effort granularity; " ++ intent.name ++
          " mapped to enabled")⟩
  | .adaptive =>
      .ok ⟨request, intent, .adaptive true, .normalized,
        some ("adaptive reasoning control has no effort granularity; " ++ intent.name ++
          " mapped to adaptive enabled")⟩
  | .tokenBudget =>
      match options.budgetPolicy with
      | none => .error ⟨.noBudgetPolicy, "token-budget reasoning requires a reviewed per-model " ++
          "budget policy; cannot translate " ++ intent.name ++ " intent"⟩
      | some policy =>
          let budgetTokens := budgetTokensFor intent policy
          .ok ⟨request, intent, .budget budgetTokens, .normalized,
            some ("token-budget control; intent " ++ intent.name ++
              " mapped through the reviewed budget policy to " ++ Json.numberText budgetTokens)⟩
  | .none => .error ⟨.unsupportedReasoning,
      "selected model does not support reasoning; cannot translate " ++ intent.name ++ " intent"⟩

def resolveReasoning (request : ReasoningRequest) (capability : ReasoningCapabilityEvidence)
    (options : ResolveReasoningOptions) : Except ReasoningTranslationError ResolvedReasoning :=
  let intent := request.intent
  if intent = .OFF then .ok ⟨request, .OFF, .off, .exact, none⟩
  else if request.sourceMode = some .adaptive then
    if capability.adaptive then .ok ⟨request, intent, .adaptive true, .exact, none⟩
    else
      (enabledControl capability options).map fun control => ⟨request, intent, control, .normalized,
        some ("adaptive source mode has no adaptive control; mapped to the nearest enabled " ++
          "control")⟩
  else if intent = .AUTO then .ok ⟨request, .AUTO, .providerDefault, .default, none⟩
  else if !capability.supported || capability.controlKind = .none then
    if options.bestEffort then
      .ok ⟨request, intent, .off, .downgraded,
        some ("selected model does not support reasoning; best-effort policy disabled " ++
          "reasoning")⟩
    else .error ⟨.unsupportedReasoning,
      "selected model does not support reasoning; cannot translate " ++ intent.name ++ " intent"⟩
  else
    match request.sourceEffort, capability.controlKind with
    | some effort, .discreteEffort =>
        if effort ∈ capability.effortLevels.getD [] then
          .ok ⟨request, intent, .effort effort, .exact, none⟩
        else translateIntent request capability options
    | _, _ => translateIntent request capability options

end RlyGateway
