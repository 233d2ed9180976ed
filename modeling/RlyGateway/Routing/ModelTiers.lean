import RlyGateway.Routing.ModelIntent
import RlyGateway.Routing.ModelSelection

/-!
# Logical tiers

`src/routing/model-tiers/resolver.ts`: the exact model that a tier stands for inside one access
provider and one model family. A user's mapping is tried first, then the reviewed mapping, then the
candidates of the family; a fallback has to be allowed.
-/

namespace RlyGateway

/-! ## Inputs and results -/

inductive TierResolutionFailure where
  | overrideRejected
  | mappingInvalid
  | tierUnavailable
deriving DecidableEq, Repr

def TierResolutionFailure.name : TierResolutionFailure → String
  | .overrideRejected => "override-rejected"
  | .mappingInvalid => "mapping-invalid"
  | .tierUnavailable => "tier-unavailable"

/-- A failed resolution and the code of the failure behind it. -/
structure TierResolutionError where
  code : TierResolutionFailure
  message : String
  causeCode : String
deriving DecidableEq, Repr

structure TierResolutionContext where
  requestedTier : LogicalTier
  accessProviderId : String
  parentModelId : Option String
  modelFamily : Option String
  explicitUserMapping : Option String
  allowCrossFamilyFallback : Bool
  allowCrossProviderFallback : Bool

/-- Reviewed targets by provider, family and tier. -/
structure TierMappingPolicy where
  revision : ℕ
  entries : List (String × String)

structure TierResolutionDependencies where
  registry : RegistryDocument
  mapping : TierMappingPolicy
  requiredCapabilities : List CapabilityRequirement
  reasoning : Option ReasoningRequirement
  allowExperimental : Bool
  effective : Option EffectiveSnapshot
  fallbackProviderIds : Option (List String)

inductive TierMappingSource where
  | userOverride
  | reviewedMapping
  | derived
  | fallback
deriving DecidableEq, Repr

structure TierResolutionTrace where
  requestedTier : LogicalTier
  accessProviderId : String
  modelFamily : Option String
  parentModelId : Option String
  mappingSource : TierMappingSource
  selectedLogicalId : String
  reason : String
  mappingRevision : ℕ
  registryRevision : ℕ
  fallbackReason : Option String
  assessments : Option (List ModelCandidateAssessment)
deriving DecidableEq, Repr

structure TierResolutionResult where
  model : ModelEvidence
  trace : TierResolutionTrace
deriving DecidableEq, Repr

/-! ## The reviewed mapping -/

def tierMappingKey (accessProviderId modelFamily : String) (tier : LogicalTier) : String :=
  accessProviderId ++ "|" ++ modelFamily ++ "|" ++ tier.name

def TierMappingPolicy.target? (mapping : TierMappingPolicy) (key : String) : Option String :=
  (mapping.entries.find? fun entry => entry.1 = key).map (·.2)

def defaultTierMapping : TierMappingPolicy :=
  ⟨1, [("cline|openai/codex|fable", "gpt-5.6-sol"), ("cline|deepseek|fable", "deepseek-v4-pro"),
    ("cline|anthropic|fable", "claude-fable"), ("cline|anthropic|opus", "claude-opus-4-8"),
    ("cline|anthropic|sonnet", "claude-sonnet-4-5")]⟩

/-! ## Resolution -/

/-- The family that scopes a request: given, or the parent's, or the only one of the provider. -/
def resolveFamily (context : TierResolutionContext) (registry : RegistryDocument) :
    Option String :=
  let parentFamily := context.parentModelId.bind fun parentModelId =>
    (findModelEvidence registry context.accessProviderId parentModelId).bind (·.identity.modelFamily)
  let families := ((modelsForProvider registry context.accessProviderId).filterMap
    (·.identity.modelFamily)).dedup
  (context.modelFamily.or parentFamily).or (if families.length = 1 then families.head? else none)

def TierResolutionDependencies.select (dependencies : TierResolutionDependencies)
    (accessProviderId : String) (preferredFamily exactModelId : Option String) :
    Except ModelSelectionError ModelSelectionResult :=
  selectModel ⟨accessProviderId, preferredFamily, exactModelId, dependencies.requiredCapabilities,
    dependencies.reasoning, if dependencies.allowExperimental then some true else none⟩
    dependencies.registry dependencies.effective false

/-- An explicit target, validated by the exact selection. -/
def exactTarget (dependencies : TierResolutionDependencies) (accessProviderId modelId : String)
    (failure : TierResolutionFailure) (message : String) :
    Except TierResolutionError ModelEvidence :=
  match dependencies.select accessProviderId none (some modelId) with
  | .ok selection => .ok selection.model
  | .error error => .error ⟨failure, message ++ " (" ++ error.code.name ++ ")", error.code.name⟩

def settled (context : TierResolutionContext) (dependencies : TierResolutionDependencies)
    (family : Option String) (model : ModelEvidence) (mappingSource : TierMappingSource)
    (reason : String) (fallbackReason : Option String)
    (assessments : Option (List ModelCandidateAssessment)) : TierResolutionResult :=
  ⟨model, ⟨context.requestedTier, context.accessProviderId, family, context.parentModelId,
    mappingSource, model.logicalId, reason, dependencies.mapping.revision,
    dependencies.registry.registryRevision, fallbackReason, assessments⟩⟩

/-- All families of the same provider, where that is allowed and a family is known. -/
def crossFamilyFallback (context : TierResolutionContext)
    (dependencies : TierResolutionDependencies) (family : Option String) :
    Option TierResolutionResult :=
  if context.allowCrossFamilyFallback && family.isSome then
    match dependencies.select context.accessProviderId none none with
    | .ok selection => some (settled context dependencies family selection.model .fallback
        "fallback-cross-family" (some "cross-family (explicitly enabled)")
        (some selection.decision.candidates))
    | .error _ => none
  else none

/-- One explicitly listed provider. -/
def crossProviderTarget (context : TierResolutionContext)
    (dependencies : TierResolutionDependencies) (family : Option String) (providerId : String) :
    Option ModelEvidence :=
  if providerId = context.accessProviderId then none
  else
    let mapped := family.bind fun family =>
      dependencies.mapping.target? (tierMappingKey providerId family context.requestedTier)
    match mapped with
    | none => ((dependencies.select providerId family none).map (·.model)).toOption
    | some modelId => (exactTarget dependencies providerId modelId .tierUnavailable
        ("Fallback mapping rejected for " ++ providerId)).toOption

/-- The listed providers in their order, where that is allowed. -/
def crossProviderFallback (context : TierResolutionContext)
    (dependencies : TierResolutionDependencies) (family : Option String) :
    Option TierResolutionResult :=
  if context.allowCrossProviderFallback then
    (dependencies.fallbackProviderIds.getD []).findSome? fun providerId =>
      (crossProviderTarget context dependencies family providerId).map fun model =>
        settled context dependencies family model .fallback "fallback-cross-provider"
          (some ("cross-provider (explicitly enabled): " ++ providerId)) none
  else none

def fallbackOrFail (context : TierResolutionContext) (dependencies : TierResolutionDependencies)
    (family : Option String) (cause : String) : Except TierResolutionError TierResolutionResult :=
  match (crossFamilyFallback context dependencies family).or
      (crossProviderFallback context dependencies family) with
  | some result => .ok result
  | none => .error ⟨.tierUnavailable,
      "No eligible tier target for " ++ context.accessProviderId ++ "/" ++
        family.getD "unknown-family" ++ " tier " ++ context.requestedTier.name, cause⟩

def resolveTier (context : TierResolutionContext) (dependencies : TierResolutionDependencies) :
    Except TierResolutionError TierResolutionResult :=
  let family := resolveFamily context dependencies.registry
  match context.explicitUserMapping with
  | some modelId => do
      let model ← exactTarget dependencies context.accessProviderId modelId .overrideRejected
        ("User override rejected for " ++ context.accessProviderId ++ "/" ++ modelId)
      return settled context dependencies family model .userOverride "explicit-user-mapping" none
        none
  | none =>
      match family with
      | none => fallbackOrFail context dependencies none "family-unknown"
      | some family =>
          match dependencies.mapping.target?
              (tierMappingKey context.accessProviderId family context.requestedTier) with
          | some modelId => do
              let model ← exactTarget dependencies context.accessProviderId modelId
                .mappingInvalid ("Reviewed tier mapping for " ++ context.accessProviderId ++ "|" ++
                  family ++ "|" ++ context.requestedTier.name ++
                  " no longer has trusted/compatible evidence")
              return settled context dependencies family model .reviewedMapping
                "reviewed-mapping-match" none none
          | none =>
              match dependencies.select context.accessProviderId (some family) none with
              | .ok selection => .ok (settled context dependencies family selection.model .derived
                  "deterministic-family-candidate" none (some selection.decision.candidates))
              | .error error =>
                  fallbackOrFail context dependencies family error.code.name

/-- Without a fallback that is allowed, a resolution that has no target fails. -/
theorem fallbackOrFail_of_not_allowed {context : TierResolutionContext}
    (hfamily : context.allowCrossFamilyFallback = false)
    (hprovider : context.allowCrossProviderFallback = false)
    (dependencies : TierResolutionDependencies) (family : Option String) (cause : String) :
    ∃ message, fallbackOrFail context dependencies family cause =
      .error ⟨.tierUnavailable, message, cause⟩ := by
  unfold fallbackOrFail crossFamilyFallback crossProviderFallback
  rw [hfamily, hprovider]
  exact ⟨_, rfl⟩

end RlyGateway
