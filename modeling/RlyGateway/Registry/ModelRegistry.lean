import RlyGateway.Core.Capabilities
import RlyGateway.Library.Keyed
import Mathlib.Data.List.Nodup

/-!
# The model registry

The reviewed evidence rows of the trusted registry and the lookups made on it, all in document
order.
-/

namespace RlyGateway

/-- The compatibility state of an access path against the client baseline. -/
inductive CompatibilityState where
  | VERIFIED
  | EXPERIMENTAL
  | BROKEN
deriving DecidableEq, Repr

/-- The classification of a model: the provider it is reached through and its upstream id. -/
structure ModelIdentity where
  accessProviderId : String
  upstreamModelId : String
  modelFamily : Option String
deriving DecidableEq, Repr

/-- The reviewed operational limits of a model. -/
structure ModelLimits where
  contextWindow : Option ℕ
  maxOutput : Option ℕ
deriving DecidableEq, Repr

/-- The reviewed compatibility state and what backs it. -/
structure CompatibilityEvidence where
  state : CompatibilityState
  baseline : String
  evidenceRef : String
  checkedAt : String
  claimRef : Option String
deriving DecidableEq, Repr

/-- One row of the registry. -/
structure ModelEvidence where
  logicalId : String
  identity : ModelIdentity
  verifiedAt : String
  fixtureVersion : String
  capabilities : ProviderCapabilities
  limits : ModelLimits
  reasoning : ReasoningCapabilityEvidence
  compatibility : CompatibilityEvidence
deriving DecidableEq, Repr

/-- The registry document. -/
structure RegistryDocument where
  registryRevision : ℕ
  models : List ModelEvidence
deriving DecidableEq, Repr

/-- Reasoning evidence that only follows from the capability: an on/off control. -/
def conservativeReasoning (capabilities : ProviderCapabilities) : ReasoningCapabilityEvidence where
  supported := capabilities.reasoning
  controlKind := if capabilities.reasoning then .binary else .none
  effortLevels := none
  adaptive := false
  tokenBudget := false
  reasoningWithTools := false

/-- The state a review backs a model with; what is left out has a default. -/
structure ReviewedCompatibility where
  state : Option CompatibilityState
  baseline : Option String
  evidenceRef : String
  checkedAt : Option String
  claimRef : Option String

/-- What a row is made from. -/
structure ReviewedModelInput where
  accessProviderId : String
  upstreamModelId : String
  modelFamily : Option String
  verifiedAt : String
  fixtureVersion : String
  capabilities : ProviderCapabilities
  compatibility : Option ReviewedCompatibility
  limits : Option ModelLimits
  reasoning : Option ReasoningCapabilityEvidence

/-- The row of a reviewed model. -/
def reviewedModel (input : ReviewedModelInput) : ModelEvidence :=
  let compatibility := input.compatibility.getD ⟨none, none, input.fixtureVersion, none, none⟩
  { logicalId := input.accessProviderId ++ "/" ++ input.upstreamModelId
    identity := ⟨input.accessProviderId, input.upstreamModelId, input.modelFamily⟩
    verifiedAt := input.verifiedAt
    fixtureVersion := input.fixtureVersion
    capabilities := input.capabilities
    limits := input.limits.getD ⟨none, none⟩
    reasoning := input.reasoning.getD (conservativeReasoning input.capabilities)
    compatibility :=
      { state := compatibility.state.getD .EXPERIMENTAL
        baseline := compatibility.baseline.getD "claude-code-fake-upstream"
        evidenceRef := compatibility.evidenceRef
        checkedAt := compatibility.checkedAt.getD input.verifiedAt
        claimRef := compatibility.claimRef } }

/-- The evidence of one exact provider and model, never matched by upstream id alone. -/
def findModelEvidence (registry : RegistryDocument) (providerId modelId : String) :
    Option ModelEvidence :=
  registry.models.find? fun model => model.logicalId = providerId ++ "/" ++ modelId

/-- A reviewed model is found under its own identity when no two rows share their logical id. -/
theorem findModelEvidence_of_reviewed {registry : RegistryDocument}
    (hreviewed : ∀ row ∈ registry.models, ∃ input, row = reviewedModel input)
    (hids : (registry.models.map (·.logicalId)).Nodup) {row : ModelEvidence}
    (hrow : row ∈ registry.models) :
    findModelEvidence registry row.identity.accessProviderId row.identity.upstreamModelId =
      some row := by
  have hid : row.logicalId =
      row.identity.accessProviderId ++ "/" ++ row.identity.upstreamModelId := by
    obtain ⟨input, rfl⟩ := hreviewed row hrow
    rfl
  obtain ⟨found, hfound, hmem, hsame⟩ := List.exists_find?_decide
    (p := fun model : ModelEvidence => model.logicalId =
      row.identity.accessProviderId ++ "/" ++ row.identity.upstreamModelId) hrow hid
  have hrows : found = row := List.inj_on_of_nodup_map hids hmem hrow (hsame.trans hid.symm)
  rw [← hrows]
  exact hrows ▸ hfound

/-- The rows of one access provider. -/
def modelsForProvider (registry : RegistryDocument) (providerId : String) : List ModelEvidence :=
  registry.models.filter fun model => model.identity.accessProviderId = providerId

theorem mem_of_mem_modelsForProvider {registry : RegistryDocument} {providerId : String}
    {model : ModelEvidence} (h : model ∈ modelsForProvider registry providerId) :
    model ∈ registry.models :=
  (List.mem_filter.1 h).1

end RlyGateway
