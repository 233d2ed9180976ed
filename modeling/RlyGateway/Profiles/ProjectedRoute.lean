import RlyGateway.ControlPlane.Types
import RlyGateway.Core.CanonicalRequest
import RlyGateway.Routing.ModelProjection

/-!
# Projected routes

From a projection id to its exact model: the reverse mapping in the universe of the session, the pool
and the provider of its binding under the session's frozen policy, and the exact selection with the
answers for what the request demands.
-/

namespace RlyGateway

variable (runtime : NodeRuntime)

/-! ## Failures -/

/-- The codes of an activation failure. -/
inductive ProfileActivationCode where
  | profileNotFound
  | profileNotClaude
  | profileHasNoPool
  | roleUnmapped
  | capabilityRejected
  | invalidLaunchPolicy
  | tierUnavailable
  | modelUnavailable
deriving DecidableEq, Repr

/-- An activation failure, with the failure of a model selection behind it. -/
structure ProfileActivationError where
  code : ProfileActivationCode
  message : String
  modelFailure : Option ModelSelectionFailure
deriving DecidableEq, Repr

/-- What ends a resolution: a typed failure, or what the compatibility stores raise. -/
inductive RouteResolutionError where
  | activation (failure : ProfileActivationError)
  | stores (message : String)
deriving DecidableEq, Repr

/-! ## Sessions -/

/-- The pool that is frozen with a session. -/
structure FrozenPool where
  id : String
  name : String
  providerId : String
  strategy : PoolStrategy
  affinity : Json
  retryBudget : ℕ
  accountIds : List String

/-- The provider that is frozen with a session. -/
structure FrozenProvider where
  id : String
  name : String
  enabled : Bool

/-- The execution target that is frozen with a session. -/
structure SessionPolicySnapshot where
  pool : FrozenPool
  provider : FrozenProvider

/-- A launch session. -/
structure LaunchSession where
  profileId : String
  profileName : String
  modelUniverse : ModelUniverseSnapshot
  binding : SessionPolicySnapshot

/-- The frozen pool as a record. -/
def FrozenPool.record (pool : FrozenPool) : PoolRecord :=
  ⟨pool.id, pool.name, pool.providerId, pool.strategy, pool.affinity, pool.retryBudget,
    pool.accountIds.map (⟨·, none⟩)⟩

/-- The frozen provider as a record. -/
def FrozenProvider.record (provider : FrozenProvider) : ProviderRecord :=
  ⟨provider.id, provider.name, none, provider.enabled⟩

/-- The items with a frozen one in place of that with its id. -/
def upsert {α : Type} (id : α → String) (items : List α) (frozen : α) : List α :=
  items.filter (id · ≠ id frozen) ++ [frozen]

/-- The policy with the frozen target of a session over it. -/
def applySessionBinding (policy : PolicyRevision) (session : LaunchSession) : PolicyRevision :=
  { policy with
    pools := upsert (·.id) policy.pools session.binding.pool.record
    providers := upsert (·.id) policy.providers session.binding.provider.record }

/-! ## The route -/

/-- What a route is resolved with: the current policy, the registry, the compatibility registry if
there is one, and the required capabilities. -/
structure ProjectedRouteDependencies where
  policy : Option PolicyRevision
  registry : RegistryDocument
  compatibility : Option EffectiveCompatibilityRegistry
  required : List CapabilityRequirement

/-- What a request demands of the reasoning of its model. -/
def reasoningRequirementFrom (request : CanonicalRequest) (required : List CapabilityRequirement) :
    Option ReasoningRequirement :=
  if request.inference.reasoning.any fun reasoning =>
      reasoning.intent ≠ .OFF ∧ reasoning.intent ≠ .AUTO then
    some ⟨true, if 0 < request.tools.length then some true else none⟩
  else if .reasoning ∈ required then some ⟨true, none⟩
  else none

/-- The answers for what a request demands of the models of a provider. -/
def effectiveSnapshotFor (dependencies : ProjectedRouteDependencies) (providerId : String)
    (request : CanonicalRequest) : Except String (Option EffectiveSnapshot) :=
  match dependencies.compatibility with
  | none => .ok none
  | some compatibility =>
      let features := requiredFeaturesForCapabilities dependencies.required
        (reasoningRequirementFrom request dependencies.required)
      (compatibility.snapshotForModels runtime (modelsForProvider dependencies.registry providerId)
        (fun _ => features) ⟨false, none⟩).map some

/-- What the selection for a request takes: the exact model, without an experimental opt-in. -/
def selectionInputFor (modelId providerId : String) (required : List CapabilityRequirement)
    (request : CanonicalRequest) : ModelSelectionInput :=
  ⟨providerId, none, some modelId, required, reasoningRequirementFrom request required, none⟩

/-- The exact selection for a request. -/
def selectModelForRequest (modelId providerId : String) (required : List CapabilityRequirement)
    (request : CanonicalRequest) (registry : RegistryDocument)
    (effective : Option EffectiveSnapshot) (allowQuarantineBypass : Option Bool) :
    Except ProfileActivationError ModelSelectionResult :=
  match selectModel (selectionInputFor modelId providerId required request) registry effective
      (allowQuarantineBypass.getD false) with
  | .ok result => .ok result
  | .error failure => .error ⟨.capabilityRejected, "Model selection failed (" ++ failure.code.name ++
      ": " ++ providerId ++ "/" ++ modelId ++ ")", some failure.code⟩

/-- The exact target of a projection id. -/
structure ProjectedTarget where
  projection : ModelProjection
  binding : ProviderPoolBinding
  pool : PoolRecord
  provider : ProviderRecord
  selection : ModelSelectionResult

/-- The pool and the provider of a binding, where both exist and the provider is enabled. -/
def boundTarget (policy : PolicyRevision) (binding : ProviderPoolBinding) :
    Option (PoolRecord × ProviderRecord) := do
  let pool ← policy.pools.find? (·.id = binding.poolId)
  let provider ← (policy.providers.find? (·.id = binding.providerId)).filter (·.enabled)
  some (pool, provider)

/-- The resolution of `resolveProjectedModelRoute`, up to the exact model. -/
def resolveProjectedModel (canonical : CanonicalRequest) (session : LaunchSession)
    (dependencies : ProjectedRouteDependencies) : Except RouteResolutionError ProjectedTarget :=
  -- the universe is projected by the static states here, without the effective answers
  match resolveProjection runtime canonical.requestedModel session.modelUniverse
      dependencies.registry none with
  | none => .error (.activation ⟨.modelUnavailable,
      "RLY projection model is not available in this session (" ++ canonical.requestedModel ++ ")",
      none⟩)
  | some (projection, binding, evidence) =>
      match dependencies.policy with
      | none => .error (.activation ⟨.profileNotFound, "Profile cannot be activated", none⟩)
      | some policy =>
          match boundTarget (applySessionBinding policy session) binding with
          | none => .error (.activation ⟨.modelUnavailable,
              "Projection target is no longer available (" ++ binding.providerName ++ "/" ++
                projection.upstreamModelId ++ ")", none⟩)
          | some (pool, provider) => do
              let effective ← (effectiveSnapshotFor runtime dependencies provider.name
                canonical).mapError .stores
              let selection ← (selectModelForRequest evidence.identity.upstreamModelId provider.name
                dependencies.required canonical dependencies.registry effective
                (dependencies.compatibility.bind (·.policy.allowQuarantineBypass))).mapError
                  .activation
              .ok ⟨projection, binding, pool, provider, selection⟩

/-- The answers that discovery lists models by. -/
def modelsSnapshot (registry : RegistryDocument)
    (compatibility : Option EffectiveCompatibilityRegistry) :
    Except String (Option EffectiveSnapshot) :=
  match compatibility with
  | none => .ok none
  | some compatibility =>
      (compatibility.snapshotForModels runtime registry.models featuresOfEvidence ⟨false, none⟩).map
        some

end RlyGateway
