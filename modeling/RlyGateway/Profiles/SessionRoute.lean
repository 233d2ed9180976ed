import RlyGateway.Profiles.Activation
import RlyGateway.Profiles.AgentContexts
import RlyGateway.Providers.Dispatch
import RlyGateway.Providers.ReasoningTranslation
import RlyGateway.Routing.ModelTiers

/-!
# Profile routes

`src/profiles/resolve-route.ts`: the route of a request under a launch session. The policy is the
current one with the session's frozen profile, pool and provider over it; the model follows from the
intent of the request, and the pool that is executed is looked up in that policy.
-/

namespace RlyGateway

/-! ## Policies and sessions -/

/-- A provider with how it is reached. -/
structure ConfiguredProvider where
  id : String
  name : String
  integrationMode : IntegrationMode
  endpointPolicy : Option String
  requiredTermsRevision : Option String
  enabled : Bool

/-- A compiled policy, as profile routes read it. -/
structure ProfilePolicy where
  revision : ℕ
  hash : String
  profiles : List ProfileRecord
  pools : List PoolRecord
  providers : List ConfiguredProvider
  accounts : List AccountRecord

/-- The profile that is frozen with a session. -/
structure FrozenProfile where
  id : String
  name : String
  harness : String
  modelRoles : OrderedMap String String
  capabilityPolicy : Option Json
  launchPolicy : Option Json

/-- The provider that is frozen with a session, with how it is reached. -/
structure FrozenAccess extends FrozenProvider where
  integrationMode : IntegrationMode
  endpointPolicy : Option String

/-- What is frozen when a session is issued. -/
structure SessionBinding where
  profile : FrozenProfile
  pool : FrozenPool
  provider : FrozenAccess

structure ProfileSession where
  profileId : String
  profileName : String
  leaseId : String
  binding : SessionBinding

/-- `sessionPolicySnapshot` of `src/runtime/gateway-server.ts`: the pool and the provider are those of
the current policy. -/
def sessionPolicySnapshot (policy : Option ProfilePolicy) (profile : ProfileRecord) :
    SessionBinding :=
  let pool := policy.bind fun policy => policy.pools.find? fun pool => profile.poolId = some pool.id
  let provider := pool.bind fun pool =>
    policy.bind fun policy => policy.providers.find? (·.id = pool.providerId)
  { profile := ⟨profile.id, profile.name, profile.harness, profile.modelRoles,
      profile.capabilityPolicy, profile.launchPolicy⟩
    pool := pool.elim ⟨"", "", "", .fillFirst, .null, 0, []⟩ fun pool =>
      ⟨pool.id, pool.name, pool.providerId, pool.strategy, pool.affinity, pool.retryBudget,
        pool.memberships.map (·.accountId)⟩
    provider := provider.elim ⟨⟨"", "", false⟩, .direct, none⟩ fun provider =>
      ⟨⟨provider.id, provider.name, provider.enabled⟩, provider.integrationMode,
        provider.endpointPolicy⟩ }

/-- A session as it is issued for a profile. -/
def issueSession (policy : Option ProfilePolicy) (profile : ProfileRecord) (leaseId : String) :
    ProfileSession :=
  ⟨profile.id, profile.name, leaseId, sessionPolicySnapshot policy profile⟩

namespace SessionBinding

def frozenProfile (binding : SessionBinding) : ProfileRecord :=
  ⟨binding.profile.id, binding.profile.name, binding.profile.harness, some binding.pool.id,
    binding.profile.modelRoles, binding.profile.capabilityPolicy, binding.profile.launchPolicy⟩

def frozenProvider (binding : SessionBinding) : ConfiguredProvider :=
  ⟨binding.provider.id, binding.provider.name, binding.provider.integrationMode,
    binding.provider.endpointPolicy, none, binding.provider.enabled⟩

end SessionBinding

/-- `applySessionBinding`: the frozen profile, pool and provider over the current policy. -/
def applyProfileBinding (policy : ProfilePolicy) (session : ProfileSession) : ProfilePolicy :=
  { policy with
    profiles := upsert (·.id) policy.profiles session.binding.frozenProfile
    pools := upsert (·.id) policy.pools session.binding.pool.record
    providers := upsert (·.id) policy.providers session.binding.frozenProvider }

/-! ## The model of a request -/

/-- What a profile route is resolved with, apart from the current policy. -/
structure ProfileRouteDependencies where
  registry : RegistryDocument
  compatibility : Option EffectiveCompatibilityRegistry
  required : List CapabilityRequirement
  agentContexts : Option AgentExecutionContextRegistry

/-- A selector that cannot be classified leaves its role unmapped. -/
def classifyIntentForRequest (selector : String) : Except ProfileRouteError ModelIntent :=
  (classifyModelIntent selector).mapError fun error => .activation .roleUnmapped
    ("Model intent classification failed (" ++ error.code ++ ": " ++ selector ++ ")") none none none
    (some error.code)

/-- The roles of a profile in the order in which they give the parent model of a tier. -/
def PARENT_ROLE_ORDER : List String := ["primary", "reasoning", "fast"] ++ LOGICAL_TIERS.map (·.name)

def parentModelForProfile (modelRoles : OrderedMap String String) : Option String :=
  PARENT_ROLE_ORDER.findSome? modelRoles.get?

/-- The role and the model that an intent is resolved to, and the resolution of a tier. -/
structure IntentResolution where
  role : String
  modelId : String
  tierResolution : Option TierResolutionTrace

def resolveTierForRequest (dependencies : ProfileRouteDependencies) (tier : LogicalTier)
    (canonical : CanonicalRequest) (providerName : String) (profile : ProfileRecord)
    (parent : Option ExecutionContext) (effective : Option EffectiveSnapshot) :
    Except ProfileRouteError IntentResolution :=
  let context : TierResolutionContext :=
    ⟨tier, providerName,
      (parent.map (·.resolvedModelId)).or (parentModelForProfile profile.modelRoles),
      parent.bind (·.modelFamily), profile.modelRoles.get? tier.name, false, false⟩
  match resolveTier context ⟨dependencies.registry, defaultTierMapping, dependencies.required,
      reasoningRequirementFrom canonical dependencies.required, false, effective, none⟩ with
  | .ok resolution =>
      .ok ⟨tier.name, resolution.model.identity.upstreamModelId, some resolution.trace⟩
  | .error error => .error (.activation .tierUnavailable
      ("Tier resolution failed (" ++ error.code.name ++ ": " ++ providerName ++ "/" ++ tier.name ++
        ")") none (some error.code.name) (some error.causeCode) none)

/-- A role of the profile for a requested model. -/
def roleOrUnmapped (resolved : Option (String × String)) :
    Except ProfileRouteError IntentResolution :=
  match resolved with
  | some (role, modelId) => .ok ⟨role, modelId, none⟩
  | none => .error (.ofCode .roleUnmapped)

def resolveModelIntent (runtime : NodeRuntime) (dependencies : ProfileRouteDependencies)
    (intent : ModelIntent) (canonical : CanonicalRequest) (providerName : String)
    (profile : ProfileRecord) (parent : Option ExecutionContext)
    (effective : Option EffectiveSnapshot) : Except ProfileRouteError IntentResolution :=
  match intent.kind with
  | .rlyLogicalTier tier =>
      resolveTierForRequest dependencies tier canonical providerName profile parent effective
  | .clientNativeAlias tier =>
      resolveTierForRequest dependencies tier canonical providerName profile parent effective
  | .exactProjection projectionId => .error (.activation .modelUnavailable
      ("Projection selector reached profile resolution (" ++ projectionId ++ ")") none none none
        none)
  | .exactClientModel modelId =>
      roleOrUnmapped (resolveProfileRole runtime modelId profile.modelRoles)
  | .default => roleOrUnmapped (resolveProfileRole runtime "primary" profile.modelRoles)
  | .inherit =>
      roleOrUnmapped (((parent.map (·.resolvedModelId)).or
        (profile.modelRoles.get? "primary")).map fun modelId =>
          (((parent.bind (·.effectiveTier)).map (·.name)).getD "primary", modelId))

/-! ## The route -/

/-- The launchable profile of a session and the pool and provider that it leads to. -/
structure RouteTarget where
  launchable : LaunchableProfile
  pool : PoolRecord
  provider : ConfiguredProvider

/-- A resolved route, and the pool that a request under it is executed with. -/
structure ResolvedProfileRoute where
  role : String
  /-- The provider by name, as the route decision has it. -/
  providerId : String
  modelId : String
  adapterId : String
  capabilities : ProviderCapabilities
  reasoningEvidence : ReasoningCapabilityEvidence
  resolvedReasoning : ResolvedReasoning
  tierResolution : Option TierResolutionTrace
  provider : ConfiguredProvider
  pool : Option PoolRecord
  members : List AccountRecord
  sessionKey : String

/-- The profile of the session by its name, its pool and its provider. -/
def routeTarget (policy : ProfilePolicy) (session : ProfileSession) :
    Except ProfileRouteError RouteTarget := do
  let launchable ← inspectLaunchableProfile policy.profiles
    (currentName policy.profiles session.profileId session.profileName)
  match policy.pools.find? (·.id = launchable.poolId) with
  | none => .error (.ofCode .profileHasNoPool)
  | some pool =>
      match policy.providers.find? (·.id = pool.providerId) with
      | none => .error (.ofCode .profileHasNoPool)
      | some provider => .ok ⟨launchable, pool, provider⟩

/-- The model of a request, its native reasoning, and the role that it has. -/
structure RouteModel where
  resolution : IntentResolution
  model : ModelEvidence
  resolvedReasoning : ResolvedReasoning

def translationFailure (providerName modelId : String) (error : ReasoningTranslationError) :
    ProfileRouteError :=
  .activation .capabilityRejected
    ("Reasoning translation failed (" ++ error.code.name ++ ": " ++ providerName ++ "/" ++ modelId ++
      ")")
    (some (match error.code with
      | .noBudgetPolicy => "reasoning-budget-policy-missing"
      | .unsupportedReasoning => "reasoning-translation-unsupported")) none none none

/-- From the intent of a request to the exact model: nothing of the policy is read but the profile and
the name of the provider. -/
def routeModel (runtime : NodeRuntime) (dependencies : ProfileRouteDependencies)
    (canonical : CanonicalRequest) (session : ProfileSession) (target : RouteTarget) :
    Except ProfileRouteError RouteModel := do
  let parent := resolveParentExecutionReference canonical.agent session.leaseId
    dependencies.agentContexts
  let intent ← classifyIntentForRequest canonical.requestedModel
  let effective ← (effectiveSnapshotFor runtime
    ⟨none, dependencies.registry, dependencies.compatibility, dependencies.required⟩
    target.provider.name canonical).mapError .stores
  let resolution ← resolveModelIntent runtime dependencies intent canonical target.provider.name
    target.launchable.profile parent effective
  let selection ← (selectModelForRequest resolution.modelId target.provider.name
    dependencies.required canonical dependencies.registry effective
    (dependencies.compatibility.bind (·.policy.allowQuarantineBypass))).mapError fun failure =>
      .activation failure.code failure.message (failure.modelFailure.map (·.name)) none none none
  let reasoning := canonical.inference.reasoning.getD (reasoningRequestFromWire none none)
  let resolvedReasoning ← (resolveReasoning reasoning selection.model.reasoning
    ⟨none, false⟩).mapError
      (translationFailure target.provider.name selection.model.identity.upstreamModelId)
  return ⟨resolution, selection.model, resolvedReasoning⟩

def resolveProfileRoute (runtime : NodeRuntime) (dependencies : ProfileRouteDependencies)
    (policy : Option ProfilePolicy) (canonical : CanonicalRequest) (session : ProfileSession) :
    Except ProfileRouteError ResolvedProfileRoute := do
  match policy with
  | none => .error (.ofCode .profileNotFound)
  | some policy =>
      let sessionPolicy := applyProfileBinding policy session
      let target ← routeTarget sessionPolicy session
      let resolved ← routeModel runtime dependencies canonical session target
      let activated ← activateProfile sessionPolicy.profiles
        ⟨session.profileName, session.profileId, dependencies.required,
          resolved.model.capabilities, resolved.resolution.role, resolved.resolution.modelId⟩
      let adapterId ← (ProviderCatalog.adapterIdForProvider target.provider.name
        target.provider.integrationMode).mapError .adapter
      let missing := missingCapabilities activated.capabilities dependencies.required
      if missing ≠ [] then .error (.unsupportedRoute missing)
      else
        return {
          role := activated.role
          providerId := target.provider.name
          modelId := activated.modelId
          adapterId
          capabilities := activated.capabilities
          reasoningEvidence := resolved.model.reasoning
          resolvedReasoning := resolved.resolvedReasoning
          tierResolution := resolved.resolution.tierResolution
          provider := target.provider
          pool := sessionPolicy.pools.find? (·.id = activated.poolId)
          members := sessionPolicy.accounts.filter fun account =>
            target.pool.memberships.any (·.accountId = account.id)
          sessionKey := session.leaseId }

end RlyGateway
