import RlyGateway.ControlPlane.CompiledPolicy
import RlyGateway.Providers.HttpFailure

/-!
# The control-plane store

The mutations of `ControlPlaneStore`. Each runs as one transaction that checks the version it was
made for, does its work, compiles the next policy revision and appends an audit event. A mutation
that fails is taken back, and an event for its rejection is appended instead.
-/

namespace RlyGateway

open EStateM MonadExcept

/-! ## The platform -/

/-- What a store takes from the platform, in the order in which it is taken: the identifiers of
`randomUUID`, of which no two are equal, and the readings of the clock. -/
structure StorePlatform where
  runtime : NodeRuntime
  uuid : ℕ → String
  uuid_injective : Function.Injective uuid
  clock : ℕ → ℤ

/-- What one call takes from the platform. -/
structure CallContext where
  runtime : NodeRuntime
  uuid : String
  auditId : String
  rejectionId : String
  now : String
  compiledAt : String
  auditedAt : String
  rejectedAt : String

/-- What the call with a number takes. -/
def StorePlatform.context (platform : StorePlatform) (n : ℕ) : CallContext where
  runtime := platform.runtime
  uuid := platform.uuid (3 * n)
  auditId := platform.uuid (3 * n + 1)
  rejectionId := platform.uuid (3 * n + 2)
  now := platform.runtime.isoString (platform.clock (4 * n))
  compiledAt := platform.runtime.isoString (platform.clock (4 * n + 1))
  auditedAt := platform.runtime.isoString (platform.clock (4 * n + 2))
  rejectedAt := platform.runtime.isoString (platform.clock (4 * n + 3))

/-! ## Inputs -/

structure CreateProviderInput where
  name : String
  integrationMode : IntegrationMode
  endpointPolicy : Option String
  capabilityEvidence : Option ProviderCapabilityEvidence
  requiredTermsRevision : Option String
  provenanceRef : Option String

structure UpdateProviderInput where
  name : Option String
  integrationMode : Option IntegrationMode
  endpointPolicy : Option String
  capabilityEvidence : Option ProviderCapabilityEvidence
  requiredTermsRevision : Option String
  provenanceRef : Option String
  enabled : Option Bool

structure CreateAccountInput where
  pseudonym : String
  providerId : String
  credentialHandle : String
  state : Option AccountState
  quotaClass : Option String

structure UpdateAccountInput where
  state : Option AccountState
  pauseReason : Option String
  quotaClass : Option String

structure BindCredentialInput where
  credentialHandle : String
  credentialGeneration : ℤ
  state : AccountState

structure CreatePoolInput where
  name : String
  providerId : String
  strategy : PoolStrategy
  affinity : Option Json
  retryBudget : Option ℤ
  accountIds : Option (List String)

structure UpdatePoolInput where
  name : Option String
  strategy : Option PoolStrategy
  affinity : Option Json
  retryBudget : Option ℤ
  accountIds : Option (List String)

structure CreateProfileInput where
  name : String
  harness : HarnessName
  providerId : Option String
  poolId : Option String
  modelRoles : OrderedMap String String
  capabilityPolicy : Option Json
  launchPolicy : Option Json

structure UpdateProfileInput where
  name : Option String
  harness : Option HarnessName
  providerId : Option String
  poolId : Option String
  modelRoles : Option (OrderedMap String String)
  capabilityPolicy : Option Json
  launchPolicy : Option Json

/-- An optional value that `??` takes: `null` counts as absent. -/
def definedJson (value : Option Json) : Option Json := value.filter (· ≠ .null)

/-! ## Checks -/

def requiredName (value : String) : Except StoreError String :=
  let trimmed := trimChars value.toList
  if trimmed = [] then .error (.validation "name is required") else .ok (String.ofList trimmed)

/-- The roles a profile may give a model for. -/
def MODEL_ROLES : List String :=
  ["primary", "fast", "reasoning", "haiku", "sonnet", "opus", "fable"]

def validateModelRoles (roles : OrderedMap String String) :
    Except StoreError (OrderedMap String String) := do
  let parsed ← parseJsonObject roles
  if parsed.keys.any fun key => key ∉ MODEL_ROLES then
    throw (.validation ("profile model roles must be primary, fast, reasoning, or a logical tier " ++
      "(haiku/sonnet/opus/fable)"))
  else if parsed.keys = [] then throw (.validation "profile requires at least one model role")
  else return parsed

def assertProfileRefs (providerId poolId : Option String) : Transaction Unit := do
  if providerId = none ∧ poolId = none then
    throw (.validation "profile requires a provider or pool")
  providerId.forM fun id => discard (providerById id)
  poolId.forM fun id => discard (poolById id)
  match providerId, poolId with
  | some provider, some id =>
      let pool ← poolById id
      if pool.providerId ≠ provider then
        throw (.validation "profile pool must belong to the selected provider")
  | _, _ => return

/-! ## Transactions -/

/-- A record with an id and a version. -/
class StoredRecord (α : Type) where
  id : α → String
  version : α → ℕ

instance : StoredRecord ProviderRow := ⟨(·.id), (·.version)⟩

instance : StoredRecord AccountRow := ⟨(·.id), (·.version)⟩

instance : StoredRecord StoredPool := ⟨(·.id), (·.version)⟩

instance : StoredRecord ProfileRow := ⟨(·.id), (·.version)⟩

namespace ControlPlaneStore

variable (context : CallContext) (actor : ManagementActor)

def appendAudit (auditId createdAt action : String) (resourceType : ResourceType)
    (resourceId : Option String) (result : AuditResult) (metadata : Json) : Transaction Unit :=
  insertAuditEvent
    { id := auditId
      action
      resourceType
      resourceId
      actor
      result
      metadataJson := (canonicalize context.runtime metadata).stringify
      createdAt }

/-- The version check of `mutate`, where it expects a version. -/
def checkExpected (resource : ResourceType) (expectedId : Option String)
    (expectedVersion : Option ℕ) : Transaction Unit :=
  match expectedId, expectedVersion with
  | some id, some version => assertCurrentVersion resource id version
  | _, _ => return

/-- The policy of `mutate`, where it publishes one. -/
def publish (publishPolicy : Bool) : Transaction Unit :=
  if publishPolicy then discard (compilePolicy context.runtime context.compiledAt) else return

def mutate {α : Type} [StoredRecord α] (action : String) (resource : ResourceType)
    (expectedId : Option String) (expectedVersion : Option ℕ) (publishPolicy : Bool)
    (work : Transaction α) : Transaction α :=
  reported
    (fun error =>
      appendAudit context actor context.rejectionId context.rejectedAt action resource expectedId
        .rejected (.obj [("code", .str error.name)]))
    do
      checkExpected resource expectedId expectedVersion
      let result ← work
      publish context publishPolicy
      appendAudit context actor context.auditId context.auditedAt action resource
        (some (StoredRecord.id result)) .ok (.obj [("version", .num (StoredRecord.version result))])
      return result

/-! ## Providers -/

def createProvider (input : CreateProviderInput) : Transaction ProviderRow :=
  mutate context actor "provider.create" .provider none none true do
    let name ← ofExcept (requiredName input.name)
    let record : ProviderRow :=
      { id := context.uuid
        name
        integrationMode := input.integrationMode
        endpointPolicy := input.endpointPolicy
        capabilityEvidence := input.capabilityEvidence
        requiredTermsRevision := input.requiredTermsRevision
        provenanceRef := input.provenanceRef
        enabled := true
        version := 1
        createdAt := context.now
        updatedAt := context.now }
    insertProvider record
    return record

def updateProvider (id : String) (version : ℕ) (input : UpdateProviderInput) :
    Transaction ProviderRow :=
  mutate context actor "provider.update" .provider (some id) (some version) true do
    let current ← providerById id
    let name ← ofExcept (input.name.elim (.ok current.name) requiredName)
    let next : ProviderRow :=
      { current with
        name
        integrationMode := input.integrationMode.getD current.integrationMode
        endpointPolicy := input.endpointPolicy.or current.endpointPolicy
        capabilityEvidence := input.capabilityEvidence.or current.capabilityEvidence
        requiredTermsRevision := input.requiredTermsRevision.or current.requiredTermsRevision
        provenanceRef := input.provenanceRef.or current.provenanceRef
        enabled := input.enabled.getD current.enabled
        version := current.version + 1
        updatedAt := context.now }
    replaceProvider current next
    return next

/-! ## Accounts -/

def bindCredential (id : String) (version : ℕ) (input : BindCredentialInput) :
    Transaction AccountRow :=
  mutate context actor "account.bind-credential" .account (some id) (some version) true do
    let current ← accountById id
    let credentialHandle ← ofExcept (requiredName input.credentialHandle)
    let next : AccountRow :=
      { current with
        credentialHandle
        credentialGeneration := input.credentialGeneration.toNat
        state := input.state
        pauseReason := if input.state = .paused then current.pauseReason else none
        version := current.version + 1
        updatedAt := context.now }
    if input.credentialGeneration < 0 then
      throw (.validation "credential generation must be >= 0")
    replaceAccount current next
    return next

def createAccount (input : CreateAccountInput) : Transaction AccountRow :=
  mutate context actor "account.create" .account none none true do
    let _ ← providerById input.providerId
    let pseudonym ← ofExcept (requiredName input.pseudonym)
    let credentialHandle ← ofExcept (requiredName input.credentialHandle)
    let record : AccountRow :=
      { id := context.uuid
        pseudonym
        providerId := input.providerId
        credentialHandle
        credentialGeneration := 0
        state := input.state.getD .unready
        pauseReason := none
        quotaClass := input.quotaClass.getD "unknown"
        cooldownUntil := none
        termsRevision := none
        termsAcknowledgedRevision := none
        version := 1
        createdAt := context.now
        updatedAt := context.now }
    insertAccount record
    insertAccountHealth record.id
    return record

def updateAccount (id : String) (version : ℕ) (input : UpdateAccountInput) :
    Transaction AccountRow :=
  mutate context actor "account.update" .account (some id) (some version) true do
    let current ← accountById id
    let state := input.state.getD current.state
    let next : AccountRow :=
      { current with
        state
        pauseReason := if state = .paused then input.pauseReason.or current.pauseReason else none
        quotaClass := input.quotaClass.getD current.quotaClass
        version := current.version + 1
        updatedAt := context.now }
    replaceAccount current next
    return next

def acknowledgeTerms (id : String) (version : ℕ) (termsRevision : String) :
    Transaction AccountRow :=
  mutate context actor "account.acknowledge-terms" .account (some id) (some version) true do
    let current ← accountById id
    let provider ← providerById current.providerId
    let revision ← ofExcept (requiredName termsRevision)
    if ∃ required ∈ provider.requiredTermsRevision, required ≠ revision then
      throw (.validation "terms revision does not match the provider requirement")
    upsertTermsAcknowledgement current.id current.providerId revision context.now
    let next : AccountRow :=
      { current with
        termsRevision := some revision
        termsAcknowledgedRevision := some revision
        version := current.version + 1
        updatedAt := context.now }
    replaceAccount current next
    return next

/-! ## Pools -/

def createPool (input : CreatePoolInput) : Transaction StoredPool :=
  mutate context actor "pool.create" .pool none none true do
    let provider ← providerById input.providerId
    let name ← ofExcept (requiredName input.name)
    let retryBudget := input.retryBudget.getD 1
    let record : PoolRow :=
      { id := context.uuid
        name
        providerId := provider.id
        strategy := input.strategy
        affinity := input.affinity
        retryBudget := retryBudget.toNat
        version := 1
        createdAt := context.now
        updatedAt := context.now }
    if retryBudget < 0 then throw (.validation "retry budget must be >= 0")
    insertPool record
    replaceMemberships record.id record.providerId (input.accountIds.getD [])
    poolById record.id

def updatePool (id : String) (version : ℕ) (input : UpdatePoolInput) : Transaction StoredPool :=
  mutate context actor "pool.update" .pool (some id) (some version) true do
    let current ← poolById id
    let retryBudget := input.retryBudget.getD current.retryBudget
    if retryBudget < 0 then throw (.validation "retry budget must be >= 0")
    let name ← ofExcept (input.name.elim (.ok current.name) requiredName)
    replacePool current
      { name
        strategy := input.strategy.getD current.strategy
        affinity := (definedJson input.affinity).or current.affinity
        retryBudget := retryBudget.toNat
        version := current.version + 1
        updatedAt := context.now }
    input.accountIds.forM (replaceMemberships current.id current.providerId)
    poolById current.id

/-! ## Profiles -/

def createProfile (input : CreateProfileInput) : Transaction ProfileRow :=
  mutate context actor "profile.create" .profile none none true do
    assertProfileRefs input.providerId input.poolId
    let name ← ofExcept (requiredName input.name)
    let modelRoles ← ofExcept (validateModelRoles input.modelRoles)
    let record : ProfileRow :=
      { id := context.uuid
        name
        harness := input.harness
        providerId := input.providerId
        poolId := input.poolId
        modelRoles
        capabilityPolicy := input.capabilityPolicy
        launchPolicy := input.launchPolicy
        version := 1
        createdAt := context.now
        updatedAt := context.now }
    insertProfile record
    return record

def updateProfile (id : String) (version : ℕ) (input : UpdateProfileInput) :
    Transaction ProfileRow :=
  mutate context actor "profile.update" .profile (some id) (some version) true do
    let current ← profileById id
    let providerId := input.providerId.or current.providerId
    let poolId := input.poolId.or current.poolId
    assertProfileRefs providerId poolId
    let name ← ofExcept (input.name.elim (.ok current.name) requiredName)
    let modelRoles ← ofExcept (input.modelRoles.elim (.ok current.modelRoles) validateModelRoles)
    let next : ProfileRow :=
      { current with
        name
        harness := input.harness.getD current.harness
        providerId
        poolId
        modelRoles
        capabilityPolicy := (definedJson input.capabilityPolicy).or current.capabilityPolicy
        launchPolicy := (definedJson input.launchPolicy).or current.launchPolicy
        version := current.version + 1
        updatedAt := context.now }
    replaceProfile current next
    return next

/-! ## Route outcomes -/

/-- No version is expected, and no policy is published. -/
def recordRouteOutcome (accountId : String) (input : StoreOutcomeInput) : Transaction AccountRow :=
  mutate context actor "route.outcome" .account (some accountId) none false do
    let current ← accountById accountId
    let health := (← healthById accountId).getD ⟨⟨accountId, none⟩, none, none, 0⟩
    let success : Bool := input.outcome = .success
    let cooldownUntil := input.cooldownUntil.resolve current.cooldownUntil
    let next : AccountRow :=
      { current with
        quotaClass := input.quotaClass.getD current.quotaClass
        cooldownUntil := if success then none else cooldownUntil
        version := current.version + 1
        updatedAt := context.now }
    replaceAccount current next
    replaceHealth
      { accountId
        lastOutcome := some input.outcome
        lastOutcomeAt := some context.now
        consecutiveFailures := if success then 0 else health.consecutiveFailures + 1
        cooldownUntil := if success then none else cooldownUntil }
    return next

end ControlPlaneStore

/-! ## Calls -/

/-- A mutation with its inputs. -/
inductive StoreCall where
  | createProvider (input : CreateProviderInput)
  | updateProvider (id : String) (version : ℕ) (input : UpdateProviderInput)
  | bindCredential (id : String) (version : ℕ) (input : BindCredentialInput)
  | createAccount (input : CreateAccountInput)
  | updateAccount (id : String) (version : ℕ) (input : UpdateAccountInput)
  | acknowledgeTerms (id : String) (version : ℕ) (termsRevision : String)
  | createPool (input : CreatePoolInput)
  | updatePool (id : String) (version : ℕ) (input : UpdatePoolInput)
  | createProfile (input : CreateProfileInput)
  | updateProfile (id : String) (version : ℕ) (input : UpdateProfileInput)
  | recordRouteOutcome (accountId : String) (input : StoreOutcomeInput)

/-- What a mutation returns. -/
inductive StoreReply where
  | provider (record : ProviderRow)
  | account (record : AccountRow)
  | pool (record : StoredPool)
  | profile (record : ProfileRow)

/-- A mutation on behalf of an actor. -/
structure StoreRequest where
  actor : ManagementActor
  call : StoreCall

/-- The transaction of a request. -/
def StoreRequest.transaction (context : CallContext) (request : StoreRequest) :
    Transaction StoreReply :=
  let actor := request.actor
  match request.call with
  | .createProvider input => .provider <$> ControlPlaneStore.createProvider context actor input
  | .updateProvider id version input =>
      .provider <$> ControlPlaneStore.updateProvider context actor id version input
  | .bindCredential id version input =>
      .account <$> ControlPlaneStore.bindCredential context actor id version input
  | .createAccount input => .account <$> ControlPlaneStore.createAccount context actor input
  | .updateAccount id version input =>
      .account <$> ControlPlaneStore.updateAccount context actor id version input
  | .acknowledgeTerms id version termsRevision =>
      .account <$> ControlPlaneStore.acknowledgeTerms context actor id version termsRevision
  | .createPool input => .pool <$> ControlPlaneStore.createPool context actor input
  | .updatePool id version input =>
      .pool <$> ControlPlaneStore.updatePool context actor id version input
  | .createProfile input => .profile <$> ControlPlaneStore.createProfile context actor input
  | .updateProfile id version input =>
      .profile <$> ControlPlaneStore.updateProfile context actor id version input
  | .recordRouteOutcome accountId input =>
      .account <$> ControlPlaneStore.recordRouteOutcome context actor accountId input

/-- The tables, and how many calls were served. -/
structure StoreState where
  database : Database
  served : ℕ

/-- What a request leads to: a reply or an error, and the tables. -/
def StorePlatform.outcome (platform : StorePlatform) (state : StoreState) (request : StoreRequest) :
    Result StoreError Database StoreReply :=
  request.transaction (platform.context state.served) state.database

/-- The tables a call left, whether it succeeded or not. -/
def tablesOf {α : Type} : Result StoreError Database α → Database
  | .ok _ db => db
  | .error _ db => db

/-- The state after a request. -/
def StorePlatform.serve (platform : StorePlatform) (state : StoreState) (request : StoreRequest) :
    StoreState :=
  ⟨tablesOf (platform.outcome state request), state.served + 1⟩

/-- The state after requests of any clients, in the order in which they were served. -/
def StorePlatform.after (platform : StorePlatform) (requests : List StoreRequest) : StoreState :=
  requests.foldl platform.serve ⟨.empty, 0⟩

/-- Texts that differ in length differ. -/
theorem injective_ofList_replicate (c : Char) :
    Function.Injective fun n : ℕ => String.ofList (List.replicate (n + 1) c) := by
  intro n m h
  have hlength := congrArg List.length (String.ofList_injective h)
  rw [List.length_replicate, List.length_replicate] at hlength
  omega

/-- A platform that counts its identifiers and its milliseconds. -/
def countingPlatform : StorePlatform where
  runtime := isoRuntime
  uuid n := String.ofList (List.replicate (n + 1) 'u')
  uuid_injective := injective_ofList_replicate 'u'
  clock n := n

end RlyGateway
