import Mathlib.Data.List.Sort
import RlyGateway.ControlPlane.Tables
import RlyGateway.Library.Fallible

/-!
# The control-plane repository

The queries and the writes of `ControlPlaneRepository`. A row that is read is checked on the way:
texts that must not be empty, and values that must match a schema.
-/

namespace RlyGateway

open EStateM MonadExcept

/-! ## Checked reading -/

/-- A column that must hold a nonempty text. -/
def requireText (key value : String) : Except StoreError Unit :=
  if value = "" then .error (.validation ("invalid " ++ key)) else .ok ()

/-- `parseCapabilityEvidence`. -/
def parseCapabilityEvidence (evidence : Option ProviderCapabilityEvidence) :
    Except StoreError Unit :=
  if ∀ value ∈ evidence, value.Conforms then .ok ()
  else .error (.validation "stored capability evidence does not match the registry schema")

/-- `parseJsonObject`. Writing the property `__proto__` of the output has no effect. -/
def parseJsonObject (value : OrderedMap String String) :
    Except StoreError (OrderedMap String String) :=
  if "" ∈ value.values then .error (.validation "JSON object values must be strings")
  else .ok (value.erase "__proto__")

def mapProvider (row : ProviderRow) : Except StoreError ProviderRow := do
  requireText "id" row.id
  requireText "name" row.name
  parseCapabilityEvidence row.capabilityEvidence
  requireText "created_at" row.createdAt
  requireText "updated_at" row.updatedAt
  return row

def mapAccount (row : AccountRow) : Except StoreError AccountRow := do
  requireText "id" row.id
  requireText "pseudonym" row.pseudonym
  requireText "provider_id" row.providerId
  requireText "credential_handle" row.credentialHandle
  requireText "quota_class" row.quotaClass
  requireText "created_at" row.createdAt
  requireText "updated_at" row.updatedAt
  return row

def mapHealth (row : HealthRow) : Except StoreError HealthRow := do
  requireText "account_id" row.accountId
  return row

def mapMembership (row : MembershipRow) : Except StoreError MembershipRow := do
  requireText "pool_id" row.poolId
  requireText "account_id" row.accountId
  return row

def mapPool (row : PoolRow) (memberships : List MembershipRow) : Except StoreError StoredPool := do
  requireText "id" row.id
  requireText "name" row.name
  requireText "provider_id" row.providerId
  requireText "created_at" row.createdAt
  requireText "updated_at" row.updatedAt
  return { row with memberships }

def mapProfile (row : ProfileRow) : Except StoreError ProfileRow := do
  requireText "id" row.id
  requireText "name" row.name
  let modelRoles ← parseJsonObject row.modelRoles
  requireText "created_at" row.createdAt
  requireText "updated_at" row.updatedAt
  return { row with modelRoles }

/-! ## Encoded columns -/

/-- The keys no stored JSON may have. -/
def FORBIDDEN_KEYS : List String :=
  ["accessToken", "refreshToken", "authorization", "token", "secret", "password", "email", "prompt",
    "response", "identity"]

mutual

/-- `assertSecretFree` passes. -/
def secretFree : Json → Bool
  | .arr items => secretFreeItems items
  | .obj fields => secretFreeFields fields
  | _ => true

/-- It passes for every item of an array. -/
def secretFreeItems : List Json → Bool
  | [] => true
  | item :: items => secretFree item && secretFreeItems items

/-- It passes for every field of an object. -/
def secretFreeFields : List (String × Json) → Bool
  | [] => true
  | (name, value) :: fields => !FORBIDDEN_KEYS.contains name && secretFree value && secretFreeFields fields

end

/-- `encodeJson`, which fails for a value with a forbidden key. -/
def encodeJson (value : Option Json) : Except StoreError (Option Json) :=
  if value.all secretFree then .ok value
  else .error (.validation "JSON fields must not contain secret or identity keys")

/-- The quality as it is written. -/
def TokenCountingQuality.name : TokenCountingQuality → String
  | .upstream => "upstream"
  | .exactLocal => "exact-local"
  | .conservativeEstimate => "conservative-estimate"
  | .unsupported => "unsupported"

/-- The control kind as it is written. -/
def ReasoningControlKind.name : ReasoningControlKind → String
  | .discreteEffort => "discrete-effort"
  | .adaptive => "adaptive"
  | .binary => "binary"
  | .tokenBudget => "token-budget"
  | .none => "none"

/-- The evidence as a JSON value. -/
def ProviderCapabilityEvidence.toJson (evidence : ProviderCapabilityEvidence) : Json :=
  let capabilities := evidence.capabilities
  let reasoning := evidence.reasoning
  .obj [("registryRevision", .num evidence.registryRevision),
    ("providerId", .str evidence.providerId),
    ("evidenceRef", .str evidence.evidenceRef),
    ("capabilities", .obj [("streaming", .bool capabilities.streaming),
      ("tools", .bool capabilities.tools),
      ("parallelTools", .bool capabilities.parallelTools),
      ("images", .bool capabilities.images),
      ("reasoning", .bool capabilities.reasoning),
      ("redactedReasoning", .bool capabilities.redactedReasoning),
      ("structuredOutput", .bool capabilities.structuredOutput),
      ("tokenCounting", .str capabilities.tokenCounting.name)]),
    ("reasoning", .mkObj [("supported", some (.bool reasoning.supported)),
      ("controlKind", some (.str reasoning.controlKind.name)),
      ("effortLevels", reasoning.effortLevels.map fun levels => .arr (levels.map .str)),
      ("adaptive", some (.bool reasoning.adaptive)),
      ("tokenBudget", some (.bool reasoning.tokenBudget)),
      ("reasoningWithTools", some (.bool reasoning.reasoningWithTools))]),
    ("limits", .mkObj [("contextWindow", evidence.limits.contextWindow.map fun n => .num n),
      ("maxOutput", evidence.limits.maxOutput.map fun n => .num n)])]

/-! ## Providers -/

/-- The row of an id, or the error that it was not found. -/
def rowById {ρ : Type} (resource : ResourceType) (rows : OrderedMap String ρ) (id : String) :
    Except StoreError ρ :=
  match rows.get? id with
  | some row => .ok row
  | none => .error (.notFound resource.name)

/-- The rows a guarded update of a resource leaves. -/
def requireChanges {ρ : Type} (resource : ResourceType) (rows : Option ρ) : Except StoreError ρ :=
  match rows with
  | some rows => .ok rows
  | none => .error (.versionConflict resource.name)

def listProviders (db : Database) : Except StoreError (List ProviderRow) :=
  (db.providers.values.insertionSort fun left right => left.name ≤ right.name).mapM mapProvider

def providerById (id : String) : Transaction ProviderRow := do
  let db ← get
  let row ← ofExcept (rowById .provider db.providers id)
  ofExcept (mapProvider row)

/-- Two rows with the same provider name. -/
def sameProviderName (left right : ProviderRow) : Bool := left.name = right.name

def insertProvider (record : ProviderRow) : Transaction Unit :=
  adaptExcept (rethrowConstraint "provider name already exists") do
    let _ ← ofExcept (encodeJson (record.capabilityEvidence.map (·.toJson)))
    let db ← get
    let providers ← ofExcept (insertRow "providers.id" "providers.name" sameProviderName
      db.providers record.id record)
    set { db with providers }

def replaceProvider (current next : ProviderRow) : Transaction Unit :=
  adaptExcept (rethrowConstraint "provider name already exists") do
    let _ ← ofExcept (encodeJson (next.capabilityEvidence.map (·.toJson)))
    let db ← get
    let changed ← ofExcept (updateRow "providers.name" sameProviderName (·.version) db.providers
      current.id current.version fun row =>
        { row with
          name := next.name
          integrationMode := next.integrationMode
          endpointPolicy := next.endpointPolicy
          capabilityEvidence := next.capabilityEvidence
          requiredTermsRevision := next.requiredTermsRevision
          provenanceRef := next.provenanceRef
          enabled := next.enabled
          version := next.version
          updatedAt := next.updatedAt })
    let providers ← ofExcept (requireChanges .provider changed)
    set { db with providers }

/-! ## Accounts -/

def listAccounts (db : Database) : Except StoreError (List AccountRow) :=
  (db.accounts.values.insertionSort fun left right => left.pseudonym ≤ right.pseudonym).mapM mapAccount

def accountById (id : String) : Transaction AccountRow := do
  let db ← get
  let row ← ofExcept (rowById .account db.accounts id)
  ofExcept (mapAccount row)

/-- Two rows with the same provider and the same pseudonym. -/
def samePseudonym (left right : AccountRow) : Bool :=
  left.providerId = right.providerId ∧ left.pseudonym = right.pseudonym

def insertAccount (record : AccountRow) : Transaction Unit :=
  adaptExcept (rethrowConstraint "account already exists for this provider") do
    let db ← get
    let accounts ← ofExcept (insertRow "accounts.id" "accounts.provider_id, accounts.pseudonym"
      samePseudonym db.accounts record.id record)
    ofExcept (requireReference db.providers record.providerId)
    set { db with accounts }

/-- The update writes no unique column. -/
def replaceAccount (current next : AccountRow) : Transaction Unit := do
  let db ← get
  let changed ← ofExcept (updateRow "" (fun _ _ => false) (·.version) db.accounts
    current.id current.version fun row =>
      { row with
        credentialHandle := next.credentialHandle
        credentialGeneration := next.credentialGeneration
        state := next.state
        pauseReason := next.pauseReason
        quotaClass := next.quotaClass
        cooldownUntil := next.cooldownUntil
        termsRevision := next.termsRevision
        termsAcknowledgedRevision := next.termsAcknowledgedRevision
        version := next.version
        updatedAt := next.updatedAt })
  let accounts ← ofExcept (requireChanges .account changed)
  set { db with accounts }

def insertAccountHealth (accountId : String) : Transaction Unit := do
  let db ← get
  let health ← ofExcept (insertRow "health.account_id" "" (fun _ _ => false) db.health accountId
    ⟨⟨accountId, none⟩, none, none, 0⟩)
  ofExcept (requireReference db.accounts accountId)
  set { db with health }

def healthById (accountId : String) : Transaction (Option HealthRow) := do
  let db ← get
  match db.health.get? accountId with
  | none => return none
  | some row => some <$> ofExcept (mapHealth row)

/-- Inserts the row or writes the one that is there. -/
def replaceHealth (record : HealthRow) : Transaction Unit := do
  let db ← get
  ofExcept (requireReference db.accounts record.accountId)
  set { db with health := db.health.set record.accountId record }

/-- Inserts the row, in the place of one with the same key. -/
def upsertTermsAcknowledgement (accountId providerId revision acknowledgedAt : String) :
    Transaction Unit := do
  let db ← get
  ofExcept (requireReference db.accounts accountId)
  ofExcept (requireReference db.providers providerId)
  let others := db.termsAcknowledgements.filter fun row =>
    ¬ (row.accountId = accountId ∧ row.providerId = providerId ∧ row.termsRevision = revision)
  let row : TermsAcknowledgement := ⟨accountId, providerId, revision, acknowledgedAt⟩
  set { db with termsAcknowledgements := others ++ [row] }

/-! ## Pools -/

/-- `ORDER BY pin_order`, a row without one first. -/
def pinLe (left right : MembershipRow) : Prop :=
  match left.pinOrder, right.pinOrder with
  | none, _ => True
  | some _, none => False
  | some left, some right => left ≤ right

instance : DecidableRel pinLe := fun left right => by
  unfold pinLe
  split <;> infer_instance

/-- The memberships of a pool, as they were inserted. -/
def Database.membersOf (db : Database) (poolId : String) : List MembershipRow :=
  db.memberships.filter fun row => row.poolId = poolId

def hydratePool (db : Database) (row : PoolRow) : Except StoreError StoredPool := do
  let memberships ← ((db.membersOf row.id).insertionSort pinLe).mapM mapMembership
  mapPool row memberships

def listPools (db : Database) : Except StoreError (List StoredPool) :=
  (db.pools.values.insertionSort fun left right => left.name ≤ right.name).mapM (hydratePool db)

def poolById (id : String) : Transaction StoredPool := do
  let db ← get
  let row ← ofExcept (rowById .pool db.pools id)
  ofExcept (hydratePool db row)

/-- Two rows with the same pool name. -/
def samePoolName (left right : PoolRow) : Bool := left.name = right.name

def insertPool (record : PoolRow) : Transaction Unit :=
  adaptExcept (rethrowConstraint "pool name already exists") do
    let _ ← ofExcept (encodeJson record.affinity)
    let db ← get
    let pools ← ofExcept (insertRow "pools.id" "pools.name" samePoolName db.pools record.id record)
    ofExcept (requireReference db.providers record.providerId)
    set { db with pools }

/-- What an update of a pool writes. -/
structure PoolUpdate where
  name : String
  strategy : PoolStrategy
  affinity : Option Json
  retryBudget : ℕ
  version : ℕ
  updatedAt : String

def replacePool (current : StoredPool) (next : PoolUpdate) : Transaction Unit :=
  adaptExcept (rethrowConstraint "pool name already exists") do
    let affinity ← ofExcept (encodeJson next.affinity)
    let db ← get
    let changed ← ofExcept (updateRow "pools.name" samePoolName (·.version) db.pools
      current.id current.version fun row =>
        { row with
          name := next.name
          strategy := next.strategy
          affinity
          retryBudget := next.retryBudget
          version := next.version
          updatedAt := next.updatedAt })
    let pools ← ofExcept (requireChanges .pool changed)
    set { db with pools }

/-- The insert of the membership at an index. -/
def insertMembership (poolId providerId accountId : String) (index : ℕ) : Transaction Unit := do
  let account ← accountById accountId
  if account.providerId ≠ providerId then
    throw (.validation "pool memberships must share the pool provider")
  let db ← get
  if db.memberships.any fun row => row.poolId = poolId ∧ row.accountId = accountId then
    throw (.uniqueConstraint "memberships.pool_id, memberships.account_id")
  ofExcept (requireReference db.pools poolId)
  let row : MembershipRow := ⟨⟨accountId, some index⟩, poolId⟩
  set { db with memberships := db.memberships ++ [row] }

/-- The inserts of the memberships from an index on. -/
def insertMemberships (poolId providerId : String) : ℕ → List String → Transaction Unit
  | _, [] => return
  | index, accountId :: accountIds => do
      insertMembership poolId providerId accountId index
      insertMemberships poolId providerId (index + 1) accountIds

def replaceMemberships (poolId providerId : String) (accountIds : List String) :
    Transaction Unit := do
  if ¬ accountIds.Nodup then throw (.uniqueness "pool memberships must be unique")
  modify fun db =>
    { db with memberships := db.memberships.filter fun row => row.poolId ≠ poolId }
  insertMemberships poolId providerId 0 accountIds

/-! ## Profiles -/

def listProfiles (db : Database) : Except StoreError (List ProfileRow) :=
  (db.profiles.values.insertionSort fun left right => left.name ≤ right.name).mapM mapProfile

def profileById (id : String) : Transaction ProfileRow := do
  let db ← get
  let row ← ofExcept (rowById .profile db.profiles id)
  ofExcept (mapProfile row)

/-- Two rows with the same profile name. -/
def sameProfileName (left right : ProfileRow) : Bool := left.name = right.name

/-- The constraints on the references of a profile. -/
def requireProfileReferences (db : Database) (providerId poolId : Option String) :
    Except StoreError Unit := do
  if providerId = none ∧ poolId = none then
    throw (.checkConstraint "provider_id IS NOT NULL OR pool_id IS NOT NULL")
  providerId.forM (requireReference db.providers)
  poolId.forM (requireReference db.pools)

def insertProfile (record : ProfileRow) : Transaction Unit :=
  adaptExcept (rethrowConstraint "profile name already exists") do
    let _ ← ofExcept (encodeJson record.capabilityPolicy)
    let _ ← ofExcept (encodeJson record.launchPolicy)
    let db ← get
    let profiles ← ofExcept (insertRow "profiles.id" "profiles.name" sameProfileName
      db.profiles record.id record)
    ofExcept (requireProfileReferences db record.providerId record.poolId)
    set { db with profiles }

def replaceProfile (current next : ProfileRow) : Transaction Unit :=
  adaptExcept (rethrowConstraint "profile name already exists") do
    let capabilityPolicy ← ofExcept (encodeJson next.capabilityPolicy)
    let launchPolicy ← ofExcept (encodeJson next.launchPolicy)
    let db ← get
    let changed ← ofExcept (updateRow "profiles.name" sameProfileName (·.version) db.profiles
      current.id current.version fun row =>
        { row with
          name := next.name
          harness := next.harness
          providerId := next.providerId
          poolId := next.poolId
          modelRoles := next.modelRoles
          capabilityPolicy
          launchPolicy
          version := next.version
          updatedAt := next.updatedAt })
    let profiles ← ofExcept (requireChanges .profile changed)
    ofExcept (requireProfileReferences db next.providerId next.poolId)
    set { db with profiles }

/-! ## Policies, audits and versions -/

/-- One more than the greatest revision. -/
def nextPolicyRevision (db : Database) : ℕ :=
  (db.policyRevisions.map (·.revision)).foldl max 0 + 1

def insertPolicyRevision (row : PolicyRow) : Transaction Unit := do
  let db ← get
  if db.policyRevisions.any fun other => other.revision = row.revision then
    throw (.uniqueConstraint "policy_revisions.revision")
  if db.policyRevisions.any fun other => other.hash = row.hash then
    throw (.uniqueConstraint "policy_revisions.hash")
  set { db with policyRevisions := db.policyRevisions ++ [row] }

def insertAuditEvent (event : AuditEvent) : Transaction Unit := do
  let db ← get
  if db.auditEvents.any fun other => other.id = event.id then
    throw (.uniqueConstraint "audit_events.id")
  set { db with auditEvents := db.auditEvents ++ [event] }

/-- `SELECT version FROM table WHERE id = ?`. -/
def Database.version? (db : Database) (resource : ResourceType) (id : String) : Option ℕ :=
  match resource with
  | .provider => (db.providers.get? id).map (·.version)
  | .account => (db.accounts.get? id).map (·.version)
  | .pool => (db.pools.get? id).map (·.version)
  | .profile => (db.profiles.get? id).map (·.version)

def assertCurrentVersion (resource : ResourceType) (id : String) (version : ℕ) :
    Transaction Unit := do
  let db ← get
  match db.version? resource id with
  | none => throw (.notFound resource.name)
  | some current => if current ≠ version then throw (.versionConflict resource.name)

end RlyGateway
