import RlyGateway.ControlPlane.Repository

/-!
# Compiled policies

A policy revision holds the text of everything the control plane lists: the providers, accounts,
pools and profiles, in an order of their properties that does not depend on how they were written.
-/

namespace RlyGateway

open EStateM MonadExcept

variable (runtime : NodeRuntime)

/-! ## Canonical JSON -/

/-- The array index a property name stands for. -/
def arrayIndex? (name : String) : Option ℕ :=
  let digits := name.toList
  if digits ≠ [] ∧ digits.all Char.isDigit ∧ (digits = ['0'] ∨ digits.head? ≠ some '0') ∧
      Json.digitsValue digits < 2 ^ 32 - 1 then
    some (Json.digitsValue digits)
  else none

/-- The order in which an object lists its properties: array indexes in ascending order, then the
others as they were added. -/
def propertyOrder (fields : List (String × Json)) : List (String × Json) :=
  let indexed := fields.filterMap fun field => (arrayIndex? field.1).map fun index => (index, field)
  (indexed.insertionSort fun left right => left.1 ≤ right.1).map Prod.snd ++
    fields.filter fun field => (arrayIndex? field.1).isNone

mutual

/-- `canonicalize`: the properties of every object in the order of their names. -/
def canonicalize : Json → Json
  | .arr items => .arr (canonicalizeItems items)
  | .obj fields =>
      .obj (propertyOrder ((canonicalizeFields fields).insertionSort fun left right =>
        runtime.localeLe left.1 right.1 = true))
  | value => value

/-- Every item of an array. -/
def canonicalizeItems : List Json → List Json
  | [] => []
  | item :: items => canonicalize item :: canonicalizeItems items

/-- Every value of an object. -/
def canonicalizeFields : List (String × Json) → List (String × Json)
  | [] => []
  | (name, value) :: fields => (name, canonicalize value) :: canonicalizeFields fields

end

/-! ## Snapshots -/

/-- The state as it is written. -/
def AccountState.name : AccountState → String
  | .ready => "ready"
  | .paused => "paused"
  | .unready => "unready"
  | .revoked => "revoked"

/-- The harness as it is written. -/
def HarnessName.name : HarnessName → String
  | .claude => "claude"
  | .codex => "codex"

def ProviderRow.toJson (record : ProviderRow) : Json :=
  .mkObj [("id", some (.str record.id)),
    ("name", some (.str record.name)),
    ("integrationMode", some (.str record.integrationMode.name)),
    ("endpointPolicy", record.endpointPolicy.map .str),
    ("capabilityEvidence", record.capabilityEvidence.map (·.toJson)),
    ("requiredTermsRevision", record.requiredTermsRevision.map .str),
    ("provenanceRef", record.provenanceRef.map .str),
    ("enabled", some (.bool record.enabled)),
    ("version", some (.num record.version)),
    ("createdAt", some (.str record.createdAt)),
    ("updatedAt", some (.str record.updatedAt))]

def AccountRow.toJson (record : AccountRow) : Json :=
  .mkObj [("id", some (.str record.id)),
    ("pseudonym", some (.str record.pseudonym)),
    ("providerId", some (.str record.providerId)),
    ("credentialHandle", some (.str record.credentialHandle)),
    ("credentialGeneration", some (.num record.credentialGeneration)),
    ("state", some (.str record.state.name)),
    ("pauseReason", record.pauseReason.map .str),
    ("quotaClass", some (.str record.quotaClass)),
    ("cooldownUntil", record.cooldownUntil.map .str),
    ("termsRevision", record.termsRevision.map .str),
    ("termsAcknowledgedRevision", record.termsAcknowledgedRevision.map .str),
    ("version", some (.num record.version)),
    ("createdAt", some (.str record.createdAt)),
    ("updatedAt", some (.str record.updatedAt))]

def MembershipRow.toJson (record : MembershipRow) : Json :=
  .mkObj [("poolId", some (.str record.poolId)),
    ("accountId", some (.str record.accountId)),
    ("pinOrder", record.pinOrder.map fun n => .num n)]

def StoredPool.toJson (record : StoredPool) : Json :=
  .mkObj [("id", some (.str record.id)),
    ("name", some (.str record.name)),
    ("providerId", some (.str record.providerId)),
    ("strategy", some (.str record.strategy.name)),
    ("affinity", record.affinity),
    ("retryBudget", some (.num record.retryBudget)),
    ("memberships", some (.arr (record.memberships.map (·.toJson)))),
    ("version", some (.num record.version)),
    ("createdAt", some (.str record.createdAt)),
    ("updatedAt", some (.str record.updatedAt))]

def ProfileRow.toJson (record : ProfileRow) : Json :=
  .mkObj [("id", some (.str record.id)),
    ("name", some (.str record.name)),
    ("harness", some (.str record.harness.name)),
    ("providerId", record.providerId.map .str),
    ("poolId", record.poolId.map .str),
    ("modelRoles", some (.obj (record.modelRoles.entries.map fun role => (role.1, .str role.2)))),
    ("capabilityPolicy", record.capabilityPolicy),
    ("launchPolicy", record.launchPolicy),
    ("version", some (.num record.version)),
    ("createdAt", some (.str record.createdAt)),
    ("updatedAt", some (.str record.updatedAt))]

/-- Everything the control plane lists. -/
structure PolicySnapshot where
  providers : List ProviderRow
  accounts : List AccountRow
  pools : List StoredPool
  profiles : List ProfileRow

def PolicySnapshot.toJson (snapshot : PolicySnapshot) : Json :=
  .obj [("providers", .arr (snapshot.providers.map (·.toJson))),
    ("accounts", .arr (snapshot.accounts.map (·.toJson))),
    ("pools", .arr (snapshot.pools.map (·.toJson))),
    ("profiles", .arr (snapshot.profiles.map (·.toJson)))]

/-- What the tables list. -/
def Database.snapshot (db : Database) : Except StoreError PolicySnapshot := do
  let providers ← listProviders db
  let accounts ← listAccounts db
  let pools ← listPools db
  let profiles ← listProfiles db
  return { providers, accounts, pools, profiles }

/-- The text of a snapshot. -/
def PolicySnapshot.encoded (snapshot : PolicySnapshot) : String :=
  (canonicalize runtime snapshot.toJson).stringify

/-- `compilePolicy`: the next revision, of what the tables list. -/
def compilePolicy (createdAt : String) : Transaction PolicyRow := do
  let db ← get
  let snapshot ← ofExcept db.snapshot
  let encoded := snapshot.encoded runtime
  let row : PolicyRow :=
    { revision := nextPolicyRevision db
      compiledJson := encoded
      hash := runtime.sha256Hex encoded
      createdAt }
  insertPolicyRevision row
  return row

end RlyGateway
