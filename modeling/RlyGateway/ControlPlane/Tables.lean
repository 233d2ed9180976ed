import RlyGateway.ControlPlane.RouteOutcome
import RlyGateway.Library.OrderedMap
import RlyGateway.Library.Transaction
import RlyGateway.Providers.Dispatch
import RlyGateway.Registry.ModelRegistry

/-!
# The control-plane tables

The rows of the control-plane database and the statements that write them. A table maps its primary
key to a row, in the order in which the rows were inserted. A column that holds encoded JSON is
modelled by the value it encodes.
-/

namespace RlyGateway

/-! ## Rows -/

/-- The harness of a profile. -/
inductive HarnessName where
  | claude
  | codex
deriving DecidableEq, Repr

/-- Who asks for a mutation. -/
inductive ManagementActor where
  | cli
  | browser
  | system
deriving DecidableEq, Repr

/-- How an audited mutation ended. -/
inductive AuditResult where
  | ok
  | rejected
deriving DecidableEq, Repr

/-- The resources with versions. -/
inductive ResourceType where
  | provider
  | account
  | pool
  | profile
deriving DecidableEq, Repr

/-- The resource as it is written. -/
def ResourceType.name : ResourceType → String
  | .provider => "provider"
  | .account => "account"
  | .pool => "pool"
  | .profile => "profile"

/-- The capability evidence of a provider. -/
structure ProviderCapabilityEvidence where
  registryRevision : ℕ
  providerId : String
  evidenceRef : String
  capabilities : ProviderCapabilities
  reasoning : ReasoningCapabilityEvidence
  limits : ModelLimits
deriving DecidableEq, Repr

/-- What `providerCapabilityEvidenceSchema` asks beyond the types. -/
def ProviderCapabilityEvidence.Conforms (evidence : ProviderCapabilityEvidence) : Prop :=
  evidence.providerId ≠ "" ∧ evidence.evidenceRef ≠ "" ∧
    evidence.limits.contextWindow ≠ some 0 ∧ evidence.limits.maxOutput ≠ some 0

instance (evidence : ProviderCapabilityEvidence) : Decidable evidence.Conforms :=
  inferInstanceAs (Decidable (_ ∧ _ ∧ _ ∧ _))

/-- A row of `providers`. -/
structure ProviderRow extends ProviderRecord where
  integrationMode : IntegrationMode
  endpointPolicy : Option String
  capabilityEvidence : Option ProviderCapabilityEvidence
  provenanceRef : Option String
  version : ℕ
  createdAt : String
  updatedAt : String
deriving DecidableEq

/-- A row of `accounts`. -/
structure AccountRow extends AccountRecord where
  pauseReason : Option String
  termsRevision : Option String
  version : ℕ
  createdAt : String
  updatedAt : String
deriving DecidableEq

/-- A row of `pools`. -/
structure PoolRow where
  id : String
  name : String
  providerId : String
  strategy : PoolStrategy
  affinity : Option Json
  retryBudget : ℕ
  version : ℕ
  createdAt : String
  updatedAt : String
deriving DecidableEq

/-- A row of `memberships`. -/
structure MembershipRow extends MembershipRecord where
  poolId : String
deriving DecidableEq, Repr

/-- A pool with its memberships. -/
structure StoredPool extends PoolRow where
  memberships : List MembershipRow
deriving DecidableEq

/-- A row of `profiles`. -/
structure ProfileRow where
  id : String
  name : String
  harness : HarnessName
  providerId : Option String
  poolId : Option String
  modelRoles : OrderedMap String String
  capabilityPolicy : Option Json
  launchPolicy : Option Json
  version : ℕ
  createdAt : String
  updatedAt : String
deriving DecidableEq

/-- A row of `terms_acknowledgements`. -/
structure TermsAcknowledgement where
  accountId : String
  providerId : String
  termsRevision : String
  acknowledgedAt : String
deriving DecidableEq, Repr

/-- A row of `policy_revisions`. -/
structure PolicyRow where
  revision : ℕ
  compiledJson : String
  hash : String
  createdAt : String
deriving DecidableEq, Repr

/-- A row of `audit_events`. -/
structure AuditEvent where
  id : String
  action : String
  resourceType : ResourceType
  resourceId : Option String
  actor : ManagementActor
  result : AuditResult
  metadataJson : String
  createdAt : String
deriving DecidableEq, Repr

/-- The tables. -/
structure Database where
  providers : OrderedMap String ProviderRow
  accounts : OrderedMap String AccountRow
  pools : OrderedMap String PoolRow
  memberships : List MembershipRow
  profiles : OrderedMap String ProfileRow
  health : OrderedMap String HealthRow
  termsAcknowledgements : List TermsAcknowledgement
  policyRevisions : List PolicyRow
  auditEvents : List AuditEvent
deriving DecidableEq

/-- The tables as the migrations leave them. -/
def Database.empty : Database where
  providers := .empty
  accounts := .empty
  pools := .empty
  memberships := []
  profiles := .empty
  health := .empty
  termsAcknowledgements := []
  policyRevisions := []
  auditEvents := []

/-! ## Errors -/

/-- What a store operation throws: a control-plane error, or a constraint of the database. -/
inductive StoreError where
  | versionConflict (resource : String)
  | notFound (resource : String)
  | validation (message : String)
  | uniqueness (message : String)
  | uniqueConstraint (columns : String)
  | foreignKeyConstraint
  | checkConstraint (expression : String)
deriving DecidableEq, Repr

/-- `error.name`. -/
def StoreError.name : StoreError → String
  | .versionConflict _ => "VersionConflictError"
  | .notFound _ => "NotFoundError"
  | .validation _ => "ValidationError"
  | .uniqueness _ => "UniquenessError"
  | .uniqueConstraint _ | .foreignKeyConstraint | .checkConstraint _ => "Error"

/-- `error.message`. -/
def StoreError.message : StoreError → String
  | .versionConflict resource => "Stale " ++ resource ++ " version"
  | .notFound resource => resource ++ " was not found"
  | .validation message | .uniqueness message => message
  | .uniqueConstraint columns => "UNIQUE constraint failed: " ++ columns
  | .foreignKeyConstraint => "FOREIGN KEY constraint failed"
  | .checkConstraint expression => "CHECK constraint failed: " ++ expression

/-- Of the constraints only the uniqueness ones speak of `UNIQUE`. -/
def rethrowConstraint (message : String) : StoreError → StoreError
  | .uniqueConstraint _ => .uniqueness message
  | error => error

/-- A program over the tables. -/
abbrev Transaction := EStateM StoreError Database

/-! ## Statements -/

section Statements

variable {ρ : Type}

/-- `INSERT`: the key is new, and no row has the new row's values in the unique columns. -/
def insertRow (keyColumn uniqueColumns : String) (clashes : ρ → ρ → Bool)
    (rows : OrderedMap String ρ) (id : String) (row : ρ) :
    Except StoreError (OrderedMap String ρ) :=
  if id ∈ rows.keys then .error (.uniqueConstraint keyColumn)
  else if rows.values.any (clashes row) then .error (.uniqueConstraint uniqueColumns)
  else .ok (rows.set id row)

/-- `UPDATE … WHERE id = ? AND version = ?`, with `none` where it changes no row. -/
def updateRow (uniqueColumns : String) (clashes : ρ → ρ → Bool) (version : ρ → ℕ)
    (rows : OrderedMap String ρ) (id : String) (expected : ℕ) (write : ρ → ρ) :
    Except StoreError (Option (OrderedMap String ρ)) :=
  match rows.get? id with
  | none => .ok none
  | some row =>
      if version row ≠ expected then .ok none
      else if rows.entries.any fun entry => entry.1 ≠ id ∧ clashes (write row) entry.2 then
        .error (.uniqueConstraint uniqueColumns)
      else .ok (some (rows.set id (write row)))

/-- A referenced row that must be there. -/
def requireReference {τ : Type} (rows : OrderedMap String τ) (id : String) : Except StoreError Unit :=
  if id ∈ rows.keys then .ok () else .error .foreignKeyConstraint

variable {keyColumn uniqueColumns : String} {clashes : ρ → ρ → Bool} {version : ρ → ℕ}
  {rows rows' : OrderedMap String ρ} {id : String} {row : ρ}

/-- An insert writes a new key. -/
theorem insertRow_eq_ok (h : insertRow keyColumn uniqueColumns clashes rows id row = .ok rows') :
    rows.get? id = none ∧ rows' = rows.set id row := by
  unfold insertRow at h
  split at h
  · cases h
  · rename_i hnew
    split at h
    · cases h
    · cases h
      exact ⟨OrderedMap.get?_eq_none.2 hnew, rfl⟩

/-- An update that changes a row writes the row of the expected version. -/
theorem updateRow_eq_ok {expected : ℕ} {write : ρ → ρ}
    (h : updateRow uniqueColumns clashes version rows id expected write = .ok (some rows')) :
    ∃ current, rows.get? id = some current ∧ version current = expected ∧
      rows' = rows.set id (write current) := by
  unfold updateRow at h
  split at h
  · cases h
  · rename_i current hcurrent
    split at h
    · cases h
    · rename_i hversion
      split at h
      · cases h
      · cases h
        exact ⟨current, hcurrent, not_not.1 hversion, rfl⟩

end Statements

end RlyGateway
