import RlyGateway.Library.OrderedMap

/-!
# Update records

The durable record of an update, the journal of its activation transaction, what a candidate
declares of itself, and the compatibility policy between them.
-/

namespace RlyGateway

/-! ## States and phases -/

/-- The states of the update record. -/
inductive UpdateState where
  | idle
  | installing
  | pendingActivation
  | activating
  | active
  | rollbackRequired
  | recoveryRequired
  | failed
deriving DecidableEq, Repr

/-- The phases of an activation transaction. -/
inductive TransactionPhase where
  | staged
  | draining
  | switching
  | probation
  | committing
  | committed
  | rollingBack
  | recoveryRequired
deriving DecidableEq, Repr

/-- How activating a candidate interacts with the durable state. -/
inductive MigrationClass where
  | none
  | backwardCompatibleExpand
  | transactionalReplace
  | forwardOnly
deriving DecidableEq, Repr

/-- The text of a state. -/
def UpdateState.name : UpdateState → String
  | idle => "idle"
  | installing => "installing"
  | pendingActivation => "pending-activation"
  | activating => "activating"
  | active => "active"
  | rollbackRequired => "rollback-required"
  | recoveryRequired => "recovery-required"
  | failed => "failed"

/-- The text of a phase. -/
def TransactionPhase.name : TransactionPhase → String
  | staged => "staged"
  | draining => "draining"
  | switching => "switching"
  | probation => "probation"
  | committing => "committing"
  | committed => "committed"
  | rollingBack => "rolling-back"
  | recoveryRequired => "recovery-required"

/-! ## Records -/

/-- The result of an activation or a rollback. -/
structure ActivationResult where
  ok : Bool
  attemptedAt : String
  reason : Option String
deriving DecidableEq, Repr

/-- The journal of an activation: its phase, the candidate, and the deployment it displaces. -/
structure UpdateTransaction where
  phase : TransactionPhase
  startedAt : String
  updatedAt : String
  candidateVersion : String
  candidateArtifactId : String
  previousVersion : Option String
  previousArtifactId : Option String
  rollbackAttempts : ℕ
  lastRollbackOutcome : Option ActivationResult
  recoveryReason : Option String
deriving DecidableEq, Repr

/-- The durable update record. -/
structure UpdateStateRecord where
  state : UpdateState
  currentVersion : String
  pendingVersion : Option String
  previousVersion : Option String
  currentArtifactId : Option String
  pendingArtifactId : Option String
  previousArtifactId : Option String
  updatedAt : String
  lastActivationResult : Option ActivationResult
  lastRollbackResult : Option ActivationResult
  failureReason : Option String
  transaction : Option UpdateTransaction
deriving DecidableEq, Repr

/-- The versions in a record, none of which may be empty. -/
def UpdateStateRecord.versions (record : UpdateStateRecord) : List String :=
  record.currentVersion :: record.pendingVersion.toList ++ record.previousVersion.toList ++
    record.transaction.toList.flatMap fun transaction =>
      transaction.candidateVersion :: transaction.previousVersion.toList

/-! ## Candidates and deployments -/

/-- What a candidate declares of itself. -/
structure CandidateManifest where
  version : String
  stateVersion : ℕ
  migrationClass : Option MigrationClass
  migrationForwardOnly : Option Bool
deriving DecidableEq, Repr

/-- A candidate's tree: the digest of its bytes, its manifest and whether it has the entrypoint. -/
structure CandidateTree where
  artifactId : String
  manifest : Option CandidateManifest
  hasEntrypoint : Bool
deriving DecidableEq, Repr

/-- A candidate: the version it is requested under, and its tree. -/
structure InstallCandidateInput where
  version : String
  source : CandidateTree
deriving DecidableEq, Repr

/-- The metadata of a deployment. -/
structure DeploymentMetadata where
  product : String
  version : String
deriving DecidableEq, Repr

/-- An immutable deployment: its metadata, and what is read of its tree. -/
structure Deployment where
  metadata : DeploymentMetadata
  manifest : Option CandidateManifest
  hasEntrypoint : Bool
deriving DecidableEq, Repr

/-- What the installer reports of a deployment and of the one it displaces. -/
structure CandidateInstallResult where
  version : String
  artifactId : String
  previousVersion : Option String
  previousArtifactId : Option String
deriving DecidableEq, Repr

/-- What the installer reports of the staged candidate. -/
structure CandidateVerification where
  ok : Bool
  version : String
  artifactId : Option String
  reason : Option String
deriving DecidableEq, Repr

/-! ## The running gateway -/

/-- What an inspection finds on the gateway's port. -/
inductive RuntimeInspection where
  | notRunning
  | attestedCompatible (resident : Bool) (runtimeVersion : Option String)
  | attestedIncompatible
  | occupiedForeign
  | staleRecord
deriving DecidableEq, Repr

/-- The text of an inspection's state. -/
def RuntimeInspection.name : RuntimeInspection → String
  | notRunning => "not-running"
  | attestedCompatible _ _ => "attested-compatible"
  | attestedIncompatible => "attested-incompatible"
  | occupiedForeign => "occupied-foreign"
  | staleRecord => "stale-record"

/-- The build a runtime reports of itself. -/
structure ServingBuild where
  artifactId : Option String
  semanticVersion : String
  controlProtocolVersion : ℕ
deriving DecidableEq, Repr

/-- The attested identity of a runtime. -/
structure RuntimeIdentity where
  runtimeVersion : Option String
  stateVersion : Option ℕ
  activeSessions : Option ℕ
  protocolVersion : Option ℕ
  build : Option ServingBuild
deriving DecidableEq, Repr

/-! ## Policy -/

/-- The protocol version the command line and the runtime share. -/
def RUNTIME_PROTOCOL_VERSION : ℕ := 1

/-- The version of the runtime itself. -/
def RUNTIME_VERSION : String := "0.1.0"

/-- The migration class of a manifest; a manifest without one has that of its older flag. -/
def migrationClassOf (manifest : Option CandidateManifest) : MigrationClass :=
  (manifest.bind (·.migrationClass)).getD
    (if manifest.bind (·.migrationForwardOnly) = some true then .forwardOnly
      else .backwardCompatibleExpand)

/-- Why a candidate of a migration class may not be activated. -/
def migrationPreflight (update : UpdateStateRecord) (migrationClass : MigrationClass) :
    Option String :=
  if migrationClass ≠ .forwardOnly then none
  else some ("candidate migration is forward-only and rollback-unsafe" ++
    " (candidate " ++ update.pendingVersion.getD "unknown" ++
    " -> state would not be restorable)" ++
    " update refused before activating; the previous version remains serving")

/-- Whether a command line understands a runtime's durable state. -/
def stateVersionsCompatible (cliStateVersion : ℕ) (runtimeStateVersion : Option ℕ) : Bool :=
  runtimeStateVersion.all (· = cliStateVersion)

end RlyGateway
