import RlyGateway.Canary.Claim
import RlyGateway.Library.Latest

/-!
# Review decisions, quarantine records and policy

The reviewed and the negative authority over claims, with the pure logic of their stores: which
decision is the latest and what it covers, and which quarantine is active.
-/

namespace RlyGateway

/-- The two kinds of reviewed decision. -/
inductive ReviewDecisionKind where
  | promote
  | reject
deriving DecidableEq, Repr

/-- One reviewed decision about a claim, made against one snapshot of its evidence. -/
structure ReviewDecision where
  claimKey : String
  feature : ClaimFeature
  decision : ReviewDecisionKind
  evidenceRevision : String
  reviewer : String
  source : String
  reason : String
  decidedAt : String
  decisionRevision : ℕ
  rlyBuildVersion : Option String
deriving DecidableEq, Repr

/-- One negative record about a claim; lifting it is recorded too. -/
structure QuarantineRecord where
  claimKey : String
  feature : ClaimFeature
  reason : String
  source : String
  quarantinedAt : String
  quarantineRevision : ℕ
  rlyBuildVersion : Option String
  liftedAt : Option String
  liftedBy : Option String
  liftReason : Option String
deriving DecidableEq, Repr

/-- The access surface configured for a provider. -/
structure ProviderAccessConfig where
  adapterId : String
  authMode : AuthMode
  endpointContract : EndpointContract
  sourceProtocol : EndpointContract
deriving DecidableEq, Repr

/-- The policy of freshness and enforcement. A part that is not set gives no signal. -/
structure CompatibilityPolicy where
  supportedClientBaseline : Option String
  pinnedProtocolRevision : Option String
  pinnedFixtureRevision : Option String
  maxEvidenceAgeMs : Option ℚ
  rlyBuildVersion : Option String
  deprecatedModelFingerprints : Option (List String)
  providerAccessConfig : Option (OrderedMap String ProviderAccessConfig)
  allowQuarantineBypass : Option Bool
deriving DecidableEq

/-- The policy without drift signals, overrides or bypass. -/
def defaultCompatibilityPolicy : CompatibilityPolicy where
  supportedClientBaseline := none
  pinnedProtocolRevision := none
  pinnedFixtureRevision := none
  maxEvidenceAgeMs := none
  rlyBuildVersion := none
  deprecatedModelFingerprints := none
  providerAccessConfig := none
  allowQuarantineBypass := none

/-- `policy.allowQuarantineBypass ?? false`. -/
def CompatibilityPolicy.bypass (policy : CompatibilityPolicy) : Bool :=
  policy.allowQuarantineBypass.getD false

/-! ## Decisions -/

/-- The latest decision by revision. -/
def latestDecision (decisions : List ReviewDecision) : Option ReviewDecision :=
  latestBy (fun _ => true) (·.decisionRevision) decisions

/-- Whether a decision was made against exactly this evidence snapshot. -/
def decisionCovers (decision : Option ReviewDecision) (evidenceRevision : String) : Bool :=
  decision.any fun decision => decision.evidenceRevision = evidenceRevision

/-- The next decision revision of a history. -/
def nextDecisionRevision (decisions : List ReviewDecision) : ℕ :=
  decisions.foldl (fun latest decision => max latest decision.decisionRevision) 0 + 1

/-! ## Quarantines -/

/-- Whether a quarantine record is not lifted. -/
def QuarantineRecord.active (record : QuarantineRecord) : Bool :=
  record.liftedAt.isNone

/-- The latest active quarantine record by revision. -/
def latestQuarantine (records : List QuarantineRecord) : Option QuarantineRecord :=
  latestBy QuarantineRecord.active (·.quarantineRevision) records

/-- Whether an active quarantine exists. -/
def isQuarantined (records : List QuarantineRecord) : Bool :=
  (latestQuarantine records).isSome

/-- The next quarantine revision of a history. -/
def nextQuarantineRevision (records : List QuarantineRecord) : ℕ :=
  records.foldl (fun latest record => max latest record.quarantineRevision) 0 + 1

/-- A history is quarantined exactly when one of its records is not lifted. -/
theorem isQuarantined_iff {records : List QuarantineRecord} :
    isQuarantined records = true ↔ ∃ record ∈ records, record.active = true :=
  latestBy_isSome

end RlyGateway
