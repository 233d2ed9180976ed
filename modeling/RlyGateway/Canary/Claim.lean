import RlyGateway.Core.Fidelity
import RlyGateway.Core.Runtime

/-!
# Compatibility claims and their evidence

The feature-scoped claim documents of the canary: identities and claim keys, the append-only
observation history over the layers A, B and C, and the two statuses derived from it, one for each
layer and one for the whole claim.
-/

namespace RlyGateway

/-! ## Identities -/

/-- The layer of evidence an observation belongs to. -/
inductive EvidenceLayer where
  | A
  | B
  | C
deriving DecidableEq, Repr

/-- The result of one observation. -/
inductive EvidenceResult where
  | passed
  | failed
  | notRun
deriving DecidableEq, Repr

/-- How the access path authenticates. -/
inductive AuthMode where
  | oauth
  | directApiKey
  | interopImport
  | bridge
  | unknown
deriving DecidableEq, Repr

/-- The kind of installed client. -/
inductive ClientKind where
  | claudeCode
  | codexCli
deriving DecidableEq, Repr

/-- The features a claim can be scoped to: the canary gates and the configuration overlay. -/
inductive ClaimFeature where
  | text
  | streaming
  | cancellation
  | toolsSingle
  | toolsMulti
  | toolsParallel
  | reasoning
  | reasoningTools
  | modelDiscovery
  | sessionAttribution
  | subagentRouting
  | subagentParallel
  | effortSignal
  | longRunningSession
  | configOverlay
deriving DecidableEq, Repr

/-- The kind of evidence of an observation. -/
inductive EvidenceKind where
  | deterministicFakeMatrix
  | installedClient
  | liveAccessPath
deriving DecidableEq, Repr

/-- The layer as it is written in a document. -/
def EvidenceLayer.name : EvidenceLayer → String
  | .A => "A"
  | .B => "B"
  | .C => "C"

/-- The result as it is written in a document. -/
def EvidenceResult.name : EvidenceResult → String
  | .passed => "passed"
  | .failed => "failed"
  | .notRun => "not-run"

/-- The mode as it is written in a claim key. -/
def AuthMode.name : AuthMode → String
  | .oauth => "oauth"
  | .directApiKey => "direct-api-key"
  | .interopImport => "interop-import"
  | .bridge => "bridge"
  | .unknown => "unknown"

/-- The contract as it is written in a claim key. -/
def EndpointContract.name : EndpointContract → String
  | .anthropicMessages => "anthropic-messages"
  | .openaiResponses => "openai-responses"

/-- The client as it is written in a claim key. -/
def ClientKind.name : ClientKind → String
  | .claudeCode => "claude-code"
  | .codexCli => "codex-cli"

/-- The feature as it is written in a claim key. -/
def ClaimFeature.name : ClaimFeature → String
  | .text => "text"
  | .streaming => "streaming"
  | .cancellation => "cancellation"
  | .toolsSingle => "tools-single"
  | .toolsMulti => "tools-multi"
  | .toolsParallel => "tools-parallel"
  | .reasoning => "reasoning"
  | .reasoningTools => "reasoning-tools"
  | .modelDiscovery => "model-discovery"
  | .sessionAttribution => "session-attribution"
  | .subagentRouting => "subagent-routing"
  | .subagentParallel => "subagent-parallel"
  | .effortSignal => "effort-signal"
  | .longRunningSession => "long-running-session"
  | .configOverlay => "config-overlay"

/-- The kind as it is written in a document. -/
def EvidenceKind.name : EvidenceKind → String
  | .deterministicFakeMatrix => "deterministic-fake-matrix"
  | .installedClient => "installed-client"
  | .liveAccessPath => "live-access-path"

/-- The identity of one exact execution path. The model family is metadata and no part of the
key. -/
structure CompatibilityClaimIdentity where
  client : ClientKind
  clientVersion : String
  sourceProtocol : EndpointContract
  protocolRevision : String
  adapterId : String
  accessProviderId : String
  authMode : AuthMode
  endpointContract : EndpointContract
  physicalModelId : String
  modelFamily : Option String
deriving DecidableEq, Repr

/-- The authentication mode of an adapter. -/
def authModeForAdapter (adapterId : String) : AuthMode :=
  match adapterId with
  | "codex-oauth" => .oauth
  | "cline-interop" => .interopImport
  | "openrouter-direct" | "deepseek-direct" => .directApiKey
  | _ => .unknown

/-- The endpoint contract of a client. -/
def endpointContractForClient : ClientKind → EndpointContract
  | .claudeCode => .anthropicMessages
  | .codexCli => .openaiResponses

/-- The identity of a canary run. -/
def claimIdentityFor (client : ClientKind) (clientVersion fixtureRevision adapterId
    accessProviderId physicalModelId : String) (modelFamily : Option String) :
    CompatibilityClaimIdentity where
  client := client
  clientVersion := clientVersion
  sourceProtocol := endpointContractForClient client
  protocolRevision := fixtureRevision
  adapterId := adapterId
  accessProviderId := accessProviderId
  authMode := authModeForAdapter adapterId
  endpointContract := endpointContractForClient client
  physicalModelId := physicalModelId
  modelFamily := modelFamily

/-- The parts of a claim key. -/
def claimKeyParts (identity : CompatibilityClaimIdentity) (feature : ClaimFeature) : List String :=
  ["v2", identity.client.name, identity.clientVersion, identity.sourceProtocol.name,
    identity.protocolRevision, identity.adapterId, identity.accessProviderId,
    identity.authMode.name, identity.endpointContract.name, identity.physicalModelId,
    feature.name]

/-- The canonical key of an identity and a feature, or the message of the error it throws. -/
def claimKeyFor (identity : CompatibilityClaimIdentity) (feature : ClaimFeature) :
    Except String String :=
  let parts := claimKeyParts identity feature
  if parts.all fun part => part ≠ "" ∧ '|' ∉ part.toList then
    .ok (String.intercalate "|" parts)
  else .error "claim key parts must be non-empty strings without '|'"

/-! ## Documents -/

/-- The environment an observation was made in. -/
structure EvidenceEnvironment where
  platform : String
  nodeVersion : String
deriving DecidableEq, Repr

/-- One feature-scoped observation. -/
structure EvidenceArtifactV2 where
  claimKey : String
  feature : ClaimFeature
  layer : EvidenceLayer
  kind : EvidenceKind
  fixtureRevision : String
  runnerVersion : String
  checkedAt : String
  result : EvidenceResult
  failureReason : Option String
  environment : Option EvidenceEnvironment
  ref : Option String
  timingMs : Option ℚ
deriving DecidableEq, Repr

/-- The observation history of one identity and feature. -/
structure CompatibilityClaimDocument where
  claimKey : String
  claimIdentity : CompatibilityClaimIdentity
  feature : ClaimFeature
  records : List EvidenceArtifactV2
deriving DecidableEq, Repr

/-- The status of a claim or of one of its layers. -/
inductive ClaimStatus where
  | missing
  | notRun
  | passed
  | failed
deriving DecidableEq, Repr

/-- The environment as it is persisted. -/
def EvidenceEnvironment.toJson (environment : EvidenceEnvironment) : Json :=
  .obj [("platform", .str environment.platform), ("nodeVersion", .str environment.nodeVersion)]

/-- The observation as it is persisted, its fields in the order of the schema. -/
def EvidenceArtifactV2.toJson (record : EvidenceArtifactV2) : Json :=
  Json.mkObj [
    ("claimKey", some (.str record.claimKey)),
    ("feature", some (.str record.feature.name)),
    ("layer", some (.str record.layer.name)),
    ("kind", some (.str record.kind.name)),
    ("fixtureRevision", some (.str record.fixtureRevision)),
    ("runnerVersion", some (.str record.runnerVersion)),
    ("checkedAt", some (.str record.checkedAt)),
    ("result", some (.str record.result.name)),
    ("failureReason", record.failureReason.map .str),
    ("environment", record.environment.map EvidenceEnvironment.toJson),
    ("ref", record.ref.map .str),
    ("timingMs", record.timingMs.map .num)]

/-- Whether two observations are the same for the purpose of appending. -/
def sameObservation (left right : EvidenceArtifactV2) : Bool :=
  left.layer = right.layer ∧ left.kind = right.kind ∧ left.result = right.result ∧
    left.failureReason = right.failureReason ∧ left.runnerVersion = right.runnerVersion ∧
    left.checkedAt = right.checkedAt ∧ left.fixtureRevision = right.fixtureRevision ∧
    left.ref = right.ref ∧ left.timingMs = right.timingMs ∧
    left.environment = right.environment

/-- Append an observation that is not already recorded. -/
def appendObservation (doc : CompatibilityClaimDocument) (record : EvidenceArtifactV2) :
    CompatibilityClaimDocument :=
  if doc.records.any fun existing => sameObservation existing record then doc
  else { doc with records := doc.records ++ [record] }

/-- The document without observations. -/
def emptyClaimDocument (claimIdentity : CompatibilityClaimIdentity) (feature : ClaimFeature) :
    Except String CompatibilityClaimDocument := do
  let claimKey ← claimKeyFor claimIdentity feature
  return { claimKey, claimIdentity, feature, records := [] }

/-! ## Statuses -/

/-- The layers a claim of this adapter needs; an unknown adapter needs all of them too. -/
def requiredLayersForAdapter (adapterId : String) : List EvidenceLayer :=
  match adapterId with
  | "codex-oauth" | "cline-interop" | "openrouter-direct" | "deepseek-direct" => [.A, .B, .C]
  | _ => [.A, .B, .C]

/-- The records of each layer, in order of first occurrence. -/
def recordsByLayer (records : List EvidenceArtifactV2) :
    OrderedMap EvidenceLayer (List EvidenceArtifactV2) :=
  records.foldl
    (fun byLayer record =>
      byLayer.set record.layer ((byLayer.get? record.layer).getD [] ++ [record]))
    OrderedMap.empty

/-- The status of the records of one layer. -/
def layerStatus (records : List EvidenceArtifactV2) : ClaimStatus :=
  if records = [] then .missing
  else if records.any (·.result = .failed) then .failed
  else if records.any (·.result = .passed) then .passed
  else .notRun

/-- The status of each layer; a layer without records is missing. -/
def layerStatuses (doc : CompatibilityClaimDocument) (layer : EvidenceLayer) : ClaimStatus :=
  layerStatus (((recordsByLayer doc.records).get? layer).getD [])

/-- The status of the whole claim. -/
def claimStatusFor (doc : CompatibilityClaimDocument) : ClaimStatus :=
  if doc.records = [] then .missing
  else if doc.records.any (·.result = .failed) then .failed
  else
    let required := requiredLayersForAdapter doc.claimIdentity.adapterId
    -- presence of a record of the layer is what is collected here, whatever its result
    let present := OrderedSet.ofList (doc.records.map (·.layer))
    if ¬ required.all (fun layer => layer ∈ present) then .notRun
    else if doc.records.any (·.result = .passed) then .passed
    else .notRun

/-! ## What the statuses say -/

theorem mem_requiredLayersForAdapter (adapterId : String) (layer : EvidenceLayer) :
    layer ∈ requiredLayersForAdapter adapterId := by
  unfold requiredLayersForAdapter
  split <;> cases layer <;> decide

private theorem get?_recordsByLayer_foldl (records : List EvidenceArtifactV2)
    (byLayer : OrderedMap EvidenceLayer (List EvidenceArtifactV2)) (layer : EvidenceLayer) :
    ((records.foldl
      (fun byLayer record =>
        byLayer.set record.layer ((byLayer.get? record.layer).getD [] ++ [record]))
      byLayer).get? layer).getD [] =
      (byLayer.get? layer).getD [] ++ records.filter (·.layer = layer) := by
  induction records generalizing byLayer with
  | nil => simp
  | cons record records ih =>
      rw [List.foldl_cons, ih, OrderedMap.get?_set]
      by_cases hlayer : record.layer = layer
      · subst hlayer
        simp
      · simp [hlayer]

/-- The grouping gives each layer its records in order. -/
theorem get?_recordsByLayer (records : List EvidenceArtifactV2) (layer : EvidenceLayer) :
    ((recordsByLayer records).get? layer).getD [] = records.filter (·.layer = layer) := by
  have h := get?_recordsByLayer_foldl records OrderedMap.empty layer
  rw [OrderedMap.get?_empty, Option.getD_none, List.nil_append] at h
  exact h

/-- A layer of the document has an observation with this result. -/
def CompatibilityClaimDocument.Observed (doc : CompatibilityClaimDocument)
    (layer : EvidenceLayer) (result : EvidenceResult) : Prop :=
  ∃ record ∈ doc.records, record.layer = layer ∧ record.result = result

instance (doc : CompatibilityClaimDocument) (layer : EvidenceLayer) (result : EvidenceResult) :
    Decidable (doc.Observed layer result) :=
  inferInstanceAs (Decidable (∃ record ∈ doc.records, record.layer = layer ∧
    record.result = result))

/-- No observation of the document failed. -/
def CompatibilityClaimDocument.NoFailure (doc : CompatibilityClaimDocument) : Prop :=
  ∀ record ∈ doc.records, record.result ≠ .failed

/-- Every layer the adapter of the document needs has a passing observation. -/
def CompatibilityClaimDocument.Proved (doc : CompatibilityClaimDocument) : Prop :=
  ∀ layer ∈ requiredLayersForAdapter doc.claimIdentity.adapterId, doc.Observed layer .passed

/-- Some observation of the layer is on record, whatever its result. -/
def CompatibilityClaimDocument.Recorded (doc : CompatibilityClaimDocument)
    (layer : EvidenceLayer) : Prop :=
  ∃ record ∈ doc.records, record.layer = layer

/-- The claim passes exactly when it is proved, and exactly when every required layer passes. -/
def CompatibilityClaimDocument.StatusIsProof (doc : CompatibilityClaimDocument) : Prop :=
  (claimStatusFor doc = .passed ↔ doc.NoFailure ∧ doc.Proved) ∧
    (claimStatusFor doc = .passed ↔
      ∀ layer ∈ requiredLayersForAdapter doc.claimIdentity.adapterId,
        layerStatuses doc layer = .passed)

/-- The layer is on record, and only with observations that were not run. -/
def CompatibilityClaimDocument.OnlyNotRun (doc : CompatibilityClaimDocument)
    (layer : EvidenceLayer) : Prop :=
  doc.Recorded layer ∧ ∀ record ∈ doc.records, record.layer = layer → record.result = .notRun

/-- A layer's status is a pass when it has a passing observation and no failed one. -/
theorem layerStatuses_eq_passed {doc : CompatibilityClaimDocument} {layer : EvidenceLayer} :
    layerStatuses doc layer = .passed ↔
      ¬ doc.Observed layer .failed ∧ doc.Observed layer .passed := by
  have hfailed : doc.Observed layer .failed ↔
      (doc.records.filter (·.layer = layer)).any (·.result = .failed) = true := by
    simp [CompatibilityClaimDocument.Observed]
  have hpassed : doc.Observed layer .passed ↔
      (doc.records.filter (·.layer = layer)).any (·.result = .passed) = true := by
    simp [CompatibilityClaimDocument.Observed]
  rw [layerStatuses, get?_recordsByLayer, hfailed, hpassed]
  unfold layerStatus
  split
  case isTrue hnil => simp [hnil]
  case isFalse =>
    split
    case isTrue h => simp [h]
    case isFalse h => split <;> simp_all

/-- The whole claim passes when no observation failed, every required layer is on record, and some
observation passed. -/
theorem claimStatusFor_eq_passed {doc : CompatibilityClaimDocument} :
    claimStatusFor doc = .passed ↔
      doc.NoFailure ∧
        (∀ layer ∈ requiredLayersForAdapter doc.claimIdentity.adapterId, doc.Recorded layer) ∧
          ∃ layer, doc.Observed layer .passed := by
  -- the three conditions as the Boolean tests of the function, in its order
  have hfailed : doc.NoFailure ↔ doc.records.any (·.result = .failed) = false := by
    simp [CompatibilityClaimDocument.NoFailure]
  have hpassed : (∃ layer, doc.Observed layer .passed) ↔
      doc.records.any (·.result = .passed) = true := by
    simp [CompatibilityClaimDocument.Observed]
  have hpresent : (∀ layer ∈ requiredLayersForAdapter doc.claimIdentity.adapterId,
      doc.Recorded layer) ↔ (requiredLayersForAdapter doc.claimIdentity.adapterId).all
        (fun layer => layer ∈ OrderedSet.ofList (doc.records.map (·.layer))) = true := by
    simp [CompatibilityClaimDocument.Recorded]
  rw [hfailed, hpassed, hpresent]
  unfold claimStatusFor
  split
  case isTrue hnil => simp [hnil]
  case isFalse =>
    split
    case isTrue h => simp [h]
    case isFalse h =>
      simp only [Bool.not_eq_true] at h
      simp only [h, true_and]
      split
      case isTrue hmissing => exact iff_of_false (by simp) fun h => hmissing h.1
      case isFalse hall =>
        rw [not_not] at hall
        split <;> simp_all

/-- Every layer reports a pass exactly when the document is proved without a failure. -/
theorem forall_layerStatuses_passed {doc : CompatibilityClaimDocument} :
    (∀ layer ∈ requiredLayersForAdapter doc.claimIdentity.adapterId,
      layerStatuses doc layer = .passed) ↔ doc.NoFailure ∧ doc.Proved := by
  simp only [layerStatuses_eq_passed]
  constructor
  · intro h
    refine ⟨?_, fun layer hlayer => (h layer hlayer).2⟩
    intro record hrecord hfailed
    have hrequired := mem_requiredLayersForAdapter doc.claimIdentity.adapterId record.layer
    exact (h record.layer hrequired).1 ⟨record, hrecord, rfl, hfailed⟩
  · rintro ⟨hclean, hproved⟩ layer hlayer
    refine ⟨?_, hproved layer hlayer⟩
    rintro ⟨record, hrecord, -, hfailed⟩
    exact hclean record hrecord hfailed

/-- A recorded layer without a failure is proved unless it was only not run. -/
theorem CompatibilityClaimDocument.Recorded.passed_or_onlyNotRun
    {doc : CompatibilityClaimDocument} {layer : EvidenceLayer} (h : doc.Recorded layer)
    (hclean : doc.NoFailure) : doc.Observed layer .passed ∨ doc.OnlyNotRun layer := by
  by_cases hpassed : doc.Observed layer .passed
  · exact Or.inl hpassed
  · refine Or.inr ⟨h, ?_⟩
    intro record hrecord hlayer
    cases hresult : record.result with
    | passed => exact absurd ⟨record, hrecord, hlayer, hresult⟩ hpassed
    | failed => exact absurd hresult (hclean record hrecord)
    | notRun => rfl

/-- The claim's status is a proof of every required layer exactly when, in a history without
failures that records every required layer and has a passing observation, no required layer was
only not run. -/
theorem statusIsProof_iff (doc : CompatibilityClaimDocument) :
    doc.StatusIsProof ↔
      (doc.NoFailure → (∃ layer, doc.Observed layer .passed) →
        (∀ layer ∈ requiredLayersForAdapter doc.claimIdentity.adapterId, doc.Recorded layer) →
          ∀ layer ∈ requiredLayersForAdapter doc.claimIdentity.adapterId,
            ¬ doc.OnlyNotRun layer) := by
  rw [CompatibilityClaimDocument.StatusIsProof, forall_layerStatuses_passed, and_self_iff,
    claimStatusFor_eq_passed]
  constructor
  -- one passed observation of any layer is enough for the status
  · rintro h hclean hpassed hrecorded layer hlayer ⟨-, hnotRun⟩
    obtain ⟨record, hrecord, hat, hresult⟩ := (h.1 ⟨hclean, hrecorded, hpassed⟩).2 layer hlayer
    rw [hnotRun record hrecord hat] at hresult
    cases hresult
  · intro h
    constructor
    · rintro ⟨hclean, hrecorded, hpassed⟩
      refine ⟨hclean, fun layer hlayer => ?_⟩
      rcases (hrecorded layer hlayer).passed_or_onlyNotRun hclean with hproved | honly
      · exact hproved
      · exact absurd honly (h hclean hpassed hrecorded layer hlayer)
    · rintro ⟨hclean, hproved⟩
      refine ⟨hclean, ?_, ?_⟩
      · intro layer hlayer
        obtain ⟨record, hrecord, hat, -⟩ := hproved layer hlayer
        exact ⟨record, hrecord, hat⟩
      · exact ⟨.A, hproved .A (mem_requiredLayersForAdapter _ .A)⟩

/-- An observation of the deterministic matrix, of the given layer and result. -/
def matrixObservation (layer : EvidenceLayer) (result : EvidenceResult) : EvidenceArtifactV2 where
  claimKey := "v2|claude-code|2.1.229|anthropic-messages|r1|codex-oauth|codex|oauth|anthropic-messages|gpt-5|text"
  feature := .text
  layer := layer
  kind := .deterministicFakeMatrix
  fixtureRevision := "r1"
  runnerVersion := "rly-canary-runner/2.0"
  checkedAt := "2026-01-01T00:00:00.000Z"
  result := result
  failureReason := none
  environment := none
  ref := none
  timingMs := none

/-- A document whose layer A passed and whose layers B and C were not run. -/
def halfRunDocument : CompatibilityClaimDocument where
  claimKey := (matrixObservation .A .passed).claimKey
  claimIdentity := claimIdentityFor .claudeCode "2.1.229" "r1" "codex-oauth" "codex" "gpt-5" none
  feature := .text
  records := [matrixObservation .A .passed, matrixObservation .B .notRun,
    matrixObservation .C .notRun]

/-- The half-run document passes without a pass of layers B and C. -/
theorem halfRunDocument_not_statusIsProof : ¬ halfRunDocument.StatusIsProof := by
  rintro ⟨h, -⟩
  have hpassed : claimStatusFor halfRunDocument = .passed := by decide
  obtain ⟨record, hrecord, hlayer, hresult⟩ := (h.1 hpassed).2 .B (by decide)
  revert record
  decide

end RlyGateway
