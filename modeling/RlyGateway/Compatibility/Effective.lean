import RlyGateway.Compatibility.Freshness
import RlyGateway.Core.Capabilities

/-!
# Effective compatibility

The pure resolution of evidence, review decision, quarantine, freshness and policy into one
effective answer for a claim and a feature, and the enforcement of its label.
-/

namespace RlyGateway

variable (runtime : NodeRuntime)

/-! ## Features -/

/-- The digest of a document's observation history. -/
def evidenceRevisionFor (doc : CompatibilityClaimDocument) : String :=
  runtime.sha256Hex (Json.arr (doc.records.map EvidenceArtifactV2.toJson)).stringify

/-- The features a path must be trusted for before it is listed. -/
def REQUIRED_RLY_FEATURES : List ClaimFeature :=
  [.text, .streaming, .cancellation, .toolsSingle, .reasoning, .modelDiscovery,
    .sessionAttribution, .effortSignal, .longRunningSession]

/-- Add a feature to a set of features under a condition. -/
def addFeatureIf (condition : Bool) (feature : ClaimFeature) (features : OrderedSet ClaimFeature) :
    OrderedSet ClaimFeature :=
  if condition then features.add feature else features

/-- The features a request's capabilities demand. -/
def requiredFeaturesForCapabilities (capabilities : List CapabilityRequirement)
    (reasoning : Option ReasoningRequirement) : List ClaimFeature :=
  let withTools := reasoning.any fun reasoning => reasoning.withTools = some true
  let features := OrderedSet.ofList [ClaimFeature.text, .cancellation]
  let features := addFeatureIf (.streaming ∈ capabilities) .streaming features
  let features := addFeatureIf (.tools ∈ capabilities) .toolsSingle features
  let features := addFeatureIf (.tools ∈ capabilities) .toolsMulti features
  let features := addFeatureIf (.parallelTools ∈ capabilities) .toolsParallel features
  let features := addFeatureIf (.reasoning ∈ capabilities) .reasoning features
  let features := addFeatureIf (.redactedReasoning ∈ capabilities) .reasoning features
  let features := addFeatureIf (reasoning.any (·.required)) .reasoning features
  let features := addFeatureIf withTools .reasoningTools features
  let features := addFeatureIf (.reasoning ∈ capabilities ∧ withTools) .reasoningTools features
  features.elems

/-- The features a model's reviewed evidence demands. -/
def requiredFeaturesForEvidence (capabilities : ProviderCapabilities)
    (reasoning : ReasoningCapabilityEvidence) : List ClaimFeature :=
  let features := OrderedSet.ofList REQUIRED_RLY_FEATURES
  let features := addFeatureIf capabilities.tools .toolsMulti features
  let features := addFeatureIf capabilities.parallelTools .toolsParallel features
  let features := addFeatureIf capabilities.reasoning .reasoning features
  let features := addFeatureIf reasoning.reasoningWithTools .reasoningTools features
  features.elems

theorem mem_addFeatureIf {condition : Bool} {feature feature' : ClaimFeature}
    {features : OrderedSet ClaimFeature} :
    feature' ∈ addFeatureIf condition feature features ↔
      (condition = true ∧ feature' = feature) ∨ feature' ∈ features := by
  unfold addFeatureIf
  cases condition with
  | true => simp
  | false => simp

/-- What a request demands, feature by feature. -/
theorem mem_requiredFeaturesForCapabilities {capabilities : List CapabilityRequirement}
    {reasoning : Option ReasoningRequirement} {feature : ClaimFeature}
    (h : feature ∈ requiredFeaturesForCapabilities capabilities reasoning) :
    feature ∈ REQUIRED_RLY_FEATURES ∨ (feature = .toolsMulti ∧ .tools ∈ capabilities) ∨
      (feature = .toolsParallel ∧ .parallelTools ∈ capabilities) ∨
        (feature = .reasoningTools ∧ ∃ requirement, reasoning = some requirement ∧
          requirement.withTools = some true) := by
  have htools : (reasoning.any fun reasoning => reasoning.withTools = some true) = true →
      ∃ requirement, reasoning = some requirement ∧ requirement.withTools = some true := by
    intro hany
    obtain ⟨requirement, hsome, hwith⟩ := (Option.any_eq_true _ _).1 hany
    exact ⟨requirement, hsome, of_decide_eq_true hwith⟩
  unfold requiredFeaturesForCapabilities at h
  simp only [← OrderedSet.mem_def, mem_addFeatureIf, decide_eq_true_eq, OrderedSet.mem_ofList] at h
  rcases h with ⟨⟨-, hwith⟩, rfl⟩ | ⟨hwith, rfl⟩ | ⟨-, rfl⟩ | ⟨-, rfl⟩ | ⟨-, rfl⟩ | ⟨hparallel, rfl⟩ |
    ⟨hmulti, rfl⟩ | ⟨-, rfl⟩ | ⟨-, rfl⟩ | hbase
  · exact .inr (.inr (.inr ⟨rfl, htools hwith⟩))
  · exact .inr (.inr (.inr ⟨rfl, htools hwith⟩))
  · exact .inl (by decide)
  · exact .inl (by decide)
  · exact .inl (by decide)
  · exact .inr (.inr (.inl ⟨rfl, hparallel⟩))
  · exact .inr (.inl ⟨rfl, hmulti⟩)
  · exact .inl (by decide)
  · exact .inl (by decide)
  · left
    rw [List.mem_cons, List.mem_singleton] at hbase
    rcases hbase with rfl | rfl
    · decide
    · decide

/-- What the evidence of a model demands, feature by feature. -/
theorem mem_requiredFeaturesForEvidence {capabilities : ProviderCapabilities}
    {reasoning : ReasoningCapabilityEvidence} {feature : ClaimFeature} :
    feature ∈ requiredFeaturesForEvidence capabilities reasoning ↔
      feature ∈ REQUIRED_RLY_FEATURES ∨ (capabilities.tools = true ∧ feature = .toolsMulti) ∨
        (capabilities.parallelTools = true ∧ feature = .toolsParallel) ∨
          (reasoning.reasoningWithTools = true ∧ feature = .reasoningTools) := by
  unfold requiredFeaturesForEvidence
  simp only [← OrderedSet.mem_def, mem_addFeatureIf, OrderedSet.mem_ofList]
  have hreasoning : ClaimFeature.reasoning ∈ REQUIRED_RLY_FEATURES := by decide
  constructor
  · rintro (⟨h, rfl⟩ | ⟨-, rfl⟩ | ⟨h, rfl⟩ | ⟨h, rfl⟩ | h)
    · exact .inr (.inr (.inr ⟨h, rfl⟩))
    · exact .inl hreasoning
    · exact .inr (.inr (.inl ⟨h, rfl⟩))
    · exact .inr (.inl ⟨h, rfl⟩)
    · exact .inl h
  · rintro (h | ⟨h, rfl⟩ | ⟨h, rfl⟩ | ⟨h, rfl⟩)
    · exact .inr (.inr (.inr (.inr h)))
    · exact .inr (.inr (.inr (.inl ⟨h, rfl⟩)))
    · exact .inr (.inr (.inl ⟨h, rfl⟩))
    · exact .inl ⟨h, rfl⟩

/-! ## The dimensions of an answer -/

/-- The reviewed-trust dimension. -/
inductive EffectiveTrust where
  | reviewed
  | none
  | rejected
  | reviewStale
deriving DecidableEq, Repr

/-- The observed-health dimension. -/
inductive EffectiveHealth where
  | healthy
  | degraded
  | failed
  | unknown
deriving DecidableEq, Repr

/-- The freshness dimension. -/
inductive EffectiveFreshness where
  | fresh
  | stale
  | unknown
deriving DecidableEq, Repr

/-- The quarantine dimension. -/
inductive EffectiveQuarantine where
  | none
  | active
deriving DecidableEq, Repr

/-- The enforcement dimension. -/
inductive EffectiveEnforcement where
  | allowed
  | blocked
  | experimentalOverride
  | quarantineBypass
deriving DecidableEq, Repr

/-- The summary label. -/
inductive EffectiveCompatibilityLabel where
  | trusted
  | stale
  | experimental
  | untrusted
  | quarantined
  | missing
deriving DecidableEq, Repr

/-- The metadata of the latest decision. -/
structure DecisionMetadata where
  decision : ReviewDecisionKind
  decisionRevision : ℕ
  reviewer : String
  source : String
  decidedAt : String
deriving DecidableEq, Repr

/-- The metadata of the active quarantine. -/
structure QuarantineMetadata where
  source : String
  quarantinedAt : String
  quarantineRevision : ℕ
deriving DecidableEq, Repr

/-- One effective answer for one claim key and feature. -/
structure EffectiveCompatibility where
  claimKey : String
  feature : ClaimFeature
  effective : EffectiveCompatibilityLabel
  trust : EffectiveTrust
  health : EffectiveHealth
  freshness : EffectiveFreshness
  quarantine : EffectiveQuarantine
  enforcement : EffectiveEnforcement
  layers : EvidenceLayer → ClaimStatus
  decision : Option DecisionMetadata
  quarantineRecord : Option QuarantineMetadata
  trustReason : Option String
  healthReason : Option String
  freshnessReason : Option String
  quarantineReason : Option String
  enforcementReason : Option String

/-- What the resolution of one claim and feature takes. -/
structure EffectiveResolutionInput where
  claimKey : String
  feature : ClaimFeature
  claim : Option CompatibilityClaimDocument
  decisions : List ReviewDecision
  quarantines : List QuarantineRecord
  policy : CompatibilityPolicy
  required : Bool
  experimentalOverride : Bool
  allowQuarantineBypass : Bool
  now : String

/-! ## Enforcement -/

/-- The context a label is enforced in. -/
structure EnforcementInput where
  required : Bool
  experimentalOverride : Bool
  allowQuarantineBypass : Bool
deriving DecidableEq, Repr

/-- The enforcement of a label and its reason. -/
def enforceEffective (label : EffectiveCompatibilityLabel) (input : EnforcementInput) :
    EffectiveEnforcement × Option String :=
  if !input.required then (.allowed, none)
  else match label with
    | .trusted => (.allowed, none)
    | .quarantined =>
        if input.allowQuarantineBypass then (.quarantineBypass, some "admin-quarantine-bypass")
        else (.blocked, some "quarantined-fail-closed")
    | .experimental =>
        if input.experimentalOverride then
          (.experimentalOverride, some "explicit-experimental-override")
        else (.blocked, some "unreviewed-experimental")
    | .stale =>
        if input.experimentalOverride then
          (.experimentalOverride, some "explicit-experimental-override")
        else (.blocked, some "stale-positive-not-trusted")
    | .untrusted => (.blocked, some "untrusted-required-feature")
    | .missing => (.blocked, some "missing-evidence-fail-closed")

/-- A quarantined label of a required feature is blocked unless the policy has the bypass. -/
theorem enforceEffective_quarantined {input : EnforcementInput} (hrequired : input.required = true)
    (hbypass : input.allowQuarantineBypass = false) :
    (enforceEffective .quarantined input).1 = .blocked := by
  simp [enforceEffective, hrequired, hbypass]

/-- A required feature is allowed under an override when its label is positive. -/
theorem enforceEffective_of_positive {label : EffectiveCompatibilityLabel} {input : EnforcementInput}
    (hoverride : input.experimentalOverride = true)
    (hlabel : label = .trusted ∨ label = .experimental ∨ label = .stale) :
    (enforceEffective label input).1 ≠ .blocked := by
  unfold enforceEffective
  rcases hlabel with rfl | rfl | rfl
  · split <;> simp
  · simp only [hoverride, if_true]
    split <;> simp
  · simp only [hoverride, if_true]
    split <;> simp

/-! ## Resolution -/

/-- The health an evidence status stands for, with its reason. -/
def healthFromStatus (status : ClaimStatus) (hasAnyEvidence : Bool) :
    EffectiveHealth × Option String :=
  if !hasAnyEvidence then (.unknown, none)
  else match status with
    | .passed => (.healthy, none)
    | .failed => (.failed, some "failed-observation")
    | .notRun => (.degraded, some "required-layer-missing")
    | .missing => (.unknown, none)

/-- The summary label. -/
def labelFor (input : EffectiveResolutionInput) : EffectiveCompatibilityLabel :=
  if isQuarantined input.quarantines then .quarantined
  else match input.claim with
    | none => .missing
    | some claim =>
      let status := claimStatusFor claim
      if status = .failed then .untrusted
      else match latestDecision input.decisions with
        | some decision =>
          if decision.decision = .reject then .untrusted
          else if !decisionCovers (some decision) (evidenceRevisionFor runtime claim) then
            .untrusted
          else if status ≠ .passed then .untrusted
          else if !(freshnessFor runtime claim input.decisions input.policy input.now).fresh then
            .stale
          else .trusted
        -- an unreviewed pass is experimental at most
        | none => if status = .passed then .experimental else .untrusted

/-- The trust dimension and its reason. -/
def trustFor (decision : Option ReviewDecision) (evidenceRevision : Option String)
    (status : ClaimStatus) : EffectiveTrust × Option String :=
  match decision with
  | none => (.none, none)
  | some decision =>
      if decision.decision = .reject then (.rejected, some "explicit-rejection")
      else if !decisionCovers (some decision) (evidenceRevision.getD "") then
        (.reviewStale, some "evidence-updated-after-review")
      else if status ≠ .passed then
        (.reviewStale, some "decision-contradicted-by-evidence")
      else (.reviewed, none)

/-- A passing and fresh claim is trusted by a promotion of exactly its evidence. -/
theorem labelFor_eq_trusted {input : EffectiveResolutionInput} {claim : CompatibilityClaimDocument}
    {decision : ReviewDecision} (hclear : isQuarantined input.quarantines = false)
    (hclaim : input.claim = some claim) (hpassed : claimStatusFor claim = .passed)
    (hdecision : latestDecision input.decisions = some decision)
    (hpromote : decision.decision = .promote)
    (hcovers : decision.evidenceRevision = evidenceRevisionFor runtime claim)
    (hfresh : (freshnessFor runtime claim input.decisions input.policy input.now).fresh = true) :
    labelFor runtime input = .trusted := by
  have hcovered : decisionCovers (some decision) (evidenceRevisionFor runtime claim) = true := by
    rw [← hcovers]
    exact decide_eq_true rfl
  simp [labelFor, hclear, hclaim, hpassed, hdecision, hpromote, hcovered, hfresh]

/-- The effective answer for one claim and feature. -/
def resolveEffectiveCompatibility (input : EffectiveResolutionInput) : EffectiveCompatibility :=
  let status := input.claim.elim .missing claimStatusFor
  let quarantine := latestQuarantine input.quarantines
  let decision := latestDecision input.decisions
  let freshness := input.claim.map fun claim =>
    freshnessFor runtime claim input.decisions input.policy input.now
  let trust := trustFor decision (input.claim.map (evidenceRevisionFor runtime)) status
  let health := healthFromStatus status (input.claim.any (·.records ≠ []))
  let label := labelFor runtime input
  let enforced := enforceEffective label
    ⟨input.required, input.experimentalOverride, input.allowQuarantineBypass⟩
  { claimKey := input.claimKey
    feature := input.feature
    effective := label
    trust := trust.1
    health := health.1
    healthReason := health.2
    freshness := match freshness with
      | none => .unknown
      | some result => if result.fresh then .fresh else .stale
    freshnessReason := freshness.bind fun result => if result.fresh then none else result.reason
    quarantine := if quarantine.isNone then .none else .active
    quarantineRecord := quarantine.map fun record =>
      ⟨record.source, record.quarantinedAt, record.quarantineRevision⟩
    quarantineReason := quarantine.map (·.reason)
    enforcement := enforced.1
    enforcementReason := enforced.2
    layers := input.claim.elim (fun _ => .missing) layerStatuses
    decision := decision.map fun decision =>
      ⟨decision.decision, decision.decisionRevision, decision.reviewer, decision.source,
        decision.decidedAt⟩
    trustReason := trust.2 }

/-- An active quarantine decides the label, whatever the evidence and the decisions. -/
theorem effective_of_isQuarantined {input : EffectiveResolutionInput}
    (h : isQuarantined input.quarantines = true) :
    (resolveEffectiveCompatibility runtime input).effective = .quarantined := by
  simp only [resolveEffectiveCompatibility, labelFor, if_pos h]

/-! ## What the label summarises -/

/-- The health of a claim is good exactly when it passes. -/
theorem healthFromStatus_eq_healthy (claim : CompatibilityClaimDocument) :
    (healthFromStatus (claimStatusFor claim) (decide (claim.records ≠ []))).1 = .healthy ↔
      claimStatusFor claim = .passed := by
  unfold healthFromStatus
  by_cases hrecords : claim.records = []
  · have hmissing : claimStatusFor claim = .missing := by rw [claimStatusFor, if_pos hrecords]
    simp [hrecords, hmissing]
  · cases hstatus : claimStatusFor claim <;> simp [hrecords]

/-- A claim is trusted to be reviewed by a decision of exactly its evidence that is no rejection,
while it passes. -/
theorem trustFor_eq_reviewed {decision : Option ReviewDecision} {evidenceRevision : String}
    {status : ClaimStatus} :
    (trustFor decision (some evidenceRevision) status).1 = .reviewed ↔
      ∃ reviewed, decision = some reviewed ∧ reviewed.decision ≠ .reject ∧
        decisionCovers (some reviewed) evidenceRevision = true ∧ status = .passed := by
  cases decision with
  | none => simp [trustFor]
  | some reviewed =>
      unfold trustFor
      dsimp only
      rw [Option.getD_some]
      split
      · rename_i hreject
        simp [hreject]
      · rename_i hreject
        split
        · rename_i hcovers
          simp_all
        · rename_i hcovers
          split
          · rename_i hstatus
            simp [hstatus]
          · rename_i hstatus
            simp_all

/-- The label of a claim that is not quarantined and was reviewed by a decision of its evidence. -/
theorem labelFor_of_reviewed {input : EffectiveResolutionInput} {claim : CompatibilityClaimDocument}
    {decision : ReviewDecision} (hclear : isQuarantined input.quarantines = false)
    (hclaim : input.claim = some claim) (hdecision : latestDecision input.decisions = some decision)
    (haccepted : decision.decision ≠ .reject)
    (hcovers : decisionCovers (some decision) (evidenceRevisionFor runtime claim) = true)
    (hpassed : claimStatusFor claim = .passed) :
    labelFor runtime input =
      if (freshnessFor runtime claim input.decisions input.policy input.now).fresh then .trusted
      else .stale := by
  cases hfresh : (freshnessFor runtime claim input.decisions input.policy input.now).fresh <;>
    simp [labelFor, hclear, hclaim, hdecision, haccepted, hcovers, hpassed, hfresh]

/-- Without a review that is trusted, no claim is trusted or stale. -/
theorem labelFor_of_not_reviewed {input : EffectiveResolutionInput}
    {claim : CompatibilityClaimDocument} (hclear : isQuarantined input.quarantines = false)
    (hclaim : input.claim = some claim)
    (hnot : ¬ ∃ decision, latestDecision input.decisions = some decision ∧
      decision.decision ≠ .reject ∧
      decisionCovers (some decision) (evidenceRevisionFor runtime claim) = true ∧
      claimStatusFor claim = .passed) :
    labelFor runtime input =
      if latestDecision input.decisions = none ∧ claimStatusFor claim = .passed then .experimental
      else .untrusted := by
  cases hdecision : latestDecision input.decisions with
  | none =>
      by_cases hpassed : claimStatusFor claim = .passed
      · simp [labelFor, hclear, hclaim, hdecision, hpassed]
      · simp [labelFor, hclear, hclaim, hdecision, hpassed]
  | some decision =>
      rw [if_neg (by simp)]
      by_cases hreject : decision.decision = .reject
      · simp [labelFor, hclear, hclaim, hdecision, hreject]
      by_cases hcovers : decisionCovers (some decision) (evidenceRevisionFor runtime claim) = true
      · have hpassed : claimStatusFor claim ≠ .passed := fun hpassed =>
          hnot ⟨decision, hdecision, hreject, hcovers, hpassed⟩
        simp [labelFor, hclear, hclaim, hdecision, hpassed]
      · simp [labelFor, hclear, hclaim, hdecision, hcovers]

/-- The label says what the dimensions of an answer say. -/
structure Summarises (input : EffectiveResolutionInput) (answer : EffectiveCompatibility) :
    Prop where
  trusted : answer.effective = .trusted ↔ answer.trust = .reviewed ∧ answer.health = .healthy ∧
    answer.freshness = .fresh ∧ answer.quarantine = .none
  quarantined : answer.effective = .quarantined ↔ answer.quarantine = .active
  stale : answer.effective = .stale ↔ answer.trust = .reviewed ∧ answer.health = .healthy ∧
    answer.freshness = .stale ∧ answer.quarantine = .none
  untrusted : answer.trust = .rejected ∨ answer.trust = .reviewStale → answer.quarantine = .none →
    input.claim.isSome → answer.effective = .untrusted

theorem trustFor_none (evidenceRevision : Option String) (status : ClaimStatus) :
    (trustFor none evidenceRevision status).1 = .none :=
  rfl

/-- The label of an answer and its dimensions agree, whatever the histories are. -/
theorem summarises_resolveEffectiveCompatibility (input : EffectiveResolutionInput) :
    Summarises input (resolveEffectiveCompatibility runtime input) := by
  have hquarantine : (resolveEffectiveCompatibility runtime input).quarantine =
      if (latestQuarantine input.quarantines).isNone then .none else .active := rfl
  cases hlatest : latestQuarantine input.quarantines with
  | some record =>
      have hlabel : (resolveEffectiveCompatibility runtime input).effective = .quarantined :=
        effective_of_isQuarantined runtime (by rw [isQuarantined, hlatest]; rfl)
      rw [hlatest] at hquarantine
      constructor <;> simp [hlabel, hquarantine]
  | none =>
      rw [hlatest] at hquarantine
      have hclear : isQuarantined input.quarantines = false := by rw [isQuarantined, hlatest]; rfl
      cases hclaim : input.claim with
      | none =>
          have hlabel : (resolveEffectiveCompatibility runtime input).effective = .missing := by
            simp [resolveEffectiveCompatibility, labelFor, hclear, hclaim]
          have hfreshness : (resolveEffectiveCompatibility runtime input).freshness = .unknown := by
            simp [resolveEffectiveCompatibility, hclaim]
          constructor <;> simp [hlabel, hquarantine, hfreshness, hclaim]
      | some claim =>
          have hlabel : (resolveEffectiveCompatibility runtime input).effective =
            labelFor runtime input := rfl
          have htrust : (resolveEffectiveCompatibility runtime input).trust =
              (trustFor (latestDecision input.decisions) (some (evidenceRevisionFor runtime claim))
                (claimStatusFor claim)).1 := by
            simp [resolveEffectiveCompatibility, hclaim]
          have hhealth : (resolveEffectiveCompatibility runtime input).health =
              (healthFromStatus (claimStatusFor claim) (decide (claim.records ≠ []))).1 := by
            simp [resolveEffectiveCompatibility, hclaim]
          have hfreshness : (resolveEffectiveCompatibility runtime input).freshness =
              if (freshnessFor runtime claim input.decisions input.policy input.now).fresh then .fresh
              else .stale := by
            simp [resolveEffectiveCompatibility, hclaim]
          by_cases hreviewed : ∃ decision, latestDecision input.decisions = some decision ∧
              decision.decision ≠ .reject ∧
              decisionCovers (some decision) (evidenceRevisionFor runtime claim) = true ∧
              claimStatusFor claim = .passed
          · obtain ⟨decision, hdecision, haccepted, hcovers, hpassed⟩ := hreviewed
            rw [labelFor_of_reviewed runtime hclear hclaim hdecision haccepted hcovers hpassed]
              at hlabel
            rw [trustFor_eq_reviewed.2 ⟨decision, hdecision, haccepted, hcovers, hpassed⟩] at htrust
            rw [(healthFromStatus_eq_healthy claim).2 hpassed] at hhealth
            constructor <;> rw [hlabel] <;> simp only [hquarantine, htrust, hhealth, hfreshness] <;>
              split <;> simp
          · have huntrusted : (resolveEffectiveCompatibility runtime input).trust ≠ .reviewed := by
              rw [htrust]
              exact fun h => hreviewed (trustFor_eq_reviewed.1 h)
            rw [labelFor_of_not_reviewed runtime hclear hclaim hreviewed] at hlabel
            refine ⟨?_, ?_, ?_, ?_⟩
            · rw [hlabel]
              split <;> simp [huntrusted]
            · rw [hlabel, hquarantine]
              split <;> simp
            · rw [hlabel]
              split <;> simp [huntrusted]
            · intro hdoubted _ _
              rw [hlabel]
              refine if_neg ?_
              rintro ⟨hnone, -⟩
              rw [htrust, hnone, trustFor_none] at hdoubted
              rcases hdoubted with h | h <;> cases h

end RlyGateway
