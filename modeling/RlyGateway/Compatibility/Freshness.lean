import RlyGateway.Compatibility.Types
import Mathlib.Tactic.NormNum

/-!
# Freshness of a claim's evidence

The staleness checks of a claim document against the policy. The age and the fixture checks look at
the greatest timestamp and the greatest fixture revision over all observations, of any layer and
any result.
-/

namespace RlyGateway

variable (runtime : NodeRuntime)

/-- The answer of the staleness checks. -/
structure FreshnessResult where
  fresh : Bool
  reason : Option String
deriving DecidableEq, Repr

/-- The greatest observation timestamp, as a text. -/
def latestCheckedAt (claim : CompatibilityClaimDocument) : Option String :=
  greatestText (·.checkedAt) claim.records

/-- The greatest fixture revision, as a text. -/
def latestFixtureRevision (claim : CompatibilityClaimDocument) : Option String :=
  greatestText (·.fixtureRevision) claim.records

/-- Whether both dates can be read and lie further apart than `maxAge`. -/
def ageExceeds (now checkedAt : String) (maxAge : ℚ) : Bool :=
  match runtime.dateParse now, runtime.dateParse checkedAt with
  | some current, some checked => maxAge < (current - checked : ℤ)
  | _, _ => false

/-- The part of the access path that differs from the configured surface. -/
def accessDrift (identity : CompatibilityClaimIdentity) (config : ProviderAccessConfig) :
    Option String :=
  if identity.adapterId ≠ config.adapterId then some "adapter-drift"
  else if identity.authMode ≠ config.authMode then some "auth-mode-drift"
  else if identity.endpointContract ≠ config.endpointContract then some "endpoint-drift"
  else if identity.sourceProtocol ≠ config.sourceProtocol then some "protocol-drift"
  else none

/-- The configured surface of the claim's provider. -/
def accessConfigFor (identity : CompatibilityClaimIdentity) (policy : CompatibilityPolicy) :
    Option ProviderAccessConfig :=
  policy.providerAccessConfig.bind fun configs => configs.get? identity.accessProviderId

/-- The reason given when an optional dependency is set and has drifted. -/
def driftOf {α : Type} (dependency : Option α) (drifted : α → Bool) (reason : String) :
    Option String :=
  if dependency.any drifted then some reason else none

/-- The staleness checks in the order they are made, each with the reason it gives. -/
def driftReasons (claim : CompatibilityClaimDocument) (decisions : List ReviewDecision)
    (policy : CompatibilityPolicy) (now : String) : List (Option String) :=
  let identity := claim.claimIdentity
  [driftOf policy.maxEvidenceAgeMs
      (fun maxAge => (latestCheckedAt claim).any fun checkedAt =>
        ageExceeds runtime now checkedAt maxAge)
      "evidence-age-exceeded",
    driftOf policy.supportedClientBaseline (identity.clientVersion ≠ ·) "client-version-drift",
    driftOf policy.pinnedProtocolRevision (identity.protocolRevision ≠ ·)
      "protocol-revision-drift",
    (accessConfigFor identity policy).bind (accessDrift identity),
    driftOf policy.deprecatedModelFingerprints (identity.physicalModelId ∈ ·)
      "model-fingerprint-drift",
    -- a history without records has no fixture revision, which differs from every pin
    driftOf policy.pinnedFixtureRevision (latestFixtureRevision claim ≠ some ·)
      "fixture-revision-drift",
    driftOf policy.rlyBuildVersion
      (fun build => ((latestDecision decisions).bind (·.rlyBuildVersion)).any (· ≠ build))
      "rly-build-drift"]

/-- The freshness of a claim document and its decisions at the clock value `now`. -/
def freshnessFor (claim : CompatibilityClaimDocument) (decisions : List ReviewDecision)
    (policy : CompatibilityPolicy) (now : String) : FreshnessResult :=
  match (driftReasons runtime claim decisions policy now).findSome? id with
  | some reason => ⟨false, some reason⟩
  | none => ⟨true, none⟩

/-! ## When a claim is fresh -/

/-- None of the pinned identities, access surfaces, fingerprints and builds has drifted. -/
structure PinsHold (claim : CompatibilityClaimDocument) (decisions : List ReviewDecision)
    (policy : CompatibilityPolicy) : Prop where
  client : ∀ baseline ∈ policy.supportedClientBaseline,
    claim.claimIdentity.clientVersion = baseline
  protocol : ∀ revision ∈ policy.pinnedProtocolRevision,
    claim.claimIdentity.protocolRevision = revision
  access : ∀ config ∈ accessConfigFor claim.claimIdentity policy,
    accessDrift claim.claimIdentity config = none
  model : ∀ deprecated ∈ policy.deprecatedModelFingerprints,
    claim.claimIdentity.physicalModelId ∉ deprecated
  build : ∀ build ∈ policy.rlyBuildVersion, ∀ decision ∈ latestDecision decisions,
    ∀ decided ∈ decision.rlyBuildVersion, decided = build

/-- The greatest timestamp and the greatest fixture revision pass the policy. -/
structure GreatestCurrent (claim : CompatibilityClaimDocument) (policy : CompatibilityPolicy)
    (now : String) : Prop where
  age : ∀ maxAge ∈ policy.maxEvidenceAgeMs, ∀ checkedAt ∈ latestCheckedAt claim,
    ageExceeds runtime now checkedAt maxAge = false
  fixture : ∀ revision ∈ policy.pinnedFixtureRevision, latestFixtureRevision claim = some revision

theorem driftOf_eq_none {α : Type} {dependency : Option α} {drifted : α → Bool}
    {reason : String} :
    driftOf dependency drifted reason = none ↔ ∀ a ∈ dependency, drifted a = false := by
  cases dependency <;> simp [driftOf]

/-- A claim is fresh when the pins hold and the two greatest texts pass. -/
theorem freshnessFor_fresh {claim : CompatibilityClaimDocument}
    {decisions : List ReviewDecision} {policy : CompatibilityPolicy} {now : String} :
    (freshnessFor runtime claim decisions policy now).fresh = true ↔
      PinsHold claim decisions policy ∧ GreatestCurrent runtime claim policy now := by
  have hfresh : (freshnessFor runtime claim decisions policy now).fresh = true ↔
      ∀ reason ∈ driftReasons runtime claim decisions policy now, reason = none := by
    have hnone : (driftReasons runtime claim decisions policy now).findSome? id = none ↔
        ∀ reason ∈ driftReasons runtime claim decisions policy now, reason = none :=
      List.findSome?_eq_none_iff
    rw [← hnone]
    unfold freshnessFor
    split <;> simp [*]
  rw [hfresh]
  -- one conjunct for each reason, in the order in which they are tried
  simp only [driftReasons, List.forall_mem_cons, driftOf_eq_none, Option.bind_eq_none_iff]
  constructor
  · rintro ⟨hage, hclient, hprotocol, haccess, hmodel, hfixture, hbuild, -⟩
    refine ⟨⟨?_, ?_, haccess, ?_, ?_⟩, ⟨?_, ?_⟩⟩
    · intro baseline h
      simpa using hclient baseline h
    · intro revision h
      simpa using hprotocol revision h
    · intro deprecated h
      simpa using hmodel deprecated h
    · intro build h decision hdecision decided hdecided
      have hsame := hbuild build h
      rw [Option.mem_def.1 hdecision, Option.bind_some, Option.mem_def.1 hdecided] at hsame
      simpa using hsame
    · intro maxAge h checkedAt hchecked
      have hyoung := hage maxAge h
      rw [Option.mem_def.1 hchecked] at hyoung
      exact hyoung
    · intro revision h
      simpa using hfixture revision h
  · rintro ⟨pins, greatest⟩
    refine ⟨?_, ?_, ?_, pins.access, ?_, ?_, ?_, by simp⟩
    · intro maxAge h
      cases hchecked : latestCheckedAt claim with
      | none => rfl
      | some checkedAt => exact greatest.age maxAge h checkedAt hchecked
    · intro baseline h
      simpa using pins.client baseline h
    · intro revision h
      simpa using pins.protocol revision h
    · intro deprecated h
      simpa using pins.model deprecated h
    · intro revision h
      simpa using greatest.fixture revision h
    · intro build h
      cases hdecision : latestDecision decisions with
      | none => rfl
      | some decision =>
          cases hdecided : decision.rlyBuildVersion with
          | none => simp [hdecided]
          | some decided =>
              have hsame := pins.build build h decision hdecision decided hdecided
              simp [hdecided, hsame]

/-! ## Layers behind a fresh answer -/

/-- The observation is no older than the window and was made against the pinned fixture. -/
structure EvidenceArtifactV2.Current (record : EvidenceArtifactV2) (policy : CompatibilityPolicy)
    (now : String) : Prop where
  age : ∀ maxAge ∈ policy.maxEvidenceAgeMs, ∃ current checked,
    runtime.dateParse now = some current ∧ runtime.dateParse record.checkedAt = some checked ∧
      ((current - checked : ℤ) : ℚ) ≤ maxAge
  fixture : ∀ revision ∈ policy.pinnedFixtureRevision, record.fixtureRevision = revision

/-- The layer has passing observations, and none of them is current. -/
def CompatibilityClaimDocument.OnlyExpired (claim : CompatibilityClaimDocument)
    (policy : CompatibilityPolicy) (now : String) (layer : EvidenceLayer) : Prop :=
  claim.Observed layer .passed ∧
    ∀ record ∈ claim.records, record.layer = layer → record.result = .passed →
      ¬ record.Current runtime policy now

/-- A fresh answer under an age window or a fixture pin means that each required layer with a
passing observation has a current one. -/
def FreshMeansLayersFresh (claim : CompatibilityClaimDocument) (decisions : List ReviewDecision)
    (policy : CompatibilityPolicy) (now : String) : Prop :=
  (freshnessFor runtime claim decisions policy now).fresh = true →
    policy.maxEvidenceAgeMs.isSome ∨ policy.pinnedFixtureRevision.isSome →
      ∀ layer ∈ requiredLayersForAdapter claim.claimIdentity.adapterId,
        claim.Observed layer .passed →
          ∃ record ∈ claim.records, record.layer = layer ∧ record.result = .passed ∧
            record.Current runtime policy now

/-- Without a window and a pin every observation is current. -/
theorem EvidenceArtifactV2.current_of_isNone {record : EvidenceArtifactV2}
    {policy : CompatibilityPolicy} {now : String} (hage : policy.maxEvidenceAgeMs = none)
    (hfixture : policy.pinnedFixtureRevision = none) : record.Current runtime policy now := by
  refine ⟨?_, ?_⟩
  · rw [hage]
    rintro maxAge ⟨⟩
  · rw [hfixture]
    rintro revision ⟨⟩

/-- Fresh means that the required layers are fresh, except where all pins hold, the greatest
timestamp and the greatest fixture revision of the whole history pass, and the passing observations
of some required layer are all expired. -/
theorem freshMeansLayersFresh_iff (claim : CompatibilityClaimDocument)
    (decisions : List ReviewDecision) (policy : CompatibilityPolicy) (now : String) :
    FreshMeansLayersFresh runtime claim decisions policy now ↔
      ¬ (PinsHold claim decisions policy ∧ GreatestCurrent runtime claim policy now ∧
        ∃ layer ∈ requiredLayersForAdapter claim.claimIdentity.adapterId,
          claim.OnlyExpired runtime policy now layer) := by
  unfold FreshMeansLayersFresh
  rw [freshnessFor_fresh]
  constructor
  · rintro h ⟨pins, greatest, layer, hlayer, hpassed, hexpired⟩
    -- an expired observation needs a window or a pin to be expired by
    have hset : policy.maxEvidenceAgeMs.isSome ∨ policy.pinnedFixtureRevision.isSome := by
      by_contra hunset
      simp only [not_or, Option.not_isSome_iff_eq_none] at hunset
      obtain ⟨record, hrecord, hat, hresult⟩ := hpassed
      exact hexpired record hrecord hat hresult
        (EvidenceArtifactV2.current_of_isNone runtime hunset.1 hunset.2)
    obtain ⟨record, hrecord, hat, hresult, hcurrent⟩ := h ⟨pins, greatest⟩ hset layer hlayer hpassed
    exact hexpired record hrecord hat hresult hcurrent
  · rintro h ⟨pins, greatest⟩ - layer hlayer hpassed
    by_contra hnone
    refine h ⟨pins, greatest, layer, hlayer, hpassed, ?_⟩
    intro record hrecord hat hresult hcurrent
    exact hnone ⟨record, hrecord, hat, hresult, hcurrent⟩

/-- A document with a pass of every layer, where those of layers B and C are a year old. -/
def agedDocument : CompatibilityClaimDocument where
  claimKey := halfRunDocument.claimKey
  claimIdentity := halfRunDocument.claimIdentity
  feature := .text
  records := [
    { matrixObservation .B .passed with checkedAt := "2025-01-01T00:00:00.000Z" },
    { matrixObservation .C .passed with checkedAt := "2025-01-01T00:00:00.000Z" },
    matrixObservation .A .passed]

/-- Under a window of one day, the new observation of layer A keeps the aged document fresh. -/
theorem agedDocument_not_freshMeansLayersFresh :
    ¬ FreshMeansLayersFresh isoRuntime agedDocument []
      { defaultCompatibilityPolicy with maxEvidenceAgeMs := some 86400000 }
      "2026-01-01T12:00:00.000Z" := by
  intro h
  obtain ⟨record, hrecord, hlayer, -, hcurrent⟩ :=
    h (by decide) (Or.inl rfl) .B (by decide) (by decide)
  obtain ⟨current, checked, hcurrentAt, hcheckedAt, hyoung⟩ := hcurrent.age 86400000 rfl
  have hnow : isoRuntime.dateParse "2026-01-01T12:00:00.000Z" = some 1767268800000 := by decide
  have haged : ∀ record ∈ agedDocument.records, record.layer = .B →
      isoRuntime.dateParse record.checkedAt = some 1735689600000 := by decide
  rw [hnow] at hcurrentAt
  rw [haged record hrecord hlayer] at hcheckedAt
  cases hcurrentAt
  cases hcheckedAt
  norm_num at hyoung

end RlyGateway
