import RlyGateway.Routing.ModelProjection

/-!
# Quarantine on every path

An active quarantine record of a required feature reaches the effective answer, and through it the
selection and the projection, exactly for the claims that have a document.
-/

namespace RlyGateway

variable (runtime : NodeRuntime)

/-- The answers of a row are a hard negative for the feature: its label is quarantined, no selection
that requires the feature gives the row's model, and no universe lists a row that demands it. The
snapshots are any that hold these answers under the row's logical id. -/
structure HardNegative (policy : CompatibilityPolicy) (row : ModelEvidence)
    (answers : OrderedMap ClaimFeature EffectiveCompatibility) (feature : ClaimFeature) :
    Prop where
  answer : ∃ answer, answers.get? feature = some answer ∧ answer.effective = .quarantined
  selection : ∀ (input : ModelSelectionInput) (registry : RegistryDocument)
    (snapshot : EffectiveSnapshot) (result : ModelSelectionResult),
    snapshot.get? row.logicalId = some answers →
      feature ∈ requiredFeaturesForCapabilities input.requiredCapabilities input.reasoning →
        selectModel input registry (some snapshot) policy.bypass = .ok result →
          result.model.logicalId ≠ row.logicalId
  projection : ∀ (registry : RegistryDocument) (session : ModelUniverseSnapshot)
    (snapshot : EffectiveSnapshot), snapshot.get? row.logicalId = some answers →
      feature ∈ featuresOfEvidence row →
        ¬ ListsRow runtime registry session (some snapshot) row

/-- A quarantined answer is a hard negative at both gates. -/
theorem hardNegative_iff {policy : CompatibilityPolicy} {row : ModelEvidence}
    {answers : OrderedMap ClaimFeature EffectiveCompatibility} {feature : ClaimFeature}
    (hbypass : policy.bypass = false) :
    HardNegative runtime policy row answers feature ↔
      ∃ answer, answers.get? feature = some answer ∧ answer.effective = .quarantined := by
  constructor
  · exact HardNegative.answer
  · intro h
    refine ⟨h, ?_, ?_⟩
    all_goals obtain ⟨answer, hanswer, hquarantined⟩ := h
    · intro input registry snapshot result hanswers hrequired hresult
      rw [hbypass] at hresult
      exact selectModel_ne_of_quarantined hresult hanswers hrequired hanswer hquarantined
    · intro registry session snapshot hanswers hrequired
      exact not_listsRow_of_quarantined runtime hanswers hrequired hanswer hquarantined

/-- An active quarantine record is a hard negative exactly when the claim key has a document. -/
theorem hardNegative_iff_exists_claim {registry : EffectiveCompatibilityRegistry}
    {row : ModelEvidence} {features : List ClaimFeature} {context : EnforcementContext}
    {answers : OrderedMap ClaimFeature EffectiveCompatibility} {feature : ClaimFeature}
    {identity : CompatibilityClaimIdentity} {claimKey : String} {records : List QuarantineRecord}
    (hbypass : registry.policy.bypass = false)
    (hanswers : registry.effectiveForModel runtime row features context = .ok answers)
    (hfeature : feature ∈ features)
    (hidentity : registry.claimIdentityFor row = .ok identity)
    (hkey : claimKeyFor identity feature = .ok claimKey)
    (hrecords : registry.stores.recordsFor claimKey feature = .ok records)
    (hactive : ∃ record ∈ records, record.active = true) :
    HardNegative runtime registry.policy row answers feature ↔
      ∃ claim, registry.stores.loadClaim claimKey = .ok (some claim) := by
  obtain ⟨answer, hanswer, ⟨reads⟩⟩ :=
    EffectiveCompatibilityRegistry.exists_answer runtime hanswers hfeature
  -- the answer was computed from these same reads
  have hidentities : reads.identity = identity :=
    Except.ok.inj (reads.identity_eq.symm.trans hidentity)
  have hkeys : reads.claimKey = claimKey := by
    have h := reads.claimKey_eq
    rw [hidentities, hkey] at h
    exact (Except.ok.inj h).symm
  have hreadRecords : reads.records = records := by
    have h := reads.records_eq
    rw [hkeys, hrecords] at h
    exact (Except.ok.inj h).symm
  have hclaim := reads.claim_eq
  rw [hkeys] at hclaim
  rw [hardNegative_iff runtime hbypass]
  constructor
  · rintro ⟨answer', hanswer', hquarantined⟩
    rw [hanswer, Option.some.injEq] at hanswer'
    subst hanswer'
    cases hnone : reads.claim with
    -- without a document the seed answers, whatever the records say
    | none => exact absurd hquarantined (reads.effective_ne_quarantined runtime hnone)
    | some claim => exact ⟨claim, hnone ▸ hclaim⟩
  · rintro ⟨claim, hsome⟩
    refine ⟨answer, hanswer, reads.effective_eq_quarantined runtime ?_ ?_⟩
    · rw [hclaim, Except.ok.injEq] at hsome
      simp [hsome]
    · rw [hreadRecords]
      exact hactive

/-! ## A quarantined row -/

/-- A row of the registry without reviewed reasoning. -/
def quarantinedRow : ModelEvidence where
  logicalId := "codex/gpt-5"
  identity := ⟨"codex", "gpt-5", none⟩
  verifiedAt := "2026-01-01"
  fixtureVersion := "codex-oauth-chat-v1"
  capabilities := ⟨true, true, false, false, true, false, false, .conservativeEstimate⟩
  limits := ⟨none, none⟩
  reasoning := ⟨true, .binary, none, false, false, false⟩
  compatibility := ⟨.VERIFIED, "claude-code-2.1.229", "canary", "2026-01-01", none⟩

/-- An active quarantine of the row's text feature. -/
def activeRecord : QuarantineRecord where
  claimKey := halfRunDocument.claimKey
  feature := .text
  reason := "strong-reproducible-failure"
  source := "rly-compat-quarantine"
  quarantinedAt := "2026-01-02T00:00:00.000Z"
  quarantineRevision := 1
  rlyBuildVersion := none
  liftedAt := none
  liftedBy := none
  liftReason := none

/-- A registry whose stores hold the active record and, for every key, the given document. -/
def quarantinedRegistry (claim : Option CompatibilityClaimDocument) :
    EffectiveCompatibilityRegistry where
  stores :=
    { loadClaim := fun _ => .ok claim
      decisionsFor := fun _ _ => .ok []
      recordsFor := fun _ _ => .ok [activeRecord] }
  policy := { defaultCompatibilityPolicy with
    supportedClientBaseline := some "2.1.229"
    pinnedProtocolRevision := some "r1" }
  client := .claudeCode
  adapterForProvider := adapterIdForProvider
  clock := "2026-01-02T00:00:00.000Z"

/-- With a document, the quarantined row is a hard negative. -/
theorem hardNegative_with_document : ∃ answers,
    (quarantinedRegistry (some halfRunDocument)).effectiveForModel isoRuntime quarantinedRow [.text]
        ⟨true, none⟩ = .ok answers ∧
      HardNegative isoRuntime (quarantinedRegistry (some halfRunDocument)).policy quarantinedRow
        answers .text := by
  obtain ⟨answers, hanswers⟩ : ∃ answers,
      (quarantinedRegistry (some halfRunDocument)).effectiveForModel isoRuntime quarantinedRow
        [.text] ⟨true, none⟩ = .ok answers := ⟨_, rfl⟩
  have hactive : ∃ record ∈ [activeRecord], record.active = true :=
    ⟨activeRecord, List.mem_cons_self, rfl⟩
  have hclaim : ∃ claim, (quarantinedRegistry (some halfRunDocument)).stores.loadClaim
      halfRunDocument.claimKey = .ok (some claim) := ⟨halfRunDocument, rfl⟩
  exact ⟨answers, hanswers, (hardNegative_iff_exists_claim isoRuntime rfl hanswers
    List.mem_cons_self rfl rfl rfl hactive).2 hclaim⟩

/-- Without a document, the quarantined row is no hard negative. -/
theorem not_hardNegative_without_document : ∃ answers,
    (quarantinedRegistry none).effectiveForModel isoRuntime quarantinedRow [.text]
        ⟨true, none⟩ = .ok answers ∧
      ¬ HardNegative isoRuntime (quarantinedRegistry none).policy quarantinedRow answers .text := by
  refine ⟨_, rfl, ?_⟩
  intro h
  obtain ⟨answer, hanswer, hquarantined⟩ := h.answer
  cases Option.some.inj hanswer
  cases hquarantined

end RlyGateway
