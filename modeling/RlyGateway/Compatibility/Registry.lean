import RlyGateway.Compatibility.Effective
import RlyGateway.Library.Fallible
import RlyGateway.Registry.ModelRegistry

/-!
# The effective compatibility registry

The runtime facade over the claim, review and quarantine stores: the effective answers for the
features of a registry row, with the seed fallback for a claim that has no document, and the
snapshot the routing consumers read.
-/

namespace RlyGateway

variable (runtime : NodeRuntime)

/-- What the three stores read back for a claim key. A malformed artifact is an error. -/
structure CompatibilityStores where
  loadClaim : String → Except String (Option CompatibilityClaimDocument)
  decisionsFor : String → ClaimFeature → Except String (List ReviewDecision)
  recordsFor : String → ClaimFeature → Except String (List QuarantineRecord)

/-- The facade: its stores, its policy and what it derives claim identities from. -/
structure EffectiveCompatibilityRegistry where
  stores : CompatibilityStores
  policy : CompatibilityPolicy
  client : ClientKind
  adapterForProvider : String → String
  clock : String

/-- The context of one resolution. -/
structure EnforcementContext where
  required : Bool
  experimentalOverride : Option Bool
deriving DecidableEq, Repr

/-- The adapter of a provider in the canary runs, the facade's default. -/
def adapterIdForProvider (providerId : String) : String :=
  match providerId with
  | "openrouter" => "openrouter-direct"
  | "deepseek" => "deepseek-direct"
  | "codex" => "codex-oauth"
  | "cline" => "cline-interop"
  | _ => providerId ++ "-adapter"

/-! ## Seeds -/

/-- What a row's static state says when there is no claim document. -/
inductive SeedCompatibilityHint where
  | trustedSeed
  | experimental
  | broken
  | unknown
deriving DecidableEq, Repr

/-- The seed hint of a row. -/
def seedHintForModel (model : ModelEvidence) : SeedCompatibilityHint :=
  match model.compatibility.state with
  | .VERIFIED => if model.compatibility.claimRef.isNone then .experimental else .trustedSeed
  | .EXPERIMENTAL => .experimental
  | .BROKEN => .broken

/-- The enforcement of a seed answer and its reason. -/
def seedEnforcement (broken : Bool) (context : EnforcementContext) :
    EffectiveEnforcement × Option String :=
  if !context.required then (.allowed, none)
  else if broken then (.blocked, some "seed-broken-fail-closed")
  else if context.experimentalOverride = some true then
    (.experimentalOverride, some "explicit-experimental-override")
  else (.blocked, some "seed-unreviewed-required-feature")

/-- The answer for a claim without a document, from the seed alone. -/
def seedAnswer (seed : SeedCompatibilityHint) (claimKey : String) (feature : ClaimFeature)
    (context : EnforcementContext) : EffectiveCompatibility :=
  let broken := seed = .broken
  let enforced := seedEnforcement broken context
  { claimKey
    feature
    effective := if broken then .untrusted else .experimental
    trust := .none
    health := if broken then .failed else .unknown
    healthReason := if broken then some "seed-broken-state" else none
    freshness := .unknown
    freshnessReason := none
    -- the quarantine records of the claim key are not looked at
    quarantine := .none
    quarantineRecord := none
    quarantineReason := none
    enforcement := enforced.1
    enforcementReason := enforced.2
    layers := fun _ => .missing
    decision := none
    trustReason := if broken then some "seed-broken-state" else none }

namespace EffectiveCompatibilityRegistry

/-! ## Answers -/

/-- The claim identity of a row under the policy. -/
def claimIdentityFor (registry : EffectiveCompatibilityRegistry) (row : ModelEvidence) :
    Except String CompatibilityClaimIdentity :=
  match registry.policy.supportedClientBaseline, registry.policy.pinnedProtocolRevision with
  | some baseline, some revision =>
      .ok (RlyGateway.claimIdentityFor registry.client baseline revision
        (registry.adapterForProvider row.identity.accessProviderId)
        row.identity.accessProviderId row.identity.upstreamModelId row.identity.modelFamily)
  | _, _ => .error ("Compatibility policy must pin supportedClientBaseline and " ++
      "pinnedProtocolRevision to derive claim identities")

/-- The resolution of what the stores hold for one claim and feature. -/
def resolve (registry : EffectiveCompatibilityRegistry) (claimKey : String)
    (feature : ClaimFeature) (claim : Option CompatibilityClaimDocument)
    (decisions : List ReviewDecision) (records : List QuarantineRecord)
    (context : EnforcementContext) : EffectiveCompatibility :=
  resolveEffectiveCompatibility runtime
    { claimKey, feature, claim, decisions
      quarantines := records
      policy := registry.policy
      required := context.required
      experimentalOverride := context.experimentalOverride.getD false
      allowQuarantineBypass := registry.policy.bypass
      now := registry.clock }

/-- The effective answer for one claim key and feature. -/
def effectiveForClaimKey (registry : EffectiveCompatibilityRegistry) (claimKey : String)
    (feature : ClaimFeature) (context : EnforcementContext) :
    Except String EffectiveCompatibility := do
  let claim ← registry.stores.loadClaim claimKey
  let decisions ← registry.stores.decisionsFor claimKey feature
  let records ← registry.stores.recordsFor claimKey feature
  return registry.resolve runtime claimKey feature claim decisions records context

/-- The answer made from what the stores hold: without a claim document it is the seed's. -/
def answerFrom (registry : EffectiveCompatibilityRegistry) (row : ModelEvidence)
    (claimKey : String) (feature : ClaimFeature) (context : EnforcementContext)
    (claim : Option CompatibilityClaimDocument) (decisions : List ReviewDecision)
    (records : List QuarantineRecord) : EffectiveCompatibility :=
  match claim with
  | none => seedAnswer (seedHintForModel row) claimKey feature context
  | some claim => registry.resolve runtime claimKey feature (some claim) decisions records context

/-- One turn of the loop of `effectiveForModel`. -/
def answerForModel (registry : EffectiveCompatibilityRegistry) (row : ModelEvidence)
    (identity : CompatibilityClaimIdentity) (context : EnforcementContext)
    (feature : ClaimFeature) : Except String (ClaimFeature × EffectiveCompatibility) := do
  let claimKey ← claimKeyFor identity feature
  let claim ← registry.stores.loadClaim claimKey
  let decisions ← registry.stores.decisionsFor claimKey feature
  let records ← registry.stores.recordsFor claimKey feature
  return (feature, registry.answerFrom runtime row claimKey feature context claim decisions records)

/-- The effective answers for the given features of a registry row. -/
def effectiveForModel (registry : EffectiveCompatibilityRegistry) (row : ModelEvidence)
    (features : List ClaimFeature) (context : EnforcementContext) :
    Except String (OrderedMap ClaimFeature EffectiveCompatibility) := do
  let identity ← registry.claimIdentityFor row
  let entries ← features.mapM (registry.answerForModel runtime row identity context)
  return OrderedMap.ofList entries

/-- The answers of every row by logical id; a later row with the same id replaces an earlier one. -/
def snapshotForModels (registry : EffectiveCompatibilityRegistry) (rows : List ModelEvidence)
    (featuresFor : ModelEvidence → List ClaimFeature) (context : EnforcementContext) :
    Except String (OrderedMap String (OrderedMap ClaimFeature EffectiveCompatibility)) := do
  let entries ← rows.mapM fun row => do
    let answers ← registry.effectiveForModel runtime row (featuresFor row) context
    return (row.logicalId, answers)
  return OrderedMap.ofList entries

/-! ## What an answer rests on -/

/-- What the stores read back for one row and feature, and the answer made from it. -/
structure Reads (registry : EffectiveCompatibilityRegistry) (row : ModelEvidence)
    (feature : ClaimFeature) (context : EnforcementContext) (answer : EffectiveCompatibility) where
  identity : CompatibilityClaimIdentity
  claimKey : String
  claim : Option CompatibilityClaimDocument
  decisions : List ReviewDecision
  records : List QuarantineRecord
  identity_eq : registry.claimIdentityFor row = .ok identity
  claimKey_eq : claimKeyFor identity feature = .ok claimKey
  claim_eq : registry.stores.loadClaim claimKey = .ok claim
  records_eq : registry.stores.recordsFor claimKey feature = .ok records
  answer_eq : answer = registry.answerFrom runtime row claimKey feature context claim decisions records

theorem answerForModel_eq_ok {registry : EffectiveCompatibilityRegistry} {row : ModelEvidence}
    {identity : CompatibilityClaimIdentity} {context : EnforcementContext}
    {feature : ClaimFeature} {entry : ClaimFeature × EffectiveCompatibility}
    (hidentity : registry.claimIdentityFor row = .ok identity)
    (h : registry.answerForModel runtime row identity context feature = .ok entry) :
    entry.1 = feature ∧ Nonempty (registry.Reads runtime row feature context entry.2) := by
  unfold answerForModel at h
  obtain ⟨claimKey, hkey, h⟩ := Except.bind_eq_ok.1 h
  obtain ⟨claim, hclaim, h⟩ := Except.bind_eq_ok.1 h
  obtain ⟨decisions, hdecisions, h⟩ := Except.bind_eq_ok.1 h
  obtain ⟨records, hrecords, h⟩ := Except.bind_eq_ok.1 h
  cases h
  exact ⟨rfl, ⟨identity, claimKey, claim, decisions, records, hidentity, hkey, hclaim, hrecords,
    rfl⟩⟩

/-- Every feature asked for has the answer of its own turn. -/
theorem get?_effectiveForModel {registry : EffectiveCompatibilityRegistry} {row : ModelEvidence}
    {features : List ClaimFeature} {context : EnforcementContext}
    {answers : OrderedMap ClaimFeature EffectiveCompatibility} {feature : ClaimFeature}
    (h : registry.effectiveForModel runtime row features context = .ok answers)
    (hfeature : feature ∈ features) :
    ∃ identity answer, registry.claimIdentityFor row = .ok identity ∧
      registry.answerForModel runtime row identity context feature = .ok (feature, answer) ∧
        answers.get? feature = some answer := by
  unfold effectiveForModel at h
  obtain ⟨identity, hidentity, h⟩ := Except.bind_eq_ok.1 h
  obtain ⟨entries, hentries, h⟩ := Except.bind_eq_ok.1 h
  cases h
  have hrelated := Except.forall₂_of_mapM_eq_ok hentries
  obtain ⟨entry, hentry, hrun⟩ := hrelated.exists_right hfeature
  have hkey : feature ∈ entries.map Prod.fst :=
    List.mem_map.2 ⟨entry, hentry, (answerForModel_eq_ok runtime hidentity hrun).1⟩
  obtain ⟨answer, hget, hmem⟩ := OrderedMap.exists_get?_ofList hkey
  obtain ⟨feature', hfeature', hrun'⟩ := hrelated.exists_left hmem
  obtain ⟨hsame, -⟩ := answerForModel_eq_ok runtime hidentity hrun'
  cases hsame
  exact ⟨identity, answer, hidentity, hrun', hget⟩

/-- Every feature asked for has an answer, made from what the stores read back for it. -/
theorem exists_answer {registry : EffectiveCompatibilityRegistry} {row : ModelEvidence}
    {features : List ClaimFeature} {context : EnforcementContext}
    {answers : OrderedMap ClaimFeature EffectiveCompatibility} {feature : ClaimFeature}
    (h : registry.effectiveForModel runtime row features context = .ok answers)
    (hfeature : feature ∈ features) :
    ∃ answer, answers.get? feature = some answer ∧
      Nonempty (registry.Reads runtime row feature context answer) := by
  obtain ⟨identity, answer, hidentity, hrun, hget⟩ := get?_effectiveForModel runtime h hfeature
  exact ⟨answer, hget, (answerForModel_eq_ok runtime hidentity hrun).2⟩

/-- The answer for a feature does not depend on what else is asked for. -/
theorem get?_effectiveForModel_eq {registry : EffectiveCompatibilityRegistry}
    {row : ModelEvidence} {features features' : List ClaimFeature} {context : EnforcementContext}
    {answers answers' : OrderedMap ClaimFeature EffectiveCompatibility} {feature : ClaimFeature}
    (h : registry.effectiveForModel runtime row features context = .ok answers)
    (h' : registry.effectiveForModel runtime row features' context = .ok answers')
    (hfeature : feature ∈ features) (hfeature' : feature ∈ features') :
    answers.get? feature = answers'.get? feature := by
  obtain ⟨identity, answer, hidentity, hrun, hget⟩ := get?_effectiveForModel runtime h hfeature
  obtain ⟨identity', answer', hidentity', hrun', hget'⟩ :=
    get?_effectiveForModel runtime h' hfeature'
  cases hidentity.symm.trans hidentity'
  cases hrun.symm.trans hrun'
  rw [hget, hget']

/-- Fewer features can be asked for as well. -/
theorem exists_effectiveForModel {registry : EffectiveCompatibilityRegistry}
    {row : ModelEvidence} {features features' : List ClaimFeature} {context : EnforcementContext}
    {answers : OrderedMap ClaimFeature EffectiveCompatibility}
    (h : registry.effectiveForModel runtime row features context = .ok answers)
    (hsubset : ∀ feature ∈ features', feature ∈ features) :
    ∃ answers', registry.effectiveForModel runtime row features' context = .ok answers' := by
  unfold effectiveForModel at h ⊢
  obtain ⟨identity, hidentity, h⟩ := Except.bind_eq_ok.1 h
  obtain ⟨entries, hentries, -⟩ := Except.bind_eq_ok.1 h
  have hrelated := Except.forall₂_of_mapM_eq_ok hentries
  have heach : ∀ feature ∈ features', ∃ entry,
      registry.answerForModel runtime row identity context feature = .ok entry := by
    intro feature hfeature
    obtain ⟨entry, -, hrun⟩ := hrelated.exists_right (hsubset feature hfeature)
    exact ⟨entry, hrun⟩
  obtain ⟨entries', hentries'⟩ := Except.exists_mapM_eq_ok heach
  exact ⟨_, Except.bind_eq_ok.2 ⟨identity, hidentity, Except.bind_eq_ok.2 ⟨entries', hentries', rfl⟩⟩⟩

/-! ## What a snapshot holds -/

/-- One turn of the loop of `snapshotForModels`. -/
theorem snapshotEntry_eq_ok {registry : EffectiveCompatibilityRegistry} {row : ModelEvidence}
    {features : List ClaimFeature} {context : EnforcementContext}
    {entry : String × OrderedMap ClaimFeature EffectiveCompatibility} :
    (do
      let answers ← registry.effectiveForModel runtime row features context
      return (row.logicalId, answers)) = Except.ok entry ↔
      entry.1 = row.logicalId ∧
        registry.effectiveForModel runtime row features context = .ok entry.2 := by
  rw [Except.bind_eq_ok]
  constructor
  · rintro ⟨answers, hanswers, h⟩
    cases h
    exact ⟨rfl, hanswers⟩
  · rintro ⟨hid, hanswers⟩
    refine ⟨entry.2, hanswers, ?_⟩
    rw [← hid]
    rfl

/-- A row that no other one shares its logical id with has its own answers. -/
theorem get?_snapshotForModels {registry : EffectiveCompatibilityRegistry}
    {rows : List ModelEvidence} {featuresFor : ModelEvidence → List ClaimFeature}
    {context : EnforcementContext}
    {snapshot : OrderedMap String (OrderedMap ClaimFeature EffectiveCompatibility)}
    (h : registry.snapshotForModels runtime rows featuresFor context = .ok snapshot)
    {row : ModelEvidence} (hrow : row ∈ rows)
    (hunique : ∀ other ∈ rows, other.logicalId = row.logicalId → other = row) :
    ∃ answers, snapshot.get? row.logicalId = some answers ∧
      registry.effectiveForModel runtime row (featuresFor row) context = .ok answers := by
  unfold snapshotForModels at h
  obtain ⟨entries, hentries, h⟩ := Except.bind_eq_ok.1 h
  cases h
  have hrelated := Except.forall₂_of_mapM_eq_ok hentries
  obtain ⟨entry, hentry, hrun⟩ := hrelated.exists_right hrow
  have hkey : row.logicalId ∈ entries.map Prod.fst :=
    List.mem_map.2 ⟨entry, hentry, ((snapshotEntry_eq_ok runtime).1 hrun).1⟩
  obtain ⟨answers, hget, hmem⟩ := OrderedMap.exists_get?_ofList hkey
  obtain ⟨other, hother, hrun'⟩ := hrelated.exists_left hmem
  obtain ⟨hid, hanswers⟩ := (snapshotEntry_eq_ok runtime).1 hrun'
  obtain rfl := hunique other hother hid.symm
  exact ⟨answers, hget, hanswers⟩

/-- Fewer rows and features can be asked for as well. -/
theorem exists_snapshotForModels {registry : EffectiveCompatibilityRegistry}
    {rows rows' : List ModelEvidence} {featuresFor featuresFor' : ModelEvidence → List ClaimFeature}
    {context : EnforcementContext}
    {snapshot : OrderedMap String (OrderedMap ClaimFeature EffectiveCompatibility)}
    (h : registry.snapshotForModels runtime rows featuresFor context = .ok snapshot)
    (hrows : ∀ row ∈ rows', row ∈ rows)
    (hfeatures : ∀ row ∈ rows', ∀ feature ∈ featuresFor' row, feature ∈ featuresFor row) :
    ∃ snapshot', registry.snapshotForModels runtime rows' featuresFor' context = .ok snapshot' := by
  unfold snapshotForModels at h ⊢
  obtain ⟨entries, hentries, -⟩ := Except.bind_eq_ok.1 h
  have hrelated := Except.forall₂_of_mapM_eq_ok hentries
  have heach : ∀ row ∈ rows', ∃ entry : String × OrderedMap ClaimFeature EffectiveCompatibility,
      (do
        let answers ← registry.effectiveForModel runtime row (featuresFor' row) context
        return (row.logicalId, answers)) = Except.ok entry := by
    intro row hrow
    obtain ⟨entry, -, hrun⟩ := hrelated.exists_right (hrows row hrow)
    obtain ⟨-, hanswers⟩ := (snapshotEntry_eq_ok runtime).1 hrun
    obtain ⟨answers', hanswers'⟩ := exists_effectiveForModel runtime hanswers (hfeatures row hrow)
    exact ⟨(row.logicalId, answers'), (snapshotEntry_eq_ok runtime).2 ⟨rfl, hanswers'⟩⟩
  obtain ⟨entries', hentries'⟩ := Except.exists_mapM_eq_ok heach
  exact ⟨_, Except.bind_eq_ok.2 ⟨entries', hentries', rfl⟩⟩

/-- A feature of a row that is promoted: the claim passes and is fresh, its latest decision promotes
exactly this evidence, and no quarantine is active. -/
structure Promoted (registry : EffectiveCompatibilityRegistry) (row : ModelEvidence)
    (feature : ClaimFeature) where
  identity : CompatibilityClaimIdentity
  claimKey : String
  claim : CompatibilityClaimDocument
  decisions : List ReviewDecision
  decision : ReviewDecision
  records : List QuarantineRecord
  identity_eq : registry.claimIdentityFor row = .ok identity
  claimKey_eq : claimKeyFor identity feature = .ok claimKey
  claim_eq : registry.stores.loadClaim claimKey = .ok (some claim)
  decisions_eq : registry.stores.decisionsFor claimKey feature = .ok decisions
  records_eq : registry.stores.recordsFor claimKey feature = .ok records
  passed : claimStatusFor claim = .passed
  latest : latestDecision decisions = some decision
  promotes : decision.decision = .promote
  covers : decision.evidenceRevision = evidenceRevisionFor runtime claim
  fresh : (freshnessFor runtime claim decisions registry.policy registry.clock).fresh = true
  clear : isQuarantined records = false

/-- A promoted feature is trusted, whatever the static state of the row. -/
theorem Promoted.trusted {registry : EffectiveCompatibilityRegistry} {row : ModelEvidence}
    {features : List ClaimFeature} {feature : ClaimFeature} {context : EnforcementContext}
    {answers : OrderedMap ClaimFeature EffectiveCompatibility}
    (promoted : registry.Promoted runtime row feature)
    (h : registry.effectiveForModel runtime row features context = .ok answers)
    (hfeature : feature ∈ features) :
    ∃ answer, answers.get? feature = some answer ∧ answer.effective = .trusted ∧
      answer.quarantine = .none := by
  obtain ⟨identity, answer, hidentity, hrun, hget⟩ := get?_effectiveForModel runtime h hfeature
  cases hidentity.symm.trans promoted.identity_eq
  -- the answer is made from what the stores read back for the promoted claim
  unfold answerForModel at hrun
  rw [promoted.claimKey_eq] at hrun
  change (registry.stores.loadClaim promoted.claimKey >>= _) = _ at hrun
  rw [promoted.claim_eq] at hrun
  change (registry.stores.decisionsFor promoted.claimKey feature >>= _) = _ at hrun
  rw [promoted.decisions_eq] at hrun
  change (registry.stores.recordsFor promoted.claimKey feature >>= _) = _ at hrun
  rw [promoted.records_eq] at hrun
  cases hrun
  refine ⟨_, hget, ?_, ?_⟩
  · exact labelFor_eq_trusted runtime promoted.clear rfl promoted.passed promoted.latest
      promoted.promotes promoted.covers promoted.fresh
  · have hnone : (latestQuarantine promoted.records).isNone = true := by
      rw [← Option.not_isSome, Bool.not_eq_true']
      exact promoted.clear
    exact if_pos hnone

/-- With a claim document, an active quarantine record decides the answer. -/
theorem Reads.effective_eq_quarantined {registry : EffectiveCompatibilityRegistry}
    {row : ModelEvidence} {feature : ClaimFeature} {context : EnforcementContext}
    {answer : EffectiveCompatibility} (reads : registry.Reads runtime row feature context answer)
    (hclaim : reads.claim ≠ none) (hactive : ∃ record ∈ reads.records, record.active = true) :
    answer.effective = .quarantined := by
  obtain ⟨claim, hsome⟩ := Option.ne_none_iff_exists'.1 hclaim
  rw [reads.answer_eq, hsome]
  exact effective_of_isQuarantined runtime (isQuarantined_iff.2 hactive)

/-- Without a claim document no answer is quarantined. -/
theorem Reads.effective_ne_quarantined {registry : EffectiveCompatibilityRegistry}
    {row : ModelEvidence} {feature : ClaimFeature} {context : EnforcementContext}
    {answer : EffectiveCompatibility} (reads : registry.Reads runtime row feature context answer)
    (hclaim : reads.claim = none) : answer.effective ≠ .quarantined := by
  rw [reads.answer_eq, hclaim]
  simp only [answerFrom, seedAnswer]
  split <;> simp

end EffectiveCompatibilityRegistry

end RlyGateway
