import RlyGateway.Routing.ModelProjection

/-!
# The projection gate

With answers for a row, the projection lists it by the answers that are there for the features its
evidence demands. The gate it is meant to apply asks for an answer for each of these features.
-/

namespace RlyGateway

variable (runtime : NodeRuntime)

/-- The answer is quarantined, by its dimension or by its label. -/
def EffectiveCompatibility.Quarantined (answer : EffectiveCompatibility) : Prop :=
  answer.quarantine = .active ∨ answer.effective = .quarantined

/-- The answer has evidence behind it that is not trusted. -/
def EffectiveCompatibility.EvidenceBacked (answer : EffectiveCompatibility) : Prop :=
  answer.effective = .experimental ∨ answer.effective = .stale

/-- The answers that are there for the features a row's evidence demands. -/
def demandedAnswers (evidence : ModelEvidence)
    (answers : OrderedMap ClaimFeature EffectiveCompatibility) : List EffectiveCompatibility :=
  (featuresOfEvidence evidence).filterMap answers.get?

/-- Every feature that the row's evidence demands has an answer. -/
def AnsweredThroughout (evidence : ModelEvidence)
    (answers : OrderedMap ClaimFeature EffectiveCompatibility) : Prop :=
  ∀ feature ∈ featuresOfEvidence evidence, ∃ answer, answers.get? feature = some answer

/-- What a row has to pass to be listed: an answer for each demanded feature, none quarantined, and
all of them trusted, or with the opt-in at least backed by evidence. -/
structure PassesGate (evidence : ModelEvidence)
    (answers : OrderedMap ClaimFeature EffectiveCompatibility) (experimentalModels : Bool) :
    Prop where
  answered : AnsweredThroughout evidence answers
  clear : ∀ answer ∈ demandedAnswers evidence answers, ¬ answer.Quarantined
  labels : (∀ answer ∈ demandedAnswers evidence answers, answer.effective = .trusted) ∨
    (experimentalModels = true ∧ ∀ answer ∈ demandedAnswers evidence answers,
      answer.effective = .trusted ∨ answer.EvidenceBacked)

/-- The answers with the one for a feature improved to trusted. -/
def improveAnswer (answers : OrderedMap ClaimFeature EffectiveCompatibility)
    (feature : ClaimFeature) (answer : EffectiveCompatibility) :
    OrderedMap ClaimFeature EffectiveCompatibility :=
  answers.set feature { answer with effective := .trusted }

/-- The universe lists a row by the gate: exactly when it passes, still after an answer has been
improved, and never with an answer missing. -/
structure ListsByGate (registry : RegistryDocument) (snapshot : ModelUniverseSnapshot)
    (effective : EffectiveSnapshot) (row : ModelEvidence)
    (answers : OrderedMap ClaimFeature EffectiveCompatibility) : Prop where
  gate : ListsRow runtime registry snapshot (some effective) row ↔
    PassesGate row answers snapshot.experimentalModels
  improved : ∀ feature answer, answers.get? feature = some answer → answer.EvidenceBacked →
    ListsRow runtime registry snapshot (some effective) row →
      ListsRow runtime registry snapshot
        (some (effective.set row.logicalId (improveAnswer answers feature answer))) row
  missing : ∀ feature ∈ featuresOfEvidence row, answers.get? feature = none →
    ¬ ListsRow runtime registry snapshot (some effective) row

/-- The answers at which the listing agrees with the gate. One of them is quarantined; or an answer
is missing and the others already keep the row out; or none is missing, and there is no opt-in, all
are trusted, or one is neither trusted nor backed by evidence. -/
def GatedExactly (evidence : ModelEvidence)
    (answers : OrderedMap ClaimFeature EffectiveCompatibility) (experimentalModels : Bool) : Prop :=
  (∃ answer ∈ demandedAnswers evidence answers, answer.Quarantined) ∨
    (¬ AnsweredThroughout evidence answers ∧
      (∃ answer ∈ demandedAnswers evidence answers, answer.effective ≠ .trusted) ∧
        (experimentalModels = false ∨
          ∃ answer ∈ demandedAnswers evidence answers, ¬ answer.EvidenceBacked)) ∨
      (AnsweredThroughout evidence answers ∧
        (experimentalModels = false ∨
          (∀ answer ∈ demandedAnswers evidence answers, answer.effective = .trusted) ∨
            ∃ answer ∈ demandedAnswers evidence answers,
              answer.effective ≠ .trusted ∧ ¬ answer.EvidenceBacked))

/-! ## What the listing reads -/

section Reads

variable {evidence : ModelEvidence} {answers : OrderedMap ClaimFeature EffectiveCompatibility}
  {experimentalModels : Bool}

theorem mem_demandedAnswers {answer : EffectiveCompatibility} :
    answer ∈ demandedAnswers evidence answers ↔
      ∃ feature ∈ featuresOfEvidence evidence, answers.get? feature = some answer :=
  List.mem_filterMap

/-- The listing only quantifies over the answers that are there. -/
theorem projectionEligible_iff :
    projectionEligible evidence answers experimentalModels = true ↔
      (∀ answer ∈ demandedAnswers evidence answers, ¬ answer.Quarantined) ∧
        ((∀ answer ∈ demandedAnswers evidence answers, answer.effective = .trusted) ∨
          (experimentalModels = true ∧
            ∀ answer ∈ demandedAnswers evidence answers, answer.EvidenceBacked)) := by
  unfold projectionEligible
  change (if (demandedAnswers evidence answers).any _ = true then false
    else if (demandedAnswers evidence answers).all _ = true then true
    else if (!experimentalModels) = true then false
    else (demandedAnswers evidence answers).all _) = true ↔ _
  simp only [List.any_eq_true, List.all_eq_true, decide_eq_true_eq]
  by_cases hquarantined : ∃ answer ∈ demandedAnswers evidence answers,
      answer.quarantine = .active ∨ answer.effective = .quarantined
  · obtain ⟨answer, hmem, hanswer⟩ := hquarantined
    rw [if_pos ⟨answer, hmem, hanswer⟩]
    constructor
    · intro h
      cases h
    · rintro ⟨hclear, -⟩
      exact absurd hanswer (hclear answer hmem)
  · rw [if_neg hquarantined]
    have hclear : ∀ answer ∈ demandedAnswers evidence answers, ¬ answer.Quarantined := by
      intro answer hmem hanswer
      exact hquarantined ⟨answer, hmem, hanswer⟩
    by_cases htrusted : ∀ answer ∈ demandedAnswers evidence answers, answer.effective = .trusted
    · rw [if_pos htrusted]
      exact ⟨fun _ => ⟨hclear, .inl htrusted⟩, fun _ => rfl⟩
    · rw [if_neg htrusted]
      cases experimentalModels with
      | false => simp [htrusted]
      | true =>
          simp only [Bool.not_true, Bool.false_eq_true, if_false, List.all_eq_true,
            decide_eq_true_eq, true_and]
          constructor
          · intro hbacked
            exact ⟨hclear, .inr hbacked⟩
          · rintro ⟨-, h⟩
            exact h.resolve_left htrusted

/-- An answer for a feature that the evidence does not demand is not read. -/
theorem projectionEligible_set {feature : ClaimFeature} (answer : EffectiveCompatibility)
    (h : feature ∉ featuresOfEvidence evidence) :
    projectionEligible evidence (answers.set feature answer) experimentalModels =
      projectionEligible evidence answers experimentalModels := by
  have hsame : (featuresOfEvidence evidence).filterMap (answers.set feature answer).get? =
      (featuresOfEvidence evidence).filterMap answers.get? := by
    refine List.filterMap_congr fun other hother => ?_
    refine answers.get?_set_ne ?_ answer
    rintro rfl
    exact h hother
  unfold projectionEligible
  rw [hsame]

theorem text_mem_featuresOfEvidence (evidence : ModelEvidence) :
    ClaimFeature.text ∈ featuresOfEvidence evidence :=
  mem_requiredFeaturesForEvidence.2 (.inl (by decide))

theorem streaming_mem_featuresOfEvidence (evidence : ModelEvidence) :
    ClaimFeature.streaming ∈ featuresOfEvidence evidence :=
  mem_requiredFeaturesForEvidence.2 (.inl (by decide))

theorem EffectiveCompatibility.EvidenceBacked.ne_trusted {answer : EffectiveCompatibility}
    (h : answer.EvidenceBacked) : answer.effective ≠ .trusted := by
  rcases h with h | h <;> simp [h]

end Reads

section Listing

variable {registry : RegistryDocument} {snapshot : ModelUniverseSnapshot}
  {effective : EffectiveSnapshot} {binding : ProviderPoolBinding} {row : ModelEvidence}
  {answers : OrderedMap ClaimFeature EffectiveCompatibility}

/-- A bound row with answers is listed when these allow it. -/
theorem listsRow_iff_projectionEligible (hbinding : binding ∈ snapshot.bindings)
    (hrow : row ∈ modelsForProvider registry binding.providerName)
    (hanswers : effective.get? row.logicalId = some answers) (hsize : answers.size ≠ 0) :
    ListsRow runtime registry snapshot (some effective) row ↔
      projectionEligible row answers snapshot.experimentalModels = true := by
  have hfilter : ((some effective).bind (·.get? row.logicalId)).filter (·.size ≠ 0) =
      some answers := by
    rw [Option.bind_some, hanswers]
    simp [hsize]
  have heligible : rowEligible snapshot (some effective) row =
      projectionEligible row answers snapshot.experimentalModels := by
    unfold rowEligible
    rw [hfilter]
  rw [← heligible]
  constructor
  · rintro ⟨other, -, -, hlisted⟩
    exact (exists_projectEvidence_iff runtime).1 (Option.isSome_iff_exists.1 hlisted)
  · intro h
    exact ⟨binding, hbinding, hrow,
      Option.isSome_iff_exists.2 ((exists_projectEvidence_iff runtime).2 h)⟩

/-- After an answer has been improved, the row is listed when the new answers allow it. -/
theorem listsRow_improveAnswer_iff (hbinding : binding ∈ snapshot.bindings)
    (hrow : row ∈ modelsForProvider registry binding.providerName) (feature : ClaimFeature)
    (answer : EffectiveCompatibility) :
    ListsRow runtime registry snapshot
        (some (effective.set row.logicalId (improveAnswer answers feature answer))) row ↔
      projectionEligible row (improveAnswer answers feature answer)
        snapshot.experimentalModels = true :=
  listsRow_iff_projectionEligible runtime hbinding hrow (OrderedMap.get?_set_self _ _ _)
    (OrderedMap.size_pos_of_get? (OrderedMap.get?_set_self _ _ _)).ne'

/-! ## Where the listing is the gate -/

/-- Of answers that only the opt-in lets through, one improved alone takes the row off the list. -/
theorem projectionEligible_improveAnswer (hanswered : AnsweredThroughout row answers)
    (hbacked : ∀ answer ∈ demandedAnswers row answers, answer.EvidenceBacked)
    (experimentalModels : Bool) (answer : EffectiveCompatibility) :
    projectionEligible row (improveAnswer answers .text answer) experimentalModels = false := by
  obtain ⟨streaming, hstreaming⟩ := hanswered .streaming (streaming_mem_featuresOfEvidence row)
  have hother : streaming.EvidenceBacked :=
    hbacked streaming (mem_demandedAnswers.2 ⟨_, streaming_mem_featuresOfEvidence row, hstreaming⟩)
  have hmem : streaming ∈ demandedAnswers row (improveAnswer answers .text answer) :=
    mem_demandedAnswers.2 ⟨_, streaming_mem_featuresOfEvidence row,
      (answers.get?_set_ne (by decide) _).trans hstreaming⟩
  have hmem' : { answer with effective := .trusted } ∈
      demandedAnswers row (improveAnswer answers .text answer) :=
    mem_demandedAnswers.2 ⟨_, text_mem_featuresOfEvidence row, answers.get?_set_self _ _⟩
  rw [Bool.eq_false_iff]
  intro h
  rcases (projectionEligible_iff.1 h).2 with htrusted | ⟨-, hbacked'⟩
  · exact hother.ne_trusted (htrusted streaming hmem)
  · exact (hbacked' _ hmem').ne_trusted rfl

/-- At answers that agree with the gate, a listed row has all its answers, and they are trusted when
an opt-in is there to be needed. -/
theorem GatedExactly.of_eligible {experimentalModels : Bool}
    (h : GatedExactly row answers experimentalModels)
    (heligible : projectionEligible row answers experimentalModels = true) :
    AnsweredThroughout row answers ∧
      ∀ answer ∈ demandedAnswers row answers, answer.effective = .trusted := by
  obtain ⟨hclear, hlabels⟩ := projectionEligible_iff.1 heligible
  rcases h with ⟨answer, hmem, hquarantined⟩ | ⟨-, ⟨answer, hmem, huntrusted⟩, hkept⟩ |
    ⟨hanswered, hmixed⟩
  · exact absurd hquarantined (hclear answer hmem)
  · rcases hlabels with htrusted | ⟨hoptIn, hbacked⟩
    · exact absurd (htrusted answer hmem) huntrusted
    · rcases hkept with hoptOut | ⟨other, hother, hnot⟩
      · exact absurd (hoptOut.symm.trans hoptIn) (by decide)
      · exact absurd (hbacked other hother) hnot
  · refine ⟨hanswered, ?_⟩
    rcases hlabels with htrusted | ⟨hoptIn, hbacked⟩
    · exact htrusted
    · rcases hmixed with hoptOut | htrusted | ⟨other, hother, -, hnot⟩
      · exact absurd (hoptOut.symm.trans hoptIn) (by decide)
      · exact htrusted
      · exact absurd (hbacked other hother) hnot

/-- At answers that agree with the gate, a row that passes is listed. -/
theorem GatedExactly.eligible_of_passesGate {experimentalModels : Bool}
    (h : GatedExactly row answers experimentalModels)
    (hpasses : PassesGate row answers experimentalModels) :
    projectionEligible row answers experimentalModels = true := by
  refine projectionEligible_iff.2 ⟨hpasses.clear, ?_⟩
  rcases hpasses.labels with htrusted | ⟨hoptIn, hpositive⟩
  · exact .inl htrusted
  · rcases h with ⟨answer, hmem, hquarantined⟩ | ⟨hmissing, -⟩ | ⟨-, hmixed⟩
    · exact absurd hquarantined (hpasses.clear answer hmem)
    · exact absurd hpasses.answered hmissing
    · rcases hmixed with hoptOut | htrusted | ⟨other, hother, huntrusted, hnot⟩
      · exact absurd (hoptOut.symm.trans hoptIn) (by decide)
      · exact .inl htrusted
      · exact absurd ((hpositive other hother).resolve_left huntrusted) hnot

/-- The universe lists a bound row by the gate exactly at these answers. -/
theorem listsByGate_iff (hbinding : binding ∈ snapshot.bindings)
    (hrow : row ∈ modelsForProvider registry binding.providerName)
    (hanswers : effective.get? row.logicalId = some answers) (hsize : answers.size ≠ 0) :
    ListsByGate runtime registry snapshot effective row answers ↔
      GatedExactly row answers snapshot.experimentalModels := by
  have hlists := listsRow_iff_projectionEligible runtime hbinding hrow hanswers hsize
  constructor
  · intro h
    by_cases hclear : ∃ answer ∈ demandedAnswers row answers, answer.Quarantined
    · exact .inl hclear
    push Not at hclear
    by_cases hanswered : AnsweredThroughout row answers
    · refine .inr (.inr ⟨hanswered, ?_⟩)
      by_contra hnot
      push Not at hnot
      obtain ⟨hoptOut, ⟨answer, hmem, huntrusted⟩, hpositive⟩ := hnot
      have hoptIn : snapshot.experimentalModels = true := Bool.not_eq_false _ ▸ hoptOut
      have hpasses : PassesGate row answers snapshot.experimentalModels :=
        ⟨hanswered, hclear, .inr ⟨hoptIn, fun answer hmem =>
          or_iff_not_imp_left.2 (hpositive answer hmem)⟩⟩
      -- the row passes and is listed by its experimental and stale answers alone
      have hlisted := h.gate.2 hpasses
      have hbacked : ∀ answer ∈ demandedAnswers row answers, answer.EvidenceBacked := by
        rcases (projectionEligible_iff.1 (hlists.1 hlisted)).2 with htrusted | ⟨-, hbacked⟩
        · exact absurd (htrusted answer hmem) huntrusted
        · exact hbacked
      obtain ⟨text, htext⟩ := hanswered .text (text_mem_featuresOfEvidence row)
      have himproved := h.improved .text text htext
        (hbacked text (mem_demandedAnswers.2 ⟨_, text_mem_featuresOfEvidence row, htext⟩)) hlisted
      rw [listsRow_improveAnswer_iff runtime hbinding hrow,
        projectionEligible_improveAnswer hanswered hbacked] at himproved
      cases himproved
    · refine .inr (.inl ⟨hanswered, ?_⟩)
      have hunlisted : ¬ projectionEligible row answers snapshot.experimentalModels = true := by
        intro heligible
        exact hanswered (h.gate.1 (hlists.2 heligible)).answered
      rw [projectionEligible_iff] at hunlisted
      constructor
      · by_contra hnot
        push Not at hnot
        exact hunlisted ⟨hclear, .inl hnot⟩
      · by_contra hnot
        push Not at hnot
        exact hunlisted ⟨hclear, .inr ⟨Bool.not_eq_false _ ▸ hnot.1, hnot.2⟩⟩
  · intro h
    refine ⟨?_, ?_, ?_⟩
    · rw [hlists]
      constructor
      · intro heligible
        obtain ⟨hanswered, htrusted⟩ := h.of_eligible heligible
        exact ⟨hanswered, (projectionEligible_iff.1 heligible).1, .inl htrusted⟩
      · exact h.eligible_of_passesGate
    · intro feature answer hanswer hbacked hlisted
      obtain ⟨-, htrusted⟩ := h.of_eligible (hlists.1 hlisted)
      have hfeature : feature ∉ featuresOfEvidence row := by
        intro hmem
        exact hbacked.ne_trusted (htrusted answer (mem_demandedAnswers.2 ⟨feature, hmem, hanswer⟩))
      rw [listsRow_improveAnswer_iff runtime hbinding hrow, improveAnswer,
        projectionEligible_set _ hfeature]
      exact hlists.1 hlisted
    · intro feature hmem hnone hlisted
      obtain ⟨answer, hanswer⟩ := (h.of_eligible (hlists.1 hlisted)).1 feature hmem
      rw [hnone] at hanswer
      cases hanswer

end Listing

/-! ## A row with one answer -/

/-- A row of the registry. -/
def partlyAnsweredRow : ModelEvidence where
  logicalId := "codex/gpt-5.4"
  identity := ⟨"codex", "gpt-5.4", none⟩
  verifiedAt := "2026-01-01"
  fixtureVersion := "codex-oauth-chat-v1"
  capabilities := ⟨true, true, false, false, true, false, false, .conservativeEstimate⟩
  limits := ⟨none, none⟩
  reasoning := ⟨true, .binary, none, false, false, false⟩
  compatibility := ⟨.VERIFIED, "claude-code-2.1.229", "canary", "2026-01-01", none⟩

/-- The only answer for the row: its text feature is trusted. -/
def trustedText : EffectiveCompatibility where
  claimKey := "text"
  feature := .text
  effective := .trusted
  trust := .reviewed
  health := .healthy
  freshness := .fresh
  quarantine := .none
  enforcement := .allowed
  layers := fun _ => .passed
  decision := none
  quarantineRecord := none
  trustReason := none
  healthReason := none
  freshnessReason := none
  quarantineReason := none
  enforcementReason := none

/-- The answers with that one answer. -/
def partialAnswers : OrderedMap ClaimFeature EffectiveCompatibility :=
  OrderedMap.empty.set .text trustedText

/-- A snapshot with these answers. -/
def partialSnapshot : EffectiveSnapshot :=
  OrderedMap.empty.set partlyAnsweredRow.logicalId partialAnswers

/-- A session bound to the row's provider, without the opt-in. -/
def boundSession : ModelUniverseSnapshot :=
  ⟨1, "policy", 1, [⟨"provider-1", "codex", "pool-1"⟩], false⟩

/-- Without the opt-in and with eight answers missing, the row is listed. -/
theorem not_listsByGate_of_partial : ¬ ListsByGate isoRuntime ⟨1, [partlyAnsweredRow]⟩ boundSession
    partialSnapshot partlyAnsweredRow partialAnswers := by
  intro h
  have hlisted : ListsRow isoRuntime ⟨1, [partlyAnsweredRow]⟩ boundSession (some partialSnapshot)
      partlyAnsweredRow :=
    ⟨⟨"provider-1", "codex", "pool-1"⟩, List.mem_cons_self, List.mem_cons_self, rfl⟩
  exact h.missing .streaming (streaming_mem_featuresOfEvidence _) rfl hlisted

/-- Its answers are not among those at which the listing agrees with the gate. -/
theorem listsByGate_partial_iff :
    ListsByGate isoRuntime ⟨1, [partlyAnsweredRow]⟩ boundSession partialSnapshot partlyAnsweredRow
        partialAnswers ↔ GatedExactly partlyAnsweredRow partialAnswers false :=
  listsByGate_iff isoRuntime
    (List.mem_cons_self : ⟨"provider-1", "codex", "pool-1"⟩ ∈ boundSession.bindings)
    List.mem_cons_self rfl (by decide)

end RlyGateway
