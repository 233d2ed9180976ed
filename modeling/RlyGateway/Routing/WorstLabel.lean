import RlyGateway.Library.RunningMaximum
import RlyGateway.Routing.ProjectionGate

/-!
# The label of a projected entry

`worstEffectiveLabel` is to summarise the answers for a row by the worst of them. Its loop starts
with the label of a missing answer, which outranks every label but that of a quarantine.
-/

namespace RlyGateway

variable (runtime : NodeRuntime)

theorem labelRank_injective (a b : EffectiveCompatibilityLabel) (h : labelRank a = labelRank b) :
    a = b := by
  revert h
  cases a <;> cases b <;> decide

/-- The labels that the seed does not outrank. -/
theorem labelRank_missing_le {label : EffectiveCompatibilityLabel} :
    labelRank .missing ≤ labelRank label ↔ label = .missing ∨ label = .quarantined := by
  cases label <;> decide

theorem worstEffectiveLabel_eq_runningMax
    (effective : OrderedMap ClaimFeature EffectiveCompatibility) :
    worstEffectiveLabel effective =
      List.runningMax labelRank .missing (effective.values.map (·.effective)) := by
  rw [List.runningMax, List.foldl_map]
  rfl

/-- A row shows a quarantine when one of its answers is one, and else a missing answer. -/
theorem worstEffectiveLabel_eq (effective : OrderedMap ClaimFeature EffectiveCompatibility) :
    worstEffectiveLabel effective =
      if ∃ answer ∈ effective.values, answer.effective = .quarantined then .quarantined
      else .missing := by
  rw [worstEffectiveLabel_eq_runningMax]
  split
  · rename_i h
    obtain ⟨answer, hanswer, hlabel⟩ := h
    have hle := List.rank_le_runningMax labelRank .missing
      (List.mem_map_of_mem (f := (·.effective)) hanswer)
    rw [hlabel] at hle
    revert hle
    generalize List.runningMax labelRank .missing _ = label
    cases label <;> decide
  · rename_i h
    refine List.runningMax_eq_seed labelRank fun label hlabel => ?_
    obtain ⟨answer, hanswer, rfl⟩ := List.mem_map.1 hlabel
    have hne : answer.effective ≠ .quarantined := fun heq => h ⟨answer, hanswer, heq⟩
    revert hne
    cases answer.effective <;> decide

/-- The label is the worst one of the answers, so that an entry whose answers are all trusted shows
that it is trusted. -/
structure SummarizesWorst (effective : OrderedMap ClaimFeature EffectiveCompatibility) : Prop where
  attained : ∃ answer ∈ effective.values, worstEffectiveLabel effective = answer.effective
  worst : ∀ answer ∈ effective.values,
    labelRank answer.effective ≤ labelRank (worstEffectiveLabel effective)
  trusted : (∀ answer ∈ effective.values, answer.effective = .trusted) →
    ∀ binding evidence,
      (projectionFor runtime binding evidence (some effective)).effectiveLabel = some .trusted

/-- The label is that of an answer just when an answer is missing or quarantined. -/
theorem worstEffectiveLabel_attained_iff
    (effective : OrderedMap ClaimFeature EffectiveCompatibility) :
    (∃ answer ∈ effective.values, worstEffectiveLabel effective = answer.effective) ↔
      ∃ answer ∈ effective.values, answer.effective = .missing ∨ answer.effective = .quarantined := by
  have hiff := List.runningMax_mem_items_iff labelRank labelRank_injective .missing
    (effective.values.map (·.effective))
  rw [← worstEffectiveLabel_eq_runningMax] at hiff
  simp only [List.mem_map, labelRank_missing_le] at hiff
  constructor
  · rintro ⟨answer, hanswer, heq⟩
    obtain ⟨_, ⟨found, hfound, rfl⟩, hlabel⟩ := hiff.1 ⟨answer, hanswer, heq.symm⟩
    exact ⟨found, hfound, hlabel⟩
  · rintro ⟨answer, hanswer, hlabel⟩
    obtain ⟨found, hfound, heq⟩ := hiff.2 ⟨_, ⟨answer, hanswer, rfl⟩, hlabel⟩
    exact ⟨found, hfound, heq.symm⟩

/-- The label summarises the answers just when one of them is missing or quarantined. -/
theorem summarizesWorst_iff (effective : OrderedMap ClaimFeature EffectiveCompatibility) :
    SummarizesWorst runtime effective ↔
      ∃ answer ∈ effective.values, answer.effective = .missing ∨ answer.effective = .quarantined := by
  constructor
  · intro h
    exact (worstEffectiveLabel_attained_iff effective).1 h.attained
  · intro h
    refine ⟨(worstEffectiveLabel_attained_iff effective).2 h, fun answer hanswer => ?_,
      fun htrusted => ?_⟩
    · rw [worstEffectiveLabel_eq_runningMax]
      exact List.rank_le_runningMax labelRank .missing
        (List.mem_map_of_mem (f := (·.effective)) hanswer)
    · obtain ⟨answer, hanswer, hlabel⟩ := h
      rw [htrusted answer hanswer] at hlabel
      obtain hlabel | hlabel := hlabel <;> cases hlabel

/-- With one answer, which is trusted, the label is that of a missing answer. -/
theorem not_summarizesWorst_of_trusted :
    ¬ ∀ effective : OrderedMap ClaimFeature EffectiveCompatibility, 0 < effective.size →
      SummarizesWorst isoRuntime effective := by
  intro h
  obtain ⟨answer, hanswer, heq⟩ := (h partialAnswers (by decide)).attained
  obtain rfl : answer = trustedText := List.mem_singleton.1 hanswer
  cases heq

end RlyGateway
