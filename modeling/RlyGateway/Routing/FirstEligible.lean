import RlyGateway.Routing.ModelSelection

/-!
# The first eligible candidate

A selection decides on the assessments and then looks its row up again by logical id. The row that is
found, and the assessment that is marked, are those of the first eligible candidate exactly when no
other candidate carries its id.
-/

namespace RlyGateway

/-- The rows that a request may select: the evidence of an exact model, or the provider's rows of the
preferred family, in document order. -/
def candidateRows (input : ModelSelectionInput) (registry : RegistryDocument) :
    List ModelEvidence :=
  match input.exactModelId with
  | some modelId => (findModelEvidence registry input.accessProviderId modelId).toList
  | none =>
      match input.preferredFamily with
      | none => modelsForProvider registry input.accessProviderId
      | some family => (modelsForProvider registry input.accessProviderId).filter
          (·.identity.modelFamily = some family)

/-- Without rows a selection has no candidates. -/
theorem candidatesFor_of_nil {input : ModelSelectionInput} {registry : RegistryDocument}
    (h : candidateRows input registry = []) :
    ∃ failure, candidatesFor input registry = .error failure := by
  unfold candidateRows at h
  unfold candidatesFor
  cases hexact : input.exactModelId with
  | some modelId =>
      rw [hexact] at h
      have hfound : findModelEvidence registry input.accessProviderId modelId = none :=
        Option.toList_eq_nil_iff.1 h
      dsimp only
      rw [hfound]
      exact ⟨_, rfl⟩
  | none =>
      rw [hexact] at h
      dsimp only at h ⊢
      by_cases hmodels : modelsForProvider registry input.accessProviderId = []
      · exact ⟨_, if_pos hmodels⟩
      · rw [if_neg hmodels]
        cases hfamily : input.preferredFamily with
        | none =>
            rw [hfamily] at h
            exact absurd h hmodels
        | some family =>
            rw [hfamily] at h
            exact ⟨_, if_pos h⟩

/-- The candidates of a selection are its rows. -/
theorem candidatesFor_of_ne_nil {input : ModelSelectionInput} {registry : RegistryDocument}
    (h : candidateRows input registry ≠ []) :
    candidatesFor input registry = .ok (candidateRows input registry) := by
  unfold candidateRows at h ⊢
  unfold candidatesFor
  cases hexact : input.exactModelId with
  | some modelId =>
      rw [hexact] at h
      dsimp only at h ⊢
      cases hfound : findModelEvidence registry input.accessProviderId modelId with
      | none => exact absurd (by rw [hfound]; rfl) h
      | some row => rfl
  | none =>
      rw [hexact] at h
      dsimp only at h ⊢
      have hmodels : modelsForProvider registry input.accessProviderId ≠ [] := by
        rintro hnil
        rw [hnil] at h
        cases hfamily : input.preferredFamily <;> simp [hfamily] at h
      rw [if_neg hmodels]
      cases hfamily : input.preferredFamily with
      | none => rfl
      | some family =>
          rw [hfamily] at h
          exact if_neg h

section Selection

variable (input : ModelSelectionInput) (registry : RegistryDocument)
  (effective : Option EffectiveSnapshot) (allowQuarantineBypass : Bool)

/-- The assessment of a row for this request. -/
def assessRow (row : ModelEvidence) : ModelCandidateAssessment :=
  assess row input input.exactModelId.isSome effective allowQuarantineBypass

/-- The row passes the capability, the reasoning and the compatibility filter. -/
def PassesFilters (row : ModelEvidence) : Prop :=
  (assessRow input effective allowQuarantineBypass row).capabilityPass = true ∧
    (assessRow input effective allowQuarantineBypass row).reasoningPass = true ∧
      (assessRow input effective allowQuarantineBypass row).compatibilityPass = true

/-- A selection throws only where no candidate passes; otherwise it gives the first one that does, and
its trace marks exactly that one. -/
structure SelectsFirst : Prop where
  throws : (∃ failure, selectModel input registry effective allowQuarantineBypass =
      .error failure) ↔
    ∀ row ∈ candidateRows input registry, ¬ PassesFilters input effective allowQuarantineBypass row
  first : ∀ result, selectModel input registry effective allowQuarantineBypass = .ok result →
    ∃ before after, candidateRows input registry = before ++ result.model :: after ∧
      (∀ row ∈ before, ¬ PassesFilters input effective allowQuarantineBypass row) ∧
      PassesFilters input effective allowQuarantineBypass result.model ∧
      result.decision.selectedLogicalId = result.model.logicalId ∧
      result.decision.candidates =
        before.map (assessRow input effective allowQuarantineBypass) ++
          { assessRow input effective allowQuarantineBypass result.model with selected := true } ::
            after.map (assessRow input effective allowQuarantineBypass)

variable {input registry effective allowQuarantineBypass}

theorem eligible_assessRow_iff {row : ModelEvidence} :
    (assessRow input effective allowQuarantineBypass row).eligible = true ↔
      PassesFilters input effective allowQuarantineBypass row := by
  rw [ModelCandidateAssessment.eligible, Bool.and_eq_true, Bool.and_eq_true, and_assoc]
  rfl

/-- The selection on its candidates. -/
theorem selectModel_of_candidatesFor {rows : List ModelEvidence}
    (h : candidatesFor input registry = .ok rows) :
    selectModel input registry effective allowQuarantineBypass =
      match (rows.map (assessRow input effective allowQuarantineBypass)).filter (·.eligible) with
      | [] => .error (.ofCode
          (failureFor (rows.map (assessRow input effective allowQuarantineBypass))))
      | first :: _ =>
          match rows.find? (fun row => decide (row.logicalId = first.logicalId)) with
          | none => .error (.ofCode .noEligibleCandidate)
          | some selected => .ok ⟨selected, decisionTrace input selected.logicalId
              (rows.map (assessRow input effective allowQuarantineBypass))⟩ := by
  unfold selectModel
  rw [h]
  rfl

theorem filter_eligible_eq_nil {rows : List ModelEvidence}
    (h : ∀ row ∈ rows, ¬ PassesFilters input effective allowQuarantineBypass row) :
    (rows.map (assessRow input effective allowQuarantineBypass)).filter (·.eligible) = [] := by
  refine List.filter_eq_nil_iff.2 fun assessment hassessment => ?_
  obtain ⟨row, hrow, rfl⟩ := List.mem_map.1 hassessment
  exact fun hpass => h row hrow (eligible_assessRow_iff.1 hpass)

/-- Where no candidate passes, the selection throws. -/
theorem selectModel_of_forall_not
    (h : ∀ row ∈ candidateRows input registry,
      ¬ PassesFilters input effective allowQuarantineBypass row) :
    ∃ failure, selectModel input registry effective allowQuarantineBypass = .error failure := by
  by_cases hrows : candidateRows input registry = []
  · obtain ⟨failure, hfailure⟩ := candidatesFor_of_nil hrows
    refine ⟨failure, ?_⟩
    unfold selectModel
    rw [hfailure]
    rfl
  · rw [selectModel_of_candidatesFor (candidatesFor_of_ne_nil hrows), filter_eligible_eq_nil h]
    exact ⟨_, rfl⟩

/-- With a first candidate that passes, the selection gives the first candidate of the same id. -/
theorem selectModel_of_first {before after : List ModelEvidence} {row : ModelEvidence}
    (hrows : candidateRows input registry = before ++ row :: after)
    (hbefore : ∀ row ∈ before, ¬ PassesFilters input effective allowQuarantineBypass row)
    (hpasses : PassesFilters input effective allowQuarantineBypass row) :
    ∃ selected, (before ++ row :: after).find? (·.logicalId = row.logicalId) = some selected ∧
      selectModel input registry effective allowQuarantineBypass =
        .ok ⟨selected, decisionTrace input selected.logicalId
          ((before ++ row :: after).map (assessRow input effective allowQuarantineBypass))⟩ := by
  obtain ⟨selected, hselected, -, -⟩ := List.exists_find?_decide
    (p := fun model : ModelEvidence => model.logicalId = row.logicalId)
    (show row ∈ before ++ row :: after by simp) rfl
  have hfilter : ((before ++ row :: after).map
      (assessRow input effective allowQuarantineBypass)).filter (·.eligible) =
        assessRow input effective allowQuarantineBypass row ::
          (after.map (assessRow input effective allowQuarantineBypass)).filter (·.eligible) := by
    rw [List.map_append, List.filter_append, filter_eligible_eq_nil hbefore, List.nil_append,
      List.map_cons, List.filter_cons_of_pos (eligible_assessRow_iff.2 hpasses)]
  have hcandidates : candidatesFor input registry = .ok (before ++ row :: after) := by
    rw [← hrows]
    exact candidatesFor_of_ne_nil (by rw [hrows]; simp)
  refine ⟨selected, hselected, ?_⟩
  rw [selectModel_of_candidatesFor hcandidates, hfilter]
  dsimp only
  have hid : (assessRow input effective allowQuarantineBypass row).logicalId = row.logicalId := rfl
  rw [hid, hselected]

/-- Marking an id marks exactly one assessment when no other one carries the id. -/
theorem map_mark_of_forall_ne {rows : List ModelEvidence} {logicalId : String}
    (h : ∀ row ∈ rows, row.logicalId ≠ logicalId) :
    ((rows.map (assessRow input effective allowQuarantineBypass)).map fun assessment =>
      if assessment.logicalId = logicalId then { assessment with selected := true }
      else assessment) = rows.map (assessRow input effective allowQuarantineBypass) := by
  rw [List.map_map]
  exact List.map_congr_left fun row hrow => if_neg (h row hrow)

/-- What is not marked does not carry the id. -/
theorem forall_ne_of_map_mark {rows : List ModelEvidence} {logicalId : String}
    (h : ((rows.map (assessRow input effective allowQuarantineBypass)).map fun assessment =>
      if assessment.logicalId = logicalId then { assessment with selected := true }
      else assessment) = rows.map (assessRow input effective allowQuarantineBypass)) :
    ∀ row ∈ rows, row.logicalId ≠ logicalId := by
  intro row hrow hid
  rw [List.map_map] at h
  have hmarked := List.map_inj_left.1 h row hrow
  have hselected := congrArg ModelCandidateAssessment.selected
    ((if_pos hid).symm.trans hmarked)
  cases hselected

/-- The decision is split at the position of a row. -/
theorem decisionTrace_candidates {before after : List ModelEvidence} {row : ModelEvidence} :
    (decisionTrace input row.logicalId ((before ++ row :: after).map
      (assessRow input effective allowQuarantineBypass))).candidates =
      ((before.map (assessRow input effective allowQuarantineBypass)).map fun assessment =>
        if assessment.logicalId = row.logicalId then { assessment with selected := true }
        else assessment) ++
      { assessRow input effective allowQuarantineBypass row with selected := true } ::
      ((after.map (assessRow input effective allowQuarantineBypass)).map fun assessment =>
        if assessment.logicalId = row.logicalId then { assessment with selected := true }
        else assessment) := by
  have hrow : (assessRow input effective allowQuarantineBypass row).logicalId = row.logicalId := rfl
  unfold decisionTrace
  dsimp only
  rw [List.map_append, List.map_append, List.map_cons, List.map_cons, if_pos hrow]

variable (input registry effective allowQuarantineBypass) in
/-- No other candidate carries the logical id of the first candidate that passes. -/
def FirstIdIsItsOwn : Prop :=
  ∀ before row after, candidateRows input registry = before ++ row :: after →
    (∀ other ∈ before, ¬ PassesFilters input effective allowQuarantineBypass other) →
    PassesFilters input effective allowQuarantineBypass row →
      ∀ other ∈ before ++ after, other.logicalId ≠ row.logicalId

/-- A selection that gives and marks the first candidate that passes shows that no other candidate has
its logical id. -/
theorem SelectsFirst.firstIdIsItsOwn
    (h : SelectsFirst input registry effective allowQuarantineBypass) :
    FirstIdIsItsOwn input registry effective allowQuarantineBypass := by
  intro before row after hrows hbefore hrow
  obtain ⟨selected, -, hresult⟩ := selectModel_of_first hrows hbefore hrow
  obtain ⟨before', after', hrows', hbefore', hpasses, -, hmarks⟩ := h.first _ hresult
  obtain ⟨rfl, hsame, rfl⟩ :=
    List.first_unique (hrows.symm.trans hrows') hbefore hrow hbefore' hpasses
  dsimp only at hsame hmarks
  rw [← hsame, decisionTrace_candidates] at hmarks
  obtain ⟨hleft, hright⟩ := List.append_inj hmarks (by simp)
  intro other hother
  rcases List.mem_append.1 hother with h | h
  · exact forall_ne_of_map_mark hleft other h
  · exact forall_ne_of_map_mark (List.cons.inj hright).2 other h

theorem FirstIdIsItsOwn.find?_eq {before after : List ModelEvidence} {row selected : ModelEvidence}
    (h : FirstIdIsItsOwn input registry effective allowQuarantineBypass)
    (hrows : candidateRows input registry = before ++ row :: after)
    (hbefore : ∀ other ∈ before, ¬ PassesFilters input effective allowQuarantineBypass other)
    (hrow : PassesFilters input effective allowQuarantineBypass row)
    (hselected : (before ++ row :: after).find? (·.logicalId = row.logicalId) = some selected) :
    selected = row := by
  obtain ⟨hmem, hid⟩ := List.find?_decide_eq_some hselected
  by_contra hne
  refine h before row after hrows hbefore hrow selected ?_ hid
  simpa [hne] using hmem

/-- Where no other candidate has its logical id, the first candidate that passes is given and
marked. -/
theorem FirstIdIsItsOwn.selectsFirst
    (h : FirstIdIsItsOwn input registry effective allowQuarantineBypass) :
    SelectsFirst input registry effective allowQuarantineBypass := by
  rcases List.exists_first (PassesFilters input effective allowQuarantineBypass)
    (candidateRows input registry) with hnone | ⟨before, row, after, hrows, hbefore, hrow⟩
  · obtain ⟨failure, hfailure⟩ := selectModel_of_forall_not hnone
    refine ⟨iff_of_true ⟨failure, hfailure⟩ hnone, fun result hresult => ?_⟩
    rw [hfailure] at hresult
    cases hresult
  · obtain ⟨selected, hselected, hresult⟩ := selectModel_of_first hrows hbefore hrow
    obtain rfl := h.find?_eq hrows hbefore hrow hselected
    have hothers := h before selected after hrows hbefore hrow
    constructor
    · refine iff_of_false ?_ fun hall => hall selected (by rw [hrows]; simp) hrow
      rintro ⟨failure, hfailure⟩
      rw [hresult] at hfailure
      cases hfailure
    · intro result hresult'
      rw [hresult] at hresult'
      cases hresult'
      refine ⟨before, after, hrows, hbefore, hrow, rfl, ?_⟩
      dsimp only
      rw [decisionTrace_candidates,
        map_mark_of_forall_ne fun other hother => hothers other (List.mem_append_left _ hother),
        map_mark_of_forall_ne fun other hother => hothers other (List.mem_append_right _ hother)]

variable (input registry effective allowQuarantineBypass) in
/-- A selection gives and marks the first candidate that passes exactly where no other candidate has
its logical id. -/
theorem selectsFirst_iff :
    SelectsFirst input registry effective allowQuarantineBypass ↔
      FirstIdIsItsOwn input registry effective allowQuarantineBypass :=
  ⟨SelectsFirst.firstIdIsItsOwn, FirstIdIsItsOwn.selectsFirst⟩

end Selection

/-- The row of one model, with or without tools. -/
def rowWithTools (tools : Bool) : ModelEvidence where
  logicalId := "acme/model"
  identity := ⟨"acme", "model", none⟩
  verifiedAt := "2026-01-01"
  fixtureVersion := "1"
  capabilities := ⟨true, tools, false, false, false, false, false, .unsupported⟩
  limits := ⟨none, none⟩
  reasoning := conservativeReasoning ⟨true, tools, false, false, false, false, false, .unsupported⟩
  compatibility := ⟨.VERIFIED, "claude-code", "review", "2026-01-01", none⟩

/-- A request for tools. -/
def toolsRequest : ModelSelectionInput := ⟨"acme", none, none, [.tools], none, none⟩

/-- A row without tools hides the row of the same id that has them. -/
theorem not_selectsFirst :
    ¬ ∀ (input : ModelSelectionInput) (registry : RegistryDocument)
      (effective : Option EffectiveSnapshot) (allowQuarantineBypass : Bool),
      SelectsFirst input registry effective allowQuarantineBypass := by
  intro h
  have hown := (h toolsRequest ⟨1, [rowWithTools false, rowWithTools true]⟩ none
    false).firstIdIsItsOwn [rowWithTools false] (rowWithTools true) [] rfl
  refine hown ?_ ⟨rfl, rfl, rfl⟩ (rowWithTools false) (by simp) rfl
  intro other hother hpasses
  rw [List.mem_singleton.1 hother] at hpasses
  cases hpasses.1

end RlyGateway
