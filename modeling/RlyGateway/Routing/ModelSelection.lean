import RlyGateway.Compatibility.Registry
import RlyGateway.Library.Keyed

/-!
# Model selection

The deterministic selection of one registry row for a request: hard eligibility by capabilities,
reasoning and compatibility, then document order. With a snapshot of effective answers, these decide
compatibility instead of the row's static state.
-/

namespace RlyGateway

/-- The effective answers by logical id. -/
abbrev EffectiveSnapshot := OrderedMap String (OrderedMap ClaimFeature EffectiveCompatibility)

/-- What a selection takes. -/
structure ModelSelectionInput where
  accessProviderId : String
  preferredFamily : Option String
  exactModelId : Option String
  requiredCapabilities : List CapabilityRequirement
  reasoning : Option ReasoningRequirement
  allowExperimental : Option Bool
deriving DecidableEq, Repr

/-- The typed failures of a selection that `selectModel` raises. -/
inductive ModelSelectionFailure where
  | unknownExactModel
  | noTrustedEvidence
  | capabilityUnsupported
  | reasoningUnsupported
  | compatibilityRejected
  | noEligibleCandidate
deriving DecidableEq, Repr

/-- The failure as the error message names it. -/
def ModelSelectionFailure.name : ModelSelectionFailure → String
  | .unknownExactModel => "unknown-exact-model"
  | .noTrustedEvidence => "no-trusted-evidence"
  | .capabilityUnsupported => "capability-unsupported"
  | .reasoningUnsupported => "reasoning-unsupported"
  | .compatibilityRejected => "compatibility-rejected"
  | .noEligibleCandidate => "no-eligible-candidate"

/-- The error of a selection. -/
structure ModelSelectionError where
  code : ModelSelectionFailure
  message : String
deriving DecidableEq, Repr

/-- The error with the message made from its code. -/
def ModelSelectionError.ofCode (code : ModelSelectionFailure) : ModelSelectionError :=
  ⟨code, "Model selection failed: " ++ code.name⟩

/-- The assessment of one candidate. -/
structure ModelCandidateAssessment where
  logicalId : String
  accessProviderId : String
  modelId : String
  modelFamily : Option String
  compatibilityState : CompatibilityState
  capabilityPass : Bool
  missingCapabilities : Option (List CapabilityRequirement)
  reasoningPass : Bool
  reasoningFailure : Option String
  compatibilityPass : Bool
  compatibilityFailure : Option String
  /-- Whether `authority` is `"ecr"`; otherwise it is absent. -/
  authority : Bool
  effectiveLabel : Option EffectiveCompatibilityLabel
  enforcementReason : Option String
  selected : Bool
deriving DecidableEq, Repr

/-- Whether the candidate passes every hard filter. -/
def ModelCandidateAssessment.eligible (assessment : ModelCandidateAssessment) : Bool :=
  assessment.capabilityPass && assessment.reasoningPass && assessment.compatibilityPass

/-- The decision trace. -/
structure ModelSelectionTrace where
  /-- Whether `source` is `"exact"`; otherwise it is `"candidates"`. -/
  exact : Bool
  selectedLogicalId : String
  reason : String
  candidates : List ModelCandidateAssessment
deriving DecidableEq, Repr

/-- The selected row and its trace. -/
structure ModelSelectionResult where
  model : ModelEvidence
  decision : ModelSelectionTrace
deriving DecidableEq, Repr

/-! ## Filters -/

/-- Why the row's reasoning does not meet the requirement. -/
def reasoningFailure (reasoning : ReasoningRequirement) (model : ModelEvidence) : Option String :=
  if reasoning.required ∧ !model.reasoning.supported then some "reasoning-not-supported"
  else if reasoning.withTools = some true ∧ !model.reasoning.reasoningWithTools then
    some "reasoning-with-tools-not-supported"
  else none

/-- Why the row's static state is rejected. An exact pin is an opt-in for an experimental row. -/
def compatibilityFailure (model : ModelEvidence) (exact : Bool) (allowExperimental : Option Bool) :
    Option String :=
  match model.compatibility.state with
  | .BROKEN => some "broken"
  | .EXPERIMENTAL =>
      if exact ∨ allowExperimental = some true then none else some "experimental"
  | .VERIFIED => none

/-- The outcome of the compatibility filter under a snapshot. -/
structure EffectiveVerdict where
  failure : Option String
  effectiveLabel : Option EffectiveCompatibilityLabel
  enforcementReason : Option String
deriving DecidableEq, Repr

/-- The compatibility filter under a snapshot of effective answers. -/
def effectiveCompatibilityFailure (model : ModelEvidence) (input : ModelSelectionInput)
    (exact : Bool) (effective : EffectiveSnapshot) (allowQuarantineBypass : Bool) :
    EffectiveVerdict :=
  let features := requiredFeaturesForCapabilities input.requiredCapabilities input.reasoning
  match effective.get? model.logicalId with
  | none => ⟨compatibilityFailure model exact input.allowExperimental, none, none⟩
  | some effectiveForModel =>
    if effectiveForModel.size = 0 then
      ⟨compatibilityFailure model exact input.allowExperimental, none, none⟩
    else
      let context : EnforcementInput :=
        ⟨true, input.allowExperimental = some true || exact, allowQuarantineBypass⟩
      let results := features.filterMap effectiveForModel.get?
      let worst := results.head?
      let blocked := results.find? fun result =>
        (enforceEffective result.effective context).1 = .blocked
      if features.any fun feature => (effectiveForModel.get? feature).isNone then
        ⟨some "experimental", none, some "missing-ecr-data-for-required-feature"⟩
      else match blocked with
        | some result =>
            ⟨some (if result.effective = .quarantined then "broken" else "experimental"),
              some result.effective,
              some ((enforceEffective result.effective context).2.getD
                "blocked-required-feature")⟩
        | none =>
            ⟨none, worst.map (·.effective), worst.bind fun result =>
              let enforced := enforceEffective result.effective context
              if enforced.1 = .quarantineBypass ∨ enforced.1 = .experimentalOverride then
                enforced.2
              else none⟩

/-- The assessment of a candidate. -/
def assess (model : ModelEvidence) (input : ModelSelectionInput) (exact : Bool)
    (effective : Option EffectiveSnapshot) (allowQuarantineBypass : Bool) :
    ModelCandidateAssessment :=
  let missing := missingCapabilities model.capabilities input.requiredCapabilities
  let reasoningFail := reasoningFailure (input.reasoning.getD ⟨false, none⟩) model
  let verdict := effective.map fun effective =>
    effectiveCompatibilityFailure model input exact effective allowQuarantineBypass
  let compatFail := match verdict with
    | some verdict => verdict.failure
    | none => compatibilityFailure model exact input.allowExperimental
  { logicalId := model.logicalId
    accessProviderId := model.identity.accessProviderId
    modelId := model.identity.upstreamModelId
    modelFamily := model.identity.modelFamily
    compatibilityState := model.compatibility.state
    capabilityPass := missing.isEmpty
    missingCapabilities := if missing.isEmpty then none else some missing
    reasoningPass := reasoningFail.isNone
    reasoningFailure := reasoningFail
    compatibilityPass := compatFail.isNone
    compatibilityFailure := compatFail
    authority := (effective.bind (·.get? model.logicalId)).isSome
    effectiveLabel := verdict.bind (·.effectiveLabel)
    enforcementReason := verdict.bind (·.enforcementReason)
    selected := false }

/-- The failure of one assessment, in filter order. -/
def assessmentFailure (assessment : ModelCandidateAssessment) : Option ModelSelectionFailure :=
  if assessment.missingCapabilities.any (· ≠ []) then some .capabilityUnsupported
  else if assessment.reasoningFailure.isSome then some .reasoningUnsupported
  else if assessment.compatibilityFailure.isSome then some .compatibilityRejected
  else none

/-- The failure reported for assessments none of which is eligible. -/
def failureFor (assessments : List ModelCandidateAssessment) : ModelSelectionFailure :=
  (assessments.findSome? assessmentFailure).getD .noEligibleCandidate

/-! ## Selection -/

/-- The rows a request can be served by, before any filter. -/
def candidatesFor (input : ModelSelectionInput) (registry : RegistryDocument) :
    Except ModelSelectionError (List ModelEvidence) :=
  match input.exactModelId with
  | some modelId =>
      match findModelEvidence registry input.accessProviderId modelId with
      | none => .error ⟨.unknownExactModel,
          "No trusted evidence for " ++ input.accessProviderId ++ "/" ++ modelId⟩
      | some evidence => .ok [evidence]
  | none =>
      let providerModels := modelsForProvider registry input.accessProviderId
      if providerModels = [] then
        .error ⟨.noTrustedEvidence,
          "No trusted model evidence for access provider " ++ input.accessProviderId⟩
      else match input.preferredFamily with
        | none => .ok providerModels
        | some family =>
            let familyModels := providerModels.filter (·.identity.modelFamily = some family)
            if familyModels = [] then
              .error ⟨.noEligibleCandidate, "No " ++ family ++
                " family candidate for access provider " ++ input.accessProviderId⟩
            else .ok familyModels

/-- The reason a decision is recorded with. -/
def selectionReason (input : ModelSelectionInput) : String :=
  if input.exactModelId.isSome then "exact-evidence"
  else if input.preferredFamily.isNone then "capability-and-compatibility-match"
  else "family-capability-and-compatibility-match"

/-- The trace of a decision, with every assessment of the selected id marked. -/
def decisionTrace (input : ModelSelectionInput) (selectedLogicalId : String)
    (assessments : List ModelCandidateAssessment) : ModelSelectionTrace where
  exact := input.exactModelId.isSome
  selectedLogicalId := selectedLogicalId
  reason := selectionReason input
  candidates := assessments.map fun assessment =>
    if assessment.logicalId = selectedLogicalId then { assessment with selected := true }
    else assessment

/-- The selection of one row. -/
def selectModel (input : ModelSelectionInput) (registry : RegistryDocument)
    (effective : Option EffectiveSnapshot) (allowQuarantineBypass : Bool) :
    Except ModelSelectionError ModelSelectionResult := do
  let exact := input.exactModelId.isSome
  let candidates ← candidatesFor input registry
  let assessments := candidates.map fun model =>
    assess model input exact effective allowQuarantineBypass
  match assessments.filter (·.eligible) with
  | [] => .error (.ofCode (failureFor assessments))
  | first :: _ =>
      match candidates.find? (·.logicalId = first.logicalId) with
      | none => .error (.ofCode .noEligibleCandidate)
      | some selected =>
          .ok ⟨selected, decisionTrace input selected.logicalId assessments⟩

/-! ## What a selection rests on -/

/-- The selected row shares its logical id with an eligible candidate. -/
theorem exists_eligible_of_selectModel {input : ModelSelectionInput}
    {registry : RegistryDocument} {effective : Option EffectiveSnapshot}
    {allowQuarantineBypass : Bool} {result : ModelSelectionResult}
    (h : selectModel input registry effective allowQuarantineBypass = .ok result) :
    ∃ candidates, candidatesFor input registry = .ok candidates ∧ result.model ∈ candidates ∧
      ∃ model ∈ candidates, model.logicalId = result.model.logicalId ∧
        (assess model input input.exactModelId.isSome effective
          allowQuarantineBypass).eligible = true := by
  unfold selectModel at h
  obtain ⟨candidates, hcandidates, h⟩ := Except.bind_eq_ok.1 h
  dsimp only at h
  split at h
  · cases h
  rename_i first rest heligible
  split at h
  · cases h
  rename_i selected hselected
  cases h
  have hfirst : first ∈ (candidates.map fun model =>
      assess model input input.exactModelId.isSome effective allowQuarantineBypass).filter
        (·.eligible) := by
    rw [heligible]
    exact List.mem_cons_self
  obtain ⟨hmem, hpass⟩ := List.mem_filter.1 hfirst
  obtain ⟨model, hmodel, rfl⟩ := List.mem_map.1 hmem
  refine ⟨candidates, hcandidates, List.mem_of_find?_eq_some hselected, model, hmodel, ?_, hpass⟩
  have hsame := List.find?_some hselected
  exact (of_decide_eq_true hsame).symm

/-- A candidate is eligible when nothing is missing and no filter fails. -/
theorem eligible_assess_iff {model : ModelEvidence} {input : ModelSelectionInput} {exact : Bool}
    {effective : Option EffectiveSnapshot} {allowQuarantineBypass : Bool} :
    (assess model input exact effective allowQuarantineBypass).eligible = true ↔
      missingCapabilities model.capabilities input.requiredCapabilities = [] ∧
        reasoningFailure (input.reasoning.getD ⟨false, none⟩) model = none ∧
          (assess model input exact effective allowQuarantineBypass).compatibilityFailure = none := by
  unfold ModelCandidateAssessment.eligible
  rw [Bool.and_eq_true, Bool.and_eq_true, and_assoc]
  refine and_congr ?_ (and_congr ?_ ?_)
  · exact List.isEmpty_iff
  · exact Option.isNone_iff_eq_none
  · exact Option.isNone_iff_eq_none

/-- An exact selection gives the row that is found for the model. -/
theorem findModelEvidence_of_selectModel {input : ModelSelectionInput} {modelId : String}
    {registry : RegistryDocument} {effective : Option EffectiveSnapshot}
    {allowQuarantineBypass : Bool} {result : ModelSelectionResult}
    (hexact : input.exactModelId = some modelId)
    (h : selectModel input registry effective allowQuarantineBypass = .ok result) :
    findModelEvidence registry input.accessProviderId modelId = some result.model := by
  obtain ⟨candidates, hcandidates, hmem, -⟩ := exists_eligible_of_selectModel h
  unfold candidatesFor at hcandidates
  rw [hexact] at hcandidates
  dsimp only at hcandidates
  split at hcandidates
  · cases hcandidates
  · rename_i row hfound
    cases hcandidates
    rw [hfound, List.mem_singleton.1 hmem]

/-- An exact selection succeeds for an eligible row. -/
theorem exists_selectModel_of_eligible {input : ModelSelectionInput} {modelId : String}
    {registry : RegistryDocument} {effective : Option EffectiveSnapshot}
    {allowQuarantineBypass : Bool} {row : ModelEvidence}
    (hexact : input.exactModelId = some modelId)
    (hfound : findModelEvidence registry input.accessProviderId modelId = some row)
    (heligible : (assess row input true effective allowQuarantineBypass).eligible = true) :
    ∃ result, selectModel input registry effective allowQuarantineBypass = .ok result := by
  have hcandidates : candidatesFor input registry = .ok [row] := by
    unfold candidatesFor
    rw [hexact]
    dsimp only
    rw [hfound]
  have hfilter : ([row].map fun model => assess model input input.exactModelId.isSome effective
      allowQuarantineBypass).filter (·.eligible) =
        [assess row input true effective allowQuarantineBypass] := by
    rw [hexact]
    exact List.filter_eq_self.2 (by simpa using heligible)
  have hselected : [row].find? (fun model => model.logicalId =
      (assess row input true effective allowQuarantineBypass).logicalId) = some row :=
    List.find?_cons_of_pos (decide_eq_true rfl)
  refine ⟨⟨row, decisionTrace input row.logicalId ([row].map fun model =>
    assess model input input.exactModelId.isSome effective allowQuarantineBypass)⟩, ?_⟩
  unfold selectModel
  refine Except.bind_eq_ok.2 ⟨[row], hcandidates, ?_⟩
  dsimp only
  rw [hfilter]
  dsimp only
  rw [hselected]

/-- Where every required feature has an answer that is not blocked, the compatibility filter
passes. -/
theorem effectiveCompatibilityFailure_eq_none {model : ModelEvidence}
    {input : ModelSelectionInput} {exact : Bool} {effective : EffectiveSnapshot}
    {allowQuarantineBypass : Bool} {answers : OrderedMap ClaimFeature EffectiveCompatibility}
    (hanswers : effective.get? model.logicalId = some answers) (hsize : answers.size ≠ 0)
    (hallowed : ∀ feature ∈
      requiredFeaturesForCapabilities input.requiredCapabilities input.reasoning,
        ∃ answer, answers.get? feature = some answer ∧ (enforceEffective answer.effective
          ⟨true, input.allowExperimental = some true || exact, allowQuarantineBypass⟩).1 ≠
            .blocked) :
    (effectiveCompatibilityFailure model input exact effective allowQuarantineBypass).failure =
      none := by
  unfold effectiveCompatibilityFailure
  simp only [hanswers, if_neg hsize]
  split
  · rename_i hmissing
    obtain ⟨feature, hfeature, hnone⟩ := List.any_eq_true.1 hmissing
    obtain ⟨answer, hanswer, -⟩ := hallowed feature hfeature
    rw [hanswer] at hnone
    cases hnone
  · split
    · rename_i result hblocked
      obtain ⟨hmem, hresult⟩ := List.find?_decide_eq_some hblocked
      obtain ⟨feature, hfeature, hanswer⟩ := List.mem_filterMap.1 hmem
      obtain ⟨answer, hanswer', hpass⟩ := hallowed feature hfeature
      cases hanswer.symm.trans hanswer'
      exact absurd hresult hpass
    · rfl

/-- A quarantined answer for a required feature fails the compatibility filter, with an exact pin
or an experimental opt-in too. -/
theorem effectiveCompatibilityFailure_of_quarantined {model : ModelEvidence}
    {input : ModelSelectionInput} {exact : Bool} {effective : EffectiveSnapshot}
    {answers : OrderedMap ClaimFeature EffectiveCompatibility} {feature : ClaimFeature}
    {answer : EffectiveCompatibility} (hanswers : effective.get? model.logicalId = some answers)
    (hrequired : feature ∈
      requiredFeaturesForCapabilities input.requiredCapabilities input.reasoning)
    (hanswer : answers.get? feature = some answer) (hquarantined : answer.effective = .quarantined) :
    (effectiveCompatibilityFailure model input exact effective false).failure ≠ none := by
  unfold effectiveCompatibilityFailure
  have hsize : answers.size ≠ 0 := (OrderedMap.size_pos_of_get? hanswer).ne'
  simp only [hanswers, if_neg hsize]
  split
  · simp
  split
  · simp
  · rename_i hnone
    have hblocked := List.find?_eq_none.1 hnone answer
      (List.mem_filterMap.2 ⟨feature, hrequired, hanswer⟩)
    rw [hquarantined, enforceEffective_quarantined rfl rfl] at hblocked
    exact absurd (decide_eq_true rfl) hblocked

/-- A model with a quarantined answer for a required feature is never selected. -/
theorem selectModel_ne_of_quarantined {input : ModelSelectionInput}
    {registry : RegistryDocument} {effective : EffectiveSnapshot} {result : ModelSelectionResult}
    {logicalId : String} {answers : OrderedMap ClaimFeature EffectiveCompatibility}
    {feature : ClaimFeature} {answer : EffectiveCompatibility}
    (h : selectModel input registry (some effective) false = .ok result)
    (hanswers : effective.get? logicalId = some answers)
    (hrequired : feature ∈
      requiredFeaturesForCapabilities input.requiredCapabilities input.reasoning)
    (hanswer : answers.get? feature = some answer) (hquarantined : answer.effective = .quarantined) :
    result.model.logicalId ≠ logicalId := by
  rintro rfl
  obtain ⟨candidates, -, -, model, -, hsame, hpass⟩ := exists_eligible_of_selectModel h
  rw [← hsame] at hanswers
  have hfailure : (effectiveCompatibilityFailure model input input.exactModelId.isSome effective
      false).failure ≠ none :=
    effectiveCompatibilityFailure_of_quarantined hanswers hrequired hanswer hquarantined
  have hcompatible : (assess model input input.exactModelId.isSome (some effective)
      false).compatibilityPass = true := by
    unfold ModelCandidateAssessment.eligible at hpass
    rw [Bool.and_eq_true] at hpass
    exact hpass.2
  exact hfailure (Option.isNone_iff_eq_none.1 hcompatible)

end RlyGateway
