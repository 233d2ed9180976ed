import RlyGateway.Library.Keyed
import RlyGateway.Routing.ModelTiers
import RlyGateway.Routing.ReverseMapping

/-!
# The scope of a tier

A tier is resolved inside one provider and one family. The candidates of the family are, and a
reviewed target is only looked up by a logical id, which may be that of another family's row, or of
another provider's. The mapping is read by a key in which provider, family and tier are joined by a
bar.
-/

namespace RlyGateway

/-! ## Keys of the mapping -/

theorem toList_tierMappingKey (accessProviderId modelFamily : String) (tier : LogicalTier) :
    (tierMappingKey accessProviderId modelFamily tier).toList =
      (accessProviderId.toList ++ '|' :: modelFamily.toList) ++ '|' :: tier.name.toList := by
  simp [tierMappingKey]

theorem bar_notMem_name (tier : LogicalTier) : '|' ∉ tier.name.toList := by
  cases tier <;> decide

/-- A key is that of one provider, family and tier exactly where provider and family have no bar. -/
theorem tierMappingKey_unique_iff {accessProviderId modelFamily : String} {tier : LogicalTier} :
    (∀ accessProviderId' modelFamily' tier',
      tierMappingKey accessProviderId' modelFamily' tier' =
          tierMappingKey accessProviderId modelFamily tier →
        accessProviderId' = accessProviderId ∧ modelFamily' = modelFamily ∧ tier' = tier) ↔
      '|' ∉ accessProviderId.toList ∧ '|' ∉ modelFamily.toList := by
  rw [← List.cut_unique_iff]
  constructor
  · intro h left right hcut
    have hkey : tierMappingKey (String.ofList left) (String.ofList right) tier =
        tierMappingKey accessProviderId modelFamily tier := by
      rw [← String.toList_inj, toList_tierMappingKey, toList_tierMappingKey, String.toList_ofList,
        String.toList_ofList, hcut]
    obtain ⟨hprovider, hfamily, -⟩ := h _ _ _ hkey
    rw [← hprovider, ← hfamily, String.toList_ofList, String.toList_ofList]
    exact ⟨rfl, rfl⟩
  · intro h accessProviderId' modelFamily' tier' hkey
    have hchars := congrArg String.toList hkey
    rw [toList_tierMappingKey, toList_tierMappingKey] at hchars
    obtain ⟨hpath, htier⟩ := List.last_cut_unique hchars (bar_notMem_name tier')
      (bar_notMem_name tier)
    obtain ⟨hprovider, hfamily⟩ := h _ _ hpath
    have hread : parseLogicalTier tier.name = some tier' :=
      parseLogicalTier_eq_some.2 (String.toList_inj.1 htier)
    have hown : parseLogicalTier tier.name = some tier := parseLogicalTier_eq_some.2 rfl
    refine ⟨String.toList_inj.1 hprovider, String.toList_inj.1 hfamily, ?_⟩
    exact Option.some.inj (hread.symm.trans hown)

/-! ## Selections -/

section Selections

variable {dependencies : TierResolutionDependencies} {accessProviderId : String}

/-- The row that an exact target is selected as. -/
def TierResolutionDependencies.IsTarget (dependencies : TierResolutionDependencies)
    (accessProviderId modelId : String) (row : ModelEvidence) : Prop :=
  findModelEvidence dependencies.registry accessProviderId modelId = some row ∧
    (assess row ⟨accessProviderId, none, some modelId, dependencies.requiredCapabilities,
      dependencies.reasoning, if dependencies.allowExperimental then some true else none⟩ true
        dependencies.effective false).eligible = true

/-- An exact target is selected exactly where its row is found and passes every filter. -/
theorem exists_select_exact_iff {modelId : String} {row : ModelEvidence} :
    (∃ selection, dependencies.select accessProviderId none (some modelId) = .ok selection ∧
      selection.model = row) ↔ dependencies.IsTarget accessProviderId modelId row := by
  constructor
  · rintro ⟨selection, hselect, rfl⟩
    have hfound := findModelEvidence_of_selectModel rfl hselect
    obtain ⟨candidates, hcandidates, hmem, model, hmodel, -, hpass⟩ :=
      exists_eligible_of_selectModel hselect
    have hsingle : candidates = [selection.model] := by
      unfold candidatesFor at hcandidates
      dsimp only at hfound hcandidates
      rw [hfound] at hcandidates
      exact (Except.ok.inj hcandidates).symm
    rw [hsingle] at hmodel
    rw [List.mem_singleton.1 hmodel] at hpass
    exact ⟨hfound, hpass⟩
  · rintro ⟨hfound, hpass⟩
    obtain ⟨selection, hselect⟩ := exists_selectModel_of_eligible rfl hfound hpass
    have hrow := findModelEvidence_of_selectModel rfl hselect
    exact ⟨selection, hselect, Option.some.inj (hrow.symm.trans hfound)⟩

/-- A selection in a family gives a row of the provider and the family. -/
theorem identity_of_select_family {family : String} {selection : ModelSelectionResult}
    (h : dependencies.select accessProviderId (some family) none = .ok selection) :
    selection.model.identity.accessProviderId = accessProviderId ∧
      selection.model.identity.modelFamily = some family := by
  obtain ⟨candidates, hcandidates, hmem, -⟩ := exists_eligible_of_selectModel h
  unfold candidatesFor at hcandidates
  dsimp only at hcandidates
  split at hcandidates
  · cases hcandidates
  split at hcandidates
  · cases hcandidates
  cases hcandidates
  obtain ⟨hprovider, hfamily⟩ := List.mem_filter.1 hmem
  exact ⟨of_decide_eq_true (List.mem_filter.1 hprovider).2, of_decide_eq_true hfamily⟩

end Selections

/-! ## Resolutions -/

section Resolutions

variable {context : TierResolutionContext} {dependencies : TierResolutionDependencies}

/-- The reviewed target of a request. -/
def TierResolutionDependencies.reviewedTarget? (dependencies : TierResolutionDependencies)
    (context : TierResolutionContext) (family : String) : Option String :=
  dependencies.mapping.target?
    (tierMappingKey context.accessProviderId family context.requestedTier)

/-- Without a user's mapping and without fallbacks, a tier resolves in the family to a reviewed
target, or to a candidate where there is none. -/
theorem exists_of_resolveTier (huser : context.explicitUserMapping = none)
    (hfamily : context.allowCrossFamilyFallback = false)
    (hprovider : context.allowCrossProviderFallback = false) {result : TierResolutionResult}
    (h : resolveTier context dependencies = .ok result) :
    ∃ family, resolveFamily context dependencies.registry = some family ∧
      ((∃ modelId, dependencies.reviewedTarget? context family = some modelId ∧
          dependencies.IsTarget context.accessProviderId modelId result.model) ∨
        ∃ selection, dependencies.select context.accessProviderId (some family) none =
          .ok selection ∧ result.model = selection.model) := by
  unfold resolveTier at h
  rw [huser] at h
  dsimp only at h
  split at h
  · obtain ⟨message, hfail⟩ :=
      fallbackOrFail_of_not_allowed hfamily hprovider dependencies none "family-unknown"
    rw [hfail] at h
    cases h
  rename_i family hscope
  refine ⟨family, hscope, ?_⟩
  split at h
  · rename_i modelId htarget
    obtain ⟨model, hmodel, h⟩ := Except.bind_eq_ok.1 h
    cases h
    unfold exactTarget at hmodel
    split at hmodel
    · rename_i selection hselect
      cases hmodel
      exact .inl ⟨modelId, htarget, exists_select_exact_iff.1 ⟨selection, hselect, rfl⟩⟩
    · cases hmodel
  · split at h
    · rename_i selection hselect
      cases h
      exact .inr ⟨selection, hselect, rfl⟩
    · rename_i error _
      obtain ⟨message, hfail⟩ := fallbackOrFail_of_not_allowed hfamily hprovider dependencies
        (some family) error.code.name
      rw [hfail] at h
      cases h

/-- A reviewed target that passes is what the tier resolves to. -/
theorem exists_resolveTier_of_isTarget (huser : context.explicitUserMapping = none)
    {family modelId : String} {row : ModelEvidence}
    (hscope : resolveFamily context dependencies.registry = some family)
    (htarget : dependencies.reviewedTarget? context family = some modelId)
    (hrow : dependencies.IsTarget context.accessProviderId modelId row) :
    ∃ result, resolveTier context dependencies = .ok result ∧ result.model = row := by
  obtain ⟨selection, hselect, rfl⟩ := exists_select_exact_iff.2 hrow
  unfold TierResolutionDependencies.reviewedTarget? at htarget
  unfold resolveTier exactTarget
  rw [huser, hscope]
  dsimp only
  rw [htarget]
  dsimp only
  rw [hselect]
  exact ⟨_, rfl, rfl⟩

/-! ## Scope -/

/-- What a tier resolves to is of the provider of the context and of the family that scopes the
request, and no other provider, family and tier have its entry in the mapping. -/
structure StaysInScope (context : TierResolutionContext)
    (dependencies : TierResolutionDependencies) : Prop where
  resolved : ∀ result, resolveTier context dependencies = .ok result →
    result.model.identity.accessProviderId = context.accessProviderId ∧
      ∃ family, resolveFamily context dependencies.registry = some family ∧
        result.model.identity.modelFamily = some family
  entry : ∀ family, resolveFamily context dependencies.registry = some family →
    ∀ accessProviderId' modelFamily' tier',
      tierMappingKey accessProviderId' modelFamily' tier' =
          tierMappingKey context.accessProviderId family context.requestedTier →
        accessProviderId' = context.accessProviderId ∧ modelFamily' = family ∧
          tier' = context.requestedTier

/-- A reviewed target that passes is a row of the scope, and the names of the scope have no bar. -/
structure ReviewedInScope (context : TierResolutionContext)
    (dependencies : TierResolutionDependencies) : Prop where
  target : ∀ family modelId row, resolveFamily context dependencies.registry = some family →
    dependencies.reviewedTarget? context family = some modelId →
      dependencies.IsTarget context.accessProviderId modelId row →
        row.identity.accessProviderId = context.accessProviderId ∧
          row.identity.modelFamily = some family
  bars : ∀ family, resolveFamily context dependencies.registry = some family →
    '|' ∉ context.accessProviderId.toList ∧ '|' ∉ family.toList

/-- A scope that is kept takes no target from outside. -/
theorem StaysInScope.target (h : StaysInScope context dependencies)
    (huser : context.explicitUserMapping = none) {family modelId : String} {row : ModelEvidence}
    (hscope : resolveFamily context dependencies.registry = some family)
    (htarget : dependencies.reviewedTarget? context family = some modelId)
    (hrow : dependencies.IsTarget context.accessProviderId modelId row) :
    row.identity.accessProviderId = context.accessProviderId ∧
      row.identity.modelFamily = some family := by
  obtain ⟨result, hresult, rfl⟩ := exists_resolveTier_of_isTarget huser hscope htarget hrow
  obtain ⟨hprovider, family', hscope', hfamily⟩ := h.resolved result hresult
  rw [hscope] at hscope'
  cases hscope'
  exact ⟨hprovider, hfamily⟩

/-- Without a user's mapping and without fallbacks, a tier stays in its scope exactly where a
reviewed target does and the names of the scope have no bar. -/
theorem staysInScope_iff (huser : context.explicitUserMapping = none)
    (hfamily : context.allowCrossFamilyFallback = false)
    (hprovider : context.allowCrossProviderFallback = false) :
    StaysInScope context dependencies ↔ ReviewedInScope context dependencies := by
  constructor
  · intro h
    refine ⟨fun family modelId row => h.target huser, ?_⟩
    intro family hscope
    exact tierMappingKey_unique_iff.1 (h.entry family hscope)
  · rintro ⟨htarget, hbars⟩
    refine ⟨?_, ?_⟩
    · intro result hresult
      obtain ⟨family, hscope, hmodel⟩ := exists_of_resolveTier huser hfamily hprovider hresult
      rcases hmodel with ⟨modelId, hreviewed, hrow⟩ | ⟨selection, hselect, hmodel⟩
      · obtain ⟨hown, hkept⟩ := htarget family modelId result.model hscope hreviewed hrow
        exact ⟨hown, family, hscope, hkept⟩
      · obtain ⟨hown, hkept⟩ := identity_of_select_family hselect
        rw [hmodel]
        exact ⟨hown, family, hscope, hkept⟩
    · intro family hscope
      exact tierMappingKey_unique_iff.2 (hbars family hscope)

end Resolutions

/-! ## ClinePass -/

/-- A reviewed row of the aggregator, which has models of several families. -/
def clineModel (upstreamModelId modelFamily : String) : ModelEvidence := reviewedModel
  { accessProviderId := "cline"
    upstreamModelId := upstreamModelId
    modelFamily := some modelFamily
    verifiedAt := "2026-08-21"
    fixtureVersion := "cline-interop-chat-v1"
    capabilities := conservativeCapabilities
    compatibility :=
      some ⟨none, none, "tests/e2e/claude-code/cline-interop.e2e.test.ts", none, none⟩
    limits := none
    reasoning := none }

/-- A request for the tier `fable` in the family of DeepSeek. -/
def deepseekContext : TierResolutionContext :=
  ⟨.fable, "cline", none, some "deepseek", none, false, false⟩

/-- Two families of the aggregator and one reviewed target. -/
def clineDependencies (target : String) : TierResolutionDependencies where
  registry := ⟨5, [clineModel "deepseek-v4-pro" "deepseek",
    clineModel "gpt-5.6-sol" "openai/codex"]⟩
  mapping := ⟨1, [("cline|deepseek|fable", target)]⟩
  requiredCapabilities := []
  reasoning := none
  allowExperimental := false
  effective := none
  fallbackProviderIds := none

/-- The reviewed target of DeepSeek is a model of DeepSeek. -/
theorem staysInScope_deepseek :
    StaysInScope deepseekContext (clineDependencies "deepseek-v4-pro") := by
  refine (staysInScope_iff rfl rfl rfl).2 ⟨?_, ?_⟩
  · rintro family modelId row ⟨⟩ htarget ⟨hfound, -⟩
    have hreviewed : (clineDependencies "deepseek-v4-pro").reviewedTarget? deepseekContext
        "deepseek" = some "deepseek-v4-pro" := rfl
    obtain rfl := Option.some.inj (hreviewed.symm.trans htarget)
    have hown : findModelEvidence (clineDependencies "deepseek-v4-pro").registry
        deepseekContext.accessProviderId "deepseek-v4-pro" =
          some (clineModel "deepseek-v4-pro" "deepseek") := rfl
    obtain rfl := Option.some.inj (hown.symm.trans hfound)
    exact ⟨rfl, rfl⟩
  · rintro family ⟨⟩
    decide

/-- A reviewed target of another family is what the tier resolves to. -/
theorem not_staysInScope_sol :
    ¬ ∀ (context : TierResolutionContext) (dependencies : TierResolutionDependencies),
      context.explicitUserMapping = none → context.allowCrossFamilyFallback = false →
        context.allowCrossProviderFallback = false → StaysInScope context dependencies := by
  intro h
  have hscope := h deepseekContext (clineDependencies "gpt-5.6-sol") rfl rfl rfl
  have hrow : (clineDependencies "gpt-5.6-sol").IsTarget deepseekContext.accessProviderId
      "gpt-5.6-sol" (clineModel "gpt-5.6-sol" "openai/codex") := ⟨rfl, rfl⟩
  have hfamily := (hscope.target rfl rfl rfl hrow).2
  revert hfamily
  decide

end RlyGateway
