import Mathlib.Data.List.TakeWhile
import RlyGateway.Routing.ModelUniverse

/-!
# The reverse mapping of projection ids

A projection is made from the identity of a row, and resolved through a logical id in which provider
and model are joined by a slash. Names and models may have slashes themselves, and then a logical id
stands for more than one provider and model.
-/

namespace RlyGateway

variable (runtime : NodeRuntime)

/-! ## Logical ids -/

/-- The logical id of a row stands for no provider and model but its own. -/
def NamesOneModel (row : ModelEvidence) : Prop :=
  '/' ∉ row.logicalId.toList ∨
    row.logicalId = row.identity.accessProviderId ++ "/" ++ row.identity.upstreamModelId ∧
      '/' ∉ row.identity.accessProviderId.toList ∧ '/' ∉ row.identity.upstreamModelId.toList

theorem toList_logicalId (providerId modelId : String) :
    (providerId ++ "/" ++ modelId).toList = providerId.toList ++ '/' :: modelId.toList := by
  rw [String.toList_append, String.toList_append, List.append_assoc]
  rfl

/-- Every provider and model that such a logical id can be read as is the row's own. -/
theorem namesOneModel_iff {row : ModelEvidence} :
    NamesOneModel row ↔ ∀ providerId modelId, row.logicalId = providerId ++ "/" ++ modelId →
      row.identity.accessProviderId = providerId ∧ row.identity.upstreamModelId = modelId := by
  constructor
  · rintro (hslash | ⟨hid, hprovider, hmodel⟩) providerId modelId h
    · rw [h, toList_logicalId] at hslash
      exact absurd (List.mem_append_right _ List.mem_cons_self) hslash
    · have hchars := congrArg String.toList (h.symm.trans hid)
      rw [toList_logicalId, toList_logicalId] at hchars
      obtain ⟨hleft, hright⟩ := List.cut_unique hchars hprovider hmodel
      exact ⟨String.toList_inj.1 hleft.symm, String.toList_inj.1 hright.symm⟩
  · intro h
    rcases List.exists_first (· = '/') row.logicalId.toList with hnone |
      ⟨before, _, after, hchars, hbefore, rfl⟩
    · exact .inl fun hmem => hnone _ hmem rfl
    · have hread : ∀ left right : List Char, left ++ '/' :: right = row.logicalId.toList →
          row.identity.accessProviderId.toList = left ∧
            row.identity.upstreamModelId.toList = right := by
        intro left right hcut
        have hid : row.logicalId = String.ofList left ++ "/" ++ String.ofList right := by
          rw [← String.toList_inj, toList_logicalId, String.toList_ofList, String.toList_ofList]
          exact hcut.symm
        obtain ⟨hprovider, hmodel⟩ := h _ _ hid
        rw [hprovider, hmodel, String.toList_ofList, String.toList_ofList]
        exact ⟨rfl, rfl⟩
      obtain ⟨hprovider, hmodel⟩ := hread before after hchars.symm
      refine .inr ⟨?_, ?_, ?_⟩
      · rw [← String.toList_inj, toList_logicalId, hprovider, hmodel]
        exact hchars
      · rw [hprovider]
        exact fun hmem => hbefore _ hmem rfl
      · -- a second slash would be a second way to read the logical id
        rw [hmodel]
        intro hmem
        obtain ⟨left, right, rfl⟩ := List.append_of_mem hmem
        have hsecond := (hread (before ++ '/' :: left) right (by rw [hchars]; simp)).1
        have hlength := congrArg List.length (hprovider.symm.trans hsecond)
        simp at hlength

/-! ## Legacy documents -/

/-- A row of a registry document before identities. -/
structure LegacyModelEvidence where
  logicalId : String
  upstreamId : String
  verifiedAt : String
  fixtureVersion : String
  capabilities : ProviderCapabilities

/-- The provider of a legacy logical id: what stands before the first slash, or all of it. -/
def legacyAccessProvider (logicalId : String) : String :=
  String.ofList (logicalId.toList.takeWhile (· ≠ '/'))

/-- A legacy row in the current shape. -/
def migrateModel (model : LegacyModelEvidence) : ModelEvidence where
  logicalId := model.logicalId
  identity := ⟨legacyAccessProvider model.logicalId, model.upstreamId, none⟩
  verifiedAt := model.verifiedAt
  fixtureVersion := model.fixtureVersion
  capabilities := model.capabilities
  limits := ⟨none, none⟩
  reasoning := conservativeReasoning model.capabilities
  compatibility :=
    { state := .EXPERIMENTAL
      baseline := "claude-code-fake-upstream"
      evidenceRef := model.fixtureVersion
      checkedAt := model.verifiedAt
      claimRef := none }

/-- A legacy document in the current shape. -/
def migrateRegistryDocument (models : List LegacyModelEvidence) (revision : ℕ) :
    RegistryDocument :=
  ⟨revision, models.map migrateModel⟩

/-- A migrated logical id stands for one model exactly where it has no slash, or its upstream id has
none and is all that follows the first. -/
theorem namesOneModel_migrateModel {model : LegacyModelEvidence} :
    NamesOneModel (migrateModel model) ↔ '/' ∉ model.logicalId.toList ∨
      model.logicalId = legacyAccessProvider model.logicalId ++ "/" ++ model.upstreamId ∧
        '/' ∉ model.upstreamId.toList := by
  have hprovider : '/' ∉ (legacyAccessProvider model.logicalId).toList := by
    rw [legacyAccessProvider, String.toList_ofList]
    intro hmem
    have hne := List.mem_takeWhile_imp hmem
    exact of_decide_eq_true hne rfl
  show _ ∨ _ ∧ '/' ∉ (legacyAccessProvider model.logicalId).toList ∧ _ ↔ _
  rw [and_iff_right hprovider]
  rfl

/-! ## Specification -/

section ReverseMapping

variable (registry : RegistryDocument) (snapshot : ModelUniverseSnapshot)
  (effective : Option EffectiveSnapshot)

/-- Listed entries of one id are of one provider and model: the truncated hash does not collide on
them. -/
def NoCollision : Prop :=
  ∀ projection ∈ projectModelUniverse runtime registry snapshot effective,
    ∀ other ∈ projectModelUniverse runtime registry snapshot effective,
      projection.id = other.id → projection.providerName = other.providerName ∧
        projection.upstreamModelId = other.upstreamModelId

/-- Every listed entry is resolved by its id, to itself with its binding and to evidence of its own
identity, and the evidence of a provider and a model is theirs. -/
structure ReverseMaps : Prop where
  resolves : ∀ projection ∈ projectModelUniverse runtime registry snapshot effective,
    ∃ evidence, resolveProjection runtime projection.id snapshot registry effective =
        some (projection, projection.binding, evidence) ∧
      evidence.identity.accessProviderId = projection.providerName ∧
      evidence.identity.upstreamModelId = projection.upstreamModelId
  exact : ∀ providerId modelId evidence,
    findModelEvidence registry providerId modelId = some evidence →
      evidence.identity.accessProviderId = providerId ∧
        evidence.identity.upstreamModelId = modelId

/-- The answers that are used for a row. -/
def answersFor (row : ModelEvidence) : Option (OrderedMap ClaimFeature EffectiveCompatibility) :=
  (effective.bind (·.get? row.logicalId)).filter (·.size ≠ 0)

/-- What an entry shows of a row besides its provider and model. -/
def shownOf (row : ModelEvidence) :
    Option String × CompatibilityState × Option EffectiveCompatibilityLabel × String :=
  (row.identity.modelFamily, row.compatibility.state,
    (answersFor effective row).map worstEffectiveLabel, row.verifiedAt)

/-- A row that is listed through the bindings of a name. -/
structure IsListed (providerName : String) (row : ModelEvidence) : Prop where
  mem : row ∈ modelsForProvider registry providerName
  eligible : rowEligible snapshot effective row = true

/-- Names that keep apart what the reverse mapping looks up: the logical ids that can be found stand
for one model each, and listed rows have one; a name with listed rows is bound once; and listed rows
of one provider and model show the same. -/
structure MapsApart : Prop where
  ids : ∀ row, registry.models.find? (·.logicalId = row.logicalId) = some row → NamesOneModel row
  found : ∀ binding ∈ snapshot.bindings, ∀ row,
    IsListed registry snapshot effective binding.providerName row → ∃ other ∈ registry.models,
      other.logicalId = binding.providerName ++ "/" ++ row.identity.upstreamModelId
  bindings : ∀ binding ∈ snapshot.bindings, ∀ other ∈ snapshot.bindings,
    binding.providerName = other.providerName →
      (∃ row, IsListed registry snapshot effective binding.providerName row) → binding = other
  rows : ∀ binding ∈ snapshot.bindings, ∀ row row',
    IsListed registry snapshot effective binding.providerName row →
      IsListed registry snapshot effective binding.providerName row' →
        row.identity.upstreamModelId = row'.identity.upstreamModelId →
          shownOf effective row = shownOf effective row'

end ReverseMapping

/-! ## Entries -/

section Entries

variable {runtime} {registry : RegistryDocument} {snapshot : ModelUniverseSnapshot}
  {effective : Option EffectiveSnapshot}

/-- An entry is what the binding and the row make it. -/
theorem projectEvidence_eq_some_iff {binding : ProviderPoolBinding} {row : ModelEvidence}
    {projection : ModelProjection} :
    projectEvidence runtime snapshot effective binding row = some projection ↔
      rowEligible snapshot effective row = true ∧
        projection = projectionFor runtime binding row (answersFor effective row) := by
  unfold projectEvidence rowEligible answersFor
  split
  · split
    · rename_i hanswers heligible
      rw [hanswers, Option.some_inj, and_iff_right heligible, eq_comm]
    · rename_i heligible
      simp [heligible]
  · split
    · rename_i hanswers heligible
      rw [hanswers, Option.some_inj, and_iff_right heligible, eq_comm]
    · rename_i heligible
      simp [heligible]

/-- The entries of a universe are those of the listed rows. -/
theorem mem_projectModelUniverse_iff {projection : ModelProjection} :
    projection ∈ projectModelUniverse runtime registry snapshot effective ↔
      ∃ binding ∈ snapshot.bindings, ∃ row,
        IsListed registry snapshot effective binding.providerName row ∧
          projection = projectionFor runtime binding row (answersFor effective row) := by
  rw [mem_projectModelUniverse]
  constructor
  · rintro ⟨binding, hbinding, row, hrow, h⟩
    obtain ⟨heligible, heq⟩ := projectEvidence_eq_some_iff.1 h
    exact ⟨binding, hbinding, row, ⟨hrow, heligible⟩, heq⟩
  · rintro ⟨binding, hbinding, row, hlisted, heq⟩
    exact ⟨binding, hbinding, row, hlisted.mem,
      projectEvidence_eq_some_iff.2 ⟨hlisted.eligible, heq⟩⟩

/-- Two entries of one binding are the same if their rows are of one model and show the same. -/
theorem projectionFor_congr {binding : ProviderPoolBinding} {row row' : ModelEvidence}
    (hmodel : row.identity.upstreamModelId = row'.identity.upstreamModelId)
    (hshown : shownOf effective row = shownOf effective row') :
    projectionFor runtime binding row (answersFor effective row) =
      projectionFor runtime binding row' (answersFor effective row') := by
  obtain ⟨hfamily, hstate, hlabel, hverified⟩ := by simpa only [shownOf, Prod.mk.injEq] using hshown
  unfold projectionFor
  rw [hmodel, hfamily, hstate, hlabel, hverified]

/-- What is found is the first row of its logical id. -/
theorem find?_logicalId_of_findModelEvidence {providerId modelId : String} {row : ModelEvidence}
    (h : findModelEvidence registry providerId modelId = some row) :
    row.logicalId = providerId ++ "/" ++ modelId ∧
      registry.models.find? (·.logicalId = row.logicalId) = some row := by
  obtain ⟨-, hid⟩ := List.find?_decide_eq_some h
  rw [hid]
  exact ⟨rfl, h⟩

/-- The evidence of a provider and a model is theirs exactly if every logical id that can be found
stands for one model. -/
theorem findModelEvidence_exact_iff :
    (∀ providerId modelId evidence,
      findModelEvidence registry providerId modelId = some evidence →
        evidence.identity.accessProviderId = providerId ∧
          evidence.identity.upstreamModelId = modelId) ↔
      ∀ row, registry.models.find? (·.logicalId = row.logicalId) = some row →
        NamesOneModel row := by
  constructor
  · intro hexact row hfirst
    refine namesOneModel_iff.2 fun providerId modelId hid => ?_
    rw [hid] at hfirst
    exact hexact providerId modelId row hfirst
  · intro hids providerId modelId row hfound
    obtain ⟨hid, hfirst⟩ := find?_logicalId_of_findModelEvidence hfound
    exact namesOneModel_iff.1 (hids row hfirst) providerId modelId hid

/-- Where every entry resolves to itself, two entries of one id are one. -/
theorem ReverseMaps.eq_of_id (h : ReverseMaps runtime registry snapshot effective)
    {projection other : ModelProjection}
    (hprojection : projection ∈ projectModelUniverse runtime registry snapshot effective)
    (hother : other ∈ projectModelUniverse runtime registry snapshot effective)
    (hid : projection.id = other.id) : projection = other := by
  obtain ⟨evidence, hresolved, -⟩ := h.resolves projection hprojection
  obtain ⟨evidence', hresolved', -⟩ := h.resolves other hother
  rw [hid, hresolved'] at hresolved
  exact (Prod.mk.inj (Option.some.inj hresolved)).1.symm

/-- A listed row has its entry. -/
theorem IsListed.mem_projectModelUniverse {binding : ProviderPoolBinding} {row : ModelEvidence}
    (h : IsListed registry snapshot effective binding.providerName row)
    (hbinding : binding ∈ snapshot.bindings) :
    projectionFor runtime binding row (answersFor effective row) ∈
      projectModelUniverse runtime registry snapshot effective :=
  mem_projectModelUniverse_iff.2 ⟨binding, hbinding, row, h, rfl⟩

/-- What maps back keeps apart what it looks up. -/
theorem mapsApart_of_reverseMaps (h : ReverseMaps runtime registry snapshot effective) :
    MapsApart registry snapshot effective where
  ids := findModelEvidence_exact_iff.1 h.exact
  found := by
    intro binding hbinding row hlisted
    obtain ⟨evidence, hresolved, -⟩ := h.resolves _ (hlisted.mem_projectModelUniverse hbinding)
    obtain ⟨-, -, -, hevidence⟩ := (resolveProjection_eq_some_iff_find? runtime).1 hresolved
    exact ⟨evidence, List.find?_decide_eq_some hevidence⟩
  bindings := by
    rintro binding hbinding other hother hname ⟨row, hlisted⟩
    have hlisted' : IsListed registry snapshot effective other.providerName row := hname ▸ hlisted
    have heq := h.eq_of_id (hlisted.mem_projectModelUniverse hbinding)
      (hlisted'.mem_projectModelUniverse hother)
      (congrArg (projectionIdFor runtime · row.identity.upstreamModelId) hname)
    exact congrArg ModelProjection.binding heq
  rows := by
    intro binding hbinding row row' hlisted hlisted' hmodel
    have heq := h.eq_of_id (hlisted.mem_projectModelUniverse hbinding)
      (hlisted'.mem_projectModelUniverse hbinding)
      (congrArg (projectionIdFor runtime binding.providerName) hmodel)
    have hfamily := congrArg ModelProjection.modelFamily heq
    have hstate := congrArg ModelProjection.compatibilityState heq
    have hlabel := congrArg ModelProjection.effectiveLabel heq
    have hverified := congrArg ModelProjection.verifiedAt heq
    exact Prod.ext hfamily (Prod.ext hstate (Prod.ext hlabel hverified))

/-- What is kept apart maps back. -/
theorem reverseMaps_of_mapsApart (hcollision : NoCollision runtime registry snapshot effective)
    (h : MapsApart registry snapshot effective) :
    ReverseMaps runtime registry snapshot effective where
  exact := findModelEvidence_exact_iff.2 h.ids
  resolves := by
    intro projection hprojection
    obtain ⟨binding, hbinding, row, hlisted, rfl⟩ := mem_projectModelUniverse_iff.1 hprojection
    have hentry : (projectModelUniverse runtime registry snapshot effective).find?
        (·.id = (projectionFor runtime binding row (answersFor effective row)).id) =
          some (projectionFor runtime binding row (answersFor effective row)) := by
      obtain ⟨found, hfound, hmem, hid⟩ := List.exists_find?_decide
        (p := fun other : ModelProjection => other.id =
          (projectionFor runtime binding row (answersFor effective row)).id) hprojection rfl
      obtain ⟨hname, hmodel⟩ := hcollision found hmem _ hprojection hid
      obtain ⟨other, hother, row', hlisted', rfl⟩ := mem_projectModelUniverse_iff.1 hmem
      obtain rfl : binding = other := h.bindings binding hbinding other hother hname.symm
        ⟨row, hlisted⟩
      rw [hfound, projectionFor_congr hmodel (h.rows _ hbinding _ _ hlisted' hlisted hmodel)]
    have hpool : (snapshot.bindings.find? fun candidate =>
        candidate.providerName = binding.providerName ∧ candidate.poolId = binding.poolId) =
          some binding := by
      obtain ⟨found, hfound, hmem, hname, -⟩ := List.exists_find?_decide
        (p := fun candidate : ProviderPoolBinding =>
          candidate.providerName = binding.providerName ∧ candidate.poolId = binding.poolId)
        hbinding ⟨rfl, rfl⟩
      rw [hfound, h.bindings binding hbinding found hmem hname.symm ⟨row, hlisted⟩]
    obtain ⟨other, hother, hid⟩ := h.found binding hbinding row hlisted
    obtain ⟨evidence, hevidence, -⟩ := List.exists_find?_decide
      (p := fun model : ModelEvidence => model.logicalId =
        binding.providerName ++ "/" ++ row.identity.upstreamModelId) hother hid
    exact ⟨evidence, (resolveProjection_eq_some_iff_find? runtime).2
      ⟨isProjectionId_projectionIdFor runtime _ _, hentry, hpool, hevidence⟩,
      findModelEvidence_exact_iff.2 h.ids _ _ evidence hevidence⟩

end Entries

/-- Where the truncated hash does not collide, projection ids map back exactly if names keep apart
what is looked up. -/
theorem reverseMaps_iff {registry : RegistryDocument} {snapshot : ModelUniverseSnapshot}
    {effective : Option EffectiveSnapshot}
    (hcollision : NoCollision runtime registry snapshot effective) :
    ReverseMaps runtime registry snapshot effective ↔ MapsApart registry snapshot effective :=
  ⟨mapsApart_of_reverseMaps, reverseMaps_of_mapsApart hcollision⟩

/-! ## A model id with a slash -/

/-- What a model can do that nothing more is known of. -/
def conservativeCapabilities : ProviderCapabilities where
  streaming := true
  tools := true
  parallelTools := false
  images := false
  reasoning := true
  redactedReasoning := false
  structuredOutput := false
  tokenCounting := .conservativeEstimate

/-- A reviewed row of OpenRouter. -/
def nemotronModel : ModelEvidence := reviewedModel
  { accessProviderId := "openrouter"
    upstreamModelId := "nvidia/nemotron-3.5-lightning:free"
    modelFamily := some "nvidia"
    verifiedAt := "2026-08-13"
    fixtureVersion := "openai-chat-v1"
    capabilities := conservativeCapabilities
    compatibility :=
      some ⟨none, none, "tests/e2e/claude-code/direct-provider.e2e.test.ts", none, none⟩
    limits := none
    reasoning := none }

/-- A reviewed row of Codex. -/
def gpt54Model : ModelEvidence := reviewedModel
  { accessProviderId := "codex"
    upstreamModelId := "gpt-5.4"
    modelFamily := some "openai/codex"
    verifiedAt := "2026-08-14"
    fixtureVersion := "codex-oauth-chat-v1"
    capabilities := conservativeCapabilities
    compatibility :=
      some ⟨none, none, "tests/e2e/claude-code/codex-oauth.e2e.test.ts", none, none⟩
    limits := none
    reasoning := none }

def gpt54Snapshot : ModelUniverseSnapshot where
  policyRevision := 1
  policyHash := "hash"
  registryRevision := 5
  bindings := [⟨"prv-codex", "codex", "pool-codex"⟩]
  experimentalModels := true

theorem IsListed.eq_gpt54Model {providerName : String} {row : ModelEvidence}
    (h : IsListed ⟨5, [gpt54Model]⟩ gpt54Snapshot none providerName row) : row = gpt54Model :=
  List.mem_singleton.1 (mem_of_mem_modelsForProvider h.mem)

theorem mapsApart_gpt54Model : MapsApart ⟨5, [gpt54Model]⟩ gpt54Snapshot none where
  ids row hfound := by
    rw [List.mem_singleton.1 (List.mem_of_find?_eq_some hfound)]
    exact .inr (by decide)
  found binding hbinding row hlisted := by
    rw [List.mem_singleton.1 hbinding, hlisted.eq_gpt54Model]
    exact ⟨gpt54Model, List.mem_singleton_self _, rfl⟩
  bindings binding hbinding other hother _ _ :=
    (List.mem_singleton.1 hbinding).trans (List.mem_singleton.1 hother).symm
  rows binding hbinding row row' hlisted hlisted' _ := by
    rw [hlisted.eq_gpt54Model, hlisted'.eq_gpt54Model]

theorem noCollision_gpt54Model : NoCollision isoRuntime ⟨5, [gpt54Model]⟩ gpt54Snapshot none := by
  intro projection hprojection other hother _
  obtain ⟨binding, hbinding, row, hlisted, rfl⟩ := mem_projectModelUniverse_iff.1 hprojection
  obtain ⟨binding', hbinding', row', hlisted', rfl⟩ := mem_projectModelUniverse_iff.1 hother
  rw [List.mem_singleton.1 hbinding, List.mem_singleton.1 hbinding', hlisted.eq_gpt54Model,
    hlisted'.eq_gpt54Model]
  exact ⟨rfl, rfl⟩

theorem reverseMaps_gpt54Model : ReverseMaps isoRuntime ⟨5, [gpt54Model]⟩ gpt54Snapshot none :=
  (reverseMaps_iff isoRuntime noCollision_gpt54Model).2 mapsApart_gpt54Model

/-- The model of one provider is found under another whose name takes a part of the model's id. -/
theorem not_reverseMaps_nemotronModel :
    ¬ ∀ (registry : RegistryDocument) (policy : PolicyRevision) (input : ModelUniverseInput)
      (effective : Option EffectiveSnapshot),
      NoCollision isoRuntime registry
          (compileModelUniverseSnapshot isoRuntime policy registry input) effective →
        ReverseMaps isoRuntime registry
          (compileModelUniverseSnapshot isoRuntime policy registry input) effective := by
  intro h
  have hempty : NoCollision isoRuntime ⟨5, [nemotronModel]⟩
      (compileModelUniverseSnapshot isoRuntime ⟨1, "hash", [], [], []⟩ ⟨5, [nemotronModel]⟩
        ⟨none, none⟩) none := by
    rintro projection hprojection
    obtain ⟨binding, hbinding, -⟩ := mem_projectModelUniverse_iff.1 hprojection
    exact absurd hbinding List.not_mem_nil
  have hfound : findModelEvidence ⟨5, [nemotronModel]⟩ "openrouter/nvidia"
      "nemotron-3.5-lightning:free" = some nemotronModel := by decide
  have hprovider := ((h _ _ _ _ hempty).exact _ _ _ hfound).1
  exact absurd hprovider (by decide)

end RlyGateway
