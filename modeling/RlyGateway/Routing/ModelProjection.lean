import RlyGateway.Library.Keyed
import RlyGateway.Routing.ModelSelection
import Mathlib.Data.List.Pairwise
import Mathlib.Data.List.Sort

/-!
# Model projection

The projection of the registry through a session's provider bindings into the models a client
discovers, and the reverse mapping from a projection id. With a snapshot of effective answers, a row
is listed when the answers for the features its evidence demands allow it.
-/

namespace RlyGateway

variable (runtime : NodeRuntime)

/-- The prefix of the ids the gateway owns. -/
def RLY_MODEL_PREFIX : String := "claude-rly-"

/-- Whether an id is a projection id. -/
def isProjectionId (modelId : String) : Bool :=
  RLY_MODEL_PREFIX.toList.isPrefixOf modelId.toList

/-- The pool a provider is bound to in a session. -/
structure ProviderPoolBinding where
  providerId : String
  providerName : String
  poolId : String
deriving DecidableEq, Repr

/-- The model universe pinned for a session. -/
structure ModelUniverseSnapshot where
  policyRevision : ℕ
  policyHash : String
  registryRevision : ℕ
  bindings : List ProviderPoolBinding
  experimentalModels : Bool
deriving DecidableEq, Repr

/-- A projected entry. -/
structure ModelProjection where
  id : String
  displayName : String
  providerId : String
  providerName : String
  poolId : String
  upstreamModelId : String
  modelFamily : Option String
  compatibilityState : CompatibilityState
  effectiveLabel : Option EffectiveCompatibilityLabel
  verifiedAt : String
deriving DecidableEq, Repr

/-! ## Names -/

/-- The labels of the known providers. -/
def PROVIDER_LABELS : List (String × String) :=
  [("openrouter", "OpenRouter"), ("deepseek", "DeepSeek"), ("codex", "Codex"),
    ("cline", "ClinePass"), ("gemini", "Gemini"), ("antigravity", "Antigravity"),
    ("claude", "Claude"), ("opencode-go", "OpenCode Go"), ("alibaba", "Alibaba")]

/-- The labels of the reviewed models. -/
def MODEL_LABELS : List (String × String) :=
  [("gpt-5.6-sol", "GPT-5.6 Sol"), ("gpt-5.6-terra", "GPT-5.6 Terra"), ("gpt-5.4", "GPT-5.4"),
    ("deepseek-v4-pro", "DeepSeek V4 Pro"), ("deepseek-v4-flash", "DeepSeek V4 Flash"),
    ("claude-sonnet-4-5", "Claude Sonnet 4.5"), ("claude-opus-4-8", "Claude Opus 4.8"),
    ("claude-fable", "Claude Fable"),
    ("nvidia/nemotron-3.5-lightning:free", "NVIDIA Nemotron 3.5 Lightning (Free)"),
    ("nvidia/nemotron-nano-12b-v2-vl:free", "NVIDIA Nemotron Nano 12B V2 VL (Free)"),
    ("openai/gpt-oss-20b:free", "OpenAI GPT-OSS 20B (Free)")]

/-- The tokens written in capitals. -/
def ACRONYMS : List String := ["gpt", "api", "ai", "cli", "ui", "json", "oss", "vl", "id"]

/-- The nonempty runs of characters between separators. -/
def tokensBetween (separator : Char → Bool) (text : List Char) : List (List Char) :=
  (text.splitOnP separator).filter (· ≠ [])

/-- The presentation of one token of a model id. -/
def humanizeToken (token : List Char) : String :=
  match token with
  | [] => ""
  | first :: rest =>
      let lower := runtime.toLowerCase (String.ofList token)
      if first.isDigit then String.ofList token
      else if lower ∈ ACRONYMS then runtime.toUpperCase lower
      -- only the first code unit is mapped, so a character of two units stays as it is
      else if first.toNat < 0x10000 then
        runtime.toUpperCase (String.ofList [first]) ++ String.ofList rest
      else String.ofList token

/-- The presentation of an unknown model id. -/
def humanizeModelId (upstreamModelId : String) : String :=
  String.intercalate " " ((tokensBetween (· ∈ ['-', '_', '/', ':']) upstreamModelId.toList).map
    (humanizeToken runtime))

/-- The label of a provider name. -/
def providerDisplayName (providerName : String) : String :=
  (PROVIDER_LABELS.lookup providerName).getD (humanizeModelId runtime providerName)

/-- The label of an upstream model id. -/
def modelDisplayName (upstreamModelId : String) : String :=
  (MODEL_LABELS.lookup upstreamModelId).getD (humanizeModelId runtime upstreamModelId)

/-- The provider part of a projection id. -/
def providerSlug (providerName : String) : String :=
  let lower := (runtime.toLowerCase providerName).toList
  let slug := String.intercalate "-" ((tokensBetween
    (fun c => !(('a' ≤ c ∧ c ≤ 'z') ∨ ('0' ≤ c ∧ c ≤ '9'))) lower).map String.ofList)
  if slug = "" then "provider" else slug

/-- The projection id of a provider and a model. -/
def projectionIdFor (providerName upstreamModelId : String) : String :=
  let digest := runtime.sha256Hex (providerName ++ "\x00" ++ upstreamModelId)
  RLY_MODEL_PREFIX ++ providerSlug runtime providerName ++ "-" ++
    String.ofList (digest.toList.take 12)

/-! ## Listing -/

/-- The severity of a label. -/
def labelRank : EffectiveCompatibilityLabel → ℕ
  | .trusted => 0
  | .experimental => 1
  | .stale => 2
  | .untrusted => 3
  | .missing => 4
  | .quarantined => 5

/-- The label a listed entry shows for its answers. -/
def worstEffectiveLabel (effective : OrderedMap ClaimFeature EffectiveCompatibility) :
    EffectiveCompatibilityLabel :=
  effective.values.foldl
    (fun worst result =>
      if labelRank worst < labelRank result.effective then result.effective else worst)
    .missing

/-- The entry of a binding and a row. -/
def projectionFor (binding : ProviderPoolBinding) (evidence : ModelEvidence)
    (effective : Option (OrderedMap ClaimFeature EffectiveCompatibility)) : ModelProjection where
  id := projectionIdFor runtime binding.providerName evidence.identity.upstreamModelId
  displayName := modelDisplayName runtime evidence.identity.upstreamModelId ++ " (" ++
    providerDisplayName runtime binding.providerName ++ ")"
  providerId := binding.providerId
  providerName := binding.providerName
  poolId := binding.poolId
  upstreamModelId := evidence.identity.upstreamModelId
  modelFamily := evidence.identity.modelFamily
  compatibilityState := evidence.compatibility.state
  effectiveLabel := effective.map worstEffectiveLabel
  verifiedAt := evidence.verifiedAt

/-- The features a row's evidence demands. -/
def featuresOfEvidence (evidence : ModelEvidence) : List ClaimFeature :=
  requiredFeaturesForEvidence evidence.capabilities evidence.reasoning

/-- Whether the answers allow a row to be listed. -/
def projectionEligible (evidence : ModelEvidence)
    (effective : OrderedMap ClaimFeature EffectiveCompatibility) (experimentalModels : Bool) :
    Bool :=
  let results := (featuresOfEvidence evidence).filterMap effective.get?
  if results.any fun result =>
      result.quarantine = .active ∨ result.effective = .quarantined then false
  else if results.all fun result => result.effective = .trusted then true
  else if !experimentalModels then false
  else results.all fun result => result.effective = .experimental ∨ result.effective = .stale

/-- Whether the static state allows a row to be listed. -/
def seedEligible (evidence : ModelEvidence) (experimentalModels : Bool) : Bool :=
  match evidence.compatibility.state with
  | .BROKEN => false
  | .EXPERIMENTAL => experimentalModels
  | .VERIFIED => true

/-- One turn of the loop of `projectModelUniverse`. -/
def projectEvidence (snapshot : ModelUniverseSnapshot) (effective : Option EffectiveSnapshot)
    (binding : ProviderPoolBinding) (evidence : ModelEvidence) : Option ModelProjection :=
  match (effective.bind (·.get? evidence.logicalId)).filter (·.size ≠ 0) with
  | none =>
      if seedEligible evidence snapshot.experimentalModels then
        some (projectionFor runtime binding evidence none)
      else none
  | some answers =>
      if projectionEligible evidence answers snapshot.experimentalModels then
        some (projectionFor runtime binding evidence (some answers))
      else none

/-- The bindings by provider name. -/
def sortedBindings (snapshot : ModelUniverseSnapshot) : List ProviderPoolBinding :=
  snapshot.bindings.insertionSort fun left right =>
    runtime.localeLe left.providerName right.providerName = true

/-- The registry projected through the bindings of a session. -/
def projectModelUniverse (registry : RegistryDocument) (snapshot : ModelUniverseSnapshot)
    (effective : Option EffectiveSnapshot) : List ModelProjection :=
  (sortedBindings runtime snapshot).flatMap fun binding =>
    (modelsForProvider registry binding.providerName).filterMap
      (projectEvidence runtime snapshot effective binding)

/-- The universe lists the row through one of its bindings. -/
def ListsRow (registry : RegistryDocument) (snapshot : ModelUniverseSnapshot)
    (effective : Option EffectiveSnapshot) (row : ModelEvidence) : Prop :=
  ∃ binding ∈ snapshot.bindings, row ∈ modelsForProvider registry binding.providerName ∧
    (projectEvidence runtime snapshot effective binding row).isSome

/-- The entries of the universe are those of the rows it lists. -/
theorem mem_projectModelUniverse {registry : RegistryDocument}
    {snapshot : ModelUniverseSnapshot} {effective : Option EffectiveSnapshot}
    {projection : ModelProjection} :
    projection ∈ projectModelUniverse runtime registry snapshot effective ↔
      ∃ binding ∈ snapshot.bindings, ∃ row ∈ modelsForProvider registry binding.providerName,
        projectEvidence runtime snapshot effective binding row = some projection := by
  simp only [projectModelUniverse, sortedBindings, List.mem_flatMap, List.mem_insertionSort,
    List.mem_filterMap]

/-- The row and the binding a projection id stands for. -/
def resolveProjection (projectionId : String) (snapshot : ModelUniverseSnapshot)
    (registry : RegistryDocument) (effective : Option EffectiveSnapshot) :
    Option (ModelProjection × ProviderPoolBinding × ModelEvidence) :=
  if !isProjectionId projectionId then none
  else do
    let projection ← (projectModelUniverse runtime registry snapshot effective).find?
      (·.id = projectionId)
    let binding ← snapshot.bindings.find? fun candidate =>
      candidate.providerName = projection.providerName ∧ candidate.poolId = projection.poolId
    let evidence ← findModelEvidence registry projection.providerName projection.upstreamModelId
    some (projection, binding, evidence)

/-! ## The reverse mapping -/

/-- A row is listed when the answers for it or else its static state allow it. -/
def rowEligible (snapshot : ModelUniverseSnapshot) (effective : Option EffectiveSnapshot)
    (evidence : ModelEvidence) : Bool :=
  match (effective.bind (·.get? evidence.logicalId)).filter (·.size ≠ 0) with
  | none => seedEligible evidence snapshot.experimentalModels
  | some answers => projectionEligible evidence answers snapshot.experimentalModels

/-- The entry of a row names the row and its binding. -/
theorem projectEvidence_eq_some {snapshot : ModelUniverseSnapshot}
    {effective : Option EffectiveSnapshot} {binding : ProviderPoolBinding}
    {evidence : ModelEvidence} {projection : ModelProjection}
    (h : projectEvidence runtime snapshot effective binding evidence = some projection) :
    rowEligible snapshot effective evidence = true ∧
      projection.id = projectionIdFor runtime binding.providerName evidence.identity.upstreamModelId ∧
      projection.providerName = binding.providerName ∧ projection.poolId = binding.poolId ∧
      projection.upstreamModelId = evidence.identity.upstreamModelId := by
  unfold projectEvidence at h
  unfold rowEligible
  split at h
  · split at h
    case isTrue heligible =>
      cases h
      exact ⟨heligible, rfl, rfl, rfl, rfl⟩
    case isFalse => cases h
  · split at h
    case isTrue heligible =>
      cases h
      exact ⟨heligible, rfl, rfl, rfl, rfl⟩
    case isFalse => cases h

/-- The binding of an entry. -/
def ModelProjection.binding (projection : ModelProjection) : ProviderPoolBinding :=
  ⟨projection.providerId, projection.providerName, projection.poolId⟩

theorem binding_projectEvidence {snapshot : ModelUniverseSnapshot}
    {effective : Option EffectiveSnapshot} {binding : ProviderPoolBinding}
    {evidence : ModelEvidence} {projection : ModelProjection}
    (h : projectEvidence runtime snapshot effective binding evidence = some projection) :
    projection.binding = binding := by
  unfold projectEvidence at h
  split at h
  · split at h
    · cases h
      rfl
    · cases h
  · split at h
    · cases h
      rfl
    · cases h

/-- A row has an entry exactly when it is listed. -/
theorem exists_projectEvidence_iff {snapshot : ModelUniverseSnapshot}
    {effective : Option EffectiveSnapshot} {binding : ProviderPoolBinding}
    {evidence : ModelEvidence} :
    (∃ projection, projectEvidence runtime snapshot effective binding evidence = some projection) ↔
      rowEligible snapshot effective evidence = true := by
  constructor
  · rintro ⟨projection, h⟩
    exact (projectEvidence_eq_some runtime h).1
  · intro h
    unfold projectEvidence
    unfold rowEligible at h
    split at h
    · rw [if_pos h]
      exact ⟨_, rfl⟩
    · rw [if_pos h]
      exact ⟨_, rfl⟩

/-- Every answer that a listed row is listed by is positive. -/
theorem positive_of_projectionEligible {evidence : ModelEvidence}
    {answers : OrderedMap ClaimFeature EffectiveCompatibility} {experimentalModels : Bool}
    (h : projectionEligible evidence answers experimentalModels = true) {feature : ClaimFeature}
    {answer : EffectiveCompatibility} (hfeature : feature ∈ featuresOfEvidence evidence)
    (hanswer : answers.get? feature = some answer) :
    answer.effective = .trusted ∨ answer.effective = .experimental ∨ answer.effective = .stale := by
  have hmem : answer ∈ (featuresOfEvidence evidence).filterMap answers.get? :=
    List.mem_filterMap.2 ⟨feature, hfeature, hanswer⟩
  unfold projectionEligible at h
  dsimp only at h
  split at h
  · cases h
  · split at h
    case isTrue htrusted =>
      exact .inl (of_decide_eq_true (List.all_eq_true.1 htrusted answer hmem))
    case isFalse =>
      split at h
      · cases h
      · exact .inr (of_decide_eq_true (List.all_eq_true.1 h answer hmem))

/-- A row with an answer for each feature that its evidence demands, all trusted, is listed. -/
theorem projectionEligible_of_trusted {evidence : ModelEvidence}
    {answers : OrderedMap ClaimFeature EffectiveCompatibility} (experimentalModels : Bool)
    (h : ∀ feature ∈ featuresOfEvidence evidence, ∃ answer, answers.get? feature = some answer ∧
      answer.effective = .trusted ∧ answer.quarantine = .none) :
    projectionEligible evidence answers experimentalModels = true := by
  have hall : ∀ answer ∈ (featuresOfEvidence evidence).filterMap answers.get?,
      answer.effective = .trusted ∧ answer.quarantine = .none := by
    intro answer hanswer
    obtain ⟨feature, hfeature, hget⟩ := List.mem_filterMap.1 hanswer
    obtain ⟨answer', hget', htrusted⟩ := h feature hfeature
    rw [Option.some.inj (hget.symm.trans hget')]
    exact htrusted
  have hclear : ((featuresOfEvidence evidence).filterMap answers.get?).any (fun result =>
      result.quarantine = .active ∨ result.effective = .quarantined) = false := by
    rw [List.any_eq_false]
    intro answer hanswer
    simp [hall answer hanswer]
  have htrusted : ((featuresOfEvidence evidence).filterMap answers.get?).all (fun result =>
      result.effective = .trusted) = true := by
    rw [List.all_eq_true]
    intro answer hanswer
    simp [hall answer hanswer]
  unfold projectionEligible
  dsimp only
  rw [hclear, htrusted]
  rfl

/-- A row that is promoted for each feature that its evidence demands is listed, whatever its static
state. -/
theorem rowEligible_of_promoted {registry : EffectiveCompatibilityRegistry}
    {rows : List ModelEvidence} {context : EnforcementContext} {answers : EffectiveSnapshot}
    (h : registry.snapshotForModels runtime rows featuresOfEvidence context = .ok answers)
    {row : ModelEvidence} (hrow : row ∈ rows)
    (hunique : ∀ other ∈ rows, other.logicalId = row.logicalId → other = row)
    (hpromoted : ∀ feature ∈ featuresOfEvidence row, Nonempty (registry.Promoted runtime row feature))
    (snapshot : ModelUniverseSnapshot) : rowEligible snapshot (some answers) row = true := by
  obtain ⟨own, hget, hown⟩ :=
    EffectiveCompatibilityRegistry.get?_snapshotForModels runtime h hrow hunique
  have htrusted : ∀ feature ∈ featuresOfEvidence row, ∃ answer, own.get? feature = some answer ∧
      answer.effective = .trusted ∧ answer.quarantine = .none := by
    intro feature hfeature
    obtain ⟨promoted⟩ := hpromoted feature hfeature
    exact promoted.trusted runtime hown hfeature
  obtain ⟨answer, hanswer, -⟩ := htrusted .text (mem_requiredFeaturesForEvidence.2 (.inl (by decide)))
  have hfilter : ((some answers).bind (·.get? row.logicalId)).filter (·.size ≠ 0) = some own := by
    rw [Option.bind_some, hget]
    simp [(OrderedMap.size_pos_of_get? hanswer).ne']
  unfold rowEligible
  rw [hfilter]
  exact projectionEligible_of_trusted snapshot.experimentalModels htrusted

theorem isProjectionId_projectionIdFor (providerName upstreamModelId : String) :
    isProjectionId (projectionIdFor runtime providerName upstreamModelId) = true := by
  unfold isProjectionId projectionIdFor
  rw [List.isPrefixOf_iff_prefix]
  simp only [String.toList_append, List.append_assoc]
  exact List.prefix_append _ _

/-- Names that tell everything apart that a session can list: each row is found under its own
identity, each provider is bound once, and the ids of bound rows do not collide. -/
structure TellsApart (registry : RegistryDocument) (snapshot : ModelUniverseSnapshot) : Prop where
  rows : ∀ row ∈ registry.models, findModelEvidence registry row.identity.accessProviderId
    row.identity.upstreamModelId = some row
  bindings : snapshot.bindings.Pairwise fun binding other =>
    binding.providerName ≠ other.providerName
  ids : ∀ binding ∈ snapshot.bindings, ∀ other ∈ snapshot.bindings,
    ∀ row ∈ modelsForProvider registry binding.providerName,
      ∀ row' ∈ modelsForProvider registry other.providerName,
        projectionIdFor runtime binding.providerName row.identity.upstreamModelId =
            projectionIdFor runtime other.providerName row'.identity.upstreamModelId →
          binding.providerName = other.providerName ∧
            row.identity.upstreamModelId = row'.identity.upstreamModelId

namespace TellsApart

variable {runtime} {registry : RegistryDocument} {snapshot : ModelUniverseSnapshot}

/-- A bound row is found by the provider it is bound to. -/
theorem find_eq (h : TellsApart runtime registry snapshot) {providerName : String}
    {row : ModelEvidence} (hrow : row ∈ modelsForProvider registry providerName) :
    findModelEvidence registry providerName row.identity.upstreamModelId = some row := by
  obtain ⟨hmem, hprovider⟩ := List.mem_filter.1 hrow
  rw [← of_decide_eq_true hprovider]
  exact h.rows row hmem

/-- Two rows of one logical id are one row. -/
theorem eq_of_logicalId (h : TellsApart runtime registry snapshot) {row other : ModelEvidence}
    (hrow : row ∈ registry.models) (hother : other ∈ registry.models)
    (hid : other.logicalId = row.logicalId) : other = row := by
  have hfound := h.rows row hrow
  have hfound' := h.rows other hother
  unfold findModelEvidence at hfound hfound'
  obtain ⟨-, hname⟩ := List.find?_decide_eq_some hfound
  obtain ⟨-, hname'⟩ := List.find?_decide_eq_some hfound'
  rw [← hname] at hfound
  rw [← hname', hid] at hfound'
  exact Option.some.inj (hfound'.symm.trans hfound)

theorem binding_eq (h : TellsApart runtime registry snapshot) {binding other : ProviderPoolBinding}
    (hbinding : binding ∈ snapshot.bindings) (hother : other ∈ snapshot.bindings)
    (hname : binding.providerName = other.providerName) : binding = other := by
  by_contra hne
  have hsymm : Std.Symm fun binding other : ProviderPoolBinding =>
      binding.providerName ≠ other.providerName := ⟨fun _ _ => Ne.symm⟩
  exact h.bindings.forall hbinding hother hne hname

/-- An id is that of one binding and one row. -/
theorem eq_of_id (h : TellsApart runtime registry snapshot) {binding other : ProviderPoolBinding}
    {row row' : ModelEvidence} (hbinding : binding ∈ snapshot.bindings)
    (hother : other ∈ snapshot.bindings)
    (hrow : row ∈ modelsForProvider registry binding.providerName)
    (hrow' : row' ∈ modelsForProvider registry other.providerName)
    (hid : projectionIdFor runtime binding.providerName row.identity.upstreamModelId =
      projectionIdFor runtime other.providerName row'.identity.upstreamModelId) :
    binding = other ∧ row = row' := by
  obtain ⟨hname, hmodel⟩ := h.ids binding hbinding other hother row hrow row' hrow' hid
  refine ⟨h.binding_eq hbinding hother hname, ?_⟩
  have hfound := h.find_eq hrow
  have hfound' := h.find_eq hrow'
  rw [hname, hmodel] at hfound
  exact Option.some.inj (hfound.symm.trans hfound')

end TellsApart

/-- What a projection id resolves to: the first entry of the id, its binding and its evidence. -/
theorem resolveProjection_eq_some_iff_find? {registry : RegistryDocument}
    {snapshot : ModelUniverseSnapshot} {effective : Option EffectiveSnapshot}
    {projectionId : String} {projection : ModelProjection} {binding : ProviderPoolBinding}
    {evidence : ModelEvidence} :
    resolveProjection runtime projectionId snapshot registry effective =
        some (projection, binding, evidence) ↔ isProjectionId projectionId = true ∧
      (projectModelUniverse runtime registry snapshot effective).find? (·.id = projectionId) =
          some projection ∧
        (snapshot.bindings.find? fun candidate =>
          candidate.providerName = projection.providerName ∧
            candidate.poolId = projection.poolId) = some binding ∧
          findModelEvidence registry projection.providerName projection.upstreamModelId =
            some evidence := by
  unfold resolveProjection
  by_cases hid : isProjectionId projectionId = true
  · simp only [hid, Bool.not_true, Bool.false_eq_true, if_false, true_and]
    simp only [Option.bind_eq_bind, Option.bind_eq_some_iff, Option.some.injEq, Prod.mk.injEq]
    constructor
    · rintro ⟨found, hfound, candidate, hcandidate, row, hrow, rfl, rfl, rfl⟩
      exact ⟨hfound, hcandidate, hrow⟩
    · rintro ⟨hfound, hcandidate, hrow⟩
      exact ⟨projection, hfound, binding, hcandidate, evidence, hrow, rfl, rfl, rfl⟩
  · simp [hid]

/-- A projection id is resolved to the entry, the binding and the row it stands for. -/
theorem resolveProjection_eq_some_iff {registry : RegistryDocument}
    {snapshot : ModelUniverseSnapshot} (h : TellsApart runtime registry snapshot)
    {effective : Option EffectiveSnapshot} {projectionId : String} {projection : ModelProjection}
    {binding : ProviderPoolBinding} {evidence : ModelEvidence} :
    resolveProjection runtime projectionId snapshot registry effective =
        some (projection, binding, evidence) ↔
      binding ∈ snapshot.bindings ∧
        evidence ∈ modelsForProvider registry binding.providerName ∧
          projectEvidence runtime snapshot effective binding evidence = some projection ∧
            projection.id = projectionId := by
  rw [resolveProjection_eq_some_iff_find?]
  constructor
  · rintro ⟨-, hfound, hcandidate, hrow⟩
    obtain ⟨binding', hbinding', row, hrow', hlisted⟩ :=
      (mem_projectModelUniverse runtime).1 (List.mem_of_find?_eq_some hfound)
    obtain ⟨-, -, hname, hpool, hmodel⟩ := projectEvidence_eq_some runtime hlisted
    -- the candidate found by name is the binding of the entry, and the row found is its row
    obtain ⟨hbinding, hsame, -⟩ := List.find?_decide_eq_some hcandidate
    obtain rfl := h.binding_eq hbinding hbinding' (hsame.trans hname)
    rw [hname, hmodel, h.find_eq hrow'] at hrow
    cases hrow
    exact ⟨hbinding, hrow', hlisted, (List.find?_decide_eq_some hfound).2⟩
  · rintro ⟨hbinding, hevidence, hlisted, rfl⟩
    obtain ⟨-, hid, hname, hpool, hmodel⟩ := projectEvidence_eq_some runtime hlisted
    have hmem : projection ∈ projectModelUniverse runtime registry snapshot effective :=
      (mem_projectModelUniverse runtime).2 ⟨binding, hbinding, evidence, hevidence, hlisted⟩
    refine ⟨?_, ?_, ?_, ?_⟩
    · rw [hid]
      exact isProjectionId_projectionIdFor runtime _ _
    · obtain ⟨found, hfound, hfoundMem, hsame⟩ :=
        List.exists_find?_decide (p := (·.id = projection.id)) hmem rfl
      obtain ⟨binding', hbinding', row, hrow, hlisted'⟩ :=
        (mem_projectModelUniverse runtime).1 hfoundMem
      have hid' := (projectEvidence_eq_some runtime hlisted').2.1
      rw [hid', hid] at hsame
      obtain ⟨rfl, rfl⟩ := h.eq_of_id hbinding' hbinding hrow hevidence hsame
      rw [hfound, ← hlisted, hlisted']
    · obtain ⟨found, hfound, hfoundMem, hsame, -⟩ :=
        List.exists_find?_decide (p := fun candidate : ProviderPoolBinding =>
          candidate.providerName = projection.providerName ∧
            candidate.poolId = projection.poolId) hbinding ⟨hname.symm, hpool.symm⟩
      obtain rfl := h.binding_eq hfoundMem hbinding (hsame.trans hname)
      exact hfound
    · rw [hname, hmodel]
      exact h.find_eq hevidence

/-! ## Quarantined rows -/

/-- A quarantined answer for a demanded feature keeps a row from being listed, with the
experimental opt-in too. -/
theorem projectionEligible_of_quarantined {evidence : ModelEvidence}
    {answers : OrderedMap ClaimFeature EffectiveCompatibility} {experimentalModels : Bool}
    {feature : ClaimFeature} {answer : EffectiveCompatibility}
    (hrequired : feature ∈ featuresOfEvidence evidence)
    (hanswer : answers.get? feature = some answer) (hquarantined : answer.effective = .quarantined) :
    projectionEligible evidence answers experimentalModels = false := by
  unfold projectionEligible
  have hmem : answer ∈ (featuresOfEvidence evidence).filterMap answers.get? :=
    List.mem_filterMap.2 ⟨feature, hrequired, hanswer⟩
  refine if_pos (List.any_eq_true.2 ⟨answer, hmem, ?_⟩)
  exact decide_eq_true (Or.inr hquarantined)

/-- A row with a quarantined answer for a demanded feature is not listed. -/
theorem not_listsRow_of_quarantined {registry : RegistryDocument}
    {snapshot : ModelUniverseSnapshot} {effective : EffectiveSnapshot} {row : ModelEvidence}
    {answers : OrderedMap ClaimFeature EffectiveCompatibility} {feature : ClaimFeature}
    {answer : EffectiveCompatibility} (hanswers : effective.get? row.logicalId = some answers)
    (hrequired : feature ∈ featuresOfEvidence row)
    (hanswer : answers.get? feature = some answer) (hquarantined : answer.effective = .quarantined) :
    ¬ ListsRow runtime registry snapshot (some effective) row := by
  rintro ⟨binding, -, -, hlisted⟩
  have hsize : answers.size ≠ 0 := (OrderedMap.size_pos_of_get? hanswer).ne'
  have hfilter : ((some effective).bind (·.get? row.logicalId)).filter (·.size ≠ 0) =
      some answers := by
    rw [Option.bind_some, hanswers]
    simp [hsize]
  rw [projectEvidence, hfilter] at hlisted
  simp only [projectionEligible_of_quarantined hrequired hanswer hquarantined] at hlisted
  cases hlisted

end RlyGateway
