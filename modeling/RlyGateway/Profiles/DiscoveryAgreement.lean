import RlyGateway.Profiles.ProjectedRoute
import RlyGateway.Routes.AnthropicModels

/-!
# Discovery and routing

When the models a session is shown are the ones it can be routed to. Discovery lists rows by their
effective answers; a route resolves a projection id by the static states and asks for the effective
answers after that, so the two agree exactly where these two gates do.
-/

namespace RlyGateway

/-- A model supports what a request demands. -/
def Supports (row : ModelEvidence) (request : CanonicalRequest)
    (required : List CapabilityRequirement) : Prop :=
  missingCapabilities row.capabilities required = [] ∧
    reasoningFailure ((reasoningRequirementFrom request required).getD ⟨false, none⟩) row = none

/-- A request for a model that demands nothing else. -/
def plainRequest (requestedModel : String) : CanonicalRequest where
  id := ""
  source := ⟨.anthropicMessages, none⟩
  requestedModel := requestedModel
  system := []
  input := []
  messages := []
  tools := []
  toolChoice := none
  stream := false
  store := none
  included := none
  inference := ⟨none, none, none, none, none, none⟩
  previousResponseId := none
  agent := none
  fidelity := none

theorem supports_plainRequest (row : ModelEvidence) (requestedModel : String) :
    Supports row (plainRequest requestedModel) [] :=
  ⟨rfl, rfl⟩

section

variable (runtime : NodeRuntime) (registry : RegistryDocument)
  (compatibility : Option EffectiveCompatibilityRegistry) (policy : PolicyRevision)
  (session : LaunchSession)

/-- The pool and the provider that a binding of the session leads to. -/
def LaunchSession.boundTarget (binding : ProviderPoolBinding) :
    Option (PoolRecord × ProviderRecord) :=
  RlyGateway.boundTarget (applySessionBinding policy session) binding

/-- The resolution of a request of the session. -/
def LaunchSession.resolve (request : CanonicalRequest) (required : List CapabilityRequirement) :
    Except RouteResolutionError ProjectedTarget :=
  resolveProjectedModel runtime request session ⟨some policy, registry, compatibility, required⟩

/-- The stores can be read for what requests demand that a model supports. -/
def AnswersRequests (providerName : String) (row : ModelEvidence) : Prop :=
  ∀ request required, Supports row request required → ∃ answers,
    effectiveSnapshotFor runtime ⟨some policy, registry, compatibility, required⟩ providerName
      request = .ok answers

/-- Every listed model is routed to, if its pool and its provider are there and it supports what
the request demands, and no other projection id is. -/
structure AgreesWithDiscovery (effective : Option EffectiveSnapshot) : Prop where
  accepts : ∀ projection ∈ projectModelUniverse runtime registry session.modelUniverse effective,
    ∀ row, findModelEvidence registry projection.providerName projection.upstreamModelId =
      some row → ∀ request required, request.requestedModel = projection.id →
        Supports row request required →
          session.boundTarget policy projection.binding ≠ none →
            ∃ target, session.resolve runtime registry compatibility policy request required =
              .ok target ∧ target.selection.model = row
  rejects : ∀ request required, isProjectionId request.requestedModel = true →
    (∀ projection ∈ projectModelUniverse runtime registry session.modelUniverse effective,
      projection.id ≠ request.requestedModel) →
        ∃ failure, session.resolve runtime registry compatibility policy request required =
          .error (.activation failure) ∧ failure.code = .modelUnavailable

/-- The static state and the effective answers allow the same rows of the bindings that lead
somewhere, whose provider has kept its name; and the stores can be read for the rows allowed. -/
structure GatesAgree (effective : Option EffectiveSnapshot) : Prop where
  routed : ∀ binding ∈ session.modelUniverse.bindings, ∀ pool provider,
    session.boundTarget policy binding = some (pool, provider) →
      ∀ row ∈ modelsForProvider registry binding.providerName,
        rowEligible session.modelUniverse effective row = true →
          seedEligible row session.modelUniverse.experimentalModels = true ∧
            provider.name = binding.providerName ∧
              AnswersRequests runtime registry compatibility policy binding.providerName row
  listed : ∀ binding ∈ session.modelUniverse.bindings, session.boundTarget policy binding ≠ none →
    ∀ row ∈ modelsForProvider registry binding.providerName,
      seedEligible row session.modelUniverse.experimentalModels = true →
        rowEligible session.modelUniverse effective row = true

end

/-! ## The steps of a resolution -/

section

variable {runtime : NodeRuntime} {registry : RegistryDocument}
  {compatibility : Option EffectiveCompatibilityRegistry} {policy : PolicyRevision}
  {session : LaunchSession} {request : CanonicalRequest} {required : List CapabilityRequirement}

/-- An id that the universe does not map is not available. -/
theorem resolve_of_unmapped (h : resolveProjection runtime request.requestedModel
      session.modelUniverse registry none = none) :
    ∃ failure, session.resolve runtime registry compatibility policy request required =
      .error (.activation failure) ∧ failure.code = .modelUnavailable := by
  unfold LaunchSession.resolve resolveProjectedModel
  dsimp only
  rw [h]
  exact ⟨_, rfl, rfl⟩

/-- Neither is one whose pool or provider is gone. -/
theorem resolve_of_unbound {projection : ModelProjection} {binding : ProviderPoolBinding}
    {evidence : ModelEvidence} (h : resolveProjection runtime request.requestedModel
      session.modelUniverse registry none = some (projection, binding, evidence))
    (hbound : session.boundTarget policy binding = none) :
    ∃ failure, session.resolve runtime registry compatibility policy request required =
      .error (.activation failure) ∧ failure.code = .modelUnavailable := by
  unfold LaunchSession.boundTarget at hbound
  unfold LaunchSession.resolve resolveProjectedModel
  dsimp only
  rw [h]
  dsimp only
  rw [hbound]
  exact ⟨_, rfl, rfl⟩

/-- Any other id ends with the selection of its model, or fails in another way. -/
theorem resolve_of_bound {projection : ModelProjection} {binding : ProviderPoolBinding}
    {evidence : ModelEvidence} {pool : PoolRecord} {provider : ProviderRecord}
    (h : resolveProjection runtime request.requestedModel session.modelUniverse registry none =
      some (projection, binding, evidence))
    (hbound : session.boundTarget policy binding = some (pool, provider)) :
    session.resolve runtime registry compatibility policy request required = (do
      let effective ← (effectiveSnapshotFor runtime
        ⟨some policy, registry, compatibility, required⟩ provider.name request).mapError .stores
      let selection ← (selectModelForRequest evidence.identity.upstreamModelId provider.name
        required request registry effective
        (compatibility.bind (·.policy.allowQuarantineBypass))).mapError .activation
      .ok ⟨projection, binding, pool, provider, selection⟩) := by
  unfold LaunchSession.boundTarget at hbound
  unfold LaunchSession.resolve resolveProjectedModel
  dsimp only
  rw [h]
  dsimp only
  rw [hbound]

/-- A selection for a request succeeds with what the exact selection gives. -/
theorem selectModelForRequest_eq_ok {modelId providerId : String}
    {effective : Option EffectiveSnapshot} {bypass : Option Bool} {result : ModelSelectionResult} :
    selectModelForRequest modelId providerId required request registry effective bypass =
        .ok result ↔
      selectModel (selectionInputFor modelId providerId required request) registry effective
        (bypass.getD false) = .ok result := by
  unfold selectModelForRequest
  split
  case h_1 found hfound =>
    rw [hfound, Except.ok.injEq, Except.ok.injEq]
  case h_2 failure hfailure =>
    rw [hfailure]
    constructor
    · intro h
      cases h
    · intro h
      cases h

/-- A failed selection is a rejection by capabilities. -/
theorem code_of_selectModelForRequest {modelId providerId : String}
    {effective : Option EffectiveSnapshot} {bypass : Option Bool}
    {failure : ProfileActivationError}
    (h : selectModelForRequest modelId providerId required request registry effective bypass =
      .error failure) : failure.code = .capabilityRejected := by
  unfold selectModelForRequest at h
  split at h
  · cases h
  · cases h
    rfl

/-- What a successful resolution went through. -/
theorem exists_of_resolve_eq_ok {target : ProjectedTarget}
    (h : session.resolve runtime registry compatibility policy request required = .ok target) :
    ∃ projection binding evidence pool provider effective,
      resolveProjection runtime request.requestedModel session.modelUniverse registry none =
          some (projection, binding, evidence) ∧
        session.boundTarget policy binding = some (pool, provider) ∧
          effectiveSnapshotFor runtime ⟨some policy, registry, compatibility, required⟩
              provider.name request = .ok effective ∧
            findModelEvidence registry provider.name evidence.identity.upstreamModelId =
              some target.selection.model := by
  -- a resolution that succeeds got past the mapping and the binding
  have hunavailable : ¬ ∃ failure, session.resolve runtime registry compatibility policy request
      required = .error (.activation failure) ∧ failure.code = .modelUnavailable := by
    rintro ⟨failure, herror, -⟩
    rw [h] at herror
    cases herror
  cases hresolve : resolveProjection runtime request.requestedModel session.modelUniverse registry
      none with
  | none => exact absurd (resolve_of_unmapped hresolve) hunavailable
  | some resolved =>
      rcases resolved with ⟨projection, binding, evidence⟩
      cases hbound : session.boundTarget policy binding with
      | none => exact absurd (resolve_of_unbound hresolve hbound) hunavailable
      | some bound =>
          rcases bound with ⟨pool, provider⟩
          rw [resolve_of_bound hresolve hbound] at h
          obtain ⟨effective, heffective, h⟩ := Except.bind_eq_ok.1 h
          obtain ⟨selection, hselection, h⟩ := Except.bind_eq_ok.1 h
          cases h
          have hselected := selectModelForRequest_eq_ok.1 (Except.mapError_eq_ok.1 hselection)
          exact ⟨projection, binding, evidence, pool, provider, effective, rfl, hbound,
            Except.mapError_eq_ok.1 heffective, findModelEvidence_of_selectModel rfl hselected⟩

/-- Once a pool and a provider are found, no resolution ends with a model that is not available. -/
theorem resolve_ne_of_bound {projection : ModelProjection} {binding : ProviderPoolBinding}
    {evidence : ModelEvidence}
    (h : resolveProjection runtime request.requestedModel session.modelUniverse registry none =
      some (projection, binding, evidence))
    (hbound : session.boundTarget policy binding ≠ none) :
    ¬ ∃ failure, session.resolve runtime registry compatibility policy request required =
      .error (.activation failure) ∧ failure.code = .modelUnavailable := by
  rintro ⟨failure, herror, hcode⟩
  obtain ⟨⟨pool, provider⟩, hbound⟩ := Option.ne_none_iff_exists'.1 hbound
  rw [resolve_of_bound h hbound] at herror
  -- the stores raise an error of their own, and a failed selection has another code
  cases heffective : effectiveSnapshotFor runtime ⟨some policy, registry, compatibility, required⟩
      provider.name request with
  | error message =>
      rw [heffective] at herror
      cases herror
  | ok effective =>
      rw [heffective] at herror
      cases hselection : selectModelForRequest evidence.identity.upstreamModelId provider.name
          required request registry effective
          (compatibility.bind (·.policy.allowQuarantineBypass)) with
      | error rejection =>
          have hrejected := code_of_selectModelForRequest hselection
          change (Except.mapError RouteResolutionError.activation _ >>= _) = _ at herror
          rw [hselection] at herror
          cases herror
          rw [hrejected] at hcode
          cases hcode
      | ok selection =>
          change (Except.mapError RouteResolutionError.activation _ >>= _) = _ at herror
          rw [hselection] at herror
          cases herror

/-! ## The answers of discovery and of a request -/

/-- What a model supports it was reviewed for. -/
theorem mem_featuresOfEvidence_of_supports {row : ModelEvidence}
    (h : Supports row request required) {feature : ClaimFeature}
    (hfeature : feature ∈ requiredFeaturesForCapabilities required
      (reasoningRequirementFrom request required)) : feature ∈ featuresOfEvidence row := by
  obtain ⟨hmissing, hreasoning⟩ := h
  have hhas : ∀ capability ∈ required, row.capabilities.has capability = true := by
    intro capability hcapability
    have hpass := List.filter_eq_nil_iff.1 hmissing capability hcapability
    simpa using hpass
  unfold featuresOfEvidence
  rw [mem_requiredFeaturesForEvidence]
  rcases mem_requiredFeaturesForCapabilities hfeature with hbase | ⟨rfl, htools⟩ |
    ⟨rfl, hparallel⟩ | ⟨rfl, requirement, hrequirement, hwith⟩
  · exact .inl hbase
  · exact .inr (.inl ⟨hhas .tools htools, rfl⟩)
  · exact .inr (.inr (.inl ⟨hhas .parallelTools hparallel, rfl⟩))
  · refine .inr (.inr (.inr ⟨?_, rfl⟩))
    rw [hrequirement, Option.getD_some] at hreasoning
    unfold reasoningFailure at hreasoning
    split at hreasoning
    · cases hreasoning
    · split at hreasoning
      case isTrue => cases hreasoning
      case isFalse hpass =>
        by_contra hnot
        exact hpass ⟨hwith, by simpa using hnot⟩

/-- The text of a model is always demanded. -/
theorem text_mem_requiredFeaturesForCapabilities (capabilities : List CapabilityRequirement)
    (reasoning : Option ReasoningRequirement) :
    .text ∈ requiredFeaturesForCapabilities capabilities reasoning := by
  unfold requiredFeaturesForCapabilities
  simp [← OrderedSet.mem_def, mem_addFeatureIf]

/-- The compatibility filter of a request passes for a row that the static state and the answers
of discovery allow. -/
theorem compatibilityFailure_eq_none {snapshot : ModelUniverseSnapshot} {row : ModelEvidence}
    {effective answers : Option EffectiveSnapshot} {providerName : String} (modelId : String)
    (hapart : TellsApart runtime registry snapshot)
    (hrow : row ∈ modelsForProvider registry providerName)
    (hdiscovery : modelsSnapshot runtime registry compatibility = .ok effective)
    (hanswers : effectiveSnapshotFor runtime ⟨some policy, registry, compatibility, required⟩
      providerName request = .ok answers)
    (hsupports : Supports row request required)
    (hseed : seedEligible row snapshot.experimentalModels = true)
    (heligible : rowEligible snapshot effective row = true) (bypass : Bool) :
    (assess row (selectionInputFor modelId providerName required request) true answers
      bypass).compatibilityFailure = none := by
  cases compatibility with
  | none =>
      cases hanswers
      show compatibilityFailure row true none = none
      unfold seedEligible at hseed
      unfold compatibilityFailure
      cases hstate : row.compatibility.state with
      | BROKEN =>
          rw [hstate] at hseed
          cases hseed
      | EXPERIMENTAL => rfl
      | VERIFIED => rfl
  | some compatibility =>
      obtain ⟨listing, hlisting, rfl⟩ := Except.map_eq_ok.1 hdiscovery
      obtain ⟨asking, hasking, rfl⟩ := Except.map_eq_ok.1 hanswers
      have hmem := mem_of_mem_modelsForProvider hrow
      -- both snapshots hold the row's own answers under its logical id
      obtain ⟨listed, hget, hlisted⟩ :=
        EffectiveCompatibilityRegistry.get?_snapshotForModels runtime hlisting hmem
          fun other hother hid => hapart.eq_of_logicalId hmem hother hid
      obtain ⟨asked, hget', hasked⟩ :=
        EffectiveCompatibilityRegistry.get?_snapshotForModels runtime hasking hrow
          fun other hother hid =>
            hapart.eq_of_logicalId hmem (mem_of_mem_modelsForProvider hother) hid
      have htext : ClaimFeature.text ∈ featuresOfEvidence row := by
        unfold featuresOfEvidence
        rw [mem_requiredFeaturesForEvidence]
        exact .inl (by decide)
      obtain ⟨-, answer, -, -, hanswer⟩ :=
        EffectiveCompatibilityRegistry.get?_effectiveForModel runtime hlisted htext
      obtain ⟨-, answer', -, -, hanswer'⟩ :=
        EffectiveCompatibilityRegistry.get?_effectiveForModel runtime hasked
          (text_mem_requiredFeaturesForCapabilities _ _)
      have hsize := (OrderedMap.size_pos_of_get? hanswer).ne'
      have hsize' := (OrderedMap.size_pos_of_get? hanswer').ne'
      have hallowed : projectionEligible row listed snapshot.experimentalModels = true := by
        have hfilter : ((some listing).bind (·.get? row.logicalId)).filter (·.size ≠ 0) =
            some listed := by
          rw [Option.bind_some, hget]
          simp [hsize]
        unfold rowEligible at heligible
        rw [hfilter] at heligible
        exact heligible
      refine effectiveCompatibilityFailure_eq_none hget' hsize' ?_
      intro feature hfeature
      have hdemanded := mem_featuresOfEvidence_of_supports hsupports hfeature
      obtain ⟨-, answer, -, -, hanswer⟩ :=
        EffectiveCompatibilityRegistry.get?_effectiveForModel runtime hlisted hdemanded
      have hsame := EffectiveCompatibilityRegistry.get?_effectiveForModel_eq runtime hlisted hasked
        hdemanded hfeature
      refine ⟨answer, hsame.symm.trans hanswer, ?_⟩
      exact enforceEffective_of_positive (by simp)
        (positive_of_projectionEligible hallowed hdemanded hanswer)

/-! ## Agreement -/

variable {effective : Option EffectiveSnapshot}

/-- Without answers, a row is listed by its static state. -/
theorem rowEligible_none (snapshot : ModelUniverseSnapshot) (row : ModelEvidence) :
    rowEligible snapshot none row = seedEligible row snapshot.experimentalModels := rfl

/-- A bound row that the static state allows is what its id is resolved to. -/
theorem exists_resolveProjection {binding : ProviderPoolBinding} {row : ModelEvidence}
    (hapart : TellsApart runtime registry session.modelUniverse)
    (hbinding : binding ∈ session.modelUniverse.bindings)
    (hrow : row ∈ modelsForProvider registry binding.providerName)
    (hseed : seedEligible row session.modelUniverse.experimentalModels = true) :
    ∃ projection, resolveProjection runtime
      (projectionIdFor runtime binding.providerName row.identity.upstreamModelId)
        session.modelUniverse registry none = some (projection, binding, row) := by
  obtain ⟨projection, hprojection⟩ := (exists_projectEvidence_iff runtime).2
    ((rowEligible_none session.modelUniverse row).trans hseed)
  have hid := (projectEvidence_eq_some runtime hprojection).2.1
  exact ⟨projection, (resolveProjection_eq_some_iff runtime hapart).2
    ⟨hbinding, hrow, hprojection, hid⟩⟩

/-- A row that is routed to as it is listed passes both gates, under the name of its provider. -/
theorem gates_of_resolve {binding : ProviderPoolBinding} {row : ModelEvidence} {pool : PoolRecord}
    {provider : ProviderRecord} {target : ProjectedTarget}
    (hapart : TellsApart runtime registry session.modelUniverse)
    (hbinding : binding ∈ session.modelUniverse.bindings)
    (hrow : row ∈ modelsForProvider registry binding.providerName)
    (hbound : session.boundTarget policy binding = some (pool, provider))
    (hid : request.requestedModel =
      projectionIdFor runtime binding.providerName row.identity.upstreamModelId)
    (hresolve : session.resolve runtime registry compatibility policy request required = .ok target)
    (hmodel : target.selection.model = row) :
    seedEligible row session.modelUniverse.experimentalModels = true ∧
      provider.name = binding.providerName ∧ ∃ answers, effectiveSnapshotFor runtime
        ⟨some policy, registry, compatibility, required⟩ binding.providerName request =
          .ok answers := by
  obtain ⟨projection, binding', row', pool', provider', answers, hmapped, hbound', hanswers, hfound⟩ :=
    exists_of_resolve_eq_ok hresolve
  obtain ⟨hbinding', hrow', hprojection, hid'⟩ :=
    (resolveProjection_eq_some_iff runtime hapart).1 hmapped
  obtain ⟨hseed, hprojectionId, -⟩ := projectEvidence_eq_some runtime hprojection
  have hsame : projectionIdFor runtime binding'.providerName row'.identity.upstreamModelId =
      projectionIdFor runtime binding.providerName row.identity.upstreamModelId := by
    rw [← hprojectionId, hid', hid]
  obtain ⟨rfl, rfl⟩ := hapart.eq_of_id hbinding' hbinding hrow' hrow hsame
  cases hbound.symm.trans hbound'
  -- one logical id is made from the name of the provider at both times
  have hname : provider.name = binding'.providerName := by
    rw [hmodel] at hfound
    have hfound' := hapart.find_eq hrow
    unfold findModelEvidence at hfound hfound'
    have hlogical := (List.find?_decide_eq_some hfound).2
    rw [(List.find?_decide_eq_some hfound').2] at hlogical
    have hcancel : binding'.providerName.toList = provider.name.toList := by
      have htexts := congrArg String.toList hlogical
      simp only [String.toList_append, List.append_assoc] at htexts
      exact List.append_cancel_right htexts
    exact (String.toList_inj.1 hcancel).symm
  rw [hname] at hanswers
  exact ⟨hseed, hname, answers, hanswers⟩

/-- A row whose selection has answers that its compatibility filter passes is routed to. -/
theorem exists_resolve_of_answers {projection : ModelProjection} {binding : ProviderPoolBinding}
    {row : ModelEvidence} {pool : PoolRecord} {provider : ProviderRecord}
    {answers : Option EffectiveSnapshot}
    (hmapped : resolveProjection runtime request.requestedModel session.modelUniverse registry
      none = some (projection, binding, row))
    (hbound : session.boundTarget policy binding = some (pool, provider))
    (hanswers : effectiveSnapshotFor runtime ⟨some policy, registry, compatibility, required⟩
      provider.name request = .ok answers)
    (hfound : findModelEvidence registry provider.name row.identity.upstreamModelId = some row)
    (hsupports : Supports row request required)
    (hcompatible : (assess row (selectionInputFor row.identity.upstreamModelId provider.name
      required request) true answers
        ((compatibility.bind (·.policy.allowQuarantineBypass)).getD false)).compatibilityFailure =
          none) :
    ∃ target, session.resolve runtime registry compatibility policy request required =
      .ok target ∧ target.selection.model = row := by
  have hexact : (selectionInputFor row.identity.upstreamModelId provider.name required
      request).exactModelId = some row.identity.upstreamModelId := rfl
  have heligible := eligible_assess_iff.2 ⟨hsupports.1, hsupports.2, hcompatible⟩
  obtain ⟨result, hresult⟩ := exists_selectModel_of_eligible hexact hfound heligible
  have hselected := findModelEvidence_of_selectModel hexact hresult
  refine ⟨⟨projection, binding, pool, provider, result⟩, ?_,
    Option.some.inj (hselected.symm.trans hfound)⟩
  rw [resolve_of_bound hmapped hbound, hanswers]
  show (Except.mapError RouteResolutionError.activation _ >>= _) = _
  rw [selectModelForRequest_eq_ok.2 hresult]
  rfl

/-- A row that is listed and routed to as it is listed passes the gates of routing. -/
theorem AgreesWithDiscovery.routed
    (h : AgreesWithDiscovery runtime registry compatibility policy session effective)
    (hapart : TellsApart runtime registry session.modelUniverse)
    {binding : ProviderPoolBinding} (hbinding : binding ∈ session.modelUniverse.bindings)
    {pool : PoolRecord} {provider : ProviderRecord}
    (hbound : session.boundTarget policy binding = some (pool, provider))
    {row : ModelEvidence} (hrow : row ∈ modelsForProvider registry binding.providerName)
    (heligible : rowEligible session.modelUniverse effective row = true) :
    seedEligible row session.modelUniverse.experimentalModels = true ∧
      provider.name = binding.providerName ∧
        AnswersRequests runtime registry compatibility policy binding.providerName row := by
  obtain ⟨projection, hprojection⟩ := (exists_projectEvidence_iff runtime).2 heligible
  obtain ⟨-, hid, hname, -, hmodel⟩ := projectEvidence_eq_some runtime hprojection
  have hlisted := (mem_projectModelUniverse runtime).2 ⟨binding, hbinding, row, hrow, hprojection⟩
  have hfound : findModelEvidence registry projection.providerName
      projection.upstreamModelId = some row := by
    rw [hname, hmodel]
    exact hapart.find_eq hrow
  have hthere : session.boundTarget policy projection.binding ≠ none := by
    rw [binding_projectEvidence runtime hprojection, hbound]
    exact Option.some_ne_none _
  have hrouted : ∀ request required, request.requestedModel = projection.id →
      Supports row request required → seedEligible row
        session.modelUniverse.experimentalModels = true ∧
          provider.name = binding.providerName ∧ ∃ answers, effectiveSnapshotFor runtime
            ⟨some policy, registry, compatibility, required⟩ binding.providerName request =
              .ok answers := by
    intro request required hrequested hsupports
    obtain ⟨target, hresolve, hselected⟩ :=
      h.accepts projection hlisted row hfound request required hrequested hsupports hthere
    exact gates_of_resolve hapart hbinding hrow hbound (hrequested.trans hid) hresolve hselected
  obtain ⟨hseed, hkept, -⟩ :=
    hrouted (plainRequest projection.id) [] rfl (supports_plainRequest row projection.id)
  refine ⟨hseed, hkept, ?_⟩
  intro request required hsupports
  -- the answers do not depend on the model that is requested
  exact (hrouted { request with requestedModel := projection.id } required rfl hsupports).2.2

/-- A row that the static state allows is listed, since its id is not rejected. -/
theorem AgreesWithDiscovery.listed
    (h : AgreesWithDiscovery runtime registry compatibility policy session effective)
    (hapart : TellsApart runtime registry session.modelUniverse)
    {binding : ProviderPoolBinding} (hbinding : binding ∈ session.modelUniverse.bindings)
    (hbound : session.boundTarget policy binding ≠ none)
    {row : ModelEvidence} (hrow : row ∈ modelsForProvider registry binding.providerName)
    (hseed : seedEligible row session.modelUniverse.experimentalModels = true) :
    rowEligible session.modelUniverse effective row = true := by
  by_contra hunlisted
  obtain ⟨projection, hmapped⟩ := exists_resolveProjection hapart hbinding hrow hseed
  have hprojectionId := isProjectionId_projectionIdFor runtime binding.providerName
    row.identity.upstreamModelId
  generalize hid : projectionIdFor runtime binding.providerName row.identity.upstreamModelId =
    requestedModel at hmapped hprojectionId
  have hother : ∀ other ∈ projectModelUniverse runtime registry session.modelUniverse effective,
      other.id ≠ requestedModel := by
    intro other hother hsame
    obtain ⟨binding', hbinding', row', hrow', hother⟩ := (mem_projectModelUniverse runtime).1 hother
    obtain ⟨heligible, hid', -⟩ := projectEvidence_eq_some runtime hother
    obtain ⟨-, rfl⟩ := hapart.eq_of_id hbinding' hbinding hrow' hrow
      ((hid'.symm.trans hsame).trans hid.symm)
    exact hunlisted heligible
  -- a request that demands nothing would have to be rejected, but its target is bound
  have hrejected := h.rejects (plainRequest requestedModel) [] hprojectionId hother
  have hmapped' : resolveProjection runtime (plainRequest requestedModel).requestedModel
      session.modelUniverse registry none = some (projection, binding, row) := hmapped
  exact resolve_ne_of_bound hmapped' hbound hrejected

/-- A listed model is routed to where the gates agree. -/
theorem GatesAgree.accepts
    (h : GatesAgree runtime registry compatibility policy session effective)
    (hapart : TellsApart runtime registry session.modelUniverse)
    (hdiscovery : modelsSnapshot runtime registry compatibility = .ok effective)
    {projection : ModelProjection} (hlisted : projection ∈
      projectModelUniverse runtime registry session.modelUniverse effective)
    {row : ModelEvidence} (hfound : findModelEvidence registry projection.providerName
      projection.upstreamModelId = some row)
    (hrequested : request.requestedModel = projection.id)
    (hsupports : Supports row request required)
    (hthere : session.boundTarget policy projection.binding ≠ none) :
    ∃ target, session.resolve runtime registry compatibility policy request required =
      .ok target ∧ target.selection.model = row := by
  obtain ⟨binding, hbinding, row', hrow, hprojection⟩ := (mem_projectModelUniverse runtime).1 hlisted
  obtain ⟨heligible, hid, hname, -, hmodel⟩ := projectEvidence_eq_some runtime hprojection
  have hfound' := hapart.find_eq hrow
  have hsame : row' = row := by
    rw [hname, hmodel, hfound'] at hfound
    exact Option.some.inj hfound
  subst hsame
  rw [binding_projectEvidence runtime hprojection] at hthere
  obtain ⟨⟨pool, provider⟩, hbound⟩ := Option.ne_none_iff_exists'.1 hthere
  obtain ⟨hseed, hkept, hreads⟩ := h.routed binding hbinding pool provider hbound row' hrow heligible
  obtain ⟨answers, hanswers⟩ := hreads request required hsupports
  obtain ⟨mapped, hmapped⟩ := exists_resolveProjection hapart hbinding hrow hseed
  rw [← hid, ← hrequested] at hmapped
  -- the selection looks the row up under the current name of the provider, which is the bound one
  have hcompatible := compatibilityFailure_eq_none row'.identity.upstreamModelId hapart hrow
    hdiscovery hanswers hsupports hseed heligible
      ((compatibility.bind (·.policy.allowQuarantineBypass)).getD false)
  rw [← hkept] at hanswers hfound' hcompatible
  exact exists_resolve_of_answers hmapped hbound hanswers hfound' hsupports hcompatible

/-- Any other projection id is rejected where the gates agree. -/
theorem GatesAgree.rejects
    (h : GatesAgree runtime registry compatibility policy session effective)
    (hapart : TellsApart runtime registry session.modelUniverse)
    (hunlisted : ∀ projection ∈ projectModelUniverse runtime registry session.modelUniverse
      effective, projection.id ≠ request.requestedModel) :
    ∃ failure, session.resolve runtime registry compatibility policy request required =
      .error (.activation failure) ∧ failure.code = .modelUnavailable := by
  cases hmapped : resolveProjection runtime request.requestedModel session.modelUniverse registry
      none with
  | none => exact resolve_of_unmapped hmapped
  | some mapped =>
      rcases mapped with ⟨projection, binding, row⟩
      by_cases hbound : session.boundTarget policy binding = none
      · exact resolve_of_unbound hmapped hbound
      · exfalso
        obtain ⟨hbinding, hrow, hprojection, hid⟩ :=
          (resolveProjection_eq_some_iff runtime hapart).1 hmapped
        obtain ⟨hseed, hid', -⟩ := projectEvidence_eq_some runtime hprojection
        obtain ⟨other, hother⟩ := (exists_projectEvidence_iff runtime).2
          (h.listed binding hbinding hbound row hrow hseed)
        refine hunlisted other ((mem_projectModelUniverse runtime).2
          ⟨binding, hbinding, row, hrow, hother⟩) ?_
        rw [(projectEvidence_eq_some runtime hother).2.1, ← hid', hid]

/-- Discovery and routing agree exactly where their gates do. -/
theorem agreesWithDiscovery_iff (hapart : TellsApart runtime registry session.modelUniverse)
    (hdiscovery : modelsSnapshot runtime registry compatibility = .ok effective) :
    AgreesWithDiscovery runtime registry compatibility policy session effective ↔
      GatesAgree runtime registry compatibility policy session effective := by
  constructor
  · intro h
    constructor
    · intro binding hbinding pool provider hbound row hrow heligible
      exact h.routed hapart hbinding hbound hrow heligible
    · intro binding hbinding hbound row hrow hseed
      exact h.listed hapart hbinding hbound hrow hseed
  · intro h
    constructor
    · intro projection hlisted row hfound request required hrequested hsupports hthere
      exact h.accepts hapart hdiscovery hlisted hfound hrequested hsupports hthere
    · intro request required _ hunlisted
      exact h.rejects hapart hunlisted

/-- Where the rows of a provider were reviewed for the same, discovery has read all that requests for
them read. -/
theorem answersRequests_of_modelsSnapshot {providerName : String} {row : ModelEvidence}
    (hdiscovery : modelsSnapshot runtime registry compatibility = .ok effective)
    (hsame : ∀ other ∈ modelsForProvider registry providerName,
      featuresOfEvidence other = featuresOfEvidence row) :
    AnswersRequests runtime registry compatibility policy providerName row := by
  intro request required hsupports
  cases compatibility with
  | none => exact ⟨none, rfl⟩
  | some compatibility =>
      obtain ⟨listing, hlisting, -⟩ := Except.map_eq_ok.1 hdiscovery
      have hfeatures : ∀ other ∈ modelsForProvider registry providerName,
          ∀ feature ∈ requiredFeaturesForCapabilities required
            (reasoningRequirementFrom request required), feature ∈ featuresOfEvidence other := by
        intro other hother feature hfeature
        rw [hsame other hother]
        exact mem_featuresOfEvidence_of_supports hsupports hfeature
      obtain ⟨asking, hasking⟩ := EffectiveCompatibilityRegistry.exists_snapshotForModels runtime
        hlisting (fun other hother => mem_of_mem_modelsForProvider hother) hfeatures
      exact ⟨some asking, Except.map_eq_ok.2 ⟨asking, hasking, rfl⟩⟩

end

/-! ## Models without claim documents -/

/-- A compatibility registry whose stores hold nothing. -/
def unclaimedCompatibility : EffectiveCompatibilityRegistry where
  stores :=
    { loadClaim := fun _ => .ok none
      decisionsFor := fun _ _ => .ok []
      recordsFor := fun _ _ => .ok [] }
  policy := { defaultCompatibilityPolicy with
    supportedClientBaseline := some "2.1.229"
    pinnedProtocolRevision := some "r1" }
  client := .claudeCode
  adapterForProvider := adapterIdForProvider
  clock := "2026-07-18T00:00:00.000Z"

/-- A policy whose pool and provider are those of the session. -/
def codexPolicy : PolicyRevision := ⟨1, "policy", [], [], []⟩

/-- A session that is bound to the provider of the reviewed models. -/
def codexSession (experimentalModels : Bool) : LaunchSession where
  profileId := "profile-1"
  profileName := "default"
  modelUniverse := { codexSnapshot with experimentalModels := experimentalModels }
  binding := ⟨⟨"pool-1", "main", "provider-1", .fillFirst, .null, 0, ["account-1"]⟩,
    ⟨"provider-1", "codex", true⟩⟩

theorem tellsApart_codexSession (experimentalModels : Bool) :
    TellsApart digestRuntime codexRegistry (codexSession experimentalModels).modelUniverse where
  rows := by decide
  bindings := List.pairwise_singleton _ _
  ids := by
    revert experimentalModels
    decide +kernel

/-- The reviewed models are listed with the opt-in only. -/
theorem rowEligible_unclaimed {experimentalModels : Bool} {effective : Option EffectiveSnapshot}
    (hdiscovery : modelsSnapshot digestRuntime codexRegistry (some unclaimedCompatibility) =
      .ok effective) {row : ModelEvidence} (hrow : row ∈ codexRegistry.models) :
    rowEligible (codexSession experimentalModels).modelUniverse effective row =
      experimentalModels := by
  have hall : (modelsSnapshot digestRuntime codexRegistry (some unclaimedCompatibility)).toOption.all
      (fun effective => ∀ experimentalModels, ∀ row ∈ codexRegistry.models,
        rowEligible (codexSession experimentalModels).modelUniverse effective row =
          experimentalModels) = true := by
    decide
  rw [hdiscovery] at hall
  exact of_decide_eq_true hall experimentalModels row hrow

/-- With the opt-in, discovery and routing agree on the reviewed models. -/
theorem agreesWithDiscovery_unclaimed : ∃ effective,
    modelsSnapshot digestRuntime codexRegistry (some unclaimedCompatibility) = .ok effective ∧
      AgreesWithDiscovery digestRuntime codexRegistry (some unclaimedCompatibility) codexPolicy
        (codexSession true) effective := by
  obtain ⟨effective, hdiscovery⟩ : ∃ effective,
      modelsSnapshot digestRuntime codexRegistry (some unclaimedCompatibility) = .ok effective :=
    ⟨_, rfl⟩
  refine ⟨effective, hdiscovery, (agreesWithDiscovery_iff (tellsApart_codexSession true)
    hdiscovery).2 ⟨?_, ?_⟩⟩
  · intro binding hbinding pool provider hbound row hrow _
    cases List.mem_singleton.1 hbinding
    have hsame : ∀ row ∈ codexRegistry.models, ∀ other ∈ modelsForProvider codexRegistry "codex",
        featuresOfEvidence other = featuresOfEvidence row := by
      decide
    have hseed : ∀ row ∈ codexRegistry.models, seedEligible row true = true := by decide
    have hmem := mem_of_mem_modelsForProvider hrow
    refine ⟨hseed row hmem, ?_, answersRequests_of_modelsSnapshot hdiscovery (hsame row hmem)⟩
    cases hbound
    rfl
  · intro binding hbinding hbound row hrow _
    exact rowEligible_unclaimed hdiscovery (mem_of_mem_modelsForProvider hrow)

/-! ## A promoted model -/

/-- A reviewed model that has the static state of every row a review does not say more of. -/
def promotedRow : ModelEvidence := reviewedModel
  { accessProviderId := "codex"
    upstreamModelId := "gpt-5.6-sol"
    modelFamily := some "openai/codex"
    verifiedAt := "2026-07-18"
    fixtureVersion := "codex-oauth-chat-v1"
    capabilities := ⟨true, true, false, false, true, false, false, .conservativeEstimate⟩
    compatibility := none
    limits := none
    reasoning := none }

/-- The claim identity of the model. -/
def promotedIdentity : CompatibilityClaimIdentity :=
  claimIdentityFor .claudeCode "2.1.229" "r1" "codex-oauth" "codex" "gpt-5.6-sol"
    (some "openai/codex")

/-- The claim key of a feature of the model. -/
def promotedKey (feature : ClaimFeature) : String :=
  (claimKeyFor promotedIdentity feature).toOption.getD ""

/-- The claim of a feature, passed in every layer. -/
def promotedDocument (feature : ClaimFeature) : CompatibilityClaimDocument where
  claimKey := promotedKey feature
  claimIdentity := promotedIdentity
  feature := feature
  records := [.A, .B, .C].map fun layer => { matrixObservation layer .passed with
    claimKey := promotedKey feature
    feature := feature }

/-- A compatibility registry whose stores hold the claims of the model and their promotions. -/
def promotedCompatibility : EffectiveCompatibilityRegistry :=
  { unclaimedCompatibility with
    stores :=
      { loadClaim := fun claimKey => .ok (((featuresOfEvidence promotedRow).find?
          (promotedKey · = claimKey)).map promotedDocument)
        decisionsFor := fun claimKey feature => .ok [⟨claimKey, feature, .promote,
          evidenceRevisionFor digestRuntime (promotedDocument feature), "reviewer",
          "rly-compat-review", "all layers passed", "2026-07-18T00:00:00.000Z", 1, none⟩]
        recordsFor := fun _ _ => .ok [] } }

theorem promoted_promotedRow {feature : ClaimFeature}
    (hfeature : feature ∈ featuresOfEvidence promotedRow) :
    Nonempty (promotedCompatibility.Promoted digestRuntime promotedRow feature) := by
  have hkeys : ∀ feature ∈ featuresOfEvidence promotedRow,
      (claimKeyFor promotedIdentity feature).toOption = some (promotedKey feature) ∧
        (featuresOfEvidence promotedRow).find? (promotedKey · = promotedKey feature) =
          some feature := by
    decide
  obtain ⟨hkey, hfind⟩ := hkeys feature hfeature
  have hclaim : promotedCompatibility.stores.loadClaim (promotedKey feature) =
      .ok (some (promotedDocument feature)) := by
    show Except.ok (((featuresOfEvidence promotedRow).find? (promotedKey · =
      promotedKey feature)).map promotedDocument) = _
    rw [hfind]
    rfl
  exact ⟨
    { identity := promotedIdentity
      claimKey := promotedKey feature
      claim := promotedDocument feature
      decisions := _
      decision := _
      records := []
      identity_eq := rfl
      claimKey_eq := Except.toOption_eq_some.1 hkey
      claim_eq := hclaim
      decisions_eq := rfl
      records_eq := rfl
      passed := rfl
      latest := rfl
      promotes := rfl
      covers := rfl
      fresh := rfl
      clear := rfl }⟩

/-- A promoted model is listed by default, and a request for it is rejected by its static state. -/
theorem not_agreesWithDiscovery_promoted :
    TellsApart digestRuntime ⟨1, [promotedRow]⟩ (codexSession false).modelUniverse ∧ ∃ effective,
      modelsSnapshot digestRuntime ⟨1, [promotedRow]⟩ (some promotedCompatibility) =
          .ok effective ∧
        ¬ AgreesWithDiscovery digestRuntime ⟨1, [promotedRow]⟩ (some promotedCompatibility)
          codexPolicy (codexSession false) effective := by
  have hapart : TellsApart digestRuntime ⟨1, [promotedRow]⟩ (codexSession false).modelUniverse :=
    ⟨by decide, List.pairwise_singleton _ _, by decide +kernel⟩
  obtain ⟨answers, hanswers⟩ : ∃ answers, promotedCompatibility.snapshotForModels digestRuntime
      [promotedRow] featuresOfEvidence ⟨false, none⟩ = .ok answers := ⟨_, rfl⟩
  refine ⟨hapart, some answers, Except.map_eq_ok.2 ⟨answers, hanswers, rfl⟩, ?_⟩
  intro hagrees
  have hbinding : (⟨"provider-1", "codex", "pool-1"⟩ : ProviderPoolBinding) ∈
      (codexSession false).modelUniverse.bindings := List.mem_cons_self
  have hbound : (codexSession false).boundTarget codexPolicy ⟨"provider-1", "codex", "pool-1"⟩ =
      some ((codexSession false).binding.pool.record, (codexSession false).binding.provider.record) :=
    rfl
  have hlisted := rowEligible_of_promoted digestRuntime hanswers (List.mem_singleton_self promotedRow)
    (fun other hother _ => List.mem_singleton.1 hother) (fun _ => promoted_promotedRow)
    (codexSession false).modelUniverse
  have hrow : promotedRow ∈ modelsForProvider ⟨1, [promotedRow]⟩ "codex" := by decide
  obtain ⟨hseed, -⟩ := hagrees.routed hapart hbinding hbound hrow hlisted
  cases hseed

end RlyGateway
