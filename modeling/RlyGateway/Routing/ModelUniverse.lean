import RlyGateway.ControlPlane.Types
import RlyGateway.Library.OrderedMap
import RlyGateway.Routing.ModelProjection

/-!
# The model universe of a session

The universe that is pinned when a session is issued: the pool of the profile, and the pool of every
other enabled provider that has exactly one with a ready account.
-/

namespace RlyGateway

variable (runtime : NodeRuntime)

/-- What a universe is compiled with besides the policy and the registry. -/
structure ModelUniverseInput where
  profilePoolId : Option String
  experimentalModels : Option Bool

/-- Whether a pool has a ready account. -/
def poolIsEligible (policy : PolicyRevision) (poolId : String) : Bool :=
  match policy.pools.find? (·.id = poolId) with
  | none => false
  | some pool => pool.memberships.any fun membership => policy.accounts.any fun account =>
      account.state = .ready ∧ account.id = membership.accountId

/-- The binding of a provider to a pool. -/
def bindingFor (poolId : String) (provider : ProviderRecord) : ProviderPoolBinding :=
  ⟨provider.id, provider.name, poolId⟩

/-- The binding of the profile. -/
def profileBinding (policy : PolicyRevision) (profilePoolId : Option String) :
    Option ProviderPoolBinding := do
  let poolId ← profilePoolId
  let pool ← policy.pools.find? (·.id = poolId)
  let provider ← policy.providers.find? (·.id = pool.providerId)
  if provider.enabled && poolIsEligible policy pool.id then some (bindingFor pool.id provider)
  else none

/-- The pools of a provider that have a ready account. -/
def eligiblePools (policy : PolicyRevision) (provider : ProviderRecord) : List PoolRecord :=
  policy.pools.filter fun pool => pool.providerId = provider.id ∧ poolIsEligible policy pool.id

/-- One turn of the loop over the providers. -/
def addDefaultBinding (policy : PolicyRevision) (bindings : OrderedMap String ProviderPoolBinding)
    (provider : ProviderRecord) : OrderedMap String ProviderPoolBinding :=
  if provider.id ∈ bindings.keys ∨ provider.enabled = false then bindings
  else match eligiblePools policy provider with
    | [pool] => bindings.set provider.id (bindingFor pool.id provider)
    -- no pool is chosen among several
    | _ => bindings

/-- The bindings by provider id. -/
def universeBindings (policy : PolicyRevision) (input : ModelUniverseInput) :
    OrderedMap String ProviderPoolBinding :=
  let bindings := match profileBinding policy input.profilePoolId with
    | none => OrderedMap.empty
    | some binding => OrderedMap.empty.set binding.providerId binding
  policy.providers.foldl (addDefaultBinding policy) bindings

/-- The universe that is pinned for a session. -/
def compileModelUniverseSnapshot (policy : PolicyRevision) (registry : RegistryDocument)
    (input : ModelUniverseInput) : ModelUniverseSnapshot where
  policyRevision := policy.revision
  policyHash := policy.hash
  registryRevision := registry.registryRevision
  bindings := (universeBindings policy input).values.insertionSort fun left right =>
    runtime.localeLe left.providerName right.providerName = true
  experimentalModels := input.experimentalModels.getD false

/-! ## What a universe binds -/

/-- A binding leads to an enabled provider and to a pool of it that has a ready account. -/
structure LeadsTo (policy : PolicyRevision) (binding : ProviderPoolBinding) : Prop where
  provider : ∃ provider ∈ policy.providers, provider.enabled = true ∧
    provider.id = binding.providerId ∧ provider.name = binding.providerName
  pool : ∃ pool ∈ policy.pools, pool.id = binding.poolId ∧ pool.providerId = binding.providerId ∧
    poolIsEligible policy pool.id = true

/-- Every provider is bound under its own id. -/
def BoundById (policy : PolicyRevision) (bindings : OrderedMap String ProviderPoolBinding) : Prop :=
  ∀ id binding, bindings.get? id = some binding →
    binding.providerId = id ∧ LeadsTo policy binding

theorem leadsTo_profileBinding {policy : PolicyRevision} {profilePoolId : Option String}
    {binding : ProviderPoolBinding} (h : profileBinding policy profilePoolId = some binding) :
    LeadsTo policy binding := by
  unfold profileBinding at h
  obtain ⟨poolId, -, h⟩ := Option.bind_eq_some_iff.1 h
  obtain ⟨pool, hpool, h⟩ := Option.bind_eq_some_iff.1 h
  obtain ⟨provider, hprovider, h⟩ := Option.bind_eq_some_iff.1 h
  obtain ⟨hmem, -⟩ := List.find?_decide_eq_some hpool
  obtain ⟨hmem', hid⟩ := List.find?_decide_eq_some hprovider
  split at h
  case isTrue heligible =>
    cases h
    rw [Bool.and_eq_true] at heligible
    exact ⟨⟨provider, hmem', heligible.1, rfl, rfl⟩, pool, hmem, rfl, hid.symm, heligible.2⟩
  case isFalse => cases h

/-- One turn binds a provider under its own id. -/
theorem BoundById.addDefaultBinding {policy : PolicyRevision}
    {bindings : OrderedMap String ProviderPoolBinding} {provider : ProviderRecord}
    (h : BoundById policy bindings) (hprovider : provider ∈ policy.providers) :
    BoundById policy (addDefaultBinding policy bindings provider) := by
  unfold RlyGateway.addDefaultBinding
  split
  case isTrue => exact h
  case isFalse hadd =>
    split
    case h_1 pool hpools =>
      have hpool : pool ∈ eligiblePools policy provider := by
        rw [hpools]
        exact List.mem_singleton_self pool
      obtain ⟨hmem, hof⟩ := List.mem_filter.1 hpool
      obtain ⟨hid, heligible⟩ := of_decide_eq_true hof
      have henabled : provider.enabled = true := by
        rw [← Bool.not_eq_false]
        exact fun hdisabled => hadd (.inr hdisabled)
      intro id binding hget
      rw [OrderedMap.get?_set] at hget
      split at hget
      case isTrue hsame =>
        cases hget
        exact ⟨hsame, ⟨provider, hprovider, henabled, rfl, rfl⟩, pool, hmem, rfl, hid, heligible⟩
      case isFalse => exact h id binding hget
    case h_2 => exact h

/-- The loop binds every provider under its own id. -/
theorem BoundById.foldl {policy : PolicyRevision} {providers : List ProviderRecord}
    {bindings : OrderedMap String ProviderPoolBinding} (h : BoundById policy bindings)
    (hproviders : ∀ provider ∈ providers, provider ∈ policy.providers) :
    BoundById policy (providers.foldl (RlyGateway.addDefaultBinding policy) bindings) := by
  induction providers generalizing bindings with
  | nil => exact h
  | cons provider providers ih =>
      rw [List.foldl_cons]
      exact ih (h.addDefaultBinding (hproviders provider List.mem_cons_self))
        fun other hother => hproviders other (List.mem_cons_of_mem _ hother)

theorem boundById_universeBindings (policy : PolicyRevision) (input : ModelUniverseInput) :
    BoundById policy (universeBindings policy input) := by
  refine BoundById.foldl ?_ fun _ hprovider => hprovider
  intro id binding hget
  cases hprofile : profileBinding policy input.profilePoolId with
  | none =>
      rw [hprofile] at hget
      cases hget
  | some bound =>
      rw [hprofile] at hget
      dsimp only at hget
      rw [OrderedMap.get?_set] at hget
      split at hget
      case isTrue hsame =>
        cases hget
        exact ⟨hsame, leadsTo_profileBinding hprofile⟩
      case isFalse => cases hget

theorem mem_compileModelUniverseSnapshot {policy : PolicyRevision} {registry : RegistryDocument}
    {input : ModelUniverseInput} {binding : ProviderPoolBinding} :
    binding ∈ (compileModelUniverseSnapshot runtime policy registry input).bindings ↔
      ∃ id, (universeBindings policy input).get? id = some binding := by
  unfold compileModelUniverseSnapshot
  simp only [List.mem_insertionSort, OrderedMap.values, List.mem_map, Prod.exists,
    exists_eq_right, OrderedMap.get?_eq_some]

/-- Every binding of a universe leads somewhere in the policy it was compiled from. -/
theorem leadsTo_of_mem_compileModelUniverseSnapshot {policy : PolicyRevision}
    {registry : RegistryDocument} {input : ModelUniverseInput} {binding : ProviderPoolBinding}
    (h : binding ∈ (compileModelUniverseSnapshot runtime policy registry input).bindings) :
    LeadsTo policy binding := by
  obtain ⟨id, hget⟩ := (mem_compileModelUniverseSnapshot runtime).1 h
  exact (boundById_universeBindings policy input id binding hget).2

/-- Each provider is bound once, and so is each name if providers do not share theirs. -/
theorem pairwise_compileModelUniverseSnapshot {policy : PolicyRevision}
    {registry : RegistryDocument} {input : ModelUniverseInput}
    (hnames : (policy.providers.map (·.name)).Nodup) :
    (compileModelUniverseSnapshot runtime policy registry input).bindings.Pairwise
      fun binding other => binding.providerName ≠ other.providerName := by
  have hbound := boundById_universeBindings policy input
  have hvalues : (universeBindings policy input).values.Pairwise
      fun binding other => binding.providerName ≠ other.providerName := by
    unfold OrderedMap.values
    rw [List.pairwise_map]
    have hkeys := (List.pairwise_map.1 (universeBindings policy input).nodup)
    refine hkeys.imp_of_mem ?_
    rintro ⟨id, binding⟩ ⟨id', other⟩ hentry hentry' hne hname
    obtain ⟨hid, ⟨provider, hprovider, -, hproviderId, hproviderName⟩, -⟩ :=
      hbound id binding (OrderedMap.get?_eq_some.2 hentry)
    obtain ⟨hid', ⟨provider', hprovider', -, hproviderId', hproviderName'⟩, -⟩ :=
      hbound id' other (OrderedMap.get?_eq_some.2 hentry')
    have hsame : provider = provider' := List.inj_on_of_nodup_map hnames hprovider hprovider'
      (hproviderName.trans (hname.trans hproviderName'.symm))
    subst hsame
    exact hne (hid.symm.trans (hproviderId.symm.trans (hproviderId'.trans hid')))
  have hsymm : Std.Symm fun binding other : ProviderPoolBinding =>
      binding.providerName ≠ other.providerName := ⟨fun _ _ => Ne.symm⟩
  exact (List.perm_insertionSort _ _).symm.pairwise hvalues fun h => h.symm

/-- What a session is issued with tells everything apart that it can list: the models are reviewed
and no two share their logical id, no two providers share their name, and no two ids collide. -/
theorem tellsApart_compileModelUniverseSnapshot {policy : PolicyRevision}
    {registry : RegistryDocument} {input : ModelUniverseInput}
    (hreviewed : ∀ row ∈ registry.models, ∃ input, row = reviewedModel input)
    (hids : (registry.models.map (·.logicalId)).Nodup)
    (hnames : (policy.providers.map (·.name)).Nodup)
    (hdigests : ∀ provider ∈ policy.providers, ∀ provider' ∈ policy.providers,
      ∀ row ∈ registry.models, ∀ row' ∈ registry.models,
        projectionIdFor runtime provider.name row.identity.upstreamModelId =
            projectionIdFor runtime provider'.name row'.identity.upstreamModelId →
          provider.name = provider'.name ∧
            row.identity.upstreamModelId = row'.identity.upstreamModelId) :
    TellsApart runtime registry (compileModelUniverseSnapshot runtime policy registry input) where
  rows _ hrow := findModelEvidence_of_reviewed hreviewed hids hrow
  bindings := pairwise_compileModelUniverseSnapshot runtime hnames
  ids := by
    intro binding hbinding other hother row hrow row' hrow' hid
    obtain ⟨⟨provider, hprovider, -, -, hname⟩, -⟩ :=
      leadsTo_of_mem_compileModelUniverseSnapshot runtime hbinding
    obtain ⟨⟨provider', hprovider', -, -, hname'⟩, -⟩ :=
      leadsTo_of_mem_compileModelUniverseSnapshot runtime hother
    rw [← hname, ← hname'] at hid ⊢
    exact hdigests provider hprovider provider' hprovider' row (mem_of_mem_modelsForProvider hrow)
      row' (mem_of_mem_modelsForProvider hrow') hid

end RlyGateway
