import RlyGateway.Library.Fallible
import RlyGateway.Profiles.SessionRoute

/-!
# Frozen sessions

A session keeps the profile, the pool and the provider that it was issued with. The control plane is
edited afterwards, and the requests of the session are resolved against the policy as it then is.
-/

namespace RlyGateway

/-! ## Edits -/

/-- An edit of the control plane, as it shows in the compiled policy: a record is created, renamed,
edited or disabled by writing it under its id. -/
inductive ControlPlaneEdit where
  | putProfile (profile : ProfileRecord)
  | removeProfile (id : String)
  | putPool (pool : PoolRecord)
  | removePool (id : String)
  | putProvider (provider : ConfiguredProvider)
  | removeProvider (id : String)
  | compile (revision : ℕ) (hash : String)

/-- A record is written in its place, or as a new one. -/
def putRecord {α : Type} (id : α → String) (record : α) (records : List α) : List α :=
  if records.any (id · = id record) then
    records.map fun other => if id other = id record then record else other
  else records ++ [record]

def ControlPlaneEdit.apply (policy : ProfilePolicy) : ControlPlaneEdit → ProfilePolicy
  | .putProfile profile => { policy with profiles := putRecord (·.id) profile policy.profiles }
  | .removeProfile id => { policy with profiles := policy.profiles.filter (·.id ≠ id) }
  | .putPool pool => { policy with pools := putRecord (·.id) pool policy.pools }
  | .removePool id => { policy with pools := policy.pools.filter (·.id ≠ id) }
  | .putProvider provider =>
      { policy with providers := putRecord (·.id) provider policy.providers }
  | .removeProvider id => { policy with providers := policy.providers.filter (·.id ≠ id) }
  | .compile revision hash => { policy with revision, hash }

/-- The policy after edits. -/
def afterEdits (policy : ProfilePolicy) (edits : List ControlPlaneEdit) : ProfilePolicy :=
  edits.foldl ControlPlaneEdit.apply policy

/-- No edit touches the accounts. -/
theorem accounts_afterEdits (policy : ProfilePolicy) (edits : List ControlPlaneEdit) :
    (afterEdits policy edits).accounts = policy.accounts := by
  unfold afterEdits
  induction edits generalizing policy with
  | nil => rfl
  | cons edit edits ih =>
      rw [List.foldl_cons, ih]
      cases edit <;> rfl

/-! ## Lookups under a binding -/

section Upsert

variable {α : Type} (id : α → String) (items : List α) (frozen : α)

/-- The frozen item is the only one with its id. -/
theorem mem_upsert {item : α} :
    item ∈ upsert id items frozen ↔ (item ∈ items ∧ id item ≠ id frozen) ∨ item = frozen := by
  simp [upsert]

/-- A property that no other item has finds the frozen one, if it has it. -/
theorem find?_upsert_of_forall {p : α → Bool} (hfrozen : p frozen = true)
    (hothers : ∀ item ∈ items, p item = true → id item = id frozen) :
    (upsert id items frozen).find? p = some frozen := by
  have hnone : (items.filter (id · ≠ id frozen)).find? p = none := by
    rw [List.find?_eq_none]
    intro item hitem hp
    obtain ⟨hmem, hne⟩ := List.mem_filter.1 hitem
    rw [decide_eq_true_eq] at hne
    exact hne (hothers item hmem hp)
  rw [upsert, List.find?_append, hnone, Option.none_or, List.find?_singleton, if_pos hfrozen]

/-- The frozen item is found under its id. -/
theorem find?_id_upsert :
    (upsert id items frozen).find? (fun item => id item = id frozen) = some frozen :=
  find?_upsert_of_forall id items frozen (by simp) fun item _ h => by simpa using h

/-- A property that another item has finds one that is not the frozen one. -/
theorem find?_upsert_of_exists {p : α → Bool} {other : α} (hother : other ∈ items)
    (hp : p other = true) (hne : id other ≠ id frozen) :
    ∃ found, (upsert id items frozen).find? p = some found ∧ id found ≠ id frozen := by
  have hmem : other ∈ items.filter (id · ≠ id frozen) :=
    List.mem_filter.2 ⟨hother, by simpa using hne⟩
  cases hfound : (items.filter (id · ≠ id frozen)).find? p with
  | none => exact absurd hp (List.find?_eq_none.1 hfound other hmem)
  | some found =>
      refine ⟨found, ?_, ?_⟩
      · rw [upsert, List.find?_append, hfound, Option.some_or]
      · simpa using (List.mem_filter.1 (List.mem_of_find?_eq_some hfound)).2

end Upsert

/-! ## What a session finds -/

section Session

variable (runtime : NodeRuntime) {dependencies : ProfileRouteDependencies}
  {canonical : CanonicalRequest} {policy policy' : ProfilePolicy} {session : ProfileSession}

/-- The session speaks of the profile that is frozen with it. -/
structure ProfileSession.Issued (session : ProfileSession) : Prop where
  id : session.profileId = session.binding.profile.id
  name : session.profileName = session.binding.profile.name

theorem issued_issueSession (policy : Option ProfilePolicy) (profile : ProfileRecord)
    (leaseId : String) : (issueSession policy profile leaseId).Issued :=
  ⟨rfl, rfl⟩

/-- No other profile of the policy has taken the name of the session's profile. -/
def NameKept (policy : ProfilePolicy) (session : ProfileSession) : Prop :=
  ∀ other ∈ policy.profiles, other.name = session.binding.profile.name →
    other.id = session.binding.profile.id

/-- The name by which the session's profile is inspected is the frozen one. -/
theorem named_applyProfileBinding (hissued : session.Issued) (fallback : String) :
    currentName (applyProfileBinding policy session).profiles session.profileId fallback =
      session.binding.profile.name := by
  rw [currentName, hissued.id]
  have hfound : findProfileById (applyProfileBinding policy session).profiles
      session.binding.profile.id = some session.binding.frozenProfile :=
    find?_id_upsert ProfileRecord.id policy.profiles session.binding.frozenProfile
  rw [hfound]
  rfl

/-- Where the name is kept, the frozen profile is inspected. -/
theorem inspect_of_nameKept (hname : NameKept policy session) :
    inspectLaunchableProfile (applyProfileBinding policy session).profiles
      session.binding.profile.name = inspectProfile session.binding.frozenProfile := by
  have hfound : findProfileByName (applyProfileBinding policy session).profiles
      session.binding.profile.name = some session.binding.frozenProfile :=
    find?_upsert_of_forall ProfileRecord.id policy.profiles session.binding.frozenProfile
      (p := fun profile => profile.name = session.binding.profile.name)
      (by simp [SessionBinding.frozenProfile])
      fun other hother hp => hname other hother (by simpa using hp)
  unfold inspectLaunchableProfile
  rw [hfound]

/-- A profile that was activated is the session's own, so its name is kept. -/
theorem nameKept_of_activateProfile (hissued : session.Issued) {input : ActivationInput}
    (hid : input.profileId = session.profileId) {activated : ActivatedProfile}
    (h : activateProfile (applyProfileBinding policy session).profiles input = .ok activated) :
    NameKept policy session := by
  intro other hother hsame
  by_contra hne
  obtain ⟨found, hfound, hfoundId⟩ := find?_upsert_of_exists ProfileRecord.id policy.profiles
    session.binding.frozenProfile (p := fun profile => profile.name = session.binding.profile.name)
    hother (by simpa using hsame) hne
  unfold activateProfile at h
  rw [hid, named_applyProfileBinding hissued] at h
  obtain ⟨launchable, hlaunchable, h⟩ := Except.bind_eq_ok.1 h
  have hinspect : inspectProfile found = .ok launchable := by
    unfold inspectLaunchableProfile at hlaunchable
    have hbyName : findProfileByName (applyProfileBinding policy session).profiles
      session.binding.profile.name = some found := hfound
    rwa [hbyName] at hlaunchable
  split at h
  · cases h
  · rename_i hsameId
    rw [not_not, (profile_of_inspectProfile hinspect).1, hissued.id] at hsameId
    exact hfoundId hsameId

/-- Activation reads nothing but the frozen profile. -/
theorem activateProfile_of_nameKept (hissued : session.Issued) (hname : NameKept policy session)
    (hname' : NameKept policy' session) {input : ActivationInput}
    (hid : input.profileId = session.profileId) :
    activateProfile (applyProfileBinding policy session).profiles input =
      activateProfile (applyProfileBinding policy' session).profiles input := by
  unfold activateProfile
  rw [hid, named_applyProfileBinding hissued, named_applyProfileBinding hissued,
    inspect_of_nameKept hname, inspect_of_nameKept hname']

/-- The target that is frozen with a session. -/
def frozenTarget (session : ProfileSession) : Except ProfileRouteError RouteTarget :=
  (inspectProfile session.binding.frozenProfile).map fun launchable =>
    ⟨launchable, session.binding.pool.record, session.binding.frozenProvider⟩

theorem find?_pool_applyProfileBinding (policy : ProfilePolicy) (session : ProfileSession) :
    (applyProfileBinding policy session).pools.find? (·.id = session.binding.pool.id) =
      some session.binding.pool.record :=
  find?_id_upsert PoolRecord.id policy.pools session.binding.pool.record

/-- An inspected frozen profile leads to the frozen pool. -/
theorem poolId_of_inspectProfile {launchable : LaunchableProfile}
    (h : inspectProfile session.binding.frozenProfile = .ok launchable) :
    launchable.poolId = session.binding.pool.id :=
  (Option.some.inj (profile_of_inspectProfile h).2).symm

theorem routeTarget_of_nameKept (hissued : session.Issued) (hname : NameKept policy session)
    (hprovider : session.binding.provider.id = session.binding.pool.providerId) :
    routeTarget (applyProfileBinding policy session) session = frozenTarget session := by
  unfold routeTarget frozenTarget
  rw [named_applyProfileBinding hissued, inspect_of_nameKept hname]
  cases hinspect : inspectProfile session.binding.frozenProfile with
  | error failure => rfl
  | ok launchable =>
      have hfound : (applyProfileBinding policy session).providers.find?
          (·.id = session.binding.pool.record.providerId) = some session.binding.frozenProvider := by
        have hid : session.binding.pool.record.providerId =
          session.binding.frozenProvider.id := hprovider.symm
        rw [hid]
        exact find?_id_upsert ConfiguredProvider.id policy.providers session.binding.frozenProvider
      dsimp only [bind, Except.bind]
      rw [poolId_of_inspectProfile hinspect, find?_pool_applyProfileBinding]
      dsimp only
      rw [hfound]
      rfl

/-- The frozen provider is the pool's, unless the policy has none for it. -/
theorem provider_sessionPolicySnapshot (policy : ProfilePolicy) (profile : ProfileRecord) :
    (sessionPolicySnapshot (some policy) profile).provider.id =
        (sessionPolicySnapshot (some policy) profile).pool.providerId ∨
      ∀ provider ∈ policy.providers,
        provider.id ≠ (sessionPolicySnapshot (some policy) profile).pool.providerId := by
  unfold sessionPolicySnapshot
  simp only [Option.bind_some]
  cases policy.pools.find? fun pool => decide (profile.poolId = some pool.id) with
  | none => exact Or.inl rfl
  | some pool =>
      simp only [Option.bind_some]
      cases hprovider : policy.providers.find? fun provider => decide (provider.id = pool.providerId) with
      | none =>
          right
          intro provider hmem
          simpa using List.find?_eq_none.1 hprovider provider hmem
      | some provider =>
          left
          simpa using List.find?_some hprovider

/-- A target is found at issue only with the provider of the pool. -/
theorem provider_of_routeTarget {profile : ProfileRecord} {leaseId : String} {target : RouteTarget}
    (hname : NameKept policy (issueSession (some policy) profile leaseId))
    (h : routeTarget (applyProfileBinding policy (issueSession (some policy) profile leaseId))
      (issueSession (some policy) profile leaseId) = .ok target) :
    (issueSession (some policy) profile leaseId).binding.provider.id =
      (issueSession (some policy) profile leaseId).binding.pool.providerId := by
  set session := issueSession (some policy) profile leaseId with hsession
  have hissued : session.Issued := issued_issueSession (some policy) profile leaseId
  unfold routeTarget at h
  rw [named_applyProfileBinding hissued, inspect_of_nameKept hname] at h
  obtain ⟨launchable, hinspect, h⟩ := Except.bind_eq_ok.1 h
  rw [poolId_of_inspectProfile hinspect, find?_pool_applyProfileBinding] at h
  dsimp only at h
  split at h
  · cases h
  · rename_i provider hprovider
    have hmem := List.mem_of_find?_eq_some hprovider
    have hid : provider.id = session.binding.pool.providerId := by
      have hfound := List.find?_some hprovider
      exact of_decide_eq_true hfound
    rcases (mem_upsert ConfiguredProvider.id policy.providers session.binding.frozenProvider).1 hmem
      with ⟨hlive, -⟩ | hfrozen
    · exact (provider_sessionPolicySnapshot policy profile).resolve_right fun hnone =>
        hnone provider hlive hid
    · rw [← hid, hfrozen]
      rfl

/-! ## Resolution -/

/-- A session resolves where its target, the model, the profile and the adapter do. -/
theorem resolveProfileRoute_eq_ok {route : ResolvedProfileRoute} :
    resolveProfileRoute runtime dependencies (some policy) canonical session = .ok route ↔
      ∃ target resolved activated adapterId,
        routeTarget (applyProfileBinding policy session) session = .ok target ∧
        routeModel runtime dependencies canonical session target = .ok resolved ∧
        activateProfile (applyProfileBinding policy session).profiles
          ⟨session.profileName, session.profileId, dependencies.required,
            resolved.model.capabilities, resolved.resolution.role, resolved.resolution.modelId⟩ =
          .ok activated ∧
        ProviderCatalog.adapterIdForProvider target.provider.name
          target.provider.integrationMode = .ok adapterId ∧
        missingCapabilities activated.capabilities dependencies.required = [] ∧
        route = {
          role := activated.role
          providerId := target.provider.name
          modelId := activated.modelId
          adapterId
          capabilities := activated.capabilities
          reasoningEvidence := resolved.model.reasoning
          resolvedReasoning := resolved.resolvedReasoning
          tierResolution := resolved.resolution.tierResolution
          provider := target.provider
          pool := (applyProfileBinding policy session).pools.find? (·.id = activated.poolId)
          members := policy.accounts.filter fun account =>
            target.pool.memberships.any (·.accountId = account.id)
          sessionKey := session.leaseId } := by
  unfold resolveProfileRoute
  dsimp only
  constructor
  · intro h
    obtain ⟨target, htarget, h⟩ := Except.bind_eq_ok.1 h
    obtain ⟨resolved, hresolved, h⟩ := Except.bind_eq_ok.1 h
    obtain ⟨activated, hactivated, h⟩ := Except.bind_eq_ok.1 h
    obtain ⟨adapterId, hadapter, h⟩ := Except.bind_eq_ok.1 h
    split at h
    · cases h
    · rename_i hmissing
      cases h
      exact ⟨target, resolved, activated, adapterId, htarget, hresolved, hactivated,
        Except.mapError_eq_ok.1 hadapter, not_not.1 hmissing, rfl⟩
  · rintro ⟨target, resolved, activated, adapterId, htarget, hresolved, hactivated, hadapter,
      hmissing, rfl⟩
    rw [htarget]
    refine Except.bind_eq_ok.2 ⟨target, rfl, Except.bind_eq_ok.2 ⟨resolved, hresolved,
      Except.bind_eq_ok.2 ⟨activated, hactivated, Except.bind_eq_ok.2 ⟨adapterId,
        Except.mapError_eq_ok.2 hadapter, ?_⟩⟩⟩⟩
    rw [if_neg (not_not.2 hmissing)]
    rfl

/-- A session that resolves has a profile whose name is kept. -/
theorem nameKept_of_resolveProfileRoute (hissued : session.Issued) {route : ResolvedProfileRoute}
    (h : resolveProfileRoute runtime dependencies (some policy) canonical session = .ok route) :
    NameKept policy session := by
  obtain ⟨target, resolved, activated, adapterId, -, -, hactivated, -⟩ :=
    (resolveProfileRoute_eq_ok runtime).1 h
  exact nameKept_of_activateProfile hissued rfl hactivated

/-- The pool of an activated frozen profile is the frozen pool. -/
theorem poolId_of_activateProfile (hissued : session.Issued) (hname : NameKept policy session)
    {input : ActivationInput} (hid : input.profileId = session.profileId)
    {activated : ActivatedProfile}
    (h : activateProfile (applyProfileBinding policy session).profiles input = .ok activated) :
    activated.poolId = session.binding.pool.id := by
  unfold activateProfile at h
  rw [hid, named_applyProfileBinding hissued, inspect_of_nameKept hname] at h
  obtain ⟨launchable, hinspect, h⟩ := Except.bind_eq_ok.1 h
  split at h
  · cases h
  · unfold activateLaunchable at h
    split at h
    · cases h
    · dsimp only at h
      split at h
      · cases h
      · cases h
        exact poolId_of_inspectProfile hinspect

/-- Two policies with the same accounts that both keep the name resolve a session alike. -/
theorem resolveProfileRoute_of_nameKept (hissued : session.Issued)
    (hname : NameKept policy session) (hname' : NameKept policy' session)
    (hprovider : session.binding.provider.id = session.binding.pool.providerId)
    (haccounts : policy'.accounts = policy.accounts) {route : ResolvedProfileRoute}
    (h : resolveProfileRoute runtime dependencies (some policy) canonical session = .ok route) :
    resolveProfileRoute runtime dependencies (some policy') canonical session = .ok route := by
  obtain ⟨target, resolved, activated, adapterId, htarget, hresolved, hactivated, hadapter,
    hmissing, rfl⟩ := (resolveProfileRoute_eq_ok runtime).1 h
  rw [resolveProfileRoute_eq_ok]
  have hpool := poolId_of_activateProfile hissued hname rfl hactivated
  refine ⟨target, resolved, activated, adapterId, ?_, hresolved, ?_, hadapter, hmissing, ?_⟩
  · rw [routeTarget_of_nameKept hissued hname' hprovider,
      ← routeTarget_of_nameKept hissued hname hprovider]
    exact htarget
  · rw [activateProfile_of_nameKept hissued hname' hname rfl]
    exact hactivated
  · rw [hpool, find?_pool_applyProfileBinding, find?_pool_applyProfileBinding, haccounts]

end Session

/-- A request that a session resolves when it is issued is resolved to the same route after any edits
exactly if no other profile has taken the name of the session's profile. -/
theorem resolveProfileRoute_afterEdits_iff (runtime : NodeRuntime)
    (dependencies : ProfileRouteDependencies) (policy : ProfilePolicy) (profile : ProfileRecord)
    (leaseId : String) (canonical : CanonicalRequest) (edits : List ControlPlaneEdit)
    {route : ResolvedProfileRoute}
    (h : resolveProfileRoute runtime dependencies (some policy) canonical
      (issueSession (some policy) profile leaseId) = .ok route) :
    resolveProfileRoute runtime dependencies (some (afterEdits policy edits)) canonical
        (issueSession (some policy) profile leaseId) = .ok route ↔
      ∀ other ∈ (afterEdits policy edits).profiles, other.name = profile.name →
        other.id = profile.id := by
  have hissued := issued_issueSession (some policy) profile leaseId
  have hname := nameKept_of_resolveProfileRoute runtime hissued h
  constructor
  · exact fun hlater => nameKept_of_resolveProfileRoute runtime hissued hlater
  · intro hlater
    obtain ⟨target, -, -, -, htarget, -⟩ := (resolveProfileRoute_eq_ok runtime).1 h
    exact resolveProfileRoute_of_nameKept runtime hissued hname hlater
      (provider_of_routeTarget hname htarget) (accounts_afterEdits policy edits) h

/-- The pool of a route has what the pool of the profile had when the session was issued: its
strategy, its retry budget and its accounts in their order. -/
theorem pool_of_resolveProfileRoute (runtime : NodeRuntime)
    {dependencies : ProfileRouteDependencies} {policy : ProfilePolicy} {profile : ProfileRecord}
    {leaseId : String} {canonical : CanonicalRequest} {pool : PoolRecord}
    {route : ResolvedProfileRoute}
    (hpool : policy.pools.find? (fun pool => profile.poolId = some pool.id) = some pool)
    (h : resolveProfileRoute runtime dependencies (some policy) canonical
      (issueSession (some policy) profile leaseId) = .ok route) :
    ∃ executed, route.pool = some executed ∧ executed.id = pool.id ∧
      executed.strategy = pool.strategy ∧ executed.retryBudget = pool.retryBudget ∧
      executed.memberships.map (·.accountId) = pool.memberships.map (·.accountId) := by
  have hissued := issued_issueSession (some policy) profile leaseId
  have hname := nameKept_of_resolveProfileRoute runtime hissued h
  have hfrozen : (issueSession (some policy) profile leaseId).binding.pool =
      ⟨pool.id, pool.name, pool.providerId, pool.strategy, pool.affinity, pool.retryBudget,
        pool.memberships.map (·.accountId)⟩ := by
    simp only [issueSession, sessionPolicySnapshot, Option.bind_some, hpool, Option.elim_some]
  obtain ⟨target, resolved, activated, adapterId, -, -, hactivated, -, -, rfl⟩ :=
    (resolveProfileRoute_eq_ok runtime).1 h
  refine ⟨(issueSession (some policy) profile leaseId).binding.pool.record, ?_, ?_⟩
  · dsimp only
    rw [poolId_of_activateProfile hissued hname rfl hactivated, find?_pool_applyProfileBinding]
  · rw [hfrozen]
    refine ⟨rfl, rfl, rfl, ?_⟩
    simp [FrozenPool.record, Function.comp_def]

/-! ## A name that is taken over -/

/-- A reviewed model without reasoning. -/
def plainRow : ModelEvidence where
  logicalId := "deepseek/chat"
  identity := ⟨"deepseek", "chat", none⟩
  verifiedAt := "2026-07-18"
  fixtureVersion := "fixture"
  capabilities := ⟨true, true, true, false, false, false, false, .conservativeEstimate⟩
  limits := ⟨none, none⟩
  reasoning := ⟨false, .none, none, false, false, false⟩
  compatibility := ⟨.VERIFIED, "claude-code-2.1.229", "canary", "2026-07-18", none⟩

def plainDependencies : ProfileRouteDependencies := ⟨⟨1, [plainRow]⟩, none, [], none⟩

/-- A profile of a pool, under a given name. -/
def chatProfile (id name : String) : ProfileRecord :=
  ⟨id, name, "claude", some "pool", .ofList [("primary", "chat")], none, none⟩

/-- One profile, its pool and its provider. -/
def chatPolicy : ProfilePolicy where
  revision := 1
  hash := ""
  profiles := [chatProfile "p1" "work"]
  pools := [⟨"pool", "pool", "provider", .fillFirst, .null, 1, [⟨"account", some 0⟩]⟩]
  providers := [⟨"provider", "deepseek", .direct, none, none, true⟩]
  accounts := []

/-- A request that leaves the model to the profile. -/
def defaultRequest : CanonicalRequest where
  id := "request-1"
  source := ⟨.anthropicMessages, none⟩
  requestedModel := "default"
  system := []
  input := []
  messages := []
  tools := []
  toolChoice := none
  stream := false
  store := none
  included := none
  inference := ⟨none, none, none, none, none, none⟩
  previousResponseId := none
  agent := none
  fidelity := none

theorem exists_resolveProfileRoute_default : ∃ route,
    resolveProfileRoute isoRuntime plainDependencies (some chatPolicy) defaultRequest
      (issueSession (some chatPolicy) (chatProfile "p1" "work") "lease") = .ok route :=
  ⟨_, rfl⟩

/-- The pool is edited, and the profile is renamed: the session still resolves. -/
theorem resolveProfileRoute_afterRename : ∃ route,
    resolveProfileRoute isoRuntime plainDependencies (some chatPolicy) defaultRequest
        (issueSession (some chatPolicy) (chatProfile "p1" "work") "lease") = .ok route ∧
      resolveProfileRoute isoRuntime plainDependencies
        (some (afterEdits chatPolicy [.putProfile (chatProfile "p1" "home"),
          .putPool ⟨"pool", "pool", "provider", .manual, .null, 3, []⟩])) defaultRequest
        (issueSession (some chatPolicy) (chatProfile "p1" "work") "lease") = .ok route := by
  obtain ⟨route, hroute⟩ := exists_resolveProfileRoute_default
  refine ⟨route, hroute, (resolveProfileRoute_afterEdits_iff isoRuntime plainDependencies chatPolicy
    (chatProfile "p1" "work") "lease" defaultRequest _ hroute).2 ?_⟩
  decide

/-- The profile is renamed, and a new one gets its old name. -/
theorem resolveProfileRoute_afterEdits_violated : ¬ ∀ (runtime : NodeRuntime)
    (dependencies : ProfileRouteDependencies) (policy : ProfilePolicy) (profile : ProfileRecord)
    (leaseId : String) (canonical : CanonicalRequest) (edits : List ControlPlaneEdit)
    (route : ResolvedProfileRoute),
    resolveProfileRoute runtime dependencies (some policy) canonical
        (issueSession (some policy) profile leaseId) = .ok route →
      resolveProfileRoute runtime dependencies (some (afterEdits policy edits)) canonical
        (issueSession (some policy) profile leaseId) = .ok route := by
  intro h
  obtain ⟨route, hroute⟩ := exists_resolveProfileRoute_default
  have hlater := h isoRuntime plainDependencies chatPolicy (chatProfile "p1" "work") "lease"
    defaultRequest [.putProfile (chatProfile "p1" "home"), .putProfile (chatProfile "p2" "work")]
    route hroute
  have hname := nameKept_of_resolveProfileRoute isoRuntime
    (issued_issueSession (some chatPolicy) (chatProfile "p1" "work") "lease") hlater
  have hmem : chatProfile "p2" "work" ∈ [chatProfile "p1" "home", chatProfile "p2" "work"] :=
    List.mem_cons_of_mem _ List.mem_cons_self
  exact absurd (hname (chatProfile "p2" "work") hmem rfl) (by decide)

end RlyGateway
