import RlyGateway.ControlPlane.Types
import RlyGateway.Core.Capabilities
import RlyGateway.Core.Reasoning
import RlyGateway.Library.OrderedMap
import Mathlib.Data.List.Sort

/-!
# Account selection in a pool

The eligibility of the pool's members, the three strategies, session affinity, and the selection of
one account that they make up. What a selection reads of the live store, the affinity file, the
cursors and the clock is one view; a selection never returns an excluded account.
-/

namespace RlyGateway

variable (runtime : NodeRuntime)

/-! ## Eligibility -/

/-- Why an account is not eligible. -/
inductive EligibilityReason where
  | providerDisabled
  | paused
  | revoked
  | authUnready
  | expired
  | quotaExhausted
  | cooling
  | capabilityIncompatible
  | termsUnaccepted
  | generationUnbound
deriving DecidableEq, Repr

/-- What is known of a credential. -/
structure CredentialSnapshot where
  present : Bool
  generation : ℕ
  expiresAt : Option String
deriving DecidableEq, Repr

/-- The assessment of one member. -/
structure CandidateAssessment where
  accountId : String
  accountPseudonym : String
  credentialHandle : String
  credentialGeneration : ℕ
  pinOrder : ℤ
  quotaClass : String
  eligible : Bool
  reasons : List EligibilityReason
deriving DecidableEq, Repr

/-- What the assessment of an account takes. -/
structure EligibilityInput where
  account : AccountRecord
  provider : Option ProviderRecord
  pinOrder : ℤ
  now : ℤ
  credential : Option CredentialSnapshot
  required : List CapabilityRequirement
  capabilities : ProviderCapabilities
  health : Option HealthRecord

/-- The generation an account is bound to. -/
def boundGeneration (account : AccountRecord) (credential : Option CredentialSnapshot) : ℕ :=
  match credential with
  | some credential =>
      if 0 < credential.generation then credential.generation else account.credentialGeneration
  | none => account.credentialGeneration

/-- Whether a credential has expired. -/
def isExpired (credential : Option CredentialSnapshot) (now : ℤ) : Bool :=
  ((credential.bind (·.expiresAt)).bind runtime.dateParse).any (· ≤ now)

/-- Whether a date lies in the future. -/
def isFuture (value : Option String) (now : ℤ) : Bool :=
  (value.bind runtime.dateParse).any (now < ·)

/-- A reason that applies under a condition. -/
def reasonIf (condition : Bool) (reason : EligibilityReason) : List EligibilityReason :=
  if condition then [reason] else []

/-- The reasons against an account, in the order they are checked. -/
def eligibilityReasons (input : EligibilityInput) : List EligibilityReason :=
  let account := input.account
  let generation := boundGeneration account input.credential
  let requiredTerms := input.provider.bind (·.requiredTermsRevision)
  reasonIf (!input.provider.any (·.enabled)) .providerDisabled ++
    reasonIf (account.state = .paused) .paused ++
    reasonIf (account.state = .revoked) .revoked ++
    reasonIf (account.state = .unready ∨ !input.credential.any (·.present)) .authUnready ++
    reasonIf (generation < 1) .generationUnbound ++
    reasonIf (isExpired runtime input.credential input.now) .expired ++
    reasonIf (isFuture runtime account.cooldownUntil input.now ∨
      isFuture runtime (input.health.bind (·.cooldownUntil)) input.now) .cooling ++
    reasonIf (missingCapabilities input.capabilities input.required ≠ []) .capabilityIncompatible ++
    reasonIf (requiredTerms.isSome ∧ requiredTerms ≠ account.termsAcknowledgedRevision)
      .termsUnaccepted

/-- The assessment of an account. -/
def evaluateEligibility (input : EligibilityInput) : CandidateAssessment :=
  let reasons := eligibilityReasons runtime input
  { accountId := input.account.id
    accountPseudonym := input.account.pseudonym
    credentialHandle := input.account.credentialHandle
    credentialGeneration := boundGeneration input.account input.credential
    pinOrder := input.pinOrder
    quotaClass := input.account.quotaClass
    eligible := reasons.isEmpty
    reasons }

/-! ## Inputs -/

/-- What a selection is asked for. -/
structure SelectInput where
  requestId : String
  poolId : String
  policy : PolicyRevision
  required : List CapabilityRequirement
  capabilities : ProviderCapabilities
  modelId : String
  adapterId : String
  credentialSnapshots : List (String × CredentialSnapshot)
  sessionKey : Option String
  pinnedAccountId : Option String
  excludeAccountIds : List String
  reasoningEvidence : Option ReasoningCapabilityEvidence
  resolvedReasoning : Option ResolvedReasoning

/-- A binding of a session to an account. -/
structure AffinityBinding where
  sessionKeyHash : String
  poolId : String
  accountId : String
  expiresAt : String
deriving DecidableEq, Repr

/-- What a selection reads besides its input: the live store, the sessions of the affinity file,
the cursor of each pool and the clock. -/
structure SelectorView where
  store : ControlPlaneView
  sessions : List AffinityBinding
  cursors : OrderedMap String ℕ
  now : ℤ

/-- The route an attempt is bound to. -/
structure EffectiveRoute where
  requestId : String
  providerId : String
  modelId : String
  adapterId : String
  accountId : String
  accountPseudonym : String
  credentialHandle : String
  credentialGeneration : ℕ
  sourceRule : String
  policyRevision : ℕ
  policyHash : String
  capabilitySnapshot : ProviderCapabilities
  decidedAt : String
  outputStarted : Bool
  reasoningEvidence : Option ReasoningCapabilityEvidence
  resolvedReasoning : Option ResolvedReasoning
deriving DecidableEq, Repr

/-- A candidate as the trace shows it. -/
structure TraceCandidate where
  accountPseudonym : String
  eligible : Bool
  reasons : List EligibilityReason
deriving DecidableEq, Repr

/-- The trace of a selection. -/
structure DecisionTrace where
  requestId : String
  policyRevision : ℕ
  policyHash : String
  strategy : PoolStrategy
  sourceRule : String
  candidates : List TraceCandidate
  selected : Option (String × ℕ)
  decidedAt : String
deriving DecidableEq, Repr

/-- The outcome of a selection. -/
structure SelectResult where
  route : EffectiveRoute
  trace : DecisionTrace
deriving DecidableEq, Repr

/-! ## Assessment -/

/-- The largest safe integer, the pin order of a member without one. -/
def MAX_SAFE_INTEGER : ℤ := 9007199254740991

/-- The account of the live store, or else of the policy. -/
def liveAccount (store : ControlPlaneView) (accountId : String) (policy : PolicyRevision) :
    Option AccountRecord :=
  (store.accounts.find? (·.id = accountId)).or (policy.accounts.find? (·.id = accountId))

/-- The provider of the live store, or else of the policy. -/
def liveProvider (store : ControlPlaneView) (providerId : String) (policy : PolicyRevision) :
    Option ProviderRecord :=
  (store.providers.find? (·.id = providerId)).or (policy.providers.find? (·.id = providerId))

/-- The pool a selection is made from. -/
def requirePool (policy : PolicyRevision) (poolId : String) : Except Thrown PoolRecord :=
  match policy.pools.find? (·.id = poolId) with
  | some pool => .ok pool
  | none => .error (.error "ValidationError" "pool was not found" (some "invalid"))

/-- The assessment of a live account. -/
def evaluateAccount (store : ControlPlaneView) (account : AccountRecord) (input : SelectInput)
    (now : ℤ) (pinOrder : Option ℤ) : CandidateAssessment :=
  evaluateEligibility runtime
    { account
      provider := liveProvider store account.providerId input.policy
      pinOrder := pinOrder.getD MAX_SAFE_INTEGER
      now
      credential := input.credentialSnapshots.lookup account.credentialHandle
      required := input.required
      capabilities := input.capabilities
      health := store.health.find? (·.accountId = account.id) }

/-- The assessment of a member. -/
def assessMembership (store : ControlPlaneView) (input : SelectInput) (now : ℤ)
    (membership : MembershipRecord) : CandidateAssessment :=
  match liveAccount store membership.accountId input.policy with
  | some account => evaluateAccount runtime store account input now membership.pinOrder
  | none =>
      { accountId := membership.accountId
        accountPseudonym := "acct-unknown"
        credentialHandle := ""
        credentialGeneration := 0
        pinOrder := membership.pinOrder.getD MAX_SAFE_INTEGER
        quotaClass := "unknown"
        eligible := false
        reasons := [.authUnready] }

/-- The assessments of a pool's members, in order. -/
def assessPool (store : ControlPlaneView) (pool : PoolRecord) (input : SelectInput) (now : ℤ) :
    List CandidateAssessment :=
  pool.memberships.map (assessMembership runtime store input now)

/-- The assessment of one account of a pool. -/
def assessAccount (store : ControlPlaneView) (accountId : String) (pool : PoolRecord)
    (input : SelectInput) (now : ℤ) : Option CandidateAssessment :=
  (liveAccount store accountId input.policy).map fun account =>
    evaluateAccount runtime store account input now
      ((pool.memberships.find? (·.accountId = accountId)).bind (·.pinOrder))

/-! ## Strategies -/

/-- The order of quota classes; an unknown class counts as `unknown`. -/
def quotaRank (quotaClass : String) : ℕ :=
  match quotaClass with
  | "healthy" => 0
  | "warning" => 1
  | "unknown" => 2
  | "exhausted" => 3
  | _ => 2

/-- Whether a candidate can be selected under an exclusion. -/
def isCandidate (exclude : List String) (candidate : CandidateAssessment) : Bool :=
  candidate.eligible ∧ candidate.accountId ∉ exclude

/-- The eligible candidates that are not excluded, by pin order. -/
def eligibleCandidates (candidates : List CandidateAssessment) (exclude : List String) :
    List CandidateAssessment :=
  (candidates.filter (isCandidate exclude)).insertionSort fun left right =>
    left.pinOrder ≤ right.pinOrder

/-- The candidates by quota class, then pin order. -/
def orderByQuotaThenPin (candidates : List CandidateAssessment) : List CandidateAssessment :=
  candidates.insertionSort fun left right =>
    quotaRank left.quotaClass < quotaRank right.quotaClass ∨
      (quotaRank left.quotaClass = quotaRank right.quotaClass ∧ left.pinOrder ≤ right.pinOrder)

/-- The member pinned by order. -/
def designatedPin (candidates : List CandidateAssessment) : Option String :=
  ((candidates.insertionSort fun left right => left.pinOrder ≤ right.pinOrder).head?).map
    (·.accountId)

/-- The manual strategy. -/
def selectManual (candidates : List CandidateAssessment) (pinnedAccountId : Option String)
    (exclude : List String) : Option CandidateAssessment :=
  match pinnedAccountId.or (designatedPin candidates) with
  | none => none
  | some pinId =>
      if pinId ∈ exclude then none
      else candidates.find? fun candidate => candidate.accountId = pinId ∧ candidate.eligible

/-- The fill-first strategy. -/
def selectFillFirst (eligible : List CandidateAssessment) : Option CandidateAssessment :=
  eligible.head?

/-- The round-robin strategy: the candidate at the cursor, and the next cursor. -/
def selectRoundRobin (eligible : List CandidateAssessment) (cursor : ℕ) :
    Option (CandidateAssessment × ℕ) :=
  let index := cursor % eligible.length
  (eligible[index]?).map fun selected => (selected, (index + 1) % eligible.length)

/-! ## Affinity -/

/-- The affinity settings of a pool. -/
structure ParsedAffinity where
  sessionEnabled : Bool
  sessionTtlSeconds : ℕ
  quotaAware : Bool
  cooldownSeconds : CooldownSeconds
deriving DecidableEq, Repr

/-- A value that is a nonnegative integer, or a fallback. -/
def positiveInteger (value : Option Json) (fallback : ℕ) : ℕ :=
  match value.bind Json.num? with
  | some n => if n.den = 1 ∧ 0 ≤ n then n.num.toNat else fallback
  | none => fallback

/-- A property that is an object, or the empty object. -/
def objectField (value : Json) (name : String) : Option Json :=
  (value.field? name).filter fun field => field.obj?.isSome

/-- The affinity settings a pool's untyped field stands for. -/
def parseAffinity (value : Json) : ParsedAffinity :=
  let session := ((objectField value "session").or (objectField value "sessionAffinity")).getD
    (.obj [])
  let cooldown := (objectField value "cooldownSeconds").getD (.obj [])
  { sessionEnabled := session.field? "enabled" = some (.bool true)
    sessionTtlSeconds := positiveInteger (session.field? "ttlSeconds") 0
    quotaAware := value.field? "quotaAware" = some (.bool true)
    cooldownSeconds :=
      { auth := positiveInteger (cooldown.field? "auth") DEFAULT_COOLDOWN_SECONDS.auth
        quota := positiveInteger (cooldown.field? "quota") DEFAULT_COOLDOWN_SECONDS.quota
        transient :=
          positiveInteger (cooldown.field? "transient") DEFAULT_COOLDOWN_SECONDS.transient } }

/-- The sessions of the affinity file that have not expired. -/
def liveSessions (view : SelectorView) : List AffinityBinding :=
  view.sessions.filter fun binding => (runtime.dateParse binding.expiresAt).any (view.now < ·)

/-- The hash of the session key, where affinity applies to sessions. -/
def affinitySession (affinity : ParsedAffinity) (sessionKey : Option String) : Option String :=
  if affinity.sessionEnabled ∧ 0 < affinity.sessionTtlSeconds then
    sessionKey.map runtime.sha256Hex
  else none

/-- The sessions without those of a key. -/
def forgetSession (bindings : List AffinityBinding) (sessionHash : String) :
    List AffinityBinding :=
  bindings.filter (·.sessionKeyHash ≠ sessionHash)

/-- The account a session is bound to, where it can still be selected, and otherwise the sessions
without the binding. -/
def takeAffinity (assessments : List CandidateAssessment) (bindings : List AffinityBinding)
    (pool : PoolRecord) (sessionHash : String) (exclude : List String) :
    Option CandidateAssessment × Option (List AffinityBinding) :=
  if pool.strategy = .manual then (none, none)
  else match bindings.find? fun item =>
      item.sessionKeyHash = sessionHash ∧ item.poolId = pool.id with
    | none => (none, none)
    | some binding =>
        match (assessments.find? (·.accountId = binding.accountId)).filter
            (isCandidate exclude) with
        | some matched => (some matched, none)
        | none => (none, some (forgetSession bindings sessionHash))

/-! ## Selection -/

/-- The source rule of a selection. -/
def sourceRuleFor (strategy : PoolStrategy) (affinity : Bool) : String :=
  if affinity then "pool:" ++ strategy.name ++ ":affinity"
  else if strategy = .manual then "pool:manual:pin"
  else "pool:" ++ strategy.name

/-- The account a strategy selects, and the pool's next cursor where it moves. -/
def applyStrategy (assessments : List CandidateAssessment) (pool : PoolRecord)
    (affinity : ParsedAffinity) (pinnedAccountId : Option String) (exclude : List String)
    (cursor : ℕ) : Option (CandidateAssessment × Option ℕ) :=
  let eligible := eligibleCandidates assessments exclude
  let eligible := if affinity.quotaAware then orderByQuotaThenPin eligible else eligible
  match pool.strategy with
  | .manual => (selectManual assessments pinnedAccountId exclude).map fun selected =>
      (selected, none)
  | .fillFirst => (selectFillFirst eligible).map fun selected => (selected, none)
  | .roundRobin => (selectRoundRobin eligible cursor).map fun (selected, next) =>
      (selected, some next)

/-- The route of a selected account. -/
def bindRoute (input : SelectInput) (pool : PoolRecord) (selected : CandidateAssessment)
    (sourceRule decidedAt : String) : EffectiveRoute where
  requestId := input.requestId
  providerId := pool.providerId
  modelId := input.modelId
  adapterId := input.adapterId
  accountId := selected.accountId
  accountPseudonym := selected.accountPseudonym
  credentialHandle := selected.credentialHandle
  credentialGeneration := selected.credentialGeneration
  sourceRule := sourceRule
  policyRevision := input.policy.revision
  policyHash := input.policy.hash
  capabilitySnapshot := input.capabilities
  decidedAt := decidedAt
  outputStarted := false
  reasoningEvidence := input.reasoningEvidence
  resolvedReasoning := input.resolvedReasoning

/-- The trace of a selection. -/
def selectionTrace (input : SelectInput) (pool : PoolRecord)
    (assessments : List CandidateAssessment) (selected : CandidateAssessment)
    (sourceRule decidedAt : String) : DecisionTrace where
  requestId := input.requestId
  policyRevision := input.policy.revision
  policyHash := input.policy.hash
  strategy := pool.strategy
  sourceRule := sourceRule
  candidates := assessments.map fun candidate =>
    ⟨candidate.accountPseudonym, candidate.eligible, candidate.reasons⟩
  selected := some (selected.accountPseudonym, selected.credentialGeneration)
  decidedAt := decidedAt

/-- What a selection changes: the pool's cursor and the affinity file. -/
structure SelectorUpdate where
  cursor : Option ℕ
  sessions : Option (List AffinityBinding)
deriving DecidableEq, Repr

/-- The sessions with a key bound to the selected account. -/
def rememberSession (bindings : List AffinityBinding) (sessionHash poolId accountId : String)
    (affinity : ParsedAffinity) (now : ℤ) : List AffinityBinding :=
  forgetSession bindings sessionHash ++
    [⟨sessionHash, poolId, accountId,
      runtime.isoString (now + affinity.sessionTtlSeconds * 1000)⟩]

/-- The selection of one account, and what it changes. -/
def selectLocked (view : SelectorView) (input : SelectInput) :
    Except Thrown SelectResult × SelectorUpdate :=
  match requirePool input.policy input.poolId with
  | .error thrown => (.error thrown, ⟨none, none⟩)
  | .ok pool =>
    let affinity := parseAffinity pool.affinity
    let assessments := assessPool runtime view.store pool input view.now
    let exclude := input.excludeAccountIds
    let bindings := liveSessions runtime view
    let session := affinitySession runtime affinity input.sessionKey
    let (sticky, forgotten) := session.elim (none, none) fun sessionHash =>
      takeAffinity assessments bindings pool sessionHash exclude
    -- a sticky account leaves the cursor where it is
    let picked := (sticky.map fun selected => (selected, none)).or
      (applyStrategy assessments pool affinity input.pinnedAccountId exclude
        ((view.cursors.get? pool.id).getD 0))
    match picked with
    | none => (.error (.noEligibleAccount input.requestId), ⟨none, forgotten⟩)
    | some (selected, nextCursor) =>
        let decidedAt := runtime.isoString view.now
        let sourceRule := sourceRuleFor pool.strategy sticky.isSome
        let remembered := session.map fun sessionHash =>
          rememberSession runtime bindings sessionHash pool.id selected.accountId affinity view.now
        (.ok ⟨bindRoute input pool selected sourceRule decidedAt,
          selectionTrace input pool assessments selected sourceRule decidedAt⟩,
          ⟨nextCursor, remembered.or forgotten⟩)

/-- Why a route is no longer valid just before its attempt. -/
def revalidate (view : SelectorView) (route : EffectiveRoute) (input : SelectInput) :
    Option Thrown :=
  match requirePool input.policy input.poolId with
  | .error thrown => some thrown
  | .ok pool =>
      match assessAccount runtime view.store route.accountId pool input view.now with
      | none => some (.staleRouteBinding "eligible state changed before invoke")
      | some assessment =>
          if !assessment.eligible then
            some (.staleRouteBinding "eligible state changed before invoke")
          else if assessment.credentialGeneration ≠ route.credentialGeneration then
            some (.staleRouteBinding "credential generation changed before invoke")
          else none

/-! ## Exclusion -/

theorem not_mem_of_mem_eligibleCandidates {candidates : List CandidateAssessment}
    {exclude : List String} {candidate : CandidateAssessment}
    (h : candidate ∈ eligibleCandidates candidates exclude) : candidate.accountId ∉ exclude := by
  rw [eligibleCandidates, List.mem_insertionSort, List.mem_filter] at h
  exact (of_decide_eq_true h.2).2

theorem not_mem_of_takeAffinity {assessments : List CandidateAssessment}
    {bindings : List AffinityBinding} {pool : PoolRecord} {sessionHash : String}
    {exclude : List String} {selected : CandidateAssessment}
    (h : (takeAffinity assessments bindings pool sessionHash exclude).1 =
      some selected) : selected.accountId ∉ exclude := by
  unfold takeAffinity at h
  split at h
  · cases h
  split at h
  · cases h
  split at h
  · rename_i matched hmatched
    cases h
    have hcandidate := (Option.filter_eq_some_iff.1 hmatched).2
    exact (of_decide_eq_true hcandidate).2
  · cases h

theorem not_mem_of_selectManual {candidates : List CandidateAssessment}
    {pinnedAccountId : Option String} {exclude : List String} {selected : CandidateAssessment}
    (h : selectManual candidates pinnedAccountId exclude = some selected) :
    selected.accountId ∉ exclude := by
  unfold selectManual at h
  split at h
  · cases h
  split at h
  · cases h
  · rename_i pinId _ hallowed
    have hfound := List.find?_some h
    simp only [decide_eq_true_eq] at hfound
    rw [hfound.1]
    exact hallowed

/-- No strategy selects an excluded account. -/
theorem not_mem_of_applyStrategy {assessments : List CandidateAssessment} {pool : PoolRecord}
    {affinity : ParsedAffinity} {pinnedAccountId : Option String} {exclude : List String}
    {cursor : ℕ} {selected : CandidateAssessment} {next : Option ℕ}
    (h : applyStrategy assessments pool affinity pinnedAccountId exclude cursor =
      some (selected, next)) : selected.accountId ∉ exclude := by
  -- quota order or not, the candidates are those left after the exclusion
  have hordered : ∀ candidate ∈ (if affinity.quotaAware then
      orderByQuotaThenPin (eligibleCandidates assessments exclude)
      else eligibleCandidates assessments exclude), candidate.accountId ∉ exclude := by
    intro candidate hmem
    split at hmem
    · rw [orderByQuotaThenPin, List.mem_insertionSort] at hmem
      exact not_mem_of_mem_eligibleCandidates hmem
    · exact not_mem_of_mem_eligibleCandidates hmem
  unfold applyStrategy at h
  dsimp only at h
  split at h
  case h_1 =>
    obtain ⟨candidate, hpicked, heq⟩ := Option.map_eq_some_iff.1 h
    cases heq
    exact not_mem_of_selectManual hpicked
  case h_2 =>
    obtain ⟨candidate, hpicked, heq⟩ := Option.map_eq_some_iff.1 h
    cases heq
    exact hordered _ (List.mem_of_head? hpicked)
  case h_3 =>
    obtain ⟨⟨candidate, cursor'⟩, hpicked, heq⟩ := Option.map_eq_some_iff.1 h
    obtain ⟨candidate', hat, heq'⟩ := Option.map_eq_some_iff.1 hpicked
    cases heq'
    cases heq
    exact hordered _ (List.mem_of_getElem? hat)

/-- A selected route is never one of an excluded account. -/
theorem not_mem_excludeAccountIds_of_selectLocked {view : SelectorView} {input : SelectInput}
    {result : SelectResult} (h : (selectLocked runtime view input).1 = .ok result) :
    result.route.accountId ∉ input.excludeAccountIds := by
  unfold selectLocked at h
  split at h
  · cases h
  rename_i pool hpool
  dsimp only at h
  split at h
  · cases h
  rename_i selected next hpicked
  cases h
  show selected.accountId ∉ input.excludeAccountIds
  rcases Option.or_eq_some_iff.1 hpicked with hsticky | ⟨-, hstrategy⟩
  · obtain ⟨candidate, htaken, heq⟩ := Option.map_eq_some_iff.1 hsticky
    cases heq
    cases hsession : affinitySession runtime (parseAffinity pool.affinity) input.sessionKey with
    | none =>
        rw [hsession] at htaken
        cases htaken
    | some sessionHash =>
        rw [hsession] at htaken
        exact not_mem_of_takeAffinity htaken
  · exact not_mem_of_applyStrategy hstrategy

end RlyGateway
