import RlyGateway.Library.Fallible
import RlyGateway.Library.Runs
import RlyGateway.Routing.Pools.Selector

/-!
# Session affinity over runs

What the selector keeps between calls is the affinity file and the cursors. A session that a
selection has bound to an account stays bound to it for as long as the binding is alive and the
account can be selected, in every run whose selections leave the bindings of other pools alone: the
file keeps one binding for each session, so a selection for a session drops its bindings to other
pools.
-/

namespace RlyGateway

variable (runtime : NodeRuntime)

/-! ## Selections in sequence -/

/-- A call of `select`: the live store and the clock it reads, and its input. -/
structure Selection where
  store : ControlPlaneView
  now : ℤ
  input : SelectInput

/-- What the selector keeps between calls: the affinity file and the cursors. -/
structure SelectorState where
  sessions : List AffinityBinding
  cursors : OrderedMap String ℕ

variable {runtime} in
/-- What a call reads. -/
def SelectorState.view (state : SelectorState) (selection : Selection) : SelectorView where
  store := selection.store
  sessions := state.sessions
  cursors := state.cursors
  now := selection.now

/-- The state after a call. -/
def selectNext (state : SelectorState) (selection : Selection) : SelectorState :=
  let update := (selectLocked runtime (state.view selection) selection.input).2
  { sessions := update.sessions.getD state.sessions
    cursors := update.cursor.elim state.cursors (state.cursors.set selection.input.poolId) }

/-- No call is refused. -/
def selectStep (state : SelectorState) (selection : Selection) : Option SelectorState :=
  some (selectNext runtime state selection)

/-- The account a call returns a route for. -/
def selectedAccount (state : SelectorState) (selection : Selection) : Option String :=
  (selectLocked runtime (state.view selection) selection.input).1.toOption.map (·.route.accountId)

/-- The pool of a call, where it is not manual and has session affinity. -/
def affinityPool? (selection : Selection) : Option PoolRecord :=
  (requirePool selection.input.policy selection.input.poolId).toOption.filter fun pool =>
    pool.strategy ≠ .manual ∧ (parseAffinity pool.affinity).sessionEnabled ∧
      0 < (parseAffinity pool.affinity).sessionTtlSeconds

/-- The session of a call; the file tells sessions apart by the hashes of their keys. -/
def sessionOf (selection : Selection) : Option String :=
  selection.input.sessionKey.map runtime.sha256Hex

/-- When a binding that a call makes expires. -/
def bindingExpiry (selection : Selection) (pool : PoolRecord) : String :=
  runtime.isoString
    (selection.now + (parseAffinity pool.affinity).sessionTtlSeconds * 1000)

/-- A date is not past. -/
def Unexpired (expiresAt : String) (now : ℤ) : Prop :=
  (runtime.dateParse expiresAt).any (now < ·) = true

instance (expiresAt : String) (now : ℤ) : Decidable (Unexpired runtime expiresAt now) :=
  inferInstanceAs (Decidable (_ = true))

/-- A call finds an account eligible and does not exclude it. -/
def Selectable (selection : Selection) (pool : PoolRecord) (accountId : String) : Prop :=
  ∃ candidate,
    (assessPool runtime selection.store pool selection.input selection.now).find?
      (fun item => item.accountId = accountId) = some candidate ∧
    isCandidate selection.input.excludeAccountIds candidate = true

/-! ## The property -/

/-- Until the binding expires, every call for the session and the pool that finds the account
selectable returns it and renews the binding, whatever calls for other sessions and pools come in
between. -/
def StaysBound (session poolId accountId : String) :
    String → SelectorState → List Selection → Prop
  | _, _, [] => True
  | expiresAt, state, selection :: selections =>
      Unexpired runtime expiresAt selection.now →
        if selection.input.poolId = poolId ∧ sessionOf runtime selection = some session then
          ∀ pool, affinityPool? selection = some pool → Selectable runtime selection pool accountId →
            selectedAccount runtime state selection = some accountId ∧
              StaysBound session poolId accountId (bindingExpiry runtime selection pool)
                (selectNext runtime state selection) selections
        else
          StaysBound session poolId accountId expiresAt (selectNext runtime state selection) selections

/-- Every call that binds a session to an account in a pool binds it for the calls after it. -/
def AffinityKept (start : SelectorState) (selections : List Selection) : Prop :=
  ∀ before selection after state pool session accountId,
    selections = before ++ selection :: after →
      List.run (selectStep runtime) start before = some state →
        affinityPool? selection = some pool → sessionOf runtime selection = some session →
          selectedAccount runtime state selection = some accountId →
            StaysBound runtime session pool.id accountId (bindingExpiry runtime selection pool)
              (selectNext runtime state selection) after

/-- A call finds no account in a pool. -/
def NoCandidate (selection : Selection) (pool : PoolRecord) : Prop :=
  let assessments := assessPool runtime selection.store pool selection.input selection.now
  let exclude := selection.input.excludeAccountIds
  if pool.strategy = .manual then
    selectManual assessments selection.input.pinnedAccountId exclude = none
  else eligibleCandidates assessments exclude = []

/-- A call for a session that is bound in another pool changes nothing: the session is not bound in
the pool of the call, and no account of it can be selected. -/
def Undisturbed (state : SelectorState) (selection : Selection) : Prop :=
  ∀ pool session, requirePool selection.input.policy selection.input.poolId = .ok pool →
    affinitySession runtime (parseAffinity pool.affinity) selection.input.sessionKey = some session →
      (∃ binding ∈ liveSessions runtime (state.view selection),
        binding.sessionKeyHash = session ∧ binding.poolId ≠ pool.id) →
          (pool.strategy = .manual ∨ ∀ binding ∈ liveSessions runtime (state.view selection),
            binding.sessionKeyHash = session → binding.poolId ≠ pool.id) ∧
          NoCandidate runtime selection pool

/-! ## One selection -/

section Selecting

variable {runtime} {view : SelectorView} {input : SelectInput} {pool : PoolRecord} {session : String}

theorem id_of_requirePool (hpool : requirePool input.policy input.poolId = .ok pool) :
    pool.id = input.poolId := by
  unfold requirePool at hpool
  split at hpool
  · rename_i found hfound
    cases hpool
    have hid := List.find?_some hfound
    exact of_decide_eq_true hid
  · cases hpool

/-- A call without a session leaves the file alone. -/
theorem sessions_selectLocked_of_none
    (hsession : ∀ pool, requirePool input.policy input.poolId = .ok pool →
      affinitySession runtime (parseAffinity pool.affinity) input.sessionKey = none) :
    (selectLocked runtime view input).2.sessions = none := by
  unfold selectLocked
  split
  · rfl
  · rename_i pool hpool
    dsimp only
    rw [hsession pool hpool]
    split
    · rfl
    · rfl

/-- A call with a session leaves the file alone, or takes the session out of it, or binds it. -/
theorem sessions_selectLocked (hpool : requirePool input.policy input.poolId = .ok pool)
    (hsession : affinitySession runtime (parseAffinity pool.affinity) input.sessionKey =
      some session) :
    (selectLocked runtime view input).2.sessions = none ∨
      (selectLocked runtime view input).2.sessions =
        some (forgetSession (liveSessions runtime view) session) ∨
      ∃ accountId, (selectLocked runtime view input).2.sessions =
        some (rememberSession runtime (liveSessions runtime view) session pool.id accountId
          (parseAffinity pool.affinity) view.now) := by
  have hforgotten : ∀ assessments exclude,
      (takeAffinity assessments (liveSessions runtime view) pool session exclude).2 = none ∨
        (takeAffinity assessments (liveSessions runtime view) pool session exclude).2 =
          some (forgetSession (liveSessions runtime view) session) := by
    intro assessments exclude
    unfold takeAffinity
    split
    · exact Or.inl rfl
    split
    · exact Or.inl rfl
    split
    · exact Or.inl rfl
    · exact Or.inr rfl
  unfold selectLocked
  rw [hpool]
  dsimp only
  rw [hsession]
  split
  · rcases hforgotten (assessPool runtime view.store pool input view.now) input.excludeAccountIds with
      h | h
    · exact Or.inl h
    · exact Or.inr (Or.inl h)
  · rename_i selected next hpicked
    exact Or.inr (Or.inr ⟨selected.accountId, rfl⟩)

/-- A call that returns a route binds its session to the account. -/
theorem sessions_selectLocked_of_ok (hpool : requirePool input.policy input.poolId = .ok pool)
    (hsession : affinitySession runtime (parseAffinity pool.affinity) input.sessionKey =
      some session) {result : SelectResult} (h : (selectLocked runtime view input).1 = .ok result) :
    (selectLocked runtime view input).2.sessions =
      some (rememberSession runtime (liveSessions runtime view) session pool.id
        result.route.accountId (parseAffinity pool.affinity) view.now) := by
  unfold selectLocked at h ⊢
  rw [hpool] at h ⊢
  dsimp only at h ⊢
  rw [hsession] at h ⊢
  split at h
  · cases h
  · cases h
    rfl

theorem takeAffinity_of_unbound {assessments : List CandidateAssessment}
    {bindings : List AffinityBinding} {exclude : List String}
    (h : pool.strategy = .manual ∨
      ∀ binding ∈ bindings, binding.sessionKeyHash = session → binding.poolId ≠ pool.id) :
    takeAffinity assessments bindings pool session exclude = (none, none) := by
  unfold takeAffinity
  rcases h with hmanual | hunbound
  · rw [if_pos hmanual]
  · split
    · rfl
    · have hnone : bindings.find? (fun item => item.sessionKeyHash = session ∧
          item.poolId = pool.id) = none := by
        refine List.find?_eq_none.2 fun binding hmem hfound => ?_
        rw [decide_eq_true_eq] at hfound
        exact hunbound binding hmem hfound.1 hfound.2
      rw [hnone]

theorem takeAffinity_of_bound {assessments : List CandidateAssessment}
    {bindings : List AffinityBinding} {exclude : List String} {binding : AffinityBinding}
    {candidate : CandidateAssessment} (hmanual : pool.strategy ≠ .manual)
    (hbound : bindings.find? (fun item => item.sessionKeyHash = session ∧
      item.poolId = pool.id) = some binding)
    (hcandidate : assessments.find? (fun item => item.accountId = binding.accountId) =
      some candidate) (hallowed : isCandidate exclude candidate = true) :
    takeAffinity assessments bindings pool session exclude = (some candidate, none) := by
  unfold takeAffinity
  rw [if_neg hmanual, hbound]
  dsimp only
  rw [hcandidate, Option.filter_some, if_pos hallowed]

/-- Without a candidate no strategy selects one. -/
theorem applyStrategy_of_noCandidate {selection : Selection} (h : NoCandidate runtime selection pool)
    (affinity : ParsedAffinity) (cursor : ℕ) :
    applyStrategy (assessPool runtime selection.store pool selection.input selection.now) pool affinity
      selection.input.pinnedAccountId selection.input.excludeAccountIds cursor = none := by
  unfold NoCandidate at h
  unfold applyStrategy
  cases hstrategy : pool.strategy with
  | manual =>
      rw [hstrategy, if_pos rfl] at h
      dsimp only
      rw [h, Option.map_none]
  | fillFirst =>
      rw [hstrategy, if_neg (by decide)] at h
      dsimp only
      rw [h]
      split <;> rfl
  | roundRobin =>
      rw [hstrategy, if_neg (by decide)] at h
      dsimp only
      rw [h]
      split <;> rfl

/-- A call that finds nothing to take and nothing to select leaves the file alone. -/
theorem sessions_selectLocked_of_noCandidate {state : SelectorState} {selection : Selection}
    (hpool : requirePool selection.input.policy selection.input.poolId = .ok pool)
    (hsession : affinitySession runtime (parseAffinity pool.affinity) selection.input.sessionKey =
      some session)
    (hunbound : pool.strategy = .manual ∨ ∀ binding ∈ liveSessions runtime (state.view selection),
      binding.sessionKeyHash = session → binding.poolId ≠ pool.id)
    (hnone : NoCandidate runtime selection pool) :
    (selectLocked runtime (state.view selection) selection.input).2.sessions = none := by
  unfold selectLocked
  rw [hpool]
  dsimp only
  rw [hsession, Option.elim_some, takeAffinity_of_unbound hunbound, Option.map_none, Option.none_or,
    SelectorState.view, applyStrategy_of_noCandidate hnone]

/-- A call for a bound session returns the account it is bound to, if that can be selected. -/
theorem selectLocked_of_bound {state : SelectorState} {selection : Selection}
    (hpool : requirePool selection.input.policy selection.input.poolId = .ok pool)
    (hsession : affinitySession runtime (parseAffinity pool.affinity) selection.input.sessionKey =
      some session) (hmanual : pool.strategy ≠ .manual) {binding : AffinityBinding}
    (hbound : (liveSessions runtime (state.view selection)).find? (fun item =>
      item.sessionKeyHash = session ∧ item.poolId = pool.id) = some binding)
    (hselectable : Selectable runtime selection pool binding.accountId) :
    ∃ result, (selectLocked runtime (state.view selection) selection.input).1 = .ok result ∧
      result.route.accountId = binding.accountId := by
  obtain ⟨candidate, hcandidate, hallowed⟩ := hselectable
  have hid : candidate.accountId = binding.accountId := by
    have hfound := List.find?_some hcandidate
    exact of_decide_eq_true hfound
  have htaken : takeAffinity (assessPool runtime (state.view selection).store pool selection.input
      (state.view selection).now) (liveSessions runtime (state.view selection)) pool session
      selection.input.excludeAccountIds = (some candidate, none) :=
    takeAffinity_of_bound hmanual hbound hcandidate hallowed
  unfold selectLocked
  rw [hpool]
  dsimp only
  rw [hsession, Option.elim_some, htaken]
  exact ⟨_, rfl, hid⟩

end Selecting

/-! ## Bindings -/

section Bindings

variable {runtime} {binding : AffinityBinding} {bindings : List AffinityBinding}
  {state : SelectorState} {selection : Selection} {pool : PoolRecord} {session : String}

/-- A binding is the only one of its session. -/
structure Bound (binding : AffinityBinding) (bindings : List AffinityBinding) : Prop where
  mem : binding ∈ bindings
  unique : ∀ other ∈ bindings, other.sessionKeyHash = binding.sessionKeyHash → other = binding

theorem Bound.live (h : Bound binding state.sessions)
    (hlive : Unexpired runtime binding.expiresAt selection.now) :
    Bound binding (liveSessions runtime (state.view selection)) where
  mem := List.mem_filter.2 ⟨h.mem, hlive⟩
  unique := fun other hmem => h.unique other (List.mem_filter.1 hmem).1

theorem Bound.forgetSession (h : Bound binding bindings) (hne : binding.sessionKeyHash ≠ session) :
    Bound binding (forgetSession bindings session) where
  mem := List.mem_filter.2 ⟨h.mem, decide_eq_true hne⟩
  unique := fun other hmem => h.unique other (List.mem_filter.1 hmem).1

/-- Binding another session leaves a binding the only one of its session. -/
theorem Bound.rememberSession (h : Bound binding bindings) (hne : binding.sessionKeyHash ≠ session)
    (poolId accountId : String) (affinity : ParsedAffinity) (now : ℤ) :
    Bound binding (rememberSession runtime bindings session poolId accountId affinity now) where
  mem := List.mem_append_left _ (h.forgetSession hne).mem
  unique := by
    intro other hmem hsame
    rcases List.mem_append.1 hmem with hold | hnew
    · exact (h.forgetSession hne).unique other hold hsame
    · rw [List.mem_singleton.1 hnew] at hsame
      exact absurd hsame.symm hne

/-- A session that is bound has no other binding. -/
theorem bound_rememberSession (poolId accountId : String) (affinity : ParsedAffinity) (now : ℤ) :
    Bound ⟨session, poolId, accountId, runtime.isoString (now + affinity.sessionTtlSeconds * 1000)⟩
      (rememberSession runtime bindings session poolId accountId affinity now) where
  mem := List.mem_append_right _ (List.mem_singleton_self _)
  unique := by
    intro other hmem hsame
    rcases List.mem_append.1 hmem with hold | hnew
    · have hne := (List.mem_filter.1 hold).2
      rw [decide_eq_true_eq] at hne
      exact absurd hsame hne
    · exact List.mem_singleton.1 hnew

theorem Bound.find? (h : Bound binding bindings) :
    bindings.find? (fun item => item.sessionKeyHash = binding.sessionKeyHash ∧
      item.poolId = binding.poolId) = some binding := by
  have hsome : (bindings.find? fun item => item.sessionKeyHash = binding.sessionKeyHash ∧
      item.poolId = binding.poolId).isSome := by
    rw [List.find?_isSome]
    exact ⟨binding, h.mem, by simp⟩
  obtain ⟨found, hfound⟩ := Option.isSome_iff_exists.1 hsome
  have hsame := List.find?_some hfound
  rw [decide_eq_true_eq] at hsame
  rw [hfound, h.unique found (List.mem_of_find?_eq_some hfound) hsame.1]

theorem affinityPool?_eq_some (h : affinityPool? selection = some pool) :
    requirePool selection.input.policy selection.input.poolId = .ok pool ∧
      pool.strategy ≠ .manual ∧ (parseAffinity pool.affinity).sessionEnabled = true ∧
      0 < (parseAffinity pool.affinity).sessionTtlSeconds := by
  obtain ⟨hpool, haffinity⟩ := Option.filter_eq_some_iff.1 h
  rw [decide_eq_true_eq] at haffinity
  exact ⟨Except.toOption_eq_some.1 hpool, haffinity⟩

theorem affinitySession_of_affinityPool? (h : affinityPool? selection = some pool)
    (hsession : sessionOf runtime selection = some session) :
    affinitySession runtime (parseAffinity pool.affinity) selection.input.sessionKey =
      some session := by
  obtain ⟨-, -, henabled, httl⟩ := affinityPool?_eq_some h
  rw [affinitySession, if_pos ⟨henabled, httl⟩]
  exact hsession

/-- A session affinity applies to is the session of the call. -/
theorem sessionOf_of_affinitySession
    (h : affinitySession runtime (parseAffinity pool.affinity) selection.input.sessionKey =
      some session) : sessionOf runtime selection = some session := by
  unfold affinitySession at h
  split at h
  · exact h
  · cases h

/-- A call that returns an account has bound its session to it. -/
theorem bound_selectNext {accountId : String} (hpool : affinityPool? selection = some pool)
    (hsession : sessionOf runtime selection = some session)
    (hselected : selectedAccount runtime state selection = some accountId) :
    Bound ⟨session, pool.id, accountId, bindingExpiry runtime selection pool⟩
      (selectNext runtime state selection).sessions := by
  obtain ⟨result, hresult, rfl⟩ := Option.map_eq_some_iff.1 hselected
  have hsessions := sessions_selectLocked_of_ok (affinityPool?_eq_some hpool).1
    (affinitySession_of_affinityPool? hpool hsession) (Except.toOption_eq_some.1 hresult)
  rw [selectNext, hsessions]
  exact bound_rememberSession _ _ _ _

/-- A call for a bound session returns its account, if it can be selected. -/
theorem selectedAccount_of_bound (h : Bound binding state.sessions)
    (hlive : Unexpired runtime binding.expiresAt selection.now)
    (hpool : affinityPool? selection = some pool) (hid : pool.id = binding.poolId)
    (hsession : sessionOf runtime selection = some binding.sessionKeyHash)
    (hselectable : Selectable runtime selection pool binding.accountId) :
    selectedAccount runtime state selection = some binding.accountId := by
  have hfound := (h.live hlive).find?
  rw [← hid] at hfound
  obtain ⟨hrequired, hmanual, -⟩ := affinityPool?_eq_some hpool
  obtain ⟨result, hresult, haccount⟩ := selectLocked_of_bound hrequired
    (affinitySession_of_affinityPool? hpool hsession) hmanual hfound hselectable
  rw [selectedAccount, hresult, ← haccount]
  rfl

/-- A call for another session or another pool leaves a binding, if it is undisturbed. -/
theorem Bound.selectNext_of_other (h : Bound binding state.sessions)
    (hlive : Unexpired runtime binding.expiresAt selection.now)
    (hundisturbed : Undisturbed runtime state selection)
    (hother : ¬ (selection.input.poolId = binding.poolId ∧
      sessionOf runtime selection = some binding.sessionKeyHash)) :
    Bound binding (selectNext runtime state selection).sessions := by
  have hkept : (selectLocked runtime (state.view selection) selection.input).2.sessions = none →
      Bound binding (selectNext runtime state selection).sessions := by
    intro hnone
    rw [selectNext, hnone]
    exact h
  cases hpool : requirePool selection.input.policy selection.input.poolId with
  | error thrown =>
      refine hkept (sessions_selectLocked_of_none fun pool hfound => ?_)
      rw [hpool] at hfound
      cases hfound
  | ok pool =>
      cases hsession : affinitySession runtime (parseAffinity pool.affinity)
          selection.input.sessionKey with
      | none =>
          refine hkept (sessions_selectLocked_of_none fun pool' hfound => ?_)
          rw [hpool] at hfound
          cases hfound
          exact hsession
      | some session =>
          by_cases hsame : binding.sessionKeyHash = session
          · -- the session of the binding, so the call is for another pool
            subst hsame
            have hid : binding.poolId ≠ pool.id := by
              intro heq
              rw [id_of_requirePool hpool] at heq
              exact hother ⟨heq.symm, sessionOf_of_affinitySession hsession⟩
            obtain ⟨hunbound, hnone⟩ := hundisturbed pool _ hpool hsession
              ⟨binding, (h.live hlive).mem, rfl, hid⟩
            exact hkept (sessions_selectLocked_of_noCandidate hpool hsession hunbound hnone)
          · have hbound := h.live hlive
            rcases @sessions_selectLocked runtime (state.view selection) _ _ _ hpool hsession with
              hsessions | hsessions | ⟨accountId, hsessions⟩
            · exact hkept hsessions
            · rw [selectNext, hsessions]
              exact hbound.forgetSession hsame
            · rw [selectNext, hsessions]
              exact hbound.rememberSession hsame _ _ _ _

/-- A bound session stays bound over the calls that are undisturbed. -/
theorem staysBound (poolId accountId : String) {expiresAt : String} {selections : List Selection}
    (h : Bound ⟨session, poolId, accountId, expiresAt⟩ state.sessions)
    (halong : List.Along (Undisturbed runtime) (selectStep runtime) state selections) :
    StaysBound runtime session poolId accountId expiresAt state selections := by
  induction selections generalizing state expiresAt with
  | nil => trivial
  | cons selection selections ih =>
      obtain ⟨hundisturbed, hrest⟩ := List.along_cons.1 halong
      have hlater := hrest _ rfl
      intro hlive
      split
      · rename_i hsame
        intro pool hpool hselectable
        have hid : pool.id = poolId := by
          rw [id_of_requirePool (affinityPool?_eq_some hpool).1]
          exact hsame.1
        have hselected := selectedAccount_of_bound h hlive hpool hid hsame.2 hselectable
        refine ⟨hselected, ih ?_ hlater⟩
        rw [← hid]
        exact bound_selectNext hpool hsame.2 hselected
      · rename_i hother
        exact ih (h.selectNext_of_other hlive hundisturbed hother) hlater

end Bindings

/-- A call for the only pool with bindings is undisturbed. -/
theorem undisturbed_of_onePool {state : SelectorState} {selection : Selection}
    (h : ∀ binding ∈ state.sessions, binding.poolId = selection.input.poolId) :
    Undisturbed runtime state selection := by
  rintro pool session hpool - ⟨binding, hmem, -, hother⟩
  rw [id_of_requirePool hpool] at hother
  exact absurd (h binding (List.mem_filter.1 hmem).1) hother

/-- A round-robin pool of two accounts that keeps a session for a minute. -/
def stickyPool (id : String) : PoolRecord where
  id := id
  name := id
  providerId := "codex"
  strategy := .roundRobin
  affinity := .obj [("session", .obj [("enabled", .bool true), ("ttlSeconds", .num 60)])]
  retryBudget := 1
  memberships := [⟨"a", some 0⟩, ⟨"b", some 1⟩]

/-- A ready account with a credential. -/
def stickyAccount (id : String) : AccountRecord :=
  ⟨id, "acct-" ++ id, "codex", "cred-" ++ id, 1, .ready, "healthy", none, none⟩

/-- A call for one session in one of two pools. -/
def sessionCall (poolId : String) : Selection where
  store := ⟨[stickyAccount "a", stickyAccount "b"], [⟨"codex", "Codex", none, true⟩], []⟩
  now := 0
  input :=
    { requestId := "req"
      poolId
      policy :=
        { revision := 1
          hash := "hash"
          providers := []
          accounts := []
          pools := [stickyPool "p", stickyPool "q"] }
      required := []
      capabilities := ⟨true, true, false, false, false, false, false, .unsupported⟩
      modelId := "gpt-5"
      adapterId := "codex"
      credentialSnapshots := [("cred-a", ⟨true, 1, none⟩), ("cred-b", ⟨true, 1, none⟩)]
      sessionKey := some "session"
      pinnedAccountId := none
      excludeAccountIds := []
      reasoningEvidence := none
      resolvedReasoning := none }

end RlyGateway
