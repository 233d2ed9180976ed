import RlyGateway.Library.FirstLeast
import RlyGateway.Library.Keyed
import RlyGateway.Routing.Pools.Selector

/-!
# What a selection is to return

The account selection with the failure that a session whose expiry has no date ends in, and its
specification: which accounts can be selected, which of them is, and when there is none.
-/

namespace RlyGateway

variable (runtime : NodeRuntime)

/-! ## The expiry of a session -/

/-- The greatest distance from the epoch, in milliseconds, at which an instant has a date. -/
def MAX_DATE_MILLISECONDS : ℤ := 8640000000000000

/-- Whether an instant has a date. -/
def HasDate (instant : ℤ) : Prop :=
  -MAX_DATE_MILLISECONDS ≤ instant ∧ instant ≤ MAX_DATE_MILLISECONDS

instance (instant : ℤ) : Decidable (HasDate instant) := inferInstanceAs (Decidable (_ ∧ _))

/-- The instant at which a session that is remembered now expires. -/
def sessionExpiry (affinity : ParsedAffinity) (now : ℤ) : ℤ :=
  now + affinity.sessionTtlSeconds * 1000

/-- The selection of one account. `selectLocked` writes every expiry; here one that has no date
throws, after the cursor has moved and before the session is remembered. -/
def select (view : SelectorView) (input : SelectInput) :
    Except Thrown SelectResult × SelectorUpdate :=
  match requirePool input.policy input.poolId, selectLocked runtime view input with
  | .ok pool, (.ok result, update) =>
      let affinity := parseAffinity pool.affinity
      match affinitySession runtime affinity input.sessionKey with
      | none => (.ok result, update)
      | some sessionHash =>
          if HasDate (sessionExpiry affinity view.now) then (.ok result, update)
          else (.error (.error "RangeError" "Invalid time value" none),
            ⟨update.cursor, (takeAffinity (assessPool runtime view.store pool input view.now)
              (liveSessions runtime view) pool sessionHash input.excludeAccountIds).2⟩)
  | _, outcome => outcome

/-! ## Specification -/

section Specification

variable (view : SelectorView) (input : SelectInput) (pool : PoolRecord)

/-- The members of the pool as a selection sees them. -/
def poolMembers : List CandidateAssessment := assessPool runtime view.store pool input view.now

/-- A member that is eligible and not excluded. -/
def IsAdmissible (accountId : String) : Prop :=
  ∃ member ∈ poolMembers runtime view input pool, member.accountId = accountId ∧
    member.eligible = true ∧ accountId ∉ input.excludeAccountIds

/-- The account a manual pool is pinned to: the one that is asked for, or else the first of those of
the lowest pin order. -/
def IsPin (accountId : String) : Prop :=
  input.pinnedAccountId = some accountId ∨
    input.pinnedAccountId = none ∧ ∃ member, (poolMembers runtime view input pool).IsFirstLeast
      (fun left right => left.pinOrder ≤ right.pinOrder) member ∧ member.accountId = accountId

/-- There is an account to select. -/
def HasAdmissible : Prop :=
  ∃ accountId, IsAdmissible runtime view input pool accountId ∧
    (pool.strategy = .manual → IsPin runtime view input pool accountId)

/-- The account the session is bound to, where affinity applies. -/
def IsBound (accountId : String) : Prop :=
  pool.strategy ≠ .manual ∧ ∃ sessionHash binding,
    affinitySession runtime (parseAffinity pool.affinity) input.sessionKey = some sessionHash ∧
    ((liveSessions runtime view).find? fun item =>
      item.sessionKeyHash = sessionHash ∧ item.poolId = pool.id) = some binding ∧
    binding.accountId = accountId

/-- The order in which a pool is filled. -/
def FillsBefore (left right : CandidateAssessment) : Prop :=
  if (parseAffinity pool.affinity).quotaAware then
    quotaRank left.quotaClass < quotaRank right.quotaClass ∨
      (quotaRank left.quotaClass = quotaRank right.quotaClass ∧ left.pinOrder ≤ right.pinOrder)
  else left.pinOrder ≤ right.pinOrder

/-- A member that a selection may return. -/
structure IsSelection (selected : CandidateAssessment) : Prop where
  member : selected ∈ poolMembers runtime view input pool
  eligible : selected.eligible = true
  allowed : selected.accountId ∉ input.excludeAccountIds
  bound : ∀ accountId, IsBound runtime view input pool accountId →
    IsAdmissible runtime view input pool accountId → selected.accountId = accountId
  pinned : pool.strategy = .manual → IsPin runtime view input pool selected.accountId
  first : pool.strategy = .fillFirst →
    (∀ accountId, IsBound runtime view input pool accountId →
      ¬ IsAdmissible runtime view input pool accountId) →
    ∀ other ∈ poolMembers runtime view input pool, other.eligible = true →
      other.accountId ∉ input.excludeAccountIds → FillsBefore pool selected other

/-- A selection refuses exactly where there is nothing to select, and otherwise binds a route to
what it may return. -/
structure MeetsSpecification : Prop where
  refuses : (select runtime view input).1 = .error (.noEligibleAccount input.requestId) ↔
    ¬ HasAdmissible runtime view input pool
  selects : HasAdmissible runtime view input pool → ∃ result selected sourceRule decidedAt,
    (select runtime view input).1 = .ok result ∧
      IsSelection runtime view input pool selected ∧
      result.route = bindRoute input pool selected sourceRule decidedAt

end Specification

/-- The expiry of a session that a selection remembers has a date. -/
def RemembersDate (view : SelectorView) (input : SelectInput) (pool : PoolRecord) : Prop :=
  ∀ sessionHash,
    affinitySession runtime (parseAffinity pool.affinity) input.sessionKey = some sessionHash →
      HasDate (sessionExpiry (parseAffinity pool.affinity) view.now)

/-! ## Members -/

section Members

variable {runtime} {view : SelectorView} {input : SelectInput} {pool : PoolRecord}

theorem isCandidate_iff {exclude : List String} {candidate : CandidateAssessment} :
    isCandidate exclude candidate = true ↔
      candidate.eligible = true ∧ candidate.accountId ∉ exclude := by
  simp [isCandidate]

theorem id_of_liveAccount {store : ControlPlaneView} {accountId : String} {policy : PolicyRevision}
    {account : AccountRecord} (h : liveAccount store accountId policy = some account) :
    account.id = accountId := by
  rcases Option.or_eq_some_iff.1 h with h | ⟨-, h⟩
  · exact (List.find?_decide_eq_some h).2
  · exact (List.find?_decide_eq_some h).2

/-- A member keeps its account id. -/
theorem accountId_assessMembership (store : ControlPlaneView) (now : ℤ)
    (membership : MembershipRecord) :
    (assessMembership runtime store input now membership).accountId = membership.accountId := by
  unfold assessMembership
  split
  · rename_i account haccount
    exact id_of_liveAccount haccount
  · rfl

/-- Whether a member is eligible depends on its account alone. -/
theorem eligible_assessMembership (store : ControlPlaneView) (now : ℤ)
    {membership other : MembershipRecord} (h : membership.accountId = other.accountId) :
    (assessMembership runtime store input now membership).eligible =
      (assessMembership runtime store input now other).eligible := by
  unfold assessMembership
  rw [h]
  cases liveAccount store other.accountId input.policy with
  | none => rfl
  | some account => rfl

theorem eligible_congr {member other : CandidateAssessment}
    (hmember : member ∈ poolMembers runtime view input pool)
    (hother : other ∈ poolMembers runtime view input pool)
    (h : member.accountId = other.accountId) : member.eligible = other.eligible := by
  obtain ⟨membership, -, rfl⟩ := List.mem_map.1 hmember
  obtain ⟨membership', -, rfl⟩ := List.mem_map.1 hother
  rw [accountId_assessMembership, accountId_assessMembership] at h
  exact eligible_assessMembership view.store view.now h

/-- An eligible member that is not excluded is admissible. -/
theorem isAdmissible_of_mem {member : CandidateAssessment}
    (hmember : member ∈ poolMembers runtime view input pool)
    (h : isCandidate input.excludeAccountIds member = true) :
    IsAdmissible runtime view input pool member.accountId :=
  have h := isCandidate_iff.1 h
  ⟨member, hmember, rfl, h.1, h.2⟩

/-- The first member of an admissible account can be selected. -/
theorem isCandidate_of_find? {accountId : String} {member : CandidateAssessment}
    (h : (poolMembers runtime view input pool).find? (·.accountId = accountId) = some member)
    (hadmissible : IsAdmissible runtime view input pool accountId) :
    isCandidate input.excludeAccountIds member = true := by
  obtain ⟨other, hother, hid, heligible, hallowed⟩ := hadmissible
  have hmember : member.accountId = accountId := 
    (List.find?_decide_eq_some h).2
  refine isCandidate_iff.2 ⟨?_, hmember ▸ hallowed⟩
  rw [← heligible]
  exact eligible_congr (List.mem_of_find?_eq_some h) hother (hmember.trans hid.symm)

theorem head?_insertionSort_pinOrder {candidates : List CandidateAssessment}
    {first : CandidateAssessment} :
    (candidates.insertionSort fun left right => left.pinOrder ≤ right.pinOrder).head? = some first ↔
      candidates.IsFirstLeast (fun left right => left.pinOrder ≤ right.pinOrder) first := by
  refine List.head?_insertionSort_eq_some ?_ ?_
  all_goals
    intros
    omega

/-- The pin of a manual pool, as the strategy finds it. -/
theorem isPin_iff {accountId : String} :
    IsPin runtime view input pool accountId ↔
      input.pinnedAccountId.or (designatedPin (poolMembers runtime view input pool)) =
        some accountId := by
  rw [Option.or_eq_some_iff, designatedPin, Option.map_eq_some_iff]
  simp only [IsPin, head?_insertionSort_pinOrder]

/-! ## Strategies -/

/-- The candidates in the order in which a strategy takes them. -/
def orderedCandidates (affinity : ParsedAffinity) (candidates : List CandidateAssessment)
    (exclude : List String) : List CandidateAssessment :=
  if affinity.quotaAware then orderByQuotaThenPin (eligibleCandidates candidates exclude)
  else eligibleCandidates candidates exclude

theorem mem_orderedCandidates {affinity : ParsedAffinity} {candidates : List CandidateAssessment}
    {exclude : List String} {candidate : CandidateAssessment} :
    candidate ∈ orderedCandidates affinity candidates exclude ↔
      candidate ∈ candidates ∧ isCandidate exclude candidate = true := by
  have heligible : candidate ∈ eligibleCandidates candidates exclude ↔
      candidate ∈ candidates ∧ isCandidate exclude candidate = true := by
    rw [eligibleCandidates, List.mem_insertionSort, List.mem_filter]
  unfold orderedCandidates
  split
  · rw [orderByQuotaThenPin, List.mem_insertionSort, heligible]
  · exact heligible

/-- The first of the ordered candidates comes before all others. -/
theorem fillsBefore_of_head? {candidates : List CandidateAssessment} {exclude : List String}
    {first other : CandidateAssessment}
    (hfirst : (orderedCandidates (parseAffinity pool.affinity) candidates exclude).head? =
      some first)
    (hother : other ∈ candidates) (hcandidate : isCandidate exclude other = true) :
    FillsBefore pool first other := by
  have hmem : other ∈ orderedCandidates (parseAffinity pool.affinity) candidates exclude :=
    mem_orderedCandidates.2 ⟨hother, hcandidate⟩
  unfold orderedCandidates at hfirst hmem
  unfold FillsBefore
  split at hfirst
  · rename_i hquota
    rw [if_pos hquota] at hmem ⊢
    rw [orderByQuotaThenPin] at hfirst hmem
    refine ((List.head?_insertionSort_eq_some ?_ ?_).1 hfirst).rel ?_ other
      ((List.mem_insertionSort _).1 hmem)
    all_goals
      intros
      omega
  · rename_i hquota
    rw [if_neg hquota] at hmem ⊢
    rw [eligibleCandidates] at hfirst hmem
    refine (head?_insertionSort_pinOrder.1 hfirst).rel ?_ other ((List.mem_insertionSort _).1 hmem)
    intros
    omega

theorem selectManual_eq_some {candidates : List CandidateAssessment}
    {pinnedAccountId : Option String} {exclude : List String} {selected : CandidateAssessment} :
    selectManual candidates pinnedAccountId exclude = some selected ↔
      ∃ pinId, pinnedAccountId.or (designatedPin candidates) = some pinId ∧ pinId ∉ exclude ∧
        (candidates.find? fun candidate => candidate.accountId = pinId ∧ candidate.eligible) =
          some selected := by
  unfold selectManual
  cases pinnedAccountId.or (designatedPin candidates) with
  | none => simp
  | some pinId =>
      by_cases hexcluded : pinId ∈ exclude
      · simp [hexcluded]
      · simp [hexcluded]

/-- What a strategy selects: an eligible member that is not excluded, the pin of a manual pool, and
in a pool that is filled first one that comes before all others. -/
theorem of_applyStrategy {cursor : ℕ} {selected : CandidateAssessment} {next : Option ℕ}
    (h : applyStrategy (poolMembers runtime view input pool) pool (parseAffinity pool.affinity)
      input.pinnedAccountId input.excludeAccountIds cursor = some (selected, next)) :
    selected ∈ poolMembers runtime view input pool ∧
      isCandidate input.excludeAccountIds selected = true ∧
      (pool.strategy = .manual → IsPin runtime view input pool selected.accountId) ∧
      (pool.strategy = .fillFirst → ∀ other ∈ poolMembers runtime view input pool,
        isCandidate input.excludeAccountIds other = true → FillsBefore pool selected other) := by
  unfold applyStrategy at h
  cases hstrategy : pool.strategy with
  | manual =>
      simp only [hstrategy] at h
      obtain ⟨_, hpicked, heq⟩ := Option.map_eq_some_iff.1 h
      cases heq
      obtain ⟨pinId, hpin, hallowed, hfound⟩ := selectManual_eq_some.1 hpicked
      obtain ⟨hmem, rfl, heligible⟩ := List.find?_decide_eq_some hfound
      refine ⟨hmem, isCandidate_iff.2 ⟨heligible, hallowed⟩, fun _ => isPin_iff.2 hpin, ?_⟩
      rintro ⟨⟩
  | fillFirst =>
      simp only [hstrategy] at h
      obtain ⟨_, hpicked, heq⟩ := Option.map_eq_some_iff.1 h
      cases heq
      obtain ⟨hmem, hcandidate⟩ := mem_orderedCandidates.1 (List.mem_of_head? hpicked)
      refine ⟨hmem, hcandidate, ?_, fun _ other => fillsBefore_of_head? hpicked⟩
      rintro ⟨⟩
  | roundRobin =>
      simp only [hstrategy] at h
      obtain ⟨⟨_, _⟩, hpicked, heq⟩ := Option.map_eq_some_iff.1 h
      cases heq
      obtain ⟨_, hat, heq⟩ := Option.map_eq_some_iff.1 hpicked
      cases heq
      obtain ⟨hmem, hcandidate⟩ := mem_orderedCandidates.1 (List.mem_of_getElem? hat)
      refine ⟨hmem, hcandidate, ?_, ?_⟩
      · rintro ⟨⟩
      · rintro ⟨⟩

/-- A strategy selects exactly where there is an account to select. -/
theorem exists_applyStrategy (cursor : ℕ) :
    (∃ picked, applyStrategy (poolMembers runtime view input pool) pool
      (parseAffinity pool.affinity) input.pinnedAccountId input.excludeAccountIds cursor =
        some picked) ↔ HasAdmissible runtime view input pool := by
  constructor
  · rintro ⟨⟨selected, next⟩, h⟩
    obtain ⟨hmem, hcandidate, hpin, -⟩ := of_applyStrategy h
    exact ⟨selected.accountId, isAdmissible_of_mem hmem hcandidate, hpin⟩
  · rintro ⟨accountId, ⟨member, hmem, rfl, heligible, hallowed⟩, hpin⟩
    have hordered : member ∈ orderedCandidates (parseAffinity pool.affinity)
        (poolMembers runtime view input pool) input.excludeAccountIds :=
      mem_orderedCandidates.2 ⟨hmem, isCandidate_iff.2 ⟨heligible, hallowed⟩⟩
    unfold applyStrategy
    cases hstrategy : pool.strategy with
    | manual =>
        obtain ⟨selected, hfound, -⟩ := List.exists_find?_decide (p := fun candidate =>
          candidate.accountId = member.accountId ∧ candidate.eligible = true) hmem ⟨rfl, heligible⟩
        have hpicked := selectManual_eq_some.2 ⟨_, isPin_iff.1 (hpin hstrategy), hallowed, hfound⟩
        exact ⟨_, Option.map_eq_some_iff.2 ⟨selected, hpicked, rfl⟩⟩
    | fillFirst =>
        have hne := List.ne_nil_of_mem hordered
        exact ⟨_, Option.map_eq_some_iff.2 ⟨_, List.head?_eq_some_head hne, rfl⟩⟩
    | roundRobin =>
        have hpos := List.length_pos_of_mem hordered
        have hindex := Nat.mod_lt cursor hpos
        exact ⟨_, Option.map_eq_some_iff.2 ⟨_, Option.map_eq_some_iff.2
          ⟨_, List.getElem?_eq_getElem hindex, rfl⟩, rfl⟩⟩

/-! ## Affinity -/

theorem takeAffinity_fst (assessments : List CandidateAssessment) (bindings : List AffinityBinding)
    (sessionHash : String) (exclude : List String) (h : pool.strategy ≠ .manual) :
    (takeAffinity assessments bindings pool sessionHash exclude).1 =
      (bindings.find? fun item =>
        item.sessionKeyHash = sessionHash ∧ item.poolId = pool.id).bind fun binding =>
          (assessments.find? (·.accountId = binding.accountId)).filter (isCandidate exclude) := by
  unfold takeAffinity
  rw [if_neg h]
  split
  · rename_i hnone
    rw [hnone, Option.bind_none]
  · rename_i binding hsome
    rw [hsome, Option.bind_some]
    split
    · rename_i matched hmatched
      exact hmatched.symm
    · rename_i hmatched
      exact hmatched.symm

variable (runtime view input pool) in
/-- The member that affinity selects. -/
def stickyMember : Option CandidateAssessment :=
  ((affinitySession runtime (parseAffinity pool.affinity) input.sessionKey).elim (none, none)
    fun sessionHash => takeAffinity (poolMembers runtime view input pool)
      (liveSessions runtime view) pool sessionHash input.excludeAccountIds).1

/-- A session is bound to at most one account. -/
theorem IsBound.unique {accountId other : String} (h : IsBound runtime view input pool accountId)
    (hother : IsBound runtime view input pool other) : accountId = other := by
  obtain ⟨-, sessionHash, binding, hsession, hfound, rfl⟩ := h
  obtain ⟨-, sessionHash', binding', hsession', hfound', rfl⟩ := hother
  obtain rfl : sessionHash = sessionHash' := Option.some.inj (hsession.symm.trans hsession')
  rw [Option.some.inj (hfound.symm.trans hfound')]

/-- Affinity selects the first member of the account the session is bound to, where it is
admissible. -/
theorem stickyMember_eq_some {selected : CandidateAssessment} :
    stickyMember runtime view input pool = some selected ↔
      ∃ accountId, IsBound runtime view input pool accountId ∧
        IsAdmissible runtime view input pool accountId ∧
        (poolMembers runtime view input pool).find? (·.accountId = accountId) =
          some selected := by
  constructor
  · intro h
    unfold stickyMember at h
    cases haffinity : affinitySession runtime (parseAffinity pool.affinity) input.sessionKey with
    | none =>
        rw [haffinity] at h
        cases h
    | some sessionHash =>
        rw [haffinity, Option.elim_some] at h
        by_cases hmanual : pool.strategy = .manual
        · rw [takeAffinity, if_pos hmanual] at h
          cases h
        · rw [takeAffinity_fst _ _ _ _ hmanual] at h
          obtain ⟨binding, hbinding, h⟩ := Option.bind_eq_some_iff.1 h
          obtain ⟨hfound, hcandidate⟩ := Option.filter_eq_some_iff.1 h
          obtain ⟨hmem, hid⟩ := List.find?_decide_eq_some hfound
          exact ⟨binding.accountId, ⟨hmanual, sessionHash, binding, haffinity, hbinding, rfl⟩,
            hid ▸ isAdmissible_of_mem hmem hcandidate, hfound⟩
  · rintro ⟨_, ⟨hmanual, sessionHash, binding, haffinity, hbinding, rfl⟩, hadmissible, hfound⟩
    unfold stickyMember
    rw [haffinity, Option.elim_some, takeAffinity_fst _ _ _ _ hmanual, hbinding, Option.bind_some]
    exact Option.filter_eq_some_iff.2 ⟨hfound, isCandidate_of_find? hfound hadmissible⟩

/-- An admissible account that the session is bound to is selected by affinity. -/
theorem exists_stickyMember {accountId : String}
    (hbound : IsBound runtime view input pool accountId)
    (hadmissible : IsAdmissible runtime view input pool accountId) :
    ∃ selected, stickyMember runtime view input pool = some selected := by
  have h := hadmissible
  obtain ⟨member, hmem, hid, -⟩ := h
  obtain ⟨selected, hfound, -⟩ := List.exists_find?_decide
    (p := fun candidate : CandidateAssessment => candidate.accountId = accountId) hmem hid
  exact ⟨selected, stickyMember_eq_some.2 ⟨accountId, hbound, hadmissible, hfound⟩⟩

/-! ## The selection -/

variable (runtime view input pool) in
/-- The member that is selected, and the pool's next cursor where it moves. -/
def pickedMember : Option (CandidateAssessment × Option ℕ) :=
  ((stickyMember runtime view input pool).map fun selected => (selected, none)).or
    (applyStrategy (poolMembers runtime view input pool) pool (parseAffinity pool.affinity)
      input.pinnedAccountId input.excludeAccountIds ((view.cursors.get? pool.id).getD 0))

/-- What is selected is what a selection may return. -/
theorem isSelection_of_pickedMember {selected : CandidateAssessment} {next : Option ℕ}
    (h : pickedMember runtime view input pool = some (selected, next)) :
    IsSelection runtime view input pool selected := by
  rcases Option.or_eq_some_iff.1 h with hpicked | ⟨hnone, hstrategy⟩
  · obtain ⟨_, hsticky, heq⟩ := Option.map_eq_some_iff.1 hpicked
    cases heq
    obtain ⟨accountId, hbound, hadmissible, hfound⟩ := stickyMember_eq_some.1 hsticky
    obtain ⟨hmem, hid⟩ := List.find?_decide_eq_some hfound
    have hcandidate := isCandidate_iff.1 (isCandidate_of_find? hfound hadmissible)
    exact
      { member := hmem
        eligible := hcandidate.1
        allowed := hcandidate.2
        bound := fun other hother _ => hid.trans (hbound.unique hother)
        pinned := fun hmanual => absurd hmanual hbound.1
        first := fun _ hnone => absurd hadmissible (hnone accountId hbound) }
  · obtain ⟨hmem, hcandidate, hpin, hfirst⟩ := of_applyStrategy hstrategy
    have hunbound : ∀ accountId, IsBound runtime view input pool accountId →
        ¬ IsAdmissible runtime view input pool accountId := by
      intro accountId hbound hadmissible
      obtain ⟨sticky, hsome⟩ := exists_stickyMember hbound hadmissible
      rw [hsome] at hnone
      cases hnone
    exact
      { member := hmem
        eligible := (isCandidate_iff.1 hcandidate).1
        allowed := (isCandidate_iff.1 hcandidate).2
        bound := fun accountId hbound hadmissible =>
          absurd hadmissible (hunbound accountId hbound)
        pinned := hpin
        first := fun hfill _ other hother heligible hallowed =>
          hfirst hfill other hother (isCandidate_iff.2 ⟨heligible, hallowed⟩) }

/-- Something is selected exactly where there is an account to select. -/
theorem exists_pickedMember :
    (∃ picked, pickedMember runtime view input pool = some picked) ↔
      HasAdmissible runtime view input pool := by
  constructor
  · rintro ⟨⟨selected, next⟩, h⟩
    have hselection := isSelection_of_pickedMember h
    exact ⟨selected.accountId, ⟨selected, hselection.member, rfl, hselection.eligible,
      hselection.allowed⟩, hselection.pinned⟩
  · intro h
    obtain ⟨picked, hpicked⟩ := (exists_applyStrategy ((view.cursors.get? pool.id).getD 0)).2 h
    unfold pickedMember
    cases stickyMember runtime view input pool with
    | none => exact ⟨picked, hpicked⟩
    | some selected => exact ⟨(selected, none), rfl⟩

theorem selectLocked_of_some (hpool : requirePool input.policy input.poolId = .ok pool)
    {selected : CandidateAssessment} {next : Option ℕ}
    (h : pickedMember runtime view input pool = some (selected, next)) :
    ∃ result sourceRule decidedAt, (selectLocked runtime view input).1 = .ok result ∧
      result.route = bindRoute input pool selected sourceRule decidedAt := by
  unfold selectLocked
  rw [hpool]
  dsimp only
  unfold pickedMember stickyMember poolMembers at h
  rw [h]
  exact ⟨_, _, _, rfl, rfl⟩

theorem selectLocked_of_none (hpool : requirePool input.policy input.poolId = .ok pool)
    (h : pickedMember runtime view input pool = none) :
    (selectLocked runtime view input).1 = .error (.noEligibleAccount input.requestId) := by
  unfold selectLocked
  rw [hpool]
  dsimp only
  unfold pickedMember stickyMember poolMembers at h
  rw [h]

theorem select_of_none (hpool : requirePool input.policy input.poolId = .ok pool)
    (h : pickedMember runtime view input pool = none) :
    (select runtime view input).1 = .error (.noEligibleAccount input.requestId) := by
  have hlocked := selectLocked_of_none hpool h
  unfold select
  rw [hpool]
  revert hlocked
  rcases selectLocked runtime view input with ⟨outcome, update⟩
  rintro rfl
  rfl

/-- A selection binds a route to the member that is selected, where the expiry of its session has a
date. -/
theorem select_of_some (hpool : requirePool input.policy input.poolId = .ok pool)
    {selected : CandidateAssessment} {next : Option ℕ}
    (h : pickedMember runtime view input pool = some (selected, next))
    (hdate : RemembersDate runtime view input pool) :
    ∃ result sourceRule decidedAt, (select runtime view input).1 = .ok result ∧
      result.route = bindRoute input pool selected sourceRule decidedAt := by
  obtain ⟨result, sourceRule, decidedAt, hlocked, hroute⟩ := selectLocked_of_some hpool h
  refine ⟨result, sourceRule, decidedAt, ?_, hroute⟩
  unfold select
  rw [hpool]
  revert hlocked
  rcases selectLocked runtime view input with ⟨outcome, update⟩
  rintro rfl
  cases hsession : affinitySession runtime (parseAffinity pool.affinity) input.sessionKey with
  | none => simp only [hsession]
  | some sessionHash => simp only [hsession, if_pos (hdate sessionHash hsession)]

/-- Where it has none, the selection throws. -/
theorem select_of_not_remembersDate (hpool : requirePool input.policy input.poolId = .ok pool)
    {selected : CandidateAssessment} {next : Option ℕ}
    (h : pickedMember runtime view input pool = some (selected, next))
    (hdate : ¬ RemembersDate runtime view input pool) :
    (select runtime view input).1 = .error (.error "RangeError" "Invalid time value" none) := by
  obtain ⟨result, -, -, hlocked, -⟩ := selectLocked_of_some hpool h
  simp only [RemembersDate, not_forall] at hdate
  obtain ⟨sessionHash, hsession, hdate⟩ := hdate
  unfold select
  rw [hpool]
  revert hlocked
  rcases selectLocked runtime view input with ⟨outcome, update⟩
  rintro rfl
  simp only [hsession, if_neg hdate]

end Members

/-- A selection meets its specification exactly if there is nothing to select, or the expiry of the
session that it remembers has a date. -/
theorem meetsSpecification_iff {view : SelectorView} {input : SelectInput} {pool : PoolRecord}
    (hpool : requirePool input.policy input.poolId = .ok pool) :
    MeetsSpecification runtime view input pool ↔
      (HasAdmissible runtime view input pool → RemembersDate runtime view input pool) := by
  constructor
  · intro hmeets hadmissible
    by_contra hdate
    obtain ⟨⟨selected, next⟩, hpicked⟩ := exists_pickedMember.2 hadmissible
    obtain ⟨result, -, -, -, hok, -⟩ := hmeets.selects hadmissible
    rw [select_of_not_remembersDate hpool hpicked hdate] at hok
    cases hok
  · intro hdate
    refine ⟨⟨fun hrefused hadmissible => ?_, fun hnone => ?_⟩, fun hadmissible => ?_⟩
    · obtain ⟨⟨selected, next⟩, hpicked⟩ := exists_pickedMember.2 hadmissible
      obtain ⟨result, -, -, hok, -⟩ := select_of_some hpool hpicked (hdate hadmissible)
      rw [hok] at hrefused
      cases hrefused
    · refine select_of_none hpool ?_
      cases hpicked : pickedMember runtime view input pool with
      | none => rfl
      | some picked => exact absurd (exists_pickedMember.1 ⟨picked, hpicked⟩) hnone
    · obtain ⟨⟨selected, next⟩, hpicked⟩ := exists_pickedMember.2 hadmissible
      obtain ⟨result, sourceRule, decidedAt, hok, hroute⟩ :=
        select_of_some hpool hpicked (hdate hadmissible)
      exact ⟨result, selected, sourceRule, decidedAt, hok, isSelection_of_pickedMember hpicked,
        hroute⟩

/-! ## A session that is to last -/

/-- A pool of one account that keeps a session for some seconds. -/
def lastingPool (ttlSeconds : ℚ) : PoolRecord where
  id := "p"
  name := "p"
  providerId := "codex"
  strategy := .fillFirst
  affinity := .obj [("session", .obj [("enabled", .bool true), ("ttlSeconds", .num ttlSeconds)])]
  retryBudget := 1
  memberships := [⟨"a", some 0⟩]

def lastingInput (ttlSeconds : ℚ) : SelectInput where
  requestId := "req"
  poolId := "p"
  policy :=
    { revision := 1
      hash := "hash"
      providers := []
      accounts := []
      pools := [lastingPool ttlSeconds] }
  required := []
  capabilities := ⟨true, true, false, false, false, false, false, .unsupported⟩
  modelId := "gpt-5"
  adapterId := "codex"
  credentialSnapshots := [("cred-a", ⟨true, 1, none⟩)]
  sessionKey := some "session"
  pinnedAccountId := none
  excludeAccountIds := []
  reasoningEvidence := none
  resolvedReasoning := none

/-- The account of the pool is ready. -/
def lastingView : SelectorView where
  store := ⟨[⟨"a", "acct-a", "codex", "cred-a", 1, .ready, "healthy", none, none⟩],
    [⟨"codex", "Codex", none, true⟩], []⟩
  sessions := []
  cursors := .empty
  now := 0

theorem meetsSpecification_minute :
    MeetsSpecification isoRuntime lastingView (lastingInput 60) (lastingPool 60) :=
  (meetsSpecification_iff isoRuntime rfl).2 fun _ _ _ => by decide

/-- A session of nine million million seconds: the account is admissible, and the selection
throws. -/
theorem not_meetsSpecification_lasting :
    ¬ ∀ view input pool, requirePool input.policy input.poolId = .ok pool →
      MeetsSpecification isoRuntime view input pool := by
  intro h
  have hadmissible : HasAdmissible isoRuntime lastingView (lastingInput 9000000000000)
      (lastingPool 9000000000000) :=
    ⟨"a", ⟨_, List.mem_singleton_self _, rfl, rfl, List.not_mem_nil⟩, nofun⟩
  obtain ⟨result, -, -, -, hok, -⟩ :=
    (h lastingView (lastingInput 9000000000000) (lastingPool 9000000000000) rfl).selects hadmissible
  cases hok

end RlyGateway
