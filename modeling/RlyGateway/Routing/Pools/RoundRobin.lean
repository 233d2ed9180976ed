import RlyGateway.Library.RoundRobin
import RlyGateway.Routing.Pools.SessionAffinity

/-!
# Round-robin pools over runs

The cursor of a round-robin pool is a position among the accounts a call finds available, in pin
order. Calls for the pool take their turns there, whatever calls for other pools come in between. An
account that is available at every one of as many calls as two rounds of the pool need is selected
by one of them, if the available accounts never get fewer and those ahead of it never do; accounts
that come and go ahead of it or behind it can keep it from its turn for ever.
-/

namespace RlyGateway

open RoundRobin

variable (runtime : NodeRuntime)

/-! ## Calls for a pool -/

/-- The accounts a call finds eligible and does not exclude, in pin order. -/
def availableAccounts (pool : PoolRecord) (selection : Selection) : List String :=
  (eligibleCandidates (assessPool runtime selection.store pool selection.input selection.now)
    selection.input.excludeAccountIds).map (·.accountId)

/-- The calls for a pool. -/
def callsFor (poolId : String) (selections : List Selection) : List Selection :=
  selections.filter fun selection => selection.input.poolId = poolId

/-- The accounts that the calls for a pool return routes for, in a run of calls for any pools. -/
def selectedFrom (poolId : String) : SelectorState → List Selection → List String
  | _, [] => []
  | state, selection :: selections =>
      (if selection.input.poolId = poolId then (selectedAccount runtime state selection).toList
        else []) ++ selectedFrom poolId (selectNext runtime state selection) selections

/-- A call for a pool to which session affinity does not apply. -/
structure PlainCall (pool : PoolRecord) (selection : Selection) : Prop where
  found : requirePool selection.input.policy selection.input.poolId = .ok pool
  unbound : affinitySession runtime (parseAffinity pool.affinity) selection.input.sessionKey = none

/-- Calls that make up two rounds of a round-robin pool without quota order, all of which find an
account of the pool available. -/
structure Window (pool : PoolRecord) (accountId : String) (selections : List Selection) : Prop where
  strategy : pool.strategy = .roundRobin
  quotaAware : (parseAffinity pool.affinity).quotaAware = false
  member : accountId ∈ pool.memberships.map (·.accountId)
  calls : (callsFor pool.id selections).length = 2 * pool.memberships.length
  plain : ∀ selection ∈ callsFor pool.id selections, PlainCall runtime pool selection
  available : ∀ selection ∈ callsFor pool.id selections,
    accountId ∈ availableAccounts runtime pool selection

/-- Whatever accounts the calls find available, one that they all do is selected. -/
def NeverStarves : Prop :=
  ∀ pool accountId state selections, Window runtime pool accountId selections →
    accountId ∈ selectedFrom runtime pool.id state selections

/-! ## The turns of a pool -/

section Turns

variable {runtime} {pool : PoolRecord} {state : SelectorState} {selection : Selection}

/-- A plain call selects the account whose turn it is, and moves the cursor on. -/
theorem selectLocked_of_plain (hstrategy : pool.strategy = .roundRobin)
    (hquota : (parseAffinity pool.affinity).quotaAware = false)
    (h : PlainCall runtime pool selection) (state : SelectorState) :
    let next := turn (availableAccounts runtime pool selection)
      ((state.cursors.get? pool.id).getD 0)
    selectedAccount runtime state selection = next.map Prod.fst ∧
      (selectLocked runtime (state.view selection) selection.input).2.cursor =
        next.map Prod.snd := by
  have hpicked : applyStrategy
      (assessPool runtime (state.view selection).store pool selection.input (state.view selection).now)
      pool (parseAffinity pool.affinity) selection.input.pinnedAccountId
      selection.input.excludeAccountIds (((state.view selection).cursors.get? pool.id).getD 0) =
      (turn (eligibleCandidates (assessPool runtime selection.store pool selection.input
        selection.now) selection.input.excludeAccountIds)
        ((state.cursors.get? pool.id).getD 0)).map fun picked => (picked.1, some picked.2) := by
    unfold applyStrategy
    rw [hstrategy, hquota]
    rfl
  unfold selectedAccount selectLocked availableAccounts
  rw [h.found, turn_map]
  dsimp only
  rw [h.unbound, Option.elim_none, Option.map_none, Option.none_or, hpicked]
  rcases turn (eligibleCandidates (assessPool runtime selection.store pool selection.input
      selection.now) selection.input.excludeAccountIds) ((state.cursors.get? pool.id).getD 0) with
    _ | ⟨selected, next⟩
  · exact ⟨rfl, rfl⟩
  · exact ⟨rfl, rfl⟩

/-- A call for another pool leaves the cursor of a pool. -/
theorem cursor_selectNext_of_ne {poolId : String} (h : selection.input.poolId ≠ poolId) :
    (selectNext runtime state selection).cursors.get? poolId = state.cursors.get? poolId := by
  rw [selectNext]
  cases (selectLocked runtime (state.view selection) selection.input).2.cursor with
  | none => rfl
  | some next => exact OrderedMap.get?_set_ne _ h _

/-- The calls for a pool take its turns, one after the other. -/
theorem selectedFrom_eq_turns (hstrategy : pool.strategy = .roundRobin)
    (hquota : (parseAffinity pool.affinity).quotaAware = false) {selections : List Selection}
    (h : ∀ selection ∈ callsFor pool.id selections, PlainCall runtime pool selection) :
    selectedFrom runtime pool.id state selections =
      turns ((state.cursors.get? pool.id).getD 0)
        ((callsFor pool.id selections).map (availableAccounts runtime pool)) := by
  induction selections generalizing state with
  | nil => rfl
  | cons selection selections ih =>
      by_cases hid : selection.input.poolId = pool.id
      · have hcalls : callsFor pool.id (selection :: selections) =
            selection :: callsFor pool.id selections :=
          List.filter_cons_of_pos (decide_eq_true hid)
        rw [hcalls] at h ⊢
        have hrest := @ih (selectNext runtime state selection) fun later hmem =>
          h later (List.mem_cons_of_mem _ hmem)
        obtain ⟨hselected, hcursor⟩ := selectLocked_of_plain hstrategy hquota
          (h selection List.mem_cons_self) state
        rw [selectedFrom, if_pos hid, hselected, hrest, List.map_cons, turns, selectNext, hcursor,
          hid]
        rcases turn (availableAccounts runtime pool selection)
            ((state.cursors.get? pool.id).getD 0) with _ | ⟨accountId, next⟩
        · rfl
        · simp only [Option.map_some, Option.elim_some, OrderedMap.get?_set_self, Option.getD_some]
          rfl
      · have hcalls : callsFor pool.id (selection :: selections) = callsFor pool.id selections :=
          List.filter_cons_of_neg (by simpa using hid)
        rw [hcalls] at h ⊢
        rw [selectedFrom, if_neg hid, ih h, cursor_selectNext_of_ne hid]
        rfl

end Turns

/-- An account has its turn in a window in which neither the available accounts nor those ahead of
it get fewer. -/
theorem selected_of_holdsPlace {pool : PoolRecord} {accountId : String} {selections : List Selection}
    (h : Window runtime pool accountId selections)
    (hkeeps : ((callsFor pool.id selections).map (availableAccounts runtime pool)).Pairwise
      (HoldsPlace accountId)) (state : SelectorState) :
    accountId ∈ selectedFrom runtime pool.id state selections := by
  have hpos : 0 < pool.memberships.length := by
    obtain ⟨membership, hmem, -⟩ := List.mem_map.1 h.member
    exact List.length_pos_of_mem hmem
  have hcalls := h.calls
  rw [selectedFrom_eq_turns h.strategy h.quotaAware h.plain]
  refine mem_turns (n := pool.memberships.length) ?_ ?_ ?_ hkeeps
  · rw [List.length_map]
    omega
  · rw [← List.length_pos_iff, List.length_map]
    omega
  · intro available hmem
    obtain ⟨selection, hcall, rfl⟩ := List.mem_map.1 hmem
    refine ⟨h.available selection hcall, ?_⟩
    unfold availableAccounts eligibleCandidates
    rw [List.length_map, List.length_insertionSort]
    exact (List.length_filter_le _ _).trans (List.length_map _).le

/-! ## A pool of four accounts -/

/-- A round-robin pool of ready accounts, by pin order. -/
def rotatingPool (accountIds : List String) : PoolRecord where
  id := "pool"
  name := "pool"
  providerId := "codex"
  strategy := .roundRobin
  affinity := .obj []
  retryBudget := 1
  memberships := accountIds.zipIdx.map fun (accountId, order) => ⟨accountId, some order⟩

/-- A call for the pool without a session, that excludes some accounts. -/
def rotatingCall (accountIds exclude : List String) : Selection where
  store := ⟨accountIds.map stickyAccount, [⟨"codex", "Codex", none, true⟩], []⟩
  now := 0
  input :=
    { (sessionCall "pool").input with
      policy :=
        { revision := 1
          hash := "hash"
          providers := []
          accounts := []
          pools := [rotatingPool accountIds] }
      credentialSnapshots := accountIds.map fun accountId =>
        ("cred-" ++ accountId, ⟨true, 1, none⟩)
      sessionKey := none
      excludeAccountIds := exclude }

/-- A call that excludes one of the four accounts. -/
def callWithout (accountId : String) : Selection :=
  rotatingCall ["a", "b", "c", "d"] [accountId]

theorem window_of_callWithout (accountIds : List String)
    (h : accountIds.length = 8 ∧ ∀ accountId ∈ accountIds, accountId = "a" ∨ accountId = "b" ∨
      accountId = "d") :
    Window isoRuntime (rotatingPool ["a", "b", "c", "d"]) "c" (accountIds.map callWithout) := by
  have hcalls : callsFor "pool" (accountIds.map callWithout) = accountIds.map callWithout :=
    List.filter_eq_self.2 fun selection hmem => by
      obtain ⟨accountId, -, rfl⟩ := List.mem_map.1 hmem
      rfl
  have hmem : ∀ selection ∈ callsFor "pool" (accountIds.map callWithout),
      selection = callWithout "a" ∨ selection = callWithout "b" ∨ selection = callWithout "d" := by
    intro selection hmem
    rw [hcalls] at hmem
    obtain ⟨accountId, hexcluded, rfl⟩ := List.mem_map.1 hmem
    rcases h.2 accountId hexcluded with rfl | rfl | rfl
    · exact Or.inl rfl
    · exact Or.inr (Or.inl rfl)
    · exact Or.inr (Or.inr rfl)
  refine ⟨rfl, by decide, by decide, ?_, fun selection hcall => ?_, fun selection hcall => ?_⟩
  · exact (congrArg List.length hcalls).trans (by rw [List.length_map, h.1]; rfl)
  · rcases hmem selection hcall with rfl | rfl | rfl
    · exact ⟨by decide, rfl⟩
    · exact ⟨by decide, rfl⟩
    · exact ⟨by decide, rfl⟩
  · rcases hmem selection hcall with rfl | rfl | rfl
    · decide
    · decide
    · decide

theorem selected_callWithout :
    "c" ∈ selectedFrom isoRuntime "pool" ⟨[], .empty⟩ ((List.replicate 8 "d").map callWithout) := by
  refine selected_of_holdsPlace isoRuntime (window_of_callWithout _ (by decide)) ?_ _
  decide

/-- The third account moves forward, past the cursor, whenever its turn has come. -/
theorem not_neverStarves : ¬ NeverStarves isoRuntime := by
  intro h
  have hselected := h _ _ ⟨[], .empty⟩ _
    (window_of_callWithout ["d", "d", "b", "d", "d", "b", "d", "d"] (by decide))
  revert hselected
  decide

end RlyGateway
