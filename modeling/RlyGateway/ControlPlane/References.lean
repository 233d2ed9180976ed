import Mathlib.Data.List.Induction
import RlyGateway.ControlPlane.Changes

/-!
# References between the tables

The members of a pool belong to its provider and are pinned in order, and a profile names a pool of
the provider it names. Every committed mutation keeps this, and a mutation that fails leaves the
tables as they were but for the event of its rejection.
-/

namespace RlyGateway

open EStateM

/-! ## Tables that carry a column -/

section Carries

variable {ρ τ : Type} {column : ρ → τ} {rows : OrderedMap String ρ} {id : String} {row : ρ}

/-- Every row is still there, with the same value in a column. -/
def Carries (column : ρ → τ) (rows rows' : OrderedMap String ρ) : Prop :=
  ∀ id row, rows.get? id = some row → ∃ row', rows'.get? id = some row' ∧ column row' = column row

theorem Carries.refl (column : ρ → τ) (rows : OrderedMap String ρ) : Carries column rows rows :=
  fun _ row hrow => ⟨row, hrow, rfl⟩

/-- A write carries a column where it writes a new row or the old value of the column. -/
theorem carries_set (h : ∀ old, rows.get? id = some old → column row = column old) :
    Carries column rows (rows.set id row) := by
  intro other old hold
  by_cases hother : id = other
  · subst hother
    exact ⟨row, OrderedMap.get?_set_self rows id row, h old hold⟩
  · exact ⟨old, by rw [OrderedMap.get?_set_ne rows hother, hold], rfl⟩

theorem carries_set_new (h : rows.get? id = none) : Carries column rows (rows.set id row) := by
  refine carries_set fun old hold => ?_
  rw [h] at hold
  cases hold

theorem carries_set_current {current : ρ} (h : rows.get? id = some current)
    (hcolumn : column row = column current) : Carries column rows (rows.set id row) := by
  refine carries_set fun old hold => ?_
  rw [h] at hold
  cases hold
  exact hcolumn

/-- A row written under its own id leaves every row under its own id. -/
theorem keyed_set (key : ρ → String) (h : ∀ id row, rows.get? id = some row → key row = id)
    (hrow : key row = id) : ∀ other written, (rows.set id row).get? other = some written →
      key written = other := by
  intro other written hwritten
  rw [OrderedMap.get?_set] at hwritten
  split at hwritten
  · rename_i heq
    cases hwritten
    exact hrow.trans heq
  · exact h other written hwritten

end Carries

/-! ## The invariant -/

/-- The references between memberships, pools, accounts and profiles. -/
structure Database.Referential (db : Database) : Prop where
  /-- A member belongs to the provider of its pool. -/
  members : ∀ row ∈ db.memberships, ∃ pool account, db.pools.get? row.poolId = some pool ∧
    db.accounts.get? row.accountId = some account ∧ account.providerId = pool.providerId
  /-- No account is twice a member of a pool. -/
  nodup : ∀ poolId, ((db.membersOf poolId).map (·.accountId)).Nodup
  /-- The members of a pool are pinned from zero on. -/
  pinned : ∀ poolId, (db.membersOf poolId).map (·.pinOrder) =
    (List.range (db.membersOf poolId).length).map fun i : ℕ => some (i : ℤ)
  /-- A profile that names a provider and a pool names a pool of that provider. -/
  profiles : ∀ id profile, db.profiles.get? id = some profile →
    db.RefersTo profile.providerId profile.poolId

theorem referential_empty : Database.empty.Referential where
  members := fun _ hmem => absurd hmem List.not_mem_nil
  nodup := fun _ => List.nodup_nil
  pinned := fun _ => rfl
  profiles := fun _ _ hprofile => nomatch hprofile

theorem keyed_empty : Database.empty.Keyed where
  providers := fun _ _ h => nomatch h
  accounts := fun _ _ h => nomatch h
  pools := fun _ _ h => nomatch h
  profiles := fun _ _ h => nomatch h

section Steps

variable {db db' : Database} {resource : ResourceType} {id : String}

theorem Database.RefersTo.mono {providerId poolId : Option String}
    (h : db.RefersTo providerId poolId) (hpools : Carries (·.providerId) db.pools db'.pools) :
    db'.RefersTo providerId poolId := by
  intro provider hprovider id hid
  obtain ⟨pool, hpool, hsame⟩ := h provider hprovider id hid
  obtain ⟨pool', hpool', hcarried⟩ := hpools id pool hpool
  exact ⟨pool', hpool', hcarried.trans hsame⟩

/-- What carries the providers of pools and accounts keeps the references. -/
theorem Database.Referential.mono (h : db.Referential)
    (hpools : Carries (·.providerId) db.pools db'.pools)
    (haccounts : Carries (·.providerId) db.accounts db'.accounts)
    (hmemberships : db'.memberships = db.memberships) (hprofiles : db'.profiles = db.profiles) :
    db'.Referential where
  members := by
    intro row hmem
    rw [hmemberships] at hmem
    obtain ⟨pool, account, hpool, haccount, hsame⟩ := h.members row hmem
    obtain ⟨pool', hpool', hcarriedPool⟩ := hpools _ pool hpool
    obtain ⟨account', haccount', hcarriedAccount⟩ := haccounts _ account haccount
    exact ⟨pool', account', hpool', haccount',
      hcarriedAccount.trans (hsame.trans hcarriedPool.symm)⟩
  nodup := by
    intro poolId
    rw [Database.membersOf, hmemberships]
    exact h.nodup poolId
  pinned := by
    intro poolId
    rw [Database.membersOf, hmemberships]
    exact h.pinned poolId
  profiles := by
    intro id profile hprofile
    rw [hprofiles] at hprofile
    exact (h.profiles id profile hprofile).mono hpools

/-- The members of a pool after its memberships were replaced. -/
theorem membersOf_placed_self (accountIds : List String) :
    (db.placed id (some accountIds)).filter (fun row => row.poolId = id) =
      membershipsFrom id 0 accountIds := by
  have hdeleted : (db.memberships.filter fun row => row.poolId ≠ id).filter
      (fun row => row.poolId = id) = [] := by
    refine List.filter_eq_nil_iff.2 fun row hmem hrow => ?_
    have hne := (List.mem_filter.1 hmem).2
    simp only [decide_eq_true_eq] at hne hrow
    exact hne hrow
  rw [Database.placed, List.filter_append, hdeleted, List.nil_append]
  refine List.filter_eq_self.2 fun row hmem => ?_
  rw [decide_eq_true_eq]
  exact poolId_of_mem_membershipsFrom hmem

/-- The members of another pool are left alone. -/
theorem membersOf_placed_of_ne {other : String} (hother : other ≠ id) (accountIds : List String) :
    (db.placed id (some accountIds)).filter (fun row => row.poolId = other) =
      db.membersOf other := by
  have hinserted : (membershipsFrom id 0 accountIds).filter (fun row => row.poolId = other) = [] := by
    refine List.filter_eq_nil_iff.2 fun row hmem hrow => ?_
    rw [decide_eq_true_eq, poolId_of_mem_membershipsFrom hmem] at hrow
    exact hother hrow.symm
  rw [Database.placed, List.filter_append, hinserted, List.append_nil, List.filter_filter,
    Database.membersOf]
  refine List.filter_congr fun row _ => ?_
  by_cases hrow : row.poolId = other
  · simp [hrow, hother]
  · simp [hrow]

/-- Placing accounts of its provider in a pool keeps the references. -/
theorem Database.Referential.placed (h : db.Referential) {pool : PoolRow}
    (hpool : db.pools.get? id = some pool) {accountIds : List String}
    (hplaceable : Placeable db pool.providerId accountIds) :
    { db with memberships := db.placed id (some accountIds) }.Referential where
  members := by
    intro row hmem
    rcases List.mem_append.1 hmem with hkept | hplaced
    · exact h.members row (List.mem_filter.1 hkept).1
    · have hrow : row.accountId ∈ accountIds := by
        rw [← @map_accountId_membershipsFrom id 0 accountIds]
        exact List.mem_map_of_mem hplaced
      obtain ⟨account, haccount, hsame⟩ := hplaceable.accounts row.accountId hrow
      refine ⟨pool, account, ?_, haccount, hsame⟩
      rw [poolId_of_mem_membershipsFrom hplaced]
      exact hpool
  nodup := by
    intro other
    by_cases hother : other = id
    · rw [Database.membersOf, hother, membersOf_placed_self, map_accountId_membershipsFrom]
      exact hplaceable.nodup
    · rw [Database.membersOf, membersOf_placed_of_ne hother]
      exact h.nodup other
  pinned := by
    intro other
    by_cases hother : other = id
    · have hlength : (membershipsFrom id 0 accountIds).length = accountIds.length := by
        rw [← List.length_map (f := (·.accountId)), map_accountId_membershipsFrom]
      rw [Database.membersOf, hother, membersOf_placed_self, map_pinOrder_membershipsFrom, hlength,
        List.range_eq_range']
    · rw [Database.membersOf, membersOf_placed_of_ne hother]
      exact h.pinned other
  profiles := h.profiles

/-- So does writing a profile that refers to a pool of its provider. -/
theorem Database.Referential.setProfile (h : db.Referential) {profile : ProfileRow}
    (hrefers : db.RefersTo profile.providerId profile.poolId) :
    { db with profiles := db.profiles.set id profile }.Referential where
  members := h.members
  nodup := h.nodup
  pinned := h.pinned
  profiles := by
    intro other written hwritten
    rw [OrderedMap.get?_set] at hwritten
    split at hwritten
    · cases hwritten
      exact hrefers
    · exact h.profiles other written hwritten

theorem Change.referential (hchange : Change db resource id db') (h : db.Referential) :
    db'.Referential := by
  cases hchange with
  | createProvider record hnew hversion =>
      exact h.mono (Carries.refl _ _) (Carries.refl _ _) rfl rfl
  | updateProvider id current next hcurrent hid hversion =>
      exact h.mono (Carries.refl _ _) (Carries.refl _ _) rfl rfl
  | createAccount record health hnew hversion =>
      exact h.mono (Carries.refl _ _) (carries_set_new hnew) rfl rfl
  | updateAccount id current next health terms hcurrent hid hprovider hversion =>
      exact h.mono (Carries.refl _ _) (carries_set_current hcurrent hprovider) rfl rfl
  | createPool record accountIds hnew hversion hplaceable =>
      have hwritten : { db with pools := db.pools.set record.id record }.Referential :=
        h.mono (carries_set_new hnew) (Carries.refl _ _) rfl rfl
      exact hwritten.placed (OrderedMap.get?_set_self _ _ _)
        ⟨hplaceable.nodup, hplaceable.accounts⟩
  | updatePool id current next accountIds hcurrent hid hprovider hversion hplaceable =>
      have hwritten : { db with pools := db.pools.set id next }.Referential :=
        h.mono (carries_set_current hcurrent hprovider) (Carries.refl _ _) rfl rfl
      cases accountIds with
      | none => exact hwritten
      | some accountIds =>
          have hids := hplaceable accountIds rfl
          refine hwritten.placed (OrderedMap.get?_set_self _ _ _) ⟨hids.nodup, ?_⟩
          rw [hprovider]
          exact hids.accounts
  | createProfile record hnew hversion hrefers hroles => exact h.setProfile hrefers
  | updateProfile id current next hcurrent hid hversion hrefers hroles => exact h.setProfile hrefers

theorem Change.keyed (hchange : Change db resource id db') (h : db.Keyed) : db'.Keyed := by
  cases hchange with
  | createProvider record hnew hversion =>
      exact ⟨keyed_set _ h.providers rfl, h.accounts, h.pools, h.profiles⟩
  | updateProvider id current next hcurrent hid hversion =>
      exact ⟨keyed_set _ h.providers hid, h.accounts, h.pools, h.profiles⟩
  | createAccount record health hnew hversion =>
      exact ⟨h.providers, keyed_set _ h.accounts rfl, h.pools, h.profiles⟩
  | updateAccount id current next health terms hcurrent hid hprovider hversion =>
      exact ⟨h.providers, keyed_set _ h.accounts hid, h.pools, h.profiles⟩
  | createPool record accountIds hnew hversion hplaceable =>
      exact ⟨h.providers, h.accounts, keyed_set _ h.pools rfl, h.profiles⟩
  | updatePool id current next accountIds hcurrent hid hprovider hversion hplaceable =>
      exact ⟨h.providers, h.accounts, keyed_set _ h.pools hid, h.profiles⟩
  | createProfile record hnew hversion hrefers hroles =>
      exact ⟨h.providers, h.accounts, h.pools, keyed_set _ h.profiles rfl⟩
  | updateProfile id current next hcurrent hid hversion hrefers hroles =>
      exact ⟨h.providers, h.accounts, h.pools, keyed_set _ h.profiles hid⟩

end Steps

/-! ## Rejections -/

section Rejections

variable {context : CallContext} {db db' : Database} {error : StoreError}

/-- The tables as they were, but for one more event of a rejected mutation. -/
def Rejected (auditId : String) (db db' : Database) : Prop :=
  ∃ event, event.id = auditId ∧ event.result = .rejected ∧
    db' = { db with auditEvents := db.auditEvents ++ [event] }

/-- A mutation that fails is taken back, whatever its work had written. -/
theorem mutate_rejected {α : Type} [StoredRecord α] {actor : ManagementActor} {action : String}
    {resource : ResourceType} {expectedId : Option String} {expectedVersion : Option ℕ}
    {publishPolicy : Bool} {work : Transaction α}
    (hnew : ∀ event ∈ db.auditEvents, event.id ≠ context.rejectionId)
    (h : ControlPlaneStore.mutate context actor action resource expectedId expectedVersion
      publishPolicy work db = .error error db') :
    Rejected context.rejectionId db db' := by
  rw [ControlPlaneStore.mutate] at h
  have hreport := reported_eq_error (fun error => ⟨_, insertAuditEvent_of_new (by exact hnew)⟩) h
  exact ⟨_, rfl, rfl, insertAuditEvent_eq_ok hreport⟩

theorem StoreRequest.rejected {request : StoreRequest}
    (hnew : ∀ event ∈ db.auditEvents, event.id ≠ context.rejectionId)
    (h : request.transaction context db = .error error db') :
    Rejected context.rejectionId db db' := by
  obtain ⟨actor, call⟩ := request
  cases call with
  | createProvider => exact mutate_rejected hnew (map_eq_error.1 h)
  | updateProvider => exact mutate_rejected hnew (map_eq_error.1 h)
  | bindCredential => exact mutate_rejected hnew (map_eq_error.1 h)
  | createAccount => exact mutate_rejected hnew (map_eq_error.1 h)
  | updateAccount => exact mutate_rejected hnew (map_eq_error.1 h)
  | acknowledgeTerms => exact mutate_rejected hnew (map_eq_error.1 h)
  | createPool => exact mutate_rejected hnew (map_eq_error.1 h)
  | updatePool => exact mutate_rejected hnew (map_eq_error.1 h)
  | createProfile => exact mutate_rejected hnew (map_eq_error.1 h)
  | updateProfile => exact mutate_rejected hnew (map_eq_error.1 h)
  | recordRouteOutcome => exact mutate_rejected hnew (map_eq_error.1 h)

end Rejections

/-! ## Runs -/

variable {platform : StorePlatform} {state : StoreState}

/-- What holds of every state: the rows stand under their ids, the references hold, and the events
have identifiers that the calls so far have drawn. -/
structure StoreState.Sound (platform : StorePlatform) (state : StoreState) : Prop where
  keyed : state.database.Keyed
  referential : state.database.Referential
  drawn : ∀ event ∈ state.database.auditEvents, ∃ k < 3 * state.served, event.id = platform.uuid k

/-- No event has an identifier that is yet to be drawn. -/
theorem StoreState.Sound.new (h : state.Sound platform) {k : ℕ} (hk : 3 * state.served ≤ k) :
    ∀ event ∈ state.database.auditEvents, event.id ≠ platform.uuid k := by
  intro event hmem heq
  obtain ⟨j, hj, hid⟩ := h.drawn event hmem
  have hsame : j = k := platform.uuid_injective (hid.symm.trans heq)
  omega

/-- One more event, with an identifier of this call, is an event drawn by then. -/
theorem StoreState.Sound.drawn_concat (h : state.Sound platform) {event : AuditEvent} {k : ℕ}
    (hk : k < 3 * (state.served + 1)) (hid : event.id = platform.uuid k) :
    ∀ other ∈ state.database.auditEvents ++ [event],
      ∃ j < 3 * (state.served + 1), other.id = platform.uuid j := by
  intro other hmem
  rcases List.mem_append.1 hmem with hold | hlast
  · obtain ⟨j, hj, hid'⟩ := h.drawn other hold
    exact ⟨j, by omega, hid'⟩
  · rw [List.mem_singleton.1 hlast]
    exact ⟨k, hk, hid⟩

theorem Change.auditEvents {db db' : Database} {resource : ResourceType} {id : String}
    (h : Change db resource id db') : db'.auditEvents = db.auditEvents := by
  cases h <;> rfl

/-- A request is committed, or it is rejected. -/
theorem StoreState.Sound.served (h : state.Sound platform) (request : StoreRequest) :
    Committed (platform.context state.served) request.call state.database
        (platform.serve state request).database ∨
      Rejected (platform.uuid (3 * state.served + 2)) state.database
        (platform.serve state request).database := by
  rw [StorePlatform.serve]
  cases houtcome : platform.outcome state request with
  | ok reply db' => exact Or.inl (StoreRequest.committed h.keyed houtcome)
  | error error db' => exact Or.inr (StoreRequest.rejected (h.new (by omega)) houtcome)

theorem StoreState.Sound.serve (h : state.Sound platform) (request : StoreRequest) :
    (platform.serve state request).Sound platform := by
  rcases h.served request with ⟨id, changed, revisions, event, hchange, -, -, -, hid, -, hdb⟩ |
    ⟨event, hid, -, hdb⟩
  · have hkeyed := hchange.keyed h.keyed
    have hreferential := hchange.referential h.referential
    refine ⟨?_, ?_, ?_⟩
    · rw [hdb]
      exact ⟨hkeyed.providers, hkeyed.accounts, hkeyed.pools, hkeyed.profiles⟩
    · rw [hdb]
      exact ⟨hreferential.members, hreferential.nodup, hreferential.pinned, hreferential.profiles⟩
    · rw [hdb]
      change ∀ other ∈ changed.auditEvents ++ [event], _
      rw [hchange.auditEvents]
      exact h.drawn_concat (by omega) hid
  · refine ⟨?_, ?_, ?_⟩
    · rw [hdb]
      exact ⟨h.keyed.providers, h.keyed.accounts, h.keyed.pools, h.keyed.profiles⟩
    · have hreferential := h.referential
      rw [hdb]
      exact ⟨hreferential.members, hreferential.nodup, hreferential.pinned, hreferential.profiles⟩
    · rw [hdb]
      exact h.drawn_concat (by omega) hid

theorem StorePlatform.after_concat (platform : StorePlatform) (requests : List StoreRequest)
    (request : StoreRequest) :
    platform.after (requests ++ [request]) = platform.serve (platform.after requests) request :=
  List.foldl_concat _ _ _ _

theorem sound_after (platform : StorePlatform) (requests : List StoreRequest) :
    (platform.after requests).Sound platform := by
  induction requests using List.reverseRecOn with
  | nil => exact ⟨keyed_empty, referential_empty, fun _ hmem => absurd hmem List.not_mem_nil⟩
  | append_singleton requests request ih =>
      rw [platform.after_concat]
      exact ih.serve request

/-- In every state that requests lead to, the references hold, and a request that fails leaves the
tables as they were but for one event of its rejection. -/
theorem referential_and_rejected (platform : StorePlatform) (requests : List StoreRequest) :
    (platform.after requests).database.Referential ∧
      ∀ request error db', platform.outcome (platform.after requests) request = .error error db' →
        ∃ event, event.result = .rejected ∧
          db' = { (platform.after requests).database with
            auditEvents := (platform.after requests).database.auditEvents ++ [event] } := by
  have hsound := sound_after platform requests
  refine ⟨hsound.referential, ?_⟩
  intro request error db' herror
  obtain ⟨event, -, hresult, hdb⟩ := StoreRequest.rejected (hsound.new (by omega)) herror
  exact ⟨event, hresult, hdb⟩

end RlyGateway
