import RlyGateway.ControlPlane.References
import RlyGateway.Library.Versions

/-!
# Versions and policy revisions

A committed mutation writes the next version of the row it was made for, so an update that was made
for a passed version fails, whoever served its client in between. A mutation that publishes appends
the next policy revision, of what the tables list after it.
-/

namespace RlyGateway

open EStateM

/-! ## Advancing tables -/

/-- A pool with its memberships, as they were inserted. -/
def Database.pool? (db : Database) (id : String) : Option (PoolRow × List MembershipRow) :=
  (db.pools.get? id).map fun pool => (pool, db.membersOf id)

/-- No row is lost, and a row that differs has a later version; a pool differs with its
memberships. -/
structure Database.AdvancesTo (db db' : Database) : Prop where
  providers : Advances (·.version) db.providers.get? db'.providers.get?
  accounts : Advances (·.version) db.accounts.get? db'.accounts.get?
  pools : Advances (·.1.version) db.pool? db'.pool?
  profiles : Advances (·.version) db.profiles.get? db'.profiles.get?

theorem Database.AdvancesTo.refl (db : Database) : db.AdvancesTo db :=
  ⟨Advances.refl _, Advances.refl _, Advances.refl _, Advances.refl _⟩

theorem Database.AdvancesTo.trans {db db' db'' : Database} (h : db.AdvancesTo db')
    (h' : db'.AdvancesTo db'') : db.AdvancesTo db'' :=
  ⟨h.providers.trans h'.providers, h.accounts.trans h'.accounts, h.pools.trans h'.pools,
    h.profiles.trans h'.profiles⟩

section Tables

variable {ρ : Type} {version : ρ → ℕ} {rows : OrderedMap String ρ} {id : String} {row current : ρ}

theorem advances_set_new (hnew : rows.get? id = none) :
    Advances version rows.get? (rows.set id row).get? := by
  refine Advances.of_write (fun other hother => OrderedMap.get?_set_ne rows hother.symm row)
    (OrderedMap.get?_set_self rows id row) fun old hold => ?_
  rw [hnew] at hold
  cases hold

theorem advances_set_next (hcurrent : rows.get? id = some current)
    (hversion : version row = version current + 1) :
    Advances version rows.get? (rows.set id row).get? := by
  refine Advances.of_write (fun other hother => OrderedMap.get?_set_ne rows hother.symm row)
    (OrderedMap.get?_set_self rows id row) fun old hold => ?_
  rw [hcurrent] at hold
  cases hold
  omega

theorem version?_set (row : ρ) :
    ((rows.set id row).get? id).map version = some (version row) := by
  rw [OrderedMap.get?_set_self, Option.map_some]

end Tables

section Pools

variable {db : Database} {id : String} {row : PoolRow}

/-- Writing a pool and its memberships leaves the other pools alone. -/
theorem pool?_writePool_of_ne {other : String} (hother : other ≠ id)
    (accountIds : Option (List String)) :
    (db.writePool id row accountIds).pool? other = db.pool? other := by
  have hmembers : (db.writePool id row accountIds).membersOf other = db.membersOf other := by
    cases accountIds with
    | none => rfl
    | some accountIds => exact membersOf_placed_of_ne hother accountIds
  rw [Database.pool?, Database.pool?, hmembers]
  change ((db.pools.set id row).get? other).map _ = _
  rw [OrderedMap.get?_set_ne db.pools hother.symm]

theorem advances_writePool (accountIds : Option (List String))
    (hlater : ∀ old, db.pools.get? id = some old → old.version < row.version) :
    Advances (·.1.version) db.pool? (db.writePool id row accountIds).pool? := by
  have hself : (db.writePool id row accountIds).pool? id =
      some (row, (db.writePool id row accountIds).membersOf id) := by
    change ((db.pools.set id row).get? id).map _ = _
    rw [OrderedMap.get?_set_self]
    rfl
  refine Advances.of_write (fun other hother => pool?_writePool_of_ne hother accountIds) hself ?_
  intro pool hpool
  obtain ⟨old, hold, rfl⟩ := Option.map_eq_some_iff.1 hpool
  exact hlater old hold

end Pools

section Changes

variable {db db' : Database} {resource : ResourceType} {id : String}

theorem Change.advances (h : Change db resource id db') : db.AdvancesTo db' := by
  have hrefl := Database.AdvancesTo.refl db
  cases h with
  | createProvider record hnew hversion =>
      exact ⟨advances_set_new hnew, hrefl.accounts, hrefl.pools, hrefl.profiles⟩
  | updateProvider id current next hcurrent hid hversion =>
      exact ⟨advances_set_next hcurrent hversion, hrefl.accounts, hrefl.pools, hrefl.profiles⟩
  | createAccount record health hnew hversion =>
      exact ⟨hrefl.providers, advances_set_new hnew, hrefl.pools, hrefl.profiles⟩
  | updateAccount id current next health terms hcurrent hid hprovider hversion =>
      exact ⟨hrefl.providers, advances_set_next hcurrent hversion, hrefl.pools, hrefl.profiles⟩
  | createPool record accountIds hnew hversion hplaceable =>
      refine ⟨hrefl.providers, hrefl.accounts, advances_writePool (some accountIds) ?_, hrefl.profiles⟩
      intro old hold
      rw [hnew] at hold
      cases hold
  | updatePool id current next accountIds hcurrent hid hprovider hversion hplaceable =>
      refine ⟨hrefl.providers, hrefl.accounts, advances_writePool accountIds ?_, hrefl.profiles⟩
      intro old hold
      rw [hcurrent] at hold
      cases hold
      omega
  | createProfile record hnew hversion hrefers hroles =>
      exact ⟨hrefl.providers, hrefl.accounts, hrefl.pools, advances_set_new hnew⟩
  | updateProfile id current next hcurrent hid hversion hrefers hroles =>
      exact ⟨hrefl.providers, hrefl.accounts, hrefl.pools, advances_set_next hcurrent hversion⟩

/-- The row that is written has the version after the one it had, or the first. -/
theorem Change.version? (h : Change db resource id db') :
    db'.version? resource id = some ((db.version? resource id).elim 1 (· + 1)) := by
  cases h with
  | createProvider record hnew hversion =>
      exact (version?_set record).trans (by rw [Database.version?, hnew, hversion]; rfl)
  | updateProvider id current next hcurrent hid hversion =>
      exact (version?_set next).trans (by rw [Database.version?, hcurrent, hversion]; rfl)
  | createAccount record health hnew hversion =>
      exact (version?_set record).trans (by rw [Database.version?, hnew, hversion]; rfl)
  | updateAccount id current next health terms hcurrent hid hprovider hversion =>
      exact (version?_set next).trans (by rw [Database.version?, hcurrent, hversion]; rfl)
  | createPool record accountIds hnew hversion hplaceable =>
      exact (version?_set record).trans (by rw [Database.version?, hnew, hversion]; rfl)
  | updatePool id current next accountIds hcurrent hid hprovider hversion hplaceable =>
      exact (version?_set next).trans (by rw [Database.version?, hcurrent, hversion]; rfl)
  | createProfile record hnew hversion hrefers hroles =>
      exact (version?_set record).trans (by rw [Database.version?, hnew, hversion]; rfl)
  | updateProfile id current next hcurrent hid hversion hrefers hroles =>
      exact (version?_set next).trans (by rw [Database.version?, hcurrent, hversion]; rfl)

/-- Where the tables advance, so does every version. -/
theorem Database.AdvancesTo.version_le (h : db.AdvancesTo db') {v v' : ℕ}
    (hv : db.version? resource id = some v) (hv' : db'.version? resource id = some v') : v ≤ v' := by
  cases resource with
  | provider =>
      obtain ⟨row, hrow, rfl⟩ := Option.map_eq_some_iff.1 hv
      obtain ⟨row', hrow', rfl⟩ := Option.map_eq_some_iff.1 hv'
      exact h.providers.version_le hrow hrow'
  | account =>
      obtain ⟨row, hrow, rfl⟩ := Option.map_eq_some_iff.1 hv
      obtain ⟨row', hrow', rfl⟩ := Option.map_eq_some_iff.1 hv'
      exact h.accounts.version_le hrow hrow'
  | pool =>
      obtain ⟨row, hrow, rfl⟩ := Option.map_eq_some_iff.1 hv
      obtain ⟨row', hrow', rfl⟩ := Option.map_eq_some_iff.1 hv'
      have hpool : db.pool? id = some (row, db.membersOf id) := by rw [Database.pool?, hrow]; rfl
      have hpool' : db'.pool? id = some (row', db'.membersOf id) := by
        rw [Database.pool?, hrow']
        rfl
      exact h.pools.version_le hpool hpool'
  | profile =>
      obtain ⟨row, hrow, rfl⟩ := Option.map_eq_some_iff.1 hv
      obtain ⟨row', hrow', rfl⟩ := Option.map_eq_some_iff.1 hv'
      exact h.profiles.version_le hrow hrow'

theorem Change.policyRevisions (h : Change db resource id db') :
    db'.policyRevisions = db.policyRevisions := by
  cases h <;> rfl

end Changes

/-! ## Listing -/

/-- A snapshot of the tables: the rows of each, in another order. -/
structure Database.Lists (db : Database) (snapshot : PolicySnapshot) : Prop where
  providers : snapshot.providers.Perm db.providers.values
  accounts : snapshot.accounts.Perm db.accounts.values
  pools : (snapshot.pools.map (·.toPoolRow)).Perm db.pools.values
  memberships : ∀ pool ∈ snapshot.pools, pool.memberships.Perm (db.membersOf pool.id)
  profiles : snapshot.profiles.Perm db.profiles.values

/-- What is kept so that revisions are numbered and profiles are listed as they are stored. -/
structure Database.Listable (db : Database) : Prop where
  numbered : db.policyRevisions.map (·.revision) = List.range' 1 db.policyRevisions.length
  roles : ∀ id profile, db.profiles.get? id = some profile → "__proto__" ∉ profile.modelRoles.keys

section Listing

variable {db db' : Database}

theorem listProviders_perm {providers : List ProviderRow} (h : listProviders db = .ok providers) :
    providers.Perm db.providers.values := by
  have hsame := Except.map_eq_of_mapM_eq_ok (g := id) h fun _ _ _ hmap => mapProvider_eq_ok hmap
  rw [List.map_id] at hsame
  rw [hsame]
  exact List.perm_insertionSort _ _

theorem listAccounts_perm {accounts : List AccountRow} (h : listAccounts db = .ok accounts) :
    accounts.Perm db.accounts.values := by
  have hsame := Except.map_eq_of_mapM_eq_ok (g := id) h fun _ _ _ hmap => mapAccount_eq_ok hmap
  rw [List.map_id] at hsame
  rw [hsame]
  exact List.perm_insertionSort _ _

theorem hydratePool_eq_ok {row : PoolRow} {pool : StoredPool} (h : hydratePool db row = .ok pool) :
    pool.toPoolRow = row ∧ pool.memberships.Perm (db.membersOf row.id) := by
  obtain ⟨memberships, hmembers, hmap⟩ := Except.bind_eq_ok.1 h
  have hsame := Except.map_eq_of_mapM_eq_ok (g := id) hmembers fun _ _ _ hmap => by
    simp only [mapMembership, Except.bind_eq_ok] at hmap
    obtain ⟨_, _, _, _, hmap⟩ := hmap
    exact (Except.ok.inj hmap).symm
  rw [List.map_id] at hsame
  rw [mapPool_eq_ok hmap, hsame]
  exact ⟨rfl, List.perm_insertionSort _ _⟩

theorem listPools_perm {pools : List StoredPool} (h : listPools db = .ok pools) :
    (pools.map (·.toPoolRow)).Perm db.pools.values ∧
      ∀ pool ∈ pools, pool.memberships.Perm (db.membersOf pool.id) := by
  constructor
  · rw [Except.map_eq_of_mapM_eq_ok h fun _ _ _ hmap => (hydratePool_eq_ok hmap).1]
    exact List.perm_insertionSort _ _
  · intro pool hpool
    obtain ⟨row, -, hrow⟩ := (Except.forall₂_of_mapM_eq_ok h).exists_left hpool
    obtain ⟨rfl, hmembers⟩ := hydratePool_eq_ok hrow
    exact hmembers

theorem mem_of_mem_values {ρ : Type} {rows : OrderedMap String ρ} {row : ρ} (h : row ∈ rows.values) :
    ∃ id, rows.get? id = some row := by
  obtain ⟨⟨id, row⟩, hentry, rfl⟩ := List.mem_map.1 h
  exact ⟨id, OrderedMap.get?_eq_some.2 hentry⟩

theorem listProfiles_perm (hlistable : db.Listable) {profiles : List ProfileRow}
    (h : listProfiles db = .ok profiles) : profiles.Perm db.profiles.values := by
  have hsame := Except.map_eq_of_mapM_eq_ok (g := id) h fun row hrow _ hmap => by
    obtain ⟨key, hkey⟩ := mem_of_mem_values ((List.mem_insertionSort _).1 hrow)
    rw [mapProfile_eq_ok hmap, OrderedMap.erase_of_not_mem (hlistable.roles key row hkey)]
    rfl
  rw [List.map_id] at hsame
  rw [hsame]
  exact List.perm_insertionSort _ _

theorem Database.Listable.lists (h : db.Listable) {snapshot : PolicySnapshot}
    (hsnapshot : db.snapshot = .ok snapshot) : db.Lists snapshot := by
  simp only [Database.snapshot, Except.bind_eq_ok] at hsnapshot
  obtain ⟨providers, hproviders, accounts, haccounts, pools, hpools, profiles, hprofiles, hsame⟩ :=
    hsnapshot
  cases hsame
  exact ⟨listProviders_perm hproviders, listAccounts_perm haccounts, (listPools_perm hpools).1,
    (listPools_perm hpools).2, listProfiles_perm h hprofiles⟩

theorem foldl_max_range' (n : ℕ) : (List.range' 1 n).foldl max 0 = n := by
  induction n with
  | zero => rfl
  | succ n ih =>
      rw [List.range'_1_concat, List.foldl_concat, ih]
      omega

/-- The next revision is the one after the last. -/
theorem Database.Listable.nextPolicyRevision (h : db.Listable) :
    nextPolicyRevision db = db.policyRevisions.length + 1 := by
  rw [RlyGateway.nextPolicyRevision, h.numbered, foldl_max_range']

theorem Database.Listable.last (h : db.Listable) :
    (db.policyRevisions.getLast?.elim 0 fun row => row.revision) = db.policyRevisions.length := by
  have hlast : (db.policyRevisions.map (·.revision)).getLast? =
      (List.range' 1 db.policyRevisions.length).getLast? := by rw [h.numbered]
  rw [List.getLast?_map, List.getLast?_range'] at hlast
  cases hrow : db.policyRevisions.getLast? with
  | none => rw [List.getLast?_eq_none_iff.1 hrow, List.length_nil, Option.elim_none]
  | some row =>
      rw [hrow, Option.map_some] at hlast
      split at hlast
      · cases hlast
      · have hrevision := Option.some.inj hlast
        rw [Option.elim_some, hrevision]
        omega

/-- Appending the next revision, or none, keeps the revisions numbered. -/
theorem Database.Listable.committed (h : db.Listable) {runtime : NodeRuntime} {publishPolicy : Bool}
    {revisions : List PolicyRow} (hpublishes : Publishes runtime db publishPolicy revisions)
    (event : AuditEvent) : (db.committed revisions event).Listable where
  numbered := by
    change (db.policyRevisions ++ revisions).map _ =
      List.range' 1 (db.policyRevisions ++ revisions).length
    cases publishPolicy with
    | true =>
        obtain ⟨row, snapshot, rfl, -, hrevision, -⟩ := hpublishes
        rw [List.map_append, h.numbered, List.length_append, List.length_singleton,
          List.range'_1_concat, List.map_singleton, hrevision, h.nextPolicyRevision, Nat.add_comm 1]
    | false =>
        cases hpublishes
        rw [List.append_nil]
        exact h.numbered
  roles := h.roles

theorem Change.listable {resource : ResourceType} {id : String} (hchange : Change db resource id db')
    (h : db.Listable) : db'.Listable := by
  refine ⟨by rw [hchange.policyRevisions]; exact h.numbered, ?_⟩
  cases hchange with
  | createProvider => exact h.roles
  | updateProvider => exact h.roles
  | createAccount => exact h.roles
  | updateAccount => exact h.roles
  | createPool => exact h.roles
  | updatePool => exact h.roles
  | createProfile record hnew hversion hrefers hroles =>
      intro other profile hprofile
      rw [OrderedMap.get?_set] at hprofile
      split at hprofile
      · cases hprofile
        exact hroles
      · exact h.roles other profile hprofile
  | updateProfile id current next hcurrent hid hversion hrefers hroles =>
      intro other profile hprofile
      rw [OrderedMap.get?_set] at hprofile
      split at hprofile
      · cases hprofile
        exact hroles
      · exact h.roles other profile hprofile

end Listing

/-! ## Runs -/

variable (platform : StorePlatform)

theorem listable_after (requests : List StoreRequest) :
    (platform.after requests).database.Listable := by
  induction requests using List.reverseRecOn with
  | nil => exact ⟨rfl, fun _ _ h => nomatch h⟩
  | append_singleton requests request ih =>
      rw [platform.after_concat]
      rcases (sound_after platform requests).served request with
        ⟨id, changed, revisions, event, hchange, -, -, hpublishes, -, -, hdb⟩ | ⟨event, -, -, hdb⟩
      · rw [hdb]
        exact (hchange.listable ih).committed hpublishes event
      · rw [hdb]
        exact ⟨ih.numbered, ih.roles⟩

theorem StoreState.Sound.advancesTo {platform : StorePlatform} {state : StoreState}
    (h : state.Sound platform) (request : StoreRequest) :
    state.database.AdvancesTo (platform.serve state request).database := by
  rcases h.served request with
    ⟨id, changed, revisions, event, hchange, -, -, -, -, -, hdb⟩ | ⟨event, -, -, hdb⟩
  · rw [hdb]
    have hadvances := hchange.advances
    exact ⟨hadvances.providers, hadvances.accounts, hadvances.pools, hadvances.profiles⟩
  · rw [hdb]
    exact ⟨Advances.refl _, Advances.refl _, Advances.refl _, Advances.refl _⟩

theorem advancesTo_serve (requests : List StoreRequest) (request : StoreRequest) :
    (platform.after requests).database.AdvancesTo
      (platform.serve (platform.after requests) request).database :=
  (sound_after platform requests).advancesTo request

theorem advancesTo_after (requests later : List StoreRequest) :
    (platform.after requests).database.AdvancesTo (platform.after (requests ++ later)).database := by
  induction later using List.reverseRecOn with
  | nil =>
      rw [List.append_nil]
      exact Database.AdvancesTo.refl _
  | append_singleton later request ih =>
      rw [← List.append_assoc, platform.after_concat]
      exact ih.trans (advancesTo_serve platform (requests ++ later) request)

/-- A request succeeds after others, with a reply and these tables. -/
def Succeeds (requests : List StoreRequest) (request : StoreRequest) (db : Database) : Prop :=
  ∃ reply, platform.outcome (platform.after requests) request = .ok reply db

/-- A call is an update of a row that carries a version. -/
def StoreCall.Updates (call : StoreCall) (resource : ResourceType) (id : String) (version : ℕ) :
    Prop :=
  call.resource = resource ∧ call.expectedId = some id ∧ call.expectedVersion = some version

/-- What any clients can rely on after any requests. -/
structure NoLostUpdate (requests : List StoreRequest) : Prop where
  /-- An update succeeds on a row of the version it carries only, and leaves the next version. -/
  guarded : ∀ request db, Succeeds platform requests request db →
    ∀ resource id version, request.call.Updates resource id version →
      (platform.after requests).database.version? resource id = some version ∧
        db.version? resource id = some (version + 1)
  /-- A row that was changed has a later version, whatever requests follow. -/
  advances : ∀ later, (platform.after requests).database.AdvancesTo
    (platform.after (requests ++ later)).database
  /-- The row that a request was made for has the next version, also without an expected one. -/
  next : ∀ request db, Succeeds platform requests request db →
    ∀ id ∈ request.call.expectedId, ∃ version,
      (platform.after requests).database.version? request.call.resource id = some version ∧
        db.version? request.call.resource id = some (version + 1)
  /-- Of two updates of a row that carry the same version, one fails. -/
  once : ∀ first between second db db' resource id version,
    first.call.Updates resource id version → second.call.Updates resource id version →
      Succeeds platform requests first db →
        ¬ Succeeds platform (requests ++ first :: between) second db'
  /-- A mutation that publishes appends the next revision, of the tables after it. -/
  published : ∀ request db, Succeeds platform requests request db → request.call.publishes = true →
    ∃ row snapshot,
      db.policyRevisions = (platform.after requests).database.policyRevisions ++ [row] ∧
      row.revision = ((platform.after requests).database.policyRevisions.getLast?.elim 0
        fun last => last.revision) + 1 ∧
      row.compiledJson = snapshot.encoded platform.runtime ∧ db.Lists snapshot

section

variable {platform} {requests : List StoreRequest} {request : StoreRequest} {db : Database}

theorem Succeeds.committed (h : Succeeds platform requests request db) :
    Committed (platform.context (platform.after requests).served) request.call
      (platform.after requests).database db := by
  obtain ⟨reply, houtcome⟩ := h
  exact StoreRequest.committed (sound_after platform requests).keyed houtcome

/-- The tables a successful request leaves are those the next request finds. -/
theorem Succeeds.after_concat (h : Succeeds platform requests request db) :
    (platform.after (requests ++ [request])).database = db := by
  obtain ⟨reply, houtcome⟩ := h
  rw [platform.after_concat, StorePlatform.serve, houtcome]
  rfl

/-- The row a successful request was made for was there, and has the next version. -/
theorem Succeeds.next (h : Succeeds platform requests request db) {id : String}
    (hid : id ∈ request.call.expectedId) :
    ∃ version, (platform.after requests).database.version? request.call.resource id = some version ∧
      db.version? request.call.resource id = some (version + 1) := by
  obtain ⟨id', changed, revisions, event, hchange, htarget, -, -, -, -, rfl⟩ := h.committed
  obtain ⟨rfl, version, hversion⟩ := htarget id hid
  refine ⟨version, hversion, ?_⟩
  have hwritten := hchange.version?
  rw [hversion] at hwritten
  exact hwritten

/-- An update that succeeds found the version it carries. -/
theorem Succeeds.expected (h : Succeeds platform requests request db) {id : String} {version : ℕ}
    (hid : id ∈ request.call.expectedId) (hversion : version ∈ request.call.expectedVersion) :
    (platform.after requests).database.version? request.call.resource id = some version := by
  obtain ⟨id', changed, revisions, event, hchange, htarget, hexpected, -, -, -, -⟩ := h.committed
  obtain ⟨rfl, -⟩ := htarget id hid
  exact hexpected version hversion

theorem Succeeds.updated (h : Succeeds platform requests request db) {resource : ResourceType}
    {id : String} {version : ℕ} (hupdates : request.call.Updates resource id version) :
    (platform.after requests).database.version? resource id = some version ∧
      db.version? resource id = some (version + 1) := by
  obtain ⟨rfl, hid, hversion⟩ := hupdates
  obtain ⟨found, hfound, hnext⟩ := h.next hid
  obtain rfl := Option.some.inj (hfound.symm.trans (h.expected hid hversion))
  exact ⟨hfound, hnext⟩

/-- After an update has succeeded, an update that carries the same version finds a later one. -/
theorem Succeeds.not_again {first second : StoreRequest} {between : List StoreRequest}
    {db' : Database} {resource : ResourceType} {id : String} {version : ℕ}
    (h : Succeeds platform requests first db) (hfirst : first.call.Updates resource id version)
    (hsecond : second.call.Updates resource id version) :
    ¬ Succeeds platform (requests ++ first :: between) second db' := by
  intro hagain
  have hwritten := (h.updated hfirst).2
  rw [← h.after_concat] at hwritten
  have hfound := (hagain.updated hsecond).1
  rw [List.append_cons] at hfound
  have hle := (advancesTo_after platform (requests ++ [first]) between).version_le hwritten hfound
  omega

theorem Succeeds.published (h : Succeeds platform requests request db)
    (hpublishes : request.call.publishes = true) :
    ∃ row snapshot,
      db.policyRevisions = (platform.after requests).database.policyRevisions ++ [row] ∧
      row.revision = ((platform.after requests).database.policyRevisions.getLast?.elim 0
        fun last => last.revision) + 1 ∧
      row.compiledJson = snapshot.encoded platform.runtime ∧ db.Lists snapshot := by
  have hlistable := listable_after platform requests
  obtain ⟨id, changed, revisions, event, hchange, -, -, hpublished, -, -, rfl⟩ := h.committed
  rw [hpublishes] at hpublished
  obtain ⟨row, snapshot, rfl, hsnapshot, hrevision, hcompiled⟩ := hpublished
  have hchanged := hchange.listable hlistable
  have hlists := hchanged.lists hsnapshot
  refine ⟨row, snapshot, ?_, ?_, hcompiled, ?_⟩
  · rw [← hchange.policyRevisions]
    rfl
  · rw [hrevision, hchanged.nextPolicyRevision, hchange.policyRevisions, hlistable.last]
  · exact ⟨hlists.providers, hlists.accounts, hlists.pools, hlists.memberships, hlists.profiles⟩

end

theorem noLostUpdate (requests : List StoreRequest) : NoLostUpdate platform requests where
  guarded := fun _ _ h _ _ _ hupdates => h.updated hupdates
  advances := advancesTo_after platform requests
  next := fun _ _ h _ hid => h.next hid
  once := fun _ _ _ _ _ _ _ _ hfirst hsecond h => h.not_again hfirst hsecond
  published := fun _ _ h hpublishes => h.published hpublishes

end RlyGateway
