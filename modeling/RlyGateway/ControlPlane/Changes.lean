import RlyGateway.ControlPlane.Store

/-!
# What a committed mutation changes

A mutation that succeeds writes one row of one table, with what belongs to it: the health row of an
account, the memberships of a pool. `Change` says what was there before and what is there after, and
every mutation makes such a change.
-/

namespace RlyGateway

open EStateM MonadExcept

/-! ## Reading -/

section Reading

variable {db db' : Database} {id : String}

/-- A row that is found is the row of the id. -/
theorem rowById_eq_ok {ρ : Type} {resource : ResourceType} {rows : OrderedMap String ρ} {row : ρ} :
    rowById resource rows id = .ok row ↔ rows.get? id = some row := by
  unfold rowById
  cases rows.get? id with
  | none => simp
  | some row' => simp

theorem mapProvider_eq_ok {row row' : ProviderRow} (h : mapProvider row = .ok row') : row' = row := by
  simp only [mapProvider, Except.bind_eq_ok] at h
  obtain ⟨_, _, _, _, _, _, _, _, _, _, h⟩ := h
  exact (Except.ok.inj h).symm

theorem mapAccount_eq_ok {row row' : AccountRow} (h : mapAccount row = .ok row') : row' = row := by
  simp only [mapAccount, Except.bind_eq_ok] at h
  obtain ⟨_, _, _, _, _, _, _, _, _, _, _, _, _, _, h⟩ := h
  exact (Except.ok.inj h).symm

theorem mapPool_eq_ok {row : PoolRow} {memberships : List MembershipRow} {pool : StoredPool}
    (h : mapPool row memberships = .ok pool) : pool = { row with memberships } := by
  simp only [mapPool, Except.bind_eq_ok] at h
  obtain ⟨_, _, _, _, _, _, _, _, _, _, h⟩ := h
  exact (Except.ok.inj h).symm

theorem parseJsonObject_eq_ok {value parsed : OrderedMap String String}
    (h : parseJsonObject value = .ok parsed) : parsed = value.erase "__proto__" := by
  unfold parseJsonObject at h
  split at h
  · cases h
  · exact (Except.ok.inj h).symm

theorem mapProfile_eq_ok {row row' : ProfileRow} (h : mapProfile row = .ok row') :
    row' = { row with modelRoles := row.modelRoles.erase "__proto__" } := by
  simp only [mapProfile, Except.bind_eq_ok] at h
  obtain ⟨_, _, _, _, modelRoles, hroles, _, _, _, _, h⟩ := h
  rw [← parseJsonObject_eq_ok hroles]
  exact (Except.ok.inj h).symm

theorem providerById_eq_ok {row : ProviderRow} (h : providerById id db = .ok row db') :
    db' = db ∧ db.providers.get? id = some row := by
  simp only [providerById, bind_eq_ok, read_eq_ok, ofExcept_eq_ok, rowById_eq_ok] at h
  obtain ⟨_, _, ⟨rfl, rfl⟩, stored, _, ⟨hstored, rfl⟩, hmap, rfl⟩ := h
  rw [mapProvider_eq_ok hmap]
  exact ⟨rfl, hstored⟩

theorem accountById_eq_ok {row : AccountRow} (h : accountById id db = .ok row db') :
    db' = db ∧ db.accounts.get? id = some row := by
  simp only [accountById, bind_eq_ok, read_eq_ok, ofExcept_eq_ok, rowById_eq_ok] at h
  obtain ⟨_, _, ⟨rfl, rfl⟩, stored, _, ⟨hstored, rfl⟩, hmap, rfl⟩ := h
  rw [mapAccount_eq_ok hmap]
  exact ⟨rfl, hstored⟩

theorem poolById_eq_ok {pool : StoredPool} (h : poolById id db = .ok pool db') :
    db' = db ∧ db.pools.get? id = some pool.toPoolRow := by
  simp only [poolById, hydratePool, bind_eq_ok, read_eq_ok, ofExcept_eq_ok, rowById_eq_ok,
    Except.bind_eq_ok] at h
  obtain ⟨_, _, ⟨rfl, rfl⟩, stored, _, ⟨hstored, rfl⟩, ⟨memberships, _, hmap⟩, rfl⟩ := h
  rw [mapPool_eq_ok hmap]
  exact ⟨rfl, hstored⟩

theorem profileById_eq_ok {profile : ProfileRow} (h : profileById id db = .ok profile db') :
    db' = db ∧ ∃ stored, db.profiles.get? id = some stored ∧
      profile = { stored with modelRoles := stored.modelRoles.erase "__proto__" } := by
  simp only [profileById, bind_eq_ok, read_eq_ok, ofExcept_eq_ok, rowById_eq_ok] at h
  obtain ⟨_, _, ⟨rfl, rfl⟩, stored, _, ⟨hstored, rfl⟩, hmap, rfl⟩ := h
  exact ⟨rfl, stored, hstored, mapProfile_eq_ok hmap⟩

theorem healthById_eq_ok {row : Option HealthRow} (h : healthById id db = .ok row db') : db' = db := by
  simp only [healthById, bind_eq_ok, read_eq_ok] at h
  obtain ⟨_, _, ⟨hread, hsame⟩, h⟩ := h
  rw [hread, hsame] at h
  cases hrow : db.health.get? id with
  | none =>
      rw [hrow] at h
      exact (pure_eq_ok.1 h).2
  | some stored =>
      rw [hrow] at h
      obtain ⟨_, hmap, -⟩ := map_eq_ok.1 h
      exact (ofExcept_eq_ok.1 hmap).2

end Reading

/-! ## Writing -/

section Writing

variable {db db' : Database}

theorem requireChanges_eq_ok {ρ : Type} {resource : ResourceType} {rows : Option ρ} {row : ρ} :
    requireChanges resource rows = .ok row ↔ rows = some row := by
  unfold requireChanges
  cases rows with
  | none => simp
  | some row' => simp

theorem insertProvider_eq_ok {record : ProviderRow} (h : insertProvider record db = .ok () db') :
    db.providers.get? record.id = none ∧
      db' = { db with providers := db.providers.set record.id record } := by
  simp only [insertProvider, adaptExcept_eq_ok, bind_eq_ok, read_eq_ok, ofExcept_eq_ok,
    write_eq_ok] at h
  obtain ⟨_, _, ⟨_, rfl⟩, _, _, ⟨rfl, rfl⟩, providers, _, ⟨hinsert, rfl⟩, rfl⟩ := h
  obtain ⟨hnew, rfl⟩ := insertRow_eq_ok hinsert
  exact ⟨hnew, rfl⟩

theorem replaceProvider_eq_ok {current next : ProviderRow}
    (h : replaceProvider current next db = .ok () db') :
    ∃ stored written, db' = { db with providers := db.providers.set current.id written } ∧
      db.providers.get? current.id = some stored ∧ stored.version = current.version ∧
      written.id = stored.id ∧ written.version = next.version := by
  simp only [replaceProvider, adaptExcept_eq_ok, bind_eq_ok, read_eq_ok, ofExcept_eq_ok, write_eq_ok,
    requireChanges_eq_ok] at h
  obtain ⟨_, _, ⟨_, rfl⟩, _, _, ⟨rfl, rfl⟩, changed, _, ⟨hupdate, rfl⟩, providers, _,
    ⟨rfl, rfl⟩, rfl⟩ := h
  obtain ⟨stored, hstored, hversion, rfl⟩ := updateRow_eq_ok hupdate
  exact ⟨stored, _, rfl, hstored, hversion, rfl, rfl⟩

theorem insertAccount_eq_ok {record : AccountRow} (h : insertAccount record db = .ok () db') :
    db.accounts.get? record.id = none ∧
      db' = { db with accounts := db.accounts.set record.id record } := by
  simp only [insertAccount, adaptExcept_eq_ok, bind_eq_ok, read_eq_ok, ofExcept_eq_ok,
    write_eq_ok] at h
  obtain ⟨_, _, ⟨rfl, rfl⟩, accounts, _, ⟨hinsert, rfl⟩, _, _, ⟨_, rfl⟩, rfl⟩ := h
  obtain ⟨hnew, rfl⟩ := insertRow_eq_ok hinsert
  exact ⟨hnew, rfl⟩

theorem insertAccountHealth_eq_ok {accountId : String}
    (h : insertAccountHealth accountId db = .ok () db') :
    ∃ health, db' = { db with health } := by
  simp only [insertAccountHealth, bind_eq_ok, read_eq_ok, ofExcept_eq_ok, write_eq_ok] at h
  obtain ⟨_, _, ⟨rfl, rfl⟩, health, _, ⟨_, rfl⟩, _, _, ⟨_, rfl⟩, rfl⟩ := h
  exact ⟨health, rfl⟩

theorem replaceAccount_eq_ok {current next : AccountRow}
    (h : replaceAccount current next db = .ok () db') :
    ∃ stored written, db' = { db with accounts := db.accounts.set current.id written } ∧
      db.accounts.get? current.id = some stored ∧ stored.version = current.version ∧
      written.id = stored.id ∧ written.providerId = stored.providerId ∧
      written.version = next.version := by
  simp only [replaceAccount, bind_eq_ok, read_eq_ok, ofExcept_eq_ok, write_eq_ok,
    requireChanges_eq_ok] at h
  obtain ⟨_, _, ⟨rfl, rfl⟩, changed, _, ⟨hupdate, rfl⟩, accounts, _, ⟨rfl, rfl⟩, rfl⟩ := h
  obtain ⟨stored, hstored, hversion, rfl⟩ := updateRow_eq_ok hupdate
  exact ⟨stored, _, rfl, hstored, hversion, rfl, rfl, rfl⟩

theorem replaceHealth_eq_ok {record : HealthRow} (h : replaceHealth record db = .ok () db') :
    db' = { db with health := db.health.set record.accountId record } := by
  simp only [replaceHealth, bind_eq_ok, read_eq_ok, ofExcept_eq_ok, write_eq_ok] at h
  obtain ⟨_, _, ⟨rfl, rfl⟩, _, _, ⟨_, rfl⟩, rfl⟩ := h
  rfl

theorem upsertTermsAcknowledgement_eq_ok {accountId providerId revision acknowledgedAt : String}
    (h : upsertTermsAcknowledgement accountId providerId revision acknowledgedAt db = .ok () db') :
    ∃ termsAcknowledgements, db' = { db with termsAcknowledgements } := by
  simp only [upsertTermsAcknowledgement, bind_eq_ok, read_eq_ok, ofExcept_eq_ok, write_eq_ok] at h
  obtain ⟨_, _, ⟨rfl, rfl⟩, _, _, ⟨_, rfl⟩, _, _, ⟨_, rfl⟩, rfl⟩ := h
  exact ⟨_, rfl⟩

theorem insertPool_eq_ok {record : PoolRow} (h : insertPool record db = .ok () db') :
    db.pools.get? record.id = none ∧ db' = { db with pools := db.pools.set record.id record } := by
  simp only [insertPool, adaptExcept_eq_ok, bind_eq_ok, read_eq_ok, ofExcept_eq_ok, write_eq_ok] at h
  obtain ⟨_, _, ⟨_, rfl⟩, _, _, ⟨rfl, rfl⟩, pools, _, ⟨hinsert, rfl⟩, _, _, ⟨_, rfl⟩, rfl⟩ := h
  obtain ⟨hnew, rfl⟩ := insertRow_eq_ok hinsert
  exact ⟨hnew, rfl⟩

theorem replacePool_eq_ok {current : StoredPool} {next : PoolUpdate}
    (h : replacePool current next db = .ok () db') :
    ∃ stored written, db' = { db with pools := db.pools.set current.id written } ∧
      db.pools.get? current.id = some stored ∧ stored.version = current.version ∧
      written.id = stored.id ∧ written.providerId = stored.providerId ∧
      written.version = next.version := by
  simp only [replacePool, adaptExcept_eq_ok, bind_eq_ok, read_eq_ok, ofExcept_eq_ok, write_eq_ok,
    requireChanges_eq_ok] at h
  obtain ⟨_, _, ⟨_, rfl⟩, _, _, ⟨rfl, rfl⟩, changed, _, ⟨hupdate, rfl⟩, pools, _, ⟨rfl, rfl⟩,
    rfl⟩ := h
  obtain ⟨stored, hstored, hversion, rfl⟩ := updateRow_eq_ok hupdate
  exact ⟨stored, _, rfl, hstored, hversion, rfl, rfl, rfl⟩

theorem insertProfile_eq_ok {record : ProfileRow} (h : insertProfile record db = .ok () db') :
    db.profiles.get? record.id = none ∧
      db' = { db with profiles := db.profiles.set record.id record } := by
  simp only [insertProfile, adaptExcept_eq_ok, bind_eq_ok, read_eq_ok, ofExcept_eq_ok,
    write_eq_ok] at h
  obtain ⟨_, _, ⟨_, rfl⟩, _, _, ⟨_, rfl⟩, _, _, ⟨rfl, rfl⟩, profiles, _, ⟨hinsert, rfl⟩, _, _,
    ⟨_, rfl⟩, rfl⟩ := h
  obtain ⟨hnew, rfl⟩ := insertRow_eq_ok hinsert
  exact ⟨hnew, rfl⟩

theorem replaceProfile_eq_ok {current next : ProfileRow}
    (h : replaceProfile current next db = .ok () db') :
    ∃ stored written, db' = { db with profiles := db.profiles.set current.id written } ∧
      db.profiles.get? current.id = some stored ∧ stored.version = current.version ∧
      written.id = stored.id ∧ written.providerId = next.providerId ∧
      written.poolId = next.poolId ∧ written.modelRoles = next.modelRoles ∧
      written.version = next.version := by
  simp only [replaceProfile, adaptExcept_eq_ok, bind_eq_ok, read_eq_ok, ofExcept_eq_ok, write_eq_ok,
    requireChanges_eq_ok] at h
  obtain ⟨_, _, ⟨_, rfl⟩, _, _, ⟨_, rfl⟩, _, _, ⟨rfl, rfl⟩, changed, _, ⟨hupdate, rfl⟩,
    profiles, _, ⟨rfl, rfl⟩, _, _, ⟨_, rfl⟩, rfl⟩ := h
  obtain ⟨stored, hstored, hversion, rfl⟩ := updateRow_eq_ok hupdate
  exact ⟨stored, _, rfl, hstored, hversion, rfl, rfl, rfl, rfl, rfl⟩

end Writing

/-! ## Memberships -/

section Memberships

variable {db db' : Database} {poolId providerId : String}

/-- The memberships of accounts in a pool, pinned in order from an index on. -/
def membershipsFrom (poolId : String) : ℕ → List String → List MembershipRow
  | _, [] => []
  | index, accountId :: accountIds =>
      ⟨⟨accountId, some index⟩, poolId⟩ :: membershipsFrom poolId (index + 1) accountIds

theorem map_accountId_membershipsFrom (index : ℕ) (accountIds : List String) :
    (membershipsFrom poolId index accountIds).map (·.accountId) = accountIds := by
  induction accountIds generalizing index with
  | nil => rfl
  | cons accountId accountIds ih => rw [membershipsFrom, List.map_cons, ih]

theorem map_pinOrder_membershipsFrom (index : ℕ) (accountIds : List String) :
    (membershipsFrom poolId index accountIds).map (·.pinOrder) =
      (List.range' index accountIds.length).map fun i : ℕ => some (i : ℤ) := by
  induction accountIds generalizing index with
  | nil => rfl
  | cons accountId accountIds ih =>
      rw [membershipsFrom, List.map_cons, ih, List.length_cons, List.range'_succ, List.map_cons]

theorem poolId_of_mem_membershipsFrom {index : ℕ} {accountIds : List String} {row : MembershipRow}
    (h : row ∈ membershipsFrom poolId index accountIds) : row.poolId = poolId := by
  induction accountIds generalizing index with
  | nil => cases h
  | cons accountId accountIds ih =>
      rcases List.mem_cons.1 h with rfl | hmem
      · rfl
      · exact ih hmem

/-- The accounts can be members of a pool of the provider. -/
structure Placeable (db : Database) (providerId : String) (accountIds : List String) : Prop where
  nodup : accountIds.Nodup
  accounts : ∀ accountId ∈ accountIds, ∃ account,
    db.accounts.get? accountId = some account ∧ account.providerId = providerId

theorem insertMembership_eq_ok {accountId : String} {index : ℕ}
    (h : insertMembership poolId providerId accountId index db = .ok () db') :
    (∃ account, db.accounts.get? accountId = some account ∧ account.providerId = providerId) ∧
      db' = { db with memberships := db.memberships ++ [⟨⟨accountId, some index⟩, poolId⟩] } := by
  rw [insertMembership, bind_eq_ok] at h
  obtain ⟨account, db₁, haccount, h⟩ := h
  obtain ⟨rfl, hstored⟩ := accountById_eq_ok haccount
  obtain ⟨hprovider, h⟩ := guard_eq_ok.1 h
  obtain ⟨_, _, hread, h⟩ := bind_eq_ok.1 h
  obtain ⟨rfl, rfl⟩ := read_eq_ok.1 hread
  obtain ⟨-, h⟩ := guard_eq_ok.1 h
  obtain ⟨_, _, hreference, h⟩ := bind_eq_ok.1 h
  obtain ⟨-, rfl⟩ := ofExcept_eq_ok.1 hreference
  exact ⟨⟨account, hstored, not_not.1 hprovider⟩, write_eq_ok.1 h⟩

theorem insertMemberships_eq_ok {index : ℕ} {accountIds : List String}
    (h : insertMemberships poolId providerId index accountIds db = .ok () db') :
    (∀ accountId ∈ accountIds, ∃ account,
      db.accounts.get? accountId = some account ∧ account.providerId = providerId) ∧
      db' = { db with memberships := db.memberships ++ membershipsFrom poolId index accountIds } := by
  induction accountIds generalizing index db with
  | nil =>
      obtain ⟨-, rfl⟩ := pure_eq_ok.1 h
      refine ⟨fun accountId hmem => absurd hmem List.not_mem_nil, ?_⟩
      rw [membershipsFrom, List.append_nil]
  | cons accountId accountIds ih =>
      obtain ⟨_, db₁, hfirst, hrest⟩ := bind_eq_ok.1 h
      obtain ⟨hplaced, rfl⟩ := insertMembership_eq_ok hfirst
      obtain ⟨hall, rfl⟩ := ih hrest
      refine ⟨List.forall_mem_cons.2 ⟨hplaced, hall⟩, ?_⟩
      rw [membershipsFrom, List.append_assoc, List.singleton_append]

theorem replaceMemberships_eq_ok {accountIds : List String}
    (h : replaceMemberships poolId providerId accountIds db = .ok () db') :
    Placeable db providerId accountIds ∧
      db' = { db with memberships := (db.memberships.filter fun row => row.poolId ≠ poolId) ++
        membershipsFrom poolId 0 accountIds } := by
  obtain ⟨hnodup, h⟩ := guard_eq_ok.1 h
  obtain ⟨_, db₁, hdelete, hinsert⟩ := bind_eq_ok.1 h
  obtain rfl := modify_eq_ok.1 hdelete
  obtain ⟨hall, rfl⟩ := insertMemberships_eq_ok hinsert
  exact ⟨⟨not_not.1 hnodup, hall⟩, rfl⟩

end Memberships

/-! ## Changes -/

/-- Every row stands under its own id. -/
structure Database.Keyed (db : Database) : Prop where
  providers : ∀ id row, db.providers.get? id = some row → row.id = id
  accounts : ∀ id row, db.accounts.get? id = some row → row.id = id
  pools : ∀ id row, db.pools.get? id = some row → row.id = id
  profiles : ∀ id row, db.profiles.get? id = some row → row.id = id

/-- A profile that names a provider and a pool names a pool of that provider. -/
def Database.RefersTo (db : Database) (providerId poolId : Option String) : Prop :=
  ∀ provider ∈ providerId, ∀ id ∈ poolId, ∃ pool,
    db.pools.get? id = some pool ∧ pool.providerId = provider

/-- The memberships after those of a pool were replaced, or not. -/
def Database.placed (db : Database) (poolId : String) : Option (List String) → List MembershipRow
  | none => db.memberships
  | some accountIds =>
      (db.memberships.filter fun row => row.poolId ≠ poolId) ++ membershipsFrom poolId 0 accountIds

/-- The tables with a pool written, and its memberships replaced or not. -/
def Database.writePool (db : Database) (id : String) (row : PoolRow)
    (accountIds : Option (List String)) : Database :=
  { db with pools := db.pools.set id row, memberships := db.placed id accountIds }

/-- The tables before and after one row was created or updated, with what belongs to it. -/
inductive Change (db : Database) : ResourceType → String → Database → Prop
  | createProvider (record : ProviderRow) (hnew : db.providers.get? record.id = none)
      (hversion : record.version = 1) :
      Change db .provider record.id
        { db with providers := db.providers.set record.id record }
  | updateProvider (id : String) (current next : ProviderRow)
      (hcurrent : db.providers.get? id = some current) (hid : next.id = id)
      (hversion : next.version = current.version + 1) :
      Change db .provider id { db with providers := db.providers.set id next }
  | createAccount (record : AccountRow) (health : OrderedMap String HealthRow)
      (hnew : db.accounts.get? record.id = none) (hversion : record.version = 1) :
      Change db .account record.id
        { db with accounts := db.accounts.set record.id record, health }
  | updateAccount (id : String) (current next : AccountRow) (health : OrderedMap String HealthRow)
      (termsAcknowledgements : List TermsAcknowledgement)
      (hcurrent : db.accounts.get? id = some current) (hid : next.id = id)
      (hprovider : next.providerId = current.providerId)
      (hversion : next.version = current.version + 1) :
      Change db .account id
        { db with accounts := db.accounts.set id next, health, termsAcknowledgements }
  | createPool (record : PoolRow) (accountIds : List String)
      (hnew : db.pools.get? record.id = none) (hversion : record.version = 1)
      (hplaceable : Placeable db record.providerId accountIds) :
      Change db .pool record.id (db.writePool record.id record (some accountIds))
  | updatePool (id : String) (current next : PoolRow) (accountIds : Option (List String))
      (hcurrent : db.pools.get? id = some current) (hid : next.id = id)
      (hprovider : next.providerId = current.providerId)
      (hversion : next.version = current.version + 1)
      (hplaceable : ∀ ids ∈ accountIds, Placeable db current.providerId ids) :
      Change db .pool id (db.writePool id next accountIds)
  | createProfile (record : ProfileRow) (hnew : db.profiles.get? record.id = none)
      (hversion : record.version = 1) (hrefers : db.RefersTo record.providerId record.poolId)
      (hroles : "__proto__" ∉ record.modelRoles.keys) :
      Change db .profile record.id { db with profiles := db.profiles.set record.id record }
  | updateProfile (id : String) (current next : ProfileRow)
      (hcurrent : db.profiles.get? id = some current) (hid : next.id = id)
      (hversion : next.version = current.version + 1)
      (hrefers : db.RefersTo next.providerId next.poolId)
      (hroles : "__proto__" ∉ next.modelRoles.keys) :
      Change db .profile id { db with profiles := db.profiles.set id next }

/-! ## The work of each mutation -/

/-- The kind of row a call writes. -/
def StoreCall.resource : StoreCall → ResourceType
  | .createProvider _ | .updateProvider .. => .provider
  | .createAccount _ | .bindCredential .. | .updateAccount .. | .acknowledgeTerms ..
  | .recordRouteOutcome .. => .account
  | .createPool _ | .updatePool .. => .pool
  | .createProfile _ | .updateProfile .. => .profile

/-- The row a call was made for. -/
def StoreCall.expectedId : StoreCall → Option String
  | .updateProvider id .. | .bindCredential id .. | .updateAccount id .. | .acknowledgeTerms id ..
  | .updatePool id .. | .updateProfile id .. | .recordRouteOutcome id _ => some id
  | .createProvider _ | .createAccount _ | .createPool _ | .createProfile _ => none

/-- The version a call was made for. -/
def StoreCall.expectedVersion : StoreCall → Option ℕ
  | .updateProvider _ version _ | .bindCredential _ version _ | .updateAccount _ version _
  | .acknowledgeTerms _ version _ | .updatePool _ version _ | .updateProfile _ version _ =>
      some version
  | .createProvider _ | .createAccount _ | .createPool _ | .createProfile _
  | .recordRouteOutcome .. => none

/-- Whether a call publishes a policy revision. -/
def StoreCall.publishes : StoreCall → Bool
  | .recordRouteOutcome .. => false
  | _ => true

/-- The revisions a mutation appends: one, of what the tables list, or none. -/
def Publishes (runtime : NodeRuntime) (changed : Database) (publishPolicy : Bool)
    (revisions : List PolicyRow) : Prop :=
  if publishPolicy then
    ∃ row snapshot, revisions = [row] ∧ changed.snapshot = .ok snapshot ∧
      row.revision = nextPolicyRevision changed ∧ row.compiledJson = snapshot.encoded runtime
  else revisions = []

/-- The tables after a change was committed, with its revisions and its audit event. -/
def Database.committed (changed : Database) (revisions : List PolicyRow) (event : AuditEvent) :
    Database :=
  { changed with
    policyRevisions := changed.policyRevisions ++ revisions
    auditEvents := changed.auditEvents ++ [event] }

/-- A call changed the row it was made for, of the version it was made for, and committed it. -/
def Committed (context : CallContext) (call : StoreCall) (db db' : Database) : Prop :=
  ∃ id changed revisions event, Change db call.resource id changed ∧
    (∀ target ∈ call.expectedId, target = id ∧ ∃ version, db.version? call.resource id = some version) ∧
    (∀ version ∈ call.expectedVersion, db.version? call.resource id = some version) ∧
    Publishes context.runtime changed call.publishes revisions ∧
    event.id = context.auditId ∧ event.result = .ok ∧ db' = changed.committed revisions event

section Work

variable {db db' : Database}

theorem insertAuditEvent_eq_ok {event : AuditEvent} (h : insertAuditEvent event db = .ok () db') :
    db' = { db with auditEvents := db.auditEvents ++ [event] } := by
  obtain ⟨_, _, hread, hinsert⟩ := bind_eq_ok.1 h
  obtain ⟨rfl, rfl⟩ := read_eq_ok.1 hread
  obtain ⟨-, hinsert⟩ := guard_eq_ok.1 hinsert
  exact write_eq_ok.1 hinsert

/-- An event with a new id can be inserted. -/
theorem insertAuditEvent_of_new {event : AuditEvent}
    (h : ∀ other ∈ db.auditEvents, other.id ≠ event.id) :
    insertAuditEvent event db = .ok () { db with auditEvents := db.auditEvents ++ [event] } := by
  have hnew : ¬ db.auditEvents.any (fun other => other.id = event.id) = true := by
    simpa using h
  rw [insertAuditEvent, bind_of_ok (read_eq_ok.2 ⟨rfl, rfl⟩)]
  exact guard_eq_ok.2 ⟨hnew, write_eq_ok.2 rfl⟩

theorem compilePolicy_eq_ok {runtime : NodeRuntime} {createdAt : String} {row : PolicyRow}
    (h : compilePolicy runtime createdAt db = .ok row db') :
    db' = { db with policyRevisions := db.policyRevisions ++ [row] } ∧
      Publishes runtime db true [row] := by
  obtain ⟨_, _, hread, hcompile⟩ := bind_eq_ok.1 h
  obtain ⟨rfl, rfl⟩ := read_eq_ok.1 hread
  obtain ⟨snapshot, _, hlist, hcompile⟩ := bind_eq_ok.1 hcompile
  obtain ⟨hsnapshot, rfl⟩ := ofExcept_eq_ok.1 hlist
  obtain ⟨_, db₂, hinsert, hreturn⟩ := bind_eq_ok.1 hcompile
  obtain ⟨_, _, hread', hwrite⟩ := bind_eq_ok.1 hinsert
  obtain ⟨rfl, rfl⟩ := read_eq_ok.1 hread'
  obtain ⟨-, hwrite⟩ := guard_eq_ok.1 hwrite
  obtain ⟨-, hwrite⟩ := guard_eq_ok.1 hwrite
  obtain rfl := write_eq_ok.1 hwrite
  obtain ⟨rfl, rfl⟩ := pure_eq_ok.1 hreturn
  exact ⟨rfl, _, snapshot, rfl, hsnapshot, rfl, rfl⟩

theorem assertCurrentVersion_eq_ok {resource : ResourceType} {id : String} {version : ℕ}
    (h : assertCurrentVersion resource id version db = .ok () db') :
    db' = db ∧ db.version? resource id = some version := by
  obtain ⟨_, _, hread, hcheck⟩ := bind_eq_ok.1 h
  obtain ⟨hdb, hsame⟩ := read_eq_ok.1 hread
  rw [hdb, hsame] at hcheck
  cases hcurrent : db.version? resource id with
  | none =>
      rw [hcurrent] at hcheck
      exact absurd hcheck throw_ne_ok
  | some current =>
      rw [hcurrent] at hcheck
      obtain ⟨hversion, hdb'⟩ := check_eq_ok.1 hcheck
      exact ⟨hdb', congrArg some (not_not.1 hversion)⟩

theorem checkExpected_eq_ok {resource : ResourceType} {expectedId : Option String}
    {expectedVersion : Option ℕ}
    (h : ControlPlaneStore.checkExpected resource expectedId expectedVersion db = .ok () db') :
    db' = db ∧ ∀ id ∈ expectedId, ∀ version ∈ expectedVersion,
      db.version? resource id = some version := by
  cases expectedId with
  | none => exact ⟨(pure_eq_ok.1 h).2, fun id hid => nomatch hid⟩
  | some id =>
      cases expectedVersion with
      | none => exact ⟨(pure_eq_ok.1 h).2, fun _ _ version hversion => nomatch hversion⟩
      | some version =>
          obtain ⟨hdb, hversion⟩ := assertCurrentVersion_eq_ok h
          refine ⟨hdb, ?_⟩
          rintro id ⟨⟩ version ⟨⟩
          exact hversion

theorem publish_eq_ok {context : CallContext} {publishPolicy : Bool}
    (h : ControlPlaneStore.publish context publishPolicy db = .ok () db') :
    ∃ revisions, db' = { db with policyRevisions := db.policyRevisions ++ revisions } ∧
      Publishes context.runtime db publishPolicy revisions := by
  cases publishPolicy with
  | true =>
      obtain ⟨row, hcompile, -⟩ := map_eq_ok.1 h
      exact ⟨[row], compilePolicy_eq_ok hcompile⟩
  | false =>
      obtain ⟨-, rfl⟩ := pure_eq_ok.1 h
      exact ⟨[], by rw [List.append_nil], rfl⟩

/-- A mutation that succeeds did its work on rows of the expected version, and committed it. -/
theorem mutate_eq_ok {α : Type} [StoredRecord α] {context : CallContext} {actor : ManagementActor}
    {action : String} {resource : ResourceType} {expectedId : Option String}
    {expectedVersion : Option ℕ} {publishPolicy : Bool} {work : Transaction α} {result : α}
    (h : ControlPlaneStore.mutate context actor action resource expectedId expectedVersion
      publishPolicy work db = .ok result db') :
    (∀ id ∈ expectedId, ∀ version ∈ expectedVersion, db.version? resource id = some version) ∧
      ∃ changed revisions event, work db = .ok result changed ∧
        Publishes context.runtime changed publishPolicy revisions ∧
        event.id = context.auditId ∧ event.result = .ok ∧
        db' = changed.committed revisions event := by
  rw [ControlPlaneStore.mutate, reported_eq_ok] at h
  obtain ⟨_, db₀, hcheck, hbody⟩ := bind_eq_ok.1 h
  obtain ⟨rfl, hversion⟩ := checkExpected_eq_ok hcheck
  obtain ⟨_, changed, hwork, hcommit⟩ := bind_eq_ok.1 hbody
  obtain ⟨_, db₂, hpublish, hcommit⟩ := bind_eq_ok.1 hcommit
  obtain ⟨revisions, rfl, hpublishes⟩ := publish_eq_ok hpublish
  obtain ⟨_, db₃, haudit, hreturn⟩ := bind_eq_ok.1 hcommit
  obtain rfl := insertAuditEvent_eq_ok haudit
  obtain ⟨rfl, rfl⟩ := pure_eq_ok.1 hreturn
  exact ⟨hversion, changed, revisions, _, hwork, hpublishes, rfl, rfl, rfl⟩

section

variable {context : CallContext} {actor : ManagementActor} {changed : Database} {id : String}

theorem committed_of_mutate {α : Type} [StoredRecord α] {call : StoreCall} {action : String}
    {work : Transaction α} {result : α}
    (h : ControlPlaneStore.mutate context actor action call.resource call.expectedId
      call.expectedVersion call.publishes work db = .ok result db')
    (hversion : call.expectedId = none → call.expectedVersion = none)
    (hwork : ∀ changed, work db = .ok result changed →
      ∃ id, Change db call.resource id changed ∧
        ∀ target ∈ call.expectedId, target = id ∧
          ∃ version, db.version? call.resource id = some version) :
    Committed context call db db' := by
  obtain ⟨hexpected, changed, revisions, event, hchanged, hpublishes, hid, hresult, rfl⟩ :=
    mutate_eq_ok h
  obtain ⟨id, hchange, htarget⟩ := hwork changed hchanged
  refine ⟨id, changed, revisions, event, hchange, htarget, ?_, hpublishes, hid, hresult, rfl⟩
  intro version hmem
  cases htarget' : call.expectedId with
  | none =>
      rw [hversion htarget'] at hmem
      cases hmem
  | some target =>
      obtain ⟨rfl, -⟩ := htarget target htarget'
      exact hexpected target htarget' version hmem

theorem createProvider_committed {input : CreateProviderInput} {result : ProviderRow}
    (h : ControlPlaneStore.createProvider context actor input db = .ok result db') :
    Committed context (.createProvider input) db db' := by
  refine committed_of_mutate h (fun _ => rfl) fun changed hwork => ?_
  simp only [bind_eq_ok, ofExcept_eq_ok, pure_eq_ok] at hwork
  obtain ⟨name, _, ⟨-, rfl⟩, _, _, hinsert, rfl, rfl⟩ := hwork
  obtain ⟨hnew, rfl⟩ := insertProvider_eq_ok hinsert
  exact ⟨_, .createProvider _ hnew rfl, fun _ hmem => nomatch hmem⟩

theorem updateProvider_committed {version : ℕ} {input : UpdateProviderInput} {result : ProviderRow}
    (hkeyed : db.Keyed)
    (h : ControlPlaneStore.updateProvider context actor id version input db = .ok result db') :
    Committed context (.updateProvider id version input) db db' := by
  refine committed_of_mutate h (fun hnone => nomatch hnone) fun changed hwork => ?_
  simp only [bind_eq_ok, ofExcept_eq_ok, pure_eq_ok] at hwork
  obtain ⟨current, _, hread, name, _, ⟨-, rfl⟩, _, _, hreplace, rfl, rfl⟩ := hwork
  obtain ⟨rfl, hcurrent⟩ := providerById_eq_ok hread
  obtain rfl := hkeyed.providers id current hcurrent
  obtain ⟨stored, written, rfl, hstored, -, hid, hversion⟩ := replaceProvider_eq_ok hreplace
  obtain rfl := Option.some.inj (hcurrent.symm.trans hstored)
  exact ⟨_, .updateProvider _ current written hcurrent hid hversion,
    fun _ hmem => ⟨(Option.some.inj hmem).symm, _, congrArg (Option.map _) hcurrent⟩⟩

theorem createAccount_committed {input : CreateAccountInput} {result : AccountRow}
    (h : ControlPlaneStore.createAccount context actor input db = .ok result db') :
    Committed context (.createAccount input) db db' := by
  refine committed_of_mutate h (fun _ => rfl) fun changed hwork => ?_
  simp only [bind_eq_ok, ofExcept_eq_ok, pure_eq_ok] at hwork
  obtain ⟨provider, _, hprovider, pseudonym, _, ⟨-, rfl⟩, handle, _, ⟨-, rfl⟩, _, _, hinsert, _, _,
    hhealth, rfl, rfl⟩ := hwork
  obtain ⟨rfl, -⟩ := providerById_eq_ok hprovider
  obtain ⟨hnew, rfl⟩ := insertAccount_eq_ok hinsert
  obtain ⟨health, rfl⟩ := insertAccountHealth_eq_ok hhealth
  exact ⟨_, .createAccount _ health hnew rfl, fun _ hmem => nomatch hmem⟩

/-- Replacing an account that was read writes the next version of its row. -/
theorem replaceAccount_of_read {current next : AccountRow} (hid : current.id = id)
    (hcurrent : db.accounts.get? id = some current) (hnext : next.version = current.version + 1)
    (h : replaceAccount current next db = .ok () db') :
    ∃ written, db' = { db with accounts := db.accounts.set id written } ∧ written.id = id ∧
      written.providerId = current.providerId ∧ written.version = current.version + 1 := by
  obtain ⟨stored, written, rfl, hstored, -, hwritten, hprovider, hversion⟩ := replaceAccount_eq_ok h
  rw [hid] at hstored
  obtain rfl := Option.some.inj (hcurrent.symm.trans hstored)
  rw [hid]
  exact ⟨written, rfl, hwritten.trans hid, hprovider, hversion.trans hnext⟩

theorem bindCredential_committed {version : ℕ} {input : BindCredentialInput} {result : AccountRow}
    (hkeyed : db.Keyed)
    (h : ControlPlaneStore.bindCredential context actor id version input db = .ok result db') :
    Committed context (.bindCredential id version input) db db' := by
  refine committed_of_mutate h (fun hnone => nomatch hnone) fun changed hwork => ?_
  simp only [bind_eq_ok, ofExcept_eq_ok, guard_eq_ok, pure_eq_ok] at hwork
  obtain ⟨current, _, hread, handle, _, ⟨-, rfl⟩, -, _, _, hreplace, rfl, rfl⟩ := hwork
  obtain ⟨rfl, hcurrent⟩ := accountById_eq_ok hread
  obtain ⟨written, rfl, hid, hprovider, hversion⟩ :=
    replaceAccount_of_read (hkeyed.accounts id current hcurrent) hcurrent rfl hreplace
  exact ⟨id, .updateAccount id current written _ _ hcurrent hid hprovider hversion,
    fun _ hmem => ⟨(Option.some.inj hmem).symm, _, congrArg (Option.map _) hcurrent⟩⟩

theorem updateAccount_committed {version : ℕ} {input : UpdateAccountInput} {result : AccountRow}
    (hkeyed : db.Keyed)
    (h : ControlPlaneStore.updateAccount context actor id version input db = .ok result db') :
    Committed context (.updateAccount id version input) db db' := by
  refine committed_of_mutate h (fun hnone => nomatch hnone) fun changed hwork => ?_
  simp only [bind_eq_ok, pure_eq_ok] at hwork
  obtain ⟨current, _, hread, _, _, hreplace, rfl, rfl⟩ := hwork
  obtain ⟨rfl, hcurrent⟩ := accountById_eq_ok hread
  obtain ⟨written, rfl, hid, hprovider, hversion⟩ :=
    replaceAccount_of_read (hkeyed.accounts id current hcurrent) hcurrent rfl hreplace
  exact ⟨id, .updateAccount id current written _ _ hcurrent hid hprovider hversion,
    fun _ hmem => ⟨(Option.some.inj hmem).symm, _, congrArg (Option.map _) hcurrent⟩⟩

theorem acknowledgeTerms_committed {version : ℕ} {termsRevision : String} {result : AccountRow}
    (hkeyed : db.Keyed)
    (h : ControlPlaneStore.acknowledgeTerms context actor id version termsRevision db =
      .ok result db') :
    Committed context (.acknowledgeTerms id version termsRevision) db db' := by
  refine committed_of_mutate h (fun hnone => nomatch hnone) fun changed hwork => ?_
  simp only [bind_eq_ok, ofExcept_eq_ok, guard_eq_ok, pure_eq_ok] at hwork
  obtain ⟨current, _, hread, provider, _, hprovider, revision, _, ⟨-, rfl⟩, -, _, _, hterms, _, _,
    hreplace, rfl, rfl⟩ := hwork
  obtain ⟨rfl, hcurrent⟩ := accountById_eq_ok hread
  obtain ⟨rfl, -⟩ := providerById_eq_ok hprovider
  obtain ⟨terms, rfl⟩ := upsertTermsAcknowledgement_eq_ok hterms
  obtain ⟨written, rfl, hid, hprovider, hversion⟩ :=
    replaceAccount_of_read (hkeyed.accounts id current hcurrent) (by exact hcurrent) rfl hreplace
  exact ⟨id, .updateAccount id current written _ terms hcurrent hid hprovider hversion,
    fun _ hmem => ⟨(Option.some.inj hmem).symm, _, congrArg (Option.map _) hcurrent⟩⟩

theorem recordRouteOutcome_committed {input : StoreOutcomeInput} {result : AccountRow}
    (hkeyed : db.Keyed)
    (h : ControlPlaneStore.recordRouteOutcome context actor id input db = .ok result db') :
    Committed context (.recordRouteOutcome id input) db db' := by
  refine committed_of_mutate h (fun hnone => nomatch hnone) fun changed hwork => ?_
  simp only [bind_eq_ok, pure_eq_ok] at hwork
  obtain ⟨current, _, hread, health, _, hhealth, _, _, hreplace, _, _, hwrite, rfl, rfl⟩ := hwork
  obtain ⟨rfl, hcurrent⟩ := accountById_eq_ok hread
  obtain rfl := healthById_eq_ok hhealth
  obtain ⟨written, rfl, hid, hprovider, hversion⟩ :=
    replaceAccount_of_read (hkeyed.accounts id current hcurrent) hcurrent rfl hreplace
  obtain rfl := replaceHealth_eq_ok hwrite
  exact ⟨id, .updateAccount id current written _ _ hcurrent hid hprovider hversion,
    fun _ hmem => ⟨(Option.some.inj hmem).symm, _, congrArg (Option.map _) hcurrent⟩⟩

theorem createPool_committed {input : CreatePoolInput} {result : StoredPool}
    (h : ControlPlaneStore.createPool context actor input db = .ok result db') :
    Committed context (.createPool input) db db' := by
  refine committed_of_mutate h (fun _ => rfl) fun changed hwork => ?_
  simp only [bind_eq_ok, ofExcept_eq_ok, guard_eq_ok] at hwork
  obtain ⟨provider, _, hprovider, name, _, ⟨-, rfl⟩, -, _, _, hinsert, _, _, hplace, hread⟩ := hwork
  obtain ⟨rfl, -⟩ := providerById_eq_ok hprovider
  obtain ⟨hnew, rfl⟩ := insertPool_eq_ok hinsert
  obtain ⟨hplaceable, rfl⟩ := replaceMemberships_eq_ok hplace
  obtain ⟨rfl, -⟩ := poolById_eq_ok hread
  exact ⟨_, .createPool _ _ hnew rfl ⟨hplaceable.nodup, hplaceable.accounts⟩,
    fun _ hmem => nomatch hmem⟩

theorem updatePool_committed {version : ℕ} {input : UpdatePoolInput} {result : StoredPool}
    (hkeyed : db.Keyed)
    (h : ControlPlaneStore.updatePool context actor id version input db = .ok result db') :
    Committed context (.updatePool id version input) db db' := by
  refine committed_of_mutate h (fun hnone => nomatch hnone) fun changed hwork => ?_
  simp only [bind_eq_ok, ofExcept_eq_ok, guard_eq_ok] at hwork
  obtain ⟨current, _, hread, -, name, _, ⟨-, rfl⟩, _, _, hreplace, _, _, hplace, hreturn⟩ := hwork
  obtain ⟨rfl, hcurrent⟩ := poolById_eq_ok hread
  obtain rfl : current.id = id := hkeyed.pools id current.toPoolRow hcurrent
  obtain ⟨stored, written, rfl, hstored, -, hid, hprovider, hversion⟩ := replacePool_eq_ok hreplace
  obtain rfl := Option.some.inj (hcurrent.symm.trans hstored)
  obtain ⟨rfl, -⟩ := poolById_eq_ok hreturn
  cases haccountIds : input.accountIds with
  | none =>
      rw [haccountIds] at hplace
      obtain ⟨-, rfl⟩ := pure_eq_ok.1 hplace
      exact ⟨_, .updatePool _ _ written none hcurrent hid hprovider hversion
        (fun _ hmem => nomatch hmem), fun _ hmem => ⟨(Option.some.inj hmem).symm, _, congrArg (Option.map _) hcurrent⟩⟩
  | some accountIds =>
      rw [haccountIds] at hplace
      obtain ⟨hplaceable, rfl⟩ := replaceMemberships_eq_ok hplace
      refine ⟨_, .updatePool _ _ written (some accountIds) hcurrent hid hprovider hversion ?_,
        fun _ hmem => ⟨(Option.some.inj hmem).symm, _, congrArg (Option.map _) hcurrent⟩⟩
      rintro ids ⟨⟩
      exact ⟨hplaceable.nodup, hplaceable.accounts⟩

theorem assertProfileRefs_eq_ok {providerId poolId : Option String}
    (h : assertProfileRefs providerId poolId db = .ok () db') :
    db' = db ∧ db.RefersTo providerId poolId := by
  obtain ⟨-, hbody⟩ := guard_eq_ok.1 h
  obtain ⟨_, db₁, hprovider, hbody⟩ := bind_eq_ok.1 hbody
  obtain ⟨_, db₂, hpool, hmatch⟩ := bind_eq_ok.1 hbody
  have hdb₁ : db₁ = db := by
    cases providerId with
    | none => exact (pure_eq_ok.1 hprovider).2
    | some provider =>
        obtain ⟨row, hread, -⟩ := map_eq_ok.1 hprovider
        exact (providerById_eq_ok hread).1
  have hdb₂ : db₂ = db₁ := by
    cases poolId with
    | none => exact (pure_eq_ok.1 hpool).2
    | some id =>
        obtain ⟨row, hread, -⟩ := map_eq_ok.1 hpool
        exact (poolById_eq_ok hread).1
  rw [hdb₂, hdb₁] at hmatch
  cases providerId with
  | none => exact ⟨(pure_eq_ok.1 hmatch).2, fun _ hmem => nomatch hmem⟩
  | some provider =>
      cases poolId with
      | none => exact ⟨(pure_eq_ok.1 hmatch).2, fun _ _ _ hmem => nomatch hmem⟩
      | some id =>
          obtain ⟨pool, _, hread, hcheck⟩ := bind_eq_ok.1 hmatch
          obtain ⟨rfl, hstored⟩ := poolById_eq_ok hread
          obtain ⟨hsame, rfl⟩ := check_eq_ok.1 hcheck
          refine ⟨rfl, ?_⟩
          rintro _ ⟨⟩ _ ⟨⟩
          exact ⟨pool.toPoolRow, hstored, not_not.1 hsame⟩

/-- Validated roles were read back without the property `__proto__`. -/
theorem validateModelRoles_eq_ok {roles parsed : OrderedMap String String}
    (h : validateModelRoles roles = .ok parsed) : "__proto__" ∉ parsed.keys := by
  unfold validateModelRoles at h
  obtain ⟨read, hread, hcheck⟩ := Except.bind_eq_ok.1 h
  have hparsed : parsed = read := by
    split at hcheck
    · cases hcheck
    · split at hcheck
      · cases hcheck
      · exact (Except.ok.inj hcheck).symm
  rw [hparsed, parseJsonObject_eq_ok hread]
  exact OrderedMap.not_mem_keys_erase _ _

theorem createProfile_committed {input : CreateProfileInput} {result : ProfileRow}
    (h : ControlPlaneStore.createProfile context actor input db = .ok result db') :
    Committed context (.createProfile input) db db' := by
  refine committed_of_mutate h (fun _ => rfl) fun changed hwork => ?_
  simp only [bind_eq_ok, ofExcept_eq_ok, pure_eq_ok] at hwork
  obtain ⟨_, _, hrefs, name, _, ⟨-, rfl⟩, roles, _, ⟨hroles, rfl⟩, _, _, hinsert, rfl, rfl⟩ := hwork
  obtain ⟨rfl, hrefers⟩ := assertProfileRefs_eq_ok hrefs
  obtain ⟨hnew, rfl⟩ := insertProfile_eq_ok hinsert
  exact ⟨_, .createProfile _ hnew rfl hrefers (validateModelRoles_eq_ok hroles),
    fun _ hmem => nomatch hmem⟩

theorem updateProfile_committed {version : ℕ} {input : UpdateProfileInput} {result : ProfileRow}
    (hkeyed : db.Keyed)
    (h : ControlPlaneStore.updateProfile context actor id version input db = .ok result db') :
    Committed context (.updateProfile id version input) db db' := by
  refine committed_of_mutate h (fun hnone => nomatch hnone) fun changed hwork => ?_
  simp only [bind_eq_ok, ofExcept_eq_ok, pure_eq_ok] at hwork
  obtain ⟨current, _, hread, _, _, hrefs, name, _, ⟨-, rfl⟩, roles, _, ⟨hroles, rfl⟩, _, _, hreplace,
    rfl, rfl⟩ := hwork
  obtain ⟨rfl, stored, hstored, rfl⟩ := profileById_eq_ok hread
  obtain ⟨rfl, hrefers⟩ := assertProfileRefs_eq_ok hrefs
  obtain rfl := hkeyed.profiles id stored hstored
  obtain ⟨stored', written, rfl, hstored', -, hid, hprovider, hpool, hwritten, hversion⟩ :=
    replaceProfile_eq_ok hreplace
  obtain rfl := Option.some.inj (hstored.symm.trans hstored')
  refine ⟨_, .updateProfile _ stored written hstored hid hversion ?_ ?_,
    fun _ hmem => ⟨(Option.some.inj hmem).symm, _, congrArg (Option.map _) hstored⟩⟩
  · rw [hprovider, hpool]
    exact hrefers
  · rw [hwritten]
    cases hinput : input.modelRoles with
    | none =>
        rw [hinput] at hroles
        obtain rfl := Except.ok.inj hroles
        exact OrderedMap.not_mem_keys_erase _ _
    | some given =>
        rw [hinput] at hroles
        exact validateModelRoles_eq_ok hroles

theorem StoreRequest.committed {request : StoreRequest} {reply : StoreReply} (hkeyed : db.Keyed)
    (h : request.transaction context db = .ok reply db') :
    Committed context request.call db db' := by
  obtain ⟨actor, call⟩ := request
  cases call with
  | createProvider input =>
      obtain ⟨_, h, -⟩ := map_eq_ok.1 h
      exact createProvider_committed h
  | updateProvider id version input =>
      obtain ⟨_, h, -⟩ := map_eq_ok.1 h
      exact updateProvider_committed hkeyed h
  | bindCredential id version input =>
      obtain ⟨_, h, -⟩ := map_eq_ok.1 h
      exact bindCredential_committed hkeyed h
  | createAccount input =>
      obtain ⟨_, h, -⟩ := map_eq_ok.1 h
      exact createAccount_committed h
  | updateAccount id version input =>
      obtain ⟨_, h, -⟩ := map_eq_ok.1 h
      exact updateAccount_committed hkeyed h
  | acknowledgeTerms id version termsRevision =>
      obtain ⟨_, h, -⟩ := map_eq_ok.1 h
      exact acknowledgeTerms_committed hkeyed h
  | createPool input =>
      obtain ⟨_, h, -⟩ := map_eq_ok.1 h
      exact createPool_committed h
  | updatePool id version input =>
      obtain ⟨_, h, -⟩ := map_eq_ok.1 h
      exact updatePool_committed hkeyed h
  | createProfile input =>
      obtain ⟨_, h, -⟩ := map_eq_ok.1 h
      exact createProfile_committed h
  | updateProfile id version input =>
      obtain ⟨_, h, -⟩ := map_eq_ok.1 h
      exact updateProfile_committed hkeyed h
  | recordRouteOutcome accountId input =>
      obtain ⟨_, h, -⟩ := map_eq_ok.1 h
      exact recordRouteOutcome_committed hkeyed h

end

end Work

end RlyGateway
