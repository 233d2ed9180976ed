import RlyGateway.ControlPlane.AccountCredentials
import RlyGateway.ControlPlane.Versions
import RlyGateway.Credentials.Records

/-!
# Binding credentials to accounts

The synchronous parts of `CredentialService`: how an account is looked up, how a credential is bound
to it, and how one that a login or an import has stored is attached to its account.
-/

namespace RlyGateway

open EStateM

/-- What the credentials take from the platform besides: the handles drawn by `randomBytes`, of
which no two are equal. -/
structure CredentialPlatform extends StorePlatform where
  credentialHandle : ℕ → String
  credentialHandle_injective : Function.Injective credentialHandle
  credentialHandle_named : ∀ n, requiredName (credentialHandle n) = .ok (credentialHandle n)

/-- A platform that counts its handles as well. -/
def countingCredentialPlatform : CredentialPlatform where
  toStorePlatform := countingPlatform
  credentialHandle n := String.ofList (List.replicate (n + 1) 'c')
  credentialHandle_injective := injective_ofList_replicate 'c'
  credentialHandle_named n := by
    have htrimmed : isTrimmed 'c' = false := by decide
    simp [requiredName, trimChars, htrimmed]

/-! ## Requests -/

section Requests

variable (platform : StorePlatform) (state : StoreState)

/-- The reply to a request, if it succeeds, and the state after it. -/
def StorePlatform.attempt (request : StoreRequest) : Option StoreReply × StoreState :=
  match platform.outcome state request with
  | .ok reply db => (some reply, ⟨db, state.served + 1⟩)
  | .error _ db => (none, ⟨db, state.served + 1⟩)

@[simp] theorem StorePlatform.attempt_snd (request : StoreRequest) :
    (platform.attempt state request).2 = platform.serve state request := by
  rw [StorePlatform.attempt, StorePlatform.serve]
  cases platform.outcome state request <;> rfl

end Requests

theorem StoreState.Sound.foldl {platform : StorePlatform} {state : StoreState}
    (h : state.Sound platform) (requests : List StoreRequest) :
    (requests.foldl platform.serve state).Sound platform ∧
      Advances (·.version) state.database.accounts.get?
        (requests.foldl platform.serve state).database.accounts.get? := by
  induction requests generalizing state with
  | nil => exact ⟨h, Advances.refl _⟩
  | cons request requests ih =>
      obtain ⟨hsound, hadvances⟩ := ih (h.serve request)
      exact ⟨hsound, (h.advancesTo request).accounts.trans hadvances⟩

/-! ## Lookup -/

/-- `this.account(id)`, which throws where there is none. -/
def Database.account? (db : Database) (id : String) : Option AccountRow :=
  match listAccounts db with
  | .ok accounts => accounts.find? fun account => account.id = id
  | .error _ => none

/-- The credentials that an account of a provider takes. -/
def Database.credentialProvider? (db : Database) (providerId : String) :
    Option CredentialProviderName :=
  match listProviders db with
  | .ok providers =>
      (providers.find? fun provider => provider.id = providerId).bind fun provider =>
        (credentialContract provider.name).bind (·.credentialProvider)
  | .error _ => none

theorem Database.account?_eq_some {db : Database} (hkeyed : db.Keyed) {id : String}
    {row : AccountRow} (h : db.account? id = some row) :
    row.id = id ∧ db.accounts.get? id = some row := by
  unfold Database.account? at h
  split at h
  · rename_i accounts haccounts
    have hid : row.id = id := by simpa using List.find?_some h
    obtain ⟨key, hkey⟩ :=
      mem_of_mem_values ((listAccounts_perm haccounts).mem_iff.1 (List.mem_of_find?_eq_some h))
    refine ⟨hid, ?_⟩
    rw [← hid, hkeyed.accounts key row hkey]
    exact hkey
  · cases h

/-! ## Binding -/

/-- Binds a credential to an account of a version. -/
def bindRequest (accountId : String) (version : ℕ) (handle : String) (generation : ℕ)
    (state : AccountState) (actor : ManagementActor) : StoreRequest where
  actor
  call := .bindCredential accountId version ⟨handle, generation, state⟩

def bindReady (accountId : String) (version : ℕ) (metadata : CredentialMetadata)
    (actor : ManagementActor) : StoreRequest :=
  bindRequest accountId version metadata.handle metadata.generation .ready actor

/-- Attaches a credential to the account of its pseudonym, which is created where there is none,
with the handles that are revoked on the way. -/
def attachAccount (platform : StorePlatform) (providerId : String) (metadata : CredentialMetadata)
    (actor : ManagementActor) (state : StoreState) : StoreState × List String :=
  if state.database.credentialProvider? providerId ≠ some metadata.provider then
    (state, [metadata.handle])
  else
    match listAccounts state.database with
    | .error _ => (state, [metadata.handle])
    | .ok accounts =>
        match accounts.find? fun account =>
          account.providerId = providerId ∧ account.pseudonym = metadata.pseudonym with
        | some existing =>
            match platform.attempt state (bindReady existing.id existing.version metadata actor) with
            | (some _, state) =>
                (state, if existing.credentialHandle ≠ metadata.handle then
                  [existing.credentialHandle] else [])
            | (none, state) => (state, [metadata.handle])
        | none =>
            match platform.attempt state
              ⟨actor, .createAccount
                ⟨metadata.pseudonym, providerId, metadata.handle, some .unready, none⟩⟩ with
            | (some (.account created), state) =>
                match platform.attempt state
                  (bindReady created.id created.version metadata actor) with
                | (some _, state) => (state, [])
                | (none, state) => (state, [metadata.handle])
            | (_, state) => (state, [metadata.handle])

/-- The request attaches a credential: it binds it, or it binds none. -/
def Attaches (metadata : CredentialMetadata) (request : StoreRequest) : Prop :=
  (∃ id version actor, request = bindReady id version metadata actor) ∨ ¬ request.call.Binds

/-- Attaching a credential is a sequence of requests that attach it. -/
theorem attachAccount_eq_foldl (platform : StorePlatform) (providerId : String)
    (metadata : CredentialMetadata) (actor : ManagementActor) (state : StoreState) :
    ∃ requests : List StoreRequest, (∀ request ∈ requests, Attaches metadata request) ∧
      (attachAccount platform providerId metadata actor state).1 =
        requests.foldl platform.serve state := by
  have hattempt : ∀ (state state' : StoreState) (request : StoreRequest) (reply : Option StoreReply),
      platform.attempt state request = (reply, state') → state' = platform.serve state request := by
    intro state state' request reply h
    rw [← platform.attempt_snd state request, h]
  unfold attachAccount
  split
  · exact ⟨[], by simp, rfl⟩
  split
  · exact ⟨[], by simp, rfl⟩
  split
  · rename_i existing _
    refine ⟨[bindReady existing.id existing.version metadata actor],
      List.forall_mem_singleton.2 (Or.inl ⟨_, _, _, rfl⟩), ?_⟩
    split
    · rename_i heq
      exact hattempt _ _ _ _ heq
    · rename_i heq
      exact hattempt _ _ _ _ heq
  · split
    · rename_i created afterwards hcreate
      refine ⟨[⟨actor, .createAccount
          ⟨metadata.pseudonym, providerId, metadata.handle, some .unready, none⟩⟩,
        bindReady created.id created.version metadata actor], ?_, ?_⟩
      · simp only [List.forall_mem_cons]
        exact ⟨Or.inr id, Or.inl ⟨_, _, _, rfl⟩, fun _ h => absurd h List.not_mem_nil⟩
      · rw [List.foldl_cons, ← hattempt _ _ _ _ hcreate]
        split
        · rename_i heq
          exact hattempt _ _ _ _ heq
        · rename_i heq
          exact hattempt _ _ _ _ heq
    · rename_i afterwards _ hcreate
      refine ⟨[⟨actor, .createAccount
        ⟨metadata.pseudonym, providerId, metadata.handle, some .unready, none⟩⟩], ?_, ?_⟩
      · exact List.forall_mem_singleton.2 (Or.inr id)
      · exact hattempt _ _ _ _ hcreate

/-! ## What was attached -/

theorem StorePlatform.outcome_of_attempt {platform : StorePlatform} {state state' : StoreState}
    {request : StoreRequest} {reply : StoreReply}
    (h : platform.attempt state request = (some reply, state')) :
    platform.outcome state request = .ok reply state'.database := by
  unfold StorePlatform.attempt at h
  split at h
  · rename_i houtcome
    cases h
    exact houtcome
  · cases h

/-- An account of the provider and the pseudonym, which an account that is created trims, is ready
with the credential. -/
def Database.Attached (db : Database) (providerId : String) (metadata : CredentialMetadata) : Prop :=
  ∃ id row, db.accounts.get? id = some row ∧ row.providerId = providerId ∧
    (row.pseudonym = metadata.pseudonym ∨ requiredName metadata.pseudonym = .ok row.pseudonym) ∧
    row.credentialHandle = metadata.handle ∧ row.credentialGeneration = metadata.generation ∧
    row.state = .ready

section Attached

variable {platform : StorePlatform} {state state' : StoreState} {metadata : CredentialMetadata}
  {actor : ManagementActor}

theorem StoreState.Sound.attempt (h : state.Sound platform) {request : StoreRequest}
    {reply : Option StoreReply} (hattempt : platform.attempt state request = (reply, state')) :
    state'.Sound platform := by
  have hserve := h.serve request
  rw [← platform.attempt_snd, hattempt] at hserve
  exact hserve

/-- A binding that succeeds attaches the credential to the account it was made for. -/
theorem attached_of_bind (h : state.Sound platform) {account : AccountRow} {reply : StoreReply}
    (haccount : state.database.accounts.get? account.id = some account)
    (hpseudonym : account.pseudonym = metadata.pseudonym ∨
      requiredName metadata.pseudonym = .ok account.pseudonym)
    (hnamed : requiredName metadata.handle = .ok metadata.handle)
    (hattempt : platform.attempt state (bindReady account.id account.version metadata actor) =
      (some reply, state')) : state'.database.Attached account.providerId metadata := by
  obtain ⟨_, hwork, -⟩ := map_eq_ok.1 (StorePlatform.outcome_of_attempt hattempt)
  obtain ⟨current, handle, hcurrent, -, hhandle, haccounts⟩ := bindCredential_eq_ok h.keyed hwork
  rw [haccount] at hcurrent
  cases hcurrent
  have hsame : handle = metadata.handle := Except.ok.inj (hhandle.symm.trans hnamed)
  have hrow := congrArg (fun accounts => accounts.get? account.id) haccounts
  rw [OrderedMap.get?_set_self] at hrow
  exact ⟨account.id, _, hrow, rfl, hpseudonym, hsame, Int.toNat_natCast metadata.generation, rfl⟩

/-- An account that was created is there, for the provider and the pseudonym given. -/
theorem createAccount_eq_ok {context : CallContext} {input : CreateAccountInput}
    {created : AccountRow} {db db' : Database}
    (h : ControlPlaneStore.createAccount context actor input db = .ok created db') :
    db'.accounts.get? created.id = some created ∧ created.providerId = input.providerId ∧
      requiredName input.pseudonym = .ok created.pseudonym := by
  obtain ⟨-, changed, revisions, event, hwork, -, -, -, rfl⟩ := mutate_eq_ok h
  simp only [bind_eq_ok, ofExcept_eq_ok, pure_eq_ok] at hwork
  obtain ⟨provider, _, hprovider, pseudonym, _, ⟨hpseudonym, rfl⟩, handle, _, ⟨-, rfl⟩, _, _,
    hinsert, _, _, hhealth, rfl, rfl⟩ := hwork
  obtain ⟨rfl, -⟩ := providerById_eq_ok hprovider
  obtain ⟨-, rfl⟩ := insertAccount_eq_ok hinsert
  obtain ⟨health, rfl⟩ := insertAccountHealth_eq_ok hhealth
  exact ⟨OrderedMap.get?_set_self _ _ _, rfl, hpseudonym⟩

/-- A credential that was not revoked on the way is attached. -/
theorem attached_of_not_mem (h : state.Sound platform) {providerId : String}
    (hnamed : requiredName metadata.handle = .ok metadata.handle)
    (hkept : metadata.handle ∉ (attachAccount platform providerId metadata actor state).2) :
    (attachAccount platform providerId metadata actor state).1.database.Attached providerId
      metadata := by
  unfold attachAccount at hkept ⊢
  split at hkept
  · exact absurd (List.mem_singleton_self _) hkept
  · rename_i hprovider
    rw [if_neg hprovider]
    split at hkept
    · exact absurd (List.mem_singleton_self _) hkept
    · rename_i accounts haccounts
      split at hkept
      · rename_i existing hexisting
        have hmatches := List.find?_some hexisting
        rw [decide_eq_true_eq] at hmatches
        obtain ⟨rfl, hpseudonym⟩ := hmatches
        obtain ⟨key, hkey⟩ := mem_of_mem_values
          ((listAccounts_perm haccounts).mem_iff.1 (List.mem_of_find?_eq_some hexisting))
        have hrow : state.database.accounts.get? existing.id = some existing := by
          rw [h.keyed.accounts key existing hkey]
          exact hkey
        split at hkept
        · rename_i hbind
          exact attached_of_bind h hrow (Or.inl hpseudonym) hnamed hbind
        · exact absurd (List.mem_singleton_self _) hkept
      · split at hkept
        · rename_i created afterwards hcreate
          obtain ⟨created', hwork, hreply⟩ :=
            map_eq_ok.1 (StorePlatform.outcome_of_attempt hcreate)
          cases hreply
          obtain ⟨hrow, hprovider', hpseudonym⟩ := createAccount_eq_ok hwork
          split at hkept
          · rename_i hbind
            have hattached := attached_of_bind (h.attempt hcreate) hrow (Or.inr hpseudonym) hnamed
              hbind
            rw [hprovider'] at hattached
            exact hattached
          · exact absurd (List.mem_singleton_self _) hkept
        · exact absurd (List.mem_singleton_self _) hkept

end Attached

end RlyGateway
