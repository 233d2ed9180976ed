import Mathlib.Data.List.DropRight
import RlyGateway.ControlPlane.References

/-!
# The credentials of accounts

What a call of the control-plane store does with the credentials that the accounts refer to: binding
a credential writes one row of the version it was made for, and no other call touches the handle or
the generation of an account.
-/

namespace RlyGateway

open EStateM MonadExcept

/-! ## Names -/

/-- What is left of a text is trimmed. -/
theorem trimChars_trimChars (text : List Char) : trimChars (trimChars text) = trimChars text := by
  have hends : trimChars text = (text.dropWhile isTrimmed).rdropWhile isTrimmed := rfl
  have hhead : (trimChars text).dropWhile isTrimmed = trimChars text := by
    rw [List.dropWhile_eq_self_iff]
    intro hlength
    have hlist := List.rdropWhile_prefix (p := isTrimmed) (text.dropWhile isTrimmed)
    rw [← hends] at hlist
    have hrest : 0 < (text.dropWhile isTrimmed).length := hlength.trans_le hlist.length_le
    have hfirst : (trimChars text)[0] = (text.dropWhile isTrimmed)[0] := hlist.getElem hlength
    rw [hfirst]
    exact List.dropWhile_get_zero_not isTrimmed text hrest
  calc trimChars (trimChars text)
      = ((trimChars text).dropWhile isTrimmed).rdropWhile isTrimmed := rfl
    _ = (trimChars text).rdropWhile isTrimmed := by rw [hhead]
    _ = trimChars text := by rw [hends, List.rdropWhile_idempotent]

/-- A name that was accepted is accepted as it is. -/
theorem requiredName_requiredName {value name : String} (h : requiredName value = .ok name) :
    requiredName name = .ok name := by
  unfold requiredName at h
  dsimp only at h
  split at h
  · cases h
  · rename_i hne
    cases h
    simp only [requiredName, String.toList_ofList, trimChars_trimChars, if_neg hne]

/-! ## Writes of one account -/

section Writes

variable {context : CallContext} {actor : ManagementActor} {db db' : Database} {id : String}

/-- The accounts before and after a call that leaves the credentials alone: each account has the
credential that it had, and one that is new has generation `0` of a named credential. -/
structure KeepsCredentials (accounts accounts' : OrderedMap String AccountRow) : Prop where
  kept : ∀ id row, accounts.get? id = some row → ∃ row', accounts'.get? id = some row' ∧
    row'.credentialHandle = row.credentialHandle ∧
    row'.credentialGeneration = row.credentialGeneration
  new : ∀ id row', accounts.get? id = none → accounts'.get? id = some row' →
    row'.credentialGeneration = 0 ∧ requiredName row'.credentialHandle = .ok row'.credentialHandle

theorem KeepsCredentials.refl (accounts : OrderedMap String AccountRow) :
    KeepsCredentials accounts accounts where
  kept _ row hrow := ⟨row, hrow, rfl, rfl⟩
  new id row' hnone hrow' := by
    rw [hnone] at hrow'
    cases hrow'

theorem keepsCredentials_set_current {accounts : OrderedMap String AccountRow}
    {current next : AccountRow} (hcurrent : accounts.get? id = some current)
    (hhandle : next.credentialHandle = current.credentialHandle)
    (hgeneration : next.credentialGeneration = current.credentialGeneration) :
    KeepsCredentials accounts (accounts.set id next) where
  kept other row hrow := by
    rw [OrderedMap.get?_set]
    split
    · rename_i hother
      rw [← hother, hcurrent] at hrow
      cases hrow
      exact ⟨next, rfl, hhandle, hgeneration⟩
    · exact ⟨row, hrow, rfl, rfl⟩
  new other row' hnone hrow' := by
    rw [OrderedMap.get?_set] at hrow'
    split at hrow'
    · rename_i hother
      rw [← hother, hcurrent] at hnone
      cases hnone
    · rw [hnone] at hrow'
      cases hrow'

theorem keepsCredentials_set_new {accounts : OrderedMap String AccountRow} {record : AccountRow}
    (hnew : accounts.get? id = none) (hgeneration : record.credentialGeneration = 0)
    (hnamed : requiredName record.credentialHandle = .ok record.credentialHandle) :
    KeepsCredentials accounts (accounts.set id record) where
  kept other row hrow := by
    rw [OrderedMap.get?_set]
    split
    · rename_i hother
      rw [← hother, hnew] at hrow
      cases hrow
    · exact ⟨row, hrow, rfl, rfl⟩
  new other row' hnone hrow' := by
    rw [OrderedMap.get?_set] at hrow'
    split at hrow'
    · cases hrow'
      exact ⟨hgeneration, hnamed⟩
    · rw [hnone] at hrow'
      cases hrow'

/-- A row with what an update writes of the next one. -/
def AccountRow.written (row next : AccountRow) : AccountRow :=
  { row with
    credentialHandle := next.credentialHandle
    credentialGeneration := next.credentialGeneration
    state := next.state
    pauseReason := next.pauseReason
    quotaClass := next.quotaClass
    cooldownUntil := next.cooldownUntil
    termsRevision := next.termsRevision
    termsAcknowledgedRevision := next.termsAcknowledgedRevision
    version := next.version
    updatedAt := next.updatedAt }

/-- Replacing an account that was read writes what its next row says. -/
theorem replaceAccount_of_current {current next : AccountRow} (hid : current.id = id)
    (hcurrent : db.accounts.get? id = some current) (h : replaceAccount current next db = .ok () db') :
    db' = { db with accounts := db.accounts.set id (current.written next) } := by
  simp only [replaceAccount, bind_eq_ok, read_eq_ok, ofExcept_eq_ok, write_eq_ok,
    requireChanges_eq_ok] at h
  obtain ⟨_, _, ⟨rfl, rfl⟩, changed, _, ⟨hupdate, rfl⟩, accounts, _, ⟨rfl, rfl⟩, rfl⟩ := h
  obtain ⟨stored, hstored, -, rfl⟩ := updateRow_eq_ok hupdate
  rw [hid] at hstored ⊢
  obtain rfl := Option.some.inj (hcurrent.symm.trans hstored)
  rfl

/-- A binding writes the account of the version it was made for. -/
theorem bindCredential_eq_ok {version : ℕ} {input : BindCredentialInput} {result : AccountRow}
    (hkeyed : db.Keyed)
    (h : ControlPlaneStore.bindCredential context actor id version input db = .ok result db') :
    ∃ current handle, db.accounts.get? id = some current ∧ current.version = version ∧
      requiredName input.credentialHandle = .ok handle ∧
      db'.accounts = db.accounts.set id
        { current with
          credentialHandle := handle
          credentialGeneration := input.credentialGeneration.toNat
          state := input.state
          pauseReason := if input.state = .paused then current.pauseReason else none
          version := current.version + 1
          updatedAt := context.now } := by
  obtain ⟨hversion, changed, revisions, event, hwork, -, -, -, rfl⟩ := mutate_eq_ok h
  simp only [bind_eq_ok, ofExcept_eq_ok, guard_eq_ok, pure_eq_ok] at hwork
  obtain ⟨current, _, hread, handle, _, ⟨hhandle, rfl⟩, -, _, _, hreplace, rfl, rfl⟩ := hwork
  obtain ⟨rfl, hcurrent⟩ := accountById_eq_ok hread
  obtain rfl := replaceAccount_of_current (hkeyed.accounts id current hcurrent) hcurrent hreplace
  have hmade := hversion id rfl version rfl
  rw [Database.version?, hcurrent] at hmade
  exact ⟨current, handle, hcurrent, Option.some.inj hmade, hhandle, rfl⟩

theorem createAccount_keepsCredentials {input : CreateAccountInput} {result : AccountRow}
    (h : ControlPlaneStore.createAccount context actor input db = .ok result db') :
    KeepsCredentials db.accounts db'.accounts := by
  obtain ⟨-, changed, revisions, event, hwork, -, -, -, rfl⟩ := mutate_eq_ok h
  simp only [bind_eq_ok, ofExcept_eq_ok, pure_eq_ok] at hwork
  obtain ⟨provider, _, hprovider, pseudonym, _, ⟨-, rfl⟩, handle, _, ⟨hhandle, rfl⟩, _, _, hinsert,
    _, _, hhealth, rfl, rfl⟩ := hwork
  obtain ⟨rfl, -⟩ := providerById_eq_ok hprovider
  obtain ⟨hnew, rfl⟩ := insertAccount_eq_ok hinsert
  obtain ⟨health, rfl⟩ := insertAccountHealth_eq_ok hhealth
  exact keepsCredentials_set_new hnew rfl (requiredName_requiredName hhandle)

theorem updateAccount_keepsCredentials {version : ℕ} {input : UpdateAccountInput}
    {result : AccountRow} (hkeyed : db.Keyed)
    (h : ControlPlaneStore.updateAccount context actor id version input db = .ok result db') :
    KeepsCredentials db.accounts db'.accounts := by
  obtain ⟨-, changed, revisions, event, hwork, -, -, -, rfl⟩ := mutate_eq_ok h
  simp only [bind_eq_ok, pure_eq_ok] at hwork
  obtain ⟨current, _, hread, _, _, hreplace, rfl, rfl⟩ := hwork
  obtain ⟨rfl, hcurrent⟩ := accountById_eq_ok hread
  obtain rfl := replaceAccount_of_current (hkeyed.accounts id current hcurrent) hcurrent hreplace
  exact keepsCredentials_set_current hcurrent rfl rfl

theorem acknowledgeTerms_keepsCredentials {version : ℕ} {termsRevision : String}
    {result : AccountRow} (hkeyed : db.Keyed)
    (h : ControlPlaneStore.acknowledgeTerms context actor id version termsRevision db =
      .ok result db') :
    KeepsCredentials db.accounts db'.accounts := by
  obtain ⟨-, changed, revisions, event, hwork, -, -, -, rfl⟩ := mutate_eq_ok h
  simp only [bind_eq_ok, ofExcept_eq_ok, guard_eq_ok, pure_eq_ok] at hwork
  obtain ⟨current, _, hread, provider, _, hprovider, revision, _, ⟨-, rfl⟩, -, _, _, hupsert, _, _,
    hreplace, rfl, rfl⟩ := hwork
  obtain ⟨rfl, hcurrent⟩ := accountById_eq_ok hread
  obtain ⟨rfl, -⟩ := providerById_eq_ok hprovider
  obtain ⟨terms, rfl⟩ := upsertTermsAcknowledgement_eq_ok hupsert
  obtain rfl := replaceAccount_of_current (hkeyed.accounts id current hcurrent) (by exact hcurrent)
    hreplace
  exact keepsCredentials_set_current hcurrent rfl rfl

theorem recordRouteOutcome_keepsCredentials {input : StoreOutcomeInput} {result : AccountRow}
    (hkeyed : db.Keyed)
    (h : ControlPlaneStore.recordRouteOutcome context actor id input db = .ok result db') :
    KeepsCredentials db.accounts db'.accounts := by
  obtain ⟨-, changed, revisions, event, hwork, -, -, -, rfl⟩ := mutate_eq_ok h
  simp only [bind_eq_ok, pure_eq_ok] at hwork
  obtain ⟨current, _, hread, health, _, hhealth, _, _, hreplace, _, _, hwrite, rfl, rfl⟩ := hwork
  obtain ⟨rfl, hcurrent⟩ := accountById_eq_ok hread
  obtain rfl := healthById_eq_ok hhealth
  obtain rfl := replaceAccount_of_current (hkeyed.accounts id current hcurrent) hcurrent hreplace
  obtain rfl := replaceHealth_eq_ok hwrite
  exact keepsCredentials_set_current hcurrent rfl rfl

/-- A change of another kind of row leaves the accounts as they are. -/
theorem Change.accounts {resource : ResourceType} (h : Change db resource id db')
    (hresource : resource ≠ .account) : db'.accounts = db.accounts := by
  cases h with
  | createAccount | updateAccount => exact absurd rfl hresource
  | createProvider | updateProvider | createPool | updatePool | createProfile
  | updateProfile => rfl

end Writes

/-! ## Requests -/

section Requests

variable {platform : StorePlatform} {state : StoreState}

/-- The request binds a credential. -/
def StoreCall.Binds : StoreCall → Prop
  | .bindCredential .. => True
  | _ => False

instance : DecidablePred StoreCall.Binds
  | .bindCredential .. => isTrue trivial
  | .createProvider _ | .updateProvider .. | .createAccount _ | .updateAccount ..
  | .acknowledgeTerms .. | .createPool _ | .updatePool .. | .createProfile _ | .updateProfile ..
  | .recordRouteOutcome .. => isFalse id

/-- A rejected request leaves the accounts as they were. -/
theorem StoreState.Sound.accounts_of_error (h : state.Sound platform) {request : StoreRequest}
    {error : StoreError} {db' : Database} (herror : platform.outcome state request = .error error db') :
    db'.accounts = state.database.accounts := by
  obtain ⟨event, -, -, rfl⟩ := StoreRequest.rejected (h.new (by omega)) herror
  rfl

/-- Only a binding touches the credentials of accounts. -/
theorem StoreState.Sound.keepsCredentials (h : state.Sound platform) {request : StoreRequest}
    (hbinds : ¬ request.call.Binds) :
    KeepsCredentials state.database.accounts (platform.serve state request).database.accounts := by
  rw [StorePlatform.serve]
  cases houtcome : platform.outcome state request with
  | error error db' =>
      change KeepsCredentials _ db'.accounts
      rw [h.accounts_of_error houtcome]
      exact KeepsCredentials.refl _
  | ok reply db' =>
      change KeepsCredentials _ db'.accounts
      obtain ⟨actor, call⟩ := request
      have hcommitted := StoreRequest.committed h.keyed houtcome
      have hother : call.resource ≠ .account →
          KeepsCredentials state.database.accounts db'.accounts := by
        intro hresource
        obtain ⟨_, changed, _, _, hchange, -, -, -, -, -, rfl⟩ := hcommitted
        rw [show (changed.committed _ _).accounts = changed.accounts from rfl,
          hchange.accounts hresource]
        exact KeepsCredentials.refl _
      cases call with
      | createProvider | updateProvider | createPool | updatePool | createProfile
      | updateProfile => exact hother (by simp [StoreCall.resource])
      | bindCredential => exact absurd trivial hbinds
      | createAccount input =>
          obtain ⟨_, hwork, -⟩ := map_eq_ok.1 houtcome
          exact createAccount_keepsCredentials hwork
      | updateAccount id version input =>
          obtain ⟨_, hwork, -⟩ := map_eq_ok.1 houtcome
          exact updateAccount_keepsCredentials h.keyed hwork
      | acknowledgeTerms id version termsRevision =>
          obtain ⟨_, hwork, -⟩ := map_eq_ok.1 houtcome
          exact acknowledgeTerms_keepsCredentials h.keyed hwork
      | recordRouteOutcome id input =>
          obtain ⟨_, hwork, -⟩ := map_eq_ok.1 houtcome
          exact recordRouteOutcome_keepsCredentials h.keyed hwork

/-- A binding leaves the accounts as they are, or writes the one of the version it was made for. -/
theorem StoreState.Sound.bindCredential (h : state.Sound platform) (actor : ManagementActor)
    (id : String) (version : ℕ) (input : BindCredentialInput) :
    (platform.serve state ⟨actor, .bindCredential id version input⟩).database.accounts =
        state.database.accounts ∨
      ∃ current handle next, state.database.accounts.get? id = some current ∧
        current.version = version ∧ requiredName input.credentialHandle = .ok handle ∧
        next.credentialHandle = handle ∧
        next.credentialGeneration = input.credentialGeneration.toNat ∧ next.state = input.state ∧
        (platform.serve state ⟨actor, .bindCredential id version input⟩).database.accounts =
          state.database.accounts.set id next := by
  rw [StorePlatform.serve]
  cases houtcome : platform.outcome state ⟨actor, .bindCredential id version input⟩ with
  | error error db' => exact Or.inl (h.accounts_of_error houtcome)
  | ok reply db' =>
      obtain ⟨_, hwork, -⟩ := map_eq_ok.1 houtcome
      obtain ⟨current, handle, hcurrent, hversion, hhandle, haccounts⟩ :=
        bindCredential_eq_ok h.keyed hwork
      exact Or.inr ⟨current, handle, _, hcurrent, hversion, hhandle, rfl, rfl, rfl, haccounts⟩

end Requests

end RlyGateway
