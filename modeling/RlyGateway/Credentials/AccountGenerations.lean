import RlyGateway.Credentials.Refreshes

/-!
# What refreshes do to accounts

An account refers to generations of credentials. The ledger of a run holds all the references that
were ever made; a reference that follows them is to no earlier generation of its credential, nor to
a later one than is stored. Every binding that the service makes follows the ledger.
-/

namespace RlyGateway

/-! ## The ledger -/

/-- The handles and generations that each account has referred to. -/
abbrev References := String → String → ℕ → Prop

section Ledger

variable {platform : StorePlatform} {known known' : String → Prop}
  {records records' : CredentialRecords} {referred : References} {store store' : StoreState}

/-- What holds of the references, the records and the accounts of a service. -/
structure Ledger (platform : StorePlatform) (known : String → Prop) (records : CredentialRecords)
    (referred : References) (store : StoreState) : Prop where
  sound : store.Sound platform
  named : ∀ id row, store.database.accounts.get? id = some row →
    requiredName row.credentialHandle = .ok row.credentialHandle
  current : ∀ id row, store.database.accounts.get? id = some row →
    referred id row.credentialHandle row.credentialGeneration
  present : ∀ id handle generation, referred id handle generation →
    ∃ row, store.database.accounts.get? id = some row
  row_le : ∀ id handle generation row, referred id handle generation →
    store.database.accounts.get? id = some row → row.credentialHandle = handle →
    generation ≤ row.credentialGeneration
  record_le : ∀ id handle generation record, referred id handle generation →
    records.get? handle = some record → generation ≤ record.generation
  drawn : ∀ id handle generation, referred id handle generation → generation = 0 ∨ known handle

/-- A reference that an account can make after those of a ledger. -/
structure Follows (known : String → Prop) (records : CredentialRecords) (referred : References)
    (id handle : String) (generation : ℕ) : Prop where
  named : requiredName handle = .ok handle
  le : ∀ earlier, referred id handle earlier → earlier ≤ generation
  record_le : ∀ record, records.get? handle = some record → generation ≤ record.generation
  drawn : generation = 0 ∨ known handle

/-- What an account refers to, it can refer to again. -/
theorem Ledger.follows_current (h : Ledger platform known records referred store) {id : String}
    {row : AccountRow} (hrow : store.database.accounts.get? id = some row) :
    Follows known records referred id row.credentialHandle row.credentialGeneration where
  named := h.named id row hrow
  le _ hearlier := h.row_le id _ _ row hearlier hrow rfl
  record_le record hrecord := h.record_le id _ _ record (h.current id row hrow) hrecord
  drawn := h.drawn id _ _ (h.current id row hrow)

/-- An account can refer to the generation that is stored. -/
theorem Ledger.follows_stored (h : Ledger platform known records referred store) {handle : String}
    {record : CredentialRecord} (hrecord : records.get? handle = some record)
    (hnamed : requiredName handle = .ok handle) (hknown : known handle) (id : String) :
    Follows known records referred id handle record.generation where
  named := hnamed
  le _ hearlier := h.record_le id handle _ record hearlier hrecord
  record_le record' hrecord' := by
    rw [hrecord] at hrecord'
    cases hrecord'
    exact le_rfl
  drawn := Or.inr hknown

/-- Accounts that are written with references that follow the ledger extend it. -/
theorem Ledger.write (h : Ledger platform known records referred store)
    (hsound : store'.Sound platform)
    (hkept : ∀ id row, store.database.accounts.get? id = some row →
      ∃ row', store'.database.accounts.get? id = some row')
    (hfollows : ∀ id row, store'.database.accounts.get? id = some row →
      Follows known records referred id row.credentialHandle row.credentialGeneration) :
    ∃ referred' : References, (∀ id handle generation, referred id handle generation →
      referred' id handle generation) ∧ Ledger platform known records referred' store' := by
  refine ⟨fun id handle generation => referred id handle generation ∨
    ∃ row, store'.database.accounts.get? id = some row ∧ row.credentialHandle = handle ∧
      row.credentialGeneration = generation, fun _ _ _ => Or.inl, ?_⟩
  refine ⟨hsound, fun id row hrow => (hfollows id row hrow).named,
    fun id row hrow => Or.inr ⟨row, hrow, rfl, rfl⟩, ?_, ?_, ?_, ?_⟩
  · rintro id handle generation (hold | ⟨row, hrow, -, -⟩)
    · obtain ⟨row, hrow⟩ := h.present id handle generation hold
      exact hkept id row hrow
    · exact ⟨row, hrow⟩
  · rintro id handle generation row (hold | ⟨row', hrow', hhandle', rfl⟩) hrow hhandle
    · subst hhandle
      exact (hfollows id row hrow).le generation hold
    · rw [hrow'] at hrow
      cases hrow
      exact le_rfl
  · rintro id handle generation record (hold | ⟨row, hrow, rfl, rfl⟩) hrecord
    · exact h.record_le id handle generation record hold hrecord
    · exact (hfollows id row hrow).record_le record hrecord
  · rintro id handle generation (hold | ⟨row, hrow, rfl, rfl⟩)
    · exact h.drawn id handle generation hold
    · exact (hfollows id row hrow).drawn

/-- A request that binds, if at all, what follows the ledger extends it. -/
theorem Ledger.serve (h : Ledger platform known records referred store) (request : StoreRequest)
    (hbinds : request.call.Binds → ∃ id version handle generation state actor,
      request = bindRequest id version handle generation state actor ∧
      ∀ current, store.database.accounts.get? id = some current → current.version = version →
        Follows known records referred id handle generation) :
    ∃ referred' : References, (∀ id handle generation, referred id handle generation →
      referred' id handle generation) ∧
      Ledger platform known records referred' (platform.serve store request) := by
  have hadvances := (h.sound.advancesTo request).accounts
  refine h.write (h.sound.serve request) (fun id row hrow => ?_) ?_
  · obtain ⟨row', hrow', -⟩ := hadvances id row hrow
    exact ⟨row', hrow'⟩
  by_cases hcall : request.call.Binds
  · obtain ⟨id, version, handle, generation, state, actor, rfl, hfollows⟩ := hbinds hcall
    rcases h.sound.bindCredential actor id version ⟨handle, generation, state⟩ with
      hsame | ⟨current, name, next, hcurrent, hversion, hname, hhandle, hgeneration, -, hset⟩
    · intro other row hrow
      rw [show (platform.serve store (bindRequest id version handle generation state
        actor)).database.accounts = _ from hsame] at hrow
      exact h.follows_current hrow
    · intro other row hrow
      rw [show (platform.serve store (bindRequest id version handle generation state
        actor)).database.accounts = _ from hset, OrderedMap.get?_set] at hrow
      split at hrow
      · rename_i hother
        cases hrow
        have hnext := hfollows current hcurrent hversion
        have hsame : name = handle := Except.ok.inj (hname.symm.trans hnext.named)
        rw [hhandle, hgeneration, hsame, ← hother]
        exact hnext
      · exact h.follows_current hrow
  · have hkeeps := h.sound.keepsCredentials hcall
    intro id row' hrow'
    cases hrow : store.database.accounts.get? id with
    | some row =>
        obtain ⟨row'', hrow'', hhandle, hgeneration⟩ := hkeeps.kept id row hrow
        rw [hrow'] at hrow''
        cases hrow''
        rw [hhandle, hgeneration]
        exact h.follows_current hrow
    | none =>
        obtain ⟨hgeneration, hnamed⟩ := hkeeps.new id row' hrow hrow'
        refine ⟨hnamed, ?_, fun record _ => by omega, Or.inl hgeneration⟩
        intro earlier hearlier
        obtain ⟨row, hpresent⟩ := h.present id _ earlier hearlier
        rw [hrow] at hpresent
        cases hpresent

/-- Requests that attach what is stored extend the ledger. -/
theorem Ledger.attach {metadata : CredentialMetadata} {record : CredentialRecord}
    (hrecord : records.get? metadata.handle = some record)
    (hgeneration : record.generation = metadata.generation)
    (hnamed : requiredName metadata.handle = .ok metadata.handle) (hknown : known metadata.handle)
    (requests : List StoreRequest) (hattaches : ∀ request ∈ requests, Attaches metadata request)
    (h : Ledger platform known records referred store) :
    ∃ referred' : References, (∀ id handle generation, referred id handle generation →
      referred' id handle generation) ∧
      Ledger platform known records referred' (requests.foldl platform.serve store) := by
  induction requests generalizing referred store with
  | nil => exact ⟨referred, fun _ _ _ => id, h⟩
  | cons request requests ih =>
      rw [List.forall_mem_cons] at hattaches
      obtain ⟨referred₁, hle₁, h₁⟩ := h.serve request (by
        intro hbinds
        rcases hattaches.1 with ⟨id, version, actor, rfl⟩ | hnot
        · refine ⟨id, version, metadata.handle, metadata.generation, .ready, actor, rfl, ?_⟩
          intro _ _ _
          rw [← hgeneration]
          exact h.follows_stored hrecord hnamed hknown id
        · exact absurd hbinds hnot)
      obtain ⟨referred₂, hle₂, h₂⟩ := ih hattaches.2 h₁
      exact ⟨referred₂, fun id handle generation hold => hle₂ _ _ _ (hle₁ _ _ _ hold), h₂⟩

/-- Records after a step: those that were known are stored with no earlier generation. -/
def RecordsFollow (known : String → Prop) (records records' : CredentialRecords) : Prop :=
  ∀ handle record', records'.get? handle = some record' →
    (∃ record, records.get? handle = some record ∧ record.generation ≤ record'.generation) ∨
      ¬ known handle

theorem RecordsFollow.refl (records : CredentialRecords) : RecordsFollow known records records :=
  fun _ record hrecord => Or.inl ⟨record, hrecord, le_rfl⟩

theorem recordsFollow_purge (handle : String) : RecordsFollow known records (records.purge handle) := by
  intro other record' hrecord'
  rw [CredentialRecords.purge, OrderedMap.get?_erase] at hrecord'
  split at hrecord'
  · cases hrecord'
  · exact Or.inl ⟨record', hrecord', le_rfl⟩

theorem Ledger.of_records (h : Ledger platform known records referred store)
    (hrecords : RecordsFollow known records records') (hknown : ∀ handle, known handle → known' handle) :
    Ledger platform known' records' referred store := by
  refine ⟨h.sound, h.named, h.current, h.present, h.row_le, ?_, ?_⟩
  · intro id handle generation record' hreferred hrecord'
    rcases hrecords handle record' hrecord' with ⟨record, hrecord, hle⟩ | hnew
    · exact (h.record_le id handle generation record hreferred hrecord).trans hle
    · rcases h.drawn id handle generation hreferred with rfl | hdrawn
      · exact Nat.zero_le _
      · exact absurd hdrawn hnew
  · intro id handle generation hreferred
    exact (h.drawn id handle generation hreferred).imp_right (hknown handle)

end Ledger

/-! ## Requests in a row -/

section Requests

variable {platform : StorePlatform} {state : StoreState}

/-- Bindings that are made for other accounts and for other versions leave an account as it is. -/
theorem StoreState.Sound.row_foldl (h : state.Sound platform) {id : String} {row : AccountRow}
    (hrow : state.database.accounts.get? id = some row) (requests : List StoreRequest)
    (hother : ∀ request ∈ requests, ∃ other version handle generation state actor,
      request = bindRequest other version handle generation state actor ∧
        (other = id → version ≠ row.version)) :
    (requests.foldl platform.serve state).database.accounts.get? id = some row := by
  induction requests generalizing state with
  | nil => exact hrow
  | cons request requests ih =>
      rw [List.forall_mem_cons] at hother
      obtain ⟨⟨other, version, handle, generation, accountState, actor, rfl, hversion⟩, hrest⟩ := hother
      refine ih (h.serve _) ?_ hrest
      rcases h.bindCredential actor other version ⟨handle, generation, accountState⟩ with
        hsame | ⟨current, name, next, hcurrent, hmade, -, -, -, -, hset⟩
      · rw [show (platform.serve state (bindRequest other version handle generation accountState
          actor)).database.accounts = _ from hsame]
        exact hrow
      · rw [show (platform.serve state (bindRequest other version handle generation accountState
          actor)).database.accounts = _ from hset, OrderedMap.get?_set]
        split
        · rename_i heq
          rw [heq, hrow] at hcurrent
          cases hcurrent
          exact absurd hmade.symm (hversion heq)
        · exact hrow

end Requests

end RlyGateway
