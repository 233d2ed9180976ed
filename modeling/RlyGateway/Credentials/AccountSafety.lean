import RlyGateway.Credentials.AccountGenerations

/-!
# Refreshes respect accounts

Every step of the service keeps its ledger, so no account goes back to an earlier generation of its
credential. A step of a refresh that finds its accounts free leaves every paused or revoked account
as it is, and in other states it need not.
-/

namespace RlyGateway

/-! ## Flights -/

/-- The record that a flight has read. -/
def RefreshPhase.current? : RefreshPhase → Option CredentialRecord
  | .requested current | .committing current _ => some current
  | .reading | .rereading => none

/-- The records stand under their handles, which are known, with generations from `1`. -/
def RecordsSound (known : String → Prop) (records : CredentialRecords) : Prop :=
  ∀ handle record, records.get? handle = some record →
    record.handle = handle ∧ 0 < record.generation ∧ known handle

section Flights

variable {known : String → Prop} {records records' : CredentialRecords} {runtime : NodeRuntime}
  {handle : String}

theorem recordsSound_purge (h : RecordsSound known records) (handle : String) :
    RecordsSound known (records.purge handle) := by
  intro other record hrecord
  rw [CredentialRecords.purge, OrderedMap.get?_erase] at hrecord
  split at hrecord
  · cases hrecord
  · exact h other record hrecord

/-- The phase of a flight holds a record of its credential. -/
def RefreshPhase.Sound (handle : String) (phase : RefreshPhase) : Prop :=
  ∀ current ∈ phase.current?, current.handle = handle ∧ 0 < current.generation

/-- A flight goes on with a record of its credential, and it settles with what is stored of it. -/
structure FlightProgress.Sound (known : String → Prop) (handle : String)
    (records records' : CredentialRecords) (progress : FlightProgress) : Prop where
  follow : RecordsFollow known records records'
  records : RecordsSound known records'
  phase : ∀ phase, progress = .goesOn phase → phase.Sound handle
  outcome : ∀ metadata, progress = .settled (.ok metadata) → metadata.handle = handle ∧
    known handle ∧
    ∃ record, records'.get? handle = some record ∧ record.generation = metadata.generation

/-- A commit stores the next generation of a credential that is stored. -/
theorem commit_sound (hrecords : RecordsSound known records) {current : CredentialRecord}
    {tokens : OAuthTokenSet} (hcurrent : 0 < current.generation)
    (h : records.commit handle current.generation
      (nextCredentialGeneration runtime current tokens) = .ok records') :
    FlightProgress.Sound known handle records records'
      (.settled (.ok (toCredentialMetadata (nextCredentialGeneration runtime current tokens)))) := by
  obtain ⟨hhandle, -, hstored, rfl⟩ := CredentialRecords.commit_eq_ok h
  have hknown : ∃ record, records.get? handle = some record ∧
      record.generation = current.generation := by
    unfold CredentialRecords.generation at hstored
    cases hget : records.get? handle with
    | none =>
        rw [hget] at hstored
        exact absurd hstored hcurrent.ne
    | some record =>
        rw [hget] at hstored
        exact ⟨record, rfl, hstored⟩
  obtain ⟨record, hrecord, hgeneration⟩ := hknown
  refine ⟨?_, ?_, fun phase hphase => (by simp at hphase), ?_⟩
  · intro other record' hrecord'
    rw [OrderedMap.get?_set] at hrecord'
    split at hrecord'
    · rename_i hother
      cases hrecord'
      subst hother
      refine Or.inl ⟨record, hrecord, ?_⟩
      rw [hgeneration]
      exact Nat.le_succ _
    · exact Or.inl ⟨record', hrecord', le_rfl⟩
  · intro other record' hrecord'
    rw [OrderedMap.get?_set] at hrecord'
    split at hrecord'
    · rename_i hother
      cases hrecord'
      subst hother
      exact ⟨hhandle, Nat.succ_pos _, (hrecords _ record hrecord).2.2⟩
    · exact hrecords other record' hrecord'
  · rintro metadata ⟨⟩
    exact ⟨hhandle, (hrecords _ record hrecord).2.2, _, OrderedMap.get?_set_self _ _ _, rfl⟩

/-- A flight that takes a step without touching the records. -/
theorem FlightProgress.Sound.unchanged (hrecords : RecordsSound known records)
    {progress : FlightProgress} (hphase : ∀ phase, progress = .goesOn phase → phase.Sound handle)
    (houtcome : ∀ metadata, progress = .settled (.ok metadata) → metadata.handle = handle ∧
      known handle ∧
      ∃ record, records.get? handle = some record ∧ record.generation = metadata.generation) :
    progress.Sound known handle records records :=
  ⟨RecordsFollow.refl records, hrecords, hphase, houtcome⟩

theorem refreshOnce_sound {phase : RefreshPhase} {input : FlightInput} {progress : FlightProgress}
    (hrecords : RecordsSound known records) (hphase : phase.Sound handle)
    (h : refreshOnce runtime handle records phase input = some (progress, records')) :
    progress.Sound known handle records records' := by
  have hfails : ∀ error, progress = .settled (.error error) → records' = records →
      progress.Sound known handle records records' := by
    rintro error rfl rfl
    exact .unchanged hrecords (fun phase hphase => by simp at hphase) (fun _ hok => by simp at hok)
  unfold refreshOnce at h
  split at h
  · split at h
    · rename_i current hread
      cases h
      refine .unchanged hrecords ?_ (fun _ hok => by simp at hok)
      rintro phase ⟨⟩ current' ⟨⟩
      unfold CredentialRecords.read at hread
      split at hread
      · rename_i record hrecord
        cases hread
        exact ⟨(hrecords handle _ hrecord).1, (hrecords handle _ hrecord).2.1⟩
      · cases hread
    · cases h
      exact hfails _ rfl rfl
  · split at h
    · cases h
      refine .unchanged hrecords ?_ (fun _ hok => by simp at hok)
      rintro phase ⟨⟩ current' ⟨⟩
      exact hphase _ rfl
    · cases h
      exact hfails _ rfl rfl
  · dsimp only at h
    split at h
    · rename_i hcommit
      cases h
      exact commit_sound hrecords (hphase _ rfl).2 hcommit
    · cases h
      refine .unchanged hrecords ?_ (fun _ hok => by simp at hok)
      rintro phase ⟨⟩ current' ⟨⟩
    · cases h
      exact hfails _ rfl rfl
  · split at h
    · rename_i latest hlatest
      cases h
      obtain ⟨record, hrecord, rfl⟩ := Option.map_eq_some_iff.1 hlatest
      refine .unchanged hrecords (fun _ hto => by simp at hto) ?_
      rintro metadata ⟨⟩
      exact ⟨(hrecords handle record hrecord).1, (hrecords handle record hrecord).2.2, record,
        hrecord, rfl⟩
    · cases h
      exact hfails _ rfl rfl
  · split at h
    · cases h
    · cases h
      exact hfails _ rfl rfl
  · cases h

end Flights

/-! ## Steps -/

section Steps

variable {platform : CredentialPlatform} {referred : References}
  {service service' : CredentialService}

/-- The handle was drawn. -/
def CredentialPlatform.Drawn (platform : CredentialPlatform) (drawn : ℕ) (handle : String) : Prop :=
  ∃ k < drawn, platform.credentialHandle k = handle

theorem CredentialPlatform.Drawn.mono {drawn drawn' : ℕ} {handle : String} (hle : drawn ≤ drawn')
    (h : platform.Drawn drawn handle) : platform.Drawn drawn' handle :=
  h.imp fun _ hk => ⟨hk.1.trans_le hle, hk.2⟩

theorem CredentialPlatform.Drawn.named {drawn : ℕ} {handle : String}
    (h : platform.Drawn drawn handle) : requiredName handle = .ok handle := by
  obtain ⟨k, -, rfl⟩ := h
  exact platform.credentialHandle_named k

/-- The next handle is a new one. -/
theorem CredentialPlatform.not_drawn (platform : CredentialPlatform) (drawn : ℕ) :
    ¬ platform.Drawn drawn (platform.credentialHandle drawn) := by
  rintro ⟨k, hk, heq⟩
  exact hk.ne (platform.credentialHandle_injective heq)

/-- The account that a refused call found is there, or a later version of it, and what the call read
of its credential is no later than what is stored. -/
structure RefusedRefresh.Sound (known : String → Prop) (records : CredentialRecords)
    (accounts : String → Option AccountRow) (refused : RefusedRefresh) : Prop where
  found : ∃ row, accounts refused.current.id = some row ∧
    (row = refused.current ∨ refused.current.version < row.version)
  latest : ∀ metadata, refused.latest = some (some metadata) →
    metadata.handle = refused.current.credentialHandle ∧ known metadata.handle ∧
      ∀ record, records.get? metadata.handle = some record → metadata.generation ≤ record.generation

theorem RefusedRefresh.Sound.mono {known known' : String → Prop} {records records' : CredentialRecords}
    {accounts accounts' : String → Option AccountRow} {refused : RefusedRefresh}
    (h : refused.Sound known records accounts) (hadvances : Advances (·.version) accounts accounts')
    (hfollow : RecordsFollow known records records')
    (hknown : ∀ handle, known handle → known' handle) : refused.Sound known' records' accounts' where
  found := by
    obtain ⟨row, hrow, hlater⟩ := h.found
    obtain ⟨row', hrow', hlater'⟩ := hadvances _ row hrow
    refine ⟨row', hrow', ?_⟩
    rcases hlater' with rfl | hlt
    · exact hlater
    · rcases hlater with rfl | hlt'
      · exact Or.inr hlt
      · exact Or.inr (hlt'.trans hlt)
  latest metadata hmetadata := by
    obtain ⟨hhandle, hdrawn, hle⟩ := h.latest metadata hmetadata
    refine ⟨hhandle, hknown _ hdrawn, ?_⟩
    intro record' hrecord'
    rcases hfollow _ record' hrecord' with ⟨record, hrecord, hstored⟩ | hnew
    · exact (hle record hrecord).trans hstored
    · exact absurd hdrawn hnew

/-- What holds of a service after every step. -/
structure CredentialService.Sound (platform : CredentialPlatform) (referred : References)
    (service : CredentialService) : Prop where
  ledger : Ledger platform.toStorePlatform (platform.Drawn service.drawn) service.records referred
    service.store
  records : RecordsSound (platform.Drawn service.drawn) service.records
  flights : ∀ handle flight, service.flights.get? handle = some flight → flight.phase.Sound handle
  refused : ∀ refused ∈ service.refused,
    refused.Sound (platform.Drawn service.drawn) service.records service.row

/-- The ledger is extended, and the service is sound with it. -/
def CredentialService.Extends (platform : CredentialPlatform) (referred : References)
    (service : CredentialService) : Prop :=
  ∃ referred' : References, (∀ id handle generation, referred id handle generation →
    referred' id handle generation) ∧ service.Sound platform referred'

theorem CredentialService.Sound.extends (h : service.Sound platform referred) :
    service.Extends platform referred :=
  ⟨referred, fun _ _ _ => id, h⟩

/-- Requests that extend the ledger keep the service sound. -/
theorem CredentialService.Sound.with_store (h : service.Sound platform referred)
    (requests : List StoreRequest)
    (hledger : ∃ referred' : References, (∀ id handle generation, referred id handle generation →
      referred' id handle generation) ∧ Ledger platform.toStorePlatform
        (platform.Drawn service.drawn) service.records referred'
        (requests.foldl platform.serve service.store)) :
    CredentialService.Extends platform referred
      { service with store := requests.foldl platform.serve service.store } := by
  obtain ⟨referred', hle, hledger⟩ := hledger
  refine ⟨referred', hle, hledger, h.records, h.flights, ?_⟩
  intro refused hrefused
  exact (h.refused refused hrefused).mono (h.ledger.sound.foldl requests).2
    (RecordsFollow.refl _) fun _ => id

/-- Records that follow those before keep the service sound. -/
theorem CredentialService.Sound.with_records (h : service.Sound platform referred)
    {records : CredentialRecords} {drawn : ℕ} (hdrawn : service.drawn ≤ drawn)
    (hfollow : RecordsFollow (platform.Drawn service.drawn) service.records records)
    (hrecords : RecordsSound (platform.Drawn drawn) records) :
    CredentialService.Sound platform referred { service with records, drawn } where
  ledger := h.ledger.of_records hfollow fun _ hhandle => hhandle.mono hdrawn
  records := hrecords
  flights := h.flights
  refused refused hrefused :=
    (h.refused refused hrefused).mono (Advances.refl _) hfollow fun _ hhandle => hhandle.mono hdrawn

theorem CredentialService.Sound.join (h : service.Sound platform referred) (handle : String)
    (callers : List RefreshCall) : (service.join handle callers).Sound platform referred := by
  have hset : ∀ flight : RefreshFlight, flight.phase.Sound handle →
      CredentialService.Sound platform referred
        { service with flights := service.flights.set handle flight } := by
    intro flight hflight
    refine ⟨h.ledger, h.records, ?_, h.refused⟩
    intro other flight' hflight'
    rw [OrderedMap.get?_set] at hflight'
    split at hflight'
    · rename_i hother
      cases hflight'
      rw [← hother]
      exact hflight
    · exact h.flights other flight' hflight'
  unfold CredentialService.join
  split
  · rename_i flight hflight
    exact hset _ (h.flights handle flight hflight)
  · exact hset _ fun current hcurrent => by simp [RefreshPhase.current?] at hcurrent

theorem CredentialService.Sound.erase (h : service.Sound platform referred) (handle : String) :
    CredentialService.Sound platform referred
      { service with flights := service.flights.erase handle } := by
  refine ⟨h.ledger, h.records, ?_, h.refused⟩
  intro other flight hflight
  rw [OrderedMap.get?_erase] at hflight
  split at hflight
  · cases hflight
  · exact h.flights other flight hflight

theorem CredentialService.Sound.settle (h : service.Sound platform referred)
    (callers : List RefreshCall) {outcome : Except CredentialError CredentialMetadata}
    (houtcome : ∀ metadata, outcome = .ok metadata → platform.Drawn service.drawn metadata.handle ∧
      ∃ record, service.records.get? metadata.handle = some record ∧
        record.generation = metadata.generation) :
    (service.settle platform callers outcome).Extends platform referred := by
  cases outcome with
  | ok metadata =>
      obtain ⟨hdrawn, record, hrecord, hgeneration⟩ := houtcome metadata rfl
      refine h.with_store _ (h.ledger.attach hrecord hgeneration hdrawn.named hdrawn _ ?_)
      intro request hrequest
      obtain ⟨call, -, rfl⟩ := List.mem_map.1 hrequest
      exact Or.inl ⟨_, _, _, rfl⟩
  | error error =>
      unfold CredentialService.settle
      dsimp only
      split
      · refine CredentialService.Sound.extends ⟨h.ledger, h.records, h.flights, ?_⟩
        intro refused hrefused
        rcases List.mem_append.1 hrefused with hold | hnew
        · exact h.refused refused hold
        · obtain ⟨call, -, hcall⟩ := List.mem_filterMap.1 hnew
          obtain ⟨current, hcurrent, rfl⟩ := Option.map_eq_some_iff.1 hcall
          obtain ⟨hid, hrow⟩ := Database.account?_eq_some h.ledger.sound.keyed hcurrent
          refine ⟨⟨current, ?_, Or.inl rfl⟩, fun metadata hmetadata => by simp at hmetadata⟩
          rw [← hid] at hrow
          exact hrow
      · exact h.extends

/-- The account that a refused call found, where it is still of the version that was found. -/
theorem RefusedRefresh.Sound.eq_of_version {known : String → Prop} {records : CredentialRecords}
    {accounts : String → Option AccountRow} {refused : RefusedRefresh}
    (h : refused.Sound known records accounts) {row : AccountRow}
    (hrow : accounts refused.current.id = some row) (hversion : row.version = refused.current.version) :
    row = refused.current := by
  obtain ⟨row', hrow', hlater⟩ := h.found
  rw [hrow] at hrow'
  cases hrow'
  rcases hlater with hsame | hlt
  · exact hsame
  · omega

/-- A refused call binds what follows the ledger. -/
theorem CredentialService.Sound.rebinding (h : service.Sound platform referred)
    {refused : RefusedRefresh}
    (hrefused : refused.Sound (platform.Drawn service.drawn) service.records service.row)
    {latest : Option CredentialMetadata} (hlatest : refused.latest = some latest) :
    ∃ id version handle generation state actor,
      CredentialService.rebinding refused latest =
        bindRequest id version handle generation state actor ∧
      ∀ current, service.row id = some current → current.version = version →
        Follows (platform.Drawn service.drawn) service.records referred id handle generation := by
  have hunready : ∀ current, service.row refused.current.id = some current →
      current.version = refused.current.version →
      Follows (platform.Drawn service.drawn) service.records referred refused.current.id
        refused.current.credentialHandle refused.current.credentialGeneration := by
    intro current hcurrent hversion
    rw [hrefused.eq_of_version hcurrent hversion] at hcurrent
    exact h.ledger.follows_current hcurrent
  unfold CredentialService.rebinding
  dsimp only
  split
  · rename_i metadata
    split
    · rename_i hgt
      refine ⟨_, _, _, _, _, _, rfl, ?_⟩
      intro current hcurrent hversion
      obtain ⟨hhandle, hdrawn, hle⟩ := hrefused.latest metadata hlatest
      have hfollows := hunready current hcurrent hversion
      refine ⟨hdrawn.named, ?_, hle, Or.inr hdrawn⟩
      intro earlier hearlier
      rw [hhandle] at hearlier
      have hearlier_le := hfollows.le earlier hearlier
      omega
    · exact ⟨_, _, _, _, _, _, rfl, hunready⟩
  · exact ⟨_, _, _, _, _, _, rfl, hunready⟩

/-- A credential that was just obtained is stored and attached. -/
theorem CredentialService.Sound.attach (h : service.Sound platform referred)
    {providerId pseudonym : String} {provider : CredentialProviderName} {tokens : OAuthTokenSet}
    {sourceFingerprint : Option String} {actor : ManagementActor}
    (hstep : service.step platform (.attach providerId pseudonym provider tokens sourceFingerprint
      actor) = some service') : service'.Extends platform referred := by
  have hmono : ∀ handle, platform.Drawn service.drawn handle →
      platform.Drawn (service.drawn + 1) handle := fun _ hhandle => hhandle.mono (Nat.le_succ _)
  rw [CredentialService.step] at hstep
  dsimp only at hstep
  split at hstep
  · rename_i records hcommit
    obtain ⟨-, -, -, rfl⟩ := CredentialRecords.commit_eq_ok hcommit
    set handle := platform.credentialHandle service.drawn with hhandle
    set record := initialCredentialRecord platform.runtime handle pseudonym tokens sourceFingerprint
      provider with hrecord
    have hdrawn : platform.Drawn (service.drawn + 1) handle := ⟨service.drawn, Nat.lt_succ_self _, rfl⟩
    have hnew := platform.not_drawn service.drawn
    have hstored : CredentialService.Sound platform referred
        { service with
          records := service.records.set handle record
          drawn := service.drawn + 1 } := by
      refine h.with_records (Nat.le_succ _) ?_ ?_
      · intro other record' hrecord'
        rw [OrderedMap.get?_set] at hrecord'
        split at hrecord'
        · rename_i hother
          rw [← hother]
          exact Or.inr hnew
        · exact Or.inl ⟨record', hrecord', le_rfl⟩
      · intro other record' hrecord'
        rw [OrderedMap.get?_set] at hrecord'
        split at hrecord'
        · rename_i hother
          cases hrecord'
          rw [← hother]
          exact ⟨rfl, Nat.one_pos, hdrawn⟩
        · obtain ⟨hsame, hpos, hold⟩ := h.records other record' hrecord'
          exact ⟨hsame, hpos, hmono other hold⟩
    obtain ⟨requests, hattaches, hfoldl⟩ := attachAccount_eq_foldl platform.toStorePlatform providerId
      (toCredentialMetadata record) actor service.store
    cases hstep
    rw [hfoldl]
    obtain ⟨referred', hle, hsound⟩ := hstored.with_store requests
      (hstored.ledger.attach (by exact OrderedMap.get?_set_self _ _ _) (by rfl)
        (by exact hdrawn.named) (by exact hdrawn) requests hattaches)
    exact ⟨referred', hle, hsound.ledger, hsound.records, hsound.flights, hsound.refused⟩
  · cases hstep
    refine CredentialService.Sound.extends (h.with_records (Nat.le_succ _) (RecordsFollow.refl _) ?_)
    intro other record' hrecord'
    obtain ⟨hsame, hpos, hold⟩ := h.records other record' hrecord'
    exact ⟨hsame, hpos, hmono other hold⟩

/-- Every step keeps the service sound, with a ledger that is extended. -/
theorem CredentialService.Sound.step (h : service.Sound platform referred) {event : CredentialEvent}
    (hstep : service.step platform event = some service') : service'.Extends platform referred := by
  cases event with
  | manage request =>
      rw [CredentialService.step] at hstep
      split at hstep
      · cases hstep
      · rename_i hbinds
        cases hstep
        exact h.with_store [request] (h.ledger.serve request fun hcall => absurd hcall hbinds)
  | attach providerId pseudonym provider tokens sourceFingerprint actor => exact h.attach hstep
  | refresh accountId version actor =>
      obtain ⟨account, -, rfl⟩ := Option.map_eq_some_iff.1 hstep
      exact (h.join _ _).extends
  | prepare handle =>
      cases hstep
      exact (h.join _ _).extends
  | flight handle input =>
      obtain ⟨flight, hflight, hprogress⟩ := Option.bind_eq_some_iff.1 hstep
      obtain ⟨⟨progress, records⟩, hrefresh, rfl⟩ := Option.map_eq_some_iff.1 hprogress
      have hsound := refreshOnce_sound h.records (h.flights handle flight hflight) hrefresh
      have hrecords := h.with_records (le_refl service.drawn) hsound.follow hsound.records
      cases progress with
      | goesOn phase =>
          refine CredentialService.Sound.extends
            ⟨hrecords.ledger, hrecords.records, ?_, hrecords.refused⟩
          intro other flight' hflight'
          rw [OrderedMap.get?_set] at hflight'
          split at hflight'
          · rename_i hother
            cases hflight'
            rw [← hother]
            exact hsound.phase phase rfl
          · exact h.flights other flight' hflight'
      | settled outcome =>
          refine (hrecords.erase handle).settle flight.callers ?_
          rintro metadata rfl
          obtain ⟨rfl, hdrawn, hrecord⟩ := hsound.outcome metadata rfl
          exact ⟨hdrawn, hrecord⟩
  | rereads index =>
      obtain ⟨refused, hrefused, rfl⟩ := Option.map_eq_some_iff.1 hstep
      refine CredentialService.Sound.extends ⟨h.ledger, h.records, h.flights, ?_⟩
      intro refused' hmem
      rcases List.mem_or_eq_of_mem_set hmem with hold | rfl
      · exact h.refused refused' hold
      · refine ⟨(h.refused refused (List.mem_of_getElem? hrefused)).found, ?_⟩
        intro metadata hmetadata
        obtain ⟨record, hrecord, rfl⟩ := Option.map_eq_some_iff.1 (Option.some.inj hmetadata)
        obtain ⟨hhandle, -, hdrawn⟩ := h.records _ record hrecord
        refine ⟨hhandle, by rw [show (toCredentialMetadata record).handle = _ from hhandle]; exact hdrawn,
          ?_⟩
        intro record' hrecord'
        rw [show (toCredentialMetadata record).handle = _ from hhandle, hrecord] at hrecord'
        cases hrecord'
        exact le_rfl
  | rebinds index =>
      obtain ⟨refused, hrefused, hbind⟩ := Option.bind_eq_some_iff.1 hstep
      obtain ⟨latest, hlatest, rfl⟩ := Option.map_eq_some_iff.1 hbind
      have hmem := h.refused refused (List.mem_of_getElem? hrefused)
      obtain ⟨referred', hle, hsound⟩ := h.with_store [CredentialService.rebinding refused latest]
        (h.ledger.serve _ fun _ => h.rebinding hmem hlatest)
      refine ⟨referred', hle, hsound.ledger, hsound.records, hsound.flights, ?_⟩
      intro refused' hrefused'
      exact hsound.refused refused' (List.mem_of_mem_eraseIdx hrefused')
  | revoke accountId version actor =>
      obtain ⟨account, haccount, hrevoke⟩ := Option.bind_eq_some_iff.1 hstep
      obtain ⟨hid, hrow⟩ := Database.account?_eq_some h.ledger.sound.keyed haccount
      split at hrevoke
      · cases hrevoke
      · have hextends := h.with_store [bindRequest account.id version account.credentialHandle
          account.credentialGeneration .revoked actor] (h.ledger.serve _ fun _ =>
            ⟨_, _, _, _, _, _, rfl, by
              intro current hcurrent _
              rw [hid, hrow] at hcurrent
              cases hcurrent
              rw [hid]
              exact h.ledger.follows_current hrow⟩)
        rw [List.foldl_cons, List.foldl_nil, ← StorePlatform.attempt_snd] at hextends
        obtain ⟨referred', hle, hsound⟩ := hextends
        split at hrevoke
        · rename_i heq
          cases hrevoke
          rw [heq] at hsound
          exact ⟨referred', hle, hsound.ledger, hsound.records, hsound.flights, hsound.refused⟩
        · rename_i heq
          cases hrevoke
          rw [heq] at hsound
          exact ⟨referred', hle, hsound⟩
  | purge index =>
      obtain ⟨handle, -, rfl⟩ := Option.map_eq_some_iff.1 hstep
      have hsound := h.with_records (le_refl service.drawn) (recordsFollow_purge handle)
        (recordsSound_purge h.records handle)
      exact CredentialService.Sound.extends
        ⟨hsound.ledger, hsound.records, hsound.flights, hsound.refused⟩
  | restart =>
      cases hstep
      refine CredentialService.Sound.extends ⟨h.ledger, h.records, ?_, ?_⟩
      · intro handle flight hflight
        cases hflight
      · intro refused hrefused
        cases hrefused

/-! ## Accounts that are held -/

/-- A step of a refresh that finds its accounts free leaves an account that is not as it is. -/
theorem CredentialService.Sound.row_of_careful (h : service.Sound platform referred)
    {event : CredentialEvent} (hcareful : service.Careful platform event) (hrefresh : event.OfRefresh)
    (hstep : service.step platform event = some service') {id : String} {row : AccountRow}
    (hrow : service.row id = some row) (hheld : row.Held) : service'.row id = some row := by
  cases event with
  | manage | attach | revoke | purge | restart => exact hrefresh.elim
  | refresh accountId version actor =>
      obtain ⟨account, -, rfl⟩ := Option.map_eq_some_iff.1 hstep
      unfold CredentialService.join
      split <;> exact hrow
  | prepare handle =>
      cases hstep
      unfold CredentialService.join
      split <;> exact hrow
  | flight handle input =>
      obtain ⟨flight, hflight, hprogress⟩ := Option.bind_eq_some_iff.1 hstep
      obtain ⟨⟨progress, records⟩, hrefreshOnce, rfl⟩ := Option.map_eq_some_iff.1 hprogress
      have hfree := hcareful flight hflight _ hrefreshOnce
      cases progress with
      | goesOn phase => exact hrow
      | settled outcome =>
          cases outcome with
          | ok metadata =>
              refine h.ledger.sound.row_foldl hrow _ ?_
              intro request hrequest
              obtain ⟨call, hcall, rfl⟩ := List.mem_map.1 hrequest
              refine ⟨_, _, _, _, _, _, rfl, ?_⟩
              rintro rfl hversion
              exact hfree rfl call hcall row hrow hversion.symm hheld
          | error error =>
              dsimp only [CredentialService.settle]
              split <;> exact hrow
  | rereads index =>
      obtain ⟨refused, -, rfl⟩ := Option.map_eq_some_iff.1 hstep
      exact hrow
  | rebinds index =>
      obtain ⟨refused, hrefused, hbind⟩ := Option.bind_eq_some_iff.1 hstep
      obtain ⟨latest, hlatest, rfl⟩ := Option.map_eq_some_iff.1 hbind
      have hfree := hcareful refused hrefused
      refine h.ledger.sound.row_foldl hrow [CredentialService.rebinding refused latest] ?_
      refine List.forall_mem_singleton.2 ?_
      have hversion : refused.current.id = id → refused.current.version ≠ row.version := by
        rintro rfl hversion
        exact hfree row hrow hversion.symm hheld
      unfold CredentialService.rebinding
      dsimp only
      split
      · split
        · exact ⟨_, _, _, _, _, _, rfl, hversion⟩
        · exact ⟨_, _, _, _, _, _, rfl, hversion⟩
      · exact ⟨_, _, _, _, _, _, rfl, hversion⟩

end Steps

/-! ## Runs -/

section Runs

variable {platform : CredentialPlatform}

theorem sound_initial (platform : CredentialPlatform) :
    CredentialService.initial.Sound platform fun _ _ _ => False where
  ledger :=
    { sound := sound_after platform.toStorePlatform []
      named := fun _ _ hrow => by cases hrow
      current := fun _ _ hrow => by cases hrow
      present := fun _ _ _ hreferred => hreferred.elim
      row_le := fun _ _ _ _ hreferred => hreferred.elim
      record_le := fun _ _ _ _ hreferred => hreferred.elim
      drawn := fun _ _ _ hreferred => hreferred.elim }
  records := fun _ _ hrecord => by cases hrecord
  flights := fun _ _ hflight => by cases hflight
  refused := fun _ hrefused => by cases hrefused

/-- A service that is reached is sound, with a ledger of all that accounts referred to on the way. -/
theorem Reaches.sound {events : List CredentialEvent} {service : CredentialService}
    (h : Reaches platform events service) :
    ∃ referred : References, service.Sound platform referred ∧
      ∀ before after earlier id row, events = before ++ after → Reaches platform before earlier →
        earlier.row id = some row → referred id row.credentialHandle row.credentialGeneration := by
  refine List.run_induction (motive := fun events service => ∃ referred : References,
    service.Sound platform referred ∧ ∀ before after earlier id row, events = before ++ after →
      Reaches platform before earlier → earlier.row id = some row →
      referred id row.credentialHandle row.credentialGeneration) ?_ ?_ h
  · refine ⟨_, sound_initial platform, ?_⟩
    intro before after earlier id row hevents hearlier hrow
    obtain ⟨rfl, -⟩ := List.append_eq_nil_iff.1 hevents.symm
    cases hearlier
    cases hrow
  · rintro events service event service' hrun ⟨referred, hsound, hbefore⟩ hstep
    obtain ⟨referred', hle, hsound'⟩ := hsound.step hstep
    refine ⟨referred', hsound', ?_⟩
    intro before after earlier id row hevents hearlier hrow
    rcases List.eq_nil_or_concat after with rfl | ⟨after', last, rfl⟩
    · rw [List.append_nil] at hevents
      have hsame : earlier = service' := by
        rw [← hevents] at hearlier
        have hrun' := List.run_concat_eq_some.2 ⟨service, hrun, hstep⟩
        exact Option.some.inj (hearlier.symm.trans hrun')
      rw [hsame] at hrow
      exact hsound'.ledger.current id row hrow
    · rw [List.concat_eq_append, ← List.append_assoc] at hevents
      obtain ⟨hevents, -⟩ := List.append_inj' hevents rfl
      exact hle _ _ _ (hbefore before after' earlier id row hevents hearlier hrow)

/-- No account goes back to an earlier generation of a credential, whatever the run. -/
theorem generation_le_of_reaches {before between : List CredentialEvent}
    {service service' : CredentialService} {id : String} {row row' : AccountRow}
    (hbefore : Reaches platform before service) (hnext : Reaches platform (before ++ between) service')
    (hrow : service.row id = some row) (hrow' : service'.row id = some row')
    (hhandle : row'.credentialHandle = row.credentialHandle) :
    row.credentialGeneration ≤ row'.credentialGeneration := by
  obtain ⟨referred, hsound, hreferred⟩ := hnext.sound
  exact hsound.ledger.row_le id _ _ row' (hreferred before between service id row rfl hbefore hrow)
    hrow' hhandle

/-- A run whose refreshes find their accounts free, whenever they bind a credential, respects the
accounts. -/
theorem respectsAccounts_of_careful (platform : CredentialPlatform) (events : List CredentialEvent)
    (hcareful : List.Along (CredentialService.Careful platform) (CredentialService.step platform)
      CredentialService.initial events) : RespectsAccounts platform events where
  held := by
    intro before after event service service' id row row' hevents hbefore hnext hrefresh hrow hheld hrow'
    obtain ⟨referred, hsound, -⟩ := hbefore.sound
    obtain ⟨t, ht, hstep⟩ := List.run_concat_eq_some.1 hnext
    have hsame : t = service := Option.some.inj (ht.symm.trans hbefore)
    subst hsame
    have hkept := hsound.row_of_careful (hcareful before event after t hevents hbefore) hrefresh hstep
      hrow hheld
    rw [hkept] at hrow'
    cases hrow'
    rcases hheld with hpaused | hrevoked
    · rw [hpaused]
      exact ⟨by decide, by decide⟩
    · rw [hrevoked]
      exact ⟨by decide, by decide⟩
  generations _ _ _ _ _ _ _ _ _ hbefore hnext hrow hrow' hhandle :=
    generation_le_of_reaches hbefore hnext hrow hrow' hhandle

end Runs

/-! ## A refused refresh of a revoked account -/

/-- An account of Codex is created and its first refresh is under way. -/
def refreshUnderWay : List CredentialEvent :=
  [.manage ⟨.cli, .createProvider ⟨"codex", .oauth, none, none, none, none⟩⟩,
    .attach "u" "work" .codex ⟨"access", "refresh", none, none⟩ none .cli,
    .refresh "uuuu" 2 .cli,
    .flight "c" .reads]

/-- The refresh succeeds, and the account is paused after it. -/
def pausedAfterwards : List CredentialEvent :=
  refreshUnderWay ++
    [.flight "c" (.answered (.ok ⟨"access", "refresh", none, none⟩)),
      .flight "c" .commits,
      .manage ⟨.cli, .updateAccount "uuuu" 3 ⟨some .paused, none, none⟩⟩]

theorem respectsAccounts_pausedAfterwards :
    RespectsAccounts countingCredentialPlatform pausedAfterwards :=
  respectsAccounts_of_careful countingCredentialPlatform pausedAfterwards (by decide +kernel)

/-- The account is revoked while the refresh waits for the provider, which then refuses the grant. -/
def revokedMeanwhile : List CredentialEvent :=
  refreshUnderWay ++
    [.revoke "uuuu" 2 .cli,
      .purge 0,
      .flight "c" (.answered (.error (.oauthFlow "invalid-grant" "oauth token request failed"))),
      .rereads 0]

/-- The state of the account after events. -/
def stateAfter (events : List CredentialEvent) : Option AccountState :=
  ((List.run (CredentialService.step countingCredentialPlatform) CredentialService.initial
    events).bind fun service => service.row "uuuu").map (·.state)

theorem exists_of_stateAfter {events : List CredentialEvent} {state : AccountState}
    (h : stateAfter events = some state) :
    ∃ service row, Reaches countingCredentialPlatform events service ∧
      service.row "uuuu" = some row ∧ row.state = state := by
  obtain ⟨row, hrow, hstate⟩ := Option.map_eq_some_iff.1 h
  obtain ⟨service, hservice, hrow⟩ := Option.bind_eq_some_iff.1 hrow
  exact ⟨service, row, hservice, hrow, hstate⟩

/-- The revoked account is moved to unready. -/
theorem respectsAccounts_violated :
    ¬ RespectsAccounts countingCredentialPlatform (revokedMeanwhile ++ [.rebinds 0]) := by
  intro h
  have hstates : stateAfter revokedMeanwhile = some .revoked ∧
      stateAfter (revokedMeanwhile ++ [.rebinds 0]) = some .unready := by
    decide +kernel
  obtain ⟨service, row, hservice, hrow, hrevoked⟩ := exists_of_stateAfter hstates.1
  obtain ⟨service', row', hservice', hrow', hunready⟩ := exists_of_stateAfter hstates.2
  exact (h.held revokedMeanwhile [] (.rebinds 0) service service' "uuuu" row row' rfl hservice
    hservice' trivial hrow (Or.inr hrevoked) hrow').2 hunready

end RlyGateway
