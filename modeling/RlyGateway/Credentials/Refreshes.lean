import RlyGateway.Credentials.Attachment
import RlyGateway.Library.Runs

/-!
# Refreshes of credentials

`refresh` and `revoke` of `CredentialService`, and `CredentialBroker.refresh` with the flights that
calls for one credential share. A call waits for its flight, and one whose grant was refused waits
once more for what is stored of its credential; whatever else the service is asked to do can come in
between.
-/

namespace RlyGateway

/-! ## Flights -/

/-- How far the refresh of a credential is. -/
inductive RefreshPhase where
  | reading
  | requested (current : CredentialRecord)
  | committing (current : CredentialRecord) (tokens : OAuthTokenSet)
  /-- The commit came too late, and the metadata is read. -/
  | rereading
deriving DecidableEq, Repr

/-- What happens to a flight. -/
inductive FlightInput where
  | reads
  | answered (answer : Except CredentialError OAuthTokenSet)
  | commits
  | rereads
  | fails (error : CredentialError)

/-- A flight goes on, or it settles. -/
inductive FlightProgress where
  | goesOn (phase : RefreshPhase)
  | settled (outcome : Except CredentialError CredentialMetadata)

/-- The flight settles with a credential. -/
def FlightProgress.delivers : FlightProgress → Bool
  | .settled (.ok _) => true
  | .settled (.error _) | .goesOn _ => false

/-- `refreshOnce`, one step at a time, with the records after the step. -/
def refreshOnce (runtime : NodeRuntime) (handle : String) (records : CredentialRecords) :
    RefreshPhase → FlightInput → Option (FlightProgress × CredentialRecords)
  | .reading, .reads =>
      match records.read handle with
      | .ok current => some (.goesOn (.requested current), records)
      | .error error => some (.settled (.error error), records)
  | .requested current, .answered answer =>
      match answer with
      | .ok tokens => some (.goesOn (.committing current tokens), records)
      | .error error => some (.settled (.error error), records)
  | .committing current tokens, .commits =>
      let next := nextCredentialGeneration runtime current tokens
      match records.commit handle current.generation next with
      | .ok records => some (.settled (.ok (toCredentialMetadata next)), records)
      | .error .staleGeneration => some (.goesOn .rereading, records)
      | .error error => some (.settled (.error error), records)
  | .rereading, .rereads =>
      match records.metadata handle with
      | some latest => some (.settled (.ok latest), records)
      | none => some (.settled (.error .staleGeneration), records)
  -- the file system or the lock fails, which no provider does
  | _, .fails error =>
      if error.isInvalidGrant then none else some (.settled (.error error), records)
  | _, _ => none

/-! ## The service -/

/-- A call of `refresh` that waits for its flight. -/
structure RefreshCall where
  accountId : String
  version : ℕ
  actor : ManagementActor
deriving DecidableEq

structure RefreshFlight where
  phase : RefreshPhase
  callers : List RefreshCall
deriving DecidableEq

/-- A call whose grant was refused, with the account that it found then, and what it has read of the
credential since. -/
structure RefusedRefresh where
  current : AccountRow
  actor : ManagementActor
  latest : Option (Option CredentialMetadata)
deriving DecidableEq

structure CredentialService where
  store : StoreState
  records : CredentialRecords
  /-- How many handles were drawn. -/
  drawn : ℕ
  flights : OrderedMap String RefreshFlight
  refused : List RefusedRefresh
  /-- The credentials that are being revoked. -/
  revoking : List String

inductive CredentialEvent where
  /-- A call of the control-plane store: a pause, and whatever else binds no credential. -/
  | manage (request : StoreRequest)
  /-- A login or an import has its tokens, and they are stored and attached. -/
  | attach (providerId pseudonym : String) (provider : CredentialProviderName)
      (tokens : OAuthTokenSet) (sourceFingerprint : Option String) (actor : ManagementActor)
  | refresh (accountId : String) (version : ℕ) (actor : ManagementActor)
  /-- A request to a provider needs its credential fresh. -/
  | prepare (handle : String)
  | flight (handle : String) (input : FlightInput)
  /-- A refused call reads what is stored of its credential. -/
  | rereads (index : ℕ)
  /-- A refused call binds what it has read. -/
  | rebinds (index : ℕ)
  | revoke (accountId : String) (version : ℕ) (actor : ManagementActor)
  /-- A revocation comes to its purge. -/
  | purge (index : ℕ)
  | restart

namespace CredentialService

/-- The account, as it is stored. -/
def row (service : CredentialService) (id : String) : Option AccountRow :=
  service.store.database.accounts.get? id

variable (platform : CredentialPlatform) (service : CredentialService)

/-- Callers join the flight of a credential, which takes off where there is none. -/
def join (handle : String) (callers : List RefreshCall) : CredentialService :=
  match service.flights.get? handle with
  | some flight =>
      { service with
        flights := service.flights.set handle { flight with callers := flight.callers ++ callers } }
  | none => { service with flights := service.flights.set handle ⟨.reading, callers⟩ }

/-- A refresh that succeeded binds its credential for each caller, of the version it was called
for; one whose grant was refused has each caller look its account up again. -/
def settle (callers : List RefreshCall) :
    Except CredentialError CredentialMetadata → CredentialService
  | .ok metadata =>
      { service with
        store := (callers.map fun call => bindReady call.accountId call.version metadata call.actor).foldl
          platform.serve service.store }
  | .error error =>
      if error.isInvalidGrant then
        { service with
          refused := service.refused ++ callers.filterMap fun call =>
            (service.store.database.account? call.accountId).map fun current =>
              ⟨current, call.actor, none⟩ }
      else service

/-- What a refused call binds: the generation it read, if that is a later one, or the one of its
account. -/
def rebinding (refused : RefusedRefresh) (latest : Option CredentialMetadata) : StoreRequest :=
  let current := refused.current
  let unready := bindRequest current.id current.version current.credentialHandle
    current.credentialGeneration .unready refused.actor
  match latest with
  | some latest =>
      if latest.generation > current.credentialGeneration then
        bindReady current.id current.version latest refused.actor
      else unready
  | none => unready

/-- What an event leads to, unless it cannot happen. -/
def step (service : CredentialService) : CredentialEvent → Option CredentialService
  | .manage request =>
      if request.call.Binds then none
      else some { service with store := platform.serve service.store request }
  | .attach providerId pseudonym provider tokens sourceFingerprint actor =>
      let handle := platform.credentialHandle service.drawn
      let record := initialCredentialRecord platform.runtime handle pseudonym tokens
        sourceFingerprint provider
      match service.records.commit handle 0 record with
      | .ok records =>
          let attached := attachAccount platform.toStorePlatform providerId
            (toCredentialMetadata record) actor service.store
          some { service with
            store := attached.1
            records
            drawn := service.drawn + 1
            revoking := service.revoking ++ attached.2 }
      | .error _ => some { service with drawn := service.drawn + 1 }
  | .refresh accountId version actor =>
      (service.store.database.account? accountId).map fun account =>
        service.join account.credentialHandle [⟨accountId, version, actor⟩]
  | .prepare handle => some (service.join handle [])
  | .flight handle input =>
      (service.flights.get? handle).bind fun flight =>
        (refreshOnce platform.runtime handle service.records flight.phase input).map fun
          | (.goesOn phase, records) =>
              { service with records, flights := service.flights.set handle { flight with phase } }
          | (.settled outcome, records) =>
              settle platform { service with records, flights := service.flights.erase handle }
                flight.callers outcome
  | .rereads index =>
      (service.refused[index]?).map fun refused =>
        let latest := service.records.metadata refused.current.credentialHandle
        { service with refused := service.refused.set index { refused with latest := some latest } }
  | .rebinds index =>
      (service.refused[index]?).bind fun refused =>
        refused.latest.map fun latest =>
          { service with
            store := platform.serve service.store (rebinding refused latest)
            refused := service.refused.eraseIdx index }
  | .revoke accountId version actor =>
      (service.store.database.account? accountId).bind fun account =>
        if account.version ≠ version then none
        else
          match platform.attempt service.store (bindRequest account.id version
            account.credentialHandle account.credentialGeneration .revoked actor) with
          | (some _, store) =>
              some { service with store, revoking := service.revoking ++ [account.credentialHandle] }
          | (none, store) => some { service with store }
  | .purge index =>
      (service.revoking[index]?).map fun handle =>
        { service with
          records := service.records.purge handle
          revoking := service.revoking.eraseIdx index }
  | .restart => some { service with flights := .empty, refused := [], revoking := [] }

/-- A service with nothing stored. -/
def initial : CredentialService where
  store := ⟨.empty, 0⟩
  records := .empty
  drawn := 0
  flights := .empty
  refused := []
  revoking := []

end CredentialService

/-! ## What refreshes respect -/

/-- The account is paused or revoked. -/
def AccountRow.Held (row : AccountRow) : Prop := row.state = .paused ∨ row.state = .revoked

instance (row : AccountRow) : Decidable row.Held :=
  inferInstanceAs (Decidable (row.state = .paused ∨ row.state = .revoked))

/-- The event is a step of a refresh. -/
def CredentialEvent.OfRefresh : CredentialEvent → Prop
  | .refresh .. | .prepare _ | .flight .. | .rereads _ | .rebinds _ => True
  | .manage _ | .attach .. | .revoke .. | .purge _ | .restart => False

/-- Events lead to a service from one with nothing stored. -/
def Reaches (platform : CredentialPlatform) (events : List CredentialEvent)
    (service : CredentialService) : Prop :=
  List.run (CredentialService.step platform) CredentialService.initial events = some service

/-- In a run, no refresh moves a paused or revoked account to ready or unready, and no account goes
back to a generation before one that it referred to of the same credential. -/
structure RespectsAccounts (platform : CredentialPlatform) (events : List CredentialEvent) :
    Prop where
  held : ∀ (before after : List CredentialEvent) (event : CredentialEvent)
    (service service' : CredentialService) (id : String) (row row' : AccountRow),
    events = before ++ event :: after → Reaches platform before service →
    Reaches platform (before ++ [event]) service' → event.OfRefresh → service.row id = some row →
    row.Held → service'.row id = some row' → row'.state ≠ .ready ∧ row'.state ≠ .unready
  generations : ∀ (before between after : List CredentialEvent)
    (service service' : CredentialService) (id : String) (row row' : AccountRow),
    events = before ++ between ++ after → Reaches platform before service →
    Reaches platform (before ++ between) service' → service.row id = some row →
    service'.row id = some row' → row'.credentialHandle = row.credentialHandle →
    row.credentialGeneration ≤ row'.credentialGeneration

namespace CredentialService

variable (platform : CredentialPlatform)

/-- The account is neither paused nor revoked in a version. -/
def Free (service : CredentialService) (id : String) (version : ℕ) : Prop :=
  ∀ row ∈ service.row id, row.version = version → ¬ row.Held

instance (service : CredentialService) (id : String) (version : ℕ) :
    Decidable (service.Free id version) :=
  inferInstanceAs (Decidable (∀ row ∈ service.row id, row.version = version → ¬ row.Held))

/-- A flight settles with a credential only while the accounts of its callers are free in the
versions they were called for, and a refused call binds only while its account is free in the
version that it found. -/
def Careful (service : CredentialService) : CredentialEvent → Prop
  | .flight handle input =>
      ∀ flight ∈ service.flights.get? handle,
        ∀ progress ∈ refreshOnce platform.runtime handle service.records flight.phase input,
          progress.1.delivers = true →
            ∀ call ∈ flight.callers, service.Free call.accountId call.version
  | .rebinds index =>
      ∀ refused ∈ service.refused[index]?,
        service.Free refused.current.id refused.current.version
  | _ => True

instance (service : CredentialService) :
    (event : CredentialEvent) → Decidable (service.Careful platform event)
  | .flight handle input =>
      inferInstanceAs (Decidable (∀ flight ∈ service.flights.get? handle,
        ∀ progress ∈ refreshOnce platform.runtime handle service.records flight.phase input,
          progress.1.delivers = true →
            ∀ call ∈ flight.callers, service.Free call.accountId call.version))
  | .rebinds index =>
      inferInstanceAs (Decidable (∀ refused ∈ service.refused[index]?,
        service.Free refused.current.id refused.current.version))
  | .manage _ | .attach .. | .refresh .. | .prepare _ | .rereads _ | .revoke .. | .purge _
  | .restart => isTrue trivial

end CredentialService

end RlyGateway
