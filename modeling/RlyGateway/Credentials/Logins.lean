import RlyGateway.Credentials.Attachment
import RlyGateway.Library.Runs

/-!
# OAuth logins

`src/credentials/oauth-login.ts` and `startLogin`, `finishLogin` and `cancelLogin` of
`CredentialService`. The coordinator keeps the functions that settle the last login it started, one
callback server and one busy flag, and the service the provider of one pending login; a login waits
for its callback server, for the exchange of its code and for its tokens to be stored, and whatever
else is asked for can come in between. The verifier of a session always matches its challenge.
-/

namespace RlyGateway

/-- What logins take from the platform besides: the states of their sessions, of which no two are
equal. -/
structure LoginPlatform extends CredentialPlatform where
  loginState : ℕ → String
  loginState_injective : Function.Injective loginState

def STATE_TTL_MS : ℤ := 10 * 60 * 1000

/-- What a login is started with. -/
structure LoginInput where
  providerId : String
  pseudonym : String
  provider : CredentialProviderName
  actor : ManagementActor
deriving DecidableEq

structure OAuthSession where
  state : String
  redirectUri : String
  provider : CredentialProviderName
  providerId : String
  pseudonym : String
  expiresAt : ℤ
deriving DecidableEq

/-- A login that was started, with the state of its session. -/
structure Login where
  input : LoginInput
  state : String
deriving DecidableEq

/-- The exchange of a code, with the tokens once the provider has answered. -/
structure TokenExchange where
  session : OAuthSession
  code : String
  tokens : Option OAuthTokenSet
deriving DecidableEq

/-- A login that has finished: what it attached, and the exchange that this came from. -/
structure LoginDelivery where
  login : ℕ
  providerId : String
  metadata : CredentialMetadata
  exchange : TokenExchange
deriving DecidableEq

structure LoginService where
  store : StoreState
  records : CredentialRecords
  /-- How many handles were drawn. -/
  drawn : ℕ
  /-- The logins that wait for their callback server. -/
  starting : List LoginInput
  sessions : OrderedMap String OAuthSession
  /-- The redirect of the callback server. -/
  callback : Option String
  loginBusy : Bool
  logins : List Login
  /-- The login that `loginResolve` and `loginReject` settle. -/
  settlers : Option ℕ
  pendingLoginProviderId : Option String
  exchanges : List TokenExchange
  scheduledCloses : ℕ
  /-- The credentials of logins that could not be attached, which are being revoked. -/
  abandoned : List String
  /-- The credentials that were replaced, which are being revoked. -/
  revoking : List String
  /-- How the logins were settled so far. -/
  outcomes : List (ℕ × Except CredentialError CredentialMetadata)
  /-- The exchanges whose tokens were stored so far. -/
  stored : List TokenExchange
  /-- The logins that have finished so far. -/
  deliveries : List LoginDelivery

inductive LoginEvent where
  /-- A call of the control-plane store. -/
  | manage (request : StoreRequest)
  | startLogin (providerId pseudonym : String) (actor : ManagementActor)
  /-- The callback server of a login listens. -/
  | listens (index : ℕ) (redirectUri : String) (now : ℤ)
  | listenFails (index : ℕ)
  | callback (code state : String) (now : ℤ)
  /-- The provider answers an exchange. -/
  | answered (index : ℕ) (answer : Except CredentialError OAuthTokenSet)
  /-- The tokens of an exchange are stored. -/
  | persists (index : ℕ)
  | persistFails (index : ℕ) (error : CredentialError)
  | cancelLogin (state : String)
  | close
  /-- A close that `setImmediate` was asked for. -/
  | scheduledClose
  /-- A login that could not be attached has revoked its credential. -/
  | abandons (index : ℕ)
  /-- A revocation comes to its purge. -/
  | purge (index : ℕ)

/-- The credentials that logins of a provider obtain: it is integrated by OAuth and does not import
those of Cline. -/
def Database.loginProvider? (db : Database) (providerId : String) : Option CredentialProviderName :=
  match listProviders db with
  | .ok providers =>
      (providers.find? fun provider => provider.id = providerId).bind fun provider =>
        if provider.integrationMode ≠ .oauth then none
        else
          (credentialContract provider.name).bind fun contract =>
            if contract.importMode = .optInInteroperability then none
            else contract.credentialProvider
  | .error _ => none

namespace LoginService

variable (platform : LoginPlatform) (service : LoginService)

/-- `close`. -/
def closed : LoginService := { service with callback := none, loginBusy := false }

def scheduleClose : LoginService := { service with scheduledCloses := service.scheduledCloses + 1 }

/-- `fail`, which rejects the login that the settlers are of. -/
def fail (error : CredentialError) : LoginService :=
  match service.settlers with
  | some login =>
      { service with settlers := none, outcomes := service.outcomes ++ [(login, .error error)] }
  | none => service

/-- `finishOnce` of a login that was resolved, for the provider that is pending. -/
def finishOnce (login : ℕ) (actor : ManagementActor) (metadata : CredentialMetadata)
    (exchange : TokenExchange) : LoginService :=
  match service.pendingLoginProviderId with
  | none => service
  | some providerId =>
      let attached := attachAccount platform.toStorePlatform providerId metadata actor service.store
      if metadata.handle ∈ attached.2 then
        { service with store := attached.1, abandoned := service.abandoned ++ [metadata.handle] }
      else
        { service with
          store := attached.1
          revoking := service.revoking ++ attached.2
          pendingLoginProviderId := none
          deliveries := service.deliveries ++ [⟨login, providerId, metadata, exchange⟩] }

/-- `succeed`, which resolves the login that the settlers are of. -/
def succeed (metadata : CredentialMetadata) (exchange : TokenExchange) : LoginService :=
  match service.settlers with
  | some login =>
      match service.logins[login]? with
      | some started =>
          finishOnce platform
            { service with
              settlers := none
              outcomes := service.outcomes ++ [(login, .ok metadata)] }
            login started.input.actor metadata exchange
      | none => service
  | none => service

/-- `handleCallback`, as far as the exchange of the code. -/
def handleCallback (code state : String) (now : ℤ) : LoginService :=
  match service.callback with
  | none =>
      (service.fail (.oauthFlow "callback-collision" "oauth callback is not active")).scheduleClose
  | some redirectUri =>
      match service.sessions.get? state with
      -- a state mismatch fails no login
      | none => service
      | some session =>
          let consumed := { service with sessions := service.sessions.erase state }
          if session.expiresAt ≤ now then
            (consumed.fail (.oauthFlow "state-expired" "oauth state expired")).scheduleClose
          else if session.redirectUri ≠ redirectUri then
            (consumed.fail
              (.oauthFlow "redirect-mismatch" "oauth redirect does not match")).scheduleClose
          else { consumed with exchanges := service.exchanges ++ [⟨session, code, none⟩] }

/-- The rest of `handleCallback` where the exchange of the code fails. -/
def exchangeFails (index : ℕ) (error : CredentialError) : LoginService :=
  (fail { service with exchanges := service.exchanges.eraseIdx index } error).scheduleClose

/-- What an event leads to, unless it cannot happen. -/
def step (service : LoginService) : LoginEvent → Option LoginService
  | .manage request => some { service with store := platform.serve service.store request }
  | .startLogin providerId pseudonym actor =>
      if service.callback.isSome || service.loginBusy then none
      else
        (service.store.database.loginProvider? providerId).map fun provider =>
          { service with
            loginBusy := true
            starting := service.starting ++ [⟨providerId, pseudonym, provider, actor⟩] }
  | .listens index redirectUri now =>
      (service.starting[index]?).map fun input =>
        let state := platform.loginState service.logins.length
        { service with
          starting := service.starting.eraseIdx index
          callback := some redirectUri
          logins := service.logins ++ [⟨input, state⟩]
          settlers := some service.logins.length
          sessions := service.sessions.set state
            ⟨state, redirectUri, input.provider, input.providerId, input.pseudonym,
              now + STATE_TTL_MS⟩
          pendingLoginProviderId := some input.providerId }
  | .listenFails index =>
      (service.starting[index]?).map fun _ =>
        closed { service with starting := service.starting.eraseIdx index }
  | .callback code state now => some (service.handleCallback code state now)
  | .answered index answer =>
      (service.exchanges[index]?).bind fun exchange =>
        if exchange.tokens.isSome then none
        else
          match answer with
          | .ok tokens =>
              some { service with
                exchanges := service.exchanges.set index { exchange with tokens := some tokens } }
          | .error error => some (service.exchangeFails index error)
  | .persists index =>
      (service.exchanges[index]?).bind fun exchange =>
        exchange.tokens.map fun tokens =>
          let session := exchange.session
          let handle := platform.credentialHandle service.drawn
          let record := initialCredentialRecord platform.runtime handle session.pseudonym tokens none
            session.provider
          match service.records.commit handle 0 record with
          | .ok records =>
              (succeed platform
                { service with
                  records
                  drawn := service.drawn + 1
                  exchanges := service.exchanges.eraseIdx index
                  stored := service.stored ++ [exchange] }
                (toCredentialMetadata record) exchange).scheduleClose
          | .error error => exchangeFails { service with drawn := service.drawn + 1 } index error
  | .persistFails index error =>
      (service.exchanges[index]?).bind fun exchange =>
        exchange.tokens.map fun _ => service.exchangeFails index error
  | .cancelLogin state =>
      some (fail
        { service with
          pendingLoginProviderId := none
          sessions := service.sessions.erase state }
        (.oauthFlow "cancelled" "oauth login was cancelled")).closed
  | .close => some service.closed
  | .scheduledClose =>
      if service.scheduledCloses = 0 then none
      else some (closed { service with scheduledCloses := service.scheduledCloses - 1 })
  | .abandons index =>
      (service.abandoned[index]?).map fun handle =>
        { service with
          records := service.records.purge handle
          abandoned := service.abandoned.eraseIdx index
          pendingLoginProviderId := none }
  | .purge index =>
      (service.revoking[index]?).map fun handle =>
        { service with
          records := service.records.purge handle
          revoking := service.revoking.eraseIdx index }

/-- A service with nothing stored. -/
def initial : LoginService where
  store := ⟨.empty, 0⟩
  records := .empty
  drawn := 0
  starting := []
  sessions := .empty
  callback := none
  loginBusy := false
  logins := []
  settlers := none
  pendingLoginProviderId := none
  exchanges := []
  scheduledCloses := 0
  abandoned := []
  revoking := []
  outcomes := []
  stored := []
  deliveries := []

end LoginService

end RlyGateway
