import RlyGateway.ControlPlane.Tables
import RlyGateway.Management.SessionHistories
import RlyGateway.Providers.HttpFailure
import RlyGateway.Runtime.GatewayAuthentication

/-!
# Authorization of the management collections

`src/management/auth.ts`, `server.ts` and `collections.ts`: the hook that checks the origin of a
request, the authorizer that reads its bearer token, cookie and CSRF token, and the routes of a
collection. The other routes of the server only make calls of the session store.
-/

namespace RlyGateway

/-! ## Reading a request -/

def SESSION_COOKIE_NAME : String := "ag_mgmt_session"

def headerValue : Option HeaderValue → Option String
  | some (.many texts) => texts.head?
  | some (.single text) => some text
  | none => none

def isExactManagementOrigin (origin : Option String) (expected : String) : Bool :=
  origin = some expected

/-- The value of a cookie: of the first part of the header that has the name before its first `=`. -/
def parseCookie (header : Option String) (name : String) : Option String :=
  header.bind fun header =>
    (header.toList.splitOnP (· = ';')).findSome? fun part =>
      let key := part.takeWhile (· ≠ '=')
      match part.drop key.length with
      | [] => none
      | _ :: value =>
          if key = [] then none
          else if String.ofList (trimChars key) ≠ name then none
          else some (String.ofList (trimChars value))

/-! ## The authorizer -/

structure ManagementServerOptions where
  origin : String
  managementToken : String
  /-- `z.uuid()`, for the ids of records. -/
  isUuid : String → Bool

inductive AuthorizationFailure where
  | unauthorized
  | invalidCsrf
deriving DecidableEq, Repr

def AuthorizationFailure.status : AuthorizationFailure → ℕ
  | .unauthorized => 401
  | .invalidCsrf => 403

def AuthorizationFailure.code : AuthorizationFailure → String
  | .unauthorized => "unauthorized"
  | .invalidCsrf => "invalid-csrf"

def bearerMatches (runtime : NodeRuntime) (actual expected : String) : Bool :=
  runtime.sha256Hex actual == runtime.sha256Hex expected

/-- Who a request comes from. Of the session store it makes two calls at most. -/
def authorize (platform : ManagementPlatform) (options : ManagementServerOptions)
    (first second : ClockReadings) (headers : Headers) (mutating : Bool) (store : SessionStore) :
    Except AuthorizationFailure ManagementActor × SessionStore :=
  match bearerToken (headers.text? "authorization") with
  | some bearer =>
      if bearerMatches platform.runtime bearer options.managementToken then (.ok .cli, store)
      else (.error .unauthorized, store)
  | none =>
      match parseCookie (headerValue (headers.get? "cookie")) SESSION_COOKIE_NAME with
      | none => (.error .unauthorized, store)
      | some sessionId =>
          if sessionId = "" then (.error .unauthorized, store)
          else
            let (live, store) := store.hasSession platform first sessionId
            if !live then (.error .unauthorized, store)
            else if !mutating then (.ok .browser, store)
            else
              match headerValue (headers.get? "x-csrf-token") with
              | none => (.error .invalidCsrf, store)
              | some csrf =>
                  if csrf = "" then (.error .invalidCsrf, store)
                  else
                    let (same, store) := store.matchesCsrf platform second sessionId csrf
                    if !same then (.error .invalidCsrf, store) else (.ok .browser, store)

/-! ## Collections -/

inductive CollectionName where
  | providers
  | accounts
  | pools
  | profiles
deriving DecidableEq, Repr

def CollectionName.text : CollectionName → String
  | .providers => "providers"
  | .accounts => "accounts"
  | .pools => "pools"
  | .profiles => "profiles"

inductive CollectionRoute where
  | list (name : CollectionName)
  | create (name : CollectionName)
  | update (name : CollectionName)
deriving DecidableEq, Repr

def CollectionRoute.path : CollectionRoute → List PathPart
  | .list name | .create name => [.text "v1", .text name.text]
  | .update name => [.text "v1", .text name.text, .parameter]

/-- A route for `GET` serves `HEAD` as well. -/
def CollectionRoute.serves (method : String) : CollectionRoute → Bool
  | .list _ => method == "GET" || method == "HEAD"
  | .create _ => method == "POST"
  | .update _ => method == "PATCH"

def CollectionRoute.accepts (parts : List String) (route : CollectionRoute) : Bool :=
  parts.length = route.path.length &&
    (parts.zip route.path).all fun part => part.2.accepts part.1

/-- The routes that are registered. -/
def collectionRoutes : List CollectionRoute :=
  [CollectionName.providers, .accounts, .pools, .profiles].flatMap fun name =>
    [.list name, .create name, .update name]

/-- A request, with what is read of its body, or the status that its body is refused with. -/
structure ManagementRequest where
  method : String
  target : String
  headers : Headers
  body : Except ℕ (Option Json)

/-- A handler of a collection, and what it is called with. -/
inductive HandlerCall where
  | list (name : CollectionName)
  | create (name : CollectionName) (body : Option Json) (actor : ManagementActor)
  | update (name : CollectionName) (id : String) (body : Option Json) (actor : ManagementActor)

/-- The handler changes the collection. -/
def HandlerCall.Mutates : HandlerCall → Prop
  | .list _ => False
  | .create _ _ _ | .update _ _ _ _ => True

inductive ManagementOutcome where
  /-- Another route, or none. -/
  | elsewhere
  | refused (status : ℕ) (code : String)
  /-- The body could not be read. -/
  | unreadable (status : ℕ)
  | handled (call : HandlerCall)

/-- The origin hook lets the request through. -/
def passesOriginHook (options : ManagementServerOptions) (request : ManagementRequest) : Bool :=
  request.method == "GET" || request.method == "HEAD" ||
    isExactManagementOrigin (headerValue (request.headers.get? "origin")) options.origin

/-- What the handler of a route does with an authorized request. -/
def handleCollection (options : ManagementServerOptions) (route : CollectionRoute)
    (parts : List String) (body : Option Json) (actor : ManagementActor) : ManagementOutcome :=
  match route with
  | .list name => .handled (.list name)
  | .create name => .handled (.create name body actor)
  | .update name =>
      match parts[2]? with
      | some id =>
          if options.isUuid id then .handled (.update name id body actor)
          else .refused 400 "invalid"
      | none => .refused 400 "invalid"

/-- Whether the handler of a route asks for a session that may change things. -/
def CollectionRoute.mutating : CollectionRoute → Bool
  | .list _ => false
  | .create _ | .update _ => true

/-- What becomes of a request for a collection. -/
def serveManagement (platform : ManagementPlatform) (options : ManagementServerOptions)
    (router : Router) (first second : ClockReadings) (store : SessionStore)
    (request : ManagementRequest) : ManagementOutcome :=
  if !passesOriginHook options request then .refused 403 "invalid-origin"
  else
    match router request.target with
    | none => .elsewhere
    | some parts =>
        match collectionRoutes.find? fun route =>
            route.serves request.method && route.accepts parts with
        | none => .elsewhere
        | some route =>
            match request.body with
            | .error status => .unreadable status
            | .ok body =>
                match (authorize platform options first second request.headers route.mutating
                    store).1 with
                | .error failure => .refused failure.status failure.code
                | .ok actor => handleCollection options route parts body actor

/-! ## Who may change a collection -/

/-- The request carries the bearer token of the management, or a session that is live and the CSRF
token that is the latest of this session. -/
def CarriesManagement (platform : ManagementPlatform) (options : ManagementServerOptions)
    (history : List TimedCall) (now : ℤ) (headers : Headers) : Prop :=
  bearerToken (headers.text? "authorization") = some options.managementToken ∨
    ∃ id csrfToken, parseCookie (headerValue (headers.get? "cookie")) SESSION_COOKIE_NAME = some id ∧
      headerValue (headers.get? "x-csrf-token") = some csrfToken ∧
        LiveSession platform history id now ∧ LatestCsrf platform history id csrfToken

/-- The protocol of the management sessions: over every history of calls the store answers as it
should, and a request served after it changes a collection only with the exact origin and with the
tokens for it. -/
structure ManagementProtocol (platform : ManagementPlatform) (history : List TimedCall) :
    Prop where
  sessions : SessionProtocol platform history
  mutations : ∀ (options : ManagementServerOptions) (router : Router)
    (first second : ClockReadings) (request : ManagementRequest) (call : HandlerCall),
    ClockReached history first.purge → first.stamp ≤ second.purge →
      serveManagement platform options router first second (storeAfter platform history) request =
        .handled call → call.Mutates →
          headerValue (request.headers.get? "origin") = some options.origin ∧
            CarriesManagement platform options history second.check request.headers

variable {platform : ManagementPlatform} {options : ManagementServerOptions}
  {history : List TimedCall} {first second : ClockReadings} {headers : Headers}

/-- Reading a session leaves those that are live and their CSRF tokens. -/
theorem liveSession_concat_hasSession {id id' : String} {now : ℤ} :
    LiveSession platform (history ++ [⟨.hasSession id', first⟩]) id now ↔
      LiveSession platform history id now := by
  unfold LiveSession
  simp [List.since_concat, CreatesSession]

theorem latestCsrf_concat_hasSession {id id' csrfToken : String} :
    LatestCsrf platform (history ++ [⟨.hasSession id', first⟩]) id csrfToken ↔
      LatestCsrf platform history id csrfToken := by
  have hanswer : ∀ csrfToken, ¬ IssuesCsrf platform id csrfToken history
      ⟨.hasSession id', first⟩ := by
    rintro csrfToken ⟨expiresAt, h⟩
    rw [answerAfter_hasSession rfl] at h
    cases h
  unfold LatestCsrf
  simp [List.since_concat, hanswer]

/-- A request that may change things carries what it takes. -/
theorem carriesManagement_of_authorize (horder : InOrder history)
    (hfirst : ClockReached history first.purge) (hsecond : first.stamp ≤ second.purge)
    {actor : ManagementActor} (h : (authorize platform options first second headers true
      (storeAfter platform history)).1 = .ok actor) :
    CarriesManagement platform options history second.check headers := by
  unfold authorize at h
  split at h
  · rename_i bearer hbearer
    split at h
    · rename_i hmatches
      rw [bearerMatches, beq_iff_eq] at hmatches
      exact .inl (hbearer.trans (congrArg some (platform.hashToken_injective hmatches)))
    · cases h
  · split at h
    · cases h
    · rename_i id hcookie
      split at h
      · cases h
      · dsimp only at h
        split at h
        · cases h
        · simp only [Bool.not_true, Bool.false_eq_true, if_false] at h
          split at h
          · cases h
          · rename_i csrf hcsrf
            split at h
            · cases h
            · split at h
              · cases h
              · rename_i hsame
                -- the two calls are one more entry of the history, and the call after it
                have hlonger : InOrder (history ++ [⟨.hasSession id, first⟩]) :=
                  inOrder_concat.2 ⟨horder, hfirst⟩
                have hreached : ClockReached (history ++ [⟨.hasSession id, first⟩]) second.purge := by
                  refine clockReached_concat.2 ⟨fun timed htimed => ?_, hsecond⟩
                  exact (hfirst timed htimed).trans
                    ((first.purge_le_check.trans first.check_le_stamp).trans hsecond)
                have hanswer : answerAfter platform (history ++ [⟨.hasSession id, first⟩])
                    ⟨.matchesCsrf id csrf, second⟩ = .holds true := by
                  rw [Bool.not_eq_true, Bool.not_eq_false'] at hsame
                  rw [answerAfter, storeAfter_concat]
                  exact congrArg SessionAnswer.holds hsame
                obtain ⟨hlive, hlatest⟩ := ((sessionProtocol (inOrder_concat.2
                  ⟨hlonger, hreached⟩)).matchesCsrf _ _ [] id csrf rfl rfl).1 hanswer
                exact .inr ⟨id, csrf, hcookie, hcsrf, liveSession_concat_hasSession.1 hlive,
                  latestCsrf_concat_hasSession.1 hlatest⟩

/-- Only a route that is served by another method than `GET` and `HEAD` changes a collection. -/
theorem mutating_of_handled {route : CollectionRoute} {parts : List String} {body : Option Json}
    {actor : ManagementActor} {call : HandlerCall}
    (h : handleCollection options route parts body actor = .handled call)
    (hmutates : call.Mutates) : route.mutating = true := by
  cases route with
  | list name =>
      cases h
      exact hmutates.elim
  | create name => rfl
  | update name => rfl

/-- The management sessions keep their protocol. -/
theorem managementProtocol (platform : ManagementPlatform) {history : List TimedCall}
    (horder : InOrder history) : ManagementProtocol platform history where
  sessions := sessionProtocol horder
  mutations := by
    intro options router first second request call hfirst hsecond h hmutates
    unfold serveManagement at h
    split at h
    · cases h
    · rename_i hhook
      split at h
      · cases h
      · split at h
        · cases h
        · rename_i route hroute
          split at h
          · cases h
          · split at h
            · cases h
            · rename_i actor hactor
              have hmutating := mutating_of_handled h hmutates
              rw [hmutating] at hactor
              refine ⟨?_, carriesManagement_of_authorize horder hfirst hsecond hactor⟩
              have hfound := List.find?_some hroute
              obtain ⟨hserves, -⟩ := Bool.and_eq_true_iff.1 hfound
              have hmethod : request.method ≠ "GET" ∧ request.method ≠ "HEAD" := by
                cases route with
                | list name => cases hmutating
                | create name => simp [(beq_iff_eq.1 hserves : request.method = "POST")]
                | update name => simp [(beq_iff_eq.1 hserves : request.method = "PATCH")]
              simpa [passesOriginHook, isExactManagementOrigin, hmethod] using hhook

/-! ## A session with a second CSRF token -/

/-- A session is created just before the bootstrap token expires, and gets a second CSRF token. -/
def rotatedHistory : List TimedCall :=
  [⟨.issueBootstrap, .still 0⟩, ⟨.exchangeBootstrap "t", .still 59999⟩,
    ⟨.rotateCsrf "tt", .still 70000⟩]

theorem managementProtocol_rotatedHistory :
    ManagementProtocol countingManagementPlatform rotatedHistory :=
  managementProtocol countingManagementPlatform (by
    unfold InOrder rotatedHistory
    decide)

end RlyGateway
