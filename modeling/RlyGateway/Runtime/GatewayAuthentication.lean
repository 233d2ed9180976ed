import RlyGateway.Core.CanonicalRequest
import RlyGateway.Profiles.Sessions

/-!
# Authentication of the gateway's data routes

`src/runtime/gateway-server.ts`: which data routes `createGatewayServer` registers, and the hook
that authenticates requests. The router finds a route by the path of a target as it reads it; the
hook looks at the target as it was sent.
-/

namespace RlyGateway

/-! ## Tokens of a request -/

/-- The text behind a prefix. -/
def afterPrefix ( pre text : List Char) : Option (List Char) :=
  if pre.isPrefixOf text then some (text.drop pre.length) else none

def bearerToken (header : Option String) : Option String :=
  header.bind fun header => (afterPrefix "Bearer ".toList header.toList).map String.ofList

/-- The first API key. -/
def apiKey (headers : Headers) : Option String :=
  match headers.get? "x-api-key" with
  | some (.single key) => some key
  | some (.many keys) => keys.head?
  | none => none

/-- A bearer token that is not empty, else the first API key. -/
def headerToken (headers : Headers) : Option String :=
  match bearerToken (headers.text? "authorization") with
  | some token => if token ≠ "" then some token else apiKey headers
  | none => apiKey headers

/-- The tokens that a request carries, as bearer or as API key. -/
def carriedTokens (headers : Headers) : List String :=
  (bearerToken (headers.text? "authorization")).toList ++
    match headers.get? "x-api-key" with
    | some (.single key) => [key]
    | some (.many keys) => keys
    | none => []

theorem headerToken_mem {headers : Headers} {token : String}
    (h : headerToken headers = some token) : token ∈ carriedTokens headers := by
  have hkey : apiKey headers = some token → token ∈ carriedTokens headers := by
    intro hkey
    refine List.mem_append_right _ ?_
    unfold apiKey at hkey
    split at hkey
    · cases hkey
      exact List.mem_singleton_self _
    · exact List.mem_of_mem_head? hkey
    · cases hkey
  unfold headerToken at h
  split at h
  · rename_i bearer hbearer
    split at h
    · cases h
      exact List.mem_append_left _ (by rw [hbearer]; exact List.mem_singleton_self _)
    · exact hkey h
  · exact hkey h

def tokensEqual (runtime : NodeRuntime) (actual expected : String) : Bool :=
  runtime.sha256Hex actual == runtime.sha256Hex expected

def isGatewayRequestAuthorized (runtime : NodeRuntime) (headers : Headers)
    (token : String) : Bool :=
  match headerToken headers with
  | some candidate => tokensEqual runtime candidate token
  | none => false

/-! ## Routes -/

/-- The handlers that serve models. -/
inductive DataRoute where
  | messages
  | countTokens
  | createResponse
  | getResponse
  | models
deriving DecidableEq

/-- What `createGatewayServer` is given, as far as it decides which routes there are. -/
structure GatewayServerOptions where
  authToken : String
  /-- The number of routes of the configuration, if there is one. -/
  configRoutes : Option ℕ
  resolveOauthRoute : Bool
  controlPlane : Bool
  broker : Bool
  selector : Bool
  launchSessions : Bool
  traces : Bool

namespace GatewayServerOptions

def profileReady (options : GatewayServerOptions) : Bool :=
  options.controlPlane && options.broker && options.selector && options.launchSessions &&
    options.traces

/-- The data routes are registered, and the hook with them. -/
def hasRoutes (options : GatewayServerOptions) : Bool :=
  options.configRoutes.elim false fun routes =>
    routes > 0 || options.resolveOauthRoute || options.profileReady

def dataRoutes (options : GatewayServerOptions) : List DataRoute :=
  if options.hasRoutes then
    [.messages, .createResponse, .getResponse, .countTokens] ++
      if options.controlPlane && options.launchSessions then [.models] else []
  else []

end GatewayServerOptions

/-- A part of a route's path: fixed text, or a parameter that takes any part but the empty one. -/
inductive PathPart where
  | text (part : String)
  | parameter

def PathPart.accepts (part : String) : PathPart → Bool
  | .text expected => part == expected
  | .parameter => part ≠ ""

def DataRoute.path : DataRoute → List PathPart
  | .messages => [.text "v1", .text "messages"]
  | .countTokens => [.text "v1", .text "messages", .text "count_tokens"]
  | .createResponse => [.text "v1", .text "responses"]
  | .getResponse => [.text "v1", .text "responses", .parameter]
  | .models => [.text "v1", .text "models"]

/-- A route for `GET` serves `HEAD` as well. -/
def DataRoute.serves (method : String) : DataRoute → Bool
  | .messages | .countTokens | .createResponse => method == "POST"
  | .getResponse | .models => method == "GET" || method == "HEAD"

/-- The router: the parts of the path it reads in a target, unless it refuses the target. -/
abbrev Router := String → Option (List String)

def DataRoute.accepts (parts : List String) (route : DataRoute) : Bool :=
  parts.length = route.path.length &&
    (parts.zip route.path).all fun part => part.2.accepts part.1

/-- The data route whose handler a request is for. -/
def findRoute (options : GatewayServerOptions) (router : Router) (method target : String) :
    Option DataRoute := do
  let parts ← router target
  options.dataRoutes.find? fun route => route.serves method && route.accepts parts

/-! ## The hook -/

inductive RequestOutcome where
  /-- No data route: another handler, or none. -/
  | elsewhere
  | unauthorized
  | dispatched (route : DataRoute)
deriving DecidableEq

variable {Session : Type}

/-- The `onRequest` hook lets a request through. -/
def onRequest (runtime : NodeRuntime) (options : GatewayServerOptions)
    (registry : LaunchSessionRegistry Session) (leaseActive : String → Bool) (target : String)
    (headers : Headers) : Bool :=
  if !"/v1/".toList.isPrefixOf target.toList then true
  else if isGatewayRequestAuthorized runtime headers options.authToken then true
  else
    match headerToken headers with
    | some token =>
        token ≠ "" && options.launchSessions &&
          (registry.resolve runtime leaseActive token).1.isSome
    | none => false

/-- What becomes of a request. -/
def serveRequest (runtime : NodeRuntime) (options : GatewayServerOptions) (router : Router)
    (registry : LaunchSessionRegistry Session) (leaseActive : String → Bool)
    (method target : String) (headers : Headers) : RequestOutcome :=
  match findRoute options router method target with
  | none => .elsewhere
  | some route =>
      if onRequest runtime options registry leaseActive target headers then .dispatched route
      else .unauthorized

/-! ## Every data route -/

/-- The request carries the instance token, or the token of a session that is live. -/
def CarriesToken (options : GatewayServerOptions) (events : List (SessionEvent Session))
    (leaseActive : String → Bool) (headers : Headers) : Prop :=
  ∃ token ∈ carriedTokens headers, token = options.authToken ∨
    ∃ session, Issued events token session ∧ leaseActive session.leaseId = true

/-- None of the given tokens has the digest of another token that the request carries. -/
def CollisionFree (runtime : NodeRuntime) (tokens : List String) (headers : Headers) :
    Prop :=
  ∀ token ∈ tokens, ∀ carried ∈ carriedTokens headers,
    runtime.sha256Hex carried = runtime.sha256Hex token → carried = token

/-- The tokens that a registry was asked to issue. -/
def issuedTokens (events : List (SessionEvent Session)) : List String :=
  events.filterMap fun event => match event with
    | .issue token _ _ => some token
    | _ => none

/-- Whatever its headers, a request for a data route is dispatched only with a token. -/
def AlwaysAuthenticated (runtime : NodeRuntime) (options : GatewayServerOptions) (router : Router)
    (events : List (SessionEvent Session)) (leaseActive : String → Bool)
    (method target : String) : Prop :=
  ∀ headers route, CollisionFree runtime (options.authToken :: issuedTokens events) headers →
    serveRequest runtime options router (registryAfter runtime events) leaseActive method target
      headers = .dispatched route →
    CarriesToken options events leaseActive headers

theorem Issued.mem_issuedTokens {events : List (SessionEvent Session)} {token : String}
    {session : LeasedSession Session} (h : Issued events token session) :
    token ∈ issuedTokens events := by
  obtain ⟨before, after, leaseActive, rfl, -⟩ := h
  exact List.mem_filterMap.2 ⟨_, List.mem_append_right _ List.mem_cons_self, rfl⟩

/-- A request that the hook has examined carries a token. -/
theorem carriesToken_of_onRequest {runtime : NodeRuntime} {options : GatewayServerOptions}
    {events : List (SessionEvent Session)} {leaseActive : String → Bool} {target : String}
    {headers : Headers}
    (hfree : CollisionFree runtime (options.authToken :: issuedTokens events) headers)
    (htarget : "/v1/".toList <+: target.toList)
    (h : onRequest runtime options (registryAfter runtime events) leaseActive target headers = true) :
    CarriesToken options events leaseActive headers := by
  rw [← List.isPrefixOf_iff_prefix] at htarget
  unfold onRequest at h
  rw [htarget] at h
  cases htoken : headerToken headers with
  | none => simp [isGatewayRequestAuthorized, htoken] at h
  | some token =>
      have hcarried := headerToken_mem htoken
      refine ⟨token, hcarried, ?_⟩
      simp only [Bool.not_true, Bool.false_eq_true, if_false, htoken] at h
      split at h
      · rename_i hauthorized
        left
        simp only [isGatewayRequestAuthorized, htoken, tokensEqual, beq_iff_eq] at hauthorized
        exact hfree _ List.mem_cons_self token hcarried hauthorized
      · right
        simp only [Bool.and_eq_true, Option.isSome_iff_exists] at h
        obtain ⟨-, session, hsession⟩ := h
        obtain ⟨hactive, issued, hdigest, hissued⟩ :=
          exists_issued_of_resolve runtime events hsession
        have hsame : token = issued :=
          hfree issued (List.mem_cons_of_mem _ hissued.mem_issuedTokens) token hcarried
            hdigest.symm
        exact ⟨session, hsame ▸ hissued, hactive⟩

/-- A request without tokens. -/
def noHeaders : Headers := []

/-- A data route is always authenticated exactly for the targets that begin with `/v1/` as they were
sent, and for those that no data route is found for. -/
theorem alwaysAuthenticated_iff (runtime : NodeRuntime) (options : GatewayServerOptions)
    (router : Router) (events : List (SessionEvent Session)) (leaseActive : String → Bool)
    (method target : String) :
    AlwaysAuthenticated runtime options router events leaseActive method target ↔
      "/v1/".toList <+: target.toList ∨ findRoute options router method target = none := by
  constructor
  · intro h
    by_contra hneither
    rw [not_or] at hneither
    obtain ⟨route, hroute⟩ := Option.ne_none_iff_exists'.1 hneither.2
    have hpasses : onRequest runtime options (registryAfter runtime events) leaseActive target
        noHeaders = true := by
      have hraw : "/v1/".toList.isPrefixOf target.toList = false := by
        rw [← Bool.not_eq_true, List.isPrefixOf_iff_prefix]
        exact hneither.1
      unfold onRequest
      rw [hraw]
      rfl
    have hdispatched : serveRequest runtime options router (registryAfter runtime events)
        leaseActive method target noHeaders = .dispatched route := by
      unfold serveRequest
      rw [hroute]
      exact if_pos hpasses
    obtain ⟨token, htoken, -⟩ := h noHeaders route
      (fun _ _ carried hcarried => absurd hcarried List.not_mem_nil) hdispatched
    exact List.not_mem_nil htoken
  · rintro h headers route hfree hdispatched
    unfold serveRequest at hdispatched
    split at hdispatched
    · cases hdispatched
    · rename_i found hfound
      split at hdispatched
      · rename_i hpasses
        refine carriesToken_of_onRequest hfree (h.resolve_right ?_) hpasses
        rw [hfound]
        exact Option.some_ne_none found
      · cases hdispatched

/-! ## A target that is spelled differently -/

/-- The bytes of a percent-encoded text. -/
def percentDecode : List Char → Option (List UInt8)
  | [] => some []
  | '%' :: high :: low :: rest => do
      let high ← Json.hexDigit? high
      let low ← Json.hexDigit? low
      let rest ← percentDecode rest
      return UInt8.ofNat (16 * high + low) :: rest
  | '%' :: _ => none
  | c :: rest => do
      let rest ← percentDecode rest
      return String.utf8EncodeChar c ++ rest

/-- The path of a target, without the scheme and the authority of an absolute one and without its
query. -/
def targetPath (target : List Char) : List Char :=
  let path :=
    match afterPrefix "http://".toList target, afterPrefix "https://".toList target with
    | some rest, _ => rest.dropWhile (· ≠ '/')
    | none, some rest => rest.dropWhile (· ≠ '/')
    | none, none => target
  path.takeWhile (· ≠ '?')

/-- A router that decodes the path of a target. -/
def decodingRouter : Router := fun target => do
  let path ← percentDecode (targetPath target.toList)
  let path ← String.fromUTF8? ⟨path.toArray⟩
  match path.toList.splitOn '/' with
  | [] :: parts => return parts.map String.ofList
  | _ => none

/-- A gateway with one configured route. -/
def configuredGateway : GatewayServerOptions :=
  ⟨"token", some 1, false, false, false, false, false, false⟩

/-- A request without a token whose path is percent-encoded. -/
theorem alwaysAuthenticated_violated : ¬ ∀ (runtime : NodeRuntime) (options : GatewayServerOptions)
    (events : List (SessionEvent Unit)) (leaseActive : String → Bool) (method target : String),
    AlwaysAuthenticated runtime options decodingRouter events leaseActive method target := by
  intro h
  have hdispatched : serveRequest isoRuntime configuredGateway decodingRouter
      (registryAfter isoRuntime ([] : List (SessionEvent Unit))) (fun _ => false) "POST"
      "/%761/messages" noHeaders = .dispatched .messages := by decide
  obtain ⟨token, htoken, -⟩ := h isoRuntime configuredGateway [] (fun _ => false) "POST"
    "/%761/messages" noHeaders .messages
    (fun _ _ carried hcarried => absurd hcarried List.not_mem_nil) hdispatched
  exact List.not_mem_nil htoken

end RlyGateway
