import Mathlib.Data.Rat.Defs

/-!
# Provider failures and commitment

How far a provider had committed to a request when it failed, the errors that cross the adapter and
the pool boundaries, and the commitment each of them carries.
-/

namespace RlyGateway

/-! ## Commitment -/

/-- How far an attempt got at its provider. -/
inductive CommitmentState where
  | notSent
  | sentUnacknowledged
  | providerAccepted
  | clientOutputStarted
  | toolBoundary
  | unknown
deriving DecidableEq, Repr

/-- Whether an attempt in this state can be replayed. -/
def commitmentAllowsRetry (state : CommitmentState) : Bool := state = .notSent

/-! ## Errors -/

/-- The rate limit a provider reported. -/
structure ProviderRateLimit where
  limit : Option ℚ
  remaining : Option ℚ
  resetSeconds : Option ℚ
deriving DecidableEq, Repr

/-- The safe metadata of a failed provider response. -/
structure ProviderErrorInfo where
  statusCode : ℤ
  code : String
  type : Option String
  message : String
  param : Option String
  retryAfterSeconds : Option ℚ
  rateLimit : Option ProviderRateLimit
deriving DecidableEq, Repr

/-- A failure that crosses the adapter boundary. -/
structure ProviderAdapterError where
  code : String
  message : String
  info : Option ProviderErrorInfo
  commitment : CommitmentState
deriving DecidableEq, Repr

/-- The class of a route outcome. -/
inductive RouteOutcomeClass where
  | success
  | auth
  | quota
  | transient
  | fatal
deriving DecidableEq, Repr

/-- A thrown value. -/
inductive Thrown where
  | providerAdapterError (failure : ProviderAdapterError)
  | routeFailure (outcome : RouteOutcomeClass) (failure : ProviderAdapterError)
  | routeSealed
  | noEligibleAccount (requestId : String)
  | staleRouteBinding (message : String)
  | error (name message : String) (code : Option String)
  | nonError
deriving DecidableEq, Repr

/-- `error.name`, for a value that is an `Error`. -/
def Thrown.name? : Thrown → Option String
  | .providerAdapterError _ => some "ProviderAdapterError"
  | .routeFailure _ _ => some "RouteFailure"
  | .routeSealed => some "RouteSealedError"
  | .noEligibleAccount _ => some "NoEligibleAccountError"
  | .staleRouteBinding _ => some "StaleRouteBindingError"
  | .error name _ _ => some name
  | .nonError => none

/-- `error.message`, for a value that is an `Error`. -/
def Thrown.message? : Thrown → Option String
  | .providerAdapterError failure => some failure.message
  | .routeFailure _ failure => some failure.message
  | .routeSealed => some "Account rotation is blocked after the first output or tool event"
  | .noEligibleAccount _ => some "No eligible account for the requested route"
  | .staleRouteBinding message => some message
  | .error _ message _ => some message
  | .nonError => none

/-- `error.code`, for an `Error` with a string of that name. -/
def Thrown.code? : Thrown → Option String
  | .providerAdapterError failure => some failure.code
  | .routeFailure _ failure => some failure.code
  | .routeSealed => some "route-sealed"
  | .noEligibleAccount _ => some "no-eligible-account"
  | .staleRouteBinding _ => some "stale-route-binding"
  | .error _ _ code => code
  | .nonError => none

/-- The commitment a thrown value declares, `unknown` for anything but a provider failure. -/
def commitmentOf : Thrown → CommitmentState
  | .providerAdapterError failure => failure.commitment
  | .routeFailure _ failure => failure.commitment
  | _ => .unknown

/-- Whether a thrown value stands for a request the client gave up. -/
def isAbortError (thrown : Thrown) : Bool :=
  thrown.name? = some "AbortError" ∨ thrown.message? = some "client disconnected"

/-- Whether a thrown value was raised by the pool executor itself. -/
def Thrown.isRouteError : Thrown → Bool
  | .routeSealed => true
  | .routeFailure _ _ => true
  | _ => false

end RlyGateway
