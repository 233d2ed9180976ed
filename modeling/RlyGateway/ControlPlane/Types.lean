import RlyGateway.Library.Json
import RlyGateway.Core.Runtime
import RlyGateway.Providers.ProviderError

/-!
# Control-plane records

The records of the control plane that routing reads, and the health rules that turn a provider
failure into a cooldown and a quota class.
-/

namespace RlyGateway

variable (runtime : NodeRuntime)

/-- The state of an account. -/
inductive AccountState where
  | ready
  | paused
  | unready
  | revoked
deriving DecidableEq, Repr

/-- The strategy of a pool. -/
inductive PoolStrategy where
  | manual
  | roundRobin
  | fillFirst
deriving DecidableEq, Repr

/-- The strategy as it is written in a source rule. -/
def PoolStrategy.name : PoolStrategy → String
  | .manual => "manual"
  | .roundRobin => "round-robin"
  | .fillFirst => "fill-first"

/-- A provider, as eligibility reads it. -/
structure ProviderRecord where
  id : String
  name : String
  requiredTermsRevision : Option String
  enabled : Bool
deriving DecidableEq, Repr

/-- An account, as eligibility reads it. -/
structure AccountRecord where
  id : String
  pseudonym : String
  providerId : String
  credentialHandle : String
  credentialGeneration : ℕ
  state : AccountState
  quotaClass : String
  cooldownUntil : Option String
  termsAcknowledgedRevision : Option String
deriving DecidableEq, Repr

/-- The membership of an account in a pool. -/
structure MembershipRecord where
  accountId : String
  pinOrder : Option ℤ
deriving DecidableEq, Repr

/-- A pool. -/
structure PoolRecord where
  id : String
  name : String
  providerId : String
  strategy : PoolStrategy
  affinity : Json
  retryBudget : ℕ
  memberships : List MembershipRecord
deriving DecidableEq

/-- A compiled policy, as routing reads it. -/
structure PolicyRevision where
  revision : ℕ
  hash : String
  providers : List ProviderRecord
  accounts : List AccountRecord
  pools : List PoolRecord
deriving DecidableEq

/-- The health of an account, as eligibility reads it. -/
structure HealthRecord where
  accountId : String
  cooldownUntil : Option String
deriving DecidableEq, Repr

/-- What the live store lists. -/
structure ControlPlaneView where
  accounts : List AccountRecord
  providers : List ProviderRecord
  health : List HealthRecord
deriving DecidableEq, Repr

/-! ## Health -/

/-- The seconds of each cooldown. -/
structure CooldownSeconds where
  auth : ℕ
  quota : ℕ
  transient : ℕ
deriving DecidableEq, Repr

/-- The default cooldowns. -/
def DEFAULT_COOLDOWN_SECONDS : CooldownSeconds := ⟨60, 300, 15⟩

/-- The outcome class of a failure code. -/
def classifyProviderFailure (code : Option String) : RouteOutcomeClass :=
  if code = some "authentication_error" then .auth
  else if code = some "rate_limit_error" then .quota
  else if code = some "api_error" then .transient
  else .fatal

/-- The seconds an outcome cools an account down for. -/
def cooldownDuration (outcome : RouteOutcomeClass) (seconds : CooldownSeconds) : ℕ :=
  match outcome with
  | .auth => seconds.auth
  | .quota => seconds.quota
  | .transient => seconds.transient
  | .success | .fatal => 0

/-- The end of the cooldown of an outcome. -/
def cooldownUntilFor (outcome : RouteOutcomeClass) (now : ℤ) (seconds : CooldownSeconds) :
    Option String :=
  let duration := cooldownDuration outcome seconds
  if duration = 0 then none else some (runtime.isoString (now + duration * 1000))

/-- The quota class after an outcome. -/
def nextQuotaClass (outcome : RouteOutcomeClass) (current : String) : String :=
  match outcome with
  | .success => "healthy"
  | .quota => "exhausted"
  | _ => current

/-- What is recorded for an outcome; `cooldownUntil` is `none` where the cooldown is cleared. -/
structure RouteOutcomeInput where
  outcome : RouteOutcomeClass
  quotaClass : String
  cooldownUntil : Option String
deriving DecidableEq, Repr

end RlyGateway
