import RlyGateway.ControlPlane.Types

/-!
# Route outcomes in the control-plane store

`recordRouteOutcome` writes the two rows of an account that carry a cooldown, the account's own and
its health, in one transaction.
-/

namespace RlyGateway

/-- The health row of an account. -/
structure HealthRow extends HealthRecord where
  lastOutcome : Option RouteOutcomeClass
  lastOutcomeAt : Option String
  consecutiveFailures : ℕ
deriving DecidableEq, Repr

/-- What the store keeps of an account for its route outcomes. -/
structure AccountRows where
  account : AccountRecord
  version : ℕ
  updatedAt : String
  health : Option HealthRow
deriving DecidableEq, Repr

/-- The `cooldownUntil` of a store input: absent, `null` or a date. -/
inductive CooldownInput where
  | absent
  | null
  | until (date : String)
deriving DecidableEq, Repr

/-- What `recordRouteOutcome` takes. -/
structure StoreOutcomeInput where
  outcome : RouteOutcomeClass
  quotaClass : Option String
  cooldownUntil : CooldownInput
deriving DecidableEq, Repr

/-- The cooldown an input leaves: an absent one keeps the current cooldown, `null` clears it. -/
def CooldownInput.resolve (current : Option String) : CooldownInput → Option String
  | .absent => current
  | .null => none
  | .until date => some date

/-- The rows after an outcome. -/
def recordRouteOutcome (rows : AccountRows) (input : StoreOutcomeInput) (now : String) :
    AccountRows :=
  let current := rows.account
  let health := rows.health.getD ⟨⟨current.id, none⟩, none, none, 0⟩
  let success : Bool := input.outcome = .success
  let cooldownUntil := input.cooldownUntil.resolve current.cooldownUntil
  { account := { current with
      quotaClass := input.quotaClass.getD current.quotaClass
      cooldownUntil := if success then none else cooldownUntil }
    version := rows.version + 1
    updatedAt := now
    health := some
      { accountId := current.id
        cooldownUntil := if success then none else cooldownUntil
        lastOutcome := some input.outcome
        lastOutcomeAt := some now
        consecutiveFailures := if success then 0 else health.consecutiveFailures + 1 } }

/-- The cooldown of the health row. -/
def AccountRows.healthCooldown (rows : AccountRows) : Option String :=
  rows.health.bind (·.cooldownUntil)

/-- Both rows carry the same cooldown. -/
def AccountRows.Agree (rows : AccountRows) : Prop :=
  rows.healthCooldown = rows.account.cooldownUntil

/-- The cooldown a recorded outcome leaves in both rows. -/
def cooldownAfter (current : Option String) (input : StoreOutcomeInput) : Option String :=
  if input.outcome = .success then none else input.cooldownUntil.resolve current

theorem cooldownAfter_of_failure {current : Option String} {input : StoreOutcomeInput}
    (h : input.outcome ≠ .success) :
    cooldownAfter current input = input.cooldownUntil.resolve current :=
  if_neg h

theorem account_recordRouteOutcome (rows : AccountRows) (input : StoreOutcomeInput) (now : String) :
    (recordRouteOutcome rows input now).account.cooldownUntil =
      cooldownAfter rows.account.cooldownUntil input := by
  simp [recordRouteOutcome, cooldownAfter]

theorem health_recordRouteOutcome (rows : AccountRows) (input : StoreOutcomeInput) (now : String) :
    (recordRouteOutcome rows input now).healthCooldown =
      cooldownAfter rows.account.cooldownUntil input := by
  simp [recordRouteOutcome, cooldownAfter, AccountRows.healthCooldown]

/-- Whatever the rows were, recording an outcome makes them agree. -/
theorem agree_recordRouteOutcome (rows : AccountRows) (input : StoreOutcomeInput) (now : String) :
    (recordRouteOutcome rows input now).Agree := by
  rw [AccountRows.Agree, account_recordRouteOutcome, health_recordRouteOutcome]

end RlyGateway
