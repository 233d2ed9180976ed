import RlyGateway.Routing.ModelProjection

/-!
# Model intents

`src/routing/model-intent/classify.ts`: what kind of model a selector asks for. A tier is asked for
only in the `rly-tier:` namespace or by a client's own alias.
-/

namespace RlyGateway

/-- The logical tiers, weakest first. -/
inductive LogicalTier where
  | haiku
  | sonnet
  | opus
  | fable
deriving DecidableEq, Repr

def LogicalTier.name : LogicalTier → String
  | .haiku => "haiku"
  | .sonnet => "sonnet"
  | .opus => "opus"
  | .fable => "fable"

def LOGICAL_TIERS : List LogicalTier := [.haiku, .sonnet, .opus, .fable]

/-- The tier of a name. -/
def parseLogicalTier (value : String) : Option LogicalTier :=
  LOGICAL_TIERS.find? fun tier => tier.name = value

/-- The tier of its own name is found, and no other. -/
theorem parseLogicalTier_eq_some {value : String} {tier : LogicalTier} :
    parseLogicalTier value = some tier ↔ tier.name = value := by
  constructor
  · intro h
    simpa using List.find?_some h
  · rintro rfl
    cases tier <;> decide

def RLY_TIER_NAMESPACE : String := "rly-tier:"

/-- The kind of a model intent, with what it names. A client's alias has the name of the tier that it
is mapped to. -/
inductive ModelIntentKind where
  | exactProjection (projectionId : String)
  | rlyLogicalTier (tier : LogicalTier)
  | clientNativeAlias (mappedTier : LogicalTier)
  | exactClientModel (modelId : String)
  | inherit
  | default
deriving DecidableEq, Repr

/-- The rule that produced a classification. -/
inductive ModelIntentSource where
  | rlyTierNamespace
  | projectionNamespace
  | clientNativeAliasContract
  | exactModel
  | inherit
  | default
deriving DecidableEq, Repr

structure ModelIntent where
  kind : ModelIntentKind
  sourceSelector : String
  source : ModelIntentSource
deriving DecidableEq, Repr

/-- A selector that claims the tier namespace and names no tier. -/
structure ModelIntentError where
  code : String
  message : String
deriving DecidableEq, Repr

/-- What follows the tier namespace. -/
def parseRlyTierSelector (selector : String) : Option String :=
  if RLY_TIER_NAMESPACE.toList.isPrefixOf selector.toList then
    some (String.ofList (selector.toList.drop RLY_TIER_NAMESPACE.toList.length))
  else none

def classifyModelIntent (selector : String) : Except ModelIntentError ModelIntent :=
  match parseRlyTierSelector selector with
  | some value =>
      match parseLogicalTier value with
      | none => .error ⟨"unknown-namespace",
          "Unknown RLY logical tier namespace selector: " ++ selector⟩
      | some tier => .ok ⟨.rlyLogicalTier tier, selector, .rlyTierNamespace⟩
  | none =>
      if isProjectionId selector then
        .ok ⟨.exactProjection selector, selector, .projectionNamespace⟩
      else
        match parseLogicalTier selector with
        | some tier => .ok ⟨.clientNativeAlias tier, selector, .clientNativeAliasContract⟩
        | none =>
            if selector = "" ∨ selector = "default" then .ok ⟨.default, selector, .default⟩
            else if selector = "inherit" then .ok ⟨.inherit, selector, .inherit⟩
            else .ok ⟨.exactClientModel selector, selector, .exactModel⟩

end RlyGateway
