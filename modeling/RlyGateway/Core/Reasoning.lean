import Mathlib.Data.Rat.Defs

/-!
# Reasoning intent

The provider-neutral reasoning intent of a request, and the native control it is translated to.
-/

namespace RlyGateway

/-- The semantic intent. -/
inductive ReasoningIntent where
  | OFF
  | ECONOMY
  | BALANCED
  | DEEP
  | MAXIMUM
  | AUTO
deriving DecidableEq, Repr

/-- The mode the client sent. -/
inductive ReasoningSourceMode where
  | disabled
  | enabled
  | adaptive
deriving DecidableEq, Repr

/-- The intent with what the client sent. -/
structure ReasoningRequest where
  intent : ReasoningIntent
  sourceMode : Option ReasoningSourceMode
  sourceEffort : Option String
  explicit : Bool
deriving DecidableEq, Repr

/-- The intent of an effort label. -/
def intentForEffort (effort : String) : Option ReasoningIntent :=
  match effort with
  | "low" => some .ECONOMY
  | "medium" => some .BALANCED
  | "high" => some .DEEP
  | "xhigh" => some .MAXIMUM
  | "max" => some .MAXIMUM
  | _ => none

/-- The intent of a client's thinking mode alone. -/
def reasoningRequestFromMode (thinking : Option ReasoningSourceMode) : ReasoningRequest :=
  match thinking with
  | some .disabled => ⟨.OFF, some .disabled, none, true⟩
  | some .adaptive => ⟨.AUTO, some .adaptive, none, true⟩
  | some .enabled => ⟨.BALANCED, some .enabled, none, true⟩
  | none => ⟨.AUTO, none, none, false⟩

/-- The request of a client's mode and effort; a known effort wins over the mode. -/
def reasoningRequestFromWire (thinking : Option ReasoningSourceMode) (effort : Option String) :
    ReasoningRequest :=
  match effort.bind intentForEffort with
  | some intent => ⟨intent, thinking, effort, true⟩
  | none => reasoningRequestFromMode thinking

/-- The native control an intent is translated to. -/
inductive NativeReasoningControl where
  | off
  | providerDefault
  | binary (enabled : Bool)
  | effort (level : String)
  | adaptive (enabled : Bool)
  | budget (budgetTokens : ℚ)
deriving DecidableEq, Repr

/-- How the intent was realized. -/
inductive ReasoningMappingKind where
  | exact
  | normalized
  | downgraded
  | default
deriving DecidableEq, Repr

/-- The result of the translation. -/
structure ResolvedReasoning where
  requested : ReasoningRequest
  canonicalIntent : ReasoningIntent
  effective : NativeReasoningControl
  mappingKind : ReasoningMappingKind
  fallbackReason : Option String
deriving DecidableEq, Repr

end RlyGateway
