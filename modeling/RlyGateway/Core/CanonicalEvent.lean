import Mathlib.Data.Rat.Defs
import RlyGateway.Core.Fidelity

/-!
# Canonical events

The provider-neutral events of a response, as adapters emit them and encoders consume them.
-/

namespace RlyGateway

/-- The kind of a piece of content. -/
inductive ContentType where
  | text
  | reasoning
  | redactedReasoning
  | toolCall
deriving DecidableEq, Repr

/-- What an event says. -/
inductive EventPayload where
  | responseStarted (responseId : String)
  | contentStarted (index : ℚ) (contentType : ContentType) (toolCallId toolName itemId : Option String)
  | textDelta (index : ℚ) (text : String)
  | reasoningDelta (index : ℚ) (text : String)
  | signatureDelta (index : ℚ) (signature : String)
  | toolArgumentsDelta (index : ℚ) (toolCallId partialJson : String)
  | contentCompleted (index : ℚ)
  | usageUpdated (inputTokens outputTokens : Option ℚ)
  | responseCompleted (stopReason : String)
  | responseFailed (code message : String)
  | fidelityArtifacts (artifacts : List OpaqueArtifact)
deriving DecidableEq, Repr

/-- A canonical event. -/
structure CanonicalEvent where
  requestId : String
  sequence : ℤ
  timestamp : String
  providerId : String
  modelId : String
  payload : EventPayload
deriving DecidableEq, Repr

/-- Whether an event shows that the provider has accepted the request. -/
def isResponseStarted : EventPayload → Bool
  | .responseStarted _ => true
  | _ => false

/-- Whether an event is the provider's terminal event. -/
def isTerminal : EventPayload → Bool
  | .responseCompleted _ => true
  | _ => false

end RlyGateway
