import Mathlib.Data.Rat.Defs

/-!
# Capabilities

What a provider or a model is reviewed to support, and the protocol capabilities a request needs.
-/

namespace RlyGateway

/-- The quality of the token counts an access path gives. -/
inductive TokenCountingQuality where
  | upstream
  | exactLocal
  | conservativeEstimate
  | unsupported
deriving DecidableEq, Repr

/-- The shape of the reasoning control an access path exposes. -/
inductive ReasoningControlKind where
  | discreteEffort
  | adaptive
  | binary
  | tokenBudget
  | none
deriving DecidableEq, Repr

/-- The reviewed reasoning controls of an access path. -/
structure ReasoningCapabilityEvidence where
  supported : Bool
  controlKind : ReasoningControlKind
  effortLevels : Option (List String)
  adaptive : Bool
  tokenBudget : Bool
  reasoningWithTools : Bool
deriving DecidableEq, Repr

/-- The reviewed capabilities of an access path. -/
structure ProviderCapabilities where
  streaming : Bool
  tools : Bool
  parallelTools : Bool
  images : Bool
  reasoning : Bool
  redactedReasoning : Bool
  structuredOutput : Bool
  tokenCounting : TokenCountingQuality
deriving DecidableEq, Repr

/-- A capability a request can require. -/
inductive CapabilityRequirement where
  | streaming
  | tools
  | parallelTools
  | images
  | reasoning
  | redactedReasoning
  | structuredOutput
deriving DecidableEq, Repr

/-- `capabilities[capability]`. -/
def ProviderCapabilities.has (capabilities : ProviderCapabilities) :
    CapabilityRequirement → Bool
  | .streaming => capabilities.streaming
  | .tools => capabilities.tools
  | .parallelTools => capabilities.parallelTools
  | .images => capabilities.images
  | .reasoning => capabilities.reasoning
  | .redactedReasoning => capabilities.redactedReasoning
  | .structuredOutput => capabilities.structuredOutput

/-- The required capabilities that are not supported. -/
def missingCapabilities (capabilities : ProviderCapabilities)
    (required : List CapabilityRequirement) : List CapabilityRequirement :=
  required.filter fun capability => !capabilities.has capability

/-- What a request demands of a model's reasoning. -/
structure ReasoningRequirement where
  required : Bool
  withTools : Option Bool
deriving DecidableEq, Repr

end RlyGateway
