import RlyGateway.Library.OrderedMap

/-!
# The fidelity envelope

Opaque continuation artifacts, the notes on what a translation did to them, and the artifact kinds
that must survive it.
-/

namespace RlyGateway

/-- The client-facing wire contract. -/
inductive EndpointContract where
  | anthropicMessages
  | openaiResponses
deriving DecidableEq, Repr

/-- The kinds of opaque artifacts. -/
inductive OpaqueArtifactKind where
  | anthropicThinkingSignature
  | openaiReasoningEncryptedContent
deriving DecidableEq, Repr

/-- An opaque artifact and the item it belongs to. -/
structure OpaqueArtifact where
  kind : OpaqueArtifactKind
  association : String
  value : String
deriving DecidableEq, Repr

/-- What happened to a wire field. -/
inductive FidelityDisposition where
  | preservedNative
  | translated
  | ignored
  | unsupported
deriving DecidableEq, Repr

/-- A note on one wire field. -/
structure FidelityNote where
  field : String
  disposition : FidelityDisposition
  reason : Option String
deriving DecidableEq, Repr

/-- The envelope of a request or a response. -/
structure FidelityEnvelope where
  sourceProtocol : EndpointContract
  protocolRevision : Option String
  artifacts : List OpaqueArtifact
  notes : List FidelityNote
  required : List OpaqueArtifactKind
deriving DecidableEq, Repr

/-- The envelope without artifacts. -/
def emptyFidelityEnvelope (sourceProtocol : EndpointContract) (protocolRevision : Option String) :
    FidelityEnvelope :=
  ⟨sourceProtocol, protocolRevision, [], [], []⟩

/-- The envelope with more artifacts. -/
def withArtifacts (envelope : FidelityEnvelope) (artifacts : List OpaqueArtifact) :
    FidelityEnvelope :=
  { envelope with artifacts := envelope.artifacts ++ artifacts }

/-- The envelope with more notes. -/
def withNotes (envelope : FidelityEnvelope) (notes : List FidelityNote) : FidelityEnvelope :=
  { envelope with notes := envelope.notes ++ notes }

/-- The envelope with more required kinds. -/
def withRequired (envelope : FidelityEnvelope) (kinds : List OpaqueArtifactKind) :
    FidelityEnvelope :=
  if kinds = [] then envelope
  else { envelope with required := (OrderedSet.ofList (envelope.required ++ kinds)).elems }

/-- The first envelope with the artifacts, notes and required kinds of the second. -/
def mergeFidelity (base extra : Option FidelityEnvelope) : Option FidelityEnvelope :=
  match base, extra with
  | none, extra => extra
  | base, none => base
  | some base, some extra =>
      some { base with
        artifacts := base.artifacts ++ extra.artifacts
        notes := base.notes ++ extra.notes
        required := (OrderedSet.ofList (base.required ++ extra.required)).elems }

/-- The artifacts of an envelope, if there is one. -/
def envelopeArtifacts (envelope : Option FidelityEnvelope) : List OpaqueArtifact :=
  envelope.elim [] (·.artifacts)

/-- The value of the first artifact of a kind for an association. -/
def artifactValue (envelope : Option FidelityEnvelope) (kind : OpaqueArtifactKind)
    (association : String) : Option String :=
  (envelope.bind fun envelope => envelope.artifacts.find? fun artifact =>
    artifact.kind = kind ∧ artifact.association = association).map (·.value)

theorem envelopeArtifacts_mergeFidelity (base extra : Option FidelityEnvelope) :
    envelopeArtifacts (mergeFidelity base extra) =
      envelopeArtifacts base ++ envelopeArtifacts extra := by
  rcases base with _ | base
  · rfl
  · rcases extra with _ | extra
    · exact (List.append_nil _).symm
    · rfl

/-- Only the artifacts of an envelope decide what it has for an association. -/
theorem artifactValue_eq (envelope : Option FidelityEnvelope) (kind : OpaqueArtifactKind)
    (association : String) :
    artifactValue envelope kind association =
      ((envelopeArtifacts envelope).find? fun artifact =>
        artifact.kind = kind ∧ artifact.association = association).map (·.value) := by
  rcases envelope with _ | envelope
  · rfl
  · rfl

/-- The required kinds a path cannot carry. -/
def unsupportedRequiredArtifacts (envelope : Option FidelityEnvelope)
    (supported : List OpaqueArtifactKind) : List OpaqueArtifactKind :=
  envelope.elim [] fun envelope => envelope.required.filter (· ∉ supported)

end RlyGateway
