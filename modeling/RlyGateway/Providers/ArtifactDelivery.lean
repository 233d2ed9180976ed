import RlyGateway.Providers.Delivery

/-!
# Required artifacts at the provider

Whether the artifacts a request must not lose are refused or reach the provider. The chat path
refuses them all. The Responses rail sends an encrypted content with a reasoning item, if the item
has an id and the value is the first one for it. The Claude adapter neither refuses nor sends any.
-/

namespace RlyGateway

/-! ## The artifacts of a request and of a body -/

/-- The artifacts of the kinds that an envelope requires. -/
def requiredArtifacts (envelope : Option FidelityEnvelope) : List OpaqueArtifact :=
  envelope.elim [] fun envelope => envelope.artifacts.filter fun artifact =>
    artifact.kind ∈ envelope.required

/-- The values of a kind in a body: the encrypted contents of its input items, or the signatures of
the blocks of its messages. -/
def artifactsIn (body : Json) : OpaqueArtifactKind → List String
  | .openaiReasoningEncryptedContent =>
      (((body.field? "input").bind Json.arr?).getD []).filterMap (·.strField? "encrypted_content")
  | .anthropicThinkingSignature =>
      (((body.field? "messages").bind Json.arr?).getD []).flatMap fun message =>
        (((message.field? "content").bind Json.arr?).getD []).filterMap (·.strField? "signature")

/-- A request is not sent, or its body carries the value of every artifact it requires. -/
def FailsClosed (context : InvokeContext) (request : CanonicalRequest) (adapter : ProviderAdapter) :
    Prop :=
  ∀ sent, adapter.invoke context request = .ok sent →
    ∀ artifact ∈ requiredArtifacts request.fidelity, artifact.value ∈ artifactsIn sent.body artifact.kind

/-! ## When an adapter carries them -/

/-- A reasoning item with an id has the value as the first encrypted content for its id. -/
def AttachesValue (request : CanonicalRequest) (value : String) : Prop :=
  ∃ message ∈ request.messages, ∃ s id, CanonicalContent.reasoning s (some id) ∈ message.content ∧
    artifactValue request.fidelity .openaiReasoningEncryptedContent id = some value

/-- A chat adapter carries the required artifacts of what it sends. -/
def OpenAiChatAdapter.CarriesRequired (adapter : OpenAiChatAdapter) (request : CanonicalRequest) :
    Prop :=
  adapter.usesResponsesRail request = true →
    ∀ artifact ∈ requiredArtifacts request.fidelity, AttachesValue request artifact.value

/-- An adapter carries the required artifacts of what it sends; the Claude adapter carries none. -/
def ProviderAdapter.CarriesRequired (request : CanonicalRequest) : ProviderAdapter → Prop
  | .chat adapter => adapter.CarriesRequired request
  | .claude _ _ => requiredArtifacts request.fidelity = []
  | .antigravity accessToken baseUrl =>
      (BridgeChatAdapter (accessToken.getD "bridge") baseUrl).CarriesRequired request

/-! ## The bodies -/

/-- The encrypted content of an input item. -/
def ResponsesItem.encryptedContent? : ResponsesItem → Option String
  | .reasoning _ _ encryptedContent => encryptedContent
  | _ => none

theorem strField?_toJson (item : ResponsesItem) :
    item.toJson.strField? "encrypted_content" = item.encryptedContent? := by
  cases item with
  | message role s => rfl
  | image role mediaType data => rfl
  | functionCall callId name input => cases input <;> rfl
  | functionCallOutput callId output => rfl
  | reasoning id s encryptedContent => cases id <;> cases encryptedContent <;> rfl

/-- The encrypted contents of a Responses body are those of its input items. -/
theorem artifactsIn_responsesPayload (request : CanonicalRequest)
    (reasoning : Option ResolvedReasoning) :
    artifactsIn (responsesPayload request reasoning) .openaiReasoningEncryptedContent =
      (responsesInput request).filterMap ResponsesItem.encryptedContent? := by
  have hinput : (responsesPayload request reasoning).field? "input" =
      some (.arr ((responsesInput request).map ResponsesItem.toJson)) := rfl
  rw [artifactsIn, hinput, Option.bind_some, Json.arr?, Option.getD_some, List.filterMap_map]
  refine congrArg (List.filterMap · _) ?_
  funext item
  exact strField?_toJson item

theorem mem_artifactsIn_responsesPayload {request : CanonicalRequest}
    {reasoning : Option ResolvedReasoning} {value : String} :
    value ∈ artifactsIn (responsesPayload request reasoning) .openaiReasoningEncryptedContent ↔
      AttachesValue request value := by
  rw [artifactsIn_responsesPayload, List.mem_filterMap]
  constructor
  · rintro ⟨item, hitem, hvalue⟩
    obtain ⟨message, hmessage, hcontent⟩ := List.mem_flatMap.1 hitem
    obtain ⟨content, hmem, hsome⟩ := List.mem_filterMap.1 hcontent
    cases content with
    | reasoning s id =>
        cases hsome
        obtain ⟨id, rfl, hfound⟩ := Option.bind_eq_some_iff.1 hvalue
        exact ⟨message, hmessage, s, id, hmem, hfound⟩
    | redactedReasoning data => cases hsome
    | _ =>
        cases hsome
        cases hvalue
  · rintro ⟨message, hmessage, s, id, hmem, hfound⟩
    refine ⟨.reasoning (some id) s (some value), ?_, rfl⟩
    refine List.mem_flatMap.2 ⟨message, hmessage, List.mem_filterMap.2 ⟨_, hmem, ?_⟩⟩
    rw [responsesItem?, Option.bind_some, hfound]

/-- A Messages body of the Claude adapter carries no artifact. -/
theorem artifactsIn_toAnthropicPayload (request : CanonicalRequest) (kind : OpaqueArtifactKind) :
    artifactsIn (toAnthropicPayload request) kind = [] := by
  cases kind with
  | openaiReasoningEncryptedContent =>
      have hinput : (toAnthropicPayload request).field? "input" = none := by
        unfold toAnthropicPayload
        cases anthropicSystem request <;> rfl
      rw [artifactsIn, hinput]
      rfl
  | anthropicThinkingSignature =>
      have hmessages : (toAnthropicPayload request).field? "messages" = some (.arr
          ((anthropicMessages request).map fun message =>
            .obj [("role", .str message.1.chatRole.name),
              ("content", .str message.2.value)])) := rfl
      rw [artifactsIn, hmessages, Option.bind_some, Json.arr?, Option.getD_some, List.flatMap_map]
      exact List.flatMap_eq_nil_iff.2 fun _ _ => rfl

/-! ## Every adapter -/

section

variable {context : InvokeContext} {request : CanonicalRequest}

/-- A path that preserves nothing sends no request with a required artifact. -/
theorem requiredArtifacts_of_preservesRequired (h : PreservesRequired [] request) :
    requiredArtifacts request.fidelity = [] := by
  unfold PreservesRequired unsupportedRequiredArtifacts at h
  unfold requiredArtifacts
  cases hfidelity : request.fidelity with
  | none => rfl
  | some envelope =>
      rw [hfidelity] at h
      have hrequired : envelope.required = [] := by simpa using h
      simp [hrequired]

/-- What the rail sends requires encrypted contents at most. -/
theorem kind_of_preservesRequired
    (h : PreservesRequired [.openaiReasoningEncryptedContent] request) {artifact : OpaqueArtifact}
    (hartifact : artifact ∈ requiredArtifacts request.fidelity) :
    artifact.kind = .openaiReasoningEncryptedContent := by
  unfold PreservesRequired unsupportedRequiredArtifacts at h
  unfold requiredArtifacts at hartifact
  cases hfidelity : request.fidelity with
  | none =>
      rw [hfidelity] at hartifact
      cases hartifact
  | some envelope =>
      rw [hfidelity] at h hartifact
      have hrequired : artifact.kind ∈ envelope.required :=
        of_decide_eq_true (List.mem_filter.1 hartifact).2
      by_contra hne
      have hkept : artifact.kind ∈ envelope.required.filter fun kind =>
          decide (kind ∉ [OpaqueArtifactKind.openaiReasoningEncryptedContent]) :=
        List.mem_filter.2 ⟨hrequired, by simpa using hne⟩
      rw [Option.elim_some] at h
      rw [h] at hkept
      cases hkept

/-- What a chat adapter sends carries the required artifacts exactly when the adapter does. -/
theorem OpenAiChatAdapter.carries_iff {adapter : OpenAiChatAdapter} {sent : UpstreamRequest}
    (h : adapter.invoke context request = .ok sent) :
    (∀ artifact ∈ requiredArtifacts request.fidelity,
        artifact.value ∈ artifactsIn sent.body artifact.kind) ↔ adapter.CarriesRequired request := by
  have hsends := OpenAiChatAdapter.invoke_isOk.1 ⟨sent, h⟩
  unfold OpenAiChatAdapter.Sends at hsends
  unfold OpenAiChatAdapter.invoke at h
  unfold OpenAiChatAdapter.CarriesRequired
  split at h
  case isTrue hrail =>
    rw [if_pos hrail] at hsends
    obtain ⟨token, rfl⟩ := units_checkedPath h
    rw [forall_prop_of_true hrail]
    refine forall₂_congr fun artifact hartifact => ?_
    rw [kind_of_preservesRequired hsends.1 hartifact]
    exact mem_artifactsIn_responsesPayload
  case isFalse hrail =>
    rw [if_neg hrail] at hsends
    have hnone := requiredArtifacts_of_preservesRequired hsends.1
    simp [hnone]

/-- What an adapter sends carries the required artifacts exactly when the adapter does. -/
theorem ProviderAdapter.carries_iff {adapter : ProviderAdapter} {sent : UpstreamRequest}
    (h : adapter.invoke context request = .ok sent) :
    (∀ artifact ∈ requiredArtifacts request.fidelity,
        artifact.value ∈ artifactsIn sent.body artifact.kind) ↔ adapter.CarriesRequired request := by
  cases adapter with
  | chat adapter => exact OpenAiChatAdapter.carries_iff h
  | claude accessToken endpoint =>
      unfold ProviderAdapter.invoke invokeClaude at h
      dsimp only at h
      split at h
      · cases h
      · cases h
        rw [ProviderAdapter.CarriesRequired, List.eq_nil_iff_forall_not_mem]
        refine forall_congr' fun artifact => imp_congr_right fun _ => ?_
        rw [UpstreamRequest.body, artifactsIn_toAnthropicPayload]
        simp
  | antigravity accessToken baseUrl =>
      unfold ProviderAdapter.invoke invokeAntigravity at h
      dsimp only at h
      split at h
      · exact OpenAiChatAdapter.carries_iff h
      · cases h

end

/-- An adapter fails closed exactly for the requests it does not send and those whose required
artifacts it carries. -/
theorem failsClosed_iff (context : InvokeContext) (request : CanonicalRequest)
    (adapter : ProviderAdapter) :
    FailsClosed context request adapter ↔
      ¬ adapter.Sends context request ∨ adapter.CarriesRequired request := by
  constructor
  · intro h
    by_cases hsends : adapter.Sends context request
    · obtain ⟨sent, hsent⟩ := ProviderAdapter.invoke_isOk.2 hsends
      exact Or.inr ((ProviderAdapter.carries_iff hsent).1 (h sent hsent))
    · exact Or.inl hsends
  · rintro (hnot | hcarries) sent hsent
    · exact absurd (ProviderAdapter.invoke_isOk.1 ⟨sent, hsent⟩) hnot
    · exact (ProviderAdapter.carries_iff hsent).2 hcarries

/-- A Messages request that replays a signed thought. -/
def signedThinkingRequest : Json :=
  .obj [("model", .str "claude-sonnet-4-5"), ("max_tokens", .num 1024),
    ("messages", .arr [
      .obj [("role", .str "user"), ("content", .str "hello")],
      .obj [("role", .str "assistant"), ("content", .arr [
        .obj [("type", .str "thinking"), ("thinking", .str "a greeting"),
          ("signature", .str "EqQBCkgIARAB")],
        .obj [("type", .str "text"), ("text", .str "hi")]])],
      .obj [("role", .str "user"), ("content", .str "go on")]])]

/-- The Claude adapter sends it without its signature. -/
theorem not_failsClosed_signedThinkingRequest :
    ¬ ∀ environment raw headers decoded, decodeAnthropicRequest environment raw headers =
      .ok decoded → ∀ parseUrl input adapter, createProviderAdapter parseUrl input = .ok adapter →
        ∀ context, FailsClosed context decoded.request adapter := by
  intro h
  have hcarried := h exampleEnvironment signedThinkingRequest [] _ rfl (fun _ => none)
    ⟨"claude", .oauth, none, some "token"⟩ _ rfl exampleContext _ rfl
    ⟨.anthropicThinkingSignature, "1:0", "EqQBCkgIARAB"⟩ List.mem_cons_self
  rw [UpstreamRequest.body, artifactsIn_toAnthropicPayload] at hcarried
  cases hcarried

end RlyGateway
