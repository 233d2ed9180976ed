import RlyGateway.Protocols.Anthropic.Decoder

/-!
# Decoding Responses requests

The validation of a Responses request and its translation to a canonical request, one message for
each input item.
-/

namespace RlyGateway

/-- An error of the Responses protocol. -/
structure ResponsesProtocolError where
  code : String
  message : String
  statusCode : ℕ
deriving DecidableEq, Repr

/-- A body or an item that is no valid request. -/
def responsesRequestError (message : String) : DecodeFailure ResponsesProtocolError :=
  .protocolError ⟨"invalid_request_error", message, 400⟩

/-- A request the gateway cannot represent. -/
def compatibilityUnready (message : String) : DecodeFailure ResponsesProtocolError :=
  .protocolError ⟨"compatibility_unready", message, 400⟩

/-! ## Schemas -/

/-- Which tool the model shall call. -/
inductive RawToolChoice where
  | auto
  | none
  | required
  | function (name : String)
deriving DecidableEq, Repr

/-- The tool choice of a body. -/
def rawToolChoice (value : Json) : Option RawToolChoice :=
  match value with
  | .str "auto" => some .auto
  | .str "none" => some .none
  | .str "required" => some .required
  | value =>
      if value.strField? "type" = some "function" then
        (value.required "name" Json.nonEmptyString).map .function
      else none

/-- The input of a body: a text or a list of items. -/
def rawInput : Json → Option (List Json)
  | .str text =>
      some [.obj [("type", .str "message"), ("role", .str "user"), ("content", .str text)]]
  | .arr items => some items
  | _ => none

/-- The effort of a reasoning field. -/
def rawReasoning (value : Json) : Option (Option String) := do
  let value ← value.object
  value.optional "effort" Json.str?

/-- A validated Responses request. -/
structure RawResponsesRequest where
  model : String
  input : Option (List Json)
  instructions : Option String
  tools : Option (List Json)
  toolChoice : Option RawToolChoice
  stream : Option Bool
  previousResponseId : Option String
  maxOutputTokens : Option ℚ
  temperature : Option ℚ
  topP : Option ℚ
  reasoning : Option (Option String)
  included : Option (List String)
  store : Option Bool
  keys : List String

/-- The Responses request a body is. -/
def rawResponsesRequest (raw : Json) : Option RawResponsesRequest := do
  let fields ← raw.obj?
  let model ← raw.required "model" Json.nonEmptyString
  let input ← raw.optional "input" rawInput
  let instructions ← raw.optional "instructions" Json.str?
  let tools ← raw.optional "tools" Json.arr?
  let toolChoice ← raw.optional "tool_choice" rawToolChoice
  let stream ← raw.optional "stream" Json.bool?
  let previousResponseId ← raw.optional "previous_response_id" Json.nonEmptyString
  let maxOutputTokens ← raw.optional "max_output_tokens" Json.positiveInteger
  let temperature ← raw.optional "temperature" Json.num?
  let topP ← raw.optional "top_p" Json.num?
  let reasoning ← raw.optional "reasoning" rawReasoning
  let included ← raw.optional "include" (Json.items Json.str?)
  let store ← raw.optional "store" Json.bool?
  let _ ← raw.optional "metadata" Json.object
  some ⟨model, input, instructions, tools, toolChoice, stream, previousResponseId, maxOutputTokens,
    temperature, topP, reasoning, included, store, fields.map (·.1)⟩

/-- A part of a message: an object with a type. -/
def messagePart (value : Json) : Option Json :=
  (value.required "type" Json.str?).map fun _ => value

/-- The content of a message item: a text or a list of parts. -/
def rawMessageContent : Json → Option (String ⊕ List Json)
  | .str text => some (.inl text)
  | value => (value.items messagePart).map .inr

/-- The role of a message item. -/
inductive ItemRole where
  | user
  | assistant
  | system
deriving DecidableEq, Repr

/-- The role a text names. -/
def itemRole (value : Json) : Option ItemRole :=
  match value.str? with
  | some "user" => some .user
  | some "assistant" => some .assistant
  | some "system" => some .system
  | _ => none

/-- The output of a function: a text or any list. -/
def rawFunctionOutput : Json → Option Json
  | .str text => some (.str text)
  | .arr items => some (.arr items)
  | _ => none

/-- A text of a reasoning summary. -/
def summaryText (value : Json) : Option String := do
  let _ ← value.required "type" (Json.oneOf ["summary_text"])
  value.required "text" Json.str?

/-- An input item the decoder knows. -/
inductive KnownItem where
  | message (role : ItemRole) (content : String ⊕ List Json)
  | functionCall (callId name : String) (arguments : Option String)
  | functionCallOutput (callId : String) (output : Json)
  | reasoning (id : Option String) (summary : Option (List String))
      (encryptedContent : Option String)

/-- The known item a value is. -/
def knownItem (value : Json) : Option KnownItem :=
  match value.strField? "type" with
  | some "message" => do
      let role ← value.required "role" itemRole
      let content ← value.required "content" rawMessageContent
      some (.message role content)
  | some "function_call" => do
      let callId ← value.required "call_id" Json.nonEmptyString
      let name ← value.required "name" Json.nonEmptyString
      let arguments ← value.optional "arguments" Json.str?
      some (.functionCall callId name arguments)
  | some "function_call_output" => do
      let callId ← value.required "call_id" Json.nonEmptyString
      let output ← value.required "output" rawFunctionOutput
      some (.functionCallOutput callId output)
  | some "reasoning" => do
      let id ← value.optional "id" Json.nonEmptyString
      let summary ← value.optional "summary" (Json.items summaryText)
      let encryptedContent ← value.optional "encrypted_content" Json.str?
      some (.reasoning id summary encryptedContent)
  | _ => none

/-! ## Items -/

/-- The media type and the data of a base64 data URL. -/
def parseDataUrl (url : String) : Option (String × String) :=
  if "data:".toList <+: url.toList then
    let (mediaType, rest) := (url.toList.drop 5).span (· ≠ ';')
    let data := rest.drop 8
    -- the data is a single line
    if mediaType ≠ [] ∧ rest.take 8 = ";base64,".toList ∧ data ≠ [] ∧
        data.all (fun c => c ∉ ['\n', '\r', '\u2028', '\u2029']) then
      some (String.ofList mediaType, String.ofList data)
    else none
  else none

/-- An inline image: its media type and its data. -/
def imageSource (value : Json) : Option (String × String) := do
  let mediaType ← value.required "media_type" Json.nonEmptyString
  let data ← value.required "data" Json.nonEmptyString
  some (mediaType, data)

/-- The URL of an image. -/
def imageUrl : Json → Option String
  | .str url => some url
  | value => value.required "url" Json.nonEmptyString

/-- An image part. -/
def parseImage (part : Json) : Except (DecodeFailure ResponsesProtocolError) CanonicalContent :=
  match part.optional "image_url" imageUrl, part.optional "source" imageSource with
  | some _, some (some (mediaType, data)) => .ok (.image mediaType data)
  | some url, some none =>
      match url.bind parseDataUrl with
      | some (mediaType, data) => .ok (.image mediaType data)
      | none => .error (responsesRequestError "Image parts must be data URLs or inline source")
  | _, _ => .error .validationError

/-- A part of a message. -/
def parsePart (part : Json) : Except (DecodeFailure ResponsesProtocolError) CanonicalContent :=
  let type := (part.strField? "type").getD ""
  if type = "input_text" ∨ type = "output_text" ∨ type = "text" then
    match part.field? "text" with
    | none => .ok (.text "")
    | some value => if value.hasText then .ok (.text value.text) else .error .conversionError
  else if type = "input_image" ∨ type = "image_url" then parseImage part
  else .error (compatibilityUnready ("Unsupported required content type: " ++ type))

/-- The content of a message item. -/
def parseMessageContent :
    String ⊕ List Json → Except (DecodeFailure ResponsesProtocolError) (List CanonicalContent)
  | .inl text => .ok [.text text]
  | .inr parts => parts.mapM parsePart

/-- A value that is written as JSON, or else the text itself. -/
def parseJsonOrRaw (value : String) : Json := (Json.parse value).getD (.str value)

/-- The input of a function call; one without arguments has an empty object. -/
def functionCallInput (arguments : Option String) : Json :=
  match arguments with
  | none => .obj []
  | some arguments => if arguments = "" then .obj [] else parseJsonOrRaw arguments

/-- The text of a function's output. -/
def functionOutputText : Json → String
  | .str text => text
  | output => Json.stringify output

/-- What an item decodes to. -/
structure DecodedItem where
  role : Option MessageRole
  content : List CanonicalContent
  system : List CanonicalContent
  artifacts : List OpaqueArtifact

/-- An input item. -/
def parseItem (raw : Json) : Except (DecodeFailure ResponsesProtocolError) DecodedItem :=
  match raw.strField? "type" with
  | none => .error (responsesRequestError "Input item is not an object")
  | some type =>
      match knownItem raw with
      | none => .error (compatibilityUnready ("Unsupported required input item: " ++ type))
      | some (.message role content) => do
          let content ← parseMessageContent content
          match role with
          | .system => .ok ⟨none, [], content, []⟩
          | .user => .ok ⟨some .user, content, [], []⟩
          | .assistant => .ok ⟨some .assistant, content, [], []⟩
      | some (.functionCall callId name arguments) =>
          .ok ⟨some .assistant, [.toolCall callId name (some (functionCallInput arguments))], [], []⟩
      | some (.functionCallOutput callId output) =>
          .ok ⟨some .user, [.toolResult callId [.text (functionOutputText output)] false], [], []⟩
      | some (.reasoning id summary encryptedContent) =>
          let encrypted := (encryptedContent.filter (· ≠ "")).toList
          .ok ⟨some .assistant,
            [.reasoning (String.intercalate "\n" (summary.getD [])) id], [],
            encrypted.map fun value =>
              ⟨.openaiReasoningEncryptedContent, id.getD "reasoning-item", value⟩⟩

/-! ## Decoding -/

/-- A tool. -/
def responsesTool (value : Json) : Option CanonicalTool := do
  let _ ← value.required "type" (Json.oneOf ["function"])
  let name ← value.required "name" Json.nonEmptyString
  let description ← value.optional "description" Json.str?
  let parameters ← value.optional "parameters" Json.obj?
  some ⟨name, description, parameters.getD []⟩

/-- A tool of the body, or the error that names its type. -/
def parseTool (item : Json) : Except (DecodeFailure ResponsesProtocolError) CanonicalTool :=
  match responsesTool item with
  | some tool => .ok tool
  | none =>
      match item.field? "type" with
      | none => .error (compatibilityUnready "Unsupported required tool type: unknown")
      | some type =>
          if type.hasText then
            .error (compatibilityUnready ("Unsupported required tool type: " ++ type.text))
          else .error .conversionError

/-- The tool choice. -/
def parseToolChoice : RawToolChoice → CanonicalToolChoice
  | .auto => .auto
  | .none => .none
  | .required => .any
  | .function name => .tool name

/-- What the items read so far have given. -/
structure DecodedItems where
  system : List CanonicalContent
  messages : List CanonicalMessage
  artifacts : List OpaqueArtifact

/-- The message of an item, unless it says nothing. -/
def DecodedItem.messages (item : DecodedItem) : List CanonicalMessage :=
  match item.role with
  | some role => if item.content = [] then [] else [⟨role, item.content⟩]
  | none => []

/-- Take one item up. -/
def DecodedItems.add (items : DecodedItems) (item : DecodedItem) : DecodedItems :=
  { system := items.system ++ item.system
    messages := items.messages ++ item.messages
    artifacts := items.artifacts ++ item.artifacts }

/-- The loop over the items. -/
def decodeItems (items : DecodedItems) :
    List Json → Except (DecodeFailure ResponsesProtocolError) DecodedItems
  | [] => .ok items
  | item :: rest => do
      let decoded ← parseItem item
      decodeItems (items.add decoded) rest

/-- The include requests the gateway supports. -/
def supportedInclude : List String := ["reasoning.encrypted_content"]

/-- Refuse an include request that is not supported. -/
def checkInclude : List String → Except (DecodeFailure ResponsesProtocolError) Unit
  | [] => .ok ()
  | name :: rest =>
      if name ∈ supportedInclude then checkInclude rest
      else .error (compatibilityUnready ("Unsupported required include: " ++ name))

/-- The fields of a Responses request the decoder knows. -/
def recognizedResponsesFields : List String :=
  ["model", "input", "instructions", "tools", "tool_choice", "stream", "previous_response_id",
    "max_output_tokens", "temperature", "top_p", "reasoning", "include", "metadata", "store"]

/-- The note on an include request. -/
def includeNote (name : String) : FidelityNote :=
  ⟨"include[]=" ++ name, .preservedNative,
    some "forwarded to the provider so reasoning encrypted content is returned"⟩

/-- The fidelity envelope of a Responses request. -/
def responsesFidelity (headers : Headers) (input : List CanonicalContent)
    (artifacts : List OpaqueArtifact) (included : Option (List String)) (ignored : List String) :
    Option FidelityEnvelope :=
  if artifacts = [] ∧ ignored = [] ∧ included = none then none
  else
    let envelope := emptyFidelityEnvelope .openaiResponses (headers.text? "openai-version")
    let envelope := withArtifacts envelope artifacts
    let envelope := withNotes envelope (
      (if input.any (·.isReasoning) then
        [⟨"input[].reasoning.summary", .translated,
          some "summary text projected to semantic reasoning content"⟩] else []) ++
      artifacts.map (fun artifact => ⟨"input[].reasoning.encrypted_content", .preservedNative,
        some ("preserved at " ++ artifact.association)⟩) ++
      (included.getD []).map includeNote ++
      ignored.map ignoredFieldNote)
    some (if artifacts.any (·.kind = .openaiReasoningEncryptedContent) then
      withRequired envelope [.openaiReasoningEncryptedContent] else envelope)

/-- The capabilities a Responses request needs. -/
def requiredResponsesCapabilities (value : RawResponsesRequest) (input : List CanonicalContent) :
    List CapabilityRequirement :=
  (if value.stream = some true then [.streaming] else []) ++
  (if (value.tools.getD []) = [] then [] else [.tools]) ++
  (if input.any (·.isImage) then [.images] else []) ++
  (if value.reasoning ≠ none ∨ input.any (·.isReasoning) then [.reasoning] else [])

/-- The reasoning a Responses request asks for. -/
def responsesReasoning : Option String → ReasoningRequest
  | none => reasoningRequestFromWire (some .enabled) none
  | some effort => reasoningRequestFromWire none (some effort)

/-- Decode a Responses request. -/
def decodeResponsesRequest (environment : DecoderEnvironment) (raw : Json) (headers : Headers) :
    Except (DecodeFailure ResponsesProtocolError) DecodedRequest :=
  match rawResponsesRequest raw with
  | none => .error (responsesRequestError ("Request does not match the supported Responses fields: "
      ++ environment.issueText raw))
  | some value => do
      checkInclude (value.included.getD [])
      let items ← decodeItems ⟨value.instructions.toList.map .text, [], []⟩ (value.input.getD [])
      let input := items.messages.flatMap (·.content)
      let reasoning := value.reasoning.map responsesReasoning
      let ignored := value.keys.filter (· ∉ recognizedResponsesFields)
      let tools ← (value.tools.getD []).mapM parseTool
      .ok {
        request := {
          id := environment.requestId
          source := ⟨.openaiResponses, headers.text? "openai-version"⟩
          requestedModel := value.model
          system := items.system
          input
          messages := items.messages
          tools
          toolChoice := value.toolChoice.map parseToolChoice
          stream := value.stream.getD false
          store := value.store
          included := value.included
          inference := ⟨value.maxOutputTokens, value.temperature, value.topP, none,
            reasoning.bind (·.sourceMode), reasoning⟩
          previousResponseId := value.previousResponseId
          agent := none
          fidelity := responsesFidelity headers input items.artifacts value.included ignored }
        required := requiredResponsesCapabilities value input
        ignoredAdditiveFields := ignored }

end RlyGateway
