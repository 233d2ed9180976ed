import RlyGateway.Protocols.Anthropic.Accumulation
import RlyGateway.Protocols.OpenAiResponses.Agreement

/-!
# Streamed and batch messages

A client of the stream and the aggregate keep the same blocks as long as every delta fits an open
one. What they still keep apart is written at the end: the client reads the arguments and the
signature since the last start of an index, the aggregate those of the whole response, and the
client counts zero tokens at a start. So they agree exactly under coherent events.
-/

namespace RlyGateway

/-! ## The blocks of both sides -/

/-- The kind of content a block was started for. -/
def BlockBody.kind : BlockBody → ContentType
  | .text _ => .text
  | .thinking _ _ => .reasoning
  | .redactedThinking => .redactedReasoning
  | .toolUse _ _ => .toolCall

/-- A thinking block with another signature. -/
def BlockBody.sign (signature : Option String) : BlockBody → BlockBody
  | .thinking old _ => .thinking old signature
  | body => body

/-- The input a block starts with. -/
def startInput : ContentType → Option Json
  | .toolCall => some (.obj [])
  | _ => none

/-- The block of an index at the client and in the aggregate, after some events. -/
structure BlockAt (index : ℚ) (payloads : List EventPayload) (streamed : StreamedBlock)
    (block : MessageBlock) : Prop where
  kind : lastKind index payloads = some block.body.kind
  isOpen : streamed.isOpen = (openKind index payloads).isSome
  partialJson : streamed.partialJson = joined (argumentsOf? index) (sinceStart index payloads)
  body : streamed.body =
    block.body.sign ((sinceStart index payloads).latest? (signatureOf? index))
  unsigned : block.body.sign none = block.body
  input : block.input = startInput block.body.kind

/-- Either both sides have a block at an index, or none was started there. -/
def BlocksAt (index : ℚ) (payloads : List EventPayload) :
    Option StreamedBlock → Option MessageBlock → Prop
  | some streamed, some block => BlockAt index payloads streamed block
  | none, none => lastKind index payloads = none
  | _, _ => False

/-- The blocks of the client and of the aggregate after some events. -/
structure Simulates (payloads : List EventPayload) (streamed : OrderedMap ℚ StreamedBlock)
    (blocks : OrderedMap ℚ MessageBlock) : Prop where
  keys : streamed.keys = blocks.keys
  blocksAt : ∀ index, BlocksAt index payloads (streamed.get? index) (blocks.get? index)

/-- An event says nothing about the block of an index that is not its text. -/
structure Idle (index : ℚ) (payload : EventPayload) : Prop where
  start : startKind? index payload = none
  change : openChange? index payload = none
  arguments : argumentsOf? index payload = none
  signature : signatureOf? index payload = none

variable {index : ℚ} {payloads : List EventPayload} {payload : EventPayload}
  {streamed : StreamedBlock} {block : MessageBlock}

theorem startedBlock_eq_ok {contentType : ContentType} {toolCallId toolName : Option String}
    (h : startedBlock contentType toolCallId toolName = .ok block) :
    block.body.kind = contentType ∧ block.body.sign none = block.body ∧
      block.input = startInput contentType := by
  cases contentType with
  | toolCall =>
      rw [startedBlock] at h
      split at h
      · cases h
      · cases h
        exact ⟨rfl, rfl, rfl⟩
  | text | reasoning | redactedReasoning =>
      cases h
      exact ⟨rfl, rfl, rfl⟩

theorem BlockBody.kind_sign (body : BlockBody) (signature : Option String) :
    (body.sign signature).kind = body.kind := by
  cases body <;> rfl

theorem sinceStart_of_idle (h : startKind? index payload = none) :
    sinceStart index (payloads ++ [payload]) = sinceStart index payloads ++ [payload] := by
  rw [sinceStart_concat, h]
  rfl

theorem lastKind_of_idle (h : startKind? index payload = none) :
    lastKind index (payloads ++ [payload]) = lastKind index payloads := by
  rw [lastKind_concat, h, Option.none_or]

/-- The events since a start that leaves a text or a signature as it was. -/
theorem latest?_of_idle {value? : EventPayload → Option String} (h : value? payload = none) :
    (payloads ++ [payload]).latest? value? = payloads.latest? value? := by
  rw [List.latest?_concat, h, Option.none_or]

theorem joined_of_idle {text? : EventPayload → Option String} (h : text? payload = none) :
    joined text? (payloads ++ [payload]) = joined text? payloads := by
  rw [joined_concat, h, Option.getD_none, String.append_empty]

theorem BlocksAt.idle {streamed? : Option StreamedBlock} {block? : Option MessageBlock}
    (h : BlocksAt index payloads streamed? block?) (hidle : Idle index payload) :
    BlocksAt index (payloads ++ [payload]) streamed? block? := by
  match streamed?, block?, h with
  | none, none, h => exact (lastKind_of_idle hidle.start).trans h
  | some streamed, some block, h =>
      exact
        { kind := (lastKind_of_idle hidle.start).trans h.kind
          isOpen := by rw [h.isOpen, openKind_of_openChange?_eq_none hidle.change]
          partialJson := by
            rw [h.partialJson, sinceStart_of_idle hidle.start, joined_of_idle hidle.arguments]
          body := by
            rw [h.body, sinceStart_of_idle hidle.start, latest?_of_idle hidle.signature]
          unsigned := h.unsigned
          input := h.input }

/-- Both sides have an open block of a kind at an index exactly if one is open. -/
theorem BlocksAt.openKind_iff {streamed? : Option StreamedBlock} {block? : Option MessageBlock}
    (h : BlocksAt index payloads streamed? block?) {kind : ContentType} :
    openKind index payloads = some kind ↔
      ∃ streamed block, streamed? = some streamed ∧ block? = some block ∧
        streamed.isOpen = true ∧ block.body.kind = kind := by
  match streamed?, block?, h with
  | none, none, h =>
      constructor
      · intro hopen
        rw [BlocksAt, lastKind_of_openKind hopen] at h
        cases h
      · rintro ⟨_, _, hstreamed, -⟩
        cases hstreamed
  | some streamed, some block, h =>
      constructor
      · intro hopen
        have hkind := h.kind
        rw [lastKind_of_openKind hopen, Option.some_inj] at hkind
        exact ⟨streamed, block, rfl, rfl, by rw [h.isOpen, hopen]; rfl, hkind.symm⟩
      · rintro ⟨streamed', block', hstreamed, hblock, hopen, hkind⟩
        cases hstreamed
        cases hblock
        rw [h.isOpen, Option.isSome_iff_exists] at hopen
        obtain ⟨kind', hkind'⟩ := hopen
        have hlast := h.kind
        rw [lastKind_of_openKind hkind', Option.some_inj] at hlast
        rw [hkind', hlast, hkind]

/-! ## Deltas -/

theorem StreamedMessage.delta_eq_some {message message' : StreamedMessage}
    {write : StreamedBlock → Option StreamedBlock} :
    message.delta index write = some message' ↔
      ∃ streamed streamed', message.blocks.get? index = some streamed ∧ streamed.isOpen = true ∧
        write streamed = some streamed' ∧
        { message with blocks := message.blocks.set index streamed' } = message' := by
  unfold StreamedMessage.delta
  rw [Option.bind_eq_bind, Option.bind_eq_some_iff]
  refine exists_congr fun streamed => ?_
  cases hopen : streamed.isOpen with
  | false => simp
  | true => simp [Option.bind_eq_some_iff]

/-- What a delta of one kind does on both sides: a client takes it exactly where the block that is
open at its index is of that kind, and the aggregate updates the block alike. -/
structure Delta (payload : EventPayload) (index : ℚ) (kind : ContentType)
    (write : StreamedBlock → Option StreamedBlock) (update : MessageBlock → MessageBlock) :
    Prop where
  start : startKind? index payload = none
  change : openChange? index payload = none
  idle : ∀ other, index ≠ other → Idle other payload
  takes : ∀ (streamed : StreamedBlock) (block : MessageBlock), streamed.body.kind = block.body.kind →
    ((write streamed).isSome ↔ block.body.kind = kind)
  next : ∀ payloads streamed streamed' block, BlockAt index payloads streamed block →
    write streamed = some streamed' → BlockAt index (payloads ++ [payload]) streamed' (update block)

theorem BlockAt.kind_eq (h : BlockAt index payloads streamed block) :
    streamed.body.kind = block.body.kind := by
  rw [h.body, BlockBody.kind_sign]

section Step

variable {message message' : StreamedMessage} {blocks blocks' : OrderedMap ℚ MessageBlock}
  {kind : ContentType} {write : StreamedBlock → Option StreamedBlock}
  {update : MessageBlock → MessageBlock}

theorem Delta.isSome_iff (hdelta : Delta payload index kind write update)
    (h : Simulates payloads message.blocks blocks) :
    (message.delta index write).isSome ↔ openKind index payloads = some kind := by
  rw [(h.blocksAt index).openKind_iff, Option.isSome_iff_exists]
  constructor
  · rintro ⟨message', hmessage⟩
    obtain ⟨streamed, streamed', hstreamed, hopen, hwrite, -⟩ :=
      StreamedMessage.delta_eq_some.1 hmessage
    have hat := h.blocksAt index
    rw [hstreamed] at hat
    cases hblock : blocks.get? index with
    | none => rw [hblock] at hat; cases hat
    | some block =>
        rw [hblock] at hat
        have hsome : (write streamed).isSome := Option.isSome_iff_exists.2 ⟨_, hwrite⟩
        exact ⟨streamed, block, hstreamed, rfl, hopen,
          (hdelta.takes streamed block (BlockAt.kind_eq hat)).1 hsome⟩
  · rintro ⟨streamed, block, hstreamed, hblock, hopen, hkind⟩
    have hat := h.blocksAt index
    rw [hstreamed, hblock] at hat
    have hsome := (hdelta.takes streamed block (BlockAt.kind_eq hat)).2 hkind
    obtain ⟨streamed', hwrite⟩ := Option.isSome_iff_exists.1 hsome
    exact ⟨_, StreamedMessage.delta_eq_some.2 ⟨streamed, streamed', hstreamed, hopen, hwrite, rfl⟩⟩

theorem Delta.simulates (hdelta : Delta payload index kind write update)
    (h : Simulates payloads message.blocks blocks)
    (hmessage : message.delta index write = some message') (hkeys : blocks'.keys = blocks.keys)
    (hblocks : ∀ other, blocks'.get? other =
      if index = other then (blocks.get? other).map update else blocks.get? other) :
    Simulates (payloads ++ [payload]) message'.blocks blocks' := by
  obtain ⟨streamed, streamed', hstreamed, -, hwrite, rfl⟩ :=
    StreamedMessage.delta_eq_some.1 hmessage
  constructor
  case keys =>
    rw [OrderedMap.keys_set, if_pos (OrderedMap.mem_keys_of_get? hstreamed), hkeys, h.keys]
  case blocksAt =>
    intro other
    have hat := h.blocksAt other
    rw [OrderedMap.get?_set, hblocks]
    by_cases hother : index = other
    · subst hother
      rw [hstreamed] at hat
      rw [if_pos rfl, if_pos rfl]
      cases hblock : blocks.get? index with
      | none => rw [hblock] at hat; cases hat
      | some block =>
          rw [hblock] at hat
          exact hdelta.next payloads streamed streamed' block hat hwrite
    · rw [if_neg hother, if_neg hother]
      exact hat.idle (hdelta.idle other hother)

end Step

/-! ## The four deltas -/

theorem delta_text (index : ℚ) (text : String) :
    Delta (.textDelta index text) index .text (·.appendText text) (·.appendText text) where
  start := rfl
  change := rfl
  idle other hother := ⟨rfl, rfl, rfl, rfl⟩
  takes streamed block hkind := by
    rw [← hkind]
    cases hbody : streamed.body <;> simp [StreamedBlock.appendText, hbody, BlockBody.kind]
  next payloads streamed streamed' block h hwrite := by
    have hbody := h.body
    cases hblock : block.body with
    | text old =>
        have hold : streamed.body = .text old := by rw [hbody, hblock]; rfl
        simp only [StreamedBlock.appendText, hold, Option.some_inj] at hwrite
        cases hwrite
        simp only [MessageBlock.appendText, hblock]
        exact
          { kind := by rw [lastKind_of_idle rfl, h.kind, hblock]; rfl
            isOpen := by rw [openKind_of_openChange?_eq_none rfl, ← h.isOpen]
            partialJson := by rw [sinceStart_of_idle rfl, joined_of_idle rfl, ← h.partialJson]
            body := rfl
            unsigned := rfl
            input := by rw [h.input, hblock]; rfl }
    | _ => simp [StreamedBlock.appendText, hbody, hblock, BlockBody.sign] at hwrite

theorem delta_reasoning (index : ℚ) (text : String) :
    Delta (.reasoningDelta index text) index .reasoning (·.appendThinking text)
      (·.appendThinking text) where
  start := rfl
  change := rfl
  idle other hother := ⟨rfl, rfl, rfl, rfl⟩
  takes streamed block hkind := by
    rw [← hkind]
    cases hbody : streamed.body <;> simp [StreamedBlock.appendThinking, hbody, BlockBody.kind]
  next payloads streamed streamed' block h hwrite := by
    have hbody := h.body
    cases hblock : block.body with
    | thinking old signature =>
        have hold : streamed.body =
            .thinking old ((sinceStart index payloads).latest? (signatureOf? index)) := by
          rw [hbody, hblock]; rfl
        have hunsigned := h.unsigned
        rw [hblock] at hunsigned
        cases hunsigned
        simp only [StreamedBlock.appendThinking, hold, Option.some_inj] at hwrite
        cases hwrite
        simp only [MessageBlock.appendThinking, hblock]
        exact
          { kind := by rw [lastKind_of_idle rfl, h.kind, hblock]; rfl
            isOpen := by rw [openKind_of_openChange?_eq_none rfl, ← h.isOpen]
            partialJson := by rw [sinceStart_of_idle rfl, joined_of_idle rfl, ← h.partialJson]
            body := by rw [sinceStart_of_idle rfl, latest?_of_idle rfl]; rfl
            unsigned := rfl
            input := by rw [h.input, hblock]; rfl }
    | _ => simp [StreamedBlock.appendThinking, hbody, hblock, BlockBody.sign] at hwrite

theorem signatureOf?_self (index : ℚ) (signature : String) :
    signatureOf? index (.signatureDelta index signature) = some signature := if_pos rfl

theorem argumentsOf?_self (index : ℚ) (toolCallId partialJson : String) :
    argumentsOf? index (.toolArgumentsDelta index toolCallId partialJson) = some partialJson :=
  if_pos rfl

theorem delta_signature (index : ℚ) (signature : String) :
    Delta (.signatureDelta index signature) index .reasoning (·.keepSignature signature) id where
  start := rfl
  change := rfl
  idle other hother := ⟨rfl, rfl, rfl, if_neg hother⟩
  takes streamed block hkind := by
    rw [← hkind]
    cases hbody : streamed.body <;> simp [StreamedBlock.keepSignature, hbody, BlockBody.kind]
  next payloads streamed streamed' block h hwrite := by
    have hbody := h.body
    cases hblock : block.body with
    | thinking old signature' =>
        have hold : streamed.body =
            .thinking old ((sinceStart index payloads).latest? (signatureOf? index)) := by
          rw [hbody, hblock]; rfl
        simp only [StreamedBlock.keepSignature, hold, Option.some_inj] at hwrite
        cases hwrite
        exact
          { kind := by rw [lastKind_of_idle rfl, h.kind]; rfl
            isOpen := by rw [openKind_of_openChange?_eq_none rfl, ← h.isOpen]
            partialJson := by rw [sinceStart_of_idle rfl, joined_of_idle rfl, ← h.partialJson]
            body := by
              rw [sinceStart_of_idle rfl, List.latest?_concat, signatureOf?_self, Option.some_or,
                id, hblock]
              rfl
            unsigned := h.unsigned
            input := h.input }
    | _ => simp [StreamedBlock.keepSignature, hbody, hblock, BlockBody.sign] at hwrite

theorem delta_arguments (index : ℚ) (toolCallId partialJson : String) :
    Delta (.toolArgumentsDelta index toolCallId partialJson) index .toolCall
      (·.appendJson partialJson) id where
  start := rfl
  change := rfl
  idle other hother := ⟨rfl, rfl, if_neg hother, rfl⟩
  takes streamed block hkind := by
    rw [← hkind]
    cases hbody : streamed.body <;> simp [StreamedBlock.appendJson, hbody, BlockBody.kind]
  next payloads streamed streamed' block h hwrite := by
    have hwritten : { streamed with partialJson := streamed.partialJson ++ partialJson } =
        streamed' := by
      unfold StreamedBlock.appendJson at hwrite
      split at hwrite
      · exact Option.some.inj hwrite
      · cases hwrite
    cases hwritten
    exact
      { kind := by rw [lastKind_of_idle rfl, h.kind]; rfl
        isOpen := by rw [openKind_of_openChange?_eq_none rfl, ← h.isOpen]
        partialJson := by
          rw [sinceStart_of_idle rfl, joined_concat, argumentsOf?_self, h.partialJson]
          rfl
        body := by rw [sinceStart_of_idle rfl, latest?_of_idle rfl]; exact h.body
        unsigned := h.unsigned
        input := h.input }

/-! ## The other events -/

theorem simulates_nil : Simulates [] .empty .empty := ⟨rfl, fun _ => rfl⟩

/-- Both sides start a block. -/
theorem Simulates.started {streamed : OrderedMap ℚ StreamedBlock}
    {blocks : OrderedMap ℚ MessageBlock} (h : Simulates payloads streamed blocks)
    {contentType : ContentType} {toolCallId toolName itemId : Option String}
    (hblock : startedBlock contentType toolCallId toolName = .ok block) :
    Simulates (payloads ++ [.contentStarted index contentType toolCallId toolName itemId])
      (streamed.set index ⟨block.body, "", true⟩) (blocks.set index block) := by
  obtain ⟨hkind, hunsigned, hinput⟩ := startedBlock_eq_ok hblock
  refine ⟨by rw [OrderedMap.keys_set, OrderedMap.keys_set, h.keys], fun other => ?_⟩
  rw [OrderedMap.get?_set, OrderedMap.get?_set]
  by_cases hother : index = other
  · subst hother
    rw [if_pos rfl, if_pos rfl]
    have hsince : sinceStart index
        (payloads ++ [.contentStarted index contentType toolCallId toolName itemId]) = [] := by
      rw [sinceStart_concat, startKind?, if_pos rfl]
      rfl
    exact
      { kind := by rw [lastKind_concat, startKind?, if_pos rfl, hkind]; rfl
        isOpen := by rw [openKind_concat, openChange?, if_pos rfl]; rfl
        partialJson := by rw [hsince]; rfl
        body := by rw [hsince]; exact hunsigned.symm
        unsigned := hunsigned
        input := by rw [hinput, hkind] }
  · rw [if_neg hother, if_neg hother]
    exact (h.blocksAt other).idle ⟨if_neg hother, if_neg hother, rfl, rfl⟩

/-- The client closes a block. -/
theorem Simulates.completed {streamed : OrderedMap ℚ StreamedBlock}
    {blocks : OrderedMap ℚ MessageBlock} (h : Simulates payloads streamed blocks) :
    Simulates (payloads ++ [.contentCompleted index])
      (streamed.updateOne (fun block _ => { block with isOpen := false }) (index, ())) blocks := by
  refine ⟨by rw [OrderedMap.keys_updateOne, h.keys], fun other => ?_⟩
  rw [OrderedMap.get?_updateOne]
  by_cases hother : index = other
  · subst hother
    rw [if_pos rfl]
    have hat := h.blocksAt index
    revert hat
    cases streamed.get? index with
    | none =>
        cases blocks.get? index with
        | none => exact (lastKind_of_idle rfl).trans
        | some block => exact id
    | some streamed =>
        cases blocks.get? index with
        | none => exact id
        | some block =>
            intro hat
            exact
              { kind := (lastKind_of_idle rfl).trans hat.kind
                isOpen := by rw [openKind_concat, openChange?, if_pos rfl]; rfl
                partialJson := by
                  rw [sinceStart_of_idle rfl, joined_of_idle rfl]
                  exact hat.partialJson
                body := by rw [sinceStart_of_idle rfl, latest?_of_idle rfl]; exact hat.body
                unsigned := hat.unsigned
                input := hat.input }
  · rw [if_neg hother]
    exact (h.blocksAt other).idle ⟨rfl, if_neg hother, rfl, rfl⟩

theorem Simulates.idle {streamed : OrderedMap ℚ StreamedBlock}
    {blocks : OrderedMap ℚ MessageBlock} (h : Simulates payloads streamed blocks)
    (hidle : ∀ index, Idle index payload) : Simulates (payloads ++ [payload]) streamed blocks :=
  ⟨h.keys, fun index => (h.blocksAt index).idle (hidle index)⟩

/-! ## What is kept beside the blocks -/

/-- The tokens a client shows: a start reports none, that is zero. -/
def shownTokens? (tokens? : EventPayload → Option ℚ) (payload : EventPayload) : Option ℚ :=
  if isResponseStarted payload then some 0 else tokens? payload

/-- What the aggregate keeps beside the blocks is what the events said. -/
structure Collects (payloads : List EventPayload) (context : MessageContext) : Prop where
  toolJson : ∀ index, context.toolJson.get? index = joined? (argumentsOf? index) payloads
  signatures : ∀ index, context.signatures.get? index = payloads.latest? (signatureOf? index)
  inputTokens : context.usage.inputTokens = payloads.latest? inputTokens?
  outputTokens : context.usage.outputTokens = payloads.latest? outputTokens?

/-- What a client keeps beside the blocks. -/
structure ClientShows (payloads : List EventPayload) (message : StreamedMessage)
    (context : MessageContext) : Prop where
  stopReason : message.stopReason = context.stopReason
  inputTokens : message.usage.inputTokens = payloads.latest? (shownTokens? inputTokens?)
  outputTokens : message.usage.outputTokens = payloads.latest? (shownTokens? outputTokens?)

theorem collects_nil : Collects [] createMessageContext := ⟨fun _ => rfl, fun _ => rfl, rfl, rfl⟩

theorem clientShows_nil : ClientShows [] .initial createMessageContext := ⟨rfl, rfl, rfl⟩

theorem Collects.step {context context' : MessageContext} {item : CanonicalEvent}
    (h : Collects payloads context) (happly : applyMessage context item = .ok context') :
    Collects (payloads ++ [item.payload]) context' := by
  cases hpayload : item.payload <;> simp only [applyMessage, hpayload] at happly
  case toolArgumentsDelta other toolCallId partialJson =>
    cases happly
    refine ⟨fun index => ?_, fun index => ?_, ?_, ?_⟩
    · rw [get?_appendDelta, joined?_concat, argumentsOf?, ← h.toolJson]
      by_cases hother : other = index
      · subst hother
        rw [if_pos rfl, if_pos rfl]
        rfl
      · rw [if_neg hother, if_neg hother]
        rfl
    · rw [h.signatures, List.latest?_concat]
      rfl
    · rw [h.inputTokens, List.latest?_concat]
      rfl
    · rw [h.outputTokens, List.latest?_concat]
      rfl
  case signatureDelta other signature =>
    cases happly
    refine ⟨fun index => ?_, fun index => ?_, ?_, ?_⟩
    · rw [h.toolJson, joined?_concat]
      rfl
    · rw [OrderedMap.get?_set, List.latest?_concat, signatureOf?, h.signatures]
      by_cases hother : other = index
      · rw [if_pos hother, if_pos hother]
        rfl
      · rw [if_neg hother, if_neg hother]
        rfl
    · rw [h.inputTokens, List.latest?_concat]
      rfl
    · rw [h.outputTokens, List.latest?_concat]
      rfl
  case responseFailed code message => cases happly
  case contentStarted index contentType toolCallId toolName itemId =>
    obtain ⟨block, -, happly⟩ := Except.bind_eq_ok.1 happly
    cases happly
    exact ⟨fun index => by rw [h.toolJson, joined?_concat]; rfl,
      fun index => by rw [h.signatures, List.latest?_concat]; rfl,
      by rw [h.inputTokens, List.latest?_concat]; rfl,
      by rw [h.outputTokens, List.latest?_concat]; rfl⟩
  all_goals
    cases happly
    exact ⟨fun index => by rw [h.toolJson, joined?_concat]; rfl,
      fun index => by rw [h.signatures, List.latest?_concat]; rfl,
      by rw [List.latest?_concat, ← h.inputTokens]; rfl,
      by rw [List.latest?_concat, ← h.outputTokens]; rfl⟩

theorem ClientShows.idle {message message' : StreamedMessage} {context context' : MessageContext}
    (h : ClientShows payloads message context)
    (hstopReason : message'.stopReason = message.stopReason)
    (hstopReason' : context'.stopReason = context.stopReason)
    (husage : message'.usage = message.usage)
    (hinput : shownTokens? inputTokens? payload = none)
    (houtput : shownTokens? outputTokens? payload = none) :
    ClientShows (payloads ++ [payload]) message' context' where
  stopReason := by rw [hstopReason, hstopReason', h.stopReason]
  inputTokens := by rw [husage, h.inputTokens, List.latest?_concat, hinput, Option.none_or]
  outputTokens := by rw [husage, h.outputTokens, List.latest?_concat, houtput, Option.none_or]

/-! ## One event -/

/-- A delta fits the block that is open at its index. -/
def TargetedAt (payloads : List EventPayload) (payload : EventPayload) : Prop :=
  ∀ index kinds, messagesTarget? payload = some (index, kinds) →
    ∃ kind ∈ kinds, openKind index payloads = some kind

theorem targetedAt_iff {kind : ContentType} (h : messagesTarget? payload = some (index, [kind])) :
    TargetedAt payloads payload ↔ openKind index payloads = some kind := by
  constructor
  · intro htargeted
    obtain ⟨kind', hmem, hkind'⟩ := htargeted index [kind] h
    rwa [List.mem_singleton.1 hmem] at hkind'
  · intro hopen index' kinds htarget
    rw [h] at htarget
    cases htarget
    exact ⟨kind, List.mem_singleton_self kind, hopen⟩

theorem targetedAt_of_none (h : messagesTarget? payload = none) : TargetedAt payloads payload := by
  intro index kinds htarget
  rw [h] at htarget
  cases htarget

theorem accumulateAll_append (message : StreamedMessage) (frames frames' : List AnthropicFrame) :
    accumulateAll message (frames ++ frames') =
      (accumulateAll message frames).bind fun message => accumulateAll message frames' := by
  induction frames generalizing message with
  | nil => rfl
  | cons frame frames ih =>
      rw [List.cons_append, accumulateAll, accumulateAll, Option.bind_assoc]
      congr 1
      funext message
      exact ih message

theorem accumulateAll_singleton (message : StreamedMessage) (frame : AnthropicFrame) :
    accumulateAll message [frame] = accumulate message frame := by
  rw [accumulateAll]
  exact Option.bind_fun_some _

/-- What one event leads to on both sides, from the same blocks: the client takes its frames exactly
if it is targeted, and both have the same blocks again. -/
def StepsAlike (payloads : List EventPayload) (payload : EventPayload)
    (context' : MessageContext) (message? : Option StreamedMessage) : Prop :=
  (message?.isSome ↔ TargetedAt payloads payload) ∧
    ∀ message' ∈ message?, Simulates (payloads ++ [payload]) message'.blocks context'.blocks ∧
      ClientShows (payloads ++ [payload]) message' context'

section Events

variable {message : StreamedMessage} {context : MessageContext}

theorem stepsAlike_delta {context' : MessageContext} {kind : ContentType}
    {write : StreamedBlock → Option StreamedBlock} {update : MessageBlock → MessageBlock}
    (hdelta : Delta payload index kind write update)
    (htarget : messagesTarget? payload = some (index, [kind]))
    (hinput : shownTokens? inputTokens? payload = none)
    (houtput : shownTokens? outputTokens? payload = none)
    (h : Simulates payloads message.blocks context.blocks) (hshows : ClientShows payloads message context)
    (hstopReason : context'.stopReason = context.stopReason)
    (hkeys : context'.blocks.keys = context.blocks.keys)
    (hblocks : ∀ other, context'.blocks.get? other =
      if index = other then (context.blocks.get? other).map update else context.blocks.get? other) :
    StepsAlike payloads payload context' (message.delta index write) := by
  refine ⟨?_, fun message' hmessage => ⟨hdelta.simulates h hmessage hkeys hblocks, ?_⟩⟩
  · rw [hdelta.isSome_iff h, targetedAt_iff htarget]
  · obtain ⟨_, _, -, -, -, rfl⟩ := StreamedMessage.delta_eq_some.1 hmessage
    exact hshows.idle rfl hstopReason rfl hinput houtput

theorem stepsAlike_some {context' : MessageContext} {message' : StreamedMessage}
    (htarget : messagesTarget? payload = none)
    (h : Simulates (payloads ++ [payload]) message'.blocks context'.blocks)
    (hshows : ClientShows (payloads ++ [payload]) message' context') :
    StepsAlike payloads payload context' (some message') := by
  refine ⟨by simp [targetedAt_of_none htarget], fun message hmem => ?_⟩
  cases hmem
  exact ⟨h, hshows⟩

/-- A map without a change. -/
theorem get?_unchanged (blocks : OrderedMap ℚ MessageBlock) (index other : ℚ) :
    blocks.get? other =
      if index = other then (blocks.get? other).map id else blocks.get? other := by
  rw [Option.map_id_fun, id, ite_self]

theorem stepsAlike_event {openBlocks openBlocks' : OrderedMap ℚ ContentType}
    {item : CanonicalEvent} {frames : List AnthropicFrame}
    (h : Simulates payloads message.blocks context.blocks) (hshows : ClientShows payloads message context)
    (hencode : encodeAnthropicPayload openBlocks item.modelId item.payload =
      .ok (frames, openBlocks'))
    (hnot : ∀ code text, item.payload ≠ .responseFailed code text) :
    ∃ context', applyMessage context item = .ok context' ∧
      StepsAlike payloads item.payload context' (accumulateAll message frames) := by
  cases hpayload : item.payload with
  | responseFailed code text => exact absurd hpayload (hnot code text)
  | contentStarted index contentType toolCallId toolName itemId =>
      rw [hpayload] at hencode
      obtain ⟨block, hblock, hencode⟩ := Except.bind_eq_ok.1 hencode
      cases hencode
      simp only [applyMessage, hpayload, hblock]
      exact ⟨_, rfl, stepsAlike_some rfl (h.started hblock) (hshows.idle rfl rfl rfl rfl rfl)⟩
  | textDelta index text =>
      rw [hpayload] at hencode
      cases hencode
      simp only [applyMessage, hpayload, accumulateAll_singleton]
      exact ⟨_, rfl, stepsAlike_delta (delta_text index text) rfl rfl rfl h hshows rfl
        (OrderedMap.keys_updateOne _ _ _) (OrderedMap.get?_updateOne _ _ _)⟩
  | reasoningDelta index text =>
      rw [hpayload] at hencode
      cases hencode
      simp only [applyMessage, hpayload, accumulateAll_singleton]
      exact ⟨_, rfl, stepsAlike_delta (delta_reasoning index text) rfl rfl rfl h hshows rfl
        (OrderedMap.keys_updateOne _ _ _) (OrderedMap.get?_updateOne _ _ _)⟩
  | signatureDelta index signature =>
      rw [hpayload, encodeAnthropicPayload] at hencode
      split at hencode
      · cases hencode
      cases hencode
      simp only [applyMessage, hpayload, accumulateAll_singleton]
      exact ⟨_, rfl, stepsAlike_delta (delta_signature index signature) rfl rfl rfl h hshows rfl
        rfl (get?_unchanged _ _)⟩
  | toolArgumentsDelta index toolCallId partialJson =>
      rw [hpayload] at hencode
      cases hencode
      simp only [applyMessage, hpayload, accumulateAll_singleton]
      exact ⟨_, rfl, stepsAlike_delta (delta_arguments index toolCallId partialJson) rfl rfl rfl h
        hshows rfl rfl (get?_unchanged _ _)⟩
  | contentCompleted index =>
      rw [hpayload, encodeAnthropicPayload] at hencode
      split at hencode
      · cases hencode
      cases hencode
      simp only [applyMessage, hpayload]
      exact ⟨_, rfl, stepsAlike_some rfl h.completed (hshows.idle rfl rfl rfl rfl rfl)⟩
  | responseStarted responseId =>
      rw [hpayload] at hencode
      cases hencode
      simp only [applyMessage, hpayload]
      refine ⟨_, rfl, stepsAlike_some rfl (h.idle fun _ => ⟨rfl, rfl, rfl, rfl⟩) ?_⟩
      exact ⟨hshows.stopReason, by rw [List.latest?_concat]; rfl, by rw [List.latest?_concat]; rfl⟩
  | usageUpdated inputTokens outputTokens =>
      rw [hpayload] at hencode
      cases hencode
      simp only [applyMessage, hpayload]
      refine ⟨_, rfl, stepsAlike_some rfl (h.idle fun _ => ⟨rfl, rfl, rfl, rfl⟩) ?_⟩
      exact ⟨hshows.stopReason, by rw [List.latest?_concat, ← hshows.inputTokens]; rfl,
        by rw [List.latest?_concat, ← hshows.outputTokens]; rfl⟩
  | responseCompleted stopReason =>
      rw [hpayload] at hencode
      cases hencode
      simp only [applyMessage, hpayload]
      refine ⟨_, rfl, stepsAlike_some rfl (h.idle fun _ => ⟨rfl, rfl, rfl, rfl⟩) ?_⟩
      exact ⟨rfl, by rw [List.latest?_concat, ← hshows.inputTokens]; rfl,
        by rw [List.latest?_concat, ← hshows.outputTokens]; rfl⟩
  | fidelityArtifacts artifacts =>
      rw [hpayload] at hencode
      cases hencode
      simp only [applyMessage, hpayload]
      exact ⟨_, rfl, stepsAlike_some rfl (h.idle fun _ => ⟨rfl, rfl, rfl, rfl⟩)
        (hshows.idle rfl rfl rfl rfl rfl)⟩

end Events

/-! ## Whole streams -/

theorem targeted_concat :
    Targeted messagesTarget? (payloads ++ [payload]) ↔
      Targeted messagesTarget? payloads ∧ TargetedAt payloads payload :=
  List.lawful_concat

/-- What the aggregate of events and a client of their frames hold in the end. -/
structure Mirrors (payloads : List EventPayload) (message : StreamedMessage)
    (context : MessageContext) : Prop where
  blocks : Simulates payloads message.blocks context.blocks
  collects : Collects payloads context
  shows : ClientShows payloads message context

theorem mirrors_nil : Mirrors [] .initial createMessageContext :=
  ⟨simulates_nil, collects_nil, clientShows_nil⟩

/-- The client takes the frames of accepted events exactly if every delta is targeted, and then it
mirrors the aggregate. -/
theorem Mirrors.stream {encoder encoder' : AnthropicEncodeContext} {message : StreamedMessage}
    {context : MessageContext} {items : List CanonicalEvent} {frames : List AnthropicFrame}
    (h : Mirrors payloads message context) (htargeted : Targeted messagesTarget? payloads)
    (hpush : pushAnthropicAll encoder items = .ok (frames, encoder'))
    (hnot : ∀ item ∈ items, ∀ code text, item.payload ≠ .responseFailed code text) :
    ((accumulateAll message frames).isSome ↔
        Targeted messagesTarget? (payloads ++ items.map (·.payload))) ∧
      ∀ message' ∈ accumulateAll message frames,
        ∃ context', applyMessages context items = .ok context' ∧
          Mirrors (payloads ++ items.map (·.payload)) message' context' := by
  induction items generalizing payloads encoder message context frames with
  | nil =>
      cases hpush
      rw [List.map_nil, List.append_nil]
      refine ⟨by simp [accumulateAll, htargeted], fun message' hmessage => ?_⟩
      cases hmessage
      exact ⟨context, rfl, h⟩
  | cons item items ih =>
      obtain ⟨⟨first, next⟩, hfirst, hpush⟩ := Except.bind_eq_ok.1 hpush
      obtain ⟨⟨rest, last⟩, hrest, hpush⟩ := Except.bind_eq_ok.1 hpush
      cases hpush
      obtain ⟨_, -, hfirst⟩ := Except.bind_eq_ok.1 hfirst
      obtain ⟨⟨first', openBlocks'⟩, hencode, hfirst⟩ := Except.bind_eq_ok.1 hfirst
      cases hfirst
      rw [List.forall_mem_cons] at hnot
      obtain ⟨middle, happly, hiff, hnext⟩ := stepsAlike_event h.blocks h.shows hencode hnot.1
      have hsplit : payloads ++ (item :: items).map (·.payload) =
          (payloads ++ [item.payload]) ++ items.map (·.payload) := by simp
      rw [hsplit, accumulateAll_append]
      cases hmessage : accumulateAll message first with
      | some message' =>
          rw [hmessage] at hiff hnext
          obtain ⟨hblocks, hshows⟩ := hnext message' rfl
          have hmiddle : Mirrors (payloads ++ [item.payload]) message' middle :=
            ⟨hblocks, h.collects.step happly, hshows⟩
          obtain ⟨hrun, hlast⟩ :=
            ih hmiddle (targeted_concat.2 ⟨htargeted, hiff.1 rfl⟩) hrest hnot.2
          refine ⟨hrun, fun message'' hmem => ?_⟩
          obtain ⟨context', hcontext', hmirrors⟩ := hlast message'' hmem
          refine ⟨context', ?_, hmirrors⟩
          rw [applyMessages, happly]
          exact hcontext'
      | none =>
          rw [hmessage] at hiff
          refine ⟨⟨fun h => (nomatch h), fun htargeted' => ?_⟩, fun _ h => (nomatch h)⟩
          have hat := (targeted_concat.1 htargeted'.of_append).2
          exact (nomatch hiff.2 hat)

/-! ## Tokens -/

/-- A client that counts zero tokens at a start shows those of the aggregate exactly if each start
is followed by a report, or follows one of zero. -/
theorem latest?_shownTokens?_eq_iff {tokens? : EventPayload → Option ℚ}
    (hstart : ∀ payload, isResponseStarted payload → tokens? payload = none) :
    payloads.latest? (shownTokens? tokens?) = payloads.latest? tokens? ↔
      ReportedAfterStarts tokens? payloads := by
  induction payloads using List.reverseRecOn with
  | nil => simp [ReportedAfterStarts]
  | append_singleton payloads payload ih =>
      rw [List.latest?_concat, List.latest?_concat, shownTokens?]
      cases hpayload : isResponseStarted payload with
      | true =>
          rw [if_pos rfl, Option.some_or, hstart payload hpayload, Option.none_or]
          constructor
          · intro hzero before start after hsplit hisStart
            rcases List.concat_eq_append_cons hsplit with ⟨rfl, -⟩ | ⟨after', rfl, rfl⟩
            · exact Or.inr hzero.symm
            · -- what was reported before the later start was reported after or before this one
              rw [List.latest?_concat, hstart payload hpayload, Option.none_or]
              rw [← List.singleton_append, List.latest?_append, List.latest?_append,
                ← List.nil_append [start], List.latest?_concat, hstart start hisStart] at hzero
              cases hafter : after'.latest? tokens? with
              | some tokens => exact Or.inl rfl
              | none =>
                  rw [hafter] at hzero
                  exact Or.inr hzero.symm
          · intro hreported
            rcases hreported payloads payload [] rfl hpayload with hnone | hzero
            · exact (nomatch hnone)
            · exact hzero.symm
      | false =>
          rw [if_neg Bool.false_ne_true]
          cases htokens : tokens? payload with
          | some tokens =>
              simp only [Option.some_or, true_iff]
              intro before start after hsplit hisStart
              rcases List.concat_eq_append_cons hsplit with ⟨-, rfl⟩ | ⟨after', -, rfl⟩
              · rw [hpayload] at hisStart
                cases hisStart
              · rw [List.latest?_concat, htokens]
                exact Or.inl rfl
          | none =>
              rw [Option.none_or, Option.none_or, ih]
              constructor
              · intro hreported before start after hsplit hisStart
                rcases List.concat_eq_append_cons hsplit with ⟨-, rfl⟩ | ⟨after', hsplit', rfl⟩
                · rw [hpayload] at hisStart
                  cases hisStart
                · rw [List.latest?_concat, htokens, Option.none_or]
                  exact hreported before start after' hsplit' hisStart
              · rintro hreported before start after rfl hisStart
                have hlater := hreported before start (after ++ [payload]) (by simp) hisStart
                rwa [List.latest?_concat, htokens, Option.none_or] at hlater

/-! ## The finished blocks -/

/-- The block of the aggregate with the arguments and the signature written into it. -/
def finalBlock (index : ℚ) (payloads : List EventPayload) (block : MessageBlock) : MessageBlock :=
  ⟨block.body.sign (payloads.latest? (signatureOf? index)),
    (joined? (argumentsOf? index) payloads).elim block.input Json.parse⟩

theorem elim_setInput (block : MessageBlock) (text? : Option String) :
    text?.elim block block.setInput = ⟨block.body, text?.elim block.input Json.parse⟩ := by
  cases text? <;> rfl

theorem elim_setSignature {body : BlockBody} (h : body.sign none = body) (input : Option Json)
    (signature? : Option String) :
    signature?.elim ⟨body, input⟩ (MessageBlock.setSignature ⟨body, input⟩) =
      ⟨body.sign signature?, input⟩ := by
  cases signature? with
  | none => rw [Option.elim_none, h]
  | some signature => cases body <;> rfl

theorem Mirrors.get?_finalizeBlocks {message : StreamedMessage} {context : MessageContext}
    (h : Mirrors payloads message context) (index : ℚ) :
    (finalizeBlocks context).get? index =
      (context.blocks.get? index).map (finalBlock index payloads) := by
  unfold finalizeBlocks
  dsimp only
  rw [OrderedMap.get?_updateEach, OrderedMap.get?_updateEach, h.collects.toolJson,
    h.collects.signatures, Option.map_map]
  have hat := h.blocks.blocksAt index
  cases hblock : context.blocks.get? index with
  | none => rfl
  | some block =>
      rw [hblock] at hat
      have hunsigned : block.body.sign none = block.body := by
        revert hat
        cases message.blocks.get? index with
        | none => exact False.elim
        | some streamed => exact BlockAt.unsigned
      rw [Option.map_some, Option.map_some, Function.comp_apply, elim_setInput,
        elim_setSignature hunsigned, finalBlock]

theorem StreamedBlock.finish_of_toolCall (h : streamed.body.kind = .toolCall) :
    streamed.finish =
      (toolInput streamed.partialJson).map fun input => ⟨streamed.body, some input⟩ := by
  unfold StreamedBlock.finish
  cases hbody : streamed.body with
  | toolUse id name => rfl
  | _ => rw [hbody] at h; cases h

theorem StreamedBlock.finish_of_ne (h : streamed.body.kind ≠ .toolCall) :
    streamed.finish = some ⟨streamed.body, none⟩ := by
  unfold StreamedBlock.finish
  cases hbody : streamed.body with
  | toolUse id name => rw [hbody] at h; exact absurd rfl h
  | _ => rfl

theorem BlockBody.sign_eq_sign_iff {body : BlockBody} {signature signature' : Option String} :
    body.sign signature = body.sign signature' ↔
      (body.kind = .reasoning → signature = signature') := by
  cases body <;> simp [BlockBody.sign, BlockBody.kind]

theorem BlockBody.sign_of_ne {body : BlockBody} (h : body.kind ≠ .reasoning)
    (signature : Option String) : body.sign signature = body := by
  cases body with
  | thinking old signature' => exact absurd rfl h
  | _ => rfl

/-- The last of the values since the last start is that of all exactly if there is one, or none at
all. -/
theorem latest?_sinceStart_eq_iff {value? : EventPayload → Option String} :
    (sinceStart index payloads).latest? value? = payloads.latest? value? ↔
      (payloads.filterMap value? ≠ [] → (sinceStart index payloads).filterMap value? ≠ []) := by
  obtain ⟨earlier, hsplit⟩ := sinceStart_suffix index payloads
  rw [← List.isSome_latest?, ← List.isSome_latest?]
  cases hlatest : (sinceStart index payloads).latest? value? with
  | some value =>
      rw [← hsplit, List.latest?_append, hlatest]
      simp
  | none =>
      cases payloads.latest? value? <;> simp

/-- Without arguments there are none since the last start. -/
theorem joined_sinceStart_of_nil {text? : EventPayload → Option String}
    (h : payloads.filterMap text? = []) : joined text? (sinceStart index payloads) = "" := by
  have hsub : (sinceStart index payloads).filterMap text? <:+ payloads.filterMap text? :=
    (sinceStart_suffix index payloads).filterMap text?
  rw [h, List.suffix_nil] at hsub
  rw [joined, hsub]
  rfl

/-- The client finishes a block as the aggregate does exactly if both read the same arguments and
the same signature. -/
theorem BlockAt.finish_eq_iff (h : BlockAt index payloads streamed block)
    (hvalid : payloads.filterMap (argumentsOf? index) ≠ [] →
      (Json.parse (joined (argumentsOf? index) payloads)).isSome) :
    streamed.finish = some (finalBlock index payloads block) ↔
      (payloads.filterMap (argumentsOf? index) ≠ [] →
        lastKind index payloads = some .toolCall ∧
          ∃ input, Json.parse (joined (argumentsOf? index) payloads) = some input ∧
            toolInput (joined (argumentsOf? index) (sinceStart index payloads)) = some input) ∧
      (lastKind index payloads = some .reasoning →
        payloads.filterMap (signatureOf? index) ≠ [] →
          (sinceStart index payloads).filterMap (signatureOf? index) ≠ []) := by
  have hkind := h.kind_eq
  rw [← latest?_sinceStart_eq_iff, h.kind, Option.some_inj, Option.some_inj, finalBlock, joined?]
  by_cases htool : block.body.kind = .toolCall
  · have hne : block.body.kind ≠ .reasoning := by rw [htool]; decide
    rw [StreamedBlock.finish_of_toolCall (hkind.trans htool), h.partialJson, h.body,
      BlockBody.sign_of_ne hne, BlockBody.sign_of_ne hne, h.input, htool]
    by_cases hnil : payloads.filterMap (argumentsOf? index) = []
    · rw [if_pos hnil, joined_sinceStart_of_nil hnil]
      simp [hnil, toolInput, startInput]
    · rw [if_neg hnil]
      simp [hnil, eq_comm, and_comm]
  · rw [StreamedBlock.finish_of_ne (hkind ▸ htool), h.body, h.input, Option.some_inj,
      MessageBlock.mk.injEq, BlockBody.sign_eq_sign_iff, and_comm]
    by_cases hnil : payloads.filterMap (argumentsOf? index) = []
    · have hinput : startInput block.body.kind = none := by
        cases hbody : block.body <;> first | rfl | rw [hbody] at htool; exact absurd rfl htool
      rw [if_pos hnil, Option.elim_none, hinput]
      simp [hnil]
    · obtain ⟨input, hinput⟩ := Option.isSome_iff_exists.1 (hvalid hnil)
      rw [if_neg hnil, Option.elim_some, hinput]
      simp [hnil, htool]

/-! ## The finished message -/

/-- A delta that is for blocks of some kinds was for one of the started ones. -/
theorem lastKind_isSome_of_targeted (h : Targeted messagesTarget? payloads)
    (hmem : payloads.filterMap (argumentsOf? index) ≠ []) : (lastKind index payloads).isSome := by
  obtain ⟨text, htext⟩ := List.exists_mem_of_ne_nil _ hmem
  obtain ⟨payload, hpayload, hargs⟩ := List.mem_filterMap.1 htext
  obtain ⟨before, after, rfl⟩ := List.append_of_mem hpayload
  have hat := h before payload after rfl
  cases payload with
  | toolArgumentsDelta other toolCallId partialJson =>
      by_cases hother : other = index
      · subst hother
        obtain ⟨kind, -, hopen⟩ := hat other _ rfl
        rw [lastKind, List.latest?_append, ← lastKind, ← lastKind, lastKind_of_openKind hopen,
          Option.isSome_or]
        simp
      · rw [argumentsOf?, if_neg hother] at hargs
        cases hargs
  | _ => cases hargs

theorem finalizeMessage_eq_ok {context : MessageContext} {message : AggregatedMessage} :
    finalizeMessage context = .ok message ↔
      (∀ index text, context.toolJson.get? index = some text →
        (context.blocks.get? index).isSome → (Json.parse text).isSome) ∧
      ⟨context.responseId, context.model, (finalizeBlocks context).sortedValues,
        context.stopReason, context.usage⟩ = message := by
  have hall : context.toolJson.entries.all (validInput context.blocks) = true ↔
      ∀ index text, context.toolJson.get? index = some text →
        (context.blocks.get? index).isSome → (Json.parse text).isSome := by
    rw [List.all_eq_true]
    constructor
    · intro h index text htext hblock
      have hvalid := h (index, text) (OrderedMap.get?_eq_some.1 htext)
      simp only [validInput, decide_eq_true_eq] at hvalid
      exact hvalid.resolve_left (by simp [Option.isNone_iff_eq_none, Option.isSome_iff_ne_none.1 hblock])
    · rintro h ⟨index, text⟩ hmem
      rw [validInput, decide_eq_true_eq, Option.isNone_iff_eq_none, or_iff_not_imp_left]
      exact fun hblock => h index text (OrderedMap.get?_eq_some.2 hmem)
        (Option.isSome_iff_ne_none.2 hblock)
  rw [← hall]
  unfold finalizeMessage
  split
  case isTrue hvalid => simp [hvalid]
  case isFalse hvalid => simp [hvalid]

/-- The aggregate has valid arguments exactly if those of every index are JSON. -/
theorem Mirrors.validInput_iff {message : StreamedMessage} {context : MessageContext}
    (h : Mirrors payloads message context) (htargeted : Targeted messagesTarget? payloads) :
    (∀ index text, context.toolJson.get? index = some text →
        (context.blocks.get? index).isSome → (Json.parse text).isSome) ↔
      ∀ index, payloads.filterMap (argumentsOf? index) ≠ [] →
        (Json.parse (joined (argumentsOf? index) payloads)).isSome := by
  have htoolJson : ∀ index, context.toolJson.get? index =
      if payloads.filterMap (argumentsOf? index) = [] then none
      else some (joined (argumentsOf? index) payloads) := h.collects.toolJson
  constructor
  · intro hvalid index hmem
    have hlast := lastKind_isSome_of_targeted htargeted hmem
    have hat := h.blocks.blocksAt index
    refine hvalid index _ (by rw [htoolJson, if_neg hmem]) ?_
    revert hat
    cases message.blocks.get? index with
    | none =>
        cases context.blocks.get? index with
        | none => intro hat; rw [show lastKind index payloads = none from hat] at hlast; cases hlast
        | some block => exact False.elim
    | some streamed =>
        cases context.blocks.get? index with
        | none => exact False.elim
        | some block => exact fun _ => rfl
  · intro hvalid index text htext _
    rw [htoolJson] at htext
    split at htext
    · cases htext
    · cases htext
      exact hvalid index ‹_›

/-- The client finishes the block of an index as the aggregate does exactly if both read the same
arguments and the same signature there. -/
theorem Mirrors.finish_eq_iff {message : StreamedMessage} {context : MessageContext}
    (h : Mirrors payloads message context) (htargeted : Targeted messagesTarget? payloads)
    (index : ℚ) (hvalid : payloads.filterMap (argumentsOf? index) ≠ [] →
      (Json.parse (joined (argumentsOf? index) payloads)).isSome) :
    (message.blocks.get? index).bind StreamedBlock.finish = (finalizeBlocks context).get? index ↔
      (payloads.filterMap (argumentsOf? index) ≠ [] →
        lastKind index payloads = some .toolCall ∧
          ∃ input, Json.parse (joined (argumentsOf? index) payloads) = some input ∧
            toolInput (joined (argumentsOf? index) (sinceStart index payloads)) = some input) ∧
      (lastKind index payloads = some .reasoning →
        payloads.filterMap (signatureOf? index) ≠ [] →
          (sinceStart index payloads).filterMap (signatureOf? index) ≠ []) := by
  have hat := h.blocks.blocksAt index
  rw [h.get?_finalizeBlocks]
  cases hstreamed : message.blocks.get? index with
  | none =>
      cases hblock : context.blocks.get? index with
      | none =>
          rw [hstreamed, hblock] at hat
          have hlast : lastKind index payloads = none := hat
          have hnil : payloads.filterMap (argumentsOf? index) = [] := by
            by_contra hmem
            have hsome := lastKind_isSome_of_targeted htargeted hmem
            rw [hlast] at hsome
            cases hsome
          simp [hlast, hnil]
      | some block =>
          rw [hstreamed, hblock] at hat
          exact hat.elim
  | some streamed =>
      cases hblock : context.blocks.get? index with
      | none =>
          rw [hstreamed, hblock] at hat
          exact hat.elim
      | some block =>
          rw [hstreamed, hblock] at hat
          exact BlockAt.finish_eq_iff hat hvalid

/-- Where client and aggregate mirror each other, they finish the same message exactly under
coherent events. -/
theorem Mirrors.agree_iff {message : StreamedMessage} {context : MessageContext}
    (h : Mirrors payloads message context) (htargeted : Targeted messagesTarget? payloads) :
    (∃ final, finalizeMessage context = .ok final ∧ message.content = some final.content ∧
      message.stopReason = final.stopReason ∧ message.usage = final.usage) ↔
      Coherent payloads := by
  have hkeys : message.blocks.keys = (finalizeBlocks context).keys := by
    rw [finalizeBlocks, OrderedMap.keys_updateEach, OrderedMap.keys_updateEach, h.blocks.keys]
  have hinput : message.usage.inputTokens = context.usage.inputTokens ↔
      ReportedAfterStarts inputTokens? payloads := by
    rw [h.shows.inputTokens, h.collects.inputTokens]
    refine latest?_shownTokens?_eq_iff fun payload hstart => ?_
    cases payload <;> first | rfl | cases hstart
  have houtput : message.usage.outputTokens = context.usage.outputTokens ↔
      ReportedAfterStarts outputTokens? payloads := by
    rw [h.shows.outputTokens, h.collects.outputTokens]
    refine latest?_shownTokens?_eq_iff fun payload hstart => ?_
    cases payload <;> first | rfl | cases hstart
  simp only [finalizeMessage_eq_ok, h.validInput_iff htargeted]
  constructor
  · rintro ⟨final, ⟨hvalid, rfl⟩, hcontent, -, husage⟩
    have hindex := fun index => (h.finish_eq_iff htargeted index (hvalid index)).1
      ((OrderedMap.mapM_sortedValues_eq_some_iff _ hkeys).1 hcontent index)
    exact
      { targeted := htargeted
        arguments := fun index => (hindex index).1
        signatures := fun index => (hindex index).2
        inputTokens := hinput.1 (congrArg MessageUsage.inputTokens husage)
        outputTokens := houtput.1 (congrArg MessageUsage.outputTokens husage) }
  · intro hcoherent
    have hvalid : ∀ index, payloads.filterMap (argumentsOf? index) ≠ [] →
        (Json.parse (joined (argumentsOf? index) payloads)).isSome := by
      intro index hmem
      obtain ⟨-, input, hparse, -⟩ := hcoherent.arguments index hmem
      rw [hparse]
      rfl
    refine ⟨_, ⟨hvalid, rfl⟩, ?_, h.shows.stopReason, ?_⟩
    · refine (OrderedMap.mapM_sortedValues_eq_some_iff _ hkeys).2 fun index => ?_
      exact (h.finish_eq_iff htargeted index (hvalid index)).2
        ⟨hcoherent.arguments index, hcoherent.signatures index⟩
    · have hinputTokens := hinput.2 hcoherent.inputTokens
      have houtputTokens := houtput.2 hcoherent.outputTokens
      revert hinputTokens houtputTokens
      cases message.usage
      cases context.usage
      rintro rfl rfl
      rfl

/-- The frames of accepted events without a failure form a valid stream that folds to the batch
message, which is then there, exactly if the events are coherent. -/
theorem streamAgreesWithBatch_iff (events : List CanonicalEvent) (frames : List AnthropicFrame)
    (haccepted : encodeAnthropicEvents events = .ok frames)
    (hnot : ∀ event ∈ events, ∀ code text, event.payload ≠ .responseFailed code text) :
    StreamAgreesWithBatch events ↔ Coherent (events.map (·.payload)) := by
  obtain ⟨⟨frames', encoder⟩, hpush, hclosed⟩ := Except.bind_eq_ok.1 haccepted
  obtain ⟨-, -, hclosed⟩ := Except.bind_eq_ok.1 hclosed
  cases hclosed
  obtain ⟨hiff, hmirrors⟩ := mirrors_nil.stream List.lawful_nil hpush hnot
  rw [List.nil_append] at hiff hmirrors
  constructor
  · rintro ⟨frames', streamed, message, hframes, hstreamed, hmessage, hagree⟩
    rw [haccepted] at hframes
    cases hframes
    obtain ⟨context, hcontext, hmirror⟩ := hmirrors streamed hstreamed
    have htargeted := hiff.1 (Option.isSome_iff_exists.2 ⟨_, hstreamed⟩)
    rw [aggregateAnthropicEvents, haccepted, hcontext] at hmessage
    exact (hmirror.agree_iff htargeted).1 ⟨message, hmessage, hagree⟩
  · intro hcoherent
    obtain ⟨streamed, hstreamed⟩ := Option.isSome_iff_exists.1 (hiff.2 hcoherent.targeted)
    obtain ⟨context, hcontext, hmirror⟩ := hmirrors streamed hstreamed
    obtain ⟨message, hmessage, hagree⟩ := (hmirror.agree_iff hcoherent.targeted).2 hcoherent
    refine ⟨_, streamed, message, haccepted, hstreamed, ?_, hagree⟩
    rw [aggregateAnthropicEvents, haccepted, hcontext]
    exact hmessage

/-! ### A greeting, and a text without a block -/

/-- A message of one text block, whose usage comes after its start. -/
def greeting : List CanonicalEvent :=
  [streamEvent 0 (.responseStarted "msg-1"), streamEvent 1 (.contentStarted 0 .text none none none),
    streamEvent 2 (.textDelta 0 "hello"), streamEvent 3 (.contentCompleted 0),
    streamEvent 4 (.usageUpdated (some 3) (some 5)), streamEvent 5 (.responseCompleted "end_turn")]

/-- A message whose text is for a block that was never started. -/
def strayText : List CanonicalEvent :=
  [streamEvent 0 (.responseStarted "msg-1"), streamEvent 1 (.textDelta 0 "hello"),
    streamEvent 2 (.usageUpdated (some 3) (some 5)), streamEvent 3 (.responseCompleted "end_turn")]

theorem coherent_greeting : Coherent (greeting.map (·.payload)) :=
  (streamAgreesWithBatch_iff greeting _ (by rfl) (by simp [greeting, streamEvent])).1
    ⟨_, _, _, by rfl, by rfl, by rfl, by rfl, by rfl, by rfl⟩

theorem not_streamAgreesWithBatch_strayText :
    ¬ ∀ events frames, encodeAnthropicEvents events = .ok frames →
      (∃ event ∈ events, isTerminal event.payload) →
      (∀ event ∈ events, ∀ code text, event.payload ≠ .responseFailed code text) →
      StreamAgreesWithBatch events := by
  intro h
  obtain ⟨frames, streamed, -, hframes, hstreamed, -⟩ := h strayText _ (by rfl)
    (by simp [strayText, streamEvent, isTerminal]) (by simp [strayText, streamEvent])
  cases hframes
  cases hstreamed

end RlyGateway
