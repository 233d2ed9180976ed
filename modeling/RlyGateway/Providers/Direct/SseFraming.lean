import RlyGateway.Library.TextDecoder
import RlyGateway.Providers.Direct.ResponsesRail
import RlyGateway.Providers.HttpFailure

/-!
# Framing the upstream body

Both adapters of an OpenAI-style upstream read server-sent events: they decode the bytes of each chunk,
split what they have at blank lines, and keep what follows the last one for the next chunk. The data
and the frames they give do not depend on how the bytes are cut into chunks.
-/

namespace RlyGateway

/-! ## Lines and records -/

/-- `\r?\n` at the head of a text. -/
def eatLineBreak : List Char → Option (List Char)
  | '\r' :: '\n' :: rest => some rest
  | '\n' :: rest => some rest
  | _ => none

/-- `\r?\n\r?\n` at the head of a text. -/
def eatBlankLine (text : List Char) : Option (List Char) :=
  (eatLineBreak text).bind eatLineBreak

theorem eatLineBreak_eq_some {text rest : List Char} (h : eatLineBreak text = some rest) :
    text = '\r' :: '\n' :: rest ∨ text = '\n' :: rest := by
  unfold eatLineBreak at h
  split at h
  · cases h
    exact .inl rfl
  · cases h
    exact .inr rfl
  · cases h

theorem length_of_eatLineBreak {text rest : List Char} (h : eatLineBreak text = some rest) :
    rest.length < text.length := by
  rcases eatLineBreak_eq_some h with rfl | rfl
  · simp only [List.length_cons]
    omega
  · simp

theorem eatLineBreak_append {text rest : List Char} (more : List Char)
    (h : eatLineBreak text = some rest) : eatLineBreak (text ++ more) = some (rest ++ more) := by
  rcases eatLineBreak_eq_some h with rfl | rfl <;> rfl

/-- Only a text that ends too early becomes a line break by more text. -/
theorem eatLineBreak_late {text more : List Char} (h : eatLineBreak text = none)
    (hmore : eatLineBreak (text ++ more) ≠ none) : text = [] ∨ text = ['\r'] := by
  obtain ⟨rest, hrest⟩ := Option.ne_none_iff_exists'.1 hmore
  cases text with
  | nil => exact .inl rfl
  | cons c text =>
      cases text with
      | nil =>
          rcases eatLineBreak_eq_some hrest with heq | heq
          · obtain ⟨rfl, -⟩ := List.cons.inj heq
            exact .inr rfl
          · obtain ⟨rfl, -⟩ := List.cons.inj heq
            cases h
      | cons d text =>
          rcases eatLineBreak_eq_some hrest with heq | heq
          · obtain ⟨rfl, htail⟩ := List.cons.inj heq
            obtain ⟨rfl, -⟩ := List.cons.inj htail
            cases h
          · obtain ⟨rfl, -⟩ := List.cons.inj heq
            cases h

/-- The separator of the lines of a record. -/
def lineBreak : Separator Char where
  eat := eatLineBreak
  shorter := length_of_eatLineBreak
  append := eatLineBreak_append
  late := by
    intro text more h hmore tail htail
    rcases eatLineBreak_late h hmore with rfl | rfl
    · obtain rfl : tail = [] := by simpa using htail
      rfl
    · obtain rfl | rfl : tail = ['\r'] ∨ tail = [] := by simpa using htail
      · rfl
      · rfl

/-- A blank line that more text brings does not come behind another one. -/
theorem eatBlankLine_late {text more : List Char} (h : eatBlankLine text = none)
    (hmore : eatBlankLine (text ++ more) ≠ none) :
    ∀ tail ∈ text.tails, eatBlankLine tail = none := by
  cases hfirst : eatLineBreak text with
  | none =>
      have hlate : eatLineBreak (text ++ more) ≠ none := by
        intro hnone
        rw [eatBlankLine, hnone] at hmore
        exact hmore rfl
      rcases eatLineBreak_late hfirst hlate with rfl | rfl <;> simp [eatBlankLine, eatLineBreak]
  | some rest =>
      rw [eatBlankLine, hfirst, Option.bind_some] at h
      rw [eatBlankLine, eatLineBreak_append more hfirst, Option.bind_some] at hmore
      rcases eatLineBreak_late h hmore with rfl | rfl <;>
        rcases eatLineBreak_eq_some hfirst with rfl | rfl <;> simp [eatBlankLine, eatLineBreak]

/-- The separator of the records. -/
def blankLine : Separator Char where
  eat := eatBlankLine
  shorter := by
    intro text rest h
    obtain ⟨line, hline, hrest⟩ := Option.bind_eq_some_iff.1 h
    exact (length_of_eatLineBreak hrest).trans (length_of_eatLineBreak hline)
  append := by
    intro text rest more h
    obtain ⟨line, hline, hrest⟩ := Option.bind_eq_some_iff.1 h
    exact Option.bind_eq_some_iff.2
      ⟨_, eatLineBreak_append more hline, eatLineBreak_append more hrest⟩
  late := eatBlankLine_late

/-- The lines of a record. -/
def recordLines (record : List Char) : List (List Char) :=
  (lineBreak.split record).1 ++ [(lineBreak.split record).2]

/-- What follows a field's name in a line of it. -/
def lineField? (name : String) (line : List Char) : Option (List Char) :=
  if name.toList <+: line then some (line.drop name.length) else none

/-- The data lines of a record, each without the white space before it, joined by line breaks. -/
def recordData (record : List Char) : String :=
  "\n".intercalate (((recordLines record).filterMap (lineField? "data:")).map fun line =>
    String.ofList (line.dropWhile isTrimmed))

/-! ## The adapters -/

/-- The data of a record, where it has any. -/
def sseDatum? (record : List Char) : Option String :=
  some (recordData record) |>.filter (· ≠ "")

/-- The event that the last event line of a record names. -/
def recordEvent? (record : List Char) : Option String :=
  ((recordLines record).filterMap (lineField? "event:")).getLast?.map fun line =>
    String.ofList (trimChars line)

/-- The frame of a record, where it has data. Data that is no object has no properties. -/
def sseFrame? (record : List Char) : Option SseFrame :=
  (sseDatum? record).map fun data =>
    match Json.parse data with
    | none => .error
    | some parsed => .data (recordEvent? record)
        (if parsed.obj?.isSome then parsed else .obj [])

/-- The loop of both adapters over the chunks of a body, with the decoder and the unfinished record. -/
def readSse {β : Type} (ofRecord : List Char → Option β) :
    ChunkReader (TextDecoder × List Char) UInt8 β :=
  (TextDecoder.decode.andThen blankLine.records).filterMap ofRecord

/-- The data that the Chat Completions adapter reads from a body. -/
def sseData (chunks : List (List UInt8)) : List String :=
  ((readSse sseDatum?).readAll (.initial, []) chunks).1

/-- The frames that the Responses adapter reads from a body. -/
def sseFrames (chunks : List (List UInt8)) : List SseFrame :=
  ((readSse sseFrame?).readAll (.initial, []) chunks).1

theorem seamless_readSse {β : Type} (ofRecord : List Char → Option β) :
    (readSse ofRecord).Seamless :=
  (TextDecoder.seamless_decode.andThen blankLine.seamless_records).filterMap ofRecord

/-- However a body is cut into chunks, it is read as one. -/
theorem readAll_readSse {β : Type} (ofRecord : List Char → Option β) (chunks : List (List UInt8)) :
    (readSse ofRecord).readAll (.initial, []) chunks =
      (readSse ofRecord).readAll (.initial, []) [chunks.flatten] := by
  cases chunks with
  | nil =>
      show _ = (((blankLine.split []).1.filterMap ofRecord) ++ [], _, (blankLine.split []).2)
      rw [blankLine.split_nil]
      rfl
  | cons chunk chunks =>
      rw [(seamless_readSse ofRecord).readAll_cons, (seamless_readSse ofRecord).readAll_cons,
        List.flatten_nil, List.append_nil, List.flatten_cons]

/-- The data and the frames of a body do not depend on its chunks. -/
theorem sse_eq_of_flatten (chunks : List (List UInt8)) :
    sseData chunks = sseData [chunks.flatten] ∧ sseFrames chunks = sseFrames [chunks.flatten] :=
  ⟨congrArg Prod.fst (readAll_readSse sseDatum? chunks),
    congrArg Prod.fst (readAll_readSse sseFrame? chunks)⟩

end RlyGateway
