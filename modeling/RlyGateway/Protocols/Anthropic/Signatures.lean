import RlyGateway.Library.Fallible
import RlyGateway.Library.JsonNumber
import RlyGateway.Protocols.Anthropic.Decoder
import Mathlib.Data.List.Basic

/-!
# Signatures of thinking blocks

An artifact of a decoded request names the place of its thinking block by a message and a block
index. Where the wire messages and the canonical messages count alike, it names the place of the
reasoning that the block has become.
-/

namespace RlyGateway

/-! ## Signed blocks -/

/-- A thinking block with a signature: the wire message that it is in, the way to it through the
contents of tool results, and what it holds. -/
structure SignedBlock where
  message : ℕ
  path : List ℕ
  thinking : String
  signature : String
deriving DecidableEq, Repr

/-- The thinking and the signature of a block that is signed. -/
def ContentBlock.signed? : ContentBlock → Option (String × String)
  | .thinking thought (some signature) => if signature = "" then none else some (thought, signature)
  | _ => none

mutual

/-- The signed blocks of a value: itself, or those in the content of a tool result. -/
def signedIn : Json → List (List ℕ × String × String)
  | .obj fields =>
      match contentBlock (.obj fields) with
      | some (.toolResult _ _) => signedInResult fields
      | some block => block.signed?.toList.map fun held => ([], held)
      | none => []
  | _ => []

def signedInResult : List (String × Json) → List (List ℕ × String × String)
  | [] => []
  | (name, value) :: fields => if name = "content" then signedInContent value else signedInResult fields

def signedInContent : Json → List (List ℕ × String × String)
  | .arr items => signedInItems 0 items
  | _ => []

def signedInItems (n : ℕ) : List Json → List (List ℕ × String × String)
  | [] => []
  | item :: items =>
      (signedIn item).map (fun found => (n :: found.1, found.2)) ++ signedInItems (n + 1) items

end

/-- The signed blocks of the messages of a request. -/
def signedBlocks (messages : List RawMessage) : List SignedBlock :=
  messages.zipIdx.flatMap fun (message, index) =>
    (signedInContent message.content).map fun found => ⟨index, found.1, found.2.1, found.2.2⟩

/-! ## What an artifact refers to -/

/-- The indices of the wire messages that become messages, in their order; the others join the
system prompt. -/
def conversationFrom (n : ℕ) : List RawMessage → List ℕ
  | [] => []
  | message :: rest =>
      if message.role = "system" then conversationFrom (n + 1) rest
      else n :: conversationFrom (n + 1) rest

/-- How a place is written. -/
def artifactAssociation (messageIndex blockIndex : ℕ) : String :=
  toString messageIndex ++ ":" ++ toString blockIndex

/-- The signatures among the artifacts of a request. -/
def CanonicalRequest.signatureArtifacts (request : CanonicalRequest) : List OpaqueArtifact :=
  (request.fidelity.elim [] (·.artifacts)).filter (·.kind = .anthropicThinkingSignature)

/-- The artifact names the place in the canonical messages that the block has come to. -/
def OpaqueArtifact.RefersTo (artifact : OpaqueArtifact) (messages : List RawMessage)
    (block : SignedBlock) (i j : ℕ) : Prop :=
  artifact.association = artifactAssociation i j ∧
    (conversationFrom 0 messages)[i]? = some block.message ∧ block.path = [j]

/-- The signatures of a request are attached to their blocks. -/
structure SignaturesAttached (messages : List RawMessage) (request : CanonicalRequest) :
    Prop where
  /-- Each artifact refers to the reasoning of the block that carried its signature. -/
  refers : ∀ artifact ∈ request.signatureArtifacts, ∃ block ∈ signedBlocks messages, ∃ i j,
    artifact.RefersTo messages block i j ∧ artifact.value = block.signature ∧
      ∃ message, request.messages[i]? = some message ∧
        message.content[j]? = some (.reasoning block.thinking none)
  /-- Each signed block has one artifact. -/
  each : ∀ block ∈ signedBlocks messages, ∃! artifact, artifact ∈ request.signatureArtifacts ∧
    ∃ i j, artifact.RefersTo messages block i j
  once : request.signatureArtifacts.Nodup

/-- The block stands directly in a message, and neither this message nor one before it has the
system role. -/
def SignedBlock.InPlace (messages : List RawMessage) (block : SignedBlock) : Prop :=
  block.path.length = 1 ∧ ∀ message ∈ messages.take (block.message + 1), message.role ≠ "system"

/-! ## Places -/

/-- A written place is read back. -/
theorem artifactAssociation_inj {i j i' j' : ℕ}
    (h : artifactAssociation i j = artifactAssociation i' j') : i = i' ∧ j = j' := by
  have hcolon : ∀ n : ℕ, ':' ∉ Nat.toDigits 10 n := by
    intro n hmem
    exact absurd (Json.areDigits_toDigits n ':' hmem) (by decide)
  have hvalue : ∀ {n n' : ℕ}, Nat.toDigits 10 n = Nat.toDigits 10 n' → n = n' := by
    intro n n' heq
    rw [← Json.digitsValue_toDigits n, heq, Json.digitsValue_toDigits]
  have hchars := congrArg String.toList h
  simp only [artifactAssociation, String.toList_append, toString, Nat.toList_repr] at hchars
  rw [List.append_assoc, List.append_assoc] at hchars
  obtain ⟨hleft, -, hright⟩ : Nat.toDigits 10 i = Nat.toDigits 10 i' ∧ ':' = ':' ∧
      Nat.toDigits 10 j = Nat.toDigits 10 j' :=
    (List.append_cons_inj_of_notMem (hcolon i) (hcolon j)).1 hchars
  exact ⟨hvalue hleft, hvalue hright⟩

theorem conversationFrom_getElem? {messages : List RawMessage} {n i m : ℕ}
    (h : (conversationFrom n messages)[i]? = some m) : n + i ≤ m := by
  induction messages generalizing n i with
  | nil => simp [conversationFrom] at h
  | cons message rest ih =>
      rw [conversationFrom] at h
      split at h
      · have hle := ih h
        omega
      · cases i with
        | zero =>
            cases h
            exact le_rfl
        | succ i =>
            have hle := ih h
            omega

/-- A message keeps its index exactly when no message up to it has the system role. -/
theorem conversationFrom_eq_iff {messages : List RawMessage} {n i : ℕ} :
    (conversationFrom n messages)[i]? = some (n + i) ↔
      i < messages.length ∧ ∀ message ∈ messages.take (i + 1), message.role ≠ "system" := by
  induction messages generalizing n i with
  | nil => simp [conversationFrom]
  | cons message rest ih =>
      rw [conversationFrom]
      by_cases hsystem : message.role = "system"
      · rw [if_pos hsystem]
        refine iff_of_false ?_ ?_
        · intro h
          have hle := conversationFrom_getElem? h
          omega
        · rintro ⟨-, hnone⟩
          exact hnone message (by simp) hsystem
      · rw [if_neg hsystem]
        cases i with
        | zero => simp [hsystem]
        | succ i =>
            have hshift : n + (i + 1) = n + 1 + i := by omega
            rw [List.getElem?_cons_succ, hshift, ih]
            simp [hsystem]

/-! ## Signed blocks of a message -/

theorem signed?_eq_some {block : ContentBlock} {thinking signature : String} :
    block.signed? = some (thinking, signature) ↔
      block = .thinking thinking (some signature) ∧ signature ≠ "" := by
  unfold ContentBlock.signed?
  split
  · rename_i thought held
    by_cases hheld : held = ""
    · simp [hheld]
    · rw [if_neg hheld]
      constructor
      · intro h
        cases h
        exact ⟨rfl, hheld⟩
      · rintro ⟨h, -⟩
        cases h
        rfl
  · rename_i hnot
    refine iff_of_false (by simp) ?_
    rintro ⟨rfl, -⟩
    exact hnot _ _ rfl

theorem ne_nil_of_mem_signedInItems {items : List Json} {n : ℕ} {found : List ℕ × String × String}
    (h : found ∈ signedInItems n items) : found.1 ≠ [] := by
  induction items generalizing n with
  | nil => simp [signedInItems] at h
  | cons item items ih =>
      rw [signedInItems, List.mem_append] at h
      rcases h with h | h
      · obtain ⟨inner, -, rfl⟩ := List.mem_map.1 h
        exact List.cons_ne_nil _ _
      · exact ih h

theorem ne_nil_of_mem_signedInContent {value : Json} {found : List ℕ × String × String}
    (h : found ∈ signedInContent value) : found.1 ≠ [] := by
  cases value with
  | arr items =>
      rw [signedInContent] at h
      exact ne_nil_of_mem_signedInItems h
  | _ => simp [signedInContent] at h

theorem ne_nil_of_mem_signedInResult {fields : List (String × Json)}
    {found : List ℕ × String × String} (h : found ∈ signedInResult fields) : found.1 ≠ [] := by
  induction fields with
  | nil => simp [signedInResult] at h
  | cons field fields ih =>
      obtain ⟨name, value⟩ := field
      rw [signedInResult] at h
      split at h
      · exact ne_nil_of_mem_signedInContent h
      · exact ih h

/-- A signed block that is not inside a tool result is a thinking block itself. -/
theorem mem_signedIn_nil {value : Json} {held : String × String} :
    ([], held) ∈ signedIn value ↔ (contentBlock value).bind (·.signed?) = some held := by
  cases value with
  | obj fields =>
      rw [signedIn]
      split
      · rename_i hblock
        rw [hblock]
        refine iff_of_false ?_ ?_
        · intro h
          exact ne_nil_of_mem_signedInResult h rfl
        · intro h
          cases h
      · rename_i block _ hblock
        rw [hblock]
        simp
      · rename_i hblock
        rw [hblock]
        simp
  | _ => simp [signedIn, contentBlock, Json.strField?, Json.field?]

theorem mem_signedInItems_singleton {items : List Json} {n k : ℕ} {held : String × String} :
    ([k], held) ∈ signedInItems n items ↔ ∃ j value, k = n + j ∧ items[j]? = some value ∧
      (contentBlock value).bind (·.signed?) = some held := by
  induction items generalizing n with
  | nil => simp [signedInItems]
  | cons item items ih =>
      rw [signedInItems, List.mem_append, ih]
      constructor
      · rintro (h | ⟨j, value, rfl, hitem, hheld⟩)
        · obtain ⟨⟨path, held'⟩, hmem, heq⟩ := List.mem_map.1 h
          injection heq with hpath hheld
          injection hpath with hn hpath
          subst hn hpath hheld
          exact ⟨0, item, rfl, rfl, mem_signedIn_nil.1 hmem⟩
        · exact ⟨j + 1, value, by omega, hitem, hheld⟩
      · rintro ⟨j, value, rfl, hitem, hheld⟩
        cases j with
        | zero =>
            cases hitem
            exact .inl (List.mem_map.2 ⟨([], held), mem_signedIn_nil.2 hheld, rfl⟩)
        | succ j => exact .inr ⟨j, value, by omega, hitem, hheld⟩

/-- The block is signed that stands at a place of the wire messages. -/
def SignedAt (messages : List RawMessage) (m j : ℕ) (held : String × String) : Prop :=
  ∃ message value, messages[m]? = some message ∧
    (message.content.arr?.getD [])[j]? = some value ∧
      (contentBlock value).bind (·.signed?) = some held

theorem SignedAt.unique {messages : List RawMessage} {m j : ℕ}
    {thinking thinking' signature signature' : String}
    (h : SignedAt messages m j (thinking, signature))
    (h' : SignedAt messages m j (thinking', signature')) : signature = signature' := by
  obtain ⟨message, value, hmessage, hvalue, hheld⟩ := h
  obtain ⟨message', value', hmessage', hvalue', hheld'⟩ := h'
  cases Option.some.inj (hmessage.symm.trans hmessage')
  cases Option.some.inj (hvalue.symm.trans hvalue')
  exact congrArg Prod.snd (Option.some.inj (hheld.symm.trans hheld'))

theorem signedInContent_eq (value : Json) :
    signedInContent value = signedInItems 0 (value.arr?.getD []) := by
  cases value with
  | arr items => simp [signedInContent, Json.arr?]
  | _ => simp [signedInContent, signedInItems, Json.arr?]

/-- The signed blocks that are directly in a message. -/
theorem mem_signedBlocks_singleton {messages : List RawMessage} {m j : ℕ}
    {thinking signature : String} :
    ⟨m, [j], thinking, signature⟩ ∈ signedBlocks messages ↔
      SignedAt messages m j (thinking, signature) := by
  unfold signedBlocks SignedAt
  rw [List.mem_flatMap]
  constructor
  · rintro ⟨⟨message, index⟩, hmessage, h⟩
    obtain ⟨⟨path, held⟩, hmem, heq⟩ := List.mem_map.1 h
    injection heq with hindex hpath hthinking hsignature
    subst hindex hpath hthinking hsignature
    rw [signedInContent_eq] at hmem
    obtain ⟨k, value, hk, hvalue, hheld⟩ := mem_signedInItems_singleton.1 hmem
    rw [Nat.zero_add] at hk
    subst hk
    exact ⟨message, value, List.mem_zipIdx_iff_getElem?.1 hmessage, hvalue, hheld⟩
  · rintro ⟨message, value, hmessage, hvalue, hheld⟩
    refine ⟨(message, m), List.mem_zipIdx_iff_getElem?.2 hmessage, ?_⟩
    refine List.mem_map.2 ⟨([j], thinking, signature), ?_, rfl⟩
    rw [signedInContent_eq]
    exact mem_signedInItems_singleton.2 ⟨j, value, (Nat.zero_add j).symm, hvalue, hheld⟩

/-! ## The artifacts -/

/-- The artifacts are those of the signed blocks that are directly in a message. -/
theorem mem_thinkingSignatureArtifacts {messages : List RawMessage} {artifact : OpaqueArtifact} :
    artifact ∈ thinkingSignatureArtifacts messages ↔ ∃ m j thinking signature,
      SignedAt messages m j (thinking, signature) ∧
        artifact = ⟨.anthropicThinkingSignature, artifactAssociation m j, signature⟩ := by
  unfold thinkingSignatureArtifacts SignedAt
  simp only [List.mem_flatMap, List.mem_filterMap, Prod.exists, List.mem_zipIdx_iff_getElem?]
  constructor
  · rintro ⟨message, m, hmessage, value, j, hvalue, h⟩
    split at h
    · rename_i thinking signature hblock
      split at h
      · cases h
      · rename_i hsignature
        cases h
        refine ⟨m, j, thinking, signature, ⟨message, value, hmessage, hvalue, ?_⟩, rfl⟩
        rw [hblock]
        exact if_neg hsignature
    · cases h
  · rintro ⟨m, j, thinking, signature, ⟨message, value, hmessage, hvalue, hheld⟩, rfl⟩
    refine ⟨message, m, hmessage, value, j, hvalue, ?_⟩
    obtain ⟨block, hblock, hsigned⟩ := Option.bind_eq_some_iff.1 hheld
    obtain ⟨hblock', hsignature⟩ := signed?_eq_some.1 hsigned
    rw [hblock, hblock']
    exact if_neg hsignature

theorem pairwise_snd_zipIdx {α : Type} (l : List α) :
    l.zipIdx.Pairwise fun entry other => entry.2 < other.2 := by
  have hrange : (l.zipIdx.map Prod.snd).Pairwise (· < ·) := by
    rw [List.zipIdx_map_snd]
    exact List.pairwise_lt_range'
  exact List.pairwise_map.1 hrange

theorem association_of_eq_some {value : Json} {m j : ℕ} {artifact : OpaqueArtifact}
    (h : (match contentBlock value with
      | some (.thinking _ (some signature)) =>
          if signature = "" then none
          else some (⟨.anthropicThinkingSignature, toString m ++ ":" ++ toString j, signature⟩ :
            OpaqueArtifact)
      | _ => none) = some artifact) : artifact.association = artifactAssociation m j := by
  split at h
  · split at h
    · cases h
    · cases h
      rfl
  · cases h

/-- No two artifacts name the same place. -/
theorem pairwise_association (messages : List RawMessage) :
    (thinkingSignatureArtifacts messages).Pairwise fun artifact other =>
      artifact.association ≠ other.association := by
  unfold thinkingSignatureArtifacts
  rw [List.pairwise_flatMap]
  constructor
  · rintro ⟨message, m⟩ -
    rw [List.pairwise_filterMap]
    refine (pairwise_snd_zipIdx _).imp ?_
    rintro ⟨value, j⟩ ⟨value', j'⟩ hlt artifact hartifact artifact' hartifact'
    dsimp only at hlt hartifact hartifact'
    rw [association_of_eq_some hartifact, association_of_eq_some hartifact']
    intro heq
    have hsame := (artifactAssociation_inj heq).2
    omega
  · refine (pairwise_snd_zipIdx messages).imp ?_
    rintro ⟨message, m⟩ ⟨message', m'⟩ hlt artifact hartifact artifact' hartifact'
    obtain ⟨⟨value, j⟩, -, hvalue⟩ := List.mem_filterMap.1 hartifact
    obtain ⟨⟨value', j'⟩, -, hvalue'⟩ := List.mem_filterMap.1 hartifact'
    dsimp only at hlt hvalue hvalue'
    rw [association_of_eq_some hvalue, association_of_eq_some hvalue']
    intro heq
    have hsame := (artifactAssociation_inj heq).1
    omega

/-- The signatures of a decoded request are the artifacts of its wire messages. -/
theorem signatureArtifacts_eq {headers : Headers} {input : List CanonicalContent}
    {messages : List RawMessage} {ignored : List String} :
    ((messagesFidelity headers input (thinkingSignatureArtifacts messages) ignored).elim []
      (·.artifacts)).filter (·.kind = .anthropicThinkingSignature) =
        thinkingSignatureArtifacts messages := by
  have hkinds : (thinkingSignatureArtifacts messages).filter
      (·.kind = .anthropicThinkingSignature) = thinkingSignatureArtifacts messages := by
    rw [List.filter_eq_self]
    intro artifact hartifact
    obtain ⟨m, j, thinking, signature, -, rfl⟩ := mem_thinkingSignatureArtifacts.1 hartifact
    rfl
  unfold messagesFidelity
  split
  · rename_i hnone
    rw [hnone.1]
    rfl
  · dsimp only
    split
    · exact hkinds
    · exact hkinds

/-! ## The canonical messages -/

/-- The messages that are not of the system role become the canonical messages, in order. -/
theorem getElem?_decodeMessages {system system' : List CanonicalContent}
    {messages : List RawMessage} {decoded : List CanonicalMessage}
    (h : decodeMessages system messages = .ok (system', decoded)) {n i m : ℕ}
    (hindex : (conversationFrom n messages)[i]? = some m) :
    ∃ message wire, decoded[i]? = some message ∧ messages[m - n]? = some wire ∧
      blocks wire.content = .ok message.content := by
  induction messages generalizing system system' decoded n i with
  | nil => simp [conversationFrom] at hindex
  | cons wire rest ih =>
      have hle := conversationFrom_getElem? hindex
      rw [decodeMessages] at h
      obtain ⟨content, hcontent, h⟩ := Except.bind_eq_ok.1 h
      rw [conversationFrom] at hindex
      have hshift : ∀ {k : ℕ}, (conversationFrom (n + 1) rest)[k]? = some m →
          (wire :: rest)[m - n]? = rest[m - (n + 1)]? := by
        intro k hk
        have hlater := conversationFrom_getElem? hk
        have hsucc : m - n = m - (n + 1) + 1 := by omega
        rw [hsucc, List.getElem?_cons_succ]
      split at h
      · rename_i hsystem
        rw [if_pos hsystem] at hindex
        rw [hshift hindex]
        exact ih h hindex
      · rename_i hsystem
        rw [if_neg hsystem] at hindex
        obtain ⟨role, rest', hdecoded, hrest⟩ : ∃ role rest', decoded = ⟨role, content⟩ :: rest' ∧
            decodeMessages system rest = .ok (system', rest') := by
          split at h
          · obtain ⟨⟨system'', rest'⟩, hrest, heq⟩ := Except.bind_eq_ok.1 h
            cases heq
            exact ⟨_, rest', rfl, hrest⟩
          · split at h
            · obtain ⟨⟨system'', rest'⟩, hrest, heq⟩ := Except.bind_eq_ok.1 h
              cases heq
              exact ⟨_, rest', rfl, hrest⟩
            · cases h
        subst hdecoded
        cases i with
        | zero =>
            cases hindex
            exact ⟨⟨role, content⟩, wire, rfl, by simp, hcontent⟩
        | succ i =>
            rw [List.getElem?_cons_succ] at hindex ⊢
            rw [hshift hindex]
            exact ih hrest hindex

/-- A block of a list is decoded at its place. -/
theorem getElem?_decodeBlocks {items : List Json} {contents : List CanonicalContent}
    (h : decodeBlocks items = .ok contents) {j : ℕ} {value : Json}
    (hvalue : items[j]? = some value) :
    ∃ content, contents[j]? = some content ∧ decodeBlock value = .ok content := by
  induction items generalizing contents j with
  | nil => simp at hvalue
  | cons item items ih =>
      rw [decodeBlocks] at h
      obtain ⟨content, hcontent, h⟩ := Except.bind_eq_ok.1 h
      obtain ⟨rest, hrest, heq⟩ := Except.bind_eq_ok.1 h
      cases heq
      cases j with
      | zero =>
          cases hvalue
          exact ⟨content, rfl, hcontent⟩
      | succ j => exact ih hrest hvalue

/-- A signed thinking block becomes its reasoning. -/
theorem decodeBlock_of_signed {value : Json} {thinking signature : String}
    (h : (contentBlock value).bind (·.signed?) = some (thinking, signature)) :
    decodeBlock value = .ok (.reasoning thinking none) := by
  obtain ⟨block, hblock, hsigned⟩ := Option.bind_eq_some_iff.1 h
  obtain ⟨rfl, -⟩ := signed?_eq_some.1 hsigned
  cases value with
  | obj fields =>
      rw [decodeBlock]
      rw [hblock]
  | _ => simp [contentBlock, Json.strField?, Json.field?] at hblock

/-! ## Attached signatures -/

section Decoded

variable {environment : DecoderEnvironment} {raw : Json} {headers : Headers}
  {value : RawMessagesRequest} {decoded : DecodedRequest}

/-- The artifacts and the messages of an accepted request. -/
theorem decoded_eq (hraw : rawMessagesRequest raw = some value)
    (h : decodeAnthropicRequest environment raw headers = .ok decoded) :
    decoded.request.signatureArtifacts = thinkingSignatureArtifacts value.messages ∧
      ∃ system system', decodeMessages system value.messages =
        .ok (system', decoded.request.messages) := by
  rw [decodeAnthropicRequest, hraw] at h
  obtain ⟨⟨system, messages⟩, hmessages, h⟩ := Except.bind_eq_ok.1 h
  cases h
  exact ⟨signatureArtifacts_eq, _, system, hmessages⟩

/-- The canonical content at the place of a signed block is its reasoning. -/
theorem getElem?_reasoning (hraw : rawMessagesRequest raw = some value)
    (h : decodeAnthropicRequest environment raw headers = .ok decoded) {i j m : ℕ}
    {thinking signature : String} (hindex : (conversationFrom 0 value.messages)[i]? = some m)
    (hsigned : SignedAt value.messages m j (thinking, signature)) :
    ∃ message, decoded.request.messages[i]? = some message ∧
      message.content[j]? = some (.reasoning thinking none) := by
  obtain ⟨-, system, system', hmessages⟩ := decoded_eq hraw h
  obtain ⟨message, wire, hmessage, hwire, hblocks⟩ := getElem?_decodeMessages hmessages hindex
  obtain ⟨wire', block, hwire', hblock, hheld⟩ := hsigned
  rw [Nat.sub_zero, hwire', Option.some.injEq] at hwire
  subst hwire
  have hitems : decodeBlocks (wire'.content.arr?.getD []) = .ok message.content := by
    cases hcontent : wire'.content with
    | arr items =>
        rw [hcontent, blocks] at hblocks
        exact hblocks
    | _ => simp [hcontent, Json.arr?] at hblock
  obtain ⟨content, hcontent, hdecoded⟩ := getElem?_decodeBlocks hitems hblock
  rw [decodeBlock_of_signed hheld, Except.ok.injEq] at hdecoded
  exact ⟨message, hmessage, hdecoded ▸ hcontent⟩

/-- A block in place is signed at the one index of its path, and its message keeps its index. -/
theorem SignedBlock.InPlace.signedAt {messages : List RawMessage} {block : SignedBlock}
    (h : block.InPlace messages) (hmem : block ∈ signedBlocks messages) :
    ∃ j, block.path = [j] ∧
      SignedAt messages block.message j (block.thinking, block.signature) ∧
        ∀ k ≤ block.message, (conversationFrom 0 messages)[k]? = some k := by
  obtain ⟨m, path, thinking, signature⟩ := block
  obtain ⟨hlength, hroles⟩ := h
  obtain ⟨j, rfl⟩ := List.length_eq_one_iff.1 hlength
  have hsigned := mem_signedBlocks_singleton.1 hmem
  refine ⟨j, rfl, hsigned, fun k hk => ?_⟩
  obtain ⟨message, value, hmessage, -⟩ := hsigned
  obtain ⟨hm, -⟩ := List.getElem?_eq_some_iff.1 hmessage
  have hkept : (conversationFrom 0 messages)[k]? = some (0 + k) := by
    rw [conversationFrom_eq_iff]
    refine ⟨lt_of_le_of_lt hk hm, fun other hother => hroles other ?_⟩
    exact (List.take_sublist_take_left (by omega)).subset hother
  rwa [Nat.zero_add] at hkept

/-- Where every signed block has an artifact that refers to it, the blocks are in place. By strong
induction on the message: an artifact that refers to a later message than its own would take the
place of the one of its own block. -/
theorem inPlace_of_refersTo {messages : List RawMessage}
    (h : ∀ block ∈ signedBlocks messages, ∃ artifact ∈ thinkingSignatureArtifacts messages,
      ∃ i j, artifact.RefersTo messages block i j) :
    ∀ block ∈ signedBlocks messages, block.InPlace messages := by
  intro block hblock
  induction hm : block.message using Nat.strong_induction_on generalizing block with
  | _ m ih =>
      obtain ⟨artifact, hartifact, i, j, hassociation, hindex, hpath⟩ := h block hblock
      obtain ⟨m', j', thinking, signature, hsigned, rfl⟩ :=
        mem_thinkingSignatureArtifacts.1 hartifact
      obtain ⟨rfl, rfl⟩ := artifactAssociation_inj hassociation
      have hle := conversationFrom_getElem? hindex
      have hkept : m' = m := by
        by_contra hne
        -- the block the artifact comes from is in place already
        have hplace := ih m' (by omega) ⟨m', [j'], thinking, signature⟩
          (mem_signedBlocks_singleton.2 hsigned) rfl
        obtain ⟨-, -, -, hsame⟩ := hplace.signedAt (mem_signedBlocks_singleton.2 hsigned)
        rw [hsame m' le_rfl] at hindex
        injection hindex with heq
        omega
      subst hkept
      refine ⟨by rw [hpath]; rfl, ?_⟩
      rw [hm]
      refine (conversationFrom_eq_iff (n := 0)).1 ?_ |>.2
      rw [Nat.zero_add, hindex, hm]

/-- The signatures of an accepted request are attached to their blocks exactly when each signed
block stands directly in a message and no message up to there has the system role. -/
theorem signaturesAttached_iff (hraw : rawMessagesRequest raw = some value)
    (h : decodeAnthropicRequest environment raw headers = .ok decoded) :
    SignaturesAttached value.messages decoded.request ↔
      ∀ block ∈ signedBlocks value.messages, block.InPlace value.messages := by
  obtain ⟨hartifacts, -⟩ := decoded_eq hraw h
  constructor
  · intro hattached
    refine inPlace_of_refersTo fun block hblock => ?_
    obtain ⟨artifact, ⟨hartifact, hrefers⟩, -⟩ := hattached.each block hblock
    exact ⟨artifact, hartifacts ▸ hartifact, hrefers⟩
  · intro hplaces
    refine ⟨?_, ?_, ?_⟩
    · intro artifact hartifact
      rw [hartifacts] at hartifact
      obtain ⟨m, j, thinking, signature, hsigned, rfl⟩ :=
        mem_thinkingSignatureArtifacts.1 hartifact
      have hmem := mem_signedBlocks_singleton.2 hsigned
      obtain ⟨-, -, -, hkept⟩ := (hplaces _ hmem).signedAt hmem
      exact ⟨_, hmem, m, j, ⟨rfl, hkept m le_rfl, rfl⟩, rfl,
        getElem?_reasoning hraw h (hkept m le_rfl) hsigned⟩
    · intro block hmem
      obtain ⟨j, hpath, hsigned, hkept⟩ := (hplaces block hmem).signedAt hmem
      rw [hartifacts]
      refine ⟨⟨.anthropicThinkingSignature, artifactAssociation block.message j, block.signature⟩,
        ⟨mem_thinkingSignatureArtifacts.2 ⟨_, j, _, _, hsigned, rfl⟩,
          block.message, j, rfl, hkept _ le_rfl, hpath⟩, ?_⟩
      rintro other ⟨hother, i, j', hassociation, hindex, hpath'⟩
      have hsamePath : j' = j := by
        rw [hpath] at hpath'
        injection hpath' with hj
        exact hj.symm
      have hsame : i = block.message := by
        have hle := conversationFrom_getElem? hindex
        rw [hkept i (by omega)] at hindex
        injection hindex
      obtain ⟨m, k, thinking, signature, hsigned', rfl⟩ :=
        mem_thinkingSignatureArtifacts.1 hother
      obtain ⟨rfl, rfl⟩ := artifactAssociation_inj hassociation
      subst hsame hsamePath
      rw [hsigned.unique hsigned']
    · rw [hartifacts]
      refine (pairwise_association value.messages).imp ?_
      intro artifact other hne heq
      exact hne (congrArg OpaqueArtifact.association heq)

end Decoded

/-! ## A message of the system role -/

/-- A thinking block with a signature. -/
def signedThinking : Json :=
  .obj [("type", .str "thinking"), ("thinking", .str "first this"), ("signature", .str "sealed")]

/-- A request with these messages. -/
def messagesBody (messages : List (String × Json)) : Json :=
  .obj [("model", .str "fixture-model"), ("max_tokens", .num 1),
    ("messages", .arr (messages.map fun message =>
      .obj [("role", .str message.1), ("content", message.2)]))]

def plainEnvironment : DecoderEnvironment := ⟨isoRuntime, "request-1", fun _ => []⟩

/-- With a message of the system role in front, the artifact names a message that is not there. -/
theorem not_signaturesAttached_of_system : ∃ value decoded,
    rawMessagesRequest (messagesBody [("system", .str "be brief"),
        ("assistant", .arr [signedThinking])]) = some value ∧
      decodeAnthropicRequest plainEnvironment (messagesBody [("system", .str "be brief"),
        ("assistant", .arr [signedThinking])]) [] = .ok decoded ∧
      ¬ SignaturesAttached value.messages decoded.request := by
  refine ⟨_, _, rfl, rfl, ?_⟩
  intro h
  obtain ⟨block, -, i, j, ⟨hassociation, hindex, -⟩, -⟩ :=
    h.refers ⟨.anthropicThinkingSignature, "1:0", "sealed"⟩ (by decide)
  obtain ⟨rfl, rfl⟩ := artifactAssociation_inj (i := 1) (j := 0) hassociation
  cases hindex

/-- After a message of the user, it is attached. -/
theorem signaturesAttached_after_user : ∃ value decoded,
    rawMessagesRequest (messagesBody [("user", .str "hello"),
        ("assistant", .arr [signedThinking])]) = some value ∧
      decodeAnthropicRequest plainEnvironment (messagesBody [("user", .str "hello"),
        ("assistant", .arr [signedThinking])]) [] = .ok decoded ∧
      SignaturesAttached value.messages decoded.request := by
  have hraw : ∃ value, rawMessagesRequest (messagesBody [("user", .str "hello"),
      ("assistant", .arr [signedThinking])]) = some value := ⟨_, rfl⟩
  have hdecoded : ∃ decoded, decodeAnthropicRequest plainEnvironment (messagesBody
      [("user", .str "hello"), ("assistant", .arr [signedThinking])]) [] = .ok decoded := ⟨_, rfl⟩
  obtain ⟨value, hvalue⟩ := hraw
  obtain ⟨decoded, hdecoded⟩ := hdecoded
  refine ⟨value, decoded, hvalue, hdecoded, (signaturesAttached_iff hvalue hdecoded).2 ?_⟩
  cases hvalue
  intro block hblock
  have hone : block = ⟨1, [0], "first this", "sealed"⟩ := List.mem_singleton.1 hblock
  subst hone
  refine ⟨rfl, ?_⟩
  decide

end RlyGateway
