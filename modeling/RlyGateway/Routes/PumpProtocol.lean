import RlyGateway.Library.Fallible
import RlyGateway.Protocols.OpenAiResponses.Encoder
import RlyGateway.Routes.StreamPump

/-!
# What a pump guarantees

The chunks of a pump are the encoder's frames for the events it pulled, in order, and at most one
last frame. Nothing follows a cancellation, and `onComplete` runs only behind a complete stream.
A recorded timeout is told to the client only through the pump's `catch` block: where the source or
`onComplete` ends without an error all the same, no timeout frame is sent.
-/

namespace RlyGateway

variable {State Wire Failure : Type}

/-! ## The protocol -/

/-- The event an entry hands to the loop. -/
def PumpEntry.event? : PumpEntry → Option CanonicalEvent
  | .pulled event => some event
  | _ => none

/-- The chunk of an entry. -/
def PumpEntry.chunk? : PumpEntry → Option PumpChunk
  | .yielded chunk => some chunk
  | _ => none

/-- The entry reports the end of the stream. -/
def PumpEntry.isFinished : PumpEntry → Bool
  | .onFinished _ => true
  | _ => false

/-- The events that were pulled from the source. -/
def pulledEvents (history : List PumpEntry) : List CanonicalEvent :=
  history.filterMap PumpEntry.event?

/-- The chunks that were yielded. -/
def yieldedChunks (history : List PumpEntry) : List PumpChunk :=
  history.filterMap PumpEntry.chunk?

/-- The frames of events that are pushed one after the other, and the encoder's state. -/
def IncrementalEncoder.encode (encoder : IncrementalEncoder State Wire Failure) :
    State → List CanonicalEvent → Except Failure (List Wire × State)
  | state, [] => .ok ([], state)
  | state, event :: events => do
      let (frames, state) ← encoder.push state event
      let (rest, state) ← encode encoder state events
      return (frames ++ rest, state)

/-- The pump's timeout was recorded. -/
def PumpState.TimedOut (s : PumpState State Wire Failure) : Prop :=
  ∃ category, s.lifecycle.terminal = some (.timeout category)

/-- Nothing cut the loop short between two frames. -/
def PumpState.Uncut (s : PumpState State Wire Failure) : Prop :=
  .terminated .cancelled ∉ s.history ∧ .left ∉ s.history

namespace StreamPumpOptions

variable (options : StreamPumpOptions State Wire Failure)

/-- The chunks of frames. -/
def frameChunks (frames : List Wire) : List PumpChunk :=
  frames.map fun wire => .frame (options.frame wire)

/-- What may follow a history. No chunk follows a cancellation. `onComplete` follows the end of the
source where nothing was terminated, every event was encoded, every frame yielded, and the
encoder's check passed. -/
def Allowed (before : List PumpEntry) : PumpEntry → Prop
  | .yielded _ => .terminated .cancelled ∉ before
  | .onComplete => .exhausted ∈ before ∧ (∀ terminal, .terminated terminal ∉ before) ∧
      ∃ frames state,
        options.encoder.encode options.initial (pulledEvents before) = .ok (frames, state) ∧
        options.encoder.finish state = .ok () ∧
        yieldedChunks before = options.frameChunks frames
  | _ => True

/-- The chunks are the encoder's frames for the first of the pulled events, in order, and at most
one last chunk. At the end no frame of these events is missing, unless the loop was cut short. -/
def FramesInOrder (s : PumpState State Wire Failure) : Prop :=
  ∃ events frames state kept tail,
    events <+: pulledEvents s.history ∧
    options.encoder.encode options.initial events = .ok (frames, state) ∧
    kept <+: frames ∧
    yieldedChunks s.history = options.frameChunks kept ++ tail ∧
    tail.length ≤ 1 ∧ (∀ chunk ∈ tail, chunk.isLast) ∧
    (s.control = .done → s.Uncut → kept = frames)

/-- What a pump guarantees its consumer and its caller. -/
structure PumpProtocol (s : PumpState State Wire Failure) : Prop where
  frames : options.FramesInOrder s
  lawful : List.Lawful options.Allowed s.history
  timeout : s.control = .done → s.TimedOut →
    (yieldedChunks s.history).countP PumpChunk.isTimeout = 1
  finished : s.control = .done → s.history.countP PumpEntry.isFinished = 1

end StreamPumpOptions

/-- The steps that break the protocol: the consumer leaves before it asks for a chunk; after a
timeout the source ends, or is closed, without an error, or `onComplete` returns; or a timer fires
while the last chunk of a failure is waiting to be taken. -/
def PumpState.Breaks (s : PumpState State Wire Failure) : PumpInput Failure → Prop
  | .consumerReturn | .consumerThrow _ => s.control = .created
  | .sourceDone => s.TimedOut
  | .sourceClosed => s.control = .closing .broken ∧ s.TimedOut
  | .onCompleteDone => s.TimedOut
  | .setupTimeout | .idleTimeout => s.control = .yieldingLast ∧ s.lifecycle.terminal = none
  | _ => False

/-! ## The invariant -/

theorem pulledEvents_concat (history : List PumpEntry) (entry : PumpEntry) :
    pulledEvents (history ++ [entry]) = pulledEvents history ++ entry.event?.toList := by
  rw [pulledEvents, List.filterMap_append, List.filterMap_cons]
  cases entry.event? <;> rfl

theorem yieldedChunks_concat (history : List PumpEntry) (entry : PumpEntry) :
    yieldedChunks (history ++ [entry]) = yieldedChunks history ++ entry.chunk?.toList := by
  rw [yieldedChunks, List.filterMap_append, List.filterMap_cons]
  cases entry.chunk? <;> rfl

/-- The frames of one more event follow those of the others. -/
theorem IncrementalEncoder.encode_concat {encoder : IncrementalEncoder State Wire Failure}
    {first state state' : State} {events : List CanonicalEvent} {event : CanonicalEvent}
    {frames frames' : List Wire} (h : encoder.encode first events = .ok (frames, state))
    (hpush : encoder.push state event = .ok (frames', state')) :
    encoder.encode first (events ++ [event]) = .ok (frames ++ frames', state') := by
  induction events generalizing first frames with
  | nil =>
      cases h
      rw [List.nil_append, encode, hpush]
      simp [encode, bind, Except.bind, pure, Except.pure]
  | cons head events ih =>
      obtain ⟨⟨headFrames, headState⟩, hhead, hrest⟩ := Except.bind_eq_ok.1 h
      obtain ⟨⟨restFrames, restState⟩, hencode, hsame⟩ := Except.bind_eq_ok.1 hrest
      cases hsame
      rw [List.cons_append, encode, hhead]
      show (encode encoder headState (events ++ [event]) >>= _) = _
      rw [ih hencode]
      show Except.ok _ = _
      rw [List.append_assoc]

/-- A pump whose stream has not ended: its lifecycle is not finished, and it knows what was
recorded. -/
structure PumpState.Live (s : PumpState State Wire Failure) : Prop where
  unfinished : s.lifecycle.finished = false
  unreported : s.history.countP PumpEntry.isFinished = 0
  recorded : ∀ terminal, .terminated terminal ∈ s.history ↔ s.lifecycle.terminal = some terminal
  terminal : s.lifecycle.terminal = none ∨ s.lifecycle.terminal = some .cancelled ∨ s.TimedOut

/-- No timeout was recorded, and none will be as long as the timers are off. -/
structure PumpState.Untimed (s : PumpState State Wire Failure) : Prop where
  setupTimer : s.lifecycle.setupTimer = false
  idleTimer : s.lifecycle.idleTimer = false
  notTimedOut : ¬ s.TimedOut

/-- What a pump has sent: the kept frames of some of the events it pulled, and a tail. -/
structure Carried (options : StreamPumpOptions State Wire Failure)
    (s : PumpState State Wire Failure) (events : List CanonicalEvent) (frames kept : List Wire)
    (tail : List PumpChunk) : Prop where
  pulled : events <+: pulledEvents s.history
  encoded : options.encoder.encode options.initial events = .ok (frames, s.encoder)
  first : kept <+: frames
  chunks : yieldedChunks s.history = options.frameChunks kept ++ tail
  lawful : List.Lawful options.Allowed s.history

/-- What more is known where the pump is suspended. -/
def Stage (s : PumpState State Wire Failure) (events : List CanonicalEvent)
    (frames kept : List Wire) (tail : List PumpChunk) : PumpControl Wire Failure → Prop
  | .created | .pulling => s.Live ∧ tail = [] ∧ events = pulledEvents s.history ∧
      .left ∉ s.history ∧ (.terminated .cancelled ∉ s.history → kept = frames)
  | .yielding rest => s.Live ∧ tail = [] ∧ events = pulledEvents s.history ∧ .left ∉ s.history ∧
      kept ++ rest = frames ∧ s.Untimed
  | .closing .broken => s.Live ∧ tail = [] ∧ (s.Uncut → kept = frames) ∧
      s.lifecycle.terminal.isSome
  | .closing _ => s.Live ∧ tail = [] ∧ (s.Uncut → kept = frames) ∧ s.Untimed
  | .completing => s.Live ∧ tail = [] ∧ kept = frames ∧ s.cleanEnd = true
  | .yieldingLast => s.Live ∧ (s.Uncut → kept = frames) ∧ s.cleanEnd = false ∧
      ∃ chunk, tail = [chunk] ∧ chunk.isLast ∧ (chunk.isTimeout → s.TimedOut)
  | .done => (s.Uncut → kept = frames) ∧ tail.length ≤ 1 ∧ (∀ chunk ∈ tail, chunk.isLast) ∧
      (s.lifecycle.terminal = none → s.history.countP PumpEntry.isFinished = 0)

/-- The invariant of a pump. -/
def PumpInvariant (options : StreamPumpOptions State Wire Failure)
    (s : PumpState State Wire Failure) : Prop :=
  ∃ events frames kept tail, Carried options s events frames kept tail ∧
    Stage s events frames kept tail s.control

/-- The number of timeout frames yielded. -/
def timeoutCount (history : List PumpEntry) : ℕ :=
  (yieldedChunks history).countP PumpChunk.isTimeout

/-- So far a timeout was told to the client, or can still be, where the pump is suspended. -/
def PumpState.TimelyAt (s : PumpState State Wire Failure) : PumpControl Wire Failure → Prop
  | .yieldingLast => s.TimedOut → timeoutCount s.history = 1
  | .done => (s.TimedOut → timeoutCount s.history = 1) ∧
      s.history.countP PumpEntry.isFinished = 1
  | _ => True

/-- So far a timeout was told to the client, or can still be. -/
def PumpState.Timely (s : PumpState State Wire Failure) : Prop := s.TimelyAt s.control

/-! ## Keeping the invariant -/

section

variable {options : StreamPumpOptions State Wire Failure} {s s' : PumpState State Wire Failure}
  {events : List CanonicalEvent} {frames kept : List Wire} {tail : List PumpChunk}

theorem Carried.timeoutCount_eq (h : Carried options s events frames kept tail) :
    timeoutCount s.history = tail.countP PumpChunk.isTimeout := by
  have hnone : (options.frameChunks kept).countP PumpChunk.isTimeout = 0 := by
    rw [StreamPumpOptions.frameChunks, List.countP_map, List.countP_eq_zero]
    intro wire _
    simp [PumpChunk.isTimeout]
  rw [timeoutCount, h.chunks, List.countP_append, hnone, Nat.zero_add]

/-- An entry without a chunk. -/
theorem Carried.note (h : Carried options s events frames kept tail) {entry : PumpEntry}
    (hhistory : s'.history = s.history ++ [entry]) (hencoder : s'.encoder = s.encoder)
    (hchunk : entry.chunk? = none) (hallowed : options.Allowed s.history entry) :
    Carried options s' events frames kept tail where
  pulled := by
    rw [hhistory, pulledEvents_concat]
    exact h.pulled.trans (List.prefix_append _ _)
  encoded := by
    rw [hencoder]
    exact h.encoded
  first := h.first
  chunks := by
    rw [hhistory, yieldedChunks_concat, hchunk, Option.toList_none, List.append_nil]
    exact h.chunks
  lawful := by
    rw [hhistory]
    exact List.lawful_concat.2 ⟨h.lawful, hallowed⟩

/-- The last chunk. -/
theorem Carried.last (h : Carried options s events frames kept []) {chunk : PumpChunk}
    (hhistory : s'.history = s.history ++ [.yielded chunk]) (hencoder : s'.encoder = s.encoder)
    (hcancelled : .terminated .cancelled ∉ s.history) :
    Carried options s' events frames kept [chunk] where
  pulled := by
    rw [hhistory, pulledEvents_concat]
    exact h.pulled.trans (List.prefix_append _ _)
  encoded := by
    rw [hencoder]
    exact h.encoded
  first := h.first
  chunks := by
    rw [hhistory, yieldedChunks_concat, h.chunks, List.append_nil]
    rfl
  lawful := by
    rw [hhistory]
    exact List.lawful_concat.2 ⟨h.lawful, hcancelled⟩

/-- One more frame. -/
theorem Carried.frame (h : Carried options s events frames kept []) {wire : Wire}
    (hfirst : kept ++ [wire] <+: frames)
    (hhistory : s'.history = s.history ++ [.yielded (.frame (options.frame wire))])
    (hencoder : s'.encoder = s.encoder) (hcancelled : .terminated .cancelled ∉ s.history) :
    Carried options s' events frames (kept ++ [wire]) [] where
  pulled := (h.last hhistory hencoder hcancelled).pulled
  encoded := (h.last hhistory hencoder hcancelled).encoded
  first := hfirst
  chunks := by
    rw [(h.last hhistory hencoder hcancelled).chunks, StreamPumpOptions.frameChunks,
      StreamPumpOptions.frameChunks, List.map_append, List.append_nil]
    rfl
  lawful := (h.last hhistory hencoder hcancelled).lawful

/-- An entry that is neither a terminal condition nor the final report. -/
theorem PumpState.Live.note (h : s.Live) {entry : PumpEntry}
    (hhistory : s'.history = s.history ++ [entry])
    (hfinished : s'.lifecycle.finished = s.lifecycle.finished)
    (hterminal : s'.lifecycle.terminal = s.lifecycle.terminal)
    (hreport : entry.isFinished = false) (hother : ∀ terminal, entry ≠ .terminated terminal) :
    s'.Live where
  unfinished := hfinished.trans h.unfinished
  unreported := by
    rw [hhistory, List.countP_append, h.unreported, List.countP_singleton, hreport]
    rfl
  recorded := by
    intro terminal
    rw [hhistory, hterminal, ← h.recorded terminal, List.mem_append, List.mem_singleton]
    exact or_iff_left (hother terminal).symm
  terminal := by
    have hcases := h.terminal
    unfold PumpState.TimedOut at *
    rwa [hterminal]

theorem Carried.of_eq (h : Carried options s events frames kept tail)
    (hhistory : s'.history = s.history) (hencoder : s'.encoder = s.encoder) :
    Carried options s' events frames kept tail := by
  obtain ⟨hpulled, hencoded, hfirst, hchunks, hlawful⟩ := h
  rw [← hhistory] at hpulled hchunks hlawful
  rw [← hencoder] at hencoded
  exact ⟨hpulled, hencoded, hfirst, hchunks, hlawful⟩

theorem PumpState.Live.of_eq (h : s.Live) (hhistory : s'.history = s.history)
    (hfinished : s'.lifecycle.finished = s.lifecycle.finished)
    (hterminal : s'.lifecycle.terminal = s.lifecycle.terminal) : s'.Live where
  unfinished := hfinished.trans h.unfinished
  unreported := hhistory ▸ h.unreported
  recorded := by
    intro terminal
    rw [hhistory, hterminal]
    exact h.recorded terminal
  terminal := by
    have hcases := h.terminal
    unfold PumpState.TimedOut at *
    rwa [hterminal]

theorem PumpState.Live.not_cancelled (h : s.Live) (hterminal : s.lifecycle.terminal = none) :
    .terminated .cancelled ∉ s.history := by
  rw [h.recorded, hterminal]
  exact nofun

/-- The `finally` block ends the stream. A recorded timeout must have been told before. -/
theorem inv_finalize (h : Carried options s events frames kept tail) (hlive : s.Live)
    (hsettled : s.Uncut → kept = frames) (hlength : tail.length ≤ 1)
    (hlast : ∀ chunk ∈ tail, chunk.isLast) (cleanEnd : Bool) :
    PumpInvariant options (StreamPumpOptions.finalize { s with cleanEnd }) ∧
      ((StreamPumpOptions.finalize { s with cleanEnd }).Timely ↔
        (s.TimedOut → timeoutCount s.history = 1)) := by
  have hfinish := StreamLifecycle.finish_of_unfinished hlive.unfinished (!cleanEnd) cleanEnd
  set last := StreamPumpOptions.finalize { s with cleanEnd }
  have hterminal : last.lifecycle.terminal =
      some (StreamLifecycle.finalTerminal s.lifecycle.terminal (!cleanEnd) cleanEnd) := by
    show (s.lifecycle.finish (!cleanEnd) cleanEnd).terminal = _
    rw [hfinish]
  have hcarried : Carried options last events frames kept tail := h.note rfl rfl rfl trivial
  constructor
  · refine ⟨events, frames, kept, tail, hcarried, ?_, hlength, hlast, ?_⟩
    · rintro ⟨hcancelled, hleft⟩
      exact hsettled ⟨fun hmem => hcancelled (List.mem_append_left _ hmem),
        fun hmem => hleft (List.mem_append_left _ hmem)⟩
    · intro hnone
      cases hterminal.symm.trans hnone
  · have htimed : last.TimedOut ↔ s.TimedOut := by
      unfold PumpState.TimedOut
      rw [hterminal]
      exact exists_congr fun category => by
        rw [Option.some.injEq, StreamLifecycle.finalTerminal_eq_timeout]
    have hreports : last.history.countP PumpEntry.isFinished = 1 := by
      show (s.history ++ [_]).countP PumpEntry.isFinished = 1
      rw [List.countP_append, hlive.unreported]
      rfl
    show (_ → _) ∧ _ ↔ _
    rw [hcarried.timeoutCount_eq, h.timeoutCount_eq, htimed]
    exact and_iff_left hreports

/-- The last chunk of a failure, which is a timeout frame exactly after a timeout. -/
theorem inv_sendLast (h : Carried options s events frames kept []) (hlive : s.Live)
    (hsettled : s.Uncut → kept = frames) (hcancelled : s.lifecycle.terminal ≠ some .cancelled)
    {chunk : PumpChunk} (hlast : chunk.isLast) (htimed : chunk.isTimeout ↔ s.TimedOut) :
    PumpInvariant options (s.sendLast chunk) ∧ (s.sendLast chunk).Timely := by
  have hsilent : .terminated .cancelled ∉ s.history := by rwa [hlive.recorded]
  have hcarried : Carried options (s.sendLast chunk) events frames kept [chunk] :=
    h.last rfl rfl hsilent
  have hkept : (s.sendLast chunk).Uncut → kept = frames := by
    rintro ⟨-, hleft⟩
    exact hsettled ⟨hsilent, fun hmem => hleft (List.mem_append_left _ hmem)⟩
  refine ⟨⟨events, frames, kept, _, hcarried, ?_, hkept, rfl, _, rfl, hlast, htimed.1⟩, ?_⟩
  · exact hlive.note rfl rfl rfl rfl nofun
  · intro htimedOut
    rw [hcarried.timeoutCount_eq, List.countP_singleton, htimed.2 htimedOut]
    rfl

/-- A failure ends with an error frame, a timeout frame, or nothing after a cancellation. -/
theorem inv_handle (h : Carried options s events frames kept []) (hlive : s.Live)
    (hsettled : s.Uncut → kept = frames) (failure : Failure) :
    PumpInvariant options (options.handle s failure) ∧ (options.handle s failure).Timely := by
  unfold StreamPumpOptions.handle
  rcases hlive.terminal with hterminal | hterminal | ⟨category, hterminal⟩
  · rw [hterminal]
    have hnot : ¬ s.TimedOut := by
      rintro ⟨category, htimed⟩
      cases hterminal.symm.trans htimed
    exact inv_sendLast h hlive hsettled (by rw [hterminal]; exact nofun) rfl
      (iff_of_false nofun hnot)
  · rw [hterminal]
    have hclosed := inv_finalize h hlive hsettled (Nat.zero_le 1) nofun false
    refine ⟨hclosed.1, hclosed.2.2 ?_⟩
    rintro ⟨category, htimed⟩
    cases hterminal.symm.trans htimed
  · rw [hterminal]
    exact inv_sendLast h hlive hsettled (by rw [hterminal]; exact nofun) rfl
      (iff_of_true rfl ⟨category, hterminal⟩)

/-- Behind the loop a stream that was not terminated is checked and completed. -/
theorem inv_afterLoop (h : Carried options s events frames kept []) (hlive : s.Live)
    (hsettled : s.Uncut → kept = frames)
    (hended : s.lifecycle.terminal = none →
      events = pulledEvents s.history ∧ .exhausted ∈ s.history ∧ .left ∉ s.history) :
    PumpInvariant options (options.afterLoop s) ∧
      ((options.afterLoop s).Timely ↔ ¬ s.TimedOut) := by
  unfold StreamPumpOptions.afterLoop
  dsimp only
  cases hterminal : s.lifecycle.terminal with
  | some terminal =>
      rw [if_neg (by simp)]
      have hclosed := inv_finalize h hlive hsettled (Nat.zero_le 1) nofun false
      refine ⟨hclosed.1, hclosed.2.trans ?_⟩
      show (s.TimedOut → timeoutCount s.history = 1) ↔ _
      rw [h.timeoutCount_eq]
      exact ⟨fun hcount htimed => absurd (hcount htimed) nofun,
        fun hnot htimed => absurd htimed hnot⟩
  | none =>
      obtain ⟨rfl, hexhausted, hleft⟩ := hended hterminal
      have hsilent := hlive.not_cancelled hterminal
      have hwhole : kept = frames := hsettled ⟨hsilent, hleft⟩
      have hnot : ¬ s.TimedOut := by
        rintro ⟨category, htimed⟩
        cases hterminal.symm.trans htimed
      rw [if_pos (by simp)]
      set clean : PumpState State Wire Failure := { s with cleanEnd := true } with hclean
      have hcarried : Carried options clean (pulledEvents s.history) frames kept [] :=
        h.of_eq rfl rfl
      have hlive' : clean.Live := hlive.of_eq rfl rfl rfl
      cases hfinish : options.encoder.finish s.encoder with
      | error failure =>
          have hfailed := inv_handle hcarried hlive' hsettled failure
          exact ⟨hfailed.1, iff_of_true hfailed.2 hnot⟩
      | ok checked =>
          dsimp only
          split
          · -- nothing was terminated so far, so everything was sent
            have hallowed : options.Allowed s.history .onComplete := by
              refine ⟨hexhausted, ?_, frames, s.encoder, h.encoded, hfinish, ?_⟩
              · intro terminal
                rw [hlive.recorded, hterminal]
                exact nofun
              · rw [h.chunks, List.append_nil, hwhole]
            refine ⟨⟨_, frames, kept, [], hcarried.note rfl rfl rfl hallowed, ?_, rfl, hwhole, rfl⟩,
              iff_of_true trivial hnot⟩
            exact hlive'.note rfl rfl rfl rfl nofun
          · have hclosed := inv_finalize h hlive hsettled (Nat.zero_le 1) nofun true
            exact ⟨hclosed.1, iff_of_true (hclosed.2.2 fun htimed => absurd htimed hnot) hnot⟩

/-- The frames of an event follow those of the events before it. -/
theorem inv_emitFrames {rest : List Wire}
    (h : Carried options s (pulledEvents s.history) frames kept [])
    (hlive : s.Live) (hleft : .left ∉ s.history) (hrest : kept ++ rest = frames)
    (huntimed : s.Untimed) :
    PumpInvariant options (options.emitFrames s rest) ∧ (options.emitFrames s rest).Timely := by
  have hdone : (kept = frames ∨ s.lifecycle.terminal.isSome) →
      PumpInvariant options ((s.update s.lifecycle.noteEventDone).suspend .pulling) := by
    intro hwhole
    refine ⟨_, frames, kept, [], h.of_eq rfl rfl, ?_, rfl, rfl, hleft, ?_⟩
    · exact hlive.of_eq rfl StreamLifecycle.finished_noteEventDone
        StreamLifecycle.terminal_noteEventDone
    · intro hsilent
      rcases hwhole with hwhole | hsome
      · exact hwhole
      · -- what is recorded is neither a timeout nor a cancellation
        rcases hlive.terminal with hterminal | hterminal | htimed
        · rw [hterminal] at hsome
          cases hsome
        · exact absurd ((hlive.recorded _).2 hterminal) hsilent
        · exact absurd htimed huntimed.notTimedOut
  unfold StreamPumpOptions.emitFrames
  cases rest with
  | nil => exact ⟨hdone (Or.inl (by rwa [List.append_nil] at hrest)), trivial⟩
  | cons wire rest =>
      dsimp only
      split
      · exact ⟨hdone (Or.inr ‹_›), trivial⟩
      · rename_i hrunning
        have hterminal : s.lifecycle.terminal = none := by
          rwa [StreamLifecycle.isTerminated, Option.not_isSome_iff_eq_none] at hrunning
        have hnext : (kept ++ [wire]) ++ rest = frames := by
          rwa [List.append_assoc, List.singleton_append]
        have hframe : Carried options
            ((s.note (.yielded (.frame (options.frame wire)))).suspend (.yielding rest))
            (pulledEvents s.history) frames (kept ++ [wire]) [] :=
          h.frame (hnext ▸ List.prefix_append _ _) rfl rfl (hlive.not_cancelled hterminal)
        refine ⟨⟨_, frames, _, [], hframe, ?_, rfl, ?_, ?_, hnext, ?_⟩, trivial⟩
        · exact hlive.note rfl rfl rfl rfl nofun
        · exact ((pulledEvents_concat _ _).trans (List.append_nil _)).symm
        · show .left ∉ s.history ++ [_]
          simp [hleft]
        · exact ⟨huntimed.setupTimer, huntimed.idleTimer, huntimed.notTimedOut⟩

/-- The body of the loop either sends the event's frames or leaves the loop. -/
theorem inv_consume (h : Carried options s (pulledEvents s.history) frames kept [])
    (hlive : s.Live) (hleft : .left ∉ s.history)
    (hsettled : .terminated .cancelled ∉ s.history → kept = frames) (event : CanonicalEvent) :
    PumpInvariant options (options.consume s event) ∧ (options.consume s event).Timely := by
  have hpulled : Carried options (s.note (.pulled event)) (pulledEvents s.history) frames kept [] :=
    h.note rfl rfl rfl trivial
  have hlive' : (s.note (.pulled event)).Live := hlive.note rfl rfl rfl rfl nofun
  have hkept : (s.note (.pulled event)).Uncut → kept = frames := fun huncut =>
    hsettled fun hmem => huncut.1 (List.mem_append_left _ hmem)
  unfold StreamPumpOptions.consume
  dsimp only
  split
  · rename_i hterminated
    exact ⟨⟨_, frames, kept, [], hpulled.of_eq rfl rfl, hlive'.of_eq rfl rfl rfl, rfl, hkept,
      hterminated⟩, trivial⟩
  · rename_i hrunning
    have hterminal : s.lifecycle.terminal = none := by
      rwa [StreamLifecycle.isTerminated, Option.not_isSome_iff_eq_none] at hrunning
    have hnot : ¬ s.TimedOut := by
      rintro ⟨category, htimed⟩
      cases hterminal.symm.trans htimed
    have hwhole : kept = frames := hsettled (hlive.not_cancelled hterminal)
    split
    · refine ⟨⟨_, frames, kept, [], hpulled.of_eq rfl rfl, ?_, rfl, fun _ => hwhole, rfl, rfl, hnot⟩,
        trivial⟩
      exact hlive'.of_eq rfl rfl rfl
    · rename_i more encoder hpush
      have hevents : pulledEvents (s.note (.pulled event)).history =
          pulledEvents s.history ++ [event] := pulledEvents_concat _ _
      have hmore : Carried options
          { (s.note (.pulled event)).update s.lifecycle.noteEvent with encoder }
          (pulledEvents (s.note (.pulled event)).history) (frames ++ more) kept [] :=
        { pulled := List.prefix_rfl
          encoded := by rw [hevents, IncrementalEncoder.encode_concat h.encoded hpush]
          first := by
            rw [hwhole]
            exact List.prefix_append _ _
          chunks := hpulled.chunks
          lawful := hpulled.lawful }
      refine inv_emitFrames hmore (hlive'.of_eq rfl rfl rfl) ?_ (by rw [hwhole]) ⟨rfl, rfl, hnot⟩
      show .left ∉ s.history ++ [_]
      simp [hleft]

/-- What is known where the pump is suspended still holds after something that neither pulls an event
nor yields a chunk. -/
theorem Stage.mono {control : PumpControl Wire Failure} (h : Stage s events frames kept tail control)
    (hlive : s.Live → s'.Live) (hevents : pulledEvents s'.history = pulledEvents s.history)
    (hleft : .left ∉ s.history → .left ∉ s'.history) (huncut : s'.Uncut → s.Uncut)
    (hcancelled : .terminated .cancelled ∉ s'.history → .terminated .cancelled ∉ s.history)
    (huntimed : s.Untimed → s'.Untimed)
    (hsome : s.lifecycle.terminal.isSome → s'.lifecycle.terminal.isSome)
    (htimed : s.TimedOut → s'.TimedOut) (hclean : s'.cleanEnd = s.cleanEnd)
    (hreport : (s.lifecycle.terminal = none → s.history.countP PumpEntry.isFinished = 0) →
      s'.lifecycle.terminal = none → s'.history.countP PumpEntry.isFinished = 0) :
    Stage s' events frames kept tail control := by
  cases control with
  | created | pulling =>
      obtain ⟨halive, htail, hpulled, hstayed, hsettled⟩ := h
      exact ⟨hlive halive, htail, hpulled.trans hevents.symm, hleft hstayed,
        fun hsilent => hsettled (hcancelled hsilent)⟩
  | yielding rest =>
      obtain ⟨halive, htail, hpulled, hstayed, hrest, hoff⟩ := h
      exact ⟨hlive halive, htail, hpulled.trans hevents.symm, hleft hstayed, hrest, huntimed hoff⟩
  | closing exit =>
      cases exit with
      | broken =>
          obtain ⟨halive, htail, hsettled, hterminated⟩ := h
          exact ⟨hlive halive, htail, fun hcut => hsettled (huncut hcut), hsome hterminated⟩
      | thrown failure | returned =>
          obtain ⟨halive, htail, hsettled, hoff⟩ := h
          exact ⟨hlive halive, htail, fun hcut => hsettled (huncut hcut), huntimed hoff⟩
  | completing =>
      obtain ⟨halive, htail, hwhole, hended⟩ := h
      exact ⟨hlive halive, htail, hwhole, hclean.trans hended⟩
  | yieldingLast =>
      obtain ⟨halive, hsettled, hended, chunk, htail, hlast, htimeout⟩ := h
      exact ⟨hlive halive, fun hcut => hsettled (huncut hcut), hclean.trans hended, chunk, htail,
        hlast, fun hchunk => htimed (htimeout hchunk)⟩
  | done =>
      obtain ⟨hsettled, hlength, hlast, hunreported⟩ := h
      exact ⟨fun hcut => hsettled (huncut hcut), hlength, hlast, hreport hunreported⟩

/-- Counting backpressure and the clock change nothing that the invariant speaks of. -/
theorem PumpInvariant.of_eq (h : PumpInvariant options s) (hcontrol : s'.control = s.control)
    (hhistory : s'.history = s.history) (hencoder : s'.encoder = s.encoder)
    (hclean : s'.cleanEnd = s.cleanEnd)
    (hterminal : s'.lifecycle.terminal = s.lifecycle.terminal)
    (hfinished : s'.lifecycle.finished = s.lifecycle.finished)
    (hsetup : s'.lifecycle.setupTimer = s.lifecycle.setupTimer)
    (hidle : s'.lifecycle.idleTimer = s.lifecycle.idleTimer) :
    PumpInvariant options s' ∧ (s'.Timely ↔ s.Timely) := by
  have htimed : s'.TimedOut ↔ s.TimedOut := by
    unfold PumpState.TimedOut
    rw [hterminal]
  obtain ⟨events, frames, kept, tail, hcarried, hstage⟩ := h
  refine ⟨⟨events, frames, kept, tail, hcarried.of_eq hhistory hencoder, ?_⟩, ?_⟩
  · rw [hcontrol]
    refine hstage.mono (fun hlive => hlive.of_eq hhistory hfinished hterminal)
      (congrArg _ hhistory) ?_ ?_ ?_ ?_ ?_ htimed.2 hclean ?_
    · rw [hhistory]
      exact id
    · unfold PumpState.Uncut
      rw [hhistory]
      exact id
    · rw [hhistory]
      exact id
    · rintro ⟨hsetup', hidle', hnot⟩
      exact ⟨hsetup.trans hsetup', hidle.trans hidle', fun h => hnot (htimed.1 h)⟩
    · rw [hterminal]
      exact id
    · rw [hterminal, hhistory]
      exact id
  · rw [PumpState.Timely, PumpState.Timely, hcontrol]
    cases s.control <;> simp only [PumpState.TimelyAt, hhistory, htimed]

/-- A terminal condition from outside: a cancellation, or a timeout of a timer that can fire. -/
theorem inv_terminate (h : PumpInvariant options s) {terminal : StreamTerminal}
    (hterminal : terminal = .cancelled ∨ ((∃ category, terminal = .timeout category) ∧
      (s.lifecycle.setupTimer = true ∨ s.lifecycle.idleTimer = true))) :
    PumpInvariant options (s.terminate terminal) ∧
      ((s.terminate terminal).Timely ↔ s.Timely ∧
        ¬ (terminal ≠ .cancelled ∧ s.control = .yieldingLast ∧ s.lifecycle.terminal = none)) := by
  unfold PumpState.terminate
  by_cases hrunning : s.lifecycle.isTerminated
  · rw [if_pos hrunning]
    refine ⟨h, (and_iff_left ?_).symm⟩
    rintro ⟨-, -, hnone⟩
    rw [StreamLifecycle.isTerminated, hnone] at hrunning
    cases hrunning
  rw [if_neg hrunning]
  rw [StreamLifecycle.isTerminated, Option.not_isSome_iff_eq_none] at hrunning
  set s' := (s.update (s.lifecycle.terminate terminal)).note (.terminated terminal) with hs'
  have hlifecycle : s'.lifecycle =
      { s.lifecycle.clearTimers with terminal := some terminal, aborted := true } :=
    StreamLifecycle.terminate_of_none hrunning
  have hnot : ¬ s.TimedOut := by
    rintro ⟨category, htimed⟩
    cases hrunning.symm.trans htimed
  obtain ⟨events, frames, kept, tail, hcarried, hstage⟩ := h
  have hcarried' : Carried options s' events frames kept tail := hcarried.note rfl rfl rfl trivial
  have hcancelled : .terminated .cancelled ∉ s'.history → .terminated .cancelled ∉ s.history :=
    fun hsilent hmem => hsilent (List.mem_append_left _ hmem)
  have hleft : .left ∉ s.history → .left ∉ s'.history := by
    intro hstayed
    show .left ∉ s.history ++ [_]
    simp [hstayed]
  have huncut : s'.Uncut → s.Uncut := fun hcut =>
    ⟨hcancelled hcut.1, fun hmem => hcut.2 (List.mem_append_left _ hmem)⟩
  have hevents : pulledEvents s'.history = pulledEvents s.history :=
    (pulledEvents_concat _ _).trans (List.append_nil _)
  have hlive : s.Live → s'.Live := by
    intro hlive
    refine ⟨?_, ?_, ?_, ?_⟩
    · rw [hlifecycle]
      exact hlive.unfinished
    · show (s.history ++ [_]).countP _ = 0
      rw [List.countP_append, hlive.unreported]
      rfl
    · intro other
      show _ ∈ s.history ++ [_] ↔ _
      rw [hlifecycle, List.mem_append, hlive.recorded, hrunning, List.mem_singleton]
      simp [eq_comm]
    · rw [hlifecycle]
      rcases hterminal with rfl | ⟨⟨category, rfl⟩, -⟩
      · exact Or.inr (Or.inl rfl)
      · refine Or.inr (Or.inr ⟨category, ?_⟩)
        rw [hlifecycle]
  have huntimed : s.Untimed → s'.Untimed ∧ terminal = .cancelled := by
    rintro ⟨hsetup, hidle, -⟩
    rcases hterminal with rfl | ⟨-, htimer | htimer⟩
    · refine ⟨⟨by rw [hlifecycle]; rfl, by rw [hlifecycle]; rfl, ?_⟩, rfl⟩
      rintro ⟨category, htimed⟩
      rw [hlifecycle] at htimed
      cases htimed
    · cases hsetup.symm.trans htimer
    · cases hidle.symm.trans htimer
  have hstage' : Stage s' events frames kept tail s.control := by
    refine hstage.mono hlive hevents hleft huncut ?_ (fun hoff => (huntimed hoff).1) ?_ ?_ rfl ?_
    · exact hcancelled
    · intro _
      rw [hlifecycle]
      rfl
    · exact fun htimed => absurd htimed hnot
    · intro _ hnone
      rw [hlifecycle] at hnone
      cases hnone
  refine ⟨⟨events, frames, kept, tail, hcarried', hstage'⟩, ?_⟩
  show s'.TimelyAt s.control ↔ s.TimelyAt s.control ∧ _
  generalize s.control = control at hstage ⊢
  cases control with
  | created | pulling | yielding | closing | completing => simp [PumpState.TimelyAt]
  | yieldingLast =>
      obtain ⟨-, -, -, chunk, rfl, -, htimed⟩ := hstage
      have hnone : timeoutCount s'.history = 0 := by
        rw [hcarried'.timeoutCount_eq, List.countP_singleton, if_neg fun h => hnot (htimed h)]
      have htimed' : s'.TimedOut ↔ terminal ≠ .cancelled := by
        unfold PumpState.TimedOut
        rw [hlifecycle]
        rcases hterminal with rfl | ⟨⟨category, rfl⟩, -⟩ <;> simp
      simp only [PumpState.TimelyAt, hnone, htimed', hrunning, hnot]
      simp
  | done =>
      obtain ⟨-, -, -, hunreported⟩ := hstage
      have hreports : s'.history.countP PumpEntry.isFinished = 0 := by
        show (s.history ++ [_]).countP _ = 0
        rw [List.countP_append, hunreported hrunning]
        rfl
      simp [PumpState.TimelyAt, hreports, hunreported hrunning]

/-- The consumer leaves. Before the start, nothing will be reported. -/
theorem inv_leave (h : PumpInvariant options s) (exit : LoopExit Failure) (hexit : exit ≠ .broken)
    (hstep : StreamPumpOptions.leave s exit = some s') :
    PumpInvariant options s' ∧ (s'.Timely ↔ s.Timely ∧ s.control ≠ .created) := by
  obtain ⟨events, frames, kept, tail, hcarried, hstage⟩ := h
  unfold StreamPumpOptions.leave at hstep
  unfold PumpState.Timely
  have hnote : Carried options (s.note .left) events frames kept tail :=
    hcarried.note rfl rfl rfl trivial
  split at hstep
  case h_1 hcontrol =>
    cases hstep
    rw [hcontrol] at hstage ⊢
    obtain ⟨hlive, rfl, -⟩ := hstage
    have hreports : (s.note .left).history.countP PumpEntry.isFinished = 0 := by
      show (s.history ++ [_]).countP _ = 0
      rw [List.countP_append, hlive.unreported]
      rfl
    refine ⟨⟨events, frames, kept, [], hnote.of_eq rfl rfl, ?_, Nat.zero_le 1, nofun,
      fun _ => hreports⟩, ?_⟩
    · rintro ⟨-, hleft⟩
      exact absurd (List.mem_append_right s.history (List.mem_singleton.2 rfl)) hleft
    · refine iff_of_false ?_ fun hboth => hboth.2 rfl
      rintro ⟨-, hreported⟩
      cases hreports.symm.trans hreported
  case h_2 rest hcontrol =>
    cases hstep
    rw [hcontrol] at hstage ⊢
    obtain ⟨hlive, rfl, -, -, -, huntimed⟩ := hstage
    have hlive' : (s.note .left).Live := hlive.note rfl rfl rfl rfl nofun
    have hcut : ((s.note .left).suspend (.closing exit)).Uncut → kept = frames := by
      rintro ⟨-, hleft⟩
      exact absurd (List.mem_append_right s.history (List.mem_singleton.2 rfl)) hleft
    refine ⟨⟨events, frames, kept, [], hnote.of_eq rfl rfl, ?_⟩, ?_⟩
    · cases exit with
      | broken => exact absurd rfl hexit
      | thrown failure | returned =>
          exact ⟨hlive'.of_eq rfl rfl rfl, rfl, hcut,
            huntimed.setupTimer, huntimed.idleTimer, huntimed.notTimedOut⟩
    · exact iff_of_true trivial ⟨trivial, nofun⟩
  case h_3 hcontrol =>
    cases hstep
    rw [hcontrol] at hstage ⊢
    obtain ⟨hlive, hsettled, hclean, chunk, rfl, hlast, -⟩ := hstage
    have hclosed := inv_finalize hcarried hlive hsettled (Nat.le_refl 1)
      (by simpa using hlast) s.cleanEnd
    exact ⟨hclosed.1, hclosed.2.trans (and_iff_left nofun).symm⟩
  case h_4 => cases hstep

theorem PumpState.timely_of {control : PumpControl Wire Failure} (hcontrol : s.control = control)
    (h : s.TimelyAt control) : s.Timely := by
  rwa [PumpState.Timely, hcontrol]

/-- What is known while the source is awaited. -/
theorem PumpInvariant.pulling (h : PumpInvariant options s) (hcontrol : s.control = .pulling) :
    ∃ frames kept, Carried options s (pulledEvents s.history) frames kept [] ∧ s.Live ∧
      .left ∉ s.history ∧ (.terminated .cancelled ∉ s.history → kept = frames) := by
  obtain ⟨events, frames, kept, tail, hcarried, hstage⟩ := h
  rw [hcontrol] at hstage
  obtain ⟨hlive, rfl, rfl, hleft, hsettled⟩ := hstage
  exact ⟨frames, kept, hcarried, hlive, hleft, hsettled⟩

/-- The source answers. -/
theorem inv_sourceDone (h : PumpInvariant options s) (hcontrol : s.control = .pulling) :
    PumpInvariant options (options.afterLoop (s.note .exhausted)) ∧
      ((options.afterLoop (s.note .exhausted)).Timely ↔ ¬ s.TimedOut) := by
  obtain ⟨frames, kept, hcarried, hlive, hleft, hsettled⟩ := h.pulling hcontrol
  have hended : Carried options (s.note .exhausted) (pulledEvents s.history) frames kept [] :=
    hcarried.note rfl rfl rfl trivial
  refine inv_afterLoop hended (hlive.note rfl rfl rfl rfl nofun)
    (fun hcut => hsettled fun hmem => hcut.1 (List.mem_append_left _ hmem)) fun _ => ⟨?_, ?_, ?_⟩
  · exact ((pulledEvents_concat _ _).trans (List.append_nil _)).symm
  · exact List.mem_append_right s.history (List.mem_singleton.2 rfl)
  · show .left ∉ s.history ++ [_]
    simp [hleft]

/-- The source is closed. Only a loop that was broken off goes on behind the loop. -/
theorem inv_afterClose (h : PumpInvariant options s) {exit : LoopExit Failure}
    (hcontrol : s.control = .closing exit) :
    PumpInvariant options (options.afterClose s exit) ∧
      ((options.afterClose s exit).Timely ↔ ¬ (exit = .broken ∧ s.TimedOut)) := by
  obtain ⟨events, frames, kept, tail, hcarried, hstage⟩ := h
  rw [hcontrol] at hstage
  cases exit with
  | broken =>
      obtain ⟨hlive, rfl, hsettled, hsome⟩ := hstage
      have hnext := inv_afterLoop hcarried hlive hsettled (by
        intro hnone
        rw [hnone] at hsome
        cases hsome)
      exact ⟨hnext.1, hnext.2.trans (not_congr (and_iff_right rfl).symm)⟩
  | thrown failure =>
      obtain ⟨hlive, rfl, hsettled, -⟩ := hstage
      have hnext := inv_handle hcarried hlive hsettled failure
      exact ⟨hnext.1, iff_of_true hnext.2 nofun⟩
  | returned =>
      obtain ⟨hlive, rfl, hsettled, huntimed⟩ := hstage
      have hnext := inv_finalize hcarried hlive hsettled (Nat.zero_le 1) nofun s.cleanEnd
      have htold := hnext.2.2 fun htimed => absurd htimed huntimed.notTimedOut
      exact ⟨hnext.1, iff_of_true htold nofun⟩

/-- The source throws when it is closed. -/
theorem inv_afterCloseThrow (h : PumpInvariant options s) {exit : LoopExit Failure}
    (hcontrol : s.control = .closing exit) (failure : Failure) :
    PumpInvariant options (options.afterCloseThrow s failure exit) ∧
      (options.afterCloseThrow s failure exit).Timely := by
  obtain ⟨events, frames, kept, tail, hcarried, hstage⟩ := h
  rw [hcontrol] at hstage
  have hcommon : s.Live ∧ tail = [] ∧ (s.Uncut → kept = frames) := by
    cases exit <;> exact ⟨hstage.1, hstage.2.1, hstage.2.2.1⟩
  obtain ⟨hlive, rfl, hsettled⟩ := hcommon
  cases exit <;> exact inv_handle hcarried hlive hsettled _

/-- The consumer asks for more. -/
theorem inv_consumerNext (h : PumpInvariant options s)
    (hstep : options.step s .consumerNext = some s') :
    PumpInvariant options s' ∧ (s'.Timely ↔ s.Timely) := by
  obtain ⟨events, frames, kept, tail, hcarried, hstage⟩ := h
  rw [StreamPumpOptions.step] at hstep
  split at hstep
  case h_1 hcontrol =>
    cases hstep
    rw [hcontrol] at hstage
    obtain ⟨hlive, hstage⟩ := hstage
    refine ⟨⟨events, frames, kept, tail, hcarried.of_eq rfl rfl, hlive.of_eq rfl rfl rfl, hstage⟩, ?_⟩
    exact iff_of_true trivial (PumpState.timely_of hcontrol trivial)
  case h_2 rest hcontrol =>
    cases hstep
    rw [hcontrol] at hstage
    obtain ⟨hlive, rfl, rfl, hleft, hrest, huntimed⟩ := hstage
    have hnoted : Carried options (s.update s.lifecycle.noteFrame) (pulledEvents s.history) frames
        kept [] := hcarried.of_eq rfl rfl
    have hnext := inv_emitFrames hnoted (hlive.of_eq rfl rfl rfl) hleft hrest
      ⟨huntimed.setupTimer, huntimed.idleTimer, huntimed.notTimedOut⟩
    exact ⟨hnext.1, iff_of_true hnext.2 (PumpState.timely_of hcontrol trivial)⟩
  case h_3 hcontrol =>
    cases hstep
    rw [hcontrol] at hstage
    obtain ⟨hlive, hsettled, hclean, chunk, rfl, hlast, -⟩ := hstage
    have hnext := inv_finalize hcarried hlive hsettled (Nat.le_refl 1) (by simpa using hlast)
      s.cleanEnd
    rw [PumpState.Timely, PumpState.Timely, hcontrol]
    exact hnext
  case h_4 => cases hstep

/-- `onComplete` returns. -/
theorem inv_onCompleteDone (h : PumpInvariant options s) (hcontrol : s.control = .completing) :
    PumpInvariant options (StreamPumpOptions.finalize s) ∧
      ((StreamPumpOptions.finalize s).Timely ↔ ¬ s.TimedOut) := by
  obtain ⟨events, frames, kept, tail, hcarried, hstage⟩ := h
  rw [hcontrol] at hstage
  obtain ⟨hlive, rfl, hwhole, -⟩ := hstage
  have hnext := inv_finalize hcarried hlive (fun _ => hwhole) (Nat.zero_le 1) nofun s.cleanEnd
  refine ⟨hnext.1, hnext.2.trans ?_⟩
  rw [hcarried.timeoutCount_eq]
  exact ⟨fun hcount htimed => absurd (hcount htimed) nofun,
    fun hnot htimed => absurd htimed hnot⟩

/-- Every step keeps the invariant, and a timeout is still told to the client unless the step breaks
the protocol. -/
theorem inv_step (h : PumpInvariant options s) {input : PumpInput Failure}
    (hstep : options.step s input = some s') :
    PumpInvariant options s' ∧ (s'.Timely ↔ s.Timely ∧ ¬ s.Breaks input) := by
  cases input with
  | sourceEvent event =>
      rw [StreamPumpOptions.step] at hstep
      split at hstep
      case h_2 => cases hstep
      case h_1 hcontrol =>
        cases hstep
        obtain ⟨frames, kept, hcarried, hlive, hleft, hsettled⟩ := h.pulling hcontrol
        have hnext := inv_consume hcarried hlive hleft hsettled event
        exact ⟨hnext.1, iff_of_true hnext.2 ⟨PumpState.timely_of hcontrol trivial, nofun⟩⟩
  | sourceDone =>
      rw [StreamPumpOptions.step] at hstep
      split at hstep
      case h_2 => cases hstep
      case h_1 hcontrol =>
        cases hstep
        have hnext := inv_sourceDone h hcontrol
        exact ⟨hnext.1, hnext.2.trans
          (and_iff_right (PumpState.timely_of hcontrol trivial)).symm⟩
  | sourceThrow failure =>
      rw [StreamPumpOptions.step] at hstep
      split at hstep
      case h_2 => cases hstep
      case h_1 hcontrol =>
        cases hstep
        obtain ⟨frames, kept, hcarried, hlive, -, hsettled⟩ := h.pulling hcontrol
        have hnext := inv_handle hcarried hlive (fun hcut => hsettled hcut.1) failure
        exact ⟨hnext.1, iff_of_true hnext.2 ⟨PumpState.timely_of hcontrol trivial, nofun⟩⟩
  | sourceClosed =>
      rw [StreamPumpOptions.step] at hstep
      split at hstep
      case h_2 => cases hstep
      case h_1 exit hcontrol =>
        cases hstep
        have hnext := inv_afterClose h hcontrol
        have htimely : s.Timely := PumpState.timely_of hcontrol trivial
        refine ⟨hnext.1, hnext.2.trans ((and_iff_right htimely).trans (not_congr ?_)).symm⟩
        rw [PumpState.Breaks, hcontrol, PumpControl.closing.injEq]
  | sourceCloseThrow failure =>
      rw [StreamPumpOptions.step] at hstep
      split at hstep
      case h_2 => cases hstep
      case h_1 exit hcontrol =>
        cases hstep
        have hnext := inv_afterCloseThrow h hcontrol failure
        exact ⟨hnext.1, iff_of_true hnext.2 ⟨PumpState.timely_of hcontrol trivial, nofun⟩⟩
  | consumerNext =>
      have hnext := inv_consumerNext h hstep
      exact ⟨hnext.1, hnext.2.trans (and_iff_left nofun).symm⟩
  | consumerReturn => exact inv_leave h .returned nofun hstep
  | consumerThrow failure => exact inv_leave h (.thrown failure) nofun hstep
  | onCompleteDone =>
      rw [StreamPumpOptions.step] at hstep
      split at hstep
      case h_2 => cases hstep
      case h_1 hcontrol =>
        cases hstep
        have hnext := inv_onCompleteDone h hcontrol
        exact ⟨hnext.1, hnext.2.trans
          (and_iff_right (PumpState.timely_of hcontrol trivial)).symm⟩
  | onCompleteThrow failure =>
      rw [StreamPumpOptions.step] at hstep
      split at hstep
      case h_2 => cases hstep
      case h_1 hcontrol =>
        cases hstep
        have htimely : s.Timely := PumpState.timely_of hcontrol trivial
        obtain ⟨events, frames, kept, tail, hcarried, hstage⟩ := h
        rw [hcontrol] at hstage
        obtain ⟨hlive, rfl, hwhole, -⟩ := hstage
        have hnext := inv_handle hcarried hlive (fun _ => hwhole) failure
        exact ⟨hnext.1, iff_of_true hnext.2 ⟨htimely, nofun⟩⟩
  | clientAbort =>
      rw [StreamPumpOptions.step] at hstep
      cases hstep
      split
      · have hnext := inv_terminate h (Or.inl rfl)
        exact ⟨hnext.1, hnext.2.trans (and_congr_right' (iff_of_true (fun h => h.1 rfl) nofun))⟩
      · exact ⟨h, (and_iff_left nofun).symm⟩
  | setupTimeout =>
      rw [StreamPumpOptions.step] at hstep
      split at hstep
      case isFalse => cases hstep
      case isTrue htimer =>
        cases hstep
        have hnext := inv_terminate h (Or.inr ⟨⟨.setup, rfl⟩, Or.inl htimer⟩)
        exact ⟨hnext.1, hnext.2.trans
          (and_congr_right' (not_congr (and_iff_right nofun)))⟩
  | idleTimeout =>
      rw [StreamPumpOptions.step] at hstep
      split at hstep
      case isFalse => cases hstep
      case isTrue htimer =>
        cases hstep
        have hnext := inv_terminate h (Or.inr ⟨⟨.idle, rfl⟩, Or.inr htimer⟩)
        exact ⟨hnext.1, hnext.2.trans
          (and_congr_right' (not_congr (and_iff_right nofun)))⟩
  | drain =>
      cases hstep
      have hnext : PumpInvariant options (s.update s.lifecycle.noteBackpressure) ∧
          (_ ↔ s.Timely) := h.of_eq rfl rfl rfl rfl rfl rfl rfl rfl
      exact ⟨hnext.1, hnext.2.trans (and_iff_left nofun).symm⟩
  | tick ms =>
      cases hstep
      have hnext : PumpInvariant options { s with now := s.now + ms } ∧ (_ ↔ s.Timely) :=
        h.of_eq rfl rfl rfl rfl rfl rfl rfl rfl
      exact ⟨hnext.1, hnext.2.trans (and_iff_left nofun).symm⟩

/-! ## Whole runs -/

theorem inv_start (clientAborted : Bool) (startedAt : ℤ) :
    PumpInvariant options (options.start clientAborted startedAt) ∧
      (options.start clientAborted startedAt).Timely := by
  refine ⟨⟨[], [], [], [], ⟨List.nil_prefix, rfl, List.nil_prefix, ?_, ?_⟩, ?_, rfl, ?_, ?_,
    fun _ => rfl⟩, trivial⟩
  · cases clientAborted <;> rfl
  · cases clientAborted
    · exact List.lawful_nil
    · exact List.lawful_concat.2 ⟨List.lawful_nil, trivial⟩
  · cases clientAborted
    · exact ⟨rfl, rfl, fun terminal => iff_of_false nofun nofun, Or.inl rfl⟩
    · refine ⟨rfl, rfl, fun terminal => ?_, Or.inr (Or.inl rfl)⟩
      show _ ∈ [_] ↔ some StreamTerminal.cancelled = some terminal
      rw [List.mem_singleton, PumpEntry.terminated.injEq, Option.some.injEq, eq_comm]
  · cases clientAborted <;> rfl
  · cases clientAborted <;> simp [StreamPumpOptions.start]

theorem inv_run {clientAborted : Bool} {startedAt : ℤ} {inputs : List (PumpInput Failure)}
    (h : options.run clientAborted startedAt inputs = some s) :
    PumpInvariant options s ∧ (s.Timely ↔
      List.Along (fun s input => ¬ s.Breaks input) options.step
        (options.start clientAborted startedAt) inputs) := by
  have hstart : PumpInvariant options (options.start clientAborted startedAt) ∧
    (options.start clientAborted startedAt).Timely := inv_start clientAborted startedAt
  have hrun : List.run options.step (options.start clientAborted startedAt) inputs = some s := h
  refine List.run_induction (motive := fun inputs s => PumpInvariant options s ∧
    (s.Timely ↔ List.Along (fun s input => ¬ s.Breaks input) options.step
      (options.start clientAborted startedAt) inputs))
    ⟨hstart.1, iff_of_true hstart.2 (List.along_nil _)⟩ ?_ hrun
  rintro inputs t input t' hrun ⟨hinv, htimely⟩ hstep
  have hnext := inv_step hinv hstep
  refine ⟨hnext.1, hnext.2.trans ?_⟩
  rw [List.along_concat hrun, htimely]

theorem framesInOrder_of_invariant (h : PumpInvariant options s) : options.FramesInOrder s := by
  obtain ⟨events, frames, kept, tail, hcarried, hstage⟩ := h
  refine ⟨events, frames, s.encoder, kept, tail, hcarried.pulled, hcarried.encoded, hcarried.first,
    hcarried.chunks, ?_⟩
  cases hcontrol : s.control with
  | created | pulling | yielding | completing =>
      rw [hcontrol] at hstage
      obtain ⟨-, rfl, -⟩ := hstage
      exact ⟨Nat.zero_le 1, nofun, nofun⟩
  | closing exit =>
      rw [hcontrol] at hstage
      have htail : tail = [] := by cases exit <;> exact hstage.2.1
      subst htail
      exact ⟨Nat.zero_le 1, nofun, nofun⟩
  | yieldingLast =>
      rw [hcontrol] at hstage
      obtain ⟨-, -, -, chunk, rfl, hlast, -⟩ := hstage
      exact ⟨Nat.le_refl 1, by simpa using hlast, nofun⟩
  | done =>
      rw [hcontrol] at hstage
      obtain ⟨hsettled, hlength, hlast, -⟩ := hstage
      exact ⟨hlength, hlast, fun _ => hsettled⟩

end

/-- A pump keeps its protocol exactly if no step of a run that ended broke it. -/
theorem pumpProtocol_iff (options : StreamPumpOptions State Wire Failure) (clientAborted : Bool)
    (startedAt : ℤ) (inputs : List (PumpInput Failure)) (s : PumpState State Wire Failure)
    (h : options.run clientAborted startedAt inputs = some s) :
    options.PumpProtocol s ↔ (s.control = .done →
      List.Along (fun s input => ¬ s.Breaks input) options.step
        (options.start clientAborted startedAt) inputs) := by
  obtain ⟨hinv, htimely⟩ := inv_run h
  have hlawful : List.Lawful options.Allowed s.history := by
    obtain ⟨events, frames, kept, tail, hcarried, -⟩ := hinv
    exact hcarried.lawful
  rw [← htimely]
  constructor
  · intro hprotocol hdone
    exact PumpState.timely_of hdone ⟨hprotocol.timeout hdone, hprotocol.finished hdone⟩
  · intro htold
    have hended : s.control = .done → s.TimelyAt .done := by
      intro hdone
      have hat := htold hdone
      rwa [PumpState.Timely, hdone] at hat
    exact ⟨framesInOrder_of_invariant hinv, hlawful, fun hdone => (hended hdone).1,
      fun hdone => (hended hdone).2⟩

/-- The event stream record of a frame. -/
def sseFrame (event : String) (data : Json) : String :=
  "event: " ++ event ++ "\ndata: " ++ data.stringify ++ "\n\n"

/-- The pump of the Responses route, for its error payloads. -/
def responsesPump (errorPayload : ResponsesProtocolError → Json)
    (timeoutPayload : TimeoutCategory → Json) :
    StreamPumpOptions EncodeContext ResponsesFrame ResponsesProtocolError where
  encoder := ⟨encodeResponsesEvent, assertClosed⟩
  initial := createContext
  frame := fun frame => sseFrame frame.wire.1 frame.wire.2
  errorFrame := fun failure => sseFrame "error" (errorPayload failure)
  timeoutFrame := fun category => sseFrame "error" (timeoutPayload category)
  hasOnComplete := true

/-- A stream in progress that ends before it has said anything else. -/
def startedEvent : CanonicalEvent :=
  ⟨"req", 0, "1970-01-01T00:00:00.000Z", "openai", "model", .responseStarted "resp-1"⟩

/-- The inputs of a stream whose frames are all taken. -/
def takenInputs : List (PumpInput ResponsesProtocolError) :=
  [.consumerNext, .sourceEvent startedEvent, .consumerNext, .tick 40, .consumerNext, .sourceDone,
    .onCompleteDone]

theorem pumpProtocol_taken :
    (responsesPump (fun _ => .null) fun _ => .null).PumpProtocol
      (((responsesPump (fun _ => .null) fun _ => .null).run false 0 takenInputs).get rfl) := by
  refine (pumpProtocol_iff _ false 0 takenInputs _ (Option.some_get rfl).symm).2 fun _ => ?_
  have hquiet : ∀ {s : PumpState EncodeContext ResponsesFrame ResponsesProtocolError},
      s.lifecycle.terminal = none → ¬ s.TimedOut := by
    rintro s hnone ⟨category, htimed⟩
    cases hnone.symm.trans htimed
  refine List.along_cons.2 ⟨nofun, ?_⟩
  rintro _ ⟨⟩
  refine List.along_cons.2 ⟨nofun, ?_⟩
  rintro _ ⟨⟩
  refine List.along_cons.2 ⟨nofun, ?_⟩
  rintro _ ⟨⟩
  refine List.along_cons.2 ⟨nofun, ?_⟩
  rintro _ ⟨⟩
  refine List.along_cons.2 ⟨nofun, ?_⟩
  rintro _ ⟨⟩
  refine List.along_cons.2 ⟨hquiet rfl, ?_⟩
  rintro _ ⟨⟩
  refine List.along_cons.2 ⟨hquiet rfl, ?_⟩
  rintro _ ⟨⟩
  exact List.along_nil _

/-- The setup timer fires while the source is awaited, and the source ends all the same: the
terminal condition is a timeout, but the client is told nothing. -/
theorem not_pumpProtocol_silentTimeout :
    ¬ ∀ (State Wire Failure : Type) (options : StreamPumpOptions State Wire Failure)
      (clientAborted : Bool) (startedAt : ℤ) (inputs : List (PumpInput Failure))
      (s : PumpState State Wire Failure),
      options.run clientAborted startedAt inputs = some s → options.PumpProtocol s := by
  intro h
  have hprotocol := h _ _ _ (responsesPump (fun _ => .null) fun _ => .null) false 0
    [.consumerNext, .setupTimeout, .sourceDone] _ rfl
  have hcount := hprotocol.timeout rfl ⟨.setup, rfl⟩
  cases hcount

end RlyGateway
