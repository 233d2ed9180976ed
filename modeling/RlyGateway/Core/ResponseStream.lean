import RlyGateway.Core.CanonicalEvent

/-!
# Streams of one response

How an adapter numbers the events of a response, and what a well-formed response is: it starts once
and first, completes once and last, and the deltas of each index stand between its one start and
its one completion.
-/

namespace RlyGateway

/-! ## Numbering -/

/-- What the events of a response share, and the clock read for each of them. -/
structure EventSource where
  requestId : String
  providerId : String
  modelId : String
  timestamp : ℕ → String

/-- The event of a response with a number. -/
def eventAt (source : EventSource) (sequence : ℕ) (payload : EventPayload) : CanonicalEvent where
  requestId := source.requestId
  sequence := sequence
  timestamp := source.timestamp sequence
  providerId := source.providerId
  modelId := source.modelId
  payload := payload

/-- The events of a response, numbered from `start`. -/
def eventsFrom (source : EventSource) (start : ℕ) : List EventPayload → List CanonicalEvent
  | [] => []
  | payload :: payloads => eventAt source start payload :: eventsFrom source (start + 1) payloads

theorem map_payload_eventsFrom (source : EventSource) (start : ℕ) (payloads : List EventPayload) :
    (eventsFrom source start payloads).map (·.payload) = payloads := by
  induction payloads generalizing start with
  | nil => rfl
  | cons payload payloads ih =>
      rw [eventsFrom, List.map_cons, ih]
      rfl

/-! ## Well-formed responses -/

/-- The index an event starts. -/
def startIndex? : EventPayload → Option ℚ
  | .contentStarted index _ _ _ _ => some index
  | _ => none

/-- The index an event completes. -/
def completeIndex? : EventPayload → Option ℚ
  | .contentCompleted index => some index
  | _ => none

/-- The index an event is a delta of. -/
def deltaIndex? : EventPayload → Option ℚ
  | .textDelta index _ => some index
  | .reasoningDelta index _ => some index
  | .signatureDelta index _ => some index
  | .toolArgumentsDelta index _ _ => some index
  | _ => none

/-- The indexes events start, in order. -/
def startedIndexes (payloads : List EventPayload) : List ℚ := payloads.filterMap startIndex?

/-- The indexes events complete, in order. -/
def completedIndexes (payloads : List EventPayload) : List ℚ := payloads.filterMap completeIndex?

@[simp] theorem startedIndexes_append (payloads payloads' : List EventPayload) :
    startedIndexes (payloads ++ payloads') = startedIndexes payloads ++ startedIndexes payloads' :=
  List.filterMap_append

@[simp] theorem completedIndexes_append (payloads payloads' : List EventPayload) :
    completedIndexes (payloads ++ payloads') =
      completedIndexes payloads ++ completedIndexes payloads' :=
  List.filterMap_append

/-- A well-formed response. -/
structure WellFormed (payloads : List EventPayload) : Prop where
  startedFirst : ∃ responseId rest, payloads = .responseStarted responseId :: rest ∧
    ∀ payload ∈ rest, isResponseStarted payload = false
  bracketed : ∀ before payload after index, payloads = before ++ payload :: after →
    deltaIndex? payload = some index →
      (startedIndexes before).count index = 1 ∧ (completedIndexes before).count index = 0 ∧
        (startedIndexes after).count index = 0 ∧ (completedIndexes after).count index = 1
  startedOnce : (startedIndexes payloads).Nodup
  completedLast : ∃ before stopReason, payloads = before ++ [.responseCompleted stopReason] ∧
    ∀ payload ∈ before, isTerminal payload = false

/-- Nothing follows a well-formed response in one. -/
theorem WellFormed.append_eq_nil {payloads more : List EventPayload} (h : WellFormed payloads)
    (hmore : WellFormed (payloads ++ more)) : more = [] := by
  obtain ⟨before, stopReason, heq, -⟩ := h.completedLast
  obtain ⟨before', stopReason', heq', hnone⟩ := hmore.completedLast
  rcases List.eq_nil_or_concat more with rfl | ⟨init, last, rfl⟩
  · rfl
  · exfalso
    rw [heq, List.concat_eq_append, ← List.append_assoc] at heq'
    have hinit := (List.append_inj' heq' rfl).1
    have hterminal : EventPayload.responseCompleted stopReason ∈ before' := by
      rw [← hinit]
      simp
    have hfalse := hnone _ hterminal
    cases hfalse

/-! ## A response in progress -/

/-- A response in progress none of whose indexes is completed: `opened` lists the started ones. -/
structure InProgress (opened : List ℚ) (payloads : List EventPayload) : Prop where
  started : startedIndexes payloads = opened
  completed : completedIndexes payloads = []
  deltas : ∀ before payload after index, payloads = before ++ payload :: after →
    deltaIndex? payload = some index → index ∈ startedIndexes before
  running : ∀ payload ∈ payloads, isTerminal payload = false

theorem InProgress.nil : InProgress [] [] where
  started := rfl
  completed := rfl
  deltas := by simp
  running := by simp

/-- One more event of a response in progress. -/
theorem InProgress.snoc {opened opened' : List ℚ} {payloads : List EventPayload}
    {payload : EventPayload} (h : InProgress opened payloads)
    (hopened : opened' = opened ++ (startIndex? payload).toList)
    (hcomplete : completeIndex? payload = none) (hterminal : isTerminal payload = false)
    (hdelta : ∀ index ∈ deltaIndex? payload, index ∈ opened) :
    InProgress opened' (payloads ++ [payload]) where
  started := by
    rw [startedIndexes_append, h.started, hopened]
    cases hstart : startIndex? payload <;> simp [startedIndexes, hstart]
  completed := by
    rw [completedIndexes_append, h.completed]
    simp [completedIndexes, hcomplete]
  deltas := by
    intro before payload' after index heq hindex
    rcases List.eq_nil_or_concat after with rfl | ⟨init, last, rfl⟩
    -- the delta is the new event
    · obtain ⟨rfl, hlast⟩ := List.append_inj' heq rfl
      cases hlast
      rw [h.started]
      exact hdelta index hindex
    · rw [List.concat_eq_append, ← List.cons_append, ← List.append_assoc] at heq
      exact h.deltas before payload' init index (List.append_inj' heq rfl).1 hindex
  running := by
    intro payload' hmem
    rcases List.mem_append.1 hmem with hmem | hmem
    · exact h.running payload' hmem
    · rw [List.mem_singleton.1 hmem]
      exact hterminal

/-- The end of a response: the completion of each index, then of the response. -/
def completions (indexes : List ℚ) (stopReason : String) : List EventPayload :=
  indexes.map .contentCompleted ++ [.responseCompleted stopReason]

theorem startedIndexes_completions (indexes : List ℚ) (stopReason : String) :
    startedIndexes (completions indexes stopReason) = [] := by
  rw [completions, startedIndexes_append, startedIndexes, List.filterMap_map]
  simp [startedIndexes, startIndex?, Function.comp_def]

theorem completedIndexes_completions (indexes : List ℚ) (stopReason : String) :
    completedIndexes (completions indexes stopReason) = indexes := by
  rw [completions, completedIndexes_append, completedIndexes, List.filterMap_map]
  simp [completedIndexes, completeIndex?, Function.comp_def]

/-- The end of a response starts no response and has no deltas. -/
theorem mem_completions {indexes : List ℚ} {stopReason : String} {payload : EventPayload}
    (h : payload ∈ completions indexes stopReason) :
    isResponseStarted payload = false ∧ deltaIndex? payload = none := by
  rcases List.mem_append.1 h with h | h
  · obtain ⟨index, -, rfl⟩ := List.mem_map.1 h
    exact ⟨rfl, rfl⟩
  · rw [List.mem_singleton.1 h]
    exact ⟨rfl, rfl⟩

/-- A delta of a response that ends in completions stands before them. -/
theorem delta_before_completions {body before after : List EventPayload} {payload : EventPayload}
    {indexes : List ℚ} {stopReason : String} {index : ℚ}
    (h : body ++ completions indexes stopReason = before ++ payload :: after)
    (hindex : deltaIndex? payload = some index) :
    ∃ middle, body = before ++ payload :: middle ∧
      after = middle ++ completions indexes stopReason := by
  have hnot : payload ∉ completions indexes stopReason := by
    intro hmem
    rw [(mem_completions hmem).2] at hindex
    cases hindex
  rcases List.append_eq_append_iff.1 h with ⟨middle, -, htail⟩ | ⟨middle, hbody, htail⟩
  · exact absurd (by rw [htail]; simp) hnot
  · cases middle with
    | nil => exact absurd (by rw [List.nil_append] at htail; rw [← htail]; simp) hnot
    | cons head middle =>
        rw [List.cons_append] at htail
        cases htail
        exact ⟨middle, hbody, rfl⟩

/-- A response in progress that is started becomes well formed by completing what it opened. -/
theorem InProgress.complete {opened : List ℚ} {responseId : String} {rest : List EventPayload}
    (h : InProgress opened (.responseStarted responseId :: rest)) (hnodup : opened.Nodup)
    (hrest : ∀ payload ∈ rest, isResponseStarted payload = false) (stopReason : String) :
    WellFormed ((.responseStarted responseId :: rest) ++ completions opened stopReason) where
  startedFirst := by
    refine ⟨responseId, rest ++ completions opened stopReason, rfl, ?_⟩
    intro payload hmem
    rcases List.mem_append.1 hmem with hmem | hmem
    · exact hrest payload hmem
    · exact (mem_completions hmem).1
  bracketed := by
    intro before payload after index heq hindex
    obtain ⟨middle, hbody, hafter⟩ := delta_before_completions heq hindex
    have hstart := h.deltas before payload middle index hbody hindex
    have hstarted := h.started
    have hcompleted := h.completed
    rw [hbody, startedIndexes_append] at hstarted
    rw [hbody, completedIndexes_append, List.append_eq_nil_iff] at hcompleted
    have hmiddle : startedIndexes (payload :: middle) = startedIndexes middle := by
      cases payload <;> first | rfl | cases hindex
    have hmiddle' : completedIndexes (payload :: middle) = completedIndexes middle := by
      cases payload <;> first | rfl | cases hindex
    rw [hmiddle] at hstarted
    rw [hmiddle'] at hcompleted
    rw [← hstarted, List.nodup_append] at hnodup
    obtain ⟨hbefore, -, hdisjoint⟩ := hnodup
    -- no index is started twice, so not again behind the delta
    have hlater : index ∉ startedIndexes middle := fun hmem => hdisjoint _ hstart _ hmem rfl
    refine ⟨List.count_eq_one_of_mem hbefore hstart, ?_, ?_, ?_⟩
    -- not completed before the delta, and behind it only by the completions
    · rw [hcompleted.1, List.count_nil]
    · rw [hafter, startedIndexes_append, startedIndexes_completions, List.append_nil]
      exact List.count_eq_zero_of_not_mem hlater
    · rw [hafter, completedIndexes_append, completedIndexes_completions, hcompleted.2,
        List.nil_append, ← hstarted, List.count_append, List.count_eq_one_of_mem hbefore hstart,
        List.count_eq_zero_of_not_mem hlater]
  startedOnce := by
    rw [startedIndexes_append, startedIndexes_completions, List.append_nil, h.started]
    exact hnodup
  completedLast := by
    refine ⟨(.responseStarted responseId :: rest) ++ opened.map .contentCompleted, stopReason,
      by rw [completions, List.append_assoc], ?_⟩
    intro payload hmem
    rcases List.mem_append.1 hmem with hmem | hmem
    · exact h.running payload hmem
    · obtain ⟨index, -, rfl⟩ := List.mem_map.1 hmem
      rfl

end RlyGateway
