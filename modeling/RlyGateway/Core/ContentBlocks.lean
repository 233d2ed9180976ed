import Mathlib.Data.List.DropRight
import RlyGateway.Core.CanonicalEvent
import RlyGateway.Library.Runs

/-!
# The blocks of a response

What the events of a response say about the block of an index: whether it is open, of which kind it
is, and what was said since it was started last. An index can be started again after its block was
completed, or even before.
-/

namespace RlyGateway

/-- The kind of block an event starts at an index. -/
def startKind? (index : ℚ) : EventPayload → Option ContentType
  | .contentStarted i contentType _ _ _ => if i = index then some contentType else none
  | _ => none

/-- What an event makes of the block of an index: `some none` where it completes it. -/
def openChange? (index : ℚ) : EventPayload → Option (Option ContentType)
  | .contentStarted i contentType _ _ _ => if i = index then some (some contentType) else none
  | .contentCompleted i => if i = index then some none else none
  | _ => none

/-- The text an event adds at an index. -/
def textOf? (index : ℚ) : EventPayload → Option String
  | .textDelta i text => if i = index then some text else none
  | _ => none

/-- The reasoning an event adds at an index. -/
def reasoningOf? (index : ℚ) : EventPayload → Option String
  | .reasoningDelta i text => if i = index then some text else none
  | _ => none

/-- The signature an event gives at an index. -/
def signatureOf? (index : ℚ) : EventPayload → Option String
  | .signatureDelta i signature => if i = index then some signature else none
  | _ => none

/-- The arguments an event adds at an index. -/
def argumentsOf? (index : ℚ) : EventPayload → Option String
  | .toolArgumentsDelta i _ partialJson => if i = index then some partialJson else none
  | _ => none

/-- The kind of the block that is open at an index. -/
def openKind (index : ℚ) (payloads : List EventPayload) : Option ContentType :=
  (payloads.latest? (openChange? index)).join

/-- The kind of the block that was started last at an index. -/
def lastKind (index : ℚ) (payloads : List EventPayload) : Option ContentType :=
  payloads.latest? (startKind? index)

/-- The events since the last start at an index. -/
def sinceStart (index : ℚ) (payloads : List EventPayload) : List EventPayload :=
  payloads.rtakeWhile fun payload => (startKind? index payload).isNone

/-- The events before the last start at an index, with that start. -/
def beforeStart (index : ℚ) (payloads : List EventPayload) : List EventPayload :=
  payloads.rdropWhile fun payload => (startKind? index payload).isNone

/-- The texts that events add, put together. -/
def joined (text? : EventPayload → Option String) (payloads : List EventPayload) : String :=
  String.join (payloads.filterMap text?)

/-- The texts that events add, put together, if any adds one. -/
def joined? (text? : EventPayload → Option String) (payloads : List EventPayload) :
    Option String :=
  if payloads.filterMap text? = [] then none else some (joined text? payloads)

/-- Every delta targets an index whose block is open and of a kind it fits. -/
def Targeted (target? : EventPayload → Option (ℚ × List ContentType))
    (payloads : List EventPayload) : Prop :=
  payloads.Lawful fun before payload => ∀ index kinds, target? payload = some (index, kinds) →
    ∃ kind ∈ kinds, openKind index before = some kind

/-! ## One more event -/

variable {index : ℚ} {payloads : List EventPayload} {payload : EventPayload}

theorem openKind_concat :
    openKind index (payloads ++ [payload]) =
      (openChange? index payload).getD (openKind index payloads) := by
  rw [openKind, List.latest?_concat]
  cases openChange? index payload with
  | none => rfl
  | some kind => rfl

theorem openKind_of_openChange?_eq_none (h : openChange? index payload = none) :
    openKind index (payloads ++ [payload]) = openKind index payloads := by
  rw [openKind_concat, h, Option.getD_none]

theorem lastKind_concat :
    lastKind index (payloads ++ [payload]) =
      (startKind? index payload).or (lastKind index payloads) :=
  List.latest?_concat _ _ _

theorem sinceStart_concat :
    sinceStart index (payloads ++ [payload]) =
      if (startKind? index payload).isNone then sinceStart index payloads ++ [payload] else [] :=
  List.rtakeWhile_concat _ _ _

/-- The events since the last start are the last ones. -/
theorem sinceStart_suffix (index : ℚ) (payloads : List EventPayload) :
    sinceStart index payloads <:+ payloads :=
  List.rtakeWhile_suffix _ _

theorem beforeStart_append_sinceStart (index : ℚ) (payloads : List EventPayload) :
    beforeStart index payloads ++ sinceStart index payloads = payloads := by
  rw [beforeStart, sinceStart, List.rdropWhile, List.rtakeWhile, ← List.reverse_append,
    List.takeWhile_append_dropWhile, List.reverse_reverse]

theorem joined_nil (text? : EventPayload → Option String) : joined text? [] = "" := rfl

theorem joined_concat (text? : EventPayload → Option String) :
    joined text? (payloads ++ [payload]) =
      joined text? payloads ++ (text? payload).getD "" := by
  rw [joined, List.filterMap_append, String.join_append]
  cases h : text? payload <;> simp [joined, h]

theorem joined?_concat (text? : EventPayload → Option String) :
    joined? text? (payloads ++ [payload]) =
      (text? payload).elim (joined? text? payloads) fun text =>
        some ((joined? text? payloads).getD "" ++ text) := by
  rw [joined?, joined_concat, List.filterMap_append]
  cases htext : text? payload with
  | none => simp [htext, joined?]
  | some text =>
      by_cases hnil : payloads.filterMap text? = []
      · simp [htext, joined?, joined, hnil]
      · simp [htext, joined?, hnil]

theorem append_left_eq_self_iff {s t : String} : s ++ t = t ↔ s = "" := by
  rw [← String.toList_inj, String.toList_append, List.append_left_eq_self, String.toList_eq_nil_iff]

theorem join_eq_empty_iff {texts : List String} :
    String.join texts = "" ↔ ∀ text ∈ texts, text = "" := by
  induction texts with
  | nil => simp
  | cons text texts ih => rw [String.join_cons, String.append_eq_empty_iff, ih, List.forall_mem_cons]

/-- What was said since the last start of an index is all exactly if nothing was before. -/
theorem joined_sinceStart_eq_iff {text? : EventPayload → Option String} :
    joined text? (sinceStart index payloads) = joined text? payloads ↔
      ∀ text ∈ (beforeStart index payloads).filterMap text?, text = "" := by
  have hjoined : joined text? payloads =
      joined text? (beforeStart index payloads) ++ joined text? (sinceStart index payloads) := by
    rw [joined, ← beforeStart_append_sinceStart index payloads, List.filterMap_append,
      String.join_append, beforeStart_append_sinceStart]
    rfl
  rw [hjoined, eq_comm, append_left_eq_self_iff]
  exact join_eq_empty_iff

/-- An open block is the one that was started last. -/
theorem lastKind_of_openKind {kind : ContentType} (h : openKind index payloads = some kind) :
    lastKind index payloads = some kind := by
  induction payloads using List.reverseRecOn with
  | nil => cases h
  | append_singleton payloads payload ih =>
      rw [openKind_concat] at h
      rw [lastKind_concat]
      cases payload with
      | contentStarted i contentType _ _ _ =>
          by_cases hi : i = index
          · simp only [openChange?, startKind?, if_pos hi, Option.getD_some] at h ⊢
            rwa [Option.some_or]
          · simp only [openChange?, startKind?, if_neg hi, Option.getD_none] at h ⊢
            exact ih h
      | contentCompleted i =>
          by_cases hi : i = index
          · simp [openChange?, hi] at h
          · simp only [openChange?, if_neg hi, Option.getD_none] at h
            exact ih h
      | _ => exact ih h

end RlyGateway
