import Mathlib.Data.List.Infix

/-!
# Input that comes in chunks

A reader takes one chunk at a time, gives what it has read and keeps a state. It does not see the
boundaries of the chunks when reading two of them is reading their concatenation. Splitting a text at
separators is such a reader, where it keeps what follows the last separator, as long as later text
does not change which separator comes first.
-/

universe u v w

/-! ## Readers -/

/-- A reader of chunks. -/
abbrev ChunkReader (σ : Type u) (ι : Type v) (ω : Type w) := σ → List ι → List ω × σ

namespace ChunkReader

variable {σ τ : Type*} {ι κ ω υ : Type*}

/-- Read one chunk after the other. -/
def readAll (read : ChunkReader σ ι ω) : σ → List (List ι) → List ω × σ
  | s, [] => ([], s)
  | s, chunk :: chunks =>
      let first := read s chunk
      let rest := readAll read first.2 chunks
      (first.1 ++ rest.1, rest.2)

/-- Two chunks are read as their concatenation is. -/
def Seamless (read : ChunkReader σ ι ω) : Prop :=
  ∀ s chunk more, read s (chunk ++ more) =
    ((read s chunk).1 ++ (read (read s chunk).2 more).1, (read (read s chunk).2 more).2)

/-- A seamless reader reads chunks as their concatenation. -/
theorem Seamless.readAll_cons {read : ChunkReader σ ι ω} (h : Seamless read) (s : σ)
    (chunk : List ι) (chunks : List (List ι)) :
    readAll read s (chunk :: chunks) = read s (chunk ++ chunks.flatten) := by
  induction chunks generalizing s chunk with
  | nil => simp [readAll]
  | cons next chunks ih =>
      rw [List.flatten_cons, h, ← ih (read s chunk).2 next]
      rfl

/-- Read chunks with one reader and what it gives with another. -/
def andThen (read : ChunkReader σ ι κ) (next : ChunkReader τ κ ω) : ChunkReader (σ × τ) ι ω :=
  fun s chunk =>
    let first := read s.1 chunk
    let second := next s.2 first.1
    (second.1, first.2, second.2)

theorem Seamless.andThen {read : ChunkReader σ ι κ} {next : ChunkReader τ κ ω}
    (h : Seamless read) (hnext : Seamless next) : Seamless (read.andThen next) := by
  intro s chunk more
  simp only [ChunkReader.andThen, h s.1 chunk more, hnext s.2]

/-- Keep something of each item that is read. -/
def filterMap (f : ω → Option υ) (read : ChunkReader σ ι ω) : ChunkReader σ ι υ :=
  fun s chunk => ((read s chunk).1.filterMap f, (read s chunk).2)

theorem Seamless.filterMap (f : ω → Option υ) {read : ChunkReader σ ι ω} (h : Seamless read) :
    Seamless (read.filterMap f) := by
  intro s chunk more
  simp only [ChunkReader.filterMap, h s chunk more, List.filterMap_append]

/-- The reader that takes one item at a time. -/
def ofStep (step : σ → ι → List ω × σ) : ChunkReader σ ι ω
  | s, [] => ([], s)
  | s, item :: items =>
      let first := step s item
      let rest := ofStep step first.2 items
      (first.1 ++ rest.1, rest.2)

/-- A reader of single items does not see the chunks. -/
theorem seamless_ofStep (step : σ → ι → List ω × σ) : Seamless (ofStep step) := by
  intro s chunk more
  induction chunk generalizing s with
  | nil => rfl
  | cons item chunk ih =>
      show ((step s item).1 ++ (ofStep step (step s item).2 (chunk ++ more)).1,
        (ofStep step (step s item).2 (chunk ++ more)).2) = _
      rw [ih (step s item).2]
      simp [ofStep]

end ChunkReader

/-! ## Separators -/

/-- What separates the records of a text: the text behind a separator at its head. More text neither
changes a separator that is there nor brings one before it. -/
structure Separator (α : Type u) where
  eat : List α → Option (List α)
  shorter : ∀ {text rest}, eat text = some rest → rest.length < text.length
  append : ∀ {text rest} (more), eat text = some rest → eat (text ++ more) = some (rest ++ more)
  late : ∀ {text more}, eat text = none → eat (text ++ more) ≠ none →
    ∀ tail ∈ text.tails, eat tail = none

namespace Separator

variable {α : Type u} (separator : Separator α)

theorem eat_nil : separator.eat [] = none := by
  cases h : separator.eat [] with
  | none => rfl
  | some rest => exact absurd (separator.shorter h) (Nat.not_lt_zero _)

/-- One more item before what is split. -/
def push (a : α) : List (List α) × List α → List (List α) × List α
  | ([], rest) => ([], a :: rest)
  | (record :: records, rest) => ((a :: record) :: records, rest)

/-- The records of a text that a separator ends, and what follows the last separator. -/
def split (text : List α) : List (List α) × List α :=
  match _heat : separator.eat text with
  | some rest => ([] :: (split rest).1, (split rest).2)
  | none =>
      match text with
      | [] => ([], [])
      | a :: text => push a (split text)
termination_by text.length
decreasing_by
  · exact separator.shorter _heat
  · exact Nat.lt_succ_self _

theorem split_of_eat {text rest : List α} (h : separator.eat text = some rest) :
    separator.split text = ([] :: (separator.split rest).1, (separator.split rest).2) := by
  rw [Separator.split.eq_def]
  split
  · rename_i rest' h'
    rw [h] at h'
    cases h'
    rfl
  · rename_i h'
    rw [h] at h'
    cases h'

@[simp] theorem split_nil : separator.split [] = ([], []) := by
  rw [Separator.split.eq_def]
  split
  · rename_i h
    rw [eat_nil] at h
    cases h
  · rfl

theorem split_cons {a : α} {text : List α} (h : separator.eat (a :: text) = none) :
    separator.split (a :: text) = push a (separator.split text) := by
  rw [Separator.split.eq_def]
  split
  · rename_i h'
    rw [h] at h'
    cases h'
  · rfl

/-- A text without a separator is one unfinished record. -/
theorem split_of_forall {text : List α} (h : ∀ tail ∈ text.tails, separator.eat tail = none) :
    separator.split text = ([], text) := by
  induction text with
  | nil => exact separator.split_nil
  | cons a text ih =>
      have htail : ∀ tail ∈ text.tails, separator.eat tail = none := fun tail htail =>
        h tail (by simp [htail])
      rw [separator.split_cons (h _ (by simp)), ih htail]
      rfl

/-- Where no record has ended, the whole text is left. -/
theorem snd_split_of_fst_eq_nil {text : List α} (h : (separator.split text).1 = []) :
    (separator.split text).2 = text := by
  induction text with
  | nil => simp
  | cons a text ih =>
      cases heat : separator.eat (a :: text) with
      | some rest =>
          rw [separator.split_of_eat heat] at h
          cases h
      | none =>
          rw [separator.split_cons heat] at h ⊢
          cases hsplit : separator.split text with
          | mk records rest =>
              cases records with
              | nil =>
                  have hrest := ih (by rw [hsplit])
                  rw [hsplit] at hrest
                  simp only at hrest
                  rw [push, hrest]
              | cons record records =>
                  rw [hsplit] at h
                  cases h

/-- The records of a text are those that end in its first part and then those of what that part
leaves and the second part. -/
theorem split_append (text more : List α) :
    separator.split (text ++ more) =
      ((separator.split text).1 ++ (separator.split ((separator.split text).2 ++ more)).1,
        (separator.split ((separator.split text).2 ++ more)).2) := by
  induction hlength : text.length using Nat.strong_induction_on generalizing text with
  | _ n ih =>
      subst hlength
      by_cases hrecords : (separator.split text).1 = []
      · rw [hrecords, separator.snd_split_of_fst_eq_nil hrecords, List.nil_append]
      cases heat : separator.eat text with
      | some rest =>
          rw [separator.split_of_eat heat, separator.split_of_eat (separator.append more heat),
            ih _ (separator.shorter heat) rest rfl]
          rfl
      | none =>
          cases text with
          | nil => simp at hrecords
          | cons a text =>
              have hmore : separator.eat (a :: (text ++ more)) = none := by
                by_contra hlate
                refine hrecords ?_
                rw [separator.split_of_forall (separator.late heat hlate)]
              rw [separator.split_cons heat] at hrecords ⊢
              rw [List.cons_append, separator.split_cons hmore,
                ih text.length (Nat.lt_succ_self _) text rfl]
              cases hsplit : separator.split text with
              | mk records rest =>
                  cases records with
                  | nil =>
                      rw [hsplit] at hrecords
                      exact absurd rfl hrecords
                  | cons record records => rfl

/-- Read a text into the unfinished record that is left and split what there is. -/
def records : ChunkReader (List α) α (List α) := fun buffered chunk =>
  separator.split (buffered ++ chunk)

/-- Splitting does not see the chunks. -/
theorem seamless_records : separator.records.Seamless := by
  intro buffered chunk more
  show separator.split (buffered ++ (chunk ++ more)) = _
  rw [← List.append_assoc, separator.split_append]
  rfl

end Separator
