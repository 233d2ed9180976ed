import Mathlib.Data.List.Basic

/-!
# Round robin over changing lists

A cursor is a position: each turn takes the entry at the cursor, modulo the length of the list, and
moves the cursor on by one. While the list stays the same every entry has its turn within one round.
When the list changes between the turns the cursor points to another entry, and an entry has its turn
within two rounds if the list never gets shorter and the entry never moves forward.
-/

namespace RoundRobin

variable {α β : Type*}

/-- The entry at a cursor and the next cursor. -/
def turn (l : List α) (cursor : ℕ) : Option (α × ℕ) :=
  (l[cursor % l.length]?).map fun a => (a, (cursor % l.length + 1) % l.length)

/-- The entries taken from one list after the other; an empty list leaves the cursor. -/
def turns : ℕ → List (List α) → List α
  | _, [] => []
  | cursor, l :: ls =>
      match turn l cursor with
      | none => turns cursor ls
      | some (a, next) => a :: turns next ls

theorem turn_map (f : α → β) (l : List α) (cursor : ℕ) :
    turn (l.map f) cursor = (turn l cursor).map (Prod.map f id) := by
  rw [turn, turn, List.length_map, List.getElem?_map, Option.map_map, Option.map_map]
  rfl

theorem turn_mod (l : List α) (cursor : ℕ) : turn l (cursor % l.length) = turn l cursor := by
  rw [turn, turn, Nat.mod_mod]

theorem turn_of_lt {l : List α} {cursor : ℕ} (h : cursor < l.length) :
    turn l cursor = some (l[cursor], (cursor + 1) % l.length) := by
  rw [turn, Nat.mod_eq_of_lt h, List.getElem?_eq_getElem h, Option.map_some]

theorem turns_of_lt {l : List α} {cursor : ℕ} (h : cursor < l.length) (ls : List (List α)) :
    turns cursor (l :: ls) = l[cursor] :: turns ((cursor + 1) % l.length) ls := by
  rw [turns, turn_of_lt h]

variable [DecidableEq α] (a : α)

/-- A later list is no shorter, and has an entry no further ahead. -/
def HoldsPlace (l l' : List α) : Prop :=
  l.length ≤ l'.length ∧ l.idxOf a ≤ l'.idxOf a

instance (l l' : List α) : Decidable (HoldsPlace a l l') := inferInstanceAs (Decidable (_ ∧ _))

variable {a} {n cursor : ℕ} {lists : List (List α)}

/-- A cursor ahead of the entry reaches it: it moves by one at a time, and never past the entry. -/
theorem mem_turns_of_le (hpos : cursor < n) (hlong : n ≤ cursor + lists.length)
    (hmem : ∀ l ∈ lists, a ∈ l ∧ l.length ≤ n) (hkeeps : lists.Pairwise (HoldsPlace a))
    (hle : ∀ l ∈ lists, cursor ≤ l.idxOf a) : a ∈ turns cursor lists := by
  induction lists generalizing cursor with
  | nil =>
      rw [List.length_nil] at hlong
      omega
  | cons l ls ih =>
      obtain ⟨hfirst, hrest⟩ := List.pairwise_cons.1 hkeeps
      obtain ⟨hl, hbound⟩ := hmem l List.mem_cons_self
      have hidx : l.idxOf a < l.length := List.idxOf_lt_length_of_mem hl
      have hat : cursor ≤ l.idxOf a := hle l List.mem_cons_self
      rw [turns_of_lt (by omega)]
      by_cases heq : cursor = l.idxOf a
      · -- the turn of the entry
        subst heq
        rw [List.getElem_idxOf]
        exact List.mem_cons_self
      · rw [Nat.mod_eq_of_lt (by omega)]
        rw [List.length_cons] at hlong
        refine List.mem_cons_of_mem _ (ih (by omega) (by omega)
          (fun l' hl' => hmem l' (List.mem_cons_of_mem _ hl')) hrest fun l' hl' => ?_)
        have := (hfirst l' hl').2
        omega

/-- A cursor past the entry starts over at the end of the list. -/
theorem mem_turns_of_lt (hlong : 2 * n ≤ cursor + lists.length)
    (hmem : ∀ l ∈ lists, a ∈ l ∧ l.length ≤ n) (hkeeps : lists.Pairwise (HoldsPlace a))
    (hlt : ∀ l ∈ lists, cursor < l.length) (hpos : cursor < n) : a ∈ turns cursor lists := by
  induction lists generalizing cursor with
  | nil =>
      rw [List.length_nil] at hlong
      omega
  | cons l ls ih =>
      obtain ⟨hfirst, hrest⟩ := List.pairwise_cons.1 hkeeps
      have hmem' : ∀ l' ∈ ls, a ∈ l' ∧ l'.length ≤ n := fun l' hl' =>
        hmem l' (List.mem_cons_of_mem _ hl')
      have hin : cursor < l.length := hlt l List.mem_cons_self
      have hbound : l.length ≤ n := (hmem l List.mem_cons_self).2
      by_cases hle : cursor ≤ l.idxOf a
      · refine mem_turns_of_le hpos (by omega) hmem hkeeps fun l' hl' => ?_
        rcases List.mem_cons.1 hl' with rfl | hl'
        · exact hle
        · have := (hfirst l' hl').2
          omega
      · rw [List.length_cons] at hlong
        rw [turns_of_lt hin]
        apply List.mem_cons_of_mem
        by_cases hend : cursor + 1 = l.length
        · rw [hend, Nat.mod_self]
          exact mem_turns_of_le (by omega) (by omega) hmem' hrest fun l' _ => Nat.zero_le _
        · rw [Nat.mod_eq_of_lt (by omega)]
          refine ih (by omega) hmem' hrest (fun l' hl' => ?_) (by omega)
          have := (hfirst l' hl').1
          omega

/-- Within two rounds an entry of every list has its turn, if the lists never get shorter and the
entry never moves forward. -/
theorem mem_turns (hlong : 2 * n ≤ lists.length) (hne : lists ≠ [])
    (hmem : ∀ l ∈ lists, a ∈ l ∧ l.length ≤ n) (hkeeps : lists.Pairwise (HoldsPlace a)) :
    a ∈ turns cursor lists := by
  obtain ⟨l, ls, rfl⟩ := List.exists_cons_of_ne_nil hne
  obtain ⟨hl, hbound⟩ := hmem l List.mem_cons_self
  have hin : cursor % l.length < l.length := Nat.mod_lt _ (List.length_pos_of_mem hl)
  have hstart : turns cursor (l :: ls) = turns (cursor % l.length) (l :: ls) := by
    rw [turns_of_lt hin, turns, ← turn_mod, turn_of_lt hin]
  rw [hstart]
  refine mem_turns_of_lt (by omega) hmem hkeeps (fun l' hl' => ?_) (by omega)
  rcases List.mem_cons.1 hl' with rfl | hl'
  · exact hin
  · have := ((List.pairwise_cons.1 hkeeps).1 l' hl').1
    omega

/-- A list that gets shorter can keep its first entry from its turn. -/
example : 0 ∉ turns 2 (List.replicate 4 [List.range 5, List.range 5, List.range 3]).flatten := by
  decide

end RoundRobin
