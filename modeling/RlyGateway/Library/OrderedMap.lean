import Mathlib.Data.List.Basic
import Mathlib.Data.List.Nodup

/-!
# Insertion-ordered maps and sets

The finite maps and sets of a language whose iteration order is insertion order: writing a key that
is already present keeps its position, and a new key goes last. The absence of duplicate keys is a
field of the structure, so iteration visits every key once.
-/

universe u v w

/-- Entries in insertion order, each key once. -/
structure OrderedMap (κ : Type u) (ν : Type v) where
  entries : List (κ × ν)
  nodup : (entries.map Prod.fst).Nodup

namespace OrderedMap

variable {κ : Type u} {ν : Type v}

/-! ## Association lists -/

section Entries

variable [DecidableEq κ]

/-- The value written for `key`, if any. -/
def lookupEntry (key : κ) : List (κ × ν) → Option ν
  | [] => none
  | (k, value) :: rest => if k = key then some value else lookupEntry key rest

/-- Overwrite the value of `key` in place, or append it. -/
def insertEntry (key : κ) (value : ν) : List (κ × ν) → List (κ × ν)
  | [] => [(key, value)]
  | (k, old) :: rest =>
      if k = key then (k, value) :: rest else (k, old) :: insertEntry key value rest

theorem keys_insertEntry (key : κ) (value : ν) (entries : List (κ × ν)) :
    (insertEntry key value entries).map Prod.fst =
      if key ∈ entries.map Prod.fst then entries.map Prod.fst
      else entries.map Prod.fst ++ [key] := by
  induction entries with
  | nil => simp [insertEntry]
  | cons head rest ih =>
      obtain ⟨k, old⟩ := head
      by_cases hk : k = key
      · simp [insertEntry, hk]
      · have hne : key ≠ k := Ne.symm hk
        simp only [insertEntry, if_neg hk, List.map_cons, ih, List.mem_cons, hne, false_or]
        split <;> rfl

theorem nodup_insertEntry (key : κ) (value : ν) {entries : List (κ × ν)}
    (h : (entries.map Prod.fst).Nodup) :
    ((insertEntry key value entries).map Prod.fst).Nodup := by
  rw [keys_insertEntry]
  split
  · exact h
  · rename_i hnot
    exact List.nodup_append.2 ⟨h, List.nodup_singleton key, by
      intro a ha b hb hab
      rw [List.mem_singleton] at hb
      exact hnot (by rw [← hb, ← hab]; exact ha)⟩

theorem lookupEntry_insertEntry (key key' : κ) (value : ν) (entries : List (κ × ν)) :
    lookupEntry key' (insertEntry key value entries) =
      if key = key' then some value else lookupEntry key' entries := by
  induction entries with
  | nil => simp [insertEntry, lookupEntry]
  | cons head rest ih =>
      obtain ⟨k, old⟩ := head
      by_cases hk : k = key
      · subst hk
        by_cases hkey : k = key' <;> simp [insertEntry, lookupEntry, hkey]
      · by_cases hkey : k = key'
        · subst hkey
          simp [insertEntry, lookupEntry, hk, Ne.symm hk]
        · simp only [insertEntry, if_neg hk, lookupEntry, if_neg hkey, ih]

theorem lookupEntry_eq_none {key : κ} {entries : List (κ × ν)} :
    lookupEntry key entries = none ↔ key ∉ entries.map Prod.fst := by
  induction entries with
  | nil => simp [lookupEntry]
  | cons head rest ih =>
      obtain ⟨k, value⟩ := head
      by_cases hk : k = key
      · simp [lookupEntry, hk]
      · simp [lookupEntry, hk, ih, Ne.symm hk]

theorem lookupEntry_eq_some {key : κ} {value : ν} {entries : List (κ × ν)}
    (h : (entries.map Prod.fst).Nodup) :
    lookupEntry key entries = some value ↔ (key, value) ∈ entries := by
  induction entries with
  | nil => simp [lookupEntry]
  | cons head rest ih =>
      obtain ⟨k, old⟩ := head
      rw [List.map_cons, List.nodup_cons] at h
      by_cases hk : k = key
      · subst hk
        have hnot : (k, value) ∉ rest := fun hmem =>
          h.1 (List.mem_map.2 ⟨_, hmem, rfl⟩)
        simp [lookupEntry, hnot, eq_comm]
      · simp [lookupEntry, hk, ih h.2, Ne.symm hk]

end Entries

/-! ## Maps -/

@[ext] theorem ext {m m' : OrderedMap κ ν} (h : m.entries = m'.entries) : m = m' := by
  cases m
  cases m'
  simpa using h

instance [DecidableEq κ] [DecidableEq ν] : DecidableEq (OrderedMap κ ν) := fun m m' =>
  decidable_of_iff (m.entries = m'.entries) ⟨ext, congrArg entries⟩

/-- The map without entries. -/
def empty : OrderedMap κ ν := ⟨[], List.nodup_nil⟩

/-- The keys in insertion order. -/
def keys (m : OrderedMap κ ν) : List κ := m.entries.map Prod.fst

/-- The values in insertion order of their keys. -/
def values (m : OrderedMap κ ν) : List ν := m.entries.map Prod.snd

/-- The number of keys. -/
def size (m : OrderedMap κ ν) : ℕ := m.entries.length

variable [DecidableEq κ]

/-- The value of `key`. -/
def get? (m : OrderedMap κ ν) (key : κ) : Option ν := lookupEntry key m.entries

/-- Write `key`, keeping its position when it is present. -/
def set (m : OrderedMap κ ν) (key : κ) (value : ν) : OrderedMap κ ν :=
  ⟨insertEntry key value m.entries, nodup_insertEntry key value m.nodup⟩

/-- Remove `key`. -/
def erase (m : OrderedMap κ ν) (key : κ) : OrderedMap κ ν :=
  ⟨m.entries.filter (fun entry => entry.1 ≠ key), by
    have hsub : ((m.entries.filter (fun entry => entry.1 ≠ key)).map Prod.fst).Sublist
        (m.entries.map Prod.fst) := List.filter_sublist.map Prod.fst
    exact hsub.nodup m.nodup⟩

/-- The entries that a test keeps. -/
def filter (m : OrderedMap κ ν) (p : κ → ν → Bool) : OrderedMap κ ν :=
  ⟨m.entries.filter fun entry => p entry.1 entry.2,
    (List.filter_sublist.map Prod.fst).nodup m.nodup⟩

/-- The map built by writing the given entries in order; a later value for a key wins. -/
def ofList (entries : List (κ × ν)) : OrderedMap κ ν :=
  entries.foldl (fun m entry => m.set entry.1 entry.2) empty

@[simp] theorem get?_empty (key : κ) : (empty : OrderedMap κ ν).get? key = none := rfl

theorem get?_set (m : OrderedMap κ ν) (key key' : κ) (value : ν) :
    (m.set key value).get? key' = if key = key' then some value else m.get? key' :=
  lookupEntry_insertEntry key key' value m.entries

@[simp] theorem get?_set_self (m : OrderedMap κ ν) (key : κ) (value : ν) :
    (m.set key value).get? key = some value := by
  rw [get?_set, if_pos rfl]

theorem get?_set_ne (m : OrderedMap κ ν) {key key' : κ} (h : key ≠ key') (value : ν) :
    (m.set key value).get? key' = m.get? key' := by
  rw [get?_set, if_neg h]

theorem keys_set (m : OrderedMap κ ν) (key : κ) (value : ν) :
    (m.set key value).keys = if key ∈ m.keys then m.keys else m.keys ++ [key] :=
  keys_insertEntry key value m.entries

theorem get?_eq_none {m : OrderedMap κ ν} {key : κ} : m.get? key = none ↔ key ∉ m.keys :=
  lookupEntry_eq_none

theorem get?_eq_some {m : OrderedMap κ ν} {key : κ} {value : ν} :
    m.get? key = some value ↔ (key, value) ∈ m.entries :=
  lookupEntry_eq_some m.nodup

theorem mem_keys_iff {m : OrderedMap κ ν} {key : κ} :
    key ∈ m.keys ↔ ∃ value, m.get? key = some value := by
  rw [← not_iff_not, ← get?_eq_none, ← not_iff_not, not_not, ← Option.isSome_iff_exists,
    Option.isSome_iff_ne_none]

theorem mem_keys_of_get? {m : OrderedMap κ ν} {key : κ} {value : ν}
    (h : m.get? key = some value) : key ∈ m.keys :=
  mem_keys_iff.2 ⟨value, h⟩

theorem size_pos_of_get? {m : OrderedMap κ ν} {key : κ} {value : ν}
    (h : m.get? key = some value) : 0 < m.size :=
  List.length_pos_of_mem (get?_eq_some.1 h)

theorem get?_erase (m : OrderedMap κ ν) (key key' : κ) :
    (m.erase key).get? key' = if key = key' then none else m.get? key' := by
  refine Option.ext fun value => ?_
  rw [get?_eq_some, erase, List.mem_filter, decide_eq_true_eq]
  split
  · rename_i h
    simp [h]
  · rename_i h
    rw [get?_eq_some]
    exact and_iff_left (Ne.symm h)

/-- What is found among the kept entries was found and is kept. -/
theorem get?_filter (m : OrderedMap κ ν) (p : κ → ν → Bool) (key : κ) :
    (m.filter p).get? key = (m.get? key).filter (p key) := by
  refine Option.ext fun value => ?_
  rw [get?_eq_some, filter, List.mem_filter, Option.filter_eq_some_iff, get?_eq_some]

theorem size_erase_le (m : OrderedMap κ ν) (key : κ) : (m.erase key).size ≤ m.size :=
  List.length_filter_le _ _

/-- A key that was removed is not there. -/
theorem not_mem_keys_erase (m : OrderedMap κ ν) (key : κ) : key ∉ (m.erase key).keys := by
  intro h
  obtain ⟨entry, hentry, hkey⟩ := List.mem_map.1 h
  have hne := (List.mem_filter.1 hentry).2
  rw [decide_eq_true_eq] at hne
  exact hne hkey

/-- Removing a key that is not there changes nothing. -/
theorem erase_of_not_mem {m : OrderedMap κ ν} {key : κ} (h : key ∉ m.keys) : m.erase key = m := by
  refine ext (List.filter_eq_self.2 fun entry hentry => ?_)
  rw [decide_eq_true_eq]
  rintro rfl
  exact h (List.mem_map_of_mem hentry)

private theorem get?_foldl_set (entries : List (κ × ν)) (m : OrderedMap κ ν) (key : κ) :
    ((entries.foldl (fun m entry => m.set entry.1 entry.2) m).get? key = m.get? key ∧
        key ∉ entries.map Prod.fst) ∨
      ∃ value, (entries.foldl (fun m entry => m.set entry.1 entry.2) m).get? key = some value ∧
        (key, value) ∈ entries := by
  induction entries generalizing m with
  | nil => exact Or.inl ⟨rfl, List.not_mem_nil⟩
  | cons entry entries ih =>
      obtain ⟨k, value⟩ := entry
      rw [List.foldl_cons]
      rcases ih (m.set k value) with ⟨heq, hnot⟩ | ⟨later, hget, hmem⟩
      · rw [heq, get?_set]
        by_cases hk : k = key
        · subst hk
          exact Or.inr ⟨value, if_pos rfl, List.mem_cons_self⟩
        · refine Or.inl ⟨if_neg hk, ?_⟩
          rw [List.map_cons, List.mem_cons, not_or]
          exact ⟨Ne.symm hk, hnot⟩
      · exact Or.inr ⟨later, hget, List.mem_cons_of_mem _ hmem⟩

/-- A map built from entries holds, for each of their keys, the value of some entry. -/
theorem exists_get?_ofList {entries : List (κ × ν)} {key : κ}
    (h : key ∈ entries.map Prod.fst) :
    ∃ value, (ofList entries).get? key = some value ∧ (key, value) ∈ entries := by
  rcases get?_foldl_set entries empty key with ⟨-, hnot⟩ | hfound
  · exact absurd h hnot
  · exact hfound

end OrderedMap

/-! ## Sets -/

/-- A set iterated in insertion order. -/
structure OrderedSet (α : Type u) where
  elems : List α
  nodup : elems.Nodup

namespace OrderedSet

variable {α : Type u}

@[ext] theorem ext {s t : OrderedSet α} (h : s.elems = t.elems) : s = t := by
  cases s
  cases t
  simpa using h

instance : Membership α (OrderedSet α) := ⟨fun s a => a ∈ s.elems⟩

instance [DecidableEq α] (a : α) (s : OrderedSet α) : Decidable (a ∈ s) :=
  inferInstanceAs (Decidable (a ∈ s.elems))

theorem mem_def {a : α} {s : OrderedSet α} : a ∈ s ↔ a ∈ s.elems := Iff.rfl

/-- The set without elements. -/
def empty : OrderedSet α := ⟨[], List.nodup_nil⟩

/-- The number of elements. -/
def size (s : OrderedSet α) : ℕ := s.elems.length

@[simp] theorem not_mem_empty (a : α) : a ∉ (empty : OrderedSet α) := List.not_mem_nil

theorem eq_empty_iff {s : OrderedSet α} : s = empty ↔ ∀ a, a ∉ s := by
  constructor
  · rintro rfl a
    exact not_mem_empty a
  · intro h
    exact ext (List.eq_nil_iff_forall_not_mem.2 h)

variable [DecidableEq α]

/-- Add `a` after the elements already there, or leave the set as it is. -/
def add (s : OrderedSet α) (a : α) : OrderedSet α :=
  if h : a ∈ s.elems then s
  else ⟨s.elems ++ [a], List.nodup_append.2 ⟨s.nodup, List.nodup_singleton a, by
    intro x hx y hy hxy
    rw [List.mem_singleton] at hy
    exact h (by rw [← hy, ← hxy]; exact hx)⟩⟩

/-- Remove `a`. -/
def delete (s : OrderedSet α) (a : α) : OrderedSet α :=
  ⟨s.elems.filter (fun x => x ≠ a), List.filter_sublist.nodup s.nodup⟩

/-- The set of the elements of a list, in order of first occurrence. -/
def ofList (as : List α) : OrderedSet α := as.foldl add empty

@[simp] theorem mem_add {s : OrderedSet α} {a b : α} : b ∈ s.add a ↔ b = a ∨ b ∈ s := by
  unfold add
  split
  · rename_i h
    exact ⟨Or.inr, fun h' => h'.elim (fun heq => heq ▸ h) id⟩
  · simp only [mem_def, List.mem_append, List.mem_singleton, or_comm]

@[simp] theorem mem_delete {s : OrderedSet α} {a b : α} : b ∈ s.delete a ↔ b ∈ s ∧ b ≠ a := by
  simp only [mem_def, delete, List.mem_filter, decide_eq_true_eq]

theorem elems_add_of_not_mem {s : OrderedSet α} {a : α} (h : a ∉ s) :
    (s.add a).elems = s.elems ++ [a] := by
  unfold add
  rw [dif_neg (mem_def.not.1 h)]

theorem add_of_mem {s : OrderedSet α} {a : α} (h : a ∈ s) : s.add a = s := by
  unfold add
  rw [dif_pos (mem_def.1 h)]

theorem delete_of_not_mem {s : OrderedSet α} {a : α} (h : a ∉ s) : s.delete a = s := by
  refine ext (List.filter_eq_self.2 fun b hb => ?_)
  rw [decide_eq_true_eq]
  rintro rfl
  exact h hb

theorem mem_foldl_add {s : OrderedSet α} {as : List α} {b : α} :
    b ∈ as.foldl add s ↔ b ∈ s ∨ b ∈ as := by
  induction as generalizing s with
  | nil => simp
  | cons a as ih => rw [List.foldl_cons, ih, mem_add, List.mem_cons]; tauto

@[simp] theorem mem_ofList {as : List α} {b : α} : b ∈ ofList as ↔ b ∈ as := by
  rw [ofList, mem_foldl_add]
  simp

end OrderedSet
