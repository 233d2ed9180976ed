import Mathlib.Data.List.Sort
import RlyGateway.Library.OrderedMap

/-!
# Updating and sorting ordered maps

Two bulk operations on an ordered map, an update of every value and an update of the values whose
keys another map has, and the values in the order of their keys. Two maps, one of which has all the
keys of the other, list the same values exactly when they hold the same values.
-/

namespace OrderedMap

universe u v w

variable {κ : Type u} {ν : Type v} {υ : Type w}

/-! ## Updates -/

/-- Replace every value. -/
def mapValues (f : ν → ν) (m : OrderedMap κ ν) : OrderedMap κ ν :=
  ⟨m.entries.map fun entry => (entry.1, f entry.2), by
    rw [List.map_map]
    exact m.nodup⟩

theorem keys_mapValues (f : ν → ν) (m : OrderedMap κ ν) : (m.mapValues f).keys = m.keys := by
  rw [keys, mapValues, List.map_map]
  rfl

section Lookup

variable [DecidableEq κ]

theorem lookupEntry_map (f : ν → ν) (key : κ) (entries : List (κ × ν)) :
    lookupEntry key (entries.map fun entry => (entry.1, f entry.2)) =
      (lookupEntry key entries).map f := by
  induction entries with
  | nil => rfl
  | cons entry entries ih =>
      obtain ⟨k, value⟩ := entry
      rw [List.map_cons, lookupEntry, lookupEntry]
      by_cases hk : k = key
      · rw [if_pos hk, if_pos hk, Option.map_some]
      · rw [if_neg hk, if_neg hk, ih]

theorem get?_mapValues (f : ν → ν) (m : OrderedMap κ ν) (key : κ) :
    (m.mapValues f).get? key = (m.get? key).map f :=
  lookupEntry_map f key m.entries

/-- Update one value, if it is there. -/
def updateOne (f : ν → υ → ν) (m : OrderedMap κ ν) (entry : κ × υ) : OrderedMap κ ν :=
  match m.get? entry.1 with
  | some value => m.set entry.1 (f value entry.2)
  | none => m

/-- Update the values whose keys `updates` has, in its order. -/
def updateEach (f : ν → υ → ν) (m : OrderedMap κ ν) (updates : OrderedMap κ υ) : OrderedMap κ ν :=
  updates.entries.foldl (updateOne f) m

theorem keys_updateOne (f : ν → υ → ν) (m : OrderedMap κ ν) (entry : κ × υ) :
    (m.updateOne f entry).keys = m.keys := by
  unfold updateOne
  split
  case h_1 value hvalue => rw [keys_set, if_pos (mem_keys_of_get? hvalue)]
  case h_2 => rfl

theorem get?_updateOne (f : ν → υ → ν) (m : OrderedMap κ ν) (entry : κ × υ) (key : κ) :
    (m.updateOne f entry).get? key =
      if entry.1 = key then (m.get? key).map (f · entry.2) else m.get? key := by
  unfold updateOne
  by_cases hkey : entry.1 = key
  · subst hkey
    rw [if_pos rfl]
    cases hvalue : m.get? entry.1 with
    | some value => rw [get?_set_self, Option.map_some]
    | none => exact hvalue
  · rw [if_neg hkey]
    split
    · rw [get?_set_ne m hkey]
    · rfl

theorem keys_updateEach (f : ν → υ → ν) (m : OrderedMap κ ν) (updates : OrderedMap κ υ) :
    (m.updateEach f updates).keys = m.keys := by
  unfold updateEach
  induction updates.entries generalizing m with
  | nil => rfl
  | cons entry entries ih => rw [List.foldl_cons, ih, keys_updateOne]

private theorem get?_foldl_updateOne (f : ν → υ → ν) (m : OrderedMap κ ν)
    {entries : List (κ × υ)} (hnodup : (entries.map Prod.fst).Nodup) (key : κ) :
    (entries.foldl (updateOne f) m).get? key =
      (m.get? key).map fun value => (lookupEntry key entries).elim value (f value) := by
  induction entries generalizing m with
  | nil => simp [lookupEntry]
  | cons entry entries ih =>
      obtain ⟨k, update⟩ := entry
      rw [List.map_cons, List.nodup_cons] at hnodup
      rw [List.foldl_cons, ih _ hnodup.2, get?_updateOne, lookupEntry]
      by_cases hk : k = key
      · subst hk
        -- no later entry has this key
        rw [if_pos rfl, if_pos rfl, lookupEntry_eq_none.2 hnodup.1]
        simp [Function.comp_def]
      · rw [if_neg hk, if_neg hk]

/-- An update changes each value by the update of its key, if there is one. -/
theorem get?_updateEach (f : ν → υ → ν) (m : OrderedMap κ ν) (updates : OrderedMap κ υ) (key : κ) :
    (m.updateEach f updates).get? key =
      (m.get? key).map fun value => (updates.get? key).elim value (f value) :=
  get?_foldl_updateOne f m updates.nodup key

end Lookup

/-! ## Values by key -/

section Sorted

variable [LinearOrder κ]

/-- The entries in the order of their keys. -/
def sortedEntries (m : OrderedMap κ ν) : List (κ × ν) :=
  m.entries.insertionSort fun left right => left.1 ≤ right.1

/-- The values in the order of their keys. -/
def sortedValues (m : OrderedMap κ ν) : List ν := m.sortedEntries.map Prod.snd

theorem sortedEntries_keys (m : OrderedMap κ ν) :
    m.sortedEntries.map Prod.fst = m.keys.insertionSort (· ≤ ·) :=
  List.map_insertionSort _ _ Prod.fst m.entries fun _ _ _ _ => Iff.rfl

/-- The values are what the map holds for the sorted keys. -/
theorem map_some_sortedValues (m : OrderedMap κ ν) :
    m.sortedValues.map some = (m.keys.insertionSort (· ≤ ·)).map m.get? := by
  rw [← sortedEntries_keys, sortedValues, List.map_map, List.map_map]
  refine List.map_congr_left fun entry hmem => ?_
  have hentry : entry ∈ m.entries := (List.mem_insertionSort _).1 hmem
  exact (get?_eq_some.2 hentry).symm

theorem map_some_map_sortedValues {τ : Type*} (m : OrderedMap κ ν) (f : ν → τ) :
    (m.sortedValues.map f).map some =
      (m.keys.insertionSort (· ≤ ·)).map fun key => (m.get? key).map f :=
  calc (m.sortedValues.map f).map some
      = (m.sortedValues.map some).map (Option.map f) := by
        rw [List.map_map, List.map_map]
        rfl
    _ = (m.keys.insertionSort (· ≤ ·)).map fun key => (m.get? key).map f := by
        rw [map_some_sortedValues, List.map_map]
        rfl

theorem length_sortedValues (m : OrderedMap κ ν) : m.sortedValues.length = m.keys.length := by
  have hlength := congrArg List.length m.map_some_sortedValues
  rwa [List.length_map, List.length_map, List.length_insertionSort] at hlength

/-- Maps with the same keys in another order sort them alike. -/
theorem insertionSort_keys_eq {m : OrderedMap κ ν} {m' : OrderedMap κ υ}
    (h : m.keys.Perm m'.keys) :
    m.keys.insertionSort (· ≤ ·) = m'.keys.insertionSort (· ≤ ·) := by
  have hperm := (List.perm_insertionSort (· ≤ ·) m.keys).trans
    (h.trans (List.perm_insertionSort (· ≤ ·) m'.keys).symm)
  exact hperm.eq_of_pairwise (fun _ _ _ _ => le_antisymm) (List.pairwise_insertionSort _ _)
    (List.pairwise_insertionSort _ _)

/-- Where the second map has the keys of the first, the sorted values translate alike exactly when
the values of every key do. -/
theorem map_sortedValues_eq_iff {τ : Type*} {m : OrderedMap κ ν} {m' : OrderedMap κ υ}
    {f : ν → τ} {g : υ → τ} (hkeys : ∀ key ∈ m.keys, key ∈ m'.keys) :
    m.sortedValues.map f = m'.sortedValues.map g ↔
      ∀ key, (m.get? key).map f = (m'.get? key).map g := by
  have hsub : m.keys.Subperm m'.keys := List.subperm_of_subset m.nodup hkeys
  have hleft := m.map_some_map_sortedValues f
  have hright := m'.map_some_map_sortedValues g
  constructor
  · intro heq key
    have hlength : m'.keys.length ≤ m.keys.length := by
      have hlengths := congrArg List.length heq
      rw [List.length_map, List.length_map, length_sortedValues, length_sortedValues] at hlengths
      omega
    have hperm : m.keys.Perm m'.keys := hsub.perm_of_length_le hlength
    have hvalues := congrArg (List.map some) heq
    rw [hleft, hright, insertionSort_keys_eq hperm, List.map_inj_left] at hvalues
    by_cases hmem : key ∈ m'.keys
    · exact hvalues key ((List.mem_insertionSort _).2 hmem)
    · rw [get?_eq_none.2 hmem, get?_eq_none.2 fun h => hmem (hkeys key h)]
      rfl
  · intro h
    have hperm : m.keys.Perm m'.keys := by
      refine (List.perm_ext_iff_of_nodup m.nodup m'.nodup).2 fun key => ?_
      show key ∈ m.keys ↔ key ∈ m'.keys
      have hsome := congrArg Option.isSome (h key)
      rw [Option.isSome_map, Option.isSome_map] at hsome
      rw [mem_keys_iff, mem_keys_iff, ← Option.isSome_iff_exists, ← Option.isSome_iff_exists, hsome]
    have hvalues : (m.sortedValues.map f).map some = (m'.sortedValues.map g).map some := by
      rw [hleft, hright, insertionSort_keys_eq hperm]
      exact List.map_congr_left fun key _ => h key
    exact (List.map_injective_iff.2 fun _ _ => Option.some.inj) hvalues

/-- Where the second map has the keys of the first, the sorted values are the same exactly when the
maps hold the same values. -/
theorem sortedValues_eq_iff {m m' : OrderedMap κ ν} (hkeys : ∀ key ∈ m.keys, key ∈ m'.keys) :
    m.sortedValues = m'.sortedValues ↔ ∀ key, m.get? key = m'.get? key := by
  have hiff := map_sortedValues_eq_iff (f := id) (g := id) hkeys
  simpa only [List.map_id, Option.map_id, id] using hiff

/-- A list is translated to another one exactly if each of its items is. -/
theorem mapM_eq_some_iff (f : ν → Option υ) {l : List ν} {l' : List υ} :
    l.mapM f = some l' ↔ l.map f = l'.map some := by
  induction l generalizing l' with
  | nil => cases l' <;> simp
  | cons a l ih =>
      rw [List.mapM_cons, List.map_cons]
      cases l' with
      | nil => cases f a <;> cases l.mapM f <;> simp
      | cons b l' =>
          cases hf : f a with
          | none => simp
          | some c =>
              cases hrest : l.mapM f with
              | none =>
                  have hnot : ¬ l.map f = l'.map some := fun h => by
                    rw [ih.2 h] at hrest
                    cases hrest
                  simp [hnot]
              | some cs =>
                  rw [List.map_cons, List.cons.injEq, ← ih, hrest]
                  simp

/-- The sorted values of a map are translated to those of a map with the same keys exactly if the
value of each key is. -/
theorem mapM_sortedValues_eq_some_iff (f : ν → Option υ) {m : OrderedMap κ ν}
    {m' : OrderedMap κ υ} (hkeys : m.keys = m'.keys) :
    m.sortedValues.mapM f = some m'.sortedValues ↔ ∀ key, (m.get? key).bind f = m'.get? key := by
  rw [mapM_eq_some_iff, map_sortedValues_eq_iff fun key hmem => hkeys ▸ hmem]
  refine forall_congr' fun key => ?_
  have hsome : (m.get? key).isSome = (m'.get? key).isSome := by
    rw [Bool.eq_iff_iff, Option.isSome_iff_exists, Option.isSome_iff_exists, ← mem_keys_iff,
      ← mem_keys_iff, hkeys]
  revert hsome
  cases m.get? key <;> cases m'.get? key <;> simp

end Sorted

end OrderedMap
