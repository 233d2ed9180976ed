import Mathlib.Data.List.Basic
import RlyGateway.Library.OrderedMap

/-!
# Merging ordered maps

A map restricted to some of its keys, a map written over another, and a map whose missing keys are
filled from another. Each is described by what a lookup finds.
-/

namespace OrderedMap

universe u v

variable {κ : Type u} {ν : Type v} [DecidableEq κ]

/-- The entries whose keys are to be kept. -/
def filterKeys (keep : κ → Bool) (m : OrderedMap κ ν) : OrderedMap κ ν :=
  ⟨m.entries.filter fun entry => keep entry.1, by
    have hsub : ((m.entries.filter fun entry => keep entry.1).map Prod.fst).Sublist
        (m.entries.map Prod.fst) := List.filter_sublist.map Prod.fst
    exact hsub.nodup m.nodup⟩

theorem get?_filterKeys (keep : κ → Bool) (m : OrderedMap κ ν) (key : κ) :
    (m.filterKeys keep).get? key = if keep key then m.get? key else none := by
  apply Option.ext
  intro value
  rw [get?_eq_some, filterKeys, List.mem_filter]
  by_cases hkeep : keep key = true
  · simp [hkeep, get?_eq_some]
  · simp [hkeep]

omit [DecidableEq κ] in
theorem sublist_keys_filterMap (f : κ → ν → Option ν) (entries : List (κ × ν)) :
    ((entries.filterMap fun entry => (f entry.1 entry.2).map fun value => (entry.1, value)).map
      Prod.fst).Sublist (entries.map Prod.fst) := by
  induction entries with
  | nil => exact List.Sublist.refl _
  | cons entry entries ih =>
      rw [List.filterMap_cons]
      cases f entry.1 entry.2 with
      | none => exact ih.cons _
      | some value => exact ih.cons_cons _

/-- Replace every value, or drop its entry. -/
def filterMapValues (f : κ → ν → Option ν) (m : OrderedMap κ ν) : OrderedMap κ ν :=
  ⟨m.entries.filterMap fun entry => (f entry.1 entry.2).map fun value => (entry.1, value),
    (sublist_keys_filterMap f m.entries).nodup m.nodup⟩

theorem get?_filterMapValues (f : κ → ν → Option ν) (m : OrderedMap κ ν) (key : κ) :
    (m.filterMapValues f).get? key = (m.get? key).bind (f key) := by
  apply Option.ext
  intro value
  rw [get?_eq_some, filterMapValues, List.mem_filterMap, Option.bind_eq_some_iff]
  constructor
  · rintro ⟨entry, hentry, hvalue⟩
    obtain ⟨new, hnew, heq⟩ := Option.map_eq_some_iff.1 hvalue
    cases heq
    exact ⟨entry.2, get?_eq_some.2 hentry, hnew⟩
  · rintro ⟨old, hold, hnew⟩
    refine ⟨(key, old), get?_eq_some.1 hold, ?_⟩
    rw [hnew, Option.map_some]

/-- Every entry of `more` is written over `base`. -/
def assign (base more : OrderedMap κ ν) : OrderedMap κ ν :=
  more.entries.foldl (fun m entry => m.set entry.1 entry.2) base

/-- The entries of `more` that `base` has no key for are added, except those to be skipped. -/
def addMissing (skip : κ → Bool) (base more : OrderedMap κ ν) : OrderedMap κ ν :=
  more.entries.foldl (fun m entry =>
    if skip entry.1 || (m.get? entry.1).isSome then m else m.set entry.1 entry.2) base

private theorem get?_foldl_assign {entries : List (κ × ν)}
    (hnodup : (entries.map Prod.fst).Nodup) (m : OrderedMap κ ν) (key : κ) :
    (entries.foldl (fun m entry => m.set entry.1 entry.2) m).get? key =
      (lookupEntry key entries).or (m.get? key) := by
  induction entries generalizing m with
  | nil => rfl
  | cons entry entries ih =>
      obtain ⟨k, value⟩ := entry
      rw [List.map_cons, List.nodup_cons] at hnodup
      rw [List.foldl_cons, ih hnodup.2, get?_set, lookupEntry]
      by_cases hk : k = key
      · subst hk
        -- no later entry has this key
        simp [lookupEntry_eq_none.2 hnodup.1]
      · simp [hk]

theorem get?_assign (base more : OrderedMap κ ν) (key : κ) :
    (base.assign more).get? key = (more.get? key).or (base.get? key) :=
  get?_foldl_assign more.nodup base key

private theorem get?_foldl_addMissing (skip : κ → Bool) {entries : List (κ × ν)}
    (hnodup : (entries.map Prod.fst).Nodup) (m : OrderedMap κ ν) (key : κ) :
    (entries.foldl (fun m entry =>
        if skip entry.1 || (m.get? entry.1).isSome then m else m.set entry.1 entry.2) m).get? key =
      (m.get? key).or (if skip key then none else lookupEntry key entries) := by
  induction entries generalizing m with
  | nil => simp [lookupEntry]
  | cons entry entries ih =>
      obtain ⟨k, value⟩ := entry
      rw [List.map_cons, List.nodup_cons] at hnodup
      rw [List.foldl_cons, ih hnodup.2, lookupEntry]
      by_cases hk : k = key
      · subst hk
        rw [lookupEntry_eq_none.2 hnodup.1]
        by_cases hskip : skip k = true
        · simp [hskip]
        · cases hget : m.get? k <;> simp [hskip, hget]
      · rw [if_neg hk]
        split
        · rfl
        · rw [get?_set_ne m hk]

theorem get?_addMissing (skip : κ → Bool) (base more : OrderedMap κ ν) (key : κ) :
    (base.addMissing skip more).get? key =
      (base.get? key).or (if skip key then none else more.get? key) :=
  get?_foldl_addMissing skip more.nodup base key

/-- Writing the entries of a map again gives a map with the same lookups. -/
theorem get?_ofList_entries (m : OrderedMap κ ν) (key : κ) :
    (ofList m.entries).get? key = m.get? key := by
  rw [ofList, get?_foldl_assign m.nodup, get?_empty, Option.or_none]
  rfl

end OrderedMap
