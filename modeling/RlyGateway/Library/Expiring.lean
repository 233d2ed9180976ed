import RlyGateway.Library.MapMerge
import Mathlib.Order.Lattice

/-!
# Maps whose entries expire

Every entry of the map has an instant at which it expires. Expired entries are purged now and then;
what is live later does not depend on when.
-/

namespace OrderedMap

variable {κ ν τ : Type*} [DecidableEq κ] [LinearOrder τ] (expiry : ν → τ)

/-- The map without the entries that have expired. -/
def purge (now : τ) (m : OrderedMap κ ν) : OrderedMap κ ν :=
  m.filterMapValues fun _ value => if expiry value ≤ now then none else some value

/-- The value of `key`, if it has not expired. -/
def live? (now : τ) (m : OrderedMap κ ν) (key : κ) : Option ν :=
  (m.get? key).filter fun value => now < expiry value

variable {expiry} {m : OrderedMap κ ν} {key key' : κ} {value value' : ν} {now earlier : τ}

theorem live?_eq_some :
    m.live? expiry now key = some value ↔ m.get? key = some value ∧ now < expiry value := by
  rw [live?, Option.filter_eq_some_iff, decide_eq_true_eq]

/-- What a purge leaves is what is live at the time. -/
theorem get?_purge : (m.purge expiry now).get? key = m.live? expiry now key := by
  rw [purge, get?_filterMapValues, live?]
  cases m.get? key with
  | none => rfl
  | some value =>
      rw [Option.bind_some, Option.filter_some]
      by_cases h : expiry value ≤ now
      · simp [h]
      · simp [h, lt_of_not_ge h]

/-- An entry that a purge leaves was there. -/
theorem get?_of_get?_purge (h : (m.purge expiry now).get? key = some value) :
    m.get? key = some value := by
  rw [get?_purge] at h
  exact (live?_eq_some.1 h).1

/-- A purge does not change what is live at that time or later. -/
theorem live?_purge (h : earlier ≤ now) :
    (m.purge expiry earlier).live? expiry now key = m.live? expiry now key := by
  refine Option.ext fun value => ?_
  rw [live?_eq_some, get?_purge, live?_eq_some, live?_eq_some]
  constructor
  · rintro ⟨⟨hget, -⟩, hnow⟩
    exact ⟨hget, hnow⟩
  · rintro ⟨hget, hnow⟩
    exact ⟨⟨hget, lt_of_le_of_lt h hnow⟩, hnow⟩

/-- A write is live until it expires, and nothing else changes. -/
theorem live?_set : (m.set key value).live? expiry now key' =
    if key = key' then (some value).filter fun value => now < expiry value
      else m.live? expiry now key' := by
  rw [live?, get?_set]
  split <;> rfl

theorem live?_erase :
    (m.erase key).live? expiry now key' = if key = key' then none else m.live? expiry now key' := by
  rw [live?, get?_erase]
  split <;> rfl

@[simp] theorem live?_empty : (empty : OrderedMap κ ν).live? expiry now key = none := rfl

end OrderedMap
