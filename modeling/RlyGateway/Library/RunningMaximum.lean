import Mathlib.Data.List.Basic
import Mathlib.Order.Lattice

/-!
# Running maxima

A loop over the items of a list that starts with a seed and goes on with each item of a strictly
greater rank. What it ends with is the seed or an item, and nothing of a greater rank was seen.
-/

universe u v

namespace List

variable {α : Type u} {β : Type v} [LinearOrder β] (rank : α → β)

/-- The last item of a strictly greater rank than the seed and the items before it. -/
def runningMax (seed : α) (items : List α) : α :=
  items.foldl (fun worst item => if rank worst < rank item then item else worst) seed

@[simp]
theorem runningMax_nil (seed : α) : runningMax rank seed [] = seed := rfl

theorem runningMax_cons (seed item : α) (items : List α) :
    runningMax rank seed (item :: items) =
      runningMax rank (if rank seed < rank item then item else seed) items := rfl

theorem runningMax_mem (seed : α) (items : List α) :
    runningMax rank seed items ∈ seed :: items := by
  induction items generalizing seed with
  | nil => exact mem_cons_self
  | cons item items ih =>
      rw [runningMax_cons]
      split
      · exact mem_cons_of_mem seed (ih item)
      · obtain heq | hmem := mem_cons.1 (ih seed)
        · rw [heq]
          exact mem_cons_self
        · exact mem_cons_of_mem seed (mem_cons_of_mem item hmem)

/-- The outcome ranks at least as high as the seed. -/
theorem rank_seed_le_runningMax (seed : α) (items : List α) :
    rank seed ≤ rank (runningMax rank seed items) := by
  induction items generalizing seed with
  | nil => exact le_refl _
  | cons item items ih =>
      rw [runningMax_cons]
      split
      · rename_i hlt
        exact hlt.le.trans (ih item)
      · exact ih seed

theorem rank_le_runningMax (seed : α) {items : List α} {item : α} (h : item ∈ items) :
    rank item ≤ rank (runningMax rank seed items) := by
  induction items generalizing seed with
  | nil => cases h
  | cons head items ih =>
      rw [runningMax_cons]
      obtain rfl | h := mem_cons.1 h
      · split
        · exact rank_seed_le_runningMax rank item items
        · rename_i hlt
          exact (not_lt.1 hlt).trans (rank_seed_le_runningMax rank seed items)
      · exact ih _ h

/-- A seed that no item outranks is the outcome. -/
theorem runningMax_eq_seed {seed : α} {items : List α} (h : ∀ item ∈ items, rank item ≤ rank seed) :
    runningMax rank seed items = seed := by
  induction items with
  | nil => rfl
  | cons item items ih =>
      rw [forall_mem_cons] at h
      rw [runningMax_cons, if_neg (not_lt.2 h.1), ih h.2]

/-- The outcome is an item of the list just when some item ranks at least as high as the seed, for
ranks that tell items apart. -/
theorem runningMax_mem_items_iff (hrank : ∀ a b, rank a = rank b → a = b) (seed : α)
    (items : List α) :
    runningMax rank seed items ∈ items ↔ ∃ item ∈ items, rank seed ≤ rank item := by
  constructor
  · intro hmem
    exact ⟨_, hmem, rank_seed_le_runningMax rank seed items⟩
  · rintro ⟨item, hitem, hle⟩
    obtain heq | hmem := mem_cons.1 (runningMax_mem rank seed items)
    · -- the seed stayed, so the item ranks as the seed does
      have hge : rank item ≤ rank seed := by
        have hmax := rank_le_runningMax rank seed hitem
        rwa [heq] at hmax
      rw [heq, ← hrank item seed (le_antisymm hge hle)]
      exact hitem
    · exact hmem

end List
