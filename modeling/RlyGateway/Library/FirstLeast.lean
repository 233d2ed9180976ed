import Mathlib.Data.List.Sort

/-!
# The first of the least items of a list

What a stable sort puts at the head of a list, said without sorting.
-/

namespace List

variable {α : Type*} (r : α → α → Prop)

/-- The first of the least items: no item before it comes first in the order, and it comes first
among those after it. -/
def IsFirstLeast (items : List α) (item : α) : Prop :=
  ∃ before after, items = before ++ item :: after ∧ (∀ other ∈ before, ¬ r other item) ∧
    ∀ other ∈ after, r item other

variable {r}

theorem not_isFirstLeast_nil {item : α} : ¬ IsFirstLeast r [] item := by
  rintro ⟨before, after, h, -⟩
  simp at h

/-- Either the head is the first of the least items, or that of the tail is, where it comes strictly
before the head. -/
theorem isFirstLeast_cons {head item : α} {items : List α} :
    IsFirstLeast r (head :: items) item ↔
      (item = head ∧ ∀ other ∈ items, r head other) ∨
        (¬ r head item ∧ IsFirstLeast r items item) := by
  constructor
  · rintro ⟨before, after, heq, hbefore, hafter⟩
    cases before with
    | nil =>
        cases heq
        exact .inl ⟨rfl, hafter⟩
    | cons _ before =>
        cases heq
        exact .inr ⟨hbefore head mem_cons_self, before, after, rfl,
          fun other hother => hbefore other (mem_cons_of_mem _ hother), hafter⟩
  · rintro (⟨rfl, hrest⟩ | ⟨hhead, before, after, rfl, hbefore, hafter⟩)
    · exact ⟨[], items, rfl, fun other hother => absurd hother not_mem_nil, hrest⟩
    · exact ⟨head :: before, after, rfl, forall_mem_cons.2 ⟨hhead, hbefore⟩, hafter⟩

/-- It comes before every item. -/
theorem IsFirstLeast.rel (htotal : ∀ a b, r a b ∨ r b a) {items : List α} {item : α}
    (h : IsFirstLeast r items item) : ∀ other ∈ items, r item other := by
  obtain ⟨before, after, rfl, hbefore, hafter⟩ := h
  intro other hother
  rcases mem_append.1 hother with hother | hother
  · exact (htotal item other).resolve_right (hbefore other hother)
  · rcases mem_cons.1 hother with rfl | hother
    · exact (htotal other other).elim id id
    · exact hafter other hother

theorem IsFirstLeast.mem {items : List α} {item : α} (h : IsFirstLeast r items item) :
    item ∈ items := by
  obtain ⟨before, after, rfl, -⟩ := h
  exact mem_append_right _ mem_cons_self

variable [DecidableRel r]

/-- The head of a list after an item has been inserted. -/
theorem head?_orderedInsert (item : α) (items : List α) :
    (items.orderedInsert r item).head? =
      some (items.head?.elim item fun head => if r item head then item else head) := by
  cases items with
  | nil => rfl
  | cons head items =>
      rw [orderedInsert]
      split
      · rename_i h
        exact congrArg some (if_pos h).symm
      · rename_i h
        exact congrArg some (if_neg h).symm

/-- A stable sort puts the first of the least items at the head. -/
theorem head?_insertionSort_eq_some (htotal : ∀ a b, r a b ∨ r b a)
    (htrans : ∀ a b c, r a b → r b c → r a c) {items : List α} {item : α} :
    (items.insertionSort r).head? = some item ↔ IsFirstLeast r items item := by
  induction items generalizing item with
  | nil =>
      refine ⟨fun h => ?_, fun h => absurd h not_isFirstLeast_nil⟩
      cases h
  | cons head items ih =>
      rw [insertionSort_cons, head?_orderedInsert, isFirstLeast_cons, Option.some_inj]
      cases hleast : (items.insertionSort r).head? with
      | none =>
          obtain rfl : items = [] := by
            have hperm := perm_insertionSort r items
            rw [head?_eq_none_iff.1 hleast] at hperm
            exact hperm.nil_eq.symm
          constructor
          · rintro rfl
            exact .inl ⟨rfl, fun other hother => absurd hother not_mem_nil⟩
          · rintro (⟨rfl, -⟩ | ⟨-, h⟩)
            · rfl
            · exact absurd h not_isFirstLeast_nil
      | some least =>
          have hfirst := ih.1 hleast
          have hunique : ∀ other, IsFirstLeast r items other → other = least :=
            fun other h => Option.some.inj ((ih.2 h).symm.trans hleast)
          show (if r head least then head else least) = item ↔ _
          by_cases hhead : r head least
          · rw [if_pos hhead]
            constructor
            · rintro rfl
              exact .inl ⟨rfl, fun other hother =>
                htrans _ _ _ hhead (hfirst.rel htotal other hother)⟩
            · rintro (⟨rfl, -⟩ | ⟨hitem, h⟩)
              · rfl
              · exact absurd (hunique item h ▸ hhead) hitem
          · rw [if_neg hhead]
            constructor
            · rintro rfl
              exact .inr ⟨hhead, hfirst⟩
            · rintro (⟨-, hrest⟩ | ⟨-, h⟩)
              · exact absurd (hrest least hfirst.mem) hhead
              · exact (hunique item h).symm

end List
