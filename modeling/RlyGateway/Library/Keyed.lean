import Mathlib.Data.List.Basic

/-!
# Values found by a key

A list whose elements may carry a value under a key, and the lookup that takes the first value of a
key. Every element finds its own value exactly where the elements of a key do not disagree.
-/

namespace List

/-- What is found in a list is in it and has the property. -/
theorem find?_decide_eq_some {α : Type*} {p : α → Prop} [DecidablePred p] {l : List α} {a : α}
    (h : l.find? (fun b => decide (p b)) = some a) : a ∈ l ∧ p a := by
  have hfound := find?_some h
  exact ⟨mem_of_find?_eq_some h, of_decide_eq_true hfound⟩

/-- Where an element has the property, one is found. -/
theorem exists_find?_decide {α : Type*} {p : α → Prop} [DecidablePred p] {l : List α} {a : α}
    (ha : a ∈ l) (h : p a) : ∃ b, l.find? (fun b => decide (p b)) = some b ∧ b ∈ l ∧ p b := by
  have hsome : (l.find? fun b => decide (p b)).isSome = true :=
    find?_isSome.2 ⟨a, ha, decide_eq_true h⟩
  obtain ⟨b, hb⟩ := Option.isSome_iff_exists.1 hsome
  exact ⟨b, hb, find?_decide_eq_some hb⟩

/-- No element of a list has a property, or a first one has it. -/
theorem exists_first {α : Type*} (p : α → Prop) (l : List α) :
    (∀ a ∈ l, ¬ p a) ∨ ∃ before a after, l = before ++ a :: after ∧ (∀ b ∈ before, ¬ p b) ∧ p a := by
  induction l with
  | nil => exact .inl (by simp)
  | cons head l ih =>
      by_cases hhead : p head
      · exact .inr ⟨[], head, l, rfl, by simp, hhead⟩
      · rcases ih with hnone | ⟨before, a, after, rfl, hbefore, ha⟩
        · exact .inl (forall_mem_cons.2 ⟨hhead, hnone⟩)
        · exact .inr ⟨head :: before, a, after, rfl, forall_mem_cons.2 ⟨hhead, hbefore⟩, ha⟩

/-- At most one element is the first one with a property. -/
theorem first_unique {α : Type*} {p : α → Prop} {before before' after after' : List α} {a a' : α}
    (h : before ++ a :: after = before' ++ a' :: after') (hbefore : ∀ b ∈ before, ¬ p b)
    (ha : p a) (hbefore' : ∀ b ∈ before', ¬ p b) (ha' : p a') :
    before = before' ∧ a = a' ∧ after = after' := by
  induction before generalizing before' with
  | nil =>
      cases before' with
      | nil => simpa using h
      | cons head before' =>
          obtain ⟨rfl, -⟩ := cons.inj h
          exact absurd ha (hbefore' _ mem_cons_self)
  | cons head before ih =>
      cases before' with
      | nil =>
          obtain ⟨rfl, -⟩ := cons.inj h
          exact absurd ha' (hbefore _ mem_cons_self)
      | cons head' before' =>
          obtain ⟨rfl, htail⟩ := cons.inj h
          obtain ⟨rfl, hrest⟩ := ih htail (fun b hb => hbefore _ (mem_cons_of_mem _ hb))
            (fun b hb => hbefore' _ (mem_cons_of_mem _ hb))
          exact ⟨rfl, hrest⟩

section Cuts

variable {α : Type*} {separator : α} {left right left' right' : List α}

/-- A list is cut at its first separator in one way. -/
theorem first_cut_unique (h : left ++ separator :: right = left' ++ separator :: right')
    (hleft : separator ∉ left) (hleft' : separator ∉ left') : left = left' ∧ right = right' := by
  obtain ⟨hbefore, -, hafter⟩ := first_unique (p := (· = separator)) h
    (fun _ hmem heq => hleft (heq ▸ hmem)) rfl (fun _ hmem heq => hleft' (heq ▸ hmem)) rfl
  exact ⟨hbefore, hafter⟩

/-- A list is cut at its last separator in one way. -/
theorem last_cut_unique (h : left ++ separator :: right = left' ++ separator :: right')
    (hright : separator ∉ right) (hright' : separator ∉ right') : left = left' ∧ right = right' := by
  have hreverse : right.reverse ++ separator :: left.reverse =
      right'.reverse ++ separator :: left'.reverse := by
    simpa using congrArg reverse h
  obtain ⟨hafter, hbefore⟩ := first_cut_unique hreverse (by simpa using hright)
    (by simpa using hright')
  exact ⟨reverse_injective hbefore, reverse_injective hafter⟩

/-- A list with one separator is cut in one way. -/
theorem cut_unique [DecidableEq α] (h : left ++ separator :: right = left' ++ separator :: right')
    (hleft : separator ∉ left') (hright : separator ∉ right') : left = left' ∧ right = right' := by
  have hcount := congrArg (count separator) h
  simp only [count_append, count_cons_self] at hcount
  rw [count_eq_zero_of_not_mem hleft, count_eq_zero_of_not_mem hright] at hcount
  have hleft' : separator ∉ left := count_eq_zero.1 (by omega)
  exact first_cut_unique h hleft' hleft

/-- A list that is joined from two is cut in one way exactly where neither has the separator. -/
theorem cut_unique_iff [DecidableEq α] :
    (∀ left' right', left' ++ separator :: right' = left ++ separator :: right →
      left' = left ∧ right' = right) ↔ separator ∉ left ∧ separator ∉ right := by
  constructor
  · intro h
    refine ⟨fun hmem => ?_, fun hmem => ?_⟩
    · obtain ⟨before, after, rfl⟩ := append_of_mem hmem
      have hlength := congrArg length (h before (after ++ separator :: right) (by simp)).1
      simp at hlength
    · obtain ⟨before, after, rfl⟩ := append_of_mem hmem
      have hlength := congrArg length (h (left ++ separator :: before) after (by simp)).1
      simp at hlength
  · rintro ⟨hleft, hright⟩ left' right' h
    exact cut_unique h hleft hright

end Cuts

variable {α κ β : Type*} [DecidableEq κ] (key : α → κ) (value : α → Option β)

/-- The first value of a key. -/
def firstFor (l : List α) (k : κ) : Option β :=
  l.findSome? fun a => if key a = k then value a else none

/-- Elements of one key that carry a value carry the same. -/
def AgreesByKey (l : List α) : Prop :=
  ∀ a ∈ l, ∀ b ∈ l, value a ≠ none → value b ≠ none → key a = key b → value a = value b

variable {key value}

theorem firstFor_append {l rest : List α} {k : κ} :
    (l ++ rest).firstFor key value k = (l.firstFor key value k).or (rest.firstFor key value k) :=
  findSome?_append

/-- What is found is the value of an element of the key. -/
theorem mem_of_firstFor_eq_some {l : List α} {k : κ} {v : β}
    (h : l.firstFor key value k = some v) : ∃ a ∈ l, key a = k ∧ value a = some v := by
  obtain ⟨a, ha, hv⟩ := exists_of_findSome?_eq_some h
  by_cases hkey : key a = k
  · rw [if_pos hkey] at hv
    exact ⟨a, ha, hkey, hv⟩
  · rw [if_neg hkey] at hv
    cases hv

variable (key) in
/-- An element that carries a value makes one be found. -/
theorem firstFor_ne_none {l : List α} {a : α} (ha : a ∈ l) (hv : value a ≠ none) :
    l.firstFor key value (key a) ≠ none := by
  intro hnone
  have hall := findSome?_eq_none_iff.1 hnone a ha
  rw [if_pos rfl] at hall
  exact hv hall

/-- What follows the list is not looked at for the key of an element that carries a value. -/
theorem firstFor_append_of_mem {l rest : List α} {a : α} (ha : a ∈ l) (hv : value a ≠ none) :
    (l ++ rest).firstFor key value (key a) = l.firstFor key value (key a) := by
  obtain ⟨v, hfound⟩ := Option.ne_none_iff_exists'.1 (firstFor_ne_none key ha hv)
  rw [firstFor_append, hfound, Option.some_or]

/-- Where all elements of a key have the same value, or none, that is what is found. -/
theorem firstFor_eq_of_forall {l : List α} {k : κ} {v : Option β} (hmem : ∃ a ∈ l, key a = k)
    (hall : ∀ a ∈ l, key a = k → value a = v) : l.firstFor key value k = v := by
  cases hfound : l.firstFor key value k with
  | some w =>
      obtain ⟨a, ha, hkey, hw⟩ := mem_of_firstFor_eq_some hfound
      rw [← hall a ha hkey, hw]
  | none =>
      obtain ⟨a, ha, rfl⟩ := hmem
      have hnone : value a = none := by
        by_contra hv
        exact firstFor_ne_none key ha hv hfound
      rw [← hall a ha rfl, hnone]

/-- Every element finds its own value exactly where the elements agree. -/
theorem forall_firstFor_iff {l : List α} :
    (∀ a ∈ l, ∀ v, value a = some v → l.firstFor key value (key a) = some v) ↔
      l.AgreesByKey key value := by
  constructor
  · intro h a ha b hb hva hvb hkey
    obtain ⟨v, hv⟩ := Option.ne_none_iff_exists'.1 hva
    obtain ⟨w, hw⟩ := Option.ne_none_iff_exists'.1 hvb
    have hfirst := h a ha v hv
    rw [hkey, h b hb w hw] at hfirst
    rw [hv, hw, hfirst]
  · intro h a ha v hv
    have hva : value a ≠ none := by
      rw [hv]
      exact Option.some_ne_none v
    obtain ⟨w, hfound⟩ := Option.ne_none_iff_exists'.1 (firstFor_ne_none key ha hva)
    obtain ⟨b, hb, hkey, hw⟩ := mem_of_firstFor_eq_some hfound
    have hvb : value b ≠ none := by
      rw [hw]
      exact Option.some_ne_none w
    have hagree := h a ha b hb hva hvb hkey.symm
    rw [hfound, ← hw, ← hagree, hv]

end List
