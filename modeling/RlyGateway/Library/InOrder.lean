import Mathlib.Data.List.Pairwise

/-!
# Keeping a sequence in order

A translation that gives every part of a sequence no more items than the part has. The items of the
whole sequence survive, in order, only where those of every part do.
-/

namespace List

variable {α β : Type*}

/-- A sequence that is no longer contains another one only if it is that one. -/
theorem sublist_iff_eq_of_length_le {as bs : List α} (h : bs.length ≤ as.length) :
    as.Sublist bs ↔ as = bs := by
  constructor
  · intro hsub
    exact hsub.eq_of_length_le h
  · rintro rfl
    exact Sublist.refl as

/-- A sequence of two parts is kept by one with no longer parts only if both parts are. -/
theorem append_sublist_append_iff {as bs as' bs' : List β} (ha : as'.length ≤ as.length)
    (hb : bs'.length ≤ bs.length) : (as ++ bs).Sublist (as' ++ bs') ↔ as = as' ∧ bs = bs' := by
  constructor
  · intro h
    have heq : as ++ bs = as' ++ bs' := by
      apply h.eq_of_length_le
      rw [length_append, length_append]
      omega
    have hlength : as.length = as'.length := by
      have hboth := congrArg length heq
      rw [length_append, length_append] at hboth
      omega
    exact append_inj heq hlength
  · rintro ⟨rfl, rfl⟩
    exact Sublist.refl _

/-- No part gets longer, and so neither does the whole. -/
theorem length_flatMap_le {f g : α → List β} {l : List α}
    (h : ∀ a ∈ l, (g a).length ≤ (f a).length) :
    (l.flatMap g).length ≤ (l.flatMap f).length := by
  induction l with
  | nil => exact Nat.le_refl _
  | cons a l ih =>
      have hhead := h a mem_cons_self
      have htail := ih fun b hb => h b (mem_cons_of_mem a hb)
      rw [flatMap_cons, flatMap_cons, length_append, length_append]
      omega

/-- The items of a sequence of parts survive exactly where those of each part do. -/
theorem flatMap_sublist_flatMap_iff {f g : α → List β} {l : List α}
    (h : ∀ a ∈ l, (g a).length ≤ (f a).length) :
    (l.flatMap f).Sublist (l.flatMap g) ↔ ∀ a ∈ l, f a = g a := by
  induction l with
  | nil => simp
  | cons a l ih =>
      have htail : ∀ b ∈ l, (g b).length ≤ (f b).length := fun b hb => h b (mem_cons_of_mem a hb)
      have hsame : l.flatMap f = l.flatMap g ↔ ∀ b ∈ l, f b = g b := by
        rw [← ih htail, sublist_iff_eq_of_length_le (length_flatMap_le htail)]
      rw [flatMap_cons, flatMap_cons,
        append_sublist_append_iff (h a mem_cons_self) (length_flatMap_le htail), hsame,
        forall_mem_cons]

/-- The items of the parts that are picked are those of all parts, one by one. -/
theorem flatMap_filterMap_eq {γ : Type*} {f : α → Option γ} {g : γ → List β} {k : α → List β}
    {l : List α} (h : ∀ a ∈ l, (f a).toList.flatMap g = k a) :
    (l.filterMap f).flatMap g = l.flatMap k := by
  induction l with
  | nil => rfl
  | cons a l ih =>
      have hhead := h a mem_cons_self
      have htail := ih fun b hb => h b (mem_cons_of_mem a hb)
      rw [filterMap_cons, flatMap_cons, ← htail, ← hhead]
      cases f a with
      | none => rfl
      | some c => rw [flatMap_cons, Option.toList_some, flatMap_singleton]

/-- A sequence without a part that gets longer is the same exactly where each part is. -/
theorem flatMap_eq_flatMap_iff {f g : α → List β} {l : List α}
    (h : ∀ a ∈ l, (g a).length ≤ (f a).length) :
    l.flatMap f = l.flatMap g ↔ ∀ a ∈ l, f a = g a := by
  rw [← flatMap_sublist_flatMap_iff h, sublist_iff_eq_of_length_le (length_flatMap_le h)]

/-- Moving the items with a property behind the others changes nothing exactly where they already
stand there. -/
theorem filter_not_append_filter_eq_iff (p : α → Bool) (l : List α) :
    l.filter (fun a => !p a) ++ l.filter p = l ↔
      l.Pairwise fun a b => p a = true → p b = true := by
  induction l with
  | nil => simp
  | cons a l ih =>
      rw [pairwise_cons, ← ih]
      by_cases ha : p a = true
      · rw [filter_cons_of_neg (by simp [ha]), filter_cons_of_pos ha]
        constructor
        · intro h
          have hnone : l.filter (fun b => !p b) = [] := by
            -- a kept item would stand in front of `a`, which has the property
            cases hkept : l.filter (fun b => !p b) with
            | nil => rfl
            | cons b bs =>
                have hb : b ∈ l.filter (fun b => !p b) := by
                  rw [hkept]
                  exact mem_cons_self
                rw [hkept, cons_append, cons.injEq] at h
                have hnot := (mem_filter.1 hb).2
                rw [h.1, ha] at hnot
                cases hnot
          have hall : ∀ b ∈ l, p b = true := by
            intro b hb
            have hfilter := filter_eq_nil_iff.1 hnone b hb
            simpa using hfilter
          refine ⟨fun b hb _ => hall b hb, ?_⟩
          rw [hnone, nil_append]
          exact filter_eq_self.2 hall
        · rintro ⟨hall, -⟩
          have hevery : ∀ b ∈ l, p b = true := fun b hb => hall b hb ha
          have hnone : l.filter (fun b => !p b) = [] := by
            rw [filter_eq_nil_iff]
            intro b hb
            simp [hevery b hb]
          rw [hnone, nil_append, filter_eq_self.2 hevery]
      · rw [filter_cons_of_pos (by simp [ha]), filter_cons_of_neg ha, cons_append,
          cons.injEq, and_iff_right rfl]
        exact (and_iff_right fun b _ hpa => absurd hpa ha).symm

end List
