import Mathlib.Data.List.Forall2

/-!
# Programs that can fail

Inversion of successful runs in `Except`: a bind that succeeds, and a list of runs that all succeed.
-/

universe u v w

namespace Except

variable {ε : Type u} {α : Type v} {β : Type v}

/-- A bind succeeds when both of its parts do. -/
theorem bind_eq_ok {x : Except ε α} {f : α → Except ε β} {b : β} :
    x >>= f = .ok b ↔ ∃ a, x = .ok a ∧ f a = .ok b := by
  constructor
  · intro h
    cases x with
    | error e => cases h
    | ok a => exact ⟨a, rfl, h⟩
  · rintro ⟨a, rfl, h⟩
    exact h

/-- A run that succeeds is one with a result. -/
theorem toOption_eq_some {x : Except ε α} {a : α} : x.toOption = some a ↔ x = .ok a := by
  constructor
  · intro h
    cases x with
    | error e => cases h
    | ok b =>
        cases h
        rfl
  · rintro rfl
    rfl

/-- A run with its result mapped succeeds when the run does. -/
theorem map_eq_ok {x : Except ε α} {f : α → β} {b : β} :
    x.map f = .ok b ↔ ∃ a, x = .ok a ∧ f a = b := by
  constructor
  · intro h
    cases x with
    | error e => cases h
    | ok a => exact ⟨a, rfl, Except.ok.inj h⟩
  · rintro ⟨a, rfl, rfl⟩
    rfl

/-- So does a run with its failure mapped. -/
theorem mapError_eq_ok {δ : Type u} {x : Except ε α} {f : ε → δ} {a : α} :
    x.mapError f = .ok a ↔ x = .ok a := by
  constructor
  · intro h
    cases x with
    | error e => cases h
    | ok b =>
        cases h
        rfl
  · rintro rfl
    rfl

/-- The results of a list of runs that all succeed stand in the order of the runs. -/
theorem forall₂_of_mapM_eq_ok {f : w → Except ε β} {as : List w} {bs : List β}
    (h : as.mapM f = .ok bs) : List.Forall₂ (fun a b => f a = .ok b) as bs := by
  induction as generalizing bs with
  | nil =>
      rw [List.mapM_nil] at h
      cases h
      exact List.Forall₂.nil
  | cons a as ih =>
      rw [List.mapM_cons] at h
      obtain ⟨b, hb, h⟩ := bind_eq_ok.1 h
      obtain ⟨rest, hrest, h⟩ := bind_eq_ok.1 h
      cases h
      exact List.Forall₂.cons hb (ih hrest)

/-- Runs whose results give back what they were run on list it in order. -/
theorem map_eq_of_mapM_eq_ok {f : w → Except ε β} {g : β → w} {as : List w} {bs : List β}
    (h : as.mapM f = .ok bs) (hback : ∀ a ∈ as, ∀ b, f a = .ok b → g b = a) : bs.map g = as := by
  induction as generalizing bs with
  | nil =>
      rw [List.mapM_nil] at h
      cases h
      rfl
  | cons a as ih =>
      rw [List.mapM_cons] at h
      obtain ⟨b, hb, h⟩ := bind_eq_ok.1 h
      obtain ⟨rest, hrest, h⟩ := bind_eq_ok.1 h
      cases h
      rw [List.map_cons, hback a List.mem_cons_self b hb,
        ih hrest fun c hc => hback c (List.mem_cons_of_mem a hc)]

/-- A list of runs succeeds when each of them does. -/
theorem exists_mapM_eq_ok {f : w → Except ε β} {as : List w} (h : ∀ a ∈ as, ∃ b, f a = .ok b) :
    ∃ bs, as.mapM f = .ok bs := by
  induction as with
  | nil => exact ⟨[], List.mapM_nil⟩
  | cons a as ih =>
      obtain ⟨b, hb⟩ := h a List.mem_cons_self
      obtain ⟨bs, hbs⟩ := ih fun c hc => h c (List.mem_cons_of_mem a hc)
      refine ⟨b :: bs, ?_⟩
      rw [List.mapM_cons]
      exact bind_eq_ok.2 ⟨b, hb, bind_eq_ok.2 ⟨bs, hbs, rfl⟩⟩

end Except

/-- Picking something for every element of a list picks in the order of the list. -/
theorem List.forall₂_filterMap {α : Type u} {β : Type v} {R : α → β → Prop} {f : α → Option β}
    {l : List α} (h : ∀ a ∈ l, ∃ b, f a = some b ∧ R a b) :
    List.Forall₂ R l (l.filterMap f) := by
  induction l with
  | nil => exact List.Forall₂.nil
  | cons a l ih =>
      obtain ⟨b, hb, hr⟩ := h a List.mem_cons_self
      rw [List.filterMap_cons_some hb]
      exact List.Forall₂.cons hr (ih fun c hc => h c (List.mem_cons_of_mem a hc))

/-- Related lists relate every element of the first to one of the second. -/
theorem List.Forall₂.exists_right {α : Type u} {β : Type v} {R : α → β → Prop} {as : List α}
    {bs : List β} (h : List.Forall₂ R as bs) {a : α} (ha : a ∈ as) : ∃ b ∈ bs, R a b := by
  induction h with
  | nil => cases ha
  | cons hab _ ih =>
      rcases List.mem_cons.1 ha with rfl | hmem
      · exact ⟨_, List.mem_cons_self, hab⟩
      · obtain ⟨b, hb, hr⟩ := ih hmem
        exact ⟨b, List.mem_cons_of_mem _ hb, hr⟩

/-- Related lists relate every element of the second to one of the first. -/
theorem List.Forall₂.exists_left {α : Type u} {β : Type v} {R : α → β → Prop} {as : List α}
    {bs : List β} (h : List.Forall₂ R as bs) {b : β} (hb : b ∈ bs) : ∃ a ∈ as, R a b := by
  obtain ⟨a, ha, hr⟩ := h.flip.exists_right hb
  exact ⟨a, ha, hr⟩
