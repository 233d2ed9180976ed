import Mathlib.Order.Basic

/-!
# Versioned rows

A table is what it holds for each key. It advances when every row is kept or replaced by one of a
later version. An update guarded by the version it was made for succeeds at most once.
-/

universe u v w

variable {κ : Type u} {ν : Type v} {τ : Type w} [Preorder τ] (version : ν → τ)

/-- Every row is as it was, or has a later version. -/
def Advances (table table' : κ → Option ν) : Prop :=
  ∀ key row, table key = some row →
    ∃ row', table' key = some row' ∧ (row' = row ∨ version row < version row')

namespace Advances

variable {version} {table table' table'' : κ → Option ν}

theorem refl (table : κ → Option ν) : Advances version table table :=
  fun _ row hrow => ⟨row, hrow, Or.inl rfl⟩

theorem trans (h : Advances version table table') (h' : Advances version table' table'') :
    Advances version table table'' := by
  intro key row hrow
  obtain ⟨row', hrow', hlater⟩ := h key row hrow
  obtain ⟨row'', hrow'', hlater'⟩ := h' key row' hrow'
  refine ⟨row'', hrow'', ?_⟩
  rcases hlater with rfl | hlt
  · exact hlater'
  · rcases hlater' with rfl | hlt'
    · exact Or.inr hlt
    · exact Or.inr (hlt.trans hlt')

/-- No version goes back. -/
theorem version_le (h : Advances version table table') {key : κ} {row row' : ν}
    (hrow : table key = some row) (hrow' : table' key = some row') : version row ≤ version row' := by
  obtain ⟨later, hlater, heq | hlt⟩ := h key row hrow
  · rw [hrow', heq] at hlater
    cases hlater
    exact le_rfl
  · rw [hrow'] at hlater
    cases hlater
    exact hlt.le

/-- Writing one row advances a table when the row is new or has a later version than the old one. -/
theorem of_write {key : κ} {row' : ν} (hother : ∀ other, other ≠ key → table' other = table other)
    (hself : table' key = some row') (hlater : ∀ row, table key = some row → version row < version row') :
    Advances version table table' := by
  intro other row hrow
  by_cases hother' : other = key
  · subst hother'
    exact ⟨row', hself, Or.inr (hlater row hrow)⟩
  · exact ⟨row, by rw [hother other hother', hrow], Or.inl rfl⟩

end Advances
