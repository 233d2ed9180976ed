import Mathlib.Tactic.Basic

/-!
# Transactions

Programs over a state that can fail part way, leaving the state they had reached. A transaction is
such a program that leaves the state as it was where it fails. A successful run is taken apart into
the runs of its parts.
-/

namespace EStateM

variable {ε σ α β : Type} {s t : σ}

/-! ## Successful runs -/

/-- A bind succeeds when both of its parts do, the second from where the first ended. -/
theorem bind_eq_ok {x : EStateM ε σ α} {f : α → EStateM ε σ β} {b : β} :
    (x >>= f) s = .ok b t ↔ ∃ a s', x s = .ok a s' ∧ f a s' = .ok b t := by
  change EStateM.bind x f s = .ok b t ↔ _
  unfold EStateM.bind
  constructor
  · intro h
    split at h
    · rename_i a s' hx
      exact ⟨a, s', hx, h⟩
    · cases h
  · rintro ⟨a, s', hx, hf⟩
    rw [hx]
    exact hf

/-- After a part that succeeds, a bind goes on from where it ended. -/
theorem bind_of_ok {x : EStateM ε σ α} {f : α → EStateM ε σ β} {a : α} (h : x s = .ok a t) :
    (x >>= f) s = f a t := by
  change EStateM.bind x f s = _
  unfold EStateM.bind
  rw [h]

theorem pure_eq_ok {a b : α} : (pure a : EStateM ε σ α) s = .ok b t ↔ b = a ∧ t = s := by
  change Result.ok a s = Result.ok b t ↔ _
  rw [Result.ok.injEq, eq_comm, @eq_comm _ s]

theorem throw_ne_ok {e : ε} {b : α} : (throw e : EStateM ε σ α) s ≠ .ok b t := by
  intro h
  cases h

theorem read_eq_ok {u : σ} : (get : EStateM ε σ σ) s = .ok u t ↔ u = s ∧ t = s := by
  change Result.ok s s = Result.ok u t ↔ _
  rw [Result.ok.injEq, eq_comm, @eq_comm _ s t]

theorem write_eq_ok {u : σ} {b : PUnit} : (set u : EStateM ε σ PUnit) s = .ok b t ↔ t = u := by
  change Result.ok _ u = Result.ok b t ↔ _
  rw [Result.ok.injEq, eq_comm (a := u)]
  exact and_iff_right rfl

theorem modify_eq_ok {f : σ → σ} {b : PUnit} :
    (modify f : EStateM ε σ PUnit) s = .ok b t ↔ t = f s := by
  change Result.ok _ (f s) = Result.ok b t ↔ _
  rw [Result.ok.injEq, eq_comm (a := f s)]
  exact and_iff_right rfl

/-- A program with its result mapped succeeds when the program does. -/
theorem map_eq_ok {x : EStateM ε σ α} {f : α → β} {b : β} :
    (f <$> x) s = .ok b t ↔ ∃ a, x s = .ok a t ∧ b = f a := by
  change EStateM.map f x s = .ok b t ↔ _
  unfold EStateM.map
  constructor
  · intro h
    split at h
    · rename_i a s' hx
      cases h
      exact ⟨a, hx, rfl⟩
    · cases h
  · rintro ⟨a, hx, rfl⟩
    rw [hx]

theorem map_eq_error {x : EStateM ε σ α} {f : α → β} {e : ε} :
    (f <$> x) s = .error e t ↔ x s = .error e t := by
  change EStateM.map f x s = .error e t ↔ _
  unfold EStateM.map
  constructor
  · intro h
    split at h
    · cases h
    · rename_i e' s' hx
      cases h
      exact hx
  · intro h
    rw [h]

/-- So does a program with its failure mapped. -/
theorem adaptExcept_eq_ok {δ : Type} {x : EStateM ε σ α} {f : ε → δ} {a : α} :
    adaptExcept f x s = .ok a t ↔ x s = .ok a t := by
  unfold adaptExcept
  constructor
  · intro h
    split at h
    · cases h
    · rename_i a' s' hx
      cases h
      exact hx
  · intro h
    rw [h]

/-- A result that is given succeeds where it is one, and leaves the state. -/
theorem ofExcept_eq_ok {x : Except ε α} {a : α} :
    (MonadExcept.ofExcept x : EStateM ε σ α) s = .ok a t ↔ x = .ok a ∧ t = s := by
  cases x with
  | ok a' =>
      change Result.ok a' s = Result.ok a t ↔ _
      rw [Result.ok.injEq, Except.ok.injEq, @eq_comm _ s]
  | error e =>
      constructor
      · intro h
        cases h
      · rintro ⟨h, -⟩
        cases h

/-- A check is passed where the program goes on and succeeds. -/
theorem guard_eq_ok {p : Prop} [Decidable p] {e : ε} {f : PUnit → EStateM ε σ β}
    {y : EStateM ε σ β} {b : β} :
    (if p then throw e >>= f else y) s = .ok b t ↔ ¬ p ∧ y s = .ok b t := by
  split
  · rename_i hp
    constructor
    · intro h
      obtain ⟨_, _, hthrow, -⟩ := bind_eq_ok.1 h
      cases hthrow
    · rintro ⟨hnot, -⟩
      exact absurd hp hnot
  · rename_i hp
    exact (and_iff_right hp).symm

/-- A check that nothing follows is passed where it succeeds, and leaves the state. -/
theorem check_eq_ok {p : Prop} [Decidable p] {e : ε} {u : PUnit} :
    (if p then throw e else pure u : EStateM ε σ PUnit) s = .ok u t ↔ ¬ p ∧ t = s := by
  split
  · rename_i hp
    constructor
    · intro h
      cases h
    · rintro ⟨hnot, -⟩
      exact absurd hp hnot
  · rename_i hp
    rw [pure_eq_ok, and_iff_right rfl, and_iff_right hp]

/-! ## Transactions -/

/-- A program as a transaction: where it fails, the state is as it was. -/
def transaction (x : EStateM ε σ α) : EStateM ε σ α := fun s =>
  match x s with
  | .ok a t => .ok a t
  | .error e _ => .error e s

theorem transaction_eq_ok {x : EStateM ε σ α} {a : α} :
    transaction x s = .ok a t ↔ x s = .ok a t := by
  unfold transaction
  constructor
  · intro h
    split at h
    · rename_i a' t' hx
      rw [hx]
      exact h
    · cases h
  · intro h
    rw [h]

/-- A transaction that fails leaves the state as it was. -/
theorem transaction_eq_error {x : EStateM ε σ α} {e : ε} :
    transaction x s = .error e t ↔ t = s ∧ ∃ t', x s = .error e t' := by
  unfold transaction
  constructor
  · intro h
    split at h
    · cases h
    · rename_i e' t' hx
      cases h
      exact ⟨rfl, t', hx⟩
  · rintro ⟨rfl, t', hx⟩
    rw [hx]

/-- A transaction that is reported where it fails, after it was taken back. -/
def reported (report : ε → EStateM ε σ PUnit) (x : EStateM ε σ α) : EStateM ε σ α :=
  tryCatch (transaction x) fun e => do
    report e
    throw e

theorem reported_of_ok {report : ε → EStateM ε σ PUnit} {x : EStateM ε σ α} {a : α}
    (h : x s = .ok a t) : reported report x s = .ok a t := by
  change EStateM.tryCatch _ _ s = _
  unfold EStateM.tryCatch
  rw [transaction_eq_ok.2 h]

theorem reported_of_error {report : ε → EStateM ε σ PUnit} {x : EStateM ε σ α} {e : ε}
    (h : x s = .error e t) : reported report x s = (do report e; throw e : EStateM ε σ α) s := by
  change EStateM.tryCatch _ _ s = _
  unfold EStateM.tryCatch
  rw [transaction_eq_error.2 ⟨rfl, t, h⟩]
  rfl

theorem reported_eq_ok {report : ε → EStateM ε σ PUnit} {x : EStateM ε σ α} {a : α} :
    reported report x s = .ok a t ↔ x s = .ok a t := by
  constructor
  · intro h
    cases hx : x s with
    | ok a' t' => rw [← h, reported_of_ok hx]
    | error e t' =>
        rw [reported_of_error hx] at h
        obtain ⟨_, _, -, hthrow⟩ := bind_eq_ok.1 h
        cases hthrow
  · exact reported_of_ok

/-- Where a reported transaction fails and the report is made, nothing but the report was done. -/
theorem reported_eq_error {report : ε → EStateM ε σ PUnit} {x : EStateM ε σ α} {e : ε}
    (hreport : ∀ e, ∃ u, report e s = .ok PUnit.unit u) (h : reported report x s = .error e t) :
    report e s = .ok PUnit.unit t := by
  cases hx : x s with
  | ok a t' =>
      rw [reported_of_ok hx] at h
      cases h
  | error e' t' =>
      obtain ⟨u, hu⟩ := hreport e'
      rw [reported_of_error hx, bind_of_ok hu] at h
      cases h
      exact hu

end EStateM
