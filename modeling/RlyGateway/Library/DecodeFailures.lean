import RlyGateway.Library.Fallible
import RlyGateway.Library.Schema

/-!
# How decoders fail

A decoder that fails does so with an error of its protocol, or with a failure that escapes it. What
escapes a sequence of decoders escapes the first one that does not accept.
-/

universe u v w

/-- Some entry of the list is met with a property after entries that are all accepted. -/
def List.Meets {α : Type*} (accepted found : α → Prop) (l : List α) : Prop :=
  ∃ before a after, l = before ++ a :: after ∧ (∀ b ∈ before, accepted b) ∧ found a

section Meets

variable {α : Type*} {accepted found accepted' found' : α → Prop}

theorem List.not_meets_nil : ¬ List.Meets accepted found [] := by
  rintro ⟨before, a, after, h, -⟩
  simp at h

theorem List.meets_cons {a : α} {l : List α} :
    List.Meets accepted found (a :: l) ↔ found a ∨ (accepted a ∧ List.Meets accepted found l) := by
  constructor
  · rintro ⟨before, b, after, heq, hbefore, hfound⟩
    cases before with
    | nil =>
        cases heq
        exact .inl hfound
    | cons head before =>
        cases heq
        exact .inr ⟨hbefore a List.mem_cons_self, before, b, after, rfl,
          fun c hc => hbefore c (List.mem_cons_of_mem _ hc), hfound⟩
  · rintro (hfound | ⟨haccepted, before, b, after, rfl, hbefore, hfound⟩)
    · exact ⟨[], a, l, rfl, fun b hb => absurd hb List.not_mem_nil, hfound⟩
    · exact ⟨a :: before, b, after, rfl, List.forall_mem_cons.2 ⟨haccepted, hbefore⟩, hfound⟩

end Meets

namespace DecodeFailure

variable {ε : Type u} {α β : Type v}

/-- The failure is no error of the protocol. -/
def Untranslated : DecodeFailure ε → Prop
  | .protocolError _ => False
  | .validationError | .conversionError => True

/-- What the run fails with is no error of the protocol. -/
def Escapes (x : Except (DecodeFailure ε) α) : Prop :=
  ∃ failure : DecodeFailure ε, x = .error failure ∧ failure.Untranslated

/-- The run fails with errors of the protocol that have a property, if it does with any. -/
def ErrorsAre (property : ε → Prop) (x : Except (DecodeFailure ε) α) : Prop :=
  ∀ failure, x = .error (.protocolError failure) → property failure

variable {x : Except (DecodeFailure ε) α} {f : α → Except (DecodeFailure ε) β} {property : ε → Prop}

@[simp] theorem not_escapes_ok (a : α) : ¬ Escapes (.ok a : Except (DecodeFailure ε) α) := by
  rintro ⟨failure, h, -⟩
  cases h

@[simp] theorem not_escapes_protocolError (failure : ε) :
    ¬ Escapes (.error (.protocolError failure) : Except (DecodeFailure ε) α) := by
  rintro ⟨failure', h, hescapes⟩
  cases h
  exact hescapes

@[simp] theorem escapes_validationError :
    Escapes (.error .validationError : Except (DecodeFailure ε) α) := ⟨_, rfl, trivial⟩

@[simp] theorem escapes_conversionError :
    Escapes (.error .conversionError : Except (DecodeFailure ε) α) := ⟨_, rfl, trivial⟩

/-- A bind lets through what escapes its first part, or the second after the first. -/
theorem escapes_bind : Escapes (x >>= f) ↔ Escapes x ∨ ∃ a, x = .ok a ∧ Escapes (f a) := by
  cases x with
  | ok a =>
      change Escapes (f a) ↔ _
      simp
  | error failure =>
      change Escapes (.error failure) ↔ _
      constructor
      · rintro ⟨failure', h, hescapes⟩
        cases h
        exact .inl ⟨failure, rfl, hescapes⟩
      · rintro (⟨failure', h, hescapes⟩ | ⟨a, h, -⟩)
        · cases h
          exact ⟨failure, rfl, hescapes⟩
        · cases h

/-- What escapes a list of runs escapes the first that does not succeed. -/
theorem escapes_mapM {γ : Type w} {g : γ → Except (DecodeFailure ε) β} {l : List γ} :
    Escapes (l.mapM g) ↔ l.Meets (fun c => ∃ b, g c = .ok b) fun c => Escapes (g c) := by
  induction l with
  | nil =>
      rw [List.mapM_nil]
      exact iff_of_false (not_escapes_ok []) List.not_meets_nil
  | cons c l ih =>
      rw [List.mapM_cons, escapes_bind, List.meets_cons]
      refine or_congr Iff.rfl ?_
      constructor
      · rintro ⟨b, hb, h⟩
        rw [escapes_bind] at h
        rcases h with h | ⟨rest, -, h⟩
        · exact ⟨⟨b, hb⟩, ih.1 h⟩
        · exact absurd h (not_escapes_ok _)
      · rintro ⟨⟨b, hb⟩, h⟩
        exact ⟨b, hb, escapes_bind.2 (.inl (ih.2 h))⟩

theorem errorsAre_ok (a : α) : ErrorsAre property (.ok a) := by
  rintro failure ⟨⟩

theorem ErrorsAre.bind (hx : ErrorsAre property x) (hf : ∀ a, ErrorsAre property (f a)) :
    ErrorsAre property (x >>= f) := by
  intro failure h
  cases x with
  | ok a => exact hf a failure h
  | error failure' => exact hx failure (by cases h; rfl)

theorem ErrorsAre.mapM {γ : Type w} {g : γ → Except (DecodeFailure ε) β}
    (hg : ∀ c, ErrorsAre property (g c)) (l : List γ) : ErrorsAre property (l.mapM g) := by
  induction l with
  | nil =>
      rw [List.mapM_nil]
      exact errorsAre_ok []
  | cons c l ih =>
      rw [List.mapM_cons]
      exact (hg c).bind fun b => ih.bind fun rest => errorsAre_ok _

end DecodeFailure
