import Mathlib.Data.List.Basic
import Mathlib.Data.List.Lex
import Mathlib.Order.Lattice

/-!
# The latest element of a history

One pass over a history that keeps an element when its key is strictly greater than the best so far:
`latestBy` over the elements that satisfy a test, and `greatestText` over texts compared by UTF-16
code units, starting from the empty text.
-/

variable {α β : Type*}

/-! ## Greatest key -/

section LatestBy

variable [LinearOrder β]

/-- One step of `latestBy`. -/
def laterOf (active : α → Bool) (key : α → β) (latest : Option α) (a : α) : Option α :=
  if active a ∧ (∀ b ∈ latest, key b < key a) then some a else latest

/-- The first active element of greatest key. -/
def latestBy (active : α → Bool) (key : α → β) (history : List α) : Option α :=
  history.foldl (laterOf active key) none

/-- What a pass has established after the elements `seen`. -/
private structure IsLatest (active : α → Bool) (key : α → β) (seen : List α)
    (latest : Option α) : Prop where
  mem : ∀ b ∈ latest, b ∈ seen ∧ active b
  bound : ∀ a ∈ seen, active a → ∃ b ∈ latest, key a ≤ key b

private theorem IsLatest.step {active : α → Bool} {key : α → β} {seen : List α}
    {latest : Option α} (h : IsLatest active key seen latest) (a : α) :
    IsLatest active key (seen ++ [a]) (laterOf active key latest a) := by
  unfold laterOf
  split
  case isTrue hlater =>
    refine ⟨?_, ?_⟩
    · rintro b hb
      rw [Option.mem_some_iff] at hb
      subst hb
      exact ⟨by simp, hlater.1⟩
    · intro c hc hactive
      refine ⟨a, rfl, ?_⟩
      rcases List.mem_append.1 hc with hseen | hlast
      · obtain ⟨b, hb, hle⟩ := h.bound c hseen hactive
        exact hle.trans (hlater.2 b hb).le
      · rw [List.mem_singleton.1 hlast]
  case isFalse hkept =>
    refine ⟨fun b hb => ⟨List.mem_append_left _ (h.mem b hb).1, (h.mem b hb).2⟩, ?_⟩
    intro c hc hactive
    rcases List.mem_append.1 hc with hseen | hlast
    · exact h.bound c hseen hactive
    · rw [List.mem_singleton.1 hlast] at hactive ⊢
      by_contra hnone
      push Not at hnone
      exact hkept ⟨hactive, hnone⟩

private theorem IsLatest.foldl {active : α → Bool} {key : α → β} (rest : List α) :
    ∀ {seen : List α} {latest : Option α}, IsLatest active key seen latest →
      IsLatest active key (seen ++ rest) (rest.foldl (laterOf active key) latest) := by
  induction rest with
  | nil => intro seen latest h; simpa using h
  | cons a rest ih =>
      intro seen latest h
      rw [List.append_cons, List.foldl_cons]
      exact ih (h.step a)

private theorem isLatest_latestBy (active : α → Bool) (key : α → β) (history : List α) :
    IsLatest active key history (latestBy active key history) := by
  have hstart : IsLatest active key [] none := ⟨by simp, by simp⟩
  have h := hstart.foldl history
  rw [List.nil_append] at h
  exact h

/-- The latest element is an active element of the history. -/
theorem latestBy_mem {active : α → Bool} {key : α → β} {history : List α} {a : α}
    (h : latestBy active key history = some a) : a ∈ history ∧ active a :=
  (isLatest_latestBy active key history).mem a h

/-- There is a latest element exactly when some element is active. -/
theorem latestBy_isSome {active : α → Bool} {key : α → β} {history : List α} :
    (latestBy active key history).isSome ↔ ∃ a ∈ history, active a := by
  constructor
  · intro h
    obtain ⟨a, ha⟩ := Option.isSome_iff_exists.1 h
    exact ⟨a, latestBy_mem ha⟩
  · rintro ⟨a, ha, hactive⟩
    obtain ⟨b, hb, -⟩ := (isLatest_latestBy active key history).bound a ha hactive
    exact Option.isSome_iff_exists.2 ⟨b, hb⟩

end LatestBy

/-! ## Greatest text -/

/-- The UTF-16 code units of a text. -/
def utf16Units (text : String) : List ℕ :=
  text.toList.flatMap fun c =>
    if c.toNat < 0x10000 then [c.toNat]
    else [0xD800 + (c.toNat - 0x10000) / 0x400, 0xDC00 + (c.toNat - 0x10000) % 0x400]

/-- A text is told by its code units: those of a pair are none of a single character. -/
theorem utf16Units_injective : Function.Injective utf16Units := by
  intro a b h
  rw [← String.toList_inj]
  unfold utf16Units at h
  generalize a.toList = as at h ⊢
  generalize b.toList = bs at h ⊢
  induction as generalizing bs with
  | nil =>
      cases bs with
      | nil => rfl
      | cons d bs =>
          rw [List.flatMap_nil, List.flatMap_cons] at h
          split at h <;> simp at h
  | cons c as ih =>
      cases bs with
      | nil =>
          rw [List.flatMap_nil, List.flatMap_cons] at h
          split at h <;> simp at h
      | cons d bs =>
          have hc : c.toNat < 0xD800 ∨ 0xDFFF < c.toNat ∧ c.toNat < 0x110000 := c.valid
          have hd : d.toNat < 0xD800 ∨ 0xDFFF < d.toNat ∧ d.toNat < 0x110000 := d.valid
          have hsame : c = d ∧ as = bs := by
            rw [List.flatMap_cons, List.flatMap_cons] at h
            split at h <;> split at h <;>
              simp only [List.cons_append, List.nil_append, List.cons.injEq] at h
            · exact ⟨Char.toNat_inj.1 h.1, ih bs h.2⟩
            · omega
            · omega
            · exact ⟨Char.toNat_inj.1 (by omega), ih bs h.2.2⟩
          rw [hsame.1, hsame.2]

/-- The order of texts by code units. -/
def textLt (a b : String) : Bool := utf16Units a < utf16Units b

/-- A text does not come behind another one. -/
def textLe (a b : String) : Prop := textLt b a = false

instance : DecidableRel textLe := fun a b => inferInstanceAs (Decidable (textLt b a = false))

theorem textLe_iff {a b : String} : textLe a b ↔ utf16Units a ≤ utf16Units b := by
  rw [textLe, textLt, decide_eq_false_iff_not, not_lt]

theorem textLe_total (a b : String) : textLe a b ∨ textLe b a := by
  rw [textLe_iff, textLe_iff]
  exact le_total _ _

theorem textLe_trans (a b c : String) (hab : textLe a b) (hbc : textLe b c) : textLe a c :=
  textLe_iff.2 ((textLe_iff.1 hab).trans (textLe_iff.1 hbc))

theorem textLe_antisymm (a b : String) (hab : textLe a b) (hba : textLe b a) : a = b :=
  utf16Units_injective (le_antisymm (textLe_iff.1 hab) (textLe_iff.1 hba))

/-- The first greatest text of a history above the empty text, if there is one. -/
def greatestText (text : α → String) (history : List α) : Option String :=
  history.foldl
    (fun latest a => if textLt (latest.getD "") (text a) then some (text a) else latest) none
