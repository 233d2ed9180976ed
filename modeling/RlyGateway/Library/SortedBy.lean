import Mathlib.Data.List.Sort

/-!
# Lists sorted by a key

A list sorted by a total order of keys: the keys stand in an order that the list before sorting does
not tell, and so does the list where its keys are different.
-/

namespace List

section SortedBy

variable {α κ : Type*} (r : κ → κ → Prop) [DecidableRel r] (key : α → κ)
  (htotal : ∀ a b, r a b ∨ r b a) (htrans : ∀ a b c, r a b → r b c → r a c)
  (hantisymm : ∀ a b, r a b → r b a → a = b)

include htotal htrans in
/-- The list is sorted. -/
theorem pairwise_insertionSort_key (l : List α) :
    (l.insertionSort fun a b => r (key a) (key b)).Pairwise fun a b => r (key a) (key b) := by
  have : Std.Total fun a b : α => r (key a) (key b) := ⟨fun a b => htotal (key a) (key b)⟩
  have : IsTrans α fun a b => r (key a) (key b) := ⟨fun a b c => htrans (key a) (key b) (key c)⟩
  exact pairwise_insertionSort _ l

include htotal htrans hantisymm in
/-- Lists of the same keys are sorted into the same keys. -/
theorem map_insertionSort_eq_of_perm {l l' : List α} (h : (l.map key).Perm (l'.map key)) :
    (l.insertionSort fun a b => r (key a) (key b)).map key =
      (l'.insertionSort fun a b => r (key a) (key b)).map key := by
  have hsorts := perm_insertionSort fun a b : α => r (key a) (key b)
  have hperm := ((hsorts l).map key).trans (h.trans ((hsorts l').map key).symm)
  refine Perm.eq_of_pairwise (fun a b _ _ => hantisymm a b) ?_ ?_ hperm
  · exact (pairwise_insertionSort_key r key htotal htrans l).map key fun _ _ hle => hle
  · exact (pairwise_insertionSort_key r key htotal htrans l').map key fun _ _ hle => hle

include htotal htrans hantisymm in
/-- A list of different keys is sorted in one way. -/
theorem insertionSort_eq_of_perm {l l' : List α} (hkeys : (l.map key).Nodup) (h : l.Perm l') :
    (l.insertionSort fun a b => r (key a) (key b)) =
      l'.insertionSort fun a b => r (key a) (key b) := by
  have hsorts := perm_insertionSort fun a b : α => r (key a) (key b)
  have hperm := (hsorts l).trans (h.trans (hsorts l').symm)
  refine Perm.eq_of_pairwise ?_ (pairwise_insertionSort_key r key htotal htrans l)
    (pairwise_insertionSort_key r key htotal htrans l') hperm
  intro a b ha hb hle hge
  have hmem := (hsorts l).mem_iff.1 ha
  have hmem' := h.mem_iff.2 ((hsorts l').mem_iff.1 hb)
  exact inj_on_of_nodup_map hkeys hmem hmem' (hantisymm _ _ hle hge)

end SortedBy

end List
