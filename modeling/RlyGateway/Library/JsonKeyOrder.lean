import RlyGateway.Library.JsonRoundTrip
import RlyGateway.Library.SortedBy

/-!
# The order of fields

Two values are equal up to the order of fields where the fields of objects inside them are permuted.
Sorting the fields of every object by a total order of names gives one value for all of these, and so
its text tells apart exactly the values that are not equal up to the order of fields.
-/

namespace Json

/-- Equality up to the order of the fields of objects. -/
inductive KeyOrder : Json → Json → Prop
  | refl (value : Json) : KeyOrder value value
  | symm {value other : Json} (h : KeyOrder value other) : KeyOrder other value
  | trans {value other third : Json} (h : KeyOrder value other) (h' : KeyOrder other third) :
      KeyOrder value third
  | item (before after : List Json) {value other : Json} (h : KeyOrder value other) :
      KeyOrder (.arr (before ++ value :: after)) (.arr (before ++ other :: after))
  | field (before after : List (String × Json)) (name : String) {value other : Json}
      (h : KeyOrder value other) :
      KeyOrder (.obj (before ++ (name, value) :: after)) (.obj (before ++ (name, other) :: after))
  | perm {fields fields' : List (String × Json)} (h : fields.Perm fields') :
      KeyOrder (.obj fields) (.obj fields')

/-! ## Texts of parts -/

theorem stringifyItems_eq_map (items : List Json) : stringifyItems items = items.map stringify := by
  induction items with
  | nil => rfl
  | cons item items ih => rw [stringifyItems, ih, List.map_cons]

theorem stringifyFields_eq_map (fields : List (String × Json)) :
    stringifyFields fields =
      fields.map fun field => quote field.1 ++ ":" ++ stringify field.2 := by
  induction fields with
  | nil => rfl
  | cons field fields ih => rw [stringifyFields, ih, List.map_cons]

/-! ## Sorting -/

section Sorting

variable (le : String → String → Prop) [DecidableRel le]

mutual

/-- The value with the fields of every object in the order of their names. -/
def sortKeys : Json → Json
  | .null => .null
  | .bool b => .bool b
  | .num n => .num n
  | .str s => .str s
  | .arr items => .arr (sortItems items)
  | .obj fields => .obj ((sortFields fields).insertionSort fun left right => le left.1 right.1)

def sortItems : List Json → List Json
  | [] => []
  | item :: items => sortKeys item :: sortItems items

def sortFields : List (String × Json) → List (String × Json)
  | [] => []
  | (name, value) :: fields => (name, sortKeys value) :: sortFields fields

end

theorem sortItems_eq_map (items : List Json) : sortItems le items = items.map (sortKeys le) := by
  induction items with
  | nil => rfl
  | cons item items ih => rw [sortItems, ih, List.map_cons]

theorem sortFields_eq_map (fields : List (String × Json)) :
    sortFields le fields = fields.map fun field => (field.1, sortKeys le field.2) := by
  induction fields with
  | nil => rfl
  | cons field fields ih => rw [sortFields, ih, List.map_cons]

theorem map_fst_sortFields (fields : List (String × Json)) :
    (sortFields le fields).map Prod.fst = fields.map Prod.fst := by
  rw [sortFields_eq_map, List.map_map]
  rfl

theorem WellFormed.sortKeys {value : Json} (h : value.WellFormed) :
    (sortKeys le value).WellFormed := by
  induction h with
  | null => exact .null
  | bool b => exact .bool b
  | num h => exact .num h
  | str s => exact .str s
  | @arr items h ih =>
      rw [Json.sortKeys, sortItems_eq_map]
      refine .arr ?_
      intro item hitem
      obtain ⟨unsorted, hunsorted, rfl⟩ := List.mem_map.1 hitem
      exact ih unsorted hunsorted
  | @obj fields hnames h ih =>
      have hperm := List.perm_insertionSort (fun left right : String × Json => le left.1 right.1)
        (sortFields le fields)
      rw [Json.sortKeys]
      refine .obj ?_ ?_
      · rw [(hperm.map Prod.fst).nodup_iff, map_fst_sortFields]
        exact hnames
      · intro field hfield
        have hmem := hperm.mem_iff.1 hfield
        rw [sortFields_eq_map] at hmem
        obtain ⟨unsorted, hunsorted, rfl⟩ := List.mem_map.1 hmem
        exact ih unsorted hunsorted

/-- Items that are each equal up to the order of fields make arrays that are. -/
theorem keyOrder_items {f : Json → Json} {items : List Json}
    (h : ∀ item ∈ items, KeyOrder item (f item)) (before : List Json) :
    KeyOrder (.arr (before ++ items)) (.arr (before ++ items.map f)) := by
  induction items generalizing before with
  | nil => exact .refl _
  | cons item items ih =>
      have hfirst := KeyOrder.item before items (h item List.mem_cons_self)
      have hrest := ih (fun item hitem => h item (List.mem_cons_of_mem _ hitem))
        (before ++ [f item])
      rw [List.append_assoc, List.append_assoc] at hrest
      exact hfirst.trans hrest

/-- Fields whose values are equal up to the order of fields make objects that are. -/
theorem keyOrder_fields {f : Json → Json} {fields : List (String × Json)}
    (h : ∀ field ∈ fields, KeyOrder field.2 (f field.2)) (before : List (String × Json)) :
    KeyOrder (.obj (before ++ fields))
      (.obj (before ++ fields.map fun field => (field.1, f field.2))) := by
  induction fields generalizing before with
  | nil => exact .refl _
  | cons field fields ih =>
      have hfirst := KeyOrder.field before fields field.1 (h field List.mem_cons_self)
      have hrest := ih (fun field hfield => h field (List.mem_cons_of_mem _ hfield))
        (before ++ [(field.1, f field.2)])
      rw [List.append_assoc, List.append_assoc] at hrest
      exact hfirst.trans hrest

/-- A value is equal to its sorted one up to the order of fields. -/
theorem WellFormed.keyOrder_sortKeys {value : Json} (h : value.WellFormed) :
    KeyOrder value (Json.sortKeys le value) := by
  induction h with
  | null => exact .refl _
  | bool b => exact .refl _
  | num h => exact .refl _
  | str s => exact .refl _
  | arr h ih =>
      rw [Json.sortKeys, sortItems_eq_map]
      exact keyOrder_items ih []
  | @obj fields hnames h ih =>
      have hfields : KeyOrder (.obj fields) (.obj (sortFields le fields)) := by
        rw [sortFields_eq_map]
        exact keyOrder_fields ih []
      rw [Json.sortKeys]
      exact hfields.trans (.perm (List.perm_insertionSort _ _).symm)

variable (htotal : ∀ a b, le a b ∨ le b a) (htrans : ∀ a b c, le a b → le b c → le a c)
  (hantisymm : ∀ a b, le a b → le b a → a = b)

include htotal htrans hantisymm in
/-- Values that are equal up to the order of fields are well formed alike, and sorted the same. -/
theorem KeyOrder.sortKeys_eq {value other : Json} (h : KeyOrder value other) :
    (value.WellFormed ↔ other.WellFormed) ∧
      (value.WellFormed → sortKeys le value = sortKeys le other) := by
  induction h with
  | refl value => exact ⟨Iff.rfl, fun _ => rfl⟩
  | symm _ ih => exact ⟨ih.1.symm, fun hformed => (ih.2 (ih.1.2 hformed)).symm⟩
  | trans _ _ ih ih' =>
      exact ⟨ih.1.trans ih'.1, fun hformed => (ih.2 hformed).trans (ih'.2 (ih.1.1 hformed))⟩
  | item before after _ ih =>
      refine ⟨?_, fun hformed => ?_⟩
      · simp only [wellFormed_arr, List.forall_mem_append, List.forall_mem_cons, ih.1]
      · have hvalue := wellFormed_arr.1 hformed _ (List.mem_append_right _ List.mem_cons_self)
        simp only [sortKeys, sortItems_eq_map, List.map_append, List.map_cons, ih.2 hvalue]
  | field before after name _ ih =>
      refine ⟨?_, fun hformed => ?_⟩
      · simp only [wellFormed_obj, List.forall_mem_append, List.forall_mem_cons, ih.1,
          List.map_append, List.map_cons]
      · have hvalue := (wellFormed_obj.1 hformed).2 _ (List.mem_append_right _ List.mem_cons_self)
        simp only [sortKeys, sortFields_eq_map, List.map_append, List.map_cons, ih.2 hvalue]
  | @perm fields fields' hperm =>
      refine ⟨?_, fun hformed => ?_⟩
      · rw [wellFormed_obj, wellFormed_obj, (hperm.map Prod.fst).nodup_iff]
        exact and_congr_right fun _ => forall_congr' fun field =>
          imp_congr_left hperm.mem_iff
      · have hnames : ((sortFields le fields).map Prod.fst).Nodup := by
          rw [map_fst_sortFields]
          exact (wellFormed_obj.1 hformed).1
        have hsorted : (sortFields le fields).Perm (sortFields le fields') := by
          rw [sortFields_eq_map, sortFields_eq_map]
          exact hperm.map _
        rw [sortKeys, sortKeys,
          List.insertionSort_eq_of_perm le Prod.fst htotal htrans hantisymm hnames hsorted]

include htotal htrans hantisymm in
/-- The texts of sorted values are equal exactly where the values are up to the order of fields. -/
theorem stringify_sortKeys_eq_iff {value other : Json} (hvalue : value.WellFormed)
    (hother : other.WellFormed) :
    stringify (sortKeys le value) = stringify (sortKeys le other) ↔ KeyOrder value other := by
  constructor
  · intro h
    have hread := parse_stringify (hvalue.sortKeys le)
    rw [h, parse_stringify (hother.sortKeys le)] at hread
    have hsorted := Option.some.inj hread
    have hback := (hother.keyOrder_sortKeys le).symm
    rw [hsorted] at hback
    exact (hvalue.keyOrder_sortKeys le).trans hback
  · intro h
    rw [(h.sortKeys_eq le htotal htrans hantisymm).2 hvalue]

end Sorting

end Json
