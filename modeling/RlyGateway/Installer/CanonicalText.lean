import RlyGateway.Installer.ReleaseMetadata
import RlyGateway.Library.JsonKeyOrder

/-!
# Canonical text

`src/installer/signing.ts` and its mirror `scripts/release/signing.mjs`: the text that is signed. The
publisher makes it from the document in memory, whose fields may be undefined, and the installer
makes it from the document it has read.
-/

namespace RlyGateway

/-! ## Canonical text of a value -/

theorem canonicalItems_eq_map (items : List Json) :
    canonicalItems items = items.map canonicalJsonStringify := by
  induction items with
  | nil => rfl
  | cons item items ih => rw [canonicalItems, ih, List.map_cons]

theorem canonicalFields_eq_map (fields : List (String × Json)) :
    canonicalFields fields = fields.map fun field =>
      (field.1, Json.quote field.1 ++ ":" ++ canonicalJsonStringify field.2) := by
  induction fields with
  | nil => rfl
  | cons field fields ih => rw [canonicalFields, ih, List.map_cons]

/-- A field with its text. -/
def fieldText (field : String × Json) : String × String :=
  (field.1, Json.quote field.1 ++ ":" ++ Json.stringify field.2)

/-- The canonical text is the text of the value with the fields of every object in order. -/
theorem canonicalJsonStringify_eq {value : Json} (h : value.WellFormed) :
    canonicalJsonStringify value = Json.stringify (Json.sortKeys textLe value) := by
  induction h with
  | null => rfl
  | bool b => rfl
  | num h => rfl
  | str s => rfl
  | @arr items h ih =>
      rw [canonicalJsonStringify, Json.sortKeys, Json.stringify, Json.stringifyItems_eq_map,
        canonicalItems_eq_map, Json.sortItems_eq_map, List.map_map, List.map_congr_left ih]
      rfl
  | @obj fields hnames h ih =>
      have htexts : canonicalFields fields = (Json.sortFields textLe fields).map fieldText := by
        rw [canonicalFields_eq_map, Json.sortFields_eq_map, List.map_map]
        refine List.map_congr_left fun field hfield => ?_
        rw [ih field hfield]
        rfl
      have hsorted : ((Json.sortFields textLe fields).map fieldText).insertionSort
          (fun left right => textLt right.1 left.1 = false) =
            ((Json.sortFields textLe fields).insertionSort
              fun left right => textLe left.1 right.1).map fieldText :=
        (List.map_insertionSort _ _ fieldText _ fun _ _ _ _ => Iff.rfl).symm
      rw [canonicalJsonStringify, Json.sortKeys, Json.stringify, Json.stringifyFields_eq_map,
        htexts, hsorted, List.map_map]
      rfl

/-! ## Documents in memory -/

/-- A value of the language that is built of plain objects and arrays. A field of an object may be
undefined. -/
inductive JsValue where
  | null
  | bool (b : Bool)
  | num (n : ℚ)
  | str (s : String)
  | arr (items : List JsValue)
  | obj (fields : List (String × Option JsValue))

namespace JsValue

/-- No object has two fields of one name, and numbers are finite. -/
inductive WellFormed : JsValue → Prop
  | null : WellFormed .null
  | bool (b : Bool) : WellFormed (.bool b)
  | num {n : ℚ} (h : Json.IsDecimal n) : WellFormed (.num n)
  | str (s : String) : WellFormed (.str s)
  | arr {items : List JsValue} (h : ∀ item ∈ items, WellFormed item) : WellFormed (.arr items)
  | obj {fields : List (String × Option JsValue)} (hnames : (fields.map Prod.fst).Nodup)
      (h : ∀ name value, (name, some value) ∈ fields → WellFormed value) :
      WellFormed (.obj fields)

mutual

/-- `JSON.stringify`, which leaves undefined fields out. -/
def stringify : JsValue → String
  | .null => "null"
  | .bool b => if b then "true" else "false"
  | .num n => Json.numberText n
  | .str s => Json.quote s
  | .arr items => "[" ++ String.intercalate "," (stringifyItems items) ++ "]"
  | .obj fields => "\x7b" ++ String.intercalate "," (stringifyFields fields) ++ "\x7d"

def stringifyItems : List JsValue → List String
  | [] => []
  | item :: items => stringify item :: stringifyItems items

def stringifyFields : List (String × Option JsValue) → List String
  | [] => []
  | (_, none) :: fields => stringifyFields fields
  | (name, some value) :: fields =>
      (Json.quote name ++ ":" ++ stringify value) :: stringifyFields fields

end

mutual

/-- `canonicalJsonStringify`, which leaves undefined fields out before it sorts. -/
def canonicalJsonStringify : JsValue → String
  | .null => "null"
  | .bool b => if b then "true" else "false"
  | .num n => Json.numberText n
  | .str s => Json.quote s
  | .arr items => "[" ++ ",".intercalate (canonicalItems items) ++ "]"
  | .obj fields =>
      "\x7b" ++ ",".intercalate
        (((canonicalFields fields).insertionSort
          fun left right => textLt right.1 left.1 = false).map (·.2)) ++ "\x7d"

def canonicalItems : List JsValue → List String
  | [] => []
  | item :: items => canonicalJsonStringify item :: canonicalItems items

def canonicalFields : List (String × Option JsValue) → List (String × String)
  | [] => []
  | (_, none) :: fields => canonicalFields fields
  | (name, some value) :: fields =>
      (name, Json.quote name ++ ":" ++ canonicalJsonStringify value) :: canonicalFields fields

end

mutual

/-- The value that is published of a document. -/
def toJson : JsValue → Json
  | .null => .null
  | .bool b => .bool b
  | .num n => .num n
  | .str s => .str s
  | .arr items => .arr (toJsonItems items)
  | .obj fields => .obj (toJsonFields fields)

def toJsonItems : List JsValue → List Json
  | [] => []
  | item :: items => toJson item :: toJsonItems items

def toJsonFields : List (String × Option JsValue) → List (String × Json)
  | [] => []
  | (_, none) :: fields => toJsonFields fields
  | (name, some value) :: fields => (name, toJson value) :: toJsonFields fields

end

mutual

/-- A document is written as what is published of it. -/
theorem stringify_toJson : (value : JsValue) → stringify value = Json.stringify value.toJson
  | .null => rfl
  | .bool _ => rfl
  | .num _ => rfl
  | .str _ => rfl
  | .arr items => by
      rw [stringify, toJson, Json.stringify, stringifyItems_toJson items]
  | .obj fields => by
      rw [stringify, toJson, Json.stringify, stringifyFields_toJson fields]

theorem stringifyItems_toJson : (items : List JsValue) →
    stringifyItems items = Json.stringifyItems (toJsonItems items)
  | [] => rfl
  | item :: items => by
      rw [stringifyItems, toJsonItems, Json.stringifyItems, stringify_toJson item,
        stringifyItems_toJson items]

theorem stringifyFields_toJson : (fields : List (String × Option JsValue)) →
    stringifyFields fields = Json.stringifyFields (toJsonFields fields)
  | [] => rfl
  | (_, none) :: fields => by
      rw [stringifyFields, toJsonFields, stringifyFields_toJson fields]
  | (name, some value) :: fields => by
      rw [stringifyFields, toJsonFields, Json.stringifyFields, stringify_toJson value,
        stringifyFields_toJson fields]

end

mutual

/-- The canonical text of a document is that of what is published of it. -/
theorem canonicalJsonStringify_toJson : (value : JsValue) →
    canonicalJsonStringify value = RlyGateway.canonicalJsonStringify value.toJson
  | .null => rfl
  | .bool _ => rfl
  | .num _ => rfl
  | .str _ => rfl
  | .arr items => by
      rw [canonicalJsonStringify, toJson, RlyGateway.canonicalJsonStringify,
        canonicalItems_toJson items]
  | .obj fields => by
      rw [canonicalJsonStringify, toJson, RlyGateway.canonicalJsonStringify,
        canonicalFields_toJson fields]

theorem canonicalItems_toJson : (items : List JsValue) →
    canonicalItems items = RlyGateway.canonicalItems (toJsonItems items)
  | [] => rfl
  | item :: items => by
      rw [canonicalItems, toJsonItems, RlyGateway.canonicalItems,
        canonicalJsonStringify_toJson item, canonicalItems_toJson items]

theorem canonicalFields_toJson : (fields : List (String × Option JsValue)) →
    canonicalFields fields = RlyGateway.canonicalFields (toJsonFields fields)
  | [] => rfl
  | (_, none) :: fields => by
      rw [canonicalFields, toJsonFields, canonicalFields_toJson fields]
  | (name, some value) :: fields => by
      rw [canonicalFields, toJsonFields, RlyGateway.canonicalFields,
        canonicalJsonStringify_toJson value, canonicalFields_toJson fields]

end

theorem toJsonItems_eq_map (items : List JsValue) : toJsonItems items = items.map toJson := by
  induction items with
  | nil => rfl
  | cons item items ih => rw [toJsonItems, ih, List.map_cons]

theorem toJsonFields_eq_filterMap (fields : List (String × Option JsValue)) :
    toJsonFields fields = fields.filterMap fun field =>
      field.2.map fun value => (field.1, toJson value) := by
  induction fields with
  | nil => rfl
  | cons field fields ih =>
      obtain ⟨name, value⟩ := field
      cases value with
      | none => exact ih
      | some value => exact congrArg ((name, value.toJson) :: ·) ih

/-- The names that are published are names of the document, in its order. -/
theorem sublist_toJsonFields (fields : List (String × Option JsValue)) :
    ((toJsonFields fields).map Prod.fst).Sublist (fields.map Prod.fst) := by
  induction fields with
  | nil => exact List.Sublist.refl _
  | cons field fields ih =>
      obtain ⟨name, value⟩ := field
      cases value with
      | none => exact ih.cons name
      | some value => exact ih.cons_cons name

/-- What is published of a document can be read back. -/
theorem WellFormed.toJson {value : JsValue} (h : value.WellFormed) : value.toJson.WellFormed := by
  induction h with
  | null => exact .null
  | bool b => exact .bool b
  | num h => exact .num h
  | str s => exact .str s
  | @arr items h ih =>
      rw [JsValue.toJson, toJsonItems_eq_map]
      refine .arr ?_
      intro item hitem
      obtain ⟨document, hdocument, rfl⟩ := List.mem_map.1 hitem
      exact ih document hdocument
  | @obj fields hnames h ih =>
      rw [JsValue.toJson]
      refine .obj ((sublist_toJsonFields fields).nodup hnames) ?_
      intro field hfield
      rw [toJsonFields_eq_filterMap] at hfield
      obtain ⟨⟨name, document⟩, hmem, hsome⟩ := List.mem_filterMap.1 hfield
      obtain ⟨value, rfl, rfl⟩ := Option.map_eq_some_iff.1 hsome
      exact ih name value hmem

end JsValue

/-! ## The encoding -/

/-- The canonical text tells values apart up to the order of fields and is read back as the value,
and the text of a document in memory is that of what is read from its publication, on which a
signature verifies alike. -/
theorem canonicalJsonStringify_faithful :
    (∀ value other : Json, value.WellFormed → other.WellFormed →
      (canonicalJsonStringify value = canonicalJsonStringify other ↔
        Json.KeyOrder value other)) ∧
    (∀ value : Json, value.WellFormed →
      ∃ read, Json.parse (canonicalJsonStringify value) = some read ∧
        Json.KeyOrder value read) ∧
    ∀ document : JsValue, document.WellFormed →
      ∃ read, Json.parse document.stringify = some read ∧
        canonicalJsonStringify read = document.canonicalJsonStringify ∧
        ∀ (Bytes : Type) (platform : AcquisitionPlatform Bytes) (publicKeyPem : String)
          (envelope : Json), verifyJsonSignature platform publicKeyPem read envelope =
            verifySignature platform publicKeyPem document.canonicalJsonStringify envelope := by
  refine ⟨?_, ?_, ?_⟩
  · intro value other hvalue hother
    rw [canonicalJsonStringify_eq hvalue, canonicalJsonStringify_eq hother]
    exact Json.stringify_sortKeys_eq_iff textLe textLe_total textLe_trans textLe_antisymm hvalue
      hother
  · intro value hvalue
    rw [canonicalJsonStringify_eq hvalue]
    exact ⟨_, Json.parse_stringify (hvalue.sortKeys textLe), hvalue.keyOrder_sortKeys textLe⟩
  · intro document hdocument
    have hread : Json.parse document.stringify = some document.toJson := by
      rw [document.stringify_toJson]
      exact Json.parse_stringify hdocument.toJson
    refine ⟨document.toJson, hread, document.canonicalJsonStringify_toJson.symm, ?_⟩
    intro Bytes platform publicKeyPem envelope
    rw [verifyJsonSignature, document.canonicalJsonStringify_toJson]

/-- Freeze markers in both orders of their fields, and one in memory without a reason. -/
theorem canonicalJsonStringify_freeze :
    canonicalJsonStringify (.obj [("reason", .str ""), ("frozen", .bool false)]) =
        canonicalJsonStringify (.obj [("frozen", .bool false), ("reason", .str "")]) ∧
      (∃ read, Json.parse (canonicalJsonStringify
          (.obj [("reason", .str ""), ("frozen", .bool false)])) = some read ∧
        Json.KeyOrder (.obj [("reason", .str ""), ("frozen", .bool false)]) read) ∧
      ∃ read, Json.parse
          (JsValue.obj [("reason", none), ("frozen", some (.bool false))]).stringify = some read ∧
        canonicalJsonStringify read = (JsValue.obj
          [("reason", none), ("frozen", some (.bool false))]).canonicalJsonStringify := by
  have hmarker : (Json.obj [("reason", .str ""), ("frozen", .bool false)]).WellFormed := by simp
  have hother : (Json.obj [("frozen", .bool false), ("reason", .str "")]).WellFormed := by simp
  have hdocument : (JsValue.obj [("reason", none), ("frozen", some (.bool false))]).WellFormed := by
    refine .obj (by decide) ?_
    intro name value hmem
    obtain ⟨rfl, rfl⟩ : name = "frozen" ∧ value = .bool false := by simpa using hmem
    exact .bool false
  refine ⟨?_, ?_, ?_⟩
  · exact (canonicalJsonStringify_faithful.1 _ _ hmarker hother).2 (.perm (List.Perm.swap _ _ []))
  · exact canonicalJsonStringify_faithful.2.1 _ hmarker
  · obtain ⟨read, hread, hsame, -⟩ := canonicalJsonStringify_faithful.2.2 _ hdocument
    exact ⟨read, hread, hsame⟩

end RlyGateway
