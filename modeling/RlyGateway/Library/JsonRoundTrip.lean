import RlyGateway.Library.JsonNumber

/-!
# Reading back JSON text

A value that JSON can represent is read back from the text it is written as, and every value that is
read is one of these: reading, writing and reading again gives the value of the first reading.
-/

namespace Json

/-- A value that JSON text represents: its numbers are finite decimals, and no object has two fields
of one name. -/
inductive WellFormed : Json → Prop
  | null : WellFormed .null
  | bool (b : Bool) : WellFormed (.bool b)
  | num {n : ℚ} (h : IsDecimal n) : WellFormed (.num n)
  | str (s : String) : WellFormed (.str s)
  | arr {items : List Json} (h : ∀ item ∈ items, WellFormed item) : WellFormed (.arr items)
  | obj {fields : List (String × Json)} (hnames : (fields.map Prod.fst).Nodup)
      (h : ∀ field ∈ fields, WellFormed field.2) : WellFormed (.obj fields)

@[simp] theorem isDecimal_natCast (n : ℕ) : IsDecimal n := ⟨0, by simp⟩

@[simp] theorem isDecimal_ofNat (n : ℕ) : IsDecimal ofNat(n) := isDecimal_natCast n

@[simp] theorem wellFormed_bool (b : Bool) : WellFormed (.bool b) := .bool b

@[simp] theorem wellFormed_str (s : String) : WellFormed (.str s) := .str s

@[simp] theorem wellFormed_num {n : ℚ} : WellFormed (.num n) ↔ IsDecimal n :=
  ⟨fun h => by cases h; assumption, .num⟩

@[simp] theorem wellFormed_arr {items : List Json} :
    WellFormed (.arr items) ↔ ∀ item ∈ items, WellFormed item :=
  ⟨fun h => by cases h; assumption, .arr⟩

@[simp] theorem wellFormed_obj {fields : List (String × Json)} :
    WellFormed (.obj fields) ↔
      (fields.map Prod.fst).Nodup ∧ ∀ field ∈ fields, WellFormed field.2 :=
  ⟨fun h => by cases h; constructor <;> assumption, fun h => .obj h.1 h.2⟩

/-! ## Strings -/

theorem parseUnicodeEscape_of_small {text rest : List Char} {unit : ℕ}
    (h : parseUnit text = some (unit, rest)) (hsmall : unit < 0xD800) :
    parseUnicodeEscape text = some (Char.ofNat unit, rest) := by
  have hhigh : ¬ 0xD800 ≤ unit := by omega
  unfold parseUnicodeEscape
  rw [h, Option.bind_eq_bind, Option.bind_some]
  dsimp only
  split
  · split
    · simp [hhigh]
    · simp [hhigh]
  · simp [hhigh]

/-- The characters that have an escape of one letter. -/
def shortEscapes : List Char := ['\x22', '\\', '\x08', '\x0c', '\n', '\r', '\t']

theorem escapeChar_of_mem_shortEscapes {c : Char} (h : c ∈ shortEscapes) :
    ∃ body, escapeChar c = '\\' :: body ∧ ∀ rest, parseEscape (body ++ rest) = some (c, rest) := by
  simp only [shortEscapes, List.mem_cons, List.not_mem_nil, or_false] at h
  rcases h with rfl | rfl | rfl | rfl | rfl | rfl | rfl
  all_goals exact ⟨_, rfl, fun rest => rfl⟩

theorem escapeChar_of_not_mem_shortEscapes {c : Char} (h : c ∉ shortEscapes) :
    escapeChar c = if c < ' ' then
      ['\\', 'u', '0', '0', Nat.digitChar (c.toNat / 16), Nat.digitChar (c.toNat % 16)]
    else [c] := by
  simp only [shortEscapes, List.mem_cons, List.not_mem_nil, or_false, not_or] at h
  obtain ⟨hquote, hbackslash, hb, hf, hn, hr, ht⟩ := h
  unfold escapeChar
  rw [if_neg hquote, if_neg hbackslash, if_neg hb, if_neg hf, if_neg hn, if_neg hr, if_neg ht]

/-- The hexadecimal escape of a control character. -/
theorem parseEscape_control {c : Char} (h : c < ' ') (rest : List Char) :
    parseEscape ('u' :: '0' :: '0' :: Nat.digitChar (c.toNat / 16) ::
      Nat.digitChar (c.toNat % 16) :: rest) = some (c, rest) := by
  have hlt : c.toNat < 32 := h
  have hhex : ∀ n < 16, hexDigit? (Nat.digitChar n) = some n := by decide
  have hunit : parseUnit ('0' :: '0' :: Nat.digitChar (c.toNat / 16) ::
      Nat.digitChar (c.toNat % 16) :: rest) = some (c.toNat, rest) := by
    have hzero : hexDigit? '0' = some 0 := rfl
    simp only [parseUnit, hzero, hhex (c.toNat / 16) (by omega), hhex (c.toNat % 16) (by omega),
      Option.bind_eq_bind, Option.bind_some]
    congr 2
    omega
  show parseUnicodeEscape _ = _
  rw [parseUnicodeEscape_of_small hunit (by omega), Char.ofNat_toNat]

/-- An escape is read as its character, and any other character stands for itself. -/
theorem escapeChar_cases (c : Char) :
    (∃ body, escapeChar c = '\\' :: body ∧ ∀ rest, parseEscape (body ++ rest) = some (c, rest)) ∨
      (escapeChar c = [c] ∧ c ≠ '\x22' ∧ c ≠ '\\' ∧ ¬ c < ' ') := by
  by_cases hshort : c ∈ shortEscapes
  · exact .inl (escapeChar_of_mem_shortEscapes hshort)
  · have hescape := escapeChar_of_not_mem_shortEscapes hshort
    by_cases hcontrol : c < ' '
    · rw [if_pos hcontrol] at hescape
      exact .inl ⟨_, hescape, fun rest => parseEscape_control hcontrol rest⟩
    · rw [if_neg hcontrol] at hescape
      refine .inr ⟨hescape, ?_, ?_, hcontrol⟩
      · rintro rfl
        exact hshort (by decide)
      · rintro rfl
        exact hshort (by decide)

/-- The characters of a string are read back from their escapes. -/
theorem parseChars_escape (chars rest : List Char) {fuel : ℕ} (hfuel : chars.length < fuel) :
    parseChars fuel (chars.flatMap escapeChar ++ '\x22' :: rest) = some (chars, rest) := by
  induction chars generalizing fuel with
  | nil =>
      obtain ⟨fuel, rfl⟩ := Nat.exists_eq_succ_of_ne_zero (by omega : fuel ≠ 0)
      simp [parseChars]
  | cons c chars ih =>
      obtain ⟨fuel, rfl⟩ := Nat.exists_eq_succ_of_ne_zero (by omega : fuel ≠ 0)
      have htail := ih (by rw [List.length_cons] at hfuel; omega : chars.length < fuel)
      rw [List.flatMap_cons, List.append_assoc]
      rcases escapeChar_cases c with ⟨body, hescape, hbody⟩ | ⟨hescape, hquote, hbackslash, hcontrol⟩
      · rw [hescape, List.cons_append]
        simp [parseChars, hbody, htail]
      · rw [hescape, List.singleton_append]
        simp [parseChars, hquote, hbackslash, hcontrol, htail]

theorem length_le_length_escape (chars : List Char) :
    chars.length ≤ (chars.flatMap escapeChar).length := by
  induction chars with
  | nil => exact le_rfl
  | cons c chars ih =>
      have hpos : 1 ≤ (escapeChar c).length := by
        rcases escapeChar_cases c with ⟨body, hescape, -⟩ | ⟨hescape, -⟩
        · rw [hescape, List.length_cons]
          omega
        · rw [hescape, List.length_singleton]
      rw [List.flatMap_cons, List.length_append, List.length_cons]
      omega

theorem toList_quote (s : String) :
    (quote s).toList = '\x22' :: (s.toList.flatMap escapeChar ++ ['\x22']) := by
  unfold quote
  rw [String.toList_ofList]

/-- A string is read back from between its quotes. -/
theorem parseChars_quote (s : String) (rest : List Char) :
    ∃ body, (quote s).toList ++ rest = '\x22' :: body ∧
      parseChars (body.length + 1) body = some (s.toList, rest) := by
  refine ⟨s.toList.flatMap escapeChar ++ '\x22' :: rest, ?_, ?_⟩
  · rw [toList_quote, List.cons_append, List.append_assoc]
    rfl
  · apply parseChars_escape
    have hle := length_le_length_escape s.toList
    rw [List.length_append]
    omega

/-! ## Where a value begins and ends -/

/-- The text ends, or goes on with what may stand behind a value. -/
def Follows (rest : List Char) : Prop := ∀ c ∈ rest.head?, c = ',' ∨ c = ']' ∨ c = '\x7d'

theorem Follows.endsNumber {rest : List Char} (h : Follows rest) : EndsNumber rest where
  digit := by
    intro c hc
    rcases h c hc with rfl | rfl | rfl
    · rfl
    · rfl
    · rfl
  point := fun hc => absurd (h '.' hc) (by decide)
  lower := fun hc => absurd (h 'e' hc) (by decide)
  upper := fun hc => absurd (h 'E' hc) (by decide)

theorem skipSpace_cons {c : Char} (rest : List Char) (h : isSpace c = false) :
    skipSpace (c :: rest) = c :: rest := by
  unfold skipSpace
  rw [List.dropWhile_cons, h]
  rfl

theorem exists_cons_of_parseNumber {text rest : List Char} {q : ℚ}
    (h : parseNumber text = some (q, rest)) :
    ∃ c tail, text = c :: tail ∧ (c = '-' ∨ c.isDigit = true) := by
  cases text with
  | nil => cases h
  | cons c tail =>
      refine ⟨c, tail, rfl, ?_⟩
      by_contra hnot
      rw [not_or, Bool.not_eq_true] at hnot
      have hspan : (c :: tail).span Char.isDigit = ([], c :: tail) := by
        rw [List.span_eq_takeWhile_dropWhile, List.takeWhile_cons, List.dropWhile_cons, hnot.2]
        rfl
      unfold parseNumber at h
      split at h
      case h_1 rest' heq => exact hnot.1 (List.cons.inj heq).1
      case h_2 =>
        unfold parseUnsigned at h
        rw [hspan] at h
        cases h

/-- A number is none of the other values. -/
theorem parseValue_of_parseNumber {text rest : List Char} {q : ℚ} (fuel : ℕ)
    (h : parseNumber text = some (q, rest)) :
    parseValue (fuel + 1) text = some (.num q, rest) := by
  obtain ⟨c, tail, rfl, hc⟩ := exists_cons_of_parseNumber h
  have hother : ∀ d ∈ ['n', 't', 'f', '\x22', '[', '\x7b'], c ≠ d := by
    intro d hd heq
    have hstart : ∀ d ∈ ['n', 't', 'f', '\x22', '[', '\x7b'], ¬ (d = '-' ∨ d.isDigit = true) := by
      simp only [List.forall_mem_cons]
      refine ⟨?_, ?_, ?_, ?_, ?_, ?_, by simp⟩ <;> decide
    rw [heq] at hc
    exact hstart d hd hc
  rw [parseValue]
  · rw [h, Option.map_some]
  all_goals
    intro rest' heq
    cases heq
    exact hother _ (by decide) rfl

/-- A value begins with a character that is no white space and no closing bracket. -/
theorem exists_cons_stringify {value : Json} (h : value.WellFormed) :
    ∃ c tail, (stringify value).toList = c :: tail ∧ isSpace c = false ∧ c ≠ ']' := by
  cases h with
  | null => exact ⟨'n', _, rfl, rfl, by decide⟩
  | bool b =>
      cases b with
      | true => exact ⟨'t', _, rfl, rfl, by decide⟩
      | false => exact ⟨'f', _, rfl, rfl, by decide⟩
  | @num n hn =>
      have hends : EndsNumber [] := ⟨by rintro c ⟨⟩, by decide, by decide, by decide⟩
      have hparse := parseNumber_numberText hn hends
      rw [List.append_nil] at hparse
      obtain ⟨c, tail, htext, hc⟩ := exists_cons_of_parseNumber hparse
      refine ⟨c, tail, htext, ?_, ?_⟩
      · rcases hc with rfl | hc
        · rfl
        · rw [← Bool.not_eq_true]
          intro hspace
          rcases of_decide_eq_true hspace with rfl | rfl | rfl | rfl
          · cases hc
          · cases hc
          · cases hc
          · cases hc
      · rintro rfl
        rcases hc with hc | hc
        · cases hc
        · cases hc
  | str s => exact ⟨'\x22', _, toList_quote s, rfl, by decide⟩
  | @arr items _ => exact ⟨'[', (String.intercalate "," (stringifyItems items) ++ "]").toList,
      by simp [stringify], rfl, by decide⟩
  | @obj fields _ _ =>
      exact ⟨'\x7b', (String.intercalate "," (stringifyFields fields) ++ "\x7d").toList,
        by simp [stringify], rfl, by decide⟩

/-! ## Values -/

/-- A value is read back from its text, whatever may stand behind it. -/
def Reads (value : Json) : Prop :=
  ∀ fuel rest, 2 * (stringify value).length ≤ fuel → Follows rest →
    parseValue fuel ((stringify value).toList ++ rest) = some (value, rest)

theorem follows_comma (rest : List Char) : Follows (',' :: rest) := by
  rintro c ⟨⟩
  exact .inl rfl

theorem follows_bracket (rest : List Char) : Follows (']' :: rest) := by
  rintro c ⟨⟩
  exact .inr (.inl rfl)

theorem follows_brace (rest : List Char) : Follows ('\x7d' :: rest) := by
  rintro c ⟨⟩
  exact .inr (.inr rfl)

theorem skipSpace_stringify {value : Json} (h : value.WellFormed) (rest : List Char) :
    skipSpace ((stringify value).toList ++ rest) = (stringify value).toList ++ rest := by
  obtain ⟨c, tail, htext, hspace, -⟩ := exists_cons_stringify h
  rw [htext, List.cons_append, skipSpace_cons _ hspace]

/-- The items of an array are read back. -/
theorem parseItems_stringify {items : List Json} (hne : items ≠ [])
    (hitems : ∀ item ∈ items, item.WellFormed ∧ item.Reads) {fuel : ℕ} (rest : List Char)
    (hfuel : 2 * ((String.intercalate "," (stringifyItems items)).length + 1) ≤ fuel) :
    parseItems fuel ((String.intercalate "," (stringifyItems items)).toList ++ ']' :: rest) =
      some (items, rest) := by
  induction items generalizing fuel with
  | nil => exact absurd rfl hne
  | cons item items ih =>
      obtain ⟨hformed, hreads⟩ := hitems item List.mem_cons_self
      -- one unit of fuel is spent on each item, and two are there for each character
      obtain ⟨fuel, rfl⟩ := Nat.exists_eq_succ_of_ne_zero (by omega : fuel ≠ 0)
      cases items with
      | nil =>
          have htext : String.intercalate "," (stringifyItems [item]) = stringify item := by
            simp [stringifyItems]
          rw [htext] at hfuel ⊢
          have hvalue := hreads fuel (']' :: rest) (by omega) (follows_bracket rest)
          rw [parseItems, skipSpace_stringify hformed, hvalue]
          dsimp only
          rw [skipSpace_cons rest rfl]
          rfl
      | cons other items =>
          have htext : String.intercalate "," (stringifyItems (item :: other :: items)) =
              stringify item ++ "," ++ String.intercalate "," (stringifyItems (other :: items)) := by
            simp [stringifyItems]
          rw [htext, String.length_append, String.length_append] at hfuel
          have hcomma : (",": String).length = 1 := rfl
          have hvalue := hreads fuel (',' :: ((String.intercalate ","
            (stringifyItems (other :: items))).toList ++ ']' :: rest)) (by omega) (follows_comma _)
          have htail := ih (by simp) (fun value hvalue => hitems value (List.mem_cons_of_mem _ hvalue))
            (by omega : _ ≤ fuel)
          have happend : (stringify item ++ "," ++ String.intercalate ","
              (stringifyItems (other :: items))).toList ++ ']' :: rest =
                (stringify item).toList ++ ',' :: ((String.intercalate ","
                  (stringifyItems (other :: items))).toList ++ ']' :: rest) := by
            simp
          rw [htext, happend, parseItems, skipSpace_stringify hformed, hvalue]
          dsimp only
          rw [skipSpace_cons _ rfl]
          show (parseItems fuel _).map _ = _
          rw [htail, Option.map_some]

theorem setField_of_not_mem {name : String} {value : Json} {fields : List (String × Json)}
    (h : name ∉ fields.map Prod.fst) : setField name value fields = fields ++ [(name, value)] := by
  induction fields with
  | nil => rfl
  | cons field fields ih =>
      obtain ⟨key, old⟩ := field
      rw [List.map_cons, List.mem_cons, not_or] at h
      rw [setField, if_neg (Ne.symm h.1), ih h.2]
      rfl

/-- One field is read back, up to what stands behind it. -/
theorem parseFields_field {name : String} {value : Json} (hformed : value.WellFormed)
    (hreads : value.Reads) {fuel : ℕ} (seen : List (String × Json)) {rest : List Char}
    (hfuel : 2 * (quote name ++ ":" ++ stringify value).length ≤ fuel) (hrest : Follows rest) :
    parseFields (fuel + 1) seen ((quote name ++ ":" ++ stringify value).toList ++ rest) =
      match skipSpace rest with
      | ',' :: tail => parseFields fuel (setField name value seen) tail
      | '\x7d' :: tail => some (setField name value seen, tail)
      | _ => none := by
  obtain ⟨body, hbody, hchars⟩ := parseChars_quote name (':' :: ((stringify value).toList ++ rest))
  have hvalue := hreads fuel rest (by rw [String.length_append] at hfuel; omega) hrest
  have happend : (quote name ++ ":" ++ stringify value).toList ++ rest =
      (quote name).toList ++ ':' :: ((stringify value).toList ++ rest) := by
    simp
  rw [happend, hbody, parseFields, skipSpace_cons body rfl]
  split
  case h_2 hquote => exact absurd rfl (hquote body)
  case h_1 text heq =>
    cases heq
    rw [hchars]
    dsimp only
    rw [String.ofList_toList]
    rw [skipSpace_cons _ rfl]
    split
    case h_2 hcolon => exact absurd rfl (hcolon _)
    case h_1 text heq =>
      cases heq
      rw [skipSpace_stringify hformed, hvalue] <;> rfl

/-- The fields of an object are read back behind those already read. -/
theorem parseFields_stringify {fields : List (String × Json)} (hne : fields ≠ [])
    (hfields : ∀ field ∈ fields, field.2.WellFormed ∧ field.2.Reads) {seen : List (String × Json)}
    (hnames : ((seen ++ fields).map Prod.fst).Nodup) {fuel : ℕ} (rest : List Char)
    (hfuel : 2 * ((String.intercalate "," (stringifyFields fields)).length + 1) ≤ fuel) :
    parseFields fuel seen ((String.intercalate "," (stringifyFields fields)).toList ++
      '\x7d' :: rest) = some (seen ++ fields, rest) := by
  induction fields generalizing fuel seen with
  | nil => exact absurd rfl hne
  | cons field fields ih =>
      obtain ⟨name, value⟩ := field
      obtain ⟨hformed, hreads⟩ : value.WellFormed ∧ value.Reads :=
        hfields (name, value) List.mem_cons_self
      obtain ⟨fuel, rfl⟩ := Nat.exists_eq_succ_of_ne_zero (by omega : fuel ≠ 0)
      -- the name is none of those seen, so the field goes behind them
      have hset : setField name value seen = seen ++ [(name, value)] := by
        apply setField_of_not_mem
        intro hmem
        rw [List.map_append, List.map_cons] at hnames
        exact (List.nodup_append.1 hnames).2.2 name hmem name List.mem_cons_self rfl
      cases fields with
      | nil =>
          have htext : String.intercalate "," (stringifyFields [(name, value)]) =
              quote name ++ ":" ++ stringify value := by
            simp [stringifyFields]
          rw [htext] at hfuel ⊢
          rw [parseFields_field hformed hreads seen (by omega) (follows_brace rest),
            skipSpace_cons rest rfl, hset]
          rfl
      | cons other fields =>
          have htext : String.intercalate "," (stringifyFields ((name, value) :: other :: fields)) =
              quote name ++ ":" ++ stringify value ++ "," ++
                String.intercalate "," (stringifyFields (other :: fields)) := by
            obtain ⟨otherName, otherValue⟩ := other
            simp [stringifyFields]
          have hcomma : (",": String).length = 1 := rfl
          rw [htext, String.length_append, @String.length_append _ ",", hcomma] at hfuel
          have hnames' : ((seen ++ [(name, value)] ++ other :: fields).map Prod.fst).Nodup := by
            rw [List.append_assoc]
            exact hnames
          have htail := ih (by simp) (fun field hfield => hfields field (List.mem_cons_of_mem _ hfield))
            hnames' (by omega : _ ≤ fuel)
          have happend : (quote name ++ ":" ++ stringify value ++ "," ++ String.intercalate ","
              (stringifyFields (other :: fields))).toList ++ '\x7d' :: rest =
                (quote name ++ ":" ++ stringify value).toList ++ ',' :: ((String.intercalate ","
                  (stringifyFields (other :: fields))).toList ++ '\x7d' :: rest) := by
            simp
          rw [htext, happend, parseFields_field hformed hreads seen (by omega) (follows_comma _),
            skipSpace_cons _ rfl]
          show parseFields fuel (setField name value seen) _ = _
          rw [hset, htail, List.append_assoc]
          rfl

/-! ## Round trip -/

theorem reads_of_succ {value : Json} (hformed : value.WellFormed)
    (h : ∀ fuel rest, 2 * (stringify value).length ≤ fuel + 1 → Follows rest →
      parseValue (fuel + 1) ((stringify value).toList ++ rest) = some (value, rest)) :
    value.Reads := by
  intro fuel rest hfuel hrest
  have hpos : 0 < (stringify value).length := by
    obtain ⟨c, tail, htext, -⟩ := exists_cons_stringify hformed
    rw [← String.length_toList, htext]
    simp
  obtain ⟨fuel, rfl⟩ := Nat.exists_eq_succ_of_ne_zero (by omega : fuel ≠ 0)
  exact h fuel rest hfuel hrest

/-- The text of an array. -/
theorem toList_stringify_arr (items : List Json) (rest : List Char) :
    (stringify (.arr items)).toList ++ rest =
      '[' :: ((String.intercalate "," (stringifyItems items)).toList ++ ']' :: rest) := by
  simp [stringify]

/-- The text of an object. -/
theorem toList_stringify_obj (fields : List (String × Json)) (rest : List Char) :
    (stringify (.obj fields)).toList ++ rest =
      '\x7b' :: ((String.intercalate "," (stringifyFields fields)).toList ++ '\x7d' :: rest) := by
  simp [stringify]

/-- The text of items begins like their first one. -/
theorem exists_cons_stringifyItems {item : Json} (h : item.WellFormed) (items : List Json) :
    ∃ c tail, (String.intercalate "," (stringifyItems (item :: items))).toList = c :: tail ∧
      isSpace c = false ∧ c ≠ ']' := by
  obtain ⟨c, tail, htext, hc⟩ := exists_cons_stringify h
  cases items with
  | nil => exact ⟨c, tail, by simp [stringifyItems, htext], hc⟩
  | cons other items =>
      refine ⟨c, tail ++ ',' :: (String.intercalate "," (stringifyItems (other :: items))).toList,
        ?_, hc⟩
      simp [stringifyItems, htext]

/-- The text of fields begins with a quote. -/
theorem exists_cons_stringifyFields (field : String × Json) (fields : List (String × Json)) :
    ∃ tail, (String.intercalate "," (stringifyFields (field :: fields))).toList =
      '\x22' :: tail := by
  obtain ⟨name, value⟩ := field
  cases fields with
  | nil => exact ⟨_, by simp [stringifyFields, toList_quote]; rfl⟩
  | cons other fields => exact ⟨_, by simp [stringifyFields, toList_quote]; rfl⟩

/-- Every value is read back from its text. -/
theorem WellFormed.reads {value : Json} (h : value.WellFormed) : value.Reads := by
  induction h with
  | null => exact reads_of_succ .null fun fuel rest _ _ => rfl
  | bool b =>
      cases b with
      | true => exact reads_of_succ (.bool true) fun fuel rest _ _ => rfl
      | false => exact reads_of_succ (.bool false) fun fuel rest _ _ => rfl
  | num hn =>
      refine reads_of_succ (.num hn) fun fuel rest _ hrest => ?_
      exact parseValue_of_parseNumber fuel (parseNumber_numberText hn hrest.endsNumber)
  | str s =>
      refine reads_of_succ (.str s) fun fuel rest _ _ => ?_
      obtain ⟨body, hbody, hchars⟩ := parseChars_quote s rest
      show parseValue (fuel + 1) ((quote s).toList ++ rest) = _
      rw [hbody]
      show (parseChars (body.length + 1) body).map _ = _
      rw [hchars, Option.map_some]
      dsimp only
      rw [String.ofList_toList]
  | @arr items hitems ih =>
      refine reads_of_succ (.arr hitems) fun fuel rest hfuel _ => ?_
      have hlength := congrArg List.length (toList_stringify_arr items [])
      rw [List.append_nil, String.length_toList, List.length_cons, List.length_append,
        String.length_toList, List.length_singleton] at hlength
      rw [toList_stringify_arr]
      cases items with
      | nil => rfl
      | cons item items =>
          obtain ⟨c, tail, htext, hspace, hc⟩ :=
            exists_cons_stringifyItems (hitems item List.mem_cons_self) items
          have hparse := parseItems_stringify (by simp)
            (fun item hitem => ⟨hitems item hitem, ih item hitem⟩) rest (by omega : _ ≤ fuel)
          rw [htext, List.cons_append] at hparse ⊢
          -- the first item does not begin with a bracket, so the array is not taken for an empty one
          rw [parseValue, skipSpace_cons _ hspace]
          split
          case h_1 heq =>
            cases heq
            exact absurd rfl hc
          case h_2 => rw [hparse, Option.map_some]
  | @obj fields hnames hfields ih =>
      refine reads_of_succ (.obj hnames hfields) fun fuel rest hfuel _ => ?_
      have hlength := congrArg List.length (toList_stringify_obj fields [])
      rw [List.append_nil, String.length_toList, List.length_cons, List.length_append,
        String.length_toList, List.length_singleton] at hlength
      rw [toList_stringify_obj]
      cases fields with
      | nil => rfl
      | cons field fields =>
          obtain ⟨tail, htext⟩ := exists_cons_stringifyFields field fields
          have hparse := parseFields_stringify (by simp)
            (fun field hfield => ⟨hfields field hfield, ih field hfield⟩)
            (by rwa [List.nil_append] : (([] ++ field :: fields).map Prod.fst).Nodup) rest
            (by omega : _ ≤ fuel)
          rw [htext, List.cons_append] at hparse ⊢
          rw [parseValue, skipSpace_cons _ rfl]
          show (parseFields fuel [] _).map _ = _
          rw [hparse, Option.map_some]
          rfl

/-- A value that JSON can represent is what its text is parsed as. -/
theorem parse_stringify {value : Json} (h : value.WellFormed) :
    parse (stringify value) = some value := by
  have hspace := skipSpace_stringify h []
  have hreads := h.reads (2 * (stringify value).length + 1) [] (by omega) (by rintro c ⟨⟩)
  rw [List.append_nil] at hspace hreads
  unfold parse
  rw [hspace, hreads]
  rfl

/-! ## What is read -/

theorem keys_setField (name : String) (value : Json) (fields : List (String × Json)) :
    (setField name value fields).map Prod.fst =
      if name ∈ fields.map Prod.fst then fields.map Prod.fst
      else fields.map Prod.fst ++ [name] := by
  induction fields with
  | nil => rfl
  | cons field fields ih =>
      obtain ⟨key, old⟩ := field
      unfold setField
      by_cases hkey : key = name
      · simp [hkey]
      · rw [if_neg hkey, List.map_cons, ih, List.map_cons]
        by_cases hmem : name ∈ fields.map Prod.fst
        · rw [if_pos hmem, if_pos (List.mem_cons_of_mem _ hmem)]
        · rw [if_neg hmem, if_neg (by simp [hmem, Ne.symm hkey])]
          rfl

theorem mem_setField {name : String} {value : Json} {fields : List (String × Json)}
    {field : String × Json} (h : field ∈ setField name value fields) :
    field ∈ fields ∨ field.2 = value := by
  induction fields with
  | nil =>
      rw [setField, List.mem_singleton] at h
      exact .inr (congrArg Prod.snd h)
  | cons first fields ih =>
      obtain ⟨key, old⟩ := first
      unfold setField at h
      split at h
      · rcases List.mem_cons.1 h with rfl | h
        · exact .inr rfl
        · exact .inl (List.mem_cons_of_mem _ h)
      · rcases List.mem_cons.1 h with rfl | h
        · exact .inl List.mem_cons_self
        · exact (ih h).imp_left (List.mem_cons_of_mem _)

/-- Fields that make an object. -/
structure FormedFields (fields : List (String × Json)) : Prop where
  names : (fields.map Prod.fst).Nodup
  values : ∀ field ∈ fields, field.2.WellFormed

theorem FormedFields.setField {fields : List (String × Json)} (h : FormedFields fields)
    (name : String) {value : Json} (hvalue : value.WellFormed) :
    FormedFields (setField name value fields) where
  names := by
    rw [keys_setField]
    split
    case isTrue => exact h.names
    case isFalse hnot =>
      rw [List.nodup_append]
      refine ⟨h.names, List.nodup_singleton name, ?_⟩
      rintro key hkey other hother rfl
      rw [List.mem_singleton.1 hother] at hkey
      exact hnot hkey
  values := by
    intro field hfield
    rcases mem_setField hfield with hmem | hsame
    · exact h.values field hmem
    · rw [hsame]
      exact hvalue

/-- What is read with some fuel can be represented. -/
structure ReadsFormed (fuel : ℕ) : Prop where
  value : ∀ text value rest, parseValue fuel text = some (value, rest) → value.WellFormed
  items : ∀ text items rest, parseItems fuel text = some (items, rest) →
    ∀ item ∈ items, item.WellFormed
  fields : ∀ seen text fields rest, FormedFields seen →
    parseFields fuel seen text = some (fields, rest) → FormedFields fields

theorem ReadsFormed.succ_value {fuel : ℕ} (h : ReadsFormed fuel) {text rest : List Char}
    {value : Json} (hparse : parseValue (fuel + 1) text = some (value, rest)) :
    value.WellFormed := by
  rw [parseValue.eq_def] at hparse
  dsimp only at hparse
  split at hparse
  · cases hparse
    exact .null
  · cases hparse
    exact .bool true
  · cases hparse
    exact .bool false
  · obtain ⟨⟨chars, tail⟩, -, hparse⟩ := Option.map_eq_some_iff.1 hparse
    cases hparse
    exact .str _
  · split at hparse
    · cases hparse
      exact .arr fun item hitem => absurd hitem List.not_mem_nil
    · obtain ⟨⟨items, tail⟩, hitems, hparse⟩ := Option.map_eq_some_iff.1 hparse
      cases hparse
      exact .arr (h.items _ _ _ hitems)
  · split at hparse
    · cases hparse
      exact .obj List.nodup_nil fun field hfield => absurd hfield List.not_mem_nil
    · obtain ⟨⟨fields, tail⟩, hfields, hparse⟩ := Option.map_eq_some_iff.1 hparse
      cases hparse
      have hnone : FormedFields [] :=
        ⟨List.nodup_nil, fun field hfield => absurd hfield List.not_mem_nil⟩
      have hformed := h.fields _ _ _ _ hnone hfields
      exact .obj hformed.names hformed.values
  · obtain ⟨⟨n, tail⟩, hn, hparse⟩ := Option.map_eq_some_iff.1 hparse
    cases hparse
    exact .num (isDecimal_of_parseNumber hn)

theorem ReadsFormed.succ_items {fuel : ℕ} (h : ReadsFormed fuel) {text rest : List Char}
    {items : List Json} (hparse : parseItems (fuel + 1) text = some (items, rest)) :
    ∀ item ∈ items, item.WellFormed := by
  rw [parseItems] at hparse
  split at hparse
  · cases hparse
  case h_2 first after hvalue =>
    have hfirst := h.value _ _ _ hvalue
    split at hparse
    · obtain ⟨⟨others, tail⟩, hothers, hparse⟩ := Option.map_eq_some_iff.1 hparse
      cases hparse
      intro item hitem
      rcases List.mem_cons.1 hitem with rfl | hitem
      · exact hfirst
      · exact h.items _ _ _ hothers item hitem
    · cases hparse
      intro item hitem
      rw [List.mem_singleton.1 hitem]
      exact hfirst
    · cases hparse

theorem ReadsFormed.succ_fields {fuel : ℕ} (h : ReadsFormed fuel) {text rest : List Char}
    {seen fields : List (String × Json)} (hseen : FormedFields seen)
    (hparse : parseFields (fuel + 1) seen text = some (fields, rest)) : FormedFields fields := by
  rw [parseFields] at hparse
  split at hparse
  case h_2 => cases hparse
  case h_1 =>
    split at hparse
    case h_1 => cases hparse
    case h_2 name after hname =>
      split at hparse
      case h_2 => cases hparse
      case h_1 =>
        split at hparse
        case h_1 => cases hparse
        case h_2 value last hvalue =>
          have hnext := hseen.setField (String.ofList name) (h.value _ _ _ hvalue)
          split at hparse
          · exact h.fields _ _ _ _ hnext hparse
          · cases hparse
            exact hnext
          · cases hparse

theorem readsFormed (fuel : ℕ) : ReadsFormed fuel := by
  induction fuel with
  | zero =>
      refine ⟨?_, ?_, ?_⟩
      · intro text value rest hparse
        cases hparse
      · intro text items rest hparse
        cases hparse
      · intro seen text fields rest _ hparse
        cases hparse
  | succ fuel ih =>
      exact ⟨fun _ _ _ => ih.succ_value, fun _ _ _ => ih.succ_items,
        fun _ _ _ _ => ih.succ_fields⟩

/-- Whatever is parsed can be represented. -/
theorem wellFormed_of_parse {text : String} {value : Json} (h : parse text = some value) :
    value.WellFormed := by
  unfold parse at h
  split at h
  case h_1 read rest hread =>
    split at h
    · cases h
      exact (readsFormed _).value _ _ _ hread
    · cases h
  case h_2 => cases h

/-- A parsed value is what its text is parsed as again. -/
theorem parse_stringify_of_parse {text : String} {value : Json} (h : parse text = some value) :
    parse (stringify value) = some value :=
  parse_stringify (wellFormed_of_parse h)

end Json
