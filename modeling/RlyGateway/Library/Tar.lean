import Mathlib.Algebra.GroupWithZero.Nat
import Mathlib.Data.List.Basic

/-!
# Reading tar archives

A reader of POSIX ustar archives with PAX extended headers, over bytes: blocks of 512 bytes, each
header cut into its fields, numbers in octal, and the records of an extended header in front of the
entry they are about.
-/

namespace Tar

/-! ## Bytes and numbers -/

/-- The bytes of a text. -/
def utf8 (text : List Char) : List UInt8 := text.flatMap String.utf8EncodeChar

/-- The character of an ASCII byte. -/
def charOf (byte : UInt8) : Char := Char.ofNat byte.toNat

def isDigit (byte : UInt8) : Bool := (charOf byte).isDigit

/-- The number that a field starts with. -/
def number (base : ℕ) (field : List UInt8) : ℕ :=
  Nat.ofDigitChars base ((field.takeWhile isDigit).map charOf) 0

theorem utf8_append (front rest : List Char) : utf8 (front ++ rest) = utf8 front ++ utf8 rest :=
  List.flatMap_append

theorem utf8_cons (c : Char) (text : List Char) :
    utf8 (c :: text) = String.utf8EncodeChar c ++ utf8 text := rfl

theorem utf8EncodeChar_of_isDigit {c : Char} (h : c.isDigit = true) :
    ∃ byte, String.utf8EncodeChar c = [byte] ∧ charOf byte = c := by
  have hle : c.toNat ≤ 57 := by
    rw [Char.isDigit, Bool.and_eq_true, decide_eq_true_eq, decide_eq_true_eq] at h
    exact h.2
  have hsize : c.utf8Size = 1 := Char.utf8Size_eq_one_iff.2 (Nat.le_trans hle (by omega : 57 ≤ 127))
  refine ⟨c.val.toUInt8, String.utf8EncodeChar_eq_singleton hsize, ?_⟩
  have hbyte : c.val.toUInt8.toNat = c.toNat := by
    show c.val.toNat % 256 = c.val.toNat
    exact Nat.mod_eq_of_lt (Nat.lt_of_le_of_lt hle (by omega))
  rw [charOf, hbyte, Char.ofNat_toNat]

/-- Digits are a byte each. -/
theorem utf8_of_isDigit {text : List Char} (h : ∀ c ∈ text, c.isDigit = true) :
    (utf8 text).map charOf = text ∧ ∀ byte ∈ utf8 text, isDigit byte = true := by
  induction text with
  | nil => exact ⟨rfl, fun byte hbyte => by cases hbyte⟩
  | cons c text ih =>
      rw [List.forall_mem_cons] at h
      obtain ⟨hmap, hdigits⟩ := ih h.2
      obtain ⟨byte, heq, hchar⟩ := utf8EncodeChar_of_isDigit h.1
      rw [utf8_cons, heq, List.singleton_append]
      refine ⟨by rw [List.map_cons, hmap, hchar], fun other hother => ?_⟩
      obtain rfl | hother := List.mem_cons.1 hother
      · rw [isDigit, hchar, h.1]
      · exact hdigits other hother

theorem length_utf8_of_isDigit {text : List Char} (h : ∀ c ∈ text, c.isDigit = true) :
    (utf8 text).length = text.length := by
  rw [← List.length_map charOf, (utf8_of_isDigit h).1]

/-- Digits in front of what is no digit are read as their number. -/
theorem number_utf8_append {base : ℕ} {digits : List Char} (h : ∀ c ∈ digits, c.isDigit = true)
    {rest : List UInt8} (hrest : ∀ byte ∈ rest.head?, isDigit byte = false) :
    number base (utf8 digits ++ rest) = Nat.ofDigitChars base digits 0 := by
  obtain ⟨hmap, hdigits⟩ := utf8_of_isDigit h
  have hstop : rest.takeWhile isDigit = [] := by
    cases rest with
    | nil => rfl
    | cons byte rest => rw [List.takeWhile_cons, hrest byte rfl, if_neg Bool.false_ne_true]
  rw [number, List.takeWhile_append_of_pos hdigits, hstop, List.append_nil, hmap]

/-! ## Fields -/

/-- The fields of a header: the name, mode, owner and group, size and time, the checksum, the kind of
the entry, the target of a link, the magic and its version, the names of owner and group, the device,
the prefix of the name, and the rest of the block. -/
def widths : List ℕ := [100, 8, 8, 8, 12, 12, 8, 1, 100, 6, 2, 32, 32, 8, 8, 155, 12]

/-- Cut bytes into fields. -/
def cutFields : List ℕ → List UInt8 → List (List UInt8)
  | [], _ => []
  | width :: widths, bytes => bytes.take width :: cutFields widths (bytes.drop width)

theorem cutFields_flatten {fields : List (List UInt8)} {widths : List ℕ}
    (h : fields.map List.length = widths) : cutFields widths fields.flatten = fields := by
  subst h
  induction fields with
  | nil => rfl
  | cons field fields ih =>
      rw [List.map_cons, cutFields, List.flatten_cons, List.take_left, List.drop_left, ih]

theorem length_flatten_fields {fields : List (List UInt8)} (h : fields.map List.length = widths) :
    fields.flatten.length = 512 := by
  rw [List.length_flatten, h]
  rfl

/-- A text that ends at the first zero. -/
def textOf (field : List UInt8) : List UInt8 := field.takeWhile (· != 0)

theorem textOf_append_zeros {text : List UInt8} (h : 0 ∉ text) (n : ℕ) :
    textOf (text ++ List.replicate n 0) = text := by
  have htext : ∀ byte ∈ text, (byte != 0) = true := by
    intro byte hbyte
    rw [bne_iff_ne]
    rintro rfl
    exact h hbyte
  have hzeros : (List.replicate n (0 : UInt8)).takeWhile (· != 0) = [] := by
    cases n with
    | zero => rfl
    | succ n => rfl
  rw [textOf, List.takeWhile_append_of_pos htext, hzeros, List.append_nil]

/-- The sum over a header, whose checksum counts as blanks. -/
def checksumOf (fields : List (List UInt8)) : ℕ :=
  (((fields.take 6).flatten ++ List.replicate 8 0x20 ++ (fields.drop 7).flatten).map
    UInt8.toNat).sum

/-! ## Extended headers -/

/-- The records of an extended header: each starts with its length in decimal. -/
def readRecords : ℕ → List UInt8 → Option (List (List UInt8 × List UInt8))
  | _, [] => some []
  | 0, _ => none
  | fuel + 1, bytes =>
      let length := number 10 bytes
      let record := (bytes.take length).drop ((bytes.takeWhile isDigit).length + 1)
      if bytes.length < length ∨ record.getLast? ≠ some 0x0A ∨ 0x3D ∉ record then none
      else
        (readRecords fuel (bytes.drop length)).map
          ((record.takeWhile (· != 0x3D), (record.dropWhile (· != 0x3D)).tail.dropLast) :: ·)

/-- The value of the last record with a key. -/
def recordOf (key : String) (records : List (List UInt8 × List UInt8)) : Option (List UInt8) :=
  (records.filter (·.1 = utf8 key.toList)).getLast?.map Prod.snd

theorem recordOf_concat (key : String) (records : List (List UInt8 × List UInt8)) (value : List UInt8) :
    recordOf key (records ++ [(utf8 key.toList, value)]) = some value := by
  rw [recordOf, List.filter_append, List.filter_cons, if_pos (decide_eq_true rfl), List.filter_nil,
    List.getLast?_concat, Option.map_some]

theorem recordOf_concat_of_ne {key : String} {other : List UInt8} (h : other ≠ utf8 key.toList)
    (records : List (List UInt8 × List UInt8)) (value : List UInt8) :
    recordOf key (records ++ [(other, value)]) = recordOf key records := by
  rw [recordOf, List.filter_append, List.filter_cons, if_neg (by simpa using h), List.filter_nil,
    List.append_nil, recordOf]

/-! ## Entries -/

/-- What an entry stands for. -/
inductive Contents where
  | file (bytes : List UInt8)
  | directory
  | link (target : List UInt8)
deriving DecidableEq, Repr

structure Entry where
  path : List UInt8
  mode : ℕ
  contents : Contents
deriving DecidableEq, Repr

/-- An entry of a header and its body. The slash at the end of a directory is not of its path. -/
def entryOf (records : List (List UInt8 × List UInt8)) (name pre mode kind target body : List UInt8) :
    Option Entry :=
  let plain := if textOf pre = [] then textOf name else textOf pre ++ 0x2F :: textOf name
  let path := (recordOf "path" records).getD plain
  if kind = utf8 ['0'] ∨ kind = [0] then some ⟨path, number 8 mode, .file body⟩
  else if kind = utf8 ['5'] then
    some ⟨if path.getLast? = some 0x2F then path.dropLast else path, number 8 mode, .directory⟩
  else if kind = utf8 ['2'] then
    some ⟨path, number 8 mode, .link ((recordOf "linkpath" records).getD (textOf target))⟩
  else none

/-- The blocks of a body. -/
def blocks (length : ℕ) : ℕ := (length + 511) / 512 * 512

/-- The entries up to a block of zeros, behind the records that are about the next one. -/
def read : ℕ → List (List UInt8 × List UInt8) → List UInt8 → Option (List Entry)
  | 0, _, _ => none
  | fuel + 1, records, bytes =>
      if bytes.length < 512 then none
      else if (bytes.take 512).all (· = 0) then some []
      else
        match cutFields widths (bytes.take 512) with
        | [name, mode, owner, group, size, time, check, kind, target, magic, version, user, users,
            major, minor, pre, unused] =>
            let fields := [name, mode, owner, group, size, time, check, kind, target, magic, version,
              user, users, major, minor, pre, unused]
            let length := number 8 size
            let body := (bytes.drop 512).take length
            let rest := (bytes.drop 512).drop (blocks length)
            if magic ≠ utf8 "ustar\x00".toList ∨ number 8 check ≠ checksumOf fields ∨
                body.length < length then none
            else if kind = utf8 ['x'] then
              (readRecords body.length body).bind fun found => read fuel found rest
            else
              (entryOf records name pre mode kind target body).bind fun entry =>
                (read fuel [] rest).map (entry :: ·)
        | _ => none

/-! ## Reading what is written -/

theorem length_le_blocks (length : ℕ) : length ≤ blocks length := by
  unfold blocks
  omega

/-- A body filled up to whole blocks. -/
def padded (body : List UInt8) : List UInt8 :=
  body ++ List.replicate (blocks body.length - body.length) 0

theorem length_padded (body : List UInt8) : (padded body).length = blocks body.length := by
  have hle := length_le_blocks body.length
  rw [padded, List.length_append, List.length_replicate]
  omega

/-- Two blocks of zeros end the archive. -/
theorem read_end (fuel : ℕ) (records : List (List UInt8 × List UInt8)) :
    read (fuel + 1) records (List.replicate 512 0 ++ List.replicate 512 0) = some [] := by
  have hblock : (List.replicate 512 (0 : UInt8) ++ List.replicate 512 0).take 512 =
      List.replicate 512 0 := List.take_left' List.length_replicate
  rw [read, hblock, if_neg (by rw [List.length_append, List.length_replicate]; omega),
    if_pos (List.all_eq_true.2 fun byte hbyte => decide_eq_true (List.eq_of_mem_replicate hbyte))]

section Header

variable {name mode owner group size time check kind target magic version user users major minor pre
  unused body : List UInt8}

/-- A header and its body in front of the rest of an archive. -/
theorem read_header (hwidths : [name, mode, owner, group, size, time, check, kind, target, magic,
      version, user, users, major, minor, pre, unused].map List.length = widths)
    (hmagic : magic = utf8 "ustar\x00".toList) (hsize : number 8 size = body.length)
    (hcheck : number 8 check = checksumOf [name, mode, owner, group, size, time, check, kind, target,
      magic, version, user, users, major, minor, pre, unused])
    (fuel : ℕ) (records : List (List UInt8 × List UInt8)) (rest : List UInt8) :
    read (fuel + 1) records ([name, mode, owner, group, size, time, check, kind, target, magic,
        version, user, users, major, minor, pre, unused].flatten ++ (padded body ++ rest)) =
      if kind = utf8 ['x'] then
        (readRecords body.length body).bind fun found => read fuel found rest
      else
        (entryOf records name pre mode kind target body).bind fun entry =>
          (read fuel [] rest).map (entry :: ·) := by
  have hlength := length_flatten_fields hwidths
  have htake := @List.take_left' _ _ (padded body ++ rest) _ hlength
  have hdrop := @List.drop_left' _ _ (padded body ++ rest) _ hlength
  have hnonzero : ¬ ([name, mode, owner, group, size, time, check, kind, target, magic, version, user,
      users, major, minor, pre, unused].flatten.all (· = 0)) = true := by
    intro hall
    have hmem : (0x75 : UInt8) ∈ magic := by
      rw [hmagic]
      decide
    have hzero := List.all_eq_true.1 hall 0x75 (List.mem_flatten.2 ⟨magic, by simp, hmem⟩)
    revert hzero
    decide
  have hbody : (padded body ++ rest).take body.length = body := by
    rw [padded, List.append_assoc]
    exact List.take_left
  have hrest : (padded body ++ rest).drop (blocks body.length) = rest :=
    List.drop_left' (length_padded body)
  rw [read, htake, if_neg (by rw [List.length_append, hlength]; omega), if_neg hnonzero,
    cutFields_flatten hwidths]
  simp only [hdrop, hsize, hbody, hrest]
  rw [if_neg (by rw [not_or, not_or]; exact ⟨not_not_intro hmagic, not_not_intro hcheck, by omega⟩)]

end Header

end Tar
