import Mathlib.Algebra.Order.Ring.Int
import RlyGateway.Library.Tar

/-!
# The tar writer of standalone artifacts

`buildTarBytes` in `scripts/standalone/pack.mjs` writes a header for each entry of a tree, and a PAX
extended header in front of it where a path or the target of a link does not fit its field. A reader of
such archives gets every entry back, with slashes for the backslashes of its path.
-/

namespace RlyGateway

open Tar

/-! ## Texts and fields -/

/-- The first bytes of a text, read as a text: a character that is cut becomes the replacement one. -/
def cutText : ℕ → List Char → List Char
  | _, [] => []
  | limit, c :: rest =>
      if c.utf8Size ≤ limit then c :: cutText (limit - c.utf8Size) rest
      else if limit = 0 then [] else [Char.ofNat 0xFFFD]

/-- `padStart(width, "0")`. -/
def padStart (width : ℕ) (text : List Char) : List Char :=
  List.replicate (width - text.length) '0' ++ text

/-- `toString(8)`. -/
def octalText : ℤ → List Char
  | .ofNat n => Nat.toDigits 8 n
  | .negSucc n => '-' :: Nat.toDigits 8 (n + 1)

def writeField (length : ℕ) (value : List Char) : List UInt8 :=
  (utf8 value).take length ++ List.replicate (length - (utf8 value).length) 0

theorem length_writeField (length : ℕ) (value : List Char) :
    (writeField length value).length = length := by
  rw [writeField, List.length_append, List.length_take, List.length_replicate]
  omega

theorem writeField_of_le {length : ℕ} {value : List Char} (h : (utf8 value).length ≤ length) :
    writeField length value = utf8 value ++ List.replicate (length - (utf8 value).length) 0 := by
  rw [writeField, List.take_of_length_le h]

theorem textOf_writeField {length : ℕ} {value : List Char} (h : (utf8 value).length ≤ length)
    (hzero : 0 ∉ utf8 value) : Tar.textOf (writeField length value) = utf8 value := by
  rw [writeField_of_le h, textOf_append_zeros hzero]

theorem isDigit_padStart (width n : ℕ) : ∀ c ∈ padStart width (Nat.toDigits 8 n), c.isDigit = true := by
  intro c hc
  obtain hc | hc := List.mem_append.1 hc
  · rw [List.eq_of_mem_replicate hc]
    rfl
  · exact Nat.isDigit_of_mem_toDigits (by omega) (by omega) hc

theorem ofDigitChars_padStart (width n : ℕ) :
    Nat.ofDigitChars 8 (padStart width (Nat.toDigits 8 n)) 0 = n := by
  rw [padStart, Nat.ofDigitChars_append, Nat.ofDigitChars_replicate_zero, Nat.mul_zero,
    Nat.ofDigitChars_toDigits (by omega) (by omega)]

theorem length_padStart {width n : ℕ} (hwidth : 0 < width) (h : n < 8 ^ width) :
    (padStart width (Nat.toDigits 8 n)).length = width := by
  have hle := (Nat.length_toDigits_le_iff (n := n) (by omega : 1 < 8) hwidth).2 h
  rw [padStart, List.length_append, List.length_replicate]
  omega

/-- A number is read back from its field. -/
theorem number_writeField {width length n : ℕ} (hwidth : 0 < width) (h : n < 8 ^ width)
    (hle : width ≤ length) :
    number 8 (writeField length (padStart width (Nat.toDigits 8 n))) = n := by
  have hdigits := isDigit_padStart width n
  have hlength : (utf8 (padStart width (Nat.toDigits 8 n))).length = width := by
    rw [length_utf8_of_isDigit hdigits, length_padStart hwidth h]
  rw [writeField_of_le (by omega), number_utf8_append hdigits, ofDigitChars_padStart]
  intro byte hbyte
  have hzero : byte = 0 := List.eq_of_mem_replicate (List.mem_of_mem_head? hbyte)
  rw [hzero]
  decide

/-! ## Headers -/

/-- The fields of a header. Owner, group and device are zero, and there are no names of theirs. -/
def headerFields (name : List Char) (mode size : ℕ) (mtime : ℤ) (typeflag : Char)
    (linkname : List Char) (checksum : List UInt8) : List (List UInt8) :=
  [writeField 100 name, writeField 8 (padStart 7 (Nat.toDigits 8 mode)),
    writeField 8 (padStart 7 (Nat.toDigits 8 0)), writeField 8 (padStart 7 (Nat.toDigits 8 0)),
    writeField 12 (padStart 11 (Nat.toDigits 8 size)), writeField 12 (padStart 11 (octalText mtime)),
    checksum, utf8 [typeflag], writeField 100 linkname, utf8 "ustar\x00".toList, utf8 "00".toList,
    writeField 32 [], writeField 32 [], writeField 8 (padStart 7 (Nat.toDigits 8 0)),
    writeField 8 (padStart 7 (Nat.toDigits 8 0)), writeField 155 [], List.replicate 12 0]

/-- The checksum is written where blanks have stood for it. -/
def makeHeader (name : List Char) (mode size : ℕ) (mtime : ℤ) (typeflag : Char)
    (linkname : List Char) : List UInt8 :=
  let blank := (headerFields name mode size mtime typeflag linkname (List.replicate 8 0x20)).flatten
  let checksum := (blank.map UInt8.toNat).sum
  (headerFields name mode size mtime typeflag linkname
    (writeField 8 (padStart 6 (Nat.toDigits 8 checksum) ++ ['\x00', ' ']))).flatten

section Header

variable {name linkname : List Char} {mode size : ℕ} {mtime : ℤ} {typeflag : Char}

theorem checksumOf_headerFields (checksum : List UInt8) :
    checksumOf (headerFields name mode size mtime typeflag linkname checksum) =
      ((headerFields name mode size mtime typeflag linkname (List.replicate 8 0x20)).flatten.map
        UInt8.toNat).sum := by
  rw [checksumOf, headerFields, headerFields]
  simp only [List.take_succ_cons, List.take_zero, List.drop_succ_cons, List.drop_zero,
    List.flatten_cons, List.flatten_nil, List.append_nil, List.append_assoc]

theorem widths_headerFields (htype : (utf8 [typeflag]).length = 1) {checksum : List UInt8}
    (hchecksum : checksum.length = 8) :
    (headerFields name mode size mtime typeflag linkname checksum).map List.length = widths := by
  have hmagic : (utf8 "ustar\x00".toList).length = 6 := by decide
  have hversion : (utf8 "00".toList).length = 2 := by decide
  simp only [headerFields, List.map_cons, List.map_nil, length_writeField, htype, hchecksum, hmagic,
    hversion, List.length_replicate, widths]

theorem sum_toNat_le (bytes : List UInt8) : (bytes.map UInt8.toNat).sum ≤ 255 * bytes.length := by
  induction bytes with
  | nil => exact Nat.le_refl 0
  | cons byte bytes ih =>
      have hbyte := byte.toNat_lt
      rw [List.map_cons, List.sum_cons, List.length_cons]
      omega

/-- The checksum of a header fits its field. -/
theorem number_checksum {checksum : ℕ} (h : checksum ≤ 255 * 512) :
    number 8 (writeField 8 (padStart 6 (Nat.toDigits 8 checksum) ++ ['\x00', ' '])) = checksum := by
  have hdigits := isDigit_padStart 6 checksum
  have hlength : (utf8 (padStart 6 (Nat.toDigits 8 checksum))).length = 6 := by
    rw [length_utf8_of_isDigit hdigits, length_padStart (by omega) (h.trans_lt (by omega))]
  have hend : utf8 ['\x00', ' '] = [0, 0x20] := by decide
  have hbytes : writeField 8 (padStart 6 (Nat.toDigits 8 checksum) ++ ['\x00', ' ']) =
      utf8 (padStart 6 (Nat.toDigits 8 checksum)) ++ [0, 0x20] := by
    have hwhole : (utf8 (padStart 6 (Nat.toDigits 8 checksum) ++ ['\x00', ' '])).length = 8 := by
      rw [utf8_append, List.length_append, hlength, hend]
      rfl
    rw [writeField_of_le hwhole.le, hwhole, utf8_append, hend]
    exact List.append_nil _
  rw [hbytes, number_utf8_append hdigits, ofDigitChars_padStart]
  rintro byte ⟨⟩
  decide

/-- A header in front of a body of its size. -/
theorem read_makeHeader (htype : (utf8 [typeflag]).length = 1) {body : List UInt8}
    (hsize : body.length < 8 ^ 11) (fuel : ℕ) (records : List (List UInt8 × List UInt8))
    (rest : List UInt8) :
    read (fuel + 1) records
        (makeHeader name mode body.length mtime typeflag linkname ++ (Tar.padded body ++ rest)) =
      if utf8 [typeflag] = utf8 ['x'] then
        (readRecords body.length body).bind fun found => read fuel found rest
      else
        (Tar.entryOf records (writeField 100 name) (writeField 155 [])
            (writeField 8 (padStart 7 (Nat.toDigits 8 mode))) (utf8 [typeflag])
            (writeField 100 linkname) body).bind fun entry =>
          (read fuel [] rest).map (entry :: ·) := by
  have hwidths : (headerFields name mode body.length mtime typeflag linkname
      (List.replicate 8 0x20)).map List.length = widths :=
    widths_headerFields htype List.length_replicate
  have hblank := length_flatten_fields hwidths
  refine read_header (widths_headerFields htype (length_writeField 8 _)) rfl
    (number_writeField (by omega) hsize (by omega)) ?_ fuel records rest
  refine (number_checksum ?_).trans (checksumOf_headerFields _).symm
  rw [← hblank]
  exact sum_toNat_le _

end Header

/-! ## Extended headers -/

def paxBody (key value : List Char) : List Char := key ++ '=' :: (value ++ ['\n'])

/-- A record whose prefix is a length. -/
def withLength (length : ℕ) (body : List Char) : List Char := Nat.toDigits 10 length ++ ' ' :: body

/-- `Number(record.split(" ")[0])`. -/
def declaredLength (record : List Char) : ℕ :=
  Nat.ofDigitChars 10 (record.takeWhile (· != ' ')) 0

/-- The prefix replaced by the length of the record until it is that, for a number of rounds. -/
def settleRecord (body : List Char) : ℕ → List Char → Option (List Char)
  | 0, _ => none
  | fuel + 1, record =>
      if (utf8 record).length = declaredLength record then some record
      else settleRecord body fuel (withLength (utf8 record).length body)

/-- A record with its own length in front, which is found in three rounds. -/
def paxRecord (key value : List Char) : Option (List Char) :=
  let body := paxBody key value
  settleRecord body 3 (withLength ((utf8 body).length + 1) body)

section Record

variable (body : List Char)

theorem isDigit_toDigits (n : ℕ) : ∀ c ∈ Nat.toDigits 10 n, c.isDigit = true :=
  fun _ hc => Nat.isDigit_of_mem_toDigits (by omega) (by omega) hc

theorem declaredLength_withLength (n : ℕ) : declaredLength (withLength n body) = n := by
  have hplain : ∀ c ∈ Nat.toDigits 10 n, (c != ' ') = true := by
    intro c hc
    rw [bne_iff_ne]
    rintro rfl
    exact absurd (isDigit_toDigits n _ hc) (by decide)
  rw [declaredLength, withLength, List.takeWhile_append_of_pos hplain, List.takeWhile_cons,
    if_neg (by decide), List.append_nil, Nat.ofDigitChars_ten_toDigits]

theorem length_withLength (n : ℕ) :
    (utf8 (withLength n body)).length = (Nat.toDigits 10 n).length + 1 + (utf8 body).length := by
  have hspace : (utf8 [' ']).length = 1 := by decide
  rw [withLength, ← List.singleton_append, utf8_append, utf8_append, List.length_append,
    List.length_append, hspace, length_utf8_of_isDigit (isDigit_toDigits n), Nat.add_assoc]

theorem length_toDigits_mono {m n : ℕ} (h : m ≤ n) :
    (Nat.toDigits 10 m).length ≤ (Nat.toDigits 10 n).length := by
  have hn := (Nat.length_toDigits_le_iff (by omega) Nat.length_toDigits_pos).1
    (Nat.le_refl (Nat.toDigits 10 n).length)
  exact (Nat.length_toDigits_le_iff (by omega) Nat.length_toDigits_pos).2 (h.trans_lt hn)

/-- Adding a number of digits and one more gives at most one digit more. -/
theorem length_toDigits_add_le {m n d : ℕ} (hd : (Nat.toDigits 10 m).length = d)
    (h : n ≤ m + d + 1) : (Nat.toDigits 10 n).length ≤ d + 1 := by
  have hpos : 0 < d := hd ▸ Nat.length_toDigits_pos
  have hm := (Nat.length_toDigits_le_iff (n := m) (by omega : 1 < 10) hpos).1 hd.le
  have hpow : d < 10 ^ d := Nat.lt_pow_self (by omega)
  refine (Nat.length_toDigits_le_iff (by omega) (Nat.succ_pos d)).2 ?_
  rw [Nat.pow_succ]
  omega

/-- The length that a record ends up with. -/
theorem exists_settleRecord :
    ∃ n, settleRecord body 3 (withLength ((utf8 body).length + 1) body) = some (withLength n body) ∧
      (utf8 (withLength n body)).length = n ∧ n ≤ 2 * (utf8 body).length + 4 := by
  have hround (fuel n : ℕ) : settleRecord body (fuel + 1) (withLength n body) =
      if (Nat.toDigits 10 n).length + 1 + (utf8 body).length = n then some (withLength n body)
      else settleRecord body fuel
        (withLength ((Nat.toDigits 10 n).length + 1 + (utf8 body).length) body) := by
    rw [settleRecord, declaredLength_withLength, length_withLength]
  generalize hsize : (utf8 body).length = size at hround ⊢
  simp only [length_withLength, hsize]
  -- the digits of the first length, which are at most as many as it says
  generalize hfirst : (Nat.toDigits 10 (size + 1)).length = d at hround ⊢
  have hd : d ≤ size + 1 := by
    rw [← hfirst]
    exact (Nat.length_toDigits_le_iff (by omega) (by omega)).2 (Nat.lt_pow_self (by omega))
  have hpos : 0 < d := hfirst ▸ Nat.length_toDigits_pos
  have hsecond := length_toDigits_mono (m := size + 1) (n := d + 1 + size) (by omega)
  have hsecond' := length_toDigits_add_le hfirst (n := d + 1 + size) (by omega)
  rw [hfirst] at hsecond
  rw [hround, hfirst, if_neg (by omega), hround]
  by_cases hsame : (Nat.toDigits 10 (d + 1 + size)).length = d
  · rw [hsame, if_pos rfl]
    exact ⟨_, rfl, by rw [hsame], by omega⟩
  · -- one digit more, and then no further one
    have hmore : (Nat.toDigits 10 (d + 1 + size)).length = d + 1 := by omega
    have hthird := length_toDigits_mono (m := d + 1 + size) (n := d + 1 + 1 + size) (by omega)
    have hthird' := length_toDigits_add_le hfirst (n := d + 1 + 1 + size) (by omega)
    have hlast : (Nat.toDigits 10 (d + 1 + 1 + size)).length = d + 1 := by omega
    rw [hmore, if_neg (by omega), hround, hlast, if_pos rfl]
    exact ⟨_, rfl, by rw [hlast], by omega⟩

end Record

/-- A text that its field of the header does not give back. -/
def overflows (text : List Char) : Prop := 100 < (utf8 text).length ∨ cutText 100 text ≠ text

instance : DecidablePred overflows := fun _ => inferInstanceAs (Decidable (_ ∨ _))

/-- The records in front of a path that does not fit its field, and of the target of a link. -/
def paxText (path linkname : List Char) : Option (List Char) := do
  let first ← paxRecord "path".toList path
  if linkname ≠ [] ∧ overflows linkname then
    let second ← paxRecord "linkpath".toList linkname
    pure (first ++ second)
  else pure first

theorem utf8_paxBody (key value : List Char) :
    utf8 (paxBody key value) = utf8 key ++ 0x3D :: (utf8 value ++ [0x0A]) := by
  rw [paxBody, utf8_append, utf8_cons, utf8_append]
  rfl

/-- A record is read back in front of others. -/
theorem readRecords_paxRecord {key value : List Char} {n : ℕ} (hkey : 0x3D ∉ utf8 key)
    (hlength : (utf8 (withLength n (paxBody key value))).length = n) (fuel : ℕ) (rest : List UInt8) :
    readRecords (fuel + 1) (utf8 (withLength n (paxBody key value)) ++ rest) =
      (readRecords fuel rest).map ((utf8 key, utf8 value) :: ·) := by
  have hdigits := isDigit_toDigits n
  have hsplit : utf8 (withLength n (paxBody key value)) =
      utf8 (Nat.toDigits 10 n) ++ 0x20 :: utf8 (paxBody key value) := by
    rw [withLength, utf8_append, utf8_cons]
    rfl
  generalize utf8 (withLength n (paxBody key value)) = record at hlength hsplit ⊢
  have hstop : ∀ byte ∈ (0x20 :: (utf8 (paxBody key value) ++ rest)).head?, isDigit byte = false := by
    rintro byte ⟨⟩
    decide
  have hnumber : number 10 (record ++ rest) = n := by
    rw [hsplit, List.append_assoc, List.cons_append, number_utf8_append hdigits hstop,
      Nat.ofDigitChars_ten_toDigits]
  have hcount : ((record ++ rest).takeWhile isDigit).length = (utf8 (Nat.toDigits 10 n)).length := by
    rw [hsplit, List.append_assoc, List.takeWhile_append_of_pos (utf8_of_isDigit hdigits).2,
      List.cons_append, List.takeWhile_cons, hstop _ rfl, if_neg Bool.false_ne_true, List.append_nil]
  have htake : (record ++ rest).take n = record := List.take_left' hlength
  have hdrop : (record ++ rest).drop n = rest := List.drop_left' hlength
  have hrecord : record.drop ((utf8 (Nat.toDigits 10 n)).length + 1) =
      utf8 key ++ 0x3D :: (utf8 value ++ [0x0A]) := by
    rw [hsplit, ← List.drop_drop, List.drop_left, List.drop_one, List.tail_cons, utf8_paxBody]
  have hstopKey : ∀ byte ∈ utf8 key, (byte != 0x3D) = true := by
    intro byte hbyte
    rw [bne_iff_ne]
    rintro rfl
    exact hkey hbyte
  have hlast : (utf8 key ++ 0x3D :: (utf8 value ++ [0x0A])).getLast? = some 0x0A := by
    rw [← List.cons_append, ← List.append_assoc, List.getLast?_concat]
  have hne : record ++ rest ≠ [] := by
    rw [hsplit, List.append_assoc, List.cons_append]
    exact List.append_ne_nil_of_right_ne_nil _ (List.cons_ne_nil _ _)
  rw [readRecords.eq_3 _ _ hne, hnumber]
  simp only [hcount, htake, hdrop, hrecord, hlast]
  rw [if_neg (by rw [List.length_append, hlength]; simp), List.takeWhile_append_of_pos hstopKey,
    List.dropWhile_append_of_pos hstopKey, List.takeWhile_cons, List.dropWhile_cons]
  simp

/-- A record starts with its own length in bytes, which is found; and it is read back. -/
theorem exists_paxRecord {key : List Char} (hkey : 0x3D ∉ utf8 key) (value : List Char) :
    ∃ record n, paxRecord key value = some record ∧ (utf8 record).length = n + 1 ∧
      n + 1 ≤ 2 * ((utf8 key).length + (utf8 value).length) + 8 ∧
      ∀ fuel rest, readRecords (fuel + 1) (utf8 record ++ rest) =
        (readRecords fuel rest).map ((utf8 key, utf8 value) :: ·) := by
  obtain ⟨n, hrecord, hlength, hle⟩ := exists_settleRecord (paxBody key value)
  have hbody : (utf8 (paxBody key value)).length = (utf8 key).length + (utf8 value).length + 2 := by
    rw [utf8_paxBody, List.length_append, List.length_cons, List.length_append, List.length_singleton]
    omega
  have hpos : 0 < n := by
    rw [← hlength, length_withLength]
    omega
  exact ⟨_, n - 1, hrecord, by omega, by omega, readRecords_paxRecord hkey hlength⟩

/-- The extended header names the path, and the target where that does not fit. -/
theorem exists_paxText (path linkname : List Char) :
    ∃ text, paxText path linkname = some text ∧
      (utf8 text).length ≤ 2 * (utf8 path).length + 2 * (utf8 linkname).length + 48 ∧
      readRecords (utf8 text).length (utf8 text) =
        some ((utf8 "path".toList, utf8 path) ::
          if linkname ≠ [] ∧ overflows linkname then
            [(utf8 "linkpath".toList, utf8 linkname)]
          else []) := by
  have hpath : (utf8 "path".toList).length = 4 := by decide
  have hlink : (utf8 "linkpath".toList).length = 8 := by decide
  obtain ⟨first, n, hfirst, hlength, hle, hread⟩ :=
    exists_paxRecord (by decide : 0x3D ∉ utf8 "path".toList) path
  rw [hpath] at hle
  rw [paxText, hfirst, Option.bind_eq_bind, Option.bind_some]
  split
  · obtain ⟨second, m, hsecond, hlength', hle', hread'⟩ :=
      exists_paxRecord (by decide : 0x3D ∉ utf8 "linkpath".toList) linkname
    rw [hlink] at hle'
    rw [hsecond, Option.bind_some]
    refine ⟨_, rfl, ?_, ?_⟩
    · rw [utf8_append, List.length_append]
      omega
    · have hend := hread' (n + m) []
      have hfuel : n + 1 + (m + 1) = n + m + 1 + 1 := by omega
      rw [List.append_nil] at hend
      rw [utf8_append, List.length_append, hlength, hlength', hfuel, hread, hend, readRecords]
      rfl
  · have hend := hread n []
    rw [List.append_nil, ← hlength] at hend
    exact ⟨_, rfl, by omega, hend.trans (by rw [readRecords]; rfl)⟩

/-! ## Archives -/

inductive TarEntryType where
  | dir
  | symlink
  | file
deriving DecidableEq, Repr

/-- An entry of the archive, whose size is the length of its contents. -/
structure TarEntry where
  path : List Char
  type : TarEntryType
  content : List UInt8
  linkname : Option (List Char)
  mode : Option ℕ
deriving DecidableEq, Repr

/-- `replaceAll("\\", "/")`. -/
def slashed (path : List Char) : List Char := path.map fun c => if c = '\\' then '/' else c

namespace TarEntry

variable (entry : TarEntry)

def typeflag : Char :=
  match entry.type with
  | .dir => '5'
  | .symlink => '2'
  | .file => '0'

/-- What is written behind the header. -/
def body : List UInt8 := if entry.type = .file then entry.content else []

/-- The target in the header. -/
def target : List Char := if entry.type = .symlink then entry.linkname.getD [] else []

/-- The mode in the header. -/
def headerMode : ℕ := if entry.type = .dir then 0o755 else entry.mode.getD 0o644

end TarEntry

/-- The blocks of one entry: an extended header where its path or its target does not fit, a header,
and the contents of a file. -/
def entryBytes (mtime : ℤ) (entry : TarEntry) : Option (List UInt8) := do
  let path := slashed entry.path
  let header := makeHeader (cutText 100 path) entry.headerMode entry.body.length mtime entry.typeflag
    entry.target ++ Tar.padded entry.body
  if overflows path ∨ entry.target ≠ [] ∧ overflows entry.target then
    let pax ← paxText path entry.target
    pure (makeHeader "PaxHeader".toList 0o644 (utf8 pax).length mtime 'x' [] ++
      (Tar.padded (utf8 pax) ++ header))
  else pure header

/-- The archive of entries, which ends in two blocks of zeros. -/
def buildTarBytes (entries : List TarEntry) (mtime : ℤ) : Option (List UInt8) :=
  (entries.mapM (entryBytes mtime)).map fun chunks =>
    chunks.flatten ++ (List.replicate 512 0 ++ List.replicate 512 0)

/-! ## Trees -/

/-- What a walk finds at a path. -/
inductive WalkedNode where
  | file (content : List UInt8)
  | dir
  | symlink (target : List Char)
  | special
deriving DecidableEq, Repr

structure WalkEntry where
  path : List Char
  node : WalkedNode
deriving DecidableEq, Repr

/-- The entry of the archive for what a walk has found. -/
def tarEntry (entry : WalkEntry) : Except String TarEntry :=
  match entry.node with
  | .special => .error ("cannot tar artifact with special file: " ++ String.ofList entry.path)
  | .symlink target => .ok ⟨entry.path, .symlink, [], some target, none⟩
  | .dir => .ok ⟨entry.path ++ ['/'], .dir, [], none, none⟩
  | .file content =>
      let executable := entry.path = "rly".toList ∨ entry.path = "bin/node".toList
      .ok ⟨entry.path, .file, content, none, some (if executable then 0o755 else 0o644)⟩

/-- The archive of a walked tree, before it is compressed; there is none if a record does not settle. -/
def tarballForTree (walk : List WalkEntry) (sourceDateEpoch : ℤ) :
    Except String (Option (List UInt8)) :=
  (walk.mapM tarEntry).map (buildTarBytes · sourceDateEpoch)

/-- What a reader finds of a walked entry. -/
def WalkEntry.unpacked (entry : WalkEntry) : Entry where
  path := utf8 (slashed entry.path)
  mode := match entry.node with
    | .dir => 0o755
    | .file _ => if entry.path = "rly".toList ∨ entry.path = "bin/node".toList then 0o755 else 0o644
    | _ => 0o644
  contents := match entry.node with
    | .file content => .file content
    | .symlink target => .link (utf8 target)
    | _ => .directory

/-- An entry that the packer takes: paths and targets as a file system has them, and contents whose
length fits its field. -/
structure WalkEntry.Packable (entry : WalkEntry) : Prop where
  path : 0 ∉ utf8 (slashed entry.path) ∧ (utf8 (slashed entry.path)).length < 8 ^ 10
  target : ∀ target, entry.node = .symlink target → 0 ∉ utf8 target ∧ (utf8 target).length < 8 ^ 10
  content : ∀ content, entry.node = .file content → content.length < 8 ^ 11
  regular : entry.node ≠ .special

/-! ## Reading archives back -/

theorem textOf_prefix : Tar.textOf (writeField 155 []) = [] := by decide

theorem utf8_slashed_dir (path : List Char) :
    utf8 (slashed (path ++ ['/'])) = utf8 (slashed path) ++ [0x2F] := by
  rw [slashed, List.map_append, utf8_append]
  rfl

/-- What is read of an entry whose path and target are in their fields or in the records in front. -/
theorem entryOf_tarEntry {walked : WalkEntry} {entry : TarEntry}
    (hentry : tarEntry walked = .ok entry) {records : List (List UInt8 × List UInt8)}
    (hpath : (Tar.recordOf "path" records).getD
        (Tar.textOf (writeField 100 (cutText 100 (slashed entry.path)))) = utf8 (slashed entry.path))
    (htarget : (Tar.recordOf "linkpath" records).getD (Tar.textOf (writeField 100 entry.target)) =
      utf8 entry.target) :
    Tar.entryOf records (writeField 100 (cutText 100 (slashed entry.path))) (writeField 155 [])
        (writeField 8 (padStart 7 (Nat.toDigits 8 entry.headerMode))) (utf8 [entry.typeflag])
        (writeField 100 entry.target) entry.body = some walked.unpacked := by
  obtain ⟨path, node⟩ := walked
  have hmode {mode : ℕ} (h : mode < 8 ^ 7) :
      number 8 (writeField 8 (padStart 7 (Nat.toDigits 8 mode))) = mode :=
    number_writeField (by omega) h (by omega)
  cases node with
  | special => cases hentry
  | file content =>
      cases hentry
      have hsmall : (if path = "rly".toList ∨ path = "bin/node".toList then 0o755 else 0o644) < 8 ^ 7 := by
        split <;> omega
      rw [Tar.entryOf, textOf_prefix, if_pos rfl, hpath, if_pos (.inl rfl)]
      exact congrArg some (congrArg₂ (fun mode contents => Entry.mk _ mode contents) (hmode hsmall) rfl)
  | dir =>
      cases hentry
      have hfile : ¬ (utf8 ['5'] = utf8 ['0'] ∨ utf8 ['5'] = [0]) := by decide
      show Tar.entryOf records _ _ (writeField 8 (padStart 7 (Nat.toDigits 8 0o755))) (utf8 ['5']) _
        [] = _
      rw [Tar.entryOf, textOf_prefix, if_pos rfl, hpath, if_neg hfile, if_pos rfl, utf8_slashed_dir,
        List.getLast?_concat, if_pos rfl, List.dropLast_concat, hmode (by decide)]
      rfl
  | symlink target =>
      cases hentry
      have hfile : ¬ (utf8 ['2'] = utf8 ['0'] ∨ utf8 ['2'] = [0]) := by decide
      have hdir : ¬ utf8 ['2'] = utf8 ['5'] := by decide
      have hlink : (Tar.recordOf "linkpath" records).getD (Tar.textOf (writeField 100 target)) =
          utf8 target := htarget
      show Tar.entryOf records _ _ (writeField 8 (padStart 7 (Nat.toDigits 8 0o644))) (utf8 ['2'])
        (writeField 100 target) [] = _
      rw [Tar.entryOf, textOf_prefix, if_pos rfl, hpath, if_neg hfile, if_neg hdir, if_pos rfl, hlink,
        hmode (by decide)]
      rfl

theorem typeflag_ne (entry : TarEntry) :
    (utf8 [entry.typeflag]).length = 1 ∧ utf8 [entry.typeflag] ≠ utf8 ['x'] := by
  have hcases : entry.typeflag = '5' ∨ entry.typeflag = '2' ∨ entry.typeflag = '0' := by
    rw [TarEntry.typeflag]
    cases entry.type with
    | dir => exact .inl rfl
    | symlink => exact .inr (.inl rfl)
    | file => exact .inr (.inr rfl)
  obtain h | h | h := hcases
  all_goals
    rw [h]
    decide

/-- What the packer passes on of what it takes. -/
theorem WalkEntry.Packable.tarEntry {walked : WalkEntry} (h : walked.Packable) :
    ∃ entry, tarEntry walked = .ok entry ∧
      (0 ∉ utf8 (slashed entry.path) ∧ (utf8 (slashed entry.path)).length ≤ 8 ^ 10) ∧
      (0 ∉ utf8 entry.target ∧ (utf8 entry.target).length < 8 ^ 10) ∧ entry.body.length < 8 ^ 11 := by
  obtain ⟨path, node⟩ := walked
  obtain ⟨hzero, hlength⟩ := h.path
  have hnone : 0 ∉ utf8 [] ∧ (utf8 []).length < 8 ^ 10 := by decide
  have hempty : ([] : List UInt8).length < 8 ^ 11 := by decide
  cases node with
  | special => exact absurd rfl h.regular
  | file content => exact ⟨_, rfl, ⟨hzero, hlength.le⟩, hnone, h.content content rfl⟩
  | symlink target => exact ⟨_, rfl, ⟨hzero, hlength.le⟩, h.target target rfl, hempty⟩
  | dir =>
      refine ⟨_, rfl, ⟨?_, ?_⟩, hnone, hempty⟩
      · show 0 ∉ utf8 (slashed (path ++ ['/']))
        rw [utf8_slashed_dir, List.mem_append, not_or]
        exact ⟨hzero, by decide⟩
      · show (utf8 (slashed (path ++ ['/']))).length ≤ 8 ^ 10
        rw [utf8_slashed_dir, List.length_append]
        exact hlength

/-- The blocks of an entry are there, and in front of others they are read as the entry. -/
theorem read_entryBytes {walked : WalkEntry} (h : walked.Packable) (mtime : ℤ) :
    ∃ entry bytes k, tarEntry walked = .ok entry ∧ entryBytes mtime entry = some bytes ∧ k ≤ 2 ∧
      ∀ fuel rest, read (fuel + k) [] (bytes ++ rest) =
        (read fuel [] rest).map (walked.unpacked :: ·) := by
  obtain ⟨entry, hentry, ⟨hzero, hpath⟩, ⟨hzero', htarget⟩, hbody⟩ := h.tarEntry
  obtain ⟨htype, hplain⟩ := typeflag_ne entry
  -- the header and the contents, behind records that hold what does not fit
  have hheader (fuel : ℕ) {records : List (List UInt8 × List UInt8)}
      (hrecordPath : (Tar.recordOf "path" records).getD
        (Tar.textOf (writeField 100 (cutText 100 (slashed entry.path)))) = utf8 (slashed entry.path))
      (hrecordTarget : (Tar.recordOf "linkpath" records).getD
        (Tar.textOf (writeField 100 entry.target)) = utf8 entry.target) (rest : List UInt8) :
      read (fuel + 1) records (makeHeader (cutText 100 (slashed entry.path)) entry.headerMode
          entry.body.length mtime entry.typeflag entry.target ++ (Tar.padded entry.body ++ rest)) =
        (read fuel [] rest).map (walked.unpacked :: ·) := by
    rw [read_makeHeader htype hbody, if_neg hplain, entryOf_tarEntry hentry hrecordPath hrecordTarget]
    rfl
  have hfits (text : List Char) (hzero : 0 ∉ utf8 text) (hfit : ¬ overflows text) :
      Tar.textOf (writeField 100 text) = utf8 text :=
    textOf_writeField (Nat.le_of_not_lt fun hlt => hfit (.inl hlt)) hzero
  by_cases hpax : overflows (slashed entry.path) ∨ entry.target ≠ [] ∧ overflows entry.target
  · obtain ⟨pax, hsome, hlength, hrecords⟩ := exists_paxText (slashed entry.path) entry.target
    have hsize : (utf8 pax).length < 8 ^ 11 := by omega
    refine ⟨entry, _, 2, hentry, by rw [entryBytes, if_pos hpax, hsome]; rfl, Nat.le_refl 2,
      fun fuel rest => ?_⟩
    have hpath : Tar.recordOf "path" [(utf8 "path".toList, utf8 (slashed entry.path))] =
        some (utf8 (slashed entry.path)) := recordOf_concat "path" [] _
    have hnone : Tar.recordOf "linkpath" [(utf8 "path".toList, utf8 (slashed entry.path))] = none :=
      recordOf_concat_of_ne (by decide) [] _
    rw [List.append_assoc, List.append_assoc, List.append_assoc,
      read_makeHeader (by decide) hsize, if_pos rfl, hrecords, Option.bind_some]
    by_cases hlink : entry.target ≠ [] ∧ overflows entry.target
    · rw [if_pos hlink, ← List.singleton_append]
      refine hheader fuel ?_ ?_ rest
      · rw [recordOf_concat_of_ne (by decide), hpath, Option.getD_some]
      · rw [recordOf_concat, Option.getD_some]
    · rw [if_neg hlink]
      refine hheader fuel ?_ ?_ rest
      · rw [hpath, Option.getD_some]
      · rw [hnone, Option.getD_none]
        by_cases hempty : entry.target = []
        · rw [hempty]
          decide
        · exact hfits _ hzero' fun hover => hlink ⟨hempty, hover⟩
  · rw [not_or] at hpax
    refine ⟨entry, _, 1, hentry, by rw [entryBytes, if_neg (not_or.2 hpax)]; rfl, by omega,
      fun fuel rest => ?_⟩
    have hcut : cutText 100 (slashed entry.path) = slashed entry.path := by
      by_contra hne
      exact hpax.1 (.inr hne)
    rw [List.append_assoc]
    refine hheader fuel ?_ ?_ rest
    · show Tar.textOf (writeField 100 (cutText 100 (slashed entry.path))) = _
      rw [hcut]
      exact hfits _ hzero hpax.1
    · by_cases hempty : entry.target = []
      · rw [hempty]
        decide
      · exact hfits _ hzero' fun hover => hpax.2 ⟨hempty, hover⟩

/-- Every walked tree is packed, and a reader of the archive finds its entries. -/
theorem read_tarballForTree {walk : List WalkEntry} (h : ∀ entry ∈ walk, entry.Packable)
    (sourceDateEpoch : ℤ) :
    ∃ bytes, tarballForTree walk sourceDateEpoch = .ok (some bytes) ∧
      ∀ fuel, 2 * walk.length < fuel → read fuel [] bytes = some (walk.map WalkEntry.unpacked) := by
  -- the chunks in front of anything else
  have hchunks : ∃ entries chunks k, walk.mapM tarEntry = .ok entries ∧
      entries.mapM (entryBytes sourceDateEpoch) = some chunks ∧ k ≤ 2 * walk.length ∧
      ∀ fuel rest, read (fuel + k) [] (chunks.flatten ++ rest) =
        (read fuel [] rest).map (walk.map WalkEntry.unpacked ++ ·) := by
    induction walk with
    | nil => exact ⟨[], [], 0, rfl, rfl, Nat.le_refl 0, fun fuel rest => by simp⟩
    | cons walked walk ih =>
        rw [List.forall_mem_cons] at h
        obtain ⟨entry, bytes, k, hentry, hbytes, hk, hread⟩ := read_entryBytes h.1 sourceDateEpoch
        obtain ⟨entries, chunks, k', hentries, hchunks, hk', hread'⟩ := ih h.2
        refine ⟨entry :: entries, bytes :: chunks, k' + k, ?_, ?_, ?_, fun fuel rest => ?_⟩
        · rw [List.mapM_cons, hentry, hentries]
          rfl
        · rw [List.mapM_cons, hbytes, hchunks]
          rfl
        · rw [List.length_cons]
          omega
        · rw [← Nat.add_assoc, List.flatten_cons, List.append_assoc, hread, hread', Option.map_map]
          rfl
  obtain ⟨entries, chunks, k, hentries, hchunks, hk, hread⟩ := hchunks
  refine ⟨_, by rw [tarballForTree, hentries, Except.map, buildTarBytes, hchunks]; rfl,
    fun fuel hfuel => ?_⟩
  obtain ⟨more, rfl⟩ : ∃ more, fuel = more + 1 + k := ⟨fuel - 1 - k, by omega⟩
  rw [hread, read_end, Option.map_some, List.append_nil]

theorem read_tarballForTree_launcher :
    let walk : List WalkEntry :=
      [⟨"bin".toList, .dir⟩, ⟨"rly".toList, .file [0x23, 0x21]⟩, ⟨"current".toList, .symlink "bin".toList⟩]
    (∀ entry ∈ walk, entry.Packable) ∧
      ∃ bytes, tarballForTree walk 0 = .ok (some bytes) ∧
        ∀ fuel, 6 < fuel → read fuel [] bytes = some (walk.map WalkEntry.unpacked) := by
  intro walk
  have hwalk : ∀ entry ∈ walk, entry.Packable := by
    simp only [walk, List.forall_mem_cons]
    refine ⟨⟨by decide, ?_, ?_, ?_⟩, ⟨by decide, ?_, ?_, ?_⟩, ⟨by decide, ?_, ?_, ?_⟩, ?_⟩
    all_goals simp
    all_goals decide
  exact ⟨hwalk, read_tarballForTree hwalk 0⟩

end RlyGateway
