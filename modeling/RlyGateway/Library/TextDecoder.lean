import RlyGateway.Library.Chunks

/-!
# Decoding UTF-8 as it arrives

The decoder of the Encoding Standard for a stream: one step for each byte, with the code point that
is being put together and the bounds of the next byte in its state. What cannot be decoded becomes the
replacement character, and a byte order mark at the start is left out.
-/

/-- The state of a streaming decoder. -/
structure TextDecoder where
  codePoint : ℕ
  bytesSeen : ℕ
  bytesNeeded : ℕ
  lowerBoundary : ℕ
  upperBoundary : ℕ
  bomSeen : Bool

namespace TextDecoder

/-- The state between two code points. -/
def between (bomSeen : Bool) : TextDecoder := ⟨0, 0, 0, 0x80, 0xBF, bomSeen⟩

/-- A new decoder. -/
def initial : TextDecoder := between false

/-- The code point for what cannot be decoded. -/
def replacement : Char := Char.ofNat 0xFFFD

/-- Give a code point, except for a byte order mark that comes first. -/
def emit (decoder : TextDecoder) (c : Char) : List Char × TextDecoder :=
  (if decoder.bomSeen = false ∧ c = Char.ofNat 0xFEFF then [] else [c], between true)

/-- The first byte of a code point. -/
def firstByte (decoder : TextDecoder) (byte : ℕ) : List Char × TextDecoder :=
  if byte ≤ 0x7F then decoder.emit (Char.ofNat byte)
  else if 0xC2 ≤ byte ∧ byte ≤ 0xDF then
    ([], ⟨byte % 0x20, 0, 1, 0x80, 0xBF, decoder.bomSeen⟩)
  else if 0xE0 ≤ byte ∧ byte ≤ 0xEF then
    ([], ⟨byte % 0x10, 0, 2, if byte = 0xE0 then 0xA0 else 0x80,
      if byte = 0xED then 0x9F else 0xBF, decoder.bomSeen⟩)
  else if 0xF0 ≤ byte ∧ byte ≤ 0xF4 then
    ([], ⟨byte % 0x8, 0, 3, if byte = 0xF0 then 0x90 else 0x80,
      if byte = 0xF4 then 0x8F else 0xBF, decoder.bomSeen⟩)
  else decoder.emit replacement

/-- One byte. A byte out of bounds ends the code point before it and is read again as a first one. -/
def step (decoder : TextDecoder) (byte : UInt8) : List Char × TextDecoder :=
  let byte := byte.toNat
  if decoder.bytesNeeded = 0 then decoder.firstByte byte
  else if byte < decoder.lowerBoundary ∨ decoder.upperBoundary < byte then
    let (ended, decoder) := decoder.emit replacement
    let (text, decoder) := decoder.firstByte byte
    (ended ++ text, decoder)
  else
    let codePoint := decoder.codePoint * 0x40 + byte % 0x40
    let bytesSeen := decoder.bytesSeen + 1
    if bytesSeen = decoder.bytesNeeded then decoder.emit (Char.ofNat codePoint)
    else ([], ⟨codePoint, bytesSeen, decoder.bytesNeeded, 0x80, 0xBF, decoder.bomSeen⟩)

/-- `decode(chunk, { stream: true })`. -/
def decode : ChunkReader TextDecoder UInt8 Char := ChunkReader.ofStep step

theorem seamless_decode : decode.Seamless := ChunkReader.seamless_ofStep step

-- a mark, and a letter of two bytes that are cut apart
example : (decode.readAll initial [[0xEF, 0xBB, 0xBF, 0xC3], [0xA9, 0x41]]).1 =
    [Char.ofNat 0xE9, Char.ofNat 0x41] := by decide

end TextDecoder
