import Ykp.Constants

/-! Server strings as UTF-16 units, and how they cross into byte buffers and back. -/

namespace Ykp

/-- A server string is a sequence of 16-bit code units. -/
abbrev JsString := List Nat

/-- The code units of one code point. -/
def codeUnits (point : Nat) : JsString :=
  -- Points beyond the basic plane are written as a surrogate pair.
  if point < 0x10000 then [point]
  else [0xD800 + (point - 0x10000) / 0x400, 0xDC00 + (point - 0x10000) % 0x400]

/-- What the UTF-8 decoder still expects after the bytes read so far. -/
structure Utf8Pending where
  /-- Continuation bytes still missing. -/
  need : Nat
  /-- Smallest admissible next byte. -/
  lower : Nat
  /-- Greatest admissible next byte. -/
  upper : Nat
  /-- Value of the bits read so far. -/
  point : Nat
  deriving DecidableEq, Repr

/-- The decoder between two characters. -/
def Utf8Pending.idle : Utf8Pending := ⟨0, 0x80, 0xBF, 0⟩

/-- The units emitted for a byte that starts a character, and what is expected next. -/
def utf8Lead (byte : Nat) : JsString × Utf8Pending :=
  if byte < 0x80 then ([byte], .idle)
  else if 0xC2 ≤ byte ∧ byte ≤ 0xDF then ([], ⟨1, 0x80, 0xBF, byte - 0xC0⟩)
  -- The second byte of the shortest and of the surrogate range is restricted further.
  else if byte = 0xE0 then ([], ⟨2, 0xA0, 0xBF, 0⟩)
  else if byte = 0xED then ([], ⟨2, 0x80, 0x9F, 0xD⟩)
  else if 0xE1 ≤ byte ∧ byte ≤ 0xEF then ([], ⟨2, 0x80, 0xBF, byte - 0xE0⟩)
  else if byte = 0xF0 then ([], ⟨3, 0x90, 0xBF, 0⟩)
  else if byte = 0xF4 then ([], ⟨3, 0x80, 0x8F, 4⟩)
  else if 0xF1 ≤ byte ∧ byte ≤ 0xF3 then ([], ⟨3, 0x80, 0xBF, byte - 0xF0⟩)
  else ([0xFFFD], .idle)

/-- The units emitted for one byte in the middle of decoding. -/
def utf8Step (pending : Utf8Pending) (byte : Nat) : JsString × Utf8Pending :=
  if pending.need = 0 then utf8Lead byte
  else if pending.lower ≤ byte ∧ byte ≤ pending.upper then
    let point := pending.point * 64 + byte % 64
    if pending.need = 1 then (codeUnits point, .idle)
    else ([], ⟨pending.need - 1, 0x80, 0xBF, point⟩)
  else
    -- A broken sequence becomes one replacement character and its last byte starts afresh.
    (0xFFFD :: (utf8Lead byte).1, (utf8Lead byte).2)

/-- Decoding from a given point, with one replacement character for a sequence cut off at the end. -/
def utf8DecodeFrom (pending : Utf8Pending) : Bytes → JsString
  | [] => if pending.need = 0 then [] else [0xFFFD]
  | byte :: rest =>
    (utf8Step pending byte.toNat).1 ++ utf8DecodeFrom (utf8Step pending byte.toNat).2 rest

/-- The text of a buffer, as its utf8 string conversion gives it. -/
def utf8Decode (bytes : Bytes) : JsString := utf8DecodeFrom .idle bytes

/-- The UTF-8 bytes of one code point. -/
def utf8Point (point : Nat) : Bytes :=
  if point < 0x80 then [UInt8.ofNat point]
  else if point < 0x800 then [UInt8.ofNat (0xC0 + point / 64), UInt8.ofNat (0x80 + point % 64)]
  else if point < 0x10000 then
    [UInt8.ofNat (0xE0 + point / 4096), UInt8.ofNat (0x80 + point / 64 % 64),
      UInt8.ofNat (0x80 + point % 64)]
  else
    [UInt8.ofNat (0xF0 + point / 262144), UInt8.ofNat (0x80 + point / 4096 % 64),
      UInt8.ofNat (0x80 + point / 64 % 64), UInt8.ofNat (0x80 + point % 64)]

/-- The bytes of each character of a string, an unpaired surrogate as the replacement character. -/
def utf8Characters : JsString → List Bytes
  | [] => []
  | [unit] => [utf8Point (if 0xD800 ≤ unit ∧ unit < 0xE000 then 0xFFFD else unit)]
  | unit :: next :: rest =>
    if 0xD800 ≤ unit ∧ unit < 0xDC00 ∧ 0xDC00 ≤ next ∧ next < 0xE000 then
      utf8Point (0x10000 + (unit - 0xD800) * 0x400 + (next - 0xDC00)) :: utf8Characters rest
    else
      utf8Point (if 0xD800 ≤ unit ∧ unit < 0xE000 then 0xFFFD else unit) ::
        utf8Characters (next :: rest)

/-- The UTF-8 bytes of a string. -/
def utf8Encode (text : JsString) : Bytes := (utf8Characters text).flatten

/-- The characters that fit whole into the room left in a buffer. -/
def fitCharacters : Nat → List Bytes → Bytes
  | _, [] => []
  | room, character :: rest =>
    -- Writing stops at the first character that would be cut.
    if character.length ≤ room then character ++ fitCharacters (room - character.length) rest
    else []

/-- An identifier field of a header: at most eight units, written whole and padded with zeros. -/
def idField (text : JsString) : Bytes :=
  let written := fitCharacters ykpDeviceIdLen (utf8Characters (text.take ykpDeviceIdLen))
  written ++ List.replicate (ykpDeviceIdLen - written.length) 0

/-- The units that trimming removes: white space and line terminators. -/
def isJsSpace (unit : Nat) : Bool :=
  (0x09 ≤ unit && unit ≤ 0x0D) || unit == 0x20 || unit == 0xA0 || unit == 0x1680 ||
    (0x2000 ≤ unit && unit ≤ 0x200A) || unit == 0x2028 || unit == 0x2029 || unit == 0x202F ||
    unit == 0x205F || unit == 0x3000 || unit == 0xFEFF

/-- A string without white space at either end. -/
def jsTrim (text : JsString) : JsString :=
  (text.dropWhile isJsSpace).reverse.dropWhile isJsSpace |>.reverse

/-- The identifier read from a header field: its text without zero units, trimmed. -/
def readId (field : Bytes) : JsString := jsTrim ((utf8Decode field).filter (· != 0))

/-- Writing characters into limited room fills at most that room. -/
theorem fitCharacters_length (characters : List Bytes) (room : Nat) :
    (fitCharacters room characters).length ≤ room := by
  -- Each character written lowers the room by its own length.
  induction characters generalizing room with
  | nil => simp [fitCharacters]
  | cons character rest ih =>
    unfold fitCharacters
    split
    · have := ih (room - character.length)
      simp only [List.length_append]
      omega
    · simp

/-- An identifier field always fills its eight bytes. -/
@[simp] theorem idField_length (text : JsString) : (idField text).length = ykpDeviceIdLen := by
  have := fitCharacters_length (utf8Characters (text.take ykpDeviceIdLen)) ykpDeviceIdLen
  simp only [idField, List.length_append, List.length_replicate]
  omega

/-- A short printable name survives the way into a header field and back. -/
example : readId (idField [68, 69, 86, 45, 49]) = [68, 69, 86, 45, 49] := by decide

end Ykp
