import Ykp.Codec.MapBuild

/-! The UTF-8 decoder inverts the encoding of characters, and plain identifiers cross unchanged. -/

namespace Ykp

/-- A code point that UTF-8 can carry: no surrogate, and within the seventeen planes. -/
def ScalarValue (point : Nat) : Prop := point < 0xD800 ∨ (0xE000 ≤ point ∧ point < 0x110000)

/-- A small number is the value of its byte. -/
private theorem toNat_ofNat {value : Nat} (small : value < 256) :
    (UInt8.ofNat value).toNat = value := by
  simp [small]

/-- The last byte of a sequence completes the character. -/
private theorem utf8Step_last {lower upper point byte : Nat}
    (within : lower ≤ byte ∧ byte ≤ upper) :
    utf8Step ⟨1, lower, upper, point⟩ byte = (codeUnits (point * 64 + byte % 64), .idle) := by
  simp [utf8Step, within]

/-- A byte in the middle of a sequence adds six bits. -/
private theorem utf8Step_more {need lower upper point byte : Nat}
    (within : lower ≤ byte ∧ byte ≤ upper) :
    utf8Step ⟨need + 2, lower, upper, point⟩ byte =
      ([], ⟨need + 1, 0x80, 0xBF, point * 64 + byte % 64⟩) := by
  simp [utf8Step, within]

/-- The first byte of two, of three and of four announces the bytes to come. -/
private theorem utf8Lead_two : ∀ high < 32, 2 ≤ high →
    utf8Lead (0xC0 + high) = ([], ⟨1, 0x80, 0xBF, high⟩) := by decide

private theorem utf8Lead_three : ∀ high < 16, utf8Lead (0xE0 + high) =
    ([], ⟨2, if high = 0 then 0xA0 else 0x80, if high = 13 then 0x9F else 0xBF, high⟩) := by
  decide

private theorem utf8Lead_four : ∀ high < 5, utf8Lead (0xF0 + high) =
    ([], ⟨3, if high = 0 then 0x90 else 0x80, if high = 4 then 0x8F else 0xBF, high⟩) := by
  decide

/-- The bytes of one character decode to its code units, and decoding starts afresh behind them. -/
theorem utf8DecodeFrom_point {point : Nat} (scalar : ScalarValue point) (rest : Bytes) :
    utf8DecodeFrom .idle (utf8Point point ++ rest) =
      codeUnits point ++ utf8DecodeFrom .idle rest := by
  have start (byte : Nat) : utf8Step .idle byte = utf8Lead byte := rfl
  unfold ScalarValue at scalar
  unfold utf8Point
  -- One case for each number of bytes.
  split_ifs with one two three
  · have units : codeUnits point = [point] := if_pos (by omega)
    have lead : utf8Lead point = ([point], .idle) := if_pos one
    simp only [List.cons_append, List.nil_append, utf8DecodeFrom, toNat_ofNat (show point < 256 by
      omega), start, lead, units]
  · have lead := utf8Lead_two (point / 64) (by omega) (by omega)
    have last := @utf8Step_last 0x80 0xBF (point / 64) (0x80 + point % 64) (by omega)
    rw [show point / 64 * 64 + (0x80 + point % 64) % 64 = point by omega] at last
    simp only [List.cons_append, List.nil_append, utf8DecodeFrom, toNat_ofNat (show 0xC0 +
      point / 64 < 256 by omega), toNat_ofNat (show 0x80 + point % 64 < 256 by omega), start,
      lead, last]
  · have lead := utf8Lead_three (point / 4096) (by omega)
    -- The second byte is restricted behind the shortest and the surrogate lead byte.
    have more := @utf8Step_more 0 (if point / 4096 = 0 then 0xA0 else 0x80)
      (if point / 4096 = 13 then 0x9F else 0xBF) (point / 4096) (0x80 + point / 64 % 64)
      (by split_ifs <;> omega)
    have last := @utf8Step_last 0x80 0xBF
      (point / 4096 * 64 + (0x80 + point / 64 % 64) % 64) (0x80 + point % 64) (by omega)
    rw [show (point / 4096 * 64 + (0x80 + point / 64 % 64) % 64) * 64 + (0x80 + point % 64) % 64 =
      point by omega] at last
    simp only [List.cons_append, List.nil_append, utf8DecodeFrom, toNat_ofNat (show 0xE0 +
      point / 4096 < 256 by omega), toNat_ofNat (show 0x80 + point / 64 % 64 < 256 by omega),
      toNat_ofNat (show 0x80 + point % 64 < 256 by omega), start, lead, more, last]
  · have lead := utf8Lead_four (point / 262144) (by omega)
    have second := @utf8Step_more 1 (if point / 262144 = 0 then 0x90 else 0x80)
      (if point / 262144 = 4 then 0x8F else 0xBF) (point / 262144) (0x80 + point / 4096 % 64)
      (by split_ifs <;> omega)
    have third := @utf8Step_more 0 0x80 0xBF
      (point / 262144 * 64 + (0x80 + point / 4096 % 64) % 64) (0x80 + point / 64 % 64) (by omega)
    have last := @utf8Step_last 0x80 0xBF
      ((point / 262144 * 64 + (0x80 + point / 4096 % 64) % 64) * 64 +
        (0x80 + point / 64 % 64) % 64) (0x80 + point % 64) (by omega)
    rw [show ((point / 262144 * 64 + (0x80 + point / 4096 % 64) % 64) * 64 +
        (0x80 + point / 64 % 64) % 64) * 64 + (0x80 + point % 64) % 64 = point by omega] at last
    simp only [List.cons_append, List.nil_append, utf8DecodeFrom, toNat_ofNat (show 0xF0 +
      point / 262144 < 256 by omega), toNat_ofNat (show 0x80 + point / 4096 % 64 < 256 by omega),
      toNat_ofNat (show 0x80 + point / 64 % 64 < 256 by omega),
      toNat_ofNat (show 0x80 + point % 64 < 256 by omega), start, lead, second, third, last]

/-- The bytes of characters decode to their code units. -/
theorem utf8Decode_points (points : List Nat) (scalars : ∀ point ∈ points, ScalarValue point) :
    utf8Decode (points.flatMap utf8Point) = points.flatMap codeUnits := by
  -- The decoder is between two characters in front of each of them.
  induction points with
  | nil => rfl
  | cons point rest ih =>
    rw [List.flatMap_cons, List.flatMap_cons, utf8Decode,
      utf8DecodeFrom_point (scalars point List.mem_cons_self)]
    exact congrArg (codeUnits point ++ ·)
      (ih fun other member => scalars other (List.mem_cons_of_mem _ member))

/-- A character of a plain identifier: ASCII, neither NUL nor white space. -/
def PlainUnit (unit : Nat) : Prop := unit < 0x80 ∧ unit ≠ 0 ∧ isJsSpace unit = false

instance (unit : Nat) : Decidable (PlainUnit unit) := inferInstanceAs (Decidable (_ ∧ _))

/-- A device identifier of at most eight plain characters. -/
structure PlainId (id : JsString) : Prop where
  short : id.length ≤ ykpDeviceIdLen
  plain : ∀ unit ∈ id, PlainUnit unit

/-- The bytes of an ASCII text. -/
def asciiBytes (text : JsString) : Bytes := text.map UInt8.ofNat

/-- ASCII characters take one byte and one unit each. -/
private theorem ascii_points {text : JsString} (ascii : ∀ unit ∈ text, unit < 0x80) :
    text.flatMap utf8Point = asciiBytes text ∧ text.flatMap codeUnits = text := by
  -- Both forms grow by one for each character.
  induction text with
  | nil => exact ⟨rfl, rfl⟩
  | cons unit rest ih =>
    obtain ⟨bytes, units⟩ := ih fun other member => ascii other (List.mem_cons_of_mem _ member)
    have small := ascii unit List.mem_cons_self
    have one : utf8Point unit = [UInt8.ofNat unit] := if_pos small
    have same : codeUnits unit = [unit] := if_pos (by omega)
    rw [List.flatMap_cons, List.flatMap_cons, bytes, units, one, same]
    exact ⟨rfl, rfl⟩

/-- The bytes of an ASCII text decode to it. -/
theorem utf8Decode_ascii {text : JsString} (ascii : ∀ unit ∈ text, unit < 0x80) :
    utf8Decode (asciiBytes text) = text := by
  obtain ⟨bytes, units⟩ := ascii_points ascii
  have decoded := utf8Decode_points text fun unit member => .inl (by
    have := ascii unit member
    omega)
  rwa [bytes, units] at decoded

/-- Trimming takes nothing from a text without white space. -/
theorem jsTrim_plain {text : JsString} (plain : ∀ unit ∈ text, isJsSpace unit = false) :
    jsTrim text = text := by
  -- The same holds from either end.
  have kept {units : JsString} (none : ∀ unit ∈ units, isJsSpace unit = false) :
      units.dropWhile isJsSpace = units := by
    cases units with
    | nil => rfl
    | cons unit rest => simp [List.dropWhile, none unit List.mem_cons_self]
  unfold jsTrim
  rw [kept plain, kept (by simpa using plain), List.reverse_reverse]

/-- A plain identifier as it stands in a header field: its characters, padded with zeros. -/
def plainField (id : JsString) : Bytes :=
  asciiBytes id ++ List.replicate (ykpDeviceIdLen - id.length) 0

/-- The server reads a plain identifier back from its field. -/
theorem readId_plain {id : JsString} (plain : PlainId id) : readId (plainField id) = id := by
  -- The padding consists of zero units, which are removed, and nothing else is.
  have padded : plainField id =
      asciiBytes (id ++ List.replicate (ykpDeviceIdLen - id.length) 0) := by
    simp [plainField, asciiBytes]
  have decoded : utf8Decode (plainField id) =
      id ++ List.replicate (ykpDeviceIdLen - id.length) 0 := by
    rw [padded]
    refine utf8Decode_ascii fun unit member => ?_
    rcases List.mem_append.mp member with inside | zero
    · exact (plain.plain unit inside).1
    · rw [List.eq_of_mem_replicate zero]
      decide
  have filtered : (id ++ List.replicate (ykpDeviceIdLen - id.length) 0).filter (· != 0) = id := by
    have all : id.filter (· != 0) = id :=
      List.filter_eq_self.mpr fun unit member => by simpa using (plain.plain unit member).2.1
    rw [List.filter_append, all, List.filter_replicate]
    simp
  rw [readId, decoded, filtered]
  exact jsTrim_plain fun unit member => (plain.plain unit member).2.2

/-- The device fills the field of a plain identifier. -/
theorem deviceIdField_plain {id : JsString} (plain : PlainId id) :
    deviceIdField (asciiBytes id) = plainField id := by
  -- No character is the terminator, so the whole text is copied.
  have whole : cString (asciiBytes id) = asciiBytes id := by
    refine cString_eq fun byte member zero => ?_
    obtain ⟨unit, inside, rfl⟩ := List.mem_map.mp member
    obtain ⟨ascii, nonzero, -⟩ := plain.plain unit inside
    have value := toNat_ofNat (show unit < 256 by omega)
    rw [zero] at value
    exact nonzero value.symm
  have short := plain.short
  have taken : (asciiBytes id).take ykpDeviceIdLen = asciiBytes id :=
    List.take_of_length_le (by simpa [asciiBytes] using short)
  simp only [deviceIdField, whole, taken, plainField]
  simp [asciiBytes]

/-- Each ASCII character is one byte of its own. -/
theorem utf8Characters_ascii {text : JsString} (ascii : ∀ unit ∈ text, unit < 0x80) :
    utf8Characters text = text.map fun unit => [UInt8.ofNat unit] := by
  fun_induction utf8Characters text with
  | case1 => rfl
  | case2 unit =>
    have small := ascii unit List.mem_cons_self
    rw [if_neg (by omega), utf8Point, if_pos small]
    rfl
  | case3 unit next rest pair ih =>
    -- A surrogate is no ASCII character.
    have small := ascii unit List.mem_cons_self
    omega
  | case4 unit next rest _ ih =>
    have small := ascii unit List.mem_cons_self
    rw [if_neg (by omega), utf8Point, if_pos small,
      ih fun other member => ascii other (List.mem_cons_of_mem _ member)]
    rfl

/-- The UTF-8 bytes of an ASCII text. -/
theorem utf8Encode_ascii {text : JsString} (ascii : ∀ unit ∈ text, unit < 0x80) :
    utf8Encode text = asciiBytes text := by
  rw [utf8Encode, utf8Characters_ascii ascii, ← List.flatMap_def, ← List.map_eq_flatMap]
  rfl

/-- The server fills the field of a plain identifier. -/
theorem idField_plain {id : JsString} (plain : PlainId id) : idField id = plainField id := by
  -- None of them is left out, as there is room for as many.
  have fits : ∀ (text : JsString) (room : Nat), text.length ≤ room →
      fitCharacters room (text.map fun unit => [UInt8.ofNat unit]) = asciiBytes text := by
    intro text
    induction text with
    | nil => intro room _; rfl
    | cons unit rest ih =>
      intro room enough
      simp only [List.length_cons] at enough
      simp only [List.map_cons, fitCharacters, List.length_singleton, asciiBytes]
      rw [if_pos (by omega), ih (room - 1) (by omega)]
      rfl
  have taken : id.take ykpDeviceIdLen = id := List.take_of_length_le plain.short
  simp only [idField, taken, utf8Characters_ascii fun unit member => (plain.plain unit member).1,
    fits id ykpDeviceIdLen plain.short, plainField]
  simp [asciiBytes]

end Ykp
