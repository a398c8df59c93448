import Ykp.Codec.Field

/-! The firmware's CBOR encoder: bytes are written while there is room, else a flag is raised. -/

namespace Ykp

/-- The encoder's buffer so far, the room it may fill, and whether anything did not fit. -/
structure CborEncoder where
  size : Nat
  buf : Bytes
  overflow : Bool
  deriving DecidableEq, Repr

/-- One byte is appended, or the overflow flag raised. -/
def cborWriteByte (enc : CborEncoder) (byte : UInt8) : CborEncoder :=
  if enc.buf.length < enc.size then { enc with buf := enc.buf ++ [byte] }
  else { enc with overflow := true }

/-- A block of bytes is appended whole or not at all. -/
def cborWriteBytes (enc : CborEncoder) (data : Bytes) : CborEncoder :=
  if enc.buf.length + data.length ≤ enc.size then { enc with buf := enc.buf ++ data }
  else { enc with overflow := true }

/-- Bytes written one after the other, each on its own. -/
def cborWriteEach (enc : CborEncoder) (data : Bytes) : CborEncoder :=
  data.foldl cborWriteByte enc

/-- A map key: one byte, behind a marker from 24 on. -/
def cborEncodeKey (enc : CborEncoder) (key : UInt8) : CborEncoder :=
  cborWriteEach enc (keyBytes key)

/-- The bytes of an unsigned integer: the shortest of five widths. -/
def cborUintBytes (value : Nat) : Bytes :=
  if value < 24 then [UInt8.ofNat value]
  else if value ≤ 0xFF then [0x18, UInt8.ofNat value]
  else if value ≤ 0xFFFF then 0x19 :: BigEndian.writeU16 value
  else if value ≤ 0xFFFFFFFF then 0x1A :: BigEndian.writeU32 value
  else 0x1B :: (BigEndian.writeU32 (value / 4294967296) ++ BigEndian.writeU32 value)

/-- An unsigned integer. -/
def cborEncodeUint (enc : CborEncoder) (value : Nat) : CborEncoder :=
  cborWriteEach enc (cborUintBytes value)

/-- The bytes of a negative integer, whose distance below minus one is written in four widths. -/
def cborNegativeBytes (uv : Nat) : Bytes :=
  if uv < 24 then [0x20 ||| UInt8.ofNat uv]
  else if uv ≤ 0xFF then [0x38, UInt8.ofNat uv]
  else if uv ≤ 0xFFFF then 0x39 :: BigEndian.writeU16 uv
  else 0x3A :: BigEndian.writeU32 uv

/-- A signed integer. -/
def cborEncodeInt (enc : CborEncoder) (value : Int) : CborEncoder :=
  if 0 ≤ value then cborEncodeUint enc value.toNat
  else cborWriteEach enc (cborNegativeBytes (-1 - value).toNat)

/-- The bytes of a C string: everything in front of its terminator. -/
def cString (str : Bytes) : Bytes := str.takeWhile (· != 0)

/-- A text string. -/
def cborEncodeStr (enc : CborEncoder) (str : Bytes) : CborEncoder :=
  -- From 24 bytes on the length byte holds the length modulo 256.
  cborWriteBytes (cborWriteEach enc (textHead (cString str).length)) (cString str)

/-- A byte string. -/
def cborEncodeBytes (enc : CborEncoder) (data : Bytes) : CborEncoder :=
  cborWriteBytes (cborWriteEach enc (bytesHead data.length)) data

/-- The half-precision pattern of a single-precision pattern. -/
def float32ToFloat16 (f : Nat) : Nat :=
  let sign := f / 65536 &&& 0x8000
  let biased := f / 8388608 % 256
  let mantissa := f % 8388608
  if biased = 0 then sign
  else if biased = 0xFF then sign ||| 0x7C00 ||| (if mantissa ≠ 0 then 0x0200 else 0)
  -- The exponent is rebiased from 127 to 15.
  else if 31 + 112 ≤ biased then sign ||| 0x7C00
  else if biased ≤ 112 then
    if biased < 102 then sign
    else sign ||| ((mantissa ||| 0x00800000) >>> (1 + 112 - biased)) >>> 13
  else sign ||| (biased - 112) <<< 10 ||| mantissa >>> 13

/-- A single-precision number, given by its pattern, as a half-precision one. -/
def cborEncodeFloat16 (enc : CborEncoder) (f : Nat) : CborEncoder :=
  cborWriteEach enc (0xF9 :: BigEndian.writeU16 (float32ToFloat16 f))

/-- Writing byte by byte never shrinks or overfills the buffer, and keeps its size. -/
theorem cborWriteEach_bounded {enc : CborEncoder} (data : Bytes)
    (bounded : enc.buf.length ≤ enc.size) :
    (cborWriteEach enc data).size = enc.size ∧
      (cborWriteEach enc data).buf.length ≤ enc.size := by
  induction data generalizing enc with
  | nil => exact ⟨rfl, bounded⟩
  | cons byte rest ih =>
    -- One byte is added only below the size.
    have one : (cborWriteByte enc byte).size = enc.size ∧
        (cborWriteByte enc byte).buf.length ≤ (cborWriteByte enc byte).size := by
      unfold cborWriteByte
      split <;> simp <;> omega
    obtain ⟨size, length⟩ := ih one.2
    exact ⟨size.trans one.1, one.1 ▸ length⟩

/-- Writing a block never overfills the buffer, and keeps its size. -/
theorem cborWriteBytes_bounded {enc : CborEncoder} (data : Bytes)
    (bounded : enc.buf.length ≤ enc.size) :
    (cborWriteBytes enc data).size = enc.size ∧
      (cborWriteBytes enc data).buf.length ≤ enc.size := by
  unfold cborWriteBytes
  split
  · simp
    omega
  · exact ⟨rfl, bounded⟩

/-- Bytes that have room are all written. -/
theorem cborWriteEach_fits {enc : CborEncoder} {data : Bytes}
    (room : enc.buf.length + data.length ≤ enc.size) :
    cborWriteEach enc data = { enc with buf := enc.buf ++ data } := by
  induction data generalizing enc with
  | nil => simp [cborWriteEach]
  | cons byte rest ih =>
    simp only [List.length_cons] at room
    have one : cborWriteByte enc byte = { enc with buf := enc.buf ++ [byte] } := by
      simp only [cborWriteByte]
      rw [if_pos (by omega)]
    change cborWriteEach (cborWriteByte enc byte) rest = _
    rw [one, ih (by simp; omega)]
    simp

/-- A block that has room is written. -/
theorem cborWriteBytes_fits {enc : CborEncoder} {data : Bytes}
    (room : enc.buf.length + data.length ≤ enc.size) :
    cborWriteBytes enc data = { enc with buf := enc.buf ++ data } := if_pos room

end Ykp
