import Mathlib.Data.List.TakeWhile
import Ykp.Codec.DevicePacket
import Ykp.Codec.ServerPacket

/-! Both builders write payload maps: a field that fits is appended as its key and value. -/

namespace Ykp

open BigEndian

/-- A builder that never wrote beyond its capacity. -/
def YkpTlvBuilder.Bounded (b : YkpTlvBuilder) : Prop := b.buf.length ≤ b.cap

/-- An encoding step keeps to the size of its encoder. -/
def KeepsBounds (encode : CborEncoder → CborEncoder) : Prop :=
  ∀ enc : CborEncoder, enc.buf.length ≤ enc.size →
    (encode enc).size = enc.size ∧ (encode enc).buf.length ≤ enc.size

theorem cborEncodeStr_keepsBounds (str : Bytes) : KeepsBounds fun enc => cborEncodeStr enc str := by
  intro enc bounded
  obtain ⟨size, length⟩ := cborWriteEach_bounded (textHead (cString str).length) bounded
  obtain ⟨size', length'⟩ := cborWriteBytes_bounded (cString str) (size ▸ length)
  exact ⟨size'.trans size, size ▸ length'⟩

theorem cborEncodeBytes_keepsBounds (data : Bytes) :
    KeepsBounds fun enc => cborEncodeBytes enc data := by
  intro enc bounded
  obtain ⟨size, length⟩ := cborWriteEach_bounded (bytesHead data.length) bounded
  obtain ⟨size', length'⟩ := cborWriteBytes_bounded data (size ▸ length)
  exact ⟨size'.trans size, size ▸ length'⟩

/-- Adding a field keeps the capacity and stays within it. -/
theorem ykpTlvAdd_bounded {b : YkpTlvBuilder} {encode : CborEncoder → CborEncoder}
    (type : TlvType) (keeps : KeepsBounds encode) (bounded : b.Bounded) :
    (ykpTlvAdd b type encode).1.cap = b.cap ∧ (ykpTlvAdd b type encode).1.Bounded := by
  -- The key is written first, and the value continues behind it.
  have start : (tlvToCbor b).buf.length ≤ (tlvToCbor b).size := bounded
  obtain ⟨size, length⟩ := cborWriteEach_bounded (keyBytes type.byte) start
  obtain ⟨-, length'⟩ := keeps _ (size ▸ length)
  exact ⟨rfl, Nat.le_trans length' (Nat.le_of_eq size)⟩

/-- A fresh builder holds one byte. -/
theorem ykpTlvBuilderInit_bounded {cap : Nat} (room : 0 < cap) :
    (ykpTlvBuilderInit cap).Bounded := room

/-- A finished map fits into the capacity of its builder. -/
theorem ykpTlvBuilderLen_le {b : YkpTlvBuilder} {cap : Nat} (bounded : b.Bounded)
    (size : b.cap = cap) (room : 0 < cap) : (ykpTlvBuilderLen b).length ≤ cap := by
  subst size
  unfold YkpTlvBuilder.Bounded at bounded
  unfold ykpTlvBuilderLen
  split
  · simp
    omega
  · simp
    omega

/-- An encoding step writes a value whenever there is room for it. -/
def Writes (encode : CborEncoder → CborEncoder) (value : Bytes) : Prop :=
  ∀ enc : CborEncoder, enc.buf.length + value.length ≤ enc.size →
    encode enc = { enc with buf := enc.buf ++ value }

/-- A C string of up to 255 bytes is written as a text value. -/
theorem cborEncodeStr_writes (str : Bytes) :
    Writes (fun enc => cborEncodeStr enc str)
      (textHead (cString str).length ++ cString str) := by
  intro enc room
  simp only [List.length_append] at room
  simp only [cborEncodeStr]
  rw [cborWriteEach_fits (by omega), cborWriteBytes_fits (by simp; omega)]
  simp

/-- Data of up to 255 bytes is written as a byte value. -/
theorem cborEncodeBytes_writes (data : Bytes) :
    Writes (fun enc => cborEncodeBytes enc data) (bytesHead data.length ++ data) := by
  intro enc room
  simp only [List.length_append] at room
  simp only [cborEncodeBytes]
  rw [cborWriteEach_fits (by omega), cborWriteBytes_fits (by simp; omega)]
  simp

/-- A header below 24 holds a number of its own. -/
theorem tinyHead {value : Nat} (tiny : value < 24) :
    UInt8.ofNat value &&& 0xE0 = 0x00 ∧ UInt8.ofNat value &&& 0x1F = UInt8.ofNat value ∧
      UInt8.ofNat value < 24 := by
  -- Twenty-four values, each checked on its own bits.
  have all : ∀ value < 24, UInt8.ofNat value &&& 0xE0 = 0x00 ∧
      UInt8.ofNat value &&& 0x1F = UInt8.ofNat value ∧ UInt8.ofNat value < 24 := by decide
  exact all value tiny

/-- The header bits of a small distance below minus one. -/
theorem negativeHead {uv : Nat} (tiny : uv < 24) :
    (0x20 ||| UInt8.ofNat uv) &&& 0xE0 = 0x20 ∧
      (0x20 ||| UInt8.ofNat uv) &&& 0x1F = UInt8.ofNat uv ∧ UInt8.ofNat uv < 24 := by
  -- Twenty-four values, each checked on its own bits.
  have all : ∀ uv < 24, (0x20 ||| UInt8.ofNat uv) &&& 0xE0 = 0x20 ∧
      (0x20 ||| UInt8.ofNat uv) &&& 0x1F = UInt8.ofNat uv ∧ UInt8.ofNat uv < 24 := by decide
  exact all uv tiny

/-- A value behind a marker of an integer takes the marker and its argument bytes. -/
theorem announcedEnd_wide (rest : Bytes) :
    announcedEnd (byteAt (0x18 :: rest)) 0 = 2 ∧ announcedEnd (byteAt (0x19 :: rest)) 0 = 3 ∧
      announcedEnd (byteAt (0x1A :: rest)) 0 = 5 ∧ announcedEnd (byteAt (0x1B :: rest)) 0 = 9 := by
  -- Only the marker is looked at, whatever follows it.
  have head (marker : UInt8) : byteAt (marker :: rest) 0 = marker := rfl
  simp only [announcedEnd, head]
  exact ⟨rfl, rfl, rfl, rfl⟩

/-- An unsigned integer is a value. -/
def uintItem (value : Nat) : Item where
  bytes := cborUintBytes value
  complete := by
    unfold cborUintBytes
    -- One case for each width.
    split_ifs with tiny
    · obtain ⟨major, info, small⟩ := tinyHead tiny
      simp [announcedEnd, byteAt, memoryOf, major, info, small]
    · rw [(announcedEnd_wide _).1]
      rfl
    · rw [(announcedEnd_wide _).2.1]
      simp
    · rw [(announcedEnd_wide _).2.2.1]
      simp
    · rw [(announcedEnd_wide _).2.2.2]
      simp

/-- A half-precision number is a value. -/
def floatItem (f : Nat) : Item where
  bytes := 0xF9 :: writeU16 (float32ToFloat16 f)
  complete := by
    have head (rest : Bytes) : byteAt (0xF9 :: rest) 0 = 0xF9 := rfl
    simp only [announcedEnd, head]
    rfl

/-- The server writes the integers it accepts as the device does. -/
theorem addUInt32_eq (b : TlvBuilder) (type : TlvType) (val : Nat) :
    b.addUInt32 type val =
      if val ≤ 0xFFFFFFFF then some (b.add type (cborUintBytes val)) else none := by
  unfold TlvBuilder.addUInt32 cborUintBytes
  split_ifs <;> first | rfl | omega

/-- A field that fits is appended as its key and its value. -/
theorem ykpTlvAdd_fits {b : YkpTlvBuilder} {encode : CborEncoder → CborEncoder} {value : Bytes}
    (type : TlvType) (writes : Writes encode value)
    (room : b.buf.length + ((keyBytes type.byte).length + value.length) ≤ b.cap) :
    ykpTlvAdd b type encode =
      ({ b with buf := b.buf ++ (keyBytes type.byte ++ value) }, true) := by
  have key : cborEncodeKey (tlvToCbor b) type.byte =
      { tlvToCbor b with buf := b.buf ++ keyBytes type.byte } :=
    cborWriteEach_fits (by simp only [tlvToCbor]; omega)
  simp only [ykpTlvAdd, key]
  rw [writes _ (by simp [tlvToCbor]; omega)]
  simp [tlvToCbor]

/-- The bytes of a C string without terminator are the string. -/
theorem cString_eq {str : Bytes} (noNul : ∀ byte ∈ str, byte ≠ 0) : cString str = str := by
  simpa [cString, List.takeWhile_eq_self_iff] using noNul

/-- A builder with room left closes its map behind the fields. -/
theorem ykpTlvBuilderLen_room {b : YkpTlvBuilder} (room : b.buf.length < b.cap) :
    ykpTlvBuilderLen b = b.buf ++ [0xFF] := if_pos room

end Ykp
