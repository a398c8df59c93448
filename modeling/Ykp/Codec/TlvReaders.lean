import Ykp.Codec.MapBuild

/-! What the firmware's integer readers make of the fields that its encoder writes. -/

namespace Ykp

open BigEndian

/-- The width that the encoder gives an integer, numbered as the readers' widths are; zero for one
that fits into the header. -/
def uintWidth (value : Nat) : Nat :=
  if value < 24 then 0
  else if value ≤ 0xFF then 1
  else if value ≤ 0xFFFF then 2
  else if value ≤ 0xFFFFFFFF then 3
  else 4

/-- A byte that holds a number below 256 has it as its value. -/
theorem toNat_byte {value : Nat} (small : value ≤ 0xFF) : (UInt8.ofNat value).toNat = value := by
  rw [UInt8.toNat_ofNat']
  omega

/-- The low and high bits of the markers that announce one to eight argument bytes. -/
theorem markerBits :
    ((0x18 : UInt8) &&& 0xE0 = 0 ∧ (0x18 : UInt8) &&& 0x1F = 0x18) ∧
      ((0x19 : UInt8) &&& 0xE0 = 0 ∧ (0x19 : UInt8) &&& 0x1F = 0x19) ∧
      ((0x1A : UInt8) &&& 0xE0 = 0 ∧ (0x1A : UInt8) &&& 0x1F = 0x1A) ∧
      (0x1B : UInt8) &&& 0xE0 = 0 ∧ (0x1B : UInt8) &&& 0x1F = 0x1B := by decide

/-- A reader takes exactly the integers that the encoder gave no greater width than its own. -/
theorem ykpTlvReadUint_written {buf : Memory} {tlv : YkpTlv} {value : Nat}
    (written : readBytes buf tlv.start tlv.length = cborUintBytes value) (range : value < 2 ^ 64)
    (width : Nat) :
    ykpTlvReadUint width buf tlv = if uintWidth value ≤ width then some value else none := by
  obtain ⟨oneBits, twoBits, fourBits, eightBits⟩ := markerBits
  unfold cborUintBytes at written
  unfold ykpTlvReadUint uintWidth
  -- One case for each of the five forms.
  split_ifs at written with tiny one two four
  · obtain ⟨head, length, -⟩ := readBytes_eq_cons written
    obtain ⟨major, info, small⟩ := tinyHead tiny
    simp [head, length, major, info, small, toNat_byte (show value ≤ 0xFF by omega), tiny]
  · obtain ⟨head, length, behind⟩ := readBytes_eq_cons written
    obtain ⟨next, -, -⟩ := readBytes_eq_cons behind
    simp [head, length, oneBits, next, toNat_byte one, tiny, one]
  · obtain ⟨head, length, behind⟩ := readBytes_eq_cons written
    have word := readU16_of_readBytes behind
    rw [Nat.mod_eq_of_lt (by omega)] at word
    simp [head, length, twoBits, word, tiny, one, two]
  · obtain ⟨head, length, behind⟩ := readBytes_eq_cons written
    have word := readU32_of_readBytes behind
    rw [Nat.mod_eq_of_lt (by omega)] at word
    simp [head, length, fourBits, word, tiny, one, two, four]
  · obtain ⟨head, length, behind⟩ := readBytes_eq_cons written
    -- The eight bytes are read as two words, the high one first.
    have halves : readBytes buf (tlv.start + 1) 4 ++ readBytes buf (tlv.start + 1 + 4) 4 =
        writeU32 (value / 4294967296) ++ writeU32 value := behind
    obtain ⟨first, second⟩ := List.append_inj halves (by simp)
    have high := readU32_of_readBytes first
    have low := readU32_of_readBytes second
    have whole : value / 4294967296 % 4294967296 * 4294967296 + value % 4294967296 = value := by
      omega
    simp [head, length, eightBits, high, low, whole, tiny, one, two, four]

/-- So an integer is read by exactly those readers whose type can hold it. -/
theorem ykpTlvReadUint_iff {buf : Memory} {tlv : YkpTlv} {value : Nat}
    (written : readBytes buf tlv.start tlv.length = cborUintBytes value) (range : value < 2 ^ 64) :
    ykpTlvReadUint8 buf tlv = (if value < 2 ^ 8 then some value else none) ∧
      ykpTlvReadUint16 buf tlv = (if value < 2 ^ 16 then some value else none) ∧
      ykpTlvReadUint32 buf tlv = (if value < 2 ^ 32 then some value else none) ∧
      ykpTlvReadUint64 buf tlv = (if value < 2 ^ 64 then some value else none) := by
  -- The encoder takes the narrowest of the widths that hold the integer.
  have widths : (uintWidth value ≤ 1 ↔ value < 2 ^ 8) ∧ (uintWidth value ≤ 2 ↔ value < 2 ^ 16) ∧
      (uintWidth value ≤ 3 ↔ value < 2 ^ 32) ∧ (uintWidth value ≤ 4 ↔ value < 2 ^ 64) := by
    unfold uintWidth
    split_ifs <;> omega
  obtain ⟨one, two, three, four⟩ := widths
  simp only [ykpTlvReadUint8, ykpTlvReadUint16, ykpTlvReadUint32, ykpTlvReadUint64,
    ykpTlvReadUint_written written range, one, two, three, four, and_self]

/-- The low and high bits of the markers of a negative integer. -/
theorem negativeMarkerBits :
    ((0x38 : UInt8) &&& 0xE0 = 0x20 ∧ (0x38 : UInt8) &&& 0x1F = 0x18) ∧
      ((0x39 : UInt8) &&& 0xE0 = 0x20 ∧ (0x39 : UInt8) &&& 0x1F = 0x19) ∧
      (0x3A : UInt8) &&& 0xE0 = 0x20 ∧ (0x3A : UInt8) &&& 0x1F = 0x1A := by decide

/-- A negative integer is read back from its distance below minus one. -/
theorem ykpTlvReadInt32_negative {buf : Memory} {tlv : YkpTlv} {uv : Nat}
    (written : readBytes buf tlv.start tlv.length = cborNegativeBytes uv) (range : uv < 2 ^ 32) :
    ykpTlvReadInt32 buf tlv = some (Int32.ofInt (-1 - uv)) := by
  obtain ⟨oneBits, twoBits, fourBits⟩ := negativeMarkerBits
  unfold cborNegativeBytes at written
  unfold ykpTlvReadInt32
  -- One case for each of the four forms.
  split_ifs at written with tiny one two
  · obtain ⟨head, length, -⟩ := readBytes_eq_cons written
    obtain ⟨major, info, small⟩ := negativeHead tiny
    simp [head, length, major, info, small, toNat_byte (show uv ≤ 0xFF by omega)]
  · obtain ⟨head, length, behind⟩ := readBytes_eq_cons written
    obtain ⟨next, -, -⟩ := readBytes_eq_cons behind
    simp [head, length, oneBits, next, toNat_byte one]
  · obtain ⟨head, length, behind⟩ := readBytes_eq_cons written
    have word := readU16_of_readBytes behind
    rw [Nat.mod_eq_of_lt (by omega)] at word
    simp [head, length, twoBits, word]
  · obtain ⟨head, length, behind⟩ := readBytes_eq_cons written
    have word := readU32_of_readBytes behind
    rw [Nat.mod_eq_of_lt (by omega)] at word
    simp [head, length, fourBits, word]

/-- The major type of an integer that is not negative. -/
theorem uintMajor {buf : Memory} {tlv : YkpTlv} {value : Nat}
    (written : readBytes buf tlv.start tlv.length = cborUintBytes value) :
    1 ≤ tlv.length ∧ buf tlv.start &&& 0xE0 = 0x00 := by
  obtain ⟨oneBits, twoBits, fourBits, eightBits⟩ := markerBits
  unfold cborUintBytes at written
  -- Whatever the form, the upper bits of the first byte are clear.
  split_ifs at written with tiny
  all_goals
    obtain ⟨head, length, -⟩ := readBytes_eq_cons written
    refine ⟨by omega, ?_⟩
    rw [head]
  · exact (tinyHead tiny).1
  · exact oneBits.1
  · exact twoBits.1
  · exact fourBits.1
  · exact eightBits.1

/-- A signed integer of 32 bits is read back, whatever its sign. -/
theorem ykpTlvReadInt32_written {buf : Memory} {tlv : YkpTlv} {val : Int32}
    (written : readBytes buf tlv.start tlv.length =
      if 0 ≤ val.toInt then cborUintBytes val.toInt.toNat
      else cborNegativeBytes (-1 - val.toInt).toNat) :
    ykpTlvReadInt32 buf tlv = some val := by
  have least := val.le_toInt
  have greatest := val.toInt_lt
  -- The sign decides about the major type.
  by_cases positive : 0 ≤ val.toInt
  · rw [if_pos positive] at written
    obtain ⟨filled, major⟩ := uintMajor written
    have read := (ykpTlvReadUint_iff written (by omega)).2.2.1
    rw [if_pos (by omega)] at read
    have same : Int32.ofNat val.toInt.toNat = val := by
      rw [← Int32.ofInt_eq_ofNat, Int.toNat_of_nonneg positive, Int32.ofInt_toInt]
    simp only [ykpTlvReadInt32, major, if_neg (Nat.not_lt.mpr filled), if_true, read,
      Option.map_some, same]
  · rw [if_neg positive] at written
    have read := ykpTlvReadInt32_negative written (by omega)
    have distance : -1 - ((-1 - val.toInt).toNat : Int) = val.toInt := by omega
    rw [read, distance, Int32.ofInt_toInt]

end Ykp
