import Mathlib.Data.List.Basic
import Mathlib.Tactic.Common

/-! Byte memories, big-endian words, and slices of byte strings laid out one behind the other. -/

namespace BigEndian

/-- A memory answers every index with a byte, as a pointer of a C program does. -/
abbrev Memory := Nat → UInt8

/-- The memory behind a byte string, with other bytes beyond its end. -/
def memoryOf (bytes : List UInt8) (beyond : Memory) : Memory := fun index =>
  bytes.getD index (beyond index)

/-- The memory a byte string stands in when nothing beyond its end is read. -/
def byteAt (bytes : List UInt8) : Memory := memoryOf bytes fun _ => 0

/-- The bytes of a memory from one index on. -/
def readBytes (memory : Memory) (start count : Nat) : List UInt8 :=
  (List.range count).map fun offset => memory (start + offset)

/-- Two bytes read as one word, high byte first. -/
def readU16 (memory : Memory) (index : Nat) : Nat :=
  (memory index).toNat * 256 + (memory (index + 1)).toNat

/-- Four bytes read as one word, high byte first. -/
def readU32 (memory : Memory) (index : Nat) : Nat :=
  readU16 memory index * 65536 + readU16 memory (index + 2)

/-- A word written as two bytes, high byte first. -/
def writeU16 (value : Nat) : List UInt8 := [UInt8.ofNat (value / 256), UInt8.ofNat value]

/-- A word written as four bytes, high byte first. -/
def writeU32 (value : Nat) : List UInt8 := writeU16 (value / 65536) ++ writeU16 value

@[simp] theorem writeU16_length (value : Nat) : (writeU16 value).length = 2 := rfl

@[simp] theorem writeU32_length (value : Nat) : (writeU32 value).length = 4 := rfl

@[simp] theorem readBytes_length (memory : Memory) (start count : Nat) :
    (readBytes memory start count).length = count := by simp [readBytes]

/-- Bytes that were read are those of the memory. -/
theorem getElem_of_readBytes {memory : Memory} {start count : Nat} {value : List UInt8}
    (read : readBytes memory start count = value) :
    value.length = count ∧
      ∀ index, (inside : index < value.length) → value[index] = memory (start + index) := by
  subst read
  simp [readBytes]

/-- A word read from two bytes fits in sixteen bits. -/
theorem readU16_lt (memory : Memory) (index : Nat) : readU16 memory index < 65536 := by
  have high := (memory index).toNat_lt
  have low := (memory (index + 1)).toNat_lt
  simp only [readU16]
  omega

/-- A word read from four bytes fits in thirty-two bits. -/
theorem readU32_lt (memory : Memory) (index : Nat) : readU32 memory index < 4294967296 := by
  have high := readU16_lt memory index
  have low := readU16_lt memory (index + 2)
  simp only [readU32]
  omega

/-- Inside the byte string the memory holds its bytes, whatever lies beyond. -/
theorem memoryOf_inside {bytes : List UInt8} (beyond : Memory) {index : Nat}
    (inside : index < bytes.length) : memoryOf bytes beyond index = bytes[index] := by
  simp [memoryOf, inside]

/-- Bytes in front shift every index behind them. -/
theorem memoryOf_append (front back : List UInt8) (beyond : Memory) (index : Nat) :
    memoryOf (front ++ back) beyond (front.length + index) =
      memoryOf back (fun offset => beyond (front.length + offset)) index := by
  -- The appended string is longer than the front, so the lookup continues in the back.
  simp [memoryOf, List.getD_eq_getElem?_getD, List.getElem?_append_right]

/-- What stands at a known distance behind the start of a string is read back unchanged. -/
theorem readBytes_middle (front middle back : List UInt8) (beyond : Memory) :
    readBytes (memoryOf (front ++ (middle ++ back)) beyond) front.length middle.length =
      middle := by
  -- Every read index falls inside the middle part.
  apply List.ext_getElem
  · simp
  · intro index _ inside
    simp only [readBytes, List.getElem_map, List.getElem_range, memoryOf_append]
    rw [memoryOf_inside _ (by simp; omega), List.getElem_append_left inside]

/-- The first of the bytes that were read, and those behind it. -/
theorem readBytes_eq_cons {memory : Memory} {start count : Nat} {first : UInt8}
    {rest : List UInt8} (read : readBytes memory start count = first :: rest) :
    memory start = first ∧ count = rest.length + 1 ∧
      readBytes memory (start + 1) rest.length = rest := by
  obtain ⟨length, at_⟩ := getElem_of_readBytes read
  refine ⟨(at_ 0 (by simp)).symm, length.symm, ?_⟩
  -- Every byte of the rest is read one index later.
  apply List.ext_getElem
  · simp
  · intro index _ inside
    have here := at_ (index + 1) (by simpa using inside)
    rw [List.getElem_cons_succ] at here
    simp only [readBytes, List.getElem_map, List.getElem_range]
    rw [here, Nat.add_assoc, Nat.add_comm 1 index]

/-- Two bytes that spell a word are read as that word, modulo its width. -/
theorem readU16_of_readBytes {memory : Memory} {start value : Nat}
    (read : readBytes memory start 2 = writeU16 value) : readU16 memory start = value % 65536 := by
  obtain ⟨-, at_⟩ := getElem_of_readBytes read
  have high : UInt8.ofNat (value / 256) = memory start := at_ 0 (by simp)
  have low : UInt8.ofNat value = memory (start + 1) := at_ 1 (by simp)
  simp only [readU16, ← high, ← low, UInt8.toNat_ofNat']
  omega

/-- Four bytes that spell a word are read as that word, modulo its width. -/
theorem readU32_of_readBytes {memory : Memory} {start value : Nat}
    (read : readBytes memory start 4 = writeU32 value) :
    readU32 memory start = value % 4294967296 := by
  -- Each half of the word is spelled by two of the bytes.
  have halves : readBytes memory start 2 ++ readBytes memory (start + 2) 2 =
      writeU16 (value / 65536) ++ writeU16 value := read
  obtain ⟨first, second⟩ := List.append_inj halves (by simp)
  simp only [readU32, readU16_of_readBytes first, readU16_of_readBytes second]
  omega

/-- A written two-byte word is read back modulo its width. -/
theorem readU16_written (front back : List UInt8) (value : Nat) (beyond : Memory) :
    readU16 (memoryOf (front ++ (writeU16 value ++ back)) beyond) front.length =
      value % 65536 := by
  have high := memoryOf_append front (writeU16 value ++ back) beyond 0
  have low := memoryOf_append front (writeU16 value ++ back) beyond 1
  simp only [Nat.add_zero] at high
  simp only [readU16, high, low]
  simp [memoryOf, writeU16]
  omega

/-- A written four-byte word is read back modulo its width. -/
theorem readU32_written (front back : List UInt8) (value : Nat) (beyond : Memory) :
    readU32 (memoryOf (front ++ (writeU32 value ++ back)) beyond) front.length =
      value % 4294967296 := by
  -- The high half stands in front of the low half.
  have high := readU16_written front (writeU16 value ++ back) (value / 65536) beyond
  have low := readU16_written (front ++ writeU16 (value / 65536)) back value beyond
  simp only [List.length_append, writeU16_length, List.append_assoc] at low
  simp only [readU32, writeU32, List.append_assoc, high, low]
  omega

end BigEndian
