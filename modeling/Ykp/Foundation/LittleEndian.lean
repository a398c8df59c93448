import Mathlib.Algebra.Group.Nat.Defs
import Mathlib.Tactic.Common

/-! Numbers laid out low byte first, and the thirty-two bit words a C program copies from memory. -/

namespace LittleEndian

/-- The low bytes of a number, as many as asked for, the lowest one first. -/
def write : Nat → Nat → List UInt8
  | 0, _ => []
  | count + 1, number => UInt8.ofNat number :: write count (number / 256)

/-- The number a byte string spells. -/
def value : List UInt8 → Nat
  | [] => 0
  | byte :: rest => byte.toNat + 256 * value rest

/-- A word as it lies in memory. -/
def writeWord (word : UInt32) : List UInt8 := write 4 word.toNat

/-- The word at the start of a byte string. -/
def readWord (bytes : List UInt8) : UInt32 := UInt32.ofNat (value (bytes.take 4))

@[simp] theorem write_length (count number : Nat) : (write count number).length = count := by
  -- Every turn writes one byte.
  induction count generalizing number with
  | zero => rfl
  | succ count ih => rw [write, List.length_cons, ih]

@[simp] theorem writeWord_length (word : UInt32) : (writeWord word).length = 4 :=
  write_length 4 word.toNat

/-- What was written spells the number, up to the bytes there was room for. -/
theorem value_write (count number : Nat) : value (write count number) = number % 256 ^ count := by
  -- The first byte is the remainder, and the others spell the quotient.
  induction count generalizing number with
  | zero => simp [write, value, Nat.mod_one]
  | succ count ih =>
    have low : (UInt8.ofNat number).toNat = number % 256 := by simp
    rw [write, value, ih, low, Nat.pow_succ', Nat.mod_mul]

/-- Any bytes are written again from the number they spell. -/
theorem write_value (bytes : List UInt8) : write bytes.length (value bytes) = bytes := by
  -- The lowest byte is the first one, and a shift by it leaves the number of the others.
  induction bytes with
  | nil => rfl
  | cons byte rest ih =>
    have small := byte.toNat_lt
    have low : UInt8.ofNat (byte.toNat + 256 * value rest) = byte := by
      apply UInt8.toNat_inj.mp
      simp only [UInt8.toNat_ofNat']
      omega
    have high : (byte.toNat + 256 * value rest) / 256 = value rest := by omega
    rw [List.length_cons, value, write, low, high, ih]

/-- A word that stands at the start of a byte string is read back. -/
@[simp] theorem readWord_append (word : UInt32) (rest : List UInt8) :
    readWord (writeWord word ++ rest) = word := by
  have small := word.toNat_lt
  rw [readWord, List.take_left' (writeWord_length word), writeWord, value_write]
  -- A word has no bits beyond the four bytes.
  apply UInt32.toNat_inj.mp
  have room : word.toNat % 256 ^ 4 = word.toNat := Nat.mod_eq_of_lt small
  rw [UInt32.toNat_ofNat', room]
  exact Nat.mod_eq_of_lt small

/-- The first four bytes are those of the word read from them. -/
theorem writeWord_readWord {bytes : List UInt8} (long : 4 ≤ bytes.length) :
    writeWord (readWord bytes) = bytes.take 4 := by
  have four : (bytes.take 4).length = 4 := by
    rw [List.length_take]
    omega
  have spelled := write_value (bytes.take 4)
  rw [four] at spelled
  -- Four bytes spell a number that a word can hold.
  have small : value (bytes.take 4) < 2 ^ 32 := by
    have reduced := value_write 4 (value (bytes.take 4))
    rw [spelled] at reduced
    rw [reduced]
    exact Nat.mod_lt _ (by decide)
  rw [writeWord, readWord, UInt32.toNat_ofNat', Nat.mod_eq_of_lt small]
  exact spelled

end LittleEndian
