import Mathlib.Algebra.Group.Nat.Defs
import Mathlib.Logic.Function.Iterate
import Mathlib.Tactic.Common

/-! Cyclic redundancy checks over 32 bits, the lowest bit first: they are linear, and tell apart what
differs in a part whose difference they do not divide. -/

namespace Crc

/-- One bit is divided by a polynomial. -/
def bitStep (poly reg : UInt32) : UInt32 :=
  if reg &&& 1 = 1 then (reg >>> 1) ^^^ poly else reg >>> 1

/-- One byte enters the register. -/
def byteStep (poly reg : UInt32) (byte : UInt8) : UInt32 :=
  (bitStep poly)^[8] (reg ^^^ byte.toUInt32)

/-- The register after some bytes. -/
def register (poly reg : UInt32) (data : List UInt8) : UInt32 := data.foldl (byteStep poly) reg

/-- The polynomial of the Ethernet checksum. -/
abbrev ieee : UInt32 := 0xEDB88320

/-- The checksum over further bytes, from the checksum so far; in the register all bits are turned. -/
def crc32Le (crc : UInt32) (data : List UInt8) : UInt32 := ~~~register ieee (~~~crc) data

variable {poly : UInt32}

/-- The lowest bit is clear or set. -/
theorem and_one (reg : UInt32) : reg &&& 1 = 0 ∨ reg &&& 1 = 1 := by
  have bit : (reg &&& 1).toNat = reg.toNat % 2 := by
    rw [UInt32.toNat_and]
    exact Nat.and_one_is_mod _
  rcases Nat.mod_two_eq_zero_or_one reg.toNat with even | odd
  · exact .inl (UInt32.toNat_inj.mp (bit.trans even))
  · exact .inr (UInt32.toNat_inj.mp (bit.trans odd))

/-- The lowest bit of a sum. -/
theorem xor_and_one (a b : UInt32) : (a ^^^ b) &&& 1 = (a &&& 1) ^^^ (b &&& 1) := by
  rw [← UInt32.toBitVec_inj]
  simp only [UInt32.toBitVec_and, UInt32.toBitVec_xor]
  ext i
  simp [Bool.and_xor_distrib_right]

/-- The division of a bit is linear. -/
theorem bitStep_xor (a b : UInt32) :
    bitStep poly (a ^^^ b) = bitStep poly a ^^^ bitStep poly b := by
  unfold bitStep
  rw [xor_and_one, UInt32.shiftRight_xor]
  -- The polynomial is added where the lowest bit is set.
  rcases and_one a with evenA | oddA <;> rcases and_one b with evenB | oddB
  · simp [evenA, evenB]
  · simp [evenA, oddB, UInt32.xor_assoc]
  · simp [oddA, evenB]
    ac_rfl
  · -- The polynomial is added twice, which is not at all.
    have twice : a >>> 1 ^^^ poly ^^^ (b >>> 1 ^^^ poly) =
        a >>> 1 ^^^ b >>> 1 ^^^ (poly ^^^ poly) := by ac_rfl
    simp [oddA, oddB, twice]

/-- So is the division of any number of bits. -/
theorem iterate_bitStep_xor (n : Nat) (a b : UInt32) :
    (bitStep poly)^[n] (a ^^^ b) = (bitStep poly)^[n] a ^^^ (bitStep poly)^[n] b := by
  induction n generalizing a b with
  | zero => rfl
  | succ n ih => simp only [Function.iterate_succ_apply, bitStep_xor, ih]

/-- A byte enters the register linearly. -/
theorem byteStep_xor (a b : UInt32) (x y : UInt8) :
    byteStep poly (a ^^^ b) (x ^^^ y) = byteStep poly a x ^^^ byteStep poly b y := by
  have grouped : a ^^^ b ^^^ (x.toUInt32 ^^^ y.toUInt32) =
      (a ^^^ x.toUInt32) ^^^ (b ^^^ y.toUInt32) := by ac_rfl
  unfold byteStep
  rw [UInt8.toUInt32_xor, grouped, iterate_bitStep_xor]

@[simp] theorem register_nil (reg : UInt32) : register poly reg [] = reg := rfl

@[simp] theorem register_cons (reg : UInt32) (byte : UInt8) (rest : List UInt8) :
    register poly reg (byte :: rest) = register poly (byteStep poly reg byte) rest := rfl

/-- The register after two parts. -/
theorem register_append (reg : UInt32) (first second : List UInt8) :
    register poly reg (first ++ second) = register poly (register poly reg first) second :=
  List.foldl_append

/-- The register is linear in what it starts with and in the bytes. -/
theorem register_xor (a b : UInt32) {first second : List UInt8}
    (lengths : first.length = second.length) :
    register poly (a ^^^ b) (List.zipWith (· ^^^ ·) first second) =
      register poly a first ^^^ register poly b second := by
  -- Both registers take in their bytes in step.
  induction first generalizing a b second with
  | nil =>
    cases second with
    | nil => rfl
    | cons => cases lengths
  | cons x first ih =>
    cases second with
    | nil => cases lengths
    | cons y second =>
      rw [List.zipWith_cons_cons, register_cons, byteStep_xor, ih _ _ (Nat.succ.inj lengths)]
      rfl

/-- With a polynomial of full degree no bit that is divided leaves a register empty. -/
theorem bitStep_eq_zero (full : 2 ^ 31 ≤ poly.toNat) {reg : UInt32} (empty : bitStep poly reg = 0) :
    reg = 0 := by
  have half : (reg >>> 1).toNat = reg.toNat / 2 := by
    rw [UInt32.toNat_shiftRight]
    exact Nat.shiftRight_eq_div_pow _ _
  have small := reg.toNat_lt
  unfold bitStep at empty
  rcases and_one reg with even | odd
  · -- Nothing was added, so the upper bits are clear as well.
    rw [even, if_neg (by decide)] at empty
    have bit := congrArg UInt32.toNat even
    rw [UInt32.toNat_and] at bit
    have bit : reg.toNat % 2 = 0 := (Nat.and_one_is_mod _).symm.trans bit
    rw [empty] at half
    have none : 0 = reg.toNat / 2 := half
    exact UInt32.toNat_inj.mp (show reg.toNat = 0 by omega)
  · -- What is left of the register is below the polynomial's highest bit.
    rw [odd, if_pos rfl, UInt32.xor_eq_zero_iff] at empty
    rw [empty] at half
    omega

/-- Registers that some bytes make the same were the same. -/
theorem register_injective (full : 2 ^ 31 ≤ poly.toNat) (data : List UInt8) {a b : UInt32}
    (same : register poly a data = register poly b data) : a = b := by
  have bits : ∀ n reg, (bitStep poly)^[n] reg = 0 → reg = 0 := by
    intro n
    induction n with
    | zero => exact fun _ empty => empty
    | succ n ih =>
      intro reg empty
      rw [Function.iterate_succ_apply] at empty
      exact bitStep_eq_zero full (ih _ empty)
  -- The last byte is taken back first.
  induction data generalizing a b with
  | nil => exact same
  | cons byte rest ih =>
    have step := ih same
    unfold byteStep at step
    rw [← UInt32.xor_eq_zero_iff, ← iterate_bitStep_xor] at step
    have equal := bits 8 _ step
    rwa [UInt32.xor_eq_zero_iff, UInt32.xor_left_inj] at equal

/-- Bytes with a common front and end have the same register exactly when the register of their
difference is empty. -/
theorem register_eq_iff (full : 2 ^ 31 ≤ poly.toNat) (reg : UInt32)
    {front first second back : List UInt8} (lengths : first.length = second.length) :
    register poly reg (front ++ first ++ back) = register poly reg (front ++ second ++ back) ↔
      register poly 0 (List.zipWith (· ^^^ ·) first second) = 0 := by
  have difference : register poly (register poly reg front ^^^ register poly reg front) _ = _ :=
    register_xor _ _ lengths
  rw [UInt32.xor_self] at difference
  rw [difference, UInt32.xor_eq_zero_iff, register_append, register_append, register_append,
    register_append]
  constructor
  · exact register_injective full back
  · intro same
    rw [same]

end Crc
