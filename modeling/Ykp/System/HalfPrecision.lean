import Mathlib.Data.Nat.Bitwise
import Ykp.Backend.Reports
import Ykp.Codec.TlvReaders
import Ykp.Foundation.BinaryFloat

/-! Half-precision numbers: what the device and the server read from what the device wrote. -/

namespace Ykp.System

open BigEndian Backend BinaryFloat

/-- The format of the firmware's numbers, and the one they are sent in. -/
def single : Format := ⟨8, 23⟩

def half : Format := ⟨5, 10⟩

/-- The server's value of a half-precision pattern, in exact arithmetic: every step is exact in the
double-precision numbers that the server computes with. -/
def decodeFloat16Exact (binary : Nat) : Number :=
  let exponent := (binary &&& 0x7C00) >>> 10
  let fraction := binary &&& 0x03FF
  let negative := binary &&& 0x8000 ≠ 0
  if exponent = 0 then .finite negative (1 / 2 ^ 14 * (fraction / 1024))
  else if exponent = 0x1F then if fraction ≠ 0 then .nan else .finite negative (1 / 2 ^ 15)
  else .finite negative ((2 : ℚ) ^ ((exponent : Int) - 15) * (1 + fraction / 1024))

/-- The fields of a half-precision pattern, by masks and by division. -/
theorem halfFields (pattern : Nat) :
    pattern &&& 0x8000 = pattern / 32768 % 2 * 32768 ∧
      (pattern &&& 0x7C00) >>> 10 = pattern / 1024 % 32 ∧ pattern &&& 0x03FF = pattern % 1024 := by
  refine ⟨?_, ?_, Nat.and_two_pow_sub_one_eq_mod pattern 10⟩
  · have bit := Nat.and_two_pow pattern 15
    rw [Nat.testBit_eq_decide_div_mod_eq] at bit
    refine bit.trans ?_
    rcases Nat.mod_two_eq_zero_or_one (pattern / 32768) with clear | set
    · simp [clear]
    · simp [set]
  · rw [Nat.shiftRight_and_distrib, Nat.shiftRight_eq_div_pow]
    exact Nat.and_two_pow_sub_one_eq_mod _ 5

/-- Bits below and above a position are put together by addition. -/
theorem mul_two_pow_or {low : Nat} (bits : Nat) (small : low < 2 ^ bits) (high : Nat) :
    high * 2 ^ bits ||| low = high * 2 ^ bits + low := by
  rw [Nat.mul_comm, Nat.two_pow_add_eq_or_of_lt small]

/-- The encoder's result without the sign, for the fields of a finite number. -/
def halfMagnitude (biased mantissa : Nat) : Nat :=
  if biased < 102 then 0
  else if biased ≤ 112 then (8388608 + mantissa) / 2 ^ (126 - biased)
  else if biased < 143 then (biased - 112) * 1024 + mantissa / 8192
  else 0x7C00

/-- It leaves room for the sign, and is the pattern of infinity exactly from 65536 on. -/
theorem halfMagnitude_le {biased mantissa : Nat} (small : mantissa < 8388608) :
    halfMagnitude biased mantissa ≤ 0x7C00 ∧
      (halfMagnitude biased mantissa = 0x7C00 ↔ 143 ≤ biased) := by
  unfold halfMagnitude
  split_ifs with zero least normal
  · exact ⟨by omega, iff_of_false (by decide) (by omega)⟩
  · -- At least fourteen bits are shifted out.
    have shifted : (8388608 + mantissa) / 2 ^ (126 - biased) ≤ (8388608 + mantissa) / 2 ^ 14 :=
      Nat.div_le_div_left (Nat.pow_le_pow_right (by omega) (by omega)) (by omega)
    omega
  · omega
  · exact ⟨Nat.le_refl _, iff_of_true rfl (by omega)⟩

/-- The encoder puts the sign in front of it. -/
theorem float32ToFloat16_eq {f : Nat} (pattern : f < 2 ^ 32) (finite : f / 8388608 % 256 ≠ 255) :
    float32ToFloat16 f =
      f / 2147483648 * 32768 + halfMagnitude (f / 8388608 % 256) (f % 8388608) := by
  have sign : f / 65536 &&& 0x8000 = f / 2147483648 * 2 ^ 15 := by
    rw [(halfFields _).1]
    omega
  have mantissa : f % 8388608 < 8388608 := Nat.mod_lt _ (by omega)
  have joined (low : Nat) (small : low < 2 ^ 15) := mul_two_pow_or 15 small (f / 2147483648)
  have leading : f % 8388608 ||| 0x00800000 = 8388608 + f % 8388608 := by
    have or := mul_two_pow_or 23 mantissa 1
    rw [Nat.or_comm]
    exact or
  unfold float32ToFloat16 halfMagnitude
  simp only [sign, finite, if_false]
  generalize f % 8388608 = m at *
  generalize f / 8388608 % 256 = e at *
  -- Zeros and everything below the least step keep the sign only; three ranges are left.
  split_ifs
  all_goals try omega
  · exact joined 0x7C00 (by omega)
  · rename_i beyond _ least tiny
    rw [leading, Nat.shiftRight_eq_div_pow, Nat.shiftRight_eq_div_pow, Nat.div_div_eq_div_mul,
      ← Nat.pow_add]
    have width : 1 + 112 - e + 13 = 126 - e := by omega
    rw [width]
    have bound := (@halfMagnitude_le e m mantissa).1
    rw [halfMagnitude, if_neg tiny, if_pos least] at bound
    exact joined _ (by omega)
  · rename_i beyond _ _ normal
    rw [Nat.or_assoc, Nat.shiftLeft_eq, Nat.shiftRight_eq_div_pow,
      mul_two_pow_or 10 (by omega) (e - 112)]
    exact joined _ (by omega)

/-- What a single-precision pattern stands for. -/
theorem single_value {f : Nat} (pattern : f < 2 ^ 32) (finite : f / 8388608 % 256 ≠ 255) :
    single.value f =
      .finite (f / 2147483648 == 1) (single.size (f % 2147483648)) := by
  have low : single.magnitudeOf f = f % 2147483648 := rfl
  have high : single.negativeOf f = (f / 2147483648 == 1) := by
    show (f / 2147483648 % 2 == 1) = (f / 2147483648 == 1)
    rw [show f / 2147483648 % 2 = f / 2147483648 by omega]
  have infinity : single.infinity = 255 * 8388608 := rfl
  have below : f % 2147483648 < 255 * 8388608 := by omega
  simp only [Format.value, low, high, infinity, below, if_true]

/-- The size of a half-precision pattern in the least steps of single precision. -/
theorem half_size (magnitude : Nat) :
    half.size magnitude = (half.units magnitude * 2 ^ 125 : Nat) / single.scale := by
  have scales : (single.scale : ℚ) = half.scale * 2 ^ 125 := by
    norm_num [single, half, Format.scale, Format.bias]
  have positive : (0 : ℚ) < half.scale := Format.scale_pos
  rw [Format.size, scales, Nat.cast_mul, Nat.cast_pow, Nat.cast_ofNat,
    mul_div_mul_right _ _ (by positivity)]

/-- Numbers in the least steps of single precision are compared by their counts. -/
theorem steps_lt_iff (first second : Nat) :
    (first : ℚ) / single.scale < second / single.scale ↔ first < second := by
  rw [div_lt_div_iff_of_pos_right Format.scale_pos, Nat.cast_lt]

/-- The units of a half-precision pattern that is put together from its fields, and those of the next
one. -/
theorem half_units {exponent fraction : Nat} (small : fraction < 1024) :
    half.units (exponent * 1024 + fraction) =
        (if exponent = 0 then fraction else (1024 + fraction) * 2 ^ (exponent - 1)) ∧
      half.units (exponent * 1024 + fraction + 1) =
        half.units (exponent * 1024 + fraction) + 2 ^ (exponent - 1) :=
  ⟨@Format.units_fields half exponent fraction small,
    @Format.units_succ half exponent fraction small⟩

/-- The units of a single-precision pattern. -/
theorem single_units {exponent fraction : Nat} (small : fraction < 8388608) :
    single.units (exponent * 8388608 + fraction) =
      if exponent = 0 then fraction else (8388608 + fraction) * 2 ^ (exponent - 1) :=
  @Format.units_fields single exponent fraction small

/-- A quotient and its successor enclose a number in the unit of its divisor. -/
theorem quotient_brackets (number : Nat) {divisor step : Nat} (positive : 0 < divisor)
    (some : 0 < step) :
    number / divisor * (divisor * step) ≤ number * step ∧
      number * step < (number / divisor + 1) * (divisor * step) := by
  constructor
  · rw [← Nat.mul_assoc]
    exact Nat.mul_le_mul_right step (Nat.div_mul_le_self number divisor)
  · rw [← Nat.mul_assoc]
    exact Nat.mul_lt_mul_of_pos_right (Nat.lt_mul_of_div_lt (Nat.lt_succ_self _) positive) some

/-- Below the least normal pattern a pattern counts its own units, and so does that pattern. -/
theorem half_units_least {magnitude : Nat} (small : magnitude < 1024) :
    half.units magnitude = magnitude ∧ half.units (magnitude + 1) = magnitude + 1 := by
  have fields := @half_units 0 magnitude small
  simp only [Nat.zero_mul, Nat.zero_add, if_true, Nat.zero_sub, Nat.pow_zero] at fields
  exact ⟨fields.1, fields.2.trans (congrArg (· + 1) fields.1)⟩

/-- The encoder's result stands for at most the number it was given, and the next pattern for more,
as long as that is below 65536. -/
theorem halfMagnitude_brackets {biased mantissa : Nat} (small : mantissa < 8388608)
    (below : biased < 143) :
    half.units (halfMagnitude biased mantissa) * 2 ^ 125 ≤
        single.units (biased * 8388608 + mantissa) ∧
      single.units (biased * 8388608 + mantissa) <
        half.units (halfMagnitude biased mantissa + 1) * 2 ^ 125 := by
  rw [single_units small]
  by_cases tiny : biased < 102
  · -- The result is zero, and the number less than the least step.
    have zero : halfMagnitude biased mantissa = 0 := if_pos tiny
    have power : 2 ^ (biased - 1) ≤ 2 ^ 100 := Nat.pow_le_pow_right (by omega) (by omega)
    have bound := Nat.mul_le_mul_left (8388608 + mantissa) power
    rw [zero, (half_units_least (by omega)).1, (half_units_least (by omega)).2]
    split <;> omega
  rw [if_neg (by omega)]
  by_cases least : biased ≤ 112
  · -- The result is the number of least steps.
    have steps : halfMagnitude biased mantissa = (8388608 + mantissa) / 2 ^ (126 - biased) := by
      rw [halfMagnitude, if_neg tiny, if_pos least]
    have shifted : (8388608 + mantissa) / 2 ^ (126 - biased) ≤ (8388608 + mantissa) / 2 ^ 14 :=
      Nat.div_le_div_left (Nat.pow_le_pow_right (by omega) (by omega)) (by omega)
    have unit : 2 ^ 125 = 2 ^ (126 - biased) * 2 ^ (biased - 1) := by
      rw [← Nat.pow_add]
      congr 1
      omega
    rw [steps, (half_units_least (by omega)).1, (half_units_least (by omega)).2, unit]
    exact quotient_brackets _ (Nat.two_pow_pos _) (Nat.two_pow_pos _)
  · -- The result keeps the upper ten bits of the fraction.
    have fields : halfMagnitude biased mantissa = (biased - 112) * 1024 + mantissa / 8192 := by
      rw [halfMagnitude, if_neg tiny, if_neg least, if_pos below]
    have unit : 2 ^ (biased - 112 - 1) * 2 ^ 125 = 8192 * 2 ^ (biased - 1) := by
      rw [← Nat.pow_add, show 8192 = 2 ^ 13 from rfl, ← Nat.pow_add]
      congr 1
      omega
    obtain ⟨here, next⟩ := @half_units (biased - 112) (mantissa / 8192) (by omega)
    have upper : (8388608 + mantissa) / 8192 = 1024 + mantissa / 8192 := by omega
    rw [fields, next, here, if_neg (by omega), ← Nat.add_one_mul, Nat.mul_assoc, Nat.mul_assoc, unit,
      ← upper]
    exact quotient_brackets _ (by omega) (Nat.two_pow_pos _)

/-- A number below 2048 has the eleventh bit exactly when it is at least 1024. -/
theorem leadingBit_iff {mantissa : Nat} (small : mantissa < 2048) :
    mantissa &&& 0x0400 ≠ 0 ↔ 1024 ≤ mantissa := by
  have bit := Nat.and_two_pow mantissa 10
  have bit : mantissa &&& 0x0400 = (mantissa.testBit 10).toNat * 1024 := bit
  rw [bit, Nat.testBit_eq_decide_div_mod_eq]
  by_cases set : mantissa / 1024 % 2 = 1
  · simp [set]
    omega
  · simp [set]
    omega

/-- The loop ends when the leading bit of the fraction stands in front of the field. -/
theorem normaliseFraction_eq {mantissa exponent : Nat} (fuel : Nat) (small : mantissa < 2048)
    (enough : 1024 ≤ mantissa * 2 ^ fuel) :
    ∃ shifts ≤ fuel, normaliseFraction (fuel + 1) mantissa exponent =
        some (mantissa * 2 ^ shifts, exponent - shifts) ∧
      1024 ≤ mantissa * 2 ^ shifts ∧ mantissa * 2 ^ shifts < 2048 := by
  -- Every unit of fuel doubles the fraction, unless it is long enough already.
  induction fuel generalizing mantissa exponent with
  | zero =>
    rw [Nat.pow_zero, Nat.mul_one] at enough
    refine ⟨0, Nat.le_refl _, ?_, by omega, by omega⟩
    rw [normaliseFraction, if_pos ((leadingBit_iff small).mpr enough), Nat.pow_zero, Nat.mul_one,
      Nat.sub_zero]
  | succ fuel ih =>
    by_cases long : 1024 ≤ mantissa
    · refine ⟨0, Nat.zero_le _, ?_, by omega, by omega⟩
      rw [normaliseFraction, if_pos ((leadingBit_iff small).mpr long), Nat.pow_zero, Nat.mul_one,
        Nat.sub_zero]
    · have double : mantissa * 2 ^ (fuel + 1) = mantissa * 2 * 2 ^ fuel := by
        rw [Nat.pow_succ', Nat.mul_assoc]
      obtain ⟨shifts, within, ended, lower, upper⟩ :=
        @ih (mantissa * 2) (exponent - 1) (by omega) (double ▸ enough)
      have total : mantissa * 2 ^ (shifts + 1) = mantissa * 2 * 2 ^ shifts := by
        rw [Nat.pow_succ', Nat.mul_assoc]
      refine ⟨shifts + 1, by omega, ?_, by omega, by omega⟩
      rw [normaliseFraction, if_neg (mt (leadingBit_iff small).mp long), Nat.shiftLeft_eq,
        Nat.pow_one, ended, total, Nat.sub_sub, Nat.add_comm 1 shifts]

/-- A finite single-precision pattern that is put together from its fields. -/
theorem single_value_fields {negative exponent fraction : Nat} (sign : negative < 2)
    (finite : exponent < 255) (small : fraction < 8388608) :
    single.value ((negative * 32768) <<< 16 ||| exponent <<< 23 ||| fraction) =
      .finite (negative == 1)
        (single.units (exponent * 8388608 + fraction) / single.scale) := by
  have bits : (negative * 32768) <<< 16 ||| exponent <<< 23 ||| fraction =
      negative * 2 ^ 31 + (exponent * 2 ^ 23 + fraction) := by
    have place : (negative * 32768) <<< 16 = negative * 2 ^ 31 := by
      rw [Nat.shiftLeft_eq]
      omega
    rw [Nat.or_assoc, Nat.shiftLeft_eq exponent, mul_two_pow_or 23 small, place,
      mul_two_pow_or 31 (by omega)]
  rw [bits, single_value (by omega) (by omega),
    show (negative * 2 ^ 31 + (exponent * 2 ^ 23 + fraction)) / 2147483648 = negative by omega,
    show (negative * 2 ^ 31 + (exponent * 2 ^ 23 + fraction)) % 2147483648 =
      exponent * 8388608 + fraction by omega]
  rfl

/-- The fields of a pattern that is put together from its sign and its magnitude. -/
theorem signedFields {negative magnitude : Nat} (sign : negative < 2) (small : magnitude < 32768) :
    negative * 32768 + magnitude &&& 0x8000 = negative * 32768 ∧
      (negative * 32768 + magnitude &&& 0x7C00) >>> 10 = magnitude / 1024 ∧
      negative * 32768 + magnitude &&& 0x03FF = magnitude % 1024 := by
  obtain ⟨signBit, exponentBits, fractionBits⟩ := halfFields (negative * 32768 + magnitude)
  rw [signBit, exponentBits, fractionBits]
  omega

/-- The units of a half-precision pattern by its fields. -/
theorem half_units_fields (magnitude : Nat) :
    half.units magnitude =
      if magnitude / 1024 = 0 then magnitude % 1024
      else (1024 + magnitude % 1024) * 2 ^ (magnitude / 1024 - 1) := by
  have units := (@half_units (magnitude / 1024) (magnitude % 1024) (by omega)).1
  rwa [Nat.div_add_mod' magnitude 1024] at units

/-- A fraction whose leading bit was moved in front of the field counts half of the steps that it
counted before. -/
theorem normalised_steps {fraction shifts : Nat} (within : shifts ≤ 10)
    (lower : 1024 ≤ fraction * 2 ^ shifts) :
    (8388608 + (fraction * 2 ^ shifts - 1024) * 2 ^ 13) * 2 ^ (127 - 15 - shifts - 1) =
      fraction * 2 ^ 124 := by
  have whole : 8388608 + (fraction * 2 ^ shifts - 1024) * 2 ^ 13 = fraction * 2 ^ shifts * 2 ^ 13 := by
    omega
  have power : 2 ^ shifts * 2 ^ 13 * 2 ^ (127 - 15 - shifts - 1) = 2 ^ 124 := by
    rw [← Nat.pow_add, ← Nat.pow_add,
      show shifts + 13 + (127 - 15 - shifts - 1) = 124 by omega]
  rw [whole, ← power]
  ring

/-- What the device reads from a half-precision pattern: half of a subnormal number, and every other
one exactly. -/
theorem float16ToFloat32_value {negative magnitude : Nat} (sign : negative < 2)
    (small : magnitude ≤ 0x7C00) :
    ∃ f32, float16ToFloat32 (negative * 32768 + magnitude) = some f32 ∧
      single.value f32 =
        if magnitude = 0x7C00 then .infinite (negative == 1)
        else if 0 < magnitude ∧ magnitude < 1024 then
          .finite (negative == 1) (half.size magnitude / 2)
        else .finite (negative == 1) (half.size magnitude) := by
  obtain ⟨signBit, exponentBits, fractionBits⟩ := @signedFields _ magnitude sign (by omega)
  have units := half_units_fields magnitude
  unfold float16ToFloat32
  simp only [signBit, exponentBits, fractionBits]
  by_cases least : magnitude / 1024 = 0
  · rw [if_pos least] at units ⊢
    by_cases zero : magnitude % 1024 = 0
    · -- Zero keeps its sign.
      have value := @single_value_fields negative 0 0 sign (by omega) (by omega)
      rw [Nat.zero_shiftLeft, Nat.or_zero, Nat.or_zero] at value
      refine ⟨_, if_pos zero, ?_⟩
      rw [value, if_neg (by omega), if_neg (by omega), half_size, units, zero,
        single_units (by omega), if_pos rfl, Nat.zero_mul]
    · -- The loop starts from an exponent that is one too low.
      obtain ⟨shifts, within, ended, lower, upper⟩ := @normaliseFraction_eq (magnitude % 1024)
        (127 - 15) 10 (by omega) (by omega)
      have fraction : magnitude % 1024 * 2 ^ shifts &&& 0x03FF =
          magnitude % 1024 * 2 ^ shifts - 1024 := by
        rw [(halfFields _).2.2]
        omega
      rw [if_neg zero, ended, Option.map_some]
      have halved : ((magnitude % 1024 * 2 ^ 124 : Nat) : ℚ) / single.scale =
          (magnitude % 1024 * 2 ^ 125 : Nat) / single.scale / 2 := by
        push_cast
        ring
      refine ⟨_, rfl, ?_⟩
      dsimp only
      rw [fraction, Nat.shiftLeft_eq _ 13, single_value_fields sign (by omega) (by omega),
        if_neg (by omega), if_pos (by omega), half_size, units, single_units (by omega),
        if_neg (by omega), normalised_steps within lower, halved]
  · rw [if_neg least] at units ⊢
    by_cases infinite : magnitude = 0x7C00
    · refine ⟨_, if_pos (by omega), ?_⟩
      rw [if_pos infinite]
      -- The pattern of infinity has no fraction.
      obtain rfl | rfl : negative = 0 ∨ negative = 1 := by omega
      · rw [infinite]
        rfl
      · rw [infinite]
        rfl
    · have steps : (8388608 + magnitude % 1024 * 2 ^ 13) * 2 ^ (magnitude / 1024 + 127 - 15 - 1) =
          (1024 + magnitude % 1024) * 2 ^ (magnitude / 1024 - 1) * 2 ^ 125 := by
        have exponent : magnitude / 1024 + 127 - 15 - 1 = magnitude / 1024 - 1 + 112 := by omega
        rw [exponent, Nat.pow_add]
        ring
      refine ⟨_, if_neg (by omega), ?_⟩
      rw [Nat.shiftLeft_eq _ 13, single_value_fields sign (by omega) (by omega), if_neg infinite,
        if_neg (by omega), half_size, units, single_units (by omega), if_neg (by omega), steps]

/-- What the server reads: a small number instead of an infinity, and every other one exactly. -/
theorem decodeFloat16Exact_value {negative magnitude : Nat} (sign : negative < 2)
    (small : magnitude ≤ 0x7C00) :
    decodeFloat16Exact (negative * 32768 + magnitude) =
      if magnitude = 0x7C00 then .finite (negative == 1) (1 / 2 ^ 15)
      else .finite (negative == 1) (half.size magnitude) := by
  obtain ⟨signBit, exponentBits, fractionBits⟩ := @signedFields _ magnitude sign (by omega)
  have signed : decide (negative * 32768 ≠ 0) = (negative == 1) := by
    rw [Bool.eq_iff_iff, decide_eq_true_eq, beq_iff_eq]
    omega
  have units := half_units_fields magnitude
  have scale : (half.scale : ℚ) = 2 ^ 24 := by
    norm_num [half, Format.scale, Format.bias]
  simp only [decodeFloat16Exact, signBit, exponentBits, fractionBits, signed, Format.size, units,
    scale]
  -- Subnormal numbers, the infinity and normal numbers.
  by_cases least : magnitude / 1024 = 0
  · rw [if_pos least, if_pos least, if_neg (by omega)]
    congr 1
    norm_num
    ring
  rw [if_neg least, if_neg least]
  by_cases infinite : magnitude = 0x7C00
  · rw [if_pos infinite, infinite]
    norm_num
  · rw [if_neg infinite, if_neg (by omega)]
    congr 1
    obtain ⟨exponent, same⟩ : ∃ exponent, magnitude / 1024 = exponent + 1 :=
      ⟨magnitude / 1024 - 1, by omega⟩
    rw [same, Nat.add_sub_cancel]
    have power : (2 : ℚ) ^ (((exponent + 1 : Nat) : Int) - 15) = 2 ^ exponent / 2 ^ 14 := by
      have less : ((exponent + 1 : Nat) : Int) - 15 = (exponent : Int) - (14 : Nat) := by omega
      rw [less, zpow_sub₀ (by norm_num), zpow_natCast, zpow_natCast]
    rw [power]
    push_cast
    ring

/-- Rounding a magnitude toward zero to half precision: from 65536 on to the infinity, else to the
greatest magnitude of the format that is not beyond it. -/
def RoundsTo (negative : Bool) (magnitude : ℚ) (number : Number) : Prop :=
  if 65536 ≤ magnitude then number = .infinite negative
  else ∃ rounded, IsGreatest {other | half.Representable other ∧ other ≤ magnitude} rounded ∧
    number = .finite negative rounded

/-- Wherever the field of a number stands, the device and the server read the same from it: the number
rounded toward zero to half precision. -/
def HalfAgrees (x : UInt32) (negative : Bool) (magnitude : ℚ) : Prop :=
  ∀ buf tlv, readBytes buf tlv.start tlv.length = (floatItem x.toNat).bytes →
    ∃ f32 number, ykpTlvReadFloat buf tlv = some f32 ∧ single.value f32 = number ∧
      decodeFloat16Exact (float32ToFloat16 x.toNat) = number ∧ RoundsTo negative magnitude number

/-- The device finds the pattern that its encoder wrote. -/
theorem ykpTlvReadFloat_written {buf : Memory} {tlv : YkpTlv} {f : Nat}
    (written : readBytes buf tlv.start tlv.length = (floatItem f).bytes)
    (small : float32ToFloat16 f < 65536) :
    ykpTlvReadFloat buf tlv = float16ToFloat32 (float32ToFloat16 f) := by
  obtain ⟨head, length, behind⟩ := readBytes_eq_cons
    (show readBytes buf tlv.start tlv.length = 0xF9 :: writeU16 (float32ToFloat16 f) from written)
  have word := readU16_of_readBytes behind
  rw [Nat.mod_eq_of_lt small] at word
  rw [ykpTlvReadFloat, if_neg (by omega), if_pos head, word]

/-- The sizes at which the ranges of the format begin. -/
theorem half_bounds :
    half.size 1 = 1 / 2 ^ 24 ∧ half.size 1024 = 1 / 2 ^ 14 ∧ half.size 0x7C00 = 65536 := by
  norm_num [half, Format.size, Format.units, Format.scale, Format.bias]

/-- A number with a finite value, taken apart. -/
structure Taken (f : Nat) (negative : Bool) (magnitude : ℚ) : Prop where
  finite : f / 8388608 % 256 ≠ 255
  sign : negative = (f / 2147483648 == 1)
  size : magnitude = single.units (f / 8388608 % 256 * 8388608 + f % 8388608) / single.scale

/-- Every finite number can be taken apart. -/
theorem taken_of_value {f : Nat} (pattern : f < 2 ^ 32) {negative : Bool} {magnitude : ℚ}
    (value : single.value f = .finite negative magnitude) : Taken f negative magnitude := by
  have finite : f / 8388608 % 256 ≠ 255 := by
    intro beyond
    have infinity : ¬ single.magnitudeOf f < single.infinity := by
      show ¬ f % 2147483648 < 255 * 8388608
      omega
    rw [Format.value, if_neg infinity] at value
    split at value <;> cases value
  rw [single_value pattern finite] at value
  obtain ⟨sign, size⟩ := Number.finite.inj value
  refine ⟨finite, sign.symm, ?_⟩
  rw [← size, show f % 2147483648 = f / 8388608 % 256 * 8388608 + f % 8388608 by omega]
  rfl

/-- The bits that the encoder writes are those of the infinity from 65536 on, and else of the last
number that is not beyond the one it was given. -/
theorem float32ToFloat16_rounds {f : Nat} {negative : Bool} {magnitude : ℚ}
    (taken : Taken f negative magnitude) :
    let written := halfMagnitude (f / 8388608 % 256) (f % 8388608)
    (65536 ≤ magnitude ↔ written = 0x7C00) ∧
      (written < 0x7C00 → half.size written ≤ magnitude ∧ magnitude < half.size (written + 1)) := by
  intro written
  have mantissa : f % 8388608 < 8388608 := Nat.mod_lt _ (by omega)
  obtain ⟨-, overflow⟩ := @halfMagnitude_le (f / 8388608 % 256) _ mantissa
  by_cases below : f / 8388608 % 256 < 143
  · obtain ⟨lower, upper⟩ := halfMagnitude_brackets mantissa below
    have least : half.size written ≤ magnitude := by
      rw [half_size, taken.size, ← not_lt, steps_lt_iff]
      exact Nat.not_lt.mpr lower
    have next : magnitude < half.size (written + 1) := by
      rw [half_size, taken.size, steps_lt_iff]
      exact upper
    refine ⟨⟨fun great => ?_, fun infinite => absurd (overflow.mp infinite) (by omega)⟩,
      fun _ => ⟨least, next⟩⟩
    -- The next pattern is at most that of 65536.
    by_contra finite
    have bound : half.size (written + 1) ≤ half.size 0x7C00 := by
      apply Format.size_strictMono.monotone
      have small : written ≤ 0x7C00 := (halfMagnitude_le mantissa).1
      omega
    rw [half_bounds.2.2] at bound
    exact absurd (great.trans_lt (next.trans_le bound)) (lt_irrefl _)
  · have infinite : written = 0x7C00 := overflow.mpr (by omega)
    refine ⟨⟨fun _ => infinite, fun _ => ?_⟩, fun finite => absurd infinite (by omega)⟩
    have great : half.units 0x7C00 * 2 ^ 125 ≤
        single.units (f / 8388608 % 256 * 8388608 + f % 8388608) := by
      have threshold : half.units 0x7C00 * 2 ^ 125 = 8388608 * 2 ^ 142 := by rfl
      rw [single_units mantissa, if_neg (by omega), threshold]
      exact Nat.mul_le_mul (by omega) (Nat.pow_le_pow_right (by omega) (by omega))
    rw [← half_bounds.2.2, half_size, taken.size, ← not_lt, steps_lt_iff]
    exact Nat.not_lt.mpr great

/-- The field as it stands alone shows what both sides have to agree on. -/
theorem halfAgrees_iff_reads {x : UInt32} {f32 : Nat} (negative : Bool) (magnitude : ℚ)
    (small : float32ToFloat16 x.toNat < 65536)
    (read : float16ToFloat32 (float32ToFloat16 x.toNat) = some f32) :
    HalfAgrees x negative magnitude ↔
      single.value f32 = decodeFloat16Exact (float32ToFloat16 x.toNat) ∧
        RoundsTo negative magnitude (single.value f32) := by
  have reads (buf : Memory) (tlv : YkpTlv)
      (field : readBytes buf tlv.start tlv.length = (floatItem x.toNat).bytes) :
      ykpTlvReadFloat buf tlv = some f32 :=
    (ykpTlvReadFloat_written field small).trans read
  constructor
  · intro agrees
    obtain ⟨f32', number, read', value', server', rounds⟩ := agrees
      (byteAt (floatItem x.toNat).bytes) ⟨0, 3, 0⟩ rfl
    obtain rfl : f32 = f32' := Option.some.inj ((reads _ _ rfl).symm.trans read')
    exact ⟨value'.trans server'.symm, value' ▸ rounds⟩
  · rintro ⟨same, rounds⟩ buf tlv field
    exact ⟨f32, _, reads buf tlv field, rfl, same.symm, rounds⟩

/-- What is rounded to a subnormal number lies among these itself. -/
theorem subnormal_range {written : Nat} {magnitude : ℚ} (positive : 0 < written)
    (small : written < 1024) (lower : half.size written ≤ magnitude)
    (upper : magnitude < half.size (written + 1)) :
    0 < half.size written ∧ 1 / 2 ^ 24 ≤ magnitude ∧ magnitude < 1 / 2 ^ 14 := by
  obtain ⟨least, normal, -⟩ := half_bounds
  have above : half.size 1 ≤ half.size written := Format.size_strictMono.monotone positive
  have beneath : half.size (written + 1) ≤ half.size 1024 := Format.size_strictMono.monotone small
  rw [least] at above
  rw [normal] at beneath
  exact ⟨lt_of_lt_of_le (by positivity) above, above.trans lower, upper.trans_le beneath⟩

/-- What is rounded to zero or to a normal number lies outside the subnormal numbers. -/
theorem subnormal_outside {written : Nat} {magnitude : ℚ}
    (outside : ¬ (0 < written ∧ written < 1024)) (lower : half.size written ≤ magnitude)
    (upper : magnitude < half.size (written + 1)) :
    magnitude < 1 / 2 ^ 24 ∨ 1 / 2 ^ 14 ≤ magnitude := by
  obtain ⟨least, normal, -⟩ := half_bounds
  by_cases zero : written = 0
  · rw [zero, least] at upper
    exact .inl upper
  · have above : half.size 1024 ≤ half.size written :=
      Format.size_strictMono.monotone (by omega)
    rw [normal] at above
    exact .inr (above.trans lower)

/-- Device and server agree on a finite number, and read it rounded toward zero, exactly when it is
below 65536 and does not come to lie among the subnormal numbers of half precision. -/
theorem halfAgrees_iff (x : UInt32) (negative : Bool) (magnitude : ℚ)
    (finite : single.value x.toNat = .finite negative magnitude) :
    HalfAgrees x negative magnitude ↔
      (magnitude < 1 / 2 ^ 24 ∨ 1 / 2 ^ 14 ≤ magnitude) ∧ magnitude < 65536 := by
  have taken := taken_of_value x.toNat_lt finite
  obtain ⟨overflow, brackets⟩ := float32ToFloat16_rounds taken
  have mantissa : x.toNat % 8388608 < 8388608 := Nat.mod_lt _ (by omega)
  have encoded := float32ToFloat16_eq x.toNat_lt taken.finite
  have small := (@halfMagnitude_le (x.toNat / 8388608 % 256) _ mantissa).1
  have sign : x.toNat / 2147483648 < 2 := by
    have range := x.toNat_lt
    omega
  generalize halfMagnitude (x.toNat / 8388608 % 256) (x.toNat % 8388608) = written at *
  obtain ⟨f32, read, value⟩ := float16ToFloat32_value sign small
  have server := decodeFloat16Exact_value sign small
  rw [← encoded, ← taken.sign] at server
  rw [← encoded] at read
  rw [← taken.sign] at value
  -- From here on only the pattern that was written and the bounds on its size matter.
  rw [halfAgrees_iff_reads negative magnitude (by omega) read, value, server]
  by_cases infinite : written = 0x7C00
  · -- The server takes the infinity for a small number.
    rw [if_pos infinite, if_pos infinite]
    refine iff_of_false (fun agrees => nomatch agrees.1) ?_
    exact fun below => absurd (overflow.mpr infinite) (not_le.mpr below.2)
  have below : magnitude < 65536 := not_le.mp (mt overflow.mp infinite)
  obtain ⟨lower, upper⟩ := brackets (by omega)
  rw [if_neg infinite, if_neg infinite]
  by_cases subnormal : 0 < written ∧ written < 1024
  · -- The device takes a subnormal number for half of it.
    obtain ⟨positive, above, beneath⟩ := subnormal_range subnormal.1 subnormal.2 lower upper
    rw [if_pos subnormal]
    refine iff_of_false ?_ ?_
    · intro agrees
      have same := (Number.finite.inj agrees.1).2
      linarith
    · rintro ⟨outside, -⟩
      exact outside.elim (not_lt.mpr above) (not_le.mpr beneath)
  · rw [if_neg subnormal]
    have rounds : RoundsTo negative magnitude (.finite negative (half.size written)) := by
      rw [RoundsTo, if_neg (not_le.mpr below)]
      exact ⟨_, Format.isGreatest_size (by show written < 0x7C00; omega) lower upper, rfl⟩
    exact iff_of_true ⟨rfl, rounds⟩ ⟨subnormal_outside subnormal lower upper, below⟩

/-- The number one is sent and read as such. -/
theorem halfAgrees_iff_one :
    HalfAgrees 0x3F800000 false 1 ↔
      ((1 : ℚ) < 1 / 2 ^ 24 ∨ 1 / 2 ^ 14 ≤ (1 : ℚ)) ∧ (1 : ℚ) < 65536 :=
  halfAgrees_iff 0x3F800000 false 1 (by
    have value := @single_value 0x3F800000 (by decide) (by decide)
    norm_num [single, Format.size, Format.units, Format.scale, Format.bias] at value
    exact value)

/-- The device reads 2^-16 where it wrote 2^-15, which the server reads as such. -/
theorem half_subnormal_halved : ¬ ∀ (x : UInt32) negative magnitude,
    single.value x.toNat = .finite negative magnitude → HalfAgrees x negative magnitude := by
  intro claim
  have number : single.value (0x38000000 : UInt32).toNat = .finite false (1 / 2 ^ 15) := by
    have value := @single_value 0x38000000 (by decide) (by decide)
    norm_num [single, Format.size, Format.units, Format.scale, Format.bias] at value ⊢
    exact value
  have field : readBytes (byteAt [0xF9, 0x02, 0x00]) 0 3 = (floatItem 0x38000000).bytes := by
    decide
  obtain ⟨f32, number, read, value, server, -⟩ := claim 0x38000000 false (1 / 2 ^ 15) number
    (byteAt [0xF9, 0x02, 0x00]) ⟨0, 3, 0⟩ field
  -- Both read the pattern 0x0200.
  obtain ⟨f32', device, halved⟩ := @float16ToFloat32_value 0 0x0200 (by decide) (by decide)
  have bits : float32ToFloat16 (0x38000000 : UInt32).toNat = 0x0200 := by decide
  have written := @ykpTlvReadFloat_written _ ⟨0, 3, 0⟩ (0x38000000 : UInt32).toNat field (by decide)
  rw [bits] at server written
  obtain rfl : f32' = f32 := Option.some.inj (device.symm.trans (written.symm.trans read))
  rw [value, ← server, @decodeFloat16Exact_value 0 0x0200 (by decide) (by decide),
    if_neg (by decide), if_neg (by decide), if_pos (by decide)] at halved
  have same := (Number.finite.inj halved).2
  have size : half.size 0x0200 = 1 / 2 ^ 15 := by
    norm_num [half, Format.size, Format.units, Format.scale, Format.bias]
  rw [size] at same
  norm_num at same

/-- A number rounded to two decimals, of two equally near ones to the one farther from zero. -/
def toHundredths : Number → Decimal
  | .finite negative magnitude =>
    .hundredths (if negative then -⌊magnitude * 100 + 1 / 2⌋ else ⌊magnitude * 100 + 1 / 2⌋)
  | .infinite negative => .infinite negative
  | .nan => .nan

/-- The rounding of the reports is that of the exact number. -/
theorem roundedHundredths_eq (negative : Bool) (mantissa : Nat) (exponent : Int) :
    roundedHundredths negative mantissa exponent =
      toHundredths (.finite negative (mantissa * (2 : ℚ) ^ exponent)) := by
  have floor : ⌊mantissa * (2 : ℚ) ^ exponent * 100 + 1 / 2⌋ = ((if 0 ≤ exponent
      then mantissa * 100 * 2 ^ exponent.toNat
      else (mantissa * 200 + 2 ^ (-exponent).toNat) / 2 ^ ((-exponent).toNat + 1) : Nat) : Int) := by
    by_cases whole : 0 ≤ exponent
    · -- A whole number of hundredths is left as it is.
      obtain ⟨power, rfl⟩ := Int.eq_ofNat_of_zero_le whole
      have number : (mantissa : ℚ) * 2 ^ (power : Int) * 100 + 1 / 2 =
          ((mantissa * 100 * 2 ^ power : Nat) : Int) + 1 / 2 := by
        rw [zpow_natCast]
        push_cast
        ring
      rw [number, if_pos whole, Int.floor_intCast_add, Int.toNat_natCast]
      norm_num
    · obtain ⟨power, same⟩ := Int.eq_ofNat_of_zero_le (show 0 ≤ -exponent by omega)
      obtain rfl : exponent = -(power : Int) := by omega
      have number : (mantissa : ℚ) * 2 ^ (-(power : Int)) * 100 + 1 / 2 =
          ((mantissa * 200 + 2 ^ power : Nat) : ℚ) / ((2 ^ (power + 1) : Nat) : ℚ) := by
        rw [zpow_neg, zpow_natCast]
        push_cast
        field_simp
        ring
      rw [number, if_neg whole, Rat.floor_natCast_div_natCast, same]
      norm_cast
  simp only [roundedHundredths, toHundredths, floor]

/-- What the server stores is what its decoder gives, rounded to two decimals. -/
theorem decodeFloat16_eq {binary : Nat} (small : binary < 65536) :
    decodeFloat16 binary = toHundredths (decodeFloat16Exact binary) := by
  obtain ⟨signBit, exponentBits, fractionBits⟩ := halfFields binary
  have signed : decide (binary / 32768 % 2 * 32768 ≠ 0) = decide (32768 ≤ binary) := by
    rw [decide_eq_decide]
    omega
  simp only [decodeFloat16, decodeFloat16Exact, signBit, exponentBits, fractionBits, signed,
    roundedHundredths_eq]
  split_ifs with least special fraction
  · congr 2
    norm_num
    ring
  · rfl
  · have number : ((1 : Nat) : ℚ) * 2 ^ (-15 : Int) = 1 / 2 ^ 15 := by norm_num
    rw [number]
  · congr 2
    have power : (2 : ℚ) ^ (((binary / 1024 % 32 : Nat) : Int) - 25) =
        2 ^ (((binary / 1024 % 32 : Nat) : Int) - 15) / 1024 := by
      rw [show ((binary / 1024 % 32 : Nat) : Int) - 25 =
        ((binary / 1024 % 32 : Nat) : Int) - 15 - (10 : Nat) by omega, zpow_sub₀ (by norm_num),
        zpow_natCast]
      norm_num
    push_cast at power ⊢
    rw [power]
    ring

end Ykp.System
