import Mathlib.Algebra.Order.Field.Basic
import Mathlib.Data.Rat.Floor
import Mathlib.Order.Monotone.Basic
import Mathlib.Tactic.Ring

/-! Binary floating-point formats: the exact numbers that patterns stand for, and truncation. -/

namespace BinaryFloat

/-- An interchange format: a sign bit, a biased exponent, and a fraction. -/
structure Format where
  exponentBits : Nat
  fractionBits : Nat

/-- What a pattern stands for; zero keeps its sign. -/
inductive Number
  | finite (negative : Bool) (magnitude : ℚ)
  | infinite (negative : Bool)
  | nan
  deriving DecidableEq

namespace Format

variable (format : Format)

def bias : Nat := 2 ^ (format.exponentBits - 1) - 1

/-- How many of the format's least steps a pattern without its sign bit stands for. -/
def units (magnitude : Nat) : Nat :=
  let exponent := magnitude / 2 ^ format.fractionBits
  let fraction := magnitude % 2 ^ format.fractionBits
  -- The least exponent has no leading bit in front of its fraction.
  if exponent = 0 then fraction else (2 ^ format.fractionBits + fraction) * 2 ^ (exponent - 1)

/-- The number of least steps that make up one. -/
def scale : Nat := 2 ^ (format.bias + format.fractionBits - 1)

/-- The exact size of a pattern without its sign bit. -/
def size (magnitude : Nat) : ℚ := format.units magnitude / format.scale

/-- The pattern of infinity, which follows that of the greatest finite number. -/
def infinity : Nat := (2 ^ format.exponentBits - 1) * 2 ^ format.fractionBits

/-- The bits of a pattern besides its sign. -/
def magnitudeOf (pattern : Nat) : Nat :=
  pattern % 2 ^ (format.exponentBits + format.fractionBits)

/-- The sign bit of a pattern. -/
def negativeOf (pattern : Nat) : Bool :=
  pattern / 2 ^ (format.exponentBits + format.fractionBits) % 2 == 1

/-- The exact number a pattern stands for. -/
def value (pattern : Nat) : Number :=
  let magnitude := format.magnitudeOf pattern
  if magnitude < format.infinity then .finite (format.negativeOf pattern) (format.size magnitude)
  else if magnitude = format.infinity then .infinite (format.negativeOf pattern)
  else .nan

/-- The magnitudes that finite patterns stand for. -/
def Representable (magnitude : ℚ) : Prop :=
  ∃ pattern < format.infinity, format.size pattern = magnitude

variable {format}

/-- The units of a pattern that is put together from its fields. -/
theorem units_fields {exponent fraction : Nat} (small : fraction < 2 ^ format.fractionBits) :
    format.units (exponent * 2 ^ format.fractionBits + fraction) =
      if exponent = 0 then fraction
      else (2 ^ format.fractionBits + fraction) * 2 ^ (exponent - 1) := by
  have positive : 0 < 2 ^ format.fractionBits := Nat.two_pow_pos _
  have high : (exponent * 2 ^ format.fractionBits + fraction) / 2 ^ format.fractionBits =
      exponent := by
    rw [Nat.add_comm, Nat.add_mul_div_right _ _ positive, Nat.div_eq_of_lt small, Nat.zero_add]
  have low : (exponent * 2 ^ format.fractionBits + fraction) % 2 ^ format.fractionBits =
      fraction := by
    rw [Nat.mul_add_mod', Nat.mod_eq_of_lt small]
  simp only [units, high, low]

/-- Every pattern is put together from its fields. -/
theorem exists_fields (magnitude : Nat) : ∃ exponent fraction, fraction < 2 ^ format.fractionBits ∧
    magnitude = exponent * 2 ^ format.fractionBits + fraction :=
  ⟨_, _, Nat.mod_lt magnitude (Nat.two_pow_pos _), (Nat.div_add_mod' magnitude _).symm⟩

/-- The next pattern stands for one step more, whose width depends on the exponent only. -/
theorem units_succ {exponent fraction : Nat} (small : fraction < 2 ^ format.fractionBits) :
    format.units (exponent * 2 ^ format.fractionBits + fraction + 1) =
      format.units (exponent * 2 ^ format.fractionBits + fraction) + 2 ^ (exponent - 1) := by
  rw [units_fields small]
  by_cases inside : fraction + 1 < 2 ^ format.fractionBits
  · -- The fraction grows by one.
    rw [Nat.add_assoc, units_fields inside]
    split
    · rename_i least
      rw [least, Nat.pow_zero]
    · rw [← Nat.add_assoc, Nat.add_one_mul]
  · -- The fraction wraps around, and the exponent grows by one.
    have next : exponent * 2 ^ format.fractionBits + fraction + 1 =
        (exponent + 1) * 2 ^ format.fractionBits + 0 := by
      rw [Nat.add_mul, Nat.one_mul]
      omega
    rw [next, units_fields (Nat.two_pow_pos _), if_neg (Nat.succ_ne_zero _), Nat.add_sub_cancel]
    split
    · rename_i least
      rw [least, Nat.pow_zero]
      omega
    · rename_i normal
      have double : 2 ^ exponent = 2 * 2 ^ (exponent - 1) := by
        rw [← Nat.pow_succ', Nat.succ_eq_add_one, Nat.sub_add_cancel (by omega)]
      have last : fraction + 1 = 2 ^ format.fractionBits := by omega
      rw [double, ← Nat.add_one_mul, Nat.add_assoc, last]
      ring

/-- The patterns stand for ever greater numbers. -/
theorem units_strictMono : StrictMono format.units := by
  apply strictMono_nat_of_lt_succ
  intro magnitude
  obtain ⟨exponent, fraction, small, rfl⟩ := @exists_fields format magnitude
  rw [units_succ small]
  exact Nat.lt_add_of_pos_right (Nat.two_pow_pos _)

theorem scale_pos : (0 : ℚ) < format.scale := by
  exact_mod_cast Nat.two_pow_pos _

/-- So do their sizes. -/
theorem size_strictMono : StrictMono format.size := by
  intro first second less
  have units : (format.units first : ℚ) < format.units second := by
    exact_mod_cast units_strictMono less
  exact div_lt_div_of_pos_right units scale_pos

/-- The finite pattern just below a magnitude is its truncation: the greatest magnitude of the format
that is not beyond it. -/
theorem isGreatest_size {pattern : Nat} {magnitude : ℚ} (finite : pattern < format.infinity)
    (lower : format.size pattern ≤ magnitude) (upper : magnitude < format.size (pattern + 1)) :
    IsGreatest {other | format.Representable other ∧ other ≤ magnitude} (format.size pattern) := by
  refine ⟨⟨⟨pattern, finite, rfl⟩, lower⟩, ?_⟩
  rintro other ⟨⟨candidate, -, rfl⟩, within⟩
  -- A greater pattern stands for at least the next size, which is beyond the magnitude.
  by_contra beyond
  have greater : pattern < candidate := size_strictMono.lt_iff_lt.mp (not_le.mp beyond)
  have next : format.size (pattern + 1) ≤ format.size candidate :=
    size_strictMono.monotone greater
  exact absurd (within.trans_lt upper) (not_lt.mpr next)

end Format

end BinaryFloat
