import Mathlib.Tactic.Common
import Ykp.Constants

/-! Texts of a C string: literals, and numbers and bytes written as digits. -/

namespace Ykp

/-- The bytes of an ASCII text. -/
def textBytes (text : String) : Bytes := text.toList.map fun letter => UInt8.ofNat letter.toNat

/-- A number in decimal digits. -/
def decimalBytes (value : Nat) : Bytes :=
  (Nat.toDigits 10 value).map fun digit => UInt8.ofNat digit.toNat

/-- A digit of a hexadecimal number, in lower case. -/
def hexDigit (value : Nat) : UInt8 :=
  if value < 10 then UInt8.ofNat (0x30 + value) else UInt8.ofNat (0x61 + (value - 10))

/-- Bytes as hexadecimal digits, two for each. -/
def hexString (bytes : Bytes) : Bytes :=
  bytes.flatMap fun byte => [hexDigit (byte.toNat / 16), hexDigit (byte.toNat % 16)]

theorem hexString_length (bytes : Bytes) : (hexString bytes).length = 2 * bytes.length := by
  -- Two digits for each byte.
  induction bytes with
  | nil => rfl
  | cons byte rest ih =>
    have whole : hexString (byte :: rest) =
        [hexDigit (byte.toNat / 16), hexDigit (byte.toNat % 16)] ++ hexString rest := by
      simp [hexString]
    rw [whole, List.length_append, ih, List.length_cons, List.length_cons, List.length_cons,
      List.length_nil]
    omega

/-- A string of digits consists of digits. -/
theorem digit_of_mem_hexString {bytes : Bytes} {digit : UInt8} (member : digit ∈ hexString bytes) :
    ∃ value < 16, digit = hexDigit value := by
  obtain ⟨byte, -, either⟩ := List.mem_flatMap.mp member
  have range := byte.toNat_lt
  rcases List.mem_cons.mp either with rfl | last
  · exact ⟨_, by omega, rfl⟩
  · exact ⟨_, by omega, List.mem_singleton.mp last⟩

end Ykp
