import Mathlib.Algebra.GroupWithZero.Nat
import Ykp.Codec.Utf8

/-! ASCII in decoded text: where it comes from, and how it separates what stands in front and behind. -/

namespace Ykp

/-- What the decoder waits for can be reached: no ASCII byte continues it, and no short form of an
ASCII character completes it. -/
structure Utf8Pending.Reachable (pending : Utf8Pending) : Prop where
  lower : 0x80 ≤ pending.lower
  upper : pending.upper ≤ 0xBF
  one : pending.need = 1 → 2 ≤ pending.point
  more : 2 ≤ pending.need → 1 ≤ pending.point ∨ 0x90 ≤ pending.lower

/-- The decoder between two characters is reachable. -/
theorem idle_reachable : Utf8Pending.idle.Reachable where
  lower := by decide
  upper := by decide
  one := by decide
  more := by decide

/-- A lead byte leaves the decoder in a reachable state, and emits ASCII only if it is ASCII. -/
theorem utf8Lead_reachable {byte : Nat} (small : byte < 256) :
    (utf8Lead byte).2.Reachable ∧ ∀ unit ∈ (utf8Lead byte).1, unit < 0x80 → unit = byte := by
  unfold utf8Lead
  -- One case for each kind of lead byte.
  split_ifs <;> refine ⟨⟨?_, ?_, ?_, ?_⟩, ?_⟩ <;> simp [Utf8Pending.idle] <;> omega

/-- No code point from 128 on is written with ASCII units. -/
theorem codeUnits_not_ascii {point unit : Nat} (large : 0x80 ≤ point)
    (member : unit ∈ codeUnits point) : 0x80 ≤ unit := by
  unfold codeUnits at member
  split at member
  · rw [List.mem_singleton.mp member]
    exact large
  · simp only [List.mem_cons, List.not_mem_nil, or_false] at member
    omega

/-- A byte leaves the decoder in a reachable state, and emits ASCII only if it is ASCII. -/
theorem utf8Step_reachable {pending : Utf8Pending} (reachable : pending.Reachable) {byte : Nat}
    (small : byte < 256) :
    (utf8Step pending byte).2.Reachable ∧
      ∀ unit ∈ (utf8Step pending byte).1, unit < 0x80 → unit = byte := by
  obtain ⟨lower, upper, one, more⟩ := reachable
  have lead := utf8Lead_reachable small
  unfold utf8Step
  split
  · exact lead
  · rename_i started
    split
    · rename_i within
      dsimp only
      split
      · -- The character is complete, and its point is not that of an ASCII character.
        rename_i last
        have point := one last
        refine ⟨idle_reachable, fun unit member ascii => ?_⟩
        have := codeUnits_not_ascii (by omega) member
        omega
      · rename_i notLast
        have point := more (by omega)
        refine ⟨⟨?_, ?_, ?_, ?_⟩, by simp⟩ <;> dsimp only <;> omega
    · -- A broken sequence is replaced, and its last byte starts afresh.
      refine ⟨lead.1, fun unit member ascii => ?_⟩
      rcases List.mem_cons.mp member with rfl | inside
      · omega
      · exact lead.2 unit inside ascii

/-- ASCII in the decoded text stands in the bytes as well. -/
theorem ascii_of_mem_decodeFrom {pending : Utf8Pending} (reachable : pending.Reachable)
    {bytes : Bytes} {unit : Nat} (member : unit ∈ utf8DecodeFrom pending bytes)
    (ascii : unit < 0x80) : UInt8.ofNat unit ∈ bytes := by
  -- Each byte emits no other ASCII unit than itself.
  induction bytes generalizing pending with
  | nil =>
    unfold utf8DecodeFrom at member
    split at member
    · exact absurd member List.not_mem_nil
    · rw [List.mem_singleton.mp member] at ascii
      exact absurd ascii (by decide)
  | cons byte rest ih =>
    obtain ⟨next, emits⟩ := utf8Step_reachable reachable byte.toNat_lt
    rcases List.mem_append.mp member with here | later
    · rw [emits unit here ascii, UInt8.ofNat_toNat]
      exact List.mem_cons_self
    · exact List.mem_cons_of_mem _ (ih next later)

/-- An ASCII byte ends whatever was begun in front of it, and decoding starts afresh behind it. -/
theorem utf8DecodeFrom_ascii {pending : Utf8Pending} (reachable : pending.Reachable) (front : Bytes)
    {byte : UInt8} (ascii : byte.toNat < 0x80) (rest : Bytes) :
    utf8DecodeFrom pending (front ++ byte :: rest) =
      utf8DecodeFrom pending front ++ byte.toNat :: utf8DecodeFrom .idle rest := by
  induction front generalizing pending with
  | nil =>
    have lead : utf8Lead byte.toNat = ([byte.toNat], .idle) := if_pos ascii
    have outside : ¬ (pending.lower ≤ byte.toNat ∧ byte.toNat ≤ pending.upper) := by
      have := reachable.lower
      omega
    simp only [List.nil_append, utf8DecodeFrom, utf8Step, lead, if_neg outside]
    -- A sequence that was begun becomes a replacement character in either text.
    split <;> rfl
  | cons first others ih =>
    have next := (utf8Step_reachable reachable first.toNat_lt).1
    rw [List.cons_append, utf8DecodeFrom, utf8DecodeFrom, ih next, List.append_assoc]

/-- A line decodes to the text of its bytes and the line end. -/
theorem utf8Decode_line (line : Bytes) : utf8Decode (line ++ [0x0A]) = utf8Decode line ++ [10] :=
  utf8DecodeFrom_ascii idle_reachable line (by decide) []

/-- Bytes without line end decode to a text without one. -/
theorem utf8Decode_lineFree {bytes : Bytes} (free : 0x0A ∉ bytes) : 10 ∉ utf8Decode bytes :=
  fun member => free (ascii_of_mem_decodeFrom idle_reachable member (by decide))

end Ykp
