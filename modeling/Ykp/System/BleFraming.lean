import Ykp.Codec.Digits
import Ykp.Firmware.BleLines

/-! Provisioning commands from the app to the device: how they are framed, and which arrive. -/

namespace Ykp.System

open Firmware

/-- A command of the app: the key it is signed with, and its JSON text as UTF-8, in which the
serialiser escapes every control character. -/
structure AppCommand where
  hmacKey : Bytes
  serialized : Bytes
  printable : ∀ byte ∈ serialized, 0x20 ≤ byte

section Framing

-- The HMAC-SHA256 of a message under a key.
variable (hmacSha256 : Bytes → Bytes → Bytes)

/-- The HMAC the app appends, in digits. -/
def computeHmac (command : AppCommand) : Bytes :=
  hexString (hmacSha256 command.hmacKey command.serialized)

/-- A command, the delimiter and the HMAC. -/
def signedStr (command : AppCommand) : Bytes :=
  command.serialized ++ delimiter :: computeHmac hmacSha256 command

/-- What the manager that the app uses writes for a command. -/
def exampleWriteCommand (command : AppCommand) : Bytes := signedStr hmacSha256 command

/-- What the other manager writes: the same with a line end. -/
def ykpWriteCommand (command : AppCommand) : Bytes := signedStr hmacSha256 command ++ [newline]

/-- The device hands over exactly the commands that were written, each with its HMAC. -/
def RoundTrips (writeCommand : AppCommand → Bytes) (commands : List AppCommand) : Prop :=
  (bleRun (commands.map writeCommand)).handed =
    commands.map fun command => ⟨command.serialized, some (computeHmac hmacSha256 command)⟩

end Framing

/-- Hexadecimal digits are neither line ends nor delimiters nor terminators. -/
theorem hexDigit_plain : ∀ value < 16,
    hexDigit value ≠ newline ∧ hexDigit value ≠ delimiter ∧ hexDigit value ≠ 0 := by decide

/-- A string of digits contains no line end, no delimiter and no terminator. -/
theorem hexString_plain {bytes : Bytes} {digit : UInt8} (member : digit ∈ hexString bytes) :
    digit ≠ newline ∧ digit ≠ delimiter ∧ digit ≠ 0 := by
  obtain ⟨value, small, rfl⟩ := digit_of_mem_hexString member
  exact hexDigit_plain value small

section Framing

variable (hmacSha256 : Bytes → Bytes → Bytes)

/-- A signed command contains no line end and no terminator. -/
theorem signedStr_plain (command : AppCommand) :
    ∀ byte ∈ signedStr hmacSha256 command, byte ≠ newline ∧ byte ≠ 0 := by
  intro byte member
  rcases List.mem_append.mp member with text | signed
  · -- Line end and terminator are control characters.
    have printable := command.printable byte text
    refine ⟨fun same => ?_, fun same => ?_⟩
    · rw [same] at printable
      exact absurd printable (by decide)
    · rw [same] at printable
      exact absurd printable (by decide)
  · rcases List.mem_cons.mp signed with rfl | digit
    · decide
    · exact ⟨(hexString_plain digit).1, (hexString_plain digit).2.2⟩

/-- A line is cut into command and HMAC as it was signed exactly when the command contains no
delimiter. -/
theorem commandOf_signedStr (command : AppCommand) :
    commandOf (signedStr hmacSha256 command) =
        ⟨command.serialized, some (computeHmac hmacSha256 command)⟩ ↔
      delimiter ∉ command.serialized := by
  have noNul (byte : UInt8) (member : byte ∈ signedStr hmacSha256 command) : byte ≠ 0 :=
    (signedStr_plain hmacSha256 command byte member).2
  by_cases occurs : delimiter ∈ command.serialized
  · -- The line is cut at the delimiter inside the command, so its text comes out shorter.
    obtain ⟨front, back, layout, free⟩ := List.eq_append_cons_of_mem occurs
    have signed : signedStr hmacSha256 command =
        front ++ delimiter :: (back ++ delimiter :: computeHmac hmacSha256 command) := by
      rw [signedStr, layout, List.append_assoc]
      rfl
    rw [signed] at noNul ⊢
    rw [commandOf_delimited noNul free]
    refine ⟨fun same => ?_, fun absent => absurd occurs absent⟩
    have shorter := congrArg List.length (BleCommand.mk.inj same).1
    rw [layout, List.length_append, List.length_cons] at shorter
    omega
  · exact iff_of_true (commandOf_delimited noNul occurs) occurs

/-- Without line end in any write, nothing is ever handed over. -/
theorem example_handed (commands : List AppCommand) :
    (bleRun (commands.map (exampleWriteCommand hmacSha256))).handed = [] := by
  -- The commands handed over are no more than the line ends written.
  refine List.eq_nil_of_length_eq_zero (Nat.eq_zero_of_le_zero ?_)
  refine Nat.le_trans (bleRun_handed_le _) (Nat.le_of_eq ?_)
  refine List.sum_eq_zero_iff_forall_eq_nat.mpr fun count member => ?_
  obtain ⟨om, written, rfl⟩ := List.mem_map.mp member
  obtain ⟨command, -, rfl⟩ := List.mem_map.mp written
  refine List.count_eq_zero.mpr fun inside => ?_
  exact (signedStr_plain hmacSha256 command newline (List.mem_of_mem_take inside)).1 rfl

/-- A framed command of at most 512 bytes is handed over as its line is cut. -/
theorem bleWrite_framed (handed : List BleCommand) {command : AppCommand}
    (fits : (ykpWriteCommand hmacSha256 command).length ≤ 512) :
    bleWrite ⟨[], handed⟩ (ykpWriteCommand hmacSha256 command) =
      ⟨[], handed ++ [commandOf (signedStr hmacSha256 command)]⟩ := by
  have plain := signedStr_plain hmacSha256 command
  have free : newline ∉ signedStr hmacSha256 command := fun inside => (plain newline inside).1 rfl
  have line := Lines.feed_line free [] []
  have noNul : ∀ byte ∈ ykpWriteCommand hmacSha256 command, byte ≠ 0 := by
    intro byte member
    rcases List.mem_append.mp member with inside | last
    · exact (plain byte inside).2
    · rw [List.mem_singleton.mp last]
      decide
  have one : (ykpWriteCommand hmacSha256 command).count newline ≤ 1 := by
    rw [ykpWriteCommand, List.count_append, List.count_eq_zero_of_not_mem free]
    decide
  -- Behind an empty accumulator the device reassembles as the specification cuts lines.
  have fed := @jsonTask_feed ⟨[], handed⟩ (ykpWriteCommand hmacSha256 command) noNul
    List.not_mem_nil (by simp only [List.length_nil, rxBufSize]; omega) one
  unfold bleWrite
  rw [gattSvrChrAccess_whole (by simp [ykpWriteCommand]) fits]
  refine fed.trans ?_
  simp only [ykpWriteCommand, line]
  rfl

/-- Framed commands of at most 512 bytes are handed over as their lines are cut. -/
theorem bleRun_framed {commands : List AppCommand}
    (fits : ∀ command ∈ commands, (ykpWriteCommand hmacSha256 command).length ≤ 512) :
    bleRun (commands.map (ykpWriteCommand hmacSha256)) =
      ⟨[], commands.map fun command => commandOf (signedStr hmacSha256 command)⟩ := by
  -- The accumulator is empty again after each command.
  induction commands using List.reverseRecOn with
  | nil => rfl
  | append_singleton earlier command ih =>
    rw [List.map_append, List.map_append, List.map_singleton, List.map_singleton, bleRun_concat,
      ih fun other member => fits other (List.mem_append_left _ member)]
    exact bleWrite_framed hmacSha256 _ (fits command (by simp))

/-- What is queued of a framed command contains its line end only if the whole frame is queued. -/
theorem framed_count (command : AppCommand) :
    ((ykpWriteCommand hmacSha256 command).take 512).count newline =
      if (ykpWriteCommand hmacSha256 command).length ≤ 512 then 1 else 0 := by
  have free : newline ∉ signedStr hmacSha256 command := fun inside =>
    (signedStr_plain hmacSha256 command newline inside).1 rfl
  split
  · rename_i fits
    rw [List.take_of_length_le fits, ykpWriteCommand, List.count_append,
      List.count_eq_zero_of_not_mem free]
    decide
  · -- The line end is the last byte of the frame, so it is cut off first.
    rename_i long
    have within : 512 ≤ (signedStr hmacSha256 command).length := by
      simp only [ykpWriteCommand, List.length_append, List.length_singleton] at long
      omega
    rw [ykpWriteCommand, List.take_append_of_le_length within]
    exact List.count_eq_zero.mpr fun inside => free (List.mem_of_mem_take inside)

/-- The commands handed over are no more than the frames that are queued whole. -/
theorem framed_handed_le (commands : List AppCommand) :
    (bleRun (commands.map (ykpWriteCommand hmacSha256))).handed.length ≤
      commands.countP fun command =>
        decide ((ykpWriteCommand hmacSha256 command).length ≤ 512) := by
  refine Nat.le_trans (bleRun_handed_le _) (Nat.le_of_eq ?_)
  -- Each frame adds one line end if it is queued whole, else none.
  induction commands with
  | nil => rfl
  | cons command rest ih =>
    simp only [List.map_cons, List.sum_cons, framed_count, ih, List.countP_cons,
      decide_eq_true_eq]
    omega

/-- The manager that the app uses brings no command across; the other one brings a sequence across
exactly when no command contains the delimiter and each fits into a write with its HMAC. -/
theorem framing_roundTrips_iff (digests : ∀ key message, (hmacSha256 key message).length = 32)
    (commands : List AppCommand) :
    (RoundTrips hmacSha256 (exampleWriteCommand hmacSha256) commands ↔ commands = []) ∧
      (RoundTrips hmacSha256 (ykpWriteCommand hmacSha256) commands ↔
        ∀ command ∈ commands, delimiter ∉ command.serialized ∧
          command.serialized.length + 66 ≤ 512) := by
  have length (command : AppCommand) : (ykpWriteCommand hmacSha256 command).length =
      command.serialized.length + 66 := by
    simp [ykpWriteCommand, signedStr, computeHmac, hexString_length, digests]
  constructor
  · rw [RoundTrips, example_handed]
    exact ⟨fun same => List.map_eq_nil_iff.mp same.symm, fun none => by rw [none]; rfl⟩
  · constructor
    · intro arrives
      -- As many commands arrive as were written, so every frame was queued whole.
      have count := framed_handed_le hmacSha256 commands
      rw [RoundTrips] at arrives
      rw [arrives, List.length_map] at count
      have all := List.countP_eq_length.mp (Nat.le_antisymm List.countP_le_length count)
      have fits : ∀ command ∈ commands, (ykpWriteCommand hmacSha256 command).length ≤ 512 :=
        fun command member => of_decide_eq_true (all command member)
      rw [bleRun_framed hmacSha256 fits] at arrives
      intro command member
      exact ⟨(commandOf_signedStr hmacSha256 command).mp (List.map_inj_left.mp arrives command member),
        length command ▸ fits command member⟩
    · intro good
      rw [RoundTrips, bleRun_framed hmacSha256 fun command member =>
        length command ▸ (good command member).2]
      exact List.map_inj_left.mpr fun command member =>
        (commandOf_signedStr hmacSha256 command).mpr (good command member).1

end Framing

/-- A code of 32 bytes for every message. -/
def sampleHmac (_ _ : Bytes) : Bytes := List.replicate 32 0xA5

/-- The text `[1]`. -/
def sampleCommand : AppCommand := ⟨[], [0x5B, 0x31, 0x5D], by decide +kernel⟩

/-- The text `["|"]`. -/
def delimitedCommand : AppCommand :=
  ⟨[], [0x5B, 0x22, delimiter, 0x22, 0x5D], by decide +kernel⟩

theorem framing_roundTrips_iff_sample :
    (RoundTrips sampleHmac (exampleWriteCommand sampleHmac) [sampleCommand] ↔
        [sampleCommand] = []) ∧
      (RoundTrips sampleHmac (ykpWriteCommand sampleHmac) [sampleCommand] ↔
        ∀ command ∈ [sampleCommand], delimiter ∉ command.serialized ∧
          command.serialized.length + 66 ≤ 512) :=
  framing_roundTrips_iff sampleHmac (fun _ _ => List.length_replicate) [sampleCommand]

/-- The manager that the app uses loses every command, and the other one those with a delimiter. -/
theorem framing_loses :
    ¬ RoundTrips sampleHmac (exampleWriteCommand sampleHmac) [sampleCommand] ∧
      ¬ RoundTrips sampleHmac (ykpWriteCommand sampleHmac) [delimitedCommand] := by
  unfold RoundTrips
  exact ⟨by decide +kernel, by decide +kernel⟩

end Ykp.System
