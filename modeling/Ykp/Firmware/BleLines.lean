import Mathlib.Algebra.GroupWithZero.Nat
import Mathlib.Data.List.Induction
import Ykp.Codec.MapBuild
import Ykp.Foundation.Lines
import Ykp.Foundation.Machine

/-! The provisioning service's receiver: GATT writes reassembled into lines, and lines into commands. -/

namespace Ykp.Firmware

open Lines

/-- The bytes a line of commands is made of, and the one between a command and its HMAC. -/
abbrev newline : UInt8 := 0x0A
abbrev delimiter : UInt8 := 0x7C

/-- Bytes of the accumulator, and of a queued write with its terminator. -/
@[simp] abbrev rxBufSize : Nat := 4096
@[simp] abbrev maxChunkSize : Nat := 513

/-- What is handed to the command handler: the JSON text, and the HMAC if a delimiter was found. -/
structure BleCommand where
  jsonPart : Bytes
  hmacPart : Option Bytes
  deriving DecidableEq, Repr

/-- The receiver: the bytes accumulated so far, and the commands handed over, the oldest first. -/
structure JsonTask where
  rxBuffer : Bytes
  handed : List BleCommand
  deriving DecidableEq, Repr

/-- The receiver before the first write. -/
def JsonTask.start : JsonTask := ⟨[], []⟩

/-- The index of a byte in a C string, if it occurs there. -/
def strchr (str : Bytes) (byte : UInt8) : Option Nat := (cString str).findIdx? (· == byte)

/-- A line cut at its first delimiter. -/
def commandOf (line : Bytes) : BleCommand :=
  match strchr line delimiter with
  | none => ⟨line, none⟩
  | some delim => ⟨line.take delim, some (line.drop (delim + 1))⟩

/-- A queued write is processed: at most one line is taken from the accumulator. -/
def jsonTask (task : JsonTask) (data : Bytes) : JsonTask :=
  if rxBufSize - 1 ≤ task.rxBuffer.length + data.length then { task with rxBuffer := [] }
  else
    let rxBuffer := task.rxBuffer ++ data
    match strchr rxBuffer newline with
    | none => { task with rxBuffer := rxBuffer }
    | some found =>
      -- What stands behind the line is only looked at when the next write arrives.
      { rxBuffer := rxBuffer.drop (found + 1)
        handed := task.handed ++ [commandOf (rxBuffer.take found)] }

/-- A write to the receive characteristic, as it is queued; a longer one is cut. -/
def gattSvrChrAccess (om : Bytes) : Option Bytes :=
  if 0 < om.length then some (om.take (min om.length (maxChunkSize - 1))) else none

/-- A write, queued and processed. -/
def bleWrite (task : JsonTask) (om : Bytes) : JsonTask :=
  match gattSvrChrAccess om with
  | none => task
  | some data => jsonTask task data

/-- The receiver after a list of writes. -/
def bleRun (writes : List Bytes) : JsonTask := Machine.run bleWrite .start writes

/-- After each write, the commands handed over are the complete lines received so far. -/
def Reassembles (writes : List Bytes) : Prop :=
  ∀ received, received <+: writes →
    (bleRun received).handed = (complete newline received.flatten).map commandOf

/-- No part of a stream between two line ends is longer than 3500 bytes. -/
def ShortLines (stream : Bytes) : Prop :=
  ∀ line, line <:+: stream → newline ∉ line → line.length ≤ 3500

/-- Without terminator among its bytes, a byte is looked for in the whole string. -/
theorem strchr_of_noNul {str : Bytes} (noNul : ∀ byte ∈ str, byte ≠ 0) (byte : UInt8) :
    strchr str byte = str.findIdx? (· == byte) := by
  rw [strchr, cString_eq noNul]

/-- The first occurrence of a byte is found. -/
theorem strchr_found {front back : Bytes} {byte : UInt8}
    (noNul : ∀ other ∈ front ++ byte :: back, other ≠ 0) (free : byte ∉ front) :
    strchr (front ++ byte :: back) byte = some front.length := by
  -- Nothing in front matches, and the byte itself does.
  have none : front.findIdx? (· == byte) = none := by
    refine List.findIdx?_eq_none_iff.mpr fun other member => ?_
    simpa using fun same : other = byte => free (same ▸ member)
  rw [strchr_of_noNul noNul, List.findIdx?_append, none]
  simp [List.findIdx?_cons]

/-- A byte that does not occur is not found. -/
theorem strchr_absent {str : Bytes} (noNul : ∀ other ∈ str, other ≠ 0) {byte : UInt8}
    (absent : byte ∉ str) : strchr str byte = none := by
  rw [strchr_of_noNul noNul]
  refine List.findIdx?_eq_none_iff.mpr fun other member => ?_
  simpa using fun same : other = byte => absent (same ▸ member)

/-- Bytes in front of a found one, and behind it. -/
theorem take_drop_found (front back : Bytes) (byte : UInt8) :
    (front ++ byte :: back).take front.length = front ∧
      (front ++ byte :: back).drop (front.length + 1) = back := by
  refine ⟨List.take_left, ?_⟩
  rw [← List.drop_drop, List.drop_left, List.drop_one, List.tail_cons]

/-- A line is cut at its first delimiter. -/
theorem commandOf_delimited {front back : Bytes}
    (noNul : ∀ byte ∈ front ++ delimiter :: back, byte ≠ 0) (free : delimiter ∉ front) :
    commandOf (front ++ delimiter :: back) = ⟨front, some back⟩ := by
  obtain ⟨taken, dropped⟩ := take_drop_found front back delimiter
  simp only [commandOf, strchr_found noNul free, taken, dropped]

/-- A write that fits and brings at most one line end completes at most one line, which is handed
over. -/
theorem jsonTask_feed {task : JsonTask} {data : Bytes}
    (noNul : ∀ byte ∈ task.rxBuffer ++ data, byte ≠ 0) (free : newline ∉ task.rxBuffer)
    (room : task.rxBuffer.length + data.length < rxBufSize - 1)
    (one : data.count newline ≤ 1) :
    jsonTask task data =
      ⟨(feed newline task.rxBuffer data).2,
        task.handed ++ (feed newline task.rxBuffer data).1.map commandOf⟩ := by
  -- Feeding behind the accumulator is feeding both at once.
  have both : feed newline task.rxBuffer data = feed newline [] (task.rxBuffer ++ data) := by
    rw [feed_append, feed_of_notMem free]
    rfl
  unfold jsonTask
  rw [if_neg (by omega), both]
  by_cases occurs : newline ∈ task.rxBuffer ++ data
  · obtain ⟨front, back, layout, before⟩ := List.eq_append_cons_of_mem occurs
    rw [layout] at noNul ⊢
    -- The one line end is the one that is found, so nothing behind it is complete.
    have counts := congrArg (List.count newline) layout
    rw [List.count_append, List.count_eq_zero_of_not_mem free, List.count_append,
      List.count_eq_zero_of_not_mem before, List.count_cons_self] at counts
    have behind : newline ∉ back := List.count_eq_zero.mp (by omega)
    have line := feed_line before [] back
    rw [complete, unfinished, feed_of_notMem behind, List.nil_append, List.nil_append] at line
    obtain ⟨taken, dropped⟩ := take_drop_found front back newline
    simp only [strchr_found noNul before, line, taken, dropped, List.map_cons, List.map_nil]
  · simp only [strchr_absent noNul occurs, feed_of_notMem occurs, List.nil_append, List.map_nil,
      List.append_nil]

/-- A write of at most 512 bytes is queued whole. -/
theorem gattSvrChrAccess_whole {om : Bytes} (some_ : 1 ≤ om.length) (short : om.length ≤ 512) :
    gattSvrChrAccess om = some om := by
  unfold gattSvrChrAccess
  rw [if_pos (by omega), List.take_of_length_le (by simp; omega)]

/-- A run over further writes. -/
theorem bleRun_concat (writes : List Bytes) (om : Bytes) :
    bleRun (writes ++ [om]) = bleWrite (bleRun writes) om := Machine.run_append writes [om]

/-- Writes that bring at most one line end each leave the unfinished line in the accumulator. -/
theorem bleRun_lines {writes : List Bytes}
    (sizes : ∀ om ∈ writes, 1 ≤ om.length ∧ om.length ≤ 512)
    (noNul : ∀ byte ∈ writes.flatten, byte ≠ 0) (short : ShortLines writes.flatten)
    (ones : ∀ om ∈ writes, om.count newline ≤ 1) :
    bleRun writes =
      ⟨unfinished newline writes.flatten,
        (complete newline writes.flatten).map commandOf⟩ := by
  -- The newest write is processed on what all earlier ones left behind.
  induction writes using List.reverseRecOn with
  | nil => rfl
  | append_singleton earlier om ih =>
    have stream : (earlier ++ [om]).flatten = earlier.flatten ++ om := by simp
    rw [stream] at noNul short
    have before := ih (fun other member => sizes other (List.mem_append_left _ member))
      (fun byte member => noNul byte (List.mem_append_left _ member))
      (fun line inside => short line (inside.trans (List.prefix_append _ _).isInfix))
      (fun other member => ones other (List.mem_append_left _ member))
    have size := sizes om (by simp)
    have suffix := unfinished_suffix newline earlier.flatten
    -- An unfinished line and one write fit into the accumulator together.
    have length := short (unfinished newline earlier.flatten)
      (suffix.isInfix.trans (List.prefix_append _ _).isInfix) (notMem_unfinished _ _)
    have clean : ∀ byte ∈ unfinished newline earlier.flatten ++ om, byte ≠ 0 := by
      intro byte member
      rcases List.mem_append.mp member with inside | new
      · exact noNul byte (List.mem_append_left _ (suffix.subset inside))
      · exact noNul byte (List.mem_append_right _ new)
    rw [bleRun_concat, before, stream, complete_append, unfinished_append, List.map_append]
    unfold bleWrite
    rw [gattSvrChrAccess_whole size.1 size.2]
    exact jsonTask_feed clean (notMem_unfinished _ _) (by simp only [rxBufSize]; omega)
      (ones om (by simp))

/-- One write hands over one command at most. -/
theorem bleWrite_handed (task : JsonTask) (om : Bytes) :
    (bleWrite task om).handed.length ≤ task.handed.length + 1 := by
  unfold bleWrite jsonTask
  split
  · exact Nat.le_succ _
  · -- The write overflows the accumulator, completes nothing, or completes a line.
    split
    · exact Nat.le_succ _
    · simp only
      split
      · exact Nat.le_succ _
      · simp

/-- A byte that is found stands at its index. -/
theorem strchr_split {str : Bytes} {byte : UInt8} {found : Nat}
    (finds : strchr str byte = some found) :
    ∃ front back, str = front ++ byte :: back ∧ front.length = found := by
  obtain ⟨inside, here, -⟩ := List.findIdx?_eq_some_iff_getElem.mp finds
  obtain ⟨rest, layout⟩ : cString str <+: str := List.takeWhile_prefix _
  refine ⟨(cString str).take found, (cString str).drop (found + 1) ++ rest, ?_,
    List.length_take_of_le (Nat.le_of_lt inside)⟩
  -- The string in front of the terminator splits at the index.
  have split := List.take_append_drop found (cString str)
  rw [List.drop_eq_getElem_cons inside, eq_of_beq here] at split
  rw [← List.cons_append, ← List.append_assoc, split, layout]

/-- Every command that is handed over takes a line end from what was received. -/
theorem bleWrite_count (task : JsonTask) (om : Bytes) :
    (bleWrite task om).handed.length + (bleWrite task om).rxBuffer.count newline ≤
      task.handed.length + task.rxBuffer.count newline + (om.take 512).count newline := by
  unfold bleWrite gattSvrChrAccess
  by_cases empty : 0 < om.length
  · have queued : om.take (min om.length (maxChunkSize - 1)) = om.take 512 := by
      rw [show maxChunkSize - 1 = 512 from rfl, Nat.min_comm, ← List.take_take, List.take_length]
    simp only [if_pos empty, queued, jsonTask]
    split
    · -- An overflow drops what was accumulated, line ends included.
      simp
      omega
    · cases finds : strchr (task.rxBuffer ++ om.take 512) newline with
      | none =>
        simp only [List.count_append]
        omega
      | some found =>
        -- The line end that is found goes with the command.
        obtain ⟨front, back, layout, rfl⟩ := strchr_split finds
        have counts := congrArg (List.count newline) layout
        rw [List.count_append, List.count_append, List.count_cons_self] at counts
        simp only [layout, (take_drop_found front back newline).2, List.length_append,
          List.length_singleton]
        omega
  · simp only [if_neg empty]
    omega

/-- At most as many commands are handed over as line ends were queued. -/
theorem bleRun_handed_le (writes : List Bytes) :
    (bleRun writes).handed.length ≤ (writes.map fun om => (om.take 512).count newline).sum := by
  have counted : (bleRun writes).handed.length + (bleRun writes).rxBuffer.count newline ≤
      (writes.map fun om => (om.take 512).count newline).sum := by
    -- The line ends queued are those handed over, and at most those still in the accumulator.
    induction writes using List.reverseRecOn with
    | nil => exact Nat.le_refl _
    | append_singleton earlier om ih =>
      have one := bleWrite_count (bleRun earlier) om
      rw [bleRun_concat, List.map_append, List.sum_append]
      simp only [List.map_cons, List.map_nil, List.sum_cons, List.sum_nil]
      omega
  omega

/-- The commands handed over are the lines received, after each write, exactly when every write brings
at most one line end. -/
theorem reassembles_iff (writes : List Bytes)
    (sizes : ∀ om ∈ writes, 1 ≤ om.length ∧ om.length ≤ 512)
    (noNul : ∀ byte ∈ writes.flatten, byte ≠ 0) (short : ShortLines writes.flatten) :
    Reassembles writes ↔ ∀ om ∈ writes, om.count newline ≤ 1 := by
  constructor
  · intro reassembles om member
    obtain ⟨earlier, later, rfl⟩ := List.append_of_mem member
    have before := reassembles earlier (List.prefix_append _ _)
    have after := reassembles (earlier ++ [om]) ⟨later, by simp⟩
    -- The write completes as many lines as it brings line ends, but hands over one at most.
    have stream : (earlier ++ [om]).flatten = earlier.flatten ++ om := by simp
    have handed := bleWrite_handed (bleRun earlier) om
    rw [← bleRun_concat, before, after, stream, complete_append, List.map_append,
      List.length_append, List.length_map, List.length_map, feed_count] at handed
    omega
  · rintro ones received ⟨later, rfl⟩
    have stream : (received ++ later).flatten = received.flatten ++ later.flatten := by simp
    rw [stream] at noNul short
    rw [bleRun_lines (fun om member => sizes om (List.mem_append_left _ member))
      (fun byte member => noNul byte (List.mem_append_left _ member))
      (fun line inside => short line (inside.trans (List.prefix_append _ _).isInfix))
      (fun om member => ones om (List.mem_append_left _ member))]

/-- A line cut between its delimiter and its HMAC, and the start of another one. -/
def sampleWrites : List Bytes := [[0x7B, 0x7D, 0x7C], [0x61, 0x62, newline, 0x7B]]

theorem reassembles_iff_sample :
    Reassembles sampleWrites ↔ ∀ om ∈ sampleWrites, om.count newline ≤ 1 :=
  reassembles_iff sampleWrites (by decide) (by decide +kernel)
    fun line inside _ => Nat.le_trans inside.length_le (by decide)

/-- Two commands in one write: only the first is handed over. -/
theorem two_lines_in_one_write : ¬ Reassembles [[0x61, newline, 0x62, newline]] := by
  intro reassembles
  have handed := reassembles [[0x61, newline, 0x62, newline]] (List.prefix_refl _)
  exact absurd handed (by decide)

end Ykp.Firmware
