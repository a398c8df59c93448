import Ykp.Firmware.BleLines
import Ykp.Foundation.Buffer

/-! The accumulator of the receiver in its memory: every access checked, and what it represents. -/

namespace Ykp.Firmware

open Buffer

/-- The memory that is allocated for the accumulator, with what was in it before. -/
abbrev RxMemory := { bytes : Bytes // bytes.length = rxBufSize }

/-- The accumulator and its length. -/
structure RxState where
  rxBuffer : Option Bytes
  rxAccumulationLen : Int
  deriving DecidableEq, Repr

/-- The service is started; nothing is written to the memory, if there is any. -/
def RxState.start (memory : Option RxMemory) : RxState := ⟨memory.map Subtype.val, 0⟩

/-- What a message leads to: the state, the length that is left behind a line, and its command. -/
structure RxTurn where
  state : RxState
  remaining : Option Int
  handed : Option BleCommand
  deriving DecidableEq, Repr

/-- A message is copied behind what was accumulated, and a terminator behind it. -/
def rxAppend (rxBuffer : Bytes) (len : Int) (data : Bytes) : Option Bytes := do
  let rxBuffer ← store rxBuffer len data
  store rxBuffer (len + data.length) [0]

/-- A line is cut in place: its end and its first delimiter become terminators. -/
def rxCommand (rxBuffer : Bytes) (newlineAt : Nat) : Option (Bytes × BleCommand) := do
  let rxBuffer ← store rxBuffer newlineAt [0]
  match ← search 0 delimiter rxBuffer with
  | none => return (rxBuffer, ⟨← stringAt 0 rxBuffer 0, none⟩)
  | some delim =>
    let rxBuffer ← store rxBuffer delim [0]
    return (rxBuffer, ⟨← stringAt 0 rxBuffer 0, some (← stringAt 0 rxBuffer (delim + 1))⟩)

/-- What stands behind a line is moved to the start. -/
def rxShift (rxBuffer : Bytes) (processedLen remaining : Int) : Option RxState :=
  if 0 < remaining then do
    let rest ← load rxBuffer processedLen remaining
    let rxBuffer ← store rxBuffer 0 rest
    let rxBuffer ← store rxBuffer remaining [0]
    return ⟨some rxBuffer, remaining⟩
  else do
    let rxBuffer ← store rxBuffer 0 [0]
    return ⟨some rxBuffer, 0⟩

/-- A message is processed; there is no turn if an access falls outside of the memory. -/
def rxTurn (state : RxState) (data : Bytes) : Option RxTurn :=
  match state.rxBuffer with
  | none => some ⟨state, none, none⟩
  | some rxBuffer =>
    let len := state.rxAccumulationLen
    if rxBufSize - 1 ≤ len + data.length then do
      let rxBuffer ← store rxBuffer 0 [0]
      return ⟨⟨some rxBuffer, 0⟩, none, none⟩
    else do
      let rxBuffer ← rxAppend rxBuffer len data
      let len := len + data.length
      match ← search 0 newline rxBuffer with
      | none => return ⟨⟨some rxBuffer, len⟩, none, none⟩
      | some newlineAt =>
        let (rxBuffer, command) ← rxCommand rxBuffer newlineAt
        let processedLen : Int := newlineAt + 1
        let remaining := len - processedLen
        return ⟨← rxShift rxBuffer processedLen remaining, some remaining, some command⟩

/-- The state behind a message. -/
def rxStep (state : RxState) (data : Bytes) : RxState := (rxTurn state data).elim state RxTurn.state

/-- The state after a list of messages. -/
def rxRun (memory : Option RxMemory) (messages : List Bytes) : RxState :=
  Machine.run rxStep (.start memory) messages

/-- A length leaves room for a terminator and one byte more. -/
def RxState.LengthBounded (state : RxState) : Prop :=
  0 ≤ state.rxAccumulationLen ∧ state.rxAccumulationLen ≤ rxBufSize - 2

/-- Behind what was accumulated stands a terminator. -/
def RxState.Terminated (state : RxState) : Prop :=
  ∀ rxBuffer ∈ state.rxBuffer, rxBuffer[state.rxAccumulationLen.toNat]? = some 0

/-- Every access of a turn falls into the memory, and no length behind a line is negative. -/
def TurnSafe (state : RxState) (data : Bytes) : Prop :=
  ∃ turn, rxTurn state data = some turn ∧ ∀ remaining ∈ turn.remaining, 0 ≤ remaining

/-- A message that fits stands behind what was accumulated, with a terminator. -/
theorem rxAppend_eq {rest data : Bytes} (fits : data.length < rest.length) (text : Bytes) :
    ∃ back, rxAppend (text ++ rest) text.length data = some (text ++ data ++ 0 :: back) ∧
      data.length + (back.length + 1) = rest.length := by
  -- The terminator goes over the first byte behind the message.
  obtain ⟨old, back, behind⟩ := List.exists_cons_of_length_pos
    (show 0 < (rest.drop data.length).length by rw [List.length_drop]; omega)
  refine ⟨back, ?_, ?_⟩
  · have position : (text.length : Int) + data.length = (text ++ data).length := by
      rw [List.length_append]
      rfl
    unfold rxAppend
    rw [store_append text data (Nat.le_of_lt fits), behind, position]
    exact store_item (text ++ data) back old 0
  · have lengths := congrArg List.length behind
    rw [List.length_drop, List.length_cons] at lengths
    omega

/-- The end of a line is found where it is found in the bytes that were accumulated. -/
theorem search_eq (text back : Bytes) (byte : UInt8) :
    search 0 byte (text ++ 0 :: back) = some (strchr text byte) :=
  search_terminated 0 byte text back

/-- A string in front of a terminator is read as a whole. -/
theorem stringAt_eq (front : Bytes) {text : Bytes} (noNul : ∀ byte ∈ text, byte ≠ 0) (back : Bytes) :
    stringAt 0 (front ++ (text ++ 0 :: back)) front.length = some text :=
  stringAt_append front (fun member => noNul 0 member rfl) back

/-- A line is cut in place and handed over as the bytes it consists of. -/
theorem rxCommand_eq {line : Bytes} (noNul : ∀ byte ∈ line, byte ≠ 0) (back : Bytes) :
    ∃ cut, rxCommand (line ++ newline :: back) line.length =
        some (cut ++ 0 :: back, commandOf line) ∧ cut.length = line.length := by
  unfold rxCommand commandOf
  simp only [store_item, search_eq, Option.bind_eq_bind, Option.bind_some]
  cases found : strchr line delimiter with
  | none =>
    refine ⟨line, ?_, rfl⟩
    have whole : stringAt 0 (line ++ 0 :: back) 0 = some line := stringAt_eq [] noNul back
    rw [whole]
    rfl
  | some delim =>
    -- The delimiter becomes the terminator of the first part, the line end that of the second.
    obtain ⟨json, hmac, rfl, rfl⟩ := strchr_split found
    obtain ⟨taken, dropped⟩ := take_drop_found json hmac delimiter
    have jsonNoNul : ∀ byte ∈ json, byte ≠ 0 :=
      fun byte member => noNul byte (List.mem_append_left _ member)
    have hmacNoNul : ∀ byte ∈ hmac, byte ≠ 0 :=
      fun byte member => noNul byte (List.mem_append_right _ (List.mem_cons_of_mem _ member))
    refine ⟨json ++ 0 :: hmac, ?_, by simp⟩
    have first : stringAt 0 (json ++ 0 :: (hmac ++ 0 :: back)) 0 = some json :=
      stringAt_eq [] jsonNoNul _
    have second : stringAt 0 (json ++ 0 :: (hmac ++ 0 :: back)) (json.length + 1) = some hmac := by
      have behind := stringAt_eq (json ++ [0]) hmacNoNul back
      simpa using behind
    simp only [List.append_assoc, List.cons_append, store_item, Option.bind_some, first, second,
      taken, dropped]
    rfl

/-- What stands behind a line is moved to the start, with a terminator behind it. -/
theorem rxShift_eq {front : Bytes} (line : 0 < front.length) (text back : Bytes) :
    ∃ rest, rxShift (front ++ text ++ 0 :: back) front.length text.length =
        some ⟨some (text ++ 0 :: rest), text.length⟩ ∧
      (text ++ 0 :: rest).length = (front ++ text ++ 0 :: back).length := by
  unfold rxShift
  have larger : text.length < (front ++ text ++ 0 :: back).length := by
    simp only [List.length_append, List.length_cons]
    omega
  -- Something is left of the old bytes behind those that are moved.
  obtain ⟨old, rest, behind⟩ := List.exists_cons_of_length_pos
    (show 0 < ((front ++ text ++ 0 :: back).drop text.length).length by
      rw [List.length_drop]; omega)
  have lengths := congrArg List.length behind
  rw [List.length_drop, List.length_cons] at lengths
  refine ⟨rest, ?_, by rw [List.length_append, List.length_cons]; omega⟩
  cases text with
  | nil =>
    rw [List.length_nil, List.drop_zero] at behind
    rw [if_neg (by simp), behind]
    exact congrArg (Option.bind · _) (store_item [] rest old 0)
  | cons byte more =>
    rw [if_pos (by simp), load_append]
    simp only [Option.bind_eq_bind, Option.bind_some]
    rw [store_zero (Nat.le_of_lt larger), behind]
    simp only [Option.bind_some]
    rw [store_item]
    rfl

/-- A line is handed over, and what stands behind it is kept. -/
theorem rxLine_eq {line : Bytes} (noNul : ∀ byte ∈ line, byte ≠ 0) (kept back : Bytes) :
    ∃ cut rest, rxCommand (line ++ newline :: (kept ++ 0 :: back)) line.length =
        some (cut, commandOf line) ∧
      rxShift cut (line.length + 1) kept.length = some ⟨some (kept ++ 0 :: rest), kept.length⟩ ∧
      (kept ++ 0 :: rest).length = line.length + 1 + (kept.length + (back.length + 1)) := by
  obtain ⟨cut, commanded, cutLength⟩ := rxCommand_eq noNul (kept ++ 0 :: back)
  obtain ⟨rest, shifted, sizes⟩ := rxShift_eq (show 0 < (cut ++ [0]).length by simp) kept back
  -- The line and its end, which is a terminator by now, stand in front of what is moved.
  have position : ((cut ++ [0]).length : Int) = line.length + 1 := by
    simp [cutLength]
  have moved : cut ++ [0] ++ kept ++ 0 :: back = cut ++ 0 :: (kept ++ 0 :: back) := by simp
  rw [moved, position] at shifted
  refine ⟨_, rest, commanded, shifted, sizes.trans ?_⟩
  simp only [List.length_append, List.length_cons, List.length_nil, cutLength]
  omega

/-- In front of a byte that is found there is no terminator. -/
theorem strchr_line {str : Bytes} {byte : UInt8} {found : Nat}
    (finds : strchr str byte = some found) :
    ∃ front back, str = front ++ byte :: back ∧ front.length = found ∧ ∀ other ∈ front, other ≠ 0 := by
  obtain ⟨front, back, layout, length⟩ := strchr_split finds
  refine ⟨front, back, layout, length, ?_⟩
  have inside : found < (cString str).length := (List.findIdx?_eq_some_iff_getElem.mp finds).1
  -- The bytes in front of the one that is found belong to the string.
  have starts : front <+: cString str :=
    List.prefix_of_prefix_length_le (layout ▸ List.prefix_append _ _) (List.takeWhile_prefix _)
      (by omega)
  intro other member
  simpa using List.mem_takeWhile_imp (starts.subset member)

/-- The memory holds a text at its start, and the length says where it ends. -/
structure RxState.Holds (state : RxState) (text rest : Bytes) : Prop where
  buffer : state.rxBuffer = some (text ++ rest)
  length : state.rxAccumulationLen = text.length
  size : (text ++ rest).length = rxBufSize
  room : text.length ≤ rxBufSize - 2

/-- A turn does in the memory what the receiver does with the bytes it accumulated. -/
structure RxTurn.Refines (turn : RxTurn) (before after : JsonTask) : Prop where
  state : ∃ back, turn.state.Holds after.rxBuffer (0 :: back)
  remaining : ∀ remaining ∈ turn.remaining, 0 ≤ remaining
  handed : after.handed = before.handed ++ turn.handed.toList

/-- Every message is processed within the memory, and as the receiver processes it. -/
theorem rxTurn_refines {state : RxState} {task : JsonTask} {rest : Bytes}
    (holds : state.Holds task.rxBuffer rest) (data : Bytes) :
    ∃ turn, rxTurn state data = some turn ∧ turn.Refines task (jsonTask task data) := by
  have size := holds.size
  have room := holds.room
  rw [List.length_append] at size
  unfold rxTurn jsonTask
  rw [holds.buffer, holds.length]
  simp only
  by_cases overflow : rxBufSize - 1 ≤ task.rxBuffer.length + data.length
  · -- What was accumulated is dropped by a terminator at the start.
    rw [if_pos overflow, if_pos (by omega)]
    obtain ⟨old, back, begun⟩ := List.exists_cons_of_length_pos
      (show 0 < (task.rxBuffer ++ rest).length by rw [holds.size]; decide)
    have stored : store (task.rxBuffer ++ rest) 0 [0] = some (0 :: back) := by
      rw [begun]
      exact store_item [] back old 0
    rw [stored]
    refine ⟨⟨⟨some (0 :: back), 0⟩, none, none⟩, rfl, ⟨back, ?_⟩, by simp, by simp⟩
    exact ⟨rfl, rfl, by rw [List.nil_append, length_store stored, List.length_append]; omega, by simp⟩
  · rw [if_neg overflow, if_neg (by omega)]
    have fits : data.length < rest.length := by
      omega
    obtain ⟨back, appended, lengths⟩ := rxAppend_eq fits task.rxBuffer
    rw [appended]
    simp only [Option.bind_eq_bind, Option.bind_some, search_eq]
    cases found : strchr (task.rxBuffer ++ data) newline with
    | none =>
      refine ⟨_, rfl, ⟨back, ⟨rfl, by simp, ?_, ?_⟩⟩, by simp, by simp⟩
      · simp only [List.length_append, List.length_cons]
        omega
      · simp only [List.length_append]
        omega
    | some newlineAt =>
      -- The line goes, and the bytes behind it are kept.
      obtain ⟨line, kept, layout, rfl, noNul⟩ := strchr_line found
      obtain ⟨cut, last, commanded, shifted, sizes⟩ := rxLine_eq noNul kept back
      obtain ⟨taken, dropped⟩ := take_drop_found line kept newline
      have counts := congrArg List.length layout
      simp only [List.length_append, List.length_cons] at counts
      have remaining :
          (task.rxBuffer.length : Int) + data.length - (line.length + 1) = kept.length := by
        omega
      dsimp only
      rw [layout, List.append_assoc, List.cons_append, commanded, remaining]
      simp only [Option.bind_some, shifted, taken, dropped]
      refine ⟨_, rfl, ⟨last, ⟨rfl, rfl, ?_, ?_⟩⟩, ?_, by simp⟩
      · rw [sizes]
        omega
      · show kept.length ≤ rxBufSize - 2
        omega
      · intro left same
        cases same
        exact Int.natCast_nonneg _

/-- The states of the task: there is no memory, or it holds some text. -/
def RxState.Kept (state : RxState) : Prop :=
  state = ⟨none, 0⟩ ∨ ∃ text rest, state.Holds text rest

theorem RxState.Kept.bounded {state : RxState} (kept : state.Kept) : state.LengthBounded := by
  unfold RxState.LengthBounded
  rcases kept with rfl | ⟨text, rest, holds⟩
  · decide
  · have room := holds.room
    simp only [rxBufSize] at room ⊢
    rw [holds.length]
    omega

/-- A text in front of a terminator is terminated. -/
theorem RxState.Holds.terminated {state : RxState} {text back : Bytes}
    (holds : state.Holds text (0 :: back)) : state.Terminated := by
  intro rxBuffer same
  rw [holds.buffer] at same
  cases same
  rw [holds.length, Int.toNat_natCast, List.getElem?_append_right (Nat.le_refl _)]
  simp

/-- Every message has a turn, which keeps the memory and leaves a terminator. -/
theorem RxState.Kept.turn {state : RxState} (kept : state.Kept) (data : Bytes) :
    ∃ turn, rxTurn state data = some turn ∧ turn.state.Kept ∧ turn.state.Terminated ∧
      ∀ remaining ∈ turn.remaining, 0 ≤ remaining := by
  rcases kept with rfl | ⟨text, rest, holds⟩
  · exact ⟨⟨⟨none, 0⟩, none, none⟩, rfl, .inl rfl, nofun, nofun⟩
  · have found : state.Holds (JsonTask.mk text []).rxBuffer rest := holds
    obtain ⟨turn, taken, refines⟩ := rxTurn_refines found data
    obtain ⟨back, after⟩ := refines.state
    exact ⟨turn, taken, .inr ⟨_, _, after⟩, after.terminated, refines.remaining⟩

theorem rxStep_kept {state : RxState} (kept : state.Kept) (data : Bytes) :
    (rxStep state data).Kept ∧ (rxStep state data).Terminated := by
  obtain ⟨turn, taken, after, terminated, -⟩ := kept.turn data
  rw [rxStep, taken]
  exact ⟨after, terminated⟩

theorem start_kept (memory : Option RxMemory) : (RxState.start memory).Kept := by
  cases memory with
  | none => exact .inl rfl
  | some memory => exact .inr ⟨[], memory.1, rfl, rfl, memory.2, by simp⟩

theorem rxRun_kept (memory : Option RxMemory) (messages : List Bytes) :
    (rxRun memory messages).Kept :=
  have keeps : ∀ state data, RxState.Kept state → (rxStep state data).Kept :=
    fun _ data kept => (rxStep_kept kept data).1
  Machine.invariant_reached keeps messages (start_kept memory)

/-- In every run the length is bounded, from the first message on a terminator stands behind what was
accumulated, every access falls into the memory and no length behind a line is negative. -/
structure AccumulatorSafe (memory : Option RxMemory) (messages : List Bytes) : Prop where
  bounded : ∀ received, received <+: messages → (rxRun memory received).LengthBounded
  terminated : ∀ received, received <+: messages → received ≠ [] →
    (rxRun memory received).Terminated
  turns : Machine.Always rxStep TurnSafe (.start memory) messages

theorem accumulator_safe (memory : Option RxMemory) (messages : List Bytes) :
    AccumulatorSafe memory messages := by
  constructor
  · intro received _
    exact (rxRun_kept memory received).bounded
  · intro received _ some_
    -- The newest message left the terminator.
    obtain rfl | ⟨earlier, newest, rfl⟩ := List.eq_nil_or_concat' received
    · exact absurd rfl some_
    · rw [rxRun, Machine.run_append]
      exact (rxStep_kept (rxRun_kept memory earlier) newest).2
  · have keeps : ∀ state data, RxState.Kept state → True → (rxStep state data).Kept :=
      fun _ data kept _ => (rxStep_kept kept data).1
    have safe : ∀ state data, RxState.Kept state → True → TurnSafe state data := by
      intro state data kept _
      obtain ⟨turn, taken, -, -, remaining⟩ := kept.turn data
      exact ⟨turn, taken, remaining⟩
    exact Machine.always_of_invariant keeps safe (start_kept memory)
      (Machine.always_of_forall (fun _ _ => trivial) messages)

/-- Before the first message the memory holds what was in it when it was allocated. -/
theorem start_not_terminated : ¬ ∀ (memory : Option RxMemory) (messages : List Bytes),
    (∀ data ∈ messages, 1 ≤ data.length ∧ data.length ≤ 512) →
      (rxRun memory messages).LengthBounded ∧ (rxRun memory messages).Terminated := by
  intro sound
  let memory : RxMemory := ⟨List.replicate rxBufSize 0xA5, List.length_replicate⟩
  have first : (List.replicate rxBufSize (0xA5 : UInt8))[0]? = some 0 :=
    (sound (some memory) [] nofun).2 memory.1 rfl
  rw [List.getElem?_replicate_of_lt (by decide)] at first
  exact absurd first (by decide)

/-- The memory holds, at its start, what the receiver accumulated of the messages. -/
theorem rxRun_refines (memory : RxMemory) (messages : List Bytes) :
    ∃ rest, (rxRun (some memory) messages).Holds
      (Machine.run jsonTask .start messages).rxBuffer rest := by
  -- The newest message is processed on what the earlier ones left behind.
  induction messages using List.reverseRecOn with
  | nil => exact ⟨memory.1, rfl, rfl, memory.2, Nat.zero_le _⟩
  | append_singleton earlier newest ih =>
    obtain ⟨rest, holds⟩ := ih
    obtain ⟨turn, taken, refines⟩ := rxTurn_refines holds newest
    obtain ⟨back, after⟩ := refines.state
    refine ⟨0 :: back, ?_⟩
    rw [rxRun, Machine.run_append, Machine.run_append]
    have step : Machine.run rxStep (rxRun (some memory) earlier) [newest] = turn.state := by
      show rxStep _ newest = _
      rw [rxStep, taken]
      rfl
    rw [← rxRun, step]
    exact after

/-- The messages are the writes as they are queued. -/
theorem bleRun_queued (writes : List Bytes) :
    bleRun writes = Machine.run jsonTask .start (writes.filterMap gattSvrChrAccess) := by
  induction writes using List.reverseRecOn with
  | nil => rfl
  | append_singleton earlier om ih =>
    rw [bleRun_concat, ih, List.filterMap_append, Machine.run_append, bleWrite]
    -- A write without bytes is not queued.
    cases queued : gattSvrChrAccess om with
    | none => simp [queued]
    | some data => simp [queued]

/-- The memory holds, at its start, the unfinished line of the writes. -/
theorem rxRun_bleRun (memory : RxMemory) (writes : List Bytes) :
    ∃ rest, (rxRun (some memory) (writes.filterMap gattSvrChrAccess)).Holds
      (bleRun writes).rxBuffer rest := by
  rw [bleRun_queued]
  exact rxRun_refines memory _

end Ykp.Firmware
