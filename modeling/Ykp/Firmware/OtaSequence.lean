import Ykp.Firmware.OtaGate

/-! The chunks of a transfer: what is written to flash, what is hashed, and the chunk counter. -/

namespace Ykp.Firmware

open BigEndian History

/-- The chunk index as the service reads it: zero when the field is missing or no integer of up to 16
bits. A lookup without end gives none. -/
def OtaMessage.chunkIndex (m : OtaMessage) : Option Nat :=
  (TlvLookup.ended (ykpTlvFind m.buf m.len TlvType.chunkIndex.byte)).map fun index =>
    (index.bind (ykpTlvReadUint16 m.buf)).getD 0

/-- The value of the chunk data field, as the lookup returns it. -/
def OtaMessage.chunkData (m : OtaMessage) : Option Bytes :=
  (TlvLookup.ended (ykpTlvFind m.buf m.len TlvType.chunkData.byte)).join.map fun tlv =>
    readBytes m.buf tlv.start tlv.length

/-- The chunk that a message makes the service accept: the expected one, with data that could be
written. -/
def acceptedChunk (s : OtaService) (m : OtaMessage) : Option (Nat × Bytes) :=
  if s.halted = false ∧ OtaAction.ofByte m.actionId = some .chunk ∧ s.state.active = true ∧
      m.chunkIndex = some s.state.nextExpectedChunk ∧ m.env.writeOk = true then
    m.chunkData.map fun data => (s.state.nextExpectedChunk, data)
  else none

/-- The chunks that are accepted while messages are handled, the first one first. -/
def acceptedChunks (sha256 : Bytes → Bytes) (deviceId : DeviceId) :
    OtaService → List OtaMessage → List (Nat × Bytes)
  | _, [] => []
  | s, m :: rest =>
    (acceptedChunk s m).toList ++ acceptedChunks sha256 deviceId (otaStep sha256 deviceId s m) rest

/-- The bytes that an entry has put into the partition. -/
def OtaEvent.written : OtaEvent → Bytes
  | .wrote data true => data
  | _ => []

/-- The bytes written successfully since the most recent announcement. -/
def writtenBytes (s : OtaService) : Bytes := (transfer s.log).reverse.flatMap OtaEvent.written

/-- The bytes of chunks one behind the other. -/
def chunkBytes (chunks : List (Nat × Bytes)) : Bytes := chunks.flatMap Prod.snd

/-- What was written is what was hashed, and consists of the chunks from zero up to the expected one,
each once. -/
structure Sequenced (chunks : List (Nat × Bytes)) (s : OtaService) : Prop where
  written : writtenBytes s = chunkBytes chunks
  hashed : s.shaCtx = some (chunkBytes chunks)
  indices : chunks.map Prod.fst = List.range s.state.nextExpectedChunk

/-- A message that announces a transfer, and is accepted. -/
def AcceptedBegin (sha256 : Bytes → Bytes) (deviceId : DeviceId) (s : OtaService) (m : OtaMessage) :
    Prop :=
  s.halted = false ∧ OtaAction.ofByte m.actionId = some .begin ∧
    (otaStep sha256 deviceId s m).state.active = true

/-- A message that neither announces nor completes a transfer. -/
def OtaMessage.Within (m : OtaMessage) : Prop :=
  OtaAction.ofByte m.actionId ≠ some .begin ∧ OtaAction.ofByte m.actionId ≠ some .complete

/-- A chunk message that changes neither what was written nor what was hashed, nor the counter. -/
def LeavesTransfer (before after : OtaService) : Prop :=
  after.state = before.state ∧ after.log = before.log ∧ after.shaCtx = before.shaCtx

/-- An entry on top of a transfer is the last that was written. -/
theorem writtenBytes_cons {before after : OtaService} {event : OtaEvent}
    (logged : after.log = event :: before.log) (inside : startsTransfer event = false) :
    writtenBytes after = writtenBytes before ++ event.written := by
  have extended : transfer (event :: before.log) = event :: transfer before.log :=
    since_cons_inside before.log inside
  rw [writtenBytes, logged, extended, List.reverse_cons, List.flatMap_append,
    List.flatMap_singleton]
  rfl

/-- An announcement that leaves the service active has started everything over. -/
theorem handleOtaBegin_accepted (deviceId : DeviceId) (env : OtaEnv) (buf : Memory) (len : Nat)
    (s : OtaService) :
    let after := (handleOtaBegin deviceId env buf len s).1
    after.state.active = true → after.log = .opened true :: .beginReceived :: s.log ∧
      after.shaCtx = some [] ∧ after.state.nextExpectedChunk = 0 := by
  -- Every early return leaves the zeroed record inactive.
  simp only [handleOtaBegin]
  split
  · split
    · exact fun active => absurd active Bool.false_ne_true
    · split
      · exact fun active => absurd active Bool.false_ne_true
      · split
        · exact fun active => absurd active Bool.false_ne_true
        · split
          · exact fun active => absurd active Bool.false_ne_true
          · exact fun _ => ⟨rfl, rfl, rfl⟩
  · exact fun active => absurd active Bool.false_ne_true

/-- A message that brings the service the chunk it expects. -/
def BringsChunk (s : OtaService) (m : OtaMessage) (data : Bytes) : Prop :=
  s.state.active = true ∧ m.chunkIndex = some s.state.nextExpectedChunk ∧ m.chunkData = some data

/-- Everything a chunk can do: an expected one is written, and hashed and counted if that succeeds;
any other leaves the transfer as it was. -/
theorem handleOtaChunk_step (deviceId : DeviceId) (m : OtaMessage) (s : OtaService) :
    let after := (handleOtaChunk deviceId m.env m.buf m.len s).1
    (LeavesTransfer s after ∧ ∀ data, ¬ BringsChunk s m data) ∨
      ∃ data, BringsChunk s m data ∧ after.log = .wrote data m.env.writeOk :: s.log ∧
        ((m.env.writeOk = false ∧ after.state.active = false ∧ after.shaCtx = s.shaCtx) ∨
          (m.env.writeOk = true ∧ after.shaCtx = s.shaCtx.map (· ++ data) ∧
            after.state.nextExpectedChunk = (s.state.nextExpectedChunk + 1) % 2 ^ 16)) := by
  unfold BringsChunk OtaMessage.chunkIndex OtaMessage.chunkData
  simp only [handleOtaChunk]
  cases running : s.state.active with
  | false => exact .inl ⟨⟨rfl, rfl, rfl⟩, fun data brings => absurd brings.1 Bool.false_ne_true⟩
  | true =>
    simp only [Bool.not_true, Bool.false_eq_true, if_false]
    cases TlvLookup.ended (ykpTlvFind m.buf m.len TlvType.chunkIndex.byte) with
    | none => exact .inl ⟨⟨rfl, rfl, rfl⟩, fun data brings => absurd brings.2.1 (by simp)⟩
    | some index =>
      simp only [Option.map_some]
      by_cases expected : (index.bind (ykpTlvReadUint16 m.buf)).getD 0 = s.state.nextExpectedChunk
      · rw [if_neg (not_not_intro expected)]
        -- Without an end of the lookup, or without a field, there is no data.
        cases TlvLookup.ended (ykpTlvFind m.buf m.len TlvType.chunkData.byte) with
        | none => exact .inl ⟨⟨rfl, rfl, rfl⟩, fun data brings => absurd brings.2.2 (by simp)⟩
        | some found =>
          cases found with
          | none => exact .inl ⟨⟨rfl, rfl, rfl⟩, fun data brings => absurd brings.2.2 (by simp)⟩
          | some tlv =>
            refine .inr ⟨_, ⟨trivial, congrArg some expected, rfl⟩, ?_⟩
            cases m.env.writeOk with
            | false => exact ⟨rfl, .inl ⟨rfl, rfl, rfl⟩⟩
            | true => exact ⟨rfl, .inr ⟨rfl, rfl, rfl⟩⟩
      · rw [if_pos expected]
        exact .inl ⟨⟨rfl, rfl, rfl⟩, fun data brings => expected (Option.some.inj brings.2.1)⟩

/-- A chunk that is accepted is one that was brought, and could be written. -/
theorem acceptedChunk_eq_some {s : OtaService} {m : OtaMessage} {chunk : Nat × Bytes} :
    acceptedChunk s m = some chunk ↔ s.halted = false ∧
      OtaAction.ofByte m.actionId = some .chunk ∧ BringsChunk s m chunk.2 ∧
      chunk.1 = s.state.nextExpectedChunk ∧ m.env.writeOk = true := by
  obtain ⟨index, data⟩ := chunk
  unfold acceptedChunk BringsChunk
  -- Both sides list the same conditions, once as a guard and once as facts.
  constructor
  · intro accepted
    split at accepted
    · rename_i expected
      obtain ⟨running, action, active, named, ok⟩ := expected
      obtain ⟨found, there, same⟩ := Option.map_eq_some_iff.mp accepted
      cases same
      exact ⟨running, action, ⟨active, named, there⟩, rfl, ok⟩
    · cases accepted
  · rintro ⟨running, action, ⟨active, named, there⟩, same, ok⟩
    have same : index = s.state.nextExpectedChunk := same
    rw [if_pos ⟨running, action, active, named, ok⟩, there, same]
    rfl

/-- Nothing else is accepted. -/
theorem acceptedChunk_eq_none {s : OtaService} {m : OtaMessage}
    (other : s.halted = true ∨ OtaAction.ofByte m.actionId ≠ some .chunk ∨
      ∀ data, ¬ BringsChunk s m data) : acceptedChunk s m = none := by
  cases accepted : acceptedChunk s m with
  | none => rfl
  | some chunk =>
    obtain ⟨running, action, brings, -⟩ := acceptedChunk_eq_some.mp accepted
    rcases other with halted | differs | never
    · cases running.symm.trans halted
    · exact absurd action differs
    · exact absurd brings (never chunk.2)

/-- What says nothing about the transfer leaves its chunks in sequence. -/
theorem Sequenced.congr {chunks : List (Nat × Bytes)} {before after : OtaService}
    (holds : Sequenced chunks before) (written : writtenBytes after = writtenBytes before)
    (hashed : after.shaCtx = before.shaCtx)
    (counter : after.state.nextExpectedChunk = before.state.nextExpectedChunk) :
    Sequenced chunks after :=
  ⟨written.trans holds.written, hashed.trans holds.hashed, counter ▸ holds.indices⟩

/-- The next chunk continues the sequence. -/
theorem Sequenced.next {chunks : List (Nat × Bytes)} {before after : OtaService} {data : Bytes}
    (holds : Sequenced chunks before) (few : chunks.length + 1 < 65536)
    (logged : after.log = .wrote data true :: before.log)
    (hashed : after.shaCtx = before.shaCtx.map (· ++ data))
    (counter : after.state.nextExpectedChunk =
      (before.state.nextExpectedChunk + 1) % 2 ^ 16) :
    Sequenced (chunks ++ [(before.state.nextExpectedChunk, data)]) after := by
  have count : chunks.length = before.state.nextExpectedChunk := by
    have lengths := congrArg List.length holds.indices
    rwa [List.length_map, List.length_range] at lengths
  -- The counter does not wrap around.
  have counter : after.state.nextExpectedChunk = before.state.nextExpectedChunk + 1 := by
    rw [counter, Nat.mod_eq_of_lt (by omega)]
  have bytes : chunkBytes (chunks ++ [(before.state.nextExpectedChunk, data)]) =
      chunkBytes chunks ++ data := by
    simp [chunkBytes]
  refine ⟨?_, ?_, ?_⟩
  · rw [writtenBytes_cons logged rfl, holds.written, bytes]
    rfl
  · rw [hashed, holds.hashed, bytes]
    rfl
  · rw [List.map_append, holds.indices, counter, List.range_succ]
    rfl

/-- A message that is neither a chunk nor the begin or end of a transfer leaves its chunks alone. -/
theorem otaServiceHandle_other {sha256 : Bytes → Bytes} {deviceId : DeviceId} {s : OtaService}
    {m : OtaMessage} (within : m.Within) (other : OtaAction.ofByte m.actionId ≠ some .chunk) :
    let after := (otaServiceHandle sha256 deviceId m.env m.buf m.len m.actionId s).1
    after.state = s.state ∧ after.shaCtx = s.shaCtx ∧ writtenBytes after = writtenBytes s := by
  unfold otaServiceHandle
  -- Begin, chunk and end are excluded; an installation and unknown actions are left.
  split
  · rename_i action
    exact absurd action within.1
  · rename_i action
    exact absurd action other
  · rename_i action
    exact absurd action within.2
  · -- An installation logs entries that are no writes.
    obtain ⟨state, digest, logged | logged⟩ := handleOtaInstall_cases deviceId m.env s
    · refine ⟨state, digest, ?_⟩
      rw [writtenBytes_cons logged rfl]
      exact List.append_nil _
    · refine ⟨state, digest, ?_⟩
      have first : writtenBytes { s with log := .bootPartitionSet true :: s.log } =
          writtenBytes s := by
        rw [@writtenBytes_cons s _ _ rfl rfl]
        exact List.append_nil _
      rw [@writtenBytes_cons { s with log := .bootPartitionSet true :: s.log } _ _ logged rfl, first]
      exact List.append_nil _
  · exact ⟨rfl, rfl, rfl⟩

/-- A message between two announcements continues the sequence by the chunk it makes the service
accept, if any, while the transfer stays active. -/
theorem Sequenced.step {sha256 : Bytes → Bytes} {deviceId : DeviceId} {s : OtaService}
    {chunks : List (Nat × Bytes)} {m : OtaMessage} (within : m.Within)
    (holds : s.state.active = true → Sequenced chunks s)
    (few : (chunks ++ (acceptedChunk s m).toList).length < 65536)
    (active : (otaStep sha256 deviceId s m).state.active = true) :
    Sequenced (chunks ++ (acceptedChunk s m).toList) (otaStep sha256 deviceId s m) := by
  cases halted : s.halted with
  | true =>
    -- Behind the restart of the device nothing is handled.
    have same : otaStep sha256 deviceId s m = s := if_pos halted
    rw [same] at active ⊢
    rw [acceptedChunk_eq_none (.inl halted), Option.toList_none, List.append_nil]
    exact holds active
  | false =>
    have handled : otaStep sha256 deviceId s m =
        (otaServiceHandle sha256 deviceId m.env m.buf m.len m.actionId s).1 :=
      if_neg (by simp [halted])
    rw [handled] at active ⊢
    by_cases action : OtaAction.ofByte m.actionId = some .chunk
    · simp only [otaServiceHandle, action] at active ⊢
      -- The expected chunk is accepted unless the write fails, and then the transfer ends.
      obtain ⟨⟨state, logged, digest⟩, never⟩ | ⟨data, brings, logged, written⟩ :=
        handleOtaChunk_step deviceId m s
      · rw [acceptedChunk_eq_none (.inr (.inr never)), Option.toList_none, List.append_nil]
        have before : s.state.active = true := by rwa [state] at active
        refine (holds before).congr ?_ digest (by rw [state])
        rw [writtenBytes, logged, writtenBytes]
      · obtain ⟨-, inactive, -⟩ | ⟨ok, digest, counter⟩ := written
        · cases inactive.symm.trans active
        · have accepted : acceptedChunk s m = some (s.state.nextExpectedChunk, data) :=
            acceptedChunk_eq_some.mpr ⟨halted, action, brings, rfl, ok⟩
          rw [accepted, Option.toList_some, List.length_append, List.length_singleton] at few
          rw [accepted, Option.toList_some]
          exact (holds brings.1).next few (ok ▸ logged) digest counter
    · -- Any other action leaves the transfer alone.
      rw [acceptedChunk_eq_none (.inr (.inl action)), Option.toList_none, List.append_nil]
      obtain ⟨state, digest, same⟩ := @otaServiceHandle_other sha256 deviceId s m within action
      exact (holds (state ▸ active)).congr same digest (by rw [state])

/-- So do any number of such messages. -/
theorem Sequenced.run {sha256 : Bytes → Bytes} {deviceId : DeviceId} {s : OtaService}
    {chunks : List (Nat × Bytes)} {later : List OtaMessage} (within : ∀ m ∈ later, m.Within)
    (holds : s.state.active = true → Sequenced chunks s)
    (few : (chunks ++ acceptedChunks sha256 deviceId s later).length < 65536)
    (active : (Machine.run (otaStep sha256 deviceId) s later).state.active = true) :
    Sequenced (chunks ++ acceptedChunks sha256 deviceId s later)
      (Machine.run (otaStep sha256 deviceId) s later) := by
  -- Each message moves the chunk it brings from those to come to those accepted.
  induction later generalizing s chunks with
  | nil =>
    rw [acceptedChunks, List.append_nil]
    exact holds active
  | cons m rest ih =>
    rw [acceptedChunks, ← List.append_assoc] at few ⊢
    have now : (chunks ++ (acceptedChunk s m).toList).length < 65536 := by
      rw [List.length_append] at few
      omega
    apply ih (fun other member => within other (List.mem_cons_of_mem _ member)) _ few active
    exact fun running => Sequenced.step (within m List.mem_cons_self) holds now running

/-- From an accepted announcement on, until the next one or the completion and for fewer than 65536
chunks, an active transfer has written exactly what it has hashed, which are the chunks from zero up to
the expected one, each once; and a chunk with another index, or without data, changes neither. -/
theorem chunks_sequenced (sha256 : Bytes → Bytes) (deviceId : DeviceId)
    (earlier later : List OtaMessage) (announcement : OtaMessage)
    (accepted : AcceptedBegin sha256 deviceId
      (Machine.run (otaStep sha256 deviceId) otaServiceInit earlier) announcement)
    (within : ∀ m ∈ later, m.Within) :
    let start := Machine.run (otaStep sha256 deviceId) otaServiceInit (earlier ++ [announcement])
    let chunks := acceptedChunks sha256 deviceId start later
    let s := Machine.run (otaStep sha256 deviceId) start later
    (chunks.length < 65536 → s.state.active = true → Sequenced chunks s) ∧
      ∀ m : OtaMessage, OtaAction.ofByte m.actionId = some .chunk →
        m.chunkIndex ≠ some s.state.nextExpectedChunk ∨ m.chunkData = none →
          LeavesTransfer s (otaStep sha256 deviceId s m) := by
  intro start chunks s
  constructor
  · intro few active
    obtain ⟨running, action, begun⟩ := accepted
    have handled : start = (handleOtaBegin deviceId announcement.env announcement.buf
        announcement.len (Machine.run (otaStep sha256 deviceId) otaServiceInit earlier)).1 := by
      simp [start, Machine.run_append, otaStep, running, otaServiceHandle, action]
    have active_ : start.state.active = true := by
      rw [← begun]
      simp [start, Machine.run_append]
    rw [handled] at active_
    obtain ⟨logged, digest, counter⟩ := handleOtaBegin_accepted deviceId announcement.env
      announcement.buf announcement.len _ active_
    rw [← handled] at logged digest counter
    -- The transfer starts out without any chunk.
    have empty : Sequenced [] start := by
      refine ⟨?_, digest, ?_⟩
      · rw [writtenBytes, logged]
        rfl
      · rw [counter]
        rfl
    exact Sequenced.run within (fun _ => empty) few active
  · intro m action other
    cases halted : s.halted with
    | true => rw [otaStep, if_pos halted]; exact ⟨rfl, rfl, rfl⟩
    | false =>
      simp only [otaStep, halted, otaServiceHandle, action]
      obtain ⟨leaves, -⟩ | ⟨data, brings, -⟩ := handleOtaChunk_step deviceId m s
      · exact leaves
      · rcases other with differs | missing
        · exact absurd brings.2.1 differs
        · cases missing.symm.trans brings.2.2

/-- Chunk zero with two bytes, sent twice. -/
def sampleChunks : List OtaMessage :=
  List.replicate 2 ⟨sampleOtaEnv, byteAt [0xBF, 0x0C, 0x00, 0x0D, 0x42, 0x07, 0x08, 0xFF], 8,
    OtaAction.chunk.byte⟩

theorem chunks_sequenced_sample :
    Sequenced [(0, [0x42, 0x07, 0x08])] (Machine.run (otaStep id sampleDevice) otaServiceInit
      (⟨sampleOtaEnv, fun _ => 0, 0, OtaAction.begin.byte⟩ :: sampleChunks)) :=
  (chunks_sequenced id sampleDevice [] sampleChunks
    ⟨sampleOtaEnv, fun _ => 0, 0, OtaAction.begin.byte⟩ ⟨rfl, rfl, rfl⟩
    (by unfold OtaMessage.Within; decide)).1 (by decide) (by decide)

end Ykp.Firmware
