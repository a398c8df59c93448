import Ykp.Firmware.QosRun

/-! What the retransmission engine sends of a packet, and when its timer runs. -/

namespace Ykp.Firmware

/-- The timer runs exactly while a slot is active. -/
def YkpQosEngine.TimerRight (engine : YkpQosEngine) : Prop :=
  engine.timerRunning = engine.slots.any (·.active)

/-- Looking at the timer sets it right, unless it was stopped before. -/
theorem timerRight_check {engine : YkpQosEngine} (running : engine.timerRunning = true) :
    (checkAndStopTimer engine).TimerRight := by
  unfold checkAndStopTimer YkpQosEngine.TimerRight
  split
  · rename_i any
    rw [running, any]
  · rename_i none
    exact ((Bool.not_eq_true _).mp none).symm

/-- An active slot makes the timer run. -/
theorem YkpQosEngine.TimerRight.runs {engine : YkpQosEngine} (right : engine.TimerRight)
    {slot : YkpPending} (member : slot ∈ engine.slots) (active : slot.active = true) :
    engine.timerRunning = true :=
  right.trans (List.any_eq_true.mpr ⟨slot, member, active⟩)

/-- Slots that are changed, but neither released nor taken, leave the timer right. -/
theorem timerRight_map {engine after : YkpQosEngine} (right : engine.TimerRight)
    {change : YkpPending → YkpPending} (slots : after.slots = engine.slots.map change)
    (timer : after.timerRunning = engine.timerRunning)
    (keeps : ∀ slot ∈ engine.slots, (change slot).active = slot.active) : after.TimerRight := by
  have same : (engine.slots.map change).map (·.active) = engine.slots.map (·.active) := by
    rw [List.map_map]
    exact List.map_congr_left keeps
  have flags (slots : List YkpPending) : slots.any (·.active) = (slots.map (·.active)).any id := by
    rw [List.any_map]
    rfl
  unfold YkpQosEngine.TimerRight at *
  rw [timer, right, slots, flags, flags, same]

/-- A packet that was accepted keeps the timer running. -/
theorem timerRight_enqueue {engine : YkpQosEngine} (right : engine.TimerRight) (packetId : Nat)
    (data : Bytes) (qos : Qos) (nowUs : Nat) :
    (ykpQosEnqueue engine packetId data qos nowUs).2.2.TimerRight := by
  by_cases kept : (ykpQosEnqueue engine packetId data qos nowUs).1 = true ∧ qos ≠ .qos0
  · obtain ⟨i, found, out⟩ := enqueue_accepted kept.1 kept.2
    obtain ⟨inside, -⟩ := List.findIdx?_eq_some_iff_getElem.mp found
    rw [out]
    refine (List.any_eq_true.mpr ⟨takenSlot packetId data qos nowUs, ?_, rfl⟩).symm
    exact List.mem_set inside _
  · rw [enqueue_other kept]
    exact right

/-- An acknowledgement leaves the timer right. -/
theorem timerRight_ack {engine : YkpQosEngine} (right : engine.TimerRight)
    (packetId nowUs : Nat) : (ykpQosAck engine packetId nowUs).TimerRight := by
  unfold ykpQosAck
  split
  · exact right
  · rename_i i found
    -- The slot that is released was active, so the timer ran.
    obtain ⟨inside, held, -⟩ := List.findIdx?_eq_some_iff_getElem.mp found
    simp only [Bool.and_eq_true] at held
    exact timerRight_check (right.runs (List.getElem_mem inside) held.1.1)

/-- A PUBCOMP leaves the timer right. -/
theorem timerRight_pubcomp {engine : YkpQosEngine} (right : engine.TimerRight) (packetId : Nat) :
    (ykpQosPubcomp engine packetId).TimerRight := by
  unfold ykpQosPubcomp
  dsimp only
  split
  · rename_i completes
    obtain ⟨slot, member, held⟩ := List.any_eq_true.mp completes
    simp only [YkpPending.holdsQos2, Bool.and_eq_true] at held
    exact timerRight_check (right.runs member held.1.1.1)
  · rename_i none
    refine timerRight_map right rfl rfl fun slot member => ?_
    -- No slot is released.
    split
    · rename_i completes
      exact absurd (List.any_eq_true.mpr ⟨slot, member, completes⟩) none
    · rfl

/-- A tick leaves the timer right. -/
theorem timerRight_tick {engine : YkpQosEngine} (right : engine.TimerRight) (nowUs : Nat) :
    (ykpQosTick engine nowUs).2.TimerRight := by
  have zipped : engine.slots.zip (engine.slots.map (tickSlot (nowUs / 1000))) =
      engine.slots.map fun slot => (slot, tickSlot (nowUs / 1000) slot) := by
    have both := @List.zip_map' _ _ _ id (tickSlot (nowUs / 1000)) engine.slots
    rwa [List.map_id] at both
  unfold ykpQosTick
  dsimp only
  split
  · rename_i released
    rw [zipped, List.any_map] at released
    obtain ⟨slot, member, gone⟩ := List.any_eq_true.mp released
    simp only [Function.comp_apply, Bool.and_eq_true] at gone
    exact timerRight_check (right.runs member gone.1)
  · rename_i none
    rw [zipped, List.any_map] at none
    refine timerRight_map right (List.map_map ..) rfl fun slot member => ?_
    -- A slot that is not released stays as active as it was.
    have stays : ¬ (slot.active = true ∧ (tickSlot (nowUs / 1000) slot).2.active = false) :=
      fun gone => none (List.any_eq_true.mpr ⟨slot, member, by simp [gone]⟩)
    simp only [Function.comp_apply]
    unfold tickSlot at stays ⊢
    split_ifs at stays ⊢
    · rfl
    · simp only [and_true, Bool.not_eq_true] at stays
      exact stays.symm
    · rfl

/-- Every call leaves the timer right. -/
theorem timerRight_step (history : QosHistory) (input : QosInput)
    (right : history.engine.TimerRight) : (qosStep history input).engine.TimerRight := by
  cases input with
  | enqueue packetId data qos nowUs => exact timerRight_enqueue right packetId data qos nowUs
  | ack packetId nowUs => exact timerRight_ack right packetId nowUs
  | pubrec packetId =>
    refine timerRight_map right rfl rfl fun slot _ => ?_
    split <;> rfl
  | pubcomp packetId => exact timerRight_pubcomp right packetId
  | tick nowUs => exact timerRight_tick right nowUs

/-- The bytes an event handed to the send function. -/
def PacketEvent.bytes : PacketEvent → Option Bytes
  | .sent data _ => some data
  | .confirmed => none
  | .released => none

/-- What a tick sends is what its events say, slot by slot. -/
theorem tick_sends (engine : YkpQosEngine) (nowUs : Nat) :
    (ykpQosTick engine nowUs).1 =
      (engine.slots.flatMap (tickEvents (nowUs / 1000))).filterMap PacketEvent.bytes := by
  have one (slot : YkpPending) : (tickEvents (nowUs / 1000) slot).filterMap PacketEvent.bytes =
      (tickSlot (nowUs / 1000) slot).1.toList := by
    unfold tickEvents
    split
    · rename_i data _ same
      rw [same]
      rfl
    · rename_i after same
      rw [same]
      split <;> rfl
  -- The tick itself collects what its slots send.
  have each : (ykpQosTick engine nowUs).1 =
      engine.slots.filterMap fun slot => (tickSlot (nowUs / 1000) slot).1 := by
    unfold ykpQosTick
    dsimp only
    rw [List.filterMap_map]
    rfl
  rw [each, List.filterMap_flatMap]
  simp only [one]
  exact List.filterMap_eq_flatMap_toList _ _

/-- How often a packet was sent. -/
def PacketRecord.sends (record : PacketRecord) : Nat :=
  (record.events.filterMap PacketEvent.bytes).length

/-- A packet was sent once when it was accepted, at most as often again as there are retries, always
with its own bytes, and never after its slot was released. -/
structure PacketRecord.Disciplined (record : PacketRecord) : Prop where
  first : ∃ later nowMs, record.events = later ++ [.sent record.data nowMs]
  atMost : record.sends ≤ 1 + qosMaxRetries
  same : ∀ data nowMs, .sent data nowMs ∈ record.events → data = record.data
  ended : ∀ later earlier, record.events = later ++ .released :: earlier →
    ∀ data nowMs, .sent data nowMs ∉ later

/-- A further event of a packet. -/
def PacketRecord.push (record : PacketRecord) (event : PacketEvent) : PacketRecord :=
  { record with events := event :: record.events }

/-- A packet that was sent and nothing else is disciplined. -/
theorem disciplined_new (packetId : Nat) (data : Bytes) (qos : Qos) (nowMs : Nat) :
    PacketRecord.Disciplined ⟨packetId, data, qos, [.sent data nowMs]⟩ where
  first := ⟨[], nowMs, rfl⟩
  atMost := Nat.le_add_right 1 _
  same _ _ member := (PacketEvent.sent.inj (List.mem_singleton.mp member)).1
  ended later earlier split := by
    have whole : [PacketEvent.sent data nowMs] = later ++ .released :: earlier := split
    have among : PacketEvent.released ∈ [PacketEvent.sent data nowMs] := by
      rw [whole]
      simp
    simp at among

/-- What happens to a packet without sending it again leaves it disciplined. -/
theorem PacketRecord.Disciplined.quiet {record : PacketRecord} (disciplined : record.Disciplined)
    {event : PacketEvent} (silent : event.bytes = none) : (record.push event).Disciplined := by
  have unsent (data : Bytes) (nowMs : Nat) : PacketEvent.sent data nowMs ≠ event := by
    rintro rfl
    cases silent
  obtain ⟨later, nowMs, split⟩ := disciplined.first
  refine ⟨⟨event :: later, nowMs, congrArg (event :: ·) split⟩, ?_, ?_, ?_⟩
  · have count : (record.push event).sends = record.sends := by
      simp [PacketRecord.sends, PacketRecord.push, silent]
    exact count ▸ disciplined.atMost
  · intro data nowMs member
    rcases List.mem_cons.mp member with same | before
    · exact absurd same (unsent data nowMs)
    · exact disciplined.same data nowMs before
  · -- The new event is newer than any release.
    intro later earlier split data nowMs member
    cases later with
    | nil => cases member
    | cons first later =>
      obtain ⟨newest, rest⟩ := List.cons.inj split
      rcases List.mem_cons.mp member with same | before
      · exact unsent data nowMs (same.trans newest.symm)
      · exact disciplined.ended later earlier rest data nowMs before

/-- Sending a packet again leaves it disciplined while it has retries left and is not released. -/
theorem PacketRecord.Disciplined.again {record : PacketRecord} (disciplined : record.Disciplined)
    (nowMs : Nat) (left : record.sends ≤ qosMaxRetries) (held : .released ∉ record.events) :
    (record.push (.sent record.data nowMs)).Disciplined := by
  obtain ⟨later, before, split⟩ := disciplined.first
  refine ⟨⟨.sent record.data nowMs :: later, before, congrArg (_ :: ·) split⟩, ?_, ?_, ?_⟩
  · have count : (record.push (.sent record.data nowMs)).sends = record.sends + 1 := by
      simp [PacketRecord.sends, PacketRecord.push, PacketEvent.bytes]
    rw [count, Nat.add_comm]
    exact Nat.add_le_add_left left 1
  · intro data at_ member
    rcases List.mem_cons.mp member with same | earlier
    · exact (PacketEvent.sent.inj same).1
    · exact disciplined.same data at_ earlier
  · -- There is no release that a copy could follow.
    intro later earlier split
    have among : PacketEvent.released ∈ (record.push (.sent record.data nowMs)).events := by
      rw [split]
      simp
    rcases List.mem_cons.mp among with same | before
    · cases same
    · exact absurd before held

/-- The packet an active slot holds: the slot keeps its bytes, has counted its retries, and was not
released. -/
structure Holds (slot : YkpPending) (record : PacketRecord) : Prop where
  bytes : slot.data = record.data.take qosSlotData
  counted : record.sends = slot.retries + 1
  unreleased : .released ∉ record.events

/-- A slot knows the packet it holds, and all its packets that it could keep whole are
disciplined. -/
structure SlotKept (pair : SlotHistory) : Prop where
  holds : pair.1.active = true → ∃ record older, pair.2 = record :: older ∧ Holds pair.1 record
  disciplined : ∀ record ∈ pair.2, record.data.length ≤ qosSlotData → record.Disciplined

/-- A slot that is released keeps its packets disciplined. -/
theorem SlotKept.release {slot : YkpPending} {records : List PacketRecord}
    (kept : SlotKept (slot, records)) :
    SlotKept ({ slot with active := false }, addEvents [.released] records) where
  holds active := nomatch active
  disciplined := forall_addEvents kept.disciplined fun _ before short => (before short).quiet rfl

/-- No call takes the discipline from a slot. -/
theorem SlotKept.step {slot : YkpPending} {records : List PacketRecord} {input : QosInput}
    {pair : SlotHistory} (kept : SlotKept (slot, records))
    (step : SlotStep slot records input pair) : SlotKept pair := by
  cases step with
  | keep => exact kept
  | accept packetId data qos nowUs free level =>
    refine ⟨fun _ => ⟨_, records, rfl, rfl, rfl, by simp⟩, fun record member short => ?_⟩
    rcases List.mem_cons.mp member with rfl | earlier
    · exact disciplined_new packetId data qos (nowUs / 1000)
    · exact kept.disciplined record earlier short
  | ack => exact kept.release
  | complete => exact kept.release
  | giveUp => exact kept.release
  | confirm packetId held =>
    simp only [YkpPending.holdsQos2, Bool.and_eq_true] at held
    obtain ⟨latest, older, rfl, holds⟩ := kept.holds held.1.1
    -- A confirmation is no release, and the slot goes on with the same packet.
    refine ⟨fun _ => ⟨_, older, rfl, holds.bytes, ?_, ?_⟩,
      forall_addEvents kept.disciplined fun _ before short => (before short).quiet rfl⟩
    · exact holds.counted
    · intro member
      rcases List.mem_cons.mp member with same | before
      · cases same
      · exact holds.unreleased before
  | retry nowUs active due left =>
    obtain ⟨latest, older, rfl, holds⟩ := kept.holds active
    refine ⟨fun _ => ⟨_, older, rfl, holds.bytes, ?_, ?_⟩, fun record member short => ?_⟩
    · exact congrArg (· + 1) holds.counted
    · intro member
      rcases List.mem_cons.mp member with same | before
      · cases same
      · exact holds.unreleased before
    · rcases List.mem_cons.mp member with rfl | earlier
      · -- A packet that the slot could keep whole is sent whole again.
        have whole : slot.data = latest.data :=
          holds.bytes.trans (List.take_of_length_le short)
        have again := (kept.disciplined latest List.mem_cons_self short).again (nowUs / 1000)
          (by rw [holds.counted]; exact left) holds.unreleased
        rw [← whole] at again
        exact again
      · exact kept.disciplined record (List.mem_cons_of_mem _ earlier) short

/-- In every run the timer runs exactly while a slot is active; a packet that is accepted above level
zero is sent once at that moment and is from then on the latest packet of one slot; a tick sends what
it notes with the packets; and every packet of at most 1400 bytes is sent again at most three times,
with its own bytes, and not after its slot was released. -/
theorem qos_discipline (inputs : List QosInput) :
    ((qosRun inputs).engine.timerRunning = true ↔
      ∃ slot ∈ (qosRun inputs).engine.slots, slot.active = true) ∧
    (∀ packetId data qos nowUs, qos ≠ .qos0 →
      (ykpQosEnqueue (qosRun inputs).engine packetId data qos nowUs).1 = true →
      (ykpQosEnqueue (qosRun inputs).engine packetId data qos nowUs).2.1 = [data] ∧
        ∃ i, ∃ inside : i < (qosRun inputs).packets.length,
          (qosStep (qosRun inputs) (.enqueue packetId data qos nowUs)).packets =
            (qosRun inputs).packets.set i
              (⟨packetId, data, qos, [.sent data (nowUs / 1000)]⟩ ::
                (qosRun inputs).packets.get ⟨i, inside⟩)) ∧
    (∀ nowUs, (ykpQosTick (qosRun inputs).engine nowUs).1 =
      ((qosRun inputs).engine.slots.flatMap (tickEvents (nowUs / 1000))).filterMap
        PacketEvent.bytes) ∧
    ∀ records ∈ (qosRun inputs).packets, ∀ record ∈ records,
      record.data.length ≤ qosSlotData → record.Disciplined := by
  have aligned : (qosRun inputs).Aligned :=
    Machine.invariant_reached aligned_step inputs rfl
  have kept : ∀ pair ∈ (qosRun inputs).slots, SlotKept pair := by
    -- What a slot keeps is carried through the run, slot by slot.
    refine @Machine.invariant_reached _ _ qosStep qosStart
      (fun history => ∀ pair ∈ history.slots, SlotKept pair)
      (fun history input before pair member => ?_) inputs fun pair member => ?_
    · obtain ⟨slot, records, there, step⟩ := qosStep_slots history input member
      exact (before _ there).step step
    · obtain ⟨idle, empty⟩ := start_slots member
      refine ⟨fun active => ?_, fun record among => ?_⟩
      · rw [idle] at active
        cases active
      · rw [empty] at among
        cases among
  refine ⟨?_, ?_, tick_sends _, ?_⟩
  · have right : (qosRun inputs).engine.TimerRight :=
      @Machine.invariant_reached _ _ qosStep qosStart (fun history => history.engine.TimerRight)
        timerRight_step inputs rfl
    rw [right, List.any_eq_true]
  · -- The record of an accepted packet begins with the copy that was sent.
    intro packetId data qos nowUs level accepted
    obtain ⟨i, found, out⟩ := enqueue_accepted accepted level
    obtain ⟨inside, -⟩ := List.findIdx?_eq_some_iff_getElem.mp found
    refine ⟨by rw [out], i, aligned ▸ inside, ?_⟩
    simp only [qosStep, out, level, found, ne_eq, not_false_eq_true, and_self, if_true,
      List.map_cons, List.map_nil]
    rw [List.modify_eq_set_get _ (aligned ▸ inside)]
  · intro records member record among short
    obtain ⟨slot, there⟩ := (mem_packets aligned).mp member
    exact (kept _ there).disciplined record among short

end Ykp.Firmware
