import Ykp.Firmware.Pending
import Ykp.Foundation.Machine

/-! Runs of the retransmission engine, with a record of what became of every packet it accepted. -/

namespace Ykp.Firmware

/-- What happened to a packet that a slot holds. -/
inductive PacketEvent
  /-- Bytes were handed to the send function at a reading of the clock. -/
  | sent (data : Bytes) (nowMs : Nat)
  /-- The receiver confirmed it with a PUBREC. -/
  | confirmed
  | released
  deriving DecidableEq, Repr

/-- A packet that was accepted above level zero, and what happened to it, newest event first. -/
structure PacketRecord where
  packetId : Nat
  data : Bytes
  qos : Qos
  events : List PacketEvent
  deriving DecidableEq, Repr

/-- The engine, the packets that each of its slots has held, latest first, and the last reading of
the clock. -/
structure QosHistory where
  engine : YkpQosEngine
  packets : List (List PacketRecord)
  clockUs : Nat

/-- The engine after its initialisation. -/
def qosStart : QosHistory := ⟨ykpQosInit, List.replicate qosMaxPending [], 0⟩

/-- The calls of the engine's functions, each with the clock as it reads it. -/
inductive QosInput
  | enqueue (packetId : Nat) (data : Bytes) (qos : Qos) (nowUs : Nat)
  | ack (packetId nowUs : Nat)
  | pubrec (packetId : Nat)
  | pubcomp (packetId : Nat)
  | tick (nowUs : Nat)
  deriving DecidableEq, Repr

/-- Events of the packet that a slot holds, which is the latest of its packets. -/
def addEvents (events : List PacketEvent) : List PacketRecord → List PacketRecord
  | [] => []
  | record :: older => { record with events := events ++ record.events } :: older

/-- What further events keep of a packet they keep of all packets of a slot. -/
theorem forall_addEvents {events : List PacketEvent} {records : List PacketRecord}
    {holds : PacketRecord → Prop} (before : ∀ record ∈ records, holds record)
    (keeps : ∀ record, holds record → holds { record with events := events ++ record.events }) :
    ∀ record ∈ addEvents events records, holds record := by
  cases records with
  | nil => exact before
  | cons latest older =>
    intro record member
    -- Only the latest packet gets them.
    rcases List.mem_cons.mp member with rfl | earlier
    · exact keeps latest (before latest List.mem_cons_self)
    · exact before record (List.mem_cons_of_mem _ earlier)

/-- What a tick does to the packet of a slot. -/
def tickEvents (nowMs : Nat) (slot : YkpPending) : List PacketEvent :=
  match tickSlot nowMs slot with
  | (some data, _) => [.sent data nowMs]
  | (none, after) => if slot.active && !after.active then [.released] else []

/-- One call. -/
def qosStep (history : QosHistory) : QosInput → QosHistory
  | .enqueue packetId data qos nowUs =>
    let out := ykpQosEnqueue history.engine packetId data qos nowUs
    let record : PacketRecord :=
      ⟨packetId, data, qos, out.2.1.map fun bytes => .sent bytes (nowUs / 1000)⟩
    -- Above level zero an accepted packet is kept in the first free slot.
    let kept := if out.1 ∧ qos ≠ .qos0 then history.engine.slots.findIdx? (!·.active) else none
    { engine := out.2.2
      packets := match kept with
        | none => history.packets
        | some i => history.packets.modify i (record :: ·)
      clockUs := nowUs }
  | .ack packetId nowUs =>
    { engine := ykpQosAck history.engine packetId nowUs
      packets := match history.engine.slots.findIdx? (·.holds packetId) with
        | none => history.packets
        | some i => history.packets.modify i (addEvents [.released])
      clockUs := nowUs }
  | .pubrec packetId =>
    { history with
      engine := ykpQosPubrec history.engine packetId
      packets := history.engine.slots.zipWith (fun slot records =>
        if slot.holdsQos2 packetId then addEvents [.confirmed] records else records)
        history.packets }
  | .pubcomp packetId =>
    { history with
      engine := ykpQosPubcomp history.engine packetId
      packets := history.engine.slots.zipWith (fun slot records =>
        if slot.holdsQos2 packetId && slot.waitingPubcomp then addEvents [.released] records
        else records) history.packets }
  | .tick nowUs =>
    { engine := (ykpQosTick history.engine nowUs).2
      packets := history.engine.slots.zipWith (fun slot records =>
        addEvents (tickEvents (nowUs / 1000) slot) records) history.packets
      clockUs := nowUs }

/-- The engine after a list of calls since its initialisation. -/
def qosRun (inputs : List QosInput) : QosHistory := Machine.run qosStep qosStart inputs

/-- A slot with the packets it has held. -/
abbrev SlotHistory := YkpPending × List PacketRecord

/-- Every slot with the packets it has held. -/
def QosHistory.slots (history : QosHistory) : List SlotHistory :=
  history.engine.slots.zip history.packets

/-- A slot that just took a packet. -/
def takenSlot (packetId : Nat) (data : Bytes) (qos : Qos) (nowUs : Nat) : YkpPending where
  packetId := packetId
  data := data.take qosSlotData
  qos := qos
  retries := 0
  nextRetryMs := nowUs / 1000
  sentTimeMs := nowUs / 1000
  waitingPubrec := qos == .qos2
  waitingPubcomp := false
  active := true

/-- Everything a call can do to one slot. -/
inductive SlotStep (slot : YkpPending) (records : List PacketRecord) :
    QosInput → SlotHistory → Prop
  | keep (input : QosInput) : SlotStep slot records input (slot, records)
  | accept (packetId : Nat) (data : Bytes) (qos : Qos) (nowUs : Nat) (free : slot.active = false)
      (level : qos ≠ .qos0) : SlotStep slot records (.enqueue packetId data qos nowUs)
        (takenSlot packetId data qos nowUs,
          ⟨packetId, data, qos, [.sent data (nowUs / 1000)]⟩ :: records)
  | ack (packetId nowUs : Nat) (held : slot.holds packetId = true) :
      SlotStep slot records (.ack packetId nowUs)
        ({ slot with active := false }, addEvents [.released] records)
  | confirm (packetId : Nat) (held : slot.holdsQos2 packetId = true) :
      SlotStep slot records (.pubrec packetId)
        ({ slot with waitingPubrec := false, waitingPubcomp := true },
          addEvents [.confirmed] records)
  | complete (packetId : Nat) (held : slot.holdsQos2 packetId = true)
      (confirmed : slot.waitingPubcomp = true) : SlotStep slot records (.pubcomp packetId)
        ({ slot with active := false }, addEvents [.released] records)
  | giveUp (nowUs : Nat) (active : slot.active = true) (due : slot.nextRetryMs ≤ nowUs / 1000)
      (exhausted : qosMaxRetries ≤ slot.retries) : SlotStep slot records (.tick nowUs)
        ({ slot with active := false }, addEvents [.released] records)
  | retry (nowUs : Nat) (active : slot.active = true) (due : slot.nextRetryMs ≤ nowUs / 1000)
      (left : slot.retries < qosMaxRetries) : SlotStep slot records (.tick nowUs)
        ({ slot with
            retries := slot.retries + 1
            nextRetryMs := nowUs / 1000 + qosRetryDelayMs <<< min (slot.retries + 1) 10 },
          addEvents [.sent slot.data (nowUs / 1000)] records)

/-- Two lists changed side by side, entry by entry. -/
private theorem zip_map_zipWith {α β : Type*} (f : α → α) (g : α → β → β) (xs : List α)
    (ys : List β) : (xs.map f).zip (xs.zipWith g ys) =
      (xs.zip ys).map fun pair => (f pair.1, g pair.1 pair.2) := by
  induction xs generalizing ys with
  | nil => rfl
  | cons x xs ih =>
    cases ys with
    | nil => rfl
    | cons y ys => rw [List.map_cons, List.zipWith_cons_cons, List.zip_cons_cons, ih]; rfl

/-- Two lists changed side by side at one index. -/
private theorem zip_modify {α β : Type*} (f : α → α) (g : β → β) (xs : List α) (ys : List β)
    (i : Nat) : (xs.modify i f).zip (ys.modify i g) = (xs.zip ys).modify i (Prod.map f g) := by
  induction xs generalizing ys i with
  | nil => simp
  | cons x xs ih =>
    cases ys with
    | nil => simp
    | cons y ys =>
      cases i with
      | zero => rfl
      | succ i => simp only [List.modify_succ_cons, List.zip_cons_cons, ih]

/-- An entry of a list changed at one index is an old one, or the changed one. -/
private theorem mem_modify {α : Type*} {f : α → α} {i : Nat} {items : List α} {item : α}
    (member : item ∈ items.modify i f) :
    item ∈ items ∨ ∃ old, items[i]? = some old ∧ item = f old := by
  obtain ⟨j, found⟩ := List.mem_iff_getElem?.mp member
  rw [List.getElem?_modify] at found
  split at found
  · rename_i same
    obtain ⟨old, there, rfl⟩ := Option.map_eq_some_iff.mp found
    exact .inr ⟨old, same ▸ there, rfl⟩
  · exact .inl (List.mem_iff_getElem?.mpr ⟨j, by simpa using found⟩)

/-- The slot at an index that was found is as it was wanted. -/
private theorem wanted_of_findIdx {history : QosHistory} {wanted : YkpPending → Bool} {i : Nat}
    {pair : SlotHistory} (found : history.engine.slots.findIdx? wanted = some i)
    (there : history.slots[i]? = some pair) : wanted pair.1 = true := by
  obtain ⟨inside, holds, -⟩ := List.findIdx?_eq_some_iff_getElem.mp found
  have first := (List.getElem?_zip_eq_some.mp there).1
  rw [List.getElem?_eq_getElem inside] at first
  exact Option.some.inj first ▸ holds

/-- An acknowledgement releases the first slot that holds its packet, and no other. -/
theorem ykpQosAck_slots (engine : YkpQosEngine) (packetId nowUs : Nat) :
    (ykpQosAck engine packetId nowUs).slots =
      match engine.slots.findIdx? (·.holds packetId) with
      | none => engine.slots
      | some i => engine.slots.modify i fun slot => { slot with active := false } := by
  have same : (fun p : YkpPending => p.active && p.packetId == packetId && p.qos == .qos1) =
      (·.holds packetId) := rfl
  unfold ykpQosAck
  rw [same]
  cases engine.slots.findIdx? (·.holds packetId) with
  | none => rfl
  | some i => exact checkAndStopTimer_slots _

/-- A tick does to the slots what it does to each of them. -/
theorem tick_slots (history : QosHistory) (nowUs : Nat) :
    (qosStep history (.tick nowUs)).slots = history.slots.map fun pair =>
      ((tickSlot (nowUs / 1000) pair.1).2,
        addEvents (tickEvents (nowUs / 1000) pair.1) pair.2) := by
  unfold QosHistory.slots qosStep
  dsimp only
  rw [ykpQosTick_slots]
  exact zip_map_zipWith _ _ _ _

/-- So does a PUBREC. -/
theorem pubrec_slots (history : QosHistory) (packetId : Nat) :
    (qosStep history (.pubrec packetId)).slots = history.slots.map fun pair =>
      if pair.1.holdsQos2 packetId then
        ({ pair.1 with waitingPubrec := false, waitingPubcomp := true },
          addEvents [.confirmed] pair.2)
      else pair := by
  refine (zip_map_zipWith _ _ _ _).trans (List.map_congr_left fun pair _ => ?_)
  split <;> rfl

/-- So does a PUBCOMP. -/
theorem pubcomp_slots (history : QosHistory) (packetId : Nat) :
    (qosStep history (.pubcomp packetId)).slots = history.slots.map fun pair =>
      if pair.1.holdsQos2 packetId && pair.1.waitingPubcomp then
        ({ pair.1 with active := false }, addEvents [.released] pair.2)
      else pair := by
  have slots : (ykpQosPubcomp history.engine packetId).slots =
      history.engine.slots.map fun slot =>
        if slot.holdsQos2 packetId && slot.waitingPubcomp then { slot with active := false }
        else slot := by
    unfold ykpQosPubcomp
    dsimp only
    split
    · rw [checkAndStopTimer_slots]
    · rfl
  -- The records change beside the slots, by the same condition.
  unfold QosHistory.slots qosStep
  dsimp only
  rw [slots, zip_map_zipWith]
  refine List.map_congr_left fun pair _ => ?_
  split <;> rfl

/-- One slot at a tick is left alone, given up, or sent again. -/
theorem tickSlot_step (slot : YkpPending) (records : List PacketRecord) (nowUs : Nat) :
    SlotStep slot records (.tick nowUs)
      ((tickSlot (nowUs / 1000) slot).2, addEvents (tickEvents (nowUs / 1000) slot) records) := by
  have same : addEvents [] records = records := by
    cases records <;> rfl
  unfold tickEvents tickSlot
  -- It is not due, its retries are used up, or it has one left.
  split_ifs with idle exhausted
  · simp only [Bool.and_not_self, Bool.false_eq_true, if_false, same]
    exact .keep _
  · obtain ⟨active, due⟩ := not_or.mp idle
    have active : slot.active = true := by simpa using active
    simp only [active, Bool.not_false, Bool.and_true, if_true]
    exact .giveUp nowUs active (Nat.not_lt.mp due) exhausted
  · obtain ⟨active, due⟩ := not_or.mp idle
    exact .retry nowUs (by simpa using active) (Nat.not_lt.mp due) (Nat.not_le.mp exhausted)

/-- A packet that was accepted above level zero was sent once and took the first free slot. -/
theorem enqueue_accepted {engine : YkpQosEngine} {packetId nowUs : Nat} {data : Bytes} {qos : Qos}
    (accepted : (ykpQosEnqueue engine packetId data qos nowUs).1 = true) (level : qos ≠ .qos0) :
    ∃ i, engine.slots.findIdx? (!·.active) = some i ∧
      ykpQosEnqueue engine packetId data qos nowUs = (true, [data], { engine with
        slots := engine.slots.set i (takenSlot packetId data qos nowUs)
        timerRunning := true }) := by
  unfold ykpQosEnqueue at accepted ⊢
  split_ifs at accepted ⊢
  split at accepted
  · cases accepted
  · rename_i i found
    exact ⟨i, found, rfl⟩

/-- A packet that was refused, or is sent at level zero, leaves the engine as it was. -/
theorem enqueue_other {engine : YkpQosEngine} {packetId nowUs : Nat} {data : Bytes} {qos : Qos}
    (other : ¬ ((ykpQosEnqueue engine packetId data qos nowUs).1 = true ∧ qos ≠ .qos0)) :
    (ykpQosEnqueue engine packetId data qos nowUs).2.2 = engine := by
  unfold ykpQosEnqueue at other ⊢
  split_ifs at other ⊢ with empty zero
  · rfl
  · rfl
  · split at other
    · rfl
    · exact absurd ⟨rfl, zero⟩ other

/-- What a call leaves in a slot is what one of its steps leaves. -/
theorem qosStep_slots (history : QosHistory) (input : QosInput) {pair : SlotHistory}
    (member : pair ∈ (qosStep history input).slots) :
    ∃ slot records, (slot, records) ∈ history.slots ∧ SlotStep slot records input pair := by
  cases input with
  | enqueue packetId data qos nowUs =>
    by_cases kept : (ykpQosEnqueue history.engine packetId data qos nowUs).1 = true ∧ qos ≠ .qos0
    · -- The packet and its record go to the same index, that of the first free slot.
      obtain ⟨i, found, out⟩ := enqueue_accepted kept.1 kept.2
      unfold QosHistory.slots qosStep at member
      simp only [out, kept.2, found, ne_eq, not_false_eq_true, and_self, if_true,
        List.map_cons, List.map_nil] at member
      rw [List.set_eq_modify, zip_modify] at member
      rcases mem_modify member with old | ⟨old, there, rfl⟩
      · exact ⟨pair.1, pair.2, old, .keep _⟩
      · have free := wanted_of_findIdx found there
        exact ⟨old.1, old.2, List.mem_of_getElem? there,
          .accept packetId data qos nowUs (by simpa using free) kept.2⟩
    · have same := enqueue_other kept
      unfold QosHistory.slots qosStep at member
      simp only [same, kept, if_false] at member
      exact ⟨pair.1, pair.2, member, .keep _⟩
  | ack packetId nowUs =>
    unfold QosHistory.slots qosStep at member
    rw [ykpQosAck_slots] at member
    cases found : history.engine.slots.findIdx? (·.holds packetId) with
    | none =>
      simp only [found] at member
      exact ⟨pair.1, pair.2, member, .keep _⟩
    | some i =>
      -- Only the first slot that holds the packet is released.
      simp only [found, zip_modify] at member
      rcases mem_modify member with old | ⟨old, there, rfl⟩
      · exact ⟨pair.1, pair.2, old, .keep _⟩
      · exact ⟨old.1, old.2, List.mem_of_getElem? there,
          .ack packetId nowUs (wanted_of_findIdx found there)⟩
  | pubrec packetId =>
    rw [pubrec_slots] at member
    obtain ⟨old, there, rfl⟩ := List.mem_map.mp member
    refine ⟨old.1, old.2, there, ?_⟩
    dsimp only
    split
    · rename_i held
      exact .confirm packetId held
    · exact .keep _
  | pubcomp packetId =>
    rw [pubcomp_slots] at member
    obtain ⟨old, there, rfl⟩ := List.mem_map.mp member
    refine ⟨old.1, old.2, there, ?_⟩
    dsimp only
    split
    · rename_i completes
      obtain ⟨held, confirmed⟩ := Bool.and_eq_true_iff.mp completes
      exact .complete packetId held confirmed
    · exact .keep _
  | tick nowUs =>
    rw [tick_slots] at member
    obtain ⟨old, there, rfl⟩ := List.mem_map.mp member
    exact ⟨old.1, old.2, there, tickSlot_step old.1 old.2 nowUs⟩

/-- Every slot has its own list of packets. -/
def QosHistory.Aligned (history : QosHistory) : Prop :=
  history.engine.slots.length = history.packets.length

/-- No call adds or removes a slot. -/
theorem aligned_step (history : QosHistory) (input : QosInput) (aligned : history.Aligned) :
    (qosStep history input).Aligned := by
  unfold QosHistory.Aligned at *
  -- Slots are set, mapped and modified; none of these changes the number of entries.
  cases input with
  | enqueue packetId data qos nowUs =>
    by_cases kept : (ykpQosEnqueue history.engine packetId data qos nowUs).1 = true ∧ qos ≠ .qos0
    · obtain ⟨i, found, out⟩ := enqueue_accepted kept.1 kept.2
      simp [qosStep, out, kept.2, found, aligned]
    · have same := enqueue_other kept
      simp only [qosStep, same, kept, if_false]
      exact aligned
  | ack packetId nowUs =>
    simp only [qosStep, ykpQosAck_slots]
    cases history.engine.slots.findIdx? (·.holds packetId) with
    | none => exact aligned
    | some i => simp [aligned]
  | pubrec packetId => simp [qosStep, ykpQosPubrec, aligned]
  | pubcomp packetId =>
    have slots : (ykpQosPubcomp history.engine packetId).slots.length =
        history.engine.slots.length := by
      unfold ykpQosPubcomp
      dsimp only
      split <;> simp
    simp [qosStep, slots, aligned]
  | tick nowUs => simp [qosStep, ykpQosTick_slots, aligned]

/-- Every packet of a slot is found beside it. -/
theorem mem_packets {history : QosHistory} (aligned : history.Aligned)
    {records : List PacketRecord} :
    records ∈ history.packets ↔ ∃ slot, (slot, records) ∈ history.slots := by
  have second : history.slots.map Prod.snd = history.packets :=
    List.map_snd_zip (Nat.le_of_eq aligned.symm)
  rw [← second, List.mem_map]
  exact ⟨fun ⟨pair, there, same⟩ => ⟨pair.1, same ▸ there⟩, fun ⟨slot, there⟩ => ⟨_, there, rfl⟩⟩

/-- What holds of every packet is what holds of the packets of every slot. -/
theorem forall_packets_iff {history : QosHistory} (aligned : history.Aligned)
    {holds : PacketRecord → Prop} :
    (∀ records ∈ history.packets, ∀ record ∈ records, holds record) ↔
      ∀ pair ∈ history.slots, ∀ record ∈ pair.2, holds record := by
  constructor
  · rintro all ⟨slot, records⟩ member
    exact all records ((mem_packets aligned).mpr ⟨slot, member⟩)
  · intro all records member
    obtain ⟨slot, there⟩ := (mem_packets aligned).mp member
    exact all _ there

/-- So is every slot beside the packets it has held. -/
theorem mem_engine_slots {history : QosHistory} (aligned : history.Aligned) {slot : YkpPending}
    (member : slot ∈ history.engine.slots) : ∃ records, (slot, records) ∈ history.slots := by
  have first : history.slots.map Prod.fst = history.engine.slots :=
    List.map_fst_zip (Nat.le_of_eq aligned)
  rw [← first] at member
  obtain ⟨pair, there, rfl⟩ := List.mem_map.mp member
  exact ⟨pair.2, there⟩

/-- At the start no slot holds a packet, or has held one. -/
theorem start_slots {pair : SlotHistory} (member : pair ∈ qosStart.slots) :
    pair.1.active = false ∧ pair.2 = [] := by
  have both := List.of_mem_zip (show (pair.1, pair.2) ∈ _ from member)
  rw [List.eq_of_mem_replicate both.1]
  exact ⟨rfl, List.eq_of_mem_replicate both.2⟩

end Ykp.Firmware
