import Mathlib.Data.List.Basic
import Ykp.Firmware.Qos

/-! Which packets the retransmission engine holds, and what an acknowledgement releases. -/

namespace Ykp.Firmware

/-- A slot that waits for the acknowledgement of a packet at level one. -/
def YkpPending.holds (slot : YkpPending) (packetId : Nat) : Bool :=
  slot.active && slot.packetId == packetId && slot.qos == .qos1

/-- Two slots do not wait for the same packet. -/
def Apart (first second : YkpPending) : Prop :=
  first.active = true → second.active = true → first.packetId ≠ second.packetId

/-- Exactly the slots that wait for a packet are released. -/
def Releases (before after : YkpQosEngine) (packetId : Nat) : Prop :=
  after.slots = before.slots.map fun slot =>
    if slot.holds packetId then { slot with active := false } else slot

instance (before after : YkpQosEngine) (packetId : Nat) :
    Decidable (Releases before after packetId) := inferInstanceAs (Decidable (_ = _))

/-- A slot that is found splits the slots, and none in front of it would do. -/
theorem findIdx_split {slots : List YkpPending} {wanted : YkpPending → Bool} {i : Nat}
    (found : slots.findIdx? wanted = some i) :
    ∃ front slot back, slots = front ++ slot :: back ∧ front.length = i ∧ wanted slot = true ∧
      ∀ other ∈ front, wanted other = false := by
  -- Either the first slot is found, or it is skipped.
  induction slots generalizing i with
  | nil => cases found
  | cons first rest ih =>
    rw [List.findIdx?_cons] at found
    split at found
    · rename_i here
      obtain rfl := Option.some.inj found
      exact ⟨[], first, rest, rfl, rfl, here, by simp⟩
    · rename_i skipped
      obtain ⟨j, later, rfl⟩ := Option.map_eq_some_iff.mp found
      obtain ⟨front, slot, back, rfl, rfl, here, others⟩ := ih later
      refine ⟨first :: front, slot, back, rfl, rfl, here, fun other member => ?_⟩
      rcases List.mem_cons.mp member with rfl | member
      · simpa using skipped
      · exact others other member

/-- Stopping the timer leaves the slots. -/
@[simp] theorem checkAndStopTimer_slots (engine : YkpQosEngine) :
    (checkAndStopTimer engine).slots = engine.slots := by
  unfold checkAndStopTimer
  split <;> rfl

/-- Slots that do not wait for a packet are not released by it. -/
theorem map_release_other {slots : List YkpPending} {packetId : Nat}
    (others : ∀ slot ∈ slots, slot.holds packetId = false) :
    (slots.map fun slot => if slot.holds packetId then { slot with active := false } else slot) =
      slots := by
  have same : ∀ slot ∈ slots,
      (if slot.holds packetId then { slot with active := false } else slot) = slot := by
    intro slot member
    rw [others slot member]
    rfl
  rw [List.map_congr_left same, List.map_id']

/-- An acknowledgement releases exactly the slots that wait for its packet, as long as no two slots
wait for the same one. -/
theorem ykpQosAck_releases {engine : YkpQosEngine} (apart : engine.slots.Pairwise Apart)
    (packetId nowUs : Nat) : Releases engine (ykpQosAck engine packetId nowUs) packetId := by
  -- Without such a slot nothing is released.
  unfold Releases ykpQosAck
  split
  · rename_i none
    have others : ∀ slot ∈ engine.slots, slot.holds packetId = false := by
      simpa [YkpPending.holds] using List.findIdx?_eq_none_iff.mp none
    exact (map_release_other others).symm
  · rename_i i found
    obtain ⟨front, slot, back, split, rfl, held, earlier⟩ := findIdx_split found
    have held : slot.holds packetId = true := held
    -- Behind the slot that is found no other waits for the packet.
    have later : ∀ other ∈ back, other.holds packetId = false := by
      intro other member
      rw [split] at apart
      have different := (List.pairwise_cons.mp (List.pairwise_append.mp apart).2.1).1 other member
      simp only [YkpPending.holds, Bool.and_eq_true, beq_iff_eq] at held
      by_contra holds
      simp only [YkpPending.holds, Bool.not_eq_false, Bool.and_eq_true, beq_iff_eq] at holds
      exact different held.1.1 holds.1.1 (held.1.2.trans holds.1.2.symm)
    rw [checkAndStopTimer_slots]
    dsimp only
    rw [split, List.map_append, List.map_cons, map_release_other earlier, map_release_other later,
      if_pos held, List.modify_eq_take_cons_drop (by simp)]
    simp

/-- The slots hold different packets, each of which was handed to the engine. -/
structure Waiting (enqueued : List Nat) (engine : YkpQosEngine) : Prop where
  apart : engine.slots.Pairwise Apart
  known : ∀ slot ∈ engine.slots, slot.active = true → slot.packetId ∈ enqueued

/-- No packet waits at the start. -/
theorem waiting_init : Waiting [] ykpQosInit := by
  -- Every slot starts out zeroed.
  have idle : ∀ slot ∈ ykpQosInit.slots, slot.active = false := by
    intro slot member
    rw [List.eq_of_mem_replicate member]
  refine ⟨List.pairwise_of_forall_mem_list fun first member second _ active => ?_, ?_⟩
  · exact absurd (active.symm.trans (idle first member)) (by simp)
  · intro slot member active
    exact absurd (active.symm.trans (idle slot member)) (by simp)

/-- Slots that keep their packets and are released at most keep waiting for different packets. -/
theorem Waiting.map {enqueued : List Nat} {before after : YkpQosEngine}
    (waiting : Waiting enqueued before) {change : YkpPending → YkpPending}
    (slots : after.slots = before.slots.map change)
    (keeps : ∀ slot, (change slot).packetId = slot.packetId ∧
      ((change slot).active = true → slot.active = true)) : Waiting enqueued after := by
  constructor
  -- Two slots that are active now were active before, under the same ids.
  · rw [slots, List.pairwise_map]
    refine waiting.apart.imp fun {first second} apart active active' => ?_
    rw [(keeps first).1, (keeps second).1]
    exact apart ((keeps first).2 active) ((keeps second).2 active')
  · intro slot member active
    rw [slots] at member
    obtain ⟨old, there, rfl⟩ := List.mem_map.mp member
    rw [(keeps old).1]
    exact waiting.known old there ((keeps old).2 active)

/-- An acknowledgement leaves the slots waiting for different packets. -/
theorem Waiting.ack {enqueued : List Nat} {engine : YkpQosEngine}
    (waiting : Waiting enqueued engine) (packetId nowUs : Nat) :
    Waiting enqueued (ykpQosAck engine packetId nowUs) := by
  refine waiting.map (ykpQosAck_releases waiting.apart packetId nowUs) fun slot => ?_
  -- A released slot waits for nothing.
  split
  · exact ⟨rfl, fun active => by cases active⟩
  · exact ⟨rfl, id⟩

/-- A timer tick looks at every slot on its own. -/
theorem ykpQosTick_slots (engine : YkpQosEngine) (nowUs : Nat) :
    (ykpQosTick engine nowUs).2.slots =
      engine.slots.map fun slot => (tickSlot (nowUs / 1000) slot).2 := by
  -- Looking at the timer leaves the slots.
  unfold ykpQosTick
  dsimp only
  split
  · rw [checkAndStopTimer_slots, List.map_map]
    rfl
  · rw [List.map_map]
    rfl

/-- So does a timer tick. -/
theorem Waiting.tick {enqueued : List Nat} {engine : YkpQosEngine}
    (waiting : Waiting enqueued engine) (nowUs : Nat) :
    Waiting enqueued (ykpQosTick engine nowUs).2 := by
  refine waiting.map (ykpQosTick_slots engine nowUs) fun slot => ?_
  -- A slot that is due is sent again, or given up.
  unfold tickSlot
  split_ifs
  · exact ⟨rfl, id⟩
  · exact ⟨rfl, fun active => by cases active⟩
  · exact ⟨rfl, id⟩

/-- A packet under a new id joins the packets that wait. -/
theorem Waiting.enqueue {enqueued : List Nat} {engine : YkpQosEngine}
    (waiting : Waiting enqueued engine) {packetId : Nat} (fresh : packetId ∉ enqueued)
    (data : Bytes) (qos : Qos) (nowUs : Nat) :
    Waiting (packetId :: enqueued) (ykpQosEnqueue engine packetId data qos nowUs).2.2 := by
  have older : Waiting (packetId :: enqueued) engine :=
    ⟨waiting.apart, fun slot member active => List.mem_cons_of_mem _ (waiting.known slot member active)⟩
  -- Empty data, the lowest level and a full engine leave the slots.
  unfold ykpQosEnqueue
  split_ifs
  · exact older
  · exact older
  split
  · exact older
  · rename_i i found
    obtain ⟨front, slot, back, split, rfl, -, -⟩ := findIdx_split found
    -- The new packet differs from every one that waits.
    have different : ∀ other ∈ engine.slots, other.active = true → other.packetId ≠ packetId := by
      intro other member active same
      exact fresh (same ▸ waiting.known other member active)
    have apart := waiting.apart
    rw [split] at apart different
    obtain ⟨left, right, across⟩ := List.pairwise_append.mp apart
    have rightTail := (List.pairwise_cons.mp right).2
    simp only [split, List.set_append_right _ _ (Nat.le_refl _), Nat.sub_self, List.set_cons_zero]
    -- The slot that was free takes the packet, between the others.
    constructor
    · refine List.pairwise_append.mpr ⟨left, List.pairwise_cons.mpr ⟨?_, rightTail⟩, ?_⟩
      · intro other member _ active
        exact (different other (by simp [member]) active).symm
      · intro first member second joined
        rcases List.mem_cons.mp joined with rfl | behind
        · intro active _
          exact different first (by simp [member]) active
        · exact across first member second (List.mem_cons_of_mem _ behind)
    · intro other member active
      simp only [List.mem_append, List.mem_cons] at member
      rcases member with member | rfl | member
      · exact older.known other (by rw [split]; simp [member]) active
      · exact List.mem_cons_self
      · exact older.known other (by rw [split]; simp [member]) active

end Ykp.Firmware
