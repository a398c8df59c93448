import Ykp.Firmware.QosRun
import Ykp.Firmware.Session

/-! Which packet an acknowledgement releases when sessions follow each other on one engine. -/

namespace Ykp.Firmware

/-- The session with the engine that carries its packets, the id that was drawn last and not yet used,
how many sessions were started or reset, and under which of them each slot was filled. -/
structure SessionQos where
  session : YkpSession
  ctx : SecurityCtx
  engine : YkpQosEngine
  drawn : Option Nat
  era : Nat
  filledIn : List Nat
  deriving DecidableEq, Repr

/-- Everything after its initialisation. -/
def sessionQosStart : SessionQos where
  session := ykpSessionInit
  ctx := ykpSecurityInit
  engine := ykpQosInit
  drawn := none
  era := 0
  filledIn := List.replicate qosMaxPending 0

/-- The calls of the session's and the engine's functions, each with the clock as it reads it. -/
inductive SessionQosInput
  | nextPacketId (nowUs : Nat)
  | setActive (sessionId nowUs : Nat)
  | reset
  /-- A packet under the id just drawn. -/
  | enqueue (data : Bytes) (qos : Qos) (nowUs : Nat)
  | ack (packetId nowUs : Nat)
  | tick (nowUs : Nat)
  deriving DecidableEq, Repr

/-- One call. -/
def sessionQosStep (state : SessionQos) : SessionQosInput → SessionQos
  | .nextPacketId nowUs =>
    let out := ykpSessionNextPacketId state.session nowUs
    { state with session := out.2, drawn := some out.1 }
  | .setActive sessionId nowUs =>
    { state with
      session := ykpSessionSetActive state.session sessionId nowUs
      era := state.era + 1 }
  | .reset =>
    let out := ykpSessionReset state.session state.ctx
    { state with session := out.1, ctx := out.2, era := state.era + 1 }
  | .enqueue data qos nowUs =>
    match state.drawn with
    | none => state
    | some packetId =>
      let out := ykpQosEnqueue state.engine packetId data qos nowUs
      -- Above level zero an accepted packet is kept in the first free slot.
      let kept := if out.1 ∧ qos ≠ .qos0 then state.engine.slots.findIdx? (!·.active) else none
      { state with
        engine := out.2.2
        drawn := none
        filledIn := match kept with
          | none => state.filledIn
          | some i => state.filledIn.set i state.era }
  | .ack packetId nowUs => { state with engine := ykpQosAck state.engine packetId nowUs }
  | .tick nowUs => { state with engine := (ykpQosTick state.engine nowUs).2 }

/-- The state after a list of calls since the initialisation. -/
def sessionQosRun (inputs : List SessionQosInput) : SessionQos :=
  Machine.run sessionQosStep sessionQosStart inputs

/-- An acknowledgement that arrives now, whatever packet it names, releases the slot in which the
current session waits for that packet, and afterwards no slot waits for it. -/
def SessionQos.AcksReleaseCurrent (state : SessionQos) : Prop :=
  ∀ packetId nowUs,
    let after : List YkpPending := (sessionQosStep state (.ack packetId nowUs)).engine.slots
    (∀ (i : Nat) (slot : YkpPending), state.engine.slots[i]? = some slot → slot.holds packetId = true →
      state.filledIn[i]? = some state.era →
        ∃ released, after[i]? = some released ∧ released.active = false) ∧
    ∀ slot ∈ after, slot.holds packetId = false

/-- A packet at level one is accepted only under an id that no slot waits for. -/
def DrawnUnused (state : SessionQos) : SessionQosInput → Prop
  | .enqueue data qos _ => ∀ packetId ∈ state.drawn, data ≠ [] → qos = .qos1 →
      (∃ slot ∈ state.engine.slots, slot.active = false) →
        ∀ slot ∈ state.engine.slots, slot.holds packetId = false
  | _ => True

instance (state : SessionQos) : DecidablePred (DrawnUnused state) := fun input => by
  cases input <;> unfold DrawnUnused <;> infer_instance

/-- The number of slots that wait for a packet. -/
def YkpQosEngine.waitingFor (engine : YkpQosEngine) (packetId : Nat) : Nat :=
  engine.slots.countP (·.holds packetId)

/-- No slot waits for a packet exactly when the number of those that do is zero. -/
theorem waitingFor_eq_zero {engine : YkpQosEngine} {packetId : Nat} :
    engine.waitingFor packetId = 0 ↔ ∀ slot ∈ engine.slots, slot.holds packetId = false := by
  simp [YkpQosEngine.waitingFor, List.countP_eq_zero]

/-- An acknowledgement leaves one slot less that waits for its packet, and all that wait for
others. -/
theorem waitingFor_ack (engine : YkpQosEngine) (packetId nowUs other : Nat) :
    (ykpQosAck engine packetId nowUs).waitingFor other =
      if other = packetId then engine.waitingFor other - 1 else engine.waitingFor other := by
  unfold YkpQosEngine.waitingFor
  rw [ykpQosAck_slots]
  cases found : engine.slots.findIdx? (·.holds packetId) with
  | none =>
    -- Nothing is released, and no slot waits for the packet anyway.
    have others : engine.slots.countP (·.holds packetId) = 0 := by
      rw [List.countP_eq_zero]
      intro slot member
      simp [List.findIdx?_eq_none_iff.mp found slot member]
    by_cases same : other = packetId
    · simp [same, others]
    · simp [same]
  | some i =>
    obtain ⟨front, slot, back, split, rfl, held, -⟩ := findIdx_split found
    have held : slot.holds packetId = true := held
    have released : ∀ id, YkpPending.holds { slot with active := false } id = false := by
      intro id
      simp [YkpPending.holds]
    -- The slot that is found counts for its own packet only.
    have counts : slot.holds other = true ↔ other = packetId := by
      simp only [YkpPending.holds, Bool.and_eq_true, beq_iff_eq] at held ⊢
      constructor
      · intro holds
        exact holds.1.2.symm.trans held.1.2
      · intro same
        exact ⟨⟨held.1.1, held.1.2.trans same.symm⟩, held.2⟩
    have changed : engine.slots.modify front.length (fun slot => { slot with active := false }) =
        front ++ { slot with active := false } :: back := by
      rw [split, List.modify_eq_take_cons_drop (by simp)]
      simp
    dsimp only
    rw [changed, split]
    simp only [List.countP_append, List.countP_cons, released]
    by_cases same : other = packetId
    · rw [if_pos (counts.mpr same), if_pos same]
      simp
    · rw [if_neg (mt counts.mp same), if_neg same]
      simp

/-- A timer tick makes no slot wait for a packet. -/
theorem waitingFor_tick (engine : YkpQosEngine) (nowUs packetId : Nat) :
    (ykpQosTick engine nowUs).2.waitingFor packetId ≤ engine.waitingFor packetId := by
  unfold YkpQosEngine.waitingFor
  rw [ykpQosTick_slots, List.countP_map]
  apply List.countP_mono_left
  intro slot _ holds
  -- A slot that still waits after the tick has kept its packet.
  simp only [Function.comp_apply, YkpPending.holds, tickSlot] at holds ⊢
  split_ifs at holds
  · exact holds
  · simp at holds
  · exact holds

/-- A packet at level one that is accepted makes one more slot wait for it. -/
theorem waitingFor_accept {slots : List YkpPending} {i : Nat}
    (found : slots.findIdx? (!·.active) = some i) (packetId : Nat) (data : Bytes) (qos : Qos)
    (nowUs other : Nat) :
    (slots.set i (takenSlot packetId data qos nowUs)).countP (·.holds other) =
      slots.countP (·.holds other) + if qos = .qos1 ∧ packetId = other then 1 else 0 := by
  obtain ⟨front, slot, back, rfl, rfl, free, -⟩ := findIdx_split found
  -- The slot that was free waited for nothing.
  have idle : slot.holds other = false := by
    have free : slot.active = false := by simpa using free
    simp [YkpPending.holds, free]
  have taken : (takenSlot packetId data qos nowUs).holds other =
      decide (qos = .qos1 ∧ packetId = other) := by
    rw [Bool.eq_iff_iff]
    simp [YkpPending.holds, takenSlot, and_comm]
  simp only [List.set_append_right _ _ (Nat.le_refl _), Nat.sub_self, List.set_cons_zero,
    List.countP_append, List.countP_cons, idle, taken, decide_eq_true_eq]
  simp [Nat.add_assoc]

/-- No two slots wait for one packet. -/
def YkpQosEngine.Single (engine : YkpQosEngine) : Prop :=
  ∀ packetId, engine.waitingFor packetId ≤ 1

/-- An acknowledgement keeps every slot's packet. -/
theorem ykpQosAck_keeps (engine : YkpQosEngine) (packetId nowUs : Nat) {i : Nat}
    {slot : YkpPending} (there : engine.slots[i]? = some slot) :
    ∃ after, (ykpQosAck engine packetId nowUs).slots[i]? = some after ∧
      after.packetId = slot.packetId ∧ after.qos = slot.qos := by
  rw [ykpQosAck_slots]
  cases engine.slots.findIdx? (·.holds packetId) with
  | none => exact ⟨slot, there, rfl, rfl⟩
  | some j =>
    -- Only the slot that was found changes, and only in whether it is active.
    dsimp only
    rw [List.getElem?_modify, there]
    by_cases found : j = i
    · exact ⟨{ slot with active := false }, by simp [found], rfl, rfl⟩
    · exact ⟨slot, by simp [found], rfl, rfl⟩

/-- Acknowledgements release what the session waits for exactly when no two slots wait for one
packet. -/
theorem acksReleaseCurrent_iff (state : SessionQos) :
    state.AcksReleaseCurrent ↔ state.engine.Single := by
  -- After an acknowledgement no slot waits for its packet when at most one did before.
  have none_left : ∀ packetId nowUs,
      (∀ slot ∈ (ykpQosAck state.engine packetId nowUs).slots, slot.holds packetId = false) ↔
        state.engine.waitingFor packetId ≤ 1 := by
    intro packetId nowUs
    rw [← waitingFor_eq_zero, waitingFor_ack, if_pos rfl]
    omega
  constructor
  · intro releases packetId
    exact (none_left packetId 0).mp (releases packetId 0).2
  · intro single packetId nowUs
    have none := (none_left packetId nowUs).mpr (single packetId)
    refine ⟨?_, none⟩
    intro i slot there holds _
    obtain ⟨after, changed, sameId, sameQos⟩ := ykpQosAck_keeps state.engine packetId nowUs there
    refine ⟨after, changed, ?_⟩
    -- The slot still has the packet, so it can only have stopped waiting by its release.
    have idle := none after (List.mem_of_getElem? changed)
    simp only [YkpPending.holds, Bool.and_eq_true, beq_iff_eq] at holds
    simpa [YkpPending.holds, sameId, sameQos, holds.1.2, holds.2] using idle

/-- What a packet under the drawn id adds to the slots that wait for a packet. -/
theorem waitingFor_enqueue (engine : YkpQosEngine) (packetId : Nat) (data : Bytes) (qos : Qos)
    (nowUs other : Nat) :
    (ykpQosEnqueue engine packetId data qos nowUs).2.2.waitingFor other =
      engine.waitingFor other +
        if (data ≠ [] ∧ qos = .qos1 ∧ ∃ slot ∈ engine.slots, slot.active = false) ∧
          packetId = other then 1 else 0 := by
  by_cases kept : (ykpQosEnqueue engine packetId data qos nowUs).1 = true ∧ qos ≠ .qos0
  · obtain ⟨i, found, out⟩ := enqueue_accepted kept.1 kept.2
    have free : ∃ slot ∈ engine.slots, slot.active = false := by
      obtain ⟨front, slot, back, split, -, free, -⟩ := findIdx_split found
      exact ⟨slot, by simp [split], by simpa using free⟩
    have filled : data ≠ [] := by
      intro empty
      simp [ykpQosEnqueue, empty] at kept
    rw [out]
    unfold YkpQosEngine.waitingFor
    rw [waitingFor_accept found]
    simp [filled, free]
  · rw [enqueue_other kept]
    -- A packet at level one with data is refused only when no slot is free.
    have refused : ¬ (data ≠ [] ∧ qos = .qos1 ∧ ∃ slot ∈ engine.slots, slot.active = false) := by
      rintro ⟨filled, rfl, slot, member, free⟩
      apply kept
      obtain ⟨i, found⟩ : ∃ i, engine.slots.findIdx? (!·.active) = some i := by
        rw [← Option.isSome_iff_exists, List.findIdx?_isSome, List.any_eq_true]
        exact ⟨slot, member, by simp [free]⟩
      simp [ykpQosEnqueue, filled, found]
    simp [refused]

/-- A call leaves every packet with at most one slot exactly when it puts no packet under an id that
a slot waits for. -/
theorem single_exactly (state : SessionQos) (input : SessionQosInput)
    (single : state.engine.Single) :
    (sessionQosStep state input).engine.Single ↔ DrawnUnused state input := by
  cases input with
  | nextPacketId | setActive | reset => exact iff_of_true single trivial
  | ack packetId nowUs =>
    refine iff_of_true ?_ trivial
    intro other
    have before := single other
    show (ykpQosAck state.engine packetId nowUs).waitingFor other ≤ 1
    rw [waitingFor_ack]
    split <;> omega
  | tick nowUs =>
    exact iff_of_true (fun other => Nat.le_trans (waitingFor_tick _ _ _) (single other)) trivial
  | enqueue data qos nowUs =>
    unfold sessionQosStep DrawnUnused
    cases drawn : state.drawn with
    | none => simpa using single
    | some packetId =>
      simp only [Option.mem_def, Option.some.injEq, forall_eq', ← waitingFor_eq_zero]
      constructor
      · intro after filled level free
        -- The packet joins the slots that wait for its id, and there is room for one.
        have joined := after packetId
        rw [waitingFor_enqueue, if_pos ⟨⟨filled, level, free⟩, rfl⟩] at joined
        omega
      · intro unused other
        have before := single other
        rw [waitingFor_enqueue]
        split
        · rename_i accepted
          obtain ⟨⟨filled, level, free⟩, rfl⟩ := accepted
          have none := unused filled level free
          omega
        · omega

/-- At the start no slot waits for anything. -/
theorem sessionQosStart_idle (packetId : Nat) :
    sessionQosStart.engine.waitingFor packetId = 0 := by
  rw [waitingFor_eq_zero]
  intro slot member
  rw [List.eq_of_mem_replicate member]
  rfl

/-- In every run acknowledgements release what the current session waits for, and leave no slot that
waits for their packet, exactly when no packet is put under an id that a slot still waits for. -/
theorem acks_release_current_iff (inputs : List SessionQosInput) :
    (∀ earlier, earlier <+: inputs → (sessionQosRun earlier).AcksReleaseCurrent) ↔
      Machine.Always sessionQosStep DrawnUnused sessionQosStart inputs := by
  have exactly : ∀ state input, state.AcksReleaseCurrent →
      ((sessionQosStep state input).AcksReleaseCurrent ↔ DrawnUnused state input) := by
    intro state input
    rw [acksReleaseCurrent_iff, acksReleaseCurrent_iff]
    exact single_exactly state input
  have start : sessionQosStart.AcksReleaseCurrent := by
    rw [acksReleaseCurrent_iff]
    intro packetId
    rw [sessionQosStart_idle]
    omega
  exact Machine.prefixes_iff_always exactly
    (fun state input releases unused => (exactly state input releases).mpr unused) start start

/-- The first packets of two sessions: the acknowledgement of the second releases the first. -/
theorem ack_releases_earlier_session : ¬ ∀ inputs, (sessionQosRun inputs).AcksReleaseCurrent := by
  intro claim
  have releases := claim [.setActive 7 1000, .nextPacketId 2000, .enqueue [1] .qos1 2000,
    .setActive 8 3000, .nextPacketId 4000, .enqueue [2] .qos1 4000]
  obtain ⟨after, there, idle⟩ := (releases 2 5000).1 1 _ rfl (by decide) (by decide)
  cases there
  cases idle

/-- A session starts or ends only when no slot waits at level one and no drawn id is left over, and
its counter does not wrap around. -/
def SettledBefore (state : SessionQos) : SessionQosInput → Prop
  | .nextPacketId _ => state.session.packetCounter + 1 < 2 ^ 32
  | .setActive _ _ | .reset =>
    state.drawn = none ∧ ∀ packetId, state.engine.waitingFor packetId = 0
  | _ => True

/-- The counter is the id drawn last, and every packet that is waited for was drawn before. -/
structure SessionQos.Counted (state : SessionQos) : Prop where
  drawn : ∀ packetId ∈ state.drawn, packetId = state.session.packetCounter
  waiting : ∀ packetId, 0 < state.engine.waitingFor packetId →
    packetId ≤ state.session.packetCounter ∧ packetId ∉ state.drawn

/-- Sessions that are settled before they end keep counting their packets. -/
theorem SessionQos.Counted.step {state : SessionQos} (counted : state.Counted)
    {input : SessionQosInput} (settled : SettledBefore state input) :
    (sessionQosStep state input).Counted := by
  cases input with
  | nextPacketId nowUs =>
    have bounded : state.session.packetCounter + 1 < 2 ^ 32 := settled
    refine ⟨fun packetId drawn => (Option.some.inj drawn).symm, ?_⟩
    intro packetId waits
    have before := (counted.waiting packetId waits).1
    simp only [sessionQosStep, ykpSessionNextPacketId, Option.mem_def, Option.some.injEq,
      Nat.mod_eq_of_lt bounded]
    omega
  | setActive | reset =>
    -- Nothing is waited for, so the counter can start over.
    obtain ⟨none, nothing⟩ := settled
    refine ⟨fun packetId drawn => ?_, fun packetId waits => ?_⟩
    · cases none.symm.trans drawn
    · exact absurd (nothing packetId) (Nat.ne_of_gt waits)
  | enqueue data qos nowUs =>
    unfold sessionQosStep
    cases drawn : state.drawn with
    | none => exact counted
    | some drawnId =>
      refine ⟨(fun packetId drawn => nomatch drawn), ?_⟩
      intro packetId waits
      refine ⟨?_, fun drawn => nomatch drawn⟩
      dsimp only at waits ⊢
      rw [waitingFor_enqueue] at waits
      by_cases before : 0 < state.engine.waitingFor packetId
      · exact (counted.waiting packetId before).1
      · split at waits
        · rename_i joined
          exact Nat.le_of_eq (joined.2 ▸ counted.drawn drawnId drawn)
        · omega
  | ack packetId nowUs =>
    refine ⟨counted.drawn, ?_⟩
    intro other waits
    apply counted.waiting
    have waits : 0 < (ykpQosAck state.engine packetId nowUs).waitingFor other := waits
    rw [waitingFor_ack] at waits
    split at waits <;> omega
  | tick nowUs =>
    refine ⟨counted.drawn, ?_⟩
    intro other waits
    exact counted.waiting other (Nat.lt_of_lt_of_le waits (waitingFor_tick _ _ _))

/-- When sessions are settled before they start or end, every id is drawn unused. -/
theorem drawnUnused_of_settled {inputs : List SessionQosInput}
    (settled : Machine.Always sessionQosStep SettledBefore sessionQosStart inputs) :
    Machine.Always sessionQosStep DrawnUnused sessionQosStart inputs := by
  have start : sessionQosStart.Counted := by
    refine ⟨(fun packetId drawn => nomatch drawn), fun packetId waits => ?_⟩
    have idle : sessionQosStart.engine.waitingFor packetId = 0 := sessionQosStart_idle packetId
    omega
  refine Machine.always_of_invariant (fun _ _ counted settled => counted.step settled) ?_ start
    settled
  intro state input counted _
  cases input with
  | enqueue data qos nowUs =>
    intro packetId drawn _ _ _
    -- A slot that waited for the id would make it one that is not drawn any more.
    rw [← waitingFor_eq_zero]
    by_contra waits
    exact (counted.waiting packetId (Nat.pos_of_ne_zero waits)).2 drawn
  | _ => trivial

end Ykp.Firmware
