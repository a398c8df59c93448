import Ykp.Firmware.QosRun

/-! Whether a packet is sent again after its receiver has confirmed it. -/

namespace Ykp.Firmware

/-- A packet is not sent again once it was confirmed. -/
def PacketRecord.Separated (record : PacketRecord) : Prop :=
  ∀ later earlier, record.events = later ++ .confirmed :: earlier →
    ∀ data nowMs, .sent data nowMs ∉ later

/-- No packet the engine has accepted was sent again once it was confirmed. -/
def QosHistory.Separated (history : QosHistory) : Prop :=
  ∀ records ∈ history.packets, ∀ record ∈ records, record.Separated

/-- No tick finds a confirmed packet due with a retry left. -/
def ConfirmedNotDue (history : QosHistory) : QosInput → Prop
  | .tick nowUs => ∀ slot ∈ history.engine.slots, slot.active = true →
      slot.waitingPubcomp = true →
        nowUs / 1000 < slot.nextRetryMs ∨ qosMaxRetries ≤ slot.retries
  | _ => True

/-- An active slot knows whether its packet was confirmed. -/
def KnowsPhase (pair : SlotHistory) : Prop :=
  pair.1.active = true → ∃ record older, pair.2 = record :: older ∧
    (.confirmed ∈ record.events ↔ pair.1.waitingPubcomp = true)

/-- No call takes the phase from a slot. -/
theorem KnowsPhase.step {slot : YkpPending} {records : List PacketRecord} {input : QosInput}
    {pair : SlotHistory} (knows : KnowsPhase (slot, records))
    (step : SlotStep slot records input pair) : KnowsPhase pair := by
  -- A packet that was just taken is unconfirmed, and only a PUBREC changes the phase.
  cases step with
  | keep => exact knows
  | accept packetId data qos nowUs => exact fun _ => ⟨_, records, rfl, by simp [takenSlot]⟩
  | ack => exact fun active => nomatch active
  | complete => exact fun active => nomatch active
  | giveUp => exact fun active => nomatch active
  | confirm packetId held =>
    intro active
    obtain ⟨record, older, rfl, -⟩ := knows active
    exact ⟨_, older, rfl, by simp⟩
  | retry nowUs active =>
    intro _
    obtain ⟨record, older, rfl, phase⟩ := knows active
    refine ⟨_, older, rfl, ?_⟩
    rw [← phase]
    simp

/-- What happens to a packet without sending it leaves the phases apart. -/
theorem separated_quiet {records : List PacketRecord} {event : PacketEvent}
    (silent : ∀ data nowMs, .sent data nowMs ≠ event)
    (separated : ∀ record ∈ records, record.Separated) :
    ∀ record ∈ addEvents [event] records, record.Separated := by
  refine forall_addEvents separated fun record before later earlier split data nowMs among => ?_
  -- The new event is the newest, and what is older was in order before.
  cases later with
  | nil => cases among
  | cons first later =>
    obtain ⟨newest, rest⟩ := List.cons.inj split
    rcases List.mem_cons.mp among with same | among
    · exact silent data nowMs (same.trans newest.symm)
    · exact before later earlier rest data nowMs among

/-- A packet that is sent again is in order exactly when it was not confirmed. -/
theorem separated_again {record : PacketRecord} (data : Bytes) (nowMs : Nat) :
    PacketRecord.Separated { record with events := .sent data nowMs :: record.events } ↔
      .confirmed ∉ record.events := by
  constructor
  · intro separated confirmed
    -- The new copy is newer than the confirmation.
    obtain ⟨later, earlier, split⟩ := List.append_of_mem confirmed
    exact separated (.sent data nowMs :: later) earlier (congrArg (_ :: ·) split) data nowMs
      List.mem_cons_self
  · intro unconfirmed later earlier split
    have among : PacketEvent.confirmed ∈ .sent data nowMs :: record.events := by
      have whole : .sent data nowMs :: record.events = later ++ .confirmed :: earlier := split
      rw [whole]
      simp
    rcases List.mem_cons.mp among with same | before
    · cases same
    · exact absurd before unconfirmed

/-- A call whose tick finds no confirmed packet due leaves the phases of a slot's packets apart. -/
theorem separated_step {slot : YkpPending} {records : List PacketRecord} {input : QosInput}
    {pair : SlotHistory} (knows : KnowsPhase (slot, records))
    (separated : ∀ record ∈ records, record.Separated)
    (late : ∀ nowUs, input = .tick nowUs → slot.active = true → slot.waitingPubcomp = true →
      nowUs / 1000 < slot.nextRetryMs ∨ qosMaxRetries ≤ slot.retries)
    (step : SlotStep slot records input pair) : ∀ record ∈ pair.2, record.Separated := by
  cases step with
  | keep => exact separated
  | accept packetId data qos nowUs =>
    intro record member
    rcases List.mem_cons.mp member with rfl | earlier
    · exact (@separated_again ⟨packetId, data, qos, []⟩ data (nowUs / 1000)).mpr List.not_mem_nil
    · exact separated record earlier
  | ack => exact separated_quiet (fun _ _ same => nomatch same) separated
  | complete => exact separated_quiet (fun _ _ same => nomatch same) separated
  | giveUp => exact separated_quiet (fun _ _ same => nomatch same) separated
  | confirm => exact separated_quiet (fun _ _ same => nomatch same) separated
  | retry nowUs active due left =>
    obtain ⟨latest, older, held, phase⟩ := knows active
    obtain rfl : records = latest :: older := held
    have unconfirmed : .confirmed ∉ latest.events := by
      intro confirmed
      -- A confirmed packet is not due, or it has no retry left.
      rcases late nowUs rfl active (phase.mp confirmed) with early | exhausted
      · exact absurd due (Nat.not_le.mpr early)
      · exact absurd left (Nat.not_lt.mpr exhausted)
    intro record member
    rcases List.mem_cons.mp member with rfl | before
    · exact (separated_again slot.data (nowUs / 1000)).mpr unconfirmed
    · exact separated record (List.mem_cons_of_mem _ before)

/-- What the separation rests on: every slot knows its phase, and the packets so far are in order. -/
structure InPhase (history : QosHistory) : Prop where
  aligned : history.Aligned
  knows : ∀ pair ∈ history.slots, KnowsPhase pair
  separated : history.Separated

/-- A call leaves all packets in order exactly when its tick finds no confirmed packet due. -/
theorem inPhase_exactly (history : QosHistory) (input : QosInput) (inPhase : InPhase history) :
    (qosStep history input).Separated ↔ ConfirmedNotDue history input := by
  have separated := (forall_packets_iff inPhase.aligned).mp inPhase.separated
  rw [QosHistory.Separated, forall_packets_iff (aligned_step history input inPhase.aligned)]
  constructor
  · intro after
    cases input with
    | enqueue | ack | pubrec | pubcomp => trivial
    | tick nowUs =>
      intro slot member active confirmed
      by_contra due
      obtain ⟨due, left⟩ := not_or.mp due
      obtain ⟨records, there⟩ := mem_engine_slots inPhase.aligned member
      obtain ⟨record, older, held, phase⟩ := inPhase.knows _ there active
      obtain rfl : records = record :: older := held
      -- The tick sends the packet again, whatever its phase is.
      have retried : tickEvents (nowUs / 1000) slot = [.sent slot.data (nowUs / 1000)] := by
        simp only [tickEvents, tickSlot, active, due, left, Bool.true_eq_false, or_self, if_false]
      rw [tick_slots] at after
      have again := after _ (List.mem_map_of_mem there)
      rw [retried] at again
      exact (separated_again slot.data (nowUs / 1000)).mp (again _ List.mem_cons_self)
        (phase.mpr confirmed)
  · intro late pair member
    obtain ⟨slot, records, there, step⟩ := qosStep_slots history input member
    refine separated_step (inPhase.knows _ there) (separated _ there) ?_ step
    rintro nowUs rfl
    exact late slot (List.of_mem_zip there).1

/-- A call whose tick finds no confirmed packet due keeps the engine in phase. -/
theorem inPhase_step (history : QosHistory) (input : QosInput) (inPhase : InPhase history)
    (late : ConfirmedNotDue history input) : InPhase (qosStep history input) where
  aligned := aligned_step history input inPhase.aligned
  knows pair member := by
    obtain ⟨slot, records, there, step⟩ := qosStep_slots history input member
    exact (inPhase.knows _ there).step step
  separated := (inPhase_exactly history input inPhase).mpr late

/-- In every run no packet is sent again after it was confirmed exactly when no tick finds a confirmed
packet due with a retry left. -/
theorem phases_separated_iff (inputs : List QosInput) :
    (∀ earlier, earlier <+: inputs → (qosRun earlier).Separated) ↔
      Machine.Always qosStep ConfirmedNotDue qosStart inputs := by
  have start : InPhase qosStart := by
    refine ⟨rfl, fun pair member active => ?_, fun records member => ?_⟩
    · rw [(start_slots member).1] at active
      cases active
    · rw [List.eq_of_mem_replicate member]
      simp
  exact Machine.prefixes_iff_always inPhase_exactly inPhase_step start start.separated

/-- A packet at level two that was confirmed is sent again by the next tick. -/
theorem confirmed_sent_again : ¬ ∀ inputs, (qosRun inputs).Separated := by
  intro claim
  have again := claim [.enqueue 7 [1] .qos2 0, .pubrec 7, .tick 500000]
    [⟨7, [1], .qos2, [.sent [1] 500, .confirmed, .sent [1] 0]⟩] (by decide) _ List.mem_cons_self
  exact again [.sent [1] 500] [.sent [1] 0] rfl [1] 500 List.mem_cons_self

end Ykp.Firmware
