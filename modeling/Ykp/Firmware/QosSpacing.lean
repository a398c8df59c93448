import Ykp.Firmware.QosRun

/-! How far apart the retransmission engine sends the copies of a packet. -/

namespace Ykp.Firmware

/-- The clock that a call reads, where it reads one. -/
def QosInput.reading (clockUs : Nat) : QosInput → Nat
  | .enqueue _ _ _ nowUs => nowUs
  | .ack _ nowUs => nowUs
  | .pubrec _ => clockUs
  | .pubcomp _ => clockUs
  | .tick nowUs => nowUs

/-- The clock is not set back. -/
def Steady (history : QosHistory) (input : QosInput) : Prop :=
  history.clockUs ≤ input.reading history.clockUs

instance (history : QosHistory) (input : QosInput) : Decidable (Steady history input) :=
  inferInstanceAs (Decidable (_ ≤ _))

/-- The time of an event that sent the packet. -/
def PacketEvent.time : PacketEvent → Option Nat
  | .sent _ nowMs => some nowMs
  | .confirmed => none
  | .released => none

/-- The times at which a packet was sent, newest first. -/
def PacketRecord.times (record : PacketRecord) : List Nat := record.events.filterMap PacketEvent.time

/-- After the first sending, and after each retry, the delay before the next one has doubled. -/
def Spaced : List Nat → Prop
  | later :: earlier :: older =>
    earlier + qosRetryDelayMs * 2 ^ older.length ≤ later ∧ Spaced (earlier :: older)
  | _ => True

instance decidableSpaced : (times : List Nat) → Decidable (Spaced times)
  | [] => .isTrue trivial
  | [_] => .isTrue trivial
  | later :: earlier :: older =>
    have := decidableSpaced (earlier :: older)
    inferInstanceAs (Decidable
      (earlier + qosRetryDelayMs * 2 ^ older.length ≤ later ∧ Spaced (earlier :: older)))

/-- Every packet the engine has accepted was sent with the delays between. -/
def QosHistory.Spaced (history : QosHistory) : Prop :=
  ∀ records ∈ history.packets, ∀ record ∈ records, Firmware.Spaced record.times

instance (history : QosHistory) : Decidable history.Spaced :=
  inferInstanceAs (Decidable (∀ records ∈ history.packets, _))

/-- No tick comes sooner than the retry delay after a packet was accepted. -/
def FirstRetryLate (history : QosHistory) : QosInput → Prop
  | .tick nowUs => ∀ slot ∈ history.engine.slots, slot.active = true → slot.retries = 0 →
      slot.sentTimeMs + qosRetryDelayMs ≤ nowUs / 1000
  | _ => True

/-- When the packet of an active slot was sent last and earlier, and when it is due. -/
structure Timed (clockMs : Nat) (slot : YkpPending) (last : Nat) (earlier : List Nat) : Prop where
  count : earlier.length = slot.retries
  few : slot.retries ≤ qosMaxRetries
  unretried : slot.retries = 0 →
    last = slot.sentTimeMs ∧ slot.nextRetryMs = slot.sentTimeMs ∧ slot.sentTimeMs ≤ clockMs
  retried : slot.retries ≠ 0 → slot.nextRetryMs = last + qosRetryDelayMs * 2 ^ slot.retries

/-- An active slot is timed after the latest of its packets. -/
def KeepsTime (clockMs : Nat) (pair : SlotHistory) : Prop :=
  pair.1.active = true → ∃ record older last earlier, pair.2 = record :: older ∧
    record.times = last :: earlier ∧ Timed clockMs pair.1 last earlier

/-- A slot that is timed stays so while the clock goes on. -/
theorem Timed.mono {clockMs clockMs' : Nat} {slot : YkpPending} {last : Nat} {earlier : List Nat}
    (timed : Timed clockMs slot last earlier) (later : clockMs ≤ clockMs') :
    Timed clockMs' slot last earlier where
  count := timed.count
  few := timed.few
  unretried first :=
    let ⟨sent, due, before⟩ := timed.unretried first
    ⟨sent, due, Nat.le_trans before later⟩
  retried := timed.retried

/-- Sending the packet again takes the deadline behind the new retry. -/
theorem Timed.again {clockMs : Nat} {slot : YkpPending} {last : Nat} {earlier : List Nat}
    (timed : Timed clockMs slot last earlier) (left : slot.retries < qosMaxRetries) (nowMs : Nat) :
    Timed nowMs { slot with
      retries := slot.retries + 1
      nextRetryMs := nowMs + qosRetryDelayMs <<< min (slot.retries + 1) 10 }
      nowMs (last :: earlier) where
  count := congrArg (· + 1) timed.count
  few := left
  unretried none := absurd none (Nat.succ_ne_zero _)
  retried _ := by
    -- Three retries are far from where the shift is capped.
    have small : min (slot.retries + 1) 10 = slot.retries + 1 :=
      Nat.min_eq_left (Nat.le_trans left (by decide))
    dsimp only
    rw [small, Nat.shiftLeft_eq]

/-- No call loses the time of a slot. -/
theorem KeepsTime.step {slot : YkpPending} {records : List PacketRecord} {input : QosInput}
    {pair : SlotHistory} {clockUs : Nat} (keeps : KeepsTime (clockUs / 1000) (slot, records))
    (steady : clockUs ≤ input.reading clockUs) (step : SlotStep slot records input pair) :
    KeepsTime (input.reading clockUs / 1000) pair := by
  -- A packet that is taken is sent at once, and each retry counts from the copy it sends.
  have later : clockUs / 1000 ≤ input.reading clockUs / 1000 := Nat.div_le_div_right steady
  cases step with
  | keep =>
    intro active
    obtain ⟨record, older, last, earlier, held, times, timed⟩ := keeps active
    exact ⟨record, older, last, earlier, held, times, timed.mono later⟩
  | accept packetId data qos nowUs free level =>
    intro _
    refine ⟨_, records, nowUs / 1000, [], rfl, rfl, rfl, Nat.zero_le _, fun _ => ?_, ?_⟩
    · exact ⟨rfl, rfl, Nat.le_refl _⟩
    · exact fun retried => absurd rfl retried
  | ack => exact fun active => nomatch active
  | complete => exact fun active => nomatch active
  | giveUp => exact fun active => nomatch active
  | confirm packetId held =>
    intro active
    obtain ⟨record, older, last, earlier, held, times, timed⟩ := keeps active
    obtain rfl : records = record :: older := held
    exact ⟨_, older, last, earlier, rfl, times, timed.count, timed.few, timed.unretried,
      timed.retried⟩
  | retry nowUs active due left =>
    intro _
    obtain ⟨record, older, last, earlier, held, times, timed⟩ := keeps active
    obtain rfl : records = record :: older := held
    exact ⟨_, older, nowUs / 1000, last :: earlier, rfl, congrArg (nowUs / 1000 :: ·) times,
      timed.again left _⟩

/-- The copy that is sent at a retry is spaced exactly when the packet was retried before, or its
first retry is late enough. -/
theorem spaced_again {clockMs : Nat} {slot : YkpPending} {last : Nat} {earlier : List Nat}
    (timed : Timed clockMs slot last earlier) (spaced : Spaced (last :: earlier)) {nowMs : Nat}
    (due : slot.nextRetryMs ≤ nowMs) :
    Spaced (nowMs :: last :: earlier) ↔
      (slot.retries = 0 → slot.sentTimeMs + qosRetryDelayMs ≤ nowMs) := by
  have delay : Spaced (nowMs :: last :: earlier) ↔
      last + qosRetryDelayMs * 2 ^ slot.retries ≤ nowMs := by
    rw [← timed.count]
    exact and_iff_left spaced
  rw [delay]
  -- Only the first retry is due as soon as the packet was sent.
  by_cases first : slot.retries = 0
  · obtain ⟨sent, -, -⟩ := timed.unretried first
    rw [first, sent, Nat.pow_zero, Nat.mul_one]
    exact ⟨fun late _ => late, fun late => late rfl⟩
  · refine iff_of_true ?_ fun none => absurd none first
    exact timed.retried first ▸ due

/-- What happens to a packet without sending it leaves its copies spaced. -/
theorem spaced_quiet {records : List PacketRecord} {event : PacketEvent} (silent : event.time = none)
    (spaced : ∀ record ∈ records, Spaced record.times) :
    ∀ record ∈ addEvents [event] records, Spaced record.times := by
  refine forall_addEvents spaced fun record before => ?_
  have times : PacketRecord.times { record with events := [event] ++ record.events } =
      record.times := by
    simp [PacketRecord.times, silent]
  rw [times]
  exact before

/-- A call whose ticks are late enough leaves the packets of a slot spaced. -/
theorem spaced_step {slot : YkpPending} {records : List PacketRecord} {input : QosInput}
    {pair : SlotHistory} {clockMs : Nat} (keeps : KeepsTime clockMs (slot, records))
    (spaced : ∀ record ∈ records, Spaced record.times)
    (late : ∀ nowUs, input = .tick nowUs → slot.active = true → slot.retries = 0 →
      slot.sentTimeMs + qosRetryDelayMs ≤ nowUs / 1000)
    (step : SlotStep slot records input pair) : ∀ record ∈ pair.2, Spaced record.times := by
  cases step with
  | keep => exact spaced
  | accept packetId data qos nowUs =>
    intro record member
    rcases List.mem_cons.mp member with rfl | earlier
    · trivial
    · exact spaced record earlier
  | ack => exact spaced_quiet rfl spaced
  | complete => exact spaced_quiet rfl spaced
  | giveUp => exact spaced_quiet rfl spaced
  | confirm => exact spaced_quiet rfl spaced
  | retry nowUs active due left =>
    -- The slot's time is that of the latest copy of its packet.
    obtain ⟨latest, older, last, earlier, held, times, timed⟩ := keeps active
    obtain rfl : records = latest :: older := held
    intro record member
    rcases List.mem_cons.mp member with rfl | before
    · have before : Spaced (last :: earlier) := times ▸ spaced latest List.mem_cons_self
      have again : Spaced (nowUs / 1000 :: last :: earlier) :=
        (spaced_again timed before due).mpr (late nowUs rfl active)
      exact (congrArg (fun times => Spaced (nowUs / 1000 :: times)) times).mpr again
    · exact spaced record (List.mem_cons_of_mem _ before)

/-- What the spacing rests on: every slot keeps its time, and the packets so far are spaced. -/
structure OnTime (history : QosHistory) : Prop where
  aligned : history.Aligned
  keeps : ∀ pair ∈ history.slots, KeepsTime (history.clockUs / 1000) pair
  spaced : history.Spaced

/-- The clock of a history is the one its last call read. -/
theorem qosStep_clock (history : QosHistory) (input : QosInput) :
    (qosStep history input).clockUs = input.reading history.clockUs := by
  cases input <;> rfl

/-- A call leaves all packets spaced exactly when its tick is late enough. -/
theorem onTime_exactly (history : QosHistory) (input : QosInput) (onTime : OnTime history)
    (steady : Steady history input) :
    (qosStep history input).Spaced ↔ FirstRetryLate history input := by
  have spaced := (forall_packets_iff onTime.aligned).mp onTime.spaced
  rw [QosHistory.Spaced, forall_packets_iff (aligned_step history input onTime.aligned)]
  constructor
  · intro after
    cases input with
    | enqueue | ack | pubrec | pubcomp => trivial
    | tick nowUs =>
      intro slot member active first
      obtain ⟨records, there⟩ := mem_engine_slots onTime.aligned member
      obtain ⟨record, older, last, earlier, held, times, timed⟩ := onTime.keeps _ there active
      obtain rfl : records = record :: older := held
      -- The packet is due since it was accepted, so this tick sends it.
      obtain ⟨-, next, before⟩ := timed.unretried first
      have due : slot.nextRetryMs ≤ nowUs / 1000 :=
        next ▸ Nat.le_trans before (Nat.div_le_div_right steady)
      have retried : tickEvents (nowUs / 1000) slot = [.sent slot.data (nowUs / 1000)] := by
        simp [tickEvents, tickSlot, active, Nat.not_lt.mpr due, first]
      rw [tick_slots] at after
      have again := after _ (List.mem_map_of_mem there)
      rw [retried] at again
      have spacedAgain : Spaced (nowUs / 1000 :: last :: earlier) := by
        rw [← times]
        exact again _ List.mem_cons_self
      have before : Spaced (last :: earlier) :=
        times ▸ spaced _ there record List.mem_cons_self
      exact (spaced_again timed before due).mp spacedAgain first
  · intro late pair member
    obtain ⟨slot, records, there, step⟩ := qosStep_slots history input member
    refine spaced_step (onTime.keeps _ there) (spaced _ there) ?_ step
    rintro nowUs rfl
    exact late slot (List.of_mem_zip there).1

/-- A call whose tick is late enough keeps the engine on time. -/
theorem onTime_step (history : QosHistory) (input : QosInput) (onTime : OnTime history)
    (steady : Steady history input) (late : FirstRetryLate history input) :
    OnTime (qosStep history input) where
  aligned := aligned_step history input onTime.aligned
  keeps pair member := by
    obtain ⟨slot, records, there, step⟩ := qosStep_slots history input member
    rw [qosStep_clock]
    exact (onTime.keeps _ there).step steady step
  spaced := (onTime_exactly history input onTime steady).mpr late

/-- In every run whose clock is not set back, all copies of every packet are sent with the doubling
delays between them exactly when no tick comes sooner than the retry delay after a packet was
accepted. -/
theorem retries_spaced_iff (inputs : List QosInput)
    (steady : Machine.Always qosStep Steady qosStart inputs) :
    (∀ earlier, earlier <+: inputs → (qosRun earlier).Spaced) ↔
      Machine.Always qosStep FirstRetryLate qosStart inputs := by
  have start : OnTime qosStart := by
    refine ⟨rfl, fun pair member active => ?_, fun records member => ?_⟩
    · rw [(start_slots member).1] at active
      cases active
    · rw [List.eq_of_mem_replicate member]
      simp
  exact Machine.prefixes_iff_admitted onTime_exactly onTime_step start start.spaced steady

/-- A packet that is accepted at time zero, with ticks every half second from then on. -/
theorem retries_spaced_iff_sample :
    (∀ earlier, earlier <+: [.enqueue 7 [1] .qos1 0, .tick 500000, .tick 1000000] →
      (qosRun earlier).Spaced) ↔
      Machine.Always qosStep FirstRetryLate qosStart
        [.enqueue 7 [1] .qos1 0, .tick 500000, .tick 1000000] :=
  retries_spaced_iff _ (by decide)

/-- A tick right after a packet was accepted sends its second copy without any delay. -/
theorem retry_without_delay :
    ¬ ∀ inputs, Machine.Always qosStep Steady qosStart inputs → (qosRun inputs).Spaced := by
  intro claim
  exact absurd (claim [.enqueue 7 [1] .qos1 0, .tick 0] (by decide)) (by decide)

end Ykp.Firmware
