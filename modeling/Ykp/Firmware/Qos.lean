import Ykp.Constants

/-! The firmware's retransmission engine: 32 slots of packets that wait for an acknowledgement. -/

namespace Ykp.Firmware

/-- A slot of the engine. -/
structure YkpPending where
  packetId : Nat
  data : Bytes
  qos : Qos
  retries : Nat
  nextRetryMs : Nat
  sentTimeMs : Nat
  waitingPubrec : Bool
  waitingPubcomp : Bool
  active : Bool
  deriving DecidableEq, Repr

/-- The engine: its slots, whether its timer runs, and the last measured round trip. -/
structure YkpQosEngine where
  slots : List YkpPending
  timerRunning : Bool
  lastRttMs : Nat
  deriving DecidableEq, Repr

abbrev qosMaxPending : Nat := 32
abbrev qosRetryDelayMs : Nat := 500
abbrev qosMaxRetries : Nat := 3

/-- All slots start out zeroed. -/
def ykpQosInit : YkpQosEngine where
  slots := List.replicate qosMaxPending ⟨0, [], .qos0, 0, 0, 0, false, false, false⟩
  timerRunning := false
  lastRttMs := 45

/-- Bytes of a packet that a slot keeps. -/
abbrev qosSlotData : Nat := 1400

/-- A packet is sent, and above level zero kept in the first free slot: whether there was room, the
bytes sent, and the engine afterwards. -/
def ykpQosEnqueue (engine : YkpQosEngine) (packetId : Nat) (data : Bytes) (qos : Qos)
    (nowUs : Nat) : Bool × List Bytes × YkpQosEngine :=
  if data = [] then (false, [], engine)
  else if qos = .qos0 then (true, [data], engine)
  else
    match engine.slots.findIdx? fun p => !p.active with
    | none => (false, [], engine)
    | some i =>
      let pending : YkpPending :=
        { packetId := packetId
          data := data.take qosSlotData
          qos := qos
          retries := 0
          nextRetryMs := nowUs / 1000
          sentTimeMs := nowUs / 1000
          waitingPubrec := qos == .qos2
          waitingPubcomp := false
          active := true }
      (true, [data], { engine with slots := engine.slots.set i pending, timerRunning := true })

/-- The timer is stopped once no slot is active. -/
def checkAndStopTimer (engine : YkpQosEngine) : YkpQosEngine :=
  if engine.slots.any (·.active) then engine else { engine with timerRunning := false }

/-- An acknowledgement releases the first active slot that holds the packet at level one. -/
def ykpQosAck (engine : YkpQosEngine) (packetId nowUs : Nat) : YkpQosEngine :=
  match engine.slots.findIdx? fun p => p.active && p.packetId == packetId && p.qos == .qos1 with
  | none => engine
  | some i =>
    let sent := (engine.slots.map (·.sentTimeMs)).getD i 0
    let rtt := nowUs / 1000 - sent
    -- Only a credible latency is kept.
    let credible := sent ≤ nowUs / 1000 ∧ rtt < 10000
    checkAndStopTimer { engine with
      slots := engine.slots.modify i fun p => { p with active := false }
      lastRttMs := if credible then rtt else engine.lastRttMs }

/-- A slot that holds a packet at level two. -/
def YkpPending.holdsQos2 (p : YkpPending) (packetId : Nat) : Bool :=
  p.active && p.packetId == packetId && p.qos == .qos2

/-- A PUBREC moves every slot that holds the packet at level two to the second phase. -/
def ykpQosPubrec (engine : YkpQosEngine) (packetId : Nat) : YkpQosEngine :=
  { engine with
    slots := engine.slots.map fun p =>
      if p.holdsQos2 packetId then { p with waitingPubrec := false, waitingPubcomp := true }
      else p }

/-- A PUBCOMP releases every slot that holds the packet in the second phase. -/
def ykpQosPubcomp (engine : YkpQosEngine) (packetId : Nat) : YkpQosEngine :=
  let completes (p : YkpPending) := p.holdsQos2 packetId && p.waitingPubcomp
  let engine' := { engine with
    slots := engine.slots.map fun p => if completes p then { p with active := false } else p }
  -- The timer is looked at only when a slot was released.
  if engine.slots.any completes then checkAndStopTimer engine' else engine'

/-- One slot at a timer tick: the packet sent again, if any, and the slot afterwards. -/
def tickSlot (nowMs : Nat) (p : YkpPending) : Option Bytes × YkpPending :=
  if p.active = false ∨ nowMs < p.nextRetryMs then (none, p)
  else if qosMaxRetries ≤ p.retries then (none, { p with active := false })
  else
    let retries := p.retries + 1
    (some p.data, { p with
      retries := retries
      nextRetryMs := nowMs + qosRetryDelayMs <<< min retries 10 })

/-- A timer tick: the packets sent again, oldest slot first, and the engine afterwards. -/
def ykpQosTick (engine : YkpQosEngine) (nowUs : Nat) : List Bytes × YkpQosEngine :=
  let ticked := engine.slots.map (tickSlot (nowUs / 1000))
  let released := engine.slots.zip ticked |>.any fun (p, q) => p.active && !q.2.active
  let engine' := { engine with slots := ticked.map (·.2) }
  -- The timer is looked at only when a slot was released.
  (ticked.filterMap (·.1), if released then checkAndStopTimer engine' else engine')

end Ykp.Firmware
