import Ykp.Backend.Numbering
import Ykp.Backend.KeyUse
import Ykp.Backend.NoReplay
import Ykp.Backend.Sending
import Ykp.Firmware.CommandGate
import Ykp.Firmware.Pending

/-! The server's automatic acknowledgements, and the packets of the device that they release. -/

namespace Ykp.System

open BigEndian Firmware Backend

/-- A device and its server, the ids the device has enqueued, and the acknowledgements the server has
sent over the device's connection, each with the id of the packet it answers. -/
structure Link where
  device : Device
  server : Server
  enqueued : List Nat
  acks : List (Nat × Bytes)

/-- What happens to the link; the server processes whatever arrives, and an acknowledgement may get
lost, overtaken or doubled. -/
inductive LinkInput
  | enqueue (packetId : Nat) (data : Bytes) (env : DeviceEnv)
  | tick (env : DeviceEnv)
  | serve (input : ServerInput)
  | deliver (position : Nat) (env : DeviceEnv)

/-- The automatic acknowledgement among the entries of one event, with the id of its packet. -/
def autoAcks (conn : ConnId) : List ServerEvent → List (Nat × Bytes)
  | [.dispatched _ _ _ pkt, .sent other raw] =>
    if other = conn then [(pkt.header.packetId, raw)] else []
  | _ => []

/-- One event at either end. -/
def linkStep (deviceCrypto : DeviceCrypto) (crypto : ServerCrypto) (conn : ConnId) (link : Link) :
    LinkInput → Link
  | .enqueue packetId data env =>
    let result := ykpQosEnqueue link.device.qos packetId data .qos1 env.nowUs
    { link with
      device := result.2.1.foldl (ykpSendPacket env) { link.device with qos := result.2.2 }
      enqueued := packetId :: link.enqueued }
  | .tick env => { link with device := qosTimerCallback env link.device }
  | .serve input =>
    let server := serverStep crypto link.server input
    { link with
      server := server
      acks := link.acks ++ autoAcks conn (History.newerThan link.server.log server.log) }
  | .deliver position env =>
    match link.acks[position]? with
    | none => link
    | some ack =>
      { link with device := handleIncomingPacket deviceCrypto env ack.2 link.device }

/-- The link of a device whose engine was just initialised. -/
def linkStart (device : Device) (server : Server) : Link :=
  ⟨{ device with qos := ykpQosInit }, server, [], []⟩

/-- Packets are enqueued under distinct ids. -/
def DistinctIds (link : Link) : LinkInput → Prop
  | .enqueue packetId _ _ => packetId ∉ link.enqueued
  | _ => True

/-- A packet of the device is acknowledged only when its id is the next number of its session on the
server. -/
def CountsAlong (crypto : ServerCrypto) (conn : ConnId) (link : Link) : LinkInput → Prop
  | .serve input => ∀ arrived ∈ link.server.arrival input, arrived.1 = conn → Gated arrived.2 →
    -- A session whose next number does not fit a header acknowledges nothing.
    ∀ pair ∈ acknowledged crypto link.server conn arrived.2, pair.1.Fits →
      pair.1.packetCounter + 1 = arrived.2.header.packetId
  | _ => True

instance (link : Link) : (input : LinkInput) → Decidable (DistinctIds link input)
  | .enqueue packetId _ _ => inferInstanceAs (Decidable (packetId ∉ link.enqueued))
  | .tick _ | .serve _ | .deliver _ _ => .isTrue trivial

instance (crypto : ServerCrypto) (conn : ConnId) (link : Link) :
    (input : LinkInput) → Decidable (CountsAlong crypto conn link input)
  | .serve input => inferInstanceAs (Decidable (∀ arrived ∈ link.server.arrival input,
      arrived.1 = conn → Gated arrived.2 → ∀ pair ∈ acknowledged crypto link.server conn arrived.2,
        pair.1.Fits → pair.1.packetCounter + 1 = arrived.2.header.packetId))
  | .enqueue _ _ _ | .tick _ | .deliver _ _ => .isTrue trivial

/-- An acknowledgement that arrives releases exactly what waits for the packet it answers. -/
def Correlated (deviceCrypto : DeviceCrypto) (link : Link) : LinkInput → Prop
  | .deliver position env => ∀ ack ∈ link.acks[position]?,
    Releases link.device.qos (handleIncomingPacket deviceCrypto env ack.2 link.device).qos ack.1
  | _ => True

instance (deviceCrypto : DeviceCrypto) (link : Link) :
    (input : LinkInput) → Decidable (Correlated deviceCrypto link input)
  | .deliver position env => inferInstanceAs (Decidable (∀ ack ∈ link.acks[position]?,
      Releases link.device.qos (handleIncomingPacket deviceCrypto env ack.2 link.device).qos ack.1))
  | .enqueue _ _ _ | .tick _ | .serve _ => .isTrue trivial

/-- The device takes bytes as the acknowledgement of a packet. -/
def Acknowledges (packetId : Nat) (raw : Bytes) : Prop :=
  ∃ pkt, ykpPacketParse raw = some pkt ∧ pkt.header.flags &&& flagAck ≠ 0 ∧
    pkt.header.packetId = packetId

/-- The device takes the server's acknowledgement as that of the session's next number. -/
theorem autoAck_acknowledges {session : DeviceSession} {deviceId : JsString} {pkt : ServerPacket}
    {raw : Bytes} (built : buildPacket (autoAck session deviceId pkt) = some raw) :
    Acknowledges (session.packetCounter + 1) raw := by
  -- The layout of the bytes decides what the device reads.
  have carried := built_packetId built
  obtain ⟨-, rfl⟩ := buildPacket_layout built
  -- There is no payload, so the packet fits the device's buffer.
  have parsed := ykpPacketParse_layout (header_filled (autoAck session deviceId pkt))
    (show ([] : Bytes).length ≤ ykpStaticPayloadBuf by decide)
    (tag_length (autoAck session deviceId pkt))
  refine ⟨_, parsed, ?_, ?_⟩
  · change (Qos.qos0.byte &&& flagQosMask ||| flagAck) &&& flagAck ≠ 0
    decide
  · have read := (readsHeader (header_filled (autoAck session deviceId pkt)) 0
      ([] ++ (autoAck session deviceId pkt).tag)).packetId
    exact read.symm.trans carried

/-- An acknowledgement is built only under numbers that fit a header. -/
theorem fits_of_autoAck {session : DeviceSession} {deviceId : JsString} {pkt : ServerPacket}
    {raw : Bytes} (built : buildPacket (autoAck session deviceId pkt) = some raw) : session.Fits := by
  have small := mt buildPacket_eq_none.mpr (by rw [built]; simp)
  simp only [autoAck, not_or, not_lt] at small
  unfold DeviceSession.Fits
  omega

/-- What an acknowledgement does on the device. -/
theorem handleIncomingPacket_ack (crypto : DeviceCrypto) (env : DeviceEnv) (device : Device)
    {packetId : Nat} {raw : Bytes} (acks : Acknowledges packetId raw) :
    handleIncomingPacket crypto env raw device =
      { device with qos := ykpQosAck device.qos packetId env.nowUs } := by
  obtain ⟨pkt, parsed, flagged, rfl⟩ := acks
  -- The flag is looked at before anything else of a packet.
  unfold handleIncomingPacket
  rw [parsed]
  exact if_pos flagged

/-- An acknowledgement stands right in front of the dispatch of its packet. -/
theorem mem_autoAcks {conn : ConnId} {newer : List ServerEvent} {ack : Nat × Bytes} :
    ack ∈ autoAcks conn newer ↔ ∃ from_ deviceId session pkt,
      newer = [.dispatched from_ deviceId session pkt, .sent conn ack.2] ∧
        ack.1 = pkt.header.packetId := by
  constructor
  · intro member
    -- Only a dispatch with a packet behind it has this shape.
    unfold autoAcks at member
    split at member
    · rename_i from_ deviceId session pkt other raw
      split at member
      · rename_i same
        subst same
        obtain rfl := List.mem_singleton.mp member
        exact ⟨from_, deviceId, session, pkt, rfl, rfl⟩
      · cases member
    · cases member
  · rintro ⟨from_, deviceId, session, pkt, rfl, answers⟩
    simp [autoAcks, ← answers]

/-- Whether an entry is a dispatch. -/
def isDispatch : ServerEvent → Bool
  | .dispatched _ _ _ _ => true
  | _ => false

theorem isDispatch_quiet {event : ServerEvent} (quiet : event.Quiet) : isDispatch event = false := by
  cases event <;> first | rfl | exact quiet.elim

/-- Only a packet that arrives at the gate is dispatched. -/
theorem dispatch_arrived {crypto : ServerCrypto} {server : Server} {input : ServerInput}
    {newer : List ServerEvent} {registry : Registry}
    (moved : Moved crypto server input newer registry) {event : ServerEvent}
    (member : event ∈ newer) (dispatch : isDispatch event = true) :
    ∃ conn pkt, server.arrival input = some (conn, pkt) ∧ Gated pkt := by
  -- Every other way to move logs no dispatch.
  have none (silent : ∀ event ∈ newer, isDispatch event = false) :
      ∃ conn pkt, server.arrival input = some (conn, pkt) ∧ Gated pkt := by
    rw [silent event member] at dispatch
    cases dispatch
  -- The two ways to pass the gate, and all the others.
  cases moved with
  | settled quiet => exact none fun event member => isDispatch_quiet (quiet event member)
  | helloReceived => exact none (by simp [isDispatch])
  | created => exact none (forall_created (fun _ quiet => isDispatch_quiet quiet) rfl)
  | activated => exact none (by simp [isDispatch])
  | filtered arrived _ gated => exact ⟨_, _, arrived, gated⟩
  | dispatched arrived _ gated => exact ⟨_, _, arrived, gated⟩
  | counted _ quiet seals =>
    exact none (forall_counted (fun _ quiet => isDispatch_quiet quiet) quiet seals
      fun _ _ _ _ _ _ => rfl)
  | closed => exact none (by simp)

/-- An automatic acknowledgement was sent for a packet at the gate, under the next number of its
session. -/
theorem autoAcks_sent {crypto : ServerCrypto} {conn : ConnId} {server : Server}
    {input : ServerInput} {ack : Nat × Bytes}
    (sent : ack ∈ autoAcks conn
      (History.newerThan server.log (serverStep crypto server input).log)) :
    ∃ pkt session opened, server.arrival input = some (conn, pkt) ∧ Gated pkt ∧
      acknowledged crypto server conn pkt = some (session, opened) ∧ session.Fits ∧
      ack.1 = pkt.header.packetId ∧ Acknowledges (session.packetCounter + 1) ack.2 := by
  obtain ⟨newer, logged, moved⟩ := serverStep_moves crypto server input
  rw [logged, History.newerThan_append] at sent
  obtain ⟨from_, deviceId, session, pkt, rfl, answers⟩ := mem_autoAcks.mp sent
  obtain ⟨other, arrived, arrives, gated⟩ := dispatch_arrived moved List.mem_cons_self rfl
  -- Only a message arrives at all.
  cases input with
  | message source data =>
    obtain rfl := arrival_conn arrives
    have handled : serverStep crypto server (.message other data) =
        handleData crypto { server with seq := server.seq + 1 } other arrived :=
      (serverStep_arrival arrives).trans ((if_neg gated.1).trans (if_neg gated.2))
    rw [handled] at logged
    cases acks : acknowledged crypto { server with seq := server.seq + 1 } other arrived with
    | none =>
      -- Without an acknowledgement nothing would have been sent.
      obtain ⟨-, entries, logged', silent⟩ := handleData_unacknowledged acks
      obtain rfl := List.append_cancel_right (logged.symm.trans logged')
      cases silent
    | some pair =>
      obtain ⟨own, opened⟩ := pair
      obtain ⟨-, -, logged'⟩ := handleData_acknowledged acks
      have entries := List.append_cancel_right (logged.symm.trans logged')
      -- The entries of the event are those of the acknowledgement.
      unfold ackLog at entries
      split at entries
      · cases entries
      · rename_i raw built
        simp only [List.cons.injEq, ServerEvent.dispatched.injEq, ServerEvent.sent.injEq,
          and_true] at entries
        obtain ⟨⟨-, -, -, rfl⟩, rfl, same⟩ := entries
        have header := openPacket_header (acknowledged_eq_some.mp acks).2.1
        refine ⟨arrived, own, pkt, arrives, gated, acks, ?_, ?_, ?_⟩
        · exact fits_of_autoAck built
        · rw [answers, header]
        · rw [same]
          exact autoAck_acknowledges built
  | _ => cases arrives

/-- Sending leaves the retransmission engine alone. -/
@[simp] theorem ykpSendPacket_qos (env : DeviceEnv) (device : Device) (raw : Bytes) :
    (ykpSendPacket env device raw).qos = device.qos := by
  unfold ykpSendPacket
  split <;> rfl

/-- So does sending several packets. -/
theorem sendAll_qos (env : DeviceEnv) (packets : List Bytes) (device : Device) :
    (packets.foldl (ykpSendPacket env) device).qos = device.qos := by
  -- Packet by packet.
  induction packets generalizing device with
  | nil => rfl
  | cons raw rest ih => rw [List.foldl_cons, ih, ykpSendPacket_qos]

/-- Different packets wait, and every acknowledgement the server has sent names the packet that it
answers. -/
structure Link.Sound (link : Link) : Prop where
  waiting : Waiting link.enqueued link.device.qos
  named : ∀ ack ∈ link.acks, Acknowledges ack.1 ack.2

theorem sound_start (device : Device) (server : Server) : (linkStart device server).Sound :=
  ⟨waiting_init, by simp [linkStart]⟩

/-- A server that counts along names the packet of each acknowledgement it sends. -/
theorem named_serve {crypto : ServerCrypto} {conn : ConnId} {link : Link} {input : ServerInput}
    (along : CountsAlong crypto conn link (.serve input)) {ack : Nat × Bytes}
    (sent : ack ∈ autoAcks conn
      (History.newerThan link.server.log (serverStep crypto link.server input).log)) :
    Acknowledges ack.1 ack.2 := by
  obtain ⟨pkt, session, opened, arrives, gated, acks, fits, answers, names⟩ := autoAcks_sent sent
  -- The number the acknowledgement takes is the id of the packet.
  have same : session.packetCounter + 1 = pkt.header.packetId :=
    along (conn, pkt) arrives rfl gated (session, opened) acks fits
  rw [answers, ← same]
  exact names

/-- Distinct ids and a server that counts along keep the link sound. -/
theorem Link.Sound.step {deviceCrypto : DeviceCrypto} {crypto : ServerCrypto} {conn : ConnId}
    {link : Link} {input : LinkInput} (sound : link.Sound) (distinct : DistinctIds link input)
    (along : CountsAlong crypto conn link input) :
    (linkStep deviceCrypto crypto conn link input).Sound := by
  -- A packet joins the engine, the timer runs, the server moves on, or an acknowledgement arrives.
  cases input with
  | enqueue packetId data env =>
    refine ⟨?_, sound.named⟩
    show Waiting (packetId :: link.enqueued) (List.foldl (ykpSendPacket env) _ _).qos
    rw [sendAll_qos]
    exact sound.waiting.enqueue distinct data .qos1 env.nowUs
  | tick env =>
    refine ⟨?_, sound.named⟩
    show Waiting link.enqueued (List.foldl (ykpSendPacket env) _ _).qos
    rw [sendAll_qos]
    exact sound.waiting.tick env.nowUs
  | serve input =>
    refine ⟨sound.waiting, fun ack member => ?_⟩
    rcases List.mem_append.mp member with older | new
    · exact sound.named ack older
    · exact named_serve along new
  | deliver position env =>
    unfold linkStep
    dsimp only
    split
    · exact sound
    · rename_i ack found
      refine ⟨?_, sound.named⟩
      dsimp only
      rw [handleIncomingPacket_ack deviceCrypto env _ (sound.named ack (List.mem_of_getElem? found))]
      exact sound.waiting.ack ack.1 env.nowUs

/-- On a sound link an acknowledgement releases what waits for its packet. -/
theorem Link.Sound.correlated {link : Link} (sound : link.Sound) (deviceCrypto : DeviceCrypto)
    (input : LinkInput) : Correlated deviceCrypto link input := by
  -- Only an arriving acknowledgement releases anything.
  cases input with
  | deliver position env =>
    intro ack found
    have names := sound.named ack (List.mem_of_getElem? found)
    rw [handleIncomingPacket_ack deviceCrypto env link.device names]
    exact ykpQosAck_releases sound.waiting.apart ack.1 env.nowUs
  | _ => trivial

/-- In every run in which packets are enqueued under distinct ids and the server acknowledges a packet
of the device only when its id is the next number of the session on the server, each acknowledgement
releases exactly the slots that wait for the packet it answers. -/
theorem acks_correlated (deviceCrypto : DeviceCrypto) (crypto : ServerCrypto) (conn : ConnId)
    (device : Device) (server : Server) (inputs : List LinkInput)
    (distinct : Machine.Always (linkStep deviceCrypto crypto conn) DistinctIds
      (linkStart device server) inputs)
    (along : Machine.Always (linkStep deviceCrypto crypto conn) (CountsAlong crypto conn)
      (linkStart device server) inputs) :
    Machine.Always (linkStep deviceCrypto crypto conn) (Correlated deviceCrypto)
      (linkStart device server) inputs :=
  Machine.always_of_invariant (fun _ _ sound admitted => sound.step admitted.1 admitted.2)
    (fun _ input sound _ => sound.correlated deviceCrypto input) (sound_start device server)
    (Machine.always_and.mpr ⟨distinct, along⟩)

/-- A report of the sample device that asks for an acknowledgement. -/
def askingReport (packetId : Nat) : Bytes :=
  (buildPacket
    { packetId := packetId, sessionId := 0, sourceId := sampleId, destId := serverId
      routeType := .cloud, serviceId := Service.sensor.byte.toNat
      actionId := SensorAction.report.byte.toNat, qos := .qos1 }).getD []

/-- The device enqueues a report, the server processes it behind a handshake, and the acknowledgement
arrives. -/
def reportAndAck (packetId : Nat) : List LinkInput :=
  [.enqueue packetId (askingReport packetId) sampleEnv,
    .serve (.message 1 (askingReport packetId)), .deliver 0 sampleEnv]

set_option maxRecDepth 4000 in
theorem acks_correlated_sample :
    Machine.Always (linkStep tagless openCrypto 1) (Correlated tagless)
      (linkStart (bootDevice sampleDevice) sampleServer) (reportAndAck 1) :=
  acks_correlated tagless openCrypto 1 (bootDevice sampleDevice) sampleServer (reportAndAck 1)
    (by decide +kernel) (by decide +kernel)

set_option maxRecDepth 4000 in
/-- The acknowledgement of the report with id seven says one, and releases nothing. -/
theorem ack_releases_other :
    ¬ Machine.Always (linkStep tagless openCrypto 1) (Correlated tagless)
      (linkStart (bootDevice sampleDevice) sampleServer) (reportAndAck 7) := by
  decide +kernel

end Ykp.System
