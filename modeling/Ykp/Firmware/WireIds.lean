import Ykp.Firmware.CommandGate
import Ykp.Firmware.Pending
import Ykp.Firmware.Transmit

/-! The packet ids the firmware puts on the wire in one session, and the steps that put them there. -/

namespace Ykp.Firmware

open BigEndian History

/-- The entries that one session is bounded by. -/
def boundsSession : DeviceEvent → Bool
  | .sessionActive _ => true
  | .sessionReset => true
  | _ => false

/-- The packet id of a packet handed to the WebSocket client, those of the handshake left out. -/
def wireId : DeviceEvent → Option Nat
  | .wsSend raw =>
    if byteAt raw 29 = Service.security.byte then none else some (readU32 (byteAt raw) 4)
  | _ => none

/-- The packet id of a packet handed to the relay. -/
def relayId : DeviceEvent → Option Nat
  | .dispatched .relay _ pkt => some pkt.header.packetId
  | _ => none

/-- The packet ids on the wire in the current session, the latest first. -/
def wireIds (log : List DeviceEvent) : List Nat := (since boundsSession log).filterMap wireId

/-- The packet ids handed to the relay in the current session, the latest first. -/
def relayIds (log : List DeviceEvent) : List Nat := (since boundsSession log).filterMap relayId

/-- An entry that neither bounds a session nor hands a packet to the relay. -/
def DeviceEvent.Inner (event : DeviceEvent) : Prop :=
  boundsSession event = false ∧ relayId event = none

/-- Inner entries leave the relay's ids alone. -/
theorem relayIds_inner {newer log : List DeviceEvent} (inner : ∀ event ∈ newer, event.Inner) :
    relayIds (newer ++ log) = relayIds log := by
  have nothing : newer.filterMap relayId = [] :=
    List.filterMap_eq_nil_iff.mpr fun event member => (inner event member).2
  -- No entry of the batch starts a session, so the batch stands in front of the current one.
  rw [relayIds, since_append_inside _ fun event member => (inner event member).1,
    List.filterMap_append, nothing, List.nil_append, relayIds]

/-- Inner entries add their own ids on the wire. -/
theorem wireIds_inner {newer log : List DeviceEvent} (inner : ∀ event ∈ newer, event.Inner) :
    wireIds (newer ++ log) = newer.filterMap wireId ++ wireIds log := by
  -- The batch stands in front of the current session here as well.
  rw [wireIds, since_append_inside _ fun event member => (inner event member).1,
    List.filterMap_append, wireIds]

/-- The counter, the replay window and the retransmission engine stay, and packets with the given
ids were put on the wire. -/
structure Emits (before after : Device) (ids : List Nat) : Prop where
  counter : after.session.packetCounter = before.session.packetCounter
  replay : after.replay = before.replay
  qos : after.qos = before.qos
  log : ∃ newer, after.log = newer ++ before.log ∧ newer.filterMap wireId = ids ∧
    ∀ event ∈ newer, event.Inner

/-- Without new entries nothing was put on the wire. -/
theorem emits_of_log {before after : Device}
    (counter : after.session.packetCounter = before.session.packetCounter)
    (replay : after.replay = before.replay) (qos : after.qos = before.qos)
    (log : after.log = before.log) : Emits before after [] :=
  ⟨counter, replay, qos, [], log, rfl, by simp⟩

theorem Emits.refl (device : Device) : Emits device device [] := emits_of_log rfl rfl rfl rfl

theorem Emits.trans {first second third : Device} {ids ids' : List Nat}
    (one : Emits first second ids) (two : Emits second third ids') :
    Emits first third (ids' ++ ids) := by
  obtain ⟨newer, logged, written, inner⟩ := one.log
  obtain ⟨newest, logged', written', inner'⟩ := two.log
  refine ⟨two.counter.trans one.counter, two.replay.trans one.replay, two.qos.trans one.qos,
    newest ++ newer, by rw [logged', logged, List.append_assoc], ?_, ?_⟩
  · rw [List.filterMap_append, written', written]
  -- An entry is one of the second step or one of the first.
  · intro event member
    rcases List.mem_append.mp member with recent | old
    · exact inner' event recent
    · exact inner event old

theorem Emits.relays {before after : Device} {ids : List Nat} (emits : Emits before after ids) :
    relayIds after.log = relayIds before.log := by
  obtain ⟨newer, logged, -, inner⟩ := emits.log
  rw [logged, relayIds_inner inner]

theorem Emits.wire {before after : Device} {ids : List Nat} (emits : Emits before after ids) :
    wireIds after.log = ids ++ wireIds before.log := by
  obtain ⟨newer, logged, written, inner⟩ := emits.log
  rw [logged, wireIds_inner inner, written]

/-- Recording one inner entry emits its id, if it has one. -/
theorem emits_record (device : Device) {event : DeviceEvent} (inner : event.Inner) :
    Emits device (device.record event) (wireId event).toList := by
  refine ⟨rfl, rfl, rfl, [event], rfl, ?_, by simpa using inner⟩
  -- An entry has one id or none.
  cases written : wireId event <;> simp [written]

/-- A whole packet of a service other than the handshake's emits its id. -/
theorem ykpWsSend_emits (device : Device) {pkt : YkpPacket} (consistent : pkt.Consistent)
    (service : pkt.header.serviceId ≠ Service.security.byte) :
    Emits device (ykpWsSend device pkt.whole) [pkt.header.packetId % 4294967296] := by
  have reads := consistent.reads
  have emits := @emits_record device (.wsSend pkt.whole) ⟨rfl, rfl⟩
  -- Both bytes that are looked at come from the header.
  rw [wireId, reads.serviceId, if_neg service, reads.packetId] at emits
  exact emits

/-- A relay acknowledgement that leaves emits the id it was asked to carry. -/
theorem sendAck_emits (env : DeviceEnv) (device : Device) {packetId : Nat}
    (small : packetId < 4294967296) (sessionId : Nat) (destId : Bytes) :
    Emits device (sendAck env device packetId sessionId destId)
      (if env.transmits then [packetId] else []) := by
  obtain ⟨_, header⟩ := setPayload_header (ackHeader device packetId sessionId destId) env.mallocOk
    (ackPayload device.relayState)
  have emits := ykpWsSend_emits device
    (ackPacket_consistent env device packetId sessionId destId)
    (by rw [ackPacket, header]; exact show Service.relay.byte ≠ Service.security.byte by decide)
  have carried : (ackPacket env device packetId sessionId destId).header.packetId = packetId := by
    rw [ackPacket, header]
    rfl
  rw [carried, Nat.mod_eq_of_lt small] at emits
  -- Without memory or connection no acknowledgement leaves.
  rw [sendAck_eq]
  split
  · exact emits
  · exact .refl device

/-- A notification over Bluetooth is no packet. -/
theorem notifyBleSync_emits (env : DeviceEnv) (device : Device) :
    Emits device (notifyBleSync env device) [] := by
  unfold notifyBleSync
  split
  · exact emits_record device ⟨rfl, rfl⟩
  · exact .refl device

/-- Whether a command for the relay is acknowledged on the wire. -/
def acknowledges (env : DeviceEnv) (relayState : Bool) (actionId : UInt8) : Bool :=
  (relayCommand relayState actionId).isSome && env.transmits

/-- A command for the relay emits its own id when it is acknowledged. -/
theorem relayServiceHandle_emits (env : DeviceEnv) (device : Device) (actionId : UInt8)
    {packetId : Nat} (small : packetId < 4294967296) (sessionId : Nat) (destId : Bytes) :
    Emits device (relayServiceHandle env device actionId packetId sessionId destId)
      (if acknowledges env device.relayState actionId then [packetId] else []) := by
  unfold relayServiceHandle acknowledges
  -- An action that the relay does not know is not acknowledged.
  cases relayCommand device.relayState actionId with
  | none => exact .refl device
  | some state =>
    have acks := sendAck_emits env { device with relayState := state } small sessionId destId
    have switched : Emits device { device with relayState := state } [] :=
      emits_of_log rfl rfl rfl rfl
    simpa using switched.trans (acks.trans (notifyBleSync_emits env _))

/-- A button press emits the number it takes when it is acknowledged. -/
theorem button_emits (env : DeviceEnv) {device : Device}
    (room : device.session.packetCounter + 1 < 2 ^ 32) :
    Emits (device.nextPacketId env).2 (buttonDebounceTimerCallback env device)
      (if env.transmits then [device.session.packetCounter + 1] else []) := by
  let next := Device.nextPacketId env { device with relayState := !device.relayState }
  have number : next.1 = device.session.packetCounter + 1 := Nat.mod_eq_of_lt room
  have acks := sendAck_emits env next.2 (show next.1 < 4294967296 by rw [number]; exact room)
    next.2.session.sessionId serverName
  rw [number] at acks
  -- Switching the relay first makes no difference to the number taken.
  have toggled : Emits (device.nextPacketId env).2 next.2 [] :=
    emits_of_log rfl rfl rfl rfl
  unfold buttonDebounceTimerCallback
  dsimp only
  rw [show (Device.nextPacketId env { device with relayState := !device.relayState }).1 =
    device.session.packetCounter + 1 from number]
  simpa using toggled.trans (acks.trans (notifyBleSync_emits env _))

/-- An update message without a reply, or without a connection, emits nothing. -/
theorem runOta_emits (crypto : DeviceCrypto) (env : DeviceEnv) (pkt : YkpPacket)
    (device : Device)
    (silent : env.connected = true → (otaServiceHandle crypto.sha256 device.deviceId env.ota
      (payloadMemory env pkt) pkt.payloadLen pkt.header.actionId device.ota).2 = none) :
    Emits device (runOta crypto env pkt device) [] := by
  unfold runOta
  dsimp only
  split
  · exact emits_of_log rfl rfl rfl rfl
  · rename_i reply replies
    -- A reply without a connection is serialised for nothing.
    cases online : env.connected with
    | true =>
      rw [silent online] at replies
      cases replies
    | false =>
      rw [serialiseAndSend_offline online]
      exact emits_of_log rfl rfl rfl rfl

/-- Taking a number commutes with whatever leaves the counter. -/
theorem Emits.next {before after : Device} {ids : List Nat} (emits : Emits before after ids)
    (env : DeviceEnv) : Emits (before.nextPacketId env).2 (after.nextPacketId env).2 ids := by
  refine ⟨?_, emits.replay, emits.qos, emits.log⟩
  -- Only the counter itself enters the next number.
  show (after.session.packetCounter + 1) % 2 ^ 32 = (before.session.packetCounter + 1) % 2 ^ 32
  rw [emits.counter]

/-- A part of the handshake: at most one number is taken, and no packet of a service written. -/
def Handshakes (env : DeviceEnv) (before after : Device) : Prop :=
  Emits before after [] ∨ Emits (before.nextPacketId env).2 after []

theorem Emits.handshakes {env : DeviceEnv} {before middle after : Device}
    (emits : Emits before middle []) (handshakes : Handshakes env middle after) :
    Handshakes env before after := by
  -- Either no number is taken, or it is taken where the first step ended.
  rcases handshakes with quiet | numbered
  · exact .inl (emits.trans quiet)
  · exact .inr ((emits.next env).trans numbered)

/-- A handshake packet is none of a service's. -/
theorem sendHandshake_handshakes (env : DeviceEnv) (device : Device) (action : SecAction)
    {payload : Bytes} (state : SessionState) (short : payload.length ≤ 128) :
    Handshakes env device (sendHandshake env device action payload state) := by
  unfold sendHandshake
  cases env.allocOk with
  | false => exact .inl (.refl device)
  | true =>
    have plain := setHeader_consistent (device.nextPacketId env).1 0 device.deviceId.bytes
      serverName .cloud .security action.byte .qos1 false
    obtain ⟨raw, sent, service, -⟩ :=
      serialiseAndSend_short env (device.nextPacketId env).2 plain rfl short
    -- The service byte tells a handshake packet from the others.
    have hidden : wireId (.wsSend raw) = none := if_pos service
    simp only [Bool.not_true, Bool.false_eq_true, if_false]
    rw [sent]
    refine .inr ⟨rfl, rfl, rfl, [.wsSend raw], rfl, by simp [hidden], ?_⟩
    simp [DeviceEvent.Inner, boundsSession, relayId]

theorem sendHello_handshakes (env : DeviceEnv) (device : Device) :
    Handshakes env device (sendHello env device) := by
  have generated (ctx : SecurityCtx) : Emits device { device with secCtx := ctx } [] :=
    emits_of_log rfl rfl rfl rfl
  unfold sendHello
  dsimp only
  -- Generating the key pair may fail, and then nothing is sent.
  split
  · exact .inl (generated _)
  · exact (generated _).handshakes
      (sendHandshake_handshakes env _ .hello .helloSent (helloPayload_length _ _))

theorem sendEcdhResponse_handshakes (env : DeviceEnv) (device : Device) :
    Handshakes env device (sendEcdhResponse env device) := by
  unfold sendEcdhResponse
  -- Signing the nonce may fail, and then nothing is sent.
  split
  · exact .inl (.refl device)
  · exact sendHandshake_handshakes env device .ecdhResponse .ecdhSent
      (ecdhResponsePayload_length _ _)

/-- Answering a CHALLENGE is a part of the handshake, whether or not a key is derived. -/
theorem answerChallenge_handshakes (crypto : DeviceCrypto) (env : DeviceEnv) (pkt : YkpPacket)
    (device : Device) : Handshakes env device (answerChallenge crypto env pkt device) := by
  unfold answerChallenge
  split
  · exact .inl (emits_of_log rfl rfl rfl rfl)
  -- The derivation is logged whether or not it succeeds.
  · have derived (serverPub : Bytes) (sessionId : Nat) :
        Emits device (deriveKey crypto device serverPub sessionId) [] :=
      ⟨rfl, rfl, rfl, [.derived _ _ _ _], rfl, rfl, by
        simp [DeviceEvent.Inner, boundsSession, relayId]⟩
    exact (derived _ _).handshakes (sendEcdhResponse_handshakes env _)
  · exact sendEcdhResponse_handshakes env device

theorem handleChallenge_handshakes (crypto : DeviceCrypto) (env : DeviceEnv) (pkt : YkpPacket)
    (device : Device) : Handshakes env device (handleChallenge crypto env pkt device) := by
  have stored (nonce : Bytes) : Emits device
      { device with session := ykpSessionStoreNonce device.session nonce } [] :=
    emits_of_log rfl rfl rfl rfl
  unfold handleChallenge
  -- Storing the nonce touches neither the counter nor the log.
  split
  · exact .inl (emits_of_log rfl rfl rfl rfl)
  · exact (stored _).handshakes (answerChallenge_handshakes crypto env pkt _)
  · exact answerChallenge_handshakes crypto env pkt device

/-- The packet behind a received one, unless its payload cannot be opened. -/
def openedBy (crypto : DeviceCrypto) (keys : SessionKeys) (raw : Bytes) (pkt : YkpPacket) :
    Option YkpPacket :=
  match pkt.payload with
  | some payload =>
    if pkt.header.flags &&& flagEncrypted ≠ 0 then
      (ykpSecurityDecrypt crypto keys pkt.header.packetId (raw.take ykpHeaderSize) payload
        pkt.authTag).map fun plaintext => { pkt with payload := some plaintext }
    else some pkt
  | none => some pkt

/-- Opening a payload changes no header field. -/
theorem openedBy_header {crypto : DeviceCrypto} {keys : SessionKeys} {raw : Bytes}
    {pkt taken : YkpPacket} (opened : openedBy crypto keys raw pkt = some taken) :
    taken.header = pkt.header := by
  unfold openedBy at opened
  -- A plaintext takes the place of the payload, and nothing else.
  split at opened
  · split at opened
    · obtain ⟨plaintext, -, rfl⟩ := Option.map_eq_some_iff.mp opened
      rfl
    · rw [← Option.some.inj opened]
  · rw [← Option.some.inj opened]

/-- A packet that is opened is dispatched, with at most the opening logged before. -/
theorem openAndDispatch_opened (crypto : DeviceCrypto) (env : DeviceEnv) (raw : Bytes)
    (pkt : YkpPacket) (device : Device) :
    ∃ opening, (∀ event ∈ opening, event.Inner ∧ wireId event = none) ∧
      openAndDispatch crypto env raw pkt device =
        match openedBy crypto device.secCtx.session raw pkt with
        | none => { device with log := opening ++ device.log }
        | some taken => dispatch crypto env raw taken { device with log := opening ++ device.log } := by
  unfold openAndDispatch openedBy
  -- The payload may be missing, protected, or plain.
  cases pkt.payload with
  | none => exact ⟨[], by simp, rfl⟩
  | some payload =>
    dsimp only
    split
    · refine ⟨[.decrypted device.secCtx.session pkt.header.packetId (raw.take ykpHeaderSize) payload
        pkt.authTag (ykpSecurityDecrypt crypto device.secCtx.session pkt.header.packetId
          (raw.take ykpHeaderSize) payload pkt.authTag).isSome], ?_, ?_⟩
      · simp [DeviceEvent.Inner, boundsSession, relayId, wireId]
      · cases ykpSecurityDecrypt crypto device.secCtx.session pkt.header.packetId
          (raw.take ykpHeaderSize) payload pkt.authTag <;> rfl
    · exact ⟨[], by simp, rfl⟩

/-- Whether a service answers a packet with one that carries no number. -/
def answersUnnumbered (crypto : DeviceCrypto) (env : DeviceEnv) (device : Device)
    (pkt : YkpPacket) : Bool :=
  match Service.ofByte pkt.header.serviceId with
  | some .sensor => env.transmits
  | some .health => pkt.header.actionId == HealthAction.request.byte && env.transmits
  | some .ota => env.connected && (otaServiceHandle crypto.sha256 device.deviceId env.ota
      (payloadMemory env pkt) pkt.payloadLen pkt.header.actionId device.ota).2.isSome
  | _ => false

/-- A service other than the relay emits nothing unless it answers without a number. -/
theorem dispatch_emits {crypto : DeviceCrypto} {env : DeviceEnv} (raw : Bytes) {pkt : YkpPacket}
    {device : Device} (numbered : answersUnnumbered crypto env device pkt = false)
    (other : Service.ofByte pkt.header.serviceId ≠ some .relay) :
    Emits device (dispatch crypto env raw pkt device) [] := by
  have recorded (service : Service) (other : service ≠ .relay) :
      Emits device (device.record (.dispatched service raw pkt)) [] :=
    ⟨rfl, rfl, rfl, [.dispatched service raw pkt], rfl, rfl, by
      cases service <;> simp [DeviceEvent.Inner, boundsSession, relayId] at other ⊢⟩
  unfold answersUnnumbered at numbered
  -- Service by service, as the dispatcher tells them apart.
  unfold dispatch
  split
  · rename_i relay
    exact absurd relay other
  · rename_i sensor
    rw [sensor] at numbered
    rw [sensorServiceSendReport_silent numbered]
    exact recorded .sensor (by decide)
  · rename_i health
    rw [health] at numbered
    dsimp only at numbered ⊢
    split
    · rename_i request
      rw [request, beq_self_eq_true, Bool.true_and] at numbered
      rw [healthServiceSendReport_silent numbered]
      exact recorded .health (by decide)
    · exact recorded .health (by decide)
  · rename_i ota
    rw [ota] at numbered
    have silent : env.connected = true → (otaServiceHandle crypto.sha256 device.deviceId env.ota
        (payloadMemory env pkt) pkt.payloadLen pkt.header.actionId device.ota).2 = none := by
      intro online
      simpa [online] using numbered
    exact (recorded .ota (by decide)).trans (runOta_emits crypto env pkt _ silent)
  · exact .refl device

/-- Without a connection or memory the main loop's health report emits nothing, and neither does a
pass without one. -/
theorem mainLoopHealth_emits {env : DeviceEnv} {device : Device}
    (silent : 12 ≤ device.healthLoopCounter + 1 → ykpSessionIsActive device.session = true →
      env.transmits = false) : Emits device (mainLoopHealth env device) [] := by
  have counted (counter : Nat) : Emits device { device with healthLoopCounter := counter } [] :=
    emits_of_log rfl rfl rfl rfl
  unfold mainLoopHealth
  dsimp only
  -- The twelfth pass reports while a session is active, and any other pass counts.
  split
  · rename_i due
    split
    · rename_i active
      rw [healthServiceSendReport_silent (silent due active)]
      exact counted 0
    · exact counted 0
  · exact counted _

/-- With no packet waiting, the retransmission timer sends nothing. -/
theorem ykpQosTick_idle {engine : YkpQosEngine} (idle : Waiting [] engine) (nowUs : Nat) :
    (ykpQosTick engine nowUs).1 = [] := by
  refine List.filterMap_eq_nil_iff.mpr fun ticked member => ?_
  obtain ⟨slot, there, rfl⟩ := List.mem_map.mp member
  -- A slot that were active would wait for a packet that was enqueued.
  have inactive : slot.active = false :=
    Bool.eq_false_of_not_eq_true fun active => List.not_mem_nil (idle.known slot there active)
  simp [tickSlot, inactive]

end Ykp.Firmware
