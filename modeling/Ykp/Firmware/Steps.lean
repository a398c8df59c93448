import Ykp.Codec.MapBuild
import Ykp.Codec.PacketLayout
import Ykp.Firmware.Main

/-! What one event does to the firmware's session, keys, replay window and log. -/

namespace Ykp.Firmware

open BigEndian History

/-- Entries about sending, which the handshake and the replay window do not depend on. -/
def DeviceEvent.Quiet : DeviceEvent → Prop
  | .wsSend _ => True
  | .bleNotified _ => True
  | _ => False

/-- The session state, the session keys and the replay window stay, and only quiet entries are
logged. -/
structure Unmoved (before after : Device) : Prop where
  state : after.session.state = before.session.state
  keys : after.secCtx.session = before.secCtx.session
  replay : after.replay = before.replay
  log : ∃ newer, after.log = newer ++ before.log ∧ ∀ event ∈ newer, event.Quiet

/-- Without new entries only the state, the keys and the window are compared. -/
theorem unmoved_of_log {before after : Device} (state : after.session.state = before.session.state)
    (keys : after.secCtx.session = before.secCtx.session) (replay : after.replay = before.replay)
    (log : after.log = before.log) : Unmoved before after :=
  ⟨state, keys, replay, [], log, by simp⟩

theorem Unmoved.refl (device : Device) : Unmoved device device := unmoved_of_log rfl rfl rfl rfl

theorem Unmoved.trans {first second third : Device} (one : Unmoved first second)
    (two : Unmoved second third) : Unmoved first third := by
  obtain ⟨newer, logged, quiet⟩ := one.log
  obtain ⟨newest, logged', quiet'⟩ := two.log
  refine ⟨two.state.trans one.state, two.keys.trans one.keys, two.replay.trans one.replay,
    newest ++ newer, by rw [logged', logged, List.append_assoc], ?_⟩
  intro event member
  rcases List.mem_append.mp member with recent | old
  · exact quiet' event recent
  · exact quiet event old

theorem ykpWsSend_unmoved (device : Device) (raw : Bytes) :
    Unmoved device (ykpWsSend device raw) :=
  ⟨rfl, rfl, rfl, [.wsSend raw], rfl, by simp [DeviceEvent.Quiet]⟩

theorem ykpSendPacket_unmoved (env : DeviceEnv) (device : Device) (raw : Bytes) :
    Unmoved device (ykpSendPacket env device raw) := by
  unfold ykpSendPacket
  split
  · exact ykpWsSend_unmoved device raw
  · exact .refl device

theorem serialiseAndSend_unmoved (env : DeviceEnv) {send : Device → Bytes → Device}
    (sends : ∀ device raw, Unmoved device (send device raw)) (device : Device) (pkt : YkpPacket)
    (outSize : Nat) : Unmoved device (serialiseAndSend env send device pkt outSize) := by
  unfold serialiseAndSend
  dsimp only
  split
  · exact sends device _
  · exact .refl device

/-- A service that needs memory for its packet sends it or does nothing. -/
theorem report_unmoved (env : DeviceEnv) (device : Device) (pkt : YkpPacket) (outSize : Nat) :
    Unmoved device (if !env.allocOk then device
      else serialiseAndSend env (ykpSendPacket env) device pkt outSize) := by
  -- Without memory for the packet nothing happens.
  split
  · exact .refl device
  · exact serialiseAndSend_unmoved env (ykpSendPacket_unmoved env) device pkt outSize

theorem sendAck_unmoved (env : DeviceEnv) (device : Device) (packetId sessionId : Nat)
    (destId : Bytes) : Unmoved device (sendAck env device packetId sessionId destId) :=
  report_unmoved env device _ _

theorem notifyBleSync_unmoved (env : DeviceEnv) (device : Device) :
    Unmoved device (notifyBleSync env device) := by
  unfold notifyBleSync
  split
  · exact ⟨rfl, rfl, rfl, [.bleNotified device.relayState], rfl, by simp [DeviceEvent.Quiet]⟩
  · exact .refl device

theorem relayServiceHandle_unmoved (env : DeviceEnv) (device : Device) (actionId : UInt8)
    (packetId sessionId : Nat) (destId : Bytes) :
    Unmoved device (relayServiceHandle env device actionId packetId sessionId destId) := by
  unfold relayServiceHandle
  -- An action the relay does not know changes nothing.
  split
  · exact .refl device
  · rename_i state _
    -- The state of the relay is none of what is compared.
    have switched : Unmoved device { device with relayState := state } :=
      unmoved_of_log rfl rfl rfl rfl
    exact switched.trans ((sendAck_unmoved env _ _ _ _).trans (notifyBleSync_unmoved env _))

theorem buttonDebounceTimerCallback_unmoved (env : DeviceEnv) (device : Device) :
    Unmoved device (buttonDebounceTimerCallback env device) := by
  -- Counting the packet id changes the session's counter and rotation flag, not its state.
  have counted : Unmoved device
      (Device.nextPacketId env { device with relayState := !device.relayState }).2 :=
    unmoved_of_log rfl rfl rfl rfl
  exact counted.trans ((sendAck_unmoved env _ _ _ _).trans (notifyBleSync_unmoved env _))

theorem sensorServiceSendReport_unmoved (env : DeviceEnv) (device : Device) :
    Unmoved device (sensorServiceSendReport env device) := report_unmoved env device _ _

theorem healthServiceSendReport_unmoved (env : DeviceEnv) (device : Device) :
    Unmoved device (healthServiceSendReport env device) := report_unmoved env device _ _

theorem runOta_unmoved (crypto : DeviceCrypto) (env : DeviceEnv) (pkt : YkpPacket)
    (device : Device) : Unmoved device (runOta crypto env pkt device) := by
  unfold runOta
  dsimp only
  -- The service answers, or it does not.
  split
  · exact unmoved_of_log rfl rfl rfl rfl
  · rename_i reply _
    generalize otaServiceHandle _ _ _ _ _ _ _ = handled
    have updated : Unmoved device { device with
        ota := handled.1
        running := device.running && !handled.1.halted } := unmoved_of_log rfl rfl rfl rfl
    exact updated.trans (serialiseAndSend_unmoved env (ykpSendPacket_unmoved env) _ _ _)

theorem qosTimerCallback_unmoved (env : DeviceEnv) (device : Device) :
    Unmoved device (qosTimerCallback env device) := by
  -- Each packet that is due is sent on its own.
  have each : ∀ (due : List Bytes) (device : Device),
      Unmoved device (due.foldl (ykpSendPacket env) device) := by
    intro due
    induction due with
    | nil => exact Unmoved.refl
    | cons raw rest ih =>
      exact fun device => (ykpSendPacket_unmoved env device raw).trans (ih _)
  have ticked : Unmoved device { device with qos := (ykpQosTick device.qos env.nowUs).2 } :=
    unmoved_of_log rfl rfl rfl rfl
  exact ticked.trans (each _ _)

theorem mainLoopHealth_unmoved (env : DeviceEnv) (device : Device) :
    Unmoved device (mainLoopHealth env device) := by
  have counted (counter : Nat) : Unmoved device { device with healthLoopCounter := counter } :=
    unmoved_of_log rfl rfl rfl rfl
  unfold mainLoopHealth
  dsimp only
  -- Every twelfth round a report is due, which an active session sends.
  split
  · split
    · exact (counted 0).trans (healthServiceSendReport_unmoved env _)
    · exact counted 0
  · exact counted _

/-- An entry for a packet of a service and action that was handed to the WebSocket client. -/
def DeviceEvent.SentAs (service : Service) (action : UInt8) : DeviceEvent → Prop
  | .wsSend raw => byteAt raw 29 = service.byte ∧ byteAt raw 30 = action
  | _ => False

/-- A packet whose payload has room in the buffer is sent whole. -/
theorem serialiseAndSend_layout (env : DeviceEnv) (send : Device → Bytes → Device)
    (device : Device) {pkt : YkpPacket} (consistent : pkt.Consistent) (empty : pkt.payloadLen = 0)
    {payload : Bytes} {outSize : Nat}
    (room : ykpHeaderSize + payload.length + ykpAuthTagSize ≤ outSize) (small : outSize < 65536) :
    serialiseAndSend env send device (ykpPacketSetPayload pkt env.mallocOk payload) outSize =
      send device (ykpPacketSetPayload pkt env.mallocOk payload).whole := by
  have full := setPayload_consistent consistent empty env.mallocOk payload
  have length := setPayload_length empty env.mallocOk payload
  simp only [ykpHeaderSize, ykpAuthTagSize] at room
  -- The packet fits its buffer, so serialising does not fail.
  obtain ⟨sent, raw⟩ := serialise_raw full
    (show ykpHeaderSize + _ + ykpAuthTagSize ≤ outSize by
      simp only [ykpHeaderSize, ykpAuthTagSize]
      omega) small env.buffer
  rw [← raw]
  exact if_pos sent

/-- A packet with a short payload leaves as one entry, under its own service and action. -/
theorem serialiseAndSend_short (env : DeviceEnv) (device : Device) {pkt : YkpPacket}
    (consistent : pkt.Consistent) (empty : pkt.payloadLen = 0) {payload : Bytes}
    (short : payload.length ≤ 128) :
    ∃ raw, serialiseAndSend env ykpWsSend device (ykpPacketSetPayload pkt env.mallocOk payload) 256
        = ykpWsSend device raw ∧
      byteAt raw 29 = pkt.header.serviceId ∧ byteAt raw 30 = pkt.header.actionId := by
  have full := setPayload_consistent consistent empty env.mallocOk payload
  obtain ⟨_, header⟩ := setPayload_header pkt env.mallocOk payload
  have room : ykpHeaderSize + payload.length + ykpAuthTagSize ≤ 256 := by
    simp only [ykpHeaderSize, ykpAuthTagSize]
    omega
  -- Setting the payload has changed neither byte of the header.
  refine ⟨_, serialiseAndSend_layout env ykpWsSend device consistent empty room (by decide), ?_, ?_⟩
  · rw [full.reads.serviceId, header]
  · rw [full.reads.actionId, header]

/-- A handshake packet was handed to the WebSocket client and the session is in its state. -/
structure Sent (action : SecAction) (state : SessionState) (before after : Device) : Prop where
  state : after.session.state = state
  keys : after.secCtx.session = before.secCtx.session
  replay : after.replay = before.replay
  log : ∃ event, after.log = event :: before.log ∧ event.Quiet ∧
    event.SentAs .security action.byte

/-- A handshake packet with a short payload is sent unless memory runs out. -/
theorem sendHandshake_cases (env : DeviceEnv) (device : Device) (action : SecAction)
    {payload : Bytes} (state : SessionState) (short : payload.length ≤ 128) :
    (env.allocOk = false ∧ sendHandshake env device action payload state = device) ∨
      Sent action state device (sendHandshake env device action payload state) := by
  unfold sendHandshake
  cases allocated : env.allocOk with
  | false => exact .inl ⟨rfl, rfl⟩
  | true =>
    simp only [Bool.not_true, Bool.false_eq_true, if_false]
    -- The packet takes the next number of the session, and its payload fits the buffer.
    have plain := setHeader_consistent (device.nextPacketId env).1 0 device.deviceId.bytes
      serverName .cloud .security action.byte .qos1 false
    obtain ⟨raw, sent, service, named⟩ :=
      serialiseAndSend_short env (device.nextPacketId env).2 plain rfl short
    rw [sent]
    exact .inr ⟨rfl, rfl, rfl, .wsSend raw, rfl, trivial, service, named⟩

/-- The payload of a HELLO fits its builder. -/
theorem helloPayload_length (deviceId : DeviceId) (ephemeralPublic : Bytes) :
    (helloPayload deviceId ephemeralPublic).length ≤ 128 := by
  -- Each field keeps the builder within its capacity.
  have start : (ykpTlvBuilderInit 128).Bounded := ykpTlvBuilderInit_bounded (by decide)
  obtain ⟨cap, first⟩ :=
    ykpTlvAdd_bounded .deviceId (cborEncodeStr_keepsBounds deviceId.bytes) start
  obtain ⟨cap', second⟩ :=
    ykpTlvAdd_bounded .publicKey (cborEncodeBytes_keepsBounds ephemeralPublic) first
  obtain ⟨cap'', third⟩ :=
    ykpTlvAdd_bounded .firmwareVer (cborEncodeStr_keepsBounds ykpFirmwareVersion) second
  exact ykpTlvBuilderLen_le third (cap''.trans (cap'.trans cap)) (by decide)

/-- The payload of an ECDH_RESPONSE fits its builder. -/
theorem ecdhResponsePayload_length (deviceId : DeviceId) (signature : Bytes) :
    (ecdhResponsePayload deviceId signature).length ≤ 128 := by
  have start : (ykpTlvBuilderInit 128).Bounded := ykpTlvBuilderInit_bounded (by decide)
  obtain ⟨cap, first⟩ :=
    ykpTlvAdd_bounded .deviceId (cborEncodeStr_keepsBounds deviceId.bytes) start
  obtain ⟨cap', second⟩ :=
    ykpTlvAdd_bounded .signature (cborEncodeBytes_keepsBounds signature) first
  exact ykpTlvBuilderLen_le second (cap'.trans cap) (by decide)

/-- A HELLO is sent, or nothing of the handshake changes. -/
theorem sendHello_cases (env : DeviceEnv) (device : Device) :
    Unmoved device (sendHello env device) ∨ Sent .hello .helloSent device (sendHello env device) := by
  have keys : (ykpSecurityGenEphemeral device.secCtx env.keyGeneration).2.session =
      device.secCtx.session := by
    cases env.keyGeneration <;> rfl
  unfold sendHello
  dsimp only
  -- Without a new key pair no HELLO is sent.
  split
  · exact .inl (unmoved_of_log rfl keys rfl rfl)
  · rcases sendHandshake_cases env { device with
        secCtx := (ykpSecurityGenEphemeral device.secCtx env.keyGeneration).2 } .hello .helloSent
        (helloPayload_length device.deviceId _) with ⟨-, same⟩ | sent
    · rw [same]
      exact .inl (unmoved_of_log rfl keys rfl rfl)
    · exact .inr ⟨sent.state, sent.keys.trans keys, sent.replay, sent.log⟩

/-- An ECDH_RESPONSE is sent unless it cannot be signed or memory runs out. -/
theorem sendEcdhResponse_cases (env : DeviceEnv) (device : Device) :
    ((env.signature = none ∨ env.allocOk = false) ∧ sendEcdhResponse env device = device) ∨
      Sent .ecdhResponse .ecdhSent device (sendEcdhResponse env device) := by
  unfold sendEcdhResponse
  -- A response that cannot be signed is not sent.
  cases signed : env.signature with
  | none => exact .inl ⟨.inl rfl, rfl⟩
  | some signature =>
    rcases sendHandshake_cases env device .ecdhResponse .ecdhSent
        (ecdhResponsePayload_length device.deviceId signature) with ⟨full, same⟩ | sent
    · exact .inl ⟨.inr full, same⟩
    · exact .inr sent

/-- A derivation was tried: it is logged, and a successful one leaves the keys active. -/
structure Derived (before after : Device) : Prop where
  state : after.session.state = before.session.state
  replay : after.replay = before.replay
  log : ∃ serverPub nonce sessionId ok,
    after.log = .derived serverPub nonce sessionId ok :: before.log ∧
      after.secCtx.session.active = (ok || before.secCtx.session.active)

theorem deriveKey_derived (crypto : DeviceCrypto) (device : Device) (serverPub : Bytes)
    (sessionId : Nat) : Derived device (deriveKey crypto device serverPub sessionId) := by
  refine ⟨rfl, rfl, serverPub, device.session.serverNonce, sessionId, _, rfl, ?_⟩
  -- Both ways to fail leave the keys as active as they were.
  simp only [deriveKey, ykpSecurityDeriveSessionKey, Device.record]
  split
  · rfl
  · split <;> rfl

/-- The packet an event delivers to the dispatcher, with the bytes it came in. -/
def received : DeviceInput → Option (Bytes × YkpPacket)
  | .packet raw =>
    let raw := raw.take (raw.length % 2 ^ 16)
    (ykpPacketParse raw).map fun pkt => (raw, pkt)
  | _ => none

/-- Packets that are neither acknowledgements nor addressed to the security service. -/
def IsData (pkt : YkpPacket) : Prop :=
  pkt.header.flags &&& flagAck = 0 ∧ pkt.header.serviceId ≠ Service.security.byte

/-- The handshake action a packet asks for. -/
def secAction (pkt : YkpPacket) : Option SecAction :=
  if pkt.header.flags &&& flagAck = 0 ∧ pkt.header.serviceId = Service.security.byte then
    SecAction.ofByte pkt.header.actionId
  else none

/-- The handshake action an event makes the firmware carry out while it runs. -/
def Device.action (device : Device) (input : DeviceInput) : Option SecAction :=
  if device.running then (received input).bind fun delivered => secAction delivered.2 else none

/-- What a payload is opened to: the entries logged, and the packet unless its tag was wrong. -/
inductive Opened (crypto : DeviceCrypto) (keys : SessionKeys) (raw : Bytes) (pkt : YkpPacket) :
    List DeviceEvent → Option YkpPacket → Prop
  /-- Without payload or without the flag a packet is taken as it came. -/
  | plain (unprotected : pkt.payload = none ∨ pkt.header.flags &&& flagEncrypted = 0) :
    Opened crypto keys raw pkt [] (some pkt)
  | tagRight {payload plaintext : Bytes} (carries : pkt.payload = some payload)
    (flagged : pkt.header.flags &&& flagEncrypted ≠ 0)
    (right : ykpSecurityDecrypt crypto keys pkt.header.packetId (raw.take ykpHeaderSize) payload
      pkt.authTag = some plaintext) :
    Opened crypto keys raw pkt
      [.decrypted keys pkt.header.packetId (raw.take ykpHeaderSize) payload pkt.authTag true]
      (some { pkt with payload := some plaintext })
  | tagWrong {payload : Bytes} (carries : pkt.payload = some payload)
    (flagged : pkt.header.flags &&& flagEncrypted ≠ 0)
    (wrong : ykpSecurityDecrypt crypto keys pkt.header.packetId (raw.take ykpHeaderSize) payload
      pkt.authTag = none) :
    Opened crypto keys raw pkt
      [.decrypted keys pkt.header.packetId (raw.take ykpHeaderSize) payload pkt.authTag false] none

/-- The entries of a dispatched packet: none when no service takes it, or the dispatch itself and
then what the service sends. -/
def DispatchLog (raw : Bytes) (opened : Option YkpPacket) (newer : List DeviceEvent) : Prop :=
  newer = [] ∨ ∃ service pkt quiet, opened = some pkt ∧
    Service.ofByte pkt.header.serviceId = some service ∧
    newer = quiet ++ [.dispatched service raw pkt] ∧ ∀ event ∈ quiet, event.Quiet

/-- A packet that passed the replay check under an active session. -/
structure Admitted (crypto : DeviceCrypto) (raw : Bytes) (pkt : YkpPacket)
    (before after : Device) : Prop where
  state : after.session.state = before.session.state
  keys : after.secCtx.session = before.secCtx.session
  replay : after.replay = (ykpReplayCheck before.replay pkt.header.packetId).2
  log : ∃ opening opened newer, Opened crypto before.secCtx.session raw pkt opening opened ∧
    DispatchLog raw opened newer ∧ after.log = newer ++ (opening ++ before.log)

/-- A packet is handed to a service, or no service takes it. -/
theorem dispatch_cases (crypto : DeviceCrypto) (env : DeviceEnv) (raw : Bytes) (pkt : YkpPacket)
    (device : Device) :
    dispatch crypto env raw pkt device = device ∨
      ∃ service, Service.ofByte pkt.header.serviceId = some service ∧
        Unmoved (device.record (.dispatched service raw pkt))
          (dispatch crypto env raw pkt device) := by
  unfold dispatch
  -- The four services, and everything else.
  split
  · exact .inr ⟨.relay, ‹_›, relayServiceHandle_unmoved env _ _ _ _ _⟩
  · exact .inr ⟨.sensor, ‹_›, sensorServiceSendReport_unmoved env _⟩
  · refine .inr ⟨.health, ‹_›, ?_⟩
    dsimp only
    split
    · exact healthServiceSendReport_unmoved env _
    · exact .refl _
  · exact .inr ⟨.ota, ‹_›, runOta_unmoved crypto env pkt _⟩
  · exact .inl rfl

/-- Dispatching on top of logged entries moves neither the session nor the keys nor the window. -/
theorem dispatch_logged (crypto : DeviceCrypto) (env : DeviceEnv) (raw : Bytes) (pkt : YkpPacket)
    (device : Device) :
    let after := dispatch crypto env raw pkt device
    after.session.state = device.session.state ∧ after.secCtx.session = device.secCtx.session ∧
      after.replay = device.replay ∧
      ∃ newer, DispatchLog raw (some pkt) newer ∧ after.log = newer ++ device.log := by
  -- What a service does behind the dispatch moves nothing that is compared.
  rcases dispatch_cases crypto env raw pkt device with same | ⟨service, named, unmoved⟩
  · dsimp only
    rw [same]
    exact ⟨rfl, rfl, rfl, [], .inl rfl, rfl⟩
  · obtain ⟨quiet, logged, silent⟩ := unmoved.log
    refine ⟨unmoved.state, unmoved.keys, unmoved.replay, quiet ++ [.dispatched service raw pkt],
      .inr ⟨service, pkt, quiet, rfl, named, rfl, silent⟩, ?_⟩
    rw [logged, List.append_assoc]
    rfl

/-- A packet behind the replay check is admitted, whatever its payload is opened to. -/
theorem openAndDispatch_admitted (crypto : DeviceCrypto) (env : DeviceEnv) (raw : Bytes)
    (pkt : YkpPacket) (device : Device) :
    Admitted crypto raw pkt device (openAndDispatch crypto env raw pkt
      { device with replay := (ykpReplayCheck device.replay pkt.header.packetId).2 }) := by
  -- Three ways to be opened, as the code tells them apart.
  unfold openAndDispatch
  split
  · rename_i payload carries
    split
    · rename_i flagged
      dsimp only
      split
      · rename_i wrong
        refine ⟨rfl, rfl, rfl, _, none, [], .tagWrong carries flagged wrong, .inl rfl, ?_⟩
        simp [Device.record, wrong]
      · rename_i plaintext right
        obtain ⟨state, keys, replay, newer, entries, logged⟩ := dispatch_logged crypto env raw
          { pkt with payload := some plaintext } _
        refine ⟨state, keys, replay, _, _, newer, .tagRight carries flagged right, entries, ?_⟩
        rw [logged]
        simp [Device.record, right]
    · rename_i plain
      obtain ⟨state, keys, replay, newer, entries, logged⟩ :=
        dispatch_logged crypto env raw pkt _
      exact ⟨state, keys, replay, [], _, newer, .plain (.inr (not_ne_iff.mp plain)), entries,
        logged⟩
  · rename_i empty
    obtain ⟨state, keys, replay, newer, entries, logged⟩ := dispatch_logged crypto env raw pkt _
    exact ⟨state, keys, replay, [], _, newer, .plain (.inl empty), entries, logged⟩

/-- What a CHALLENGE does: nothing, an answer, or a derivation and then an answer if one can be
sent. -/
def Answered (env : DeviceEnv) (before after : Device) : Prop :=
  Unmoved before after ∨ Sent .ecdhResponse .ecdhSent before after ∨
    ∃ middle, Derived before middle ∧
      ((env.signature = none ∨ env.allocOk = false) ∧ after = middle ∨
        Sent .ecdhResponse .ecdhSent middle after)

theorem answerChallenge_answered (crypto : DeviceCrypto) (env : DeviceEnv) (pkt : YkpPacket)
    (device : Device) : Answered env device (answerChallenge crypto env pkt device) := by
  unfold answerChallenge
  -- The lookup of the key runs on, finds it, or finds none.
  split
  · exact .inl (unmoved_of_log rfl rfl rfl rfl)
  · exact .inr (.inr ⟨_, deriveKey_derived crypto device _ _, sendEcdhResponse_cases env _⟩)
  · rcases sendEcdhResponse_cases env device with ⟨-, same⟩ | sent
    · rw [same]
      exact .inl (.refl device)
    · exact .inr (.inl sent)

theorem handleChallenge_answered (crypto : DeviceCrypto) (env : DeviceEnv) (pkt : YkpPacket)
    (device : Device) : Answered env device (handleChallenge crypto env pkt device) := by
  unfold handleChallenge
  split
  · exact .inl (unmoved_of_log rfl rfl rfl rfl)
  · rename_i tlv _
    -- Storing the nonce moves nothing that is compared.
    have answered := answerChallenge_answered crypto env pkt
      { device with
        session := ykpSessionStoreNonce device.session
          (readBytes (payloadMemory env pkt) tlv.start tlv.length) }
    rcases answered with same | sent | ⟨middle, derived, answer⟩
    · exact .inl ⟨same.state, same.keys, same.replay, same.log⟩
    · exact .inr (.inl ⟨sent.state, sent.keys, sent.replay, sent.log⟩)
    · exact .inr (.inr ⟨middle, ⟨derived.state, derived.replay, derived.log⟩, answer⟩)
  · exact answerChallenge_answered crypto env pkt device

/-- A SESSION_ACTIVE took effect: the state is active and the replay window fresh. -/
structure Activated (before after : Device) : Prop where
  state : after.session.state = .active
  keys : after.secCtx.session.active = before.secCtx.session.active
  replay : after.replay = ykpReplayReset
  log : ∃ sessionId, after.log = .sessionActive sessionId :: before.log

theorem handleSessionActive_cases (env : DeviceEnv) (pkt : YkpPacket) (device : Device) :
    Unmoved device (handleSessionActive env pkt device) ∨
      Activated device (handleSessionActive env pkt device) := by
  unfold handleSessionActive
  dsimp only
  split
  · exact .inl (unmoved_of_log rfl rfl rfl rfl)
  · exact .inr ⟨rfl, rfl, rfl, _, rfl⟩

/-- What one event does to the session, the keys, the replay window and the log. -/
inductive Moves (crypto : DeviceCrypto) (before : Device) (input : DeviceInput × DeviceEnv)
    (after : Device) : Prop
  | unmoved (same : Unmoved before after)
  | hello (sent : Sent .hello .helloSent before after)
  /-- The handshake starts over, with a HELLO or without. -/
  | reset (same : Unmoved before.resetSession after)
  | restarted (sent : Sent .hello .helloSent before.resetSession after)
  | challenge (asked : before.action input.1 = some .challenge)
    (answered : Answered input.2 before after)
  | sessionActive (asked : before.action input.1 = some .sessionActive)
    (activated : Activated before after)
  /-- The replay check rejects a packet of an active session. -/
  | rejected {raw : Bytes} {pkt : YkpPacket} (delivered : received input.1 = some (raw, pkt))
    (data : IsData pkt) (active : before.session.state = .active)
    (replayed : (ykpReplayCheck before.replay pkt.header.packetId).1 = false)
    (same : after = { before with
      replay := (ykpReplayCheck before.replay pkt.header.packetId).2 })
  | admitted {raw : Bytes} {pkt : YkpPacket} (delivered : received input.1 = some (raw, pkt))
    (data : IsData pkt) (active : before.session.state = .active)
    (fresh : (ykpReplayCheck before.replay pkt.header.packetId).1 = true)
    (admitted : Admitted crypto raw pkt before after)

/-- A HELLO on its own. -/
theorem sendHello_moves (crypto : DeviceCrypto) (input : DeviceInput × DeviceEnv)
    (device : Device) : Moves crypto device input (sendHello input.2 device) := by
  rcases sendHello_cases input.2 device with same | sent
  · exact .unmoved same
  · exact .hello sent

/-- A HELLO behind a reset. -/
theorem resetHello_moves (crypto : DeviceCrypto) (input : DeviceInput × DeviceEnv)
    (device : Device) : Moves crypto device input (sendHello input.2 device.resetSession) := by
  rcases sendHello_cases input.2 device.resetSession with same | sent
  · exact .reset same
  · exact .restarted sent

/-- A received packet that is neither handshake nor acknowledgement. -/
theorem handleData_moves (crypto : DeviceCrypto) {input : DeviceInput × DeviceEnv} {raw : Bytes}
    {pkt : YkpPacket} (delivered : received input.1 = some (raw, pkt)) (data : IsData pkt)
    (device : Device) : Moves crypto device input (handleData crypto input.2 raw pkt device) := by
  unfold handleData
  -- Without an active session the packet is dropped.
  split
  · exact .unmoved (.refl device)
  · rename_i active
    have active : device.session.state = .active := by
      simpa [ykpSessionIsActive] using active
    dsimp only
    -- The window rejects the id or registers it.
    split
    · rename_i replayed
      exact .rejected delivered data active (by simpa using replayed) rfl
    · rename_i fresh
      exact .admitted delivered data active (by simpa using fresh)
        (openAndDispatch_admitted crypto input.2 raw pkt device)

/-- A received packet moves the firmware in one of the ways above. -/
theorem handleIncomingPacket_moves (crypto : DeviceCrypto) {input : DeviceInput × DeviceEnv}
    {raw : Bytes} {device : Device} (running : device.running = true)
    (delivered : received input.1 = (ykpPacketParse raw).map fun pkt => (raw, pkt)) :
    Moves crypto device input (handleIncomingPacket crypto input.2 raw device) := by
  unfold handleIncomingPacket
  cases parsed : ykpPacketParse raw with
  | none => exact .unmoved (.refl device)
  | some pkt =>
    rw [parsed] at delivered
    dsimp only
    -- An acknowledgement only releases what waits to be sent again.
    split
    · exact .unmoved (unmoved_of_log rfl rfl rfl rfl)
    · rename_i acknowledges
      have plain := not_ne_iff.mp acknowledges
      split
      · rename_i security
        -- The action decides which part of the handshake the packet belongs to.
        have asked : device.action input.1 = SecAction.ofByte pkt.header.actionId := by
          simp [Device.action, running, delivered, secAction, plain, security]
        unfold handleSecurity
        split
        · rename_i action
          exact .challenge (asked.trans action) (handleChallenge_answered crypto input.2 pkt device)
        · rename_i action
          rcases handleSessionActive_cases input.2 pkt device with same | activated
          · exact .unmoved same
          · exact .sessionActive (asked.trans action) activated
        · exact resetHello_moves crypto input device
        · exact .unmoved (.refl device)
      · rename_i other
        exact handleData_moves crypto delivered ⟨plain, other⟩ device

/-- One event moves the firmware in one of the ways above. -/
theorem deviceStep_moves (crypto : DeviceCrypto) (device : Device)
    (input : DeviceInput × DeviceEnv) :
    Moves crypto device input (deviceStep crypto device input) := by
  unfold deviceStep
  cases running : device.running with
  | false => exact .unmoved (.refl device)
  | true =>
    simp only [Bool.not_true, Bool.false_eq_true, if_false]
    -- Event by event, as the firmware receives them.
    split
    · rename_i raw arrived
      split
      · exact .unmoved (.refl device)
      · exact handleIncomingPacket_moves crypto running (by rw [arrived]; rfl)
    · exact sendHello_moves crypto input device
    · exact .reset (.refl _)
    · unfold mainLoopRotation
      split
      · exact resetHello_moves crypto input device
      · exact .unmoved (.refl device)
    · exact .unmoved (mainLoopHealth_unmoved input.2 device)
    · exact .unmoved (buttonDebounceTimerCallback_unmoved input.2 device)
    · exact .unmoved (qosTimerCallback_unmoved input.2 device)

end Ykp.Firmware
