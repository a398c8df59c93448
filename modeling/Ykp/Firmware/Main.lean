import Ykp.Firmware.Services
import Ykp.Foundation.History
import Ykp.Foundation.Machine

/-! The firmware's main module: the handshake, the packet dispatcher and the events that drive them. -/

namespace Ykp.Firmware

open BigEndian

/-- A handshake packet to the server, after which the session is in a given state. -/
def sendHandshake (env : DeviceEnv) (device : Device) (action : SecAction) (payload : Bytes)
    (state : SessionState) : Device :=
  -- Without memory for the packet neither the counter nor the state moves.
  if !env.allocOk then device
  else
    let next := device.nextPacketId env
    let pkt := ykpPacketSetHeader ykpPacketAlloc next.1 0 device.deviceId.bytes serverName .cloud
      .security action.byte .qos1 false
    let pkt := ykpPacketSetPayload pkt env.mallocOk payload
    let sent := serialiseAndSend env ykpWsSend next.2 pkt 256
    { sent with session := { sent.session with state := state } }

/-- The payload of a HELLO. -/
def helloPayload (deviceId : DeviceId) (ephemeralPublic : Bytes) : Bytes :=
  let b := ykpTlvBuilderInit 128
  let b := (ykpTlvAddString b .deviceId deviceId.bytes).1
  let b := (ykpTlvAddBytes b .publicKey ephemeralPublic).1
  let b := (ykpTlvAddString b .firmwareVer ykpFirmwareVersion).1
  ykpTlvBuilderLen b

/-- A HELLO with a new ephemeral key. -/
def sendHello (env : DeviceEnv) (device : Device) : Device :=
  let generated := ykpSecurityGenEphemeral device.secCtx env.keyGeneration
  let device := { device with secCtx := generated.2 }
  if !generated.1 then device
  else
    sendHandshake env device .hello (helloPayload device.deviceId generated.2.ephemeralPublic)
      .helloSent

/-- The payload of an ECDH_RESPONSE. -/
def ecdhResponsePayload (deviceId : DeviceId) (signature : Bytes) : Bytes :=
  let b := ykpTlvBuilderInit 128
  let b := (ykpTlvAddString b .deviceId deviceId.bytes).1
  let b := (ykpTlvAddBytes b .signature signature).1
  ykpTlvBuilderLen b

/-- An ECDH_RESPONSE with the signed nonce. -/
def sendEcdhResponse (env : DeviceEnv) (device : Device) : Device :=
  match env.signature with
  | none => device
  | some signature =>
    sendHandshake env device .ecdhResponse (ecdhResponsePayload device.deviceId signature)
      .ecdhSent

/-- The memory a received payload stands in. -/
def payloadMemory (env : DeviceEnv) (pkt : YkpPacket) : Memory :=
  memoryOf (pkt.payload.getD []) env.beyond

/-- A lookup in the payload of a packet; without payload there is nothing to find. -/
def payloadFind (env : DeviceEnv) (pkt : YkpPacket) (type : TlvType) : TlvLookup :=
  match pkt.payload with
  | none => .absent
  | some _ => ykpTlvFind (payloadMemory env pkt) pkt.payloadLen type.byte

/-- The session key is derived from the server's key and the stored nonce. -/
def deriveKey (crypto : DeviceCrypto) (device : Device) (serverPub : Bytes) (sessionId : Nat) :
    Device :=
  let nonce := device.session.serverNonce
  let result := ykpSecurityDeriveSessionKey crypto device.secCtx serverPub nonce sessionId
  { device with secCtx := result.2 }.record (.derived serverPub nonce sessionId result.1)

/-- The second half of a CHALLENGE: the key is derived if there is one, and the response sent in
any case. -/
def answerChallenge (crypto : DeviceCrypto) (env : DeviceEnv) (pkt : YkpPacket)
    (device : Device) : Device :=
  match payloadFind env pkt .publicKey with
  | .diverges => device.hang
  | .found tlv =>
    -- Sixty-five bytes are copied from the field, whatever its length.
    let serverPub := readBytes (payloadMemory env pkt) tlv.start ykpEcPubkeyLen
    sendEcdhResponse env (deriveKey crypto device serverPub pkt.header.packetId)
  | .absent => sendEcdhResponse env device

/-- A CHALLENGE: its nonce is stored first. -/
def handleChallenge (crypto : DeviceCrypto) (env : DeviceEnv) (pkt : YkpPacket)
    (device : Device) : Device :=
  match payloadFind env pkt .nonce with
  | .diverges => device.hang
  | .found tlv =>
    let nonce := readBytes (payloadMemory env pkt) tlv.start tlv.length
    answerChallenge crypto env pkt
      { device with session := ykpSessionStoreNonce device.session nonce }
  | .absent => answerChallenge crypto env pkt device

/-- A SESSION_ACTIVE: the session is active under the announced id, or else the packet's. -/
def handleSessionActive (env : DeviceEnv) (pkt : YkpPacket) (device : Device) : Device :=
  let announced (tlv : YkpTlv) := ykpTlvReadUint32 (payloadMemory env pkt) tlv
  match payloadFind env pkt .valueInt with
  | .diverges => device.hang
  | found =>
    let sessionId := match found with
      | .found tlv => (announced tlv).getD pkt.header.packetId
      | _ => pkt.header.packetId
    { device with
      session := ykpSessionSetActive device.session sessionId env.nowUs
      secCtx := { device.secCtx with
        session := { device.secCtx.session with sessionId := sessionId } }
      replay := ykpReplayReset }.record (.sessionActive sessionId)

/-- A packet of the security service; none of its actions looks at the session state. -/
def handleSecurity (crypto : DeviceCrypto) (env : DeviceEnv) (pkt : YkpPacket)
    (device : Device) : Device :=
  match SecAction.ofByte pkt.header.actionId with
  | some .challenge => handleChallenge crypto env pkt device
  | some .sessionActive => handleSessionActive env pkt device
  | some .keyRotate => sendHello env device.resetSession
  | _ => device

/-- The update service handles a message, and its reply is sent. -/
def runOta (crypto : DeviceCrypto) (env : DeviceEnv) (pkt : YkpPacket) (device : Device) :
    Device :=
  let handled := otaServiceHandle crypto.sha256 device.deviceId env.ota (payloadMemory env pkt)
    pkt.payloadLen pkt.header.actionId device.ota
  let device := { device with
    ota := handled.1
    running := device.running && !handled.1.halted }
  match handled.2 with
  | none => device
  | some reply => serialiseAndSend env (ykpSendPacket env) device reply.pkt reply.outSize

/-- A packet is handed to its service; a service the device does not have is ignored. -/
def dispatch (crypto : DeviceCrypto) (env : DeviceEnv) (raw : Bytes) (pkt : YkpPacket)
    (device : Device) : Device :=
  match Service.ofByte pkt.header.serviceId with
  | some .relay =>
    relayServiceHandle env (device.record (.dispatched .relay raw pkt)) pkt.header.actionId
      pkt.header.packetId pkt.header.sessionId pkt.header.sourceId
  | some .sensor => sensorServiceSendReport env (device.record (.dispatched .sensor raw pkt))
  | some .health =>
    let device := device.record (.dispatched .health raw pkt)
    if pkt.header.actionId = HealthAction.request.byte then healthServiceSendReport env device
    else device
  | some .ota => runOta crypto env pkt (device.record (.dispatched .ota raw pkt))
  | _ => device

/-- A packet behind the replay check: an encrypted payload is opened first. -/
def openAndDispatch (crypto : DeviceCrypto) (env : DeviceEnv) (raw : Bytes) (pkt : YkpPacket)
    (device : Device) : Device :=
  match pkt.payload with
  | some payload =>
    if pkt.header.flags &&& flagEncrypted ≠ 0 then
      let keys := device.secCtx.session
      let aad := raw.take ykpHeaderSize
      let opened := ykpSecurityDecrypt crypto keys pkt.header.packetId aad payload pkt.authTag
      let device := device.record
        (.decrypted keys pkt.header.packetId aad payload pkt.authTag opened.isSome)
      match opened with
      | none => device
      | some plaintext => dispatch crypto env raw { pkt with payload := some plaintext } device
    else dispatch crypto env raw pkt device
  | none => dispatch crypto env raw pkt device

/-- A packet for a service: it needs an active session and an id that is not a replay. -/
def handleData (crypto : DeviceCrypto) (env : DeviceEnv) (raw : Bytes) (pkt : YkpPacket)
    (device : Device) : Device :=
  if !ykpSessionIsActive device.session then device
  else
    let checked := ykpReplayCheck device.replay pkt.header.packetId
    let device := { device with replay := checked.2 }
    if !checked.1 then device else openAndDispatch crypto env raw pkt device

/-- The dispatcher of incoming packets. -/
def handleIncomingPacket (crypto : DeviceCrypto) (env : DeviceEnv) (raw : Bytes)
    (device : Device) : Device :=
  match ykpPacketParse raw with
  | none => device
  | some pkt =>
    if pkt.header.flags &&& flagAck ≠ 0 then
      { device with qos := ykpQosAck device.qos pkt.header.packetId env.nowUs }
    else if pkt.header.serviceId = Service.security.byte then handleSecurity crypto env pkt device
    else handleData crypto env raw pkt device

/-- The events the firmware reacts to. -/
inductive DeviceInput
  /-- A binary WebSocket message. -/
  | packet (raw : Bytes)
  | wsConnected
  | wsDisconnected
  /-- The two checks of the main loop. -/
  | rotationCheck
  | healthCheck
  | button
  | qosTimer

/-- A due key rotation starts the handshake over. -/
def mainLoopRotation (env : DeviceEnv) (device : Device) : Device :=
  if ykpSessionRotationDue device.session && env.connected then sendHello env device.resetSession
  else device

/-- Every twelfth pass of the main loop reports the device's health while a session is active. -/
def mainLoopHealth (env : DeviceEnv) (device : Device) : Device :=
  let counter := device.healthLoopCounter + 1
  if 12 ≤ counter then
    let device := { device with healthLoopCounter := 0 }
    if ykpSessionIsActive device.session then healthServiceSendReport env device else device
  else { device with healthLoopCounter := counter }

/-- The retransmission timer sends what is due. -/
def qosTimerCallback (env : DeviceEnv) (device : Device) : Device :=
  let ticked := ykpQosTick device.qos env.nowUs
  ticked.1.foldl (ykpSendPacket env) { device with qos := ticked.2 }

/-- One event; a firmware that hangs or has restarted handles none. -/
def deviceStep (crypto : DeviceCrypto) (device : Device) (input : DeviceInput × DeviceEnv) :
    Device :=
  if !device.running then device
  else match input.1 with
    -- The length parameter of the receive callback has sixteen bits.
    | .packet raw =>
      if raw = [] then device
      else handleIncomingPacket crypto input.2 (raw.take (raw.length % 2 ^ 16)) device
    | .wsConnected => sendHello input.2 device
    | .wsDisconnected => device.resetSession
    | .rotationCheck => mainLoopRotation input.2 device
    | .healthCheck => mainLoopHealth input.2 device
    | .button => buttonDebounceTimerCallback input.2 device
    | .qosTimer => qosTimerCallback input.2 device

/-- The firmware after a list of events since boot. -/
def deviceRun (crypto : DeviceCrypto) (deviceId : DeviceId)
    (inputs : List (DeviceInput × DeviceEnv)) : Device :=
  Machine.run (deviceStep crypto) (bootDevice deviceId) inputs

end Ykp.Firmware
