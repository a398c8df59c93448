import Ykp.Backend.Steps
import Ykp.Firmware.Steps

/-! Handshake packets between the ends: what one sends is what the other parses. -/

namespace Ykp.System

open Firmware Backend

/-- Bytes that carry a handshake packet: its header, its payload and a tag. -/
def Carries (raw : Bytes) (action : SecAction) (payload : Bytes) : Prop :=
  ∃ (header : YkpHeader) (tag : Bytes), header.Filled ∧ header.flags &&& flagAck = 0 ∧
    header.serviceId = Service.security.byte ∧ header.actionId = action.byte ∧
      tag.length = ykpAuthTagSize ∧ raw = headerBytes header payload.length ++ (payload ++ tag)

/-- The device sends its handshake packets whole, without payload when there is no memory for it. -/
theorem sendHandshake_carries (env : DeviceEnv) (device : Device) (action : SecAction)
    {payload : Bytes} (state : Firmware.SessionState) (allocated : env.allocOk = true)
    (short : payload.length ≤ 128) :
    ∃ raw, (sendHandshake env device action payload state).log = .wsSend raw :: device.log ∧
      Carries raw action (if env.mallocOk then payload else []) := by
  -- The packet before its payload is set.
  let fresh := ykpPacketSetHeader ykpPacketAlloc (device.nextPacketId env).1 0 device.deviceId.bytes
    serverName .cloud .security action.byte .qos1 false
  have plain : fresh.Consistent := setHeader_consistent _ _ _ _ _ _ _ _ _
  have full := setPayload_consistent plain rfl env.mallocOk payload
  have body := setPayload_body fresh env.mallocOk payload
  have sent := serialiseAndSend_layout env ykpWsSend (device.nextPacketId env).2 plain rfl
    (show ykpHeaderSize + payload.length + ykpAuthTagSize ≤ 256 by
      simp only [ykpHeaderSize, ykpAuthTagSize]
      omega) (by decide)
  obtain ⟨length, header⟩ := setPayload_header fresh env.mallocOk payload
  have flags : fresh.header.flags &&& flagAck = 0 := by
    change (Qos.qos1.byte &&& flagQosMask) &&& flagAck = 0
    decide
  simp only [sendHandshake, allocated, Bool.not_true, Bool.false_eq_true, if_false]
  rw [sent]
  -- Setting the payload leaves the rest of the header.
  refine ⟨_, rfl, _, _, full.filled, ?_, ?_, ?_, full.tagged, ?_⟩
  · exact (congrArg (fun h => YkpHeader.flags h &&& flagAck) header).trans flags
  · exact congrArg YkpHeader.serviceId header
  · exact congrArg YkpHeader.actionId header
  · rw [← body, ← full.length]
    rfl

/-- A HELLO under a new key pair. -/
theorem sendHello_generated {env : DeviceEnv} {privateKey publicKey : Bytes}
    (generated : env.keyGeneration = .generated privateKey publicKey) (device : Device) :
    sendHello env device = sendHandshake env
      { device with
        secCtx := { device.secCtx with
          ephemeralPrivate := privateKey
          ephemeralPublic := publicKey } }
      .hello (helloPayload device.deviceId publicKey) .helloSent := by
  simp only [sendHello, generated, ykpSecurityGenEphemeral, Bool.not_true, Bool.false_eq_true,
    if_false]

/-- Sending a handshake packet stops no device and keeps the stored nonce. -/
theorem sendHandshake_kept (env : DeviceEnv) (device : Device) (action : SecAction)
    (payload : Bytes) (state : Firmware.SessionState) :
    (sendHandshake env device action payload state).running = device.running ∧
      (sendHandshake env device action payload state).session.serverNonce =
        device.session.serverNonce := by
  unfold sendHandshake serialiseAndSend
  -- Without memory nothing is sent; otherwise a failed serialisation keeps the same fields.
  split
  · exact ⟨rfl, rfl⟩
  · dsimp only
    split <;> exact ⟨rfl, rfl⟩

/-- The server sends its handshake packets whole. -/
theorem buildPacket_carries {packetId sessionId : Nat} {destId : JsString} {action : SecAction}
    {payload raw : Bytes}
    (built : buildPacket (handshakePacket packetId sessionId destId action payload) = some raw) :
    Carries raw action payload := by
  obtain ⟨-, layout⟩ := buildPacket_layout built
  let opts := handshakePacket packetId sessionId destId action payload
  -- A handshake packet is no acknowledgement.
  have flags : opts.header.flags &&& flagAck = 0 := by
    change (Qos.qos1.byte &&& flagQosMask) &&& flagAck = 0
    decide
  have asked : opts.header.actionId = action.byte := by cases action <;> rfl
  exact ⟨opts.header, opts.tag, header_filled opts, flags, rfl, asked, tag_length opts, layout⟩

/-- The server parses what carries a handshake packet. -/
theorem Carries.parsed_server {raw : Bytes} {action : SecAction} {payload : Bytes}
    (carries : Carries raw action payload) (short : payload.length < 65536) :
    ∃ pkt, parsePacket raw = some pkt ∧ Asks pkt action ∧ pkt.payload = payload ∧
      pkt.header.packetId ≤ 0xFFFFFFFF := by
  obtain ⟨header, tag, filled, -, service, asked, tagged, rfl⟩ := carries
  refine ⟨_, parsePacket_layout filled short tagged, ⟨service, asked⟩, rfl, ?_⟩
  exact Nat.le_of_lt_succ (Nat.mod_lt _ (by decide))

/-- A running device takes what carries a handshake packet, with a payload its buffer holds, to the
security service. -/
theorem Carries.received {raw : Bytes} {action : SecAction} {payload : Bytes}
    (carries : Carries raw action payload) (short : payload.length ≤ ykpStaticPayloadBuf)
    (some_ : payload.length ≠ 0) (crypto : DeviceCrypto) (env : DeviceEnv) {device : Device}
    (running : device.running = true) :
    ∃ pkt, deviceStep crypto device (.packet raw, env) = handleSecurity crypto env pkt device ∧
      SecAction.ofByte pkt.header.actionId = some action ∧ pkt.payload = some payload ∧
        pkt.payloadLen = payload.length := by
  obtain ⟨header, tag, filled, plain, service, asked, tagged, rfl⟩ := carries
  have parsed := ykpPacketParse_layout filled short tagged
  rw [if_neg some_] at parsed
  generalize raw : headerBytes header payload.length ++ (payload ++ tag) = bytes at parsed
  -- The bytes fit the sixteen bits in which their length is passed on.
  have size : bytes.length = 33 + (payload.length + 16) := by
    simp only [← raw, List.length_append, headerBytes_length filled, tagged, ykpHeaderSize,
      ykpAuthTagSize]
  have small : bytes.length < 2 ^ 16 := by
    simp only [ykpStaticPayloadBuf] at short
    omega
  have present : bytes ≠ [] := by
    rintro rfl
    simp at size
  -- Only these fields of the packet matter from here on.
  obtain ⟨pkt, parsed, plain, service, asked, body, length⟩ : ∃ pkt, ykpPacketParse bytes = some pkt ∧
      pkt.header.flags &&& flagAck = 0 ∧ pkt.header.serviceId = Service.security.byte ∧
      pkt.header.actionId = action.byte ∧ pkt.payload = some payload ∧
      pkt.payloadLen = payload.length := ⟨_, parsed, plain, service, asked, rfl, rfl⟩
  refine ⟨pkt, ?_, SecAction.ofByte_eq_some.mpr asked, body, length⟩
  simp only [deviceStep, running, Bool.not_true, Bool.false_eq_true, if_false, present,
    Nat.mod_eq_of_lt small, List.take_length, handleIncomingPacket, parsed, plain, ne_eq,
    not_true_eq_false, service, if_true]

end Ykp.System
