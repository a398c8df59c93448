import Ykp.Codec.PacketLayout
import Ykp.Codec.Utf8

/-! Packets cross the wire in both directions with every field, their payload and their tag. -/

namespace Ykp

open BigEndian

/-- What a device sets a header up with, between devices with plain identifiers. -/
structure PacketSetup where
  packetId : UInt32
  sessionId : UInt32
  source : JsString
  dest : JsString
  route : RouteType
  service : Service
  actionId : UInt8
  qos : Qos
  encrypted : Bool
  plainSource : PlainId source
  plainDest : PlainId dest

/-- A packet with its header set up. -/
def PacketSetup.applyTo (setup : PacketSetup) (pkt : YkpPacket) : YkpPacket :=
  ykpPacketSetHeader pkt setup.packetId.toNat setup.sessionId.toNat (asciiBytes setup.source)
    (asciiBytes setup.dest) setup.route setup.service setup.actionId setup.qos setup.encrypted

/-- Header and payload can be set in either order. -/
theorem setPayload_applyTo (setup : PacketSetup) (pkt : YkpPacket) (mallocOk : Bool)
    (payload : Bytes) :
    ykpPacketSetPayload (setup.applyTo pkt) mallocOk payload =
      setup.applyTo (ykpPacketSetPayload pkt mallocOk payload) := by
  unfold ykpPacketSetPayload
  split_ifs <;> rfl

/-- A packet that holds a payload and a tag is consistent once its header is set up. -/
theorem applyTo_consistent (setup : PacketSetup) {pkt : YkpPacket} {payload : Bytes}
    (holds : pkt.payload = some payload) (length : pkt.payloadLen = payload.length)
    (tagged : pkt.authTag.length = ykpAuthTagSize) : (setup.applyTo pkt).Consistent where
  filled := ⟨deviceIdField_length _, deviceIdField_length _⟩
  tagged := tagged
  length := by
    change pkt.payloadLen = (pkt.payload.getD []).length
    rw [holds, length]
    rfl

/-- The server reads a packet of the device as it was set up. -/
theorem parsePacket_serialise (setup : PacketSetup) {pkt : YkpPacket} {payload : Bytes}
    (holds : pkt.payload = some payload) (length : pkt.payloadLen = payload.length)
    (tagged : pkt.authTag.length = ykpAuthTagSize) {outSize : Nat}
    (room : ykpHeaderSize + payload.length + ykpAuthTagSize ≤ outSize) (small : outSize < 65536)
    (buffer : Memory) :
    parsePacket ((ykpPacketSerialise (setup.applyTo pkt) outSize).raw buffer) = some
      { header :=
          { flags := (setup.applyTo pkt).header.flags
            packetId := setup.packetId.toNat
            sessionId := setup.sessionId.toNat
            sourceId := setup.source
            destId := setup.dest
            routeType := setup.route.byte
            serviceId := setup.service.byte
            actionId := setup.actionId
            payloadLen := payload.length }
        payload := payload
        authTag := pkt.authTag
        raw := (ykpPacketSerialise (setup.applyTo pkt) outSize).raw buffer } := by
  have consistent := applyTo_consistent setup holds length tagged
  have sameLength : (setup.applyTo pkt).payloadLen = payload.length := length
  have samePayload : (setup.applyTo pkt).payload.getD [] = payload := by
    change pkt.payload.getD [] = payload
    rw [holds]
    rfl
  -- Everything fits, so the whole layout is written.
  simp only [ykpHeaderSize, ykpAuthTagSize] at room
  have whole := (serialise_raw consistent (by rw [sameLength]; simpa using room) small buffer).2
  rw [whole, consistent.parsed (by rw [sameLength]; omega)]
  -- The identifiers come out of their fields as they went in.
  have source : readId (setup.applyTo pkt).header.sourceId = setup.source :=
    (congrArg readId (deviceIdField_plain setup.plainSource)).trans (readId_plain setup.plainSource)
  have dest : readId (setup.applyTo pkt).header.destId = setup.dest :=
    (congrArg readId (deviceIdField_plain setup.plainDest)).trans (readId_plain setup.plainDest)
  have packetId : (setup.applyTo pkt).header.packetId % 4294967296 = setup.packetId.toNat :=
    Nat.mod_eq_of_lt setup.packetId.toNat_lt
  have sessionId : (setup.applyTo pkt).header.sessionId % 4294967296 = setup.sessionId.toNat :=
    Nat.mod_eq_of_lt setup.sessionId.toNat_lt
  rw [source, dest, packetId, sessionId, samePayload, sameLength]
  rfl

/-- Options of a packet the device is meant to take: numbers that fit their fields, plain
identifiers, a whole tag, and a payload that its receive buffer holds. -/
structure BuildPacketOptions.Regular (opts : BuildPacketOptions) (tag : Bytes) : Prop where
  packetId : opts.packetId < 4294967296
  sessionId : opts.sessionId < 4294967296
  source : PlainId opts.sourceId
  dest : PlainId opts.destId
  serviceId : opts.serviceId < 256
  actionId : opts.actionId < 256
  tag : opts.authTag = some tag ∧ tag.length = ykpAuthTagSize
  payload : (opts.payload.getD []).length ≤ ykpStaticPayloadBuf

/-- A packet of the device that agrees with the options it was built from; an empty payload is a
null pointer. -/
structure YkpPacket.Agrees (pkt : YkpPacket) (opts : BuildPacketOptions) (tag : Bytes) : Prop where
  flags : pkt.header.flags = opts.header.flags
  packetId : pkt.header.packetId = opts.packetId
  sessionId : pkt.header.sessionId = opts.sessionId
  source : pkt.header.sourceId = plainField opts.sourceId
  dest : pkt.header.destId = plainField opts.destId
  route : pkt.header.routeType = opts.routeType.byte
  serviceId : pkt.header.serviceId.toNat = opts.serviceId
  actionId : pkt.header.actionId.toNat = opts.actionId
  payload : pkt.payload.getD [] = opts.payload.getD []
  payloadLen : pkt.payloadLen = (opts.payload.getD []).length
  announcedLen : pkt.header.payloadLen = (opts.payload.getD []).length
  tag : pkt.authTag = tag

/-- The device reads a packet of the server as it was built. -/
theorem ykpPacketParse_buildPacket {opts : BuildPacketOptions} {tag : Bytes}
    (regular : opts.Regular tag) :
    ∃ raw, buildPacket opts = some raw ∧
      ∃ pkt, ykpPacketParse raw = some pkt ∧ pkt.Agrees opts tag := by
  obtain ⟨given, whole⟩ := regular.tag
  have short : (opts.payload.getD []).length ≤ 512 := regular.payload
  -- Every number fits its field, so nothing throws.
  obtain ⟨raw, built⟩ : ∃ raw, buildPacket opts = some raw := by
    have packetId := regular.packetId
    have sessionId := regular.sessionId
    unfold buildPacket
    exact ⟨_, if_neg (by omega)⟩
  obtain ⟨-, layout⟩ := buildPacket_layout built
  have parsed := ykpPacketParse_layout (header_filled opts) regular.payload (tag_length opts)
  rw [← layout] at parsed
  -- A whole tag is neither cut nor padded.
  have sameTag : opts.tag = tag := by
    simp [BuildPacketOptions.tag, given, List.take_of_length_le (Nat.le_of_eq whole), whole]
  refine ⟨raw, built, _, parsed, ?_⟩
  constructor
  · rfl
  · exact Nat.mod_eq_of_lt regular.packetId
  · exact Nat.mod_eq_of_lt regular.sessionId
  · exact idField_plain regular.source
  · exact idField_plain regular.dest
  · rfl
  · simp [BuildPacketOptions.header, Nat.mod_eq_of_lt regular.serviceId]
  · simp [BuildPacketOptions.header, Nat.mod_eq_of_lt regular.actionId]
  · -- Without payload there is none to read either.
    by_cases empty : (opts.payload.getD []).length = 0
    · simp [List.eq_nil_of_length_eq_zero empty]
    · simp [empty]
  · rfl
  · rfl
  · exact sameTag

/-- Packets cross in both directions: what the device sets up, the server parses with the same
fields, payload and tag, and what the server builds, the device does. -/
theorem packet_roundTrip :
    (∀ (setup : PacketSetup) (pkt : YkpPacket) (payload : Bytes) (outSize : Nat)
        (buffer : Memory), pkt.payload = some payload → pkt.payloadLen = payload.length →
      pkt.authTag.length = ykpAuthTagSize → payload.length ≤ 65486 →
      ykpHeaderSize + payload.length + ykpAuthTagSize ≤ outSize → outSize < 65536 →
      parsePacket ((ykpPacketSerialise (setup.applyTo pkt) outSize).raw buffer) = some
        { header :=
            { flags := (setup.applyTo pkt).header.flags
              packetId := setup.packetId.toNat
              sessionId := setup.sessionId.toNat
              sourceId := setup.source
              destId := setup.dest
              routeType := setup.route.byte
              serviceId := setup.service.byte
              actionId := setup.actionId
              payloadLen := payload.length }
          payload := payload
          authTag := pkt.authTag
          raw := (ykpPacketSerialise (setup.applyTo pkt) outSize).raw buffer }) ∧
    (∀ (opts : BuildPacketOptions) (tag : Bytes), opts.Regular tag →
      ∃ raw, buildPacket opts = some raw ∧
        ∃ pkt, ykpPacketParse raw = some pkt ∧ pkt.Agrees opts tag) :=
  ⟨fun setup _ _ _ buffer holds length tagged _ room small =>
      parsePacket_serialise setup holds length tagged room small buffer,
    fun _ _ regular => ykpPacketParse_buildPacket regular⟩

/-- A report from the device "D1" to the server. -/
def sampleSetup : PacketSetup where
  packetId := 7
  sessionId := 5
  source := [0x44, 0x31]
  dest := serverId
  route := .cloud
  service := .sensor
  actionId := SensorAction.report.byte
  qos := .qos1
  encrypted := false
  plainSource := ⟨by decide, by decide⟩
  plainDest := ⟨by decide, by decide⟩

/-- A command from the server to the device "D1". -/
def sampleOptions : BuildPacketOptions where
  packetId := 7
  sessionId := 5
  sourceId := serverId
  destId := [0x44, 0x31]
  routeType := .direct
  serviceId := 1
  actionId := 3
  qos := .qos2
  payload := some [0xBF, 0xFF]
  authTag := some (List.replicate 16 9)

theorem packet_roundTrip_sample :
    (parsePacket ((ykpPacketSerialise (ykpPacketSetPayload (sampleSetup.applyTo ykpPacketAlloc)
      true [0xBF, 0xFF]) 64).raw fun _ => 0)).map (·.header.sourceId) = some [0x44, 0x31] ∧
      ∃ raw, buildPacket sampleOptions = some raw ∧
        ∃ pkt, ykpPacketParse raw = some pkt ∧ pkt.Agrees sampleOptions (List.replicate 16 9) := by
  obtain ⟨toServer, toDevice⟩ := packet_roundTrip
  refine ⟨?_, toDevice sampleOptions _ ⟨by decide, by decide, ⟨by decide, by decide⟩,
    ⟨by decide, by decide⟩, by decide, by decide, ⟨rfl, rfl⟩, by decide⟩⟩
  have read := toServer sampleSetup (ykpPacketSetPayload ykpPacketAlloc true [0xBF, 0xFF])
    [0xBF, 0xFF] 64 (fun _ => 0) rfl rfl rfl (by decide) (by decide) (by decide)
  rw [setPayload_applyTo]
  exact congrArg (Option.map (·.header.sourceId)) read

end Ykp
