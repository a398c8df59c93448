import Ykp.Codec.PacketLayout

/-! Packets at the limits of their buffers: what both parsers accept, and what serialising writes. -/

namespace Ykp

open BigEndian

/-- The two parsers report the same fields, the same payload and the same tag; the server's
identifiers are what it makes of the device's eight bytes. -/
structure SameReport (device : YkpPacket) (server : ServerPacket) : Prop where
  flags : device.header.flags = server.header.flags
  packetId : device.header.packetId = server.header.packetId
  sessionId : device.header.sessionId = server.header.sessionId
  source : readId device.header.sourceId = server.header.sourceId
  dest : readId device.header.destId = server.header.destId
  route : device.header.routeType = server.header.routeType
  service : device.header.serviceId = server.header.serviceId
  action : device.header.actionId = server.header.actionId
  announced : device.header.payloadLen = server.header.payloadLen
  payload : device.payload.getD [] = server.payload
  payloadLen : device.payloadLen = server.payload.length
  tag : device.authTag = server.authTag

/-- The header checks both parsers begin with. -/
theorem validateHeader_iff (raw : Bytes) :
    ykpPacketValidateHeader raw = true ↔
      ykpMinPacket ≤ raw.length ∧ (byteAt raw 0 = ykpMagic0 ∧ byteAt raw 1 = ykpMagic1) ∧
        byteAt raw 2 = ykpVersion := by
  simp [ykpPacketValidateHeader, and_assoc]

/-- The server accepts what passes the header checks and is as long as it announces. -/
theorem parsePacket_isSome_iff (raw : Bytes) :
    (parsePacket raw).isSome ↔ ykpPacketValidateHeader raw = true ∧
      ykpHeaderSize + readU16 (byteAt raw) 31 + ykpAuthTagSize ≤ raw.length := by
  rw [validateHeader_iff]
  unfold parsePacket
  dsimp only
  -- One case for each check that can fail.
  split_ifs with short magic version room
  · exact iff_of_false (by simp) fun accepted => Nat.not_lt.mpr accepted.1.1 short
  · refine iff_of_false (by simp) fun accepted => ?_
    rcases magic with first | second
    · exact first accepted.1.2.1.1
    · exact second accepted.1.2.1.2
  · exact iff_of_false (by simp) fun accepted => version accepted.1.2.2
  · exact iff_of_false (by simp) fun accepted => Nat.not_lt.mpr accepted.2 room
  · obtain ⟨first, second⟩ := not_or.mp magic
    exact iff_of_true rfl ⟨⟨Nat.not_lt.mp short, ⟨not_not.mp first, not_not.mp second⟩,
      not_not.mp version⟩, Nat.not_lt.mp room⟩

/-- The device accepts the same, if its buffer holds the payload: a length whose total wraps is one
that the buffer does not hold. -/
theorem ykpPacketParse_isSome_iff (raw : Bytes) :
    (ykpPacketParse raw).isSome ↔ (ykpPacketValidateHeader raw = true ∧
      ykpHeaderSize + readU16 (byteAt raw) 31 + ykpAuthTagSize ≤ raw.length) ∧
        readU16 (byteAt raw) 31 ≤ ykpStaticPayloadBuf := by
  unfold ykpPacketParse
  dsimp only [ykpHeaderSize, ykpAuthTagSize, ykpStaticPayloadBuf]
  -- The header, the 16-bit total, and the buffer are checked in this order.
  split
  · rename_i invalid
    refine iff_of_false (by simp) fun accepted => ?_
    rw [accepted.1.1] at invalid
    exact absurd invalid (by decide)
  · rename_i valid
    have valid : ykpPacketValidateHeader raw = true := by simpa using valid
    split
    · exact iff_of_false (by simp) fun accepted => by omega
    · split
      · exact iff_of_false (by simp) fun accepted => by omega
      · exact iff_of_true rfl ⟨⟨valid, by omega⟩, by omega⟩

/-- What both parsers accept they report alike. -/
theorem sameReport {raw : Bytes} {device : YkpPacket} {server : ServerPacket}
    (parsed : ykpPacketParse raw = some device) (accepted : parsePacket raw = some server) :
    SameReport device server := by
  unfold ykpPacketParse at parsed
  unfold parsePacket at accepted
  dsimp only at parsed accepted
  -- Every refusing branch contradicts that the packet was accepted.
  split_ifs at parsed accepted with _ _ _ empty
  · obtain rfl := Option.some.inj parsed
    obtain rfl := Option.some.inj accepted
    -- An empty payload is a null pointer on the device.
    refine ⟨rfl, rfl, rfl, rfl, rfl, rfl, rfl, rfl, rfl, ?_, by simp, rfl⟩
    simp [empty, readBytes]
  · obtain rfl := Option.some.inj parsed
    obtain rfl := Option.some.inj accepted
    exact ⟨rfl, rfl, rfl, rfl, rfl, rfl, rfl, rfl, rfl, rfl, by simp, rfl⟩

/-- The device accepts exactly the packets that the server accepts and whose payload takes at most
512 bytes, and both report the same. -/
theorem parsers_agree (raw : Bytes) :
    ((ykpPacketParse raw).isSome ↔
      ∃ server, parsePacket raw = some server ∧
        server.header.payloadLen ≤ ykpStaticPayloadBuf) ∧
    ∀ device, ykpPacketParse raw = some device →
      ∃ server, parsePacket raw = some server ∧ SameReport device server := by
  -- The length the server reports is the one that is announced.
  have announced (server : ServerPacket) (accepted : parsePacket raw = some server) :
      server.header.payloadLen = readU16 (byteAt raw) 31 := by
    unfold parsePacket at accepted
    dsimp only at accepted
    split_ifs at accepted
    obtain rfl := Option.some.inj accepted
    rfl
  constructor
  · rw [ykpPacketParse_isSome_iff, ← parsePacket_isSome_iff, Option.isSome_iff_exists]
    constructor
    · rintro ⟨⟨server, accepted⟩, small⟩
      exact ⟨server, accepted, by rwa [announced server accepted]⟩
    · rintro ⟨server, accepted, small⟩
      exact ⟨⟨server, accepted⟩, by rwa [announced server accepted] at small⟩
  · intro device parsed
    have both := (ykpPacketParse_isSome_iff raw).mp (by rw [parsed]; rfl)
    obtain ⟨server, accepted⟩ := Option.isSome_iff_exists.mp ((parsePacket_isSome_iff raw).mpr both.1)
    exact ⟨server, accepted, sameReport parsed accepted⟩

/-- Serialising keeps to its buffer: it writes no more than fits, and reports what the packet takes,
unless it reports zero and writes nothing. -/
structure Serialised.KeepsTo (out : Serialised) (outSize payloadLen : Nat) : Prop where
  inside : out.written.length ≤ outSize
  reported : (out.total = 0 ∧ out.written = []) ∨
    out.total = ykpHeaderSize + payloadLen + ykpAuthTagSize

/-- A packet that is not refused is written whole, whatever its buffer holds. -/
theorem serialise_length {pkt : YkpPacket} (consistent : pkt.Consistent) {outSize : Nat}
    (taken : (ykpHeaderSize + pkt.payloadLen + ykpAuthTagSize) % 65536 ≤ outSize) :
    (ykpPacketSerialise pkt outSize).written.length =
        ykpHeaderSize + pkt.payloadLen + ykpAuthTagSize ∧
      (ykpPacketSerialise pkt outSize).total =
        (ykpHeaderSize + pkt.payloadLen + ykpAuthTagSize) % 65536 := by
  have length := consistent.length
  -- An empty payload is not copied, which makes no difference.
  have payload : (if pkt.payloadLen = 0 then []
      else (pkt.payload.getD []).take pkt.payloadLen).length = pkt.payloadLen := by
    split
    · rename_i empty
      exact empty.symm
    · rw [List.length_take, length, Nat.min_self]
  unfold ykpPacketSerialise
  dsimp only
  rw [if_neg (Nat.not_lt.mpr taken)]
  refine ⟨?_, rfl⟩
  rw [List.length_append, List.length_append, headerBytes_length consistent.filled, payload,
    consistent.tagged, Nat.add_assoc]

/-- The total is compared with the buffer in 16 bits: serialising keeps to its buffer exactly when
the total does not wrap, or the buffer is too small even for what is left of it. -/
theorem serialise_keeps_iff {pkt : YkpPacket} (consistent : pkt.Consistent)
    (short : pkt.payloadLen < 65536) {outSize : Nat} (small : outSize < 65536) :
    (ykpPacketSerialise pkt outSize).KeepsTo outSize pkt.payloadLen ↔
      pkt.payloadLen ≤ 65486 ∨ outSize + 65487 < pkt.payloadLen := by
  -- Serialising refuses the packet, or it writes it whole.
  by_cases taken : (ykpHeaderSize + pkt.payloadLen + ykpAuthTagSize) % 65536 ≤ outSize
  · obtain ⟨written, total⟩ := serialise_length consistent taken
    dsimp only [ykpHeaderSize, ykpAuthTagSize] at taken written total
    constructor
    · -- A wrapped total writes more bytes than a 16-bit size can name.
      intro keeps
      have inside := keeps.inside
      omega
    · intro fits
      refine ⟨by omega, .inr ?_⟩
      dsimp only [ykpHeaderSize, ykpAuthTagSize]
      omega
  · have refused : ykpPacketSerialise pkt outSize = ⟨[], 0⟩ := if_pos (Nat.not_le.mp taken)
    dsimp only [ykpHeaderSize, ykpAuthTagSize] at taken
    rw [refused]
    refine iff_of_true ⟨Nat.zero_le _, .inl ⟨rfl, rfl⟩⟩ ?_
    omega

theorem serialise_keeps_iff_sample :
    (ykpPacketSerialise ykpPacketAlloc 64).KeepsTo 64 ykpPacketAlloc.payloadLen ↔
      ykpPacketAlloc.payloadLen ≤ 65486 ∨ 64 + 65487 < ykpPacketAlloc.payloadLen :=
  serialise_keeps_iff ⟨⟨rfl, rfl⟩, rfl, rfl⟩ (by decide) (by decide)

/-- A packet whose total is one byte more than 16 bits count. -/
def wrappingPacket : YkpPacket :=
  ykpPacketSetPayload ykpPacketAlloc true (List.replicate 65487 0)

/-- It is written whole into a buffer without any room. -/
theorem serialise_overruns :
    ¬ (ykpPacketSerialise wrappingPacket 0).KeepsTo 0 wrappingPacket.payloadLen := by
  intro keeps
  have length : wrappingPacket.payloadLen = 65487 := by
    unfold wrappingPacket ykpPacketSetPayload
    rw [List.length_replicate, if_neg (by decide), if_pos rfl]
  have consistent : wrappingPacket.Consistent :=
    setPayload_consistent ⟨⟨rfl, rfl⟩, rfl, rfl⟩ rfl true _
  -- 33 bytes of header, 65487 of payload and 16 of tag are 2^16, so the total is zero.
  have wrapped : (ykpHeaderSize + wrappingPacket.payloadLen + ykpAuthTagSize) % 65536 ≤ 0 := by
    rw [length]
    decide
  have written := (serialise_length consistent wrapped).1
  have inside := keeps.inside
  rw [written, length] at inside
  exact absurd inside (by decide)

end Ykp
