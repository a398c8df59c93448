import Ykp.Codec.DevicePacket
import Ykp.Codec.ServerPacket

/-! Packets cross the wire: what each end serialises is what the other end parses. -/

namespace Ykp

open BigEndian

/-- A header whose identifier fields fill their eight bytes. -/
structure YkpHeader.Filled (header : YkpHeader) : Prop where
  source : header.sourceId.length = ykpDeviceIdLen
  dest : header.destId.length = ykpDeviceIdLen

/-- A filled header is written as 33 bytes. -/
theorem headerBytes_length {header : YkpHeader} (filled : header.Filled) (payloadLen : Nat) :
    (headerBytes header payloadLen).length = ykpHeaderSize := by
  simp [headerBytes, filled.source, filled.dest]

/-- Everything a parser reads from the bytes of a filled header and what follows them. -/
structure ReadsHeader (raw : Bytes) (header : YkpHeader) (payloadLen : Nat) : Prop where
  magic0 : byteAt raw 0 = ykpMagic0
  magic1 : byteAt raw 1 = ykpMagic1
  version : byteAt raw 2 = ykpVersion
  flags : byteAt raw 3 = header.flags
  packetId : readU32 (byteAt raw) 4 = header.packetId % 4294967296
  sessionId : readU32 (byteAt raw) 8 = header.sessionId % 4294967296
  sourceId : readBytes (byteAt raw) 12 8 = header.sourceId
  destId : readBytes (byteAt raw) 20 8 = header.destId
  routeType : byteAt raw 28 = header.routeType
  serviceId : byteAt raw 29 = header.serviceId
  actionId : byteAt raw 30 = header.actionId
  payloadLen : readU16 (byteAt raw) 31 = payloadLen % 65536

/-- The bytes of a filled header are read back field by field. -/
theorem readsHeader {header : YkpHeader} (filled : header.Filled) (payloadLen : Nat)
    (rest : Bytes) : ReadsHeader (headerBytes header payloadLen ++ rest) header payloadLen := by
  have source := filled.source
  have dest := filled.dest
  -- The bytes in front of the identifiers, in front of the route, and in front of the length.
  let opening := [ykpMagic0, ykpMagic1, ykpVersion, header.flags]
  let numbers := opening ++ (writeU32 header.packetId ++ writeU32 header.sessionId)
  let identifiers := numbers ++ (header.sourceId ++ header.destId)
  let three := [header.routeType, header.serviceId, header.actionId]
  have layout : headerBytes header payloadLen ++ rest =
      identifiers ++ (three ++ (writeU16 payloadLen ++ rest)) := by
    simp [headerBytes, identifiers, numbers, opening, three]
  have width : identifiers.length = 28 := by
    simp [identifiers, numbers, opening, source, dest]
  have first := readU32_written opening (writeU32 header.sessionId ++ (header.sourceId ++
    (header.destId ++ (three ++ (writeU16 payloadLen ++ rest))))) header.packetId fun _ => 0
  have second := readU32_written (opening ++ writeU32 header.packetId) (header.sourceId ++
    (header.destId ++ (three ++ (writeU16 payloadLen ++ rest)))) header.sessionId fun _ => 0
  have third := readBytes_middle numbers header.sourceId
    (header.destId ++ (three ++ (writeU16 payloadLen ++ rest))) fun _ => 0
  have fourth := readBytes_middle (numbers ++ header.sourceId) header.destId
    (three ++ (writeU16 payloadLen ++ rest)) fun _ => 0
  have last := readU16_written (identifiers ++ three) rest payloadLen fun _ => 0
  have behind (index : Nat) := memoryOf_append identifiers (three ++ (writeU16 payloadLen ++ rest))
    (fun _ => 0) index
  rw [width] at behind
  have numbersWidth : numbers.length = 12 := by simp [numbers, opening]
  have threeWidth : (identifiers ++ three).length = 31 := by simp [three, width]
  refine ⟨rfl, rfl, rfl, rfl, ?_, ?_, ?_, ?_, ?_, ?_, ?_, ?_⟩
  · simpa [byteAt, headerBytes, opening, three] using first
  · simpa [byteAt, headerBytes, opening, three] using second
  · rw [numbersWidth, source] at third
    simpa [byteAt, headerBytes, numbers, opening, three] using third
  · rw [List.length_append, numbersWidth, source, dest] at fourth
    change readBytes _ 20 8 = _ at fourth
    simpa [byteAt, headerBytes, numbers, opening, three] using fourth
  · rw [layout]
    exact behind 0
  · rw [layout]
    exact behind 1
  · rw [layout]
    exact behind 2
  · rw [layout, ← List.append_assoc]
    rw [threeWidth] at last
    exact last

/-- Behind a filled header stand the payload and the tag. -/
theorem readsBody {header : YkpHeader} (filled : header.Filled) (payload tag : Bytes) :
    let raw := headerBytes header payload.length ++ (payload ++ tag)
    readBytes (byteAt raw) ykpHeaderSize payload.length = payload ∧
      readBytes (byteAt raw) (ykpHeaderSize + payload.length) tag.length = tag := by
  have width := headerBytes_length filled payload.length
  -- The payload begins where the header ends, and the tag where the payload ends.
  have first := readBytes_middle (headerBytes header payload.length) payload tag fun _ => 0
  have second := readBytes_middle (headerBytes header payload.length ++ payload) tag []
    fun _ => 0
  rw [width] at first
  rw [List.length_append, width] at second
  refine ⟨first, ?_⟩
  simpa [byteAt] using second

/-- The bytes of a filled header, a payload and a tag of full size. -/
theorem layout_length {header : YkpHeader} (filled : header.Filled) {payload tag : Bytes}
    (tagged : tag.length = ykpAuthTagSize) :
    (headerBytes header payload.length ++ (payload ++ tag)).length =
      ykpHeaderSize + payload.length + ykpAuthTagSize := by
  simp only [List.length_append, headerBytes_length filled, tagged, Nat.add_assoc]

/-- The server parses the bytes of a filled header, a payload and a tag back into them. -/
theorem parsePacket_layout {header : YkpHeader} (filled : header.Filled) {payload tag : Bytes}
    (short : payload.length < 65536) (tagged : tag.length = ykpAuthTagSize) :
    parsePacket (headerBytes header payload.length ++ (payload ++ tag)) = some
      { header :=
          { flags := header.flags
            packetId := header.packetId % 4294967296
            sessionId := header.sessionId % 4294967296
            sourceId := readId header.sourceId
            destId := readId header.destId
            routeType := header.routeType
            serviceId := header.serviceId
            actionId := header.actionId
            payloadLen := payload.length }
        payload := payload
        authTag := tag
        raw := headerBytes header payload.length ++ (payload ++ tag) } := by
  have reads := readsHeader filled payload.length (payload ++ tag)
  obtain ⟨body, trailer⟩ := readsBody filled payload tag
  have length := @layout_length header filled payload tag tagged
  -- The length fits its two bytes, so the one that is read is the real one.
  have announced := reads.payloadLen
  rw [Nat.mod_eq_of_lt short] at announced
  rw [tagged] at trailer
  unfold parsePacket
  -- None of the three checks fails: the size, the magic bytes, the version.
  rw [if_neg (by simp [length]), if_neg (by simp [reads.magic0, reads.magic1]),
    if_neg (by simp [reads.version])]
  simp only [announced, length, Nat.lt_irrefl, if_false, reads.flags, reads.packetId,
    reads.sessionId, reads.sourceId, reads.destId, reads.routeType, reads.serviceId,
    reads.actionId, body, trailer]

/-- The device parses the bytes of a filled header, a payload its buffer holds, and a tag back
into them; an empty payload becomes a null pointer. -/
theorem ykpPacketParse_layout {header : YkpHeader} (filled : header.Filled)
    {payload tag : Bytes} (short : payload.length ≤ ykpStaticPayloadBuf)
    (tagged : tag.length = ykpAuthTagSize) :
    ykpPacketParse (headerBytes header payload.length ++ (payload ++ tag)) = some
      { header := { header with
          magic0 := ykpMagic0
          magic1 := ykpMagic1
          version := ykpVersion
          packetId := header.packetId % 4294967296
          sessionId := header.sessionId % 4294967296
          payloadLen := payload.length }
        payload := if payload.length = 0 then none else some payload
        authTag := tag
        payloadLen := payload.length } := by
  have reads := readsHeader filled payload.length (payload ++ tag)
  obtain ⟨body, trailer⟩ := readsBody filled payload tag
  have length := @layout_length header filled payload tag tagged
  -- The static buffer is smaller than what two bytes can announce.
  have announced := reads.payloadLen
  have bound : payload.length ≤ 512 := short
  rw [Nat.mod_eq_of_lt (by omega)] at announced
  simp only [ykpHeaderSize, ykpAuthTagSize] at length
  rw [tagged] at trailer
  have valid : ykpPacketValidateHeader (headerBytes header payload.length ++ (payload ++ tag)) =
      true := by
    simp only [ykpPacketValidateHeader, reads.magic0, reads.magic1, reads.version, length]
    simp
  unfold ykpPacketParse
  rw [if_neg (by simp [valid])]
  simp only [announced]
  -- The packet is long enough for what it announces, and the buffer is too.
  rw [if_neg (by rw [length]; simp; omega), if_neg (by simp; omega)]
  simp only [reads.magic0, reads.magic1, reads.version, reads.flags, reads.packetId,
    reads.sessionId, reads.sourceId, reads.destId, reads.routeType, reads.serviceId,
    reads.actionId, body, trailer]

/-- A packet whose lengths agree with what it holds. -/
structure YkpPacket.Consistent (pkt : YkpPacket) : Prop where
  filled : pkt.header.Filled
  tagged : pkt.authTag.length = ykpAuthTagSize
  length : pkt.payloadLen = (pkt.payload.getD []).length

/-- A fresh packet with its header set is consistent. -/
theorem setHeader_consistent (packetId sessionId : Nat) (sourceId destId : Bytes)
    (routeType : RouteType) (service : Service) (actionId : UInt8) (qos : Qos)
    (encrypted : Bool) :
    (ykpPacketSetHeader ykpPacketAlloc packetId sessionId sourceId destId routeType service
      actionId qos encrypted).Consistent where
  filled := ⟨deviceIdField_length _, deviceIdField_length _⟩
  tagged := rfl
  length := rfl

/-- Setting the payload of a packet that had none keeps it consistent, allocated or not. -/
theorem setPayload_consistent {pkt : YkpPacket} (consistent : pkt.Consistent)
    (empty : pkt.payloadLen = 0) (mallocOk : Bool) (payload : Bytes) :
    (ykpPacketSetPayload pkt mallocOk payload).Consistent := by
  unfold ykpPacketSetPayload
  -- The payload is empty, was allocated, or was not.
  split
  · exact ⟨⟨consistent.filled.source, consistent.filled.dest⟩, consistent.tagged, rfl⟩
  · split
    · exact ⟨⟨consistent.filled.source, consistent.filled.dest⟩, consistent.tagged, rfl⟩
    · exact ⟨consistent.filled, consistent.tagged, by simp [empty]⟩

/-- A payload takes at most its own length, and none when it could not be allocated. -/
theorem setPayload_length {pkt : YkpPacket} (empty : pkt.payloadLen = 0) (mallocOk : Bool)
    (payload : Bytes) :
    (ykpPacketSetPayload pkt mallocOk payload).payloadLen ≤ payload.length := by
  unfold ykpPacketSetPayload
  split
  · simp
  · split
    · simp
    · simp [empty]

/-- Setting the payload changes no header field but the payload length. -/
theorem setPayload_header (pkt : YkpPacket) (mallocOk : Bool) (payload : Bytes) :
    ∃ length, (ykpPacketSetPayload pkt mallocOk payload).header =
      { pkt.header with payloadLen := length } := by
  unfold ykpPacketSetPayload
  split
  · exact ⟨0, rfl⟩
  · split
    · exact ⟨payload.length, rfl⟩
    · exact ⟨pkt.header.payloadLen, rfl⟩

/-- The payload that was set, unless it could not be allocated. -/
theorem setPayload_body (pkt : YkpPacket) (mallocOk : Bool) (payload : Bytes) :
    (ykpPacketSetPayload pkt mallocOk payload).payload.getD [] =
      if mallocOk then payload else [] := by
  unfold ykpPacketSetPayload
  split
  · rename_i empty
    rw [List.eq_nil_of_length_eq_zero empty]
    exact (ite_self []).symm
  · cases mallocOk <;> rfl

/-- The bytes of a packet: its header, its payload and its tag. -/
def YkpPacket.whole (pkt : YkpPacket) : Bytes :=
  headerBytes pkt.header pkt.payloadLen ++ (pkt.payload.getD [] ++ pkt.authTag)

/-- The header of a consistent packet is read back from its bytes. -/
theorem YkpPacket.Consistent.reads {pkt : YkpPacket} (consistent : pkt.Consistent) :
    ReadsHeader pkt.whole pkt.header pkt.payloadLen :=
  readsHeader consistent.filled pkt.payloadLen _

/-- The server parses a consistent packet back into its header, payload and tag. -/
theorem YkpPacket.Consistent.parsed {pkt : YkpPacket} (consistent : pkt.Consistent)
    (short : pkt.payloadLen < 65536) :
    parsePacket pkt.whole = some
      { header :=
          { flags := pkt.header.flags
            packetId := pkt.header.packetId % 4294967296
            sessionId := pkt.header.sessionId % 4294967296
            sourceId := readId pkt.header.sourceId
            destId := readId pkt.header.destId
            routeType := pkt.header.routeType
            serviceId := pkt.header.serviceId
            actionId := pkt.header.actionId
            payloadLen := pkt.payloadLen }
        payload := pkt.payload.getD []
        authTag := pkt.authTag
        raw := pkt.whole } := by
  -- The length the header announces is the length of what the packet holds.
  have length := consistent.length
  rw [length] at short
  unfold YkpPacket.whole
  rw [length]
  exact parsePacket_layout consistent.filled short consistent.tagged

/-- A consistent packet that fits its buffer is serialised whole: header, payload and tag. -/
theorem serialise_raw {pkt : YkpPacket} (consistent : pkt.Consistent) {outSize : Nat}
    (room : ykpHeaderSize + pkt.payloadLen + ykpAuthTagSize ≤ outSize) (small : outSize < 65536)
    (buffer : Memory) :
    0 < (ykpPacketSerialise pkt outSize).total ∧
      (ykpPacketSerialise pkt outSize).raw buffer = pkt.whole := by
  have length := consistent.length
  simp only [ykpHeaderSize, ykpAuthTagSize] at room
  -- Whether it is skipped or copied, an empty payload adds nothing.
  have payload : (if pkt.payloadLen = 0 then []
      else (pkt.payload.getD []).take pkt.payloadLen) = pkt.payload.getD [] := by
    split
    · rename_i empty
      exact (List.eq_nil_of_length_eq_zero (length ▸ empty)).symm
    · rw [length, List.take_length]
  have written : ykpPacketSerialise pkt outSize =
      ⟨headerBytes pkt.header pkt.payloadLen ++ (pkt.payload.getD [] ++ pkt.authTag),
        33 + pkt.payloadLen + 16⟩ := by
    have whole : (33 + pkt.payloadLen + 16) % 65536 = 33 + pkt.payloadLen + 16 := by omega
    simp only [ykpPacketSerialise, ykpHeaderSize, ykpAuthTagSize, whole, payload]
    rw [if_neg (by omega)]
  have total : (headerBytes pkt.header pkt.payloadLen ++
      (pkt.payload.getD [] ++ pkt.authTag)).length = 33 + pkt.payloadLen + 16 := by
    rw [length]
    exact layout_length consistent.filled consistent.tagged
  -- What the buffer held before is covered by the bytes that were written.
  have whole := readBytes_middle [] (headerBytes pkt.header pkt.payloadLen ++
    (pkt.payload.getD [] ++ pkt.authTag)) [] buffer
  rw [total] at whole
  refine ⟨by rw [written]; simp, ?_⟩
  rw [written]
  simpa [Serialised.raw, YkpPacket.whole] using whole

/-- The header the server writes, in the terms of the device. -/
def BuildPacketOptions.header (opts : BuildPacketOptions) : YkpHeader where
  magic0 := ykpMagic0
  magic1 := ykpMagic1
  version := ykpVersion
  flags :=
    let qos := opts.qos.byte &&& flagQosMask
    let encrypted := if opts.encrypted then qos ||| flagEncrypted else qos
    if opts.ack then encrypted ||| flagAck else encrypted
  packetId := opts.packetId
  sessionId := opts.sessionId
  sourceId := idField opts.sourceId
  destId := idField opts.destId
  routeType := opts.routeType.byte
  serviceId := UInt8.ofNat opts.serviceId
  actionId := UInt8.ofNat opts.actionId
  payloadLen := (opts.payload.getD []).length

/-- The header the server writes is filled. -/
theorem header_filled (opts : BuildPacketOptions) : opts.header.Filled :=
  ⟨idField_length _, idField_length _⟩

/-- The tag the server writes, padded with zeros. -/
def BuildPacketOptions.tag (opts : BuildPacketOptions) : Bytes :=
  let authTag := (opts.authTag.getD []).take ykpAuthTagSize
  authTag ++ List.replicate (ykpAuthTagSize - authTag.length) 0

/-- The tag the server writes has its full size. -/
theorem tag_length (opts : BuildPacketOptions) : opts.tag.length = ykpAuthTagSize := by
  simp only [BuildPacketOptions.tag, List.length_append, List.length_replicate, List.length_take]
  omega

/-- What the server builds is a header, a payload and a tag. -/
theorem buildPacket_layout {opts : BuildPacketOptions} {raw : Bytes}
    (built : buildPacket opts = some raw) :
    (opts.payload.getD []).length < 65536 ∧
      raw = headerBytes opts.header (opts.payload.getD []).length ++
        (opts.payload.getD [] ++ opts.tag) := by
  simp only [buildPacket] at built
  -- A number that does not fit its field makes the write throw.
  split at built
  · cases built
  · rename_i fits
    refine ⟨by omega, ?_⟩
    rw [← Option.some.inj built]
    simp only [headerBytes, BuildPacketOptions.header, BuildPacketOptions.tag, List.append_assoc]

end Ykp
