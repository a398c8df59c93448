import Ykp.Codec.Field
import Ykp.Codec.Text

/-! The server's packets and payload maps: parsing, building, and reading fields. -/

namespace Ykp

open BigEndian

/-- The header fields the server reads from a packet. -/
structure ServerHeader where
  flags : UInt8
  packetId : Nat
  sessionId : Nat
  sourceId : JsString
  destId : JsString
  routeType : UInt8
  serviceId : UInt8
  actionId : UInt8
  payloadLen : Nat
  deriving DecidableEq, Repr

/-- A packet as the server sees it, together with the buffer it came in. -/
structure ServerPacket where
  header : ServerHeader
  payload : Bytes
  authTag : Bytes
  raw : Bytes
  deriving DecidableEq, Repr

/-- Parsing a received buffer. -/
def parsePacket (raw : Bytes) : Option ServerPacket :=
  if raw.length < ykpMinPacket then none
  else if byteAt raw 0 ≠ ykpMagic0 ∨ byteAt raw 1 ≠ ykpMagic1 then none
  else if byteAt raw 2 ≠ ykpVersion then none
  else
    let payloadLen := readU16 (byteAt raw) 31
    let expected := ykpHeaderSize + payloadLen + ykpAuthTagSize
    if raw.length < expected then none
    else some
      { header :=
          { flags := byteAt raw 3
            packetId := readU32 (byteAt raw) 4
            sessionId := readU32 (byteAt raw) 8
            sourceId := readId (readBytes (byteAt raw) 12 8)
            destId := readId (readBytes (byteAt raw) 20 8)
            routeType := byteAt raw 28
            serviceId := byteAt raw 29
            actionId := byteAt raw 30
            payloadLen := payloadLen }
        payload := readBytes (byteAt raw) ykpHeaderSize payloadLen
        authTag := readBytes (byteAt raw) (ykpHeaderSize + payloadLen) ykpAuthTagSize
        raw := raw }

/-- A field as the server parses it; a key read behind the end of the buffer is undefined. -/
structure TlvEntry where
  type : Option UInt8
  length : Nat
  value : Bytes
  deriving DecidableEq, Repr

/-- Where the cursor stands behind a value: at an index, at no number, or the read threw. -/
inductive ValueEnd
  | index (i : Nat)
  | notANumber
  | throws
  deriving DecidableEq, Repr

/-- The cursor behind the value that starts at an index; a byte behind the end is undefined. -/
def parseTlvSkip (buf : Bytes) (valStart : Nat) : ValueEnd :=
  -- The bits of an undefined header are zero.
  let valHdr := byteAt buf valStart
  let major := valHdr &&& 0xE0
  let info := valHdr &&& 0x1F
  let i := valStart + 1
  if major = 0x00 ∨ major = 0x20 then
    if info < 24 then .index i
    else if info = 0x18 then .index (i + 1)
    else if info = 0x19 then .index (i + 2)
    else if info = 0x1A then .index (i + 4)
    else if info = 0x1B then .index (i + 8)
    else .index i
  else if major = 0x40 ∨ major = 0x60 then
    if info < 24 then .index (i + info.toNat)
    -- An undefined length turns the cursor into no number.
    else if info = 0x18 then
      if i < buf.length then .index (i + 1 + (byteAt buf i).toNat) else .notANumber
    -- The two-byte length is read with a bounds check.
    else if info = 0x19 then
      if i + 1 < buf.length then .index (i + 2 + readU16 (byteAt buf) i) else .throws
    else .index i
  else if major = 0xE0 then
    if info = 25 then .index (i + 2)
    else if info = 26 then .index (i + 4)
    else if info = 27 then .index (i + 8)
    else .index i
  else .index i

/-- The field whose value lies between two indices, clamped to the buffer. -/
def tlvEntryAt (buf : Bytes) (key : Option UInt8) (valStart valEnd : Nat) : TlvEntry :=
  let value := (buf.take valEnd).drop valStart
  ⟨key, value.length, value⟩

/-- The fields from a cursor on, one for each unit of fuel; nothing when a read threw. -/
def parseTlvLoop (buf : Bytes) (indefinite : Bool) : Nat → Nat → Option (List TlvEntry)
  | 0, _ => some []
  | fuel + 1, i =>
    if ¬ i < buf.length then some []
    else if indefinite ∧ byteAt buf i = 0xFF then some []
    else
      let keyHdr := byteAt buf i
      if ¬ (keyHdr < 24 ∨ keyHdr = 0x18) then some []
      else
        let key := if keyHdr < 24 then some keyHdr else buf[i + 1]?
        let valStart := if keyHdr < 24 then i + 1 else i + 2
        match parseTlvSkip buf valStart with
        | .throws => none
        -- No number ends the value before its start, and the walk after it.
        | .notANumber => some [tlvEntryAt buf key valStart 0]
        | .index next =>
          (parseTlvLoop buf indefinite fuel next).map (tlvEntryAt buf key valStart next :: ·)

/-- All fields of a payload, or nothing when the parser threw. -/
def parseTlv (buf : Bytes) : Option (List TlvEntry) :=
  if buf.length < 2 then some []
  -- Every field moves the cursor, so the buffer's length is fuel enough.
  else parseTlvLoop buf (byteAt buf 0 == 0xBF) buf.length 1

/-- The first field filed under a key; the outer option tells whether the parser threw. -/
def findTlv (buf : Bytes) (type : TlvType) : Option (Option TlvEntry) :=
  (parseTlv buf).map fun entries => entries.find? fun entry => entry.type == some type.byte

/-- A map under construction on the server: the bytes of its chunks. -/
structure TlvBuilder where
  chunks : Bytes
  deriving DecidableEq, Repr

/-- A builder starts with the opening byte of an indefinite map. -/
def TlvBuilder.new : TlvBuilder := ⟨[0xBF]⟩

/-- A field is its key and the bytes of its value. -/
def TlvBuilder.add (b : TlvBuilder) (type : TlvType) (value : Bytes) : TlvBuilder :=
  ⟨b.chunks ++ (keyBytes type.byte ++ value)⟩

/-- An integer of up to 32 bits; a larger one throws. -/
def TlvBuilder.addUInt32 (b : TlvBuilder) (type : TlvType) (val : Nat) : Option TlvBuilder :=
  if val < 24 then some (b.add type [UInt8.ofNat val])
  else if val ≤ 0xFF then some (b.add type [0x18, UInt8.ofNat val])
  else if val ≤ 0xFFFF then some (b.add type (0x19 :: writeU16 val))
  else if val ≤ 0xFFFFFFFF then some (b.add type (0x1A :: writeU32 val))
  else none

def TlvBuilder.addString (b : TlvBuilder) (type : TlvType) (val : JsString) : TlvBuilder :=
  b.add type (textHead (utf8Encode val).length ++ utf8Encode val)

def TlvBuilder.addBytes (b : TlvBuilder) (type : TlvType) (val : Bytes) : TlvBuilder :=
  b.add type (bytesHead val.length ++ val)

/-- The finished map. -/
def TlvBuilder.build (b : TlvBuilder) : Bytes := b.chunks ++ [0xFF]

/-- What a packet is built from. -/
structure BuildPacketOptions where
  packetId : Nat
  sessionId : Nat
  sourceId : JsString
  destId : JsString
  routeType : RouteType
  serviceId : Nat
  actionId : Nat
  qos : Qos
  encrypted : Bool := false
  ack : Bool := false
  payload : Option Bytes := none
  authTag : Option Bytes := none
  deriving DecidableEq, Repr

/-- Serialising a packet; numbers that do not fit their field throw. -/
def buildPacket (opts : BuildPacketOptions) : Option Bytes :=
  let payload := opts.payload.getD []
  let authTag := (opts.authTag.getD []).take ykpAuthTagSize
  -- The buffer starts out zeroed, so a missing or short tag is padded.
  let tagField := authTag ++ List.replicate (ykpAuthTagSize - authTag.length) 0
  let qos := opts.qos.byte &&& flagQosMask
  let encrypted := if opts.encrypted then qos ||| flagEncrypted else qos
  let flags := if opts.ack then encrypted ||| flagAck else encrypted
  if 0xFFFFFFFF < opts.packetId ∨ 0xFFFFFFFF < opts.sessionId ∨ 0xFFFF < payload.length then none
  else some ([ykpMagic0, ykpMagic1, ykpVersion, flags] ++ (writeU32 opts.packetId ++
    (writeU32 opts.sessionId ++ (idField opts.sourceId ++ (idField opts.destId ++
      ([opts.routeType.byte, UInt8.ofNat opts.serviceId, UInt8.ofNat opts.actionId] ++
        (writeU16 payload.length ++ (payload ++ tagField))))))))

/-- The server's own identifier. -/
def serverId : JsString := [83, 69, 82, 86, 69, 82]

end Ykp
