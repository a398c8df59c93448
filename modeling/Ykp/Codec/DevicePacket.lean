import Ykp.Codec.Cbor

/-! The firmware's packets and payload maps: header, serialising, parsing, building and lookup. -/

namespace Ykp

open BigEndian

/-- The fixed header fields of a packet on the device. -/
structure YkpHeader where
  magic0 : UInt8
  magic1 : UInt8
  version : UInt8
  flags : UInt8
  packetId : Nat
  sessionId : Nat
  sourceId : Bytes
  destId : Bytes
  routeType : UInt8
  serviceId : UInt8
  actionId : UInt8
  payloadLen : Nat
  deriving DecidableEq, Repr

/-- A packet on the device; a missing payload is a null pointer. -/
structure YkpPacket where
  header : YkpHeader
  payload : Option Bytes
  authTag : Bytes
  payloadLen : Nat
  deriving DecidableEq, Repr

/-- A freshly allocated packet is zero everywhere. -/
def ykpPacketAlloc : YkpPacket where
  header := ⟨0, 0, 0, 0, 0, 0, List.replicate 8 0, List.replicate 8 0, 0, 0, 0, 0⟩
  payload := none
  authTag := List.replicate ykpAuthTagSize 0
  payloadLen := 0

/-- A C string copied into a zeroed identifier field, cut at eight bytes. -/
def deviceIdField (str : Bytes) : Bytes :=
  let copied := (cString str).take ykpDeviceIdLen
  copied ++ List.replicate (ykpDeviceIdLen - copied.length) 0

@[simp] theorem deviceIdField_length (str : Bytes) :
    (deviceIdField str).length = ykpDeviceIdLen := by
  simp only [deviceIdField, List.length_append, List.length_take, List.length_replicate]
  omega

/-- Setting the header fields; the payload length is not one of them. -/
def ykpPacketSetHeader (pkt : YkpPacket) (packetId sessionId : Nat) (sourceId destId : Bytes)
    (routeType : RouteType) (service : Service) (actionId : UInt8) (qos : Qos)
    (encrypted : Bool) : YkpPacket :=
  let flags := qos.byte &&& flagQosMask
  { pkt with
    header := { pkt.header with
      magic0 := ykpMagic0
      magic1 := ykpMagic1
      version := ykpVersion
      flags := if encrypted then flags ||| flagEncrypted else flags
      packetId := packetId
      sessionId := sessionId
      sourceId := deviceIdField sourceId
      destId := deviceIdField destId
      routeType := routeType.byte
      serviceId := service.byte
      actionId := actionId } }

/-- Setting the payload; a failed allocation loses the payload but keeps the old lengths. -/
def ykpPacketSetPayload (pkt : YkpPacket) (mallocOk : Bool) (payload : Bytes) : YkpPacket :=
  if payload.length = 0 then
    { pkt with
      payload := none
      payloadLen := 0
      header := { pkt.header with payloadLen := 0 } }
  else if mallocOk then
    { pkt with
      payload := some payload
      payloadLen := payload.length
      header := { pkt.header with payloadLen := payload.length } }
  else { pkt with payload := none }

/-- What serialising did: the bytes it wrote in order, and the length it reported. -/
structure Serialised where
  written : Bytes
  total : Nat
  deriving DecidableEq, Repr

/-- The header bytes of a packet that announces a payload length. -/
def headerBytes (header : YkpHeader) (payloadLen : Nat) : Bytes :=
  [ykpMagic0, ykpMagic1, ykpVersion, header.flags] ++ (writeU32 header.packetId ++
    (writeU32 header.sessionId ++ (header.sourceId ++ (header.destId ++
      ([header.routeType, header.serviceId, header.actionId] ++ writeU16 payloadLen)))))

/-- Serialising into a buffer; the total is a 16-bit number and zero reports an error. -/
def ykpPacketSerialise (pkt : YkpPacket) (outSize : Nat) : Serialised :=
  let total := (ykpHeaderSize + pkt.payloadLen + ykpAuthTagSize) % 65536
  if outSize < total then ⟨[], 0⟩
  else
    -- A payload is copied only when both its length and its pointer are set.
    let payload := if pkt.payloadLen = 0 then [] else (pkt.payload.getD []).take pkt.payloadLen
    ⟨headerBytes pkt.header pkt.payloadLen ++ (payload ++ pkt.authTag), total⟩

/-- The bytes a caller sends: what was written, and old buffer contents where nothing was. -/
def Serialised.raw (out : Serialised) (buffer : Memory) : Bytes :=
  readBytes (memoryOf out.written buffer) 0 out.total

/-- Long enough for an empty packet, and the magic and version bytes are right. -/
def ykpPacketValidateHeader (raw : Bytes) : Bool :=
  !(raw.length < ykpMinPacket) && (byteAt raw 0 == ykpMagic0 && byteAt raw 1 == ykpMagic1) &&
    byteAt raw 2 == ykpVersion

/-- The largest payload the static receive buffer holds. -/
@[simp] abbrev ykpStaticPayloadBuf : Nat := 512

/-- Parsing a received packet of at most 65535 bytes. -/
def ykpPacketParse (raw : Bytes) : Option YkpPacket :=
  if !ykpPacketValidateHeader raw then none
  else
    let payloadLen := readU16 (byteAt raw) 31
    let expected := (ykpHeaderSize + payloadLen + ykpAuthTagSize) % 65536
    if raw.length < expected then none
    else if ykpStaticPayloadBuf < payloadLen then none
    else some
      { header :=
          { magic0 := byteAt raw 0
            magic1 := byteAt raw 1
            version := byteAt raw 2
            flags := byteAt raw 3
            packetId := readU32 (byteAt raw) 4
            sessionId := readU32 (byteAt raw) 8
            sourceId := readBytes (byteAt raw) 12 ykpDeviceIdLen
            destId := readBytes (byteAt raw) 20 ykpDeviceIdLen
            routeType := byteAt raw 28
            serviceId := byteAt raw 29
            actionId := byteAt raw 30
            payloadLen := payloadLen }
        payload :=
          if payloadLen = 0 then none else some (readBytes (byteAt raw) ykpHeaderSize payloadLen)
        authTag := readBytes (byteAt raw) (ykpHeaderSize + payloadLen) ykpAuthTagSize
        payloadLen := payloadLen }

/-- A payload map under construction: the capacity of its buffer and the bytes so far. -/
structure YkpTlvBuilder where
  cap : Nat
  buf : Bytes
  deriving DecidableEq, Repr

/-- A builder starts with the opening byte of an indefinite map. -/
def ykpTlvBuilderInit (cap : Nat) : YkpTlvBuilder := ⟨cap, [0xBF]⟩

/-- An encoder that continues where the builder stands. -/
def tlvToCbor (b : YkpTlvBuilder) : CborEncoder := ⟨b.cap, b.buf, false⟩

/-- Adding a field: its key, then its value; what did fit stays even when the rest did not. -/
def ykpTlvAdd (b : YkpTlvBuilder) (type : TlvType) (encode : CborEncoder → CborEncoder) :
    YkpTlvBuilder × Bool :=
  let enc := encode (cborEncodeKey (tlvToCbor b) type.byte)
  ({ b with buf := enc.buf }, !enc.overflow)

def ykpTlvAddUint8 (b : YkpTlvBuilder) (type : TlvType) (val : UInt8) : YkpTlvBuilder × Bool :=
  ykpTlvAdd b type fun enc => cborEncodeUint enc val.toNat

def ykpTlvAddUint16 (b : YkpTlvBuilder) (type : TlvType) (val : UInt16) : YkpTlvBuilder × Bool :=
  ykpTlvAdd b type fun enc => cborEncodeUint enc val.toNat

def ykpTlvAddUint32 (b : YkpTlvBuilder) (type : TlvType) (val : UInt32) : YkpTlvBuilder × Bool :=
  ykpTlvAdd b type fun enc => cborEncodeUint enc val.toNat

def ykpTlvAddUint64 (b : YkpTlvBuilder) (type : TlvType) (val : UInt64) : YkpTlvBuilder × Bool :=
  ykpTlvAdd b type fun enc => cborEncodeUint enc val.toNat

def ykpTlvAddInt32 (b : YkpTlvBuilder) (type : TlvType) (val : Int) : YkpTlvBuilder × Bool :=
  ykpTlvAdd b type fun enc => cborEncodeInt enc val

/-- A number is given by its single-precision pattern. -/
def ykpTlvAddFloat (b : YkpTlvBuilder) (type : TlvType) (val : Nat) : YkpTlvBuilder × Bool :=
  ykpTlvAdd b type fun enc => cborEncodeFloat16 enc val

def ykpTlvAddBytes (b : YkpTlvBuilder) (type : TlvType) (data : Bytes) : YkpTlvBuilder × Bool :=
  ykpTlvAdd b type fun enc => cborEncodeBytes enc data

def ykpTlvAddString (b : YkpTlvBuilder) (type : TlvType) (str : Bytes) : YkpTlvBuilder × Bool :=
  ykpTlvAdd b type fun enc => cborEncodeStr enc str

/-- Closing the map: the break byte is appended, or overwrites the last byte of a full buffer. -/
def ykpTlvBuilderLen (b : YkpTlvBuilder) : Bytes :=
  if b.buf.length < b.cap then b.buf ++ [0xFF]
  else b.buf.take (b.cap - 1) ++ [0xFF]

/-- A field found in a buffer: its key, the length of its value, and where the value starts. -/
structure YkpTlv where
  type : UInt8
  length : Nat
  start : Nat
  deriving DecidableEq, Repr

/-- The outcome of a lookup; the cursor is a 16-bit number, so the walk can come round again. -/
inductive TlvLookup
  | found (tlv : YkpTlv)
  | absent
  | diverges
  deriving DecidableEq, Repr

/-- The 16-bit cursor behind the value that starts at an index. -/
def ykpTlvSkip (buf : Memory) (valStart : Nat) : Nat :=
  let valHdr := buf valStart
  let major := valHdr &&& 0xE0
  let info := valHdr &&& 0x1F
  let i := (valStart + 1) % 65536
  if major = 0x00 ∨ major = 0x20 then
    if info < 24 then i
    else if info = 0x18 then (i + 1) % 65536
    else if info = 0x19 then (i + 2) % 65536
    else if info = 0x1A then (i + 4) % 65536
    else if info = 0x1B then (i + 8) % 65536
    else i
  else if major = 0x40 ∨ major = 0x60 then
    if info < 24 then (i + info.toNat) % 65536
    else if info = 0x18 then ((i + 1) % 65536 + (buf i).toNat) % 65536
    else if info = 0x19 then ((i + 2) % 65536 + readU16 buf i) % 65536
    else i
  else if major = 0xE0 then
    if info = 25 then (i + 2) % 65536
    else if info = 26 then (i + 4) % 65536
    else if info = 27 then (i + 8) % 65536
    else i
  else i

/-- The walk over the fields of a map, one field for each unit of fuel. -/
def ykpTlvFindLoop (buf : Memory) (bufLen : Nat) (type : UInt8) (indefinite : Bool) :
    Nat → Nat → TlvLookup
  | 0, _ => .diverges
  | fuel + 1, i =>
    if ¬ i < bufLen then .absent
    else if indefinite ∧ buf i = 0xFF then .absent
    else
      let keyHdr := buf i
      let i := (i + 1) % 65536
      -- A key from 24 on stands behind a marker; any other byte ends the walk.
      if ¬ (keyHdr < 24 ∨ keyHdr = 0x18) then .absent
      else
        let key := if keyHdr < 24 then keyHdr else buf i
        let valStart := if keyHdr < 24 then i else (i + 1) % 65536
        let i := ykpTlvSkip buf valStart
        if key = type then .found ⟨key, (i + 65536 - valStart) % 65536, valStart⟩
        else ykpTlvFindLoop buf bufLen type indefinite fuel i

/-- The first field of a map filed under a key. -/
def ykpTlvFind (buf : Memory) (bufLen : Nat) (type : UInt8) : TlvLookup :=
  if bufLen < 2 then .absent
  else
    let header := buf 0
    -- The walk revisits an index, and then never ends, once it outlives every index below the end.
    if header = 0xBF then ykpTlvFindLoop buf bufLen type true (bufLen + 1) 1
    else if header &&& 0xE0 = 0xA0 then
      -- The pair count of a definite map is read past but never used.
      ykpTlvFindLoop buf bufLen type false (bufLen + 1) (if header &&& 0x1F = 0x18 then 2 else 1)
    else .absent

/-- An unsigned integer of at most the given width, read from a field; the widths are numbered
from one for an 8-bit to four for a 64-bit reader. -/
def ykpTlvReadUint (width : Nat) (buf : Memory) (tlv : YkpTlv) : Option Nat :=
  let valHdr := buf tlv.start
  let info := valHdr &&& 0x1F
  if tlv.length < 1 then none
  else if valHdr &&& 0xE0 ≠ 0x00 then none
  else if info < 24 then some info.toNat
  else if info = 0x18 ∧ 1 ≤ width then some (buf (tlv.start + 1)).toNat
  else if info = 0x19 ∧ 2 ≤ width then some (readU16 buf (tlv.start + 1))
  else if info = 0x1A ∧ 3 ≤ width then some (readU32 buf (tlv.start + 1))
  else if info = 0x1B ∧ 4 ≤ width then
    some (readU32 buf (tlv.start + 1) * 4294967296 + readU32 buf (tlv.start + 5))
  else none

def ykpTlvReadUint8 (buf : Memory) (tlv : YkpTlv) : Option Nat := ykpTlvReadUint 1 buf tlv
def ykpTlvReadUint16 (buf : Memory) (tlv : YkpTlv) : Option Nat := ykpTlvReadUint 2 buf tlv
def ykpTlvReadUint32 (buf : Memory) (tlv : YkpTlv) : Option Nat := ykpTlvReadUint 3 buf tlv
def ykpTlvReadUint64 (buf : Memory) (tlv : YkpTlv) : Option Nat := ykpTlvReadUint 4 buf tlv

/-- A signed integer of 32 bits, read from a field of either sign. -/
def ykpTlvReadInt32 (buf : Memory) (tlv : YkpTlv) : Option Int32 :=
  let valHdr := buf tlv.start
  let major := valHdr &&& 0xE0
  let info := valHdr &&& 0x1F
  if tlv.length < 1 then none
  else if major = 0x00 then (ykpTlvReadUint32 buf tlv).map Int32.ofNat
  else if major = 0x20 then
    -- A wider argument is not read, and counts as zero.
    let uv :=
      if info < 24 then info.toNat
      else if info = 0x18 then (buf (tlv.start + 1)).toNat
      else if info = 0x19 then readU16 buf (tlv.start + 1)
      else if info = 0x1A then readU32 buf (tlv.start + 1)
      else 0
    some (Int32.ofInt (-1 - uv))
  else none

/-- A fraction is shifted until its leading bit is the one in front of the field, and the exponent
lowered each time; one shift for each unit of fuel. -/
def normaliseFraction : Nat → Nat → Nat → Option (Nat × Nat)
  | 0, _, _ => none
  | fuel + 1, mantissa, exponent =>
    if mantissa &&& 0x0400 ≠ 0 then some (mantissa, exponent)
    else normaliseFraction fuel (mantissa <<< 1) (exponent - 1)

/-- The single-precision pattern of a half-precision pattern. -/
def float16ToFloat32 (f16 : Nat) : Option Nat :=
  let sign := (f16 &&& 0x8000) <<< 16
  let exponent := (f16 &&& 0x7C00) >>> 10
  let mantissa := f16 &&& 0x03FF
  if exponent = 0 then
    if mantissa = 0 then some sign
    else
      -- A fraction of ten bits needs at most ten shifts.
      (normaliseFraction 11 mantissa (127 - 15)).map fun (mantissa, exponent) =>
        sign ||| exponent <<< 23 ||| (mantissa &&& 0x03FF) <<< 13
  else if exponent = 31 then some (sign ||| 0x7F800000 ||| mantissa <<< 13)
  else some (sign ||| (exponent + 127 - 15) <<< 23 ||| mantissa <<< 13)

/-- A floating-point number of either precision, as its single-precision pattern. -/
def ykpTlvReadFloat (buf : Memory) (tlv : YkpTlv) : Option Nat :=
  if tlv.length < 1 then none
  else if buf tlv.start = 0xF9 then float16ToFloat32 (readU16 buf (tlv.start + 1))
  else if buf tlv.start = 0xFA then
    -- The four bytes are copied as they stand, which makes the first one the lowest.
    some (readU32 (fun index => buf (tlv.start + 4 - index)) 0)
  else none

end Ykp
