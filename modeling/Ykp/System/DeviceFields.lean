import Ykp.Backend.Reports
import Ykp.Codec.MapLookup
import Ykp.Codec.Utf8

/-! Payload maps of the device: every field that was added is parsed and read by the server. -/

namespace Ykp.System

open BigEndian Backend

/-- What a field is added with; a number keeps its width, and a string ends at its terminator. -/
inductive TlvValue
  | uint8 (val : UInt8)
  | uint16 (val : UInt16)
  | uint32 (val : UInt32)
  | uint64 (val : UInt64)
  | int32 (val : Int32)
  | bytes (data : Bytes)
  | string (str : Bytes)

/-- The encoder each kind of field calls. -/
def TlvValue.encode : TlvValue → CborEncoder → CborEncoder
  | .uint8 val, enc => cborEncodeUint enc val.toNat
  | .uint16 val, enc => cborEncodeUint enc val.toNat
  | .uint32 val, enc => cborEncodeUint enc val.toNat
  | .uint64 val, enc => cborEncodeUint enc val.toNat
  | .int32 val, enc => cborEncodeInt enc val.toInt
  | .bytes data, enc => cborEncodeBytes enc data
  | .string str, enc => cborEncodeStr enc str

/-- The bytes a value is encoded as. -/
def TlvValue.encoded : TlvValue → Bytes
  | .uint8 val => cborUintBytes val.toNat
  | .uint16 val => cborUintBytes val.toNat
  | .uint32 val => cborUintBytes val.toNat
  | .uint64 val => cborUintBytes val.toNat
  | .int32 val =>
    if 0 ≤ val.toInt then cborUintBytes val.toInt.toNat
    else cborNegativeBytes (-1 - val.toInt).toNat
  | .bytes data => bytesHead data.length ++ data
  | .string str => textHead (cString str).length ++ cString str

/-- A call that adds a field; the type may be any byte. -/
structure TlvCall where
  type : UInt8
  value : TlvValue

/-- The call on a builder, and whether it returned true. -/
def TlvCall.addTo (call : TlvCall) (b : YkpTlvBuilder) : YkpTlvBuilder × Bool :=
  let enc := call.value.encode (cborEncodeKey (tlvToCbor b) call.type)
  ({ b with buf := enc.buf }, !enc.overflow)

/-- The builder's own functions are calls of this form. -/
theorem addTo_eq (b : YkpTlvBuilder) (type : TlvType) :
    (∀ val, TlvCall.addTo ⟨type.byte, .uint8 val⟩ b = ykpTlvAddUint8 b type val) ∧
      (∀ val, TlvCall.addTo ⟨type.byte, .uint16 val⟩ b = ykpTlvAddUint16 b type val) ∧
      (∀ val, TlvCall.addTo ⟨type.byte, .uint32 val⟩ b = ykpTlvAddUint32 b type val) ∧
      (∀ val, TlvCall.addTo ⟨type.byte, .uint64 val⟩ b = ykpTlvAddUint64 b type val) ∧
      (∀ val, TlvCall.addTo ⟨type.byte, .int32 val⟩ b = ykpTlvAddInt32 b type val.toInt) ∧
      (∀ data, TlvCall.addTo ⟨type.byte, .bytes data⟩ b = ykpTlvAddBytes b type data) ∧
      ∀ str, TlvCall.addTo ⟨type.byte, .string str⟩ b = ykpTlvAddString b type str :=
  ⟨fun _ => rfl, fun _ => rfl, fun _ => rfl, fun _ => rfl, fun _ => rfl, fun _ => rfl,
    fun _ => rfl⟩

/-- Calls one after the other, and whether all of them returned true. -/
def addCalls (b : YkpTlvBuilder) : List TlvCall → YkpTlvBuilder × Bool
  | [] => (b, true)
  | call :: rest =>
    let added := call.addTo b
    let others := addCalls added.1 rest
    (others.1, added.2 && others.2)

/-- An encoding step that raised no flag has written exactly a value. -/
def WritesOrFlags (encode : CborEncoder → CborEncoder) (value : Bytes) : Prop :=
  ∀ enc : CborEncoder, (encode enc).overflow = false →
    enc.overflow = false ∧ encode enc = { enc with buf := enc.buf ++ value }

/-- A value written behind another one. -/
theorem WritesOrFlags.comp {first second : CborEncoder → CborEncoder} {front back : Bytes}
    (writesFront : WritesOrFlags first front) (writesBack : WritesOrFlags second back) :
    WritesOrFlags (fun enc => second (first enc)) (front ++ back) := by
  intro enc ok
  obtain ⟨clean, rest⟩ := writesBack (first enc) ok
  obtain ⟨start, begun⟩ := writesFront enc clean
  refine ⟨start, rest.trans ?_⟩
  rw [begun, List.append_assoc]

/-- Bytes written one by one. -/
theorem cborWriteEach_writes (data : Bytes) :
    WritesOrFlags (fun enc => cborWriteEach enc data) data := by
  have one (byte : UInt8) : WritesOrFlags (fun enc => cborWriteByte enc byte) [byte] := by
    intro enc ok
    simp only [cborWriteByte] at ok ⊢
    split at ok
    · rename_i room
      exact ⟨ok, if_pos room⟩
    · cases ok
  -- The flag stays raised, so every byte found room.
  induction data with
  | nil => exact fun enc ok => ⟨ok, by simp [cborWriteEach]⟩
  | cons byte rest ih => exact (one byte).comp ih

/-- A block of bytes. -/
theorem cborWriteBytes_writes (data : Bytes) :
    WritesOrFlags (fun enc => cborWriteBytes enc data) data := by
  intro enc ok
  simp only [cborWriteBytes] at ok ⊢
  split at ok
  · rename_i room
    exact ⟨ok, if_pos room⟩
  · cases ok

/-- Every kind of field writes its value or raises the flag. -/
theorem TlvValue.encode_writes (value : TlvValue) : WritesOrFlags value.encode value.encoded := by
  cases value with
  | uint8 val => exact cborWriteEach_writes _
  | uint16 val => exact cborWriteEach_writes _
  | uint32 val => exact cborWriteEach_writes _
  | uint64 val => exact cborWriteEach_writes _
  | int32 val =>
    intro enc ok
    simp only [encode, cborEncodeInt, encoded] at ok ⊢
    -- A negative number is written by its distance below minus one.
    split_ifs at ok ⊢
    · exact cborWriteEach_writes _ enc ok
    · exact cborWriteEach_writes _ enc ok
  | bytes data => exact (cborWriteEach_writes _).comp (cborWriteBytes_writes data)
  | string str => exact (cborWriteEach_writes _).comp (cborWriteBytes_writes (cString str))

/-- A call that returned true appended the key and the value. -/
theorem TlvCall.addTo_true {call : TlvCall} {b : YkpTlvBuilder} (ok : (call.addTo b).2 = true) :
    (call.addTo b).1 =
      { b with buf := b.buf ++ (keyBytes call.type ++ call.value.encoded) } := by
  simp only [addTo, Bool.not_eq_true'] at ok ⊢
  have both := (cborWriteEach_writes (keyBytes call.type)).comp call.value.encode_writes
  obtain ⟨-, written⟩ := both (tlvToCbor b) ok
  simp only [cborEncodeKey, written]
  rfl

/-- The markers of a negative integer announce one, two or four argument bytes. -/
private theorem announcedEnd_negative (rest : Bytes) :
    announcedEnd (byteAt (0x38 :: rest)) 0 = 2 ∧ announcedEnd (byteAt (0x39 :: rest)) 0 = 3 ∧
      announcedEnd (byteAt (0x3A :: rest)) 0 = 5 := by
  -- Only the marker is looked at, whatever follows it.
  have head (marker : UInt8) : byteAt (marker :: rest) 0 = marker := rfl
  simp only [announcedEnd, head]
  exact ⟨rfl, rfl, rfl⟩

/-- A negative integer is a value. -/
def negativeItem (uv : Nat) : Item where
  bytes := cborNegativeBytes uv
  complete := by
    unfold cborNegativeBytes
    -- One case for each width.
    split_ifs with tiny
    · obtain ⟨major, info, small⟩ := negativeHead tiny
      simp [announcedEnd, byteAt, memoryOf, major, info, small]
    · rw [(announcedEnd_negative _).1]
      rfl
    · rw [(announcedEnd_negative _).2.1]
      simp
    · rw [(announcedEnd_negative _).2.2]
      simp

/-- A value whose length fits the byte that announces it. -/
def TlvValue.Short : TlvValue → Prop
  | .bytes data => data.length < 256
  | .string str => (cString str).length < 256
  | _ => True

/-- Such a value announces its own length. -/
theorem TlvValue.item_of_short {value : TlvValue} (short : value.Short) :
    ∃ item : Item, item.bytes = value.encoded := by
  cases value with
  | uint8 val => exact ⟨uintItem val.toNat, rfl⟩
  | uint16 val => exact ⟨uintItem val.toNat, rfl⟩
  | uint32 val => exact ⟨uintItem val.toNat, rfl⟩
  | uint64 val => exact ⟨uintItem val.toNat, rfl⟩
  | int32 val =>
    by_cases positive : 0 ≤ val.toInt
    · exact ⟨uintItem val.toInt.toNat, (if_pos positive).symm⟩
    · exact ⟨negativeItem (-1 - val.toInt).toNat, (if_neg positive).symm⟩
  | bytes data => exact ⟨bytesItem data short, rfl⟩
  | string str => exact ⟨textItem (cString str) short, rfl⟩

/-- What takes less than 256 bytes is short. -/
theorem TlvValue.short_of_length {value : TlvValue} (less : value.encoded.length < 256) :
    value.Short := by
  cases value with
  | bytes data =>
    have length : (bytesHead data.length ++ data).length < 256 := less
    rw [List.length_append] at length
    exact Nat.lt_of_le_of_lt (Nat.le_add_left _ _) length
  | string str =>
    have length : (textHead (cString str).length ++ cString str).length < 256 := less
    rw [List.length_append] at length
    exact Nat.lt_of_le_of_lt (Nat.le_add_left _ _) length
  | _ => trivial

/-- A call as the server parses its field. -/
def TlvCall.entry (call : TlvCall) : TlvEntry :=
  ⟨some call.type, call.value.encoded.length, call.value.encoded⟩

/-- Calls only ever append. -/
theorem addCalls_length (calls : List TlvCall) (b : YkpTlvBuilder)
    (ok : (addCalls b calls).2 = true) :
    b.buf.length ≤ (addCalls b calls).1.buf.length := by
  -- The builder is general, as each call continues where the one before stopped.
  induction calls generalizing b with
  | nil => exact Nat.le_refl _
  | cons call rest ih =>
    simp only [addCalls, Bool.and_eq_true] at ok ⊢
    have first := congrArg (fun built => built.buf.length) (TlvCall.addTo_true ok.1)
    simp only [List.length_append] at first
    have others := ih _ ok.2
    omega

/-- Calls that all returned true appended one field each. -/
theorem addCalls_fields (calls : List TlvCall) (b : YkpTlvBuilder)
    (ok : (addCalls b calls).2 = true) (small : (addCalls b calls).1.buf.length < 256) :
    ∃ fields : List Field, fields.map Field.entry = calls.map TlvCall.entry ∧
      (addCalls b calls).1 = { b with buf := b.buf ++ fieldBytes fields } := by
  -- Every field is shorter than what all of them together leave in the buffer.
  induction calls generalizing b with
  | nil => exact ⟨[], rfl, by simp [addCalls]⟩
  | cons call rest ih =>
    simp only [addCalls, Bool.and_eq_true] at ok small ⊢
    have first := TlvCall.addTo_true ok.1
    have grown := addCalls_length rest _ ok.2
    have width := congrArg (fun built => built.buf.length) first
    simp only [List.length_append] at width
    obtain ⟨item, bytes⟩ :=
      TlvValue.item_of_short (@TlvValue.short_of_length call.value (by omega))
    obtain ⟨fields, entries, built⟩ := ih _ ok.2 small
    refine ⟨⟨call.type, item⟩ :: fields, ?_, ?_⟩
    · simp only [List.map_cons, entries]
      simp [Field.entry, TlvCall.entry, bytes]
    · rw [built, first]
      simp [Field.bytes, bytes]

/-- The server's parser finds one entry for each call. -/
theorem parseTlv_calls {cap : Nat} (small : cap ≤ 256) (calls : List TlvCall)
    (ok : (addCalls (ykpTlvBuilderInit cap) calls).2 = true)
    (below : (addCalls (ykpTlvBuilderInit cap) calls).1.buf.length < cap) :
    parseTlv (ykpTlvBuilderLen (addCalls (ykpTlvBuilderInit cap) calls).1) =
      some (calls.map TlvCall.entry) := by
  obtain ⟨fields, entries, built⟩ := addCalls_fields calls _ ok (by omega)
  have capacity : (addCalls (ykpTlvBuilderInit cap) calls).1.cap = cap := by
    rw [built]
    rfl
  -- There is room for the break byte, so the map is closed behind its last field.
  rw [ykpTlvBuilderLen_room (by rw [capacity]; exact below), built, ← entries]
  exact parseTlv_map fields

/-- The word behind the header of a value. -/
private theorem readWord_behind (marker : UInt8) (value length : Nat) (type : Option UInt8) :
    (value < 65536 → readWord ⟨type, length, marker :: writeU16 value⟩ 2 = some value) ∧
      (value < 4294967296 → readWord ⟨type, length, marker :: writeU32 value⟩ 4 = some value) := by
  have two := readU16_written [marker] [] value fun _ => 0
  have four := readU32_written [marker] [] value fun _ => 0
  simp only [List.append_nil, List.singleton_append, List.length_singleton] at two four
  constructor
  · intro small
    simp only [readWord, List.length_cons, writeU16_length, byteAt, two, Nat.mod_eq_of_lt small]
    rfl
  · intro small
    simp only [readWord, List.length_cons, writeU32_length, byteAt, four, Nat.mod_eq_of_lt small]
    rfl

/-- The byte behind the header of a value. -/
private theorem byteNumber_behind (marker : UInt8) {value : Nat} (small : value ≤ 0xFF)
    (length : Nat) (type : Option UInt8) :
    byteNumber ⟨type, length, [marker, UInt8.ofNat value]⟩ 1 = .int value := by
  simp [byteNumber, Nat.mod_eq_of_lt (show value < 256 by omega)]

/-- A small number is the value of its byte. -/
private theorem toNat_tiny {value : Nat} (tiny : value < 24) :
    (UInt8.ofNat value).toNat = value := by
  simp
  omega

/-- The header byte of a value is its first one. -/
private theorem valueHead_cons (type : Option UInt8) (length : Nat) (head : UInt8)
    (rest : Bytes) : valueHead ⟨type, length, head :: rest⟩ = head := rfl

/-- The server reads an unsigned integer below 2^32 back, and does so as a signed one, too. -/
theorem readUInt32_uint {value : Nat} (small : value < 4294967296) (length : Nat)
    (type : Option UInt8) :
    tlvReadUInt32 ⟨type, length, cborUintBytes value⟩ = some (.int value) ∧
      tlvReadInt8 ⟨type, length, cborUintBytes value⟩ = some (.int value) := by
  have unsigned : valueHead ⟨type, length, cborUintBytes value⟩ &&& 0xE0 = 0x00 ∧
      tlvReadUInt32 ⟨type, length, cborUintBytes value⟩ = some (.int value) := by
    unfold cborUintBytes
    -- One case for each width; the widest is excluded.
    split_ifs with tiny one two four
    · obtain ⟨major, info, head⟩ := tinyHead tiny
      simp only [tlvReadUInt32, valueHead_cons, major, info, head, if_true, toNat_tiny tiny,
        and_self]
    · simp only [tlvReadUInt32, valueHead_cons, byteNumber_behind 0x18 one]
      exact ⟨rfl, rfl⟩
    · have word := (readWord_behind 0x19 value length type).1 (by omega)
      simp only [tlvReadUInt32, valueHead_cons, word]
      exact ⟨rfl, rfl⟩
    · have word := (readWord_behind 0x1A value length type).2 small
      simp only [tlvReadUInt32, valueHead_cons, word]
      exact ⟨rfl, rfl⟩
    · omega
  refine ⟨unsigned.2, ?_⟩
  unfold tlvReadInt8
  rw [unsigned.1, if_pos rfl]
  exact unsigned.2

/-- The server reads a negative integer of 32 bits back. -/
theorem readInt8_negative {uv : Nat} (small : uv < 4294967296) (length : Nat)
    (type : Option UInt8) :
    tlvReadInt8 ⟨type, length, cborNegativeBytes uv⟩ = some (.int (-1 - uv)) := by
  unfold cborNegativeBytes
  -- One case for each width.
  split_ifs with tiny one two
  · obtain ⟨major, info, head⟩ := negativeHead tiny
    have apart : ¬ ((0x20 : UInt8) = 0x00) := by decide
    simp only [tlvReadInt8, valueHead_cons, major, info, head, apart, if_true, if_false,
      toNat_tiny tiny]
  · simp only [tlvReadInt8, valueHead_cons, byteNumber_behind 0x38 one]
    rfl
  · have word := (readWord_behind 0x39 uv length type).1 (by omega)
    simp only [tlvReadInt8, valueHead_cons, word]
    rfl
  · have word := (readWord_behind 0x3A uv length type).2 small
    simp only [tlvReadInt8, valueHead_cons, word]
    rfl

/-- The server reads the text of a value of up to 255 bytes. -/
theorem readString_text {text : Bytes} (short : text.length < 256) (length : Nat)
    (type : Option UInt8) :
    tlvReadString ⟨type, length, textHead text.length ++ text⟩ = some (utf8Decode text) := by
  unfold textHead
  -- The length stands in the header or behind it.
  split_ifs with tiny
  · obtain ⟨-, ⟨-, info⟩, head⟩ := shortHead tiny
    have first : valueHead ⟨type, length, [0x60 ||| UInt8.ofNat text.length] ++ text⟩ =
        0x60 ||| UInt8.ofNat text.length := rfl
    simp only [tlvReadString, first, info, head, if_true, toNat_tiny tiny]
    simp
  · have first : valueHead ⟨type, length, [0x78, UInt8.ofNat text.length] ++ text⟩ = 0x78 := rfl
    have size : (UInt8.ofNat text.length).toNat = text.length := by
      simp
      omega
    simp only [tlvReadString, first, longHead.2.2]
    simp [size]

/-- The bytes behind the header of a byte string. -/
def behindBytesHead (value : Bytes) : Bytes :=
  if byteAt value 0 &&& 0x1F < 24 then value.drop 1 else value.drop 2

/-- Behind the header of a byte string of up to 255 bytes stands its content. -/
theorem behindBytesHead_bytes {data : Bytes} :
    behindBytesHead (bytesHead data.length ++ data) = data := by
  unfold bytesHead
  split_ifs with tiny
  · obtain ⟨⟨-, info⟩, -, head⟩ := shortHead tiny
    have first : byteAt ([0x40 ||| UInt8.ofNat data.length] ++ data) 0 =
        0x40 ||| UInt8.ofNat data.length := rfl
    simp only [behindBytesHead, first, info, head, if_true]
    rfl
  · have first : byteAt ([0x58, UInt8.ofNat data.length] ++ data) 0 = 0x58 := rfl
    simp only [behindBytesHead, first, longHead.1.2]
    rfl

/-- The server's readers give back what a field was added with. -/
def TlvValue.ReadBack (entry : TlvEntry) : TlvValue → Prop
  | .uint8 val => tlvReadUInt32 entry = some (.int val.toNat)
  | .uint16 val => tlvReadUInt32 entry = some (.int val.toNat)
  | .uint32 val => tlvReadUInt32 entry = some (.int val.toNat)
  | .uint64 val => val.toNat < 2 ^ 32 → tlvReadUInt32 entry = some (.int val.toNat)
  | .int32 val => tlvReadInt8 entry = some (.int val.toInt)
  | .bytes data => behindBytesHead entry.value = data
  -- A string of valid UTF-8 is the bytes of some characters.
  | .string str => ∀ points : List Nat, (∀ point ∈ points, ScalarValue point) →
    cString str = points.flatMap utf8Point → tlvReadString entry = some (points.flatMap codeUnits)

/-- A field that was parsed as it was added is read back. -/
theorem readBack_entry (call : TlvCall) (short : call.value.encoded.length < 256) :
    call.value.ReadBack call.entry := by
  obtain ⟨type, value⟩ := call
  -- An integer is read back by its sign, a string by its length byte.
  cases value with
  | uint8 val =>
    have range := val.toNat_lt
    exact (readUInt32_uint (by omega) _ _).1
  | uint16 val =>
    have range := val.toNat_lt
    exact (readUInt32_uint (by omega) _ _).1
  | uint32 val => exact (readUInt32_uint val.toNat_lt _ _).1
  | uint64 val => exact fun small => (readUInt32_uint small _ _).1
  | int32 val =>
    have least := val.le_toInt
    have greatest := val.toInt_lt
    by_cases positive : 0 ≤ val.toInt
    · have encoded : TlvValue.encoded (.int32 val) = cborUintBytes val.toInt.toNat :=
        if_pos positive
      have read := (readUInt32_uint (show val.toInt.toNat < 4294967296 by omega)
        (cborUintBytes val.toInt.toNat).length (some type)).2
      simp only [TlvValue.ReadBack, TlvCall.entry, encoded, read]
      rw [Int.toNat_of_nonneg positive]
    · have encoded : TlvValue.encoded (.int32 val) =
          cborNegativeBytes (-1 - val.toInt).toNat := if_neg positive
      have read := readInt8_negative (show (-1 - val.toInt).toNat < 4294967296 by omega)
        (cborNegativeBytes (-1 - val.toInt).toNat).length (some type)
      simp only [TlvValue.ReadBack, TlvCall.entry, encoded, read]
      -- The distance below minus one is taken from minus one again.
      rw [Int.toNat_of_nonneg (by omega)]
      congr 2
      omega
  | bytes data => exact behindBytesHead_bytes
  | string str =>
    intro points scalars valid
    have length : (textHead (cString str).length ++ cString str).length < 256 := short
    rw [List.length_append] at length
    have read := readString_text (show (cString str).length < 256 by omega)
      (TlvValue.string str).encoded.length (some type)
    rw [← utf8Decode_points points scalars, ← valid]
    exact read

/-- A map built on the device in a buffer of up to 256 bytes, by calls that all returned true and
left room, is parsed by the server into one entry for each call, in order, and its readers give back
every argument. -/
theorem deviceFields_roundTrip (cap : Nat) (small : cap ≤ 256) (calls : List TlvCall)
    (ok : (addCalls (ykpTlvBuilderInit cap) calls).2 = true)
    (below : (addCalls (ykpTlvBuilderInit cap) calls).1.buf.length < cap) :
    parseTlv (ykpTlvBuilderLen (addCalls (ykpTlvBuilderInit cap) calls).1) =
        some (calls.map TlvCall.entry) ∧
      ∀ call ∈ calls, call.value.ReadBack call.entry := by
  refine ⟨parseTlv_calls small calls ok below, fun call member => ?_⟩
  obtain ⟨fields, entries, built⟩ := addCalls_fields calls _ ok (by omega)
  -- The entry is one of the fields, which together fit into the buffer.
  obtain ⟨field, among, same⟩ := List.mem_map.mp (entries ▸ List.mem_map_of_mem member)
  have value : field.item.bytes = call.value.encoded := congrArg TlvEntry.value same
  have within : field.bytes.length ≤ (fieldBytes fields).length :=
    (List.sublist_flatten_of_mem (List.mem_map_of_mem among)).length_le
  rw [built] at below
  simp only [List.length_append] at below
  simp only [Field.bytes, List.length_append, value] at within
  exact readBack_entry call (by omega)

/-- A number of each sign, a text and a byte string, one of them under a type behind the marker. -/
def sampleCalls : List TlvCall :=
  [⟨TlvType.state.byte, .uint8 1⟩, ⟨TlvType.rssi.byte, .int32 (-67)⟩,
    ⟨TlvType.firmwareVer.byte, .string [0x31, 0x2E, 0x30]⟩, ⟨0x20, .bytes [0xFF, 0x18]⟩]

theorem deviceFields_roundTrip_sample :
    parseTlv (ykpTlvBuilderLen (addCalls (ykpTlvBuilderInit 64) sampleCalls).1) =
        some (sampleCalls.map TlvCall.entry) ∧
      ∀ call ∈ sampleCalls, call.value.ReadBack call.entry :=
  deviceFields_roundTrip 64 (by decide) sampleCalls (by decide) (by decide)

end Ykp.System
