import Ykp.Codec.MapLookup
import Ykp.Codec.TlvReaders

/-! Payload maps of the server: which fields the device finds, and what it decodes them to. -/

namespace Ykp

open BigEndian

/-- An integer of up to 8 bits. -/
def TlvBuilder.addUInt8 (b : TlvBuilder) (type : TlvType) (val : Nat) : TlvBuilder :=
  b.add type (if val < 24 then [UInt8.ofNat val] else [0x18, UInt8.ofNat val])

/-- An integer of up to 16 bits. -/
def TlvBuilder.addUInt16 (b : TlvBuilder) (type : TlvType) (val : Nat) : TlvBuilder :=
  b.add type
    (if val < 24 then [UInt8.ofNat val]
    else if val ≤ 0xFF then [0x18, UInt8.ofNat val]
    else 0x19 :: writeU16 val)

/-- An integer of up to 64 bits, always at full width. -/
def TlvBuilder.addBigInt (b : TlvBuilder) (type : TlvType) (val : Nat) : TlvBuilder :=
  b.add type (0x1B :: (writeU32 (val / 4294967296) ++ writeU32 val))

namespace System

/-- What a field is added with on the server, each integer in the range of its function. -/
inductive ServerValue
  | uint8 (val : UInt8)
  | uint16 (val : UInt16)
  | uint32 (val : UInt32)
  | bigInt (val : UInt64)
  | string (val : JsString)
  | bytes (val : Bytes)

/-- The bytes a value is written as; an integer takes its shortest form but a big one. -/
def ServerValue.encoded : ServerValue → Bytes
  | .uint8 val => cborUintBytes val.toNat
  | .uint16 val => cborUintBytes val.toNat
  | .uint32 val => cborUintBytes val.toNat
  | .bigInt val => 0x1B :: (writeU32 (val.toNat / 4294967296) ++ writeU32 val.toNat)
  | .string val => textHead (utf8Encode val).length ++ utf8Encode val
  | .bytes val => bytesHead val.length ++ val

/-- A call that adds a field on the server; the type may be any byte. -/
structure ServerCall where
  type : UInt8
  value : ServerValue

/-- The call on a builder. -/
def ServerCall.addTo (call : ServerCall) (b : TlvBuilder) : TlvBuilder :=
  ⟨b.chunks ++ (keyBytes call.type ++ call.value.encoded)⟩

/-- The builder's own functions are calls of this form. -/
theorem serverCall_addTo_eq (b : TlvBuilder) (type : TlvType) :
    (∀ val : UInt8, b.addUInt8 type val.toNat = ServerCall.addTo ⟨type.byte, .uint8 val⟩ b) ∧
      (∀ val : UInt16, b.addUInt16 type val.toNat =
        ServerCall.addTo ⟨type.byte, .uint16 val⟩ b) ∧
      (∀ val : UInt32, b.addUInt32 type val.toNat =
        some (ServerCall.addTo ⟨type.byte, .uint32 val⟩ b)) ∧
      (∀ val : UInt64, b.addBigInt type val.toNat =
        ServerCall.addTo ⟨type.byte, .bigInt val⟩ b) ∧
      (∀ val, b.addString type val = ServerCall.addTo ⟨type.byte, .string val⟩ b) ∧
      ∀ val, b.addBytes type val = ServerCall.addTo ⟨type.byte, .bytes val⟩ b := by
  refine ⟨fun val => ?_, fun val => ?_, fun val => ?_, fun _ => rfl, fun _ => rfl, fun _ => rfl⟩
  · -- The narrow functions leave out the branches their range does not reach.
    have range := val.toNat_lt
    have bytes : cborUintBytes val.toNat =
        if val.toNat < 24 then [UInt8.ofNat val.toNat] else [0x18, UInt8.ofNat val.toNat] := by
      unfold cborUintBytes
      split_ifs <;> first | rfl | omega
    simp only [TlvBuilder.addUInt8, TlvBuilder.add, ServerCall.addTo, ServerValue.encoded, bytes]
  · have range := val.toNat_lt
    have bytes : cborUintBytes val.toNat =
        if val.toNat < 24 then [UInt8.ofNat val.toNat]
        else if val.toNat ≤ 0xFF then [0x18, UInt8.ofNat val.toNat]
        else 0x19 :: writeU16 val.toNat := by
      unfold cborUintBytes
      split_ifs <;> first | rfl | omega
    simp only [TlvBuilder.addUInt16, TlvBuilder.add, ServerCall.addTo, ServerValue.encoded, bytes]
  · have range := val.toNat_lt
    rw [addUInt32_eq, if_pos (by omega)]
    rfl

/-- The map built by calls one after the other. -/
def buildCalls (calls : List ServerCall) : Bytes :=
  (calls.foldl (fun b call => call.addTo b) TlvBuilder.new).build

/-- A string or byte argument whose length fits its one byte. -/
def ServerValue.Short : ServerValue → Prop
  | .string val => (utf8Encode val).length < 256
  | .bytes val => val.length < 256
  | _ => True

/-- The content of a string or byte field on the device, behind its header. -/
def fieldContent (buf : Memory) (tlv : YkpTlv) : Bytes :=
  if buf tlv.start &&& 0x1F < 24 then readBytes buf (tlv.start + 1) (tlv.length - 1)
  else readBytes buf (tlv.start + 2) (tlv.length - 2)

/-- The device decodes a field to what it was added with. -/
def ServerValue.DecodesAt (buf : Memory) (tlv : YkpTlv) : ServerValue → Prop
  | .uint8 val => ykpTlvReadUint32 buf tlv = some val.toNat ∧
    ykpTlvReadUint64 buf tlv = some val.toNat
  | .uint16 val => ykpTlvReadUint32 buf tlv = some val.toNat ∧
    ykpTlvReadUint64 buf tlv = some val.toNat
  | .uint32 val => ykpTlvReadUint32 buf tlv = some val.toNat ∧
    ykpTlvReadUint64 buf tlv = some val.toNat
  | .bigInt val => ykpTlvReadUint64 buf tlv = some val.toNat
  | .string val => fieldContent buf tlv = utf8Encode val
  | .bytes val => fieldContent buf tlv = val

/-- The first call that used a type. -/
def firstCall (calls : List ServerCall) (type : UInt8) : Option ServerCall :=
  calls.find? fun call => call.type == type

/-- A lookup answers with the first call that used the type, decoded, and fails without one. -/
def AnswersCall (buf : Memory) (calls : List ServerCall) (type : UInt8) : TlvLookup → Prop
  | .found tlv => ∃ call, firstCall calls type = some call ∧ tlv.type = type ∧
      call.value.DecodesAt buf tlv
  | .absent => firstCall calls type = none
  | .diverges => False

/-- Every type is looked up correctly in the map that was built, whatever memory lies behind it. -/
def Faithful (calls : List ServerCall) : Prop :=
  ∀ (beyond : Memory) (type : UInt8),
    AnswersCall (memoryOf (buildCalls calls) beyond) calls type
      (ykpTlvFind (memoryOf (buildCalls calls) beyond) (buildCalls calls).length type)

/-- A big integer at full width is a value. -/
def bigIntItem (value : Nat) : Item where
  bytes := 0x1B :: (writeU32 (value / 4294967296) ++ writeU32 value)
  complete := by
    rw [(announcedEnd_wide _).2.2.2]
    simp

/-- What is short announces its own length. -/
theorem ServerValue.item_of_short {value : ServerValue} (short : value.Short) :
    ∃ item : Item, item.bytes = value.encoded := by
  cases value with
  | uint8 val => exact ⟨uintItem val.toNat, rfl⟩
  | uint16 val => exact ⟨uintItem val.toNat, rfl⟩
  | uint32 val => exact ⟨uintItem val.toNat, rfl⟩
  | bigInt val => exact ⟨bigIntItem val.toNat, rfl⟩
  | string val => exact ⟨textItem (utf8Encode val) short, rfl⟩
  | bytes val => exact ⟨bytesItem val short, rfl⟩

/-- The bytes of a call. -/
def ServerCall.bytes (call : ServerCall) : Bytes := keyBytes call.type ++ call.value.encoded

/-- A map that was built is the bytes of its calls between the opening and the break byte. -/
theorem buildCalls_eq (calls : List ServerCall) :
    buildCalls calls = 0xBF :: (calls.flatMap ServerCall.bytes ++ [0xFF]) := by
  have general (b : TlvBuilder) : (calls.foldl (fun b call => call.addTo b) b).chunks =
      b.chunks ++ calls.flatMap ServerCall.bytes := by
    -- Each call appends its bytes to what the builder holds.
    induction calls generalizing b with
    | nil => simp
    | cons call rest ih =>
      rw [List.foldl_cons, ih, List.flatMap_cons, ← List.append_assoc]
      rfl
  simp [buildCalls, TlvBuilder.build, general, TlvBuilder.new]

/-- Calls with short arguments are fields. -/
theorem fields_of_short {calls : List ServerCall} (short : ∀ call ∈ calls, call.value.Short) :
    ∃ fields : List Field, fields.map (fun field => (field.key, field.item.bytes)) =
        calls.map (fun call => (call.type, call.value.encoded)) ∧
      fieldBytes fields = calls.flatMap ServerCall.bytes :=
  fields_of_items ServerCall.type (fun call => call.value.encoded) fun call member =>
    ServerValue.item_of_short (short call member)

/-- The first field of a key is that of the first call with the type. -/
theorem fieldFor_firstCall {fields : List Field} {calls : List ServerCall}
    (pairs : fields.map (fun field => (field.key, field.item.bytes)) =
      calls.map (fun call => (call.type, call.value.encoded))) (type : UInt8) :
    (fieldFor fields type).map (fun field => (field.key, field.item.bytes)) =
      (firstCall calls type).map fun call => (call.type, call.value.encoded) := by
  -- Both search the same pairs by their first component.
  have search := congrArg (List.find? fun pair => pair.1 == type) pairs
  rw [List.find?_map, List.find?_map] at search
  exact search

/-- A big integer is read back at full width. -/
theorem readUint64_big {bytes : Bytes} {tlv : YkpTlv} {value : Nat} (beyond : Memory)
    (at_ : ValueAt bytes (0x1B :: (writeU32 (value / 4294967296) ++ writeU32 value)) tlv.start)
    (length : tlv.length = 9) (range : value < 2 ^ 64) :
    ykpTlvReadUint64 (memoryOf bytes beyond) tlv = some value := by
  have head : memoryOf bytes beyond tlv.start = 0x1B := at_.byte beyond (Nat.zero_lt_succ _)
  have words : ValueAt bytes (writeU32 (value / 4294967296) ++ writeU32 value) (tlv.start + 1) :=
    @ValueAt.behind bytes [0x1B] _ _ at_
  have first := (ValueAt.words beyond).2 words.front
  have second := (ValueAt.words beyond).2 words.behind
  simp only [writeU32_length] at second
  have whole : value / 4294967296 % 4294967296 * 4294967296 + value % 4294967296 = value := by
    omega
  simp only [ykpTlvReadUint64, ykpTlvReadUint, head, length, first, second, whole]
  rfl

/-- An integer in its shortest form is read back by every reader that is wide enough. -/
theorem readUint_shortest {bytes : Bytes} {tlv : YkpTlv} {value : Nat} (beyond : Memory)
    (at_ : ValueAt bytes (cborUintBytes value) tlv.start)
    (length : tlv.length = (cborUintBytes value).length) (range : value < 2 ^ 32) :
    ykpTlvReadUint32 (memoryOf bytes beyond) tlv = some value ∧
      ykpTlvReadUint64 (memoryOf bytes beyond) tlv = some value := by
  have written : readBytes (memoryOf bytes beyond) tlv.start tlv.length = cborUintBytes value := by
    rw [at_.readBytes beyond (Nat.le_of_eq length), length, List.take_length]
  have wide : value < 2 ^ 64 := by omega
  obtain ⟨-, -, four, eight⟩ := ykpTlvReadUint_iff written wide
  rw [if_pos range] at four
  rw [if_pos wide] at eight
  exact ⟨four, eight⟩

/-- A string header: one byte that holds the length, or a marker and a byte for the length. -/
def StringHead (head : Bytes) : Prop :=
  (∃ first, head = [first] ∧ first &&& 0x1F < 24) ∨
    ∃ marker size, head = [marker, size] ∧ ¬ marker &&& 0x1F < 24

/-- Byte strings and text strings have headers of this form. -/
theorem stringHead (length : Nat) :
    StringHead (bytesHead length) ∧ StringHead (textHead length) := by
  unfold bytesHead textHead
  split
  · rename_i tiny
    obtain ⟨⟨-, bytesInfo⟩, ⟨-, textInfo⟩, small⟩ := shortHead tiny
    exact ⟨.inl ⟨_, rfl, bytesInfo.symm ▸ small⟩, .inl ⟨_, rfl, textInfo.symm ▸ small⟩⟩
  · exact ⟨.inr ⟨_, _, rfl, by decide⟩, .inr ⟨_, _, rfl, by decide⟩⟩

/-- The content behind a string header is read back. -/
theorem fieldContent_behind {bytes head content : Bytes} {tlv : YkpTlv} (beyond : Memory)
    (shape : StringHead head) (at_ : ValueAt bytes (head ++ content) tlv.start)
    (length : tlv.length = (head ++ content).length) :
    fieldContent (memoryOf bytes beyond) tlv = content := by
  have read := at_.behind.readBytes beyond (Nat.le_refl content.length)
  rw [List.length_append] at length
  -- The device tells the two forms apart by the low bits of the first byte.
  obtain ⟨first, rfl, small⟩ | ⟨marker, size, rfl, large⟩ := shape
  · have head : memoryOf bytes beyond tlv.start = first := at_.byte beyond (Nat.zero_lt_succ _)
    rw [fieldContent, head, if_pos small, length, List.length_singleton, Nat.add_sub_cancel_left]
    simpa using read
  · have head : memoryOf bytes beyond tlv.start = marker := at_.byte beyond (Nat.zero_lt_succ _)
    rw [fieldContent, head, if_neg large, length]
    simpa using read

/-- A short value is decoded wherever it stands. -/
theorem ServerValue.decodesAt {value : ServerValue} {bytes : Bytes} {tlv : YkpTlv}
    (beyond : Memory) (at_ : ValueAt bytes value.encoded tlv.start)
    (length : tlv.length = value.encoded.length) :
    value.DecodesAt (memoryOf bytes beyond) tlv := by
  -- The narrow integers take the same forms, and both readers are wide enough for them.
  cases value with
  | uint8 val =>
    have range := val.toNat_lt
    exact readUint_shortest beyond at_ length (by omega)
  | uint16 val =>
    have range := val.toNat_lt
    exact readUint_shortest beyond at_ length (by omega)
  | uint32 val =>
    exact readUint_shortest beyond at_ length val.toNat_lt
  | bigInt val => exact readUint64_big beyond at_ length val.toNat_lt
  | string val => exact fieldContent_behind beyond (stringHead _).2 at_ length
  | bytes val => exact fieldContent_behind beyond (stringHead _).1 at_ length

/-- With short arguments only, every type is looked up correctly. -/
theorem faithful_of_short {calls : List ServerCall} (fits : (buildCalls calls).length ≤ 512)
    (short : ∀ call ∈ calls, call.value.Short) : Faithful calls := by
  intro beyond type
  obtain ⟨fields, pairs, written⟩ := fields_of_short short
  have map : buildCalls calls = mapBytes fields := by
    rw [buildCalls_eq, mapBytes, written]
  have first := fieldFor_firstCall pairs type
  rw [map] at fits ⊢
  have looks := ykpTlvFind_map fields type beyond (by omega)
  cases outcome : ykpTlvFind (memoryOf (mapBytes fields) beyond) (mapBytes fields).length type with
  | found tlv =>
    rw [outcome] at looks
    obtain ⟨field, named, sameType, length, at_⟩ := looks
    rw [named, Option.map_some] at first
    -- The field that was found is that of the first call.
    obtain ⟨call, called, pair⟩ := Option.map_eq_some_iff.mp first.symm
    have value : call.value.encoded = field.item.bytes := congrArg Prod.snd pair
    exact ⟨call, called, sameType, ServerValue.decodesAt beyond (value ▸ at_) (value ▸ length)⟩
  | absent =>
    rw [outcome] at looks
    rw [show fieldFor fields type = none from looks, Option.map_none] at first
    exact Option.map_eq_none_iff.mp first.symm
  | diverges =>
    rw [outcome] at looks
    exact looks.elim

/-- Behind either marker of a string, the next byte announces its length. -/
theorem announcedEnd_marker (size : UInt8) (rest : Bytes) :
    announcedEnd (byteAt (0x58 :: size :: rest)) 0 = 2 + size.toNat ∧
      announcedEnd (byteAt (0x78 :: size :: rest)) 0 = 2 + size.toNat := by
  constructor
  · have head : byteAt (0x58 :: size :: rest) 0 = 0x58 := rfl
    have next : byteAt (0x58 :: size :: rest) (0 + 1) = size := rfl
    simp only [announcedEnd, head, next, longHead.1.1, longHead.1.2]
    rfl
  · have head : byteAt (0x78 :: size :: rest) 0 = 0x78 := rfl
    have next : byteAt (0x78 :: size :: rest) (0 + 1) = size := rfl
    simp only [announcedEnd, head, next, longHead.2.1, longHead.2.2]
    rfl

/-- Behind a marker the device takes as much of the content as the low byte of its length says. -/
theorem cut_behind {marker : UInt8} (announces : ∀ (size : UInt8) (rest : Bytes),
      announcedEnd (byteAt (marker :: size :: rest)) 0 = 2 + size.toNat) (content : Bytes) :
    ∃ (item : Item) (leftover : Bytes),
      [marker, UInt8.ofNat content.length] ++ content = item.bytes ++ leftover ∧
        item.bytes.length = 2 + content.length % 256 := by
  have within := Nat.mod_le content.length 256
  -- The value the device sees ends where the low byte says.
  have width : ([marker, UInt8.ofNat content.length] ++
      content.take (content.length % 256)).length = 2 + content.length % 256 := by
    simp only [List.length_append, List.length_cons, List.length_nil, List.length_take]
    omega
  refine ⟨⟨_, ?_⟩, content.drop (content.length % 256), ?_, width⟩
  · rw [width]
    exact (announces _ _).trans (by simp)
  · rw [List.append_assoc, List.take_append_drop]

/-- What the device takes for a string or byte argument whose length does not fit its byte: the
length modulo 256. -/
theorem cut_of_long {value : ServerValue} (long : ¬ value.Short) :
    ∃ (content : Bytes) (item : Item) (leftover : Bytes),
      value.encoded = item.bytes ++ leftover ∧ item.bytes.length = 2 + content.length % 256 ∧
      256 ≤ content.length ∧ content.length + 2 = value.encoded.length ∧
      ∀ buf tlv, value.DecodesAt buf tlv → fieldContent buf tlv = content := by
  -- Only strings and bytes can be long; a marker with a single byte of length stands in front.
  cases value with
  | string val =>
    have large : 256 ≤ (utf8Encode val).length := by simpa [ServerValue.Short] using long
    have head : textHead (utf8Encode val).length =
        [0x78, UInt8.ofNat (utf8Encode val).length] := if_neg (by omega)
    obtain ⟨item, leftover, cut, width⟩ :=
      cut_behind (fun size rest => (announcedEnd_marker size rest).2) (utf8Encode val)
    refine ⟨utf8Encode val, item, leftover, ?_, width, large, ?_, fun _ _ decoded => decoded⟩
    · rw [ServerValue.encoded, head, cut]
    · simp [ServerValue.encoded, head]
  | bytes val =>
    have large : 256 ≤ val.length := by simpa [ServerValue.Short] using long
    have head : bytesHead val.length = [0x58, UInt8.ofNat val.length] := if_neg (by omega)
    obtain ⟨item, leftover, cut, width⟩ :=
      cut_behind (fun size rest => (announcedEnd_marker size rest).1) val
    refine ⟨val, item, leftover, ?_, width, large, ?_, fun _ _ decoded => decoded⟩
    · rw [ServerValue.encoded, head, cut]
    · simp [ServerValue.encoded, head]
  | _ => exact absurd trivial long

/-- A long argument that is the first of its type is not decoded. -/
theorem not_faithful_of_long {before after : List ServerCall} {call : ServerCall}
    (fits : (buildCalls (before ++ call :: after)).length ≤ 512)
    (first : ∀ earlier ∈ before, earlier.type ≠ call.type) (long : ¬ call.value.Short) :
    ¬ Faithful (before ++ call :: after) := by
  intro faithful
  obtain ⟨content, item, leftover, encoded, width, large, whole, decodes⟩ := cut_of_long long
  have layout := buildCalls_eq (before ++ call :: after)
  rw [List.flatMap_append, List.flatMap_cons] at layout
  have size := congrArg List.length layout
  have own : call.bytes.length = (keyBytes call.type).length + call.value.encoded.length := by
    simp [ServerCall.bytes]
  simp only [List.length_cons, List.length_append] at size
  -- The packet has no room for a second long argument, so everything in front is well formed.
  have short : ∀ earlier ∈ before, earlier.value.Short := by
    intro earlier member
    by_contra alsoLong
    obtain ⟨other, -, -, -, -, large', whole', -⟩ := cut_of_long alsoLong
    have within : earlier.bytes.length ≤ (before.flatMap ServerCall.bytes).length :=
      (List.sublist_flatten_of_mem (List.mem_map_of_mem member)).length_le
    have theirs : earlier.bytes.length =
        (keyBytes earlier.type).length + earlier.value.encoded.length := by
      simp [ServerCall.bytes]
    omega
  obtain ⟨fields, pairs, written⟩ := fields_of_short short
  -- The long argument is a field with a shorter value, and what is left of its content.
  let field : Field := ⟨call.type, item⟩
  let tail := leftover ++ (after.flatMap ServerCall.bytes ++ [0xFF])
  have bytes : buildCalls (before ++ call :: after) =
      [0xBF] ++ (fieldBytes fields ++ (field.bytes ++ tail)) := by
    rw [layout, ← written]
    simp [field, tail, Field.bytes, ServerCall.bytes, encoded]
  have apart : ∀ other ∈ fields, other.key ≠ call.type := by
    intro other member same
    have pair := pairs ▸ List.mem_map_of_mem (f := fun field : Field =>
      (field.key, field.item.bytes)) member
    obtain ⟨earlier, among, equal⟩ := List.mem_map.mp pair
    exact first earlier among ((congrArg Prod.fst equal).trans same)
  -- The device takes the cut value for the whole one.
  have finds := ykpTlvFind_behind (fun _ => 0) bytes apart (Nat.le_trans fits (by decide))
  have answers := faithful (fun _ => 0) call.type
  rw [show call.type = field.key from rfl, finds] at answers
  obtain ⟨found, named, -, decoded⟩ := answers
  -- The first call of the type is the long one, and its content does not fit what was found.
  have same : firstCall (before ++ call :: after) call.type = some call := by
    have none : firstCall before call.type = none := by
      simpa [firstCall] using first
    unfold firstCall at none ⊢
    rw [List.find?_append, none, Option.none_or, List.find?_cons_of_pos (by simp)]
  obtain rfl := Option.some.inj (same.symm.trans named)
  have content_ := congrArg List.length (decodes _ _ decoded)
  have modulo := Nat.mod_lt content.length (show 0 < 256 by decide)
  have cut : field.item.bytes.length = 2 + content.length % 256 := width
  unfold fieldContent at content_
  split at content_
  · simp only [readBytes_length, cut] at content_
    omega
  · simp only [readBytes_length, cut] at content_
    omega

/-- Every call that is the first of its type comes behind calls of other types. -/
theorem firstCall_split {calls : List ServerCall} {call : ServerCall}
    (first : firstCall calls call.type = some call) :
    ∃ before after, calls = before ++ call :: after ∧
      ∀ earlier ∈ before, earlier.type ≠ call.type := by
  obtain ⟨-, before, after, rfl, others⟩ := List.find?_eq_some_iff_append.mp first
  exact ⟨before, after, rfl, fun earlier member => by simpa using others earlier member⟩

/-- A map of at most 512 bytes is looked up correctly for every type when each string or byte
argument takes at most 255 bytes, and only when each that is the first of its type does. -/
theorem serverFields_faithful (calls : List ServerCall)
    (fits : (buildCalls calls).length ≤ ykpStaticPayloadBuf) :
    ((∀ call ∈ calls, call.value.Short) → Faithful calls) ∧
      (Faithful calls → ∀ call, firstCall calls call.type = some call → call.value.Short) := by
  refine ⟨faithful_of_short fits, fun faithful call first => ?_⟩
  obtain ⟨before, after, rfl, others⟩ := firstCall_split first
  by_contra long
  exact not_faithful_of_long fits others long faithful

/-- A text and a number. -/
def sampleServerCalls : List ServerCall :=
  [⟨TlvType.firmwareVer.byte, .string [0x31, 0x2E, 0x33]⟩,
    ⟨TlvType.timestamp.byte, .bigInt 1700000000000⟩]

theorem serverFields_faithful_sample : Faithful sampleServerCalls :=
  (serverFields_faithful sampleServerCalls (by decide +kernel)).1 (by
    intro call member
    rcases List.mem_cons.mp member with rfl | member
    · exact (show (utf8Encode [0x31, 0x2E, 0x33]).length < 256 by decide)
    · rw [List.mem_singleton.mp member]
      trivial)

/-- Three hundred bytes, and a number behind them. -/
def longServerCalls : List ServerCall :=
  [⟨TlvType.chunkData.byte, .bytes (List.replicate 300 0)⟩, ⟨TlvType.valueInt.byte, .uint8 7⟩]

set_option maxRecDepth 4000 in
/-- The long argument is cut, although the whole map fits the device's buffer. -/
theorem longServerCalls_cut :
    (buildCalls longServerCalls).length ≤ ykpStaticPayloadBuf ∧ ¬ Faithful longServerCalls := by
  refine ⟨by decide +kernel, fun faithful => ?_⟩
  have answers := faithful (fun _ => 0) TlvType.chunkData.byte
  have found : ykpTlvFind (memoryOf (buildCalls longServerCalls) fun _ => 0)
      (buildCalls longServerCalls).length TlvType.chunkData.byte =
        .found ⟨TlvType.chunkData.byte, 46, 2⟩ := by decide +kernel
  rw [found] at answers
  obtain ⟨call, first, -, decoded⟩ := answers
  obtain rfl := Option.some.inj ((show firstCall longServerCalls TlvType.chunkData.byte =
    some ⟨TlvType.chunkData.byte, .bytes (List.replicate 300 0)⟩ from rfl).symm.trans first)
  -- Forty-four bytes are found for three hundred.
  have size := congrArg List.length (show fieldContent _ _ = List.replicate 300 0 from decoded)
  unfold fieldContent at size
  split at size
  · rw [readBytes_length, List.length_replicate] at size
    exact absurd size (by decide)
  · rw [readBytes_length, List.length_replicate] at size
    exact absurd size (by decide)

end System

end Ykp
