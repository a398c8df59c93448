import Ykp.Codec.DevicePacket
import Ykp.Codec.ServerPacket

/-! Both parsers walk a well-formed payload map field by field and find the first field of a key. -/

namespace Ykp

open BigEndian

/-- The device skips the announced value, in 16 bits. -/
theorem ykpTlvSkip_mod {buf : Memory} {valStart : Nat} (small : valStart + 1 < 65536) :
    ykpTlvSkip buf valStart = announcedEnd buf valStart % 65536 := by
  -- Behind the header byte each step wraps, and it makes no difference when.
  have first : (valStart + 1) % 65536 = valStart + 1 := Nat.mod_eq_of_lt small
  simp only [ykpTlvSkip, announcedEnd, first, apply_ite (· % 65536), Nat.mod_add_mod]

/-- While the 16-bit cursor does not wrap, the device skips exactly the announced value. -/
theorem ykpTlvSkip_eq {buf : Memory} {valStart : Nat}
    (small : announcedEnd buf valStart < 65536) :
    ykpTlvSkip buf valStart = announcedEnd buf valStart := by
  -- The value starts below its end, so the first step does not wrap either.
  have first := start_lt_announcedEnd buf valStart
  rw [ykpTlvSkip_mod (by omega), Nat.mod_eq_of_lt small]

/-- While a value ends inside the buffer, the server skips exactly the announced value. -/
theorem parseTlvSkip_eq {buf : Bytes} {valStart : Nat}
    (inside : announcedEnd (byteAt buf) valStart ≤ buf.length) :
    parseTlvSkip buf valStart = .index (announcedEnd (byteAt buf) valStart) := by
  -- Only a string has length bytes that are checked.
  by_cases string : byteAt buf valStart &&& 0xE0 = 0x40 ∨ byteAt buf valStart &&& 0xE0 = 0x60
  · -- They lie in front of the announced end, so no read misses the buffer.
    have one (marker : byteAt buf valStart &&& 0x1F = 0x18) : valStart + 1 < buf.length :=
      Nat.lt_of_lt_of_le ((lengths_lt_announcedEnd string).1 marker) inside
    have two (marker : byteAt buf valStart &&& 0x1F = 0x19) : valStart + 1 + 1 < buf.length :=
      Nat.lt_of_lt_of_le ((lengths_lt_announcedEnd string).2 marker) inside
    simp +contextual only [parseTlvSkip, announcedEnd, apply_ite ValueEnd.index,
      string_not_integer string, string, one, two, if_true, if_false]
  · simp only [parseTlvSkip, announcedEnd, apply_ite ValueEnd.index, string, if_false]

/-- A key is written as one or two bytes, the first below 24 or the marker. -/
theorem keyBytes_cases (key : UInt8) :
    (key < 24 ∧ keyBytes key = [key]) ∨ (¬ key < 24 ∧ keyBytes key = [0x18, key]) := by
  by_cases small : key < 24
  · exact .inl ⟨small, if_pos small⟩
  · exact .inr ⟨small, if_neg small⟩

/-- So it takes at least a byte. -/
theorem keyBytes_eq_cons (key : UInt8) : ∃ first rest, keyBytes key = first :: rest := by
  rcases keyBytes_cases key with ⟨-, written⟩ | ⟨-, written⟩
  · exact ⟨_, _, written⟩
  · exact ⟨_, _, written⟩

/-- The first bytes behind a front part. -/
theorem memoryOf_front (front : Bytes) (byte : UInt8) (back : Bytes) (beyond : Memory) :
    memoryOf (front ++ byte :: back) beyond front.length = byte := by
  simp [memoryOf]

/-- The bytes in front of a value, the value, and the bytes behind it. -/
structure ValueAt (bytes value : Bytes) (start : Nat) : Prop where
  split : ∃ before after, bytes = before ++ (value ++ after) ∧ before.length = start

/-- Reading from the start of a value gives its first bytes. -/
theorem ValueAt.readBytes {bytes value : Bytes} {start : Nat} (at_ : ValueAt bytes value start)
    (beyond : Memory) {count : Nat} (within : count ≤ value.length) :
    readBytes (memoryOf bytes beyond) start count = value.take count := by
  obtain ⟨before, after, rfl, rfl⟩ := at_.split
  -- The value itself splits into the bytes read and the rest.
  have read := readBytes_middle before (value.take count) (value.drop count ++ after) beyond
  rw [← List.append_assoc (value.take count), List.take_append_drop, List.length_take,
    Nat.min_eq_left within] at read
  exact read

/-- A byte inside a value. -/
theorem ValueAt.byte {bytes value : Bytes} {start : Nat} (at_ : ValueAt bytes value start)
    (beyond : Memory) {index : Nat} (inside : index < value.length) :
    memoryOf bytes beyond (start + index) = value[index] := by
  obtain ⟨before, after, rfl, rfl⟩ := at_.split
  rw [memoryOf_append, memoryOf_inside _ (by simp; omega), List.getElem_append_left inside]

/-- The first part of a value stands where the value does. -/
theorem ValueAt.front {bytes front back : Bytes} {start : Nat}
    (at_ : ValueAt bytes (front ++ back) start) : ValueAt bytes front start := by
  obtain ⟨before, after, rfl, rfl⟩ := at_.split
  exact ⟨before, back ++ after, by rw [List.append_assoc], rfl⟩

/-- The rest of a value stands behind its first part. -/
theorem ValueAt.behind {bytes front back : Bytes} {start : Nat}
    (at_ : ValueAt bytes (front ++ back) start) :
    ValueAt bytes back (start + front.length) := by
  obtain ⟨before, after, rfl, rfl⟩ := at_.split
  exact ⟨before ++ front, after, by simp only [List.append_assoc], by simp⟩

/-- Words that stand as a value are read back. -/
theorem ValueAt.words {bytes : Bytes} {start value : Nat} (beyond : Memory) :
    (ValueAt bytes (writeU16 value) start →
      readU16 (memoryOf bytes beyond) start = value % 65536) ∧
    (ValueAt bytes (writeU32 value) start →
      readU32 (memoryOf bytes beyond) start = value % 4294967296) := by
  constructor
  · rintro ⟨before, after, rfl, rfl⟩
    exact readU16_written before after value beyond
  · rintro ⟨before, after, rfl, rfl⟩
    exact readU32_written before after value beyond

/-- What a lookup of a key among fields has to answer: the first field filed under it. -/
def LooksUp (bytes : Bytes) (fields : List Field) (type : UInt8) : TlvLookup → Prop
  | .found tlv => ∃ field, fieldFor fields type = some field ∧ tlv.type = type ∧
      tlv.length = field.item.bytes.length ∧ ValueAt bytes field.item.bytes tlv.start
  | .absent => fieldFor fields type = none
  | .diverges => False

/-- Where the value of a field starts: behind its key, or behind the marker and the key. -/
def fieldValue (buf : Memory) (i : Nat) : Nat :=
  if buf i < 24 then (i + 1) % 65536 else ((i + 1) % 65536 + 1) % 65536

/-- The key of a field. -/
def fieldKey (buf : Memory) (i : Nat) : UInt8 :=
  if buf i < 24 then buf i else buf ((i + 1) % 65536)

/-- The walk reads a field at an index: neither the end, nor a break, nor anything but a key. -/
def FieldAt (buf : Memory) (bufLen : Nat) (indefinite : Bool) (i : Nat) : Prop :=
  i < bufLen ∧ ¬ (indefinite ∧ buf i = 0xFF) ∧ (buf i < 24 ∨ buf i = 0x18)

instance (buf : Memory) (bufLen : Nat) (indefinite : Bool) (i : Nat) :
    Decidable (FieldAt buf bufLen indefinite i) :=
  inferInstanceAs (Decidable (_ ∧ _))

/-- One iteration of the loop. -/
theorem ykpTlvFindLoop_succ (buf : Memory) (bufLen : Nat) (type : UInt8) (indefinite : Bool)
    (fuel i : Nat) :
    ykpTlvFindLoop buf bufLen type indefinite (fuel + 1) i =
      if ¬ FieldAt buf bufLen indefinite i then .absent
      else if fieldKey buf i = type then
        .found ⟨fieldKey buf i,
          (ykpTlvSkip buf (fieldValue buf i) + 65536 - fieldValue buf i) % 65536, fieldValue buf i⟩
      else ykpTlvFindLoop buf bufLen type indefinite fuel (ykpTlvSkip buf (fieldValue buf i)) := by
  unfold FieldAt
  simp only [ykpTlvFindLoop, fieldKey, fieldValue]
  -- The three ways to end the walk, in the order of the code.
  by_cases inside : i < bufLen
  · by_cases broken : indefinite ∧ buf i = 0xFF
    · simp [inside, broken]
    · by_cases keyed : buf i < 24 ∨ buf i = 0x18
      · simp only [inside, broken, keyed, not_true_eq_false, not_false_eq_true, and_self, if_false]
        rfl
      · simp only [inside, broken, keyed, not_true_eq_false, not_false_eq_true, and_false, if_false,
          if_true]
  · simp only [inside, not_false_eq_true, false_and, if_true]

/-- Behind a front part a key is read, and its value behind it. -/
theorem field_of_key (front rest : Bytes) (key : UInt8) (beyond : Memory) {bufLen : Nat}
    (indefinite : Bool) (inside : front.length < bufLen)
    (small : front.length + (keyBytes key).length < 65536) :
    FieldAt (memoryOf (front ++ (keyBytes key ++ rest)) beyond) bufLen indefinite front.length ∧
      fieldKey (memoryOf (front ++ (keyBytes key ++ rest)) beyond) front.length = key ∧
      fieldValue (memoryOf (front ++ (keyBytes key ++ rest)) beyond) front.length =
        front.length + (keyBytes key).length := by
  unfold FieldAt fieldKey fieldValue
  -- The key alone, or the marker and the key.
  rcases keyBytes_cases key with ⟨tiny, written⟩ | ⟨large, written⟩
  · rw [written] at small ⊢
    have here := memoryOf_front front key rest beyond
    have notBreak : key ≠ 0xFF := by
      intro same
      rw [same] at tiny
      exact absurd tiny (by decide)
    rw [List.length_singleton] at small
    simp only [List.singleton_append, here, inside, tiny, notBreak, and_false, not_false_eq_true,
      true_or, and_self, if_true, List.length_singleton, true_and]
    exact Nat.mod_eq_of_lt small
  · rw [written] at small ⊢
    have here := memoryOf_front front 0x18 (key :: rest) beyond
    have next := memoryOf_front (front ++ [0x18]) key rest beyond
    have marker : ¬ ((0x18 : UInt8) < 24) ∧ (0x18 : UInt8) ≠ 0xFF := by decide
    rw [List.append_assoc, List.length_append, List.length_singleton] at next
    simp only [List.length_cons, List.length_nil] at small ⊢
    have second : (front.length + 1) % 65536 = front.length + 1 := by omega
    simp only [List.cons_append, List.nil_append] at next ⊢
    simp only [here, inside, marker.1, marker.2, and_false, not_false_eq_true, or_true, and_self,
      if_false, second, next, true_and]
    omega

/-- One field of a map under the device's walk: it is found, or the walk goes on behind it. -/
theorem ykpTlvFindLoop_field (field : Field) (front tail : Bytes) {beyond : Memory}
    {bufLen : Nat} {type : UInt8} {fuel : Nat}
    (room : front.length + field.bytes.length ≤ bufLen) (small : bufLen ≤ 65535) :
    ykpTlvFindLoop (memoryOf (front ++ (field.bytes ++ tail)) beyond) bufLen type true (fuel + 1)
        front.length =
      if field.key = type then
        .found ⟨field.key, field.item.bytes.length, front.length + (keyBytes field.key).length⟩
      else
        ykpTlvFindLoop (memoryOf (front ++ (field.bytes ++ tail)) beyond) bufLen type true fuel
          (front.length + field.bytes.length) := by
  -- The same bytes seen as key, value and rest.
  have layout : front ++ (field.bytes ++ tail) =
      (front ++ keyBytes field.key) ++ (field.item.bytes ++ tail) := by simp [Field.bytes]
  have ended := field.item.announcedEnd_at (front ++ keyBytes field.key) tail beyond
  rw [← layout, List.length_append] at ended
  have positive := field.length_pos
  have inside : front.length < bufLen := by omega
  simp only [Field.bytes, List.length_append] at room
  have skipped := ykpTlvSkip_eq (show announcedEnd _ _ < 65536 by rw [ended]; omega)
  rw [ended] at skipped
  have behind : front.length + field.bytes.length =
      front.length + (keyBytes field.key).length + field.item.bytes.length := by
    simp only [Field.bytes, List.length_append, Nat.add_assoc]
  have width : (front.length + (keyBytes field.key).length + field.item.bytes.length + 65536 -
      (front.length + (keyBytes field.key).length)) % 65536 = field.item.bytes.length := by omega
  rw [behind]
  obtain ⟨here, key, value⟩ := field_of_key front (field.item.bytes ++ tail) field.key beyond true
    inside (show front.length + (keyBytes field.key).length < 65536 by omega)
  rw [← List.append_assoc front, ← layout] at here key value
  rw [ykpTlvFindLoop_succ, if_neg (not_not.mpr here), key, value, skipped, width]

/-- The device walks past fields of other types. -/
theorem ykpTlvFindLoop_skip (fields : List Field) (front tail : Bytes) {beyond : Memory}
    {bufLen : Nat} {type : UInt8} {fuel : Nat} (other : ∀ field ∈ fields, field.key ≠ type)
    (room : front.length + (fieldBytes fields).length ≤ bufLen) (small : bufLen ≤ 65535) :
    ykpTlvFindLoop (memoryOf (front ++ (fieldBytes fields ++ tail)) beyond) bufLen type true
        (fuel + fields.length) front.length =
      ykpTlvFindLoop (memoryOf (front ++ (fieldBytes fields ++ tail)) beyond) bufLen type true
        fuel (front.length + (fieldBytes fields).length) := by
  -- Each field becomes part of the front.
  induction fields generalizing front with
  | nil => rfl
  | cons field rest ih =>
    simp only [fieldBytes_cons, List.length_append] at room
    have tail := @ih (front ++ field.bytes)
      (fun next member => other next (List.mem_cons_of_mem _ member))
      (by simp only [List.length_append]; omega)
    simp only [List.length_append, List.append_assoc] at tail
    rw [fieldBytes_cons, List.append_assoc, List.length_cons, ← Nat.add_assoc,
      ykpTlvFindLoop_field field front _ (by omega) small,
      if_neg (other field List.mem_cons_self), tail, List.length_append, Nat.add_assoc]

/-- The device finds the first field of a type behind fields of others, whatever comes after it. -/
theorem ykpTlvFind_behind {fields : List Field} {field : Field} {bytes tail : Bytes}
    (beyond : Memory) (layout : bytes = [0xBF] ++ (fieldBytes fields ++ (field.bytes ++ tail)))
    (apart : ∀ other ∈ fields, other.key ≠ field.key) (small : bytes.length ≤ 65535) :
    ykpTlvFind (memoryOf bytes beyond) bytes.length field.key =
      .found ⟨field.key, field.item.bytes.length,
        1 + (fieldBytes fields).length + (keyBytes field.key).length⟩ := by
  have total := congrArg List.length layout
  simp only [List.length_append, List.length_singleton] at total
  have count := fieldBytes_length fields
  have positive := field.length_pos
  obtain ⟨fuel, enough⟩ : ∃ fuel, bytes.length + 1 = fuel + 1 + fields.length :=
    ⟨bytes.length - fields.length, by omega⟩
  -- The walk comes past everything in front.
  have walked := @ykpTlvFindLoop_skip fields [0xBF] (field.bytes ++ tail) beyond bytes.length
    field.key (fuel + 1) apart (by simp only [List.length_singleton]; omega) small
  have here := @ykpTlvFindLoop_field field ([0xBF] ++ fieldBytes fields) tail beyond bytes.length
    field.key fuel (by simp only [List.length_append, List.length_singleton]; omega) small
  rw [List.append_assoc, ← layout, if_pos rfl, List.length_append] at here
  rw [← layout, here, List.length_singleton] at walked
  have opening : memoryOf bytes beyond 0 = 0xBF := by
    rw [layout]
    rfl
  unfold ykpTlvFind
  rw [if_neg (by omega), opening, if_pos rfl, enough, walked]

/-- The device's walk over the fields of a map answers the lookup. -/
theorem ykpTlvFindLoop_fields (fields : List Field) (front back : Bytes) {beyond : Memory}
    {bufLen : Nat} {type : UInt8} {fuel : Nat} (enough : fields.length < fuel)
    (room : front.length + (fieldBytes fields).length < bufLen) (small : bufLen ≤ 65535) :
    LooksUp (front ++ (fieldBytes fields ++ 0xFF :: back)) fields type
      (ykpTlvFindLoop (memoryOf (front ++ (fieldBytes fields ++ 0xFF :: back)) beyond) bufLen
        type true fuel front.length) := by
  -- Each field takes one unit of fuel and becomes part of the front.
  induction fields generalizing front fuel with
  | nil =>
    obtain ⟨fuel, rfl⟩ : ∃ rest, fuel = rest + 1 := ⟨fuel - 1, by simp at enough; omega⟩
    have here := memoryOf_front front 0xFF back beyond
    simp only [fieldBytes_nil, List.length_nil, Nat.add_zero] at room
    simp only [fieldBytes_nil, List.nil_append, ykpTlvFindLoop, here, room, not_true_eq_false,
      if_false, and_self, if_true]
    exact rfl
  | cons field rest ih =>
    obtain ⟨fuel, rfl⟩ : ∃ rest, fuel = rest + 1 := ⟨fuel - 1, by omega⟩
    simp only [List.length_cons] at enough
    simp only [fieldBytes_cons, List.length_append] at room
    have tail := @ih (front ++ field.bytes) fuel (by omega)
      (by simp only [List.length_append]; omega)
    rw [fieldBytes_cons, List.append_assoc,
      ykpTlvFindLoop_field field front _ (by omega) small]
    simp only [List.length_append, List.append_assoc] at tail
    by_cases same : field.key = type
    · rw [if_pos same]
      exact ⟨field, by simp [fieldFor, same], same, rfl,
        ⟨front ++ keyBytes field.key, fieldBytes rest ++ 0xFF :: back,
          by simp [Field.bytes], by simp⟩⟩
    · rw [if_neg same]
      -- The first field has another key, so the lookup is that of the rest.
      have skip : fieldFor (field :: rest) type = fieldFor rest type := by
        simp [fieldFor, same]
      unfold LooksUp at tail ⊢
      rw [skip]
      exact tail

/-- The device's lookup in a payload map of at most 65535 bytes finds the first field of a key. -/
theorem ykpTlvFind_map (fields : List Field) (type : UInt8) (beyond : Memory)
    (small : (mapBytes fields).length ≤ 65535) :
    LooksUp (mapBytes fields) fields type
      (ykpTlvFind (memoryOf (mapBytes fields) beyond) (mapBytes fields).length type) := by
  have opening : memoryOf (mapBytes fields) beyond 0 = 0xBF := rfl
  have length : (mapBytes fields).length = (fieldBytes fields).length + 2 := by simp [mapBytes]
  have count := fieldBytes_length fields
  have walk : LooksUp (mapBytes fields) fields type
      (ykpTlvFindLoop (memoryOf (mapBytes fields) beyond) (mapBytes fields).length type true
        ((mapBytes fields).length + 1) 1) :=
    ykpTlvFindLoop_fields fields [0xBF] [] (by omega) (by simp [length]; omega) small
  unfold ykpTlvFind
  rw [if_neg (by omega)]
  simp only [opening, if_true]
  exact walk

/-- A field that a map holds is found by the device, and its value can be read from there. -/
theorem ykpTlvFind_found {fields : List Field} {type : UInt8} {field : Field}
    (found : fieldFor fields type = some field) (beyond : Memory)
    (small : (mapBytes fields).length ≤ 65535) :
    ∃ tlv, ykpTlvFind (memoryOf (mapBytes fields) beyond) (mapBytes fields).length type =
        .found tlv ∧
      tlv.length = field.item.bytes.length ∧
      ∀ count ≤ field.item.bytes.length,
        readBytes (memoryOf (mapBytes fields) beyond) tlv.start count =
          field.item.bytes.take count := by
  have looks := ykpTlvFind_map fields type beyond small
  -- The other two outcomes contradict that the map holds the field.
  cases outcome : ykpTlvFind (memoryOf (mapBytes fields) beyond) (mapBytes fields).length type with
  | found tlv =>
    rw [outcome] at looks
    obtain ⟨other, named, -, size, at_⟩ := looks
    obtain rfl := Option.some.inj (found.symm.trans named)
    exact ⟨tlv, rfl, size, fun count within => at_.readBytes beyond within⟩
  | absent =>
    rw [outcome] at looks
    exact absurd (found.symm.trans looks) (by simp)
  | diverges =>
    rw [outcome] at looks
    exact looks.elim

/-- A field as the server parses it. -/
def Field.entry (field : Field) : TlvEntry :=
  ⟨some field.key, field.item.bytes.length, field.item.bytes⟩

/-- One field of a map under the server's walk: it is listed and the walk goes on behind it. -/
private theorem parseTlvLoop_field (field : Field) (front tail : Bytes) {fuel : Nat} :
    parseTlvLoop (front ++ (field.bytes ++ tail)) true (fuel + 1) front.length =
      (parseTlvLoop (front ++ (field.bytes ++ tail)) true fuel
        (front.length + field.bytes.length)).map (field.entry :: ·) := by
  -- The same bytes seen as key, value and rest.
  have layout : front ++ (field.bytes ++ tail) =
      (front ++ keyBytes field.key) ++ (field.item.bytes ++ tail) := by simp [Field.bytes]
  have ended := field.item.announcedEnd_at (front ++ keyBytes field.key) tail fun _ => 0
  have positive := field.length_pos
  have length : (front ++ (field.bytes ++ tail)).length =
      front.length + (field.bytes.length + tail.length) := by simp
  have width : field.bytes.length = (keyBytes field.key).length + field.item.bytes.length := by
    simp [Field.bytes]
  rw [← layout, List.length_append] at ended
  have within : announcedEnd (byteAt (front ++ (field.bytes ++ tail)))
      (front.length + (keyBytes field.key).length) ≤
      (front ++ (field.bytes ++ tail)).length := by
    rw [byteAt, ended, length, width]
    omega
  have skipped := parseTlvSkip_eq within
  rw [byteAt, ended] at skipped
  have entry : tlvEntryAt (front ++ (field.bytes ++ tail)) (some field.key)
      (front.length + (keyBytes field.key).length)
      (front.length + (keyBytes field.key).length + field.item.bytes.length) = field.entry := by
    have taken : (front ++ (field.bytes ++ tail)).take
        (front.length + (keyBytes field.key).length + field.item.bytes.length) =
        (front ++ keyBytes field.key) ++ field.item.bytes := by
      rw [layout, ← List.append_assoc]
      exact List.take_left' (by simp only [List.length_append])
    simp only [tlvEntryAt, taken, List.drop_left' (show (front ++ keyBytes field.key).length =
      front.length + (keyBytes field.key).length by simp), Field.entry]
  have inside : front.length < (front ++ (field.bytes ++ tail)).length := by omega
  rw [width, ← Nat.add_assoc]
  rcases keyBytes_cases field.key with ⟨tiny, written⟩ | ⟨large, written⟩
  · have here : byteAt (front ++ (field.bytes ++ tail)) front.length = field.key := by
      rw [layout, written, List.append_assoc]
      exact memoryOf_front front field.key _ _
    have notBreak : field.key ≠ 0xFF := by
      intro same
      rw [same] at tiny
      exact absurd tiny (by decide)
    have start : front.length + 1 = front.length + (keyBytes field.key).length := by
      simp [written]
    simp only [parseTlvLoop, here, tiny, notBreak, start, skipped, entry, inside,
      not_true_eq_false, and_false, if_false, true_or, if_true]
  · have here : byteAt (front ++ (field.bytes ++ tail)) front.length = 0x18 := by
      rw [layout, written, List.append_assoc]
      exact memoryOf_front front 0x18 _ _
    have next : (front ++ (field.bytes ++ tail))[front.length + 1]? = some field.key := by
      rw [layout, written]
      simp
    have start : front.length + 2 = front.length + (keyBytes field.key).length := by
      simp [written]
    have marker : ¬ ((0x18 : UInt8) < 24) ∧ (0x18 : UInt8) ≠ 0xFF := by decide
    simp only [parseTlvLoop, here, next, marker.1, marker.2, start, skipped, entry, inside,
      not_true_eq_false, and_false, if_false, or_true]

/-- The server's walk over the fields of a map lists them all. -/
theorem parseTlvLoop_fields (fields : List Field) (front back : Bytes) {fuel : Nat}
    (enough : fields.length < fuel) :
    parseTlvLoop (front ++ (fieldBytes fields ++ 0xFF :: back)) true fuel front.length =
      some (fields.map Field.entry) := by
  -- Each field takes one unit of fuel and becomes part of the front.
  induction fields generalizing front fuel with
  | nil =>
    obtain ⟨fuel, rfl⟩ : ∃ rest, fuel = rest + 1 := ⟨fuel - 1, by simp at enough; omega⟩
    have here : byteAt (front ++ 0xFF :: back) front.length = 0xFF :=
      memoryOf_front front 0xFF back _
    simp [parseTlvLoop, here]
  | cons field rest ih =>
    obtain ⟨fuel, rfl⟩ : ∃ rest, fuel = rest + 1 := ⟨fuel - 1, by omega⟩
    simp only [List.length_cons] at enough
    have tail := @ih (front ++ field.bytes) fuel (by omega)
    simp only [List.length_append, List.append_assoc] at tail
    rw [fieldBytes_cons, List.append_assoc, parseTlvLoop_field, tail]
    rfl

/-- The server parses a payload map into its fields. -/
theorem parseTlv_map (fields : List Field) :
    parseTlv (mapBytes fields) = some (fields.map Field.entry) := by
  have length : (mapBytes fields).length = (fieldBytes fields).length + 2 := by simp [mapBytes]
  have count := fieldBytes_length fields
  have walk : parseTlvLoop (mapBytes fields) true (mapBytes fields).length 1 =
      some (fields.map Field.entry) := parseTlvLoop_fields fields [0xBF] [] (by omega)
  have opening : byteAt (mapBytes fields) 0 = 0xBF := rfl
  unfold parseTlv
  rw [if_neg (by omega), opening]
  exact walk

/-- The server's lookup in a payload map finds the first field of a key. -/
theorem findTlv_map (fields : List Field) (type : TlvType) :
    findTlv (mapBytes fields) type = some ((fieldFor fields type.byte).map Field.entry) := by
  -- Searching the parsed fields is searching the fields.
  have search : (fields.map Field.entry).find? (fun entry => entry.type == some type.byte) =
      (fieldFor fields type.byte).map Field.entry := by
    simp only [List.find?_map, fieldFor]
    rfl
  simp only [findTlv, parseTlv_map, Option.map_some, search]

end Ykp
