import Ykp.Constants

/-! Keyed fields of a payload map: how far a value reaches, and what looking a key up should find. -/

namespace Ykp

open BigEndian

/-- The index behind the value that starts at an index, as its header bytes announce it. -/
def announcedEnd (memory : Memory) (start : Nat) : Nat :=
  let head := memory start
  let major := head &&& 0xE0
  let info := head &&& 0x1F
  if major = 0x00 ∨ major = 0x20 then
    -- An integer is followed by zero, one, two, four or eight argument bytes.
    if info < 24 then start + 1
    else if info = 0x18 then start + 2
    else if info = 0x19 then start + 3
    else if info = 0x1A then start + 5
    else if info = 0x1B then start + 9
    else start + 1
  else if major = 0x40 ∨ major = 0x60 then
    -- A string is followed by its length, unless the header holds it, and by its bytes.
    if info < 24 then start + 1 + info.toNat
    else if info = 0x18 then start + 2 + (memory (start + 1)).toNat
    else if info = 0x19 then start + 3 + readU16 memory (start + 1)
    else start + 1
  else if major = 0xE0 then
    if info = 25 then start + 3
    else if info = 26 then start + 5
    else if info = 27 then start + 9
    else start + 1
  else start + 1

/-- A value reaches at least behind its header byte. -/
theorem start_lt_announcedEnd (memory : Memory) (start : Nat) :
    start < announcedEnd memory start := by
  simp only [announcedEnd]
  split_ifs <;> omega

/-- The major type of a string is none of those of an integer. -/
theorem string_not_integer {major : UInt8} (string : major = 0x40 ∨ major = 0x60) :
    ¬ (major = 0x00 ∨ major = 0x20) := by
  rcases string with rfl | rfl
  · decide
  · decide

/-- The length bytes of a string stand in front of its announced end. -/
theorem lengths_lt_announcedEnd {memory : Memory} {start : Nat}
    (string : memory start &&& 0xE0 = 0x40 ∨ memory start &&& 0xE0 = 0x60) :
    (memory start &&& 0x1F = 0x18 → start + 1 < announcedEnd memory start) ∧
      (memory start &&& 0x1F = 0x19 → start + 2 < announcedEnd memory start) := by
  unfold announcedEnd
  dsimp only
  rw [if_neg (string_not_integer string), if_pos string]
  constructor
  · intro marker
    rw [marker, if_neg (by decide), if_pos rfl]
    omega
  · intro marker
    rw [marker, if_neg (by decide), if_neg (by decide), if_pos rfl]
    omega

/-- The bytes of one value: they announce exactly their own length. -/
structure Item where
  bytes : Bytes
  complete : announcedEnd (byteAt bytes) 0 = bytes.length

/-- A value is never empty. -/
theorem Item.length_pos (item : Item) : 0 < item.bytes.length :=
  item.complete ▸ start_lt_announcedEnd (byteAt item.bytes) 0

/-- A value announces its length wherever it stands in a memory. -/
theorem Item.announcedEnd_at (item : Item) (front back : Bytes) (beyond : Memory) :
    announcedEnd (memoryOf (front ++ (item.bytes ++ back)) beyond) front.length =
      front.length + item.bytes.length := by
  -- Every header byte that is read belongs to the value itself.
  have inside : ∀ index, index < item.bytes.length →
      memoryOf (front ++ (item.bytes ++ back)) beyond (front.length + index) =
        byteAt item.bytes index := by
    intro index within
    rw [memoryOf_append, byteAt, memoryOf_inside _ (by simp; omega), memoryOf_inside _ within,
      List.getElem_append_left within]
  have head := inside 0 item.length_pos
  rw [Nat.add_zero] at head
  by_cases string : byteAt item.bytes 0 &&& 0xE0 = 0x40 ∨ byteAt item.bytes 0 &&& 0xE0 = 0x60
  · have lengths := lengths_lt_announcedEnd string
    rw [item.complete] at lengths
    -- The length bytes stand right behind the header.
    have one (marker : byteAt item.bytes 0 &&& 0x1F = 0x18) :
        memoryOf (front ++ (item.bytes ++ back)) beyond (front.length + 1) =
          byteAt item.bytes 1 := inside 1 (lengths.1 marker)
    have two (marker : byteAt item.bytes 0 &&& 0x1F = 0x19) :
        readU16 (memoryOf (front ++ (item.bytes ++ back)) beyond) (front.length + 1) =
          readU16 (byteAt item.bytes) 1 := by
      have both := lengths.2 marker
      have first := inside 1 (Nat.lt_of_succ_lt both)
      have second := inside 2 both
      unfold readU16
      rw [Nat.add_assoc, first, second]
    rw [← item.complete]
    simp +contextual only [announcedEnd, head, string_not_integer string, string, if_true, if_false,
      apply_ite (front.length + ·), one, two, Nat.zero_add, Nat.add_assoc]
  · rw [← item.complete]
    simp only [announcedEnd, head, string, if_false, apply_ite (front.length + ·)]

/-- A field is a value filed under a key. -/
structure Field where
  key : UInt8
  item : Item

/-- The bytes a key is written as: alone while it fits into a header, else behind a marker. -/
def keyBytes (key : UInt8) : Bytes :=
  if key < 24 then [key] else [0x18, key]

/-- The bytes a field is written as. -/
def Field.bytes (field : Field) : Bytes := keyBytes field.key ++ field.item.bytes

/-- The bytes of fields written one behind the other. -/
def fieldBytes (fields : List Field) : Bytes := fields.flatMap Field.bytes

/-- A payload map: an opening byte, the fields, and a break byte. -/
def mapBytes (fields : List Field) : Bytes := 0xBF :: (fieldBytes fields ++ [0xFF])

@[simp] theorem fieldBytes_nil : fieldBytes [] = [] := rfl

@[simp] theorem fieldBytes_cons (field : Field) (rest : List Field) :
    fieldBytes (field :: rest) = field.bytes ++ fieldBytes rest := by simp [fieldBytes]

/-- The first field filed under a key. -/
def fieldFor (fields : List Field) (key : UInt8) : Option Field :=
  fields.find? fun field => field.key == key

/-- A field takes at least two bytes. -/
theorem Field.length_pos (field : Field) : 2 ≤ field.bytes.length := by
  have := field.item.length_pos
  simp only [Field.bytes, keyBytes, List.length_append]
  split_ifs
  all_goals
    simp only [List.length_cons, List.length_nil]
    omega

/-- Written fields take at least two bytes each. -/
theorem fieldBytes_length (fields : List Field) : 2 * fields.length ≤ (fieldBytes fields).length := by
  induction fields with
  | nil => simp
  | cons field rest ih =>
    have := field.length_pos
    simp only [fieldBytes_cons, List.length_append, List.length_cons]
    omega

/-- Calls whose values announce their own length are fields. -/
theorem fields_of_items {Call : Type*} {calls : List Call} (type : Call → UInt8)
    (encoded : Call → Bytes) (items : ∀ call ∈ calls, ∃ item : Item, item.bytes = encoded call) :
    ∃ fields : List Field, fields.map (fun field => (field.key, field.item.bytes)) =
        calls.map (fun call => (type call, encoded call)) ∧
      fieldBytes fields = calls.flatMap fun call => keyBytes (type call) ++ encoded call := by
  -- One field for each call, in the same order.
  induction calls with
  | nil => exact ⟨[], rfl, rfl⟩
  | cons call rest ih =>
    obtain ⟨item, bytes⟩ := items call List.mem_cons_self
    obtain ⟨fields, pairs, written⟩ := ih fun other member =>
      items other (List.mem_cons_of_mem _ member)
    refine ⟨⟨type call, item⟩ :: fields, ?_, ?_⟩
    · simp only [List.map_cons, pairs, bytes]
    · simp [Field.bytes, bytes, written]

/-- The header of a byte string of short or medium length. -/
def bytesHead (length : Nat) : Bytes :=
  if length < 24 then [0x40 ||| UInt8.ofNat length] else [0x58, UInt8.ofNat length]

/-- The header of a text string of short or medium length. -/
def textHead (length : Nat) : Bytes :=
  if length < 24 then [0x60 ||| UInt8.ofNat length] else [0x78, UInt8.ofNat length]

/-- The header bits a short length leaves in place. -/
theorem shortHead {length : Nat} (short : length < 24) :
    ((0x40 ||| UInt8.ofNat length) &&& 0xE0 = 0x40 ∧
      (0x40 ||| UInt8.ofNat length) &&& 0x1F = UInt8.ofNat length) ∧
    ((0x60 ||| UInt8.ofNat length) &&& 0xE0 = 0x60 ∧
      (0x60 ||| UInt8.ofNat length) &&& 0x1F = UInt8.ofNat length) ∧
    UInt8.ofNat length < 24 := by
  -- Twenty-four lengths, each checked on its own bits.
  have all : ∀ length < 24, ((0x40 ||| UInt8.ofNat length) &&& 0xE0 = 0x40 ∧
      (0x40 ||| UInt8.ofNat length) &&& 0x1F = UInt8.ofNat length) ∧
    ((0x60 ||| UInt8.ofNat length) &&& 0xE0 = 0x60 ∧
      (0x60 ||| UInt8.ofNat length) &&& 0x1F = UInt8.ofNat length) ∧
    UInt8.ofNat length < 24 := by decide
  exact all length short

/-- The header bits of a string whose length takes a byte of its own. -/
theorem longHead :
    ((0x58 : UInt8) &&& 0xE0 = 0x40 ∧ (0x58 : UInt8) &&& 0x1F = 0x18) ∧
      (0x78 : UInt8) &&& 0xE0 = 0x60 ∧ (0x78 : UInt8) &&& 0x1F = 0x18 := by decide

/-- A byte string of up to 255 bytes behind its header is a value. -/
def bytesItem (data : Bytes) (short : data.length < 256) : Item where
  bytes := bytesHead data.length ++ data
  complete := by
    -- The header holds the length itself, or announces one length byte.
    unfold bytesHead
    split
    · rename_i tiny
      obtain ⟨⟨major, info⟩, -, small⟩ := shortHead tiny
      simp [announcedEnd, byteAt, memoryOf, major, info, small]
      omega
    · obtain ⟨⟨major, info⟩, -⟩ := longHead
      simp [announcedEnd, byteAt, memoryOf, major, info]
      omega

/-- A text string of up to 255 bytes behind its header is a value. -/
def textItem (text : Bytes) (short : text.length < 256) : Item where
  bytes := textHead text.length ++ text
  complete := by
    unfold textHead
    split
    · rename_i tiny
      obtain ⟨-, ⟨major, info⟩, small⟩ := shortHead tiny
      simp [announcedEnd, byteAt, memoryOf, major, info, small]
      omega
    · obtain ⟨-, major, info⟩ := longHead
      simp [announcedEnd, byteAt, memoryOf, major, info]
      omega

end Ykp
