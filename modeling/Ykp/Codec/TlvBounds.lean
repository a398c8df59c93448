import Ykp.Codec.TlvWalk

/-! Which bytes the device reads in a lookup, and when all of them lie inside the buffer. -/

namespace Ykp

open BigEndian StateTransition

/-- Where the length bytes of a string are read, behind its header. -/
def lengthReads (buf : Memory) (valStart : Nat) : List Nat :=
  let major := buf valStart &&& 0xE0
  let info := buf valStart &&& 0x1F
  let i := (valStart + 1) % 65536
  if ¬ (major = 0x40 ∨ major = 0x60) then []
  else if info < 24 then []
  else if info = 0x18 then [i]
  else if info = 0x19 then [i, i + 1]
  else []

/-- Where one iteration of the loop reads: the key and its marker, the value header, and the length
bytes of a string. -/
def fieldReads (buf : Memory) (bufLen : Nat) (indefinite : Bool) (i : Nat) : List Nat :=
  if ¬ i < bufLen then []
  else if ¬ FieldAt buf bufLen indefinite i then [i]
  else
    (if buf i < 24 then [i] else [i, (i + 1) % 65536]) ++
      fieldValue buf i :: lengthReads buf (fieldValue buf i)

/-- Where the loop reads in a number of iterations. -/
def loopReads (buf : Memory) (bufLen : Nat) (type : UInt8) (indefinite : Bool) :
    Nat → Nat → List Nat
  | 0, _ => []
  | fuel + 1, i =>
    fieldReads buf bufLen indefinite i ++
      match nextField buf bufLen type indefinite i with
      | none => []
      | some j => loopReads buf bufLen type indefinite fuel j

/-- Where a lookup reads: the header of the map, its pair count, and the fields. -/
def findReads (fuel : Nat) (buf : Memory) (bufLen : Nat) (type : UInt8) : List Nat :=
  if bufLen < 2 then []
  else
    0 :: match mapStart buf bufLen with
    | none => []
    | some (indefinite, start) =>
      (if start = 2 then [1] else []) ++ loopReads buf bufLen type indefinite fuel start

/-- Every byte that a lookup reads lies inside the buffer, and so does the entry it returns. -/
def StaysInside (buf : Memory) (bufLen : Nat) (type : UInt8) : Prop :=
  (∀ fuel, ∀ index ∈ findReads fuel buf bufLen type, index < bufLen) ∧
    ∀ tlv, ykpTlvFind buf bufLen type = .found tlv → tlv.start + tlv.length ≤ bufLen

/-- The index behind a value header and the length bytes of a string. -/
def valueHeaderEnd (buf : Memory) (valStart : Nat) : Nat :=
  let major := buf valStart &&& 0xE0
  let info := buf valStart &&& 0x1F
  if ¬ (major = 0x40 ∨ major = 0x60) then valStart + 1
  else if info < 24 then valStart + 1
  else if info = 0x18 then valStart + 2
  else if info = 0x19 then valStart + 3
  else valStart + 1

/-- The index behind the whole header of a field, which begins with its key. -/
def headerEnd (buf : Memory) (i : Nat) : Nat :=
  valueHeaderEnd buf (if buf i < 24 then i + 1 else i + 2)

/-- The length of a value as it is returned: that of the announced one, in 16 bits. -/
def valueLength (buf : Memory) (i : Nat) : Nat :=
  (announcedEnd buf (fieldValue buf i) - fieldValue buf i) % 65536

/-- Every field that the walk reaches has its header inside the buffer, and the first of the asked
type its value, too. -/
def FieldsInside (buf : Memory) (bufLen : Nat) (type : UInt8) : Prop :=
  ∀ indefinite start, mapStart buf bufLen = some (indefinite, start) →
    ∀ i, Reaches (nextField buf bufLen type indefinite) start i → FieldAt buf bufLen indefinite i →
      headerEnd buf i ≤ bufLen ∧
        (fieldKey buf i = type → fieldValue buf i + valueLength buf i ≤ bufLen)

section Reads

variable {buf buf' : Memory} {bufLen : Nat} {type : UInt8} {indefinite : Bool}

/-- The end of a value is known from the bytes that are read of it. -/
theorem ykpTlvSkip_congr {valStart : Nat} (head : buf valStart = buf' valStart)
    (lengths : ∀ index ∈ lengthReads buf valStart, buf index = buf' index) :
    ykpTlvSkip buf valStart = ykpTlvSkip buf' valStart := by
  unfold ykpTlvSkip
  dsimp only
  rw [← head]
  -- Only two forms of a length are read behind the header.
  by_cases string : buf valStart &&& 0xE0 = 0x40 ∨ buf valStart &&& 0xE0 = 0x60
  · by_cases tiny : buf valStart &&& 0x1F < 24
    · simp only [string, tiny, if_true]
    · simp only [lengthReads, string, tiny, not_true_eq_false, if_false] at lengths
      by_cases one : buf valStart &&& 0x1F = 0x18
      · simp only [one, if_true, List.mem_singleton, forall_eq] at lengths
        simp only [string, one, lengths, if_true]
      · by_cases two : buf valStart &&& 0x1F = 0x19
        · rw [if_neg one, if_pos two] at lengths
          simp only [List.mem_cons, List.not_mem_nil, or_false, forall_eq_or_imp,
            forall_eq] at lengths
          simp only [string, tiny, one, if_true, if_false, readU16, lengths.1, lengths.2]
        · simp only [tiny, one, two, if_false]
  · simp only [string, if_false]

/-- An iteration that reads a field. -/
theorem fieldReads_field {i : Nat} (field : FieldAt buf bufLen indefinite i) :
    fieldReads buf bufLen indefinite i = (if buf i < 24 then [i] else [i, (i + 1) % 65536]) ++
      fieldValue buf i :: lengthReads buf (fieldValue buf i) := by
  rw [fieldReads, if_neg (not_not.mpr field.1), if_neg (not_not.mpr field)]

/-- An iteration reads the byte it starts at. -/
theorem mem_fieldReads {i : Nat} (inside : i < bufLen) : i ∈ fieldReads buf bufLen indefinite i := by
  by_cases field : FieldAt buf bufLen indefinite i
  · rw [fieldReads_field field]
    split <;> simp
  · rw [fieldReads, if_neg (not_not.mpr inside), if_pos field]
    exact List.mem_singleton_self i

/-- What an iteration finds depends on the bytes it reads. -/
theorem field_congr {i : Nat} (inside : i < bufLen)
    (same : ∀ index ∈ fieldReads buf bufLen indefinite i, buf index = buf' index) :
    (FieldAt buf bufLen indefinite i ↔ FieldAt buf' bufLen indefinite i) ∧
      (FieldAt buf bufLen indefinite i → fieldKey buf i = fieldKey buf' i ∧
        fieldValue buf i = fieldValue buf' i ∧
          ykpTlvSkip buf (fieldValue buf i) = ykpTlvSkip buf' (fieldValue buf' i)) := by
  -- The first byte tells whether there is a field, and where its value starts.
  have first := same i (mem_fieldReads inside)
  refine ⟨by unfold FieldAt; rw [first], fun field => ?_⟩
  rw [fieldReads_field field] at same
  have value : fieldValue buf i = fieldValue buf' i := by
    unfold fieldValue
    rw [first]
  refine ⟨?_, value, ?_⟩
  · unfold fieldKey
    rw [← first]
    split
    · rfl
    · -- The key behind the marker is read, too.
      rename_i large
      exact same _ (by simp [large])
  · rw [← value]
    exact ykpTlvSkip_congr (same _ (by simp)) fun index member => same index (by simp [member])

/-- A lookup that takes a number of iterations depends on the bytes it reads in them, and on no
others. -/
theorem ykpTlvFindLoop_congr {fuel i : Nat}
    (same : ∀ index ∈ loopReads buf bufLen type indefinite fuel i, buf index = buf' index) :
    ykpTlvFindLoop buf bufLen type indefinite fuel i =
      ykpTlvFindLoop buf' bufLen type indefinite fuel i := by
  -- One iteration reads its own field, and the rest of the loop the others.
  induction fuel generalizing i with
  | zero => rfl
  | succ fuel ih =>
    simp only [loopReads, List.mem_append] at same
    have here (index : Nat) (read : index ∈ fieldReads buf bufLen indefinite i) :
        buf index = buf' index := same index (.inl read)
    rw [ykpTlvFindLoop_succ, ykpTlvFindLoop_succ]
    by_cases inside : i < bufLen
    · obtain ⟨read, alike⟩ := field_congr inside here
      by_cases field : FieldAt buf bufLen indefinite i
      · obtain ⟨key, value, skip⟩ := alike field
        rw [if_neg (not_not.mpr field), if_neg (not_not.mpr (read.mp field)), ← key, ← value, skip]
        by_cases asked : fieldKey buf i = type
        · rw [if_pos asked, if_pos asked, value]
        · have next : nextField buf bufLen type indefinite i =
              some (ykpTlvSkip buf' (fieldValue buf' i)) := by
            rw [nextField, if_pos ⟨field, asked⟩, skip]
          rw [if_neg asked, if_neg asked, value]
          exact ih fun index later => same index (.inr (by rw [next]; exact later))
      · rw [if_pos field, if_pos (mt read.mpr field)]
    · rw [if_pos fun field => inside field.1, if_pos fun field => inside field.1]

/-- A loop reads what the iterations read that its walk reaches. -/
theorem mem_loopReads {fuel start index : Nat} :
    index ∈ loopReads buf bufLen type indefinite fuel start ↔ ∃ steps < fuel, ∃ i,
      Walk.after (nextField buf bufLen type indefinite) steps start = some i ∧
        index ∈ fieldReads buf bufLen indefinite i := by
  -- What the first iteration reads, and what those read that start at the second field.
  induction fuel generalizing start with
  | zero => simp [loopReads]
  | succ fuel ih =>
    rw [loopReads, List.mem_append]
    constructor
    · rintro (here | later)
      · exact ⟨0, Nat.succ_pos fuel, start, rfl, here⟩
      · split at later
        · cases later
        · rename_i second step
          obtain ⟨steps, few, i, there, read⟩ := ih.mp later
          refine ⟨steps + 1, Nat.succ_lt_succ few, i, ?_, read⟩
          rw [Walk.after_succ, step, Option.bind_some, there]
    · rintro ⟨steps, few, i, there, read⟩
      cases steps with
      | zero =>
        obtain rfl := Option.some.inj there
        exact .inl read
      | succ steps =>
        obtain ⟨second, step, rest⟩ := Option.bind_eq_some_iff.mp there
        rw [step]
        exact .inr (ih.mpr ⟨steps, Nat.lt_of_succ_lt_succ few, i, rest, read⟩)

/-- A value header takes at least one byte. -/
theorem lt_valueHeaderEnd (buf : Memory) (valStart : Nat) :
    valStart < valueHeaderEnd buf valStart := by
  unfold valueHeaderEnd
  dsimp only
  split_ifs <;> omega

/-- The length bytes of a value lie inside the buffer when its header ends there. -/
theorem lengthReads_inside {valStart : Nat} (small : bufLen ≤ 65535) (inside : valStart < bufLen) :
    (∀ index ∈ lengthReads buf valStart, index < bufLen) ↔
      valueHeaderEnd buf valStart ≤ bufLen := by
  have next : (valStart + 1) % 65536 = valStart + 1 := by omega
  unfold lengthReads valueHeaderEnd
  dsimp only
  rw [next]
  -- None, one or two bytes are read.
  split_ifs <;> simp <;> omega

/-- All bytes that are read of a field lie inside the buffer when its header ends there. -/
theorem fieldReads_inside {i : Nat} (small : bufLen ≤ 65535)
    (field : FieldAt buf bufLen indefinite i) :
    (∀ index ∈ fieldReads buf bufLen indefinite i, index < bufLen) ↔ headerEnd buf i ≤ bufLen := by
  have inside := field.1
  have next : (i + 1) % 65536 = i + 1 := by omega
  rw [fieldReads_field field, headerEnd]
  by_cases tiny : buf i < 24
  · have value : fieldValue buf i = i + 1 := by rw [fieldValue, if_pos tiny, next]
    have behind := lt_valueHeaderEnd buf (i + 1)
    rw [if_pos tiny, if_pos tiny, value]
    simp only [List.singleton_append, List.forall_mem_cons, inside, true_and]
    constructor
    · rintro ⟨start, lengths⟩
      exact (lengthReads_inside small start).mp lengths
    · intro ends
      have start : i + 1 < bufLen := by omega
      exact ⟨start, (lengthReads_inside small start).mpr ends⟩
  · have behind := lt_valueHeaderEnd buf (i + 2)
    rw [if_neg tiny, if_neg tiny, next]
    simp only [List.cons_append, List.nil_append, List.forall_mem_cons, inside, true_and]
    -- Only a key inside the buffer keeps the cursor from coming round.
    have value (key : i + 1 < bufLen) : fieldValue buf i = i + 2 := by
      rw [fieldValue, if_neg tiny, next]
      omega
    constructor
    · rintro ⟨key, start, lengths⟩
      rw [value key] at start lengths
      exact (lengthReads_inside small start).mp lengths
    · intro ends
      have start : i + 2 < bufLen := by omega
      rw [value (by omega)]
      exact ⟨by omega, start, (lengthReads_inside small start).mpr ends⟩

/-- What a field whose header lies inside the buffer is returned as. -/
theorem returned_length {i : Nat} (small : bufLen ≤ 65535)
    (field : FieldAt buf bufLen indefinite i) (ends : headerEnd buf i ≤ bufLen) :
    (ykpTlvSkip buf (fieldValue buf i) + 65536 - fieldValue buf i) % 65536 = valueLength buf i := by
  have inside := field.1
  -- The value starts inside the buffer, so the length bytes are read behind it and not at zero.
  have value : fieldValue buf i + 1 < 65536 := by
    have behind := lt_valueHeaderEnd buf (if buf i < 24 then i + 1 else i + 2)
    unfold headerEnd at ends
    unfold fieldValue
    split_ifs at * <;> omega
  have later := start_lt_announcedEnd buf (fieldValue buf i)
  rw [ykpTlvSkip_mod value, valueLength]
  omega

/-- A loop that returns a field has reached it. -/
theorem ykpTlvFindLoop_found {fuel start : Nat} {tlv : YkpTlv}
    (found : ykpTlvFindLoop buf bufLen type indefinite fuel start = .found tlv) :
    ∃ i, Reaches (nextField buf bufLen type indefinite) start i ∧
      FieldAt buf bufLen indefinite i ∧ fieldKey buf i = type ∧ tlv.start = fieldValue buf i ∧
      tlv.length = (ykpTlvSkip buf (fieldValue buf i) + 65536 - fieldValue buf i) % 65536 := by
  -- The field is here, or the rest of the loop reaches it.
  induction fuel generalizing start with
  | zero => cases found
  | succ fuel ih =>
    rw [ykpTlvFindLoop_succ] at found
    split_ifs at found with field asked
    · obtain rfl := TlvLookup.found.inj found
      exact ⟨start, .refl, field, asked, rfl, rfl⟩
    · obtain ⟨i, reached, rest⟩ := ih found
      refine ⟨i, .head ?_ reached, rest⟩
      rw [Option.mem_def, nextField, if_pos ⟨field, asked⟩]

/-- A loop that has ended gives the same with more iterations. -/
theorem ykpTlvFindLoop_mono {fuel more start : Nat} (enough : fuel ≤ more)
    (ended : ykpTlvFindLoop buf bufLen type indefinite fuel start ≠ .diverges) :
    ykpTlvFindLoop buf bufLen type indefinite more start =
      ykpTlvFindLoop buf bufLen type indefinite fuel start := by
  -- Both take the same branch, and only the last one repeats the loop.
  induction fuel generalizing more start with
  | zero => exact absurd rfl ended
  | succ fuel ih =>
    obtain ⟨more, rfl⟩ : ∃ rest, more = rest + 1 := ⟨more - 1, by omega⟩
    rw [ykpTlvFindLoop_succ] at ended
    rw [ykpTlvFindLoop_succ, ykpTlvFindLoop_succ]
    split_ifs at ended ⊢ <;> first | rfl | exact ih (by omega) ended

/-- A loop returns the field of the asked type that it reaches. -/
theorem ykpTlvFindLoop_asked {start i : Nat}
    (reached : Reaches (nextField buf bufLen type indefinite) start i)
    (field : FieldAt buf bufLen indefinite i) (asked : fieldKey buf i = type) :
    ykpTlvFindLoop buf bufLen type indefinite (bufLen + 1) start = .found ⟨fieldKey buf i,
      (ykpTlvSkip buf (fieldValue buf i) + 65536 - fieldValue buf i) % 65536,
      fieldValue buf i⟩ := by
  obtain ⟨fuel, found⟩ : ∃ fuel, ykpTlvFindLoop buf bufLen type indefinite fuel start =
      .found ⟨fieldKey buf i,
        (ykpTlvSkip buf (fieldValue buf i) + 65536 - fieldValue buf i) % 65536,
        fieldValue buf i⟩ := by
    -- Each step of the walk costs one more iteration.
    induction reached using Relation.ReflTransGen.head_induction_on with
    | refl =>
      exact ⟨1, by rw [ykpTlvFindLoop_succ, if_neg (not_not.mpr field), if_pos asked]⟩
    | head step _ ih =>
      obtain ⟨fuel, found⟩ := ih
      unfold nextField at step
      split at step
      · rename_i goes
        refine ⟨fuel + 1, ?_⟩
        rw [ykpTlvFindLoop_succ, if_neg (not_not.mpr goes.1), if_neg goes.2,
          Option.some.inj step, found]
      · cases step
  have ended : ykpTlvFindLoop buf bufLen type indefinite fuel start ≠ .diverges := by
    rw [found]
    exact TlvLookup.noConfusion
  have within := (ykpTlvFindLoop_ends_iff buf bufLen type indefinite start).2 ⟨fuel, ended⟩
  -- Both runs have ended, so they give the same.
  rcases Nat.le_total fuel (bufLen + 1) with less | more
  · rw [ykpTlvFindLoop_mono less ended, found]
  · rw [← ykpTlvFindLoop_mono more within, found]

/-- A map starts at an index up to two. -/
theorem mapStart_small {start : Nat} (map : mapStart buf bufLen = some (indefinite, start)) :
    2 ≤ bufLen ∧ start ≤ 2 := by
  unfold mapStart at map
  split_ifs at map <;>
  · obtain ⟨-, rfl⟩ := Prod.mk.inj (Option.some.inj map)
    omega

end Reads

/-- What a lookup returns is as long as its header announces. -/
theorem ykpTlvFind_length {buf : Memory} {bufLen : Nat} {type : UInt8} {tlv : YkpTlv}
    (found : ykpTlvFind buf bufLen type = .found tlv) :
    tlv.length = (ykpTlvSkip buf tlv.start + 65536 - tlv.start) % 65536 := by
  rw [ykpTlvFind_eq, ykpTlvFindWithin] at found
  split at found
  · cases found
  · obtain ⟨i, -, -, -, value, length⟩ := ykpTlvFindLoop_found found
    rw [length, value]

/-- A string whose length does not fit its one byte is never returned whole. -/
theorem ykpTlvFind_short {bytes content : Bytes} {head type : UInt8} {tlv : YkpTlv}
    (small : bytes.length ≤ 65535) (string : head = 0x58 ∨ head = 0x78)
    (found : ykpTlvFind (byteAt bytes) bytes.length type = .found tlv)
    (read : readBytes (byteAt bytes) tlv.start tlv.length =
      head :: UInt8.ofNat content.length :: content) : content.length < 256 := by
  obtain ⟨width, same⟩ := getElem_of_readBytes read
  have first : head = byteAt bytes tlv.start := same 0 (Nat.zero_lt_succ _)
  have second : UInt8.ofNat content.length = byteAt bytes (tlv.start + 1) :=
    same 1 (Nat.succ_lt_succ (Nat.zero_lt_succ _))
  -- Behind the buffer there is no such header, so the cursor cannot come round.
  have inside : tlv.start < bytes.length := by
    by_contra behind
    have none : byteAt bytes tlv.start = 0 := by
      simp [byteAt, memoryOf, Nat.not_lt.mp behind]
    rw [none] at first
    rcases string with rfl | rfl
    · exact absurd first (by decide)
    · exact absurd first (by decide)
  have next : (tlv.start + 1) % 65536 = tlv.start + 1 := by omega
  have skip : ykpTlvSkip (byteAt bytes) tlv.start =
      ((tlv.start + 1 + 1) % 65536 + content.length % 256) % 65536 := by
    have count : (byteAt bytes (tlv.start + 1)).toNat = content.length % 256 := by
      rw [← second, UInt8.toNat_ofNat']
    unfold ykpTlvSkip
    dsimp only
    rw [← first, next]
    rcases string with rfl | rfl
    · simp only [longHead.1.1, longHead.1.2, count]
      rfl
    · simp only [longHead.2.1, longHead.2.2, count]
      rfl
  have length := ykpTlvFind_length found
  rw [skip] at length
  simp only [List.length_cons] at width
  omega

/-- A lookup depends on the bytes it reads, and on no others. -/
theorem ykpTlvFindWithin_congr {fuel : Nat} {buf buf' : Memory} {bufLen : Nat} {type : UInt8}
    (same : ∀ index ∈ findReads fuel buf bufLen type, buf index = buf' index) :
    ykpTlvFindWithin fuel buf bufLen type = ykpTlvFindWithin fuel buf' bufLen type := by
  -- A buffer of less than two bytes is not read at all.
  by_cases short : bufLen < 2
  · unfold ykpTlvFindWithin mapStart
    rw [if_pos short, if_pos short]
  · rw [findReads, if_neg short, List.forall_mem_cons] at same
    have map : mapStart buf' bufLen = mapStart buf bufLen := by
      unfold mapStart
      rw [same.1]
    unfold ykpTlvFindWithin
    rw [map]
    cases opened : mapStart buf bufLen with
    | none => rfl
    | some opening =>
      rw [opened] at same
      exact ykpTlvFindLoop_congr fun index member =>
        same.2 index (List.mem_append_right _ member)

/-- A lookup reads nothing outside its buffer and returns nothing that reaches outside exactly when
every field that its walk reaches has its header inside the buffer, and the one it returns its value,
too. -/
theorem ykpTlvFind_inside_iff (buf : Memory) (bufLen : UInt16) (type : UInt8) :
    StaysInside buf bufLen.toNat type ↔ FieldsInside buf bufLen.toNat type := by
  have small : bufLen.toNat ≤ 65535 := Nat.le_of_lt_succ bufLen.toNat_lt
  unfold StaysInside FieldsInside
  rw [ykpTlvFind_eq]
  cases map : mapStart buf bufLen.toNat with
  | none =>
    -- Nothing is read but the header, if there is one.
    refine iff_of_true ⟨fun fuel index member => ?_, fun tlv found => ?_⟩
      fun _ _ same => absurd same (Option.some_ne_none _).symm
    · unfold findReads at member
      split at member
      · cases member
      · rw [map] at member
        rw [List.mem_singleton.mp member]
        omega
    · rw [ykpTlvFindWithin, map] at found
      cases found
  | some opened =>
    obtain ⟨indefinite, start⟩ := opened
    obtain ⟨long, first⟩ := mapStart_small map
    constructor
    · -- One iteration more than the walk takes reads the field that it has reached.
      rintro ⟨reads, entry⟩ _ _ same i reached field
      obtain ⟨rfl, rfl⟩ := Prod.mk.inj (Option.some.inj same)
      obtain ⟨steps, there⟩ := Walk.reaches_iff_after.mp reached
      have ends : headerEnd buf i ≤ bufLen.toNat := by
        refine (fieldReads_inside small field).mp fun index read => reads (steps + 1) index ?_
        have among := mem_loopReads.mpr ⟨steps, Nat.lt_succ_self steps, i, there, read⟩
        rw [findReads, if_neg (Nat.not_lt.mpr long), map]
        exact List.mem_cons_of_mem _ (List.mem_append_right _ among)
      refine ⟨ends, fun asked => ?_⟩
      rw [← returned_length small field ends]
      refine entry ⟨fieldKey buf i, _, _⟩ ?_
      unfold ykpTlvFindWithin
      rw [map]
      exact ykpTlvFindLoop_asked reached field asked
    · intro fields
      have inside := fields indefinite start rfl
      constructor
      · intro fuel index member
        rw [findReads, if_neg (Nat.not_lt.mpr long), map] at member
        rcases List.mem_cons.mp member with rfl | member
        · omega
        rcases List.mem_append.mp member with count | member
        · split at count
          · obtain rfl := List.mem_singleton.mp count
            omega
          · cases count
        · obtain ⟨steps, -, i, there, read⟩ := mem_loopReads.mp member
          have reached := Walk.reaches_iff_after.mpr ⟨steps, there⟩
          by_cases field : FieldAt buf bufLen.toNat indefinite i
          · exact (fieldReads_inside small field).mpr (inside i reached field).1 index read
          · -- Where there is no field, only the byte that says so is read.
            unfold fieldReads at read
            by_cases within : i < bufLen.toNat
            · rw [if_neg (not_not.mpr within), if_pos field] at read
              exact List.mem_singleton.mp read ▸ within
            · rw [if_pos within] at read
              cases read
      · intro tlv found
        unfold ykpTlvFindWithin at found
        rw [map] at found
        obtain ⟨i, reached, field, asked, value, length⟩ := ykpTlvFindLoop_found found
        obtain ⟨ends, entry⟩ := inside i reached field
        rw [value, length, returned_length small field ends]
        exact entry asked

/-- A map that is cut off behind a key: the value header is read behind the buffer. -/
theorem ykpTlvFind_reads_behind : ¬ ∀ buf (bufLen : UInt16) type, StaysInside buf bufLen.toNat type := by
  intro claim
  exact absurd ((claim (byteAt [0xBF, 0x01]) 2 1).1 1 2 (by decide)) (by decide)

end Ykp
