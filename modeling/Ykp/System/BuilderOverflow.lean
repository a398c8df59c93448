import Ykp.Codec.TlvBounds
import Ykp.Foundation.Machine
import Ykp.System.DeviceFields

/-! Payload maps that outgrow their buffer: which of the fields that were accepted survive. -/

namespace Ykp.System

open BigEndian

/-- What a field is added with, floating-point numbers included. -/
inductive AddValue
  | tlv (value : TlvValue)
  /-- A number is given by its single-precision pattern. -/
  | float (val : UInt32)

namespace AddValue

/-- The encoder each kind of field calls. -/
def encode : AddValue → CborEncoder → CborEncoder
  | .tlv value, enc => value.encode enc
  | .float val, enc => cborEncodeFloat16 enc val.toNat

/-- The bytes a value is encoded as. -/
def encoded : AddValue → Bytes
  | .tlv value => value.encoded
  | .float val => 0xF9 :: writeU16 (float32ToFloat16 val.toNat)

/-- A value whose length fits the byte that announces it. -/
def Short : AddValue → Prop
  | .tlv value => value.Short
  | .float _ => True

end AddValue

/-- A call that adds a field; the type may be any byte. -/
structure AddCall where
  type : UInt8
  value : AddValue

namespace AddCall

/-- The call on a builder, and whether it returned true. -/
def addTo (call : AddCall) (b : YkpTlvBuilder) : YkpTlvBuilder × Bool :=
  let enc := call.value.encode (cborEncodeKey (tlvToCbor b) call.type)
  ({ b with buf := enc.buf }, !enc.overflow)

/-- The bytes of a field. -/
def bytes (call : AddCall) : Bytes := keyBytes call.type ++ call.value.encoded

end AddCall

/-- The builder's own functions are calls of this form. -/
theorem addCall_addTo_eq (b : YkpTlvBuilder) (type : TlvType) :
    (∀ value, AddCall.addTo ⟨type.byte, .tlv value⟩ b = TlvCall.addTo ⟨type.byte, value⟩ b) ∧
      ∀ val : UInt32, AddCall.addTo ⟨type.byte, .float val⟩ b = ykpTlvAddFloat b type val.toNat :=
  ⟨fun _ => rfl, fun _ => rfl⟩

/-- The builder after a call. -/
def addStep (b : YkpTlvBuilder) (call : AddCall) : YkpTlvBuilder := (call.addTo b).1

/-- The builder after a list of calls. -/
def addRun (cap : Nat) (calls : List AddCall) : YkpTlvBuilder :=
  Machine.run addStep (ykpTlvBuilderInit cap) calls

/-- The calls that returned true. -/
def acceptedFrom (b : YkpTlvBuilder) : List AddCall → List AddCall
  | [] => []
  | call :: rest =>
    if (call.addTo b).2 then call :: acceptedFrom (addStep b call) rest
    else acceptedFrom (addStep b call) rest

def accepted (cap : Nat) (calls : List AddCall) : List AddCall :=
  acceptedFrom (ykpTlvBuilderInit cap) calls

/-- The map that the calls leave behind when it is closed. -/
def closedMap (cap : Nat) (calls : List AddCall) : Bytes := ykpTlvBuilderLen (addRun cap calls)

/-- A call that returns false leaves the builder as it was. -/
def FailsQuietly (b : YkpTlvBuilder) (call : AddCall) : Prop :=
  (call.addTo b).2 = false → (call.addTo b).1 = b

/-- The first accepted call with a type. -/
def firstAccepted (cap : Nat) (calls : List AddCall) (type : UInt8) : Option AddCall :=
  (accepted cap calls).find? (·.type == type)

/-- The finished map is looked up to the value bytes of the first accepted field of each type. -/
def FindsAccepted (cap : Nat) (calls : List AddCall) : Prop :=
  ∀ beyond type call, firstAccepted cap calls type = some call →
    ∃ tlv, ykpTlvFind (memoryOf (closedMap cap calls) beyond) (closedMap cap calls).length type =
        .found tlv ∧
      readBytes (memoryOf (closedMap cap calls) beyond) tlv.start tlv.length = call.value.encoded

/-- No call that fails changes anything, and every field that was accepted is found again. -/
def AcceptedSurvive (cap : Nat) (calls : List AddCall) : Prop :=
  Machine.Always addStep FailsQuietly (ykpTlvBuilderInit cap) calls ∧ FindsAccepted cap calls

/-- A call finds room for its whole field, or the builder full. -/
def FitsOrFull (b : YkpTlvBuilder) (call : AddCall) : Prop :=
  b.buf.length + call.bytes.length ≤ b.cap ∨ b.cap ≤ b.buf.length

instance (b : YkpTlvBuilder) (call : AddCall) : Decidable (FitsOrFull b call) :=
  inferInstanceAs (Decidable (_ ∨ _))

/-- The calls whose fields find room one behind the other. -/
def fittingFrom (cap used : Nat) : List AddCall → List AddCall
  | [] => []
  | call :: rest =>
    if used + call.bytes.length ≤ cap then
      call :: fittingFrom cap (used + call.bytes.length) rest
    else fittingFrom cap used rest

/-- The calls whose fields find room behind the opening byte. -/
def fitting (cap : Nat) (calls : List AddCall) : List AddCall := fittingFrom cap 1 calls

/-- The break byte finds room, or replaces itself, or it replaces the end of a field that is not the
first one of its type. -/
def ClosesWell (cap : Nat) (calls : List AddCall) : Prop :=
  let fields := (fitting cap calls).flatMap AddCall.bytes
  1 + fields.length < cap ∨ fields.getLast? = some 0xFF ∨
    ∃ before last, fitting cap calls = before ++ [last] ∧
      ∃ earlier ∈ before, earlier.type = last.type

/-- What building a map has to keep to: no field is cut off in its middle, every argument that fits is
short, and the map closes well. -/
structure BuildsWell (cap : Nat) (calls : List AddCall) : Prop where
  fits : Machine.Always addStep FitsOrFull (ykpTlvBuilderInit cap) calls
  short : ∀ call ∈ fitting cap calls, call.value.Short
  closes : ClosesWell cap calls

/-- The arguments of a type that was used before are short. -/
def RepeatsShort (cap : Nat) (calls : List AddCall) : Prop :=
  ∀ before call after, fitting cap calls = before ++ call :: after →
    (∃ earlier ∈ before, earlier.type = call.type) → call.value.Short

/-- An encoding step appends what has room, and keeps the size. -/
def Appends (encode : CborEncoder → CborEncoder) : Prop :=
  ∀ enc, ∃ more, (encode enc).buf = enc.buf ++ more ∧ (encode enc).size = enc.size ∧
    (more = [] ∨ enc.buf.length + more.length ≤ enc.size)

/-- Two such steps are one. -/
theorem Appends.comp {first second : CborEncoder → CborEncoder} (front : Appends first)
    (back : Appends second) : Appends fun enc => second (first enc) := by
  intro enc
  obtain ⟨begun, start, size, fits⟩ := front enc
  obtain ⟨more, rest, size', fits'⟩ := back (first enc)
  refine ⟨begun ++ more, by rw [rest, start, List.append_assoc], size'.trans size, ?_⟩
  rw [start, size, List.length_append] at fits'
  rcases fits' with rfl | room
  · rwa [List.append_nil]
  · exact .inr (by rw [List.length_append]; omega)

/-- Bytes written one by one. -/
theorem cborWriteEach_appends (data : Bytes) : Appends fun enc => cborWriteEach enc data := by
  have one (byte : UInt8) : Appends fun enc => cborWriteByte enc byte := by
    intro enc
    unfold cborWriteByte
    dsimp only
    split
    · rename_i room
      exact ⟨[byte], rfl, rfl, .inr room⟩
    · exact ⟨[], (List.append_nil _).symm, rfl, .inl rfl⟩
  -- Each byte is a step of its own.
  induction data with
  | nil => exact fun enc => ⟨[], (List.append_nil _).symm, rfl, .inl rfl⟩
  | cons byte rest ih => exact (one byte).comp ih

/-- A block of bytes. -/
theorem cborWriteBytes_appends (data : Bytes) : Appends fun enc => cborWriteBytes enc data := by
  intro enc
  unfold cborWriteBytes
  dsimp only
  split
  · rename_i room
    exact ⟨data, rfl, rfl, .inr room⟩
  · exact ⟨[], (List.append_nil _).symm, rfl, .inl rfl⟩

/-- Every kind of value. -/
theorem AddValue.encode_appends (value : AddValue) : Appends value.encode := by
  -- A number is written byte by byte, a string as its header and one block.
  cases value with
  | float val => exact cborWriteEach_appends _
  | tlv value =>
    cases value with
    | uint8 val => exact cborWriteEach_appends _
    | uint16 val => exact cborWriteEach_appends _
    | uint32 val => exact cborWriteEach_appends _
    | uint64 val => exact cborWriteEach_appends _
    | int32 val =>
      by_cases positive : 0 ≤ val.toInt
      · have same : (AddValue.tlv (.int32 val)).encode = fun enc =>
            cborEncodeUint enc val.toInt.toNat := by
          funext enc
          exact if_pos positive
        exact same ▸ cborWriteEach_appends _
      · have same : (AddValue.tlv (.int32 val)).encode = fun enc =>
            cborWriteEach enc (cborNegativeBytes (-1 - val.toInt).toNat) := by
          funext enc
          exact if_neg positive
        exact same ▸ cborWriteEach_appends _
    | bytes data => exact (cborWriteEach_appends _).comp (cborWriteBytes_appends data)
    | string str => exact (cborWriteEach_appends _).comp (cborWriteBytes_appends (cString str))

/-- What a call appends has room. -/
theorem AddCall.addTo_appends (call : AddCall) (b : YkpTlvBuilder) :
    ∃ more, (call.addTo b).1 = { b with buf := b.buf ++ more } ∧
      (more = [] ∨ b.buf.length + more.length ≤ b.cap) := by
  obtain ⟨more, written, -, fits⟩ :=
    (cborWriteEach_appends (keyBytes call.type)).comp call.value.encode_appends (tlvToCbor b)
  exact ⟨more, congrArg (fun buf => { b with buf := buf }) written, fits⟩

/-- A call that finds the builder full changes nothing. -/
theorem AddCall.addTo_full {call : AddCall} {b : YkpTlvBuilder} (full : b.cap ≤ b.buf.length) :
    (call.addTo b).1 = b := by
  obtain ⟨more, built, fits⟩ := call.addTo_appends b
  have none : more = [] := by
    rcases fits with none | room
    · exact none
    · exact List.length_eq_zero_iff.mp (by omega)
  rw [built, none, List.append_nil]

/-- A call that finds room writes at least a byte of its key. -/
theorem AddCall.addTo_room {call : AddCall} {b : YkpTlvBuilder} (room : b.buf.length < b.cap) :
    b.buf.length < (call.addTo b).1.buf.length := by
  -- Whatever follows the first byte of the key only ever appends.
  obtain ⟨first, rest, key⟩ := keyBytes_eq_cons call.type
  have begun : cborWriteByte (tlvToCbor b) first =
      { tlvToCbor b with buf := b.buf ++ [first] } := if_pos room
  obtain ⟨more, written, -, -⟩ := (cborWriteEach_appends rest).comp call.value.encode_appends
    (cborWriteByte (tlvToCbor b) first)
  have bytes : (call.addTo b).1.buf = b.buf ++ [first] ++ more := by
    have unfolded : (call.addTo b).1.buf = (call.value.encode
        (cborWriteEach (cborWriteByte (tlvToCbor b) first) rest)).buf := by
      rw [addTo, cborEncodeKey, key]
      rfl
    rw [unfolded, written, begun]
  rw [bytes, List.length_append, List.length_append, List.length_singleton]
  omega

/-- Every kind of value is written or raises the flag. -/
theorem AddValue.encode_writes (value : AddValue) : WritesOrFlags value.encode value.encoded := by
  cases value with
  | tlv value => exact value.encode_writes
  | float val => exact cborWriteEach_writes _

/-- A call that returned true appended its field. -/
theorem AddCall.addTo_true {call : AddCall} {b : YkpTlvBuilder} (ok : (call.addTo b).2 = true) :
    (call.addTo b).1 = { b with buf := b.buf ++ call.bytes } := by
  simp only [addTo, Bool.not_eq_true'] at ok ⊢
  have both := (cborWriteEach_writes (keyBytes call.type)).comp call.value.encode_writes
  obtain ⟨-, written⟩ := both (tlvToCbor b) ok
  simp only [cborEncodeKey, written]
  rfl

/-- Every kind of value is written when it has room. -/
theorem AddValue.encode_fits (value : AddValue) : Writes value.encode value.encoded := by
  cases value with
  | float val => exact fun enc room => cborWriteEach_fits room
  | tlv value =>
    cases value with
    | int32 val =>
      intro enc room
      simp only [encode, TlvValue.encode, cborEncodeInt, encoded, TlvValue.encoded] at room ⊢
      split_ifs at room ⊢
      · exact cborWriteEach_fits room
      · exact cborWriteEach_fits room
    | bytes data => exact cborEncodeBytes_writes data
    | string str => exact cborEncodeStr_writes str
    | _ => exact fun enc room => cborWriteEach_fits room

/-- A call returns true exactly when its whole field finds room. -/
theorem AddCall.addTo_iff (call : AddCall) (b : YkpTlvBuilder) :
    (call.addTo b).2 = true ↔ b.buf.length + call.bytes.length ≤ b.cap := by
  constructor
  · -- What was appended is the field, and what was appended has room.
    intro ok
    obtain ⟨more, built, fits⟩ := call.addTo_appends b
    have same : more = call.bytes := by
      have bytes := congrArg YkpTlvBuilder.buf (built.symm.trans (addTo_true ok))
      exact List.append_cancel_left bytes
    obtain ⟨first, key, written⟩ := keyBytes_eq_cons call.type
    rcases fits with none | room
    · rw [none, bytes, written] at same
      cases same
    · exact same ▸ room
  · intro room
    rw [bytes, List.length_append] at room
    have key : cborEncodeKey (tlvToCbor b) call.type =
        { tlvToCbor b with buf := b.buf ++ keyBytes call.type } :=
      cborWriteEach_fits (by simp only [tlvToCbor]; omega)
    simp only [addTo, key]
    rw [call.value.encode_fits _ (by simp only [tlvToCbor, List.length_append]; omega)]
    rfl

/-- A call fails quietly exactly when its field fits or the builder is full. -/
theorem failsQuietly_iff (b : YkpTlvBuilder) (call : AddCall) :
    FailsQuietly b call ↔ FitsOrFull b call := by
  unfold FailsQuietly FitsOrFull
  rw [← Bool.not_eq_true, call.addTo_iff b]
  constructor
  · -- A call that fails with room left has written its key at least in part.
    intro quiet
    by_contra cut
    rw [not_or] at cut
    have grown := @AddCall.addTo_room call b (Nat.not_le.mp cut.2)
    rw [quiet cut.1] at grown
    exact Nat.lt_irrefl _ grown
  · rintro (fits | full) fails
    · exact absurd fits fails
    · exact AddCall.addTo_full full

/-- When no field is cut off, exactly the calls that fit are accepted, and the builder holds their
fields and nothing else. -/
theorem run_fitting {b : YkpTlvBuilder} {calls : List AddCall}
    (fits : Machine.Always addStep FitsOrFull b calls) :
    acceptedFrom b calls = fittingFrom b.cap b.buf.length calls ∧
      Machine.run addStep b calls =
        { b with buf := b.buf ++ (fittingFrom b.cap b.buf.length calls).flatMap AddCall.bytes } := by
  -- The builder is general, as each call continues where the one before stopped.
  induction calls generalizing b with
  | nil => simp [acceptedFrom, fittingFrom]
  | cons call rest ih =>
    obtain ⟨here, later⟩ := fits
    obtain ⟨taken, built⟩ := ih later
    rw [Machine.run_cons, acceptedFrom, fittingFrom, taken, built]
    by_cases ok : (call.addTo b).2 = true
    · have added : addStep b call = { b with buf := b.buf ++ call.bytes } := AddCall.addTo_true ok
      rw [if_pos ok, if_pos ((call.addTo_iff b).mp ok), added, List.length_append,
        List.flatMap_cons, List.append_assoc]
      exact ⟨rfl, rfl⟩
    · have cut := mt (call.addTo_iff b).mpr ok
      have same : addStep b call = b := AddCall.addTo_full (here.resolve_left cut)
      rw [if_neg ok, if_neg cut, same]
      exact ⟨rfl, rfl⟩

/-- So the map consists of the fields that fit, behind its opening byte. -/
theorem addRun_bytes {cap : Nat} {calls : List AddCall}
    (fits : Machine.Always addStep FitsOrFull (ykpTlvBuilderInit cap) calls) :
    accepted cap calls = fitting cap calls ∧
      (addRun cap calls).buf = [0xBF] ++ (fitting cap calls).flatMap AddCall.bytes := by
  obtain ⟨taken, built⟩ := run_fitting fits
  exact ⟨taken, congrArg YkpTlvBuilder.buf built⟩

/-- No call writes beyond the capacity. -/
theorem addRun_bounded {cap : Nat} (room : 0 < cap) (calls : List AddCall) :
    (addRun cap calls).cap = cap ∧ (addRun cap calls).Bounded := by
  refine @Machine.invariant_reached _ _ addStep (ykpTlvBuilderInit cap)
    (fun b => b.cap = cap ∧ b.Bounded) (fun b call bounded => ?_) calls ⟨rfl, room⟩
  obtain ⟨more, built, fits⟩ := call.addTo_appends b
  obtain ⟨size, length⟩ := bounded
  rw [addStep, built]
  refine ⟨size, ?_⟩
  rw [YkpTlvBuilder.Bounded, List.length_append]
  rcases fits with rfl | enough
  · exact length
  · exact enough

/-- A field takes at least a byte. -/
theorem flatMap_bytes_ne_nil {calls : List AddCall} (some : calls ≠ []) :
    calls.flatMap AddCall.bytes ≠ [] := by
  cases calls with
  | nil => exact absurd rfl some
  | cons call rest =>
    obtain ⟨first, key, written⟩ := keyBytes_eq_cons call.type
    rw [List.flatMap_cons, AddCall.bytes, written]
    exact List.cons_ne_nil _ _

/-- A short value announces its own length. -/
theorem AddValue.item_of_short {value : AddValue} (short : value.Short) :
    ∃ item : Item, item.bytes = value.encoded := by
  cases value with
  | tlv value => exact TlvValue.item_of_short short
  | float val => exact ⟨floatItem val.toNat, rfl⟩

/-- The first accepted call with a type, and the calls accepted around it. -/
theorem firstAccepted_split {cap : Nat} {calls : List AddCall} {type : UInt8} {call : AddCall} :
    firstAccepted cap calls type = some call ↔ call.type = type ∧
      ∃ before after, accepted cap calls = before ++ call :: after ∧
        ∀ earlier ∈ before, earlier.type ≠ type := by
  unfold firstAccepted
  rw [List.find?_eq_some_iff_append]
  simp only [beq_iff_eq, Bool.not_eq_eq_eq_not, Bool.not_true, beq_eq_false_iff_ne, ne_eq]

/-- Closing a full map replaces its last byte. -/
theorem ykpTlvBuilderLen_full {b : YkpTlvBuilder} (bounded : b.Bounded)
    (full : ¬ b.buf.length < b.cap) : ykpTlvBuilderLen b = b.buf.dropLast ++ [0xFF] := by
  have size : b.cap = b.buf.length := Nat.le_antisymm (Nat.not_lt.mp full) bounded
  rw [ykpTlvBuilderLen, if_neg full, size, List.dropLast_eq_take]

/-- Closing a map leaves what stands before its last byte as it was, and the last byte, too, if there
is room or the break byte stands there already. -/
theorem ykpTlvBuilderLen_keeps {b : YkpTlvBuilder} {kept rest : Bytes} (bytes : b.buf = kept ++ rest)
    (bounded : b.Bounded) (keeps : b.buf.length < b.cap ∨ b.buf.getLast? = some 0xFF ∨
      rest ≠ []) : ∃ tail, ykpTlvBuilderLen b = kept ++ tail := by
  -- With room the break byte comes behind everything; else it replaces the last byte.
  by_cases room : b.buf.length < b.cap
  · exact ⟨rest ++ [0xFF], by rw [ykpTlvBuilderLen_room room, bytes, List.append_assoc]⟩
  · have closed := ykpTlvBuilderLen_full bounded room
    rcases keeps with less | same | more
    · exact absurd less room
    · refine ⟨rest, ?_⟩
      rw [closed, ← bytes]
      exact List.dropLast_append_getLast? 0xFF same
    · refine ⟨rest.dropLast ++ [0xFF], ?_⟩
      rw [closed, bytes, List.dropLast_append_of_ne_nil more, List.append_assoc]

/-- Short calls are fields, each under its own type. -/
theorem fields_of_short_calls {calls : List AddCall} (short : ∀ call ∈ calls, call.value.Short) :
    ∃ fields : List Field, (∀ field ∈ fields, ∃ call ∈ calls, call.type = field.key) ∧
      fieldBytes fields = calls.flatMap AddCall.bytes := by
  obtain ⟨fields, pairs, written⟩ := fields_of_items AddCall.type (fun call => call.value.encoded)
    fun call member => AddValue.item_of_short (short call member)
  refine ⟨fields, fun field member => ?_, written⟩
  obtain ⟨call, among, same⟩ := List.mem_map.mp (pairs ▸ List.mem_map_of_mem member)
  exact ⟨call, among, congrArg Prod.fst same⟩

/-- A map that was built well is looked up to its accepted fields. -/
theorem BuildsWell.finds {cap : Nat} {calls : List AddCall} (well : BuildsWell cap calls)
    (room : 2 ≤ cap) (small : cap ≤ 65535) : FindsAccepted cap calls := by
  intro beyond type call first
  obtain ⟨rfl, before, after, split, apart⟩ := firstAccepted_split.mp first
  obtain ⟨size, bounded⟩ := addRun_bounded (show 0 < cap by omega) calls
  have length : (closedMap cap calls).length ≤ cap := ykpTlvBuilderLen_le bounded size (by omega)
  have short := well.short
  obtain ⟨taken, whole⟩ := addRun_bytes well.fits
  have built := whole
  rw [taken] at split
  rw [split] at short built
  obtain ⟨fields, keys, written⟩ := fields_of_short_calls fun earlier member =>
    short earlier (List.mem_append_left _ member)
  obtain ⟨item, value⟩ := AddValue.item_of_short
    (short call (List.mem_append_right _ List.mem_cons_self))
  have bytes : (addRun cap calls).buf =
      [0xBF] ++ (fieldBytes fields ++ (keyBytes call.type ++ item.bytes)) ++
        after.flatMap AddCall.bytes := by
    rw [built, List.flatMap_append, List.flatMap_cons, written, AddCall.bytes, value]
    simp only [List.append_assoc]
  -- The break byte replaces nothing of the field: neither a last field nor an own last byte.
  have keeps : (addRun cap calls).buf.length < (addRun cap calls).cap ∨
      (addRun cap calls).buf.getLast? = some 0xFF ∨ after.flatMap AddCall.bytes ≠ [] := by
    rcases well.closes with less | same | ⟨front, last, ending, earlier, member, named⟩
    · refine .inl ?_
      rwa [size, whole, List.length_append, List.length_singleton]
    · refine .inr (.inl ?_)
      rw [whole, List.getLast?_append, same]
      rfl
    · refine .inr (.inr (flatMap_bytes_ne_nil fun none => ?_))
      rw [ending, none] at split
      obtain ⟨rfl, same⟩ := List.append_inj' split rfl
      exact apart earlier member (named.trans (congrArg AddCall.type (List.cons.inj same).1))
  obtain ⟨tail, closed⟩ := ykpTlvBuilderLen_keeps bytes bounded keeps
  have layout : closedMap cap calls =
      [0xBF] ++ (fieldBytes fields ++ ((⟨call.type, item⟩ : Field).bytes ++ tail)) := by
    rw [closedMap, closed]
    simp only [Field.bytes, List.append_assoc]
  have others : ∀ other ∈ fields, other.key ≠ call.type := by
    intro other member
    obtain ⟨earlier, among, same⟩ := keys other member
    exact same ▸ apart earlier among
  have found := @ykpTlvFind_behind fields ⟨call.type, item⟩ _ tail beyond layout others (by omega)
  refine ⟨_, found, ?_⟩
  have at_ : ValueAt (closedMap cap calls) item.bytes
      (1 + (fieldBytes fields).length + (keyBytes call.type).length) :=
    ⟨[0xBF] ++ fieldBytes fields ++ keyBytes call.type, tail, by
      rw [layout]
      simp only [Field.bytes, List.append_assoc], by
      simp only [List.length_append, List.length_singleton]⟩
  rw [at_.readBytes beyond (Nat.le_refl _), List.take_length, value]

/-- A value that is found whole is short. -/
theorem AddValue.short_of_found {value : AddValue} {bytes : Bytes} {type : UInt8} {tlv : YkpTlv}
    (small : bytes.length ≤ 65535)
    (found : ykpTlvFind (byteAt bytes) bytes.length type = .found tlv)
    (read : readBytes (byteAt bytes) tlv.start tlv.length = value.encoded) : value.Short := by
  -- Only a string of 24 bytes or more has a length byte that can be too small.
  cases value with
  | float val => trivial
  | tlv value =>
    cases value with
    | bytes data =>
      by_cases tiny : data.length < 24
      · exact Nat.lt_trans tiny (by decide)
      · have written : (AddValue.tlv (.bytes data)).encoded =
            0x58 :: UInt8.ofNat data.length :: data := by
          simp only [encoded, TlvValue.encoded, bytesHead, if_neg tiny]
          rfl
        exact ykpTlvFind_short small (.inl rfl) found (read.trans written)
    | string str =>
      by_cases tiny : (cString str).length < 24
      · exact Nat.lt_trans tiny (by decide)
      · have written : (AddValue.tlv (.string str)).encoded =
            0x78 :: UInt8.ofNat (cString str).length :: cString str := by
          simp only [encoded, TlvValue.encoded, textHead, if_neg tiny]
          rfl
        exact ykpTlvFind_short small (.inr rfl) found (read.trans written)
    | _ => trivial

/-- Where every accepted field is found, the first one of each type is short, and with short repeats
so are all. -/
theorem FindsAccepted.short {cap : Nat} {calls : List AddCall} (finds : FindsAccepted cap calls)
    (small : (closedMap cap calls).length ≤ 65535)
    (taken : accepted cap calls = fitting cap calls) (repeats : RepeatsShort cap calls) :
    ∀ call ∈ fitting cap calls, call.value.Short := by
  intro call member
  obtain ⟨before, after, split⟩ := List.append_of_mem member
  -- A first field is found whole; a repeated one is short by assumption.
  by_cases earlier : ∃ earlier ∈ before, earlier.type = call.type
  · exact repeats before call after split earlier
  · have first : firstAccepted cap calls call.type = some call :=
      firstAccepted_split.mpr ⟨rfl, before, after, taken.trans split, fun other among same =>
        earlier ⟨other, among, same⟩⟩
    obtain ⟨tlv, found, read⟩ := finds (fun _ => 0) call.type call first
    exact AddValue.short_of_found small found read

/-- A value is never empty. -/
theorem AddValue.encoded_ne_nil {value : AddValue} (short : value.Short) : value.encoded ≠ [] := by
  obtain ⟨item, written⟩ := item_of_short short
  rw [← written]
  exact List.ne_nil_of_length_pos item.length_pos

/-- Where every accepted field is found, the map was closed well. -/
theorem FindsAccepted.closes {cap : Nat} {calls : List AddCall} (finds : FindsAccepted cap calls)
    (room : 2 ≤ cap) (small : cap ≤ 65535)
    (fits : Machine.Always addStep FitsOrFull (ykpTlvBuilderInit cap) calls)
    (short : ∀ call ∈ fitting cap calls, call.value.Short) : ClosesWell cap calls := by
  obtain ⟨size, bounded⟩ := addRun_bounded (show 0 < cap by omega) calls
  obtain ⟨taken, built⟩ := addRun_bytes fits
  by_contra badly
  rw [ClosesWell, not_or, not_or] at badly
  obtain ⟨filled, differs, fresh⟩ := badly
  rcases List.eq_nil_or_concat (fitting cap calls) with none | ⟨before, last, split⟩
  · -- The opening byte alone leaves room.
    rw [none] at filled
    exact filled room
  rw [List.concat_eq_append] at split
  -- The last field is the first one of its type, so the walk comes to it.
  have apart : ∀ earlier ∈ before, earlier.type ≠ last.type := fun earlier member same =>
    fresh ⟨before, last, split, earlier, member, same⟩
  have first : firstAccepted cap calls last.type = some last :=
    firstAccepted_split.mpr ⟨rfl, before, [], taken.trans split, apart⟩
  rw [split] at short built filled differs
  obtain ⟨fields, keys, written⟩ := fields_of_short_calls fun earlier member =>
    short earlier (List.mem_append_left _ member)
  obtain ⟨init, final, value⟩ : ∃ init final, last.value.encoded = init ++ [final] := by
    rcases List.eq_nil_or_concat last.value.encoded with none | ⟨init, final, value⟩
    · exact absurd none (AddValue.encoded_ne_nil
        (short last (List.mem_append_right _ (List.mem_singleton_self last))))
    · exact ⟨init, final, value.trans List.concat_eq_append⟩
  have bytes : (before ++ [last]).flatMap AddCall.bytes =
      fieldBytes fields ++ (keyBytes last.type ++ init) ++ [final] := by
    rw [List.flatMap_append, List.flatMap_singleton, written, AddCall.bytes, value]
    simp only [List.append_assoc]
  have full : ¬ (addRun cap calls).buf.length < (addRun cap calls).cap := by
    rwa [size, built, List.length_append, List.length_singleton]
  have closed : closedMap cap calls =
      [0xBF] ++ (fieldBytes fields ++ (keyBytes last.type ++ init)) ++ [0xFF] := by
    rw [closedMap, ykpTlvBuilderLen_full bounded full, built, bytes, ← List.append_assoc,
      List.dropLast_concat]
  obtain ⟨tlv, found, read⟩ := finds (fun _ => 0) last.type last first
  -- The last byte of the value is read where the break byte stands.
  have broken := ykpTlvFind_last closed (fun other member => by
    obtain ⟨earlier, among, same⟩ := keys other member
    exact same ▸ apart earlier among)
    (Nat.le_trans (ykpTlvBuilderLen_le bounded size (by omega)) small) found (read.trans value)
  rw [bytes, broken, List.getLast?_concat] at differs
  exact differs rfl

/-- In a map of any capacity a call that fails changes nothing, and every accepted field is found with
its value bytes, when the map is built well; as long as repeated types take short arguments, only
then. -/
theorem accepted_fields_survive (cap : UInt16) (room : 2 ≤ cap.toNat) (calls : List AddCall) :
    (BuildsWell cap.toNat calls → AcceptedSurvive cap.toNat calls) ∧
      (RepeatsShort cap.toNat calls →
        (AcceptedSurvive cap.toNat calls ↔ BuildsWell cap.toNat calls)) := by
  have small : cap.toNat ≤ 65535 := Nat.le_of_lt_succ cap.toNat_lt
  have quiet := @Machine.always_congr _ _ addStep (ykpTlvBuilderInit cap.toNat) FailsQuietly FitsOrFull
    failsQuietly_iff calls
  have enough (well : BuildsWell cap.toNat calls) : AcceptedSurvive cap.toNat calls :=
    ⟨quiet.mpr well.fits, well.finds room small⟩
  refine ⟨enough, fun repeats => ⟨?_, enough⟩⟩
  -- Each part of the condition follows from the ones before.
  rintro ⟨unchanged, finds⟩
  have fits := quiet.mp unchanged
  obtain ⟨size, bounded⟩ := addRun_bounded (show 0 < cap.toNat by omega) calls
  have length : (closedMap cap.toNat calls).length ≤ 65535 :=
    Nat.le_trans (ykpTlvBuilderLen_le bounded size (by omega)) small
  have short := finds.short length (addRun_bytes fits).1 repeats
  exact ⟨fits, short, finds.closes room small fits short⟩

/-- Two fields of one type fill a buffer of five bytes, and a third one finds no room. -/
def fullCalls : List AddCall :=
  [⟨1, .tlv (.uint8 5)⟩, ⟨1, .tlv (.uint8 6)⟩, ⟨2, .float 0x3F800000⟩]

theorem accepted_fields_survive_full : AcceptedSurvive 5 fullCalls :=
  (accepted_fields_survive 5 (by decide) fullCalls).1
    { fits := ⟨by decide, by decide, by decide, trivial⟩
      short := by
        have both : fitting 5 fullCalls = [⟨1, .tlv (.uint8 5)⟩, ⟨1, .tlv (.uint8 6)⟩] := rfl
        have trivially : ∀ call ∈ [(⟨1, .tlv (.uint8 5)⟩ : AddCall), ⟨1, .tlv (.uint8 6)⟩],
            call.value.Short := by simp [AddValue.Short, TlvValue.Short]
        exact fun call member => trivially call (both ▸ member)
      closes := .inr (.inr ⟨[⟨1, .tlv (.uint8 5)⟩], ⟨1, .tlv (.uint8 6)⟩, rfl, ⟨1, .tlv (.uint8 5)⟩,
        List.mem_singleton_self _, rfl⟩) }

/-- The only field of a map fills its buffer, and the break byte replaces its value. -/
theorem break_replaces_value :
    ¬ ∀ cap : UInt16, 2 ≤ cap.toNat → ∀ calls, AcceptedSurvive cap.toNat calls := by
  intro claim
  obtain ⟨tlv, found, read⟩ := (claim 3 (by decide) [⟨1, .tlv (.uint8 5)⟩]).2 (fun _ => 0) 1
    ⟨1, .tlv (.uint8 5)⟩ rfl
  have replaced : ykpTlvFind (memoryOf (closedMap 3 [⟨1, .tlv (.uint8 5)⟩]) fun _ => 0) 3 1 =
      .found ⟨1, 1, 2⟩ := by decide
  obtain rfl := TlvLookup.found.inj (replaced.symm.trans found)
  exact absurd read (by decide)

end Ykp.System
