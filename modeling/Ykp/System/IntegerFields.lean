import Ykp.Codec.TlvReaders
import Ykp.System.BuilderOverflow

/-! Integer fields of every width and sign that the firmware writes and reads back itself. -/

namespace Ykp.System

open BigEndian

/-- Every call finds its field accepted. -/
def AllAccepted (cap : Nat) (calls : List AddCall) : Prop :=
  Machine.Always addStep (fun b call => (call.addTo b).2 = true) (ykpTlvBuilderInit cap) calls

instance (cap : Nat) (calls : List AddCall) : Decidable (AllAccepted cap calls) :=
  inferInstanceAs (Decidable (Machine.Always _ _ _ _))

/-- When every call returned true, the calls that were accepted are all of them. -/
theorem acceptedFrom_all {b : YkpTlvBuilder} {calls : List AddCall}
    (all : Machine.Always addStep (fun b call => (call.addTo b).2 = true) b calls) :
    acceptedFrom b calls = calls := by
  -- The builder is general, as each call continues where the one before stopped.
  induction calls generalizing b with
  | nil => rfl
  | cons call rest ih =>
    obtain ⟨here, later⟩ := all
    rw [acceptedFrom, if_pos here, ih later]

/-- What takes less than 256 bytes is short. -/
theorem AddValue.short_of_length {value : AddValue} (less : value.encoded.length < 256) :
    value.Short := by
  cases value with
  | tlv value => exact TlvValue.short_of_length less
  | float val => trivial

/-- A map of up to 256 bytes whose calls all returned true and left room is built well. -/
theorem buildsWell_of_accepted {cap : Nat} {calls : List AddCall} (small : cap ≤ 256)
    (all : AllAccepted cap calls) (below : (addRun cap calls).buf.length < cap) :
    BuildsWell cap calls := by
  -- A call that returned true found room for its whole field.
  have fits : Machine.Always addStep FitsOrFull (ykpTlvBuilderInit cap) calls := by
    refine @Machine.always_of_invariant _ _ addStep _ (fun _ => True) _ _ (fun _ _ _ _ => trivial)
      ?_ _ trivial all
    intro b call _ ok
    exact .inl ((call.addTo_iff b).mp ok)
  obtain ⟨-, built⟩ := addRun_bytes fits
  have length := congrArg List.length built
  rw [List.length_append, List.length_singleton] at length
  refine ⟨fits, ?_, .inl (by omega)⟩
  intro call member
  apply AddValue.short_of_length
  -- The value is a part of what all fields together take.
  have within : call.bytes.length ≤ ((fitting cap calls).flatMap AddCall.bytes).length :=
    (List.sublist_flatten_of_mem (List.mem_map_of_mem member)).length_le
  rw [AddCall.bytes, List.length_append] at within
  omega

/-- Integer fields round trip on the device: in a map of up to 256 bytes that was built by calls that
all returned true and left room, the entry found for a type whose first field is a 64-bit integer is
read by exactly those readers whose type can hold it, and one whose first field is a signed integer
gives it back. -/
theorem integerFields_roundTrip (cap : Nat) (small : cap ≤ 256) (calls : List AddCall)
    (all : AllAccepted cap calls) (below : (addRun cap calls).buf.length < cap) (beyond : Memory)
    (type : UInt8) (call : AddCall) (first : calls.find? (·.type == type) = some call) :
    let payload := memoryOf (closedMap cap calls) beyond
    ∃ tlv, ykpTlvFind payload (closedMap cap calls).length type = .found tlv ∧
      (∀ v : UInt64, call.value = .tlv (.uint64 v) →
        ykpTlvReadUint8 payload tlv = (if v.toNat < 2 ^ 8 then some v.toNat else none) ∧
        ykpTlvReadUint16 payload tlv = (if v.toNat < 2 ^ 16 then some v.toNat else none) ∧
        ykpTlvReadUint32 payload tlv = (if v.toNat < 2 ^ 32 then some v.toNat else none) ∧
        ykpTlvReadUint64 payload tlv = (if v.toNat < 2 ^ 64 then some v.toNat else none)) ∧
      ∀ v : Int32, call.value = .tlv (.int32 v) → ykpTlvReadInt32 payload tlv = some v := by
  intro payload
  have well := buildsWell_of_accepted small all below
  have accepted : firstAccepted cap calls type = some call := by
    rw [firstAccepted, accepted, acceptedFrom_all all]
    exact first
  -- The walk stops at the first field of the type, and its value is the encoded one.
  have room : 2 ≤ cap := by
    have length := congrArg List.length (addRun_bytes well.fits).2
    rw [List.length_append, List.length_singleton] at length
    omega
  obtain ⟨tlv, found, written⟩ := well.finds room (by omega) beyond type call accepted
  refine ⟨tlv, found, ?_, ?_⟩
  · intro v value
    rw [value] at written
    exact ykpTlvReadUint_iff written v.toNat_lt
  · intro v value
    rw [value] at written
    exact ykpTlvReadInt32_written written

/-- The greatest 64-bit integer behind a half-precision number, and the least signed one behind
both. -/
def integerCalls : List AddCall :=
  [⟨1, .float 0x3F800000⟩, ⟨0x20, .tlv (.uint64 0xFFFFFFFFFFFFFFFF)⟩,
    ⟨TlvType.rssi.byte, .tlv (.int32 (-2147483648))⟩, ⟨0x20, .tlv (.uint8 1)⟩]

theorem integerFields_roundTrip_sample :
    let payload := memoryOf (closedMap 256 integerCalls) fun _ => 0
    ∃ tlv, ykpTlvFind payload (closedMap 256 integerCalls).length 0x20 = .found tlv ∧
      (∀ v : UInt64, (AddValue.tlv (.uint64 0xFFFFFFFFFFFFFFFF)) = .tlv (.uint64 v) →
        ykpTlvReadUint8 payload tlv = (if v.toNat < 2 ^ 8 then some v.toNat else none) ∧
        ykpTlvReadUint16 payload tlv = (if v.toNat < 2 ^ 16 then some v.toNat else none) ∧
        ykpTlvReadUint32 payload tlv = (if v.toNat < 2 ^ 32 then some v.toNat else none) ∧
        ykpTlvReadUint64 payload tlv = (if v.toNat < 2 ^ 64 then some v.toNat else none)) ∧
      ∀ v : Int32, (AddValue.tlv (.uint64 0xFFFFFFFFFFFFFFFF)) = .tlv (.int32 v) →
        ykpTlvReadInt32 payload tlv = some v :=
  integerFields_roundTrip 256 (by decide) integerCalls (by decide) (by decide) (fun _ => 0) 0x20
    ⟨0x20, .tlv (.uint64 0xFFFFFFFFFFFFFFFF)⟩ rfl

end Ykp.System
