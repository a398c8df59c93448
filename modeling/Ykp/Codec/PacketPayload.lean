import Ykp.Codec.PacketLimits
import Ykp.Foundation.Machine

/-! How a packet keeps its books about its payload when the payload is set again and again. -/

namespace Ykp

/-- A call that sets the payload: the data, none of it for a null pointer, and whether memory for it
can be allocated. -/
structure PayloadCall where
  mallocOk : Bool
  data : Bytes
  short : data.length < 65536

/-- A packet after one call. -/
def YkpPacket.called (pkt : YkpPacket) (call : PayloadCall) : YkpPacket :=
  ykpPacketSetPayload pkt call.mallocOk call.data

/-- A freshly allocated packet after a list of calls. -/
def calledPacket (calls : List PayloadCall) : YkpPacket :=
  Machine.run YkpPacket.called ykpPacketAlloc calls

/-- The payload is null exactly when its length is zero, and the header announces that length. -/
structure YkpPacket.Booked (pkt : YkpPacket) : Prop where
  null : pkt.payload = none ↔ pkt.payloadLen = 0
  announced : pkt.header.payloadLen = pkt.payloadLen

/-- Serialising into any buffer it takes for large enough writes the whole range it reports, with the
tag directly behind a payload of the announced length. -/
def YkpPacket.FillsRange (pkt : YkpPacket) : Prop :=
  ∀ outSize, (ykpHeaderSize + pkt.payloadLen + ykpAuthTagSize) % 65536 ≤ outSize →
    let out := ykpPacketSerialise pkt outSize
    out.total ≤ out.written.length ∧
      ∃ body, body.length = pkt.payloadLen ∧
        out.written = headerBytes pkt.header pkt.payloadLen ++ (body ++ pkt.authTag)

/-- An allocation fails only while the packet has no payload. -/
def FailsEmpty (pkt : YkpPacket) (call : PayloadCall) : Prop :=
  call.data ≠ [] → call.mallocOk = false → pkt.payloadLen = 0

/-- A packet whose books are right and whose fields have their sizes. -/
structure YkpPacket.Sound (pkt : YkpPacket) : Prop where
  booked : pkt.Booked
  consistent : pkt.Consistent

/-- A packet with right books is serialised over the whole range. -/
theorem YkpPacket.Sound.fillsRange {pkt : YkpPacket} (sound : pkt.Sound) : pkt.FillsRange := by
  intro outSize taken out
  obtain ⟨length, total⟩ := serialise_length sound.consistent taken
  refine ⟨?_, pkt.payload.getD [], sound.consistent.length.symm, ?_⟩
  · rw [length, total]
    exact Nat.mod_le _ _
  · -- The payload is copied whole, or there is none.
    have copied : (if pkt.payloadLen = 0 then [] else (pkt.payload.getD []).take pkt.payloadLen) =
        pkt.payload.getD [] := by
      have size := sound.consistent.length
      split
      · rename_i empty
        exact (List.eq_nil_of_length_eq_zero (size ▸ empty)).symm
      · rw [size, List.take_length]
    unfold out ykpPacketSerialise
    dsimp only
    rw [if_neg (Nat.not_lt.mpr taken), copied]

/-- Without data the payload is cleared, and both lengths with it. -/
theorem YkpPacket.Sound.cleared {pkt : YkpPacket} (sound : pkt.Sound) {call : PayloadCall}
    (empty : call.data = []) : (pkt.called call).Sound := by
  obtain ⟨-, filled, tagged, -⟩ := sound
  unfold YkpPacket.called ykpPacketSetPayload
  rw [if_pos (by rw [empty]; rfl)]
  exact ⟨⟨iff_of_true rfl rfl, rfl⟩, ⟨filled.source, filled.dest⟩, tagged, rfl⟩

/-- Data that could be copied is booked with its length. -/
theorem YkpPacket.Sound.copied {pkt : YkpPacket} (sound : pkt.Sound) {call : PayloadCall}
    (filled_ : call.data ≠ []) (ok : call.mallocOk = true) : (pkt.called call).Sound := by
  obtain ⟨-, filled, tagged, -⟩ := sound
  have some_ : call.data.length ≠ 0 := fun zero => filled_ (List.eq_nil_of_length_eq_zero zero)
  unfold YkpPacket.called ykpPacketSetPayload
  rw [if_neg some_, if_pos ok]
  exact ⟨⟨by simp [some_], rfl⟩, ⟨filled.source, filled.dest⟩, tagged, rfl⟩

/-- When the memory for new data is missing, the old payload is gone and its length stays. -/
theorem called_failed (pkt : YkpPacket) {call : PayloadCall} (filled : call.data ≠ [])
    (failed : call.mallocOk = false) : pkt.called call = { pkt with payload := none } := by
  have some_ : call.data.length ≠ 0 := fun zero => filled (List.eq_nil_of_length_eq_zero zero)
  unfold YkpPacket.called ykpPacketSetPayload
  rw [if_neg some_, if_neg (by simp [failed])]

/-- A call leaves the books right, and the packet sound, exactly when it does not fail to replace a
payload. -/
theorem called_booked_iff {pkt : YkpPacket} (sound : pkt.Sound) (call : PayloadCall) :
    ((pkt.called call).Booked ↔ FailsEmpty pkt call) ∧
      (FailsEmpty pkt call → (pkt.called call).Sound) := by
  -- No data, data that could be copied, and data without memory for it.
  by_cases empty : call.data = []
  · have cleared := sound.cleared empty
    exact ⟨iff_of_true cleared.booked fun filled => absurd empty filled, fun _ => cleared⟩
  cases allocated : call.mallocOk with
  | true =>
    have copied := sound.copied empty allocated
    refine ⟨iff_of_true copied.booked ?_, fun _ => copied⟩
    intro _ failed
    rw [allocated] at failed
    cases failed
  | false =>
    unfold FailsEmpty
    rw [called_failed pkt empty allocated, allocated]
    -- A packet that had no payload stays as it was.
    have kept (zero : pkt.payloadLen = 0) : ({ pkt with payload := none } : YkpPacket).Sound :=
      ⟨⟨iff_of_true rfl zero, sound.booked.announced⟩, sound.consistent.filled,
        sound.consistent.tagged, zero⟩
    refine ⟨⟨fun booked _ _ => booked.null.mp rfl, fun fails => ?_⟩, fun fails => ?_⟩
    · exact (kept (fails empty rfl)).booked
    · exact kept (fails empty rfl)

/-- Over every sequence of calls on a fresh packet, after each call the payload is null exactly when
its length is zero, the header announces that length and serialising writes the whole range it
reports, exactly when no allocation fails while the packet has a payload. -/
theorem payload_books_iff (calls : List PayloadCall) :
    (∀ earlier, earlier <+: calls →
        (calledPacket earlier).Booked ∧ (calledPacket earlier).FillsRange) ↔
      Machine.Always YkpPacket.called FailsEmpty ykpPacketAlloc calls := by
  have start : ykpPacketAlloc.Sound := ⟨⟨iff_of_true rfl rfl, rfl⟩, ⟨rfl, rfl⟩, rfl, rfl⟩
  have exactly (pkt : YkpPacket) (call : PayloadCall) (sound : pkt.Sound) :
      (pkt.called call).Booked ∧ (pkt.called call).FillsRange ↔ FailsEmpty pkt call := by
    obtain ⟨booked, keeps⟩ := called_booked_iff sound call
    -- Right books are enough for the range to be filled.
    constructor
    · intro good
      exact booked.mp good.1
    · intro fails
      exact ⟨booked.mpr fails, (keeps fails).fillsRange⟩
  exact @Machine.prefixes_iff_always _ _ _ _ YkpPacket.Sound
    (fun pkt => pkt.Booked ∧ pkt.FillsRange) _ exactly
    (fun pkt call sound => (called_booked_iff sound call).2) _ start
    ⟨start.booked, start.fillsRange⟩

/-- Five bytes, and then three more for which there is no memory. -/
def lostPayload : List PayloadCall :=
  [⟨true, [1, 2, 3, 4, 5], by decide⟩, ⟨false, [6, 7, 8], by decide⟩]

/-- The lost payload is null but still counted, and serialising leaves five bytes of the range
unwritten. -/
theorem payload_lost :
    ¬ (calledPacket lostPayload).Booked ∧ ¬ (calledPacket lostPayload).FillsRange := by
  constructor
  · intro booked
    exact absurd (booked.null.mp rfl) (by decide)
  · intro fills
    have range := (fills 64 (by decide)).1
    exact absurd range (by decide +kernel)

end Ykp
