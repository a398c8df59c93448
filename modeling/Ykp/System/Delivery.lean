import Mathlib.Data.List.Range
import Ykp.Backend.Written
import Ykp.Codec.DevicePacket
import Ykp.Firmware.Replay

/-! The numbers the server writes under a session, at the device's replay check. -/

namespace Ykp.System

open BigEndian Firmware Backend SlidingWindow

/-- The packet id at which the device's replay check looks; none for bytes that are no packet, and
for an acknowledgement. -/
def checkedId (raw : Bytes) : Option Nat :=
  (ykpPacketParse raw).bind fun pkt =>
    if pkt.header.flags &&& flagAck = 0 then some pkt.header.packetId else none

/-- What the check returns for ids that arrive in order behind a SESSION_ACTIVE. -/
def verdicts (ctx : YkpReplayCtx) (ids : List Nat) : List Bool :=
  Machine.answers (fun ctx pktId => (ykpReplayCheck ctx pktId).2)
    (fun ctx pktId => (ykpReplayCheck ctx pktId).1) ctx ids

/-- The id that is looked at is the one in the header. -/
theorem checkedId_eq {raw : Bytes} {pktId : Nat} (checked : checkedId raw = some pktId) :
    packetIdOf raw = pktId := by
  obtain ⟨pkt, parsed, same⟩ := Option.bind_eq_some_iff.mp checked
  obtain ⟨-, same⟩ := Option.ite_none_right_eq_some.mp same
  rw [← Option.some.inj same]
  unfold ykpPacketParse at parsed
  dsimp only at parsed
  -- The parser reads the id where the server wrote it.
  split_ifs at parsed
  all_goals
    rw [← Option.some.inj parsed]
    rfl

/-- The ids that are looked at are among those of the packets, in the same order. -/
theorem checkedIds_sublist (received : List Bytes) :
    (received.filterMap checkedId).Sublist (received.map packetIdOf) := by
  induction received with
  | nil => exact List.Sublist.slnil
  | cons raw rest ih =>
    rw [List.map_cons]
    -- A packet is looked at or left out.
    cases checked : checkedId raw with
    | none =>
      rw [List.filterMap_cons_none checked]
      exact ih.cons _
    | some pktId =>
      rw [List.filterMap_cons_some checked, checkedId_eq checked]
      exact ih.cons_cons _

/-- Ids that increase above everything accepted so far are accepted. -/
theorem verdicts_increasing {ctx : YkpReplayCtx} {accepted ids : List Nat}
    (tracks : ctx.Tracks accepted) (increasing : ids.Pairwise (· < ·))
    (positive : ∀ pktId ∈ ids, pktId ≠ 0)
    (above : ∀ pktId ∈ ids, ∀ earlier ∈ accepted, earlier < pktId) :
    ∀ verdict ∈ verdicts ctx ids, verdict = true := by
  -- The window moves up with every id, so each id is accepted in front of the rest.
  induction ids generalizing ctx accepted with
  | nil => simp [verdicts]
  | cons pktId rest ih =>
    obtain ⟨first, later⟩ := List.pairwise_cons.mp increasing
    obtain ⟨exact_, next⟩ := ykpReplayCheck_refines pktId tracks
    have fresh : (ykpReplayCheck ctx pktId).1 = true :=
      exact_.mpr (accepts_of_above (above pktId List.mem_cons_self) (positive pktId List.mem_cons_self))
    rw [if_pos fresh] at next
    -- The rest lies above the accepted id as well.
    have rest_above : ∀ other ∈ rest, ∀ earlier ∈ pktId :: accepted, earlier < other := by
      intro other member earlier known
      rcases List.mem_cons.mp known with rfl | old
      · exact first other member
      · exact above other (List.mem_cons_of_mem _ member) earlier old
    have tail := ih next later (fun other member => positive other (List.mem_cons_of_mem _ member))
      rest_above
    intro verdict member
    rcases List.mem_cons.mp member with rfl | member
    · exact fresh
    · exact tail verdict member

/-- Over every run of the server, each session object of a device takes the numbers one, two, three
and so on, each carried by at most one packet, be it an acknowledgement, a command, the announcement
of an update or the action of a rule; the ids on the wire increase; and whatever part of these packets
a device receives in order behind its SESSION_ACTIVE, the replay check accepts every one it looks at. -/
theorem server_ids_fresh (crypto : ServerCrypto) (deviceId : JsString) (serial : Nat)
    (inputs : List ServerInput) :
    let taken := written crypto deviceId serial inputs
    NumberedFrom 1 taken ∧ (taken.flatten.map packetIdOf).Pairwise (· < ·) ∧
      ∀ received : List Bytes, received.Sublist taken.flatten →
        ∀ verdict ∈ verdicts ykpReplayReset (received.filterMap checkedId), verdict = true := by
  intro taken
  have numbered : NumberedFrom 1 taken := written_numbered crypto deviceId serial inputs
  have among := numbered.sublist
  have increasing : (taken.flatten.map packetIdOf).Pairwise (· < ·) :=
    (List.pairwise_lt_range' 1).sublist among
  refine ⟨numbered, increasing, fun received part => ?_⟩
  have part := (checkedIds_sublist received).trans (part.map packetIdOf)
  refine verdicts_increasing Firmware.tracks_reset (increasing.sublist part) ?_ (by simp)
  -- The numbers start at one.
  intro pktId member
  obtain ⟨low, -⟩ := List.mem_range'_1.mp (among.subset (part.subset member))
  omega

end Ykp.System
