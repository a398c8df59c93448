import Ykp.Firmware.Steps

/-! What a packet with a wrong tag does to the firmware's replay window. -/

namespace Ykp.Firmware

open SlidingWindow

/-- A packet for a service that is marked as encrypted and does not verify under the session keys. -/
structure Forged (crypto : DeviceCrypto) (keys : SessionKeys) (raw : Bytes) (pkt : YkpPacket) :
    Prop where
  parsed : ykpPacketParse raw = some pkt
  data : IsData pkt
  flagged : pkt.header.flags &&& flagEncrypted ≠ 0
  unverified : ∃ payload, pkt.payload = some payload ∧ ykpSecurityDecrypt crypto keys
    pkt.header.packetId (raw.take ykpHeaderSize) payload pkt.authTag = none

/-- The highest id and the window bits stay, and every id accepted before is accepted after. -/
def KeepsWindow (before after : YkpReplayCtx) : Prop :=
  after.window = before.window ∧
    ∀ pktId, (ykpReplayCheck before pktId).1 = true → (ykpReplayCheck after pktId).1 = true

/-- A check keeps the window exactly when it rejects. -/
theorem ykpReplayCheck_keepsWindow_iff (ctx : YkpReplayCtx) (pktId : Nat) :
    KeepsWindow ctx (ykpReplayCheck ctx pktId).2 ↔
      ¬ ctx.window.Admits ykpReplayWindowSize pktId := by
  rw [← ykpReplayCheck_iff]
  constructor
  · -- An accepted id is one that is not accepted afterwards.
    rintro ⟨-, still⟩ accepted
    exact ykpReplayCheck_accepted accepted ((ykpReplayCheck_iff _ _).mp (still pktId accepted))
  · intro rejected
    -- A rejected one leaves the context, made ready at most.
    have same : (ykpReplayCheck ctx pktId).2.window = ctx.window := by
      rw [ykpReplayCheck_rejected (by simpa using rejected), YkpReplayCtx.window, ready_ready,
        YkpReplayCtx.window]
    refine ⟨same, fun other accepted => ?_⟩
    rw [ykpReplayCheck_iff] at accepted ⊢
    rwa [same]

/-- A forged packet of an active session is registered before it is dropped. -/
theorem handleIncomingPacket_forged {crypto : DeviceCrypto} {raw : Bytes} {pkt : YkpPacket}
    {device : Device} (env : DeviceEnv) (forged : Forged crypto device.secCtx.session raw pkt) :
    (handleIncomingPacket crypto env raw device).replay =
      if device.session.state = .active then (ykpReplayCheck device.replay pkt.header.packetId).2
      else device.replay := by
  obtain ⟨parsed, ⟨plain, service⟩, flagged, payload, carries, unverified⟩ := forged
  simp only [handleIncomingPacket, parsed, plain, ne_eq, not_true_eq_false, if_false, service,
    handleData, ykpSessionIsActive]
  by_cases active : device.session.state = .active
  · -- Whether the check or the tag drops the packet, its verdict on the window stays.
    have opened (checked : Device) (keys : checked.secCtx.session = device.secCtx.session) :
        (openAndDispatch crypto env raw pkt checked).replay = checked.replay := by
      simp only [openAndDispatch, carries, if_pos flagged, keys, unverified]
      rfl
    simp only [active, beq_self_eq_true, Bool.not_true, Bool.false_eq_true, if_false, if_true]
    -- The check rejects the id, or the tag does not verify.
    split
    · rfl
    · exact opened _ rfl
  · simp [active]

/-- A forged packet keeps the window exactly when it does not get as far as its tag: without an
active session, or with an id that the window does not admit. -/
theorem forged_keepsWindow_iff {crypto : DeviceCrypto} {raw : Bytes} {pkt : YkpPacket}
    {device : Device} (env : DeviceEnv) (forged : Forged crypto device.secCtx.session raw pkt) :
    KeepsWindow device.replay (handleIncomingPacket crypto env raw device).replay ↔
      device.session.state ≠ .active ∨
        ¬ device.replay.window.Admits ykpReplayWindowSize pkt.header.packetId := by
  rw [handleIncomingPacket_forged env forged]
  -- An active session has checked the id; any other one has not touched the window.
  by_cases active : device.session.state = .active
  · rw [if_pos active, ykpReplayCheck_keepsWindow_iff]
    exact (or_iff_right (not_not_intro active)).symm
  · rw [if_neg active]
    exact iff_of_true ⟨rfl, fun _ accepted => accepted⟩ (.inl active)

end Ykp.Firmware
