import Ykp.Backend.Steps

/-! What a packet with a wrong tag does to the server's replay guard. -/

namespace Ykp.Backend

open SlidingWindow

/-- A packet behind the gate that is marked as encrypted and does not verify under a session. -/
structure Forged (crypto : ServerCrypto) (session : DeviceSession) (data : Bytes)
    (pkt : ServerPacket) : Prop where
  parsed : parsePacket data = some pkt
  gated : Gated pkt
  flagged : pkt.header.flags &&& flagEncrypted ≠ 0
  unverified : decrypt crypto session.sessionKey session.sessionId pkt.header.packetId
    (pkt.raw.take ykpHeaderSize) pkt.payload pkt.authTag = none

/-- The highest id and the window bits stay, and every id accepted before is accepted after. -/
def KeepsWindow (before after : ReplayGuard) : Prop :=
  after.window = before.window ∧
    ∀ packetId, (before.check packetId).1 = true → (after.check packetId).1 = true

/-- A check keeps the window exactly when it rejects. -/
theorem check_keepsWindow_iff (guard : ReplayGuard) (packetId : Nat) :
    KeepsWindow guard (guard.check packetId).2 ↔
      ¬ guard.window.Admits ykpReplayWindowSize packetId := by
  rw [← ReplayGuard.check_iff]
  constructor
  · -- An accepted id is one that is not accepted afterwards.
    rintro ⟨-, still⟩ accepted
    exact ReplayGuard.check_accepted accepted
      ((ReplayGuard.check_iff _ _).mp (still packetId accepted))
  -- A rejected one leaves the guard as it was.
  · intro rejected
    rw [ReplayGuard.check_rejected (by simpa using rejected)]
    exact ⟨rfl, fun _ accepted => accepted⟩

/-- A forged packet of an active session is registered before it is dropped. -/
theorem handleMessage_forged {crypto : ServerCrypto} {server : Server} {conn : ConnId}
    {data : Bytes} {pkt : ServerPacket} {session : DeviceSession}
    (found : server.sessions (server.deviceIdOf conn) = some session)
    (forged : Forged crypto session data pkt) :
    (handleMessage crypto server conn data).sessions (server.deviceIdOf conn) =
      if session.state = .active then
        some (session.checked pkt.header.packetId session.packetCounter)
      else some session := by
  obtain ⟨parsed, ⟨noHello, noResponse⟩, flagged, unverified⟩ := forged
  have dropped : openPacket crypto session pkt = none := by
    rw [openPacket, if_pos flagged, unverified]
    rfl
  -- Counting the message changes no identity and no session.
  have handled : handleMessage crypto server conn data =
      handleData crypto { server with seq := server.seq + 1 } conn pkt := by
    simp only [handleMessage, parsed, handlePacket]
    exact (if_neg noHello).trans (if_neg noResponse)
  rw [handled]
  simp only [handleData, getSession]
  have same : Server.deviceIdOf { server with seq := server.seq + 1 } conn =
      server.deviceIdOf conn := rfl
  simp only [same, found, dropped]
  -- Only an active session gets as far as its guard.
  by_cases active : session.state = .active
  · simp only [active, ne_eq, not_true_eq_false, if_false, if_true, ite_self]
    simp [Server.updateSession, found, DeviceSession.checked]
  · simp only [active, ne_eq, not_false_eq_true, if_true, if_false, found]

/-- A forged packet keeps the window of its session exactly when it does not get as far as its tag:
while the session is not active, or with an id that the window does not admit. -/
theorem forged_keepsWindow_iff {crypto : ServerCrypto} {server : Server} {conn : ConnId}
    {data : Bytes} {pkt : ServerPacket} {session : DeviceSession}
    (found : server.sessions (server.deviceIdOf conn) = some session)
    (forged : Forged crypto session data pkt) :
    (∃ left, (handleMessage crypto server conn data).sessions (server.deviceIdOf conn) = some left ∧
        KeepsWindow session.replayGuard left.replayGuard) ↔
      session.state ≠ .active ∨
        ¬ session.replayGuard.window.Admits ykpReplayWindowSize pkt.header.packetId := by
  rw [handleMessage_forged found forged]
  -- An active session has checked the id; any other one is as it was.
  by_cases active : session.state = .active
  · rw [if_pos active, ← check_keepsWindow_iff]
    simp [active, DeviceSession.checked]
  · rw [if_neg active]
    have same : KeepsWindow session.replayGuard session.replayGuard :=
      ⟨rfl, fun _ accepted => accepted⟩
    simp [active, same]

end Ykp.Backend
