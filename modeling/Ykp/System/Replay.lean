import Ykp.Backend.Forgery
import Ykp.Backend.NoReplay
import Ykp.Firmware.Forgery
import Ykp.Firmware.NoReplay

/-! The replay protection of both ends: ids under one key, and packets with a wrong tag. -/

namespace Ykp.System

open Firmware Backend SlidingWindow

/-- Over every run whose handshakes activate sessions before anything was handed to a service under
their key, neither end hands a packet id to a service twice under one key. -/
theorem ids_used_once (deviceCrypto : DeviceCrypto) (serverCrypto : ServerCrypto)
    (deviceId : DeviceId) (deviceInputs : List (DeviceInput × DeviceEnv))
    (serverInputs : List ServerInput) :
    (Machine.Always (deviceStep deviceCrypto) Firmware.ActivatesFresh (bootDevice deviceId)
        deviceInputs →
      (idsUnderKey (deviceRun deviceCrypto deviceId deviceInputs).log).Nodup) ∧
      (Machine.Always (serverStep serverCrypto) (Backend.ActivatesFresh serverCrypto) startServer
          serverInputs →
        ∀ other serial, (idsUnder other serial (serverRun serverCrypto serverInputs).log).Nodup) := by
  constructor
  · intro fresh
    exact Firmware.ids_nodup deviceCrypto deviceId fresh
  · intro fresh other serial
    exact Backend.ids_nodup serverCrypto fresh other serial

/-- A handshake of the device, and a command for its relay. -/
def handshakeThenCommand : List (DeviceInput × DeviceEnv) :=
  Firmware.sampleHandshake ++ [(.packet (barePacket 5 .relay RelayAction.on.byte), sampleEnv)]

set_option maxRecDepth 4000 in
theorem ids_used_once_sample :
    (idsUnderKey (deviceRun tagless sampleDevice handshakeThenCommand).log).Nodup ∧
      (idsUnder sampleId 0 (serverRun openCrypto handshakeThenReport).log).Nodup :=
  have both := ids_used_once tagless openCrypto sampleDevice handshakeThenCommand handshakeThenReport
  ⟨both.1 (by decide +kernel), both.2 (by decide +kernel) sampleId 0⟩

/-- The command again, behind a second SESSION_ACTIVE. -/
def reactivated : List (DeviceInput × DeviceEnv) :=
  handshakeThenCommand ++
    [(.packet (barePacket 2 .security SecAction.sessionActive.byte), sampleEnv),
      (.packet (barePacket 5 .relay RelayAction.on.byte), sampleEnv)]

/-- The report again, behind a second ECDH_RESPONSE. -/
def reanswered : List ServerInput :=
  handshakeThenReport ++ [.message 1 sampleResponse, .message 1 sampleReport]

set_option maxRecDepth 4000 in
/-- A handshake packet that is delivered again opens either end to ids it has used. -/
theorem ids_used_twice :
    ¬ (idsUnderKey (deviceRun tagless sampleDevice reactivated).log).Nodup ∧
      ¬ (idsUnder sampleId 0 (serverRun openCrypto reanswered).log).Nodup := by
  have device : idsUnderKey (deviceRun tagless sampleDevice reactivated).log = [5, 5] := by
    decide +kernel
  have server : idsUnder sampleId 0 (serverRun openCrypto reanswered).log = [4, 4] := by
    decide +kernel
  -- Each end has handed the one id to a service twice.
  rw [device, server]
  decide

/-- A packet with a wrong tag keeps the replay window of either end exactly when it does not get as
far as its tag: without an active session, or with an id that the window does not admit. -/
theorem forgery_keeps_window_iff (deviceCrypto : DeviceCrypto) (env : DeviceEnv) (device : Device)
    (raw : Bytes) (received : YkpPacket) (serverCrypto : ServerCrypto) (server : Server)
    (conn : ConnId) (data : Bytes) (pkt : ServerPacket) (session : DeviceSession) :
    (Firmware.Forged deviceCrypto device.secCtx.session raw received →
      (Firmware.KeepsWindow device.replay
          (handleIncomingPacket deviceCrypto env raw device).replay ↔
        device.session.state ≠ .active ∨
          ¬ device.replay.window.Admits ykpReplayWindowSize received.header.packetId)) ∧
      (server.sessions (server.deviceIdOf conn) = some session →
        Backend.Forged serverCrypto session data pkt →
        ((∃ left, (handleMessage serverCrypto server conn data).sessions (server.deviceIdOf conn) =
            some left ∧ Backend.KeepsWindow session.replayGuard left.replayGuard) ↔
          session.state ≠ .active ∨
            ¬ session.replayGuard.window.Admits ykpReplayWindowSize pkt.header.packetId)) := by
  constructor
  · intro forged
    exact Firmware.forged_keepsWindow_iff env forged
  · intro found forged
    exact Backend.forged_keepsWindow_iff found forged

/-- The header of a command for the relay that claims to be encrypted. -/
def forgedHeader : YkpHeader :=
  (ykpPacketSetHeader ykpPacketAlloc 100 0 serverName sampleDevice.bytes .direct .relay
    RelayAction.on.byte .qos0 true).header

/-- A command with one byte of payload and a tag of zeros. -/
def forgedCommand : Bytes := headerBytes forgedHeader 1 ++ (1 :: List.replicate ykpAuthTagSize 0)

/-- The command as it is parsed. -/
def forgedCommandPacket : YkpPacket :=
  ⟨{ forgedHeader with payloadLen := 1 }, some [1], List.replicate ykpAuthTagSize 0, 1⟩

/-- No library that never finds a tag right accepts the command. -/
theorem forgedCommand_forged (keys : SessionKeys) :
    Firmware.Forged tagless keys forgedCommand forgedCommandPacket where
  parsed := by decide +kernel
  data := ⟨by decide, by decide⟩
  flagged := by decide
  unverified := ⟨[1], rfl, by simp [ykpSecurityDecrypt, tagless]⟩

/-- A crypto module that finds no tag right. -/
def refusing : ServerCrypto := { openCrypto with gcmDecrypt := fun _ _ _ _ _ => none }

/-- A sensor report that claims to be encrypted. -/
def forgedReport : Bytes :=
  (buildPacket
    { packetId := 100, sessionId := 0, sourceId := sampleId, destId := serverId
      routeType := .cloud, serviceId := Service.sensor.byte.toNat
      actionId := SensorAction.report.byte.toNat, qos := .qos0, encrypted := true
      payload := some [1] }).getD []

/-- The report as it is parsed. -/
def forgedReportPacket : ServerPacket where
  header := ⟨flagEncrypted, 100, 0, sampleId, serverId, RouteType.cloud.byte, Service.sensor.byte,
    SensorAction.report.byte, 1⟩
  payload := [1]
  authTag := List.replicate ykpAuthTagSize 0
  raw := forgedReport

/-- A session that waits for its ECDH_RESPONSE. -/
def waitingSession : DeviceSession := pendingSession [] sampleDraws [] ⟨1, 1, [], []⟩ 0

/-- A server on which every device has this session. -/
def waitingServer : Server := { startServer with sessions := fun _ => some waitingSession }

theorem forgery_keeps_window_sample :
    Firmware.KeepsWindow (bootDevice sampleDevice).replay
        (handleIncomingPacket tagless sampleEnv forgedCommand (bootDevice sampleDevice)).replay ∧
      ∃ left, (handleMessage refusing waitingServer 1 forgedReport).sessions [] = some left ∧
        Backend.KeepsWindow waitingSession.replayGuard left.replayGuard := by
  have forged : Backend.Forged refusing waitingSession forgedReport forgedReportPacket :=
    ⟨by decide +kernel, by decide, by decide, rfl⟩
  have both := forgery_keeps_window_iff tagless sampleEnv (bootDevice sampleDevice) forgedCommand
    forgedCommandPacket refusing waitingServer 1 forgedReport forgedReportPacket waitingSession
  exact ⟨(both.1 (forgedCommand_forged _)).mpr (.inl (by decide)),
    (both.2 rfl forged).mpr (.inl (by decide))⟩

set_option maxRecDepth 4000 in
/-- In an active session a forged packet with a high id locks out a genuine one with a lower id. -/
theorem forgery_moves_window :
    let active := deviceRun tagless sampleDevice Firmware.sampleHandshake
    let after := handleIncomingPacket tagless sampleEnv forgedCommand active
    Firmware.Forged tagless active.secCtx.session forgedCommand forgedCommandPacket ∧
      ¬ Firmware.KeepsWindow active.replay after.replay := by
  refine ⟨forgedCommand_forged _, fun keeps => ?_⟩
  -- The id of five was free, and lies below the window of the forged one.
  have genuine := keeps.2 5 (by decide +kernel)
  exact absurd genuine (by decide +kernel)

end Ykp.System
