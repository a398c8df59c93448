import Ykp.Firmware.Ota
import Ykp.Firmware.Qos
import Ykp.Firmware.Replay
import Ykp.Firmware.Session

/-! The firmware's global state, what it logs, and how packets leave it. -/

namespace Ykp.Firmware

open BigEndian

/-- A reading of the sensors; floating-point values are given by their single-precision pattern. -/
structure SensorReading where
  temperature : Nat
  humidity : Nat
  motion : Bool
  lightRaw : UInt16

/-- The figures a health report is made of. -/
structure HealthReading where
  freeHeap : UInt32
  minHeap : UInt32
  taskCount : Nat
  rssi : UInt8
  restartCount : UInt32

/-- Outcomes of the calls that leave the firmware during one event. -/
structure DeviceEnv where
  nowUs : Nat
  /-- Whether the WebSocket is connected. -/
  connected : Bool
  bleConnected : Bool
  /-- Whether a packet can be allocated, and whether its payload can. -/
  allocOk : Bool
  mallocOk : Bool
  /-- Old contents of an output buffer, and the memory behind a received payload. -/
  buffer : Memory
  beyond : Memory
  keyGeneration : KeyGeneration
  /-- The signature of the nonce, unless signing fails. -/
  signature : Option Bytes
  sensor : SensorReading
  health : HealthReading
  ota : OtaEnv

/-- What the firmware did, as far as others can tell or later behaviour rests on it. -/
inductive DeviceEvent
  /-- Bytes handed to the WebSocket client. -/
  | wsSend (raw : Bytes)
  | sessionReset
  /-- A derivation of the session key: the peer's key, the salt, the id, and whether it succeeded. -/
  | derived (serverPub nonce : Bytes) (sessionId : Nat) (ok : Bool)
  | sessionActive (sessionId : Nat)
  /-- A payload opened with session keys: the arguments, and whether the tag was right. -/
  | decrypted (keys : SessionKeys) (packetId : Nat) (aad payload authTag : Bytes) (ok : Bool)
  /-- A packet handed to a service: the bytes received and the packet, its payload decrypted. -/
  | dispatched (service : Service) (raw : Bytes) (pkt : YkpPacket)
  | bleNotified (relayState : Bool)
  deriving DecidableEq, Repr

/-- The firmware's state; the log is kept newest entry first. -/
structure Device where
  /-- Whether the firmware still runs: it neither hangs in a lookup nor has restarted. -/
  running : Bool
  deviceId : DeviceId
  secCtx : SecurityCtx
  session : YkpSession
  replay : YkpReplayCtx
  qos : YkpQosEngine
  relayState : Bool
  ota : OtaService
  healthLoopCounter : Nat
  log : List DeviceEvent

/-- The firmware after its initialisation. -/
def bootDevice (deviceId : DeviceId) : Device where
  running := true
  deviceId := deviceId
  secCtx := ykpSecurityInit
  session := ykpSessionInit
  replay := ykpReplayInit
  qos := ykpQosInit
  relayState := false
  ota := otaServiceInit
  healthLoopCounter := 0
  log := []

/-- A log entry. -/
def Device.record (device : Device) (event : DeviceEvent) : Device :=
  { device with log := event :: device.log }

/-- The firmware hangs. -/
def Device.hang (device : Device) : Device := { device with running := false }

/-- Bytes are handed to the WebSocket client, which ignores them while it is not connected. -/
def ykpWsSend (device : Device) (raw : Bytes) : Device := device.record (.wsSend raw)

/-- The way services send: only while the WebSocket is connected. -/
def ykpSendPacket (env : DeviceEnv) (device : Device) (raw : Bytes) : Device :=
  if env.connected then ykpWsSend device raw else device

/-- A packet is serialised into a buffer and sent unless that failed. -/
def serialiseAndSend (env : DeviceEnv) (send : Device → Bytes → Device) (device : Device)
    (pkt : YkpPacket) (outSize : Nat) : Device :=
  let out := ykpPacketSerialise pkt outSize
  if 0 < out.total then send device (out.raw env.buffer) else device

/-- The next packet id of the session. -/
def Device.nextPacketId (env : DeviceEnv) (device : Device) : Nat × Device :=
  let next := ykpSessionNextPacketId device.session env.nowUs
  (next.1, { device with session := next.2 })

/-- The session is reset, the session keys with it. -/
def Device.resetSession (device : Device) : Device :=
  let reset := ykpSessionReset device.session device.secCtx
  { device with session := reset.1, secCtx := reset.2 }.record .sessionReset

end Ykp.Firmware
