import Ykp.Firmware.State

/-! The firmware's relay, sensor and health services. -/

namespace Ykp.Firmware

/-- The acknowledgement of a relay command or button press. -/
def sendAck (env : DeviceEnv) (device : Device) (packetId sessionId : Nat) (destId : Bytes) :
    Device :=
  let state : UInt8 := if device.relayState then 1 else 0
  let b := (ykpTlvAddUint8 (ykpTlvBuilderInit 64) .state state).1
  if !env.allocOk then device
  else
    let pkt := ykpPacketSetHeader ykpPacketAlloc packetId sessionId device.deviceId.bytes destId
      .direct .relay RelayAction.ack.byte .qos1 false
    let pkt := ykpPacketSetPayload pkt env.mallocOk (ykpTlvBuilderLen b)
    serialiseAndSend env (ykpSendPacket env) device pkt 256

/-- A phone connected over Bluetooth is told the relay state. -/
def notifyBleSync (env : DeviceEnv) (device : Device) : Device :=
  if env.bleConnected then device.record (.bleNotified device.relayState) else device

/-- The relay state after a command; nothing for an action the relay does not know. -/
def relayCommand (state : Bool) (action : UInt8) : Option Bool :=
  match RelayAction.ofByte action with
  | some .on => some true
  | some .off => some false
  | some .toggle => some !state
  | some .status => some state
  | _ => none

/-- A command for the relay, acknowledged to its sender. -/
def relayServiceHandle (env : DeviceEnv) (device : Device) (actionId : UInt8)
    (packetId sessionId : Nat) (destId : Bytes) : Device :=
  match relayCommand device.relayState actionId with
  | none => device
  | some state =>
    notifyBleSync env (sendAck env { device with relayState := state } packetId sessionId destId)

/-- A verified button press toggles the relay and acknowledges it to the server. -/
def buttonDebounceTimerCallback (env : DeviceEnv) (device : Device) : Device :=
  let toggled := { device with relayState := !device.relayState }
  let next := toggled.nextPacketId env
  notifyBleSync env (sendAck env next.2 next.1 next.2.session.sessionId serverName)

/-- The single-precision pattern of a natural number below 2^24. -/
def float32OfNat (n : Nat) : Nat :=
  if n = 0 then 0 else (n.log2 + 127) * 2 ^ 23 + (n * 2 ^ (23 - n.log2) - 2 ^ 23)

/-- A report of the sensors to the server. -/
def sensorServiceSendReport (env : DeviceEnv) (device : Device) : Device :=
  let r := env.sensor
  let motion : UInt8 := if r.motion then 1 else 0
  let b := ykpTlvBuilderInit 128
  let b := (ykpTlvAddFloat b .valueFloat r.temperature).1
  let b := (ykpTlvAddFloat b .valueFloat r.humidity).1
  let b := (ykpTlvAddUint8 b .state motion).1
  let b := (ykpTlvAddUint16 b .valueInt r.lightRaw).1
  let b := (ykpTlvAddUint64 b .timestamp (UInt64.ofNat (env.nowUs / 1000000))).1
  let b := (ykpTlvAddString b .deviceId device.deviceId.bytes).1
  if !env.allocOk then device
  else
    let pkt := ykpPacketSetHeader ykpPacketAlloc 0 0 device.deviceId.bytes serverName .cloud
      .sensor SensorAction.report.byte .qos1 false
    let pkt := ykpPacketSetPayload pkt env.mallocOk (ykpTlvBuilderLen b)
    serialiseAndSend env (ykpSendPacket env) device pkt 300

/-- The text "1.2.1" of the firmware version. -/
def ykpFirmwareVersion : Bytes := [0x31, 0x2E, 0x32, 0x2E, 0x31]

/-- A report of the device's health to the server. -/
def healthServiceSendReport (env : DeviceEnv) (device : Device) : Device :=
  let h := env.health
  -- Two percent for each task stand in for the load; the temperature is a placeholder.
  let cpuUsage := float32OfNat (min (h.taskCount * 2) 95)
  let temp := float32OfNat 45
  let b := ykpTlvBuilderInit 256
  let b := (ykpTlvAddFloat b .valueFloat cpuUsage).1
  let b := (ykpTlvAddUint32 b .valueInt h.freeHeap).1
  let b := (ykpTlvAddUint32 b .valueInt h.minHeap).1
  let b := (ykpTlvAddUint8 b .rssi h.rssi).1
  let b := (ykpTlvAddFloat b .valueFloat temp).1
  let b := (ykpTlvAddFloat b .valueFloat (float32OfNat 0)).1
  let b := (ykpTlvAddFloat b .valueFloat (float32OfNat device.qos.lastRttMs)).1
  let b := (ykpTlvAddUint64 b .timestamp (UInt64.ofNat (env.nowUs / 1000000))).1
  let b := (ykpTlvAddUint32 b .valueInt h.restartCount).1
  let b := (ykpTlvAddString b .deviceId device.deviceId.bytes).1
  let b := (ykpTlvAddString b .firmwareVer ykpFirmwareVersion).1
  if !env.allocOk then device
  else
    let pkt := ykpPacketSetHeader ykpPacketAlloc 0 0 device.deviceId.bytes serverName .cloud
      .health HealthAction.report.byte .qos1 false
    let pkt := ykpPacketSetPayload pkt env.mallocOk (ykpTlvBuilderLen b)
    serialiseAndSend env (ykpSendPacket env) device pkt 512

end Ykp.Firmware
