import Ykp.Firmware.Steps

/-! What the firmware's services put on the wire. -/

namespace Ykp.Firmware

open BigEndian

/-- Whether a service's packet leaves the device: there is memory for it and a connection. -/
def DeviceEnv.transmits (env : DeviceEnv) : Bool := env.allocOk && env.connected

/-- The bytes an entry handed to the WebSocket client. -/
def sentRaw : DeviceEvent → Option Bytes
  | .wsSend raw => some raw
  | _ => none

/-- What was handed to the WebSocket client between two states of the device, the latest first. -/
def transmitted (before after : Device) : List Bytes :=
  (History.newerThan before.log after.log).filterMap sentRaw

/-- The packets among newly logged entries. -/
theorem transmitted_logged {before after : Device} (newer : List DeviceEvent)
    (logged : after.log = newer ++ before.log) :
    transmitted before after = newer.filterMap sentRaw := by
  rw [transmitted, logged, History.newerThan_append]

/-- Without a connection nothing a service serialises is sent. -/
theorem serialiseAndSend_offline {env : DeviceEnv} (offline : env.connected = false)
    (device : Device) (pkt : YkpPacket) (outSize : Nat) :
    serialiseAndSend env (ykpSendPacket env) device pkt outSize = device := by
  -- Whatever was serialised, it is not handed over.
  unfold serialiseAndSend ykpSendPacket
  simp [offline]

/-- The payload of a relay acknowledgement: a map with the state, closed by its break byte. -/
def ackPayload (relayState : Bool) : Bytes := [0xBF, 0x03, if relayState then 1 else 0, 0xFF]

/-- The builder writes the state into a map of four bytes. -/
theorem ackPayload_built (relayState : Bool) :
    ykpTlvBuilderLen
        (ykpTlvAddUint8 (ykpTlvBuilderInit 64) .state (if relayState then 1 else 0)).1 =
      ackPayload relayState := by
  -- Both states are built step by step.
  cases relayState <;> decide

/-- The header of a relay acknowledgement on a fresh packet. -/
def ackHeader (device : Device) (packetId sessionId : Nat) (destId : Bytes) : YkpPacket :=
  ykpPacketSetHeader ykpPacketAlloc packetId sessionId device.deviceId.bytes destId .direct .relay
    RelayAction.ack.byte .qos1 false

/-- A relay acknowledgement, without its payload when there was no memory for that. -/
def ackPacket (env : DeviceEnv) (device : Device) (packetId sessionId : Nat) (destId : Bytes) :
    YkpPacket :=
  ykpPacketSetPayload (ackHeader device packetId sessionId destId) env.mallocOk
    (ackPayload device.relayState)

/-- Whether or not its payload could be allocated, an acknowledgement is consistent. -/
theorem ackPacket_consistent (env : DeviceEnv) (device : Device) (packetId sessionId : Nat)
    (destId : Bytes) : (ackPacket env device packetId sessionId destId).Consistent :=
  setPayload_consistent (setHeader_consistent _ _ _ _ _ _ _ _ _) rfl _ _

/-- An acknowledgement leaves whole, or not at all. -/
theorem sendAck_eq (env : DeviceEnv) (device : Device) (packetId sessionId : Nat)
    (destId : Bytes) :
    sendAck env device packetId sessionId destId =
      if env.transmits then ykpWsSend device (ackPacket env device packetId sessionId destId).whole
      else device := by
  have plain : (ackHeader device packetId sessionId destId).Consistent :=
    setHeader_consistent _ _ _ _ _ _ _ _ _
  have short : ykpHeaderSize + (ackPayload device.relayState).length + ykpAuthTagSize ≤ 256 := by
    simp [ackPayload]
  unfold sendAck DeviceEnv.transmits
  dsimp only
  rw [ackPayload_built]
  cases env.allocOk with
  | false => rfl
  | true =>
    -- With memory for the packet only the connection decides.
    rw [if_neg (by simp)]
    refine (serialiseAndSend_layout env _ device plain rfl short (by decide)).trans ?_
    unfold ykpSendPacket ackPacket
    cases env.connected <;> rfl

/-- A report needs memory and a connection. -/
theorem report_silent {env : DeviceEnv} (silent : env.transmits = false) (device : Device)
    (pkt : YkpPacket) (outSize : Nat) :
    (if !env.allocOk then device
      else serialiseAndSend env (ykpSendPacket env) device pkt outSize) = device := by
  split
  · rfl
  · rename_i allocated
    -- There is memory, so it is the connection that is missing.
    simp only [DeviceEnv.transmits, Bool.and_eq_false_iff] at silent
    exact serialiseAndSend_offline (silent.resolve_left (by simpa using allocated)) device _ _

theorem sensorServiceSendReport_silent {env : DeviceEnv} (silent : env.transmits = false)
    (device : Device) : sensorServiceSendReport env device = device :=
  report_silent silent device _ _

theorem healthServiceSendReport_silent {env : DeviceEnv} (silent : env.transmits = false)
    (device : Device) : healthServiceSendReport env device = device :=
  report_silent silent device _ _

end Ykp.Firmware
