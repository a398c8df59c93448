import Ykp.Backend.Handlers
import Ykp.Firmware.CommandGate
import Ykp.Firmware.Transmit

/-! The relay's state on the device, and the one the server takes from its acknowledgements. -/

namespace Ykp.System

open Firmware Backend

/-- What changes or reports the relay's state: a command with its sender, or the button. -/
inductive RelayInput
  | command (actionId : UInt8) (packetId sessionId : Nat) (destId : Bytes)
  | button

/-- The relay service handles a command or a button press. -/
def relayStep (device : Device) (input : RelayInput × DeviceEnv) : Device :=
  match input.1 with
  | .command actionId packetId sessionId destId =>
    relayServiceHandle input.2 device actionId packetId sessionId destId
  | .button => buttonDebounceTimerCallback input.2 device

/-- The state the relay is switched to; nothing for an action the relay does not know. -/
def switched (relayState : Bool) : RelayInput → Option Bool
  | .command actionId _ _ _ => relayCommand relayState actionId
  | .button => some !relayState

/-- The server stores a relay state, and publishes it. -/
def Stores (pkt : ServerPacket) (relayState : Bool) : Prop :=
  .upsertDeviceState pkt.header.sourceId (.relayState relayState) ∈ handleRelayAck pkt ∧
    .deviceStateChanged pkt.header.sourceId relayState ∈ handleRelayAck pkt

/-- Every acknowledgement an event sends makes the server store the state the device is in. -/
def Mirrored (device : Device) (input : RelayInput × DeviceEnv) : Prop :=
  ∀ raw ∈ transmitted device (relayStep device input),
    ∃ pkt, parsePacket raw = some pkt ∧ Stores pkt (relayStep device input).relayState

/-- Whatever is acknowledged leaves the relay switched off. -/
def AcknowledgesOff (device : Device) (input : RelayInput × DeviceEnv) : Prop :=
  input.2.transmits = true → ∀ state ∈ switched device.relayState input.1, state = false

/-- A packet stores exactly the state that the fourth byte of its payload stands for. -/
theorem stores_iff (pkt : ServerPacket) (relayState : Bool) :
    Stores pkt relayState ↔ relayState = decide (pkt.payload.getD 3 0 = 1) := by
  -- A shorter payload counts as one whose fourth byte is zero.
  have fourth : (if 3 < pkt.payload.length then pkt.payload.getD 3 0 else 0) =
      pkt.payload.getD 3 0 := by
    split
    · rfl
    · rename_i short
      rw [List.getD_eq_default _ _ (Nat.le_of_not_lt short)]
  unfold Stores handleRelayAck
  rw [fourth]
  simp

/-- An acknowledgement arrives as a packet for which the server stores that the relay is off. -/
theorem ackPacket_stores (env : DeviceEnv) (device : Device) (packetId sessionId : Nat)
    (destId : Bytes) :
    ∃ pkt, parsePacket (ackPacket env device packetId sessionId destId).whole = some pkt ∧
      ∀ state, Stores pkt state ↔ state = false := by
  have consistent := ackPacket_consistent env device packetId sessionId destId
  have body : (ackPacket env device packetId sessionId destId).payload.getD [] =
      if env.mallocOk then ackPayload device.relayState else [] := setPayload_body _ _ _
  have short : (ackPacket env device packetId sessionId destId).payloadLen < 65536 := by
    rw [consistent.length, body]
    split <;> simp [ackPayload]
  refine ⟨_, consistent.parsed short, fun state => ?_⟩
  -- The fourth byte closes the map, and the state stands in front of it.
  have closes : (if env.mallocOk then ackPayload device.relayState else []).getD 3 0 ≠ 1 := by
    cases env.mallocOk <;> simp [ackPayload]
  rw [stores_iff]
  dsimp only
  rw [body, decide_eq_false closes]

/-- The entries of an acknowledgement and a notification behind it. -/
theorem acknowledged_log (env : DeviceEnv) (device : Device) (packetId sessionId : Nat)
    (destId : Bytes) :
    let after := notifyBleSync env (sendAck env device packetId sessionId destId)
    after.relayState = device.relayState ∧
      transmitted device after = if env.transmits then
        [(ackPacket env device packetId sessionId destId).whole] else [] := by
  dsimp only
  rw [sendAck_eq]
  unfold notifyBleSync
  -- A notification over Bluetooth is no packet.
  cases env.transmits <;> cases env.bleConnected
  · exact ⟨rfl, transmitted_logged [] rfl⟩
  · exact ⟨rfl, transmitted_logged [.bleNotified _] rfl⟩
  · exact ⟨rfl, transmitted_logged [.wsSend _] rfl⟩
  · exact ⟨rfl, transmitted_logged [.bleNotified _, .wsSend _] rfl⟩

/-- An event leaves the relay in the state it is switched to and sends at most one packet: an
acknowledgement of a device in that state. -/
theorem relayStep_cases (device : Device) (input : RelayInput × DeviceEnv) :
    match switched device.relayState input.1 with
    | none => relayStep device input = device
    | some state => (relayStep device input).relayState = state ∧
        ∃ (acting : Device) (packetId sessionId : Nat) (destId : Bytes),
          transmitted device (relayStep device input) = if input.2.transmits then
            [(ackPacket input.2 acting packetId sessionId destId).whole] else [] := by
  obtain ⟨input, env⟩ := input
  -- A command that is known, one that is not, or a press of the button.
  cases input with
  | command actionId packetId sessionId destId =>
    dsimp only [switched, relayStep]
    unfold relayServiceHandle
    cases relayCommand device.relayState actionId with
    | none => rfl
    | some state =>
      obtain ⟨kept, sent⟩ := acknowledged_log env { device with relayState := state } packetId
        sessionId destId
      exact ⟨kept, _, packetId, sessionId, destId, sent⟩
  | button =>
    -- The press takes a number of the session before it is acknowledged.
    let next := Device.nextPacketId env { device with relayState := !device.relayState }
    obtain ⟨kept, sent⟩ := acknowledged_log env next.2 next.1 next.2.session.sessionId serverName
    exact ⟨kept, next.2, next.1, next.2.session.sessionId, serverName, sent⟩

/-- One event is mirrored exactly when it leaves the relay off or acknowledges nothing. -/
theorem mirrored_iff (device : Device) (input : RelayInput × DeviceEnv) :
    Mirrored device input ↔ AcknowledgesOff device input := by
  have step := relayStep_cases device input
  unfold Mirrored AcknowledgesOff
  -- Without a state to switch to nothing is sent.
  cases found : switched device.relayState input.1 with
  | none =>
    rw [found] at step
    dsimp only at step
    rw [step, transmitted_logged [] rfl]
    simp
  | some state =>
    rw [found] at step
    obtain ⟨left, acting, packetId, sessionId, destId, sent⟩ := step
    rw [sent, left]
    obtain ⟨pkt, parsed, stores⟩ := ackPacket_stores input.2 acting packetId sessionId destId
    -- The one acknowledgement is either sent or not.
    cases input.2.transmits with
    | false => simp
    | true => simp [parsed, stores]

/-- Over every run of commands and button presses, every acknowledgement makes the server store the
state the relay is in exactly when everything that is acknowledged leaves the relay off. -/
theorem relay_state_mirrored_iff (device : Device) (inputs : List (RelayInput × DeviceEnv)) :
    Machine.Always relayStep Mirrored device inputs ↔
      Machine.Always relayStep AcknowledgesOff device inputs :=
  Machine.always_congr mirrored_iff

/-- Switched on, the relay is stored as off. -/
theorem relay_on_stored_off :
    ¬ Machine.Always relayStep Mirrored (bootDevice sampleDevice)
      [(.command RelayAction.on.byte 2 5 serverName, sampleEnv)] := by
  rw [relay_state_mirrored_iff]
  rintro ⟨off, -⟩
  exact absurd (off rfl true rfl) (by decide)

end Ykp.System
