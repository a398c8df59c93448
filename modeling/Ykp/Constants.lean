import Mathlib.Algebra.Group.Nat.Defs
import Ykp.Foundation.BigEndian

/-! Protocol constants that the firmware header and the server's constants module share. -/

namespace Ykp

/-- A byte buffer. -/
abbrev Bytes := List UInt8

/-- Bytes in front of the payload. -/
@[simp] abbrev ykpHeaderSize : Nat := 33

/-- Bytes of the authentication tag behind the payload. -/
@[simp] abbrev ykpAuthTagSize : Nat := 16

/-- The shortest packet: a header and a tag without payload. -/
@[simp] abbrev ykpMinPacket : Nat := 49

/-- Bytes of a device identifier inside the header. -/
@[simp] abbrev ykpDeviceIdLen : Nat := 8

abbrev ykpMagic0 : UInt8 := 0x59
abbrev ykpMagic1 : UInt8 := 0x4B
abbrev ykpVersion : UInt8 := 0x05

abbrev flagQosMask : UInt8 := 0x03
abbrev flagEncrypted : UInt8 := 0x04
abbrev flagAck : UInt8 := 0x10

/-- Numbers below the highest packet id that the replay window still tells apart. -/
@[simp] abbrev ykpReplayWindowSize : Nat := 64

@[simp] abbrev ykpEcPubkeyLen : Nat := 65
@[simp] abbrev ykpNonceLen : Nat := 16
@[simp] abbrev ykpEcdsaSigLen : Nat := 64

/-- The text "ykp-session-v5" that separates session keys from other derived keys. -/
def ykpSessionInfo : Bytes :=
  [0x79, 0x6B, 0x70, 0x2D, 0x73, 0x65, 0x73, 0x73, 0x69, 0x6F, 0x6E, 0x2D, 0x76, 0x35]

/-- How a packet asks to be delivered. -/
inductive Qos
  | qos0 | qos1 | qos2
  deriving DecidableEq, Repr

/-- The two low flag bits a delivery level is written as. -/
def Qos.byte : Qos → UInt8
  | .qos0 => 0
  | .qos1 => 1
  | .qos2 => 2

/-- Where a packet is to be routed. -/
inductive RouteType
  | direct | group | broadcast | location | capability | cloud | localRoute | gateway
  deriving DecidableEq, Repr

def RouteType.byte : RouteType → UInt8
  | .direct => 0x01
  | .group => 0x02
  | .broadcast => 0x03
  | .location => 0x04
  | .capability => 0x05
  | .cloud => 0x06
  | .localRoute => 0x07
  | .gateway => 0x08

/-- The service a packet is addressed to. -/
inductive Service
  | relay | sensor | motor | health | ota | security | discovery | group | automation
  deriving DecidableEq, Repr

def Service.byte : Service → UInt8
  | .relay => 0x01
  | .sensor => 0x02
  | .motor => 0x03
  | .health => 0x04
  | .ota => 0x05
  | .security => 0x06
  | .discovery => 0x07
  | .group => 0x08
  | .automation => 0x09

/-- The service a header byte names, if it names one. -/
def Service.ofByte (byte : UInt8) : Option Service :=
  [relay, sensor, motor, health, ota, security, discovery, group, automation].find?
    fun service => service.byte = byte

/-- A byte names a service exactly when it is the byte of that service. -/
theorem Service.ofByte_eq_some {byte : UInt8} {service : Service} :
    ofByte byte = some service ↔ byte = service.byte := by
  constructor
  · intro found
    unfold ofByte at found
    have named := List.find?_some found
    exact (of_decide_eq_true named).symm
  · rintro rfl
    cases service <;> rfl

inductive RelayAction
  | on | off | toggle | status | ack
  deriving DecidableEq, Repr

def RelayAction.byte : RelayAction → UInt8
  | .on => 0x01
  | .off => 0x02
  | .toggle => 0x03
  | .status => 0x04
  | .ack => 0x05

/-- The relay action an action byte names, if it names one. -/
def RelayAction.ofByte (byte : UInt8) : Option RelayAction :=
  [on, off, toggle, status, ack].find? fun action => action.byte = byte

inductive SensorAction
  | report
  deriving DecidableEq, Repr

def SensorAction.byte : SensorAction → UInt8
  | .report => 0x01

inductive HealthAction
  | report | request
  deriving DecidableEq, Repr

def HealthAction.byte : HealthAction → UInt8
  | .report => 0x01
  | .request => 0x02

inductive OtaAction
  | begin | chunk | missing | complete | verify | install | reboot | fail
  deriving DecidableEq, Repr

def OtaAction.byte : OtaAction → UInt8
  | .begin => 0x01
  | .chunk => 0x02
  | .missing => 0x03
  | .complete => 0x04
  | .verify => 0x05
  | .install => 0x06
  | .reboot => 0x07
  | .fail => 0x08

/-- The transfer action an action byte names, if it names one. -/
def OtaAction.ofByte (byte : UInt8) : Option OtaAction :=
  [begin, chunk, missing, complete, verify, install, reboot, fail].find?
    fun action => action.byte = byte

inductive SecAction
  | hello | challenge | ecdhResponse | sessionActive | keyRotate | keyRotateAck | sessionClose
  | error
  deriving DecidableEq, Repr

def SecAction.byte : SecAction → UInt8
  | .hello => 0x01
  | .challenge => 0x02
  | .ecdhResponse => 0x03
  | .sessionActive => 0x04
  | .keyRotate => 0x05
  | .keyRotateAck => 0x06
  | .sessionClose => 0x07
  | .error => 0x08

/-- The handshake action an action byte names, if it names one. -/
def SecAction.ofByte (byte : UInt8) : Option SecAction :=
  [hello, challenge, ecdhResponse, sessionActive, keyRotate, keyRotateAck, sessionClose,
    error].find? fun action => action.byte = byte

/-- A byte names a handshake action exactly when it is the byte of that action. -/
theorem SecAction.ofByte_eq_some {byte : UInt8} {action : SecAction} :
    ofByte byte = some action ↔ byte = action.byte := by
  constructor
  · intro found
    unfold ofByte at found
    have named := List.find?_some found
    exact (of_decide_eq_true named).symm
  · rintro rfl
    cases action <;> rfl

/-- The key a field of a payload map is filed under. -/
inductive TlvType
  | deviceId | timestamp | state | valueInt | valueFloat | firmwareVer | publicKey | nonce
  | signature | chunkIndex | chunkData | hash | rssi
  deriving DecidableEq, Repr

def TlvType.byte : TlvType → UInt8
  | .deviceId => 0x01
  | .timestamp => 0x02
  | .state => 0x03
  | .valueInt => 0x04
  | .valueFloat => 0x05
  | .firmwareVer => 0x08
  | .publicKey => 0x09
  | .nonce => 0x0A
  | .signature => 0x0B
  | .chunkIndex => 0x0C
  | .chunkData => 0x0D
  | .hash => 0x0E
  | .rssi => 0x12

end Ykp
