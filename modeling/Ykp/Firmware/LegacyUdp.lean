import Ykp.Firmware.Services
import Ykp.Foundation.LittleEndian
import Ykp.Foundation.Machine

/-! The firmware's UDP server: its session, the limits on what it looks at, and sealed replies. -/

namespace Ykp.Firmware

open LittleEndian

/-- The opcodes of the older app. -/
abbrev cmdOn : UInt8 := 0x01
abbrev cmdOff : UInt8 := 0x02
abbrev cmdPing : UInt8 := 0x03
abbrev cmdAck : UInt8 := 0x04
abbrev cmdState : UInt8 := 0x05

/-- AES in Galois/Counter Mode without additional data, for a tag of so many bytes, a key and an IV;
sealed text is the ciphertext with the tag behind it. -/
structure AesGcm where
  encrypt : Nat → Bytes → Bytes → Bytes → Bytes
  /-- The text that was sealed, unless the tag is wrong. -/
  decrypt : Nat → Bytes → Bytes → Bytes → Option Bytes

/-- Outcomes of the calls that leave the server while it looks at one datagram. -/
structure UdpEnv where
  nowMs : UInt32
  espRandom : UInt32
  /-- Whether the library has the memory to open and to seal. -/
  decryptOk : Bool
  encryptOk : Bool
  relay : DeviceEnv

/-- What the server did, as far as others can tell or later behaviour rests on it. -/
inductive UdpEvent
  /-- A new session with a drawn id. -/
  | expired (sessionId : UInt32)
  | ponged (ackPacket : Bytes)
  /-- A datagram that passed every check, and the opcode it was opened to. -/
  | accepted (rx : Bytes) (opcode : UInt8)
  /-- A reply sealed under an IV, and the datagram it was sent in. -/
  | replied (iv txPacket : Bytes)
  deriving DecidableEq, Repr

/-- The server's state; the log is kept newest entry first. -/
structure UdpServer where
  sharedAesKey : Bytes
  currentSessionId : UInt32
  esp32TxCounter : UInt32
  lastAppRxCounter : UInt32
  packetCount : UInt32
  lastRateCheckMs : UInt32
  lastActivityMs : UInt32
  device : Device
  log : List UdpEvent

/-- The server when its task starts. -/
def udpServerStart (sharedAesKey : Bytes) (nowMs : UInt32) (device : Device) : UdpServer where
  sharedAesKey := sharedAesKey
  currentSessionId := 0
  esp32TxCounter := 1
  lastAppRxCounter := 0
  packetCount := 0
  lastRateCheckMs := nowMs
  lastActivityMs := nowMs
  device := device
  log := []

/-- A log entry. -/
def UdpServer.record (server : UdpServer) (event : UdpEvent) : UdpServer :=
  { server with log := event :: server.log }

/-- Bytes of a received datagram that fit the buffer. -/
abbrev udpRxSize : Nat := 127

/-- Bytes of a sealed datagram: the session id, the counter, an opcode and a tag. -/
abbrev sealedSize : Nat := 25

/-- The session id a datagram carries. -/
def datagramSession (raw : Bytes) : UInt32 := readWord raw

/-- The counter a datagram carries. -/
def datagramCounter (raw : Bytes) : UInt32 := readWord (raw.drop 4)

/-- The IV of a datagram: its first eight bytes, and zeros. -/
def datagramIv (raw : Bytes) : Bytes := raw.take 8 ++ [0, 0, 0, 0]

/-- The datagrams of a second are counted, and a new second starts with none. -/
def UdpServer.rateChecked (server : UdpServer) (nowMs : UInt32) : UdpServer :=
  if 1000 < nowMs - server.lastRateCheckMs then
    { server with packetCount := 0, lastRateCheckMs := nowMs }
  else server

/-- After five minutes without activity a new session id is drawn. -/
def UdpServer.expire (server : UdpServer) (env : UdpEnv) : UdpServer :=
  if 300000 < env.nowMs - server.lastActivityMs then
    { server.record (.expired env.espRandom) with
      currentSessionId := env.espRandom
      lastAppRxCounter := 0
      lastActivityMs := env.nowMs }
  else server

/-- The server in front of a datagram it looks at; nothing when too many came within the second. -/
def UdpServer.letIn (server : UdpServer) (env : UdpEnv) : Option UdpServer :=
  let checked := server.rateChecked env.nowMs
  if 20 < checked.packetCount then none
  else some ({ checked with packetCount := checked.packetCount + 1 }.expire env)

/-- The opcode of a datagram that passes the checks on its length, its session id, its counter and
its tag. -/
def UdpServer.opened (gcm : AesGcm) (env : UdpEnv) (server : UdpServer) (rx : Bytes) :
    Option UInt8 :=
  if rx.length ≠ sealedSize then none
  else if datagramSession rx ≠ server.currentSessionId then none
  -- A counter of zero stands for a session that has accepted nothing.
  else if datagramCounter rx ≤ server.lastAppRxCounter ∧ server.lastAppRxCounter ≠ 0 then none
  else if env.decryptOk = false then none
  else
    match gcm.decrypt 16 server.sharedAesKey (datagramIv rx) (rx.drop 8) with
    | some [opcode] => some opcode
    | _ => none

/-- A command for the relay, numbered as the reply will be. -/
def UdpServer.switchRelay (server : UdpServer) (env : UdpEnv) (action : RelayAction) : UdpServer :=
  let switched := relayServiceHandle env.relay server.device action.byte
    server.esp32TxCounter.toNat server.currentSessionId.toNat [0x41, 0x50, 0x50]
  { server with device := switched }

/-- A reply is sealed under the session id and the server's own counter, and sent. -/
def UdpServer.reply (gcm : AesGcm) (env : UdpEnv) (server : UdpServer) (txPlaintext : UInt8) :
    UdpServer :=
  if env.encryptOk = false then server
  else
    let words := writeWord server.currentSessionId ++ writeWord server.esp32TxCounter
    let txIv := words ++ [0, 0, 0, 0]
    let sealedText := gcm.encrypt 16 server.sharedAesKey txIv [txPlaintext]
    { server.record (.replied txIv (words ++ sealedText)) with
      esp32TxCounter := server.esp32TxCounter + 1 }

/-- The command of an opened datagram. -/
def UdpServer.act (gcm : AesGcm) (env : UdpEnv) (server : UdpServer) (opcode : UInt8) :
    UdpServer :=
  if opcode = cmdOn then (server.switchRelay env .on).reply gcm env cmdAck
  else if opcode = cmdOff then (server.switchRelay env .off).reply gcm env cmdAck
  else if opcode = cmdState then
    server.reply gcm env (if server.device.relayState then cmdOn else cmdOff)
  else server

/-- What the server does with a datagram it looks at. -/
def UdpServer.handle (gcm : AesGcm) (env : UdpEnv) (server : UdpServer) (rx : Bytes) :
    UdpServer :=
  if rx = [cmdPing] then
    { server.record (.ponged (cmdAck :: writeWord server.currentSessionId)) with
      lastActivityMs := env.nowMs }
  else
    match server.opened gcm env rx with
    | none => server
    | some opcode =>
      { server.record (.accepted rx opcode) with
        lastAppRxCounter := datagramCounter rx
        lastActivityMs := env.nowMs }.act gcm env opcode

/-- What reaches the server: a datagram, or a change other tasks make to the device. -/
inductive UdpInput
  | datagram (bytes : Bytes) (env : UdpEnv)
  | elsewhere (device : Device)

/-- One turn of the server's task, or of the other tasks. -/
def udpServerTask (gcm : AesGcm) (server : UdpServer) : UdpInput → UdpServer
  | .elsewhere device => { server with device := device }
  | .datagram bytes env =>
    let rx := bytes.take udpRxSize
    if rx.length = 0 then server
    else
      match server.letIn env with
      | none => server.rateChecked env.nowMs
      | some admitted => admitted.handle gcm env rx

/-- The server after a list of inputs. -/
def udpServerRun (gcm : AesGcm) (sharedAesKey : Bytes) (nowMs : UInt32) (device : Device)
    (inputs : List UdpInput) : UdpServer :=
  Machine.run (udpServerTask gcm) (udpServerStart sharedAesKey nowMs device) inputs

end Ykp.Firmware
