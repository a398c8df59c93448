import Mathlib.Logic.Function.Basic
import Ykp.Backend.ReplayGuard
import Ykp.Backend.Security
import Ykp.Codec.ServerPacket

/-! The server's state: connections, sessions, routes, presence, and the handlers that wait. -/

namespace Ykp.Backend

/-- A WebSocket connection. -/
abbrev ConnId := Nat

/-- An interval timer. -/
abbrev TimerId := Nat

/-- Where a connection is on its way to being closed. -/
inductive ReadyState
  | open | closing | closed
  deriving DecidableEq, Repr

/-- A connection: its address, the device id its handlers share, and its state. -/
structure Conn where
  ip : JsString
  deviceId : JsString
  readyState : ReadyState
  deriving DecidableEq, Repr

/-- A HELLO as it was received: where, as which message, with which source and payload. -/
structure HelloRef where
  conn : ConnId
  seq : Nat
  source : JsString
  payload : Bytes
  deriving DecidableEq, Repr

inductive SessionState
  | hello | challenged | active | closed
  deriving DecidableEq, Repr

/-- The session of a device. The last two fields are not in the code: they record which HELLO
the session was created for and tell sessions apart. -/
structure DeviceSession where
  deviceId : JsString
  sessionId : Nat
  sessionKey : Bytes
  replayGuard : ReplayGuard
  packetCounter : Nat
  ephemeralPriv : Bytes
  ephemeralPub : Bytes
  clientPubKey : Bytes
  nonce : Bytes
  state : SessionState
  hello : HelloRef
  serial : Nat
  deriving DecidableEq, Repr

/-- A handler that waits for the database or for another handler. -/
inductive Task
  /-- A HELLO waits until its device is registered. -/
  | hello (ref : HelloRef) (packetId : Nat)
  /-- Marking a device online waits for the database, on behalf of an ECDH_RESPONSE. -/
  | markOnline (conn : ConnId) (deviceId ip : JsString) (packetId sessionId : Nat)
  /-- An ECDH_RESPONSE continues once its device is marked online. -/
  | sessionActive (conn : ConnId) (packetId sessionId : Nat)
  /-- Marking a device offline waits for the database. -/
  | markOffline (deviceId : JsString)
  deriving DecidableEq, Repr

/-- What the server did, as far as others can tell or later behaviour rests on it. -/
inductive ServerEvent
  | helloReceived (ref : HelloRef)
  | created (session : DeviceSession)
  /-- A derivation of a session key: the arguments, and the key unless it threw. -/
  | derived (conn : ConnId) (privateKey clientPubKey nonce : Bytes) (key : Option Bytes)
  | activated (conn : ConnId) (deviceId : JsString) (session : DeviceSession)
  /-- Bytes handed to a connection, which drops them once it is closing. -/
  | sent (conn : ConnId) (raw : Bytes)
  /-- A packet that passed the gate and all checks, with the session it passed under. -/
  | dispatched (conn : ConnId) (deviceId : JsString) (session : DeviceSession)
      (pkt : ServerPacket)
  /-- A payload encrypted for a device with the key of a session. -/
  | encrypted (deviceId : JsString) (session : DeviceSession) (packetId : Nat) (aad : Bytes)
      (plaintext : Bytes)
  | presenceChanged (deviceId : JsString) (isOnline : Bool)
  deriving DecidableEq, Repr

/-- The server's state; maps are functions, and the log is kept newest entry first. -/
structure Server where
  conns : ConnId → Option Conn
  sessions : JsString → Option DeviceSession
  deviceConnections : JsString → Option ConnId
  /-- The presence engine's timer of each device, and every timer that still fires. -/
  heartbeats : JsString → Option TimerId
  timers : TimerId → Option (JsString × JsString)
  nextTimer : TimerId
  /-- The database column that tells whether a device is online. -/
  isOnline : JsString → Bool
  /-- Handlers that wait, the one that waits longest first. -/
  tasks : List Task
  /-- Messages received and sessions created so far. -/
  seq : Nat
  serial : Nat
  log : List ServerEvent

/-- The server after its start. -/
def startServer : Server where
  conns := fun _ => none
  sessions := fun _ => none
  deviceConnections := fun _ => none
  heartbeats := fun _ => none
  timers := fun _ => none
  nextTimer := 0
  isOnline := fun _ => false
  tasks := []
  seq := 0
  serial := 0
  log := []

/-- What is drawn at random for a new session. -/
structure Draws where
  privateKey : Bytes
  publicKey : Bytes
  nonce : Bytes
  sessionId : Nat
  publicKeyLength : publicKey.length = ykpEcPubkeyLen
  nonceLength : nonce.length = ykpNonceLen
  sessionIdRange : 1 ≤ sessionId ∧ sessionId < 0xFFFFFFFF

/-- A log entry. -/
def Server.record (server : Server) (event : ServerEvent) : Server :=
  { server with log := event :: server.log }

/-- A handler starts to wait. -/
def Server.await (server : Server) (task : Task) : Server :=
  { server with tasks := server.tasks ++ [task] }

/-- The device id the handlers of a connection share. -/
def Server.deviceIdOf (server : Server) (conn : ConnId) : JsString :=
  ((server.conns conn).map (·.deviceId)).getD []

/-- The address of a connection. -/
def Server.ipOf (server : Server) (conn : ConnId) : JsString :=
  ((server.conns conn).map (·.ip)).getD []

/-- A change to a connection. -/
def Server.updateConn (server : Server) (conn : ConnId) (change : Conn → Conn) : Server :=
  { server with conns := Function.update server.conns conn ((server.conns conn).map change) }

/-- Bytes are handed to a connection. -/
def wsSend (server : Server) (conn : ConnId) (raw : Bytes) : Server :=
  server.record (.sent conn raw)

/-- An open connection starts to close. -/
def wsClose (server : Server) (conn : ConnId) : Server :=
  server.updateConn conn fun c =>
    if c.readyState = .open then { c with readyState := .closing } else c

end Ykp.Backend
