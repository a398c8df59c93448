import Ykp.Backend.State

/-! The server's session manager, route engine and presence engine. -/

namespace Ykp.Backend

/-- A session that waits for its ECDH_RESPONSE; its key is a placeholder of zeros. -/
def pendingSession (deviceId : JsString) (draws : Draws) (clientPubKey : Bytes) (ref : HelloRef)
    (serial : Nat) : DeviceSession where
  deviceId := deviceId
  sessionId := draws.sessionId
  sessionKey := List.replicate 32 0
  replayGuard := ReplayGuard.reset
  packetCounter := 0
  ephemeralPriv := draws.privateKey
  ephemeralPub := draws.publicKey
  clientPubKey := clientPubKey
  nonce := draws.nonce
  state := .hello
  hello := ref
  serial := serial

/-- A pending session replaces whatever session the device had. -/
def createPendingSession (server : Server) (deviceId : JsString) (draws : Draws)
    (clientPubKey : Bytes) (ref : HelloRef) : Server :=
  let session := pendingSession deviceId draws clientPubKey ref server.serial
  { server with
    sessions := Function.update server.sessions deviceId (some session)
    serial := server.serial + 1 }.record (.created session)

/-- The session of a device, if it has one. -/
def getSession (server : Server) (deviceId : JsString) : Option DeviceSession :=
  server.sessions deviceId

/-- A session once its key is derived. -/
def DeviceSession.activate (session : DeviceSession) (sessionKey : Bytes) : DeviceSession :=
  { session with
    sessionKey := sessionKey
    state := .active
    replayGuard := ReplayGuard.reset }

/-- The session of a device becomes active. -/
def activateSession (server : Server) (conn : ConnId) (deviceId : JsString)
    (session : DeviceSession) (sessionKey : Bytes) : Server :=
  let session := session.activate sessionKey
  { server with sessions := Function.update server.sessions deviceId (some session) }.record
    (.activated conn deviceId session)

/-- The session of a device is removed. -/
def closeSession (server : Server) (deviceId : JsString) : Server :=
  { server with sessions := Function.update server.sessions deviceId none }

/-- Whether a device has an active session. -/
def isActive (server : Server) (deviceId : JsString) : Bool :=
  (getSession server deviceId).any (·.state == .active)

/-- A device is reached over a connection from now on. -/
def registerConnection (server : Server) (deviceId : JsString) (conn : ConnId) : Server :=
  { server with
    deviceConnections := Function.update server.deviceConnections deviceId (some conn) }

/-- A device is reached over no connection from now on. -/
def removeConnection (server : Server) (deviceId : JsString) : Server :=
  { server with deviceConnections := Function.update server.deviceConnections deviceId none }

/-- The connection of a device, while it is open. -/
def openConnection (server : Server) (deviceId : JsString) : Option ConnId :=
  (server.deviceConnections deviceId).filter fun conn =>
    ((server.conns conn).map (·.readyState)) == some .open

/-- Bytes are sent to a device, if its connection is open. -/
def sendToDevice (server : Server) (deviceId : JsString) (raw : Bytes) : Server :=
  match openConnection server deviceId with
  | none => server
  | some conn => wsSend server conn raw

/-- A change to the session of a device. -/
def Server.updateSession (server : Server) (deviceId : JsString)
    (change : DeviceSession → DeviceSession) : Server :=
  { server with
    sessions := Function.update server.sessions deviceId ((server.sessions deviceId).map change) }

/-- The next packet id of the server within a session. -/
def countPacket (session : DeviceSession) : DeviceSession :=
  { session with packetCounter := session.packetCounter + 1 }

/-- A packet for a device; its payload is encrypted whenever the device has any session. -/
def sendYkpPacket (crypto : ServerCrypto) (server : Server) (deviceId : JsString)
    (opts : BuildPacketOptions) : Server :=
  match getSession server deviceId with
  | none =>
    match buildPacket opts with
    | none => server
    | some rawBuf => sendToDevice server deviceId rawBuf
  | some session =>
    let server := server.updateSession deviceId countPacket
    let opts := { opts with
      sessionId := session.sessionId
      packetId := session.packetCounter + 1 }
    let payload := opts.payload.getD []
    if payload.length = 0 then
      match buildPacket opts with
      | none => server
      | some rawBuf => sendToDevice server deviceId rawBuf
    else
      let opts := { opts with encrypted := true }
      let zeroTag : Bytes := List.replicate ykpAuthTagSize 0
      match buildPacket { opts with payload := some [], authTag := some zeroTag } with
      | none => server
      | some emptyPkt =>
        let aad := emptyPkt.take ykpHeaderSize
        let sealed_ := encrypt crypto session.sessionKey session.sessionId opts.packetId aad payload
        let server := server.record
          (.encrypted deviceId session opts.packetId aad payload)
        match buildPacket { opts with payload := some sealed_.1, authTag := some sealed_.2 } with
        | none => server
        | some rawBuf => sendToDevice server deviceId rawBuf

/-- The database is told whether a device is online. -/
def setDeviceOnline (server : Server) (deviceId : JsString) (online : Bool) : Server :=
  { server with isOnline := Function.update server.isOnline deviceId online }

/-- A device that is marked online gets a timer that refreshes its database entry; a timer it
had before is forgotten but not stopped. -/
def startHeartbeat (server : Server) (deviceId ip : JsString) : Server :=
  { server with
    heartbeats := Function.update server.heartbeats deviceId (some server.nextTimer)
    timers := Function.update server.timers server.nextTimer (some (deviceId, ip))
    nextTimer := server.nextTimer + 1 }

/-- The timer of a device is stopped. -/
def stopHeartbeat (server : Server) (deviceId : JsString) : Server :=
  match server.heartbeats deviceId with
  | none => server
  | some timer =>
    { server with
      timers := Function.update server.timers timer none
      heartbeats := Function.update server.heartbeats deviceId none }

/-- A device goes offline: its timer is stopped and the database told. -/
def markOffline (server : Server) (deviceId : JsString) : Server :=
  (setDeviceOnline (stopHeartbeat server deviceId) deviceId false).await (.markOffline deviceId)

end Ykp.Backend
