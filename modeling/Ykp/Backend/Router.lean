import Ykp.Backend.Services
import Ykp.Foundation.History
import Ykp.Foundation.Machine

/-! The server's router: the handlers of a connection, run to their next wait, and the API calls. -/

namespace Ykp.Backend

open BigEndian

/-- A HELLO sets the shared device id and waits until the device is registered. -/
def handleHello (server : Server) (conn : ConnId) (pkt : ServerPacket) : Server :=
  let ref : HelloRef := ⟨conn, server.seq, pkt.header.sourceId, pkt.payload⟩
  let server := server.updateConn conn fun c => { c with deviceId := pkt.header.sourceId }
  (server.record (.helloReceived ref)).await (.hello ref pkt.header.packetId)

/-- The payload of a CHALLENGE. -/
def challengePayload (nonce publicKey : Bytes) : Bytes :=
  ((TlvBuilder.new.addBytes .nonce nonce).addBytes .publicKey publicKey).build

/-- A handshake packet of the server. -/
def handshakePacket (packetId sessionId : Nat) (destId : JsString) (action : SecAction)
    (payload : Bytes) : BuildPacketOptions where
  packetId := packetId
  sessionId := sessionId
  sourceId := serverId
  destId := destId
  routeType := .direct
  serviceId := Service.security.byte.toNat
  actionId := action.byte.toNat
  qos := .qos1
  payload := some payload

/-- A HELLO continues: the device id is read again, the session created, the CHALLENGE sent. -/
def resumeHello (server : Server) (ref : HelloRef) (packetId : Nat) (draws : Draws) : Server :=
  let deviceId := server.deviceIdOf ref.conn
  match findTlv ref.payload .publicKey with
  -- A parser that throws ends the handler.
  | none => server
  | some none => wsClose server ref.conn
  | some (some pubKeyEntry) =>
    let server := createPendingSession server deviceId draws pubKeyEntry.value ref
    let payload := challengePayload draws.nonce draws.publicKey
    match buildPacket (handshakePacket packetId 0 deviceId .challenge payload) with
    | none => server
    | some challenge => wsSend server ref.conn challenge

/-- An ECDH_RESPONSE activates the session of the device and registers the connection; nothing in
its payload is read. -/
def handleEcdhResponse (crypto : ServerCrypto) (server : Server) (conn : ConnId)
    (pkt : ServerPacket) : Server :=
  let deviceId := server.deviceIdOf conn
  match getSession server deviceId with
  | none => wsClose server conn
  | some session =>
    let key := deriveSessionKey crypto session.ephemeralPriv session.clientPubKey session.nonce
      session.sessionId
    let server := server.record
      (.derived conn session.ephemeralPriv session.clientPubKey session.nonce key)
    match key with
    | none => server
    | some sessionKey =>
      let server := activateSession server conn deviceId session sessionKey
      let server := registerConnection server deviceId conn
      let ip := server.ipOf conn
      (setDeviceOnline server deviceId true).await
        (.markOnline conn deviceId ip pkt.header.packetId session.sessionId)

/-- Marking online continues: the device gets its timer, and the waiting handler its turn. -/
def resumeMarkOnline (server : Server) (conn : ConnId) (deviceId ip : JsString)
    (packetId sessionId : Nat) : Server :=
  (startHeartbeat (server.record (.presenceChanged deviceId true)) deviceId ip).await
    (.sessionActive conn packetId sessionId)

/-- An ECDH_RESPONSE continues: the device id is read again and the SESSION_ACTIVE sent. -/
def resumeSessionActive (server : Server) (conn : ConnId) (packetId sessionId : Nat) : Server :=
  match TlvBuilder.new.addUInt32 .valueInt sessionId with
  | none => server
  | some b =>
    let deviceId := server.deviceIdOf conn
    match buildPacket
      (handshakePacket (packetId + 1) sessionId deviceId .sessionActive b.build) with
    | none => server
    | some sessActive => wsSend server conn sessActive

/-- The automatic acknowledgement of a packet. -/
def autoAck (session : DeviceSession) (deviceId : JsString) (pkt : ServerPacket) :
    BuildPacketOptions where
  packetId := session.packetCounter + 1
  sessionId := session.sessionId
  sourceId := serverId
  destId := deviceId
  routeType := .direct
  serviceId := pkt.header.serviceId.toNat
  actionId := pkt.header.actionId.toNat
  qos := .qos0
  ack := true

/-- The packet with its payload decrypted, when its flag asks for it; nothing on a wrong tag. -/
def openPacket (crypto : ServerCrypto) (session : DeviceSession) (pkt : ServerPacket) :
    Option ServerPacket :=
  if pkt.header.flags &&& flagEncrypted ≠ 0 then
    (decrypt crypto session.sessionKey session.sessionId pkt.header.packetId
      (pkt.raw.take ykpHeaderSize) pkt.payload pkt.authTag).map fun plaintext =>
        { pkt with payload := plaintext }
  else some pkt

/-- A packet behind the checks: it is acknowledged at level one and then dispatched. -/
def acknowledgeAndDispatch (server : Server) (conn : ConnId) (deviceId : JsString)
    (session : DeviceSession) (pkt : ServerPacket) : Server :=
  if pkt.header.flags &&& flagQosMask = Qos.qos1.byte then
    let server := server.updateSession deviceId countPacket
    match buildPacket (autoAck session deviceId pkt) with
    | none => server
    | some ackPkt =>
      (wsSend server conn ackPkt).record (.dispatched conn deviceId session pkt)
  else server.record (.dispatched conn deviceId session pkt)

/-- A packet of an authenticated device: replay check, decryption, acknowledgement, dispatch. -/
def handleData (crypto : ServerCrypto) (server : Server) (conn : ConnId) (pkt : ServerPacket) :
    Server :=
  let deviceId := server.deviceIdOf conn
  match getSession server deviceId with
  | none => server
  | some session =>
    if session.state ≠ .active then server
    else
      let checked := session.replayGuard.check pkt.header.packetId
      let register (s : DeviceSession) := { s with replayGuard := checked.2 }
      let server := server.updateSession deviceId register
      if !checked.1 then server
      else
        match openPacket crypto session pkt with
        | none => server
        | some opened => acknowledgeAndDispatch server conn deviceId (register session) opened

/-- A packet; the handshake actions are tried first and every other packet needs a session. -/
def handlePacket (crypto : ServerCrypto) (server : Server) (conn : ConnId) (pkt : ServerPacket) :
    Server :=
  let security := pkt.header.serviceId = Service.security.byte
  if security ∧ pkt.header.actionId = SecAction.hello.byte then handleHello server conn pkt
  else if security ∧ pkt.header.actionId = SecAction.ecdhResponse.byte then
    handleEcdhResponse crypto server conn pkt
  else handleData crypto server conn pkt

/-- A message; what is no packet is ignored. -/
def handleMessage (crypto : ServerCrypto) (server : Server) (conn : ConnId) (data : Bytes) :
    Server :=
  let server := { server with seq := server.seq + 1 }
  match parsePacket data with
  | none => server
  | some pkt => handlePacket crypto server conn pkt

/-- A connection is closed: what is kept under its device id is removed. -/
def handleClose (server : Server) (conn : ConnId) : Server :=
  let server := server.updateConn conn fun c => { c with readyState := .closed }
  let deviceId := server.deviceIdOf conn
  if deviceId = [] then server
  else markOffline (closeSession (removeConnection server deviceId) deviceId) deviceId

/-- A waiting handler continues, unless what it waited for failed. -/
def resumeTask (server : Server) (ok : Bool) (draws : Draws) : Task → Server
  | .hello ref packetId => if ok then resumeHello server ref packetId draws else server
  | .markOnline conn deviceId ip packetId sessionId =>
    if ok then resumeMarkOnline server conn deviceId ip packetId sessionId else server
  | .sessionActive conn packetId sessionId => resumeSessionActive server conn packetId sessionId
  | .markOffline deviceId =>
    if ok then server.record (.presenceChanged deviceId false) else server

/-- A firmware update job. -/
structure OtaJob where
  deviceId : JsString
  firmwareVer : JsString
  firmwareSize : Nat
  firmwareSha256 : Bytes
  firmwareSig : Bytes
  chunkSize : Nat
  chunksTotal : Nat

/-- The payload that announces an update, unless a number does not fit. -/
def otaBeginPayload (job : OtaJob) : Option Bytes := do
  let b := TlvBuilder.new.addString .firmwareVer job.firmwareVer
  let b ← b.addUInt32 .valueInt job.firmwareSize
  let b := b.addBytes .hash job.firmwareSha256
  let b := b.addBytes .signature job.firmwareSig
  let b ← b.addUInt32 .valueInt job.chunkSize
  let b ← b.addUInt32 .valueInt job.chunksTotal
  return b.build

/-- A command of the server: for a service and action, at level two, with or without payload. -/
def commandPacket (deviceId : JsString) (packetId service action : Nat)
    (payload : Option Bytes) : BuildPacketOptions where
  packetId := packetId
  sessionId := 0
  sourceId := serverId
  destId := deviceId
  routeType := .direct
  serviceId := service
  actionId := action
  qos := .qos2
  payload := payload

/-- The events the server reacts to. -/
inductive ServerInput
  | connect (conn : ConnId) (ip : JsString)
  | message (conn : ConnId) (data : Bytes)
  /-- The handler at a position of the waiting list continues. -/
  | resume (position : Nat) (ok : Bool) (draws : Draws)
  | close (conn : ConnId)
  /-- A timer of the presence engine fires. -/
  | heartbeat (timer : TimerId)
  /-- A command from the API; the packet id is drawn at random. -/
  | command (deviceId : JsString) (service action packetId : Nat)
  | otaStart (job : OtaJob) (packetId : Nat)
  /-- The action of an automation rule. -/
  | automationAction (target : JsString) (service action packetId : Nat)

/-- One event. -/
def serverStep (crypto : ServerCrypto) (server : Server) : ServerInput → Server
  | .connect conn ip =>
    match server.conns conn with
    | none => { server with conns := Function.update server.conns conn (some ⟨ip, [], .open⟩) }
    | some _ => server
  | .message conn data =>
    -- A connection that is closing still delivers messages, a closed one does not.
    if (server.conns conn).any (·.readyState != .closed) then handleMessage crypto server conn data
    else server
  | .resume position ok draws =>
    match server.tasks[position]? with
    | none => server
    | some task =>
      resumeTask { server with tasks := server.tasks.eraseIdx position } ok draws task
  | .close conn =>
    if (server.conns conn).any (·.readyState != .closed) then handleClose server conn else server
  | .heartbeat timer =>
    match server.timers timer with
    | none => server
    | some (deviceId, _) => setDeviceOnline server deviceId true
  | .command deviceId service action packetId =>
    match server.deviceConnections deviceId with
    | none => server
    | some _ =>
      sendYkpPacket crypto server deviceId (commandPacket deviceId packetId service action none)
  | .otaStart job packetId =>
    match otaBeginPayload job with
    | none => server
    | some payload =>
      sendYkpPacket crypto server job.deviceId (commandPacket job.deviceId packetId
        Service.ota.byte.toNat OtaAction.begin.byte.toNat (some payload))
  | .automationAction target service action packetId =>
    sendYkpPacket crypto server target (commandPacket target packetId service action none)

/-- The server after a list of events since its start. -/
def serverRun (crypto : ServerCrypto) (inputs : List ServerInput) : Server :=
  Machine.run (serverStep crypto) startServer inputs

end Ykp.Backend
