import Ykp.Backend.Reports
import Ykp.Backend.Steps

/-! What handling a packet does beyond the server's own state: database writes, events, automation. -/

namespace Ykp.Backend

/-- A rule of the automation engine. -/
structure AutomationRule where
  ruleId : JsString
  ruleName : JsString
  triggerDevice : JsString
  triggerService : Nat
  triggerAction : Nat
  targetDevice : JsString
  targetService : Nat
  targetAction : Nat
  deriving DecidableEq, Repr

/-- The rules the database returns, and how sending the command of each ends: whether it was sent,
unless sending throws. -/
structure AutomationEnv where
  rules : List AutomationRule
  sent : AutomationRule → Option Bool

/-- The columns of a device's state that a handler writes. -/
inductive StateFields
  | relayState (state : Bool)
  | health (rssi freeHeap uptimeSec : JsNumber) (rttMs : Option Decimal)
  | sensor (data : SensorReportData)
  deriving DecidableEq, Repr

/-- What an audit entry records. -/
inductive AuditAction
  | sessionActive
  | relayAck (state : UInt8)
  | heapLowAlert (health : HealthReportData)
  | sensorReport (data : SensorReportData)
  | automationTriggered (rule : AutomationRule) (sent : Bool)
  deriving DecidableEq, Repr

/-- A database write, an event, or the action of an automation rule. -/
inductive Effect
  | upsertDevice (deviceId : JsString)
  | createSession (deviceId : JsString)
  | setDeviceOnline (deviceId : JsString)
  | presenceChanged (deviceId : JsString)
  | insertHealthRecord (row : HealthReportData)
  | upsertDeviceState (deviceId : JsString) (fields : StateFields)
  | logAudit (deviceId : JsString) (action : AuditAction)
  | deviceStateChanged (deviceId : JsString) (relayState : Bool)
  | automation (rule : AutomationRule)
  deriving DecidableEq, Repr

/-- The device an effect concerns: the one whose record is written, that an event is about, or that
triggered a rule. -/
def Effect.device : Effect → JsString
  | .upsertDevice deviceId => deviceId
  | .createSession deviceId => deviceId
  | .setDeviceOnline deviceId => deviceId
  | .presenceChanged deviceId => deviceId
  -- The record's own device id overrides the one it is inserted under.
  | .insertHealthRecord row => row.deviceId
  | .upsertDeviceState deviceId _ => deviceId
  | .logAudit deviceId _ => deviceId
  | .deviceStateChanged deviceId _ => deviceId
  | .automation rule => rule.triggerDevice

/-- Whether a text contains another. -/
def includes (text needle : JsString) : Bool :=
  (List.range (text.length + 1)).any fun start => needle.isPrefixOf (text.drop start)

/-- Whether the condition that a rule's name stands for is met; any other name is always met. -/
def conditionMet (rule : AutomationRule) (data : SensorReportData) : Bool :=
  -- The names contain "Motion", "Temp>30" or "Temp<25".
  if includes rule.ruleName [77, 111, 116, 105, 111, 110] then data.motion == some true
  else if includes rule.ruleName [84, 101, 109, 112, 62, 51, 48] then
    data.temperature.any (·.above 30)
  else if includes rule.ruleName [84, 101, 109, 112, 60, 50, 53] then
    data.temperature.any (·.below 25)
  else true

/-- Whether a rule is triggered by an action of a device. -/
def AutomationRule.triggered (rule : AutomationRule) (deviceId : JsString) (service action : Nat)
    (data : SensorReportData) : Bool :=
  rule.triggerDevice == deviceId && rule.triggerService == service &&
    rule.triggerAction == action && conditionMet rule data

/-- The rules are tried one after the other; a command that cannot be sent ends the engine. -/
def runAutomationEngine (env : AutomationEnv) (deviceId : JsString) (service action : Nat)
    (data : SensorReportData) : List Effect :=
  let rec run : List AutomationRule → List Effect
    | [] => []
    | rule :: rest =>
      if rule.triggered deviceId service action data then
        match env.sent rule with
        | none => [.automation rule]
        | some sent =>
          .automation rule :: .logAudit deviceId (.automationTriggered rule sent) :: run rest
      else run rest
  run env.rules

/-- An acknowledgement of the relay: its state is taken from the fourth byte of the payload. -/
def handleRelayAck (pkt : ServerPacket) : List Effect :=
  let deviceId := pkt.header.sourceId
  let state := if 3 < pkt.payload.length then pkt.payload.getD 3 0 else 0
  [.logAudit deviceId (.relayAck state),
    .upsertDeviceState deviceId (.relayState (state = 1)),
    .deviceStateChanged deviceId (state = 1)]

/-- A health report. -/
def handleHealthReport (pkt : ServerPacket) : List Effect :=
  let deviceId := pkt.header.sourceId
  match parseCborHealthPayload pkt.payload deviceId with
  | none => []
  | some health =>
    [.insertHealthRecord health,
      .upsertDeviceState deviceId (.health (health.rssi.getD .undefined) health.freeHeap
        (health.uptimeSec.getD .undefined) health.floats[3]?)] ++
    -- A low heap is worth an audit entry.
    if health.freeHeap.below 50000 then [.logAudit deviceId (.heapLowAlert health)] else []

/-- A sensor report; it may trigger automation rules. -/
def handleSensorReport (env : AutomationEnv) (pkt : ServerPacket) : List Effect :=
  let deviceId := pkt.header.sourceId
  match parseCborSensorPayload pkt.payload with
  | none => []
  | some data =>
    [.upsertDeviceState deviceId (.sensor data), .logAudit deviceId (.sensorReport data)] ++
      runAutomationEngine env deviceId 2 1 data

/-- A packet is handed to its service; services that only write to the console have no effects. -/
def dispatchEffects (env : AutomationEnv) (pkt : ServerPacket) : List Effect :=
  match Service.ofByte pkt.header.serviceId with
  | some .health =>
    if pkt.header.actionId = HealthAction.report.byte then handleHealthReport pkt else []
  | some .relay => if pkt.header.actionId = RelayAction.ack.byte then handleRelayAck pkt else []
  | some .sensor => handleSensorReport env pkt
  | _ => []

/-- The packet of a dispatch. -/
def dispatchedPacket : ServerEvent → Option ServerPacket
  | .dispatched _ _ _ pkt => some pkt
  | _ => none

/-- The packets that were handed to services between two states of the server. -/
def dispatchedPackets (before after : Server) : List ServerPacket :=
  (History.newerThan before.log after.log).filterMap dispatchedPacket

/-- The effects of an ECDH_RESPONSE: the session is stored, the device marked online, and its
activation audited once the SESSION_ACTIVE is built. -/
def ecdhResponseEffects (crypto : ServerCrypto) (server : Server) (deviceId : JsString)
    (pkt : ServerPacket) : List Effect :=
  match getSession server deviceId with
  | none => []
  | some session =>
    match deriveSessionKey crypto session.ephemeralPriv session.clientPubKey session.nonce
      session.sessionId with
    | none => []
    | some _ =>
      let built := (TlvBuilder.new.addUInt32 .valueInt session.sessionId).bind fun b =>
        buildPacket
          (handshakePacket (pkt.header.packetId + 1) session.sessionId deviceId .sessionActive b.build)
      [.createSession deviceId, .setDeviceOnline deviceId, .presenceChanged deviceId] ++
        if built.isSome then [.logAudit deviceId .sessionActive] else []

/-- All effects of handling a packet to its end, as long as no other packet on the connection comes
in between. -/
def packetEffects (crypto : ServerCrypto) (env : AutomationEnv) (server : Server) (conn : ConnId)
    (pkt : ServerPacket) : List Effect :=
  if Asks pkt .hello then [.upsertDevice pkt.header.sourceId]
  else if Asks pkt .ecdhResponse then
    ecdhResponseEffects crypto server (server.deviceIdOf conn) pkt
  else
    (dispatchedPackets server (handlePacket crypto server conn pkt)).flatMap (dispatchEffects env)

end Ykp.Backend
