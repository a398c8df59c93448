import Mathlib.Data.List.Induction
import Ykp.Backend.Authentication
import Ykp.Backend.Handlers

/-! Which devices the effects of handling a packet concern. -/

namespace Ykp.Backend

/-- All effects concern one device. -/
def Confined (deviceId : JsString) (effects : List Effect) : Prop :=
  ∀ effect ∈ effects, effect.device = deviceId

@[simp] theorem confined_nil (deviceId : JsString) : Confined deviceId [] := by simp [Confined]

@[simp] theorem confined_cons {deviceId : JsString} {effect : Effect} {rest : List Effect} :
    Confined deviceId (effect :: rest) ↔ effect.device = deviceId ∧ Confined deviceId rest :=
  List.forall_mem_cons

@[simp] theorem confined_append {deviceId : JsString} {first second : List Effect} :
    Confined deviceId (first ++ second) ↔ Confined deviceId first ∧ Confined deviceId second :=
  List.forall_mem_append

/-- The automation engine acts for the device that triggers it, whatever the rules are. -/
theorem runAutomationEngine_confined (env : AutomationEnv) (deviceId : JsString)
    (service action : Nat) (data : SensorReportData) :
    Confined deviceId (runAutomationEngine env deviceId service action data) := by
  unfold runAutomationEngine
  -- The rules are gone through in their order; only triggered ones have effects.
  induction env.rules with
  | nil => exact confined_nil deviceId
  | cons rule rest ih =>
    unfold runAutomationEngine.run
    split
    · rename_i triggered
      have own : rule.triggerDevice = deviceId := by
        simp only [AutomationRule.triggered, Bool.and_eq_true, beq_iff_eq] at triggered
        exact triggered.1.1.1
      split
      · exact confined_cons.mpr ⟨own, confined_nil deviceId⟩
      · exact confined_cons.mpr ⟨own, confined_cons.mpr ⟨rfl, ih⟩⟩
    · exact ih

/-- The device id a health report is stored under: the last one its payload carries, or else the one
its packet names. -/
def storedDeviceId (entries : List TlvEntry) (sourceId : JsString) : JsString :=
  let named := entries.filter fun entry => entry.type = some TlvType.deviceId.byte
  (named.getLast?.bind tlvReadString).getD sourceId

/-- One field leaves the device id of a report, unless it carries one. -/
theorem healthField_deviceId {before after : HealthReportData} {entry : TlvEntry}
    (read : healthField before entry = some after) :
    if entry.type = some TlvType.deviceId.byte then tlvReadString entry = some after.deviceId
    else after.deviceId = before.deviceId := by
  have apart : TlvType.deviceId.byte ≠ TlvType.valueFloat.byte ∧
      TlvType.deviceId.byte ≠ TlvType.valueInt.byte ∧ TlvType.deviceId.byte ≠ TlvType.rssi.byte ∧
        TlvType.deviceId.byte ≠ TlvType.timestamp.byte := by decide
  -- A reader whose value goes into another field keeps the device id.
  have kept {α : Type} {value : Option α} {change : α → HealthReportData}
      (changed : value.map change = some after)
      (other : ∀ value, (change value).deviceId = before.deviceId) : after.deviceId = before.deviceId := by
    obtain ⟨value, -, rfl⟩ := Option.map_eq_some_iff.mp changed
    exact other value
  unfold healthField at read
  split at read
  · rename_i key
    rw [if_neg (by rw [key]; simpa using apart.1.symm)]
    split at read
    · exact kept read fun _ => rfl
    -- The places for such values may be taken already.
    · exact congrArg _ (Option.some.inj read).symm
  split at read
  · rename_i key
    rw [if_neg (by rw [key]; simpa using apart.2.1.symm)]
    split at read
    · exact kept read fun _ => rfl
    · exact congrArg _ (Option.some.inj read).symm
  split at read
  · rename_i key
    rw [if_neg (by rw [key]; simpa using apart.2.2.1.symm)]
    exact kept read fun _ => rfl
  split at read
  · rename_i key
    rw [if_neg (by rw [key]; simpa using apart.2.2.2.symm)]
    exact kept read fun _ => rfl
  split at read
  · rename_i key
    obtain ⟨value, text, rfl⟩ := Option.map_eq_some_iff.mp read
    rw [if_pos key]
    exact text
  · rename_i key
    rw [if_neg key]
    exact congrArg _ (Option.some.inj read).symm

/-- Reading fields one after the other leaves the last device id among them. -/
theorem foldlM_healthField_deviceId {entries : List TlvEntry} {before after : HealthReportData}
    (read : entries.foldlM healthField before = some after) :
    after.deviceId = storedDeviceId entries before.deviceId := by
  -- From the back: the last field decides, or leaves the decision to the fields in front of it.
  induction entries using List.reverseRecOn generalizing after with
  | nil => exact congrArg HealthReportData.deviceId (Option.some.inj read).symm
  | append_singleton earlier entry ih =>
    rw [List.foldlM_append] at read
    obtain ⟨middle, front, last⟩ := Option.bind_eq_some_iff.mp read
    have last : healthField middle entry = some after := by simpa using last
    have one := healthField_deviceId last
    unfold storedDeviceId
    rw [List.filter_append]
    split at one
    · rename_i key
      simp [key, one]
    · rename_i key
      rw [one, ih front]
      simp [key, storedDeviceId]

/-- A packet whose handler writes names only one device, in its header and, for a health report, in
its payload. -/
def NamesOnly (deviceId : JsString) (pkt : ServerPacket) : Prop :=
  match Service.ofByte pkt.header.serviceId with
  | some .health =>
    pkt.header.actionId = HealthAction.report.byte →
      ∀ entries ∈ parseTlv pkt.payload,
        (parseCborHealthPayload pkt.payload pkt.header.sourceId).isSome →
          pkt.header.sourceId = deviceId ∧
            storedDeviceId entries pkt.header.sourceId = deviceId
  | some .relay => pkt.header.actionId = RelayAction.ack.byte → pkt.header.sourceId = deviceId
  | some .sensor => (parseCborSensorPayload pkt.payload).isSome → pkt.header.sourceId = deviceId
  | _ => True

/-- A relay acknowledgement concerns the device its header names. -/
theorem handleRelayAck_confined (deviceId : JsString) (pkt : ServerPacket) :
    Confined deviceId (handleRelayAck pkt) ↔ pkt.header.sourceId = deviceId := by
  simp [handleRelayAck, Effect.device]

/-- A sensor report that can be read concerns the device its header names. -/
theorem handleSensorReport_confined (env : AutomationEnv) (deviceId : JsString)
    (pkt : ServerPacket) :
    Confined deviceId (handleSensorReport env pkt) ↔
      ((parseCborSensorPayload pkt.payload).isSome → pkt.header.sourceId = deviceId) := by
  unfold handleSensorReport
  -- A report that cannot be read has no effects.
  cases parseCborSensorPayload pkt.payload with
  | none => simp
  | some data =>
    simp only [confined_append, confined_cons, Effect.device, confined_nil, and_true,
      Option.isSome_some, forall_const]
    -- The two writes decide, and the rules follow the device that triggers them.
    constructor
    · exact fun confined => confined.1.1
    · rintro rfl
      exact ⟨⟨rfl, rfl⟩, runAutomationEngine_confined env _ 2 1 data⟩

/-- A health report that can be read concerns the device its header names and the one its payload
is stored under. -/
theorem handleHealthReport_confined (deviceId : JsString) (pkt : ServerPacket) :
    Confined deviceId (handleHealthReport pkt) ↔
      ∀ entries ∈ parseTlv pkt.payload,
        (parseCborHealthPayload pkt.payload pkt.header.sourceId).isSome →
          pkt.header.sourceId = deviceId ∧
            storedDeviceId entries pkt.header.sourceId = deviceId := by
  unfold handleHealthReport
  dsimp only
  cases read : parseCborHealthPayload pkt.payload pkt.header.sourceId with
  | none => simp
  | some health =>
    -- The record is stored under what the fields leave as the device id.
    obtain ⟨entries, parsed, fields⟩ := Option.bind_eq_some_iff.mp read
    have stored : health.deviceId = storedDeviceId entries pkt.header.sourceId :=
      foldlM_healthField_deviceId fields
    simp only [confined_append, confined_cons, Effect.device, confined_nil, and_true, parsed,
      Option.mem_some_iff, Option.isSome_some, forall_const, forall_eq']
    rw [stored]
    constructor
    · exact fun confined => ⟨confined.1.2, confined.1.1⟩
    · rintro ⟨source, named⟩
      refine ⟨⟨named, source⟩, ?_⟩
      -- A heap that is too low adds an audit entry for the same device.
      split
      · exact confined_cons.mpr ⟨source, confined_nil deviceId⟩
      · exact confined_nil deviceId

/-- What a dispatched packet does concerns one device exactly when the packet names only it. -/
theorem dispatchEffects_confined (env : AutomationEnv) (deviceId : JsString) (pkt : ServerPacket) :
    Confined deviceId (dispatchEffects env pkt) ↔ NamesOnly deviceId pkt := by
  unfold dispatchEffects NamesOnly
  cases Service.ofByte pkt.header.serviceId with
  | none => simp
  | some service =>
    -- Each service looks at its own action first.
    cases service with
    | health =>
      dsimp only
      split
      · rename_i report
        simp only [report, forall_const]
        exact handleHealthReport_confined deviceId pkt
      · rename_i other
        simp [other]
    | relay =>
      dsimp only
      split
      · rename_i acknowledges
        simp only [acknowledges, forall_const]
        exact handleRelayAck_confined deviceId pkt
      · rename_i other
        simp [other]
    | sensor => exact handleSensorReport_confined env deviceId pkt
    -- The other services write to the console at most.
    | _ => simp

/-- A packet passes the checks under an active session: its id is no replay, its payload opens, and
it can be acknowledged if it asks for it. -/
structure Passes (crypto : ServerCrypto) (session : DeviceSession) (pkt opened : ServerPacket) :
    Prop where
  fresh : (session.replayGuard.check pkt.header.packetId).1 = true
  opens : openPacket crypto session pkt = some opened
  acknowledged : opened.header.flags &&& flagQosMask = Qos.qos1.byte → session.Fits

/-- An acknowledgement is built as long as the session's numbers fit their fields. -/
theorem autoAck_built (session : DeviceSession) (deviceId : JsString) (pkt : ServerPacket) :
    buildPacket (autoAck session deviceId pkt) = none ↔ ¬ session.Fits := by
  rw [buildPacket_eq_none]
  simp only [autoAck, Option.getD_none, List.length_nil, DeviceSession.Fits]
  omega

/-- The dispatches among newly logged entries. -/
theorem dispatchedPackets_logged {before after : Server} {newer : List ServerEvent}
    (logged : after.log = newer ++ before.log) :
    dispatchedPackets before after = newer.filterMap dispatchedPacket := by
  rw [dispatchedPackets, logged, History.newerThan_append]

/-- At the gate a packet of an active session is dispatched, its payload opened, exactly when it
passes the checks. -/
theorem mem_dispatchedPackets {crypto : ServerCrypto} {server : Server} {conn : ConnId}
    {pkt : ServerPacket} {session : DeviceSession} (gated : Gated pkt)
    (found : server.sessions (server.deviceIdOf conn) = some session)
    (active : session.state = .active) (opened : ServerPacket) :
    opened ∈ dispatchedPackets server (handlePacket crypto server conn pkt) ↔
      Passes crypto session pkt opened := by
  have nothing {after : Server} (same : after.log = server.log) :
      dispatchedPackets server after = [] :=
    @dispatchedPackets_logged server after [] same
  have data : handlePacket crypto server conn pkt = handleData crypto server conn pkt :=
    (if_neg gated.1).trans (if_neg gated.2)
  rw [data]
  unfold handleData getSession
  simp only [found, active, ne_eq, not_true_eq_false, if_false]
  -- The guard, the tag and the acknowledgement may each hold the packet back.
  split
  · rename_i replayed
    rw [@nothing (server.updateSession _ _) rfl]
    simp only [List.not_mem_nil, false_iff]
    rintro ⟨fresh, -, -⟩
    simp [fresh] at replayed
  · rename_i fresh
    have fresh : (session.replayGuard.check pkt.header.packetId).1 = true := by simpa using fresh
    split
    · rename_i closed
      rw [@nothing (server.updateSession _ _) rfl]
      simp only [List.not_mem_nil, false_iff]
      rintro ⟨-, opens, -⟩
      rw [opens] at closed
      cases closed
    · rename_i other opens
      -- Whatever passes is the packet that was opened.
      have same : Passes crypto session pkt opened ↔ opened = other ∧
          (other.header.flags &&& flagQosMask = Qos.qos1.byte → session.Fits) := by
        constructor
        · rintro ⟨-, own, acknowledged⟩
          obtain rfl := Option.some.inj (own.symm.trans opens)
          exact ⟨rfl, acknowledged⟩
        · rintro ⟨rfl, acknowledged⟩
          exact ⟨fresh, opens, acknowledged⟩
      rw [same]
      unfold acknowledgeAndDispatch
      split
      · rename_i asks
        dsimp only
        split
        · rename_i unbuilt
          -- A session whose numbers do not fit makes the router throw here.
          rw [@nothing ((server.updateSession _ _).updateSession _ _) rfl]
          have unfit := (autoAck_built _ _ _).mp unbuilt
          simp only [List.not_mem_nil, false_iff]
          rintro ⟨-, fits⟩
          exact unfit (fits asks)
        · rename_i raw built
          have fits : session.Fits := by
            have := mt (autoAck_built _ _ _).mpr (by rw [built]; simp)
            exact not_not.mp this
          rw [@dispatchedPackets_logged server _ [.dispatched _ _ _ other, .sent conn raw] rfl]
          -- The acknowledgement that was sent is no dispatch.
          simp [dispatchedPacket, fits, eq_comm]
      · rename_i silent
        rw [@dispatchedPackets_logged _ _ [.dispatched _ _ _ other] rfl]
        simp [dispatchedPacket, silent]

/-- The effects of an ECDH_RESPONSE concern the device of its connection. -/
theorem ecdhResponseEffects_confined (crypto : ServerCrypto) (server : Server)
    (deviceId : JsString) (pkt : ServerPacket) :
    Confined deviceId (ecdhResponseEffects crypto server deviceId pkt) := by
  unfold ecdhResponseEffects
  -- Without a session or a key nothing is stored.
  split
  · exact confined_nil deviceId
  · split
    · exact confined_nil deviceId
    · dsimp only
      split <;> simp [Effect.device]

/-- A packet names only the device as far as the server acts on it: as a HELLO, or behind the
checks under the session. -/
structure NamesOwn (crypto : ServerCrypto) (deviceId : JsString) (session : DeviceSession)
    (pkt : ServerPacket) : Prop where
  hello : Asks pkt .hello → pkt.header.sourceId = deviceId
  data : Gated pkt → ∀ opened, Passes crypto session pkt opened → NamesOnly deviceId opened

/-- Effects gathered over packets are confined when those of each packet are. -/
theorem confined_flatMap (env : AutomationEnv) (deviceId : JsString) (packets : List ServerPacket) :
    Confined deviceId (packets.flatMap (dispatchEffects env)) ↔
      ∀ pkt ∈ packets, NamesOnly deviceId pkt := by
  simp only [← dispatchEffects_confined env, Confined, List.mem_flatMap]
  constructor
  · exact fun all pkt member effect own => all effect ⟨pkt, member, own⟩
  · rintro all effect ⟨pkt, member, own⟩
    exact all pkt member effect own

/-- What handling a packet does concerns the device of the connection exactly when the packet names
only that device. -/
theorem effects_isolated_iff (crypto : ServerCrypto) (env : AutomationEnv) (server : Server)
    (conn : ConnId) (pkt : ServerPacket) (session : DeviceSession)
    (found : server.sessions (server.deviceIdOf conn) = some session)
    (active : session.state = .active) :
    Confined (server.deviceIdOf conn) (packetEffects crypto env server conn pkt) ↔
      NamesOwn crypto (server.deviceIdOf conn) session pkt := by
  -- A HELLO, an ECDH_RESPONSE, or a packet at the gate.
  unfold packetEffects
  split
  · rename_i hello
    have ungated : ¬ Gated pkt := fun gated => gated.1 hello
    constructor
    · intro confined
      exact ⟨fun _ => (confined_cons.mp confined).1, fun gated => absurd gated ungated⟩
    · intro own
      exact confined_cons.mpr ⟨own.hello hello, confined_nil _⟩
  · rename_i other
    split
    · rename_i response
      -- The device of an ECDH_RESPONSE is that of the connection, whatever the packet says.
      have ungated : ¬ Gated pkt := fun gated => gated.2 response
      constructor
      · exact fun _ => ⟨fun hello => absurd hello other, fun gated => absurd gated ungated⟩
      · exact fun _ => ecdhResponseEffects_confined crypto server _ pkt
    · rename_i neither
      -- What was dispatched at the gate is what passes the checks.
      have gated : Gated pkt := ⟨other, neither⟩
      rw [confined_flatMap]
      constructor
      · intro all
        refine ⟨fun hello => absurd hello other, fun _ opened passes => ?_⟩
        exact all opened ((mem_dispatchedPackets gated found active opened).mpr passes)
      · intro own opened member
        exact own.data gated opened ((mem_dispatchedPackets gated found active opened).mp member)

/-- The bytes of a relay acknowledgement with a given source. -/
def ackBytes (sourceId : JsString) : Bytes :=
  (buildPacket
    { packetId := 4, sessionId := 5, sourceId := sourceId, destId := serverId
      routeType := .cloud, serviceId := Service.relay.byte.toNat
      actionId := RelayAction.ack.byte.toNat, qos := .qos0, payload := none }).getD []

/-- The acknowledgement as it is parsed. -/
def ackFrom (sourceId : JsString) : ServerPacket where
  header := ⟨0, 4, 5, sourceId, serverId, RouteType.cloud.byte, Service.relay.byte,
    RelayAction.ack.byte, 0⟩
  payload := []
  authTag := List.replicate 16 0
  raw := ackBytes sourceId

/-- The session of the sample device after its handshake. -/
def sampleSession : DeviceSession :=
  ((serverRun openCrypto sampleHandshake).sessions sampleId).get (by decide +kernel)

set_option maxRecDepth 4000 in
theorem effects_isolated_sample :
    Confined sampleId (packetEffects openCrypto ⟨[], fun _ => none⟩
        (serverRun openCrypto sampleHandshake) 1 (ackFrom sampleId)) ↔
      NamesOwn openCrypto sampleId sampleSession (ackFrom sampleId) :=
  effects_isolated_iff openCrypto ⟨[], fun _ => none⟩ (serverRun openCrypto sampleHandshake) 1
    (ackFrom sampleId) sampleSession (by decide +kernel) (by decide +kernel)

set_option maxRecDepth 4000 in
/-- On the connection of the sample device, an acknowledgement with the source "D2" writes the
relay's state of that device. -/
theorem foreign_source_not_confined :
    (serverRun openCrypto sampleHandshake).deviceIdOf 1 = sampleId ∧
      isActive (serverRun openCrypto sampleHandshake) sampleId ∧
      parsePacket (ackBytes [0x44, 0x32]) = some (ackFrom [0x44, 0x32]) ∧
      .upsertDeviceState [0x44, 0x32] (.relayState false) ∈
        packetEffects openCrypto ⟨[], fun _ => none⟩ (serverRun openCrypto sampleHandshake) 1
          (ackFrom [0x44, 0x32]) ∧
      ¬ Confined sampleId (packetEffects openCrypto ⟨[], fun _ => none⟩
        (serverRun openCrypto sampleHandshake) 1 (ackFrom [0x44, 0x32])) := by
  unfold Confined
  decide +kernel

end Ykp.Backend
