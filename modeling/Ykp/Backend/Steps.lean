import Ykp.Backend.Router

/-! What one event does to the server's sessions, routes, identities and log. -/

namespace Ykp.Backend

/-- The tables that decide who acts as which device. -/
structure Registry where
  sessions : JsString → Option DeviceSession
  deviceConnections : JsString → Option ConnId
  identity : ConnId → JsString
  serial : Nat

/-- The tables of a server. -/
def Server.registry (server : Server) : Registry :=
  ⟨server.sessions, server.deviceConnections, server.deviceIdOf, server.serial⟩

/-- A session put in place of a device's session. -/
def Registry.setSession (registry : Registry) (deviceId : JsString)
    (session : Option DeviceSession) : Registry :=
  { registry with sessions := Function.update registry.sessions deviceId session }

/-- Entries about sending, derivations and presence. -/
def ServerEvent.Quiet : ServerEvent → Prop
  | .sent _ _ => True
  | .derived _ _ _ _ _ => True
  | .presenceChanged _ _ => True
  | _ => False

/-- A packet asks for an action of the security service. -/
def Asks (pkt : ServerPacket) (action : SecAction) : Prop :=
  pkt.header.serviceId = Service.security.byte ∧ pkt.header.actionId = action.byte

/-- A packet that is neither a HELLO nor an ECDH_RESPONSE and so meets the gate. -/
def Gated (pkt : ServerPacket) : Prop := ¬ Asks pkt .hello ∧ ¬ Asks pkt .ecdhResponse

instance (pkt : ServerPacket) (action : SecAction) : Decidable (Asks pkt action) :=
  inferInstanceAs (Decidable (_ ∧ _))

instance (pkt : ServerPacket) : Decidable (Gated pkt) := inferInstanceAs (Decidable (_ ∧ _))

/-- The packet an event delivers, with its connection; a closed connection delivers none. -/
def Server.arrival (server : Server) : ServerInput → Option (ConnId × ServerPacket)
  | .message conn data =>
    if (server.conns conn).any (·.readyState != .closed) then
      (parsePacket data).map fun pkt => (conn, pkt)
    else none
  | _ => none

/-- The HELLO a packet is received as. -/
def helloRef (server : Server) (conn : ConnId) (pkt : ServerPacket) : HelloRef :=
  ⟨conn, server.seq + 1, pkt.header.sourceId, pkt.payload⟩

/-- The CHALLENGE for a new session, unless it cannot be built. -/
def challengeFor (packetId : Nat) (deviceId : JsString) (draws : Draws) : Option Bytes :=
  buildPacket (handshakePacket packetId 0 deviceId .challenge
    (challengePayload draws.nonce draws.publicKey))

/-- A session whose replay guard has checked a packet id, and whose counter may have counted. -/
def DeviceSession.checked (session : DeviceSession) (packetId counter : Nat) : DeviceSession :=
  { session with
    replayGuard := (session.replayGuard.check packetId).2
    packetCounter := counter }

/-- A session that differs from another in its replay guard and its counter at most. -/
def DeviceSession.Touched (before after : DeviceSession) : Prop :=
  ∃ guard counter, after = { before with replayGuard := guard, packetCounter := counter }

theorem touched_checked (session : DeviceSession) (packetId counter : Nat) :
    session.Touched (session.checked packetId counter) := ⟨_, counter, rfl⟩

theorem touched_count (session : DeviceSession) : session.Touched (countPacket session) :=
  ⟨session.replayGuard, _, rfl⟩

/-- What one event does: the entries it logs and the tables it leaves behind. -/
inductive Moved (crypto : ServerCrypto) (before : Server) :
    ServerInput → List ServerEvent → Registry → Prop
  | settled {input : ServerInput} {newer : List ServerEvent}
    (quiet : ∀ event ∈ newer, event.Quiet) : Moved crypto before input newer before.registry
  /-- A HELLO sets the device id of its connection. -/
  | helloReceived {input : ServerInput} {conn : ConnId} {pkt : ServerPacket}
    (arrived : before.arrival input = some (conn, pkt)) (asks : Asks pkt .hello) :
    Moved crypto before input [.helloReceived (helloRef before conn pkt)]
      { before.registry with
        identity := Function.update before.deviceIdOf conn pkt.header.sourceId }
  /-- A HELLO that waited creates a pending session under the device id its connection has now. -/
  | created {position packetId : Nat} {draws : Draws} {ref : HelloRef} {deviceId : JsString}
    {entry : TlvEntry} (named : before.deviceIdOf ref.conn = deviceId)
    (waited : before.tasks[position]? = some (.hello ref packetId))
    (found : findTlv ref.payload .publicKey = some (some entry)) :
    Moved crypto before (.resume position true draws)
      (((challengeFor packetId deviceId draws).map (ServerEvent.sent ref.conn)).toList ++
        [.created (pendingSession deviceId draws entry.value ref before.serial)])
      { before.registry.setSession deviceId
          (some (pendingSession deviceId draws entry.value ref before.serial)) with
        serial := before.serial + 1 }
  /-- An ECDH_RESPONSE activates the session it finds and registers its connection. -/
  | activated {input : ServerInput} {conn : ConnId} {pkt : ServerPacket} {deviceId : JsString}
    {session : DeviceSession} {key : Bytes} (arrived : before.arrival input = some (conn, pkt))
    (named : before.deviceIdOf conn = deviceId) (asks : Asks pkt .ecdhResponse)
    (found : before.sessions deviceId = some session)
    (derived : deriveSessionKey crypto session.ephemeralPriv session.clientPubKey session.nonce
      session.sessionId = some key) :
    Moved crypto before input
      [.activated conn deviceId (session.activate key),
        .derived conn session.ephemeralPriv session.clientPubKey session.nonce (some key)]
      { before.registry.setSession deviceId (some (session.activate key)) with
        deviceConnections := Function.update before.deviceConnections deviceId (some conn) }
  /-- A packet meets an active session and goes no further than the checks. -/
  | filtered {input : ServerInput} {conn : ConnId} {pkt : ServerPacket} {deviceId : JsString}
    {session : DeviceSession} {counter : Nat} {newer : List ServerEvent}
    (arrived : before.arrival input = some (conn, pkt))
    (named : before.deviceIdOf conn = deviceId) (gated : Gated pkt)
    (found : before.sessions deviceId = some session) (active : session.state = .active)
    (quiet : ∀ event ∈ newer, event.Quiet) :
    Moved crypto before input newer
      (before.registry.setSession deviceId (some (session.checked pkt.header.packetId counter)))
  /-- A packet meets an active session and passes the checks. -/
  | dispatched {input : ServerInput} {conn : ConnId} {pkt opened : ServerPacket}
    {deviceId : JsString} {session : DeviceSession} {counter : Nat} {newer : List ServerEvent}
    (arrived : before.arrival input = some (conn, pkt))
    (named : before.deviceIdOf conn = deviceId) (gated : Gated pkt)
    (found : before.sessions deviceId = some session) (active : session.state = .active)
    (fresh : (session.replayGuard.check pkt.header.packetId).1 = true)
    (opens : openPacket crypto session pkt = some opened)
    (quiet : ∀ event ∈ newer, event.Quiet) :
    Moved crypto before input
      (.dispatched conn deviceId
        (session.checked pkt.header.packetId session.packetCounter) opened :: newer)
      (before.registry.setSession deviceId (some (session.checked pkt.header.packetId counter)))
  /-- A packet for a device is counted in its session, and the payload that announces an update
  encrypted. -/
  | counted {input : ServerInput} {deviceId : JsString} {session : DeviceSession}
    {newer sealed : List ServerEvent} (found : before.sessions deviceId = some session)
    (quiet : ∀ event ∈ newer, event.Quiet)
    (seals : ∀ event ∈ sealed, ∃ job drawn packetId aad payload, input = .otaStart job drawn ∧
      event = .encrypted deviceId session packetId aad payload) :
    Moved crypto before input (newer ++ sealed)
      (before.registry.setSession deviceId (some (countPacket session)))
  /-- A connection is closed together with what stands under its device id. -/
  | closed {conn : ConnId} {deviceId : JsString} (named : before.deviceIdOf conn = deviceId) :
    Moved crypto before (.close conn) []
      { before.registry.setSession deviceId none with
        deviceConnections := Function.update before.deviceConnections deviceId none }

/-- One event leads from a server to another in one of the ways above. -/
def Moves (crypto : ServerCrypto) (before : Server) (input : ServerInput) (after : Server) : Prop :=
  ∃ newer, after.log = newer ++ before.log ∧ Moved crypto before input newer after.registry

/-- What holds of quiet entries and of a created session holds of all its creation logs. -/
theorem forall_created {P : ServerEvent → Prop} (quiet : ∀ event, event.Quiet → P event)
    {conn : ConnId} {challenge : Option Bytes} {session : DeviceSession}
    (created : P (.created session)) :
    ∀ event ∈ (challenge.map (ServerEvent.sent conn)).toList ++ [.created session], P event := by
  intro event member
  rcases List.mem_append.mp member with sent | new
  · obtain ⟨raw, -, rfl⟩ := Option.map_eq_some_iff.mp (Option.mem_toList.mp sent)
    exact quiet _ trivial
  · exact List.mem_singleton.mp new ▸ created

/-- The session of a device after it was set. -/
theorem setSession_cases {registry : Registry} {deviceId other : JsString}
    {session : Option DeviceSession} {found : DeviceSession}
    (present : (registry.setSession deviceId session).sessions other = some found) :
    (other = deviceId ∧ session = some found) ∨
      (other ≠ deviceId ∧ registry.sessions other = some found) := by
  -- The session was set for this device or for another.
  by_cases same : other = deviceId
  · subst same
    exact .inl ⟨rfl, by simpa [Registry.setSession] using present⟩
  · exact .inr ⟨same, by simpa [Registry.setSession, Function.update_of_ne same] using present⟩

/-- What holds of every session still does once a session is set of which it holds. -/
theorem forall_setSession {registry : Registry} {deviceId : JsString} {session : DeviceSession}
    {P : JsString → DeviceSession → Prop} (new : P deviceId session)
    (all : ∀ other present, registry.sessions other = some present → P other present) :
    ∀ other present, (registry.setSession deviceId (some session)).sessions other = some present →
      P other present := by
  intro other present holds
  rcases setSession_cases holds with ⟨rfl, same⟩ | ⟨-, old⟩
  · obtain rfl := Option.some.inj same
    exact new
  · exact all other present old

/-- What holds of every session still does once one is removed. -/
theorem forall_dropSession {registry : Registry} {deviceId : JsString}
    {P : JsString → DeviceSession → Prop}
    (all : ∀ other present, registry.sessions other = some present → P other present) :
    ∀ other present, (registry.setSession deviceId none).sessions other = some present →
      P other present := by
  intro other present holds
  rcases setSession_cases holds with ⟨-, none⟩ | ⟨-, old⟩
  · cases none
  · exact all other present old

/-- What holds of quiet entries and of the encryptions of an update holds of all entries of a counted
packet. -/
theorem forall_counted {P : ServerEvent → Prop} (quiet : ∀ event, event.Quiet → P event)
    {input : ServerInput} {deviceId : JsString} {session : DeviceSession}
    {newer sealed : List ServerEvent} (silent : ∀ event ∈ newer, event.Quiet)
    (seals : ∀ event ∈ sealed, ∃ job drawn packetId aad payload, input = .otaStart job drawn ∧
      event = .encrypted deviceId session packetId aad payload)
    (encrypted : ∀ job drawn packetId aad payload, input = .otaStart job drawn →
      P (.encrypted deviceId session packetId aad payload)) :
    ∀ event ∈ newer ++ sealed, P event := by
  intro event member
  rcases List.mem_append.mp member with sent | sealed
  · exact quiet event (silent event sent)
  · obtain ⟨job, drawn, packetId, aad, payload, starts, rfl⟩ := seals event sealed
    exact encrypted job drawn packetId aad payload starts

/-- A change of a connection that keeps its device id changes no identity. -/
theorem updateConn_registry (server : Server) (conn : ConnId) {change : Conn → Conn}
    (keeps : ∀ c, (change c).deviceId = c.deviceId) :
    (server.updateConn conn change).registry = server.registry := by
  have identity : (server.updateConn conn change).deviceIdOf = server.deviceIdOf := by
    funext other
    unfold Server.deviceIdOf Server.updateConn
    -- Only the connection itself could have changed.
    by_cases same : other = conn
    · subst same
      cases server.conns other <;> simp [keeps]
    · simp [Function.update_of_ne same]
  simp only [Server.registry, identity]
  rfl

theorem wsClose_registry (server : Server) (conn : ConnId) :
    (wsClose server conn).registry = server.registry :=
  updateConn_registry server conn fun c => by split <;> rfl

/-- Stopping a timer changes none of the tables and logs nothing. -/
theorem stopHeartbeat_registry (server : Server) (deviceId : JsString) :
    (stopHeartbeat server deviceId).registry = server.registry ∧
      (stopHeartbeat server deviceId).log = server.log := by
  unfold stopHeartbeat
  split <;> exact ⟨rfl, rfl⟩

/-- Sending to a device changes none of the tables and logs at most the bytes sent. -/
theorem sendToDevice_quiet (server : Server) (deviceId : JsString) (raw : Bytes) :
    (sendToDevice server deviceId raw).registry = server.registry ∧
      ∃ newer, (sendToDevice server deviceId raw).log = newer ++ server.log ∧
        ∀ event ∈ newer, event.Quiet := by
  unfold sendToDevice
  -- Without an open connection the packet is dropped.
  split
  · exact ⟨rfl, [], rfl, by simp⟩
  · rename_i conn _
    exact ⟨rfl, [.sent conn raw], rfl, by simp [ServerEvent.Quiet]⟩

/-- Whatever leaves the tables alone and logs quiet entries has settled. -/
theorem moves_settled (crypto : ServerCrypto) {before after : Server} {input : ServerInput}
    {newer : List ServerEvent} (registry : after.registry = before.registry)
    (logged : after.log = newer ++ before.log) (quiet : ∀ event ∈ newer, event.Quiet) :
    Moves crypto before input after :=
  ⟨newer, logged, registry ▸ .settled quiet⟩

/-- Whatever leaves tables and log alone has settled. -/
theorem moves_silent (crypto : ServerCrypto) {before after : Server} {input : ServerInput}
    (registry : after.registry = before.registry) (logged : after.log = before.log) :
    Moves crypto before input after :=
  moves_settled crypto registry (logged.trans (List.nil_append _).symm) (by simp)

/-- Whatever leaves the tables alone and logs one quiet entry has settled. -/
theorem moves_one (crypto : ServerCrypto) {before after : Server} {input : ServerInput}
    {event : ServerEvent} (registry : after.registry = before.registry)
    (logged : after.log = event :: before.log) (quiet : event.Quiet) :
    Moves crypto before input after := by
  have all : ∀ other ∈ [event], other.Quiet := by simpa using quiet
  exact moves_settled crypto registry logged all

/-- A packet cannot be built exactly when a number does not fit its field. -/
theorem buildPacket_eq_none {opts : BuildPacketOptions} :
    buildPacket opts = none ↔ 0xFFFFFFFF < opts.packetId ∨ 0xFFFFFFFF < opts.sessionId ∨
      0xFFFF < (opts.payload.getD []).length := by
  simp only [buildPacket]
  split <;> simp_all

/-- A changed session, and nothing else of the tables. -/
theorem updateSession_registry {server : Server} {deviceId : JsString} {session : DeviceSession}
    (found : server.sessions deviceId = some session) (change : DeviceSession → DeviceSession) :
    (server.updateSession deviceId change).registry =
      server.registry.setSession deviceId (some (change session)) := by
  have changed : (server.sessions deviceId).map change = some (change session) := by rw [found]; rfl
  simp only [Server.updateSession, changed]
  rfl

/-- The numbers of a session's next packet fit their fields. -/
def DeviceSession.Fits (session : DeviceSession) : Prop :=
  session.packetCounter + 1 ≤ 0xFFFFFFFF ∧ session.sessionId ≤ 0xFFFFFFFF

/-- A packet for a device with a session is counted, and its payload is encrypted when there is one
and the packet's numbers fit. -/
theorem sendYkpPacket_session (crypto : ServerCrypto) {server : Server} {deviceId : JsString}
    {session : DeviceSession} (found : server.sessions deviceId = some session)
    (opts : BuildPacketOptions) :
    (sendYkpPacket crypto server deviceId opts).registry =
        server.registry.setSession deviceId (some (countPacket session)) ∧
      ∃ newer sealed, (sendYkpPacket crypto server deviceId opts).log =
          newer ++ (sealed ++ server.log) ∧ (∀ event ∈ newer, event.Quiet) ∧
        (((opts.payload.getD [] = [] ∨ ¬ session.Fits) ∧ sealed = []) ∨
          (opts.payload.getD [] ≠ [] ∧ session.Fits ∧ ∃ aad, sealed =
            [.encrypted deviceId session (session.packetCounter + 1) aad
              (opts.payload.getD [])])) := by
  have counted := updateSession_registry found countPacket
  have silent : ∀ event ∈ ([] : List ServerEvent), event.Quiet := by simp
  simp only [sendYkpPacket, getSession, found, List.length_eq_zero_iff]
  -- An empty payload skips the encryption.
  split
  · rename_i empty
    split
    · exact ⟨counted, [], [], rfl, silent, .inl ⟨.inl empty, rfl⟩⟩
    · rename_i raw _
      obtain ⟨registry, newer, logged, quiet⟩ :=
        sendToDevice_quiet (server.updateSession deviceId countPacket) deviceId raw
      exact ⟨registry.trans counted, newer, [], logged, quiet, .inl ⟨.inl empty, rfl⟩⟩
  · rename_i carries
    split
    · rename_i unbuilt
      -- The payload of this packet is empty, so a number was too large.
      have unfit : ¬ session.Fits := by
        have big := buildPacket_eq_none.mp unbuilt
        simp only [Option.getD_some, List.length_nil] at big
        rintro ⟨counter, sessionId⟩
        omega
      exact ⟨counted, [], [], rfl, silent, .inl ⟨.inr unfit, rfl⟩⟩
    · rename_i emptyPkt built
      have fits : session.Fits := by
        have small := mt buildPacket_eq_none.mpr (by rw [built]; simp)
        simp only [Option.getD_some, List.length_nil, not_or, Nat.not_lt] at small
        exact ⟨small.1, small.2.1⟩
      split
      -- The payload was encrypted, but the packet around it cannot be built.
      · exact ⟨counted, [], _, rfl, silent, .inr ⟨carries, fits, _, rfl⟩⟩
      · rename_i raw _
        obtain ⟨registry, newer, logged, quiet⟩ := sendToDevice_quiet
          ((server.updateSession deviceId countPacket).record (.encrypted deviceId session
            (session.packetCounter + 1) (emptyPkt.take ykpHeaderSize) (opts.payload.getD [])))
          deviceId raw
        exact ⟨registry.trans counted, newer, _, logged, quiet, .inr ⟨carries, fits, _, rfl⟩⟩

/-- A packet for a device without session changes nothing and is sent as it is. -/
theorem sendYkpPacket_without (crypto : ServerCrypto) {server : Server} {deviceId : JsString}
    (missing : server.sessions deviceId = none) (opts : BuildPacketOptions) :
    (sendYkpPacket crypto server deviceId opts).registry = server.registry ∧
      ∃ newer, (sendYkpPacket crypto server deviceId opts).log = newer ++ server.log ∧
        ∀ event ∈ newer, event.Quiet := by
  simp only [sendYkpPacket, getSession, missing]
  -- Nothing is encrypted without a session.
  split
  · exact ⟨rfl, [], rfl, by simp⟩
  · exact sendToDevice_quiet server deviceId _

/-- A packet for a device leaves the tables alone, or is counted in the device's session; only an
update is announced with a payload. -/
theorem sendYkpPacket_moves (crypto : ServerCrypto) (server : Server) (deviceId : JsString)
    {opts : BuildPacketOptions} {input : ServerInput}
    (bare : opts.payload = none ∨ ∃ job drawn, input = .otaStart job drawn) :
    Moves crypto server input (sendYkpPacket crypto server deviceId opts) := by
  cases found : server.sessions deviceId with
  | none =>
    obtain ⟨registry, newer, logged, quiet⟩ := sendYkpPacket_without crypto found opts
    exact moves_settled crypto registry logged quiet
  | some session =>
    obtain ⟨registry, newer, sealed, logged, quiet, seals⟩ :=
      sendYkpPacket_session crypto found opts
    refine ⟨newer ++ sealed, by rw [logged, List.append_assoc], ?_⟩
    rw [registry]
    refine .counted found quiet fun event member => ?_
    -- A payload that was encrypted announces an update.
    rcases seals with ⟨-, rfl⟩ | ⟨carries, -, aad, rfl⟩
    · cases member
    · rcases bare with none | ⟨job, drawn, rfl⟩
      · exact absurd (by rw [none]; rfl) carries
      · exact ⟨job, drawn, _, aad, _, rfl, List.mem_singleton.mp member⟩

/-- The device id of a known connection after it was set. -/
theorem deviceIdOf_set {server : Server} {conn : ConnId} (known : server.conns conn ≠ none)
    (deviceId : JsString) :
    (server.updateConn conn fun c => { c with deviceId := deviceId }).deviceIdOf =
      Function.update server.deviceIdOf conn deviceId := by
  obtain ⟨c, present⟩ := Option.ne_none_iff_exists'.mp known
  funext other
  by_cases same : other = conn
  · subst same
    simp [Server.deviceIdOf, Server.updateConn, present]
  · simp [Server.deviceIdOf, Server.updateConn, Function.update_of_ne same]

/-- A HELLO sets the device id of its connection. -/
theorem handleHello_moves (crypto : ServerCrypto) {server : Server} {input : ServerInput}
    {conn : ConnId} {pkt : ServerPacket} (known : server.conns conn ≠ none)
    (arrived : server.arrival input = some (conn, pkt)) (asks : Asks pkt .hello) :
    Moves crypto server input
      (handleHello { server with seq := server.seq + 1 } conn pkt) := by
  have identity := deviceIdOf_set known pkt.header.sourceId
  refine ⟨[.helloReceived ⟨conn, server.seq + 1, pkt.header.sourceId, pkt.payload⟩], rfl, ?_⟩
  -- Nothing else of the tables changes until the database has answered.
  have registry : (handleHello { server with seq := server.seq + 1 } conn pkt).registry =
      { server.registry with
        identity := Function.update server.deviceIdOf conn pkt.header.sourceId } := by
    rw [← identity]
    rfl
  rw [registry]
  exact .helloReceived arrived asks

/-- An ECDH_RESPONSE settles, or activates the session of its device. -/
theorem handleEcdhResponse_moves (crypto : ServerCrypto) {server : Server} {input : ServerInput}
    {conn : ConnId} {pkt : ServerPacket} (arrived : server.arrival input = some (conn, pkt))
    (asks : Asks pkt .ecdhResponse) :
    Moves crypto server input
      (handleEcdhResponse crypto { server with seq := server.seq + 1 } conn pkt) := by
  unfold handleEcdhResponse getSession
  dsimp only
  -- The session may be missing, or its key may fail to be derived.
  split
  · exact moves_silent crypto (wsClose_registry _ conn) rfl
  · rename_i session found
    split
    · exact moves_one crypto rfl rfl trivial
    · rename_i key derived
      rw [derived]
      exact ⟨_, rfl, .activated arrived rfl asks found derived⟩

/-- Setting a session twice leaves the second one. -/
@[simp] theorem setSession_twice (registry : Registry) (deviceId : JsString)
    (first second : Option DeviceSession) :
    (registry.setSession deviceId first).setSession deviceId second =
      registry.setSession deviceId second := by
  simp [Registry.setSession]

/-- A packet behind the checks is dispatched unless its acknowledgement cannot be built; the session
counts an acknowledgement. -/
theorem acknowledgeAndDispatch_cases {server : Server} {deviceId : JsString}
    {session : DeviceSession} (found : server.sessions deviceId = some session) (conn : ConnId)
    (pkt : ServerPacket) :
    let after := acknowledgeAndDispatch server conn deviceId session pkt
    ∃ counter newer, after.registry =
        server.registry.setSession deviceId (some { session with packetCounter := counter }) ∧
      (∀ event ∈ newer, event.Quiet) ∧ (after.log = newer ++ server.log ∨
        after.log = .dispatched conn deviceId session pkt :: (newer ++ server.log)) := by
  have silent : ∀ event ∈ ([] : List ServerEvent), event.Quiet := by simp
  dsimp only
  unfold acknowledgeAndDispatch
  -- Only a packet that asks for it is acknowledged.
  split
  · have counted := updateSession_registry found countPacket
    dsimp only
    split
    -- The router throws when the acknowledgement cannot be built.
    · exact ⟨_, [], counted, silent, .inl rfl⟩
    · rename_i raw _
      exact ⟨_, [.sent conn raw], counted, by simp [ServerEvent.Quiet], .inr rfl⟩
  · have same : server.registry.setSession deviceId (some session) = server.registry := by
      simp only [Registry.setSession, ← found, Server.registry, Function.update_eq_self]
    exact ⟨session.packetCounter, [], same.symm, silent, .inr rfl⟩

/-- A packet at the gate settles, or is checked under the active session of its device. -/
theorem handleData_moves (crypto : ServerCrypto) {server : Server} {input : ServerInput}
    {conn : ConnId} {pkt : ServerPacket} (arrived : server.arrival input = some (conn, pkt))
    (gated : Gated pkt) :
    Moves crypto server input
      (handleData crypto { server with seq := server.seq + 1 } conn pkt) := by
  unfold handleData getSession
  dsimp only
  split
  · exact moves_silent crypto rfl rfl
  · rename_i session found
    split
    · exact moves_silent crypto rfl rfl
    · rename_i active
      have active := not_ne_iff.mp active
      -- The guard registers the packet id before anything else is looked at.
      generalize updated : Server.updateSession { server with seq := server.seq + 1 } _ _ =
        registered
      have registry : registered.registry = server.registry.setSession (server.deviceIdOf conn)
          (some (session.checked pkt.header.packetId session.packetCounter)) := by
        rw [← updated]
        exact updateSession_registry found _
      have logged : registered.log = server.log := by rw [← updated]; rfl
      have kept : Moves crypto server input registered :=
        ⟨[], logged, registry ▸ .filtered arrived rfl gated found active (by simp)⟩
      split
      · exact kept
      · rename_i fresh
        have fresh : (session.replayGuard.check pkt.header.packetId).1 = true := by
          simpa using fresh
        split
        · exact kept
        · rename_i opened opens
          have now : registered.sessions (server.deviceIdOf conn) =
              some (session.checked pkt.header.packetId session.packetCounter) := by
            have := congrFun (congrArg Registry.sessions registry) (server.deviceIdOf conn)
            simpa [Registry.setSession, Server.registry] using this
          obtain ⟨counter, newer, moved, quiet, entries⟩ :=
            acknowledgeAndDispatch_cases now conn opened
          rw [registry, setSession_twice] at moved
          rw [logged] at entries
          -- Whether the packet is dispatched, its id was registered.
          rcases entries with unsent | dispatched
          · exact ⟨newer, unsent, moved ▸ .filtered arrived rfl gated found active quiet⟩
          · exact ⟨_ :: newer, dispatched,
              moved ▸ .dispatched arrived rfl gated found active fresh opens quiet⟩

/-- A connection in some state is known. -/
theorem known_of_any {server : Server} {conn : ConnId} {state : Conn → Bool}
    (delivers : (server.conns conn).any state = true) : server.conns conn ≠ none := by
  intro unknown
  simp [unknown] at delivers

/-- A message of a connection that is not closed. -/
theorem handleMessage_moves (crypto : ServerCrypto) {server : Server} {conn : ConnId}
    (delivers : (server.conns conn).any (·.readyState != .closed) = true) (data : Bytes) :
    Moves crypto server (.message conn data) (handleMessage crypto server conn data) := by
  unfold handleMessage
  dsimp only
  -- Bytes that are no packet are ignored.
  split
  · exact moves_silent crypto rfl rfl
  · rename_i pkt parsed
    have arrived : server.arrival (.message conn data) = some (conn, pkt) := by
      simp [Server.arrival, delivers, parsed]
    unfold handlePacket
    dsimp only
    split
    · rename_i asks
      exact handleHello_moves crypto (known_of_any delivers) arrived asks
    · rename_i hello
      split
      · rename_i asks
        exact handleEcdhResponse_moves crypto arrived asks
      · rename_i response
        exact handleData_moves crypto arrived ⟨hello, response⟩

/-- A message that is a packet is handled unless its connection is closed. -/
theorem serverStep_message (crypto : ServerCrypto) (server : Server) (conn : ConnId)
    {data : Bytes} {pkt : ServerPacket} (parsed : parsePacket data = some pkt) :
    serverStep crypto server (.message conn data) =
      if (server.conns conn).any (·.readyState != .closed) then
        handlePacket crypto { server with seq := server.seq + 1 } conn pkt
      else server := by
  simp only [serverStep, handleMessage, parsed]

/-- Marking a device offline leaves the tables alone and logs nothing yet. -/
theorem markOffline_registry (server : Server) (deviceId : JsString) :
    (markOffline server deviceId).registry = server.registry ∧
      (markOffline server deviceId).log = server.log :=
  stopHeartbeat_registry server deviceId

/-- The close of a connection. -/
theorem handleClose_moves (crypto : ServerCrypto) (server : Server) (conn : ConnId) :
    Moves crypto server (.close conn) (handleClose server conn) := by
  have same : (server.updateConn conn fun c => { c with readyState := .closed }).registry =
      server.registry := updateConn_registry server conn fun _ => rfl
  have logged : (server.updateConn conn fun c => { c with readyState := .closed }).log =
      server.log := rfl
  unfold handleClose
  generalize server.updateConn conn _ = closed at same logged
  have named : closed.deviceIdOf conn = server.deviceIdOf conn :=
    congrFun (congrArg Registry.identity same) conn
  dsimp only
  rw [named]
  -- Nothing stands under the empty device id.
  split
  · exact moves_silent crypto same logged
  · obtain ⟨registry, silent⟩ := markOffline_registry
      (closeSession (removeConnection closed (server.deviceIdOf conn)) (server.deviceIdOf conn))
      (server.deviceIdOf conn)
    refine ⟨[], silent.trans logged, ?_⟩
    have removed : (closeSession (removeConnection closed (server.deviceIdOf conn))
        (server.deviceIdOf conn)).registry =
        { closed.registry.setSession (server.deviceIdOf conn) none with
          deviceConnections :=
            Function.update closed.registry.deviceConnections (server.deviceIdOf conn) none } := rfl
    rw [registry, removed, same]
    exact .closed rfl

/-- A HELLO that continues closes its connection, or creates a session. -/
theorem resumeHello_moves (crypto : ServerCrypto) {server : Server} {position packetId : Nat}
    {ref : HelloRef} (draws : Draws) (waited : server.tasks[position]? = some (.hello ref packetId)) :
    Moves crypto server (.resume position true draws)
      (resumeHello { server with tasks := server.tasks.eraseIdx position } ref packetId draws) := by
  unfold resumeHello
  dsimp only
  -- The lookup may fail, find no key, or find the key the session is created with.
  split
  · exact moves_silent crypto rfl rfl
  · exact moves_silent crypto (wsClose_registry _ ref.conn) rfl
  · rename_i entry found
    have created := @Moved.created crypto server position packetId draws ref _ entry rfl waited found
    split
    · rename_i unbuilt
      have unsent : challengeFor packetId (server.deviceIdOf ref.conn) draws = none := unbuilt
      rw [unsent] at created
      exact ⟨_, rfl, created⟩
    · rename_i raw built
      have challenge : challengeFor packetId (server.deviceIdOf ref.conn) draws = some raw := built
      rw [challenge] at created
      exact ⟨_, rfl, created⟩

/-- A handler that waited continues. -/
theorem resumeTask_moves (crypto : ServerCrypto) {server : Server} {position : Nat} {task : Task}
    (ok : Bool) (draws : Draws) (waited : server.tasks[position]? = some task) :
    Moves crypto server (.resume position ok draws)
      (resumeTask { server with tasks := server.tasks.eraseIdx position } ok draws task) := by
  -- Four handlers wait for the database; one of them creates a session.
  cases task with
  | hello ref packetId =>
    cases ok with
    | false => exact moves_silent crypto rfl rfl
    | true => exact resumeHello_moves crypto draws waited
  | markOnline conn deviceId ip packetId sessionId =>
    cases ok with
    | false => exact moves_silent crypto rfl rfl
    | true => exact moves_one crypto rfl rfl trivial
  | sessionActive conn packetId sessionId =>
    unfold resumeTask resumeSessionActive
    dsimp only
    split
    · exact moves_silent crypto rfl rfl
    · split
      · exact moves_silent crypto rfl rfl
      · exact moves_one crypto rfl rfl trivial
  | markOffline deviceId =>
    cases ok with
    | false => exact moves_silent crypto rfl rfl
    | true => exact moves_one crypto rfl rfl trivial

/-- One event leads from a server to the next in one of the ways above. -/
theorem serverStep_moves (crypto : ServerCrypto) (server : Server) (input : ServerInput) :
    Moves crypto server input (serverStep crypto server input) := by
  -- Event by event, as the server tells them apart.
  cases input with
  | connect conn ip =>
    unfold serverStep
    dsimp only
    split
    · rename_i unknown
      -- A new connection has the empty device id that an unknown one has.
      have identity : Server.deviceIdOf { server with
          conns := Function.update server.conns conn (some ⟨ip, [], .open⟩) } =
          server.deviceIdOf := by
        funext other
        by_cases same : other = conn
        · subst same
          simp [Server.deviceIdOf, unknown]
        · simp [Server.deviceIdOf, Function.update_of_ne same]
      refine moves_silent crypto ?_ rfl
      simp only [Server.registry, identity]
    · exact moves_silent crypto rfl rfl
  | message conn data =>
    unfold serverStep
    dsimp only
    split
    · rename_i delivers
      exact handleMessage_moves crypto delivers data
    · exact moves_silent crypto rfl rfl
  | resume position ok draws =>
    unfold serverStep
    dsimp only
    split
    · exact moves_silent crypto rfl rfl
    · rename_i task waited
      exact resumeTask_moves crypto ok draws waited
  | close conn =>
    unfold serverStep
    dsimp only
    split
    · exact handleClose_moves crypto server conn
    · exact moves_silent crypto rfl rfl
  | heartbeat timer =>
    unfold serverStep
    dsimp only
    split <;> exact moves_silent crypto rfl rfl
  | command deviceId service action packetId =>
    unfold serverStep
    dsimp only
    split
    · exact moves_silent crypto rfl rfl
    · exact sendYkpPacket_moves crypto server deviceId (.inl rfl)
  | otaStart job packetId =>
    unfold serverStep
    dsimp only
    split
    · exact moves_silent crypto rfl rfl
    · exact sendYkpPacket_moves crypto server job.deviceId (.inr ⟨job, packetId, rfl⟩)
  | automationAction target service action packetId =>
    exact sendYkpPacket_moves crypto server target (.inl rfl)

@[simp] theorem sendToDevice_tasks (server : Server) (deviceId : JsString) (raw : Bytes) :
    (sendToDevice server deviceId raw).tasks = server.tasks := by
  unfold sendToDevice
  split <;> rfl

/-- Sending a packet leaves no handler waiting. -/
@[simp] theorem sendYkpPacket_tasks (crypto : ServerCrypto) (server : Server)
    (deviceId : JsString) (opts : BuildPacketOptions) :
    (sendYkpPacket crypto server deviceId opts).tasks = server.tasks := by
  unfold sendYkpPacket
  dsimp only
  -- Whichever way the packet is sent, it is sent at once.
  split
  · split
    · rfl
    · exact sendToDevice_tasks server deviceId _
  · split
    · split
      · rfl
      · exact sendToDevice_tasks _ deviceId _
    · split
      · rfl
      · split
        · rfl
        · exact sendToDevice_tasks _ deviceId _

/-- A packet at the gate leaves no handler waiting. -/
theorem handleData_tasks (crypto : ServerCrypto) (server : Server) (conn : ConnId)
    (pkt : ServerPacket) : (handleData crypto server conn pkt).tasks = server.tasks := by
  unfold handleData acknowledgeAndDispatch
  dsimp only
  -- None of the checks waits for anything.
  split
  · rfl
  · split
    · rfl
    · split
      · rfl
      · split
        · rfl
        · split
          · split <;> rfl
          · rfl

/-- Every HELLO that waits was received, with a packet id of 32 bits. -/
def WaitsReceived (server : Server) : Prop :=
  ∀ ref packetId, .hello ref packetId ∈ server.tasks →
    .helloReceived ref ∈ server.log ∧ packetId ≤ 0xFFFFFFFF

/-- Every HELLO that waits behind an event waited in front of it. -/
def WaitsKept (before after : Server) : Prop :=
  ∀ ref packetId, Task.hello ref packetId ∈ after.tasks → Task.hello ref packetId ∈ before.tasks

theorem waitsKept_same {before after : Server} (same : after.tasks = before.tasks) :
    WaitsKept before after := fun _ _ waits => same ▸ waits

/-- A handler of another kind that starts to wait adds no HELLO. -/
theorem waitsKept_await {before after : Server} {task : Task}
    (same : after.tasks = before.tasks ++ [task])
    (other : ∀ ref packetId, task ≠ .hello ref packetId) : WaitsKept before after := by
  intro ref packetId waits
  rw [same] at waits
  -- The handler that is new is of another kind.
  rcases List.mem_append.mp waits with old | new
  · exact old
  · exact absurd (List.mem_singleton.mp new).symm (other ref packetId)

/-- An ECDH_RESPONSE adds no HELLO. -/
theorem handleEcdhResponse_waits (crypto : ServerCrypto) (server : Server) (conn : ConnId)
    (pkt : ServerPacket) : WaitsKept server (handleEcdhResponse crypto server conn pkt) := by
  unfold handleEcdhResponse
  dsimp only
  -- At most the write of the presence is awaited.
  split
  · exact waitsKept_same rfl
  · split
    · exact waitsKept_same rfl
    · exact waitsKept_await rfl (by simp)

/-- The close of a connection adds no HELLO. -/
theorem handleClose_waits (server : Server) (conn : ConnId) :
    WaitsKept server (handleClose server conn) := by
  unfold handleClose markOffline stopHeartbeat
  dsimp only
  split
  · exact waitsKept_same rfl
  · split <;> exact waitsKept_await rfl (by simp)

/-- A handler that continues adds no HELLO. -/
theorem resumeTask_waits (server : Server) (ok : Bool) (draws : Draws) (task : Task) :
    WaitsKept server (resumeTask server ok draws task) := by
  unfold resumeTask
  -- A handler that continues awaits another kind at most.
  split
  · unfold resumeHello
    dsimp only
    split
    · split
      · exact waitsKept_same rfl
      · exact waitsKept_same rfl
      · split <;> exact waitsKept_same rfl
    · exact waitsKept_same rfl
  · split
    · exact waitsKept_await rfl (by simp)
    · exact waitsKept_same rfl
  · unfold resumeSessionActive
    dsimp only
    split
    · exact waitsKept_same rfl
    · split <;> exact waitsKept_same rfl
  · split <;> exact waitsKept_same rfl

/-- The packet id of a parsed packet has 32 bits. -/
theorem parsePacket_packetId {data : Bytes} {pkt : ServerPacket}
    (parsed : parsePacket data = some pkt) : pkt.header.packetId ≤ 0xFFFFFFFF := by
  have small := BigEndian.readU32_lt (BigEndian.byteAt data) 4
  -- Whatever else is checked, the id was read from four bytes.
  unfold parsePacket at parsed
  split at parsed
  · cases parsed
  split at parsed
  · cases parsed
  split at parsed
  · cases parsed
  dsimp only at parsed
  split at parsed
  · cases parsed
  obtain rfl := Option.some.inj parsed
  exact Nat.le_of_lt_succ small

/-- A HELLO that waits behind a message waited before, or is the message. -/
theorem handleMessage_waits (crypto : ServerCrypto) (server : Server) (conn : ConnId)
    (data : Bytes) {ref : HelloRef} {packetId : Nat} :
    let after := handleMessage crypto server conn data
    .hello ref packetId ∈ after.tasks →
      .hello ref packetId ∈ server.tasks ∨ .helloReceived ref ∈ after.log ∧ packetId ≤ 0xFFFFFFFF := by
  dsimp only
  unfold handleMessage
  dsimp only
  -- Only a HELLO awaits the database as a HELLO.
  split
  · exact .inl
  · rename_i pkt parsed
    unfold handlePacket
    dsimp only
    split
    · intro waits
      rcases List.mem_append.mp waits with old | new
      · exact .inl old
      · obtain ⟨rfl, rfl⟩ := Task.hello.inj (List.mem_singleton.mp new)
        exact .inr ⟨List.mem_cons_self, parsePacket_packetId parsed⟩
    · split
      · exact fun waits => .inl (handleEcdhResponse_waits crypto
          { server with seq := server.seq + 1 } conn pkt ref packetId waits)
      · rw [handleData_tasks]
        exact .inl

/-- Every HELLO that waits was received. -/
theorem serverStep_waitsReceived (crypto : ServerCrypto) {server : Server} (input : ServerInput)
    (inv : WaitsReceived server) : WaitsReceived (serverStep crypto server input) := by
  obtain ⟨newer, logged, -⟩ := serverStep_moves crypto server input
  -- The log only grows, so it is enough that no other HELLO starts to wait.
  have old {ref : HelloRef} {packetId : Nat} (waited : .hello ref packetId ∈ server.tasks) :
      .helloReceived ref ∈ (serverStep crypto server input).log ∧ packetId ≤ 0xFFFFFFFF := by
    rw [logged]
    exact ⟨List.mem_append_right newer (inv ref packetId waited).1, (inv ref packetId waited).2⟩
  have kept (keeps : WaitsKept server (serverStep crypto server input)) :
      WaitsReceived (serverStep crypto server input) := fun ref packetId waits =>
    old (keeps ref packetId waits)
  -- Only a message can add a HELLO, and that one was just received.
  cases input with
  | connect conn ip =>
    refine kept (waitsKept_same ?_)
    unfold serverStep
    dsimp only
    split <;> rfl
  | message conn data =>
    intro ref packetId waits
    unfold serverStep at waits old ⊢
    dsimp only at waits old ⊢
    split at waits
    · rename_i delivers
      rw [if_pos delivers] at old ⊢
      rcases handleMessage_waits crypto server conn data waits with waited | received
      · exact old waited
      · exact received
    · rename_i silent
      rw [if_neg silent] at old ⊢
      exact old waits
  | resume position ok draws =>
    refine kept fun ref packetId => ?_
    unfold serverStep
    dsimp only
    split
    · exact id
    · exact fun waits => List.mem_of_mem_eraseIdx (resumeTask_waits _ ok draws _ _ _ waits)
  | close conn =>
    refine kept ?_
    unfold serverStep
    dsimp only
    split
    · exact handleClose_waits server conn
    · exact waitsKept_same rfl
  | heartbeat timer =>
    refine kept (waitsKept_same ?_)
    unfold serverStep
    dsimp only
    split <;> rfl
  | command deviceId service action packetId =>
    refine kept (waitsKept_same ?_)
    unfold serverStep
    dsimp only
    split
    · rfl
    · exact sendYkpPacket_tasks crypto server deviceId _
  | otaStart job packetId =>
    refine kept (waitsKept_same ?_)
    unfold serverStep
    dsimp only
    split
    · rfl
    · exact sendYkpPacket_tasks crypto server job.deviceId _
  | automationAction target service action packetId =>
    exact kept (waitsKept_same (sendYkpPacket_tasks crypto server target _))

end Ykp.Backend
