import Ykp.Backend.Steps

/-! Who acts as a device: connections, the HELLOs they sent, and the sessions these led to. -/

namespace Ykp.Backend

open History

/-- A HELLO was received. -/
def HelloArrived (ref : HelloRef) (event : ServerEvent) : Prop := event = .helloReceived ref

/-- A session was created for a HELLO. -/
def CreatedFor (serial : Nat) (ref : HelloRef) (event : ServerEvent) : Prop :=
  ∃ session, event = .created session ∧ session.serial = serial ∧ session.hello = ref

/-- An ECDH_RESPONSE on a connection activated a session of a device. -/
def ActivatedOn (conn : ConnId) (deviceId : JsString) (serial : Nat)
    (event : ServerEvent) : Prop :=
  ∃ session, event = .activated conn deviceId session ∧ session.serial = serial

/-- A connection sent a HELLO that names a device, a session was created for this HELLO, and an
ECDH_RESPONSE on the same connection activated the session for the device. -/
def Authenticated (conn : ConnId) (deviceId : JsString) (serial : Nat) (log : List ServerEvent) :
    Prop :=
  ∃ ref : HelloRef, ref.conn = conn ∧ ref.source = deviceId ∧
    Reached [ActivatedOn conn deviceId serial, CreatedFor serial ref, HelloArrived ref] log

/-- A packet is dispatched only for a connection that authenticated as the device. -/
def DispatchAuthenticated (older : List ServerEvent) : ServerEvent → Prop
  | .dispatched conn deviceId session _ => Authenticated conn deviceId session.serial older
  | _ => True

/-- What the sessions and the routes say about the log. -/
structure AuthInv (registry : Registry) (log : List ServerEvent) : Prop where
  created : ∀ deviceId session, registry.sessions deviceId = some session →
    Reached [CreatedFor session.serial session.hello, HelloArrived session.hello] log
  active : ∀ deviceId session, registry.sessions deviceId = some session →
    session.state = .active → registry.deviceConnections deviceId = some session.hello.conn ∧
      Authenticated session.hello.conn deviceId session.serial log

/-- An ECDH_RESPONSE finds only a session that was created for a HELLO of the same connection with
the device id the connection has; a packet that meets an active session comes over the connection
the device is reached over. -/
structure OwnHandshake (server : Server) (input : ServerInput) : Prop where
  response : ∀ arrived ∈ server.arrival input, Asks arrived.2 .ecdhResponse →
    ∀ session ∈ server.sessions (server.deviceIdOf arrived.1),
      session.hello.conn = arrived.1 ∧ session.hello.source = server.deviceIdOf arrived.1
  gate : ∀ arrived ∈ server.arrival input, Gated arrived.2 →
    ∀ session ∈ server.sessions (server.deviceIdOf arrived.1), session.state = .active →
      server.deviceConnections (server.deviceIdOf arrived.1) = some arrived.1

instance (server : Server) (input : ServerInput) : Decidable (OwnHandshake server input) :=
  decidable_of_iff (_ ∧ _)
    ⟨fun ⟨response, gate⟩ => ⟨response, gate⟩, fun own => ⟨own.response, own.gate⟩⟩

/-- Further entries keep what a connection has authenticated as. -/
theorem Authenticated.append {conn : ConnId} {deviceId : JsString} {serial : Nat}
    {log : List ServerEvent} (newer : List ServerEvent)
    (authenticated : Authenticated conn deviceId serial log) :
    Authenticated conn deviceId serial (newer ++ log) := by
  obtain ⟨ref, sent, named, stages⟩ := authenticated
  exact ⟨ref, sent, named, stages.append newer⟩

/-- Further entries keep the invariant. -/
theorem AuthInv.append {registry : Registry} {log : List ServerEvent}
    (newer : List ServerEvent) (inv : AuthInv registry log) : AuthInv registry (newer ++ log) where
  created deviceId session found := (inv.created deviceId session found).append newer
  active deviceId session found active :=
    ⟨(inv.active deviceId session found active).1,
      (inv.active deviceId session found active).2.append newer⟩

/-- Counting and checking change nothing the invariant looks at. -/
theorem AuthInv.touch {registry : Registry} {log : List ServerEvent} {deviceId : JsString}
    {session changed : DeviceSession} (inv : AuthInv registry log)
    (found : registry.sessions deviceId = some session) (touched : session.Touched changed) :
    AuthInv (registry.setSession deviceId (some changed)) log := by
  obtain ⟨guard, counter, rfl⟩ := touched
  constructor
  · exact forall_setSession (inv.created deviceId session found) inv.created
  · exact forall_setSession (inv.active deviceId session found) inv.active

/-- One event under the condition keeps the invariant. -/
theorem Moved.authInv {crypto : ServerCrypto} {before : Server} {input : ServerInput}
    {newer : List ServerEvent} {registry : Registry}
    (moved : Moved crypto before input newer registry) (waits : WaitsReceived before)
    (inv : AuthInv before.registry before.log) (own : OwnHandshake before input) :
    AuthInv registry (newer ++ before.log) := by
  -- A HELLO that continues brings a session, an ECDH_RESPONSE activates one, a close removes one.
  cases moved with
  | settled => exact inv.append newer
  | helloReceived => exact ⟨(inv.append _).created, (inv.append _).active⟩
  | @created position packetId draws ref deviceId entry named waited found =>
    have received : Reached [HelloArrived ref] before.log := reached_one.mpr
      ⟨_, (waits ref packetId (List.mem_of_getElem? waited)).1, rfl⟩
    rw [List.append_assoc]
    refine AuthInv.append _ ⟨?_, ?_⟩
    · refine forall_setSession ?_ fun other present old => (inv.created other present old).append _
      exact .push ⟨_, rfl, rfl, rfl⟩ received
    · refine forall_setSession ?_ fun other present old active => ?_
      · -- A pending session is not active.
        intro active
        cases active
      · obtain ⟨registered, authenticated⟩ := inv.active other present old active
        exact ⟨registered, authenticated.append _⟩
  | @activated _ conn pkt deviceId session key arrived named asks found derived =>
    subst named
    obtain ⟨sent, source⟩ : session.hello.conn = conn ∧
        session.hello.source = before.deviceIdOf conn := own.response _ arrived asks session found
    have stages := inv.created _ session found
    constructor
    · exact forall_setSession (stages.append _) fun other present old =>
        (inv.created other present old).append _
    -- The device that is activated is reached over the connection of its HELLO.
    · intro other present holds active
      rcases setSession_cases holds with ⟨rfl, same⟩ | ⟨different, old⟩
      · obtain rfl := Option.some.inj same
        refine ⟨?_, session.hello, rfl, source, ?_⟩
        · simp [DeviceSession.activate, sent]
        · exact .push ⟨_, by rw [← sent]; rfl, rfl⟩ (stages.cons _)
      · obtain ⟨registered, authenticated⟩ := inv.active other present old active
        exact ⟨(Function.update_of_ne different _ _).trans registered, authenticated.append _⟩
  | filtered _ _ _ found => exact (inv.touch found (touched_checked _ _ _)).append newer
  | dispatched _ _ _ found => exact (inv.touch found (touched_checked _ _ _)).append _
  | counted found => exact (inv.touch found (touched_count _)).append _
  | @closed conn deviceId named =>
    constructor
    · exact forall_dropSession inv.created
    · intro other present holds active
      rcases setSession_cases holds with ⟨-, none⟩ | ⟨different, old⟩
      · cases none
      · obtain ⟨registered, authenticated⟩ := inv.active other present old active
        exact ⟨(Function.update_of_ne different _ _).trans registered, authenticated⟩

/-- A quiet entry is no dispatch. -/
theorem ServerEvent.Quiet.justified {event : ServerEvent} (quiet : event.Quiet)
    (older : List ServerEvent) : DispatchAuthenticated older event := by
  cases event <;> trivial

/-- One event under the condition dispatches only for an authenticated connection. -/
theorem Moved.dispatchAuthenticated {crypto : ServerCrypto} {before : Server} {input : ServerInput}
    {newer : List ServerEvent} {registry : Registry}
    (moved : Moved crypto before input newer registry)
    (inv : AuthInv before.registry before.log) (own : OwnHandshake before input)
    (justified : Justified DispatchAuthenticated before.log) :
    Justified DispatchAuthenticated (newer ++ before.log) := by
  -- Only a dispatch asks for a justification.
  cases moved with
  | settled quiet =>
    exact (justified_append fun event member => (quiet event member).justified).mpr justified
  | helloReceived => exact ⟨trivial, justified⟩
  | created =>
    refine (justified_append ?_).mpr justified
    exact forall_created (fun _ quiet => quiet.justified) fun _ => trivial
  | activated => exact ⟨trivial, trivial, justified⟩
  | filtered _ _ _ _ _ quiet =>
    exact (justified_append fun event member => (quiet event member).justified).mpr justified
  | @dispatched _ conn pkt opened deviceId session counter newer arrived named gated found active _ _
      quiet =>
    subst named
    obtain ⟨registered, authenticated⟩ := inv.active _ session found active
    have reached := own.gate _ arrived gated session found active
    -- The device is reached over one connection: the one that authenticated and the one at hand.
    obtain rfl : session.hello.conn = conn := Option.some.inj (registered.symm.trans reached)
    exact ⟨authenticated.append newer,
      (justified_append fun event member => (quiet event member).justified).mpr justified⟩
  | counted _ quiet seals =>
    refine (justified_append ?_).mpr justified
    exact forall_counted (fun _ quiet => quiet.justified) quiet seals fun _ _ _ _ _ _ _ => trivial
  | closed => exact justified

/-- Over every run whose ECDH_RESPONSEs find sessions of their own connection's HELLO, and whose
packets meet active sessions only over the connection the device is reached over, a packet is
dispatched only for a connection that itself sent the HELLO and the ECDH_RESPONSE of the session. -/
theorem dispatch_authenticated (crypto : ServerCrypto) (inputs : List ServerInput)
    (own : Machine.Always (serverStep crypto) OwnHandshake startServer inputs) :
    Justified DispatchAuthenticated (serverRun crypto inputs).log := by
  -- The waiting HELLOs, the tables and the log are carried together.
  let inv (server : Server) : Prop := WaitsReceived server ∧
    AuthInv server.registry server.log ∧ Justified DispatchAuthenticated server.log
  have keeps (server : Server) (input : ServerInput) (holds : inv server)
      (own : OwnHandshake server input) : inv (serverStep crypto server input) := by
    obtain ⟨waits, auth, justified⟩ := holds
    obtain ⟨newer, logged, moved⟩ := serverStep_moves crypto server input
    refine ⟨serverStep_waitsReceived crypto input waits, ?_, ?_⟩
    · rw [logged]
      exact moved.authInv waits auth own
    · rw [logged]
      exact moved.dispatchAuthenticated auth own justified
  have initial : inv startServer := by
    refine ⟨fun _ _ waits => ?_, ⟨fun _ _ found => ?_, fun _ _ found => ?_⟩, trivial⟩
    · cases waits
    · cases found
    · cases found
  exact (Machine.invariant_run keeps initial own).2.2

/-- A crypto module that takes every key and every tag, and encrypts nothing. -/
def openCrypto : ServerCrypto where
  computeSecret := fun _ _ => some []
  hmacSha256 := fun _ _ => List.replicate 32 7
  gcmEncrypt := fun _ _ _ plaintext => (plaintext, List.replicate 16 0)
  gcmDecrypt := fun _ _ _ ciphertext _ => some ciphertext

/-- Draws with a given session id. -/
def sampleDraws : Draws where
  privateKey := List.replicate 32 1
  publicKey := List.replicate 65 4
  nonce := List.replicate 16 3
  sessionId := 5
  publicKeyLength := by simp
  nonceLength := by simp
  sessionIdRange := by decide

/-- The device identifier "D1". -/
def sampleId : JsString := [0x44, 0x31]

/-- A packet of the sample device, unless it cannot be built. -/
def samplePacket (packetId service action : Nat) (payload : Bytes) : Bytes :=
  (buildPacket
    { packetId := packetId, sessionId := 0, sourceId := sampleId, destId := serverId
      routeType := .cloud, serviceId := service, actionId := action, qos := .qos0
      payload := some payload }).getD []

/-- A HELLO with a public key. -/
def sampleHello (key : UInt8) : Bytes :=
  samplePacket 2 Service.security.byte.toNat SecAction.hello.byte.toNat
    (TlvBuilder.new.addBytes .publicKey (List.replicate 65 key)).build

/-- The value of a public key of one repeated byte, as it stands in a payload. -/
def sampleItem (key : UInt8) : Bytes := 0x58 :: 0x41 :: List.replicate 65 key

/-- The HELLO with such a key as it is parsed. -/
def sampleHelloPacket (key : UInt8) : ServerPacket where
  header := ⟨0, 2, 0, sampleId, serverId, RouteType.cloud.byte, Service.security.byte,
    SecAction.hello.byte, 70⟩
  payload := [0xBF, TlvType.publicKey.byte] ++ sampleItem key ++ [0xFF]
  authTag := List.replicate 16 0
  raw := sampleHello key

/-- An ECDH_RESPONSE. -/
def sampleResponse : Bytes :=
  samplePacket 3 Service.security.byte.toNat SecAction.ecdhResponse.byte.toNat []

/-- A sensor report. -/
def sampleReport : Bytes := samplePacket 4 Service.sensor.byte.toNat SensorAction.report.byte.toNat []

/-- A handshake on the first connection. -/
def sampleHandshake : List ServerInput :=
  [.connect 1 [], .message 1 (sampleHello 4), .resume 0 true sampleDraws,
    .message 1 sampleResponse]

/-- A handshake, and a report behind it. -/
def handshakeThenReport : List ServerInput := sampleHandshake ++ [.message 1 sampleReport]

set_option maxRecDepth 4000 in
theorem dispatch_authenticated_sample :
    Justified DispatchAuthenticated (serverRun openCrypto handshakeThenReport).log :=
  dispatch_authenticated openCrypto handshakeThenReport (by decide +kernel)

/-- The connection a packet was dispatched for. -/
def dispatchConn : ServerEvent → Option ConnId
  | .dispatched conn _ _ _ => some conn
  | _ => none

/-- The connection a session was activated on. -/
def activateConn : ServerEvent → Option ConnId
  | .activated conn _ _ => some conn
  | _ => none

/-- A connection that authenticated is one that a session was activated on. -/
theorem Authenticated.activated {conn : ConnId} {deviceId : JsString} {serial : Nat}
    {log : List ServerEvent} (authenticated : Authenticated conn deviceId serial log) :
    conn ∈ log.filterMap activateConn := by
  obtain ⟨_, -, -, newer, _, older, rfl, ⟨session, rfl, -⟩, -⟩ := authenticated
  exact List.mem_filterMap.mpr ⟨.activated conn deviceId session, by simp, rfl⟩

/-- In a log whose dispatches are justified, each comes from a connection that a session was
activated on. -/
theorem dispatchConn_activated {log : List ServerEvent}
    (justified : Justified DispatchAuthenticated log) {conn : ConnId}
    (dispatched : conn ∈ log.filterMap dispatchConn) : conn ∈ log.filterMap activateConn := by
  obtain ⟨event, member, named⟩ := List.mem_filterMap.mp dispatched
  obtain ⟨newer, older, rfl⟩ := List.append_of_mem member
  have holds := justified.of_split
  -- The activation is older than the dispatch, and so is in the log.
  cases event with
  | dispatched other deviceId session pkt =>
    obtain rfl := Option.some.inj named
    rw [List.filterMap_append]
    refine List.mem_append_right _ ?_
    exact List.mem_filterMap.mpr ((List.mem_filterMap.mp holds.activated).imp fun event found =>
      ⟨List.mem_cons_of_mem _ found.1, found.2⟩)
  | _ => cases named

/-- A handshake, and a second connection that names the device in a HELLO without a public key. -/
def intrusion : List ServerInput :=
  sampleHandshake ++ [.connect 2 [], .message 2 (samplePacket 2 Service.security.byte.toNat
    SecAction.hello.byte.toNat []), .message 2 sampleReport]

set_option maxRecDepth 4000 in
/-- A second connection that merely names the device acts under the session of the first. -/
theorem dispatch_unauthenticated :
    ¬ Justified DispatchAuthenticated (serverRun openCrypto intrusion).log := by
  intro justified
  have acted : 2 ∈ (serverRun openCrypto intrusion).log.filterMap dispatchConn := by
    decide +kernel
  have never : 2 ∉ (serverRun openCrypto intrusion).log.filterMap activateConn := by
    decide +kernel
  exact never (dispatchConn_activated justified acted)

end Ykp.Backend
