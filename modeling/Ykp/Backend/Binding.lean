import Ykp.Backend.Authentication

/-! What an activated session is bound to: the key and the challenge of its connection's last HELLO. -/

namespace Ykp.Backend

open History

/-- The HELLO an entry records. -/
def helloOf : ServerEvent → Option HelloRef
  | .helloReceived ref => some ref
  | _ => none

/-- The last HELLO of some kind. -/
def lastHello (kind : HelloRef → Bool) (log : List ServerEvent) : Option HelloRef :=
  (log.filterMap helloOf).find? kind

/-- The HELLOs of a connection. -/
def sentOn (conn : ConnId) (ref : HelloRef) : Bool := ref.conn == conn

/-- The HELLOs of a connection that name a device. -/
def sentAs (conn : ConnId) (deviceId : JsString) (ref : HelloRef) : Bool :=
  ref.conn == conn && ref.source == deviceId

/-- The client key is the public key of a HELLO. -/
def CarriesKey (ref : HelloRef) (clientPubKey : Bytes) : Prop :=
  ∃ entry, findTlv ref.payload .publicKey = some (some entry) ∧ clientPubKey = entry.value

/-- A CHALLENGE for a device with the nonce and the public key of a session was sent on a connection. -/
def Challenged (conn : ConnId) (deviceId : JsString) (session : DeviceSession)
    (log : List ServerEvent) : Prop :=
  ∃ packetId raw, buildPacket (handshakePacket packetId 0 deviceId .challenge
    (challengePayload session.nonce session.ephemeralPub)) = some raw ∧ .sent conn raw ∈ log

/-- A session is activated only under the key of the last HELLO that its connection sent for the
device, and behind the session's CHALLENGE on the same connection. -/
def ActivationBound (older : List ServerEvent) : ServerEvent → Prop
  | .activated conn deviceId session =>
    (∃ ref, lastHello (sentAs conn deviceId) older = some ref ∧
      CarriesKey ref session.clientPubKey) ∧ Challenged conn deviceId session older
  | _ => True

/-- What the sessions and the identities say about the log. -/
structure BindingInv (registry : Registry) (log : List ServerEvent) : Prop where
  key : ∀ deviceId session, registry.sessions deviceId = some session →
    CarriesKey session.hello session.clientPubKey
  challenge : ∀ deviceId session, registry.sessions deviceId = some session →
    Challenged session.hello.conn deviceId session log
  identity : ∀ conn ref, lastHello (sentOn conn) log = some ref → registry.identity conn = ref.source

/-- An ECDH_RESPONSE finds only the session that was created for the last HELLO of its connection. -/
def AnswersLastHello (server : Server) (input : ServerInput) : Prop :=
  ∀ arrived ∈ server.arrival input, Asks arrived.2 .ecdhResponse →
    ∀ session ∈ server.sessions (server.deviceIdOf arrived.1),
      lastHello (sentOn arrived.1) server.log = some session.hello

instance (server : Server) (input : ServerInput) : Decidable (AnswersLastHello server input) := by
  unfold AnswersLastHello
  infer_instance

/-- Entries that record no HELLO leave the last one. -/
theorem lastHello_append {newer log : List ServerEvent} (kind : HelloRef → Bool)
    (none_ : ∀ event ∈ newer, helloOf event = none) :
    lastHello kind (newer ++ log) = lastHello kind log := by
  have nothing : newer.filterMap helloOf = [] := List.filterMap_eq_nil_iff.mpr none_
  rw [lastHello, List.filterMap_append, nothing, List.nil_append, lastHello]

/-- The last HELLO of a connection is its last one for the device it names. -/
theorem lastHello_source {conn : ConnId} {log : List ServerEvent} {ref : HelloRef}
    (last : lastHello (sentOn conn) log = some ref) :
    ref.conn = conn ∧ lastHello (sentAs conn ref.source) log = some ref := by
  have same : ref.conn = conn := by simpa [sentOn] using List.find?_some last
  obtain ⟨_, before, after, split, others⟩ := List.find?_eq_some_iff_append.mp last
  refine ⟨same, List.find?_eq_some_iff_append.mpr ⟨?_, before, after, split, ?_⟩⟩
  · simp [sentAs, same]
  · intro other member
    have different := others other member
    simp only [sentOn, Bool.not_eq_true', beq_eq_false_iff_ne] at different
    simp [sentAs, different]

theorem Challenged.append {conn : ConnId} {deviceId : JsString} {session : DeviceSession}
    {log : List ServerEvent} (newer : List ServerEvent)
    (challenged : Challenged conn deviceId session log) :
    Challenged conn deviceId session (newer ++ log) := by
  obtain ⟨packetId, raw, built, sent⟩ := challenged
  exact ⟨packetId, raw, built, List.mem_append_right newer sent⟩

/-- Entries that record no HELLO keep the invariant. -/
theorem BindingInv.append {registry : Registry} {log newer : List ServerEvent}
    (inv : BindingInv registry log) (none_ : ∀ event ∈ newer, helloOf event = none) :
    BindingInv registry (newer ++ log) where
  key := inv.key
  challenge deviceId session found := (inv.challenge deviceId session found).append newer
  identity conn ref last := inv.identity conn ref (lastHello_append _ none_ ▸ last)

/-- A session that keeps its handshake may replace another. -/
theorem BindingInv.replace {registry : Registry} {log : List ServerEvent} {deviceId : JsString}
    {session changed : DeviceSession} (inv : BindingInv registry log)
    (found : registry.sessions deviceId = some session) (hello : changed.hello = session.hello)
    (key : changed.clientPubKey = session.clientPubKey) (nonce : changed.nonce = session.nonce)
    (pub : changed.ephemeralPub = session.ephemeralPub) :
    BindingInv (registry.setSession deviceId (some changed)) log := by
  refine ⟨forall_setSession ?_ inv.key, forall_setSession ?_ inv.challenge, inv.identity⟩
  · rw [hello, key]
    exact inv.key deviceId session found
  · obtain ⟨packetId, raw, built, sent⟩ := inv.challenge deviceId session found
    exact ⟨packetId, raw, by rw [nonce, pub]; exact built, hello ▸ sent⟩

theorem BindingInv.touch {registry : Registry} {log : List ServerEvent} {deviceId : JsString}
    {session changed : DeviceSession} (inv : BindingInv registry log)
    (found : registry.sessions deviceId = some session) (touched : session.Touched changed) :
    BindingInv (registry.setSession deviceId (some changed)) log := by
  obtain ⟨guard, counter, rfl⟩ := touched
  exact inv.replace found rfl rfl rfl rfl

/-- The CHALLENGE for a new session can be built for every packet id of 32 bits. -/
theorem challengeFor_built {packetId : Nat} (small : packetId ≤ 0xFFFFFFFF) (deviceId : JsString)
    (draws : Draws) : ∃ raw, challengeFor packetId deviceId draws = some raw := by
  have short : (challengePayload draws.nonce draws.publicKey).length ≤ 0xFFFF := by
    simp [challengePayload, TlvBuilder.build, TlvBuilder.addBytes, TlvBuilder.add, TlvBuilder.new,
      keyBytes, bytesHead, draws.nonceLength, draws.publicKeyLength, TlvType.byte]
  refine Option.ne_none_iff_exists'.mp fun unbuilt => ?_
  -- The id fits by assumption, and the session id of a CHALLENGE is zero.
  rcases buildPacket_eq_none.mp unbuilt with big | big | big
  · exact absurd small (Nat.not_le_of_lt big)
  · exact absurd big (Nat.not_lt_zero _)
  · exact absurd short (Nat.not_le_of_lt big)

theorem ServerEvent.Quiet.noHello {event : ServerEvent} (quiet : event.Quiet) :
    helloOf event = none := by
  cases event <;> first | rfl | exact quiet.elim

/-- One event keeps the invariant, whatever it is. -/
theorem Moved.bindingInv {crypto : ServerCrypto} {before : Server} {input : ServerInput}
    {newer : List ServerEvent} {registry : Registry}
    (moved : Moved crypto before input newer registry) (waits : WaitsReceived before)
    (inv : BindingInv before.registry before.log) : BindingInv registry (newer ++ before.log) := by
  -- A HELLO becomes the last one of its connection, and a session keeps what it was created with.
  cases moved with
  | settled quiet => exact inv.append fun event member => (quiet event member).noHello
  | @helloReceived _ conn pkt arrived asks =>
    refine ⟨inv.key, fun deviceId session found => (inv.challenge deviceId session found).append _,
      fun other ref last => ?_⟩
    -- The connection of the HELLO has a new last one; the others keep theirs.
    by_cases same : conn = other
    · subst same
      have newest : lastHello (sentOn conn) ([.helloReceived (helloRef before conn pkt)] ++
          before.log) = some (helloRef before conn pkt) := by
        simp [lastHello, helloOf, sentOn, helloRef]
      obtain rfl := Option.some.inj (newest.symm.trans last)
      simp [helloRef]
    · have older : lastHello (sentOn other) ([.helloReceived (helloRef before conn pkt)] ++
          before.log) = lastHello (sentOn other) before.log := by
        simp [lastHello, helloOf, sentOn, helloRef, same]
      exact (Function.update_of_ne (Ne.symm same) _ _).trans (inv.identity other ref (older ▸ last))
  | @created position packetId draws ref deviceId entry named waited found =>
    obtain ⟨raw, built⟩ :=
      challengeFor_built (waits ref packetId (List.mem_of_getElem? waited)).2 deviceId draws
    rw [built]
    have silent : ∀ event ∈ [ServerEvent.sent ref.conn raw,
        .created (pendingSession deviceId draws entry.value ref before.serial)],
        helloOf event = none := by simp [helloOf]
    have older := inv.append silent
    refine ⟨forall_setSession ?_ inv.key, forall_setSession ?_ older.challenge, older.identity⟩
    · exact ⟨entry, found, rfl⟩
    · exact ⟨packetId, raw, built, List.mem_cons_self⟩
  | @activated _ conn _ deviceId session key _ _ _ found _ =>
    have activated : BindingInv (before.registry.setSession deviceId (some (session.activate key)))
        before.log := inv.replace found rfl rfl rfl rfl
    have silent : ∀ event ∈ [ServerEvent.activated conn deviceId (session.activate key),
        .derived conn session.ephemeralPriv session.clientPubKey session.nonce (some key)],
        helloOf event = none := by simp [helloOf]
    have later := activated.append silent
    exact ⟨later.key, later.challenge, later.identity⟩
  | filtered _ _ _ found _ quiet =>
    exact (inv.touch found (touched_checked _ _ _)).append fun event member =>
      (quiet event member).noHello
  | dispatched _ _ _ found _ _ _ quiet =>
    refine (inv.touch found (touched_checked _ _ _)).append fun event member => ?_
    rcases List.mem_cons.mp member with rfl | sent
    · rfl
    · exact (quiet event sent).noHello
  | counted found quiet seals =>
    refine (inv.touch found (touched_count _)).append ?_
    exact forall_counted (fun _ quiet => quiet.noHello) quiet seals fun _ _ _ _ _ _ => rfl
  | closed =>
    exact ⟨forall_dropSession inv.key, forall_dropSession inv.challenge, inv.identity⟩

theorem ServerEvent.Quiet.bound {event : ServerEvent} (quiet : event.Quiet)
    (older : List ServerEvent) : ActivationBound older event := by
  cases event <;> trivial

/-- One event under the condition activates only a session that is bound to its connection. -/
theorem Moved.activationBound {crypto : ServerCrypto} {before : Server} {input : ServerInput}
    {newer : List ServerEvent} {registry : Registry}
    (moved : Moved crypto before input newer registry)
    (inv : BindingInv before.registry before.log) (answers : AnswersLastHello before input)
    (justified : Justified ActivationBound before.log) :
    Justified ActivationBound (newer ++ before.log) := by
  -- Only an activation asks for a justification.
  cases moved with
  | settled quiet =>
    exact (justified_append fun event member => (quiet event member).bound).mpr justified
  | helloReceived => exact ⟨trivial, justified⟩
  | created =>
    refine (justified_append ?_).mpr justified
    exact forall_created (fun _ quiet => quiet.bound) fun _ => trivial
  | @activated _ conn pkt deviceId session key arrived named asks found derived =>
    have last : lastHello (sentOn conn) before.log = some session.hello :=
      answers _ arrived asks session (named ▸ found)
    obtain ⟨sameConn, lastAs⟩ := lastHello_source last
    have source : session.hello.source = deviceId := (inv.identity conn _ last).symm.trans named
    refine ⟨⟨⟨session.hello, ?_, inv.key deviceId session found⟩, ?_⟩, trivial, justified⟩
    · rw [← source]
      have silent : ∀ event ∈ [ServerEvent.derived conn session.ephemeralPriv session.clientPubKey
          session.nonce (some key)], helloOf event = none := by simp [helloOf]
      exact (lastHello_append _ silent).trans lastAs
    · rw [← sameConn]
      exact (inv.challenge deviceId session found).append [_]
  | filtered _ _ _ _ _ quiet =>
    exact (justified_append fun event member => (quiet event member).bound).mpr justified
  | dispatched _ _ _ _ _ _ _ quiet =>
    exact ⟨trivial,
      (justified_append fun event member => (quiet event member).bound).mpr justified⟩
  | counted _ quiet seals =>
    refine (justified_append ?_).mpr justified
    exact forall_counted (fun _ quiet => quiet.bound) quiet seals fun _ _ _ _ _ _ _ => trivial
  | closed => exact justified

/-- Over every run whose ECDH_RESPONSEs find only sessions created for the last HELLO of their
connection, a session is activated only under the public key of the last HELLO its connection sent
for the device, and behind the CHALLENGE with its nonce and public key on the same connection. -/
theorem activation_bound (crypto : ServerCrypto) (inputs : List ServerInput)
    (answers : Machine.Always (serverStep crypto) AnswersLastHello startServer inputs) :
    Justified ActivationBound (serverRun crypto inputs).log := by
  -- The waiting HELLOs, the tables and the log are carried together.
  let inv (server : Server) : Prop := WaitsReceived server ∧
    BindingInv server.registry server.log ∧ Justified ActivationBound server.log
  have keeps (server : Server) (input : ServerInput) (holds : inv server)
      (answers : AnswersLastHello server input) : inv (serverStep crypto server input) := by
    obtain ⟨waits, bound, justified⟩ := holds
    obtain ⟨newer, logged, moved⟩ := serverStep_moves crypto server input
    refine ⟨serverStep_waitsReceived crypto input waits, ?_, ?_⟩
    · rw [logged]
      exact moved.bindingInv waits bound
    · rw [logged]
      exact moved.activationBound bound answers justified
  have initial : inv startServer := by
    refine ⟨fun _ _ waits => ?_, ⟨fun _ _ found => ?_, fun _ _ found => ?_, fun _ _ last => ?_⟩,
      trivial⟩
    · cases waits
    · cases found
    · cases found
    · cases last
  exact (Machine.invariant_run keeps initial answers).2.2

set_option maxRecDepth 4000 in
theorem activation_bound_sample :
    Justified ActivationBound (serverRun openCrypto sampleHandshake).log :=
  activation_bound openCrypto sampleHandshake (by decide +kernel)

/-- Two connections send HELLOs for one device with different keys before the first one answers. -/
def overtaken : List ServerInput :=
  [.connect 1 [], .connect 2 [], .message 1 (sampleHello 4), .resume 0 true sampleDraws,
    .message 2 (sampleHello 9), .resume 0 true sampleDraws, .message 1 sampleResponse]

/-- Where a session was activated, as which device, and under which client key. -/
def activatedKey : ServerEvent → Option (ConnId × JsString × Bytes)
  | .activated conn deviceId session => some (conn, deviceId, session.clientPubKey)
  | _ => none

/-- In a log whose activations are bound, each client key was carried by a HELLO of its connection. -/
theorem activatedKey_carried {log : List ServerEvent} (justified : Justified ActivationBound log)
    {conn : ConnId} {deviceId : JsString} {key : Bytes}
    (activated : (conn, deviceId, key) ∈ log.filterMap activatedKey) :
    ∃ ref ∈ log.filterMap helloOf, sentAs conn deviceId ref = true ∧ CarriesKey ref key := by
  obtain ⟨event, member, named⟩ := List.mem_filterMap.mp activated
  obtain ⟨newer, older, rfl⟩ := List.append_of_mem member
  have holds := justified.of_split
  -- The HELLO is older than the activation, and so is in the log.
  cases event with
  | activated otherConn otherId session =>
    obtain ⟨rfl, rfl, rfl⟩ := by simpa [activatedKey] using named
    obtain ⟨⟨ref, last, carries⟩, -⟩ := holds
    refine ⟨ref, ?_, List.find?_some last, carries⟩
    rw [List.filterMap_append]
    exact List.mem_append_right _ (List.mem_of_find?_eq_some last)
  | _ => cases named

set_option maxRecDepth 4000 in
/-- The first connection's handshake is completed under the key of the second. -/
theorem activation_overtaken :
    ¬ Justified ActivationBound (serverRun openCrypto overtaken).log := by
  intro justified
  -- The parsed packets are written out, so that the run evaluates on short terms.
  have first : parsePacket (sampleHello 4) = some (sampleHelloPacket 4) := by decide +kernel
  have second : parsePacket (sampleHello 9) = some (sampleHelloPacket 9) := by decide +kernel
  have activated : (1, sampleId, sampleItem 9) ∈
      (serverRun openCrypto overtaken).log.filterMap activatedKey := by
    simp only [serverRun, overtaken, Machine.run_cons, Machine.run_nil,
      serverStep_message openCrypto _ _ first, serverStep_message openCrypto _ _ second]
    decide +kernel
  have carried : ∀ ref ∈ (serverRun openCrypto overtaken).log.filterMap helloOf,
      sentAs 1 sampleId ref = true →
        findTlv ref.payload .publicKey = some (some ⟨some 9, 67, sampleItem 4⟩) := by
    simp only [serverRun, overtaken, Machine.run_cons, Machine.run_nil,
      serverStep_message openCrypto _ _ first, serverStep_message openCrypto _ _ second]
    decide +kernel
  obtain ⟨ref, member, sent, entry, found, same⟩ := activatedKey_carried justified activated
  rw [carried ref member sent] at found
  obtain rfl := Option.some.inj (Option.some.inj found)
  exact absurd same (by decide)

end Ykp.Backend
