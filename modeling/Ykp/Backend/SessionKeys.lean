import Ykp.Backend.KeyUse

/-! The session table: every session stands under its own device, an active one with its own key. -/

namespace Ykp.Backend

/-- Activation as the session manager does it, with a lookup of its own; it throws without session. -/
def activateByLookup (server : Server) (conn : ConnId) (deviceId : JsString)
    (sessionKey : Bytes) : Option Server :=
  (getSession server deviceId).map fun s => activateSession server conn deviceId s sessionKey

/-- An ECDH_RESPONSE whose key is derived from one lookup and stored through another. -/
def ecdhResponseByLookup (crypto : ServerCrypto) (server : Server) (conn : ConnId)
    (pkt : ServerPacket) : Server :=
  let deviceId := server.deviceIdOf conn
  match getSession server deviceId with
  | none => wsClose server conn
  | some session =>
    let key := deriveSessionKey crypto session.ephemeralPriv session.clientPubKey session.nonce
      session.sessionId
    let server := server.record
      (.derived conn session.ephemeralPriv session.clientPubKey session.nonce key)
    match key with
    | none => server
    | some sessionKey =>
      match activateByLookup server conn deviceId sessionKey with
      -- The second lookup throws when the session is gone.
      | none => server
      | some server =>
        let server := registerConnection server deviceId conn
        let ip := server.ipOf conn
        (setDeviceOnline server deviceId true).await
          (.markOnline conn deviceId ip pkt.header.packetId session.sessionId)

/-- No handler runs between the two lookups, so the second one finds the session of the first. -/
theorem handleEcdhResponse_eq_byLookup (crypto : ServerCrypto) (server : Server) (conn : ConnId)
    (pkt : ServerPacket) :
    handleEcdhResponse crypto server conn pkt = ecdhResponseByLookup crypto server conn pkt := by
  unfold handleEcdhResponse ecdhResponseByLookup
  cases found : getSession server (server.deviceIdOf conn) with
  | none => simp only [found]
  | some session =>
    -- Recording the derivation leaves the sessions as they are.
    have again : ∀ event, getSession (server.record event) (server.deviceIdOf conn) =
        some session := fun _ => found
    cases derived : deriveSessionKey crypto session.ephemeralPriv session.clientPubKey
      session.nonce session.sessionId with
    | none => simp only [found, derived]
    | some sessionKey => simp only [found, derived, activateByLookup, again, Option.map_some]

/-- Every session stands under the device it was created for. -/
def OwnInv (registry : Registry) : Prop :=
  ∀ deviceId session, registry.sessions deviceId = some session → session.deviceId = deviceId

/-- A session that is touched keeps its device. -/
theorem OwnInv.touch {registry : Registry} {deviceId : JsString} {session changed : DeviceSession}
    (inv : OwnInv registry) (found : registry.sessions deviceId = some session)
    (touched : session.Touched changed) :
    OwnInv (registry.setSession deviceId (some changed)) := by
  obtain ⟨guard, counter, rfl⟩ := touched
  exact forall_setSession (inv deviceId session found) inv

/-- One event leaves every session under its device. -/
theorem Moved.ownInv {crypto : ServerCrypto} {before : Server} {input : ServerInput}
    {newer : List ServerEvent} {registry : Registry}
    (moved : Moved crypto before input newer registry) (inv : OwnInv before.registry) :
    OwnInv registry := by
  -- A session is created and activated under one and the same device id.
  cases moved with
  | settled => exact inv
  | helloReceived => exact inv
  | created => exact forall_setSession rfl inv
  | @activated _ _ _ deviceId session _ _ _ _ found =>
    exact forall_setSession (show session.deviceId = deviceId from inv _ _ found) inv
  | filtered _ _ _ found => exact inv.touch found (touched_checked _ _ _)
  | dispatched _ _ _ found => exact inv.touch found (touched_checked _ _ _)
  | counted found => exact inv.touch found (touched_count _)
  | closed => exact forall_dropSession inv

/-- What no event breaks holds of the tables of every server reached. -/
theorem registry_reached {crypto : ServerCrypto} {inv : Registry → Prop}
    (keeps : ∀ {before input newer registry}, Moved crypto before input newer registry →
      inv before.registry → inv registry)
    (initial : inv startServer.registry) (inputs : List ServerInput) :
    inv (serverRun crypto inputs).registry := by
  refine @Machine.invariant_reached _ _ (serverStep crypto) startServer
    (fun server => inv server.registry) (fun server input holds => ?_) inputs initial
  obtain ⟨newer, -, moved⟩ := serverStep_moves crypto server input
  exact keeps moved holds

/-- In every server reached, a session stands under its own device id, and the key of an active one
is derived from its own private key, client key and nonce. -/
theorem sessions_keyed (crypto : ServerCrypto) (inputs : List ServerInput) (deviceId : JsString)
    (session : DeviceSession)
    (present : (serverRun crypto inputs).sessions deviceId = some session) :
    session.deviceId = deviceId ∧
      (session.state = .active →
        deriveSessionKey crypto session.ephemeralPriv session.clientPubKey session.nonce
          session.sessionId = some session.sessionKey) := by
  have own : OwnInv (serverRun crypto inputs).registry :=
    registry_reached Moved.ownInv (fun _ _ found => by cases found) inputs
  have keyed : KeyInv crypto (serverRun crypto inputs).registry :=
    registry_reached Moved.keyInv (fun _ _ found => by cases found) inputs
  refine ⟨own deviceId session present, fun active => ?_⟩
  -- A session is pending or has its key, and this one is not pending.
  rcases keyed deviceId session present with pending | established
  · exact absurd (pending.symm.trans active) (by decide)
  · exact established.2

set_option maxRecDepth 4000 in
theorem sessions_keyed_sample :
    ∃ session, (serverRun openCrypto sampleHandshake).sessions sampleId = some session ∧
      session.deviceId = sampleId ∧ session.state = .active ∧
      deriveSessionKey openCrypto session.ephemeralPriv session.clientPubKey session.nonce
        session.sessionId = some session.sessionKey := by
  obtain ⟨session, found, active⟩ : ∃ session,
      (serverRun openCrypto sampleHandshake).sessions sampleId = some session ∧
        session.state = .active := by
    have activated : ((serverRun openCrypto sampleHandshake).sessions sampleId).any
        (·.state == .active) = true := by decide +kernel
    simpa [Option.any_eq_true] using activated
  obtain ⟨own, keyed⟩ := sessions_keyed openCrypto sampleHandshake sampleId session found
  exact ⟨session, found, own, active, keyed active⟩

end Ykp.Backend
