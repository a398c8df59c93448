import Ykp.Backend.Authentication

/-! What the close of a connection takes away, and from whom. -/

namespace Ykp.Backend

/-- The connection an event closes. -/
def Server.closing (server : Server) : ServerInput → Option ConnId
  | .close conn =>
    if (server.conns conn).any (·.readyState != .closed) then some conn else none
  | _ => none

/-- The route, the session and the presence of a device stay. -/
structure Unaffected (deviceId : JsString) (before after : Server) : Prop where
  route : after.deviceConnections deviceId = before.deviceConnections deviceId
  session : after.sessions deviceId = before.sessions deviceId
  heartbeat : after.heartbeats deviceId = before.heartbeats deviceId
  isOnline : after.isOnline deviceId = before.isOnline deviceId

/-- The close of a connection affects only a device that is reached over it. -/
def CloseHarmless (crypto : ServerCrypto) (server : Server) (input : ServerInput) : Prop :=
  ∀ conn ∈ server.closing input, ∀ deviceId, server.deviceConnections deviceId = some conn ∨
    Unaffected deviceId server (serverStep crypto server input)

/-- Nothing is kept under a device id. -/
structure Absent (server : Server) (deviceId : JsString) : Prop where
  route : server.deviceConnections deviceId = none
  session : server.sessions deviceId = none
  heartbeat : server.heartbeats deviceId = none
  isOnline : server.isOnline deviceId = false

/-- A connection that is closed has no device id, or is the one its device is reached over, or
nothing is kept under its device id. -/
def ClosesOwn (server : Server) (input : ServerInput) : Prop :=
  ∀ conn ∈ server.closing input, server.deviceIdOf conn = [] ∨
    server.deviceConnections (server.deviceIdOf conn) = some conn ∨
      Absent server (server.deviceIdOf conn)

/-- A connection keeps its device id while it is closed. -/
theorem deviceIdOf_closed (server : Server) (conn : ConnId) :
    (server.updateConn conn fun c => { c with readyState := .closed }).deviceIdOf conn =
      server.deviceIdOf conn := by
  have keeps (c : Conn) : ({ c with readyState := .closed } : Conn).deviceId = c.deviceId := rfl
  exact congrFun (congrArg Registry.identity (updateConn_registry server conn keeps)) conn

/-- A close without a device id affects no device. -/
theorem handleClose_anonymous {server : Server} {conn : ConnId}
    (unnamed : server.deviceIdOf conn = []) (deviceId : JsString) :
    Unaffected deviceId server (handleClose server conn) := by
  unfold handleClose
  dsimp only
  rw [deviceIdOf_closed, if_pos unnamed]
  exact ⟨rfl, rfl, rfl, rfl⟩

/-- Without its timer a device has no heartbeat; other devices keep theirs. -/
theorem stopHeartbeat_heartbeats (server : Server) (deviceId : JsString) :
    (stopHeartbeat server deviceId).heartbeats =
      Function.update server.heartbeats deviceId none := by
  unfold stopHeartbeat
  -- Without a timer there is nothing to remove.
  split
  · rename_i none
    rw [← none, Function.update_eq_self]
  · rfl

/-- Stopping a timer leaves the database alone. -/
theorem stopHeartbeat_isOnline (server : Server) (deviceId : JsString) :
    (stopHeartbeat server deviceId).isOnline = server.isOnline := by
  unfold stopHeartbeat
  split <;> rfl

/-- What a close with a device id leaves of the four tables. -/
theorem handleClose_tables {server : Server} {conn : ConnId}
    (named : server.deviceIdOf conn ≠ []) :
    let deviceId := server.deviceIdOf conn
    let after := handleClose server conn
    after.deviceConnections = Function.update server.deviceConnections deviceId none ∧
      after.sessions = Function.update server.sessions deviceId none ∧
      after.heartbeats = Function.update server.heartbeats deviceId none ∧
      after.isOnline = Function.update server.isOnline deviceId false := by
  dsimp only
  unfold handleClose
  dsimp only
  rw [deviceIdOf_closed, if_neg named]
  -- The route and the session go first, then the timer, then the presence.
  let removed := closeSession (removeConnection
    (server.updateConn conn fun c => { c with readyState := .closed }) (server.deviceIdOf conn))
    (server.deviceIdOf conn)
  have stopped := stopHeartbeat_registry removed (server.deviceIdOf conn)
  refine ⟨congrArg Registry.deviceConnections stopped.1, congrArg Registry.sessions stopped.1,
    stopHeartbeat_heartbeats removed _, ?_⟩
  change Function.update (stopHeartbeat removed _).isOnline _ _ = _
  rw [stopHeartbeat_isOnline]
  rfl

/-- A close with a device id removes everything that is kept under it. -/
theorem handleClose_absent {server : Server} {conn : ConnId}
    (named : server.deviceIdOf conn ≠ []) :
    Absent (handleClose server conn) (server.deviceIdOf conn) := by
  obtain ⟨route, session, heartbeat, isOnline⟩ := handleClose_tables named
  exact ⟨by simp [route], by simp [session], by simp [heartbeat], by simp [isOnline]⟩

/-- A close with a device id affects no other device. -/
theorem handleClose_others {server : Server} {conn : ConnId}
    (named : server.deviceIdOf conn ≠ []) {other : JsString}
    (different : other ≠ server.deviceIdOf conn) :
    Unaffected other server (handleClose server conn) := by
  obtain ⟨route, session, heartbeat, isOnline⟩ := handleClose_tables named
  exact ⟨by simp [route, different], by simp [session, different], by simp [heartbeat, different],
    by simp [isOnline, different]⟩

/-- One close is harmless exactly when it takes away only what is its own. -/
theorem closeHarmless_iff (crypto : ServerCrypto) (server : Server) (input : ServerInput) :
    CloseHarmless crypto server input ↔ ClosesOwn server input := by
  refine forall₂_congr fun conn closing => ?_
  -- Only a close that is delivered closes a connection.
  have closed : serverStep crypto server input = handleClose server conn := by
    cases input with
    | close other =>
      simp only [Server.closing, Option.mem_def, Option.ite_none_right_eq_some] at closing
      obtain ⟨delivers, same⟩ := closing
      obtain rfl := Option.some.inj same
      exact if_pos delivers
    | _ => cases closing
  rw [closed]
  -- A connection that never said HELLO has no device id.
  by_cases unnamed : server.deviceIdOf conn = []
  · exact iff_of_true (fun deviceId => .inr (handleClose_anonymous unnamed deviceId)) (.inl unnamed)
  constructor
  · intro harmless
    rcases harmless (server.deviceIdOf conn) with own | same
    · exact .inr (.inl own)
    · -- What stays although the close removes it was never there.
      have absent := handleClose_absent unnamed
      exact .inr (.inr ⟨same.route.symm.trans absent.route, same.session.symm.trans absent.session,
        same.heartbeat.symm.trans absent.heartbeat, same.isOnline.symm.trans absent.isOnline⟩)
  -- Other devices keep everything; the closed one loses what is its own or what is not there.
  · intro own deviceId
    by_cases different : deviceId = server.deviceIdOf conn
    · subst different
      rcases own with unnamed' | own | absent
      · exact absurd unnamed' unnamed
      · exact .inl own
      · have removed := handleClose_absent unnamed
        exact .inr ⟨removed.route.trans absent.route.symm,
          removed.session.trans absent.session.symm,
          removed.heartbeat.trans absent.heartbeat.symm,
          removed.isOnline.trans absent.isOnline.symm⟩
    · exact .inr (handleClose_others unnamed different)

/-- Over every run, all closes are harmless exactly when each takes away only what is its own. -/
theorem closes_harmless_iff (crypto : ServerCrypto) (inputs : List ServerInput) :
    Machine.Always (serverStep crypto) (CloseHarmless crypto) startServer inputs ↔
      Machine.Always (serverStep crypto) ClosesOwn startServer inputs :=
  Machine.always_congr (closeHarmless_iff crypto)

/-- A device starts a handshake on one connection and again on a second one. -/
def reconnected : List ServerInput :=
  [.connect 1 [], .message 1 (sampleHello 4), .resume 0 true sampleDraws, .connect 2 [],
    .message 2 (sampleHello 4), .resume 0 true sampleDraws]

/-- The late close of the first connection takes away the session of the second. -/
theorem stale_close :
    ¬ Machine.Always (serverStep openCrypto) (CloseHarmless openCrypto) startServer
      (reconnected ++ [.close 1]) := by
  intro harmless
  obtain ⟨last, -⟩ := ((Machine.always_append _ _).mp harmless).2
  -- A route is registered at the end of a handshake only, so none is there yet; but the session of
  -- the second connection is, and the close takes it.
  have closing : (Machine.run (serverStep openCrypto) startServer reconnected).closing (.close 1) =
      some 1 := by decide +kernel
  have route : (Machine.run (serverStep openCrypto) startServer reconnected).deviceConnections
      sampleId = none := by decide +kernel
  have present : ((Machine.run (serverStep openCrypto) startServer reconnected).sessions
      sampleId).map (·.hello.conn) = some 2 := by decide +kernel
  have gone : (serverStep openCrypto (Machine.run (serverStep openCrypto) startServer reconnected)
      (.close 1)).sessions sampleId = none := by decide +kernel
  rcases last 1 closing sampleId with own | same
  · exact absurd (route.symm.trans own) (by decide)
  · rw [← same.session, gone] at present
    cases present

end Ykp.Backend
