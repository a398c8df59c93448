import Ykp.Backend.Authentication

/-! Which packet ids the server hands to its services under one session key. -/

namespace Ykp.Backend

open SlidingWindow

/-- The packet id of a dispatch for a device under one of its sessions, whose key is derived from
values that never change. -/
def idUnder (deviceId : JsString) (serial : Nat) : ServerEvent → Option Nat
  | .dispatched _ other session pkt =>
    if other = deviceId ∧ session.serial = serial then some pkt.header.packetId else none
  | _ => none

/-- The packet ids handed to services for a device under one of its sessions, the latest first. -/
def idsUnder (deviceId : JsString) (serial : Nat) (log : List ServerEvent) : List Nat :=
  log.filterMap (idUnder deviceId serial)

/-- The ids handed to services under a session differ, a session is younger than any unused number,
and its replay guard has registered the ids handed over under it. -/
structure ReplayInv (registry : Registry) (log : List ServerEvent) : Prop where
  unique : ∀ deviceId serial, (idsUnder deviceId serial log).Nodup
  unused : ∀ deviceId serial, registry.serial ≤ serial → idsUnder deviceId serial log = []
  numbered : ∀ deviceId session, registry.sessions deviceId = some session →
    session.serial < registry.serial
  tracked : ∀ deviceId session, registry.sessions deviceId = some session →
    ∃ accepted, session.replayGuard.Tracks accepted ∧
      idsUnder deviceId session.serial log ⊆ accepted

/-- An ECDH_RESPONSE whose derivation succeeds finds a session under which nothing was handed to a
service. -/
def ActivatesFresh (crypto : ServerCrypto) (server : Server) (input : ServerInput) : Prop :=
  ∀ arrived ∈ server.arrival input, Asks arrived.2 .ecdhResponse →
    ∀ session ∈ server.sessions (server.deviceIdOf arrived.1),
      deriveSessionKey crypto session.ephemeralPriv session.clientPubKey session.nonce
        session.sessionId ≠ none →
      idsUnder (server.deviceIdOf arrived.1) session.serial server.log = []

instance (crypto : ServerCrypto) (server : Server) (input : ServerInput) :
    Decidable (ActivatesFresh crypto server input) := by
  unfold ActivatesFresh
  infer_instance

/-- An entry that is no dispatch. -/
def ServerEvent.Idle (event : ServerEvent) : Prop :=
  ∀ deviceId serial, idUnder deviceId serial event = none

/-- Idle entries leave the ids alone. -/
theorem idsUnder_idle {newer log : List ServerEvent} (idle : ∀ event ∈ newer, event.Idle)
    (deviceId : JsString) (serial : Nat) :
    idsUnder deviceId serial (newer ++ log) = idsUnder deviceId serial log := by
  have nothing : newer.filterMap (idUnder deviceId serial) = [] :=
    List.filterMap_eq_nil_iff.mpr fun event member => idle event member deviceId serial
  -- No entry of the batch names an id.
  rw [idsUnder, List.filterMap_append, nothing, List.nil_append, idsUnder]

theorem ServerEvent.Quiet.idle {event : ServerEvent} (quiet : event.Quiet) : event.Idle := by
  intro deviceId serial
  cases event <;> first | rfl | exact quiet.elim

/-- Idle entries keep the invariant. -/
theorem ReplayInv.append {registry : Registry} {log newer : List ServerEvent}
    (inv : ReplayInv registry log) (idle : ∀ event ∈ newer, event.Idle) :
    ReplayInv registry (newer ++ log) := by
  -- Idle entries add no id to those under any session.
  have same (deviceId : JsString) (serial : Nat) := @idsUnder_idle newer log idle deviceId serial
  refine ⟨?_, ?_, inv.numbered, ?_⟩ <;> simp only [same]
  · exact inv.unique
  · exact inv.unused
  · exact inv.tracked

/-- A session may be replaced by one with the same number whose guard knows the ids under it. -/
theorem ReplayInv.replace {registry : Registry} {log : List ServerEvent} {deviceId : JsString}
    {session changed : DeviceSession} (inv : ReplayInv registry log)
    (found : registry.sessions deviceId = some session) (serial : changed.serial = session.serial)
    (tracked : ∃ accepted, changed.replayGuard.Tracks accepted ∧
      idsUnder deviceId session.serial log ⊆ accepted) :
    ReplayInv (registry.setSession deviceId (some changed)) log := by
  -- Only the session under this device id changed.
  refine ⟨inv.unique, inv.unused, forall_setSession ?_ inv.numbered,
    forall_setSession ?_ inv.tracked⟩
  · exact serial ▸ inv.numbered deviceId session found
  · exact serial ▸ tracked

/-- Opening a packet keeps its header. -/
theorem openPacket_header {crypto : ServerCrypto} {session : DeviceSession}
    {pkt opened : ServerPacket} (opens : openPacket crypto session pkt = some opened) :
    opened.header = pkt.header := by
  unfold openPacket at opens
  -- The plaintext takes the place of the payload only.
  split at opens
  · obtain ⟨plaintext, -, rfl⟩ := Option.map_eq_some_iff.mp opens
    rfl
  · exact congrArg _ (Option.some.inj opens).symm

/-- A guard that has checked an id still knows the ids it knew. -/
theorem ReplayInv.checked {registry : Registry} {log : List ServerEvent} {deviceId : JsString}
    {session : DeviceSession} (inv : ReplayInv registry log)
    (found : registry.sessions deviceId = some session) (packetId counter : Nat) :
    ReplayInv (registry.setSession deviceId (some (session.checked packetId counter))) log := by
  obtain ⟨accepted, tracks, registered⟩ := inv.tracked deviceId session found
  refine inv.replace found rfl ⟨_, (session.replayGuard.check_refines packetId tracks).2, ?_⟩
  -- An accepted id joins the ids the guard knows, and a rejected one changes nothing.
  split
  · exact List.subset_cons_of_subset _ registered
  · exact registered

/-- A dispatch adds its id to the ids under its session and to no others. -/
theorem idsUnder_dispatched (conn : ConnId) (deviceId other : JsString) (session : DeviceSession)
    (pkt : ServerPacket) (serial : Nat) (log : List ServerEvent) :
    idsUnder other serial (.dispatched conn deviceId session pkt :: log) =
      if deviceId = other ∧ session.serial = serial then
        pkt.header.packetId :: idsUnder other serial log
      else idsUnder other serial log := by
  split
  · rename_i same
    exact List.filterMap_cons_some (if_pos same)
  · rename_i different
    exact List.filterMap_cons_none (if_neg different)

/-- An accepted id that is handed to a service was not handed to one under the session before. -/
theorem ReplayInv.dispatch {registry : Registry} {log : List ServerEvent} {deviceId : JsString}
    {session : DeviceSession} {pkt : ServerPacket} (inv : ReplayInv registry log)
    (found : registry.sessions deviceId = some session)
    (accepts : (session.replayGuard.check pkt.header.packetId).1 = true) (conn : ConnId)
    (counter kept : Nat) :
    ReplayInv
      (registry.setSession deviceId (some (session.checked pkt.header.packetId counter)))
      (.dispatched conn deviceId (session.checked pkt.header.packetId kept) pkt :: log) := by
  obtain ⟨accepted, tracks, registered⟩ := inv.tracked deviceId session found
  obtain ⟨exact_, next⟩ := session.replayGuard.check_refines pkt.header.packetId tracks
  rw [if_pos accepts] at next
  obtain ⟨-, new, -⟩ := exact_.mp accepts
  have ids (other : JsString) (serial : Nat) :
      idsUnder other serial (.dispatched conn deviceId
          (session.checked pkt.header.packetId kept) pkt :: log) =
        if deviceId = other ∧ session.serial = serial then
          pkt.header.packetId :: idsUnder other serial log
        else idsUnder other serial log := idsUnder_dispatched _ _ _ _ _ _ _
  have older : ReplayInv (registry.setSession deviceId
      (some (session.checked pkt.header.packetId counter))) log := inv.checked found _ _
  -- A number that was not given out yet is not the one of this session.
  have current : session.serial < registry.serial := inv.numbered deviceId session found
  refine ⟨fun other serial => ?_, fun other serial above => ?_, older.numbered,
    fun other present holds => ?_⟩
  -- The new id is not among the older ones, which the guard knew.
  · rw [ids]
    split
    · rename_i same
      obtain ⟨rfl, rfl⟩ := same
      exact List.nodup_cons.mpr ⟨fun member => new (registered member), inv.unique _ _⟩
    · exact inv.unique other serial
  · have different : ¬ (deviceId = other ∧ session.serial = serial) := by
      rintro ⟨-, rfl⟩
      exact absurd current (Nat.not_lt_of_le above)
    rw [ids, if_neg different]
    exact inv.unused other serial above
  -- The guard that accepted the id knows it now.
  · rcases setSession_cases holds with ⟨rfl, same⟩ | ⟨different, old⟩
    · obtain rfl := Option.some.inj same
      refine ⟨_, next, ?_⟩
      rw [ids, if_pos ⟨rfl, rfl⟩]
      exact List.cons_subset_cons _ registered
    · rw [ids, if_neg fun same => different same.1.symm]
      exact inv.tracked other present old

/-- One event keeps the invariant when an activation comes before any dispatch. -/
theorem Moved.replayInv {crypto : ServerCrypto} {before : Server} {input : ServerInput}
    {newer : List ServerEvent} {registry : Registry}
    (moved : Moved crypto before input newer registry)
    (inv : ReplayInv before.registry before.log) (fresh : ActivatesFresh crypto before input) :
    ReplayInv registry (newer ++ before.log) := by
  -- Only a dispatch adds an id, and only an activation or a new session resets a guard.
  cases moved with
  | settled quiet => exact inv.append fun event member => (quiet event member).idle
  | @helloReceived _ conn pkt =>
    have idle : (ServerEvent.helloReceived (helloRef before conn pkt)).Idle := fun _ _ => rfl
    have later := inv.append (List.forall_mem_singleton.mpr idle)
    exact ⟨later.unique, later.unused, later.numbered, later.tracked⟩
  | @created _ _ draws ref deviceId entry =>
    refine ReplayInv.append ⟨inv.unique, fun other serial above => ?_, forall_setSession ?_ ?_,
      forall_setSession ?_ inv.tracked⟩ (forall_created (fun _ quiet => quiet.idle) fun _ _ => rfl)
    · exact inv.unused other serial (Nat.le_of_succ_le above)
    · exact Nat.lt_succ_self _
    · exact fun other present old => Nat.lt_succ_of_lt (inv.numbered other present old)
    · -- Nothing was handed to a service under the new number.
      refine ⟨[], tracks_reset, ?_⟩
      exact List.subset_nil.mpr (inv.unused deviceId before.serial (Nat.le_refl _))
  | @activated _ conn pkt deviceId session key arrived named asks found derived =>
    subst named
    have none := fresh _ arrived asks session found (by rw [derived]; simp)
    have idle : ∀ event ∈ [ServerEvent.activated conn (before.deviceIdOf conn)
        (session.activate key), .derived conn session.ephemeralPriv session.clientPubKey
          session.nonce (some key)], event.Idle := by
      simp [ServerEvent.Idle, idUnder]
    have replaced : ReplayInv (before.registry.setSession (before.deviceIdOf conn)
        (some (session.activate key))) before.log :=
      inv.replace found rfl ⟨[], tracks_reset, List.subset_nil.mpr none⟩
    have later := replaced.append idle
    exact ⟨later.unique, later.unused, later.numbered, later.tracked⟩
  | filtered _ _ _ found _ quiet =>
    exact (inv.checked found _ _).append fun event member => (quiet event member).idle
  | @dispatched _ conn pkt opened deviceId session counter newer arrived named gated found active
      accepts opens quiet =>
    have later := inv.append fun event member => (quiet event member).idle
    have header := openPacket_header opens
    rw [← header] at accepts ⊢
    exact later.dispatch found accepts conn counter session.packetCounter
  | @counted _ deviceId session _ _ found quiet seals =>
    have counted : ReplayInv (before.registry.setSession deviceId (some (countPacket session)))
        before.log := inv.replace found rfl (inv.tracked deviceId session found)
    refine counted.append ?_
    exact forall_counted (fun _ quiet => quiet.idle) quiet seals fun _ _ _ _ _ _ _ _ => rfl
  | closed =>
    exact ⟨inv.unique, inv.unused, forall_dropSession inv.numbered,
      forall_dropSession inv.tracked⟩

/-- Over every run in which each ECDH_RESPONSE that activates a session does so before anything was
handed to a service under it, no packet id is handed to a service twice for a device under one
session. -/
theorem ids_nodup (crypto : ServerCrypto) {inputs : List ServerInput}
    (fresh : Machine.Always (serverStep crypto) (ActivatesFresh crypto) startServer inputs)
    (deviceId : JsString) (serial : Nat) :
    (idsUnder deviceId serial (serverRun crypto inputs).log).Nodup := by
  let inv (server : Server) : Prop := ReplayInv server.registry server.log
  have keeps (server : Server) (input : ServerInput) (holds : inv server)
      (fresh : ActivatesFresh crypto server input) : inv (serverStep crypto server input) := by
    obtain ⟨newer, logged, moved⟩ := serverStep_moves crypto server input
    exact (congrArg (ReplayInv _) logged).mpr (moved.replayInv holds fresh)
  -- Before the first event there is no session and no id.
  have initial : inv startServer := by
    refine ⟨fun _ _ => List.nodup_nil, fun _ _ _ => rfl, fun _ _ found => ?_, fun _ _ found => ?_⟩
    · cases found
    · cases found
  exact (Machine.invariant_run keeps initial fresh).unique deviceId serial

end Ykp.Backend
