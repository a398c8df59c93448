import Ykp.Backend.Sending

/-! The numbers that packets of one session carry, whichever way they leave the server. -/

namespace Ykp.Backend

open BigEndian

/-- The packet id in the header of serialised bytes. -/
def packetIdOf (raw : Bytes) : Nat := readU32 (byteAt raw) 4

/-- A built packet carries the id it was built with. -/
theorem built_packetId {opts : BuildPacketOptions} {raw : Bytes}
    (built : buildPacket opts = some raw) : packetIdOf raw = opts.packetId := by
  -- A packet is built only when its id has 32 bits.
  have small := mt buildPacket_eq_none.mpr (by rw [built]; simp)
  obtain ⟨-, rfl⟩ := buildPacket_layout built
  have read := (readsHeader (header_filled opts) (opts.payload.getD []).length
    (opts.payload.getD [] ++ opts.tag)).packetId
  exact read.trans (Nat.mod_eq_of_lt (by change opts.packetId < _; omega))

/-- At most one packet leaves, and it carries a number. -/
structure Carry (sent : List Bytes) (number : Nat) : Prop where
  single : sent.length ≤ 1
  carries : ∀ raw ∈ sent, packetIdOf raw = number

theorem carry_nil (number : Nat) : Carry [] number := ⟨Nat.zero_le 1, by simp⟩

/-- What is delivered of a packet carries its number. -/
theorem carry_delivery (server : Server) (deviceId : JsString) (opts : BuildPacketOptions) :
    Carry (sentBytes (deliveryLog server deviceId (buildPacket opts))) opts.packetId := by
  -- Without an open connection nothing is delivered.
  rw [sentBytes_deliveryLog]
  split
  · cases built : buildPacket opts with
    | none => exact carry_nil _
    | some raw => exact ⟨Nat.le_refl 1, by simpa using built_packetId built⟩
  · exact carry_nil _

/-- A packet for a device with a session carries the session's next number. -/
theorem sendYkpPacket_carries (crypto : ServerCrypto) {server : Server} {deviceId : JsString}
    {session : DeviceSession} (found : server.sessions deviceId = some session)
    (opts : BuildPacketOptions) :
    ∃ newer, (sendYkpPacket crypto server deviceId opts).log = newer ++ server.log ∧
      Carry (sentBytes newer) (session.packetCounter + 1) := by
  -- Without payload nothing is encrypted.
  by_cases empty : opts.payload.getD [] = []
  · exact ⟨_, sendYkpPacket_plain crypto found empty, carry_delivery _ _ (session.numbered opts)⟩
  · refine ⟨_, sendYkpPacket_sealed crypto found empty, ?_⟩
    unfold sealedLog
    split
    · exact carry_nil _
    · rename_i emptyPkt _
      -- The entry of the encryption is no packet.
      have same (delivered : List ServerEvent) (aad plaintext : Bytes) :
          sentBytes (delivered ++ [.encrypted deviceId session (session.packetCounter + 1) aad
            plaintext]) = sentBytes delivered := by
        simp [sentBytes, List.filterMap_append]
      rw [same]
      exact carry_delivery _ _ (sealedOptions crypto session opts (emptyPkt.take ykpHeaderSize))

/-- The session a packet at the gate is acknowledged under, and the packet as it was opened. -/
def acknowledged (crypto : ServerCrypto) (server : Server) (conn : ConnId) (pkt : ServerPacket) :
    Option (DeviceSession × ServerPacket) := do
  let session ← server.sessions (server.deviceIdOf conn)
  let opened ← openPacket crypto session pkt
  if session.state = .active ∧ (session.replayGuard.check pkt.header.packetId).1 = true ∧
      opened.header.flags &&& flagQosMask = Qos.qos1.byte then
    some (session, opened)
  else none

/-- A packet is acknowledged when it passes the checks under an active session and asks for it. -/
theorem acknowledged_eq_some {crypto : ServerCrypto} {server : Server} {conn : ConnId}
    {pkt opened : ServerPacket} {session : DeviceSession} :
    acknowledged crypto server conn pkt = some (session, opened) ↔
      server.sessions (server.deviceIdOf conn) = some session ∧
        openPacket crypto session pkt = some opened ∧ session.state = .active ∧
        (session.replayGuard.check pkt.header.packetId).1 = true ∧
        opened.header.flags &&& flagQosMask = Qos.qos1.byte := by
  unfold acknowledged
  constructor
  -- The three steps of the computation, one after the other.
  · intro acks
    obtain ⟨other, found, acks⟩ := Option.bind_eq_some_iff.mp acks
    obtain ⟨taken, opens, acks⟩ := Option.bind_eq_some_iff.mp acks
    obtain ⟨checks, same⟩ := Option.ite_none_right_eq_some.mp acks
    obtain ⟨rfl, rfl⟩ := Prod.mk.inj (Option.some.inj same)
    exact ⟨found, opens, checks⟩
  · rintro ⟨found, opens, checks⟩
    simp only [found, opens, Option.bind_eq_bind, Option.bind_some, if_pos checks]

/-- The entries of an acknowledged packet: none when the acknowledgement cannot be built. -/
def ackLog (conn : ConnId) (deviceId : JsString) (session : DeviceSession)
    (opened : ServerPacket) : List ServerEvent :=
  match buildPacket (autoAck session deviceId opened) with
  | none => []
  | some raw => [.dispatched conn deviceId session opened, .sent conn raw]

/-- An acknowledgement carries the session's next number. -/
theorem carry_ackLog (conn : ConnId) (deviceId : JsString) (session : DeviceSession)
    (opened : ServerPacket) :
    Carry (sentBytes (ackLog conn deviceId session opened)) (session.packetCounter + 1) := by
  unfold ackLog
  split
  · exact carry_nil _
  · rename_i raw built
    have carried : packetIdOf raw = session.packetCounter + 1 := built_packetId built
    exact ⟨Nat.le_refl 1, by simpa [sentBytes] using carried⟩

/-- A packet that asks for an acknowledgement is counted in its session and dispatched. -/
theorem acknowledgeAndDispatch_asks {server : Server} {deviceId : JsString}
    {session : DeviceSession} (found : server.sessions deviceId = some session) (conn : ConnId)
    {opened : ServerPacket} (asks : opened.header.flags &&& flagQosMask = Qos.qos1.byte) :
    let after := acknowledgeAndDispatch server conn deviceId session opened
    after.sessions = Function.update server.sessions deviceId (some (countPacket session)) ∧
      after.serial = server.serial ∧
      after.log = ackLog conn deviceId session opened ++ server.log := by
  have counted : (server.sessions deviceId).map countPacket = some (countPacket session) := by
    rw [found]
    rfl
  unfold acknowledgeAndDispatch ackLog
  rw [if_pos asks]
  dsimp only
  -- Whether or not the acknowledgement is built, the counter has moved.
  rw [← counted]
  cases buildPacket (autoAck session deviceId opened) <;> exact ⟨rfl, rfl, rfl⟩

/-- An acknowledged packet takes a number of its session. -/
theorem handleData_acknowledged {crypto : ServerCrypto} {server : Server} {conn : ConnId}
    {pkt opened : ServerPacket} {session : DeviceSession}
    (acks : acknowledged crypto server conn pkt = some (session, opened)) :
    let after := handleData crypto server conn pkt
    after.sessions = Function.update server.sessions (server.deviceIdOf conn)
        (some (session.checked pkt.header.packetId (session.packetCounter + 1))) ∧
      after.serial = server.serial ∧
      after.log = ackLog conn (server.deviceIdOf conn)
        (session.checked pkt.header.packetId session.packetCounter) opened ++ server.log := by
  obtain ⟨found, opens, active, fresh, asks⟩ := acknowledged_eq_some.mp acks
  have handled : handleData crypto server conn pkt =
      acknowledgeAndDispatch
        (server.updateSession (server.deviceIdOf conn) fun s => { s with
          replayGuard := (session.replayGuard.check pkt.header.packetId).2 })
        conn (server.deviceIdOf conn) (session.checked pkt.header.packetId session.packetCounter)
        opened := by
    unfold handleData getSession
    simp only [found, active, ne_eq, not_true_eq_false, if_false, fresh, Bool.not_true,
      Bool.false_eq_true, opens]
    rw [DeviceSession.checked, active]
  -- The guard registers the id in front of the acknowledgement.
  have registered : (server.updateSession (server.deviceIdOf conn) fun s => { s with
      replayGuard := (session.replayGuard.check pkt.header.packetId).2 }).sessions =
      Function.update server.sessions (server.deviceIdOf conn)
        (some (session.checked pkt.header.packetId session.packetCounter)) := by
    unfold Server.updateSession
    rw [found]
    rfl
  have present := congrFun registered (server.deviceIdOf conn)
  rw [Function.update_self] at present
  obtain ⟨sessions, serial, logged⟩ := acknowledgeAndDispatch_asks present conn asks
  rw [handled]
  refine ⟨?_, serial, logged⟩
  -- The two updates of the session make one.
  rw [sessions, registered, Function.update_idem]
  rfl

/-- The number of a device's session object, and its packet counter. -/
def Server.numbers (server : Server) (deviceId : JsString) : Option (Nat × Nat) :=
  (server.sessions deviceId).map fun session => (session.serial, session.packetCounter)

/-- No session takes a number, and no packet leaves. -/
structure Still (before after : Server) : Prop where
  numbers : after.numbers = before.numbers
  serial : after.serial = before.serial

/-- A change of a session that keeps its number and counter. -/
theorem still_updateSession (server : Server) (deviceId : JsString)
    {change : DeviceSession → DeviceSession}
    (keeps : ∀ session, (change session).serial = session.serial ∧
      (change session).packetCounter = session.packetCounter) :
    Still server (server.updateSession deviceId change) := by
  refine ⟨?_, rfl⟩
  funext other
  unfold Server.numbers Server.updateSession
  -- Only the session of the device itself could differ.
  by_cases same : other = deviceId
  · subst same
    cases server.sessions other <;> simp [keeps]
  · simp [Function.update_of_ne same]

/-- A packet at the gate that is not acknowledged takes no number, and no packet is sent for it. -/
theorem handleData_unacknowledged {crypto : ServerCrypto} {server : Server} {conn : ConnId}
    {pkt : ServerPacket} (silent : acknowledged crypto server conn pkt = none) :
    let after := handleData crypto server conn pkt
    Still server after ∧ ∃ newer, after.log = newer ++ server.log ∧ sentBytes newer = [] := by
  unfold handleData getSession
  dsimp only
  -- The checks are gone through in the order of the router.
  split
  · exact ⟨⟨rfl, rfl⟩, [], rfl, rfl⟩
  · rename_i session found
    split
    · exact ⟨⟨rfl, rfl⟩, [], rfl, rfl⟩
    · rename_i active
      have active := not_ne_iff.mp active
      have registered : Still server (server.updateSession (server.deviceIdOf conn) fun s =>
          { s with replayGuard := (session.replayGuard.check pkt.header.packetId).2 }) :=
        still_updateSession server _ fun _ => ⟨rfl, rfl⟩
      split
      · exact ⟨registered, [], rfl, rfl⟩
      · rename_i fresh
        split
        · exact ⟨registered, [], rfl, rfl⟩
        · rename_i opened opens
          unfold acknowledgeAndDispatch
          split
          · rename_i asks
            -- This packet would have been acknowledged.
            have acks := acknowledged_eq_some.mpr
              ⟨found, opens, active, by simpa using fresh, asks⟩
            exact absurd (acks.symm.trans silent) (by simp)
          · exact ⟨⟨registered.numbers, registered.serial⟩, [.dispatched _ _ _ opened], rfl, rfl⟩

/-- Whether an event acknowledges a packet of a device, or sends it one under its session: a command,
the announcement of an update, or the action of an automation rule. -/
def takesNumber (crypto : ServerCrypto) (deviceId : JsString) (server : Server) :
    ServerInput → Bool
  | .message conn data =>
    (server.arrival (.message conn data)).any fun arrived =>
      server.deviceIdOf conn = deviceId && decide (Gated arrived.2) &&
        (acknowledged crypto server conn arrived.2).isSome
  | .command target _ _ _ =>
    target = deviceId && (server.deviceConnections target).isSome &&
      (server.sessions target).isSome
  | .otaStart job _ =>
    job.deviceId = deviceId && (otaBeginPayload job).isSome && (server.sessions job.deviceId).isSome
  | .automationAction target _ _ _ => target = deviceId && (server.sessions target).isSome
  | _ => false

/-- The session of a device counts a number, which the packet that leaves carries. -/
structure Counts (deviceId : JsString) (session : DeviceSession) (before after : Server) :
    Prop where
  numbers : after.numbers deviceId = some (session.serial, session.packetCounter + 1)
  serial : after.serial = before.serial
  sent : ∃ newer, after.log = newer ++ before.log ∧
    Carry (sentBytes newer) (session.packetCounter + 1)

/-- The session of a device counts no number: it stays, is gone, or is a new one. -/
inductive Keeps (deviceId : JsString) (before after : Server) : Prop
  | same (numbers : after.numbers deviceId = before.numbers deviceId)
    (serial : before.serial ≤ after.serial)
  | gone (numbers : after.numbers deviceId = none) (serial : after.serial = before.serial)
  | fresh (numbers : after.numbers deviceId = some (before.serial, 0))
    (serial : after.serial = before.serial + 1)

theorem Still.keeps {before after : Server} (still : Still before after) (deviceId : JsString) :
    Keeps deviceId before after :=
  .same (congrFun still.numbers deviceId) (Nat.le_of_eq still.serial.symm)

/-- Servers that agree on the numbers keep them alike. -/
theorem Keeps.congr {deviceId : JsString} {before before' after after' : Server}
    (kept : Keeps deviceId before after)
    (start : before'.numbers = before.numbers ∧ before'.serial = before.serial)
    (finish : after'.numbers = after.numbers ∧ after'.serial = after.serial) :
    Keeps deviceId before' after' := by
  have first := congrFun start.1 deviceId
  have last := congrFun finish.1 deviceId
  -- The session is treated the same way as before.
  cases kept with
  | same numbers serial =>
    refine .same (last.trans (numbers.trans first.symm)) ?_
    omega
  | gone numbers serial => exact .gone (last.trans numbers) (by omega)
  | fresh numbers serial =>
    refine .fresh (last.trans ?_) (by omega)
    rw [numbers, start.2]

/-- Sending a packet counts it in the session of its device and in no other. -/
theorem sendYkpPacket_sessions (crypto : ServerCrypto) (server : Server) (deviceId : JsString)
    (opts : BuildPacketOptions) :
    let after := sendYkpPacket crypto server deviceId opts
    after.sessions = Function.update server.sessions deviceId
        ((server.sessions deviceId).map countPacket) ∧
      after.serial = server.serial := by
  -- Without a session there is nothing to count in.
  cases found : server.sessions deviceId with
  | none =>
    obtain ⟨registry, -⟩ := sendYkpPacket_without crypto found opts
    refine ⟨?_, congrArg Registry.serial registry⟩
    rw [Option.map_none, ← found, Function.update_eq_self]
    exact congrArg Registry.sessions registry
  | some session =>
    obtain ⟨registry, -⟩ := sendYkpPacket_session crypto found opts
    exact ⟨congrArg Registry.sessions registry, congrArg Registry.serial registry⟩

/-- A packet for a device with a session takes the session's next number. -/
theorem sendYkpPacket_counts (crypto : ServerCrypto) {server : Server} {deviceId : JsString}
    {session : DeviceSession} (found : server.sessions deviceId = some session)
    (opts : BuildPacketOptions) :
    Counts deviceId session server (sendYkpPacket crypto server deviceId opts) := by
  obtain ⟨sessions, serial⟩ := sendYkpPacket_sessions crypto server deviceId opts
  refine ⟨?_, serial, sendYkpPacket_carries crypto found opts⟩
  rw [Server.numbers, sessions, Function.update_self, found]
  rfl

/-- A packet for a device leaves the sessions of the others, and a missing one missing. -/
theorem sendYkpPacket_keeps (crypto : ServerCrypto) (server : Server) {deviceId target : JsString}
    (spared : target = deviceId → server.sessions target = none) (opts : BuildPacketOptions) :
    Keeps deviceId server (sendYkpPacket crypto server target opts) := by
  obtain ⟨sessions, serial⟩ := sendYkpPacket_sessions crypto server target opts
  refine .same ?_ (Nat.le_of_eq serial.symm)
  rw [Server.numbers, sessions]
  -- A packet for the device itself finds no session by assumption.
  by_cases own : target = deviceId
  · subst own
    rw [Function.update_self, spared rfl, Server.numbers, spared rfl]
    rfl
  · rw [Function.update_of_ne (Ne.symm own)]
    rfl

/-- A message arrives on its own connection. -/
theorem arrival_conn {server : Server} {conn other : ConnId} {data : Bytes} {pkt : ServerPacket}
    (arrived : server.arrival (.message conn data) = some (other, pkt)) : other = conn := by
  simp only [Server.arrival] at arrived
  split at arrived
  · obtain ⟨_, -, same⟩ := Option.map_eq_some_iff.mp arrived
    exact (Prod.mk.inj same).1.symm
  · cases arrived

/-- A message that arrives is handled as the packet it is. -/
theorem serverStep_arrival {crypto : ServerCrypto} {server : Server} {conn : ConnId}
    {data : Bytes} {pkt : ServerPacket}
    (arrived : server.arrival (.message conn data) = some (conn, pkt)) :
    serverStep crypto server (.message conn data) =
      handlePacket crypto { server with seq := server.seq + 1 } conn pkt := by
  unfold Server.arrival at arrived
  dsimp only at arrived
  split at arrived
  · rename_i delivers
    obtain ⟨parsed, found, same⟩ := Option.map_eq_some_iff.mp arrived
    obtain ⟨-, rfl⟩ := Prod.mk.inj same
    rw [serverStep_message crypto server conn found, if_pos delivers]
  · cases arrived

/-- An event that takes a number finds a session. -/
theorem takesNumber_session {crypto : ServerCrypto} {deviceId : JsString} {server : Server}
    {input : ServerInput} (takes : takesNumber crypto deviceId server input = true) :
    ∃ session, server.sessions deviceId = some session := by
  -- Each way to take a number has looked the session up.
  cases input with
  | message conn data =>
    obtain ⟨⟨other, pkt⟩, arrived, takes⟩ := Option.any_eq_true _ _ |>.mp takes
    simp only [Bool.and_eq_true, decide_eq_true_eq] at takes
    obtain ⟨⟨rfl, -⟩, some⟩ := takes
    obtain ⟨⟨session, opened⟩, acks⟩ := Option.isSome_iff_exists.mp some
    exact ⟨session, (acknowledged_eq_some.mp acks).1⟩
  | command target service action packetId =>
    simp only [takesNumber, Bool.and_eq_true, decide_eq_true_eq] at takes
    obtain ⟨⟨rfl, -⟩, found⟩ := takes
    exact Option.isSome_iff_exists.mp found
  | otaStart job packetId =>
    simp only [takesNumber, Bool.and_eq_true, decide_eq_true_eq] at takes
    obtain ⟨⟨rfl, -⟩, found⟩ := takes
    exact Option.isSome_iff_exists.mp found
  | automationAction target service action packetId =>
    simp only [takesNumber, Bool.and_eq_true, decide_eq_true_eq] at takes
    obtain ⟨rfl, found⟩ := takes
    exact Option.isSome_iff_exists.mp found
  | _ => cases takes

/-- An event that takes a number of a session counts it there. -/
theorem serverStep_counts {crypto : ServerCrypto} {deviceId : JsString} {server : Server}
    {input : ServerInput} {session : DeviceSession}
    (takes : takesNumber crypto deviceId server input = true)
    (found : server.sessions deviceId = some session) :
    Counts deviceId session server (serverStep crypto server input) := by
  -- One case for each way a packet leaves under a session.
  cases input with
  | message conn data =>
    obtain ⟨⟨other, pkt⟩, arrived, takes⟩ := Option.any_eq_true _ _ |>.mp takes
    simp only [Bool.and_eq_true, decide_eq_true_eq] at takes
    obtain ⟨⟨rfl, gated⟩, some⟩ := takes
    obtain ⟨⟨own, opened⟩, acks⟩ := Option.isSome_iff_exists.mp some
    have same := (acknowledged_eq_some.mp acks).1
    obtain rfl := Option.some.inj (found.symm.trans same)
    -- The message is handled at the gate.
    obtain rfl : other = conn := arrival_conn arrived
    have handled : serverStep crypto server (.message other data) =
        handleData crypto { server with seq := server.seq + 1 } other pkt :=
      (serverStep_arrival arrived).trans ((if_neg gated.1).trans (if_neg gated.2))
    -- The sequence number of the message plays no part in the checks.
    have acks : acknowledged crypto { server with seq := server.seq + 1 } other pkt =
        Option.some (session, opened) := acks
    obtain ⟨sessions, serial, logged⟩ := handleData_acknowledged acks
    rw [handled]
    refine ⟨?_, serial, _, logged, carry_ackLog _ _ _ _⟩
    unfold Server.numbers
    rw [sessions]
    exact congrArg _ (Function.update_self _ _ _)
  | command target service action packetId =>
    simp only [takesNumber, Bool.and_eq_true, decide_eq_true_eq] at takes
    obtain ⟨⟨rfl, connected⟩, -⟩ := takes
    obtain ⟨conn, reached⟩ := Option.isSome_iff_exists.mp connected
    simp only [serverStep, reached]
    exact sendYkpPacket_counts crypto found _
  | otaStart job packetId =>
    simp only [takesNumber, Bool.and_eq_true, decide_eq_true_eq] at takes
    obtain ⟨⟨rfl, announced⟩, -⟩ := takes
    obtain ⟨payload, built⟩ := Option.isSome_iff_exists.mp announced
    simp only [serverStep, built]
    exact sendYkpPacket_counts crypto found _
  | automationAction target service action packetId =>
    simp only [takesNumber, Bool.and_eq_true, decide_eq_true_eq] at takes
    obtain ⟨rfl, -⟩ := takes
    exact sendYkpPacket_counts crypto found _
  | _ => cases takes

/-- An ECDH_RESPONSE takes no number, whatever it does to the session. -/
theorem handleEcdhResponse_still (crypto : ServerCrypto) (server : Server) (conn : ConnId)
    (pkt : ServerPacket) : Still server (handleEcdhResponse crypto server conn pkt) := by
  unfold handleEcdhResponse getSession
  dsimp only
  split
  · exact ⟨rfl, rfl⟩
  · rename_i session found
    split
    · exact ⟨rfl, rfl⟩
    · rename_i key derived
      refine ⟨?_, rfl⟩
      funext other
      -- Activating a session keeps its number and its counter.
      by_cases same : other = server.deviceIdOf conn
      · subst same
        simp [Server.numbers, activateSession, registerConnection, setDeviceOnline, Server.await,
          Server.record, DeviceSession.activate, found]
      · simp [Server.numbers, activateSession, registerConnection, setDeviceOnline, Server.await,
          Server.record, Function.update_of_ne same]

/-- A message that takes no number of a device's session leaves the session as it is. -/
theorem handleMessage_keeps {crypto : ServerCrypto} {deviceId : JsString} {server : Server}
    {conn : ConnId} {pkt : ServerPacket} {data : Bytes}
    (arrived : server.arrival (.message conn data) = some (conn, pkt))
    (spares : takesNumber crypto deviceId server (.message conn data) = false) :
    Keeps deviceId server (handlePacket crypto { server with seq := server.seq + 1 } conn pkt) := by
  have started : Still server { server with seq := server.seq + 1 } := ⟨rfl, rfl⟩
  -- The handshake comes first, and then the gate.
  by_cases hello : Asks pkt .hello
  · rw [show handlePacket crypto { server with seq := server.seq + 1 } conn pkt = _ from
      if_pos hello]
    exact .same rfl (Nat.le_refl _)
  by_cases response : Asks pkt .ecdhResponse
  · rw [show handlePacket crypto { server with seq := server.seq + 1 } conn pkt = _ from
      (if_neg hello).trans (if_pos response)]
    have still := handleEcdhResponse_still crypto { server with seq := server.seq + 1 } conn pkt
    exact .same (congrFun still.numbers deviceId) (Nat.le_of_eq still.serial.symm)
  rw [show handlePacket crypto { server with seq := server.seq + 1 } conn pkt = _ from
    (if_neg hello).trans (if_neg response)]
  cases acks : acknowledged crypto { server with seq := server.seq + 1 } conn pkt with
  | none =>
    obtain ⟨still, -⟩ := handleData_unacknowledged acks
    exact .same (congrFun still.numbers deviceId) (Nat.le_of_eq still.serial.symm)
  | some pair =>
    -- The packet is acknowledged, so it belongs to another device.
    obtain ⟨session, opened⟩ := pair
    obtain ⟨sessions, serial, -⟩ := handleData_acknowledged acks
    have acks : acknowledged crypto server conn pkt = some (session, opened) := acks
    have other : deviceId ≠ server.deviceIdOf conn := by
      rintro rfl
      have gated : Gated pkt := ⟨hello, response⟩
      simp [takesNumber, arrived, acks, gated] at spares
    refine .same ?_ (Nat.le_of_eq serial.symm)
    unfold Server.numbers
    rw [sessions]
    exact congrArg _ (Function.update_of_ne other _ _)

/-- A handler that continues takes no number. -/
theorem resumeTask_keeps (deviceId : JsString) (server : Server) (ok : Bool) (draws : Draws)
    (task : Task) : Keeps deviceId server (resumeTask server ok draws task) := by
  have stays {after : Server} (same : after.numbers = server.numbers)
      (serial : after.serial = server.serial) : Keeps deviceId server after :=
    Still.keeps ⟨same, serial⟩ deviceId
  -- Only a HELLO that continues touches the sessions.
  cases task with
  | hello ref packetId =>
    unfold resumeTask
    dsimp only
    split
    · unfold resumeHello
      dsimp only
      split
      · exact stays rfl rfl
      · exact stays rfl rfl
      · rename_i entry _
        -- A new session starts to count at zero, under the next number of the server.
        have created : Keeps deviceId server (createPendingSession server
            (server.deviceIdOf ref.conn) draws entry.value ref) := by
          by_cases own : deviceId = server.deviceIdOf ref.conn
          · subst own
            refine .fresh ?_ rfl
            simp [Server.numbers, createPendingSession, Server.record, pendingSession]
          · refine .same ?_ (Nat.le_succ _)
            simp [Server.numbers, createPendingSession, Server.record, Function.update_of_ne own]
        -- Sending the CHALLENGE changes no session.
        split
        · exact created
        · exact created.congr ⟨rfl, rfl⟩ ⟨rfl, rfl⟩
    · exact stays rfl rfl
  | markOnline conn other ip packetId sessionId =>
    unfold resumeTask
    dsimp only
    split <;> exact stays rfl rfl
  | sessionActive conn packetId sessionId =>
    unfold resumeTask resumeSessionActive
    dsimp only
    split
    · exact stays rfl rfl
    · split <;> exact stays rfl rfl
  | markOffline other =>
    unfold resumeTask
    dsimp only
    split <;> exact stays rfl rfl

/-- The close of a connection takes no number. -/
theorem handleClose_keeps (deviceId : JsString) (server : Server) (conn : ConnId) :
    Keeps deviceId server (handleClose server conn) := by
  unfold handleClose
  generalize marked : server.updateConn conn _ = closing
  have same : closing.sessions = server.sessions ∧ closing.serial = server.serial := by
    rw [← marked]
    exact ⟨rfl, rfl⟩
  dsimp only
  -- An anonymous connection closes without any effect on sessions.
  split
  · exact (Still.keeps ⟨by unfold Server.numbers; rw [same.1], same.2⟩ deviceId)
  · rename_i named
    obtain ⟨registry, -⟩ := markOffline_registry
      (closeSession (removeConnection closing (closing.deviceIdOf conn)) (closing.deviceIdOf conn))
      (closing.deviceIdOf conn)
    have sessions := congrArg Registry.sessions registry
    have serial := congrArg Registry.serial registry
    change _ = Function.update closing.sessions (closing.deviceIdOf conn) none at sessions
    -- What is kept under the device id of the connection is removed.
    by_cases own : deviceId = closing.deviceIdOf conn
    · rw [← own] at sessions
      refine .gone ?_ (serial.trans same.2)
      rw [Server.numbers, ← own]
      exact congrArg (Option.map _) ((congrFun sessions deviceId).trans
        (Function.update_self _ _ _))
    · refine .same ?_ (Nat.le_of_eq (serial.trans same.2).symm)
      refine congrArg (Option.map _) ((congrFun sessions deviceId).trans ?_)
      rw [Function.update_of_ne own, same.1]

/-- An event that takes no number of a device's session keeps the session, or ends or replaces it. -/
theorem serverStep_keeps {crypto : ServerCrypto} {deviceId : JsString} {server : Server}
    {input : ServerInput} (spares : takesNumber crypto deviceId server input = false) :
    Keeps deviceId server (serverStep crypto server input) := by
  have stays {after : Server} (same : after.numbers = server.numbers)
      (serial : after.serial = server.serial) : Keeps deviceId server after :=
    Still.keeps ⟨same, serial⟩ deviceId
  -- Inputs without packets first leave everything alone; the others are spared by assumption.
  cases input with
  | connect conn ip =>
    unfold serverStep
    dsimp only
    split <;> exact stays rfl rfl
  | message conn data =>
    cases arrived : server.arrival (.message conn data) with
    -- A message on a closed connection, or one that does not parse, is ignored.
    | none =>
      have ignored : (serverStep crypto server (.message conn data)).sessions = server.sessions ∧
          (serverStep crypto server (.message conn data)).serial = server.serial := by
        simp only [Server.arrival] at arrived
        unfold serverStep
        dsimp only
        split
        · rename_i delivers
          rw [if_pos delivers, Option.map_eq_none_iff] at arrived
          rw [handleMessage, arrived]
          exact ⟨rfl, rfl⟩
        · exact ⟨rfl, rfl⟩
      exact stays (by unfold Server.numbers; rw [ignored.1]) ignored.2
    | some pair =>
      obtain ⟨other, pkt⟩ := pair
      obtain rfl : other = conn := arrival_conn arrived
      rw [serverStep_arrival arrived]
      exact handleMessage_keeps arrived spares
  | resume position ok draws =>
    unfold serverStep
    dsimp only
    split
    · exact stays rfl rfl
    · rename_i task _
      have kept := resumeTask_keeps deviceId
        { server with tasks := server.tasks.eraseIdx position } ok draws task
      exact kept.congr ⟨rfl, rfl⟩ ⟨rfl, rfl⟩
  | close conn =>
    unfold serverStep
    dsimp only
    split
    · exact handleClose_keeps deviceId server conn
    · exact stays rfl rfl
  | heartbeat timer =>
    unfold serverStep
    dsimp only
    split <;> exact stays rfl rfl
  | command target service action packetId =>
    unfold serverStep
    dsimp only
    split
    · exact stays rfl rfl
    · rename_i reached
      refine sendYkpPacket_keeps crypto server (fun own => ?_) _
      subst own
      simpa [takesNumber, reached] using spares
  | otaStart job packetId =>
    unfold serverStep
    dsimp only
    split
    · exact stays rfl rfl
    · rename_i built
      refine sendYkpPacket_keeps crypto server (fun own => ?_) _
      simpa [takesNumber, built, own] using spares
  | automationAction target service action packetId =>
    refine sendYkpPacket_keeps crypto server (fun own => ?_) _
    simpa [takesNumber, own] using spares

/-- One event either counts a device's session, or keeps it. -/
theorem serverStep_counts_or_keeps (crypto : ServerCrypto) (deviceId : JsString) (server : Server)
    (input : ServerInput) :
    (takesNumber crypto deviceId server input = true ∧ ∃ session,
        server.sessions deviceId = some session ∧
          Counts deviceId session server (serverStep crypto server input)) ∨
      (takesNumber crypto deviceId server input = false ∧
        Keeps deviceId server (serverStep crypto server input)) := by
  cases takes : takesNumber crypto deviceId server input with
  | false => exact .inr ⟨rfl, serverStep_keeps takes⟩
  | true =>
    -- Only a device with a session has a number to be taken.
    obtain ⟨session, found⟩ := takesNumber_session takes
    exact .inl ⟨rfl, session, found, serverStep_counts takes found⟩

end Ykp.Backend
