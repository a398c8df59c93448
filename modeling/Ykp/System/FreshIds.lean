import Mathlib.Data.List.Induction
import Mathlib.Data.List.Nodup
import Ykp.Backend.ReplayGuard
import Ykp.Firmware.WireIds

/-! The packet ids a device puts on the wire in one session, at the server's replay guard. -/

namespace Ykp.System

open BigEndian History SlidingWindow Firmware Backend

instance (pkt : YkpPacket) : Decidable (IsData pkt) := inferInstanceAs (Decidable (_ ∧ _))

/-- The packet an event hands to a service, if any. -/
def served (crypto : DeviceCrypto) (device : Device) (input : DeviceInput) : Option YkpPacket :=
  if device.running then
    (received input).bind fun delivered =>
      if IsData delivered.2 ∧ ykpSessionIsActive device.session = true ∧
          (ykpReplayCheck device.replay delivered.2.header.packetId).1 = true then
        openedBy crypto device.secCtx.session delivered.1 delivered.2
      else none
  else none

/-- Whether an event makes a report or a reply leave that carries no number. -/
def sendsUnnumbered (crypto : DeviceCrypto) (device : Device)
    (input : DeviceInput × DeviceEnv) : Bool :=
  match input.1 with
  | .healthCheck => device.running && decide (12 ≤ device.healthLoopCounter + 1) &&
      ykpSessionIsActive device.session && input.2.transmits
  | _ => (served crypto device input.1).any (answersUnnumbered crypto input.2 device)

/-- The id under which an event makes the relay acknowledge a command. -/
def echoedId (crypto : DeviceCrypto) (device : Device) (input : DeviceInput × DeviceEnv) :
    Option Nat :=
  (served crypto device input.1).bind fun pkt =>
    if Service.ofByte pkt.header.serviceId = some .relay ∧
        acknowledges input.2 device.relayState pkt.header.actionId = true then
      some pkt.header.packetId
    else none

/-- Whether an event is a button press that is acknowledged. -/
def acknowledgesPress (device : Device) (input : DeviceInput × DeviceEnv) : Bool :=
  match input.1 with
  | .button => device.running && input.2.transmits
  | _ => false

/-- No report or reply leaves without a number, the counter has room, and neither the echoed ids nor
the counter's numbers run into the other ones. -/
structure KeepsApart (crypto : DeviceCrypto) (device : Device)
    (input : DeviceInput × DeviceEnv) : Prop where
  numbered : sendsUnnumbered crypto device input = false
  room : device.session.packetCounter + 1 < 2 ^ 32
  /-- A command is not acknowledged under a number that the counter has put on the wire. -/
  echoed : ∀ packetId ∈ echoedId crypto device input, 1 < packetId →
    packetId ≤ device.session.packetCounter → packetId ∉ wireIds device.log
  /-- A button press does not take the number of a command that was acknowledged. -/
  pressed : acknowledgesPress device input = true →
    device.session.packetCounter + 1 ∈ relayIds device.log →
      device.session.packetCounter + 1 ∉ wireIds device.log

instance (crypto : DeviceCrypto) (device : Device) (input : DeviceInput × DeviceEnv) :
    Decidable (KeepsApart crypto device input) :=
  decidable_of_iff (_ ∧ _ ∧ _ ∧ _)
    ⟨fun ⟨numbered, room, echoed, pressed⟩ => ⟨numbered, room, echoed, pressed⟩,
      fun apart => ⟨apart.numbered, apart.room, apart.echoed, apart.pressed⟩⟩

/-- The guard behind ids that arrived in order. -/
def guardAfter (arrived : List Nat) : ReplayGuard :=
  Machine.run (fun guard packetId => (guard.check packetId).2) ReplayGuard.reset arrived

/-- Packet ids, the latest first, that differ from each other and from zero, each of which a new
guard accepts within its window, behind whatever part of the earlier ones arrived in order. -/
structure FreshIds (ids : List Nat) : Prop where
  nonzero : 0 ∉ ids
  unique : ids.Nodup
  accepted : ∀ arrived packetId, (arrived ++ [packetId]).Sublist ids.reverse →
    (∀ earlier ∈ arrived, earlier < packetId + ykpReplayWindowSize) →
      ((guardAfter arrived).check packetId).1 = true

/-- A guard keeps track of some of the ids that arrived. -/
theorem guardAfter_tracks (arrived : List Nat) :
    ∃ accepted, (guardAfter arrived).Tracks accepted ∧ accepted ⊆ arrived := by
  -- From the back: the guard checks the last id behind all earlier ones.
  induction arrived using List.reverseRecOn with
  | nil => exact ⟨[], Backend.tracks_reset, List.nil_subset _⟩
  | append_singleton earlier packetId ih =>
    obtain ⟨accepted, tracks, among⟩ := ih
    have next := ((guardAfter earlier).check_refines packetId tracks).2
    have behind : guardAfter (earlier ++ [packetId]) =
        ((guardAfter earlier).check packetId).2 := by
      rw [guardAfter, Machine.run_append]
      rfl
    rw [behind]
    refine ⟨_, next, ?_⟩
    -- An accepted id joins the ids kept track of, and a rejected one does not.
    split
    · intro other member
      rcases List.mem_cons.mp member with rfl | old
      · simp
      · exact List.mem_append_left _ (among old)
    · exact fun other member => List.mem_append_left _ (among member)

/-- Ids that differ from each other and from zero are fresh. -/
theorem freshIds_of_nodup {ids : List Nat} (nonzero : 0 ∉ ids) (unique : ids.Nodup) :
    FreshIds ids := by
  refine ⟨nonzero, unique, fun arrived packetId part recent => ?_⟩
  -- The guard keeps track of ids that arrived, so it has not seen this one.
  obtain ⟨accepted, tracks, among⟩ := guardAfter_tracks arrived
  have distinct : (arrived ++ [packetId]).Nodup := (List.nodup_reverse.mpr unique).sublist part
  have present : packetId ∈ ids := List.mem_reverse.mp (part.subset (by simp))
  apply ((guardAfter arrived).check_refines packetId tracks).1.mpr
  refine ⟨fun zero => nonzero (zero ▸ present), fun seen => ?_, fun earlier member => ?_⟩
  · -- The id did not arrive earlier.
    exact (List.nodup_append.mp distinct).2.2 _ (among seen) _ (List.mem_singleton_self _) rfl
  · exact recent earlier (among member)

/-- What is on the wire in the current session: numbers of the counter and ids of commands, which
the replay window has registered; and nothing waits to be sent again. -/
structure IdsInv (device : Device) : Prop where
  counter : 1 ≤ device.session.packetCounter
  idle : Waiting [] device.qos
  unique : (wireIds device.log).Nodup
  sources : ∀ packetId ∈ wireIds device.log,
    1 < packetId ∧ packetId ≤ device.session.packetCounter ∨ packetId ∈ relayIds device.log
  registered : ∃ accepted, device.replay.Tracks accepted ∧ relayIds device.log ⊆ accepted
  nonzero : 0 ∉ relayIds device.log

/-- Ids put on the wire keep the invariant when they are new and have a source. -/
theorem IdsInv.emits {before after : Device} {ids : List Nat} (inv : IdsInv before)
    (emits : Emits before after ids) (unique : (ids ++ wireIds before.log).Nodup)
    (sources : ∀ packetId ∈ ids, 1 < packetId ∧ packetId ≤ before.session.packetCounter ∨
      packetId ∈ relayIds before.log) : IdsInv after := by
  obtain ⟨accepted, tracks, registered⟩ := inv.registered
  refine ⟨?_, ?_, ?_, ?_, ⟨accepted, ?_, ?_⟩, ?_⟩
  · rw [emits.counter]
    exact inv.counter
  · rw [emits.qos]
    exact inv.idle
  · rw [emits.wire]
    exact unique
  -- A new id has a source by assumption, and an old one keeps its own.
  · rw [emits.wire, emits.relays, emits.counter]
    intro packetId member
    rcases List.mem_append.mp member with new | old
    · exact sources packetId new
    · exact inv.sources packetId old
  · rw [emits.replay]
    exact tracks
  · rw [emits.relays]
    exact registered
  · rw [emits.relays]
    exact inv.nonzero

/-- A step that puts nothing on the wire keeps the invariant. -/
theorem IdsInv.quiet {before after : Device} (inv : IdsInv before)
    (emits : Emits before after []) : IdsInv after :=
  inv.emits emits inv.unique (by simp)

/-- One new id with a source, or none, keeps the invariant. -/
theorem IdsInv.one {before after : Device} {packetId : Nat} {sent : Bool} (inv : IdsInv before)
    (emits : Emits before after (if sent then [packetId] else []))
    (new : sent = true → packetId ∉ wireIds before.log)
    (source : 1 < packetId ∧ packetId ≤ before.session.packetCounter ∨
      packetId ∈ relayIds before.log) : IdsInv after := by
  -- Nothing leaves, or exactly the one id does.
  cases sent with
  | false => exact inv.quiet emits
  | true =>
    refine inv.emits emits (List.nodup_cons.mpr ⟨new rfl, inv.unique⟩) fun other member => ?_
    rw [List.mem_singleton.mp member]
    exact source

/-- Taking a number that fits keeps the invariant. -/
theorem IdsInv.number {device : Device} (inv : IdsInv device) (env : DeviceEnv)
    (room : device.session.packetCounter + 1 < 2 ^ 32) : IdsInv (device.nextPacketId env).2 := by
  have next : (device.nextPacketId env).2.session.packetCounter =
      device.session.packetCounter + 1 := Nat.mod_eq_of_lt room
  refine ⟨?_, inv.idle, inv.unique, ?_, inv.registered, inv.nonzero⟩
  · omega
  -- The numbers given out so far stay below the counter.
  · intro packetId member
    rcases inv.sources packetId member with ⟨low, high⟩ | relayed
    · exact .inl ⟨low, by omega⟩
    · exact .inr relayed

/-- A part of the handshake keeps the invariant. -/
theorem IdsInv.handshakes {env : DeviceEnv} {before after : Device} (inv : IdsInv before)
    (room : before.session.packetCounter + 1 < 2 ^ 32) (handshakes : Handshakes env before after) :
    IdsInv after := by
  -- A handshake packet takes a number but puts no id of a service on the wire.
  rcases handshakes with quiet | numbered
  · exact inv.quiet quiet
  · exact (inv.number env room).quiet numbered

/-- A button press keeps the invariant unless it takes the number of an acknowledged command. -/
theorem IdsInv.button {env : DeviceEnv} {device : Device} (inv : IdsInv device)
    (room : device.session.packetCounter + 1 < 2 ^ 32)
    (free : env.transmits = true → device.session.packetCounter + 1 ∈ relayIds device.log →
      device.session.packetCounter + 1 ∉ wireIds device.log) :
    IdsInv (buttonDebounceTimerCallback env device) := by
  have next : (device.nextPacketId env).2.session.packetCounter =
      device.session.packetCounter + 1 := Nat.mod_eq_of_lt room
  have low := inv.counter
  refine (inv.number env room).one (button_emits env room) (fun sent member => ?_)
    (.inl ⟨by omega, by omega⟩)
  -- The counter has not given the number out yet.
  rcases inv.sources _ member with ⟨-, high⟩ | relayed
  · omega
  · exact free sent relayed member

/-- The first entry of a session leaves nothing on its wire. -/
theorem IdsInv.bounds {before after : Device} {event : DeviceEvent} (inv : IdsInv before)
    (counter : after.session.packetCounter = 1) (qos : after.qos = before.qos)
    (tracks : ∃ accepted, after.replay.Tracks accepted)
    (logged : after.log = event :: before.log) (bounds : boundsSession event = true) :
    IdsInv after := by
  -- Nothing belongs to the new session yet.
  have wire : wireIds after.log = [] := by
    rw [logged, wireIds, since_cons_boundary _ bounds, List.filterMap_nil]
  have relays : relayIds after.log = [] := by
    rw [logged, relayIds, since_cons_boundary _ bounds, List.filterMap_nil]
  obtain ⟨accepted, tracks⟩ := tracks
  refine ⟨Nat.le_of_eq counter.symm, qos ▸ inv.idle, ?_, ?_, ⟨accepted, tracks, ?_⟩, ?_⟩
  · simp [wire]
  · simp [wire]
  · simp [relays]
  · simp [relays]

theorem IdsInv.reset {device : Device} (inv : IdsInv device) : IdsInv device.resetSession := by
  obtain ⟨accepted, tracks, -⟩ := inv.registered
  exact inv.bounds rfl rfl ⟨accepted, tracks⟩ rfl rfl

/-- A packet of the handshake keeps the invariant. -/
theorem IdsInv.security {crypto : DeviceCrypto} {env : DeviceEnv} {device : Device}
    (inv : IdsInv device) (room : device.session.packetCounter + 1 < 2 ^ 32) (pkt : YkpPacket) :
    IdsInv (handleSecurity crypto env pkt device) := by
  -- A CHALLENGE, a SESSION_ACTIVE, a KEY_ROTATE, or something else.
  unfold handleSecurity
  split
  · exact inv.handshakes room (handleChallenge_handshakes crypto env pkt device)
  · unfold handleSessionActive
    dsimp only
    split
    · exact inv.quiet (emits_of_log rfl rfl rfl rfl)
    · exact inv.bounds rfl rfl ⟨[], Firmware.tracks_reset⟩ rfl rfl
  · exact inv.reset.handshakes (show 1 + 1 < 2 ^ 32 by decide) (sendHello_handshakes env _)
  · exact inv

/-- A checked packet keeps the invariant. -/
theorem IdsInv.checked {device : Device} (inv : IdsInv device) (packetId : Nat) :
    IdsInv { device with replay := (ykpReplayCheck device.replay packetId).2 } := by
  obtain ⟨accepted, tracks, registered⟩ := inv.registered
  have next := (ykpReplayCheck_refines packetId tracks).2
  refine ⟨inv.counter, inv.idle, inv.unique, inv.sources, ⟨_, next, ?_⟩, inv.nonzero⟩
  -- Whether the id is accepted or not, the ids registered before remain.
  split
  · exact fun other member => List.mem_cons_of_mem _ (registered member)
  · exact registered

/-- A command that passed the replay check joins the relay's ids. -/
theorem IdsInv.relayed {device : Device} (inv : IdsInv device) (raw : Bytes) {pkt : YkpPacket}
    (nonzero : pkt.header.packetId ≠ 0)
    (registered : ∃ accepted, device.replay.Tracks accepted ∧
      pkt.header.packetId :: relayIds device.log ⊆ accepted) :
    IdsInv (device.record (.dispatched .relay raw pkt)) := by
  -- The command is the newest entry of the current session.
  have relays : relayIds (device.record (.dispatched .relay raw pkt)).log =
      pkt.header.packetId :: relayIds device.log := by
    rw [Device.record, relayIds, since_cons_inside _ rfl]
    rfl
  have wire : wireIds (device.record (.dispatched .relay raw pkt)).log = wireIds device.log := by
    rw [Device.record, wireIds, since_cons_inside _ rfl]
    rfl
  refine ⟨inv.counter, inv.idle, wire ▸ inv.unique, ?_, relays ▸ registered, ?_⟩
  · rw [wire, relays]
    intro packetId member
    exact (inv.sources packetId member).imp id (List.mem_cons_of_mem _)
  · rw [relays]
    simpa [eq_comm] using ⟨nonzero, inv.nonzero⟩

/-- The id of a parsed packet has 32 bits. -/
theorem parsed_packetId_lt {raw : Bytes} {pkt : YkpPacket}
    (parsed : ykpPacketParse raw = some pkt) : pkt.header.packetId < 4294967296 := by
  unfold ykpPacketParse at parsed
  dsimp only at parsed
  -- However the payload is stored, the id was read from four bytes.
  split_ifs at parsed
  all_goals
    rw [← Option.some.inj parsed]
    exact readU32_lt _ _

/-- A packet of a service keeps the invariant unless it is answered without a number, or the relay
acknowledges it under a number that the counter has put on the wire. -/
theorem IdsInv.dispatch {crypto : DeviceCrypto} {env : DeviceEnv} {device : Device}
    (inv : IdsInv device) (raw : Bytes) {pkt : YkpPacket} (small : pkt.header.packetId < 4294967296)
    (nonzero : pkt.header.packetId ≠ 0)
    (registered : ∃ accepted, device.replay.Tracks accepted ∧
      pkt.header.packetId :: relayIds device.log ⊆ accepted)
    (numbered : answersUnnumbered crypto env device pkt = false)
    (new : Service.ofByte pkt.header.serviceId = some .relay →
      acknowledges env device.relayState pkt.header.actionId = true →
        pkt.header.packetId ∉ wireIds device.log) :
    IdsInv (Firmware.dispatch crypto env raw pkt device) := by
  -- Only the relay echoes ids.
  by_cases relay : Service.ofByte pkt.header.serviceId = some .relay
  · have handed := inv.relayed raw nonzero registered
    have emits := relayServiceHandle_emits env (device.record (.dispatched .relay raw pkt))
      pkt.header.actionId small pkt.header.sessionId pkt.header.sourceId
    unfold Firmware.dispatch
    rw [relay]
    -- Handing the command over puts nothing on the wire and makes its id a source.
    refine handed.one emits (new relay) (.inr ?_)
    rw [Device.record, relayIds, since_cons_inside _ rfl]
    exact List.mem_cons_self
  · exact inv.quiet (dispatch_emits raw numbered relay)

/-- A packet behind the replay check keeps the invariant under the conditions on its service. -/
theorem IdsInv.admitted {crypto : DeviceCrypto} {env : DeviceEnv} {device : Device} {raw : Bytes}
    {pkt : YkpPacket} (inv : IdsInv device) (parsed : ykpPacketParse raw = some pkt)
    (fresh : (ykpReplayCheck device.replay pkt.header.packetId).1 = true)
    (numbered : ∀ taken ∈ openedBy crypto device.secCtx.session raw pkt,
      answersUnnumbered crypto env device taken = false)
    (echoed : ∀ taken ∈ openedBy crypto device.secCtx.session raw pkt,
      Service.ofByte taken.header.serviceId = some .relay →
        acknowledges env device.relayState taken.header.actionId = true →
          1 < taken.header.packetId → taken.header.packetId ≤ device.session.packetCounter →
            taken.header.packetId ∉ wireIds device.log) :
    IdsInv (openAndDispatch crypto env raw pkt
      { device with replay := (ykpReplayCheck device.replay pkt.header.packetId).2 }) := by
  let checked : Device :=
    { device with replay := (ykpReplayCheck device.replay pkt.header.packetId).2 }
  obtain ⟨opening, silent, opens⟩ := openAndDispatch_opened crypto env raw pkt checked
  let opened : Device := { checked with log := opening ++ checked.log }
  have emits : Emits checked opened [] :=
    ⟨rfl, rfl, rfl, opening, rfl, List.filterMap_eq_nil_iff.mpr fun event member =>
      (silent event member).2, fun event member => (silent event member).1⟩
  have inv' : IdsInv opened := (inv.checked pkt.header.packetId).quiet emits
  -- A payload that cannot be opened ends the matter.
  rw [opens]
  cases taking : openedBy crypto checked.secCtx.session raw pkt with
  | none => exact inv'
  | some taken =>
    have header := openedBy_header taking
    obtain ⟨accepted, tracks, registered⟩ := inv.registered
    obtain ⟨exact_, next⟩ := ykpReplayCheck_refines pkt.header.packetId tracks
    rw [if_pos fresh] at next
    obtain ⟨nonzero, unseen, -⟩ := exact_.mp fresh
    have relays : relayIds opened.log = relayIds device.log := emits.relays
    have wire : wireIds opened.log = wireIds device.log := emits.wire
    apply inv'.dispatch
    · rw [header]
      exact parsed_packetId_lt parsed
    · rw [header]
      exact nonzero
    · refine ⟨_, next, ?_⟩
      rw [header, relays]
      exact List.cons_subset_cons _ registered
    · exact numbered taken taking
    · intro relay acks member
      rw [wire] at member
      -- An id that the window has not seen is on the wire only as a number of the counter.
      rcases inv.sources _ member with ⟨low, high⟩ | relayed
      · exact echoed taken taking relay acks low high member
      · rw [header] at relayed
        exact unseen (registered relayed)

/-- A packet for a service keeps the invariant. -/
theorem IdsInv.data {crypto : DeviceCrypto} {env : DeviceEnv} {device : Device} {bytes : Bytes}
    {pkt : YkpPacket} (inv : IdsInv device) (running : device.running = true)
    (apart : KeepsApart crypto device (.packet bytes, env))
    (parsed : ykpPacketParse (bytes.take (bytes.length % 2 ^ 16)) = some pkt)
    (data : IsData pkt) :
    IdsInv (Firmware.handleData crypto env (bytes.take (bytes.length % 2 ^ 16)) pkt device) := by
  unfold Firmware.handleData
  -- The session is not active, the id is a replay, or the packet is opened.
  split
  · exact inv
  · rename_i active
    dsimp only
    split
    · exact inv.checked pkt.header.packetId
    · rename_i fresh
      have active : ykpSessionIsActive device.session = true := by simpa using active
      have fresh : (ykpReplayCheck device.replay pkt.header.packetId).1 = true := by
        simpa using fresh
      -- What is opened is what the event hands to a service.
      have takes : served crypto device (.packet bytes) =
          openedBy crypto device.secCtx.session (bytes.take (bytes.length % 2 ^ 16)) pkt := by
        simp only [served, running, received, parsed, if_true, Option.map_some, Option.bind_some]
        exact if_pos ⟨data, active, fresh⟩
      refine inv.admitted parsed fresh (fun taken taking => ?_)
        (fun taken taking relay acks low high => ?_)
      · have none := apart.numbered
        simp only [sendsUnnumbered, takes] at none
        rw [taking] at none
        exact none
      · refine apart.echoed taken.header.packetId ?_ low high
        rw [echoedId, takes, taking]
        exact if_pos ⟨relay, acks⟩

/-- One event that keeps the ids apart keeps the invariant. -/
theorem IdsInv.step {crypto : DeviceCrypto} {device : Device} {input : DeviceInput × DeviceEnv}
    (inv : IdsInv device) (apart : KeepsApart crypto device input) :
    IdsInv (deviceStep crypto device input) := by
  obtain ⟨input, env⟩ := input
  have room := apart.room
  -- A firmware that no longer runs handles nothing.
  unfold deviceStep
  cases running : device.running with
  | false => exact inv
  | true =>
    rw [Bool.not_true, if_neg Bool.false_ne_true]
    cases input with
    | packet bytes =>
      dsimp only
      split
      · exact inv
      · unfold handleIncomingPacket
        split
        · exact inv
        · rename_i pkt parsed
          split
          · -- An acknowledgement finds nothing that waits.
            exact ⟨inv.counter, inv.idle.ack _ _, inv.unique, inv.sources, inv.registered,
              inv.nonzero⟩
          · rename_i acknowledgement
            split
            · exact inv.security room pkt
            · rename_i other
              exact inv.data running apart parsed ⟨not_ne_iff.mp acknowledgement, other⟩
    | wsConnected => exact inv.handshakes room (sendHello_handshakes env device)
    | wsDisconnected => exact inv.reset
    | rotationCheck =>
      show IdsInv (mainLoopRotation env device)
      unfold mainLoopRotation
      split
      · exact inv.reset.handshakes (show 1 + 1 < 2 ^ 32 by decide) (sendHello_handshakes env _)
      · exact inv
    | healthCheck =>
      refine inv.quiet (mainLoopHealth_emits fun due active => ?_)
      have none := apart.numbered
      simpa [sendsUnnumbered, running, due, active] using none
    | button =>
      refine inv.button room fun sent => apart.pressed ?_
      rw [acknowledgesPress, running, sent]
      rfl
    | qosTimer =>
      show IdsInv (List.foldl (ykpSendPacket env) _ (ykpQosTick device.qos env.nowUs).1)
      rw [ykpQosTick_idle inv.idle]
      exact ⟨inv.counter, inv.idle.tick _, inv.unique, inv.sources, inv.registered, inv.nonzero⟩

/-- In every run whose events keep the ids apart, the packet ids that the device has put on the wire
in the current session, handshake packets left out, are fresh. -/
theorem wire_ids_fresh (crypto : DeviceCrypto) (deviceId : DeviceId)
    (inputs : List (DeviceInput × DeviceEnv))
    (apart : Machine.Always (deviceStep crypto) (KeepsApart crypto) (bootDevice deviceId) inputs) :
    FreshIds (wireIds (deviceRun crypto deviceId inputs).log) := by
  have initial : IdsInv (bootDevice deviceId) :=
    ⟨Nat.le_refl 1, waiting_init, List.nodup_nil, by simp [bootDevice, wireIds],
      ⟨[], Firmware.tracks_reset, List.nil_subset _⟩, by simp [bootDevice, relayIds]⟩
  have inv : IdsInv (deviceRun crypto deviceId inputs) :=
    Machine.invariant_run (fun _ _ inv apart => inv.step apart) initial apart
  -- An id is a number above one, or one that the replay window has accepted.
  refine freshIds_of_nodup (fun member => ?_) inv.unique
  rcases inv.sources 0 member with ⟨low, -⟩ | relayed
  · omega
  · exact inv.nonzero relayed

/-- A SESSION_ACTIVE, a command for the relay under the id five, and a press of the button. -/
def commandThenPress : List (DeviceInput × DeviceEnv) :=
  [(.packet (barePacket 1 .security SecAction.sessionActive.byte), sampleEnv),
    (.packet (barePacket 5 .relay RelayAction.on.byte), sampleEnv), (.button, sampleEnv)]

set_option maxRecDepth 4000 in
theorem wire_ids_fresh_sample :
    FreshIds (wireIds (deviceRun tagless sampleDevice commandThenPress).log) :=
  wire_ids_fresh tagless sampleDevice commandThenPress (by decide +kernel)

/-- A SESSION_ACTIVE, and a request for the sensors behind it. -/
def activeThenSensor : List (DeviceInput × DeviceEnv) :=
  [(.packet (barePacket 1 .security SecAction.sessionActive.byte), sampleEnv),
    (.packet (barePacket 2 .sensor SensorAction.report.byte), sampleEnv)]

/-- A SESSION_ACTIVE, a press of the button, and the server's second packet, a command. -/
def pressThenCommand : List (DeviceInput × DeviceEnv) :=
  [(.packet (barePacket 1 .security SecAction.sessionActive.byte), sampleEnv), (.button, sampleEnv),
    (.packet (barePacket 2 .relay RelayAction.on.byte), sampleEnv)]

set_option maxRecDepth 4000 in
/-- A sensor report carries the reserved id zero, and a command may be acknowledged under the number
of a button press. -/
theorem wire_ids_not_fresh :
    ¬ FreshIds (wireIds (deviceRun tagless sampleDevice activeThenSensor).log) ∧
      ¬ FreshIds (wireIds (deviceRun tagless sampleDevice pressThenCommand).log) := by
  have zero : 0 ∈ wireIds (deviceRun tagless sampleDevice activeThenSensor).log := by
    decide +kernel
  have twice : ¬ (wireIds (deviceRun tagless sampleDevice pressThenCommand).log).Nodup := by
    decide +kernel
  exact ⟨fun fresh => fresh.nonzero zero, fun fresh => twice fresh.unique⟩

end Ykp.System
