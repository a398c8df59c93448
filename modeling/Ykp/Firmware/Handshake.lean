import Ykp.Firmware.CommandGate

/-! When the firmware's session is active: the handshake over whole runs of events. -/

namespace Ykp.Firmware

open History

/-- The entry behind which the handshake starts over. -/
def startsOver (event : DeviceEvent) : Bool := event == .sessionReset

/-- The entries since the last reset of the session, or since boot. -/
def handshake (log : List DeviceEvent) : List DeviceEvent := since startsOver log

/-- A HELLO was sent. -/
def DeviceEvent.HelloSent (event : DeviceEvent) : Prop :=
  event.SentAs .security SecAction.hello.byte

/-- An ECDH_RESPONSE was sent. -/
def DeviceEvent.ResponseSent (event : DeviceEvent) : Prop :=
  event.SentAs .security SecAction.ecdhResponse.byte

/-- A session key was derived. -/
def DeviceEvent.KeyDerived (event : DeviceEvent) : Prop :=
  ∃ serverPub nonce sessionId, event = .derived serverPub nonce sessionId true

/-- Since the last reset a HELLO was sent, then a session key derived, then an ECDH_RESPONSE sent, and
the session keys are active. -/
structure Authenticated (device : Device) : Prop where
  keys : device.secCtx.session.active = true
  stages : Reached [DeviceEvent.ResponseSent, DeviceEvent.KeyDerived, DeviceEvent.HelloSent]
    (handshake device.log)

/-- What the session state and the session keys say about the log. -/
structure HandshakeInv (device : Device) : Prop where
  hello : device.session.state ≠ .idle → Reached [DeviceEvent.HelloSent] (handshake device.log)
  derived : device.secCtx.session.active = true →
    Reached [DeviceEvent.KeyDerived, DeviceEvent.HelloSent] (handshake device.log)
  answered : device.session.state = .ecdhSent → device.secCtx.session.active = true →
    Authenticated device
  active : device.session.state = .active → Authenticated device

/-- A CHALLENGE comes after a HELLO, and not as a second one whose response cannot be sent while no
key is active; a SESSION_ACTIVE comes to an active session or behind an ECDH_RESPONSE with a key. -/
structure InOrder (device : Device) (input : DeviceInput × DeviceEnv) : Prop where
  challenge : device.action input.1 = some .challenge → device.session.state ≠ .idle
  response : device.action input.1 = some .challenge → device.session.state = .ecdhSent →
    device.secCtx.session.active = false →
    input.2.signature ≠ none ∧ input.2.allocOk = true
  sessionActive : device.action input.1 = some .sessionActive →
    device.session.state = .active ∨
      device.session.state = .ecdhSent ∧ device.secCtx.session.active = true

instance (device : Device) (input : DeviceInput × DeviceEnv) : Decidable (InOrder device input) :=
  decidable_of_iff (_ ∧ _ ∧ _)
    ⟨fun ⟨challenge, response, active⟩ => ⟨challenge, response, active⟩,
      fun inOrder => ⟨inOrder.challenge, inOrder.response, inOrder.sessionActive⟩⟩

/-- An entry other than a reset joins the current handshake. -/
theorem handshake_cons {log older : List DeviceEvent} {event : DeviceEvent}
    (logged : log = event :: older) (inside : startsOver event = false) :
    handshake log = event :: handshake older := by
  rw [handshake, logged, since_cons_inside _ inside, handshake]

/-- Entries on top of the log keep the invariant while the session is what it was. -/
theorem HandshakeInv.extend {before after : Device} {newer : List DeviceEvent}
    (inv : HandshakeInv before) (state : after.session.state = before.session.state)
    (keys : after.secCtx.session.active = before.secCtx.session.active)
    (logged : after.log = newer ++ before.log)
    (inside : ∀ event ∈ newer, startsOver event = false) : HandshakeInv after := by
  have extended : handshake after.log = newer ++ handshake before.log := by
    rw [handshake, logged, since_append_inside _ inside, handshake]
  have kept (authenticated : Authenticated before) : Authenticated after :=
    ⟨keys.trans authenticated.keys, extended ▸ authenticated.stages.append newer⟩
  -- Each part of the invariant asks for stages that are still there below the new entries.
  refine ⟨fun moving => ?_, fun active => ?_, fun sent active => ?_, fun active => ?_⟩
  · exact extended ▸ (inv.hello (state ▸ moving)).append newer
  · exact extended ▸ (inv.derived (keys ▸ active)).append newer
  · exact kept (inv.answered (state ▸ sent) (keys ▸ active))
  · exact kept (inv.active (state ▸ active))

/-- Entries about sending are inside a handshake. -/
theorem DeviceEvent.Quiet.inside {event : DeviceEvent} (quiet : event.Quiet) :
    startsOver event = false := by
  cases event <;> first | rfl | exact quiet.elim

theorem HandshakeInv.unmoved {before after : Device} (inv : HandshakeInv before)
    (same : Unmoved before after) : HandshakeInv after := by
  obtain ⟨newer, logged, quiet⟩ := same.log
  exact inv.extend same.state (by rw [same.keys]) logged fun event member => (quiet event member).inside

/-- A HELLO takes the session back behind the stages that need an answer. -/
theorem HandshakeInv.hello_sent {before after : Device} (inv : HandshakeInv before)
    (sent : Sent .hello .helloSent before after) : HandshakeInv after := by
  obtain ⟨event, logged, quiet, hello⟩ := sent.log
  have extended := handshake_cons logged quiet.inside
  have keys : after.secCtx.session.active = before.secCtx.session.active := by rw [sent.keys]
  -- In the state of a HELLO nothing is asked of a response or of an active session.
  refine ⟨fun _ => ?_, fun active => ?_, fun answered => ?_, fun active => ?_⟩
  · exact extended ▸ .push hello trivial
  · exact extended ▸ (inv.derived (keys ▸ active)).cons event
  · exact absurd (sent.state.symm.trans answered) (by decide)
  · exact absurd (sent.state.symm.trans active) (by decide)

/-- A reset leaves no stage behind, and asks for none. -/
theorem handshakeInv_reset (device : Device) : HandshakeInv device.resetSession := by
  have sent : SessionState.idle ≠ .ecdhSent := by decide
  have active : SessionState.idle ≠ .active := by decide
  exact ⟨absurd rfl, fun keys => absurd keys Bool.false_ne_true, (absurd · sent), (absurd · active)⟩

/-- A response is the last stage once a key was derived. -/
theorem handshakeInv_answered {before after : Device}
    (hello : Reached [DeviceEvent.HelloSent] (handshake before.log))
    (derived : before.secCtx.session.active = true →
      Reached [DeviceEvent.KeyDerived, DeviceEvent.HelloSent] (handshake before.log))
    (sent : Sent .ecdhResponse .ecdhSent before after) : HandshakeInv after := by
  obtain ⟨event, logged, quiet, response⟩ := sent.log
  have extended := handshake_cons logged quiet.inside
  have keys : after.secCtx.session.active = before.secCtx.session.active := by rw [sent.keys]
  -- With a key the response completes the stages; without one the invariant asks for none.
  refine ⟨fun _ => ?_, fun active => ?_, fun _ active => ⟨active, ?_⟩, fun active => ?_⟩
  · exact extended ▸ hello.cons event
  · exact extended ▸ (derived (keys ▸ active)).cons event
  · exact extended ▸ .push response (derived (keys ▸ active))
  · exact absurd (sent.state.symm.trans active) (by decide)

/-- A derivation adds the stage of the key when it succeeds, and takes none back. -/
theorem HandshakeInv.derived_stages {before after : Device} (inv : HandshakeInv before)
    (moving : before.session.state ≠ .idle) (derived : Derived before after) :
    Reached [DeviceEvent.HelloSent] (handshake after.log) ∧
      (after.secCtx.session.active = true →
        Reached [DeviceEvent.KeyDerived, DeviceEvent.HelloSent] (handshake after.log)) := by
  obtain ⟨serverPub, nonce, sessionId, ok, logged, keys⟩ := derived.log
  have extended := handshake_cons logged rfl
  refine ⟨extended ▸ (inv.hello moving).cons _, fun active => ?_⟩
  rw [extended]
  -- A derivation that failed leaves the key, and so its stages, as they were.
  cases ok with
  | true => exact .push ⟨serverPub, nonce, sessionId, rfl⟩ (inv.hello moving)
  | false => exact (inv.derived (keys.symm.trans active)).cons _

/-- A CHALLENGE in order keeps the invariant. -/
theorem HandshakeInv.challenge {before after : Device} {env : DeviceEnv}
    (inv : HandshakeInv before) (moving : before.session.state ≠ .idle)
    (sendable : before.session.state = .ecdhSent → before.secCtx.session.active = false →
      env.signature ≠ none ∧ env.allocOk = true)
    (answered : Answered env before after) : HandshakeInv after := by
  -- The CHALLENGE was dropped, answered without a new key, or answered behind a derivation.
  rcases answered with same | sent | ⟨middle, derived, ⟨unsent, rfl⟩ | sent⟩
  · exact inv.unmoved same
  · exact handshakeInv_answered (inv.hello moving) inv.derived sent
  · -- Without a response the state stays, so its stages must have been there before.
    obtain ⟨hello, keyed⟩ := inv.derived_stages moving derived
    obtain ⟨serverPub, nonce, sessionId, ok, logged, keys⟩ := derived.log
    have extended := handshake_cons logged rfl
    have kept (authenticated : Authenticated before) : Authenticated after :=
      ⟨by rw [keys, authenticated.keys, Bool.or_true], extended ▸ authenticated.stages.cons _⟩
    refine ⟨fun _ => hello, keyed, fun sent _ => ?_, fun active => ?_⟩
    · have before_sent := derived.state.symm.trans sent
      cases active : before.secCtx.session.active with
      | true => exact kept (inv.answered before_sent active)
      | false =>
        obtain ⟨signed, allocated⟩ := sendable before_sent active
        -- The condition rules out both reasons for a response that is not sent.
        rcases unsent with unsigned | full
        · exact absurd unsigned signed
        · exact absurd (full.symm.trans allocated) (by decide)
    · exact kept (inv.active (derived.state.symm.trans active))
  · obtain ⟨hello, keyed⟩ := inv.derived_stages moving derived
    exact handshakeInv_answered hello keyed sent

/-- Entries of an opened and dispatched packet are inside a handshake. -/
theorem Admitted.inside {crypto : DeviceCrypto} {raw : Bytes} {pkt : YkpPacket}
    {before after : Device} (admitted : Admitted crypto raw pkt before after) :
    ∃ newer, after.log = newer ++ before.log ∧ ∀ event ∈ newer, startsOver event = false := by
  obtain ⟨opening, result, newer, opened, entries, logged⟩ := admitted.log
  refine ⟨newer ++ opening, by rw [logged, List.append_assoc], fun event member => ?_⟩
  -- An entry stems from the dispatch or from opening the packet.
  rcases List.mem_append.mp member with recent | old
  · rcases entries with rfl | ⟨_, _, quiet, -, -, rfl, silent⟩
    · cases recent
    · rcases List.mem_append.mp recent with noise | last
      · exact (silent event noise).inside
      · rw [List.mem_singleton.mp last]
        rfl
  · cases opened with
    | plain => cases old
    | tagRight | tagWrong =>
      rw [List.mem_singleton.mp old]
      rfl

/-- One event in order keeps the invariant. -/
theorem deviceStep_handshakeInv (crypto : DeviceCrypto) (device : Device)
    (input : DeviceInput × DeviceEnv) (inv : HandshakeInv device)
    (inOrder : InOrder device input) : HandshakeInv (deviceStep crypto device input) := by
  -- Only a CHALLENGE and a SESSION_ACTIVE need the condition.
  cases deviceStep_moves crypto device input with
  | unmoved same => exact inv.unmoved same
  | hello sent => exact inv.hello_sent sent
  | reset same => exact (handshakeInv_reset device).unmoved same
  | restarted sent => exact (handshakeInv_reset device).hello_sent sent
  | challenge asked answered =>
    exact inv.challenge (inOrder.challenge asked) (inOrder.response asked) answered
  | sessionActive asked activated =>
    obtain ⟨sessionId, logged⟩ := activated.log
    -- The session was active before, or the response to the CHALLENGE was sent with a key.
    have authenticated : Authenticated device := by
      rcases inOrder.sessionActive asked with active | ⟨sent, keys⟩
      · exact inv.active active
      · exact inv.answered sent keys
    have moving : device.session.state ≠ .idle := by
      rcases inOrder.sessionActive asked with active | ⟨sent, -⟩
      · exact active ▸ by decide
      · exact sent ▸ by decide
    have extended := handshake_cons logged rfl
    refine ⟨fun _ => ?_, fun keys => ?_, fun sent => ?_, fun _ => ⟨?_, ?_⟩⟩
    · exact extended ▸ (inv.hello moving).cons _
    · exact extended ▸ (inv.derived (activated.keys ▸ keys)).cons _
    · exact absurd (activated.state.symm.trans sent) (by decide)
    · exact activated.keys.trans authenticated.keys
    · exact extended ▸ authenticated.stages.cons _
  | rejected _ _ _ _ same =>
    rw [same]
    exact inv.extend rfl rfl (List.nil_append _).symm (by simp)
  | admitted _ _ _ _ admitted =>
    obtain ⟨newer, logged, inside⟩ := admitted.inside
    exact inv.extend admitted.state (by rw [admitted.keys]) logged inside

/-- Over every run whose CHALLENGEs and SESSION_ACTIVEs come in order, an active session was
authenticated: since the last reset a HELLO was sent, a session key derived and an ECDH_RESPONSE
sent, in that order. -/
theorem active_authenticated (crypto : DeviceCrypto) (deviceId : DeviceId)
    (inputs : List (DeviceInput × DeviceEnv))
    (inOrder : Machine.Always (deviceStep crypto) InOrder (bootDevice deviceId) inputs)
    (active : (deviceRun crypto deviceId inputs).session.state = .active) :
    Authenticated (deviceRun crypto deviceId inputs) := by
  -- At boot the session is idle and holds no key.
  have initial : HandshakeInv (bootDevice deviceId) := by
    have sent : SessionState.idle ≠ .ecdhSent := by decide
    have active : SessionState.idle ≠ .active := by decide
    exact ⟨absurd rfl, fun keys => absurd keys Bool.false_ne_true, (absurd · sent),
      (absurd · active)⟩
  have inv : HandshakeInv (deviceRun crypto deviceId inputs) :=
    Machine.invariant_run (deviceStep_handshakeInv crypto) initial inOrder
  exact inv.active active

/-- A CHALLENGE with a nonce and a public key. -/
def sampleChallenge : Bytes :=
  let payload := ((TlvBuilder.new.addBytes .nonce (List.replicate 16 3)).addBytes .publicKey
    (List.replicate 65 4)).build
  headerBytes (bareHeader 1 .security SecAction.challenge.byte) payload.length ++
    (payload ++ List.replicate ykpAuthTagSize 0)

/-- A handshake in order. -/
def sampleHandshake : List (DeviceInput × DeviceEnv) :=
  [(.wsConnected, sampleEnv), (.packet sampleChallenge, sampleEnv),
    (.packet (barePacket 2 .security SecAction.sessionActive.byte), sampleEnv)]

theorem active_authenticated_sample :
    Authenticated (deviceRun tagless sampleDevice sampleHandshake) :=
  active_authenticated tagless sampleDevice sampleHandshake (by decide +kernel) (by decide +kernel)

/-- A SESSION_ACTIVE right after boot makes the session active without any handshake. -/
theorem active_without_handshake :
    let device := deviceRun tagless sampleDevice
      [(.packet (barePacket 1 .security SecAction.sessionActive.byte), sampleEnv)]
    device.session.state = .active ∧ ¬ Authenticated device := by
  refine ⟨by decide +kernel, fun authenticated => ?_⟩
  exact absurd authenticated.keys (by decide +kernel)

end Ykp.Firmware
