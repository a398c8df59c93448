import Ykp.Backend.Authentication

/-! Which keys payloads are encrypted with: placeholders of pending sessions, or derived keys. -/

namespace Ykp.Backend

/-- The key of a session was derived when the session became active. -/
def Established (crypto : ServerCrypto) (session : DeviceSession) : Prop :=
  session.state = .active ∧ deriveSessionKey crypto session.ephemeralPriv session.clientPubKey
    session.nonce session.sessionId = some session.sessionKey

/-- A payload is encrypted only with an established key. -/
def EncryptsEstablished (crypto : ServerCrypto) : ServerEvent → Prop
  | .encrypted _ session _ _ _ => Established crypto session
  | _ => True

/-- Every session is pending, or active with an established key. -/
def KeyInv (crypto : ServerCrypto) (registry : Registry) : Prop :=
  ∀ deviceId session, registry.sessions deviceId = some session →
    session.state = .hello ∨ Established crypto session

/-- An update is announced to a device without session or with an active one, unless the announcement
or its packet cannot be built. -/
def AnnouncesActive (server : Server) : ServerInput → Prop
  | .otaStart job _ => otaBeginPayload job ≠ none → ∀ session ∈ server.sessions job.deviceId,
    session.Fits → session.state = .active
  | _ => True

instance (session : DeviceSession) : Decidable session.Fits := inferInstanceAs (Decidable (_ ∧ _))

instance (server : Server) (input : ServerInput) : Decidable (AnnouncesActive server input) := by
  unfold AnnouncesActive
  split <;> infer_instance

/-- A session that is touched keeps the invariant. -/
theorem KeyInv.touch {crypto : ServerCrypto} {registry : Registry} {deviceId : JsString}
    {session changed : DeviceSession} (inv : KeyInv crypto registry)
    (found : registry.sessions deviceId = some session) (touched : session.Touched changed) :
    KeyInv crypto (registry.setSession deviceId (some changed)) := by
  obtain ⟨guard, counter, rfl⟩ := touched
  exact forall_setSession (inv deviceId session found) inv

/-- One event keeps the invariant, whatever it is. -/
theorem Moved.keyInv {crypto : ServerCrypto} {before : Server} {input : ServerInput}
    {newer : List ServerEvent} {registry : Registry}
    (moved : Moved crypto before input newer registry) (inv : KeyInv crypto before.registry) :
    KeyInv crypto registry := by
  -- A session is created with a placeholder, and gets its key when it is activated.
  cases moved with
  | settled => exact inv
  | helloReceived => exact inv
  | created => exact forall_setSession (.inl rfl) inv
  | activated _ _ _ _ derived => exact forall_setSession (.inr ⟨rfl, derived⟩) inv
  | filtered _ _ _ found => exact inv.touch found (touched_checked _ _ _)
  | dispatched _ _ _ found => exact inv.touch found (touched_checked _ _ _)
  | counted found => exact inv.touch found (touched_count _)
  | closed => exact forall_dropSession inv

theorem ServerEvent.Quiet.encryptsNothing {crypto : ServerCrypto} {event : ServerEvent}
    (quiet : event.Quiet) : EncryptsEstablished crypto event := by
  cases event <;> trivial

/-- Only the announcement of an update encrypts. -/
theorem Moved.encryptsNothing {crypto : ServerCrypto} {before : Server} {input : ServerInput}
    {newer : List ServerEvent} {registry : Registry}
    (moved : Moved crypto before input newer registry)
    (other : ∀ job drawn, input ≠ .otaStart job drawn) :
    ∀ event ∈ newer, EncryptsEstablished crypto event := by
  -- Case by case nothing but quiet entries, or entries of another kind.
  cases moved with
  | settled quiet => exact fun event member => (quiet event member).encryptsNothing
  | helloReceived => exact List.forall_mem_singleton.mpr trivial
  | created => exact forall_created (fun _ quiet => quiet.encryptsNothing) trivial
  | activated => simp [EncryptsEstablished]
  | filtered _ _ _ _ _ quiet => exact fun event member => (quiet event member).encryptsNothing
  | dispatched _ _ _ _ _ _ _ quiet =>
    exact List.forall_mem_cons.mpr
      ⟨trivial, fun event member => (quiet event member).encryptsNothing⟩
  | counted _ quiet seals =>
    -- Only the start of an update would have sealed something.
    exact forall_counted (fun _ quiet => quiet.encryptsNothing) quiet seals
      fun job drawn _ _ _ starts => absurd starts (other job drawn)
  | closed => exact List.forall_mem_nil _

/-- The payload that announces an update is not empty. -/
theorem otaBeginPayload_ne_nil {job : OtaJob} {payload : Bytes}
    (built : otaBeginPayload job = some payload) : payload ≠ [] := by
  simp only [otaBeginPayload, Option.bind_eq_bind, Option.bind_eq_some_iff, Option.pure_def,
    Option.some.injEq] at built
  obtain ⟨_, -, _, -, b, -, rfl⟩ := built
  simp [TlvBuilder.build]

/-- Entries that encrypt nothing do not matter. -/
theorem encrypts_append {crypto : ServerCrypto} {newer log : List ServerEvent}
    (nothing : ∀ event ∈ newer, EncryptsEstablished crypto event) :
    (∀ event ∈ newer ++ log, EncryptsEstablished crypto event) ↔
      ∀ event ∈ log, EncryptsEstablished crypto event := by
  rw [List.forall_mem_append]
  exact and_iff_right nothing

/-- The announcement of an update to a device with a session. -/
theorem announce_encrypts_iff (crypto : ServerCrypto) {server : Server} {job : OtaJob}
    {payload : Bytes} {session : DeviceSession} (built : otaBeginPayload job = some payload)
    (found : server.sessions job.deviceId = some session) (inv : KeyInv crypto server.registry)
    {opts : BuildPacketOptions} (carries : opts.payload = some payload) :
    (∀ event ∈ (sendYkpPacket crypto server job.deviceId opts).log,
        EncryptsEstablished crypto event) ↔
      (∀ event ∈ server.log, EncryptsEstablished crypto event) ∧
        (session.Fits → session.state = .active) := by
  obtain ⟨-, newer, sealed, logged, quiet, seals⟩ := sendYkpPacket_session crypto found opts
  rw [logged, encrypts_append fun event member => (quiet event member).encryptsNothing]
  -- Nothing is sealed without a payload, or under a key that does not fit the cipher.
  rcases seals with ⟨empty | unfit, rfl⟩ | ⟨-, fits, aad, rfl⟩
  · rw [carries] at empty
    exact absurd empty (otaBeginPayload_ne_nil built)
  · rw [List.nil_append]
    exact (and_iff_left fun fits => absurd fits unfit).symm
  · -- The one encryption is under this session's key, which is established when it is active.
    have established : Established crypto session ↔ (session.Fits → session.state = .active) := by
      refine ⟨fun known _ => known.1, fun active => ?_⟩
      rcases inv _ session found with pending | known
      · exact absurd (pending.symm.trans (active fits)) (by decide)
      · exact known
    rw [List.singleton_append, List.forall_mem_cons, ← established]
    exact and_comm

/-- One event leaves all encryption under established keys exactly when an update is announced to an
active session. -/
theorem serverStep_encrypts_iff (crypto : ServerCrypto) (server : Server) (input : ServerInput)
    (inv : KeyInv crypto server.registry) :
    (∀ event ∈ (serverStep crypto server input).log, EncryptsEstablished crypto event) ↔
      (∀ event ∈ server.log, EncryptsEstablished crypto event) ∧ AnnouncesActive server input := by
  -- Every event but the start of an update encrypts nothing, and the condition asks nothing of it.
  have other (distinct : ∀ job drawn, input ≠ .otaStart job drawn)
      (free : AnnouncesActive server input) :
      (∀ event ∈ (serverStep crypto server input).log, EncryptsEstablished crypto event) ↔
        (∀ event ∈ server.log, EncryptsEstablished crypto event) ∧ AnnouncesActive server input := by
    obtain ⟨newer, logged, moved⟩ := serverStep_moves crypto server input
    rw [logged, encrypts_append (moved.encryptsNothing distinct)]
    exact (and_iff_left free).symm
  cases input with
  | otaStart job drawn =>
    -- A job with a number that does not fit its field announces nothing.
    cases built : otaBeginPayload job with
    | none =>
      have idle : serverStep crypto server (.otaStart job drawn) = server := by
        simp only [serverStep, built]
      rw [idle]
      exact (and_iff_left fun some => absurd built some).symm
    | some payload =>
      let opts := commandPacket job.deviceId drawn Service.ota.byte.toNat
        OtaAction.begin.byte.toNat (some payload)
      have sends : serverStep crypto server (.otaStart job drawn) =
          sendYkpPacket crypto server job.deviceId opts := by
        simp only [serverStep, built, opts]
      have carries : opts.payload = some payload := rfl
      rw [sends]
      -- Without a session the announcement is not encrypted.
      cases found : server.sessions job.deviceId with
      | none =>
        obtain ⟨-, newer, logged, quiet⟩ := sendYkpPacket_without crypto found opts
        rw [logged, encrypts_append fun event member => (quiet event member).encryptsNothing]
        exact (and_iff_left fun _ session holds => by simp [found] at holds).symm
      | some session =>
        have announced := announce_encrypts_iff crypto built found inv carries
        simpa [AnnouncesActive, built, found] using announced
  | _ => exact other (by simp) trivial

/-- Over every run, payloads are encrypted only with derived keys of active sessions exactly when
every update is announced to a device whose session, if it has one, is active. -/
theorem encrypts_established_iff (crypto : ServerCrypto) (inputs : List ServerInput) :
    (∀ event ∈ (serverRun crypto inputs).log, EncryptsEstablished crypto event) ↔
      Machine.Always (serverStep crypto) AnnouncesActive startServer inputs := by
  have keeps (server : Server) (input : ServerInput) (inv : KeyInv crypto server.registry) :
      KeyInv crypto (serverStep crypto server input).registry := by
    obtain ⟨newer, -, moved⟩ := serverStep_moves crypto server input
    exact moved.keyInv inv
  have initial : KeyInv crypto startServer.registry := fun _ _ found => by cases found
  -- What holds of one event under the invariant is unrolled over the run.
  have unrolled := @Machine.always_iff_run _ _ _ _ (fun server => KeyInv crypto server.registry)
    (fun server => ∀ event ∈ server.log, EncryptsEstablished crypto event) AnnouncesActive keeps
    (serverStep_encrypts_iff crypto) inputs initial
  exact unrolled.trans (and_iff_right (by simp [startServer]))

/-- An update of the sample device. -/
def sampleJob : OtaJob where
  deviceId := sampleId
  firmwareVer := []
  firmwareSize := 1
  firmwareSha256 := List.replicate 32 0
  firmwareSig := List.replicate 64 0
  chunkSize := 1
  chunksTotal := 1

/-- A HELLO, and an update announced before it is answered. -/
def announcedEarly : List ServerInput :=
  [.connect 1 [], .message 1 (sampleHello 4), .resume 0 true sampleDraws, .otaStart sampleJob 7]

/-- The state of the session under whose key an entry encrypts. -/
def encryptedIn : ServerEvent → Option SessionState
  | .encrypted _ session _ _ _ => some session.state
  | _ => none

/-- The announcement is encrypted with the placeholder key. -/
theorem encrypted_with_placeholder :
    ¬ ∀ event ∈ (serverRun openCrypto announcedEarly).log,
      EncryptsEstablished openCrypto event := by
  intro all
  -- The entry that encrypts names the state its session was in.
  have pending : SessionState.hello ∈
      (serverRun openCrypto announcedEarly).log.filterMap encryptedIn := by
    have first : parsePacket (sampleHello 4) = some (sampleHelloPacket 4) := by decide +kernel
    simp only [serverRun, announcedEarly, Machine.run_cons, Machine.run_nil,
      serverStep_message openCrypto _ _ first]
    decide +kernel
  obtain ⟨event, member, found⟩ := List.mem_filterMap.mp pending
  have known := all event member
  cases event with
  | encrypted _ session _ _ _ =>
    have active := Option.some.inj found ▸ known.1
    exact absurd active (by decide)
  | _ => cases found

end Ykp.Backend
