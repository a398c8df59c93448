import Ykp.Firmware.ProvisionSteps

/-! The identity of a BLE session, over every order of connections, subscriptions and commands. -/

namespace Ykp.Firmware

section Identity

-- The digest the keys are derived with.
variable (sha256 : Bytes → Bytes)

/-- The session can be synchronised with: its id is not zero, and its key belongs to its id. -/
def ProvSession.Identified (session : ProvSession) : Prop :=
  session.sessionId ≠ 0 ∧ session.hmacKey = deriveHmacKey sha256 session.sessionId

/-- A phone that is subscribed finds a session it can synchronise with. -/
def Provision.IdentifiesToPhone (prov : Provision) : Prop :=
  prov.notifyEnabled = true → prov.session.Identified sha256

end Identity

/-- A subscription is handled only while no disconnect has been. -/
def SubscribesOnce (prov : Provision) : ProvInput → Prop
  | .subscribe isTx curNotify =>
    prov.clearing = false ∧ isTx = true ∧ curNotify = true → .cleared ∉ prov.log
  | _ => True

/-- The identity is the one from the start until a disconnect takes it away for good; from then on no
phone is subscribed. -/
structure IdentityKept (sha256 : Bytes → Bytes) (drawn : Nat) (prov : Provision) : Prop where
  fresh : .cleared ∉ prov.log →
    prov.core.sessionId = drawn ∧ prov.core.hmacKey = deriveHmacKey sha256 drawn
  gone : .cleared ∈ prov.log → prov.core.sessionId = 0 ∧ prov.core.notifyEnabled = false

variable {sha256 : Bytes → Bytes} {drawn : Nat} {prov : Provision}

/-- A step that neither clears the session nor subscribes leaves the identity as it was. -/
theorem IdentityKept.of_same (kept : IdentityKept sha256 drawn prov) {next : Provision}
    (history : ProvEvent.cleared ∈ next.log ↔ ProvEvent.cleared ∈ prov.log)
    (sessionId : next.core.sessionId = prov.core.sessionId)
    (hmacKey : next.core.hmacKey = prov.core.hmacKey)
    (notify : next.core.notifyEnabled = prov.core.notifyEnabled) :
    IdentityKept sha256 drawn next := by
  -- Both halves speak of the log and of three values, and all of these are as before.
  constructor
  · intro clean
    rw [sessionId, hmacKey]
    exact kept.fresh fun member => clean (history.mpr member)
  · intro dirty
    rw [sessionId, notify]
    exact kept.gone (history.mp dirty)

/-- As long as no phone subscribes after a disconnect, the identity is kept so. -/
theorem IdentityKept.step (kept : IdentityKept sha256 drawn prov) {input : ProvInput}
    (once : SubscribesOnce prov input) : IdentityKept sha256 drawn (provStep prov input) := by
  -- Only a disconnect touches the identity, and only a subscription the bit; the rest is bookkeeping.
  cases provStep_moves prov input with
  | quiet newer logged stages same =>
    refine kept.of_same ?_ (by rw [same]) (by rw [same]) (by rw [same])
    rw [logged, List.mem_append]
    exact or_iff_right fun member => stages _ member
  | cleared logged changed =>
    refine ⟨fun clean => absurd ?_ clean, fun _ => by simp [changed]⟩
    rw [logged]
    exact List.mem_cons_self
  | subscribed ready logged changed =>
    refine ⟨fun clean => ?_, fun dirty => ?_⟩
    · rw [changed]
      exact kept.fresh (logged ▸ clean)
    · exact absurd (logged ▸ dirty) (once ⟨ready, rfl, rfl⟩)
  | wifi free ssid psk logged changed =>
    refine kept.of_same ?_ (by rw [changed]; rfl) (by rw [changed]; rfl) (by rw [changed]; rfl)
    simp [logged, Provision.putWifi, Provision.record]
  | server free host port uport nonce logged changed =>
    refine kept.of_same ?_ (by rw [changed]; rfl) (by rw [changed]; rfl) (by rw [changed]; rfl)
    simp [logged, Provision.putServer, Provision.record]
  | creds free ssid psk host port uport nonce logged changed =>
    refine kept.of_same ?_ (by rw [changed]; rfl) (by rw [changed]; rfl) (by rw [changed]; rfl)
    simp [logged, Provision.putWifi, Provision.putServer, Provision.record]
  | confirmed free logged changed =>
    refine kept.of_same ?_ (by rw [changed]; rfl) (by rw [changed]; rfl) (by rw [changed]; rfl)
    rw [logged]
  | finished commit waits logged changed =>
    refine kept.of_same ?_ (by rw [changed]; rfl) (by rw [changed]; rfl) (by rw [changed]; rfl)
    simp [logged, Provision.finishCommit, Provision.record]

/-- With the identity kept, a subscribed phone finds the one from the start. -/
theorem IdentityKept.identifies (kept : IdentityKept sha256 drawn prov) (nonzero : drawn ≠ 0) :
    prov.IdentifiesToPhone sha256 := by
  intro subscribed
  -- After a disconnect the bit would be off.
  have clean : ProvEvent.cleared ∉ prov.log := by
    intro dirty
    have off := (kept.gone dirty).2
    rw [show prov.core.notifyEnabled = prov.notifyEnabled from rfl, subscribed] at off
    cases off
  obtain ⟨sessionId, hmacKey⟩ := kept.fresh clean
  have same : prov.session.sessionId = drawn := sessionId
  exact ⟨same ▸ nonzero, same ▸ hmacKey⟩

/-- From a service that has kept the identity, one event leaves a subscribed phone with it exactly when
the event is no subscription after a disconnect. -/
theorem IdentityKept.step_identifies_iff (kept : IdentityKept sha256 drawn prov)
    (nonzero : drawn ≠ 0) (input : ProvInput) :
    (provStep prov input).IdentifiesToPhone sha256 ↔ SubscribesOnce prov input := by
  refine ⟨fun identifies => ?_, fun once => (kept.step once).identifies nonzero⟩
  cases input with
  | subscribe isTx curNotify =>
    -- The subscription sets the bit while the id is already zero.
    rintro ⟨ready, rfl, rfl⟩ dirty
    have stepped : provStep prov (.subscribe true true) =
        ({ prov with notifyEnabled := true }.enter .scan).spawn .scanStarts := by
      simp [provStep, ready]
    rw [stepped] at identifies
    exact (identifies rfl).1 (kept.gone dirty).1
  | _ => trivial

/-- Over every order of events, a subscribed phone always finds a session it can synchronise with
exactly when no phone subscribes after a disconnect. -/
theorem session_identified_iff (sha256 : Bytes → Bytes) (nvs : Nvs) {drawn : Nat}
    (nonzero : drawn ≠ 0) (inputs : List ProvInput) :
    (∀ earlier, earlier <+: inputs →
        (provRun sha256 nvs drawn earlier).IdentifiesToPhone sha256) ↔
      Machine.Always provStep SubscribesOnce (.start sha256 nvs drawn) inputs := by
  have initial : IdentityKept sha256 drawn (.start sha256 nvs drawn) :=
    ⟨fun _ => ⟨rfl, rfl⟩, fun dirty => nomatch dirty⟩
  exact Machine.prefixes_iff_always
    (fun _ input kept => IdentityKept.step_identifies_iff kept nonzero input)
    (fun _ _ kept once => IdentityKept.step kept once) initial (initial.identifies nonzero)

/-- A phone subscribes, disconnects and subscribes again. -/
def reconnects : List ProvInput :=
  [.connect true, .subscribe true true, .disconnect, .clearCert, .connect true,
    .subscribe true true]

theorem session_identified_iff_sample :
    (∀ earlier, earlier <+: reconnects →
        (provRun id emptyNvs 1 earlier).IdentifiesToPhone id) ↔
      Machine.Always provStep SubscribesOnce (.start id emptyNvs 1) reconnects :=
  session_identified_iff id emptyNvs (by decide) reconnects

/-- The phone that comes back finds a session without an identity. -/
theorem reconnected_unidentified :
    ¬ (provRun id emptyNvs 1 reconnects).IdentifiesToPhone id :=
  fun identifies => (identifies rfl).1 rfl

end Ykp.Firmware
