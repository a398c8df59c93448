import Ykp.Firmware.OtaGate
import Ykp.Firmware.Steps

/-! What stands between a received packet and a service: session, replay window, and the tag. -/

namespace Ykp.Firmware

open BigEndian

/-- The tag of the bytes received was verified under the current session key. -/
def TagVerified (crypto : DeviceCrypto) (device : Device) (raw : Bytes) : Prop :=
  ∃ arrived payload, ykpPacketParse raw = some arrived ∧ arrived.payload = some payload ∧
    (ykpSecurityDecrypt crypto device.secCtx.session arrived.header.packetId
      (raw.take ykpHeaderSize) payload arrived.authTag).isSome

/-- The bytes received passed every check in front of the services and were opened to a packet. -/
structure Vouched (crypto : DeviceCrypto) (device : Device) (raw : Bytes) (service : Service)
    (pkt : YkpPacket) : Prop where
  active : device.session.state = .active
  opened : ∃ arrived, ykpPacketParse raw = some arrived ∧ IsData arrived ∧
    (ykpReplayCheck device.replay arrived.header.packetId).1 = true ∧
    ∃ opening, Opened crypto device.secCtx.session raw arrived opening (some pkt)
  addressed : Service.ofByte pkt.header.serviceId = some service
  /-- With the flag and a payload, the tag was verified. -/
  verified : pkt.header.flags &&& flagEncrypted ≠ 0 → pkt.payload ≠ none →
    TagVerified crypto device raw

/-- Every packet an event makes the firmware hand to a service meets a condition. -/
def Dispatches (crypto : DeviceCrypto) (meets : Bytes → Service → YkpPacket → Prop)
    (device : Device) (input : DeviceInput × DeviceEnv) : Prop :=
  ∃ newer, (deviceStep crypto device input).log = newer ++ device.log ∧
    ∀ service raw pkt, .dispatched service raw pkt ∈ newer → meets raw service pkt

/-- An opened packet that carries the flag and a payload was opened by its tag. -/
theorem Opened.verified {crypto : DeviceCrypto} {device : Device} {raw : Bytes}
    {arrived pkt : YkpPacket} {opening : List DeviceEvent}
    (opened : Opened crypto device.secCtx.session raw arrived opening (some pkt))
    (parsed : ykpPacketParse raw = some arrived)
    (flagged : pkt.header.flags &&& flagEncrypted ≠ 0) (carries : pkt.payload ≠ none) :
    TagVerified crypto device raw := by
  -- A packet with flag and payload is not taken as it came, and a wrong tag opens nothing.
  cases opened with
  | plain unprotected =>
    rcases unprotected with empty | unflagged
    · exact absurd empty carries
    · exact absurd unflagged flagged
  | tagRight carried _ right => exact ⟨arrived, _, parsed, carried, by rw [right]; rfl⟩

/-- Nothing newly logged is a dispatch. -/
def NoDispatch (before after : Device) : Prop :=
  ∃ newer, after.log = newer ++ before.log ∧
    ∀ service raw pkt, DeviceEvent.dispatched service raw pkt ∉ newer

theorem NoDispatch.trans {first second third : Device} (one : NoDispatch first second)
    (two : NoDispatch second third) : NoDispatch first third := by
  obtain ⟨newer, logged, none⟩ := one
  obtain ⟨newest, logged', none'⟩ := two
  refine ⟨newest ++ newer, by rw [logged', logged, List.append_assoc], ?_⟩
  intro service raw pkt member
  -- An entry stems from the second part or from the first.
  rcases List.mem_append.mp member with recent | old
  · exact none' service raw pkt recent
  · exact none service raw pkt old

/-- One entry of another kind is no dispatch. -/
theorem noDispatch_one {before after : Device} {event : DeviceEvent}
    (logged : after.log = event :: before.log)
    (other : ∀ service raw pkt, DeviceEvent.dispatched service raw pkt ≠ event) :
    NoDispatch before after :=
  ⟨[event], logged, fun service raw pkt member => other service raw pkt (List.mem_singleton.mp member)⟩

theorem Unmoved.noDispatch {before after : Device} (same : Unmoved before after) :
    NoDispatch before after := by
  obtain ⟨newer, logged, quiet⟩ := same.log
  exact ⟨newer, logged, fun service raw pkt member => quiet _ member⟩

theorem Sent.noDispatch {action : SecAction} {state : SessionState} {before after : Device}
    (sent : Sent action state before after) : NoDispatch before after := by
  obtain ⟨event, logged, quiet, -⟩ := sent.log
  refine noDispatch_one logged fun service raw pkt same => ?_
  rw [← same] at quiet
  exact quiet

theorem Derived.noDispatch {before after : Device} (derived : Derived before after) :
    NoDispatch before after := by
  obtain ⟨_, _, _, _, logged, -⟩ := derived.log
  exact noDispatch_one logged (by simp)

theorem Answered.noDispatch {env : DeviceEnv} {before after : Device}
    (answered : Answered env before after) : NoDispatch before after := by
  -- The CHALLENGE was dropped, answered without a new key, or answered behind a derivation.
  rcases answered with same | sent | ⟨middle, derived, ⟨-, rfl⟩ | sent⟩
  · exact same.noDispatch
  · exact sent.noDispatch
  · exact derived.noDispatch
  · exact derived.noDispatch.trans sent.noDispatch

/-- The parse behind a delivered packet. -/
theorem received_parsed {input : DeviceInput} {raw : Bytes} {pkt : YkpPacket}
    (delivered : received input = some (raw, pkt)) : ykpPacketParse raw = some pkt := by
  -- Only an event that delivers bytes delivers a packet.
  cases input with
  | packet bytes =>
    obtain ⟨parsed, found, same⟩ := Option.map_eq_some_iff.mp delivered
    obtain ⟨rfl, rfl⟩ := Prod.mk.inj same
    exact found
  | _ => cases delivered

/-- An admitted packet is dispatched at most once, and vouched for. -/
theorem Admitted.vouched {crypto : DeviceCrypto} {raw : Bytes} {pkt : YkpPacket}
    {before after : Device} (admitted : Admitted crypto raw pkt before after)
    (parsed : ykpPacketParse raw = some pkt) (data : IsData pkt)
    (active : before.session.state = .active)
    (fresh : (ykpReplayCheck before.replay pkt.header.packetId).1 = true) :
    ∃ newer, after.log = newer ++ before.log ∧
      ∀ service raw pkt, .dispatched service raw pkt ∈ newer →
        Vouched crypto before raw service pkt := by
  obtain ⟨opening, result, newer, opened, entries, logged⟩ := admitted.log
  refine ⟨newer ++ opening, by rw [logged, List.append_assoc], ?_⟩
  intro service bytes dispatched member
  -- An entry stems from the dispatch or from opening the packet.
  rcases List.mem_append.mp member with recent | old
  · rcases entries with rfl | ⟨named, taken, quiet, rfl, addressed, rfl, silent⟩
    · cases recent
    -- Behind the dispatch stand only the quiet entries of the service.
    · rcases List.mem_append.mp recent with noise | last
      · exact (silent _ noise).elim
      · rw [List.mem_singleton, DeviceEvent.dispatched.injEq] at last
        obtain ⟨rfl, rfl, rfl⟩ := last
        exact ⟨active, ⟨pkt, parsed, data, fresh, opening, opened⟩, addressed, opened.verified parsed⟩
  -- The entry of an opened payload is no dispatch.
  · cases opened <;> simp at old

/-- One event hands a packet to a service only if it was vouched for. -/
theorem deviceStep_dispatches (crypto : DeviceCrypto) (device : Device)
    (input : DeviceInput × DeviceEnv) :
    Dispatches crypto (Vouched crypto device) device input := by
  -- Whatever dispatches nothing meets every condition on dispatches.
  have silent (none : NoDispatch device (deviceStep crypto device input)) :
      Dispatches crypto (Vouched crypto device) device input := by
    obtain ⟨newer, logged, nothing⟩ := none
    exact ⟨newer, logged, fun service raw pkt member => absurd member (nothing service raw pkt)⟩
  have reset : NoDispatch device device.resetSession := noDispatch_one rfl (by simp)
  cases deviceStep_moves crypto device input with
  | unmoved same => exact silent same.noDispatch
  | hello sent => exact silent sent.noDispatch
  | reset same => exact silent (reset.trans same.noDispatch)
  | restarted sent => exact silent (reset.trans sent.noDispatch)
  | challenge _ answered => exact silent answered.noDispatch
  | sessionActive _ activated =>
    obtain ⟨_, logged⟩ := activated.log
    exact silent (noDispatch_one logged (by simp))
  | rejected _ _ _ _ same => exact silent ⟨[], by rw [same]; rfl, by simp⟩
  | admitted delivered data active fresh admitted =>
    exact admitted.vouched (received_parsed delivered) data active fresh

/-- Over every run, whenever a packet is handed to a service it was received under an active session
with an id the replay window accepts; and if it carries the flag and a payload, its tag was verified
under the current session key with its header as additional data. -/
theorem dispatches_vouched (crypto : DeviceCrypto) (deviceId : DeviceId)
    (inputs : List (DeviceInput × DeviceEnv)) :
    Machine.Always (deviceStep crypto)
      (fun device input => Dispatches crypto (Vouched crypto device) device input)
      (bootDevice deviceId) inputs :=
  Machine.always_of_forall (deviceStep_dispatches crypto) inputs

/-- A crypto library for which no tag is ever right. -/
def tagless : DeviceCrypto where
  rawKeyAgreement := fun _ _ => some []
  hkdfSha256 := fun _ _ _ => (true, List.replicate 32 7)
  aeadDecrypt := fun _ _ _ _ _ => none
  sha256 := id

/-- An environment in which every call succeeds. -/
def sampleEnv : DeviceEnv where
  nowUs := 0
  connected := true
  bleConnected := false
  allocOk := true
  mallocOk := true
  buffer := fun _ => 0
  beyond := fun _ => 0
  keyGeneration := .generated (List.replicate 32 1) (List.replicate 65 4)
  signature := some (List.replicate 64 2)
  sensor := ⟨0, 0, false, 0⟩
  health := ⟨0, 0, 0, 0, 0⟩
  ota := sampleOtaEnv

/-- The header of a packet of the server for the sample device. -/
def bareHeader (packetId : Nat) (service : Service) (action : UInt8) : YkpHeader :=
  (ykpPacketSetHeader ykpPacketAlloc packetId 0 serverName sampleDevice.bytes .direct service
    action .qos0 false).header

/-- A packet without payload and with a tag of zeros. -/
def barePacket (packetId : Nat) (service : Service) (action : UInt8) : Bytes :=
  headerBytes (bareHeader packetId service action) 0 ++ List.replicate ykpAuthTagSize 0

/-- A SESSION_ACTIVE, and a command for the relay behind it. -/
def activeThenCommand : List (DeviceInput × DeviceEnv) :=
  [(.packet (barePacket 1 .security SecAction.sessionActive.byte), sampleEnv),
    (.packet (barePacket 2 .relay RelayAction.on.byte), sampleEnv)]

/-- A command without flag and payload reaches the relay although no tag is ever right. -/
theorem dispatched_without_tag :
    ¬ Machine.Always (deviceStep tagless) (fun device input =>
        Dispatches tagless (fun raw _ _ => TagVerified tagless device raw) device input)
      (bootDevice sampleDevice) activeThenCommand := by
  rintro ⟨-, ⟨newer, logged, verified⟩, -⟩
  let active := deviceStep tagless (bootDevice sampleDevice) (activeThenCommand.get ⟨0, by decide⟩)
  let command := activeThenCommand.get ⟨1, by decide⟩
  have before : active.log = [.sessionActive 1] := by decide +kernel
  have switched : .dispatched .relay (barePacket 2 .relay RelayAction.on.byte)
      ⟨bareHeader 2 .relay RelayAction.on.byte, none, List.replicate 16 0, 0⟩ ∈
      (deviceStep tagless active command).log := by decide +kernel
  change (deviceStep tagless active command).log = newer ++ active.log at logged
  rw [logged, before] at switched
  -- The dispatch is not one of the older entries, so it is one of the new ones.
  have recent := (List.mem_append.mp switched).resolve_right (by simp)
  -- A verified tag would have to come out of a library that never reports one.
  obtain ⟨arrived, payload, -, -, opened⟩ := verified _ _ _ recent
  simp [ykpSecurityDecrypt, tagless] at opened

end Ykp.Firmware
