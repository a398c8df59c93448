import Ykp.Firmware.Handshake

/-! Which packet ids the firmware hands to its services under one session key. -/

namespace Ykp.Firmware

open History SlidingWindow

/-- The entry behind which a new session key is in use. -/
def startsKey : DeviceEvent → Bool
  | .derived _ _ _ ok => ok
  | _ => false

/-- The packet id of a dispatch. -/
def dispatchedId : DeviceEvent → Option Nat
  | .dispatched _ _ pkt => some pkt.header.packetId
  | _ => none

/-- The packet ids handed to services since the session key was derived, the latest first. -/
def idsUnderKey (log : List DeviceEvent) : List Nat := (since startsKey log).filterMap dispatchedId

/-- An entry that neither starts a key nor is a dispatch. -/
def DeviceEvent.Idle (event : DeviceEvent) : Prop :=
  startsKey event = false ∧ dispatchedId event = none

/-- Idle entries leave the ids alone. -/
theorem idsUnderKey_idle {newer log : List DeviceEvent} (idle : ∀ event ∈ newer, event.Idle) :
    idsUnderKey (newer ++ log) = idsUnderKey log := by
  have nothing : newer.filterMap dispatchedId = [] :=
    List.filterMap_eq_nil_iff.mpr fun event member => (idle event member).2
  rw [idsUnderKey, since_append_inside _ fun event member => (idle event member).1,
    List.filterMap_append, nothing, List.nil_append, idsUnderKey]

theorem DeviceEvent.Quiet.idle {event : DeviceEvent} (quiet : event.Quiet) : event.Idle := by
  cases event <;> first | exact ⟨rfl, rfl⟩ | exact quiet.elim

/-- The ids handed to services under a key differ, and the replay window has registered them. -/
structure ReplayInv (device : Device) : Prop where
  unique : (idsUnderKey device.log).Nodup
  tracked : ∃ accepted, device.replay.Tracks accepted ∧ idsUnderKey device.log ⊆ accepted

/-- A SESSION_ACTIVE finds that nothing was handed to a service since the key was derived. -/
def ActivatesFresh (device : Device) (input : DeviceInput × DeviceEnv) : Prop :=
  device.action input.1 = some .sessionActive → idsUnderKey device.log = []

instance (device : Device) (input : DeviceInput × DeviceEnv) :
    Decidable (ActivatesFresh device input) := inferInstanceAs (Decidable (_ → _))

/-- Idle entries keep the invariant while the replay window stays. -/
theorem ReplayInv.idle {before after : Device} {newer : List DeviceEvent} (inv : ReplayInv before)
    (replay : after.replay = before.replay) (logged : after.log = newer ++ before.log)
    (idle : ∀ event ∈ newer, event.Idle) : ReplayInv after := by
  obtain ⟨accepted, tracks, registered⟩ := inv.tracked
  have same : idsUnderKey after.log = idsUnderKey before.log := by
    rw [logged, idsUnderKey_idle idle]
  exact ⟨same ▸ inv.unique, accepted, replay ▸ tracks, same ▸ registered⟩

theorem ReplayInv.unmoved {before after : Device} (inv : ReplayInv before)
    (same : Unmoved before after) : ReplayInv after := by
  obtain ⟨newer, logged, quiet⟩ := same.log
  exact inv.idle same.replay logged fun event member => (quiet event member).idle

theorem ReplayInv.sent {action : SecAction} {state : SessionState} {before after : Device}
    (inv : ReplayInv before) (sent : Sent action state before after) : ReplayInv after := by
  obtain ⟨event, logged, quiet, -⟩ := sent.log
  have idle : ∀ other ∈ [event], other.Idle := by simpa using quiet.idle
  exact inv.idle sent.replay logged idle

/-- A derivation that succeeds starts a new key with no ids under it; a failed one is idle. -/
theorem ReplayInv.derived {before after : Device} (inv : ReplayInv before)
    (derived : Derived before after) : ReplayInv after := by
  obtain ⟨serverPub, nonce, sessionId, ok, logged, -⟩ := derived.log
  -- Only a derivation that succeeds starts a new key.
  cases ok with
  | false =>
    have idle : ∀ other ∈ [DeviceEvent.derived serverPub nonce sessionId false], other.Idle := by
      simp [DeviceEvent.Idle, startsKey, dispatchedId]
    exact inv.idle derived.replay logged idle
  | true =>
    have fresh : idsUnderKey after.log = [] := by
      rw [logged, idsUnderKey, since_cons_boundary _ rfl, List.filterMap_nil]
    obtain ⟨accepted, tracks, -⟩ := inv.tracked
    exact ⟨fresh ▸ List.nodup_nil, accepted, derived.replay ▸ tracks, fresh ▸ List.nil_subset _⟩

theorem ReplayInv.answered {env : DeviceEnv} {before after : Device} (inv : ReplayInv before)
    (answered : Answered env before after) : ReplayInv after := by
  rcases answered with same | sent | ⟨middle, derived, ⟨-, rfl⟩ | sent⟩
  · exact inv.unmoved same
  · exact inv.sent sent
  · exact inv.derived derived
  · exact (inv.derived derived).sent sent

/-- An admitted packet adds its id at most once to the ids under the key. -/
theorem Admitted.ids {crypto : DeviceCrypto} {raw : Bytes} {pkt : YkpPacket}
    {before after : Device} (admitted : Admitted crypto raw pkt before after) :
    idsUnderKey after.log = idsUnderKey before.log ∨
      idsUnderKey after.log = pkt.header.packetId :: idsUnderKey before.log := by
  obtain ⟨opening, result, newer, opened, entries, logged⟩ := admitted.log
  have idle : ∀ event ∈ opening, event.Idle := by
    cases opened <;> simp [DeviceEvent.Idle, startsKey, dispatchedId]
  -- No service takes the packet, or one does.
  rcases entries with rfl | ⟨service, taken, quiet, rfl, -, rfl, silent⟩
  · exact .inl (by rw [logged, List.nil_append, idsUnderKey_idle idle])
  · -- Opening a packet changes no header field.
    have header : taken.header = pkt.header := by
      cases opened <;> rfl
    have dispatch : idsUnderKey (.dispatched service raw taken :: (opening ++ before.log)) =
        pkt.header.packetId :: idsUnderKey (opening ++ before.log) := by
      rw [idsUnderKey, since_cons_inside _ rfl, List.filterMap_cons, dispatchedId, header]
      rfl
    refine .inr ?_
    rw [logged, List.append_assoc, idsUnderKey_idle fun event member => (silent event member).idle,
      List.singleton_append, dispatch, idsUnderKey_idle idle]

/-- One event keeps the invariant when a SESSION_ACTIVE comes before any dispatch. -/
theorem deviceStep_replayInv (crypto : DeviceCrypto) (device : Device)
    (input : DeviceInput × DeviceEnv) (inv : ReplayInv device)
    (fresh : ActivatesFresh device input) : ReplayInv (deviceStep crypto device input) := by
  have reset : ReplayInv device.resetSession := by
    have idle : ∀ other ∈ [DeviceEvent.sessionReset], other.Idle := by
      simp [DeviceEvent.Idle, startsKey, dispatchedId]
    exact inv.idle rfl rfl idle
  cases deviceStep_moves crypto device input with
  | unmoved same => exact inv.unmoved same
  | hello sent => exact inv.sent sent
  | reset same => exact reset.unmoved same
  | restarted sent => exact reset.sent sent
  | challenge _ answered => exact inv.answered answered
  | sessionActive asked activated =>
    obtain ⟨sessionId, logged⟩ := activated.log
    -- The window starts afresh, and so do the ids it has to know.
    have idle : ∀ other ∈ [DeviceEvent.sessionActive sessionId], other.Idle := by
      simp [DeviceEvent.Idle, startsKey, dispatchedId]
    have none : idsUnderKey (deviceStep crypto device input).log = [] := by
      rw [logged, ← fresh asked]
      exact idsUnderKey_idle idle
    refine ⟨none ▸ List.nodup_nil, [], activated.replay ▸ tracks_reset, ?_⟩
    rw [none]
    exact List.nil_subset _
  | @rejected _ pkt _ _ _ replayed same =>
    obtain ⟨accepted, tracks, registered⟩ := inv.tracked
    have next := (ykpReplayCheck_refines pkt.header.packetId tracks).2
    rw [replayed] at next
    rw [same]
    exact ⟨inv.unique, accepted, next, registered⟩
  | @admitted _ pkt _ _ _ accepts admitted =>
    obtain ⟨accepted, tracks, registered⟩ := inv.tracked
    obtain ⟨exact_, next⟩ := ykpReplayCheck_refines pkt.header.packetId tracks
    rw [if_pos accepts, ← admitted.replay] at next
    obtain ⟨-, new, -⟩ := exact_.mp accepts
    -- The window has registered the id, whether or not a service took the packet.
    rcases admitted.ids with same | added
    · exact ⟨same ▸ inv.unique, _, next,
        same ▸ fun id member => List.mem_cons_of_mem _ (registered member)⟩
    · refine ⟨added ▸ List.nodup_cons.mpr ⟨fun member => new (registered member), inv.unique⟩, _,
        next, added ▸ List.cons_subset_cons _ registered⟩

/-- Over every run in which each SESSION_ACTIVE comes before anything was handed to a service under
the current key, no packet id is handed to a service twice under one key. -/
theorem ids_nodup (crypto : DeviceCrypto) (deviceId : DeviceId)
    {inputs : List (DeviceInput × DeviceEnv)}
    (fresh : Machine.Always (deviceStep crypto) ActivatesFresh (bootDevice deviceId) inputs) :
    (idsUnderKey (deviceRun crypto deviceId inputs).log).Nodup := by
  -- At boot nothing was handed to a service.
  have initial : ReplayInv (bootDevice deviceId) :=
    ⟨List.nodup_nil, [], tracks_reset, List.nil_subset _⟩
  have inv : ReplayInv (deviceRun crypto deviceId inputs) :=
    Machine.invariant_run (deviceStep_replayInv crypto) initial fresh
  exact inv.unique

end Ykp.Firmware
