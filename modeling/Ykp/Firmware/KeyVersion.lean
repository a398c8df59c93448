import Ykp.Firmware.NoReplay

/-! The firmware's key version: it counts the session keys derived since boot. -/

namespace Ykp.Firmware

open BigEndian

/-- The session keys derived so far, failed derivations left out. -/
def derivations (log : List DeviceEvent) : Nat := log.countP startsKey

/-- The key version is the number of session keys derived so far, in its 32 bits. -/
def CountsKeys (device : Device) : Prop :=
  -- No handshake starts the version over, so the whole log counts.
  device.secCtx.session.keyVer = derivations device.log % 2 ^ 32

/-- Idle entries are no derivations. -/
theorem derivations_idle {newer log : List DeviceEvent} (idle : ∀ event ∈ newer, event.Idle) :
    derivations (newer ++ log) = derivations log := by
  have none : newer.countP startsKey = 0 := by
    apply List.countP_eq_zero.mpr
    intro event member
    rw [(idle event member).1]
    exact Bool.false_ne_true
  rw [derivations, List.countP_append, none, Nat.zero_add, derivations]

/-- The version keeps counting while the keys stay and nothing but idle entries is logged. -/
theorem CountsKeys.idle {before after : Device} {newer : List DeviceEvent}
    (counts : CountsKeys before) (keys : after.secCtx.session = before.secCtx.session)
    (logged : after.log = newer ++ before.log) (idle : ∀ event ∈ newer, event.Idle) :
    CountsKeys after := by
  unfold CountsKeys
  rw [keys, logged, derivations_idle idle]
  exact counts

theorem CountsKeys.unmoved {before after : Device} (counts : CountsKeys before)
    (same : Unmoved before after) : CountsKeys after := by
  obtain ⟨newer, logged, quiet⟩ := same.log
  exact counts.idle same.keys logged fun event member => (quiet event member).idle

theorem CountsKeys.sent {action : SecAction} {state : SessionState} {before after : Device}
    (counts : CountsKeys before) (sent : Sent action state before after) : CountsKeys after := by
  obtain ⟨event, logged, quiet, -⟩ := sent.log
  have idle : ∀ other ∈ [event], other.Idle := by simpa using quiet.idle
  exact counts.idle sent.keys logged idle

/-- A reset puts the keys out of use and keeps their version. -/
theorem CountsKeys.reset {device : Device} (counts : CountsKeys device) :
    CountsKeys device.resetSession := counts

/-- A derivation raises the version exactly when it succeeds. -/
theorem deriveSessionKey_version (crypto : DeviceCrypto) (ctx : SecurityCtx)
    (serverPub nonce : Bytes) (sessionId : Nat) :
    let result := ykpSecurityDeriveSessionKey crypto ctx serverPub nonce sessionId
    result.2.session.keyVer =
      if result.1 then (ctx.session.keyVer + 1) % 2 ^ 32 else ctx.session.keyVer := by
  -- The library fails, or reports a failed derivation, or the key is derived.
  unfold ykpSecurityDeriveSessionKey
  split
  · rfl
  · split <;> rfl

theorem CountsKeys.derived (crypto : DeviceCrypto) {device : Device} (serverPub : Bytes)
    (sessionId : Nat) (counts : CountsKeys device) :
    CountsKeys (deriveKey crypto device serverPub sessionId) := by
  have version := deriveSessionKey_version crypto device.secCtx serverPub
    device.session.serverNonce sessionId
  unfold CountsKeys at counts
  unfold CountsKeys deriveKey
  dsimp only [Device.record] at version ⊢
  rw [version, derivations, List.countP_cons]
  -- The log counts the derivation exactly when the version does.
  split
  · rename_i succeeded
    rw [counts, Nat.mod_add_mod, startsKey, succeeded, if_pos rfl, derivations]
  · rename_i failed
    rw [counts, startsKey, Bool.eq_false_of_not_eq_true failed]
    rfl

/-- Answering a CHALLENGE derives at most once. -/
theorem answerChallenge_counts (crypto : DeviceCrypto) (env : DeviceEnv) (pkt : YkpPacket)
    {device : Device} (counts : CountsKeys device) :
    CountsKeys (answerChallenge crypto env pkt device) := by
  -- The response is sent or not, and derives nothing.
  have answers (middle : Device) (counts : CountsKeys middle) :
      CountsKeys (sendEcdhResponse env middle) := by
    rcases sendEcdhResponse_cases env middle with ⟨-, same⟩ | sent
    · rw [same]
      exact counts
    · exact counts.sent sent
  -- The lookup may hang, find a key to derive from, or find none.
  unfold answerChallenge
  split
  · exact counts
  · exact answers _ (counts.derived crypto _ _)
  · exact answers _ counts

/-- A packet of the security service keeps the version counting. -/
theorem handleSecurity_counts (crypto : DeviceCrypto) (env : DeviceEnv) (pkt : YkpPacket)
    {device : Device} (counts : CountsKeys device) :
    CountsKeys (handleSecurity crypto env pkt device) := by
  -- A CHALLENGE, a SESSION_ACTIVE, a KEY_ROTATE, or something else.
  unfold handleSecurity
  split
  · unfold handleChallenge
    split
    · exact counts
    · -- Storing the nonce touches neither the keys nor the log.
      rename_i tlv _
      exact @answerChallenge_counts crypto env pkt { device with
        session := ykpSessionStoreNonce device.session
          (readBytes (payloadMemory env pkt) tlv.start tlv.length) } counts
    · exact answerChallenge_counts crypto env pkt counts
  · unfold handleSessionActive
    dsimp only
    split
    · exact counts
    · exact counts
  · rcases sendHello_cases env device.resetSession with same | sent
    · exact counts.reset.unmoved same
    · exact counts.reset.sent sent
  · exact counts

/-- The entries of a packet behind the replay check are idle or dispatches, and no derivations. -/
theorem Admitted.counts {crypto : DeviceCrypto} {raw : Bytes} {pkt : YkpPacket}
    {before after : Device} (admitted : Admitted crypto raw pkt before after)
    (counts : CountsKeys before) : CountsKeys after := by
  obtain ⟨opening, opened, newer, opens, entries, logged⟩ := admitted.log
  -- Neither opening the packet nor dispatching it logs a derivation.
  have first : derivations (opening ++ before.log) = derivations before.log := by
    cases opens <;> rfl
  have second : derivations (newer ++ (opening ++ before.log)) =
      derivations (opening ++ before.log) := by
    rcases entries with rfl | ⟨service, handed, quiet, -, -, rfl, silent⟩
    · rfl
    · rw [List.append_assoc, derivations_idle fun event member => (silent event member).idle]
      rfl
  unfold CountsKeys
  rw [admitted.keys, logged, second, first]
  exact counts

/-- One event keeps the version counting. -/
theorem deviceStep_counts (crypto : DeviceCrypto) {device : Device}
    (input : DeviceInput × DeviceEnv) (counts : CountsKeys device) :
    CountsKeys (deviceStep crypto device input) := by
  -- A HELLO generates a key pair but derives no session key.
  have hello (device : Device) (counts : CountsKeys device) :
      CountsKeys (sendHello input.2 device) := by
    rcases sendHello_cases input.2 device with same | sent
    · exact counts.unmoved same
    · exact counts.sent sent
  -- Event by event, as the dispatcher tells them apart.
  unfold deviceStep
  split
  · exact counts
  · split
    · split
      · exact counts
      · unfold handleIncomingPacket
        split
        · exact counts
        · split
          · exact counts
          · split
            · exact handleSecurity_counts crypto input.2 _ counts
            · unfold handleData
              split
              · exact counts
              · dsimp only
                split
                · exact counts
                · exact (openAndDispatch_admitted crypto input.2 _ _ device).counts counts
    · exact hello device counts
    · exact counts.reset
    · unfold mainLoopRotation
      split
      · exact hello _ counts.reset
      · exact counts
    · exact counts.unmoved (mainLoopHealth_unmoved input.2 device)
    · exact counts.unmoved (buttonDebounceTimerCallback_unmoved input.2 device)
    · exact counts.unmoved (qosTimerCallback_unmoved input.2 device)

/-- In every run the key version is the number of session keys derived since boot. -/
theorem deviceRun_counts (crypto : DeviceCrypto) (deviceId : DeviceId)
    (inputs : List (DeviceInput × DeviceEnv)) : CountsKeys (deviceRun crypto deviceId inputs) :=
  Machine.invariant_reached (fun _ input counts => deviceStep_counts crypto input counts) inputs rfl

end Ykp.Firmware
