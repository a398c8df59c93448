import Ykp.Firmware.KeyVersion
import Ykp.System.KeyAgreement

/-! The initialisation vectors of both ends: a random session id against a count of derivations. -/

namespace Ykp.System

open Firmware Backend BigEndian

/-- Every session has the id that was drawn for it. -/
def IdsDrawn (registry : Registry) : Prop :=
  ∀ deviceId session, registry.sessions deviceId = some session →
    1 ≤ session.sessionId ∧ session.sessionId < 0xFFFFFFFF

/-- A session may be replaced by one with the same id. -/
theorem IdsDrawn.keep {registry : Registry} {deviceId : JsString}
    {session changed : DeviceSession} (drawn : IdsDrawn registry)
    (found : registry.sessions deviceId = some session)
    (same : changed.sessionId = session.sessionId) :
    IdsDrawn (registry.setSession deviceId (some changed)) := by
  -- Only the session that takes the place of another has to be looked at.
  refine forall_setSession ?_ drawn
  exact same ▸ drawn deviceId session found

/-- One event keeps the ids drawn: only a HELLO brings a new one. -/
theorem moved_idsDrawn {crypto : ServerCrypto} {before : Server} {input : ServerInput}
    {newer : List ServerEvent} {registry : Registry}
    (moved : Moved crypto before input newer registry) (drawn : IdsDrawn before.registry) :
    IdsDrawn registry := by
  -- Sessions are created, replaced by ones with the same id, or removed.
  cases moved with
  | settled => exact drawn
  | helloReceived => exact drawn
  | @created _ _ draws => exact forall_setSession draws.sessionIdRange drawn
  | activated _ _ _ found => exact drawn.keep found rfl
  | filtered _ _ _ found => exact drawn.keep found rfl
  | dispatched _ _ _ found => exact drawn.keep found rfl
  | counted found => exact drawn.keep found rfl
  | closed => exact forall_dropSession drawn

/-- In every run of the server each session has the id that was drawn for it. -/
theorem serverRun_idsDrawn (crypto : ServerCrypto) (inputs : List ServerInput) :
    IdsDrawn (serverRun crypto inputs).registry := by
  let inv (server : Server) : Prop := IdsDrawn server.registry
  have keeps (server : Server) (input : ServerInput) (drawn : inv server) :
      inv (serverStep crypto server input) := by
    obtain ⟨newer, -, moved⟩ := serverStep_moves crypto server input
    exact moved_idsDrawn moved drawn
  have initial : inv startServer := by
    intro deviceId session found
    cases found
  exact Machine.invariant_reached keeps inputs initial

/-- Two vectors for a packet are equal exactly when their first words are. -/
theorem serverIv_eq_deviceIv {sessionId keyVer : Nat} (sessionIdSmall : sessionId < 2 ^ 32)
    (keyVerSmall : keyVer < 2 ^ 32) (packetId : Nat) :
    serverIv sessionId packetId = deviceIv keyVer packetId ↔ sessionId = keyVer := by
  constructor
  · intro same
    -- The first word is read back from each of the two vectors.
    have server := readU32_written [] (writeU32 packetId ++ [0, 0, 0, 0]) sessionId fun _ => 0
    have device := readU32_written [] (writeU32 packetId ++ [0, 0, 0, 0]) keyVer fun _ => 0
    unfold serverIv deviceIv at same
    rw [same, device] at server
    omega
  · rintro rfl
    rfl

/-- Wherever the two ends have got to, the vectors the server builds for a session equal those the
device builds for the same packet ids exactly when the id drawn for the session is the number of
session keys the device has derived since boot. -/
theorem ivs_agree_iff (deviceCrypto : DeviceCrypto) (deviceId : DeviceId)
    (deviceInputs : List (DeviceInput × DeviceEnv)) (serverCrypto : ServerCrypto)
    (serverInputs : List ServerInput) (other : JsString) (session : DeviceSession)
    (found : (serverRun serverCrypto serverInputs).sessions other = some session) :
    let device := deviceRun deviceCrypto deviceId deviceInputs
    (∀ packetId, serverIv session.sessionId packetId =
        deviceIv device.secCtx.session.keyVer packetId) ↔
      session.sessionId = derivations device.log % 2 ^ 32 := by
  intro device
  have counts : CountsKeys device := deviceRun_counts deviceCrypto deviceId deviceInputs
  have drawn := serverRun_idsDrawn serverCrypto serverInputs other session found
  have words := @serverIv_eq_deviceIv session.sessionId device.secCtx.session.keyVer (by omega)
    (counts ▸ Nat.mod_lt _ (by decide))
  -- The key version stands for the number of keys derived.
  unfold CountsKeys at counts
  rw [← counts]
  -- One packet id suffices, since it is the same word in both vectors.
  constructor
  · intro same
    exact (words 0).mp (same 0)
  · intro same packetId
    exact (words packetId).mpr same

/-- With equal keys, additional data and first words the device opens what the server sealed, when
its library decrypts what the server's module encrypts under one vector. -/
theorem device_opens {deviceCrypto : DeviceCrypto} {serverCrypto : ServerCrypto}
    {keys : SessionKeys} {sessionId : Nat} (active : keys.active = true)
    (words : sessionId = keys.keyVer) (packetId : Nat) (aad plaintext : Bytes)
    (inverse : ∀ iv, deviceCrypto.aeadDecrypt keys.sessionKey iv aad
      (serverCrypto.gcmEncrypt keys.sessionKey iv aad plaintext).1
      (serverCrypto.gcmEncrypt keys.sessionKey iv aad plaintext).2 = some plaintext) :
    let box := encrypt serverCrypto keys.sessionKey sessionId packetId aad plaintext
    box.1.length + ykpAuthTagSize ≤ decryptStackBuf →
      ykpSecurityDecrypt deviceCrypto keys packetId aad box.1 box.2 = some plaintext := by
  intro box short
  subst words
  unfold ykpSecurityDecrypt
  rw [if_neg (by simp [active]), if_neg (Nat.not_lt_of_le short)]
  -- Both vectors are the same bytes.
  exact inverse (deviceIv keys.keyVer packetId)

/-- With equal keys, additional data and first words the server opens what the device sealed. -/
theorem server_opens {serverCrypto : ServerCrypto}
    {aeadEncrypt : Bytes → Bytes → Bytes → Bytes → Option (Bytes × Bytes)} {keys : SessionKeys}
    {sessionId : Nat} (words : sessionId = keys.keyVer) (packetId : Nat) {aad plaintext : Bytes}
    {box : Bytes × Bytes}
    (sealed_ : ykpSecurityEncrypt aeadEncrypt keys packetId aad plaintext = some box)
    (inverse : ∀ iv, aeadEncrypt keys.sessionKey iv aad plaintext = some box →
      serverCrypto.gcmDecrypt keys.sessionKey iv aad box.1 box.2 = some plaintext) :
    decrypt serverCrypto keys.sessionKey sessionId packetId aad box.1 box.2 = some plaintext := by
  subst words
  unfold ykpSecurityEncrypt at sealed_
  -- The device seals only with active keys and what its buffer holds.
  split at sealed_
  · cases sealed_
  · split at sealed_
    · cases sealed_
    · exact inverse _ sealed_

set_option maxRecDepth 4000 in
theorem ivs_agree_sample :
    ∃ session, (serverRun openCrypto Backend.sampleHandshake).sessions sampleId = some session ∧
      ((∀ packetId, serverIv session.sessionId packetId = deviceIv
          (deviceRun tagless sampleDevice Firmware.sampleHandshake).secCtx.session.keyVer packetId) ↔
        session.sessionId =
          derivations (deviceRun tagless sampleDevice Firmware.sampleHandshake).log % 2 ^ 32) := by
  cases found : (serverRun openCrypto Backend.sampleHandshake).sessions sampleId with
  | none => exact absurd found (by decide +kernel)
  | some session =>
    exact ⟨session, rfl, ivs_agree_iff tagless sampleDevice Firmware.sampleHandshake openCrypto
      Backend.sampleHandshake sampleId session found⟩

/-- Whether a session is active and its vector for a packet is not the one of some keys. -/
def Strays (keys : SessionKeys) (packetId : Nat) (session : DeviceSession) : Bool :=
  session.state == .active && keys.active &&
    serverIv session.sessionId packetId != deviceIv keys.keyVer packetId

set_option maxRecDepth 4000 in
/-- Once the sample handshake is complete, both ends are active and build different vectors for the
first packet. -/
theorem sample_ivs_differ :
    ∃ session, sampleExchange.completing.sessions sampleId = some session ∧
      session.state = .active ∧ sampleExchange.answering.secCtx.session.active = true ∧
      serverIv session.sessionId 1 ≠
        deviceIv sampleExchange.answering.secCtx.session.keyVer 1 := by
  have strays : (sampleExchange.completing.sessions sampleId).any
      (Strays sampleExchange.answering.secCtx.session 1) = true := by decide +kernel
  obtain ⟨session, found, differs⟩ := (Option.any_eq_true _ _).mp strays
  simp only [Strays, Bool.and_eq_true, beq_iff_eq, bne_iff_ne] at differs
  exact ⟨session, found, differs.1.1, differs.1.2, differs.2⟩

end Ykp.System
