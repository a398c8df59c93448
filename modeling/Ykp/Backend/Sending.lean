import Ykp.Backend.Authentication
import Ykp.Codec.PacketLayout

/-! What the server sends to a device: the packets it builds, and what it authenticates of them. -/

namespace Ykp.Backend

open BigEndian

/-- A packet under the session of a device: it carries the session's id and its next number. -/
def DeviceSession.numbered (session : DeviceSession) (opts : BuildPacketOptions) :
    BuildPacketOptions :=
  { opts with
    sessionId := session.sessionId
    packetId := session.packetCounter + 1 }

/-- The packet whose first bytes are authenticated: encrypted, with no payload and a tag of zeros. -/
def aadOptions (session : DeviceSession) (opts : BuildPacketOptions) : BuildPacketOptions :=
  { session.numbered opts with
    encrypted := true
    payload := some []
    authTag := some (List.replicate ykpAuthTagSize 0) }

/-- The payload of a packet, encrypted under the session's key with some additional data. -/
def sealedPayload (crypto : ServerCrypto) (session : DeviceSession) (opts : BuildPacketOptions)
    (aad : Bytes) : Bytes × Bytes :=
  encrypt crypto session.sessionKey session.sessionId (session.packetCounter + 1) aad
    (opts.payload.getD [])

/-- The packet that is sent: encrypted, with ciphertext and tag in their places. -/
def sealedOptions (crypto : ServerCrypto) (session : DeviceSession) (opts : BuildPacketOptions)
    (aad : Bytes) : BuildPacketOptions :=
  { session.numbered opts with
    encrypted := true
    payload := some (sealedPayload crypto session opts aad).1
    authTag := some (sealedPayload crypto session opts aad).2 }

/-- The bytes handed to connections, among log entries. -/
def sentBytes (log : List ServerEvent) : List Bytes :=
  log.filterMap fun event => match event with
    | .sent _ raw => some raw
    | _ => none

/-- The entries of a packet for a device, if it could be built: none while its connection is not
open. -/
def deliveryLog (server : Server) (deviceId : JsString) (raw : Option Bytes) :
    List ServerEvent :=
  match raw, openConnection server deviceId with
  | some raw, some conn => [.sent conn raw]
  | _, _ => []

/-- Delivering hands over nothing but the packet. -/
theorem sentBytes_deliveryLog (server : Server) (deviceId : JsString) (raw : Option Bytes) :
    sentBytes (deliveryLog server deviceId raw) =
      if (openConnection server deviceId).isSome then raw.toList else [] := by
  unfold deliveryLog
  -- A packet that was not built is not delivered either.
  cases raw with
  | none => cases openConnection server deviceId <;> rfl
  | some raw => cases openConnection server deviceId <;> rfl

/-- What sending to a device logs. -/
theorem sendToDevice_log (server : Server) (deviceId : JsString) (raw : Bytes) :
    (sendToDevice server deviceId raw).log = deliveryLog server deviceId (some raw) ++ server.log := by
  unfold sendToDevice deliveryLog
  cases openConnection server deviceId <;> rfl

/-- A packet without payload for a device with a session. -/
theorem sendYkpPacket_plain (crypto : ServerCrypto) {server : Server} {deviceId : JsString}
    {session : DeviceSession} (found : server.sessions deviceId = some session)
    {opts : BuildPacketOptions} (empty : opts.payload.getD [] = []) :
    (sendYkpPacket crypto server deviceId opts).log =
      deliveryLog server deviceId (buildPacket (session.numbered opts)) ++ server.log := by
  simp only [sendYkpPacket, getSession, found, empty, List.length_nil, if_true]
  -- A packet that cannot be built leaves nothing behind but the counter.
  split
  · rename_i unbuilt
    rw [DeviceSession.numbered, unbuilt]
    rfl
  · rename_i raw built
    rw [DeviceSession.numbered, built]
    exact sendToDevice_log _ deviceId raw

/-- The entries of a packet with a payload for a device with a session. -/
def sealedLog (crypto : ServerCrypto) (server : Server) (deviceId : JsString)
    (session : DeviceSession) (opts : BuildPacketOptions) : List ServerEvent :=
  match buildPacket (aadOptions session opts) with
  | none => []
  | some emptyPkt =>
    let aad := emptyPkt.take ykpHeaderSize
    deliveryLog server deviceId (buildPacket (sealedOptions crypto session opts aad)) ++
      [.encrypted deviceId session (session.packetCounter + 1) aad (opts.payload.getD [])]

/-- A packet with a payload for a device with a session. -/
theorem sendYkpPacket_sealed (crypto : ServerCrypto) {server : Server} {deviceId : JsString}
    {session : DeviceSession} (found : server.sessions deviceId = some session)
    {opts : BuildPacketOptions} (carries : opts.payload.getD [] ≠ []) :
    (sendYkpPacket crypto server deviceId opts).log =
      sealedLog crypto server deviceId session opts ++ server.log := by
  have present : (opts.payload.getD []).length ≠ 0 := by simpa using carries
  simp only [sendYkpPacket, getSession, found, present, if_false]
  -- The packet to be authenticated is built first, then the one that is sent.
  unfold sealedLog
  split
  · rename_i unbuilt
    rw [aadOptions, DeviceSession.numbered, unbuilt]
    rfl
  · rename_i emptyPkt built
    rw [aadOptions, DeviceSession.numbered, built]
    dsimp only
    split
    · rename_i unbuilt
      have missing : buildPacket (sealedOptions crypto session opts
          (emptyPkt.take ykpHeaderSize)) = none := unbuilt
      rw [missing]
      rfl
    · rename_i raw full
      have present : buildPacket (sealedOptions crypto session opts
          (emptyPkt.take ykpHeaderSize)) = some raw := full
      rw [present, List.append_assoc]
      exact sendToDevice_log _ deviceId raw

/-- The first bytes of a built packet are its header. -/
theorem built_header {opts : BuildPacketOptions} {raw : Bytes}
    (built : buildPacket opts = some raw) :
    raw.take ykpHeaderSize = headerBytes opts.header (opts.payload.getD []).length := by
  -- The layout of a built packet starts with its header.
  obtain ⟨-, rfl⟩ := buildPacket_layout built
  exact List.take_left' (headerBytes_length (header_filled opts) _)

/-- Headers that announce payloads of different lengths differ. -/
theorem headerBytes_length_injective {header : YkpHeader} (filled : header.Filled)
    {first second : Nat} (same : headerBytes header first = headerBytes header second) :
    first % 65536 = second % 65536 := by
  -- Both lengths are read back from the last two bytes.
  have one := (readsHeader filled first []).payloadLen
  have two := (readsHeader filled second []).payloadLen
  rw [← one, ← two, same]

/-- The session's numbers fit their fields exactly when the packet to be authenticated is built. -/
theorem aadOptions_built (session : DeviceSession) (opts : BuildPacketOptions) :
    buildPacket (aadOptions session opts) = none ↔ ¬ session.Fits := by
  -- Without payload only the two numbers could be too large.
  rw [buildPacket_eq_none]
  simp only [aadOptions, DeviceSession.numbered, Option.getD_some, List.length_nil,
    DeviceSession.Fits]
  omega

/-- The additional data authenticated with payloads, among log entries. -/
def authenticatedBytes (log : List ServerEvent) : List Bytes :=
  log.filterMap fun event => match event with
    | .encrypted _ _ _ aad _ => some aad
    | _ => none

/-- The additional data of every payload among log entries is the header of every packet sent. -/
def AadIsHeader (newer : List ServerEvent) : Prop :=
  ∀ aad ∈ authenticatedBytes newer, ∀ raw ∈ sentBytes newer, aad = raw.take ykpHeaderSize

instance (newer : List ServerEvent) : Decidable (AadIsHeader newer) :=
  inferInstanceAs (Decidable (∀ aad ∈ authenticatedBytes newer, _))

/-- No packet with the payload leaves the server: a number of it does not fit its field, or the
device's connection is not open. -/
def Unsendable (server : Server) (deviceId : JsString) (session : DeviceSession)
    (opts : BuildPacketOptions) : Prop :=
  ¬ session.Fits ∨ 0xFFFF < (opts.payload.getD []).length ∨ openConnection server deviceId = none

/-- The header of the packet sent is the additional data but for the payload length, and announces
the payload where the additional data announces none. -/
theorem sealed_header {crypto : ServerCrypto} {session : DeviceSession} {opts : BuildPacketOptions}
    {emptyPkt raw : Bytes} (empty : buildPacket (aadOptions session opts) = some emptyPkt)
    (built : buildPacket (sealedOptions crypto session opts (emptyPkt.take ykpHeaderSize)) =
      some raw) :
    ∃ header : YkpHeader, header.Filled ∧ emptyPkt.take ykpHeaderSize = headerBytes header 0 ∧
      raw.take ykpHeaderSize = headerBytes header
        (sealedPayload crypto session opts (emptyPkt.take ykpHeaderSize)).1.length := by
  -- The two packets are built from the same fields, the payload length apart.
  exact ⟨(aadOptions session opts).header, header_filled _, built_header empty, built_header built⟩

/-- For every payload and session, the additional data that is authenticated is the header of the
packet that is sent exactly when no such packet leaves the server. -/
theorem aad_is_header_iff (crypto : ServerCrypto)
    (lengthKept : ∀ key iv aad plaintext,
      (crypto.gcmEncrypt key iv aad plaintext).1.length = plaintext.length)
    (server : Server) (deviceId : JsString) (session : DeviceSession)
    (found : server.sessions deviceId = some session) (opts : BuildPacketOptions)
    (carries : opts.payload.getD [] ≠ []) :
    ∃ newer, (sendYkpPacket crypto server deviceId opts).log = newer ++ server.log ∧
      (AadIsHeader newer ↔ Unsendable server deviceId session opts) := by
  refine ⟨_, sendYkpPacket_sealed crypto found carries, ?_⟩
  unfold sealedLog Unsendable
  cases empty : buildPacket (aadOptions session opts) with
  | none =>
    have unfit := (aadOptions_built session opts).mp empty
    simp [AadIsHeader, authenticatedBytes, unfit]
  | some emptyPkt =>
    have fits : session.Fits := by
      have := mt (aadOptions_built session opts).mpr (by rw [empty]; simp)
      exact not_not.mp this
    have length (aad : Bytes) : (sealedPayload crypto session opts aad).1.length =
        (opts.payload.getD []).length := lengthKept _ _ _ _
    dsimp only
    cases built : buildPacket (sealedOptions crypto session opts
        (emptyPkt.take ykpHeaderSize)) with
    | none =>
      -- Only the payload can be too long for its field.
      have long : 0xFFFF < (opts.payload.getD []).length := by
        have big := buildPacket_eq_none.mp built
        simp only [sealedOptions, DeviceSession.numbered, Option.getD_some, length] at big
        have := fits.1
        have := fits.2
        omega
      have silent : deliveryLog server deviceId none = [] := by
        unfold deliveryLog
        rfl
      simp [AadIsHeader, silent, sentBytes, long]
    | some raw =>
      obtain ⟨header, filled, aad, sent⟩ := sealed_header empty built
      have short : ¬ 0xFFFF < (opts.payload.getD []).length := by
        have := (buildPacket_layout built).1
        simp only [sealedOptions, Option.getD_some, length] at this
        omega
      cases reached : openConnection server deviceId with
      | none =>
        have silent : deliveryLog server deviceId (some raw) = [] := by
          unfold deliveryLog
          rw [reached]
        simp [AadIsHeader, silent, sentBytes]
      | some conn =>
        have delivered : deliveryLog server deviceId (some raw) = [.sent conn raw] := by
          unfold deliveryLog
          rw [reached]
        have positive : 0 < (opts.payload.getD []).length := List.length_pos_iff.mpr carries
        rw [delivered]
        constructor
        · intro same
          have equal := same (emptyPkt.take ykpHeaderSize) (by simp [authenticatedBytes]) raw
            (by simp [sentBytes])
          rw [aad, sent] at equal
          have lengths := headerBytes_length_injective filled equal
          rw [length] at lengths
          omega
        · rintro (unfit | long | closed)
          · exact absurd fits unfit
          · exact absurd long short
          · cases closed

/-- A payload of three bytes for the update service of the sample device. -/
def sampleSending : BuildPacketOptions :=
  commandPacket sampleId 7 Service.ota.byte.toNat OtaAction.begin.byte.toNat (some [1, 2, 3])

/-- The server with an active session of the sample device. -/
def sampleServer : Server := serverRun openCrypto sampleHandshake

set_option maxRecDepth 4000 in
theorem aad_is_header_sample :
    ∃ session, sampleServer.sessions sampleId = some session ∧
      ∃ newer, (sendYkpPacket openCrypto sampleServer sampleId sampleSending).log =
          newer ++ sampleServer.log ∧
        (AadIsHeader newer ↔ Unsendable sampleServer sampleId session sampleSending) := by
  cases found : sampleServer.sessions sampleId with
  | none => exact absurd found (by decide +kernel)
  | some session =>
    exact ⟨session, rfl, aad_is_header_iff openCrypto (fun _ _ _ _ => rfl) sampleServer sampleId
      session found sampleSending (by decide)⟩

set_option maxRecDepth 4000 in
/-- The three bytes leave the server under a header that differs from the authenticated one. -/
theorem aad_not_header :
    let log := (sendYkpPacket openCrypto sampleServer sampleId sampleSending).log
    log.drop 2 = sampleServer.log ∧ ¬ AadIsHeader (log.take 2) := by
  constructor
  · decide +kernel
  · decide +kernel

end Ykp.Backend
