import Ykp.Firmware.Security

/-! The firmware's session record: packet counter, key rotation and the authentication state. -/

namespace Ykp.Firmware

/-- The states of the authentication handshake. -/
inductive SessionState
  | idle | helloSent | ecdhSent | active | rotating | closed
  deriving DecidableEq, Repr

/-- The session record. -/
structure YkpSession where
  state : SessionState
  sessionId : Nat
  packetCounter : Nat
  keyRotateAt : Nat
  sessionStartMs : Nat
  serverNonce : Bytes
  needsKeyRotate : Bool
  deriving DecidableEq, Repr

/-- Packets after which the key is rotated. -/
abbrev ykpKeyRotatePacketCount : Nat := 1000

/-- Milliseconds after which the key is rotated. -/
abbrev ykpKeyRotateIntervalMs : Nat := 1800000

/-- The record at boot. -/
def ykpSessionInit : YkpSession where
  state := .idle
  sessionId := 0
  packetCounter := 1
  keyRotateAt := ykpKeyRotatePacketCount
  sessionStartMs := 0
  serverNonce := List.replicate ykpNonceLen 0
  needsKeyRotate := false

/-- The next packet id, and the record that has counted it. -/
def ykpSessionNextPacketId (s : YkpSession) (nowUs : Nat) : Nat × YkpSession :=
  let counter := (s.packetCounter + 1) % 2 ^ 32
  let nowMs := nowUs / 1000
  let timeDue := 0 < s.sessionStartMs ∧ s.sessionStartMs + ykpKeyRotateIntervalMs ≤ nowMs
  let countDue := s.keyRotateAt ≤ counter
  (counter, { s with
    packetCounter := counter
    needsKeyRotate := s.needsKeyRotate || timeDue || countDue })

/-- The session is active under an id from now on. -/
def ykpSessionSetActive (s : YkpSession) (sessionId nowUs : Nat) : YkpSession :=
  { s with
    sessionId := sessionId
    state := .active
    sessionStartMs := nowUs / 1000
    packetCounter := 1
    needsKeyRotate := false }

/-- A nonce overwrites the first bytes of the stored one, at most sixteen of them. -/
def ykpSessionStoreNonce (s : YkpSession) (nonce : Bytes) : YkpSession :=
  let copied := nonce.take ykpNonceLen
  { s with serverNonce := copied ++ s.serverNonce.drop copied.length }

def ykpSessionIsActive (s : YkpSession) : Bool := s.state == .active

/-- The handshake starts over: the record is cleared and the session keys are put out of use. -/
def ykpSessionReset (s : YkpSession) (ctx : SecurityCtx) : YkpSession × SecurityCtx :=
  ({ s with
      state := .idle
      sessionId := 0
      packetCounter := 1
      needsKeyRotate := false
      sessionStartMs := 0
      serverNonce := List.replicate ykpNonceLen 0 },
    { ctx with session := { ctx.session with active := false } })

def ykpSessionRotationDue (s : YkpSession) : Bool := s.needsKeyRotate

end Ykp.Firmware
