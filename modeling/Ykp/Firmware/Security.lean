import Ykp.Constants

/-! The firmware's session keys: deriving them and opening packets with them. -/

namespace Ykp.Firmware

open BigEndian

/-- The crypto library the firmware calls, as far as its results enter the firmware's state. -/
structure DeviceCrypto where
  /-- The shared secret of a private key and a peer's public key, unless the library fails. -/
  rawKeyAgreement : Bytes → Bytes → Option Bytes
  /-- The key derived from a secret, a salt and an info text: the status, and the output bytes,
  which are written even when the status reports a failure. -/
  hkdfSha256 : Bytes → Bytes → Bytes → Bool × Bytes
  /-- The plaintext of a ciphertext whose tag is right under a key, an IV and additional data. -/
  aeadDecrypt : Bytes → Bytes → Bytes → Bytes → Bytes → Option Bytes
  /-- The digest of a message. -/
  sha256 : Bytes → Bytes

/-- The keys of a session. -/
structure SessionKeys where
  sessionKey : Bytes
  sessionId : Nat
  keyVer : Nat
  active : Bool
  deriving DecidableEq, Repr

/-- The security context: the ephemeral key pair of the running handshake and the session keys. -/
structure SecurityCtx where
  ephemeralPrivate : Bytes
  ephemeralPublic : Bytes
  session : SessionKeys
  deriving DecidableEq, Repr

/-- The context before any handshake. -/
def ykpSecurityInit : SecurityCtx :=
  ⟨List.replicate 32 0, List.replicate ykpEcPubkeyLen 0, List.replicate 32 0, 0, 0, false⟩

/-- How far generating an ephemeral key pair came. -/
inductive KeyGeneration
  | failed
  /-- The private key was exported, the public key was not. -/
  | privateOnly (privateKey : Bytes)
  | generated (privateKey publicKey : Bytes)
  deriving DecidableEq, Repr

/-- A new ephemeral key pair for the next handshake. -/
def ykpSecurityGenEphemeral (ctx : SecurityCtx) : KeyGeneration → Bool × SecurityCtx
  | .failed => (false, ctx)
  | .privateOnly privateKey => (false, { ctx with ephemeralPrivate := privateKey })
  | .generated privateKey publicKey =>
    (true, { ctx with ephemeralPrivate := privateKey, ephemeralPublic := publicKey })

/-- Deriving the session key from the server's public key and a salt. -/
def ykpSecurityDeriveSessionKey (crypto : DeviceCrypto) (ctx : SecurityCtx)
    (serverEphemeralPub nonce : Bytes) (sessionId : Nat) : Bool × SecurityCtx :=
  match crypto.rawKeyAgreement ctx.ephemeralPrivate serverEphemeralPub with
  | none => (false, ctx)
  | some sharedSecret =>
    match crypto.hkdfSha256 sharedSecret nonce ykpSessionInfo with
    | (false, output) => (false, { ctx with session := { ctx.session with sessionKey := output } })
    | (true, output) =>
      (true, { ctx with session :=
        { sessionKey := output
          sessionId := sessionId
          keyVer := (ctx.session.keyVer + 1) % 2 ^ 32
          active := true } })

/-- The IV of a packet: the key version, the packet id, and zeros. -/
def deviceIv (keyVer packetId : Nat) : Bytes :=
  writeU32 keyVer ++ (writeU32 packetId ++ [0, 0, 0, 0])

/-- The size of the stack buffer that ciphertext and tag are combined in. -/
abbrev decryptStackBuf : Nat := 256

/-- Sealing a payload with the library's encryption: ciphertext and tag, or nothing unless a session
key is active and the buffer holds both. -/
def ykpSecurityEncrypt (aeadEncrypt : Bytes → Bytes → Bytes → Bytes → Option (Bytes × Bytes))
    (keys : SessionKeys) (packetId : Nat) (aad plaintext : Bytes) : Option (Bytes × Bytes) :=
  if keys.active = false then none
  else if decryptStackBuf < plaintext.length + ykpAuthTagSize then none
  else aeadEncrypt keys.sessionKey (deviceIv keys.keyVer packetId) aad plaintext

/-- Opening a payload; nothing unless a session key is active and the tag is right. -/
def ykpSecurityDecrypt (crypto : DeviceCrypto) (keys : SessionKeys) (packetId : Nat)
    (aad ciphertext authTag : Bytes) : Option Bytes :=
  if keys.active = false then none
  else if decryptStackBuf < ciphertext.length + ykpAuthTagSize then none
  else crypto.aeadDecrypt keys.sessionKey (deviceIv keys.keyVer packetId) aad ciphertext authTag

end Ykp.Firmware
