import Ykp.Constants

/-! The server's key derivation and payload encryption, over the crypto module it is built on. -/

namespace Ykp.Backend

open BigEndian

/-- The crypto module the server calls. -/
structure ServerCrypto where
  /-- The shared secret of a private key and a peer's public key, unless the module throws. -/
  computeSecret : Bytes → Bytes → Option Bytes
  /-- The code of a message under a key. -/
  hmacSha256 : Bytes → Bytes → Bytes
  /-- Ciphertext and tag of a plaintext under a key, an IV and additional data. -/
  gcmEncrypt : Bytes → Bytes → Bytes → Bytes → Bytes × Bytes
  /-- The plaintext of a ciphertext whose tag is right under a key, an IV and additional data. -/
  gcmDecrypt : Bytes → Bytes → Bytes → Bytes → Bytes → Option Bytes

/-- The expansion blocks still needed, one for each unit of fuel. -/
def hkdfBlocks (crypto : ServerCrypto) (prk info : Bytes) : Nat → Bytes → Nat → Nat → Bytes
  | 0, _, _, _ => []
  | fuel + 1, prev, remaining, counter =>
    if remaining = 0 then []
    else
      let block := crypto.hmacSha256 prk (prev ++ (info ++ [UInt8.ofNat counter]))
      block ++ hkdfBlocks crypto prk info fuel block (remaining - block.length) (counter + 1)

/-- Key material of a given length from input material, a salt and an info text. -/
def hkdf (crypto : ServerCrypto) (ikm salt info : Bytes) (len : Nat) : Bytes :=
  let prk := crypto.hmacSha256 salt ikm
  (hkdfBlocks crypto prk info len [] len 1).take len

/-- The session key of an ECDH exchange; the session id takes no part in it. -/
def deriveSessionKey (crypto : ServerCrypto) (ecdhPrivateKey clientPublicKey nonce : Bytes)
    (_sessionId : Nat) : Option Bytes :=
  (crypto.computeSecret ecdhPrivateKey clientPublicKey).map fun sharedSecret =>
    hkdf crypto sharedSecret nonce ykpSessionInfo 32

/-- The IV of a packet: the key version, the packet id, and zeros. -/
def serverIv (keyVer packetId : Nat) : Bytes :=
  writeU32 keyVer ++ (writeU32 packetId ++ [0, 0, 0, 0])

/-- Encrypting a payload. -/
def encrypt (crypto : ServerCrypto) (sessionKey : Bytes) (keyVer packetId : Nat)
    (aad plaintext : Bytes) : Bytes × Bytes :=
  crypto.gcmEncrypt sessionKey (serverIv keyVer packetId) aad plaintext

/-- Decrypting a payload; nothing when the tag is wrong. -/
def decrypt (crypto : ServerCrypto) (sessionKey : Bytes) (keyVer packetId : Nat)
    (aad ciphertext authTag : Bytes) : Option Bytes :=
  crypto.gcmDecrypt sessionKey (serverIv keyVer packetId) aad ciphertext authTag

end Ykp.Backend
