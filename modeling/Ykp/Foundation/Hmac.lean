import Mathlib.Tactic.Common

/-! Message codes and key derivation over a hash function that works on blocks. -/

/-- A hash function with the size of its blocks and of its digests, in bytes. -/
structure BlockHash (blockSize digestSize : Nat) where
  digest : List UInt8 → List UInt8
  digest_length : ∀ message, (digest message).length = digestSize

namespace BlockHash

variable {blockSize digestSize : Nat} (hash : BlockHash blockSize digestSize)

/-- A key brought to one block: hashed if it is longer, then filled with zeros. -/
def keyBlock (key : List UInt8) : List UInt8 :=
  let short := if blockSize < key.length then hash.digest key else key
  short ++ List.replicate (blockSize - short.length) 0

/-- The code of a message under a key: the inner digest is hashed once more behind the key. -/
def hmac (key message : List UInt8) : List UInt8 :=
  let inner := (hash.keyBlock key).map (· ^^^ 0x36)
  let outer := (hash.keyBlock key).map (· ^^^ 0x5C)
  hash.digest (outer ++ hash.digest (inner ++ message))

/-- Blocks of key material, each the code of the one before it, a text and a counter. -/
def expandBlocks (prk info : List UInt8) : Nat → List UInt8 → Nat → List UInt8
  | 0, _, _ => []
  | blocks + 1, previous, counter =>
    let block := hash.hmac prk (previous ++ info ++ [UInt8.ofNat counter])
    block ++ expandBlocks prk info blocks block (counter + 1)

/-- Key material of a given length from input material, a salt and a text. -/
def hkdf (salt ikm info : List UInt8) (len : Nat) : List UInt8 :=
  let prk := hash.hmac salt ikm
  (hash.expandBlocks prk info ((len + digestSize - 1) / digestSize) [] 1).take len

/-- A key of at most one block is only filled up. -/
theorem keyBlock_short {key : List UInt8} (short : key.length ≤ blockSize) :
    hash.keyBlock key = key ++ List.replicate (blockSize - key.length) 0 := by
  unfold keyBlock
  rw [if_neg (Nat.not_lt.mpr short)]

/-- A code is as long as a digest. -/
@[simp] theorem hmac_length (key message : List UInt8) :
    (hash.hmac key message).length = digestSize := hash.digest_length _

/-- Key material of the length of a digest is a single block. -/
theorem hkdf_one_block (salt ikm info : List UInt8) (positive : 0 < digestSize) :
    hash.hkdf salt ikm info digestSize = hash.hmac (hash.hmac salt ikm) (info ++ [1]) := by
  have blocks : (digestSize + digestSize - 1) / digestSize = 1 := by
    rw [Nat.add_sub_assoc positive, Nat.add_div_left _ positive,
      Nat.div_eq_of_lt (Nat.sub_lt positive Nat.one_pos)]
  have first : hash.expandBlocks (hash.hmac salt ikm) info 1 [] 1 =
      hash.hmac (hash.hmac salt ikm) (info ++ [1]) := by
    -- The first block follows an empty one and carries the counter 1.
    simp [expandBlocks]
  unfold hkdf
  rw [blocks]
  dsimp only
  rw [first]
  exact List.take_of_length_le (Nat.le_of_eq (hash.hmac_length _ _))

end BlockHash
