import Ykp.Codec.Utf8
import Ykp.Firmware.Provision
import Ykp.Foundation.Hmac
import Ykp.Foundation.Machine

/-! The key that commands are signed with, as the device and the app derive it from a session id. -/

namespace Ykp.System

open Firmware

/-- An integer as the app writes it as a text. -/
def decimalText (value : Int) : JsString := (toString value).toList.map Char.toNat

/-- A value of a JSON object as the app's reader returns it. -/
inductive JsonValue
  | int (value : Int32)
  | long (value : Int64)
  | text (value : JsString)
  deriving DecidableEq, Repr

def JsonValue.toText : JsonValue → JsString
  | .int value => decimalText value.toInt
  | .long value => decimalText value.toInt
  | .text value => value

/-- A value carries a session id as a number, of either width, or in decimal digits. -/
def JsonValue.Carries (sessionId : UInt32) : JsonValue → Prop
  | .int value => value.toInt = sessionId.toNat
  | .long value => value.toInt = sessionId.toNat
  | .text value => value = decimalText sessionId.toNat

instance (sessionId : UInt32) : (value : JsonValue) → Decidable (value.Carries sessionId)
  | .int _ => inferInstanceAs (Decidable (_ = _))
  | .long _ => inferInstanceAs (Decidable (_ = _))
  | .text _ => inferInstanceAs (Decidable (_ = _))

/-- What the app keeps of a session. -/
structure YkpBleManager where
  sessionId : JsString
  hmacKey : Bytes
  deriving DecidableEq, Repr

section Keys

variable (sha256 : BlockHash 64 32)

namespace YkpBleManager

/-- The key of a session id. -/
def deriveHmacKey (sessionIdValue : JsonValue) : Bytes :=
  let salt := utf8Encode sessionIdValue.toText
  -- A key without bytes is refused, and the handler falls back to zeros.
  if salt = [] then List.replicate 32 0
  else
    let pairingKey := List.replicate 32 0x01
    let prk := sha256.hmac salt pairingKey
    let info := textBytes "YKP_HMAC_KEY"
    sha256.hmac prk (info ++ [0x01])

/-- The manager when it is created. -/
def init : YkpBleManager := ⟨[], deriveHmacKey sha256 (.int 0)⟩

/-- A notification, of which only the session id counts here. -/
def handleIncomingLine (manager : YkpBleManager) : Option JsonValue → YkpBleManager
  | none => manager
  | some sId =>
    let sIdStr := sId.toText
    if sIdStr ≠ [] ∧ sIdStr ≠ decimalText 0 ∧ sIdStr ≠ manager.sessionId then
      { sessionId := sIdStr, hmacKey := deriveHmacKey sha256 sId }
    else manager

end YkpBleManager

/-- A call of the device's HMAC, which fails for a key longer than its buffer. -/
def mbedtlsHmacCall (key msg : Bytes) : Option Bytes :=
  if 64 < key.length then none else some (mbedtlsHmacSha256 sha256.digest key msg)

/-- The key as the device's calls derive it, with the salt in a buffer of 16 characters. -/
def deriveHmacKeyCalls (sessionId : UInt32) : Option Bytes := do
  let salt := (decimalBytes sessionId.toNat).take 15
  let prk ← mbedtlsHmacCall sha256 salt (List.replicate 32 0x01)
  mbedtlsHmacCall sha256 prk (textBytes "YKP_HMAC_KEY" ++ [0x01])

/-- The device's HMAC is the code under a key of at most one block. -/
theorem mbedtlsHmacSha256_short {key : Bytes} (short : key.length ≤ 64) (msg : Bytes) :
    mbedtlsHmacSha256 sha256.digest key msg = sha256.hmac key msg := by
  unfold mbedtlsHmacSha256 BlockHash.hmac
  rw [sha256.keyBlock_short short]

/-- A 32-bit number has at most ten digits. -/
theorem decimalBytes_length_le (value : UInt32) : (decimalBytes value.toNat).length ≤ 10 := by
  rw [decimalBytes, List.length_map]
  exact (Nat.length_toDigits_le_iff (by decide) (by decide)).mpr
    (Nat.lt_trans value.toNat_lt (by decide))

/-- The device's key is the key material of the digits of the session id. -/
theorem deriveHmacKey_eq (sessionId : UInt32) :
    deriveHmacKey sha256.digest sessionId.toNat = sha256.hkdf (decimalBytes sessionId.toNat)
      (List.replicate 32 0x01) (textBytes "YKP_HMAC_KEY") 32 := by
  have salt : (decimalBytes sessionId.toNat).length ≤ 64 :=
    Nat.le_trans (decimalBytes_length_le sessionId) (by decide)
  -- Neither the digits nor a digest is longer than a block.
  unfold deriveHmacKey
  dsimp only
  rw [mbedtlsHmacSha256_short sha256 salt, mbedtlsHmacSha256_short sha256 (by simp),
    BlockHash.hkdf_one_block _ _ _ _ (by decide)]

/-- No call of the device fails, and its buffer has room for the digits. -/
theorem deriveHmacKeyCalls_eq (sessionId : UInt32) :
    deriveHmacKeyCalls sha256 sessionId = some (deriveHmacKey sha256.digest sessionId.toNat) := by
  have digits := decimalBytes_length_le sessionId
  have whole : (decimalBytes sessionId.toNat).take 15 = decimalBytes sessionId.toNat :=
    List.take_of_length_le (Nat.le_trans digits (by decide))
  have call {key : Bytes} (short : key.length ≤ 64) (msg : Bytes) :
      mbedtlsHmacCall sha256 key msg = some (mbedtlsHmacSha256 sha256.digest key msg) :=
    if_neg (Nat.not_lt.mpr short)
  -- Only the first key could be too long for a block; the other one is a digest.
  have salt : (decimalBytes sessionId.toNat).length ≤ 64 := Nat.le_trans digits (by decide)
  unfold deriveHmacKeyCalls deriveHmacKey
  dsimp only
  rw [whole, call salt, Option.bind_eq_bind, Option.bind_some, call]
  rw [mbedtlsHmacSha256_short sha256 salt]
  simp

end Keys

/-- The digits of a number as a text. -/
theorem decimalText_eq (value : Nat) :
    decimalText value = (Nat.toDigits 10 value).map Char.toNat :=
  congrArg (List.map Char.toNat) Nat.toList_repr

/-- Digits are ASCII. -/
theorem decimalText_ascii (value : Nat) : ∀ unit ∈ decimalText value, unit < 0x80 := by
  intro unit member
  rw [decimalText_eq] at member
  obtain ⟨digit, among, rfl⟩ := List.mem_map.mp member
  have isDigit := Nat.isDigit_of_mem_toDigits (by decide) (by decide) among
  simp only [Char.isDigit, Bool.and_eq_true, decide_eq_true_eq] at isDigit
  exact Nat.lt_of_le_of_lt isDigit.2 (by decide)

/-- The ASCII bytes of a number are its digits. -/
theorem asciiBytes_decimalText (value : Nat) :
    asciiBytes (decimalText value) = decimalBytes value := by
  rw [decimalText_eq, asciiBytes, List.map_map, decimalBytes]
  rfl

/-- The UTF-8 bytes of a number are its digits. -/
theorem utf8Encode_decimalText (value : Nat) :
    utf8Encode (decimalText value) = decimalBytes value := by
  rw [utf8Encode_ascii (decimalText_ascii value), asciiBytes_decimalText]

/-- Different numbers have different digits. -/
theorem decimalText_injective {first second : Nat}
    (same : decimalText first = decimalText second) : first = second := by
  rw [decimalText_eq, decimalText_eq] at same
  have digits : Nat.toDigits 10 first = Nat.toDigits 10 second :=
    List.map_injective_iff.mpr (fun _ _ equal => Char.toNat_inj.mp equal) same
  rw [← @Nat.ofDigitChars_ten_toDigits first, digits, Nat.ofDigitChars_ten_toDigits]

/-- However a value carries a session id, its text are the digits. -/
theorem JsonValue.Carries.toText {sessionId : UInt32} {value : JsonValue}
    (carries : value.Carries sessionId) : value.toText = decimalText sessionId.toNat := by
  cases value with
  | int value => exact congrArg decimalText carries
  | long value => exact congrArg decimalText carries
  | text value => exact carries

section Keys

variable (sha256 : BlockHash 64 32)

/-- The app's key is the key material of the digits of the session id. -/
theorem YkpBleManager.deriveHmacKey_eq {sessionId : UInt32} {value : JsonValue}
    (carries : value.Carries sessionId) :
    YkpBleManager.deriveHmacKey sha256 value = sha256.hkdf (decimalBytes sessionId.toNat)
      (List.replicate 32 0x01) (textBytes "YKP_HMAC_KEY") 32 := by
  have salt : utf8Encode value.toText = decimalBytes sessionId.toNat := by
    rw [carries.toText, utf8Encode_decimalText]
  have filled : decimalBytes sessionId.toNat ≠ [] := by
    simp [decimalBytes, Nat.toDigits_ne_nil]
  unfold YkpBleManager.deriveHmacKey
  dsimp only
  rw [salt, if_neg filled, BlockHash.hkdf_one_block _ _ _ _ (by decide)]

/-- A manager that knows a session id keeps its key. -/
def YkpBleManager.Keyed (manager : YkpBleManager) : Prop :=
  manager.sessionId ≠ [] →
    manager.hmacKey = YkpBleManager.deriveHmacKey sha256 (.text manager.sessionId)

/-- No notification takes the key from a manager. -/
theorem keyed_step (manager : YkpBleManager) (notification : Option JsonValue)
    (keyed : manager.Keyed sha256) : (manager.handleIncomingLine sha256 notification).Keyed sha256 := by
  unfold YkpBleManager.handleIncomingLine
  split
  · exact keyed
  · dsimp only
    split
    · -- The key depends on the text of the value only.
      exact fun _ => rfl
    · exact keyed

/-- A notification with a session id other than zero leaves the manager with the key of that id. -/
theorem YkpBleManager.Keyed.receives {manager : YkpBleManager} (keyed : manager.Keyed sha256)
    {value : JsonValue} (filled : value.toText ≠ []) (other : value.toText ≠ decimalText 0) :
    (manager.handleIncomingLine sha256 (some value)).hmacKey =
      YkpBleManager.deriveHmacKey sha256 value := by
  unfold YkpBleManager.handleIncomingLine
  dsimp only
  -- A new id derives its key, and a known one keeps the key it had.
  split
  · rfl
  · -- The id is the one the manager knows, and it holds its key.
    rename_i known
    have same : value.toText = manager.sessionId := by
      by_contra different
      exact known ⟨filled, other, different⟩
    rw [keyed (same ▸ filled), ← same]
    rfl

/-- For every session id the device and the app derive the same key, whether the app gets the id as a
number or in decimal digits; and after a notification that carries an id other than zero the app's
manager holds that key, whatever notifications came before. -/
theorem hmac_keys_agree (sessionId : UInt32) (value : JsonValue)
    (carries : value.Carries sessionId) :
    deriveHmacKeyCalls sha256 sessionId = some (deriveHmacKey sha256.digest sessionId.toNat) ∧
    deriveHmacKey sha256.digest sessionId.toNat = YkpBleManager.deriveHmacKey sha256 value ∧
    (sessionId ≠ 0 → ∀ notifications : List (Option JsonValue),
      ((Machine.run (YkpBleManager.handleIncomingLine sha256) (YkpBleManager.init sha256)
        notifications).handleIncomingLine sha256 (some value)).hmacKey =
          deriveHmacKey sha256.digest sessionId.toNat) := by
  have agree : deriveHmacKey sha256.digest sessionId.toNat =
      YkpBleManager.deriveHmacKey sha256 value := by
    rw [deriveHmacKey_eq, YkpBleManager.deriveHmacKey_eq sha256 carries]
  refine ⟨deriveHmacKeyCalls_eq sha256 sessionId, agree, fun nonzero notifications => ?_⟩
  -- Before the notification the manager holds the key of the id it knows, if it knows one.
  have keyed := Machine.invariant_reached (keyed_step sha256) notifications
    (show (YkpBleManager.init sha256).Keyed sha256 from fun known => absurd rfl known)
  have filled : value.toText ≠ [] := by
    rw [carries.toText, decimalText_eq]
    simp [Nat.toDigits_ne_nil]
  have other : value.toText ≠ decimalText 0 := by
    rw [carries.toText]
    exact fun same => nonzero (UInt32.toNat_inj.mp (decimalText_injective same))
  rw [agree]
  exact keyed.receives sha256 filled other

end Keys

/-- The greatest session id, which the app gets as a long integer. -/
theorem hmac_keys_agree_sample :
    deriveHmacKey (fun _ => List.replicate 32 7) 4294967295 =
      YkpBleManager.deriveHmacKey ⟨fun _ => List.replicate 32 7, fun _ => rfl⟩ (.long 4294967295) :=
  (hmac_keys_agree ⟨fun _ => List.replicate 32 7, fun _ => rfl⟩ 4294967295 (.long 4294967295)
    (by decide)).2.1

end Ykp.System
