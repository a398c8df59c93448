import Ykp.Codec.Digits
import Ykp.Firmware.UdpVectors
import Ykp.Foundation.Hmac

/-! Commands on the local network: what the app sends, and what the device's UDP server opens. -/

namespace Ykp.System

open Firmware BigEndian LittleEndian

/-- Sealed text is longer than the text by the tag, and opens to it under the same key and IV. -/
structure AesGcmLaws (gcm : AesGcm) : Prop where
  length : ∀ tagSize key iv text,
    (gcm.encrypt tagSize key iv text).length = text.length + tagSize
  opens : ∀ tagSize key iv text,
    gcm.decrypt tagSize key iv (gcm.encrypt tagSize key iv text) = some text

namespace UdpCryptoUtils

variable (sha256 : BlockHash 64 32)

def ikm : Bytes := textBytes "Test_Secret_IKM_Phase1_App"
def salt : Bytes := textBytes "Phase1_Salt"
def info : Bytes := textBytes "UDP_AES_GCM_256"

/-- An empty salt is replaced by zeros. -/
def hkdfExtract (salt ikm : Bytes) : Bytes :=
  sha256.hmac (if salt = [] then List.replicate 32 0 else salt) ikm

/-- The turns that are left, each with the block of the one before and its number. -/
def expandTurns (prk info : Bytes) : Nat → Bytes → Nat → Nat → Bytes
  | 0, _, _, _ => []
  | turns + 1, t, number, missing =>
    if missing = 0 then []
    else
      let block := sha256.hmac prk (t ++ info ++ [UInt8.ofNat number])
      block.take missing ++
        expandTurns prk info turns block (number + 1) (missing - min block.length missing)

/-- Key material of so many bytes; each turn makes at least one of them. -/
def hkdfExpand (prk info : Bytes) (length : Nat) : Bytes :=
  expandTurns sha256 prk info length [] 1 length

/-- The key of the app. -/
def deriveAesKey : Bytes := hkdfExpand sha256 (hkdfExtract sha256 salt ikm) info 32

/-- A command as two entries: the action, and the packet id. -/
def payload (cmd : UInt8) (packetId : Int32) : Bytes :=
  [0x01, 1, cmd] ++ ([0x02, 4] ++ writeU32 packetId.toUInt32.toNat)

/-- The datagram of a command: the drawn IV, and the sealed entries with a tag of twelve bytes. -/
def encryptCommand (gcm : AesGcm) (iv : Bytes) (cmd : UInt8) (packetId : Int32) : Bytes :=
  let ciphertextWithTag := gcm.encrypt 12 (deriveAesKey sha256) iv (payload cmd packetId)
  iv ++ ciphertextWithTag

/-- The app's key is the key material that the device derives from the same three texts. -/
theorem deriveAesKey_eq : deriveAesKey sha256 = sha256.hkdf salt ikm info 32 := by
  have filled : salt ≠ [] := by decide
  have whole : (sha256.hmac (sha256.hmac salt ikm) (info ++ [1])).take 32 =
      sha256.hmac (sha256.hmac salt ikm) (info ++ [1]) :=
    List.take_of_length_le (Nat.le_of_eq (sha256.hmac_length _ _))
  -- One turn makes all bytes, and the next one finds none missing.
  rw [BlockHash.hkdf_one_block _ _ _ _ (by decide)]
  unfold deriveAesKey hkdfExpand hkdfExtract
  rw [if_neg filled]
  simp [expandTurns, whole]

/-- A command is sent in thirty-three bytes: the IV, two entries and the tag. -/
theorem encryptCommand_length {gcm : AesGcm} (laws : AesGcmLaws gcm) {iv : Bytes}
    (drawn : iv.length = 12) (cmd : UInt8) (packetId : Int32) :
    (encryptCommand sha256 gcm iv cmd packetId).length = 33 := by
  have entries : (payload cmd packetId).length = 9 := rfl
  unfold encryptCommand
  rw [List.length_append, laws.length, drawn, entries]

end UdpCryptoUtils

/-- A datagram laid out as the device's own replies are is opened to its opcode, if its session id
is the current one and its counter is new. -/
theorem opened_sealed {gcm : AesGcm} (laws : AesGcmLaws gcm) {env : UdpEnv} {server : UdpServer}
    {counter : UInt32} (newer : server.lastAppRxCounter < counter) (able : env.decryptOk = true)
    (opcode : UInt8) :
    let iv := udpIv server.currentSessionId counter
    server.opened gcm env (writeWord server.currentSessionId ++ writeWord counter ++
      gcm.encrypt 16 server.sharedAesKey iv [opcode]) = some opcode := by
  intro iv
  -- The datagram is read in three parts: two words, which make the IV, and the sealed opcode.
  let words := writeWord server.currentSessionId ++ writeWord counter
  let sealedText := gcm.encrypt 16 server.sharedAesKey iv [opcode]
  have eight : words.length = 8 := rfl
  have size : (words ++ sealedText).length = sealedSize := by
    rw [List.length_append, eight, laws.length]
    rfl
  have session : datagramSession (words ++ sealedText) = server.currentSessionId := by
    unfold datagramSession words
    rw [List.append_assoc, readWord_append]
  have counts : datagramCounter (words ++ sealedText) = counter := by
    unfold datagramCounter words
    rw [List.append_assoc, List.drop_left' (writeWord_length _), readWord_append]
  have vector : datagramIv (words ++ sealedText) = iv := by
    rw [datagramIv, List.take_left' eight]
    rfl
  have behind : (words ++ sealedText).drop 8 = sealedText := List.drop_left' eight
  have late : ¬ (counter ≤ server.lastAppRxCounter ∧ server.lastAppRxCounter ≠ 0) :=
    fun old => absurd old.1 (UInt32.not_le.mpr newer)
  unfold UdpServer.opened
  rw [if_neg (not_not_intro size), session, if_neg (not_not_intro rfl), counts, if_neg late,
    if_neg (by simp [able]), vector, behind, laws.opens]

variable (sha256 : BlockHash 64 32)

/-- The server accepts a command of the app and opens it to the same opcode. -/
def Understands (gcm : AesGcm) (server : UdpServer) (env : UdpEnv) (iv : Bytes) (cmd : UInt8)
    (packetId : Int32) : Prop :=
  ∃ passed ∈ server.accepts gcm
    (.datagram (UdpCryptoUtils.encryptCommand sha256 gcm iv cmd packetId) env),
    passed.opcode = cmd

/-- No command of the app passes the checks: its datagram is longer than a sealed one. -/
theorem app_command_unaccepted {gcm : AesGcm} (laws : AesGcmLaws gcm) (server : UdpServer)
    (env : UdpEnv) {iv : Bytes} (drawn : iv.length = 12) (cmd : UInt8) (packetId : Int32) :
    server.accepts gcm
      (.datagram (UdpCryptoUtils.encryptCommand sha256 gcm iv cmd packetId) env) = none := by
  have length := UdpCryptoUtils.encryptCommand_length sha256 laws drawn cmd packetId
  -- The buffer of the server holds all of it, and the length is checked first.
  have long : ((UdpCryptoUtils.encryptCommand sha256 gcm iv cmd packetId).take udpRxSize).length ≠
      sealedSize := by
    rw [List.length_take, length]
    decide
  unfold UdpServer.accepts
  dsimp only
  cases server.letIn env with
  | none => rfl
  | some front =>
    dsimp only [Option.bind]
    rw [UdpServer.opened_short long]
    rfl

/-- No command of the app is understood, whatever the server's state, the drawn IV and the packet id
are; the server acts upon nothing. -/
theorem app_command_never_understood {gcm : AesGcm} (laws : AesGcmLaws gcm) (server : UdpServer)
    (env : UdpEnv) {iv : Bytes} (drawn : iv.length = 12) (cmd : UInt8) (packetId : Int32) :
    let input := UdpInput.datagram (UdpCryptoUtils.encryptCommand sha256 gcm iv cmd packetId) env
    ¬ Understands sha256 gcm server env iv cmd packetId ∧
      acceptedDatagrams (udpServerTask gcm server input).log = acceptedDatagrams server.log := by
  intro input
  have unaccepted := app_command_unaccepted sha256 laws server env drawn cmd packetId
  constructor
  · rintro ⟨passed, found, -⟩
    rw [unaccepted] at found
    cases found
  · -- A turn without an accepted datagram leaves those acted upon as they were.
    have moves := udpServerTask_moves gcm server input
    rw [unaccepted] at moves
    obtain ⟨front, fronts, idles⟩ := moves
    rw [idles.rests.same.2, fronts.rests.same.2]

/-- A hash function with one digest for all messages. -/
def sampleHash : BlockHash 64 32 := ⟨fun _ => List.replicate 32 0xA5, by simp⟩

/-- A server with the app's key, in front of its first datagram. -/
def sampleUdpServer : UdpServer :=
  udpServerStart (UdpCryptoUtils.deriveAesKey sampleHash) 0 (bootDevice sampleDevice)

/-- An IV that would be read as the session zero and the counter one. -/
def currentIv : Bytes := udpIv 0 1

theorem plainGcm_laws : AesGcmLaws plainGcm := by
  constructor
  · intro tagSize key iv text
    simp [plainGcm]
  · intro tagSize key iv text
    simp [plainGcm]

theorem app_command_sample :
    ¬ Understands sampleHash plainGcm sampleUdpServer sampleUdpEnv currentIv cmdOn 7 :=
  (app_command_never_understood sampleHash plainGcm_laws sampleUdpServer sampleUdpEnv
    (by decide) cmdOn 7).1

/-- With the same key at both ends, the current session id and the next counter, the command to
switch on is not understood. -/
theorem app_command_dropped :
    let datagram := UdpCryptoUtils.encryptCommand sampleHash plainGcm currentIv cmdOn 7
    sampleUdpServer.sharedAesKey = UdpCryptoUtils.deriveAesKey sampleHash ∧
      datagramSession datagram = sampleUdpServer.currentSessionId ∧
      sampleUdpServer.lastAppRxCounter < datagramCounter datagram ∧
      ¬ Understands sampleHash plainGcm sampleUdpServer sampleUdpEnv currentIv cmdOn 7 := by
  have unaccepted : (sampleUdpServer.accepts plainGcm (.datagram
      (UdpCryptoUtils.encryptCommand sampleHash plainGcm currentIv cmdOn 7)
      sampleUdpEnv)).isNone = true := by decide +kernel
  refine ⟨rfl, by decide +kernel, by decide +kernel, ?_⟩
  rintro ⟨passed, found, -⟩
  rw [found] at unaccepted
  cases unaccepted

end Ykp.System
