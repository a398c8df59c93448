import Ykp.Backend.Binding
import Ykp.Codec.MapLookup
import Ykp.Firmware.Handshake
import Ykp.System.Wire

/-! Which keys and salts the two ends of a handshake derive their session keys from. -/

namespace Ykp.System

open Firmware Backend BigEndian

/-- The fields of a HELLO. -/
def helloFields (deviceId : DeviceId) (publicKey : Bytes)
    (size : publicKey.length = ykpEcPubkeyLen) : List Field :=
  [⟨TlvType.deviceId.byte, textItem deviceId.bytes (by have := deviceId.short; simp at this; omega)⟩,
    ⟨TlvType.publicKey.byte, bytesItem publicKey (by simp [size])⟩,
    ⟨TlvType.firmwareVer.byte, textItem ykpFirmwareVersion (by decide)⟩]

/-- The fields of a CHALLENGE. -/
def challengeFields (draws : Draws) : List Field :=
  [⟨TlvType.nonce.byte, bytesItem draws.nonce (by simp [draws.nonceLength])⟩,
    ⟨TlvType.publicKey.byte, bytesItem draws.publicKey (by simp [draws.publicKeyLength])⟩]

/-- The payload of a HELLO is the map of its fields. -/
theorem helloPayload_map (deviceId : DeviceId) {publicKey : Bytes}
    (size : publicKey.length = ykpEcPubkeyLen) :
    helloPayload deviceId publicKey = mapBytes (helloFields deviceId publicKey size) := by
  have short : deviceId.bytes.length ≤ 8 := deviceId.short
  have text := cString_eq deviceId.noNul
  have version : cString ykpFirmwareVersion = ykpFirmwareVersion := by decide
  have head : textHead deviceId.bytes.length = [0x60 ||| UInt8.ofNat deviceId.bytes.length] :=
    if_pos (by omega)
  have idWrites := cborEncodeStr_writes deviceId.bytes
  have keyWrites := cborEncodeBytes_writes publicKey
  have versionWrites := cborEncodeStr_writes ykpFirmwareVersion
  rw [text, head] at idWrites
  rw [size] at keyWrites
  rw [version] at versionWrites
  -- Each field finds room behind the fields in front of it.
  simp only [helloPayload, ykpTlvAddString, ykpTlvAddBytes]
  rw [ykpTlvAdd_fits .deviceId idWrites (by
      simp [ykpTlvBuilderInit, keyBytes, TlvType.byte]; omega),
    ykpTlvAdd_fits .publicKey keyWrites (by
      simp [ykpTlvBuilderInit, keyBytes, TlvType.byte, size, bytesHead]; omega),
    ykpTlvAdd_fits .firmwareVer versionWrites (by
      simp [ykpTlvBuilderInit, keyBytes, TlvType.byte, size, bytesHead, textHead,
        ykpFirmwareVersion]; omega),
    ykpTlvBuilderLen_room (by
      simp [ykpTlvBuilderInit, keyBytes, TlvType.byte, size, bytesHead, textHead,
        ykpFirmwareVersion]; omega)]
  simp [ykpTlvBuilderInit, mapBytes, helloFields, fieldBytes, Field.bytes, bytesItem, textItem,
    size, head]

/-- The payload of a CHALLENGE is the map of its fields. -/
theorem challengePayload_map (draws : Draws) :
    challengePayload draws.nonce draws.publicKey = mapBytes (challengeFields draws) := by
  simp [challengePayload, TlvBuilder.build, TlvBuilder.addBytes, TlvBuilder.add, TlvBuilder.new,
    mapBytes, challengeFields, fieldBytes, Field.bytes, bytesItem]

/-- What a lookup in the payload of a packet finds. -/
theorem payloadFind_map (env : DeviceEnv) {pkt : YkpPacket} {fields : List Field}
    (body : pkt.payload = some (mapBytes fields)) (length : pkt.payloadLen = (mapBytes fields).length)
    (short : (mapBytes fields).length ≤ 65535) (type : TlvType) {field : Field}
    (found : fieldFor fields type.byte = some field) :
    ∃ tlv, payloadFind env pkt type = .found tlv ∧ tlv.length = field.item.bytes.length ∧
      ∀ count ≤ field.item.bytes.length,
        readBytes (payloadMemory env pkt) tlv.start count = field.item.bytes.take count := by
  obtain ⟨tlv, outcome, size, reads⟩ := ykpTlvFind_found found env.beyond short
  -- The lookup and the memory behind it are those of the payload.
  refine ⟨tlv, ?_, size, fun count within => ?_⟩
  · simp only [payloadFind, payloadMemory, body, length, Option.getD_some, outcome]
  · simp only [payloadMemory, body, Option.getD_some, reads count within]

/-- A device that takes a CHALLENGE derives its key from the first bytes of the two fields, their
value headers included, and answers. -/
theorem handleChallenge_derives (crypto : DeviceCrypto) {env : DeviceEnv} {pkt : YkpPacket}
    (device : Device) {fields : List Field} {nonce key : Field}
    (body : pkt.payload = some (mapBytes fields)) (length : pkt.payloadLen = (mapBytes fields).length)
    (short : (mapBytes fields).length ≤ 65535)
    (nonceFound : fieldFor fields TlvType.nonce.byte = some nonce)
    (keyFound : fieldFor fields TlvType.publicKey.byte = some key)
    (nonceLong : ykpNonceLen ≤ nonce.item.bytes.length)
    (keyLong : ykpEcPubkeyLen ≤ key.item.bytes.length) (signed : env.signature ≠ none)
    (allocated : env.allocOk = true) (stored : device.session.serverNonce.length ≤ ykpNonceLen) :
    ∃ raw ok, (handleChallenge crypto env pkt device).log = .wsSend raw ::
        .derived (key.item.bytes.take ykpEcPubkeyLen) (nonce.item.bytes.take ykpNonceLen)
          pkt.header.packetId ok :: device.log ∧
      ∃ payload, payload.length < 65536 ∧ Carries raw .ecdhResponse payload := by
  obtain ⟨nonceTlv, nonceAt, nonceSize, nonceRead⟩ :=
    payloadFind_map env body length short .nonce nonceFound
  obtain ⟨keyTlv, keyAt, -, keyRead⟩ := payloadFind_map env body length short .publicKey keyFound
  obtain ⟨signature, signing⟩ := Option.ne_none_iff_exists'.mp signed
  -- The nonce fills the whole array it is copied into.
  have copied : (ykpSessionStoreNonce device.session nonce.item.bytes).serverNonce =
      nonce.item.bytes.take ykpNonceLen := by
    -- So nothing is left of the nonce that was stored before.
    have nothing : device.session.serverNonce.drop (nonce.item.bytes.take ykpNonceLen).length = [] :=
      List.drop_eq_nil_of_le (by rw [List.length_take, Nat.min_eq_left nonceLong]; exact stored)
    simp only [ykpSessionStoreNonce, nothing, List.append_nil]
  let keeping := { device with session := ykpSessionStoreNonce device.session nonce.item.bytes }
  have answers : handleChallenge crypto env pkt device = sendHandshake env
      (deriveKey crypto keeping (key.item.bytes.take ykpEcPubkeyLen) pkt.header.packetId)
      .ecdhResponse (ecdhResponsePayload device.deviceId signature) .ecdhSent := by
    have nonceBytes := nonceRead nonceTlv.length (Nat.le_of_eq nonceSize)
    rw [nonceSize, List.take_length, ← nonceSize] at nonceBytes
    simp only [handleChallenge, nonceAt, nonceBytes, answerChallenge, keyAt,
      keyRead ykpEcPubkeyLen keyLong, sendEcdhResponse, signing]
    rfl
  -- The response leaves behind the derivation.
  obtain ⟨raw, logged, carries⟩ := sendHandshake_carries env
    (deriveKey crypto keeping (key.item.bytes.take ykpEcPubkeyLen) pkt.header.packetId)
    .ecdhResponse .ecdhSent allocated (ecdhResponsePayload_length device.deviceId signature)
  have bound := ecdhResponsePayload_length device.deviceId signature
  have short : (if env.mallocOk then ecdhResponsePayload device.deviceId signature
      else []).length < 65536 := by
    split
    · omega
    · decide
  refine ⟨raw, (ykpSecurityDeriveSessionKey crypto keeping.secCtx
    (key.item.bytes.take ykpEcPubkeyLen) keeping.session.serverNonce pkt.header.packetId).1, ?_,
    _, short, carries⟩
  rw [answers, logged, ← copied]
  rfl

/-- The server answers a HELLO, once its device is registered, with a pending session under the bytes
of the key field, its value header included, and with a CHALLENGE. -/
theorem hello_challenged (crypto : ServerCrypto) {server : Server} {conn : ConnId} {raw : Bytes}
    {fields : List Field} {key : Field}
    (delivers : (server.conns conn).any (·.readyState != .closed) = true)
    (carries : Carries raw .hello (mapBytes fields)) (short : (mapBytes fields).length < 65536)
    (found : fieldFor fields TlvType.publicKey.byte = some key) (draws : Draws) :
    ∃ after deviceId ref challenge, serverStep crypto
        (serverStep crypto server (.message conn raw)) (.resume server.tasks.length true draws) =
          after ∧ after.deviceIdOf conn = deviceId ∧
      (after.conns conn).any (·.readyState != .closed) = true ∧ after.sessions deviceId =
        some (pendingSession deviceId draws key.item.bytes ref server.serial) ∧
      (∃ older, after.log = .sent conn challenge :: older) ∧
      Carries challenge .challenge (challengePayload draws.nonce draws.publicKey) := by
  obtain ⟨pkt, parsed, asks, payload, small⟩ := carries.parsed_server short
  let ref : HelloRef := ⟨conn, server.seq + 1, pkt.header.sourceId, pkt.payload⟩
  obtain ⟨challenge, built⟩ := challengeFor_built small pkt.header.sourceId draws
  let heard := handleHello { server with seq := server.seq + 1 } conn pkt
  let waiting : Server := { heard with tasks := server.tasks }
  have greeted : serverStep crypto server (.message conn raw) = heard := by
    rw [serverStep_message crypto server conn parsed, if_pos delivers]
    exact if_pos asks
  -- The device id is set while the HELLO is handled, before the database answers.
  have named : waiting.deviceIdOf conn = pkt.header.sourceId := by
    have set := congrFun (deviceIdOf_set (known_of_any delivers) pkt.header.sourceId) conn
    exact set.trans (Function.update_self _ _ _)
  -- The HELLO waits behind every other task, so its turn is at the old length of the list.
  have queue : heard.tasks = server.tasks ++ [.hello ref pkt.header.packetId] := rfl
  have resumed : serverStep crypto (serverStep crypto server (.message conn raw))
      (.resume server.tasks.length true draws) = wsSend
        (createPendingSession waiting pkt.header.sourceId draws key.item.bytes ref) conn challenge := by
    have turn : serverStep crypto heard (.resume server.tasks.length true draws) =
        resumeHello waiting ref pkt.header.packetId draws := by
      simp only [serverStep, queue, List.getElem?_concat_length, resumeTask, if_true]
      rw [List.eraseIdx_append_of_length_le (Nat.le_refl _), Nat.sub_self]
      simp [waiting]
    -- The key is looked up in the payload that was kept.
    have entry : findTlv ref.payload .publicKey = some (some key.entry) := by
      change findTlv pkt.payload .publicKey = _
      rw [payload, findTlv_map, found]
      rfl
    have sameConn : waiting.deviceIdOf ref.conn = pkt.header.sourceId := named
    rw [greeted, turn]
    simp only [resumeHello, entry, sameConn, Field.entry]
    rw [show buildPacket _ = some challenge from built]
  have there : (waiting.conns conn).any (·.readyState != .closed) = true := by
    have conns : waiting.conns conn =
        (server.conns conn).map fun c => { c with deviceId := pkt.header.sourceId } :=
      Function.update_self _ _ _
    rw [conns, Option.any_map]
    exact delivers
  exact ⟨_, pkt.header.sourceId, ref, challenge, resumed, named, there,
    Function.update_self _ _ _, ⟨_, rfl⟩, buildPacket_carries built⟩

/-- What the device passed to its last derivation: the peer's public key and the salt. -/
def deviceKeyInputs (log : List DeviceEvent) : Option (Bytes × Bytes) :=
  log.findSome? fun
    | .derived serverPub nonce _ _ => some (serverPub, nonce)
    | _ => none

/-- What the server passed to its last derivation. -/
def serverKeyInputs (log : List ServerEvent) : Option (Bytes × Bytes) :=
  log.findSome? fun
    | .derived _ _ clientPubKey nonce _ => some (clientPubKey, nonce)
    | _ => none

/-- An ECDH_RESPONSE makes the server derive from what its session holds. -/
theorem response_derives (crypto : ServerCrypto) {server : Server} {conn : ConnId} {raw : Bytes}
    {payload : Bytes} {session : DeviceSession}
    (delivers : (server.conns conn).any (·.readyState != .closed) = true)
    (carries : Carries raw .ecdhResponse payload) (short : payload.length < 65536)
    (found : server.sessions (server.deviceIdOf conn) = some session) :
    serverKeyInputs (serverStep crypto server (.message conn raw)).log =
      some (session.clientPubKey, session.nonce) := by
  obtain ⟨pkt, parsed, asks, -, -⟩ := carries.parsed_server short
  -- A packet asks for one action only.
  have noHello : ¬ Asks pkt .hello := by
    rintro ⟨-, action⟩
    exact absurd (asks.2.symm.trans action) (by decide)
  have handled : serverStep crypto server (.message conn raw) =
      handleEcdhResponse crypto { server with seq := server.seq + 1 } conn pkt := by
    rw [serverStep_message crypto server conn parsed, if_pos delivers]
    exact (if_neg noHello).trans (if_pos asks)
  have same : getSession { server with seq := server.seq + 1 }
      (Server.deviceIdOf { server with seq := server.seq + 1 } conn) = some session := found
  rw [handled]
  simp only [handleEcdhResponse, same]
  -- The entry of the derivation is there whether it succeeds or fails.
  split <;> rfl

/-- The bytes the device handed to the WebSocket client last. -/
def lastSent (log : List DeviceEvent) : Bytes :=
  (log.findSome? fun
    | .wsSend raw => some raw
    | _ => none).getD []

/-- The bytes the server handed to a connection last. -/
def lastAnswer (log : List ServerEvent) : Bytes :=
  (log.findSome? fun
    | .sent _ raw => some raw
    | _ => none).getD []

/-- The two ends of a handshake in order: a running device with a new key pair, a server with a
connection that is not closed, and what the server draws. -/
structure Exchange where
  deviceCrypto : DeviceCrypto
  serverCrypto : ServerCrypto
  device : Device
  server : Server
  conn : ConnId
  /-- The environments of the device's HELLO and of its answer to the CHALLENGE. -/
  helloEnv : DeviceEnv
  answerEnv : DeviceEnv
  privateKey : Bytes
  publicKey : Bytes
  draws : Draws
  running : device.running = true
  nonceArray : device.session.serverNonce.length ≤ ykpNonceLen
  delivers : (server.conns conn).any (·.readyState != .closed) = true
  generated : helloEnv.keyGeneration = .generated privateKey publicKey
  publicKeyLength : publicKey.length = ykpEcPubkeyLen
  helloMemory : helloEnv.allocOk = true ∧ helloEnv.mallocOk = true
  signed : answerEnv.signature ≠ none
  answerMemory : answerEnv.allocOk = true

/-- The device after its HELLO. -/
def Exchange.greeting (x : Exchange) : Device :=
  deviceStep x.deviceCrypto x.device (.wsConnected, x.helloEnv)

/-- The server after the HELLO, and after the handler that waited has sent the CHALLENGE. -/
def Exchange.challenging (x : Exchange) : Server :=
  serverStep x.serverCrypto
    (serverStep x.serverCrypto x.server (.message x.conn (lastSent x.greeting.log)))
    (.resume x.server.tasks.length true x.draws)

/-- The device after the CHALLENGE, which it answers. -/
def Exchange.answering (x : Exchange) : Device :=
  deviceStep x.deviceCrypto x.greeting (.packet (lastAnswer x.challenging.log), x.answerEnv)

/-- The server after the ECDH_RESPONSE. -/
def Exchange.completing (x : Exchange) : Server :=
  serverStep x.serverCrypto x.challenging (.message x.conn (lastSent x.answering.log))

/-- Each end derives from the other's public key and the nonce. -/
def Exchange.InputsAgree (x : Exchange) : Prop :=
  serverKeyInputs x.completing.log = some (x.publicKey, x.draws.nonce) ∧
    deviceKeyInputs x.answering.log = some (x.draws.publicKey, x.draws.nonce)

/-- The device sends its HELLO and keeps running. -/
theorem Exchange.greeting_carries (x : Exchange) :
    Carries (lastSent x.greeting.log) .hello
        (mapBytes (helloFields x.device.deviceId x.publicKey x.publicKeyLength)) ∧
      x.greeting.running = true ∧ x.greeting.session.serverNonce.length ≤ ykpNonceLen := by
  have starts : x.greeting = sendHello x.helloEnv x.device := by
    simp only [Exchange.greeting, deviceStep, x.running, Bool.not_true, Bool.false_eq_true, if_false]
  rw [starts, sendHello_generated x.generated]
  -- The device that sends is the one that holds the new key pair.
  generalize keyed : { x.device with secCtx := { x.device.secCtx with
    ephemeralPrivate := x.privateKey
    ephemeralPublic := x.publicKey } } = device
  obtain ⟨raw, logged, carries⟩ := sendHandshake_carries x.helloEnv device .hello .helloSent
    x.helloMemory.1 (helloPayload_length x.device.deviceId x.publicKey)
  obtain ⟨running, nonce⟩ := sendHandshake_kept x.helloEnv device .hello
    (helloPayload x.device.deviceId x.publicKey) .helloSent
  rw [if_pos x.helloMemory.2, helloPayload_map _ x.publicKeyLength] at carries
  rw [congrArg lastSent logged, running, nonce, ← keyed]
  exact ⟨carries, x.running, x.nonceArray⟩

/-- In every handshake the ends derive from keys and salts that still carry the headers of the values
they were read from, and so never from each other's public key and the nonce. -/
theorem key_inputs_disagree (x : Exchange) :
    serverKeyInputs x.completing.log = some (0x58 :: 0x41 :: x.publicKey, x.draws.nonce) ∧
      deviceKeyInputs x.answering.log =
        some ((0x58 :: 0x41 :: x.draws.publicKey).take ykpEcPubkeyLen,
          (0x50 :: x.draws.nonce).take ykpNonceLen) ∧ ¬ x.InputsAgree := by
  obtain ⟨hello, running, nonceArray⟩ := x.greeting_carries
  have helloSize : (mapBytes (helloFields x.device.deviceId x.publicKey x.publicKeyLength)).length <
      65536 := by
    rw [← helloPayload_map]
    have := helloPayload_length x.device.deviceId x.publicKey
    omega
  obtain ⟨after, deviceId, ref, challenge, reached, named, delivers, pending, ⟨older, answered⟩,
    carried⟩ := hello_challenged x.serverCrypto x.delivers hello helloSize rfl x.draws
  obtain rfl : x.challenging = after := reached
  have sent : lastAnswer x.challenging.log = challenge := congrArg lastAnswer answered
  -- The two values of the CHALLENGE start with the headers of 16 and of 65 bytes.
  have nonceHead : bytesHead 16 = [0x50] := by decide
  have keyHead : bytesHead 65 = [0x58, 0x41] := by decide
  have nonceLength := x.draws.nonceLength
  have keyLength := x.draws.publicKeyLength
  rw [challengePayload_map] at carried
  have challengeSize : (mapBytes (challengeFields x.draws)).length = 88 := by
    simp [mapBytes, challengeFields, fieldBytes, Field.bytes, bytesItem, nonceHead, keyHead,
      nonceLength, keyLength, keyBytes, TlvType.byte]
  obtain ⟨pkt, handled, asked, body, length⟩ := carried.received (by simp [challengeSize])
    (by simp [challengeSize]) x.deviceCrypto x.answerEnv running
  have derives : x.answering = handleChallenge x.deviceCrypto x.answerEnv pkt x.greeting := by
    rw [Exchange.answering, sent, handled, handleSecurity, asked]
  obtain ⟨raw, ok, logged, payload, short, response⟩ := handleChallenge_derives x.deviceCrypto
    x.greeting body length (by simp [challengeSize]) rfl rfl
    (by simp [bytesItem, nonceHead, nonceLength]) (by simp [bytesItem, keyHead, keyLength])
    x.signed x.answerMemory nonceArray
  -- The last bytes sent are the response, and they reach the session that is pending.
  have answer : lastSent x.answering.log = raw := by rw [derives, logged]; rfl
  have device : deviceKeyInputs x.answering.log =
      some ((0x58 :: 0x41 :: x.draws.publicKey).take ykpEcPubkeyLen,
        (0x50 :: x.draws.nonce).take ykpNonceLen) := by
    rw [derives, logged]
    simp [deviceKeyInputs, bytesItem, nonceHead, keyHead, nonceLength, keyLength]
  have server : serverKeyInputs x.completing.log =
      some (0x58 :: 0x41 :: x.publicKey, x.draws.nonce) := by
    rw [Exchange.completing, answer]
    have found : x.challenging.sessions (x.challenging.deviceIdOf x.conn) = _ := named ▸ pending
    rw [response_derives x.serverCrypto delivers response short found]
    simp [pendingSession, bytesItem, keyHead, x.publicKeyLength]
  refine ⟨server, device, fun agree => ?_⟩
  -- The server's key is two bytes longer than the device's public key.
  have same := (Prod.mk.inj (Option.some.inj (server.symm.trans agree.1))).1
  have lengths := congrArg List.length same
  simp only [List.length_cons] at lengths
  omega

/-- A handshake of the sample device with a new server. -/
def sampleExchange : Exchange where
  deviceCrypto := tagless
  serverCrypto := openCrypto
  device := bootDevice sampleDevice
  server := serverStep openCrypto startServer (.connect 1 [])
  conn := 1
  helloEnv := sampleEnv
  answerEnv := sampleEnv
  privateKey := List.replicate 32 1
  publicKey := List.replicate 65 4
  draws := sampleDraws
  running := rfl
  nonceArray := by decide
  delivers := by decide
  generated := rfl
  publicKeyLength := by decide
  helloMemory := ⟨rfl, rfl⟩
  signed := by decide
  answerMemory := rfl

theorem key_inputs_disagree_sample :
    serverKeyInputs sampleExchange.completing.log =
      some (0x58 :: 0x41 :: List.replicate 65 4, List.replicate 16 3) :=
  (key_inputs_disagree sampleExchange).1

set_option maxRecDepth 4000 in
/-- The sample device's public key reaches the server's derivation two bytes too long. -/
theorem sample_inputs_disagree : ¬ sampleExchange.InputsAgree := by
  rintro ⟨server, -⟩
  have longer : (serverKeyInputs sampleExchange.completing.log).map (·.1.length) = some 67 := by
    decide +kernel
  rw [server] at longer
  exact absurd longer (by decide)

end Ykp.System
