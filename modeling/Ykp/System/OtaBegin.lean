import Ykp.Backend.Router
import Ykp.Codec.MapBuild
import Ykp.Codec.MapLookup
import Ykp.Firmware.OtaGate

/-! The announcement of a firmware update, from the job on the server to the device's record. -/

namespace Ykp.System

open BigEndian Firmware Backend

/-- A job whose version fits the device's record, with a digest and a signature of their sizes. -/
structure SoundJob (job : OtaJob) : Prop where
  version : (utf8Encode job.firmwareVer).length ≤ 15
  firmwareSize : job.firmwareSize < 2 ^ 32
  sha256 : job.firmwareSha256.length = 32
  signature : job.firmwareSig.length = ykpEcdsaSigLen

/-- A transfer runs under the metadata of a job; the version is padded with zeros. -/
structure StartsTransfer (s : OtaService) (job : OtaJob) : Prop where
  active : s.state.active = true
  version : s.state.version = utf8Encode job.firmwareVer ++
    List.replicate (16 - (utf8Encode job.firmwareVer).length) 0
  firmwareSize : s.state.firmwareSize = job.firmwareSize
  sha256 : s.state.sha256 = job.firmwareSha256
  ecdsaSig : s.state.ecdsaSig = job.firmwareSig

/-- The fields that announce an update, three of them under one key. -/
def otaBeginFields {job : OtaJob} (sound : SoundJob job) : List Field :=
  [⟨TlvType.firmwareVer.byte,
      textItem (utf8Encode job.firmwareVer) (Nat.lt_of_le_of_lt sound.version (by decide))⟩,
    ⟨TlvType.valueInt.byte, uintItem job.firmwareSize⟩,
    ⟨TlvType.hash.byte, bytesItem job.firmwareSha256 (by rw [sound.sha256]; decide)⟩,
    ⟨TlvType.signature.byte, bytesItem job.firmwareSig (by rw [sound.signature]; decide)⟩,
    ⟨TlvType.valueInt.byte, uintItem job.chunkSize⟩,
    ⟨TlvType.valueInt.byte, uintItem job.chunksTotal⟩]

/-- Whatever payload is built for a sound job is the map of these fields. -/
theorem otaBeginPayload_map {job : OtaJob} (sound : SoundJob job) {payload : Bytes}
    (built : otaBeginPayload job = some payload) : payload = mapBytes (otaBeginFields sound) := by
  -- The three numbers are added one after the other, and each may fail.
  unfold otaBeginPayload at built
  simp only [addUInt32_eq, Option.bind_eq_bind] at built
  obtain ⟨_, size, built⟩ := Option.bind_eq_some_iff.mp built
  obtain ⟨_, chunk, built⟩ := Option.bind_eq_some_iff.mp built
  obtain ⟨_, total, built⟩ := Option.bind_eq_some_iff.mp built
  -- Each of the three numbers fits, or nothing would have been built.
  obtain rfl := Option.some.inj (Option.ite_none_right_eq_some.mp size).2
  obtain rfl := Option.some.inj (Option.ite_none_right_eq_some.mp chunk).2
  obtain rfl := Option.some.inj (Option.ite_none_right_eq_some.mp total).2
  rw [← Option.some.inj built]
  simp [TlvBuilder.build, TlvBuilder.addBytes, TlvBuilder.addString, TlvBuilder.add,
    TlvBuilder.new, mapBytes, otaBeginFields, fieldBytes, Field.bytes, bytesItem, textItem, uintItem]

/-- An integer takes nine bytes at most. -/
theorem cborUintBytes_length (value : Nat) : (cborUintBytes value).length ≤ 9 := by
  unfold cborUintBytes
  split_ifs <;> simp

/-- The announcement of a sound job fits every buffer on its way. -/
theorem otaBeginFields_length {job : OtaJob} (sound : SoundJob job) :
    (mapBytes (otaBeginFields sound)).length ≤ ykpStaticPayloadBuf := by
  -- Heads take two bytes, keys one, and numbers nine at most.
  have text (length : Nat) : (textHead length).length ≤ 2 := by
    unfold textHead
    split <;> simp
  have bytes (length : Nat) : (bytesHead length).length ≤ 2 := by
    unfold bytesHead
    split <;> simp
  have keys (type : TlvType) : (keyBytes type.byte).length = 1 := by cases type <;> decide
  have := sound.version
  have := text (utf8Encode job.firmwareVer).length
  have := bytes 32
  have := bytes 64
  have := cborUintBytes_length job.firmwareSize
  have := cborUintBytes_length job.chunkSize
  have := cborUintBytes_length job.chunksTotal
  simp only [mapBytes, otaBeginFields, fieldBytes_cons, fieldBytes_nil, Field.bytes, keys,
    List.length_cons, List.length_append, List.length_nil, textItem, bytesItem, uintItem,
    sound.sha256, sound.signature, ykpStaticPayloadBuf, ykpEcdsaSigLen]
  omega

/-- The device answers the announcement of a sound job with a failure. -/
theorem otaBegin_fails (sha256 : Bytes → Bytes) (deviceId : DeviceId) (env : OtaEnv)
    (beyond : Memory) (s : OtaService) {job : OtaJob} (sound : SoundJob job) {payload : Bytes}
    (built : otaBeginPayload job = some payload) :
    let handled := otaServiceHandle sha256 deviceId env (memoryOf payload beyond) payload.length
      OtaAction.begin.byte s
    handled.1.state.active = false ∧ handled.2 = sendOtaPkt deviceId env .fail := by
  obtain rfl := otaBeginPayload_map sound built
  have small : (mapBytes (otaBeginFields sound)).length ≤ 65535 :=
    Nat.le_trans (otaBeginFields_length sound) (by decide)
  -- Each lookup finds the first field under its key.
  obtain ⟨version, atVersion, -⟩ := @ykpTlvFind_found _ TlvType.firmwareVer.byte _ rfl beyond small
  obtain ⟨size, atSize, -⟩ := @ykpTlvFind_found _ TlvType.valueInt.byte _ rfl beyond small
  obtain ⟨hash, atHash, length, -⟩ := @ykpTlvFind_found _ TlvType.hash.byte _ rfl beyond small
  -- The value of the hash field is its two header bytes and the digest.
  have long : hash.length = 34 := by
    rw [length]
    simp [bytesItem, bytesHead, sound.sha256]
  have begins : OtaAction.ofByte OtaAction.begin.byte = some .begin := by decide
  have rejects : Option.any (fun tlv => decide (tlv.length ≠ 32)) (some hash) = true := by
    simp [long]
  simp only [otaServiceHandle, begins, handleOtaBegin, atVersion, atSize, atHash,
    TlvLookup.ended, rejects, if_true, and_true]
  rfl

/-- No announcement of a sound job starts a transfer under its metadata. -/
theorem ota_begin_never_starts (sha256 : Bytes → Bytes) (deviceId : DeviceId) (env : OtaEnv)
    (beyond : Memory) (s : OtaService) {job : OtaJob} (sound : SoundJob job) {payload : Bytes}
    (built : otaBeginPayload job = some payload) :
    ¬ StartsTransfer (otaServiceHandle sha256 deviceId env (memoryOf payload beyond) payload.length
      OtaAction.begin.byte s).1 job := by
  intro starts
  have rejected := (otaBegin_fails sha256 deviceId env beyond s sound built).1
  exact absurd (starts.active.symm.trans rejected) (by decide)

/-- A job for the version "1.3.0". -/
def sampleJob : OtaJob where
  deviceId := [0x44, 0x31]
  firmwareVer := [0x31, 0x2E, 0x33, 0x2E, 0x30]
  firmwareSize := 100000
  firmwareSha256 := List.replicate 32 7
  firmwareSig := List.replicate 64 8
  chunkSize := 4096
  chunksTotal := 25

/-- The payload built for the sample job. -/
def samplePayload : Bytes := (otaBeginPayload sampleJob).get (by decide +kernel)

theorem ota_begin_never_starts_sample :
    ¬ StartsTransfer (otaServiceHandle id sampleDevice sampleOtaEnv
      (memoryOf samplePayload fun _ => 0) samplePayload.length OtaAction.begin.byte
      otaServiceInit).1 sampleJob :=
  ota_begin_never_starts id sampleDevice sampleOtaEnv (fun _ => 0) otaServiceInit
    ⟨by decide, by decide, by decide, by decide⟩ (Option.some_get _).symm

/-- An idle device whose partition can be written answers the sample job with a failure. -/
theorem sample_job_rejected :
    let handled := otaServiceHandle id sampleDevice sampleOtaEnv
      (memoryOf samplePayload fun _ => 0) samplePayload.length OtaAction.begin.byte otaServiceInit
    otaBeginPayload sampleJob = some samplePayload ∧
      handled.2 = sendOtaPkt sampleDevice sampleOtaEnv .fail ∧
      ¬ StartsTransfer handled.1 sampleJob := by
  intro handled
  have rejected : handled.1.state.active = false := by decide +kernel
  refine ⟨(Option.some_get _).symm, by decide +kernel, fun starts => ?_⟩
  exact absurd (starts.active.symm.trans rejected) (by decide)

end Ykp.System
