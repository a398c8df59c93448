import Ykp.Firmware.Services
import Ykp.System.DeviceFields

/-! Reports from the device to the server: what the server reads of the health and sensor values. -/

namespace Ykp.System

open Firmware Backend BigEndian

/-- The payload of a health report. -/
def healthReportPayload (h : HealthReading) (lastRttMs : Nat) (uptimeSec : UInt64)
    (deviceId : DeviceId) : Bytes :=
  let cpuUsage := float32OfNat (min (h.taskCount * 2) 95)
  let temp := float32OfNat 45
  let b := ykpTlvBuilderInit 256
  let b := (ykpTlvAddFloat b .valueFloat cpuUsage).1
  let b := (ykpTlvAddUint32 b .valueInt h.freeHeap).1
  let b := (ykpTlvAddUint32 b .valueInt h.minHeap).1
  let b := (ykpTlvAddUint8 b .rssi h.rssi).1
  let b := (ykpTlvAddFloat b .valueFloat temp).1
  let b := (ykpTlvAddFloat b .valueFloat (float32OfNat 0)).1
  let b := (ykpTlvAddFloat b .valueFloat (float32OfNat lastRttMs)).1
  let b := (ykpTlvAddUint64 b .timestamp uptimeSec).1
  let b := (ykpTlvAddUint32 b .valueInt h.restartCount).1
  let b := (ykpTlvAddString b .deviceId deviceId.bytes).1
  let b := (ykpTlvAddString b .firmwareVer ykpFirmwareVersion).1
  ykpTlvBuilderLen b

/-- The payload of a sensor report. -/
def sensorReportPayload (r : SensorReading) (uptimeSec : UInt64) (deviceId : DeviceId) : Bytes :=
  let motion : UInt8 := if r.motion then 1 else 0
  let b := ykpTlvBuilderInit 128
  let b := (ykpTlvAddFloat b .valueFloat r.temperature).1
  let b := (ykpTlvAddFloat b .valueFloat r.humidity).1
  let b := (ykpTlvAddUint8 b .state motion).1
  let b := (ykpTlvAddUint16 b .valueInt r.lightRaw).1
  let b := (ykpTlvAddUint64 b .timestamp uptimeSec).1
  let b := (ykpTlvAddString b .deviceId deviceId.bytes).1
  ykpTlvBuilderLen b

/-- The services send these payloads. -/
theorem sendReport_payload (env : DeviceEnv) (device : Device) :
    (healthServiceSendReport env device =
      if !env.allocOk then device
      else
        let pkt := ykpPacketSetHeader ykpPacketAlloc 0 0 device.deviceId.bytes serverName .cloud
          .health HealthAction.report.byte .qos1 false
        let pkt := ykpPacketSetPayload pkt env.mallocOk (healthReportPayload env.health
          device.qos.lastRttMs (UInt64.ofNat (env.nowUs / 1000000)) device.deviceId)
        serialiseAndSend env (ykpSendPacket env) device pkt 512) ∧
    sensorServiceSendReport env device =
      if !env.allocOk then device
      else
        let pkt := ykpPacketSetHeader ykpPacketAlloc 0 0 device.deviceId.bytes serverName .cloud
          .sensor SensorAction.report.byte .qos1 false
        let pkt := ykpPacketSetPayload pkt env.mallocOk (sensorReportPayload env.sensor
          (UInt64.ofNat (env.nowUs / 1000000)) device.deviceId)
        serialiseAndSend env (ykpSendPacket env) device pkt 300 := ⟨rfl, rfl⟩

/-- A field of a report: how it is encoded, and its value, which takes at most nine bytes. -/
structure ReportField where
  type : TlvType
  encode : CborEncoder → CborEncoder
  item : Item
  writes : Writes encode item.bytes
  narrow : item.bytes.length ≤ 9

def ReportField.field (field : ReportField) : Field := ⟨field.type.byte, field.item⟩

/-- Fields added one after the other. -/
def addReport (b : YkpTlvBuilder) (fields : List ReportField) : YkpTlvBuilder :=
  fields.foldl (fun b field => (ykpTlvAdd b field.type field.encode).1) b

/-- A key and a value of a report take at most eleven bytes. -/
theorem ReportField.length_le (field : ReportField) : field.field.bytes.length ≤ 11 := by
  have value := field.narrow
  have key : (keyBytes field.type.byte).length ≤ 2 := by
    unfold keyBytes
    split <;> simp
  simp only [ReportField.field, Field.bytes, List.length_append]
  omega

/-- So do all of them together. -/
theorem reportBytes_length_le (fields : List ReportField) :
    (fieldBytes (fields.map ReportField.field)).length ≤ 11 * fields.length := by
  induction fields with
  | nil => simp
  | cons field rest ih =>
    have width := field.length_le
    simp only [List.map_cons, fieldBytes_cons, List.length_append, List.length_cons]
    omega

/-- With eleven bytes for each field every one of them is appended. -/
theorem addReport_fits (fields : List ReportField) {b : YkpTlvBuilder}
    (room : b.buf.length + 11 * fields.length ≤ b.cap) :
    addReport b fields =
      { b with buf := b.buf ++ fieldBytes (fields.map ReportField.field) } := by
  -- The builder is general, as each field is added behind the ones before.
  induction fields generalizing b with
  | nil => simp [addReport]
  | cons field rest ih =>
    have width : (keyBytes field.type.byte).length + field.item.bytes.length ≤ 11 := by
      simpa [ReportField.field, Field.bytes] using field.length_le
    simp only [List.length_cons] at room
    have added := @ykpTlvAdd_fits b field.encode field.item.bytes field.type field.writes (by omega)
    change addReport (ykpTlvAdd b field.type field.encode).1 rest = _
    rw [added, ih (by simp only [List.length_append]; omega)]
    simp [ReportField.field, Field.bytes]

/-- A report is the map of its fields. -/
theorem report_map (fields : List ReportField) {cap : Nat} (room : 2 + 11 * fields.length ≤ cap) :
    ykpTlvBuilderLen (addReport (ykpTlvBuilderInit cap) fields) =
      mapBytes (fields.map ReportField.field) := by
  have opened : (ykpTlvBuilderInit cap).buf = [0xBF] := rfl
  have capacity : (ykpTlvBuilderInit cap).cap = cap := rfl
  have bytes := reportBytes_length_le fields
  rw [addReport_fits fields (by simp only [opened, capacity, List.length_singleton]; omega),
    ykpTlvBuilderLen_room (by
      simp only [opened, capacity, List.length_append, List.length_singleton]; omega)]
  rfl

/-- A number takes at most nine bytes. -/
theorem cborUintBytes_length_le (value : Nat) : (cborUintBytes value).length ≤ 9 := by
  unfold cborUintBytes
  split_ifs <;> simp

/-- A field with a number. -/
def uintField (type : TlvType) (value : Nat) : ReportField where
  type := type
  encode enc := cborEncodeUint enc value
  item := uintItem value
  writes _ room := cborWriteEach_fits room
  narrow := cborUintBytes_length_le value

/-- A field with a floating-point number. -/
def floatField (type : TlvType) (f : Nat) : ReportField where
  type := type
  encode enc := cborEncodeFloat16 enc f
  item := floatItem f
  writes _ room := cborWriteEach_fits room
  narrow := by simp [floatItem]

/-- A field with a text of at most eight characters. -/
def textField (type : TlvType) (text : Bytes) (short : text.length ≤ 8)
    (noNul : ∀ byte ∈ text, byte ≠ 0) : ReportField where
  type := type
  encode enc := cborEncodeStr enc text
  item := textItem text (by omega)
  writes := by
    have writes := cborEncodeStr_writes text
    rwa [cString_eq noNul] at writes
  narrow := by
    have head : textHead text.length = [0x60 ||| UInt8.ofNat text.length] := if_pos (by omega)
    simp only [textItem, head, List.length_append, List.length_singleton]
    omega

/-- The fields of a health report. -/
def healthFields (h : HealthReading) (lastRttMs : Nat) (uptimeSec : UInt64)
    (deviceId : DeviceId) : List ReportField :=
  [floatField .valueFloat (float32OfNat (min (h.taskCount * 2) 95)),
    uintField .valueInt h.freeHeap.toNat, uintField .valueInt h.minHeap.toNat,
    uintField .rssi h.rssi.toNat, floatField .valueFloat (float32OfNat 45),
    floatField .valueFloat (float32OfNat 0), floatField .valueFloat (float32OfNat lastRttMs),
    uintField .timestamp uptimeSec.toNat, uintField .valueInt h.restartCount.toNat,
    textField .deviceId deviceId.bytes deviceId.short deviceId.noNul,
    textField .firmwareVer ykpFirmwareVersion (by decide) (by decide +kernel)]

/-- The fields of a sensor report. -/
def sensorFields (r : SensorReading) (uptimeSec : UInt64) (deviceId : DeviceId) :
    List ReportField :=
  [floatField .valueFloat r.temperature, floatField .valueFloat r.humidity,
    uintField .state (if r.motion then 1 else 0 : UInt8).toNat, uintField .valueInt r.lightRaw.toNat,
    uintField .timestamp uptimeSec.toNat,
    textField .deviceId deviceId.bytes deviceId.short deviceId.noNul]

/-- The server finds the fields of a health report. -/
theorem parseTlv_health (h : HealthReading) (lastRttMs : Nat) (uptimeSec : UInt64)
    (deviceId : DeviceId) :
    parseTlv (healthReportPayload h lastRttMs uptimeSec deviceId) =
      some ((healthFields h lastRttMs uptimeSec deviceId).map fun field => field.field.entry) := by
  have map : healthReportPayload h lastRttMs uptimeSec deviceId = mapBytes _ :=
    report_map (healthFields h lastRttMs uptimeSec deviceId) (by simp [healthFields])
  rw [map, parseTlv_map, List.map_map]
  rfl

/-- The server finds the fields of a sensor report. -/
theorem parseTlv_sensor (r : SensorReading) (uptimeSec : UInt64) (deviceId : DeviceId) :
    parseTlv (sensorReportPayload r uptimeSec deviceId) =
      some ((sensorFields r uptimeSec deviceId).map fun field => field.field.entry) := by
  have map : sensorReportPayload r uptimeSec deviceId = mapBytes _ :=
    report_map (sensorFields r uptimeSec deviceId) (by simp [sensorFields])
  rw [map, parseTlv_map, List.map_map]
  rfl

/-- A field is filed under its type. -/
private theorem entry_type (field : ReportField) :
    field.field.entry.type = some field.type.byte := rfl

/-- What is left of a floating-point number when the server reads it. -/
def halfPrecision (f : Nat) : Decimal := decodeFloat16 (float32ToFloat16 f % 65536)

/-- The server reads the half-precision number of a field. -/
theorem readFloat_field (type : TlvType) (f : Nat) :
    tlvReadFloat (floatField type f).field.entry = some (halfPrecision f) := by
  have word := readU16_written [0xF9] [] (float32ToFloat16 f) fun _ => 0
  simp only [List.append_nil, List.singleton_append, List.length_singleton] at word
  have head : valueHead (floatField type f).field.entry = 0xF9 := rfl
  have value : (floatField type f).field.entry.value = 0xF9 :: writeU16 (float32ToFloat16 f) := rfl
  simp only [tlvReadFloat, head, readWord, value, byteAt, List.length_cons, writeU16_length]
  rw [halfPrecision, ← word]
  rfl

/-- The server reads a number below 2^32, and zero for any other. -/
theorem readUInt32_field (type : TlvType) (value : Nat) :
    tlvReadUInt32 (uintField type value).field.entry =
      some (.int (if value < 4294967296 then value else 0 : Nat)) := by
  split
  · rename_i small
    exact (readUInt32_uint small _ _).1
  · -- The widest header is none of those it reads.
    rename_i large
    have wide : cborUintBytes value =
        0x1B :: (writeU32 (value / 4294967296) ++ writeU32 value) := by
      unfold cborUintBytes
      split_ifs <;> first | rfl | omega
    have head : valueHead (uintField type value).field.entry = 0x1B := by
      change byteAt (cborUintBytes value) 0 = 0x1B
      rw [wide]
      rfl
    simp only [tlvReadUInt32, head]
    rfl

section Fields

variable (result : HealthReportData)

/-- One of the first four floating-point numbers of a health report. -/
theorem healthField_float (f : Nat) (few : result.floats.length < 4) :
    healthField result (floatField .valueFloat f).field.entry =
      some { result with floats := result.floats ++ [halfPrecision f] } := by
  unfold healthField
  rw [readFloat_field, entry_type]
  simp only [floatField, if_true, few, Option.map_some]

/-- One of the first three integers. -/
theorem healthField_int (value : UInt32) (few : result.ints.length < 3) :
    healthField result (uintField .valueInt value.toNat).field.entry =
      some { result with ints := result.ints ++ [.int value.toNat] } := by
  unfold healthField
  rw [readUInt32_field, entry_type, if_pos value.toNat_lt]
  simp only [uintField, few, if_true, Option.map_some]
  rfl

/-- The signal strength is read as an unsigned number. -/
theorem healthField_rssi (value : UInt8) :
    healthField result (uintField .rssi value.toNat).field.entry =
      some { result with rssi := some (.int value.toNat) } := by
  have range := value.toNat_lt
  have read : tlvReadInt8 (uintField .rssi value.toNat).field.entry = some (.int value.toNat) :=
    (readUInt32_uint (by omega) _ _).2
  unfold healthField
  rw [read, entry_type]
  rfl

/-- The uptime counts as zero from 2^32 on. -/
theorem healthField_uptime (value : Nat) :
    healthField result (uintField .timestamp value).field.entry = some { result with
      uptimeSec := some (.int (if value < 4294967296 then value else 0 : Nat)) } := by
  unfold healthField
  rw [readUInt32_field, entry_type]
  rfl

/-- The name of the device. -/
theorem healthField_deviceId (text : Bytes) (short : text.length ≤ 8)
    (noNul : ∀ byte ∈ text, byte ≠ 0) :
    healthField result (textField .deviceId text short noNul).field.entry =
      some { result with deviceId := utf8Decode text } := by
  have read : tlvReadString (textField .deviceId text short noNul).field.entry =
      some (utf8Decode text) := readString_text (by omega) _ _
  unfold healthField
  rw [read, entry_type]
  rfl

/-- The version of the firmware is not looked at. -/
theorem healthField_version (text : Bytes) (short : text.length ≤ 8)
    (noNul : ∀ byte ∈ text, byte ≠ 0) :
    healthField result (textField .firmwareVer text short noNul).field.entry = some result := rfl

end Fields

/-- The record the server reads from a health report. -/
theorem parseCborHealthPayload_report (h : HealthReading) (lastRttMs : Nat) (uptimeSec : UInt64)
    (deviceId : DeviceId) (source : JsString) :
    parseCborHealthPayload (healthReportPayload h lastRttMs uptimeSec deviceId) source = some {
      deviceId := utf8Decode deviceId.bytes
      floats := [float32OfNat (min (h.taskCount * 2) 95), float32OfNat 45, float32OfNat 0,
        float32OfNat lastRttMs].map halfPrecision
      ints := [.int h.freeHeap.toNat, .int h.minHeap.toNat, .int h.restartCount.toNat]
      rssi := some (.int h.rssi.toNat)
      uptimeSec :=
        some (.int (if uptimeSec.toNat < 4294967296 then uptimeSec.toNat else 0 : Nat)) } := by
  unfold parseCborHealthPayload
  rw [parseTlv_health]
  -- Each field adds its value to what was read before it.
  simp (disch := simp) only [healthFields, List.map_cons, List.map_nil, List.foldlM_cons,
    List.foldlM_nil, Option.bind_eq_bind, Option.bind_some, healthField_float, healthField_int,
    healthField_rssi, healthField_uptime, healthField_deviceId, healthField_version]
  rfl

section Fields

variable (result : SensorReportData)

/-- One of the first two floating-point numbers of a sensor report. -/
theorem sensorField_float (f : Nat) (few : result.floats.length < 2) :
    sensorField result (floatField .valueFloat f).field.entry =
      some { result with floats := result.floats ++ [halfPrecision f] } := by
  unfold sensorField
  rw [readFloat_field, entry_type]
  simp only [floatField, if_true, few, Option.map_some]

/-- The motion flag. -/
theorem sensorField_state (motion : Bool) :
    sensorField result (uintField .state (if motion then 1 else 0 : UInt8).toNat).field.entry =
      some { result with motion := some motion } := by
  unfold sensorField
  rw [readUInt32_field, entry_type]
  cases motion <;> rfl

/-- The light value. -/
theorem sensorField_light (value : UInt16) :
    sensorField result (uintField .valueInt value.toNat).field.entry =
      some { result with light := some (.int value.toNat) } := by
  have range := value.toNat_lt
  have read : tlvReadUInt32 (uintField .valueInt value.toNat).field.entry =
      some (.int value.toNat) := (readUInt32_uint (by omega) _ _).1
  unfold sensorField
  rw [read, entry_type]
  rfl

end Fields

/-- The record the server reads from a sensor report. -/
theorem parseCborSensorPayload_report (r : SensorReading) (uptimeSec : UInt64)
    (deviceId : DeviceId) :
    parseCborSensorPayload (sensorReportPayload r uptimeSec deviceId) = some {
      floats := [r.temperature, r.humidity].map halfPrecision
      motion := some r.motion
      light := some (.int r.lightRaw.toNat) } := by
  unfold parseCborSensorPayload
  rw [parseTlv_sensor]
  simp (disch := simp) only [sensorFields, List.map_cons, List.map_nil, List.foldlM_cons,
    List.foldlM_nil, Option.bind_eq_bind, Option.bind_some, sensorField_float, sensorField_state,
    sensorField_light]
  rfl

/-- A health record that gives the figures that were reported, the signal strength as a signed number,
and the name of the device as a text. -/
structure Reports (health : HealthReportData) (h : HealthReading) (uptimeSec : UInt64)
    (deviceId : DeviceId) : Prop where
  ints : health.ints = [.int h.freeHeap.toNat, .int h.minHeap.toNat, .int h.restartCount.toNat]
  rssi : health.rssi = some (.int h.rssi.toInt8.toInt)
  uptimeSec : health.uptimeSec = some (.int uptimeSec.toNat)
  deviceId : health.deviceId = utf8Decode deviceId.bytes

/-- The server reads from the reports what the device put into them. -/
def TelemetryRoundTrips (h : HealthReading) (r : SensorReading) (lastRttMs : Nat)
    (uptimeSec : UInt64) (deviceId : DeviceId) (source : JsString) : Prop :=
  (∃ health, parseCborHealthPayload (healthReportPayload h lastRttMs uptimeSec deviceId) source =
    some health ∧ Reports health h uptimeSec deviceId) ∧
  ∃ data, parseCborSensorPayload (sensorReportPayload r uptimeSec deviceId) = some data ∧
    data.motion = some r.motion ∧ data.light = some (.int r.lightRaw.toNat)

/-- A byte is the signed number it stands for exactly when that is not negative. -/
theorem toNat_eq_toInt8 (byte : UInt8) :
    (byte.toNat : Int) = byte.toInt8.toInt ↔ 0 ≤ byte.toInt8.toInt := by
  have signed : byte.toInt8.toInt = byte.toBitVec.toInt := rfl
  have unsigned : byte.toNat = byte.toBitVec.toNat := rfl
  have range := byte.toBitVec.isLt
  -- Up to 127 the two readings agree, and above it they differ by 256.
  rw [signed, unsigned, BitVec.toInt_eq_toNat_cond]
  split_ifs <;> omega

/-- The server reads from the reports what the device put into them exactly when the signal strength
is not negative and the uptime is below 2^32 seconds. -/
theorem telemetry_roundTrips_iff (h : HealthReading) (r : SensorReading) (lastRttMs : Nat)
    (uptimeSec : UInt64) (deviceId : DeviceId) (source : JsString) :
    TelemetryRoundTrips h r lastRttMs uptimeSec deviceId source ↔
      0 ≤ h.rssi.toInt8.toInt ∧ uptimeSec.toNat < 2 ^ 32 := by
  unfold TelemetryRoundTrips
  simp only [parseCborHealthPayload_report, parseCborSensorPayload_report, Option.some.injEq]
  constructor
  · -- The strength is read without its sign, and the uptime as zero from 2^32 on.
    rintro ⟨⟨_, rfl, reports⟩, -⟩
    refine ⟨(toNat_eq_toInt8 h.rssi).mp (JsNumber.int.inj (Option.some.inj reports.rssi)), ?_⟩
    have uptime := JsNumber.int.inj (Option.some.inj reports.uptimeSec)
    split at uptime <;> omega
  · rintro ⟨strong, early⟩
    refine ⟨⟨_, rfl, rfl, ?_, ?_, rfl⟩, _, rfl, rfl, rfl⟩
    · exact congrArg (fun value => some (JsNumber.int value)) ((toNat_eq_toInt8 h.rssi).mpr strong)
    · have small : uptimeSec.toNat < 4294967296 := early
      dsimp only
      rw [if_pos small]

/-- A usual signal strength of -67 is read as 189. -/
theorem rssi_unsigned :
    ¬ ∀ h r lastRttMs uptimeSec deviceId source,
      TelemetryRoundTrips h r lastRttMs uptimeSec deviceId source := by
  intro claim
  obtain ⟨⟨health, parsed, reports⟩, -⟩ := claim ⟨150000, 120000, 12, 0xBD, 3⟩
    ⟨0, 0, true, 1000⟩ 45 60 ⟨[0x44, 0x31], by decide, by decide +kernel⟩ []
  rw [parseCborHealthPayload_report] at parsed
  obtain rfl := Option.some.inj parsed
  have same : ((0xBD : UInt8).toNat : Int) = (0xBD : UInt8).toInt8.toInt :=
    JsNumber.int.inj (Option.some.inj reports.rssi)
  exact absurd same (by decide)

end Ykp.System
