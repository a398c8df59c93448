import Ykp.Codec.ServerPacket

/-! The server's readers for the values of a payload, and the two reports it parses with them. -/

namespace Ykp.Backend

open BigEndian

/-- A number read from an integer field: a byte behind the end is undefined, and arithmetic with it
gives no number. -/
inductive JsNumber
  | undefined
  | nan
  | int (value : Int)
  deriving DecidableEq, Repr

/-- Whether a number compares below a bound; nothing undefined does. -/
def JsNumber.below (number : JsNumber) (bound : Int) : Bool :=
  match number with
  | .int value => value < bound
  | _ => false

/-- The header byte of a value; the bits of an undefined one are zero. -/
def valueHead (entry : TlvEntry) : UInt8 := byteAt entry.value 0

/-- One byte of a value, as a number. -/
def byteNumber (entry : TlvEntry) (index : Nat) : JsNumber :=
  match entry.value[index]? with
  | some byte => .int byte.toNat
  | none => .undefined

/-- A big-endian word behind the header byte; reading past the end throws. -/
def readWord (entry : TlvEntry) (width : Nat) : Option Nat :=
  if entry.value.length < 1 + width then none
  else if width = 2 then some (readU16 (byteAt entry.value) 1)
  else some (readU32 (byteAt entry.value) 1)

/-- An unsigned integer of up to 32 bits; any other value counts as zero. -/
def tlvReadUInt32 (entry : TlvEntry) : Option JsNumber :=
  let info := valueHead entry &&& 0x1F
  if info < 24 then some (.int info.toNat)
  else if info = 0x18 then some (byteNumber entry 1)
  else if info = 0x19 then (readWord entry 2).map fun word => .int word
  else if info = 0x1A then (readWord entry 4).map fun word => .int word
  else some (.int 0)

/-- The number behind minus one. -/
def JsNumber.negate : JsNumber → JsNumber
  | .int value => .int (-1 - value)
  | _ => .nan

/-- A signed integer. -/
def tlvReadInt8 (entry : TlvEntry) : Option JsNumber :=
  let major := valueHead entry &&& 0xE0
  let info := valueHead entry &&& 0x1F
  if major = 0x00 then tlvReadUInt32 entry
  else if major = 0x20 then
    -- A width that is not read leaves the distance at zero.
    if info < 24 then some (.int (-1 - info.toNat))
    else if info = 0x18 then some (byteNumber entry 1).negate
    else if info = 0x19 then (readWord entry 2).map fun word => .int (-1 - word)
    else if info = 0x1A then (readWord entry 4).map fun word => .int (-1 - word)
    else some (.int (-1))
  else some (.int 0)

/-- The text of a value; the header's major type is not looked at. -/
def tlvReadString (entry : TlvEntry) : Option JsString :=
  let info := valueHead entry &&& 0x1F
  let from_ (start length : Nat) := utf8Decode ((entry.value.drop start).take length)
  if info < 24 then some (from_ 1 info.toNat)
  -- An undefined length makes the text empty.
  else if info = 0x18 then some (from_ 2 ((entry.value[1]?.map (·.toNat)).getD 0))
  else if info = 0x19 then (readWord entry 2).map fun length => from_ 3 length
  else some (from_ 1 0)

/-- A number read from a floating-point field, rounded to two decimals. -/
inductive Decimal
  | nan
  | infinite (negative : Bool)
  | hundredths (value : Int)
  deriving DecidableEq, Repr

/-- Whether a number compares above a whole one. -/
def Decimal.above (decimal : Decimal) (bound : Int) : Bool :=
  match decimal with
  | .nan => false
  | .infinite negative => !negative
  | .hundredths value => bound * 100 < value

/-- Whether a number compares below a whole one. -/
def Decimal.below (decimal : Decimal) (bound : Int) : Bool :=
  match decimal with
  | .nan => false
  | .infinite negative => negative
  | .hundredths value => value < bound * 100

/-- A mantissa at a power of two, rounded to hundredths; of two equally near ones the one farther
from zero is taken. -/
def roundedHundredths (negative : Bool) (mantissa : Nat) (exponent : Int) : Decimal :=
  let magnitude : Nat :=
    if 0 ≤ exponent then mantissa * 100 * 2 ^ exponent.toNat
    else (mantissa * 200 + 2 ^ (-exponent).toNat) / 2 ^ ((-exponent).toNat + 1)
  .hundredths (if negative then -magnitude else magnitude)

/-- The value of a half-precision pattern. -/
def decodeFloat16 (binary : Nat) : Decimal :=
  let exponent := binary / 1024 % 32
  let fraction := binary % 1024
  let negative := 32768 ≤ binary
  if exponent = 0 then roundedHundredths negative fraction (-24)
  -- An infinity is decoded as a small number.
  else if exponent = 31 then
    if fraction ≠ 0 then .nan else roundedHundredths negative 1 (-15)
  else roundedHundredths negative (1024 + fraction) (exponent - 25)

/-- The value of a single-precision pattern. -/
def decodeFloat32 (binary : Nat) : Decimal :=
  let exponent := binary / 8388608 % 256
  let fraction := binary % 8388608
  let negative := 2147483648 ≤ binary
  if exponent = 0 then roundedHundredths negative fraction (-149)
  else if exponent = 255 then if fraction ≠ 0 then .nan else .infinite negative
  else roundedHundredths negative (8388608 + fraction) (exponent - 150)

/-- A floating-point number of either precision; any other value counts as zero. -/
def tlvReadFloat (entry : TlvEntry) : Option Decimal :=
  if valueHead entry = 0xF9 then (readWord entry 2).map decodeFloat16
  else if valueHead entry = 0xFA then (readWord entry 4).map decodeFloat32
  else some (.hundredths 0)

/-- A health report as it is stored. Floating-point fields carry no names on the wire: the first
four are CPU usage, temperature, packet loss and round trip, and the first three integers free heap,
least heap and restart count. -/
structure HealthReportData where
  deviceId : JsString
  floats : List Decimal
  ints : List JsNumber
  rssi : Option JsNumber
  uptimeSec : Option JsNumber
  deriving DecidableEq, Repr

/-- The free heap, unless it was not reported. -/
def HealthReportData.freeHeap (health : HealthReportData) : JsNumber :=
  health.ints.head?.getD .undefined

/-- One field of a health report. -/
def healthField (result : HealthReportData) (entry : TlvEntry) : Option HealthReportData :=
  if entry.type = some TlvType.valueFloat.byte then
    if result.floats.length < 4 then
      (tlvReadFloat entry).map fun value => { result with floats := result.floats ++ [value] }
    else some result
  else if entry.type = some TlvType.valueInt.byte then
    if result.ints.length < 3 then
      (tlvReadUInt32 entry).map fun value => { result with ints := result.ints ++ [value] }
    else some result
  else if entry.type = some TlvType.rssi.byte then
    (tlvReadInt8 entry).map fun value => { result with rssi := some value }
  else if entry.type = some TlvType.timestamp.byte then
    (tlvReadUInt32 entry).map fun value => { result with uptimeSec := some value }
  else if entry.type = some TlvType.deviceId.byte then
    (tlvReadString entry).map fun value => { result with deviceId := value }
  else some result

/-- A health report read from a payload, for the device its packet names; nothing when a reader
throws. -/
def parseCborHealthPayload (buf : Bytes) (deviceId : JsString) : Option HealthReportData := do
  let entries ← parseTlv buf
  entries.foldlM healthField ⟨deviceId, [], [], none, none⟩

/-- A sensor report: temperature and humidity, motion, and light. -/
structure SensorReportData where
  floats : List Decimal
  motion : Option Bool
  light : Option JsNumber
  deriving DecidableEq, Repr

/-- The temperature, unless it was not reported. -/
def SensorReportData.temperature (data : SensorReportData) : Option Decimal := data.floats.head?

/-- One field of a sensor report. -/
def sensorField (result : SensorReportData) (entry : TlvEntry) : Option SensorReportData :=
  if entry.type = some TlvType.valueFloat.byte then
    if result.floats.length < 2 then
      (tlvReadFloat entry).map fun value => { result with floats := result.floats ++ [value] }
    else some result
  else if entry.type = some TlvType.state.byte then
    (tlvReadUInt32 entry).map fun value => { result with motion := some (value = .int 1) }
  else if entry.type = some TlvType.valueInt.byte then
    (tlvReadUInt32 entry).map fun value => { result with light := some value }
  else some result

/-- A sensor report read from a payload; nothing when a reader throws. -/
def parseCborSensorPayload (buf : Bytes) : Option SensorReportData := do
  let entries ← parseTlv buf
  entries.foldlM sensorField ⟨[], none, none⟩

end Ykp.Backend
