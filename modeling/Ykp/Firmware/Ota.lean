import Ykp.Codec.DevicePacket

/-! The firmware's update service: a transfer in chunks, its verification, and the installation. -/

namespace Ykp.Firmware

open BigEndian

/-- The identifier the device was provisioned with: at most eight bytes and no terminator. -/
structure DeviceId where
  bytes : Bytes
  short : bytes.length ≤ ykpDeviceIdLen
  noNul : ∀ byte ∈ bytes, byte ≠ 0

/-- The text "SERVER" that devices address their packets to. -/
def serverName : Bytes := [0x53, 0x45, 0x52, 0x56, 0x45, 0x52]

/-- The transfer record. -/
structure OtaState where
  version : Bytes
  firmwareSize : Nat
  chunkSize : Nat
  chunksTotal : Nat
  sha256 : Bytes
  ecdsaSig : Bytes
  active : Bool
  nextExpectedChunk : Nat
  deriving DecidableEq, Repr

/-- The record with every byte zero. -/
def OtaState.zero : OtaState :=
  ⟨List.replicate 16 0, 0, 0, 0, List.replicate 32 0, List.replicate 64 0, false, 0⟩

/-- What the service did to the update partition, and what it found out. -/
inductive OtaEvent
  | beginReceived
  | opened (ok : Bool)
  | wrote (data : Bytes) (ok : Bool)
  | hashCompared (computed declared : Bytes)
  | aborted
  | ended (ok : Bool)
  | bootPartitionSet (ok : Bool)
  | restarted
  deriving DecidableEq, Repr

/-- The service: its record, the update partition, the running digest (absent while no hash
operation is active), the log, newest entry first, and whether it ever returned. -/
structure OtaService where
  state : OtaState
  partition : Bool
  shaCtx : Option Bytes
  log : List OtaEvent
  halted : Bool
  deriving DecidableEq, Repr

/-- The service at boot. -/
def otaServiceInit : OtaService := ⟨.zero, false, none, [], false⟩

/-- Outcomes of the calls that leave the firmware while one message is handled. -/
structure OtaEnv where
  allocOk : Bool
  mallocOk : Bool
  /-- Whether there is a partition to update. -/
  partition : Bool
  beginOk : Bool
  writeOk : Bool
  endOk : Bool
  setBootOk : Bool
  /-- What the digest buffer on the stack holds when no digest is written to it. -/
  stackHash : Bytes

/-- A log entry. -/
def OtaService.record (s : OtaService) (event : OtaEvent) : OtaService :=
  { s with log := event :: s.log }

/-- The handler never returns: the lookup does not end, or the chip restarts. -/
def OtaService.halt (s : OtaService) : OtaService := { s with halted := true }

/-- A lookup that ends: the field, if there is one. -/
def TlvLookup.ended : TlvLookup → Option (Option YkpTlv)
  | .found tlv => some (some tlv)
  | .absent => some none
  | .diverges => none

/-- A reply and the size of the buffer it is serialised into. -/
structure OtaReply where
  pkt : YkpPacket
  outSize : Nat
  deriving DecidableEq, Repr

/-- A reply without payload, unless its packet cannot be allocated. -/
def sendOtaPkt (deviceId : DeviceId) (env : OtaEnv) (action : OtaAction) : Option OtaReply :=
  if env.allocOk then
    some ⟨ykpPacketSetHeader ykpPacketAlloc 0 0 deviceId.bytes serverName .cloud .ota action.byte
      .qos1 false, 64⟩
  else none

/-- A field copied into a zeroed array, up to a number of bytes. -/
def copyField (buf : Memory) (size limit : Nat) : Option YkpTlv → Bytes
  | none => List.replicate size 0
  | some tlv =>
    let copied := readBytes buf tlv.start (min tlv.length limit)
    copied ++ List.replicate (size - copied.length) 0

/-- A transfer is announced: its metadata is read and the partition opened. -/
def handleOtaBegin (deviceId : DeviceId) (env : OtaEnv) (buf : Memory) (len : Nat)
    (s : OtaService) : OtaService × Option OtaReply :=
  let s : OtaService := { s.record .beginReceived with state := OtaState.zero }
  let find (type : TlvType) := TlvLookup.ended (ykpTlvFind buf len type.byte)
  match find .firmwareVer, find .valueInt, find .hash with
  | some version, some size, some hash =>
    let firmwareSize := (size.bind (ykpTlvReadUint32 buf)).getD 0
    let state := { OtaState.zero with
      version := copyField buf 16 15 version
      firmwareSize := firmwareSize }
    -- The whole hash field, header included, has to be 32 bytes long.
    if hash.any (·.length ≠ 32) then ({ s with state := state }, sendOtaPkt deviceId env .fail)
    else
      match find .signature with
      | none => (s.halt, none)
      | some signature =>
        let state := { state with
          sha256 := copyField buf 32 32 hash
          ecdsaSig := copyField buf 64 64 signature
          chunkSize := 4096
          chunksTotal := (firmwareSize + 4095) % 2 ^ 32 / 4096 % 2 ^ 16 }
        let s := { s with state := state, partition := env.partition }
        if !env.partition then (s, sendOtaPkt deviceId env .fail)
        else if !env.beginOk then (s.record (.opened false), sendOtaPkt deviceId env .fail)
        else
          ({ s.record (.opened true) with
              state := { state with active := true, nextExpectedChunk := 0 }
              shaCtx := some [] }, none)
  | _, _, _ => (s.halt, none)

/-- The request for the chunk that is expected next. -/
def sendOtaMissing (deviceId : DeviceId) (env : OtaEnv) (nextExpectedChunk : Nat) :
    Option OtaReply :=
  let b := (ykpTlvAddUint16 (ykpTlvBuilderInit 8) .chunkIndex (UInt16.ofNat nextExpectedChunk)).1
  if env.allocOk then
    let pkt := ykpPacketSetHeader ykpPacketAlloc 0 0 deviceId.bytes serverName .cloud .ota
      OtaAction.missing.byte .qos1 false
    some ⟨ykpPacketSetPayload pkt env.mallocOk (ykpTlvBuilderLen b), 80⟩
  else none

/-- A chunk is written and hashed when it is the expected one. -/
def handleOtaChunk (deviceId : DeviceId) (env : OtaEnv) (buf : Memory) (len : Nat)
    (s : OtaService) : OtaService × Option OtaReply :=
  if !s.state.active then (s, none)
  else
    let find (type : TlvType) := TlvLookup.ended (ykpTlvFind buf len type.byte)
    match find .chunkIndex with
    | none => (s.halt, none)
    | some index =>
      if (index.bind (ykpTlvReadUint16 buf)).getD 0 ≠ s.state.nextExpectedChunk then
        (s, sendOtaMissing deviceId env s.state.nextExpectedChunk)
      else
        match find .chunkData with
        | none => (s.halt, none)
        | some none => (s, none)
        | some (some tlv) =>
          let data := readBytes buf tlv.start tlv.length
          let s := s.record (.wrote data env.writeOk)
          if !env.writeOk then
            ({ s with state := { s.state with active := false } }, sendOtaPkt deviceId env .fail)
          else
            ({ s with
                shaCtx := s.shaCtx.map (· ++ data)
                state := { s.state with
                  nextExpectedChunk := (s.state.nextExpectedChunk + 1) % 2 ^ 16 } }, none)

/-- The transfer is complete: the digest is compared and the partition closed. -/
def handleOtaComplete (sha256 : Bytes → Bytes) (deviceId : DeviceId) (env : OtaEnv)
    (s : OtaService) : OtaService × Option OtaReply :=
  if !s.state.active then (s, none)
  else
    -- Finishing an operation that is not active writes no digest.
    let computed : Bytes := (s.shaCtx.map sha256).getD env.stackHash
    let s : OtaService := { s.record (.hashCompared computed s.state.sha256) with shaCtx := none }
    if computed ≠ s.state.sha256 then
      ({ s.record .aborted with state := { s.state with active := false } },
        sendOtaPkt deviceId env .fail)
    else
      let s := s.record (.ended env.endOk)
      if !env.endOk then
        ({ s with state := { s.state with active := false } }, sendOtaPkt deviceId env .fail)
      -- The record stays active after a verified transfer.
      else (s, sendOtaPkt deviceId env .verify)

/-- The update partition becomes the boot partition and the chip restarts. -/
def handleOtaInstall (deviceId : DeviceId) (env : OtaEnv) (s : OtaService) :
    OtaService × Option OtaReply :=
  let s := s.record (.bootPartitionSet env.setBootOk)
  if !env.setBootOk then (s, sendOtaPkt deviceId env .fail)
  else ((s.record .restarted).halt, sendOtaPkt deviceId env .reboot)

/-- One message for the update service. -/
def otaServiceHandle (sha256 : Bytes → Bytes) (deviceId : DeviceId) (env : OtaEnv) (buf : Memory)
    (len : Nat) (actionId : UInt8) (s : OtaService) : OtaService × Option OtaReply :=
  match OtaAction.ofByte actionId with
  | some .begin => handleOtaBegin deviceId env buf len s
  | some .chunk => handleOtaChunk deviceId env buf len s
  | some .complete => handleOtaComplete sha256 deviceId env s
  | some .install => handleOtaInstall deviceId env s
  | _ => (s, none)

end Ykp.Firmware
