import Mathlib.Logic.Function.Basic
import Ykp.Codec.Cbor
import Ykp.Codec.Digits

/-! The firmware's stored configuration, and what it finds there when it boots. -/

namespace Ykp.Firmware

/-- The keys of the stored configuration that provisioning and the boot use. -/
inductive NvsKey
  | deviceId | wifiSsid | wifiPassword | serverUrl | controlPort | sslCert
  deriving DecidableEq, Repr

/-- The stored configuration: its strings and its numbers. -/
structure Nvs where
  str : NvsKey → Option Bytes
  u32 : NvsKey → Option Nat

/-- A configuration in which nothing is stored yet. -/
def emptyNvs : Nvs := ⟨fun _ => none, fun _ => none⟩

/-- A string is read if it fits into the buffer with its terminator. -/
def nvsConfigGetStr (nvs : Nvs) (key : NvsKey) (maxLen : Nat) : Option Bytes :=
  (nvs.str key).filter fun value => value.length + 1 ≤ maxLen

/-- A string is stored, in place of the one under its key. -/
def nvsConfigSetStr (nvs : Nvs) (key : NvsKey) (value : Bytes) : Nvs :=
  { nvs with str := Function.update nvs.str key (some value) }

/-- A number is stored, in place of the one under its key. -/
def nvsConfigSetU32 (nvs : Nvs) (key : NvsKey) (value : Nat) : Nvs :=
  { nvs with u32 := Function.update nvs.u32 key (some value) }

def nvsConfigGetDeviceId (nvs : Nvs) (maxLen : Nat) : Option Bytes :=
  nvsConfigGetStr nvs .deviceId maxLen

def nvsConfigGetWifiSsid (nvs : Nvs) (maxLen : Nat) : Option Bytes :=
  nvsConfigGetStr nvs .wifiSsid maxLen

def nvsConfigGetWifiPassword (nvs : Nvs) (maxLen : Nat) : Option Bytes :=
  nvsConfigGetStr nvs .wifiPassword maxLen

/-- Without a stored address that fits, a fixed one is taken. -/
def nvsConfigGetServerUrl (nvs : Nvs) (maxLen : Nat) : Bytes :=
  (nvsConfigGetStr nvs .serverUrl maxLen).getD
    ((textBytes "wss://ykp-router.onrender.com/ws").take (maxLen - 1))

/-- What the firmware finds when it boots, each value as it is read into its buffer. -/
structure Boot where
  isProvisioned : Bool
  ssid : Option Bytes
  password : Option Bytes
  serverUrl : Bytes
  sslCert : Option Bytes

/-- The reads of `app_main`, and the one of `ykp_ws_init`. -/
def appMain (nvs : Nvs) : Boot where
  isProvisioned :=
    (nvsConfigGetDeviceId nvs 9).isSome && (nvsConfigGetWifiSsid nvs 64).isSome &&
      (nvsConfigGetWifiPassword nvs 64).isSome
  ssid := nvsConfigGetWifiSsid nvs 64
  password := nvsConfigGetWifiPassword nvs 64
  serverUrl := nvsConfigGetServerUrl nvs 128
  sslCert := nvsConfigGetStr nvs .sslCert 2048

/-- A string is read back exactly when it was stored and fits. -/
theorem nvsConfigGetStr_eq_some {nvs : Nvs} {key : NvsKey} {maxLen : Nat} {value : Bytes} :
    nvsConfigGetStr nvs key maxLen = some value ↔
      nvs.str key = some value ∧ value.length + 1 ≤ maxLen := by
  rw [nvsConfigGetStr, Option.filter_eq_some_iff, decide_eq_true_eq]

/-- A stored string is found under its key and under no other. -/
@[simp] theorem nvsConfigSetStr_str (nvs : Nvs) (key other : NvsKey) (value : Bytes) :
    (nvsConfigSetStr nvs key value).str other = if other = key then some value else nvs.str other :=
  Function.update_apply nvs.str key (some value) other

@[simp] theorem nvsConfigSetU32_str (nvs : Nvs) (key : NvsKey) (value : Nat) :
    (nvsConfigSetU32 nvs key value).str = nvs.str := rfl

end Ykp.Firmware
