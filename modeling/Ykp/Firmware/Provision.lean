import Ykp.Firmware.Nvs
import Ykp.Foundation.History
import Ykp.Foundation.Machine

/-! Provisioning over BLE: the session record, the tasks that share it, and the JSON commands. -/

namespace Ykp.Firmware

open BigEndian

inductive ProvState
  | idle | scan | credsRecv | wifiConnect | sslValidate | udpProbe | reportWait | nvsCommit | reboot
  | fault
  deriving DecidableEq, Repr

/-- The result of the TLS checks, as the session keeps it. -/
inductive SslResult
  | unset | caOk | caFailedFallbackOk | caFailedFallbackFailed
  deriving DecidableEq, Repr

/-- The settings to be validated and stored. -/
structure ProvSettings where
  ssid : Bytes
  psk : Bytes
  host : Bytes
  port : Nat
  udpPort : Nat
  deriving DecidableEq, Repr

/-- The session record. The last field is not in the code: it is the certificate that the result of
the TLS checks was obtained with. -/
structure ProvSession where
  state : ProvState
  sessionId : Nat
  stagesComplete : UInt8
  udpNonce : Bytes
  sslResult : SslResult
  udpResult : Bool
  commitStarted : Bool
  nonceValid : Bool
  temp : ProvSettings
  hmacKey : Bytes
  checkedCert : Bytes
  deriving DecidableEq, Repr

/-- The session record that `prov_session_clear` leaves: everything is zero. -/
def ProvSession.cleared : ProvSession where
  state := .idle
  sessionId := 0
  stagesComplete := 0
  udpNonce := []
  sslResult := .unset
  udpResult := false
  commitStarted := false
  nonceValid := false
  temp := ⟨[], [], [], 0, 0⟩
  hmacKey := List.replicate 32 0
  checkedCert := []

/-- What a string buffer of a size holds after a string was copied into all but its last byte. -/
def strncpyInto (size : Nat) (src : Bytes) : Bytes := (cString src).take (size - 1)

section Hmac

-- The digest of a message.
variable (sha256 : Bytes → Bytes)

/-- The HMAC of a message under a key of at most one block. -/
def mbedtlsHmacSha256 (key msg : Bytes) : Bytes :=
  let k := key ++ List.replicate (64 - key.length) 0
  let ipad := k.map (· ^^^ 0x36)
  let opad := k.map (· ^^^ 0x5C)
  sha256 (opad ++ sha256 (ipad ++ msg))

/-- The key commands are signed with: it depends on the session id only. -/
def deriveHmacKey (sessionId : Nat) : Bytes :=
  let salt := decimalBytes sessionId
  let prk := mbedtlsHmacSha256 sha256 salt (List.replicate 32 0x01)
  mbedtlsHmacSha256 sha256 prk (textBytes "YKP_HMAC_KEY" ++ [0x01])

end Hmac

/-- The Wi-Fi manager: the network and password it was last told to connect with, whether it is
connected, and the event bit that says so until the next attempt. -/
structure WifiManager where
  config : Bytes × Bytes
  isConnected : Bool
  connectedBit : Bool
  deriving DecidableEq, Repr

/-- A new attempt. -/
def wifiManagerConnectAsync (ssid password : Bytes) : WifiManager := ⟨(ssid, password), false, false⟩

/-- A task at the point it has reached, with its local copies. -/
inductive ProvTask
  /-- `wifi_connect_task`, before it copies, before it connects, while it waits, and after. -/
  | wifiStarts
  | wifiCopied (ssid psk : Bytes)
  | wifiWaits
  | wifiReturned (ok : Bool)
  /-- `wifi_scan_task`, before its scan is reported and while it waits for the acknowledgement. -/
  | scanStarts
  | scanWaits
  /-- `validation_task`, before it copies, before it looks at Wi-Fi, and while it connects. -/
  | validationStarts
  | validationCopied (copies : ProvSettings)
  | validationJoins (copies : ProvSettings)
  /-- Before the TLS checks, with their result and certificate, and after storing the result. -/
  | sslStarts (copies : ProvSettings)
  | sslChecked (copies : ProvSettings) (result : SslResult) (cert : Bytes)
  | sslStored (copies : ProvSettings) (result : SslResult)
  /-- While the probe is awaited, after it was right or not, and before the report. -/
  | udpWaits (copies : ProvSettings)
  | udpMatched (copies : ProvSettings)
  | udpFailed
  | reports (copies : ProvSettings)
  deriving DecidableEq, Repr

/-- The copies a validation still holds. -/
def ProvTask.copies : ProvTask → Option ProvSettings
  | .validationCopied copies => some copies
  | .validationJoins copies => some copies
  | .sslStarts copies => some copies
  | .sslChecked copies _ _ => some copies
  | .sslStored copies _ => some copies
  | .udpWaits copies => some copies
  | .udpMatched copies => some copies
  | .reports copies => some copies
  | _ => none

/-- What the settings and stages went through. -/
inductive ProvEvent
  /-- The phone sent a network and its password, or a server. -/
  | wifiSent (ssid psk : Bytes)
  | serverSent (host : Bytes) (port : Nat)
  | cleared
  /-- A validation took its copies, and its stages succeeded; Wi-Fi as it was configured by then. -/
  | copied (copies : ProvSettings)
  | wifiPassed (config : Bytes × Bytes) (copies : ProvSettings)
  | sslPassed (copies : ProvSettings)
  | udpPassed (copies : ProvSettings)
  /-- `confirm_provision` wrote these settings, having found the session in a state. -/
  | committed (found : ProvState) (ssid psk host : Bytes) (port : Nat)
  deriving DecidableEq, Repr

/-- The copies that `confirm_provision` takes. The last three fields are not in the code: the state
it found, the certificate that was checked, and what had happened by then. -/
structure ProvCommit where
  ssid : Bytes
  psk : Bytes
  host : Bytes
  port : Nat
  sslRes : SslResult
  found : ProvState
  checkedCert : Bytes
  history : List ProvEvent
  deriving DecidableEq, Repr

/-- The provisioning service. -/
structure Provision where
  session : ProvSession
  /-- The certificate received so far. -/
  cert : Bytes
  scanAckReceived : Bool
  bleConnected : Bool
  notifyEnabled : Bool
  /-- The host task has cleared the session record and not yet the certificate. -/
  clearing : Bool
  tasks : List ProvTask
  wifi : WifiManager
  nvs : Nvs
  /-- A commit that is being written, and one that is written, with the certificate by then. -/
  committing : Option ProvCommit
  committed : Option (ProvCommit × Bytes)
  /-- What happened, the newest first. -/
  log : List ProvEvent

namespace Provision

/-- The service after its start, with a session id drawn at random. -/
def start (sha256 : Bytes → Bytes) (nvs : Nvs) (drawn : Nat) : Provision where
  session := { ProvSession.cleared with
    sessionId := drawn
    hmacKey := deriveHmacKey sha256 drawn }
  cert := []
  scanAckReceived := false
  bleConnected := false
  notifyEnabled := false
  clearing := false
  tasks := []
  wifi := ⟨([], []), false, false⟩
  nvs := nvs
  committing := none
  committed := none
  log := []

def record (prov : Provision) (event : ProvEvent) : Provision :=
  { prov with log := event :: prov.log }

/-- The state of the session changes. -/
def enter (prov : Provision) (state : ProvState) : Provision :=
  { prov with session := { prov.session with state := state } }

/-- A task is created. -/
def spawn (prov : Provision) (task : ProvTask) : Provision :=
  { prov with tasks := prov.tasks ++ [task] }

/-- A task goes on to its next point. -/
def goTo (prov : Provision) (position : Nat) (task : ProvTask) : Provision :=
  { prov with tasks := prov.tasks.set position task }

/-- A task deletes itself. -/
def delete (prov : Provision) (position : Nat) : Provision :=
  { prov with tasks := prov.tasks.eraseIdx position }

/-- A stage is marked as complete. -/
def complete (prov : Provision) (bit : UInt8) : Provision :=
  { prov with session := { prov.session with
      stagesComplete := prov.session.stagesComplete ||| bit } }

/-- The network and password of a command. -/
def putWifi (prov : Provision) (ssid psk : Bytes) : Provision :=
  { prov with session := { prov.session with
      temp := { prov.session.temp with
        ssid := strncpyInto 64 ssid
        psk := strncpyInto 64 psk } } }.record (.wifiSent (cString ssid) (cString psk))

/-- A C integer as a port. -/
def portOf (valueint : Int) : Nat := (valueint % 65536).toNat

/-- The server of a command, and a new nonce from what is drawn at random. -/
def putServer (prov : Provision) (host : Bytes) (port : Int) (uport : Option Int) (nonce : Nat) :
    Provision :=
  { prov with session := { prov.session with
      temp := { prov.session.temp with
        host := strncpyInto 128 host
        port := portOf port
        udpPort := uport.elim 47808 portOf }
      udpNonce := hexString (writeU32 prov.session.sessionId) ++ hexString (writeU32 nonce)
      nonceValid := true } }.record (.serverSent (cString host) (portOf port))

end Provision

/-- The JSON commands; an argument may be missing. -/
inductive ProvCommand
  | ping
  | queryState
  | scanAck
  | sendWifi (ssid psk : Option Bytes)
  | sendServer (host : Option Bytes) (port uport : Option Int)
  | sendCreds (ssid psk host : Option Bytes) (port uport : Option Int)
  | rescan
  | setCert (chunk : Option Int) (data : Option Bytes)
  | commit
  | reportAck
  | confirmProvision
  deriving DecidableEq, Repr

@[simp] abbrev certBufSize : Nat := 8192

namespace Provision

/-- A chunk of the certificate; the first one starts it anew, and one that does not fit is dropped. -/
def appendCert (prov : Provision) (chunk : Int) (data : Bytes) : Provision :=
  let cert := if chunk = 1 then [] else prov.cert
  -- One byte is kept for the terminator, and one more is never used.
  if cert.length + (cString data).length < certBufSize - 1 then
    { prov with cert := cert ++ cString data }
  else { prov with cert := cert }

/-- `confirm_provision` up to its writes: the copies are taken whatever state the session is in. -/
def confirm (prov : Provision) : Provision :=
  let temp := prov.session.temp
  -- Neither the state nor the completed stages are looked at.
  { prov with
    session := { prov.session with
      state := .nvsCommit
      commitStarted := true }
    committing := some
      { ssid := temp.ssid
        psk := temp.psk
        host := temp.host
        port := temp.port
        sslRes := prov.session.sslResult
        found := prov.session.state
        checkedCert := prov.session.checkedCert
        history := prov.log } }

/-- A JSON command; what it answers is left out. -/
def processJsonCommand (prov : Provision) (nonce : Nat) : ProvCommand → Provision
  -- The heartbeat a ping sets is only read by a watchdog that is switched off.
  | .ping => prov
  | .queryState => prov
  | .scanAck => { prov with scanAckReceived := true }
  | .sendWifi ssid psk =>
    match ssid, psk with
    | some ssid, some psk => (prov.putWifi ssid psk).spawn .wifiStarts
    | _, _ => prov
  | .sendServer host port uport =>
    match host, port with
    | some host, some port => prov.putServer host port uport nonce
    | _, _ => prov
  | .sendCreds ssid psk host port uport =>
    match ssid, psk, host, port with
    -- Unlike the command for the network alone, this one does not connect.
    | some ssid, some psk, some host, some port =>
      (prov.putWifi ssid psk).putServer host port uport nonce
    | _, _, _, _ => prov
  | .rescan => prov.spawn .scanStarts
  | .setCert chunk data =>
    match chunk, data with
    | some chunk, some data => prov.appendCert chunk data
    | _, _ => prov
  | .commit => prov.spawn .validationStarts
  | .reportAck => prov
  | .confirmProvision => prov.confirm

end Provision

/-- The writes of `confirm_provision`, with the certificate that is in its buffer by then. -/
def confirmWrites (nvs : Nvs) (commit : ProvCommit) (cert : Bytes) : Nvs :=
  let nvs := nvsConfigSetStr nvs .wifiSsid commit.ssid
  let nvs := nvsConfigSetStr nvs .wifiPassword commit.psk
  let nvs := nvsConfigSetStr nvs .serverUrl commit.host
  let nvs := nvsConfigSetU32 nvs .controlPort commit.port
  -- The device id, which the next boot asks for, is not among the keys.
  if commit.sslRes = .caOk ∧ 0 < cert.length then nvsConfigSetStr nvs .sslCert cert else nvs

/-- What the network answers a task: whether the server's certificate is accepted with the given
authority and with the built-in ones, and a datagram that arrives in time. -/
structure NetworkAnswer where
  caAccepted : Bool
  fallbackAccepted : Bool
  datagram : Option Bytes
  deriving DecidableEq, Repr

/-- The TLS checks: with the certificate, if there is one, and else or then with the built-in ones. -/
def validateSsl (cert : Bytes) (answer : NetworkAnswer) : SslResult :=
  if 0 < cert.length ∧ answer.caAccepted then .caOk
  else if answer.fallbackAccepted then .caFailedFallbackOk
  else .caFailedFallbackFailed

/-- Whether a datagram, cut to its buffer, is the probe for a nonce. -/
def isProbe (udpNonce : Bytes) (datagram : Option Bytes) : Bool :=
  datagram.any fun data =>
    decide (0 < data.length) &&
      cString (data.take 63) == (textBytes "YKP_PROBE:" ++ udpNonce).take 63

namespace Provision

/-- A task runs from one point to the next. -/
def advanceTask (prov : Provision) (position : Nat) (answer : NetworkAnswer) : ProvTask → Provision
  | .wifiStarts =>
    -- The copies are taken when the task first runs, not when the command came.
    let temp := prov.session.temp
    (prov.enter .wifiConnect).goTo position (.wifiCopied temp.ssid temp.psk)
  | .wifiCopied ssid psk =>
    { prov with wifi := wifiManagerConnectAsync ssid psk }.goTo position .wifiWaits
  -- The wait ends with an event or a timeout; the connected bit decides.
  | .wifiWaits => prov.goTo position (.wifiReturned prov.wifi.connectedBit)
  | .wifiReturned true => ((prov.complete 0x01).enter .credsRecv).delete position
  | .wifiReturned false => (prov.enter .fault).delete position
  | .scanStarts => { prov with scanAckReceived := false }.goTo position .scanWaits
  | .scanWaits =>
    (prov.enter (if prov.scanAckReceived then .credsRecv else .fault)).delete position
  | .validationStarts =>
    let copies := prov.session.temp
    ((prov.enter .sslValidate).record (.copied copies)).goTo position (.validationCopied copies)
  | .validationCopied copies =>
    -- A connection that exists is taken for the one that is wanted.
    if prov.wifi.isConnected then
      (prov.record (.wifiPassed prov.wifi.config copies)).goTo position (.sslStarts copies)
    else
      { prov with wifi := wifiManagerConnectAsync copies.ssid copies.psk }.goTo position
        (.validationJoins copies)
  | .validationJoins copies =>
    if prov.wifi.connectedBit then
      (prov.record (.wifiPassed prov.wifi.config copies)).goTo position (.sslStarts copies)
    -- A validation that finds no network ends without a fault.
    else prov.delete position
  | .sslStarts copies =>
    let result := validateSsl prov.cert answer
    let prov :=
      if result = .caFailedFallbackFailed then prov else prov.record (.sslPassed copies)
    prov.goTo position (.sslChecked copies result prov.cert)
  | .sslChecked copies result cert =>
    let prov := prov.complete 0x02
    { prov with session := { prov.session with
        sslResult := result
        checkedCert := cert } }.goTo position (.sslStored copies result)
  | .sslStored copies result =>
    if result = .caFailedFallbackFailed then (prov.enter .fault).delete position
    else (prov.enter .udpProbe).goTo position (.udpWaits copies)
  | .udpWaits copies =>
    -- The nonce is read when the datagram has come; a later command may have renewed it.
    if isProbe prov.session.udpNonce answer.datagram then
      (prov.record (.udpPassed copies)).goTo position (.udpMatched copies)
    else prov.goTo position .udpFailed
  | .udpMatched copies =>
    let prov := prov.complete 0x04
    { prov with session := { prov.session with udpResult := true } }.goTo position
      (.reports copies)
  | .udpFailed => (prov.enter .fault).delete position
  | .reports _ => (prov.enter .reportWait).delete position

/-- The writes of `confirm_provision` are done and `commit_ok` is sent. -/
def finishCommit (prov : Provision) (commit : ProvCommit) : Provision :=
  { prov with
    nvs := confirmWrites prov.nvs commit prov.cert
    committing := none
    committed := some (commit, prov.cert) }.record
      (.committed commit.found commit.ssid commit.psk commit.host commit.port)

end Provision

/-- The events the provisioning service reacts to. -/
inductive ProvInput
  /-- GAP events; a subscription is for a characteristic, and on or off. -/
  | connect (succeeded : Bool)
  | disconnect
  | subscribe (isTx curNotify : Bool)
  /-- The host task clears the certificate, after the session record. -/
  | clearCert
  /-- The JSON task takes a command; a number is drawn for its nonce. -/
  | command (cmd : ProvCommand) (nonce : Nat)
  | finishCommit
  /-- The task at a position runs on. -/
  | advance (position : Nat) (answer : NetworkAnswer)
  /-- The Wi-Fi driver reports an address, or a lost connection. -/
  | gotIp
  | staDisconnected
  deriving DecidableEq, Repr

/-- The JSON task takes the next command only when no commit keeps it. -/
def Provision.takesCommands (prov : Provision) : Bool :=
  prov.committing.isNone && prov.committed.isNone

/-- One event; the host task handles no GAP event while it clears the session. -/
def provStep (prov : Provision) : ProvInput → Provision
  | .connect succeeded =>
    if !prov.clearing ∧ succeeded then { prov with bleConnected := true } else prov
  | .disconnect =>
    if prov.clearing then prov
    else
      -- The whole record goes, with the session id and the key that were set at the start.
      { prov with
        bleConnected := false
        notifyEnabled := false
        session := .cleared
        clearing := true }.record .cleared
  | .subscribe isTx curNotify =>
    if !prov.clearing ∧ isTx ∧ curNotify then
      ({ prov with notifyEnabled := true }.enter .scan).spawn .scanStarts
    else prov
  | .clearCert => if prov.clearing then { prov with cert := [], clearing := false } else prov
  | .command cmd nonce =>
    if prov.takesCommands then prov.processJsonCommand nonce cmd else prov
  | .finishCommit =>
    match prov.committing with
    | none => prov
    | some commit => prov.finishCommit commit
  | .advance position answer =>
    match prov.tasks[position]? with
    | none => prov
    | some task => prov.advanceTask position answer task
  -- A lost connection leaves the connected bit set until the next attempt.
  | .gotIp => { prov with wifi := { prov.wifi with isConnected := true, connectedBit := true } }
  | .staDisconnected => { prov with wifi := { prov.wifi with isConnected := false } }

/-- The provisioning service after a list of events since its start. -/
def provRun (sha256 : Bytes → Bytes) (nvs : Nvs) (drawn : Nat) (inputs : List ProvInput) :
    Provision :=
  Machine.run provStep (.start sha256 nvs drawn) inputs

end Ykp.Firmware
