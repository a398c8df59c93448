import Ykp.Firmware.ProvisionSeal
import Ykp.Firmware.WifiScan
import Ykp.Foundation.JsonText

/-! What the provisioning service answers: every notification it queues, with its text. -/

namespace Ykp.Firmware

/-- An address of the network. -/
structure IpAddress where
  first : UInt8
  second : UInt8
  third : UInt8
  fourth : UInt8
  deriving DecidableEq, Repr

/-- The address as the Wi-Fi manager keeps it; before the first one there is none. -/
def ipText : Option IpAddress → Bytes
  | none => []
  | some ip =>
    decimalBytes ip.first.toNat ++ textBytes "." ++ decimalBytes ip.second.toNat ++ textBytes "." ++
      decimalBytes ip.third.toNat ++ textBytes "." ++ decimalBytes ip.fourth.toNat

/-- What a notification about the TLS checks says of the certificate. -/
inductive SslProgress
  | running | ok | failed | none
  deriving DecidableEq, Repr

/-- The notifications. -/
inductive Notification
  | bleReady (sessionId : UInt32)
  | pong
  | stateReport (state : ProvState) (sessionId seq : UInt32)
  | scanAck (seq : UInt32)
  | wifiConnecting (seq : UInt32)
  | credsOk (udpNonce : Bytes) (sessionId seq : UInt32)
  | rescan (seq : UInt32)
  | setCert (chunk : Int32) (ok : Bool) (seq : UInt32)
  | commitAck (seq : UInt32)
  | reportAck (seq : UInt32)
  | commitOk (seq : UInt32)
  | validating
  | wifiOk (ip : Option IpAddress) (rssi : Int8)
  | wifiFail
  /-- A list of networks is formatted where it is gathered. -/
  | scanResults (formatted : Bytes)
  | scanTimeout
  | sslProgress (ca : SslProgress)
  | sslDone (result : SslResult)
  | udpReady (udpNonce : Bytes)
  | udpOk
  | udpTimeout
  | report (sessionId : UInt32) (rssi : Int8) (ip : Option IpAddress) (sslResult : SslResult)
      (udpPort : UInt16)
  deriving DecidableEq, Repr

section Fields

/-- A member whose value is a fixed text, a string, or a number. -/
def textField (name text : String) : Bytes × Json := (textBytes name, .string (textBytes text))

def stringField (name : String) (text : Bytes) : Bytes × Json := (textBytes name, .string text)

def numberField (name : String) (value : Int) : Bytes × Json := (textBytes name, .int value)

/-- The sequence number of the command that is answered. -/
def seqField (seq : UInt32) : Bytes × Json := numberField "seq" seq.toNat

/-- The session id in a string of digits. -/
def sessionIdField (sessionId : UInt32) : Bytes × Json :=
  stringField "session_id" (decimalBytes sessionId.toNat)

/-- What a notification says about the certificate. -/
def SslProgress.fields : SslProgress → List (Bytes × Json)
  | .running => [textField "ca" "running"]
  | .ok => [textField "ca" "ok"]
  | .failed => [textField "ca" "failed", textField "fallback" "running"]
  | .none => [textField "ca" "none", textField "fallback" "running"]

/-- The members of a notification, in the order of its format string; a list of networks is none. -/
def Notification.fields : Notification → List (Bytes × Json)
  | .bleReady sessionId =>
    [textField "status" "ble_ready", sessionIdField sessionId, numberField "mtu" 512]
  | .pong => [textField "cmd" "pong"]
  | .stateReport state sessionId seq =>
    [textField "status" "state_report", stringField "state" (decimalBytes state.code),
      sessionIdField sessionId, seqField seq]
  | .scanAck seq => [textField "ack" "scan_ack", textField "status" "ok", seqField seq]
  | .wifiConnecting seq => [textField "status" "wifi_connecting", seqField seq]
  | .credsOk udpNonce sessionId seq =>
    [textField "status" "creds_ok", stringField "udp_nonce" udpNonce, sessionIdField sessionId,
      seqField seq]
  | .rescan seq => [textField "ack" "rescan", textField "status" "ok", seqField seq]
  | .setCert chunk ok seq =>
    [textField "ack" "set_cert", numberField "chunk" chunk.toInt,
      textField "status" (if ok then "ok" else "error"), seqField seq]
  | .commitAck seq => [textField "status" "commit_ack", seqField seq]
  | .reportAck seq => [textField "ack" "report_ack", textField "status" "ok", seqField seq]
  | .commitOk seq => [textField "status" "commit_ok", seqField seq]
  | .validating => [textField "status" "validating", textField "message" "Connecting to Wi-Fi..."]
  | .wifiOk ip rssi =>
    [textField "status" "wifi_ok", stringField "ip" (ipText ip), numberField "rssi" rssi.toInt,
      textField "link_quality" "good"]
  | .wifiFail => [textField "status" "wifi_fail", textField "reason" "assoc_fail"]
  | .scanResults _ => []
  | .scanTimeout => [textField "status" "timeout", textField "state" "SCAN"]
  | .sslProgress ca => textField "status" "ssl_progress" :: ca.fields
  | .sslDone result => [textField "status" "ssl_done", textField "result" result.text]
  | .udpReady udpNonce => [textField "status" "udp_ready", stringField "udp_nonce" udpNonce]
  | .udpOk => [textField "status" "udp_ok"]
  | .udpTimeout => [textField "status" "udp_timeout"]
  | .report sessionId rssi ip sslResult udpPort =>
    [textField "status" "report", textField "firmware_version" "v1.2.1", sessionIdField sessionId,
      numberField "wifi_rssi" rssi.toInt, numberField "wifi_rssi_avg" rssi.toInt,
      textField "link_quality" "good", stringField "wifi_ip" (ipText ip),
      textField "ssl_status" sslResult.text, textField "udp_status" "udp_ok",
      numberField "udp_port" udpPort.toNat, (textBytes "time_sync", .bool true),
      (textBytes "ready_to_commit", .bool true),
      (textBytes "stages_complete", .object
        [(textBytes "wifi", .bool true), (textBytes "ssl", .bool true), (textBytes "udp", .bool true)])]

end Fields

/-- The text of a notification. -/
def Notification.text : Notification → Bytes
  | .scanResults formatted => formatted
  | notification => Json.render (.object notification.fields)

/-- What an answer depends on besides the session: the sequence number of the command in hand, and
what the Wi-Fi driver reports. -/
structure AnswerEnv where
  seq : UInt32
  rssi : Int8
  ip : Option IpAddress
  scan : ScanOutcome

namespace Provision

/-- The session id as the integer it is kept in. -/
def sessionId32 (prov : Provision) : UInt32 := UInt32.ofNat prov.session.sessionId

/-- Whether a chunk of the certificate has room. -/
def hasRoom (prov : Provision) (chunk : Int) (data : Bytes) : Bool :=
  decide ((if chunk = 1 then [] else prov.cert).length + (cString data).length < certBufSize - 1)

/-- The answer to a JSON command. -/
def commandAnswers (prov : Provision) (nonce : Nat) (env : AnswerEnv) :
    ProvCommand → List Notification
  | .ping => [.pong]
  | .queryState => [.stateReport prov.session.state prov.sessionId32 env.seq]
  | .scanAck => [.scanAck env.seq]
  | .sendWifi (some _) (some _) => [.wifiConnecting env.seq]
  | .sendServer (some host) (some port) uport =>
    [.credsOk (prov.putServer host port uport nonce).session.udpNonce prov.sessionId32 env.seq]
  | .sendCreds (some _) (some _) (some host) (some port) uport =>
    [.credsOk (prov.putServer host port uport nonce).session.udpNonce prov.sessionId32 env.seq]
  | .rescan => [.rescan env.seq]
  | .setCert (some chunk) (some data) =>
    [.setCert (Int32.ofInt chunk) (prov.hasRoom chunk data) env.seq]
  | .commit => [.commitAck env.seq]
  | .reportAck => [.reportAck env.seq]
  -- The answer to a confirmation follows its writes; a missing argument is not answered.
  | _ => []

/-- What a task queues on the way to its next point. -/
def taskAnswers (prov : Provision) (env : AnswerEnv) (answer : NetworkAnswer) :
    ProvTask → List Notification
  | .wifiCopied _ _ => [.validating]
  | .wifiReturned true => [.wifiOk env.ip env.rssi]
  | .wifiReturned false => [.wifiFail]
  | .scanStarts =>
    [.scanResults (formatScan prov.sessionId32 (wifiManagerScan scanBufSize env.scan))]
  | .scanWaits => if prov.scanAckReceived then [] else [.scanTimeout]
  | .validationCopied _ => if prov.wifi.isConnected then [] else [.validating]
  | .validationJoins _ => if prov.wifi.connectedBit then [] else [.wifiFail]
  | .sslStarts _ =>
    .sslProgress .running ::
      if 0 < prov.cert.length then
        if answer.caAccepted then [.sslProgress .ok] else [.sslProgress .failed]
      else [.sslProgress .none]
  | .sslStored _ result =>
    if result = .caFailedFallbackFailed then [.sslDone result]
    else [.sslDone result, .udpReady prov.session.udpNonce]
  | .udpMatched _ => [.udpOk]
  | .udpFailed => [.udpTimeout]
  | .reports copies =>
    [.report prov.sessionId32 env.rssi env.ip prov.session.sslResult (UInt16.ofNat copies.udpPort)]
  | _ => []

/-- What an event makes the service queue. -/
def answers (prov : Provision) (env : AnswerEnv) : ProvInput → List Notification
  | .subscribe isTx curNotify =>
    if !prov.clearing ∧ isTx ∧ curNotify then [.bleReady prov.sessionId32] else []
  | .command cmd nonce => if prov.takesCommands then prov.commandAnswers nonce env cmd else []
  | .finishCommit => if prov.committing.isSome then [.commitOk env.seq] else []
  | .advance position answer =>
    match prov.tasks[position]? with
    | none => []
    | some task => prov.taskAnswers env answer task
  | _ => []

end Provision

end Ykp.Firmware
