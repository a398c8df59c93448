import Ykp.Firmware.JsonCommand
import Ykp.Foundation.JsonText
import Ykp.Foundation.Script
import Ykp.System.Notifications

/-! The app's side of provisioning: the flow that waits for one answer after another, the handler that
completes what it waits for, and the confirmation. -/

namespace Ykp.System

open Firmware

/-- The members of an object, as they were read. -/
abbrev Members := List (Bytes × Json)

/-- What the app takes from its platform: the object a text stands for, and the host of an address. -/
structure AppPlatform where
  jsonObject : JsString → Option Members
  uriHost : JsString → Option JsString

/-- Every text of an object in ASCII is read with its members. -/
def AppPlatform.ReadsObjects (platform : AppPlatform) : Prop :=
  ∀ text members, (∀ byte ∈ text, byte < 0x80) → Json.parse text = some (.object members) →
    platform.jsonObject (utf8Decode text) = some members

namespace Members

/-- A member by its name; of several with one name the last one counts. -/
def member (json : Members) (name : String) : Option Json :=
  (json.reverse.find? fun entry => entry.1 = textBytes name).map Prod.snd

/-- A member is a certain word. -/
def isWord (json : Members) (name word : String) : Bool :=
  match json.member name with
  | some (.string text) => text = textBytes word
  | _ => false

/-- A member as a boolean; a string may stand for it, whatever the case of its letters. -/
def optBoolean (json : Members) (name : String) : Bool :=
  match json.member name with
  | some (.bool value) => value
  | some (.string text) => text.map tolower = textBytes "true"
  | _ => false

/-- A member as a text. A value that is no string stands as it is written. -/
def optString (json : Members) (name fallback : String) : Bytes :=
  match json.member name with
  | none => textBytes fallback
  | some (.string text) => text
  | some value => value.render

/-- A member as an integer. -/
def optInt (json : Members) (name : String) (fallback : Int) : Int :=
  match json.member name with
  | some (.int value) => value
  | _ => fallback

end Members

/-- A text in which each unpaired surrogate is a question mark. -/
def pairedUnits : JsString → JsString
  | [] => []
  | [unit] => [if 0xD800 ≤ unit ∧ unit < 0xE000 then 0x3F else unit]
  | unit :: next :: rest =>
    if 0xD800 ≤ unit ∧ unit < 0xDC00 ∧ 0xDC00 ≤ next ∧ next < 0xE000 then
      unit :: next :: pairedUnits rest
    else (if 0xD800 ≤ unit ∧ unit < 0xE000 then 0x3F else unit) :: pairedUnits (next :: rest)

/-- The bytes of a text. -/
def toByteArray (text : JsString) : Bytes := utf8Encode (pairedUnits text)

/-- A value that a coroutine waits for; the first one to come up completes it. -/
inductive Deferred (α : Type)
  | absent
  | pending
  | completed (value : α)
  deriving DecidableEq, Repr

def Deferred.complete {α : Type} (deferred : Deferred α) (value : α) : Deferred α :=
  match deferred with
  | .pending => .completed value
  | _ => deferred

/-- What the user has put in, and the certificate that was fetched before. -/
structure SetupInputs where
  wifiSsidInput : JsString
  wifiPasswordInput : JsString
  serverUrlInput : JsString
  secureCertInput : JsString
  cachedSslCert : JsString
  deriving DecidableEq, Repr

/-- What the flow sends. -/
structure FlowSettings where
  wifiSsid : JsString
  wifiPass : JsString
  serverUrl : JsString
  cert : JsString
  deriving DecidableEq, Repr

def defaultServerUrl : JsString := (textBytes "wss://iot-yk.onrender.com/ws").map UInt8.toNat

/-- The inputs without white space at their ends, or what stands in for them. -/
def SetupInputs.settings (inputs : SetupInputs) : FlowSettings where
  wifiSsid := kotlinTrim inputs.wifiSsidInput
  wifiPass := kotlinTrim inputs.wifiPasswordInput
  serverUrl :=
    if kotlinTrim inputs.serverUrlInput = [] then defaultServerUrl
    else kotlinTrim inputs.serverUrlInput
  cert :=
    if kotlinTrim inputs.secureCertInput = [] then inputs.cachedSslCert
    else kotlinTrim inputs.secureCertInput

/-- The lengths that are checked before anything is sent. -/
def FlowSettings.WithinLimits (settings : FlowSettings) : Prop :=
  (toByteArray settings.wifiSsid).length ≤ 32 ∧ (toByteArray settings.wifiPass).length ≤ 64 ∧
    settings.serverUrl.length ≤ 253

instance (settings : FlowSettings) : Decidable settings.WithinLimits :=
  inferInstanceAs (Decidable (_ ∧ _ ∧ _))

/-- The certificate goes in chunks, numbered from one. -/
@[simp] abbrev certChunkSize : Nat := 180

def FlowSettings.numChunks (settings : FlowSettings) : Nat :=
  (settings.cert.length + certChunkSize - 1) / certChunkSize

def FlowSettings.chunkData (settings : FlowSettings) (chunkNum : Nat) : JsString :=
  (settings.cert.drop ((chunkNum - 1) * certChunkSize)).take certChunkSize

/-- The commands that carry the settings. -/
def FlowSettings.sendCreds (platform : AppPlatform) (settings : FlowSettings) : ProvCommand :=
  let host := (platform.uriHost settings.serverUrl).getD settings.serverUrl
  .sendCreds (some (toByteArray settings.wifiSsid)) (some (toByteArray settings.wifiPass))
    (some (toByteArray host)) (some 443) (some 47808)

def FlowSettings.setCert (settings : FlowSettings) (chunkNum : Nat) : ProvCommand :=
  .setCert (some chunkNum) (some (toByteArray (settings.chunkData chunkNum)))

/-- The answer that the flow waits for. -/
inductive FlowStage
  | credsOk
  | setCert (chunkNum : Nat)
  | sslDone
  | udpReady
  | udpOk
  | report
  deriving DecidableEq, Repr

/-- A flow: what it sends, the answer to its credentials once it has come, and what it waits for. -/
structure BleFlow where
  settings : FlowSettings
  credsResponse : Members
  stage : FlowStage

/-- The probe that the flow sends. -/
structure UdpProbe where
  nonceHex : Bytes
  port : Int
  targetIp : Bytes
  deriving DecidableEq, Repr

/-- The app as far as provisioning goes. The last three fields are not in the code: the settings that
were sent, the commands that were handed to the Bluetooth stack, and the probes. -/
structure ProvisionApp where
  credsOkDeferred : Deferred Members
  setCertAckDeferred : Deferred Unit
  sslDoneDeferred : Deferred Bytes
  udpReadyDeferred : Deferred Unit
  udpOkDeferred : Deferred Unit
  reportDeferred : Deferred Members
  commitOkDeferred : Deferred Unit
  isConfirmProvisionEnabled : Bool
  /-- The flow that runs, and how the last one ended. -/
  flow : Option BleFlow
  result : Option Bool
  /-- A confirmation waits for its answer, and the user was told that it came. -/
  confirming : Bool
  toldCommitted : Bool
  sentSettings : List FlowSettings
  written : List ProvCommand
  probes : List UdpProbe

/-- What the app reacts to. -/
inductive AppInput
  /-- A line from the device is handled. -/
  | line (line : JsString)
  /-- A flow is begun; its first command is accepted by the Bluetooth stack or not. -/
  | begin (inputs : SetupInputs) (accepted : Bool)
  /-- The flow gets a turn, and what it writes in it is accepted or not; or its time is up. -/
  | resume (accepted : Bool)
  | expire
  /-- The confirmation is begun, gets a turn, or its time is up. -/
  | confirm (accepted : Bool)
  | confirmResume
  | confirmExpire
  | ping
  deriving DecidableEq, Repr

/-- The answers of the device that the handler tells apart by their status. -/
inductive BleStatus
  | credsOk | sslDone | udpReady | udpOk | report | scanResults | commitOk
  deriving DecidableEq, Repr

def bleStatuses : List (String × BleStatus) :=
  [("ssl_done", .sslDone), ("udp_ready", .udpReady), ("udp_ok", .udpOk), ("report", .report),
    ("scan_results", .scanResults), ("creds_ok", .credsOk), ("commit_ok", .commitOk)]

def Members.status (json : Members) : Option BleStatus :=
  (bleStatuses.find? fun entry => json.isWord "status" entry.1).map Prod.snd

/-- A chunk of the certificate was acknowledged; which one is not looked at. -/
def Members.isCertAck (json : Members) : Bool :=
  json.isWord "ack" "set_cert" && json.isWord "status" "ok"

namespace ProvisionApp

/-- The app before any provisioning. -/
def start : ProvisionApp where
  credsOkDeferred := .absent
  setCertAckDeferred := .absent
  sslDoneDeferred := .absent
  udpReadyDeferred := .absent
  udpOkDeferred := .absent
  reportDeferred := .absent
  commitOkDeferred := .absent
  isConfirmProvisionEnabled := false
  flow := none
  result := none
  confirming := false
  toldCommitted := false
  sentSettings := []
  written := []
  probes := []

/-- A command goes to the Bluetooth stack. -/
def write (app : ProvisionApp) (command : ProvCommand) : ProvisionApp :=
  { app with written := app.written ++ [command] }

/-- The flow ends. -/
def finish (app : ProvisionApp) (result : Bool) : ProvisionApp :=
  { app with
    flow := none
    result := some result }

/-- The flow goes on to wait for the next answer. -/
def await (app : ProvisionApp) (flow : BleFlow) (stage : FlowStage) : ProvisionApp :=
  { app with flow := some { flow with stage := stage } }

/-- What an answer completes by its status. -/
def completeStatus (app : ProvisionApp) (json : Members) : BleStatus → ProvisionApp
  | .sslDone =>
    { app with sslDoneDeferred := app.sslDoneDeferred.complete (json.optString "result" "unknown") }
  | .udpReady => { app with udpReadyDeferred := app.udpReadyDeferred.complete () }
  | .udpOk => { app with udpOkDeferred := app.udpOkDeferred.complete () }
  | .report =>
    { app.write .reportAck with
      isConfirmProvisionEnabled := json.optBoolean "ready_to_commit"
      reportDeferred := app.reportDeferred.complete json }
  | .scanResults => app.write .scanAck
  | .credsOk => { app with credsOkDeferred := app.credsOkDeferred.complete json }
  | .commitOk => { app with commitOkDeferred := app.commitOkDeferred.complete () }

/-- A line of the device is handled: it completes what is awaited. -/
def handleIncomingBleText (platform : AppPlatform) (app : ProvisionApp) (line : JsString) :
    ProvisionApp :=
  match platform.jsonObject line with
  | none => app
  | some json =>
    let app :=
      if json.isCertAck then { app with setCertAckDeferred := app.setCertAckDeferred.complete () }
      else app
    match json.status with
    | none => app
    | some status => app.completeStatus json status

/-- The flow is begun, unless one runs: the limits are checked and the credentials sent. -/
def runV5BleProvisioningFlow (platform : AppPlatform) (app : ProvisionApp) (inputs : SetupInputs)
    (accepted : Bool) : ProvisionApp :=
  let settings := inputs.settings
  if app.flow.isSome then app
  else if settings.WithinLimits then
    let app := { app with credsOkDeferred := .pending }
    if accepted then
      { app.write (settings.sendCreds platform) with
        flow := some ⟨settings, [], .credsOk⟩
        result := none
        sentSettings := app.sentSettings ++ [settings] }
    else app.finish false
  else app.finish false

/-- The next chunk of the certificate is sent, or behind the last one the commit. -/
def sendNext (app : ProvisionApp) (flow : BleFlow) (chunkNum : Nat) (accepted : Bool) : ProvisionApp :=
  if chunkNum ≤ flow.settings.numChunks then
    let app := { app with setCertAckDeferred := .pending }
    if accepted then
      (app.write (flow.settings.setCert chunkNum)).await flow (.setCert chunkNum)
    else app.finish false
  else
    let app := { app with sslDoneDeferred := .pending }
    if accepted then (app.write .commit).await flow .sslDone
    else app.finish false

/-- The flow gets a turn, and goes on if what it waits for has come. -/
def resume (app : ProvisionApp) (flow : BleFlow) (accepted : Bool) : ProvisionApp :=
  match flow.stage with
  | .credsOk =>
    match app.credsOkDeferred with
    | .completed json => app.sendNext { flow with credsResponse := json } 1 accepted
    | _ => app
  | .setCert chunkNum =>
    match app.setCertAckDeferred with
    | .completed _ => app.sendNext flow (chunkNum + 1) accepted
    | _ => app
  | .sslDone =>
    match app.sslDoneDeferred with
    | .completed result =>
      if result = textBytes "ca_failed_fallback_failed" then app.finish false
      -- What the device sends before this turn completes nothing.
      else { app with udpReadyDeferred := .pending }.await flow .udpReady
    | _ => app
  | .udpReady =>
    match app.udpReadyDeferred with
    | .completed _ =>
      let probe : UdpProbe :=
        { nonceHex := flow.credsResponse.optString "udp_nonce" ""
          port := flow.credsResponse.optInt "udp_port" 47808
          targetIp := flow.credsResponse.optString "ip" "192.168.4.1" }
      { app with
        udpOkDeferred := .pending
        probes := app.probes ++ [probe] }.await flow .udpOk
    | _ => app
  | .udpOk =>
    match app.udpOkDeferred with
    | .completed _ => { app with reportDeferred := .pending }.await flow .report
    | _ => app
  | .report =>
    match app.reportDeferred with
    | .completed json =>
      let readyToCommit := json.optBoolean "ready_to_commit"
      { app with isConfirmProvisionEnabled := readyToCommit }.finish readyToCommit
    | _ => app

/-- The confirmation is sent; the user can only ask for it when it is enabled. -/
def confirmProvision (app : ProvisionApp) (accepted : Bool) : ProvisionApp :=
  if app.isConfirmProvisionEnabled then
    let app :=
      { app with
        commitOkDeferred := .pending
        confirming := accepted }
    if accepted then app.write .confirmProvision else app
  else app

end ProvisionApp

/-- The app reacts. -/
def appStep (platform : AppPlatform) (app : ProvisionApp) : AppInput → ProvisionApp
  | .line line => app.handleIncomingBleText platform line
  | .begin inputs accepted => app.runV5BleProvisioningFlow platform inputs accepted
  | .resume accepted =>
    match app.flow with
    | none => app
    | some flow => app.resume flow accepted
  -- A wait that is over in time and not resumed yet is cancelled as well.
  | .expire => if app.flow.isSome then app.finish false else app
  | .confirm accepted => app.confirmProvision accepted
  | .confirmResume =>
    if app.confirming ∧ app.commitOkDeferred = .completed () then
      { app with
        confirming := false
        toldCommitted := true
        isConfirmProvisionEnabled := false }
    else app
  | .confirmExpire => { app with confirming := false }
  | .ping => app.write .ping

end Ykp.System
