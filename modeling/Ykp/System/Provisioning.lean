import Ykp.Firmware.ProvisionStages
import Ykp.Firmware.ProvisionSurvival
import Ykp.System.AnswerLines
import Ykp.System.ProvisionFlow

/-! Provisioning as one system of the app, the device and what they send each other: what the app's
success and its confirmation say about the device. -/

namespace Ykp.System

open Firmware History

/-- The device, the app, and all answers that the device has queued. -/
structure ProvisioningSystem where
  prov : Provision
  app : ProvisionApp
  answered : List Notification

/-- What happens at the device, or in the app. -/
inductive SystemInput
  | device (input : ProvInput) (env : AnswerEnv)
  | app (input : AppInput)

/-- The system before a phone connects. -/
def systemStart (sha256 : Bytes → Bytes) (nvs : Nvs) (drawn : Nat) : ProvisioningSystem where
  prov := .start sha256 nvs drawn
  app := .start
  answered := []

/-- The device has queued an answer of a status. -/
def Heard (answered : List Notification) (status : BleStatus) : Prop :=
  ∃ answer ∈ answered, bleStatusOf answer = some status

/-- The members of an answer that acknowledged credentials. -/
def AcceptsCreds (answered : List Notification) (json : Members) : Prop :=
  ∃ udpNonce sessionId seq, .credsOk udpNonce sessionId seq ∈ answered ∧
    json = (Notification.credsOk udpNonce sessionId seq).fields

/-- The settings the service starts with, and has after a disconnection. -/
def blankSettings : ProvSettings := ProvSession.cleared.temp

section System

variable (platform : AppPlatform)

/-- One event at the device or in the app. -/
def systemStep (sys : ProvisioningSystem) : SystemInput → ProvisioningSystem
  | .device input env =>
    { sys with
      prov := provStep sys.prov input
      answered := sys.answered ++ sys.prov.answers env input }
  | .app input => { sys with app := appStep platform sys.app input }

/-- A list of networks is not taken for another answer, whatever the names in it. -/
def Unmistakable (answer : Notification) : Prop :=
  answer.IsScan → ∀ json, platform.jsonObject (lineText answer.text) = some json →
    (json.status = none ∨ json.status = some .scanResults) ∧ json.isCertAck = false

/-- The device takes commands that the app has written, and the app handles answers that the device has
queued; either may be lost, or come late, out of order or twice. -/
def Exchanged (sys : ProvisioningSystem) : SystemInput → Prop
  | .device (.command cmd _) _ => cmd ∈ sys.app.written
  | .app (.line line) =>
    ∃ answer ∈ sys.answered, lineText answer.text = line ∧ Unmistakable platform answer
  | _ => True

/-- The settings of a flow as the device keeps them, cut to its buffers. -/
def FlowSettings.cut (settings : FlowSettings) : ProvSettings where
  ssid := strncpyInto 64 (toByteArray settings.wifiSsid)
  psk := strncpyInto 64 (toByteArray settings.wifiPass)
  host := strncpyInto 128
    (toByteArray ((platform.uriHost settings.serverUrl).getD settings.serverUrl))
  port := 443
  udpPort := 47808

/-- Settings were sent by a flow; or they are blank, and a phone has disconnected. -/
def Origin (sent : List FlowSettings) (log : List ProvEvent) (settings : ProvSettings) : Prop :=
  (∃ flow ∈ sent, settings = flow.cut platform) ∨ settings = blankSettings ∧ .cleared ∈ log

/-- What a commit writes has an origin. -/
def CommitOrigin (sent : List FlowSettings) (log : List ProvEvent) (commit : ProvCommit) : Prop :=
  ∃ settings, Origin platform sent log settings ∧ commit.ssid = settings.ssid ∧
    commit.psk = settings.psk ∧ commit.host = settings.host ∧ commit.port = settings.port

/-- A command of the app: whole sets of settings are all it sends of them. -/
def FlowCommand (sent : List FlowSettings) : ProvCommand → Prop
  | .sendCreds ssid psk host port uport =>
    ∃ flow ∈ sent, .sendCreds ssid psk host port uport = flow.sendCreds platform
  | .sendWifi _ _ => False
  | .sendServer _ _ _ => False
  | _ => True

end System

/-- A validation has been asked for, and is not over. -/
def Validates (task : ProvTask) : Prop := task = .validationStarts ∨ task.copies ≠ none

/-- What the device is known to have, given what it has answered. -/
structure DeviceKept (platform : AppPlatform) (sent : List FlowSettings) (nvs : Nvs)
    (prov : Provision) (answered : List Notification) : Prop where
  nonce : NonceKept prov
  written : ∀ answer ∈ answered, answer.NonceWritten
  mirrored : Firmware.Mirrored nvs prov
  temp : prov.session.temp = blankSettings ∨ Origin platform sent prov.log prov.session.temp
  settled : Heard answered .credsOk ∨ (∃ task ∈ prov.tasks, Validates task) ∨ Heard answered .report →
    Origin platform sent prov.log prov.session.temp
  tested : ∀ task ∈ prov.tasks, Tested prov.log task
  copied : ∀ task ∈ prov.tasks, ∀ copies, task.copies = some copies →
    Origin platform sent prov.log copies
  reported : Heard answered .report →
    ∃ copies, Origin platform sent prov.log copies ∧ Checked copies prov.log
  committing : ∀ commit, prov.committing = some commit →
    Heard answered .report ∧ CommitOrigin platform sent prov.log commit
  committed : ∀ commit cert, prov.committed = some (commit, cert) →
    Heard answered .report ∧ CommitOrigin platform sent prov.log commit
  acknowledged : Heard answered .commitOk → prov.committed.isSome

/-- What the app is known to have, given what the device has answered. -/
structure AppKept (platform : AppPlatform) (answered : List Notification) (app : ProvisionApp) :
    Prop where
  creds : ∀ json, app.credsOkDeferred = .completed json → AcceptsCreds answered json
  flow : ∀ flow, app.flow = some flow →
    flow.stage = .credsOk ∨ AcceptsCreds answered flow.credsResponse
  report : ∀ json, app.reportDeferred = .completed json → Heard answered .report
  enabled : app.isConfirmProvisionEnabled = true → Heard answered .report
  result : app.result = some true → Heard answered .report
  commitOk : app.commitOkDeferred = .completed () → Heard answered .commitOk
  told : app.toldCommitted = true → Heard answered .commitOk
  commands : ∀ cmd ∈ app.written, FlowCommand platform app.sentSettings cmd
  commit : .commit ∈ app.written → Heard answered .credsOk
  confirm : .confirmProvision ∈ app.written → Heard answered .report
  probes : ∀ probe ∈ app.probes, ∃ udpNonce sessionId seq,
    .credsOk udpNonce sessionId seq ∈ answered ∧
      probe = ⟨udpNonce, 47808, textBytes "192.168.4.1"⟩

section App

variable {platform : AppPlatform} {answered : List Notification} {app : ProvisionApp}

theorem Heard.more {status : BleStatus} (heard : Heard answered status)
    (later : List Notification) : Heard (answered ++ later) status := by
  obtain ⟨answer, member, same⟩ := heard
  exact ⟨answer, List.mem_append_left _ member, same⟩

theorem AcceptsCreds.more {json : Members} (accepts : AcceptsCreds answered json)
    (later : List Notification) : AcceptsCreds (answered ++ later) json := by
  obtain ⟨udpNonce, sessionId, seq, member, same⟩ := accepts
  exact ⟨udpNonce, sessionId, seq, List.mem_append_left _ member, same⟩

theorem AcceptsCreds.heard {json : Members} (accepts : AcceptsCreds answered json) :
    Heard answered .credsOk := by
  obtain ⟨udpNonce, sessionId, seq, member, -⟩ := accepts
  exact ⟨_, member, rfl⟩

/-- Further answers take nothing away from what the app has. -/
theorem AppKept.more (kept : AppKept platform answered app) (later : List Notification) :
    AppKept platform (answered ++ later) app where
  creds json completed := (kept.creds json completed).more later
  flow flow runs := (kept.flow flow runs).imp_right fun accepts => accepts.more later
  report json completed := (kept.report json completed).more later
  enabled on := (kept.enabled on).more later
  result good := (kept.result good).more later
  commitOk completed := (kept.commitOk completed).more later
  told told := (kept.told told).more later
  commands := kept.commands
  commit member := (kept.commit member).more later
  confirm member := (kept.confirm member).more later
  probes probe member := by
    obtain ⟨udpNonce, sessionId, seq, answer, same⟩ := kept.probes probe member
    exact ⟨udpNonce, sessionId, seq, List.mem_append_left _ answer, same⟩

/-- A command that the app has grounds for may be written. -/
theorem AppKept.write (kept : AppKept platform answered app) {cmd : ProvCommand}
    (own : FlowCommand platform app.sentSettings cmd)
    (commit : cmd = .commit → Heard answered .credsOk)
    (confirm : cmd = .confirmProvision → Heard answered .report) :
    AppKept platform answered (app.write cmd) := by
  have among {other : ProvCommand} (member : other ∈ (app.write cmd).written) :
      other ∈ app.written ∨ other = cmd := by
    rcases List.mem_append.mp member with before | new
    · exact .inl before
    · exact .inr (List.mem_singleton.mp new)
  refine { kept with commands := ?_, commit := ?_, confirm := ?_ }
  · intro other member
    rcases among member with before | rfl
    · exact kept.commands other before
    · exact own
  · intro member
    rcases among member with before | same
    · exact kept.commit before
    · exact commit same.symm
  · intro member
    rcases among member with before | same
    · exact kept.confirm before
    · exact confirm same.symm

/-- What is completed afterwards was before, or is the new value. -/
theorem Deferred.completed_of_complete {α : Type} {deferred : Deferred α} {value result : α}
    (completed : deferred.complete value = .completed result) :
    deferred = .completed result ∨ result = value := by
  cases deferred with
  | absent => cases completed
  | pending => exact .inr (Deferred.completed.inj completed).symm
  | completed other => exact .inl completed

/-- An answer that the device has queued completes what it should. -/
theorem AppKept.completeStatus (kept : AppKept platform answered app) {json : Members}
    {status : BleStatus} (heard : Heard answered status)
    (creds : status = .credsOk → AcceptsCreds answered json) :
    AppKept platform answered (app.completeStatus json status) := by
  cases status with
  | sslDone | udpReady | udpOk => exact { kept with }
  | scanResults => exact kept.write trivial nofun nofun
  | report =>
    have acked : AppKept platform answered (app.write .reportAck) := kept.write trivial nofun nofun
    exact { acked with
      report := fun _ _ => heard
      enabled := fun _ => heard }
  | credsOk =>
    refine { kept with creds := fun other completed => ?_ }
    rcases Deferred.completed_of_complete completed with before | rfl
    · exact kept.creds other before
    · exact creds rfl
  | commitOk => exact { kept with commitOk := fun _ => heard }

/-- An answer that the device has queued is handled. -/
theorem AppKept.line (kept : AppKept platform answered app) (reads : platform.ReadsObjects)
    {answer : Notification} (member : answer ∈ answered) (nonce : answer.NonceWritten)
    (unmistakable : Unmistakable platform answer) :
    AppKept platform answered (app.handleIncomingBleText platform (lineText answer.text)) := by
  unfold ProvisionApp.handleIncomingBleText
  by_cases scan : answer.IsScan
  · cases found : platform.jsonObject (lineText answer.text) with
    | none => exact kept
    | some json =>
      -- A list of networks is acknowledged, or ignored.
      obtain ⟨known, ack⟩ := unmistakable scan json found
      simp only [ack, Bool.false_eq_true, if_false]
      rcases known with none | scanned
      · rw [none]
        exact kept
      · rw [scanned]
        exact kept.write trivial nofun nofun
  · rw [answer_read reads scan nonce]
    simp only [fields_status scan]
    have counted : AppKept platform answered
        (if Members.isCertAck answer.fields then
          { app with setCertAckDeferred := app.setCertAckDeferred.complete () }
        else app) := by
      split <;> exact { kept with }
    cases known : bleStatusOf answer with
    | none => exact counted
    | some status =>
      refine counted.completeStatus ⟨answer, member, known⟩ fun same => ?_
      rw [same] at known
      cases answer with
      | credsOk udpNonce sessionId seq => exact ⟨udpNonce, sessionId, seq, member, rfl⟩
      | _ => cases known

/-- A flow that has ended without success. -/
theorem AppKept.fail (kept : AppKept platform answered app) :
    AppKept platform answered (app.finish false) :=
  { kept with
    flow := nofun
    result := nofun }

/-- A flow whose credentials were acknowledged goes on. -/
theorem AppKept.await (kept : AppKept platform answered app) {flow : BleFlow}
    (accepts : AcceptsCreds answered flow.credsResponse) (stage : FlowStage) :
    AppKept platform answered (app.await flow stage) := by
  refine { kept with flow := fun other runs => ?_ }
  cases runs
  exact .inr accepts

theorem AppKept.sendNext (kept : AppKept platform answered app) {flow : BleFlow}
    (accepts : AcceptsCreds answered flow.credsResponse) (chunkNum : Nat) (accepted : Bool) :
    AppKept platform answered (app.sendNext flow chunkNum accepted) := by
  unfold ProvisionApp.sendNext
  split
  · -- What the flow waits for next is created anew.
    have waits : AppKept platform answered { app with setCertAckDeferred := .pending } :=
      { kept with }
    cases accepted with
    | true =>
      have written := @AppKept.write _ _ _ waits (flow.settings.setCert chunkNum) trivial nofun nofun
      exact written.await accepts _
    | false => exact waits.fail
  · have waits : AppKept platform answered { app with sslDoneDeferred := .pending } := { kept with }
    cases accepted with
    | true =>
      have written := @AppKept.write _ _ _ waits .commit trivial (fun _ => accepts.heard) nofun
      exact written.await accepts _
    | false => exact waits.fail

/-- A turn of the flow. -/
theorem AppKept.resume (kept : AppKept platform answered app) {flow : BleFlow}
    (runs : app.flow = some flow) (accepted : Bool) :
    AppKept platform answered (app.resume flow accepted) := by
  have accepts (later : flow.stage ≠ .credsOk) : AcceptsCreds answered flow.credsResponse := by
    rcases kept.flow flow runs with first | accepts
    · exact absurd first later
    · exact accepts
  unfold ProvisionApp.resume
  cases at_ : flow.stage with
  | credsOk =>
    dsimp only
    split
    · rename_i json completed
      exact @AppKept.sendNext _ _ _ kept { flow with credsResponse := json }
        (kept.creds json completed) 1 accepted
    · exact kept
  | setCert chunkNum =>
    dsimp only
    split
    · exact kept.sendNext (accepts (by rw [at_]; nofun)) _ accepted
    · exact kept
  | sslDone =>
    dsimp only
    split
    · split
      · exact kept.fail
      · have waits : AppKept platform answered { app with udpReadyDeferred := .pending } :=
          { kept with }
        exact waits.await (accepts (by rw [at_]; nofun)) _
    · exact kept
  | udpReady =>
    dsimp only
    split
    · have creds := accepts (by rw [at_]; nofun)
      refine AppKept.await ?_ creds _
      refine { kept with probes := fun probe member => ?_ }
      rcases List.mem_append.mp member with before | new
      · exact kept.probes probe before
      · -- The acknowledgement has no address and no port in it.
        obtain ⟨udpNonce, sessionId, seq, answer, same⟩ := creds
        refine ⟨udpNonce, sessionId, seq, answer, ?_⟩
        rw [List.mem_singleton.mp new, same]
        rfl
    · exact kept
  | udpOk =>
    dsimp only
    split
    · have waits : AppKept platform answered { app with reportDeferred := .pending } :=
        { kept with report := nofun }
      exact waits.await (accepts (by rw [at_]; nofun)) _
    · exact kept
  | report =>
    dsimp only
    split
    · rename_i json completed
      have heard := kept.report json completed
      exact { kept with
        flow := nofun
        enabled := fun _ => heard
        result := fun _ => heard }
    · exact kept

/-- A flow that is begun has sent its settings, or has ended. -/
theorem AppKept.begin (kept : AppKept platform answered app) (inputs : SetupInputs)
    (accepted : Bool) :
    AppKept platform answered (app.runV5BleProvisioningFlow platform inputs accepted) := by
  unfold ProvisionApp.runV5BleProvisioningFlow
  dsimp only
  split
  · exact kept
  · split
    · have waits : AppKept platform answered { app with credsOkDeferred := .pending } :=
        { kept with creds := nofun }
      cases accepted with
      | false => exact waits.fail
      | true =>
        -- The new settings are among those that were sent.
        have sent {cmd : ProvCommand} (own : FlowCommand platform app.sentSettings cmd) :
            FlowCommand platform (app.sentSettings ++ [inputs.settings]) cmd := by
          cases cmd with
          | sendCreds ssid psk host port uport =>
            obtain ⟨flow, member, same⟩ := own
            exact ⟨flow, List.mem_append_left _ member, same⟩
          | sendWifi ssid psk => exact own
          | sendServer host port uport => exact own
          | _ => trivial
        have wider : AppKept platform answered { app with
            credsOkDeferred := .pending
            sentSettings := app.sentSettings ++ [inputs.settings] } :=
          { waits with commands := fun cmd member => sent (kept.commands cmd member) }
        have written : AppKept platform answered (ProvisionApp.write { app with
            credsOkDeferred := .pending
            sentSettings := app.sentSettings ++ [inputs.settings] }
            (inputs.settings.sendCreds platform)) :=
          wider.write ⟨inputs.settings, List.mem_append_right _ (List.mem_singleton_self _), rfl⟩
            nofun nofun
        refine { written with
          flow := fun flow runs => ?_
          result := nofun }
        cases runs
        exact .inl rfl
    · exact kept.fail

/-- The confirmation is sent on the grounds of a report. -/
theorem AppKept.confirmProvision (kept : AppKept platform answered app) (accepted : Bool) :
    AppKept platform answered (app.confirmProvision accepted) := by
  unfold ProvisionApp.confirmProvision
  split
  · rename_i enabled
    have waits : AppKept platform answered { app with
        commitOkDeferred := .pending
        confirming := accepted } := { kept with commitOk := nofun }
    cases accepted with
    | true => exact waits.write trivial nofun fun _ => kept.enabled enabled
    | false => exact waits
  · exact kept

end App

section Device

variable {platform : AppPlatform} {sent : List FlowSettings} {nvs : Nvs} {prov : Provision}
  {answered : List Notification}

/-- Settings keep their origin when more is sent and more happens. -/
theorem Origin.more {log : List ProvEvent} {settings : ProvSettings}
    (origin : Origin platform sent log settings) (later : List FlowSettings)
    (newer : List ProvEvent) : Origin platform (sent ++ later) (newer ++ log) settings := by
  rcases origin with ⟨flow, member, same⟩ | ⟨blank, cleared⟩
  · exact .inl ⟨flow, List.mem_append_left _ member, same⟩
  · exact .inr ⟨blank, List.mem_append_right _ cleared⟩

theorem Origin.log {log : List ProvEvent} {settings : ProvSettings}
    (origin : Origin platform sent log settings) (newer : List ProvEvent) :
    Origin platform sent (newer ++ log) settings := by
  simpa using origin.more [] newer

/-- No task changes the settings or a commit. -/
theorem advanceTask_core (position : Nat) (answer : NetworkAnswer) (task : ProvTask) :
    (prov.advanceTask position answer task).core = prov.core := by
  cases task with
  | wifiReturned ok => cases ok <;> rfl
  | validationCopied copies | validationJoins copies | sslStarts copies | sslStored copies result
  | udpWaits copies =>
    unfold Provision.advanceTask
    dsimp only
    split <;> rfl
  | _ => rfl

/-- What an event does to the settings and the commit. -/
inductive SettingsMove (prov next : Provision) : ProvInput → Prop
  | same {input : ProvInput} (temp : next.session.temp = prov.session.temp)
      (committing : next.committing = prov.committing) (committed : next.committed = prov.committed) :
      SettingsMove prov next input
  | cleared {input : ProvInput} (temp : next.session.temp = blankSettings)
      (logged : next.log = .cleared :: prov.log) (committing : next.committing = prov.committing)
      (committed : next.committed = prov.committed) : SettingsMove prov next input
  | command (cmd : ProvCommand) (nonce : Nat) (taken : next = prov.processJsonCommand nonce cmd) :
      SettingsMove prov next (.command cmd nonce)
  | finished (commit : ProvCommit) (waits : prov.committing = some commit)
      (done : next = prov.finishCommit commit) : SettingsMove prov next .finishCommit

theorem provStep_settings (prov : Provision) (input : ProvInput) :
    SettingsMove prov (provStep prov input) input := by
  cases input with
  | connect succeeded | clearCert | subscribe isTx curNotify =>
    unfold provStep
    dsimp only
    split <;> exact .same rfl rfl rfl
  | disconnect =>
    unfold provStep
    dsimp only
    split
    · exact .same rfl rfl rfl
    · exact .cleared rfl rfl rfl rfl
  | command cmd nonce =>
    unfold provStep
    dsimp only
    split
    · exact .command cmd nonce rfl
    · exact .same rfl rfl rfl
  | finishCommit =>
    unfold provStep
    dsimp only
    split
    · exact .same rfl rfl rfl
    · rename_i commit waits
      exact .finished commit waits rfl
  | advance position answer =>
    unfold provStep
    dsimp only
    split
    · exact .same rfl rfl rfl
    · rename_i task waits
      have core := @advanceTask_core prov position answer task
      exact .same (congrArg ProvCore.temp core) (congrArg ProvCore.committing core)
        (congrArg ProvCore.committed core)
  | gotIp => exact .same rfl rfl rfl
  | staDisconnected => exact .same rfl rfl rfl

/-- A command of the app leaves the settings alone, or brings those of a flow. -/
theorem command_temp {cmd : ProvCommand} (own : FlowCommand platform sent cmd) (nonce : Nat) :
    (prov.processJsonCommand nonce cmd).session.temp = prov.session.temp ∧ ¬ cmd.BringsServer ∨
      ∃ flow ∈ sent, (prov.processJsonCommand nonce cmd).session.temp = flow.cut platform := by
  cases cmd with
  | sendCreds ssid psk host port uport =>
    obtain ⟨flow, member, same⟩ := own
    refine .inr ⟨flow, member, ?_⟩
    rw [same]
    rfl
  | sendWifi ssid psk => exact own.elim
  | sendServer host port uport => exact own.elim
  | setCert chunk data =>
    refine .inl ⟨?_, nofun⟩
    unfold Provision.processJsonCommand Provision.appendCert
    dsimp only
    split
    · split <;> split <;> rfl
    · rfl
  | _ => exact .inl ⟨rfl, nofun⟩

/-- Only one command of the app takes copies for a commit. -/
theorem command_committing {cmd : ProvCommand} (own : FlowCommand platform sent cmd) (nonce : Nat) :
    (prov.processJsonCommand nonce cmd).committed = prov.committed ∧
      ((prov.processJsonCommand nonce cmd).committing = prov.committing ∨
        cmd = .confirmProvision) := by
  cases cmd with
  | confirmProvision => exact ⟨rfl, .inr rfl⟩
  | sendCreds ssid psk host port uport =>
    obtain ⟨flow, member, same⟩ := own
    rw [same]
    exact ⟨rfl, .inl rfl⟩
  | sendWifi ssid psk => exact own.elim
  | sendServer host port uport => exact own.elim
  | setCert chunk data =>
    unfold Provision.processJsonCommand Provision.appendCert
    dsimp only
    split
    · split <;> split <;> exact ⟨rfl, .inl rfl⟩
    · exact ⟨rfl, .inl rfl⟩
  | _ => exact ⟨rfl, .inl rfl⟩

/-- What is heard was heard before, or is among the newest answers. -/
theorem heard_append {later : List Notification} {status : BleStatus}
    (heard : Heard (answered ++ later) status) :
    Heard answered status ∨ ∃ answer ∈ later, bleStatusOf answer = some status := by
  obtain ⟨answer, member, same⟩ := heard
  rcases List.mem_append.mp member with before | new
  · exact .inl ⟨answer, before, same⟩
  · exact .inr ⟨answer, new, same⟩

/-- More that is sent takes nothing away. -/
theorem DeviceKept.more (kept : DeviceKept platform sent nvs prov answered)
    (later : List FlowSettings) : DeviceKept platform (sent ++ later) nvs prov answered := by
  have wider {settings : ProvSettings} (origin : Origin platform sent prov.log settings) :
      Origin platform (sent ++ later) prov.log settings := by
    simpa using origin.more later []
  refine { kept with
    temp := kept.temp.imp_right wider
    settled := fun settled => wider (kept.settled settled)
    copied := fun task member copies holds => wider (kept.copied task member copies holds)
    reported := fun heard => ?_
    committing := fun commit waits => ?_
    committed := fun commit cert written => ?_ }
  · obtain ⟨copies, origin, checked⟩ := kept.reported heard
    exact ⟨copies, wider origin, checked⟩
  · obtain ⟨heard, settings, origin, same⟩ := kept.committing commit waits
    exact ⟨heard, settings, wider origin, same⟩
  · obtain ⟨heard, settings, origin, same⟩ := kept.committed commit cert written
    exact ⟨heard, settings, wider origin, same⟩

/-- The device has a command of the app that the app had grounds for. -/
def Grounds (platform : AppPlatform) (sent : List FlowSettings) (answered : List Notification)
    (input : ProvInput) : Prop :=
  ∀ cmd nonce, input = .command cmd nonce → FlowCommand platform sent cmd ∧
    (cmd = .commit → Heard answered .credsOk) ∧ (cmd = .confirmProvision → Heard answered .report)

/-- Settings with an origin are replaced by such only. -/
theorem origin_step {input : ProvInput} (grounds : Grounds platform sent answered input) :
    (provStep prov input).session.temp = prov.session.temp ∨
      Origin platform sent (provStep prov input).log (provStep prov input).session.temp := by
  cases provStep_settings prov input with
  | same temp committing committed => exact .inl temp
  | cleared temp logged committing committed =>
    exact .inr (.inr ⟨temp, by rw [logged]; exact List.mem_cons_self⟩)
  | command cmd nonce taken =>
    rw [taken]
    rcases command_temp (grounds cmd nonce rfl).1 nonce with ⟨same, -⟩ | sentBy
    · exact .inl same
    · exact .inr (.inl sentBy)
  | finished commit waits done =>
    rw [done]
    exact .inl rfl

theorem DeviceKept.stay (kept : DeviceKept platform sent nvs prov answered) {input : ProvInput}
    (grounds : Grounds platform sent answered input)
    (settled : Heard answered .credsOk ∨ (∃ task ∈ prov.tasks, Validates task) ∨
      Heard answered .report) :
    Origin platform sent (provStep prov input).log (provStep prov input).session.temp := by
  obtain ⟨newer, logged⟩ := provStep_log prov input
  rcases origin_step grounds with same | origin
  · rw [same, logged]
    exact (kept.settled settled).log newer
  · exact origin

/-- Once credentials were acknowledged, a validation runs or has reported, the settings have an origin. -/
theorem DeviceKept.settle (kept : DeviceKept platform sent nvs prov answered) {input : ProvInput}
    (env : AnswerEnv) (grounds : Grounds platform sent answered input)
    (settled : Heard (answered ++ prov.answers env input) .credsOk ∨
      (∃ task ∈ (provStep prov input).tasks, Validates task) ∨
      Heard (answered ++ prov.answers env input) .report) :
    Origin platform sent (provStep prov input).log (provStep prov input).session.temp := by
  have caused := answers_caused prov env input
  rcases settled with heard | ⟨task, member, validates⟩ | heard
  · rcases heard_append heard with before | ⟨answer, new, same⟩
    · exact kept.stay grounds (.inl before)
    · cases answer with
      | credsOk udpNonce sessionId seq =>
        obtain ⟨free, cmd, nonce, rfl, brings⟩ := caused _ new
        have taken : provStep prov (.command cmd nonce) = prov.processJsonCommand nonce cmd :=
          if_pos free
        rcases command_temp (grounds cmd nonce rfl).1 nonce with ⟨-, other⟩ | sentBy
        · exact absurd brings other
        · rw [taken]
          exact .inl sentBy
      | _ => cases same
  · rcases validates with rfl | copies
    · -- A validation is asked for by a command that followed an acknowledgement.
      rcases provStep_validations input member with before | ⟨nonce, rfl⟩
      · exact kept.stay grounds (.inr (.inl ⟨_, before, .inl rfl⟩))
      · exact kept.stay grounds (.inl ((grounds _ nonce rfl).2.1 rfl))
    · obtain ⟨held, holds⟩ := Option.ne_none_iff_exists'.mp copies
      rcases (provStep_tasks kept.tested input task member).2 held holds with
        ⟨older, before, same⟩ | ⟨-, before⟩
      · exact kept.stay grounds (.inr (.inl ⟨older, before, .inr (by rw [same]; nofun)⟩))
      · exact kept.stay grounds (.inr (.inl ⟨_, before, .inl rfl⟩))
  · rcases heard_append heard with before | ⟨answer, new, same⟩
    · exact kept.stay grounds (.inr (.inr before))
    · cases answer with
      | report sessionId rssi ip sslResult udpPort =>
        obtain ⟨copies, before⟩ := caused _ new
        exact kept.stay grounds (.inr (.inl ⟨_, before, .inr nofun⟩))
      | _ => cases same

theorem CommitOrigin.log {log : List ProvEvent} {commit : ProvCommit}
    (origin : CommitOrigin platform sent log commit) (newer : List ProvEvent) :
    CommitOrigin platform sent (newer ++ log) commit := by
  obtain ⟨settings, origin, same⟩ := origin
  exact ⟨settings, origin.log newer, same⟩

/-- An event at the device keeps all of this. -/
theorem DeviceKept.step (kept : DeviceKept platform sent nvs prov answered) {input : ProvInput}
    (env : AnswerEnv) (grounds : Grounds platform sent answered input) :
    DeviceKept platform sent nvs (provStep prov input) (answered ++ prov.answers env input) := by
  obtain ⟨newer, logged⟩ := provStep_log prov input
  have sound := provStep_tasks kept.tested input
  have caused := answers_caused prov env input
  have later {settings : ProvSettings} (origin : Origin platform sent prov.log settings) :
      Origin platform sent (provStep prov input).log settings := by
    rw [logged]
    exact origin.log newer
  refine
    { nonce := provStep_nonce prov input kept.nonce
      written := ?_
      mirrored := kept.mirrored.step input
      temp := ?_
      settled := kept.settle env grounds
      tested := fun task member => (sound task member).1
      copied := ?_
      reported := ?_
      committing := ?_
      committed := ?_
      acknowledged := ?_ }
  · intro answer member
    rcases List.mem_append.mp member with before | new
    · exact kept.written answer before
    · exact (answers_grounded prov env input answer new).nonceWritten kept.nonce
  · rcases origin_step grounds with same | origin
    · rw [same]
      exact kept.temp.imp_right later
    · exact .inr origin
  · intro task member copies holds
    rcases (sound task member).2 copies holds with ⟨older, before, same⟩ | ⟨rfl, before⟩
    · exact later (kept.copied older before copies same)
    · exact later (kept.settled (.inr (.inl ⟨_, before, .inl rfl⟩)))
  · intro heard
    rcases heard_append heard with before | ⟨answer, new, same⟩
    · obtain ⟨copies, origin, checked⟩ := kept.reported before
      refine ⟨copies, later origin, ?_⟩
      rw [logged]
      exact checked.append newer
    · cases answer with
      | report sessionId rssi ip sslResult udpPort =>
        obtain ⟨copies, before⟩ := caused _ new
        refine ⟨copies, later (kept.copied _ before copies rfl), ?_⟩
        rw [logged]
        exact (kept.tested _ before copies rfl).append newer
      | _ => cases same
  · intro commit waits
    have old (same : (provStep prov input).committing = prov.committing) :
        Heard (answered ++ prov.answers env input) .report ∧
          CommitOrigin platform sent (provStep prov input).log commit := by
      obtain ⟨heard, origin⟩ := kept.committing commit (same.symm.trans waits)
      rw [logged]
      exact ⟨heard.more _, CommitOrigin.log origin newer⟩
    cases provStep_settings prov input with
    | same temp committing committed => exact old committing
    | cleared temp logged committing committed => exact old committing
    | command cmd nonce taken =>
      obtain ⟨own, -, report⟩ := grounds cmd nonce rfl
      rcases (@command_committing platform sent prov cmd own nonce).2 with same | rfl
      · exact old (taken ▸ same)
      · -- The copies are those the session holds when the command is taken.
        have heard := report rfl
        have origin := later (kept.settled (.inr (.inr heard)))
        rw [taken] at waits
        obtain rfl := Option.some.inj waits
        exact ⟨heard.more _, prov.session.temp, origin, rfl, rfl, rfl, rfl⟩
    | finished commit waiting done =>
      rw [done] at waits
      cases waits
  · intro commit cert written
    have old (same : (provStep prov input).committed = prov.committed) :
        Heard (answered ++ prov.answers env input) .report ∧
          CommitOrigin platform sent (provStep prov input).log commit := by
      obtain ⟨heard, origin⟩ := kept.committed commit cert (same.symm.trans written)
      rw [logged]
      exact ⟨heard.more _, CommitOrigin.log origin newer⟩
    cases provStep_settings prov input with
    | same temp committing committed => exact old committed
    | cleared temp logged committing committed => exact old committed
    | command cmd nonce taken =>
      have own := (grounds cmd nonce rfl).1
      exact old (taken ▸ (@command_committing platform sent prov cmd own nonce).1)
    | finished other waiting done =>
      rw [done] at written
      obtain ⟨rfl, -⟩ := Prod.mk.inj (Option.some.inj written)
      obtain ⟨heard, origin⟩ := kept.committing _ waiting
      rw [logged]
      exact ⟨heard.more _, CommitOrigin.log origin newer⟩
  · intro heard
    rcases heard_append heard with before | ⟨answer, new, same⟩
    · have already := kept.acknowledged before
      cases provStep_settings prov input with
      | same temp committing committed => rwa [committed]
      | cleared temp logged committing committed => rwa [committed]
      | command cmd nonce taken =>
        have own := (grounds cmd nonce rfl).1
        rw [taken, (@command_committing platform sent prov cmd own nonce).1]
        exact already
      | finished other waiting done =>
        rw [done]
        rfl
    · cases answer with
      | commitOk seq =>
        obtain ⟨rfl, writing⟩ := caused _ new
        obtain ⟨commit, waits⟩ := Option.isSome_iff_exists.mp writing
        simp only [provStep, waits]
        rfl
      | _ => cases same

end Device

/-- What the app has sent only grows. -/
theorem appStep_sent (platform : AppPlatform) (app : ProvisionApp) (input : AppInput) :
    ∃ later, (appStep platform app input).sentSettings = app.sentSettings ++ later := by
  have same {next : ProvisionApp} (still : next.sentSettings = app.sentSettings) :
      ∃ later, next.sentSettings = app.sentSettings ++ later := ⟨[], by rw [still, List.append_nil]⟩
  cases input with
  | line line =>
    simp only [appStep, ProvisionApp.handleIncomingBleText]
    split
    · exact same rfl
    · rename_i json found
      split
      · split <;> exact same rfl
      · rename_i status known
        cases status <;> split <;> exact same rfl
  | begin inputs accepted =>
    simp only [appStep, ProvisionApp.runV5BleProvisioningFlow]
    split
    · exact same rfl
    · split
      · cases accepted
        · exact same rfl
        · exact ⟨_, rfl⟩
      · exact same rfl
  | resume accepted =>
    simp only [appStep]
    split
    · exact same rfl
    · rename_i flow runs
      simp only [ProvisionApp.resume, ProvisionApp.sendNext]
      -- No turn of a flow sends settings.
      cases accepted <;> (repeat' split) <;> exact same rfl
  | expire | confirmResume =>
    simp only [appStep]
    split <;> exact same rfl
  | confirm accepted =>
    simp only [appStep, ProvisionApp.confirmProvision]
    split
    · cases accepted <;> exact same rfl
    · exact same rfl
  | confirmExpire => exact same rfl
  | ping => exact same rfl

/-- What holds of the whole system. -/
structure SystemKept (platform : AppPlatform) (nvs : Nvs) (sys : ProvisioningSystem) : Prop where
  device : DeviceKept platform sys.app.sentSettings nvs sys.prov sys.answered
  app : AppKept platform sys.answered sys.app

theorem systemKept_start (platform : AppPlatform) (sha256 : Bytes → Bytes) (nvs : Nvs)
    (drawn : Nat) : SystemKept platform nvs (systemStart sha256 nvs drawn) := by
  have silent (status : BleStatus) : ¬ Heard [] status := by
    rintro ⟨answer, member, -⟩
    cases member
  constructor
  · exact
      { nonce := ⟨Nat.zero_le _, nofun⟩
        written := nofun
        mirrored := ⟨⟨rfl, rfl⟩, nofun, nofun, fun _ => rfl⟩
        temp := .inl rfl
        settled := by
          rintro (heard | ⟨task, member, -⟩ | heard)
          · exact absurd heard (silent _)
          · cases member
          · exact absurd heard (silent _)
        tested := nofun
        copied := nofun
        reported := fun heard => absurd heard (silent _)
        committing := nofun
        committed := nofun
        acknowledged := fun heard => absurd heard (silent _) }
  · exact
      { creds := nofun
        flow := nofun
        report := nofun
        enabled := nofun
        result := nofun
        commitOk := nofun
        told := nofun
        commands := nofun
        commit := nofun
        confirm := nofun
        probes := nofun }

/-- Every event of a run in which nothing comes from elsewhere keeps it. -/
theorem SystemKept.step {platform : AppPlatform} {nvs : Nvs} {sys : ProvisioningSystem}
    (reads : platform.ReadsObjects) (kept : SystemKept platform nvs sys) {input : SystemInput}
    (exchanged : Exchanged platform sys input) :
    SystemKept platform nvs (systemStep platform sys input) := by
  cases input with
  | device input env =>
    refine ⟨kept.device.step env fun cmd nonce same => ?_, kept.app.more _⟩
    subst same
    -- The app had its grounds when it wrote the command.
    refine ⟨kept.app.commands cmd exchanged, ?_, ?_⟩
    · rintro rfl
      exact kept.app.commit exchanged
    · rintro rfl
      exact kept.app.confirm exchanged
  | app input =>
    obtain ⟨later, grown⟩ := appStep_sent platform sys.app input
    refine ⟨?_, ?_⟩
    · simp only [systemStep, grown]
      exact kept.device.more later
    · cases input with
      | line line =>
        obtain ⟨answer, member, rfl, unmistakable⟩ := exchanged
        exact kept.app.line reads member (kept.device.written answer member) unmistakable
      | begin inputs accepted => exact kept.app.begin inputs accepted
      | resume accepted =>
        simp only [systemStep, appStep]
        split
        · exact kept.app
        · rename_i flow runs
          exact kept.app.resume runs accepted
      | expire =>
        simp only [systemStep, appStep]
        split
        · exact kept.app.fail
        · exact kept.app
      | confirm accepted => exact kept.app.confirmProvision accepted
      | confirmResume =>
        simp only [systemStep, appStep]
        split
        · rename_i completed
          exact { kept.app with
            told := fun _ => kept.app.commitOk completed.2
            enabled := fun ready => by cases ready }
        · exact kept.app
      | confirmExpire => exact { kept.app with }
      | ping => exact kept.app.write trivial (fun same => by cases same) fun same => by cases same

/-- The system after a run. -/
def systemRun (platform : AppPlatform) (sha256 : Bytes → Bytes) (nvs : Nvs) (drawn : Nat)
    (inputs : List SystemInput) : ProvisioningSystem :=
  Machine.run (systemStep platform) (systemStart sha256 nvs drawn) inputs

/-- What the app tells the user is true of the device: a flow that succeeded has its settings checked,
or blank ones after a disconnection; and with a confirmation the device has stored such settings, after
such a check. -/
structure SpeaksTruly (platform : AppPlatform) (nvs : Nvs) (sys : ProvisioningSystem) : Prop where
  success : sys.app.result = some true →
    ∃ copies, Origin platform sys.app.sentSettings sys.prov.log copies ∧ Checked copies sys.prov.log
  stored : sys.app.toldCommitted = true →
    (∃ commit cert, sys.prov.committed = some (commit, cert) ∧
      sys.prov.nvs = confirmWrites nvs commit cert ∧
      CommitOrigin platform sys.app.sentSettings sys.prov.log commit) ∧
    ∃ copies, Origin platform sys.app.sentSettings sys.prov.log copies ∧ Checked copies sys.prov.log
  probes : ∀ probe ∈ sys.app.probes, ∃ udpNonce sessionId seq,
    .credsOk udpNonce sessionId seq ∈ sys.answered ∧
      probe = ⟨udpNonce, 47808, textBytes "192.168.4.1"⟩

theorem SystemKept.speaksTruly {platform : AppPlatform} {nvs : Nvs} {sys : ProvisioningSystem}
    (kept : SystemKept platform nvs sys) : SpeaksTruly platform nvs sys where
  success good := kept.device.reported (kept.app.result good)
  stored told := by
    obtain ⟨⟨commit, cert⟩, written⟩ := Option.isSome_iff_exists.mp
      (kept.device.acknowledged (kept.app.told told))
    obtain ⟨heard, origin⟩ := kept.device.committed commit cert written
    exact ⟨⟨commit, cert, written, (kept.device.mirrored.committed commit cert written).2, origin⟩,
      kept.device.reported heard⟩
  probes := kept.app.probes

theorem systemKept_run {platform : AppPlatform} (reads : platform.ReadsObjects)
    (sha256 : Bytes → Bytes) (nvs : Nvs) (drawn : Nat) {inputs : List SystemInput}
    (exchanged : Machine.Always (systemStep platform) (Exchanged platform)
      (systemStart sha256 nvs drawn) inputs) :
    SystemKept platform nvs (systemRun platform sha256 nvs drawn inputs) :=
  Machine.invariant_run (fun _ _ kept exchanged => kept.step reads exchanged)
    (systemKept_start platform sha256 nvs drawn) exchanged

/-- What is exchanged without lists of networks can be decided. -/
def ExchangedPlainly (sys : ProvisioningSystem) : SystemInput → Prop
  | .device (.command cmd _) _ => cmd ∈ sys.app.written
  | .app (.line line) => ∃ answer ∈ sys.answered, lineText answer.text = line ∧ ¬ answer.IsScan
  | _ => True

instance decidableExchangedPlainly (sys : ProvisioningSystem) :
    (input : SystemInput) → Decidable (ExchangedPlainly sys input)
  | .device (.command _ _) _ => inferInstanceAs (Decidable (_ ∈ _))
  | .app (.line _) => inferInstanceAs (Decidable (∃ answer ∈ _, _ ∧ _))
  | .device (.connect _) _ | .device .disconnect _ | .device (.subscribe _ _) _
  | .device .clearCert _ | .device .finishCommit _ | .device (.advance _ _) _ | .device .gotIp _
  | .device .staDisconnected _ | .app (.begin _ _) | .app (.resume _) | .app .expire
  | .app (.confirm _) | .app .confirmResume | .app .confirmExpire | .app .ping => .isTrue trivial

theorem exchanged_of_plainly (platform : AppPlatform) (sys : ProvisioningSystem)
    (input : SystemInput) (plainly : ExchangedPlainly sys input) : Exchanged platform sys input := by
  cases input with
  | device input env =>
    cases input with
    | command cmd nonce => exact plainly
    | _ => trivial
  | app input =>
    cases input with
    | line line =>
      obtain ⟨answer, member, same, other⟩ := plainly
      exact ⟨answer, member, same, fun scan => absurd scan other⟩
    | _ => trivial

/-- Nothing but the commands, and a network that answers everything. -/
def quietEnv : AnswerEnv := ⟨0, 0, none, .failed⟩

def atDevice (input : ProvInput) : SystemInput := .device input quietEnv

/-- The app handles an answer. -/
def handled (answer : Notification) : SystemInput := .app (.line (lineText answer.text))

def sampleNonce : Bytes := textBytes "0000000100000002"

/-- A device is provisioned from its first connection to the confirmation. -/
def sampleProvisioning : List SystemInput :=
  [atDevice (.connect true), atDevice (.subscribe true true), .app (.begin blankSetup true),
    atDevice (.command (blankSetup.settings.sendCreds strictPlatform) 2),
    handled (.credsOk sampleNonce 1 0), .app (.resume true), atDevice (.command .commit 0),
    atDevice (.advance 1 (sampleNetwork 1 2)), atDevice (.advance 1 (sampleNetwork 1 2)),
    atDevice .gotIp] ++
  List.replicate 7 (atDevice (.advance 1 (sampleNetwork 1 2))) ++
  [handled (.sslDone .caFailedFallbackOk), .app (.resume true), handled (.udpReady sampleNonce),
    .app (.resume true), handled .udpOk, .app (.resume true),
    handled (.report 1 0 none .caFailedFallbackOk 47808), .app (.resume true), .app (.confirm true),
    atDevice (.command .confirmProvision 0), atDevice .finishCommit, handled (.commitOk 0),
    .app .confirmResume]

theorem sampleProvisioning_exchanged :
    Machine.Always (systemStep strictPlatform) (Exchanged strictPlatform)
      (systemStart id emptyNvs 1) sampleProvisioning := by
  have plainly : Machine.Always (systemStep strictPlatform) ExchangedPlainly
      (systemStart id emptyNvs 1) sampleProvisioning := by decide +kernel
  exact @Machine.always_of_invariant _ _ _ _ (fun _ => True) _ _ (fun _ _ _ _ => trivial)
    (fun sys input _ here => exchanged_of_plainly strictPlatform sys input here) _ trivial plainly

/-- Settings of the only flow, when no phone has disconnected. -/
theorem Origin.only {platform : AppPlatform} {flow : FlowSettings} {log : List ProvEvent}
    {settings : ProvSettings} (origin : Origin platform [flow] log settings)
    (connected : .cleared ∉ log) : settings = flow.cut platform := by
  rcases origin with ⟨other, member, same⟩ | ⟨-, cleared⟩
  · rw [same, List.mem_singleton.mp member]
  · exact absurd cleared connected

end Ykp.System
