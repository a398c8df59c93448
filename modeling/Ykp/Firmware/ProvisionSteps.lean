import Ykp.Firmware.Provision

/-! What one event can do to the identity, the settings and the commit of the provisioning service. -/

namespace Ykp.Firmware

/-- The part of the service that few events change. -/
structure ProvCore where
  sessionId : Nat
  hmacKey : Bytes
  temp : ProvSettings
  notifyEnabled : Bool
  nvs : Nvs
  committing : Option ProvCommit
  committed : Option (ProvCommit × Bytes)

/-- That part of a service. -/
def Provision.core (prov : Provision) : ProvCore where
  sessionId := prov.session.sessionId
  hmacKey := prov.session.hmacKey
  temp := prov.session.temp
  notifyEnabled := prov.notifyEnabled
  nvs := prov.nvs
  committing := prov.committing
  committed := prov.committed

/-- Entries that validations log. -/
def ProvEvent.IsStage : ProvEvent → Prop
  | .copied _ => True
  | .wifiPassed _ _ => True
  | .sslPassed _ => True
  | .udpPassed _ => True
  | _ => False

/-- The ways in which one event leads to the next service, as far as that part and the log tell. -/
inductive ProvMoves (prov next : Provision) : ProvInput → Prop
  | quiet {input : ProvInput} (newer : List ProvEvent) (logged : next.log = newer ++ prov.log)
      (stages : ∀ event ∈ newer, event.IsStage) (same : next.core = prov.core) :
      ProvMoves prov next input
  | cleared (logged : next.log = .cleared :: prov.log)
      (changed : next.core = { prov.core with
        sessionId := 0
        hmacKey := ProvSession.cleared.hmacKey
        temp := ProvSession.cleared.temp
        notifyEnabled := false }) :
      ProvMoves prov next .disconnect
  | subscribed (ready : prov.clearing = false) (logged : next.log = prov.log)
      (changed : next.core = { prov.core with notifyEnabled := true }) :
      ProvMoves prov next (.subscribe true true)
  /-- Settings are received: a network, a server, or both. -/
  | wifi {input : ProvInput} (free : prov.takesCommands = true) (ssid psk : Bytes)
      (logged : next.log = (prov.putWifi ssid psk).log)
      (changed : next.core = (prov.putWifi ssid psk).core) : ProvMoves prov next input
  | server {input : ProvInput} (free : prov.takesCommands = true) (host : Bytes) (port : Int)
      (uport : Option Int) (nonce : Nat)
      (logged : next.log = (prov.putServer host port uport nonce).log)
      (changed : next.core = (prov.putServer host port uport nonce).core) :
      ProvMoves prov next input
  | creds {input : ProvInput} (free : prov.takesCommands = true) (ssid psk host : Bytes)
      (port : Int) (uport : Option Int) (nonce : Nat)
      (logged : next.log = ((prov.putWifi ssid psk).putServer host port uport nonce).log)
      (changed : next.core = ((prov.putWifi ssid psk).putServer host port uport nonce).core) :
      ProvMoves prov next input
  | confirmed {input : ProvInput} (free : prov.takesCommands = true)
      (logged : next.log = prov.log) (changed : next.core = prov.confirm.core) :
      ProvMoves prov next input
  | finished {input : ProvInput} (commit : ProvCommit) (waits : prov.committing = some commit)
      (logged : next.log = (prov.finishCommit commit).log)
      (changed : next.core = (prov.finishCommit commit).core) : ProvMoves prov next input

variable {prov : Provision}

/-- A step that logs nothing and leaves that part alone. -/
theorem provMoves_same {next : Provision} (input : ProvInput) (logged : next.log = prov.log)
    (same : next.core = prov.core) : ProvMoves prov next input :=
  .quiet [] logged (fun _ member => nomatch member) same

/-- A step that logs one stage and leaves that part alone. -/
theorem provMoves_stage {next : Provision} (input : ProvInput) {event : ProvEvent}
    (logged : next.log = event :: prov.log) (stage : event.IsStage)
    (same : next.core = prov.core) : ProvMoves prov next input := by
  refine .quiet [event] logged (fun other member => ?_) same
  rwa [List.mem_singleton.mp member]

/-- A task only changes the session's progress, the Wi-Fi manager and the log. -/
theorem advanceTask_moves (input : ProvInput) (position : Nat) (answer : NetworkAnswer)
    (task : ProvTask) : ProvMoves prov (prov.advanceTask position answer task) input := by
  -- Only the stages of a validation are logged; every other point of a task is silent.
  cases task with
  | wifiReturned ok => cases ok <;> exact provMoves_same input rfl rfl
  | validationStarts => exact provMoves_stage input rfl trivial rfl
  | validationCopied copies =>
    unfold Provision.advanceTask
    dsimp only
    split
    · exact provMoves_stage input rfl trivial rfl
    · exact provMoves_same input rfl rfl
  | validationJoins copies =>
    unfold Provision.advanceTask
    dsimp only
    split
    · exact provMoves_stage input rfl trivial rfl
    · exact provMoves_same input rfl rfl
  | sslStarts copies =>
    unfold Provision.advanceTask
    dsimp only
    split
    · exact provMoves_same input rfl rfl
    · exact provMoves_stage input rfl trivial rfl
  | sslStored copies result =>
    unfold Provision.advanceTask
    dsimp only
    split <;> exact provMoves_same input rfl rfl
  | udpWaits copies =>
    unfold Provision.advanceTask
    dsimp only
    split
    · exact provMoves_stage input rfl trivial rfl
    · exact provMoves_same input rfl rfl
  | _ => exact provMoves_same input rfl rfl

/-- Receiving the certificate leaves that part and the log alone. -/
theorem appendCert_same (chunk : Int) (data : Bytes) :
    (prov.appendCert chunk data).log = prov.log ∧ (prov.appendCert chunk data).core = prov.core := by
  unfold Provision.appendCert
  dsimp only
  -- The first chunk or a later one, and room for it or not.
  split <;> split <;> exact ⟨rfl, rfl⟩

/-- Commands bring settings, or confirm; all others leave that part alone. -/
theorem processJsonCommand_moves (input : ProvInput) (free : prov.takesCommands = true)
    (nonce : Nat) (cmd : ProvCommand) :
    ProvMoves prov (prov.processJsonCommand nonce cmd) input := by
  -- A command with a missing argument does nothing.
  cases cmd with
  | sendWifi ssid psk =>
    unfold Provision.processJsonCommand
    dsimp only
    split
    · exact .wifi free _ _ rfl rfl
    · exact provMoves_same input rfl rfl
  | sendServer host port uport =>
    unfold Provision.processJsonCommand
    dsimp only
    split
    · exact .server free _ _ uport nonce rfl rfl
    · exact provMoves_same input rfl rfl
  | sendCreds ssid psk host port uport =>
    unfold Provision.processJsonCommand
    dsimp only
    split
    · exact .creds free _ _ _ _ uport nonce rfl rfl
    · exact provMoves_same input rfl rfl
  | setCert chunk data =>
    unfold Provision.processJsonCommand
    dsimp only
    split
    · exact provMoves_same input (appendCert_same _ _).1 (appendCert_same _ _).2
    · exact provMoves_same input rfl rfl
  | confirmProvision => exact .confirmed free rfl rfl
  | _ => exact provMoves_same input rfl rfl

/-- One event leads from a service to the next in one of the ways above. -/
theorem provStep_moves (prov : Provision) (input : ProvInput) :
    ProvMoves prov (provStep prov input) input := by
  -- Event by event; most of them touch only tasks, connection bits or the Wi-Fi manager.
  cases input with
  | connect succeeded | clearCert =>
    unfold provStep
    dsimp only
    split <;> exact provMoves_same _ rfl rfl
  | disconnect =>
    unfold provStep
    dsimp only
    split
    · exact provMoves_same _ rfl rfl
    · exact .cleared rfl rfl
  | subscribe isTx curNotify =>
    unfold provStep
    dsimp only
    split
    · rename_i effective
      obtain ⟨ready, rfl, rfl⟩ := effective
      exact .subscribed (Bool.not_eq_true' _ ▸ ready) rfl rfl
    · exact provMoves_same _ rfl rfl
  | command cmd nonce =>
    unfold provStep
    dsimp only
    split
    · rename_i free
      exact processJsonCommand_moves _ free nonce cmd
    · exact provMoves_same _ rfl rfl
  | finishCommit =>
    unfold provStep
    dsimp only
    split
    · exact provMoves_same _ rfl rfl
    · rename_i commit waits
      exact .finished commit waits rfl rfl
  | advance position answer =>
    unfold provStep
    dsimp only
    split
    · exact provMoves_same _ rfl rfl
    · exact advanceTask_moves _ position answer _
  | gotIp => exact provMoves_same _ rfl rfl
  | staDisconnected => exact provMoves_same _ rfl rfl

end Ykp.Firmware
