import Ykp.System.ProvisionApp

/-! The provisioning flow as a script: when it succeeds, whatever else the app handles meanwhile. -/

namespace Ykp.System

open Firmware

/-- An answer is the one that a stage waits for. -/
def FlowStage.answeredBy (stage : FlowStage) (json : Members) : Bool :=
  match stage with
  | .credsOk => json.status == some .credsOk
  | .setCert _ => json.isCertAck
  | .sslDone => json.status == some .sslDone
  | .udpReady => json.status == some .udpReady
  | .udpOk => json.status == some .udpOk
  | .report => json.status == some .report

/-- The flow goes on with such an answer. -/
def FlowStage.goesOnWith (stage : FlowStage) (json : Members) : Bool :=
  match stage with
  | .sslDone => json.optString "result" "unknown" != textBytes "ca_failed_fallback_failed"
  | .report => json.optBoolean "ready_to_commit"
  | _ => true

/-- The flow writes a command when it goes on. -/
def FlowStage.writes : FlowStage → Bool
  | .credsOk => true
  | .setCert _ => true
  | _ => false

/-- The stages from a chunk of the certificate on, and from the checks on. -/
def FlowSettings.certStages (settings : FlowSettings) (chunkNum : Nat) : List FlowStage :=
  (List.range' chunkNum (settings.numChunks + 1 - chunkNum)).map .setCert

def checkStages : List FlowStage := [.sslDone, .udpReady, .udpOk, .report]

/-- The stages behind a stage. -/
def FlowSettings.stagesAfter (settings : FlowSettings) : FlowStage → List FlowStage
  | .credsOk => settings.certStages 1 ++ checkStages
  | .setCert chunkNum => settings.certStages (chunkNum + 1) ++ checkStages
  | .sslDone => [.udpReady, .udpOk, .report]
  | .udpReady => [.udpOk, .report]
  | .udpOk => [.report]
  | .report => []

section Script

variable (platform : AppPlatform)

/-- The flow waits for an answer; one that it does not go on with, or the end of its time, ends it. -/
def messageStep (stage : FlowStage) : ScriptStep AppInput where
  accepts
    | .line line =>
      (platform.jsonObject line).any fun json => stage.answeredBy json && stage.goesOnWith json
    | _ => false
  aborts
    | .line line =>
      (platform.jsonObject line).any fun json => stage.answeredBy json && !stage.goesOnWith json
    | .expire => true
    | _ => false

/-- The flow waits for its turn; a command that it cannot write in it, or the end of its time, ends it. -/
def turnStep (stage : FlowStage) : ScriptStep AppInput where
  accepts
    | .resume accepted => accepted || !stage.writes
    | _ => false
  aborts
    | .resume accepted => !accepted && stage.writes
    | .expire => true
    | _ => false

/-- The stages of a flow, each with its answer and its turn. -/
def stageScript (stages : List FlowStage) : List (ScriptStep AppInput) :=
  stages.flatMap fun stage => [messageStep platform stage, turnStep stage]

/-- The whole flow. -/
def flowScript (settings : FlowSettings) : List (ScriptStep AppInput) :=
  stageScript platform (.credsOk :: settings.stagesAfter .credsOk)

end Script

/-- A deferred value as far as something can be told of it. -/
def Deferred.map {α β : Type} (read : α → β) : Deferred α → Deferred β
  | .absent => .absent
  | .pending => .pending
  | .completed value => .completed (read value)

namespace ProvisionApp

/-- What a stage waits for: whether the flow goes on with it, once it has come. -/
def awaited (app : ProvisionApp) : FlowStage → Deferred Bool
  | .credsOk => app.credsOkDeferred.map fun _ => true
  | .setCert _ => app.setCertAckDeferred.map fun _ => true
  | .sslDone =>
    app.sslDoneDeferred.map fun result => result != textBytes "ca_failed_fallback_failed"
  | .udpReady => app.udpReadyDeferred.map fun _ => true
  | .udpOk => app.udpOkDeferred.map fun _ => true
  | .report => app.reportDeferred.map fun json => json.optBoolean "ready_to_commit"

/-- What is left of the script. -/
def remaining (platform : AppPlatform) (app : ProvisionApp) : Option (List (ScriptStep AppInput)) :=
  match app.flow with
  | none => if app.result = some true then some [] else none
  | some flow =>
    let later := turnStep flow.stage :: stageScript platform (flow.settings.stagesAfter flow.stage)
    match app.awaited flow.stage with
    | .completed true => some later
    | .completed false => none
    | _ => some (messageStep platform flow.stage :: later)

/-- The flow is over, and the device's report was good. -/
def Succeeded (app : ProvisionApp) : Prop := app.flow = none ∧ app.result = some true

/-- What a flow waits for was created. -/
def Armed (app : ProvisionApp) : Prop :=
  ∀ flow, app.flow = some flow → app.awaited flow.stage ≠ .absent

end ProvisionApp

/-- An event that begins no flow. -/
def AppInput.BeginsNone : AppInput → Prop
  | .begin _ _ => False
  | _ => True

section Steps

variable {platform : AppPlatform} {app : ProvisionApp}

theorem Deferred.map_complete {α β : Type} (deferred : Deferred α) (read : α → β) (value : α) :
    (deferred.complete value).map read = (deferred.map read).complete (read value) := by
  cases deferred <;> rfl

theorem Deferred.map_eq_completed {α β : Type} {deferred : Deferred α} {read : α → β} {result : β}
    (come : deferred.map read = .completed result) :
    ∃ value, deferred = .completed value ∧ read value = result := by
  cases deferred with
  | absent => cases come
  | pending => cases come
  | completed value => exact ⟨value, rfl, Deferred.completed.inj come⟩

/-- An answer leaves the flow and its result alone. -/
theorem completeStatus_flow (json : Members) (status : BleStatus) :
    (app.completeStatus json status).flow = app.flow ∧
      (app.completeStatus json status).result = app.result := by
  cases status <;> exact ⟨rfl, rfl⟩

theorem line_flow (line : JsString) :
    (app.handleIncomingBleText platform line).flow = app.flow ∧
      (app.handleIncomingBleText platform line).result = app.result := by
  unfold ProvisionApp.handleIncomingBleText
  cases platform.jsonObject line with
  | none => exact ⟨rfl, rfl⟩
  | some json =>
    dsimp only
    -- Acknowledged chunk or not, and with a known status or not.
    cases json.isCertAck <;> cases json.status with
    | none => exact ⟨rfl, rfl⟩
    | some status => exact completeStatus_flow json status

/-- An answer completes what the stage waits for that it answers. -/
theorem line_awaited (line : JsString) (stage : FlowStage) :
    (app.handleIncomingBleText platform line).awaited stage =
      match platform.jsonObject line with
      | none => app.awaited stage
      | some json =>
        if stage.answeredBy json then (app.awaited stage).complete (stage.goesOnWith json)
        else app.awaited stage := by
  unfold ProvisionApp.handleIncomingBleText
  cases platform.jsonObject line with
  | none => rfl
  | some json =>
    dsimp only
    -- A chunk is acknowledged whatever the status says, and everything else by its status.
    cases acknowledged : json.isCertAck <;> cases known : json.status with
    | none => cases stage <;> simp [ProvisionApp.awaited, FlowStage.answeredBy,
        FlowStage.goesOnWith, Deferred.map_complete, acknowledged, known]
    | some status =>
      cases status <;> cases stage <;>
        simp [ProvisionApp.awaited, ProvisionApp.completeStatus, ProvisionApp.write,
          FlowStage.answeredBy, FlowStage.goesOnWith, Deferred.map_complete, acknowledged, known]

/-- Behind the last chunk come the checks. -/
theorem certStages_of_lt {settings : FlowSettings} {chunkNum : Nat}
    (behind : settings.numChunks < chunkNum) : settings.certStages chunkNum = [] := by
  have none : settings.numChunks + 1 - chunkNum = 0 := by omega
  simp [FlowSettings.certStages, none]

theorem certStages_of_le {settings : FlowSettings} {chunkNum : Nat}
    (within : chunkNum ≤ settings.numChunks) :
    settings.certStages chunkNum = .setCert chunkNum :: settings.certStages (chunkNum + 1) := by
  have more : settings.numChunks + 1 - chunkNum = settings.numChunks + 1 - (chunkNum + 1) + 1 := by
    omega
  rw [FlowSettings.certStages, more, List.range'_succ, List.map_cons]
  rfl

/-- After sending the next chunk, or the commit, the flow waits for the stages from there on. -/
theorem sendNext_remaining (flow : BleFlow) (chunkNum : Nat) (accepted : Bool) :
    (app.sendNext flow chunkNum accepted).remaining platform =
        (if accepted then
          some (stageScript platform (flow.settings.certStages chunkNum ++ checkStages))
        else none) ∧
      (app.sendNext flow chunkNum accepted).Armed := by
  unfold ProvisionApp.sendNext
  split
  · rename_i within
    rw [certStages_of_le within]
    cases accepted with
    | true =>
      refine ⟨rfl, fun next runs => ?_⟩
      cases runs
      exact nofun
    | false => exact ⟨rfl, nofun⟩
  · rename_i behind
    rw [certStages_of_lt (by omega)]
    cases accepted with
    | true =>
      refine ⟨rfl, fun next runs => ?_⟩
      cases runs
      exact nofun
    | false => exact ⟨rfl, nofun⟩

/-- What is left of the script while the flow waits, and once its answer has come. -/
theorem remaining_pending {flow : BleFlow} (runs : app.flow = some flow)
    (waits : app.awaited flow.stage = .pending) :
    app.remaining platform = some (messageStep platform flow.stage :: turnStep flow.stage ::
      stageScript platform (flow.settings.stagesAfter flow.stage)) := by
  simp only [ProvisionApp.remaining, runs, waits]

theorem remaining_completed {flow : BleFlow} (runs : app.flow = some flow) {good : Bool}
    (come : app.awaited flow.stage = .completed good) :
    app.remaining platform = if good then some (turnStep flow.stage ::
      stageScript platform (flow.settings.stagesAfter flow.stage)) else none := by
  cases good <;> simp [ProvisionApp.remaining, runs, come]

/-- A flow that is not resumed is where it was. -/
theorem resume_waiting {flow : BleFlow} (runs : app.flow = some flow)
    (waits : app.awaited flow.stage = .pending) (accepted : Bool) :
    app.resume flow accepted = app ∧
      Script.step (app.remaining platform) (.resume accepted) = app.remaining platform := by
  refine ⟨?_, by rw [remaining_pending runs waits]; rfl⟩
  unfold ProvisionApp.resume
  -- In each stage the deferred value is the one that is awaited.
  cases at_ : flow.stage <;> rw [at_] at waits <;> dsimp only [ProvisionApp.awaited] at waits ⊢ <;>
    split <;> simp_all [Deferred.map]

/-- A flow whose answer has come goes on to the next stage, or ends. -/
theorem resume_come {flow : BleFlow} (runs : app.flow = some flow) {good : Bool}
    (come : app.awaited flow.stage = .completed good) (accepted : Bool) :
    (app.resume flow accepted).remaining platform =
        Script.step (app.remaining platform) (.resume accepted) ∧
      (app.resume flow accepted).Armed := by
  rw [remaining_completed runs come]
  unfold ProvisionApp.resume
  cases at_ : flow.stage with
  | credsOk =>
    rw [at_] at come
    obtain ⟨json, completed, rfl⟩ := Deferred.map_eq_completed come
    have next := @sendNext_remaining platform app
      { flow with credsResponse := json } 1 accepted
    simp only [completed]
    refine ⟨next.1.trans ?_, next.2⟩
    cases accepted <;> rfl
  | setCert chunkNum =>
    rw [at_] at come
    obtain ⟨_, completed, rfl⟩ := Deferred.map_eq_completed come
    have next := @sendNext_remaining platform app flow (chunkNum + 1) accepted
    simp only [completed]
    refine ⟨next.1.trans ?_, next.2⟩
    cases accepted <;> rfl
  | sslDone =>
    rw [at_] at come
    obtain ⟨result, completed, rfl⟩ := Deferred.map_eq_completed come
    simp only [completed]
    -- A check that failed ends the flow at this turn.
    split
    · rename_i failed
      refine ⟨?_, fun next runs => by cases runs⟩
      rw [failed]
      simp [ProvisionApp.remaining, ProvisionApp.finish, Script.step]
    · rename_i passed
      refine ⟨?_, fun next runs absent => by cases runs; cases absent⟩
      simp [ProvisionApp.remaining, ProvisionApp.await, ProvisionApp.awaited, Deferred.map,
        Script.step, turnStep, FlowStage.writes, FlowSettings.stagesAfter, stageScript, passed]
  | udpReady =>
    rw [at_] at come
    obtain ⟨_, completed, rfl⟩ := Deferred.map_eq_completed come
    simp only [completed]
    refine ⟨?_, fun next runs absent => by cases runs; cases absent⟩
    simp [ProvisionApp.remaining, ProvisionApp.await, ProvisionApp.awaited, Deferred.map,
      Script.step, turnStep, FlowStage.writes, FlowSettings.stagesAfter, stageScript]
  | udpOk =>
    rw [at_] at come
    obtain ⟨_, completed, rfl⟩ := Deferred.map_eq_completed come
    simp only [completed]
    refine ⟨?_, fun next runs absent => by cases runs; cases absent⟩
    simp [ProvisionApp.remaining, ProvisionApp.await, ProvisionApp.awaited, Deferred.map,
      Script.step, turnStep, FlowStage.writes, FlowSettings.stagesAfter, stageScript]
  | report =>
    rw [at_] at come
    obtain ⟨json, completed, rfl⟩ := Deferred.map_eq_completed come
    simp only [completed]
    refine ⟨?_, fun next runs => by cases runs⟩
    cases ready : json.optBoolean "ready_to_commit" <;>
      simp [ProvisionApp.remaining, ProvisionApp.finish, Script.step, turnStep, FlowStage.writes,
        FlowSettings.stagesAfter, stageScript]

/-- What is left depends on the flow, its result and what is awaited only. -/
theorem remaining_same {next : ProvisionApp} (flow : next.flow = app.flow)
    (result : next.result = app.result) (awaited : ∀ stage, next.awaited stage = app.awaited stage) :
    next.remaining platform = app.remaining platform ∧ (app.Armed → next.Armed) := by
  constructor
  · simp only [ProvisionApp.remaining, flow, result, awaited]
  · intro armed running runs
    rw [awaited]
    exact armed running (flow ▸ runs)

/-- Without a flow nothing is left to be done. -/
theorem remaining_idle (idle : app.flow = none) (input : AppInput) :
    Script.step (app.remaining platform) input = app.remaining platform := by
  simp only [ProvisionApp.remaining, idle]
  split <;> rfl

/-- An event that is no line, no turn and not the end of a time does not concern the script. -/
theorem remaining_ignored {input : AppInput} (noLine : ∀ line, input ≠ .line line)
    (noTurn : ∀ accepted, input ≠ .resume accepted) (inTime : input ≠ .expire) :
    Script.step (app.remaining platform) input = app.remaining platform := by
  cases idle : app.flow with
  | none => exact remaining_idle idle input
  | some flow =>
    simp only [ProvisionApp.remaining, idle]
    -- Neither step accepts or aborts on it.
    split <;> cases input <;>
      first
        | rfl
        | exact absurd rfl (noLine _)
        | exact absurd rfl (noTurn _)
        | exact absurd rfl inTime

/-- A line, for a flow that waits for an answer. -/
theorem message_line (stage : FlowStage) (rest : List (ScriptStep AppInput)) (line : JsString) :
    Script.step (some (messageStep platform stage :: rest)) (.line line) =
      match platform.jsonObject line with
      | none => some (messageStep platform stage :: rest)
      | some json =>
        if stage.answeredBy json then
          if stage.goesOnWith json then some rest else none
        else some (messageStep platform stage :: rest) := by
  obtain found | ⟨json, found⟩ := Option.eq_none_or_eq_some (platform.jsonObject line)
  · simp [Script.step, messageStep, found]
  · cases answers : stage.answeredBy json <;> cases goes : stage.goesOnWith json <;>
      simp [Script.step, messageStep, found, answers, goes]

/-- A line takes the script one step further. -/
theorem line_remaining (armed : app.Armed) (line : JsString) :
    (app.handleIncomingBleText platform line).remaining platform =
        Script.step (app.remaining platform) (.line line) ∧
      (app.handleIncomingBleText platform line).Armed := by
  obtain ⟨flowSame, resultSame⟩ := @line_flow platform app line
  cases runs : app.flow with
  | none =>
    rw [remaining_idle runs]
    refine ⟨?_, fun flow later => ?_⟩
    · simp only [ProvisionApp.remaining, flowSame, resultSame, runs]
    · rw [flowSame, runs] at later
      cases later
  | some flow =>
    have stage := @line_awaited platform app line flow.stage
    have still := flowSame.trans runs
    cases waits : app.awaited flow.stage with
    | absent => exact absurd waits (armed flow runs)
    | completed good =>
      -- The first answer counts.
      have kept : (app.handleIncomingBleText platform line).awaited flow.stage =
          .completed good := by
        rw [stage, waits]
        cases platform.jsonObject line with
        | none => rfl
        | some json => exact ite_self _
      refine ⟨?_, fun other later => ?_⟩
      · rw [remaining_completed still kept, remaining_completed runs waits]
        cases good <;> rfl
      · obtain rfl := Option.some.inj (still.symm.trans later)
        rw [kept]
        nofun
    | pending =>
      rw [waits] at stage
      rw [remaining_pending runs waits, message_line]
      -- The line may be an answer to the stage, which the flow goes on with or not.
      have settled {after : Deferred Bool}
          (now : (app.handleIncomingBleText platform line).awaited flow.stage = after)
          (some_ : after ≠ .absent) : (app.handleIncomingBleText platform line).Armed := by
        intro other later
        obtain rfl := Option.some.inj (still.symm.trans later)
        rwa [now]
      cases found : platform.jsonObject line with
      | none =>
        simp only [found] at stage
        exact ⟨remaining_pending still stage, settled stage nofun⟩
      | some json =>
        simp only [found] at stage
        cases answers : flow.stage.answeredBy json with
        | false =>
          simp only [answers, Bool.false_eq_true, if_false] at stage ⊢
          exact ⟨remaining_pending still stage, settled stage nofun⟩
        | true =>
          simp only [answers, if_true, Deferred.complete] at stage ⊢
          exact ⟨remaining_completed still stage, settled stage nofun⟩

/-- The end of the flow's time ends it. -/
theorem expire_remaining :
    (appStep platform app .expire).remaining platform =
        Script.step (app.remaining platform) .expire ∧
      (app.Armed → (appStep platform app .expire).Armed) := by
  simp only [appStep]
  cases runs : app.flow with
  | none =>
    rw [remaining_idle runs]
    exact ⟨rfl, id⟩
  | some flow =>
    refine ⟨?_, fun _ => nofun⟩
    rw [Option.isSome_some, if_pos rfl]
    -- Both an answer and a turn come too late.
    have ended : (app.finish false).remaining platform = none := rfl
    rw [ended]
    simp only [ProvisionApp.remaining, runs]
    split <;> rfl

/-- Every event but the beginning of a flow takes the script one step further. -/
theorem appStep_remaining (armed : app.Armed) {input : AppInput} (other : input.BeginsNone) :
    (appStep platform app input).remaining platform =
        Script.step (app.remaining platform) input ∧
      (appStep platform app input).Armed := by
  -- What the confirmation and the pings change is not awaited by the flow.
  have apart {next : ProvisionApp} (flow : next.flow = app.flow) (result : next.result = app.result)
      (awaited : ∀ stage, next.awaited stage = app.awaited stage)
      (noLine : ∀ line, input ≠ .line line) (noTurn : ∀ accepted, input ≠ .resume accepted)
      (inTime : input ≠ .expire) :
      next.remaining platform = Script.step (app.remaining platform) input ∧ next.Armed := by
    obtain ⟨same, kept⟩ := @remaining_same platform app next flow result awaited
    exact ⟨same.trans (remaining_ignored noLine noTurn inTime).symm, kept armed⟩
  cases input with
  | begin inputs accepted => exact other.elim
  | line line => exact line_remaining armed line
  | expire => exact ⟨expire_remaining.1, expire_remaining.2 armed⟩
  | resume accepted =>
    simp only [appStep]
    cases runs : app.flow with
    | none => exact ⟨(remaining_idle runs _).symm, armed⟩
    | some flow =>
      dsimp only
      cases waits : app.awaited flow.stage with
      | absent => exact absurd waits (armed flow runs)
      | pending =>
        obtain ⟨same, still⟩ := @resume_waiting platform app flow runs waits accepted
        rw [same, still]
        exact ⟨rfl, armed⟩
      | completed good => exact resume_come runs waits accepted
  | confirm accepted =>
    simp only [appStep, ProvisionApp.confirmProvision]
    split
    · cases accepted <;>
        exact apart rfl rfl (fun stage => by cases stage <;> rfl) nofun nofun nofun
    · exact apart rfl rfl (fun _ => rfl) nofun nofun nofun
  | confirmResume =>
    simp only [appStep]
    split
    · exact apart rfl rfl (fun stage => by cases stage <;> rfl) nofun nofun nofun
    · exact apart rfl rfl (fun _ => rfl) nofun nofun nofun
  | confirmExpire => exact apart rfl rfl (fun stage => by cases stage <;> rfl) nofun nofun nofun
  | ping => exact apart rfl rfl (fun stage => by cases stage <;> rfl) nofun nofun nofun

/-- A run without another beginning goes through the script. -/
theorem run_remaining {inputs : List AppInput} (others : ∀ input ∈ inputs, input.BeginsNone)
    (armed : app.Armed) :
    (Machine.run (appStep platform) app inputs).remaining platform =
        Machine.run Script.step (app.remaining platform) inputs ∧
      (Machine.run (appStep platform) app inputs).Armed := by
  induction inputs generalizing app with
  | nil => exact ⟨rfl, armed⟩
  | cons input rest ih =>
    obtain ⟨here, kept⟩ := appStep_remaining armed (others input List.mem_cons_self)
    rw [Machine.run_cons, Machine.run_cons, ← here]
    exact ih (fun other member => others other (List.mem_cons_of_mem _ member)) kept

/-- A flow that was begun has the whole script in front of it. -/
theorem begin_remaining (idle : app.flow = none) {setup : SetupInputs}
    (within : setup.settings.WithinLimits) :
    (appStep platform app (.begin setup true)).remaining platform =
        some (flowScript platform setup.settings) ∧
      (appStep platform app (.begin setup true)).Armed := by
  simp only [appStep, ProvisionApp.runV5BleProvisioningFlow, idle, Option.isSome_none,
    Bool.false_eq_true, if_false, if_pos within, if_true]
  refine ⟨rfl, fun flow runs => ?_⟩
  cases runs
  exact nofun

/-- Nothing is left to be done exactly when the flow is over and has succeeded. -/
theorem remaining_eq_nil_iff : app.remaining platform = some [] ↔ app.Succeeded := by
  unfold ProvisionApp.Succeeded
  cases runs : app.flow with
  | none => simp [ProvisionApp.remaining, runs]
  | some flow =>
    refine iff_of_false ?_ nofun
    simp only [ProvisionApp.remaining, runs]
    split <;> nofun

end Steps

/-- The stages of a script one part after the other. -/
theorem stageScript_append (platform : AppPlatform) (before after : List FlowStage) :
    stageScript platform (before ++ after) = stageScript platform before ++ stageScript platform after :=
  List.flatMap_append

/-- A platform that reads the texts of objects, and finds no hosts. -/
def strictPlatform : AppPlatform where
  jsonObject line :=
    match Json.parse (asciiBytes line) with
    | some (.object members) => some members
    | _ => none
  uriHost _ := none

/-- It reads every object in ASCII. -/
theorem strictPlatform_reads : strictPlatform.ReadsObjects := by
  intro text members ascii parsed
  have units : asciiBytes (text.map UInt8.toNat) = text := by
    simp [asciiBytes, Function.comp_def]
  have decoded : utf8Decode text = text.map UInt8.toNat := by
    have small : ∀ unit ∈ text.map UInt8.toNat, unit < 0x80 := by
      rw [List.forall_mem_map]
      exact fun byte member => UInt8.lt_iff_toNat_lt.mp (ascii byte member)
    have same := utf8Decode_ascii small
    rwa [units] at same
  simp only [strictPlatform, decoded, units, parsed]

/-- Blank inputs: an open network, the default server and no certificate. -/
def blankSetup : SetupInputs := ⟨[], [], [], [], []⟩

/-- The line of a notification in ASCII. -/
def lineOf (text : String) : AppInput := .line ((textBytes text).map UInt8.toNat)

/-- A run in which the last answers come one by one, and one in which the app handles the answer about
the probe's socket in front of the turn behind the checks. -/
def sampleAnswers (late : Bool) : List AppInput :=
  [lineOf "\x7b\"status\":\"creds_ok\",\"udp_nonce\":\"0a\"\x7d", .resume true,
    lineOf "\x7b\"status\":\"ssl_done\",\"result\":\"ca_ok\"\x7d"] ++
  (if late then [.resume true, lineOf "\x7b\"status\":\"udp_ready\"\x7d"]
    else [lineOf "\x7b\"status\":\"udp_ready\"\x7d", .resume true]) ++
  [.resume true, lineOf "\x7b\"status\":\"udp_ok\"\x7d", .resume true,
    lineOf "\x7b\"status\":\"report\",\"ready_to_commit\":true\x7d", .resume true]

end Ykp.System
