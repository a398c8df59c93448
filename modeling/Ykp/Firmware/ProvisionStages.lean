import Ykp.Firmware.ProvisionAnswers
import Ykp.Firmware.ProvisionCommit
import Ykp.Firmware.ProvisionSteps

/-! What the tasks of a validation have been through with their copies, in whatever order events come. -/

namespace Ykp.Firmware

open History

/-- A validation passes its first stage on whatever network the device is connected to. -/
def joinedStage (copies : ProvSettings) (event : ProvEvent) : Prop :=
  ∃ config, event = .wifiPassed config copies

/-- All three stages succeeded for the same settings, on some network. -/
def Checked (copies : ProvSettings) (log : List ProvEvent) : Prop :=
  Reached [udpStage copies, sslStage copies, joinedStage copies] log

/-- The stages a task has been through with its copies, the latest first. -/
def ProvTask.done (copies : ProvSettings) : ProvTask → List (ProvEvent → Prop)
  | .sslStarts _ => [joinedStage copies]
  | .sslChecked _ result _ =>
    if result = .caFailedFallbackFailed then [] else [sslStage copies, joinedStage copies]
  | .sslStored _ result =>
    if result = .caFailedFallbackFailed then [] else [sslStage copies, joinedStage copies]
  | .udpWaits _ => [sslStage copies, joinedStage copies]
  | .udpMatched _ => [udpStage copies, sslStage copies, joinedStage copies]
  | .reports _ => [udpStage copies, sslStage copies, joinedStage copies]
  | _ => []

/-- The log shows what a task has been through. -/
def Tested (log : List ProvEvent) (task : ProvTask) : Prop :=
  ∀ copies, task.copies = some copies → Reached (task.done copies) log

/-- A task has its copies from an older one, or takes them from the session for a validation. -/
def Inherits (prov : Provision) (task : ProvTask) : Prop :=
  ∀ copies, task.copies = some copies →
    (∃ older ∈ prov.tasks, older.copies = some copies) ∨
      copies = prov.session.temp ∧ .validationStarts ∈ prov.tasks

variable {prov next : Provision} {task : ProvTask}

theorem Tested.grow {log : List ProvEvent} (tested : Tested log task) (newer : List ProvEvent) :
    Tested (newer ++ log) task := fun copies holds => (tested copies holds).append newer

theorem inherits_old (member : task ∈ prov.tasks) : Inherits prov task :=
  fun _ holds => .inl ⟨task, member, holds⟩

/-- What every task is known to be after an event. -/
def TasksSound (prov next : Provision) : Prop :=
  ∀ task ∈ next.tasks, Tested next.log task ∧ Inherits prov task

/-- Tasks that were there before, or hold no copies, are sound as long as the log grows. -/
theorem tasksSound_quiet (tested : ∀ task ∈ prov.tasks, Tested prov.log task)
    {newer : List ProvEvent} (logged : next.log = newer ++ prov.log)
    (tasks : ∀ task ∈ next.tasks, task ∈ prov.tasks ∨ task.copies = none) : TasksSound prov next := by
  intro task member
  rw [logged]
  rcases tasks task member with before | none
  · exact ⟨(tested task before).grow newer, inherits_old before⟩
  · have absent (copies : ProvSettings) : task.copies ≠ some copies := by
      rw [none]
      nofun
    exact ⟨fun copies holds => absurd holds (absent copies),
      fun copies holds => absurd holds (absent copies)⟩

/-- A task that goes on is sound if what it became is. -/
theorem tasksSound_set (tested : ∀ task ∈ prov.tasks, Tested prov.log task)
    {newer : List ProvEvent} (logged : next.log = newer ++ prov.log) {position : Nat}
    {became : ProvTask} (tasks : next.tasks = prov.tasks.set position became)
    (now : Tested next.log became) (inherits : Inherits prov became) : TasksSound prov next := by
  intro task member
  rw [tasks] at member
  rcases List.mem_or_eq_of_mem_set member with before | rfl
  · rw [logged]
    exact ⟨(tested task before).grow newer, inherits_old before⟩
  · exact ⟨now, inherits⟩

/-- A task that goes on with its copies. -/
theorem inherits_same {became : ProvTask} (member : task ∈ prov.tasks)
    (same : became.copies = task.copies) : Inherits prov became :=
  fun _ holds => .inl ⟨task, member, same ▸ holds⟩

/-- What a task with these copies has been through, stage by stage. -/
theorem tested_of {log : List ProvEvent} {copies : ProvSettings} (holds : task.copies = some copies)
    (reached : Reached (task.done copies) log) : Tested log task := by
  intro other same
  obtain rfl := Option.some.inj (holds.symm.trans same)
  exact reached

/-- A task that runs on is sound afterwards. -/
theorem advanceTask_tasks (tested : ∀ task ∈ prov.tasks, Tested prov.log task) {position : Nat}
    (waits : prov.tasks[position]? = some task) (answer : NetworkAnswer) :
    TasksSound prov (prov.advanceTask position answer task) := by
  have member := List.mem_of_getElem? waits
  have before := tested task member
  have gone {next : Provision} {newer : List ProvEvent} (logged : next.log = newer ++ prov.log)
      (tasks : next.tasks = prov.tasks.eraseIdx position) : TasksSound prov next :=
    tasksSound_quiet tested logged fun task member =>
      .inl (List.mem_of_mem_eraseIdx (tasks ▸ member))
  have idle {next : Provision} {newer : List ProvEvent} {became : ProvTask}
      (logged : next.log = newer ++ prov.log) (tasks : next.tasks = prov.tasks.set position became)
      (none : became.copies = none) : TasksSound prov next :=
    tasksSound_quiet tested logged fun task member => by
      rw [tasks] at member
      rcases List.mem_or_eq_of_mem_set member with before | rfl
      · exact .inl before
      · exact .inr none
  -- Point by point; a stage that is passed stands on those the task had been through.
  cases task with
  | wifiStarts => exact @idle _ [] _ rfl rfl rfl
  | wifiCopied ssid psk => exact @idle _ [] _ rfl rfl rfl
  | wifiWaits => exact @idle _ [] _ rfl rfl rfl
  | wifiReturned ok => cases ok <;> exact @gone _ [] rfl rfl
  | scanStarts => exact @idle _ [] _ rfl rfl rfl
  | scanWaits => exact @gone _ [] rfl rfl
  | validationStarts =>
    refine @tasksSound_set prov _ tested [_] rfl _ _ rfl (tested_of rfl trivial) fun copies same => ?_
    exact .inr ⟨(Option.some.inj same).symm, member⟩
  | validationCopied copies =>
    unfold Provision.advanceTask
    dsimp only
    split
    · exact @tasksSound_set prov _ tested [_] rfl _ _ rfl
        (tested_of rfl (Reached.push ⟨_, rfl⟩ trivial)) (inherits_same member rfl)
    · exact @tasksSound_set prov _ tested [] rfl _ _ rfl (tested_of rfl trivial)
        (inherits_same member rfl)
  | validationJoins copies =>
    unfold Provision.advanceTask
    dsimp only
    split
    · exact @tasksSound_set prov _ tested [_] rfl _ _ rfl
        (tested_of rfl (Reached.push ⟨_, rfl⟩ trivial)) (inherits_same member rfl)
    · exact @gone _ [] rfl rfl
  | sslStarts copies =>
    unfold Provision.advanceTask
    dsimp only
    split
    · rename_i failed
      refine @tasksSound_set prov _ tested [] rfl _ _ rfl (tested_of rfl ?_)
        (inherits_same member rfl)
      simp only [ProvTask.done, if_pos failed]
      trivial
    · rename_i accepted
      refine @tasksSound_set prov _ tested [_] rfl _ _ rfl (tested_of rfl ?_)
        (inherits_same member rfl)
      simp only [ProvTask.done, if_neg accepted]
      exact Reached.push rfl (before copies rfl)
  | sslChecked copies result cert =>
    exact @tasksSound_set prov _ tested [] rfl _ _ rfl (tested_of rfl (before copies rfl))
      (inherits_same member rfl)
  | sslStored copies result =>
    unfold Provision.advanceTask
    dsimp only
    split
    · exact @gone _ [] rfl rfl
    · rename_i accepted
      refine @tasksSound_set prov _ tested [] rfl _ _ rfl (tested_of rfl ?_)
        (inherits_same member rfl)
      have reached := before copies rfl
      simp only [ProvTask.done, if_neg accepted] at reached
      exact reached
  | udpWaits copies =>
    unfold Provision.advanceTask
    dsimp only
    split
    · exact @tasksSound_set prov _ tested [_] rfl _ _ rfl
        (tested_of rfl (Reached.push rfl (before copies rfl))) (inherits_same member rfl)
    · exact @idle _ [] _ rfl rfl rfl
  | udpMatched copies =>
    exact @tasksSound_set prov _ tested [] rfl _ _ rfl (tested_of rfl (before copies rfl))
      (inherits_same member rfl)
  | udpFailed => exact @gone _ [] rfl rfl
  | reports copies => exact @gone _ [] rfl rfl

/-- A command creates tasks without copies at most, and logs what it brings. -/
theorem processJsonCommand_tasks (tested : ∀ task ∈ prov.tasks, Tested prov.log task) (nonce : Nat)
    (cmd : ProvCommand) : TasksSound prov (prov.processJsonCommand nonce cmd) := by
  have same {next : Provision} {newer : List ProvEvent} (logged : next.log = newer ++ prov.log)
      (tasks : next.tasks = prov.tasks) : TasksSound prov next :=
    tasksSound_quiet tested logged fun _ member => .inl (tasks ▸ member)
  have more {next : Provision} {newer : List ProvEvent} {task : ProvTask}
      (logged : next.log = newer ++ prov.log) (tasks : next.tasks = prov.tasks ++ [task])
      (none : task.copies = none) : TasksSound prov next :=
    tasksSound_quiet tested logged fun other member => by
      rw [tasks] at member
      rcases List.mem_append.mp member with before | new
      · exact .inl before
      · exact .inr (List.mem_singleton.mp new ▸ none)
  cases cmd with
  | sendWifi ssid psk =>
    unfold Provision.processJsonCommand
    dsimp only
    split
    · exact @more _ [_] _ rfl rfl rfl
    · exact @same _ [] rfl rfl
  | sendServer host port uport =>
    unfold Provision.processJsonCommand
    dsimp only
    split
    · exact @same _ [_] rfl rfl
    · exact @same _ [] rfl rfl
  | sendCreds ssid psk host port uport =>
    unfold Provision.processJsonCommand
    dsimp only
    split
    · exact @same _ [_, _] rfl rfl
    · exact @same _ [] rfl rfl
  | setCert chunk data =>
    unfold Provision.processJsonCommand
    dsimp only
    split
    · refine @same _ [] (appendCert_same _ _).1 ?_
      unfold Provision.appendCert
      dsimp only
      split <;> split <;> rfl
    · exact @same _ [] rfl rfl
  | rescan => exact @more _ [] _ rfl rfl rfl
  | commit => exact @more _ [] _ rfl rfl rfl
  | _ => exact @same _ [] rfl rfl

/-- Whatever happens, the log shows what each task has been through with its copies. -/
theorem provStep_tasks (tested : ∀ task ∈ prov.tasks, Tested prov.log task) (input : ProvInput) :
    TasksSound prov (provStep prov input) := by
  have same {next : Provision} {newer : List ProvEvent} (logged : next.log = newer ++ prov.log)
      (tasks : next.tasks = prov.tasks) : TasksSound prov next :=
    tasksSound_quiet tested logged fun _ member => .inl (tasks ▸ member)
  cases input with
  | connect succeeded | clearCert =>
    unfold provStep
    dsimp only
    split <;> exact @same _ [] rfl rfl
  | disconnect =>
    unfold provStep
    dsimp only
    split
    · exact @same _ [] rfl rfl
    · exact @same _ [_] rfl rfl
  | subscribe isTx curNotify =>
    unfold provStep
    dsimp only
    split
    · -- A subscription starts a scan.
      refine @tasksSound_quiet prov _ tested [] rfl fun other member => ?_
      rcases List.mem_append.mp member with before | new
      · exact .inl before
      · exact .inr (List.mem_singleton.mp new ▸ rfl)
    · exact @same _ [] rfl rfl
  | command cmd nonce =>
    unfold provStep
    dsimp only
    split
    · exact processJsonCommand_tasks tested nonce cmd
    · exact @same _ [] rfl rfl
  | finishCommit =>
    unfold provStep
    dsimp only
    split
    · exact @same _ [] rfl rfl
    · exact @same _ [_] rfl rfl
  | advance position answer =>
    unfold provStep
    dsimp only
    split
    · exact @same _ [] rfl rfl
    · rename_i task waits
      exact advanceTask_tasks tested waits answer
  | gotIp => exact @same _ [] rfl rfl
  | staDisconnected => exact @same _ [] rfl rfl

/-- The log only grows. -/
theorem provStep_log (prov : Provision) (input : ProvInput) :
    ∃ newer, (provStep prov input).log = newer ++ prov.log := by
  cases provStep_moves prov input with
  | quiet newer logged stages same => exact ⟨newer, logged⟩
  | cleared logged changed => exact ⟨[_], logged⟩
  | subscribed ready logged changed => exact ⟨[], logged⟩
  | wifi free ssid psk logged changed => exact ⟨[_], logged⟩
  | server free host port uport nonce logged changed => exact ⟨[_], logged⟩
  | creds free ssid psk host port uport nonce logged changed => exact ⟨[_, _], logged⟩
  | confirmed free logged changed => exact ⟨[], logged⟩
  | finished commit waits logged changed => exact ⟨[_], logged⟩

/-- No task becomes a validation that has not begun. -/
theorem advanceTask_validations {position : Nat} {answer : NetworkAnswer}
    (begun : .validationStarts ∈ (prov.advanceTask position answer task).tasks) :
    .validationStarts ∈ prov.tasks := by
  have became {task : ProvTask} (member : .validationStarts ∈ prov.tasks.set position task)
      (other : task ≠ .validationStarts) : .validationStarts ∈ prov.tasks := by
    rcases List.mem_or_eq_of_mem_set member with before | same
    · exact before
    · exact absurd same.symm other
  have gone (member : .validationStarts ∈ prov.tasks.eraseIdx position) :
      .validationStarts ∈ prov.tasks := List.mem_of_mem_eraseIdx member
  cases task with
  | wifiReturned ok => cases ok <;> exact gone begun
  | scanWaits | udpFailed | reports copies => exact gone begun
  | validationCopied copies | udpWaits copies =>
    unfold Provision.advanceTask at begun
    dsimp only at begun
    split at begun <;> exact became begun nofun
  | validationJoins copies =>
    unfold Provision.advanceTask at begun
    dsimp only at begun
    split at begun
    · exact became begun nofun
    · exact gone begun
  | sslStarts copies =>
    unfold Provision.advanceTask at begun
    dsimp only at begun
    split at begun <;> exact became begun nofun
  | sslStored copies result =>
    unfold Provision.advanceTask at begun
    dsimp only at begun
    split at begun
    · exact gone begun
    · exact became begun nofun
  | _ => exact became begun nofun

/-- A validation that has not begun was asked for by a command. -/
theorem provStep_validations (input : ProvInput)
    (begun : .validationStarts ∈ (provStep prov input).tasks) :
    .validationStarts ∈ prov.tasks ∨ ∃ nonce, input = .command .commit nonce := by
  have spawned {tasks : List ProvTask} {task : ProvTask}
      (member : .validationStarts ∈ tasks ++ [task]) (other : task ≠ .validationStarts) :
      .validationStarts ∈ tasks := by
    rcases List.mem_append.mp member with before | new
    · exact before
    · exact absurd (List.mem_singleton.mp new).symm other
  cases input with
  | connect succeeded | clearCert | disconnect =>
    unfold provStep at begun
    dsimp only at begun
    split at begun <;> exact .inl begun
  | subscribe isTx curNotify =>
    unfold provStep at begun
    dsimp only at begun
    split at begun
    · exact .inl (spawned begun nofun)
    · exact .inl begun
  | command cmd nonce =>
    unfold provStep at begun
    dsimp only at begun
    split at begun
    · -- Only one command creates a validation.
      cases cmd with
      | commit => exact .inr ⟨nonce, rfl⟩
      | rescan => exact .inl (spawned begun nofun)
      | sendWifi ssid psk =>
        unfold Provision.processJsonCommand at begun
        dsimp only at begun
        split at begun
        · exact .inl (spawned begun nofun)
        · exact .inl begun
      | sendServer host port uport | sendCreds ssid psk host port uport =>
        unfold Provision.processJsonCommand at begun
        dsimp only at begun
        split at begun <;> exact .inl begun
      | setCert chunk data =>
        unfold Provision.processJsonCommand Provision.appendCert at begun
        dsimp only at begun
        split at begun
        · split at begun <;> split at begun <;> exact .inl begun
        · exact .inl begun
      | _ => exact .inl begun
    · exact .inl begun
  | finishCommit =>
    unfold provStep at begun
    dsimp only at begun
    split at begun <;> exact .inl begun
  | advance position answer =>
    unfold provStep at begun
    dsimp only at begun
    split at begun
    · exact .inl begun
    · rename_i task waits
      exact .inl (advanceTask_validations begun)
  | gotIp => exact .inl begun
  | staDisconnected => exact .inl begun

/-- A command brings a whole set of settings, or the server's part of one. -/
def ProvCommand.BringsServer : ProvCommand → Prop
  | .sendServer (some _) (some _) _ => True
  | .sendCreds (some _) (some _) (some _) (some _) _ => True
  | _ => False

/-- What makes the service queue the answers that the app goes by. -/
def Notification.Caused (prov : Provision) (input : ProvInput) : Notification → Prop
  | .credsOk _ _ _ =>
    prov.takesCommands = true ∧ ∃ cmd nonce, input = .command cmd nonce ∧ cmd.BringsServer
  | .report _ _ _ _ _ => ∃ copies, .reports copies ∈ prov.tasks
  | .commitOk _ => input = .finishCommit ∧ prov.committing.isSome
  | _ => True

/-- A task only reports what it has been through. -/
theorem taskAnswers_caused (env : AnswerEnv) (answer : NetworkAnswer) (input : ProvInput)
    (member : task ∈ prov.tasks) :
    ∀ notification ∈ prov.taskAnswers env answer task, notification.Caused prov input := by
  have one {notification : Notification} (caused : notification.Caused prov input) :
      ∀ other ∈ [notification], other.Caused prov input := by simpa using caused
  have none : ∀ other ∈ ([] : List Notification), other.Caused prov input := by simp
  cases task with
  | wifiCopied ssid psk => exact one trivial
  | wifiReturned ok => cases ok <;> exact one trivial
  | scanStarts => exact one trivial
  | scanWaits | validationCopied copies | validationJoins copies =>
    unfold Provision.taskAnswers
    dsimp only
    split
    · exact none
    · exact one trivial
  | sslStarts copies =>
    unfold Provision.taskAnswers
    dsimp only
    refine List.forall_mem_cons.mpr ⟨trivial, ?_⟩
    split
    · split <;> exact one trivial
    · exact one trivial
  | sslStored copies result =>
    unfold Provision.taskAnswers
    dsimp only
    split
    · exact one trivial
    · exact List.forall_mem_cons.mpr ⟨trivial, one trivial⟩
  | udpMatched copies => exact one trivial
  | udpFailed => exact one trivial
  | reports copies => exact one ⟨copies, member⟩
  | _ => exact none

/-- Credentials are acknowledged when they are taken, a report stems from a task that has been through
all stages, and a commit is acknowledged when it has been written. -/
theorem answers_caused (prov : Provision) (env : AnswerEnv) (input : ProvInput) :
    ∀ answer ∈ prov.answers env input, answer.Caused prov input := by
  have none : ∀ other ∈ ([] : List Notification), other.Caused prov input := by simp
  cases input with
  | command cmd nonce =>
    unfold Provision.answers
    dsimp only
    split
    · rename_i free
      intro answer member
      unfold Provision.commandAnswers at member
      split at member
      case h_5 | h_6 =>
        rw [List.mem_singleton.mp member]
        exact ⟨free, _, _, rfl, trivial⟩
      case h_11 => exact absurd member List.not_mem_nil
      all_goals
        rw [List.mem_singleton.mp member]
        trivial
    · exact none
  | subscribe isTx curNotify =>
    unfold Provision.answers
    dsimp only
    split
    · exact List.forall_mem_singleton.mpr trivial
    · exact none
  | finishCommit =>
    unfold Provision.answers
    dsimp only
    split
    · rename_i writing
      exact List.forall_mem_singleton.mpr ⟨rfl, writing⟩
    · exact none
  | advance position answer =>
    unfold Provision.answers
    dsimp only
    split
    · exact none
    · rename_i task waits
      exact taskAnswers_caused env answer _ (List.mem_of_getElem? waits)
  | _ => exact none

end Ykp.Firmware
