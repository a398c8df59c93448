import Ykp.Firmware.Provision

/-! Which settings `confirm_provision` writes: validations run in tasks of their own, commands change
the settings meanwhile, and the command looks at neither. -/

namespace Ykp.Firmware

open History

/-- An event after which the settings may be others. -/
def ProvEvent.changesSettings : ProvEvent → Bool
  | .wifiSent _ _ => true
  | .serverSent _ _ => true
  | .cleared => true
  | _ => false

/-- The copies that a validation took. -/
def ProvEvent.copies? : ProvEvent → Option ProvSettings
  | .copied copies => some copies
  | _ => none

/-- The copies that the last validation took. -/
def lastCopied (log : List ProvEvent) : Option ProvSettings := log.findSome? ProvEvent.copies?

/-- The settings have not changed since the last validation took its copies. -/
def UnchangedSince (log : List ProvEvent) : Prop :=
  ∀ event ∈ since (fun event => event.copies?.isSome) log, event.changesSettings = false

/-- The stages of a validation that succeed for its copies; Wi-Fi on a connection made with them. -/
def wifiStage (copies : ProvSettings) (event : ProvEvent) : Prop :=
  event = .wifiPassed (copies.ssid, copies.psk) copies

def sslStage (copies : ProvSettings) (event : ProvEvent) : Prop := event = .sslPassed copies

def udpStage (copies : ProvSettings) (event : ProvEvent) : Prop := event = .udpPassed copies

/-- All three stages succeeded for the same settings, one after the other. -/
def Validated (copies : ProvSettings) (log : List ProvEvent) : Prop :=
  Reached [udpStage copies, sslStage copies, wifiStage copies] log

/-- A commit found the session waiting for it, and writes settings that were validated before. -/
def CommitsValidated (older : List ProvEvent) : ProvEvent → Prop
  | .committed found ssid psk host port =>
    found = .reportWait ∧ ∃ copies, Validated copies older ∧
      copies.ssid = ssid ∧ copies.psk = psk ∧ copies.host = host ∧ copies.port = port
  | _ => True

/-- A validation takes its copies while no other one holds copies, and passes its Wi-Fi stage only on
a connection made with its own. -/
def StageInOrder (prov : Provision) : ProvTask → Prop
  | .validationStarts => ∀ task ∈ prov.tasks, task.copies = none
  | .validationCopied copies =>
    prov.wifi.isConnected = true → prov.wifi.config = (copies.ssid, copies.psk)
  | .validationJoins copies =>
    prov.wifi.connectedBit = true → prov.wifi.config = (copies.ssid, copies.psk)
  | _ => True

/-- The events are in order: `confirm_provision` is taken while the session waits for it, with the
settings unchanged since the last validation copied them, and validations run in order. -/
def ConfirmsInOrder (prov : Provision) : ProvInput → Prop
  | .command .confirmProvision _ =>
    prov.takesCommands = true → prov.session.state = .reportWait ∧ UnchangedSince prov.log
  | .advance position _ =>
    ∀ task ∈ prov.tasks[position]?, StageInOrder prov task
  | _ => True

instance (log : List ProvEvent) : Decidable (UnchangedSince log) :=
  inferInstanceAs (Decidable
    (∀ event ∈ since (fun event => event.copies?.isSome) log, event.changesSettings = false))

instance decidableStageInOrder (prov : Provision) :
    (task : ProvTask) → Decidable (StageInOrder prov task)
  | .validationStarts => inferInstanceAs (Decidable (∀ task ∈ prov.tasks, task.copies = none))
  | .validationCopied _ => inferInstanceAs (Decidable (_ → _))
  | .validationJoins _ => inferInstanceAs (Decidable (_ → _))
  | .wifiStarts | .wifiCopied _ _ | .wifiWaits | .wifiReturned _ | .scanStarts | .scanWaits
  | .sslStarts _ | .sslChecked _ _ _ | .sslStored _ _ | .udpWaits _ | .udpMatched _ | .udpFailed
  | .reports _ => .isTrue trivial

instance decidableConfirmsInOrder (prov : Provision) :
    (input : ProvInput) → Decidable (ConfirmsInOrder prov input)
  | .command .confirmProvision _ => inferInstanceAs (Decidable (_ → _ ∧ _))
  | .advance position _ =>
    inferInstanceAs (Decidable (∀ task ∈ prov.tasks[position]?, StageInOrder prov task))
  | .command .ping _ | .command .queryState _ | .command .scanAck _ | .command (.sendWifi _ _) _
  | .command (.sendServer _ _ _) _ | .command (.sendCreds _ _ _ _ _) _ | .command .rescan _
  | .command (.setCert _ _) _ | .command .commit _ | .command .reportAck _ | .connect _
  | .disconnect | .subscribe _ _ | .clearCert | .finishCommit | .gotIp
  | .staDisconnected => .isTrue trivial

/-- The stages a task has been through with its copies, the latest first. -/
def ProvTask.passed (copies : ProvSettings) : ProvTask → List (ProvEvent → Prop)
  | .sslStarts _ => [wifiStage copies]
  | .sslChecked _ result _ =>
    if result = .caFailedFallbackFailed then [] else [sslStage copies, wifiStage copies]
  | .sslStored _ result =>
    if result = .caFailedFallbackFailed then [] else [sslStage copies, wifiStage copies]
  | .udpWaits _ => [sslStage copies, wifiStage copies]
  | .udpMatched _ => [udpStage copies, sslStage copies, wifiStage copies]
  | .reports _ => [udpStage copies, sslStage copies, wifiStage copies]
  | _ => []

/-- A validation is the last one that copied, and has been through its stages. -/
def Backed (log : List ProvEvent) (task : ProvTask) : Prop :=
  ∀ copies, task.copies = some copies →
    lastCopied log = some copies ∧ Reached (task.passed copies) log

/-- The commit that is being written. -/
def ProvCommit.event (commit : ProvCommit) : ProvEvent :=
  .committed commit.found commit.ssid commit.psk commit.host commit.port

/-- What holds as long as the events are in order. -/
structure OrderKept (prov : Provision) : Prop where
  running : ∀ task ∈ prov.tasks, Backed prov.log task
  reported : prov.session.state = .reportWait →
    ∃ copies, lastCopied prov.log = some copies ∧ Validated copies prov.log
  unchanged : ∀ copies, lastCopied prov.log = some copies → UnchangedSince prov.log →
    prov.session.temp = copies
  pending : ∀ commit, prov.committing = some commit → CommitsValidated prov.log commit.event
  justified : Justified CommitsValidated prov.log

section Log

variable {log newer : List ProvEvent} {event : ProvEvent}

/-- Events that are no copies leave the last ones in place. -/
theorem lastCopied_append (plain : ∀ event ∈ newer, event.copies? = none) :
    lastCopied (newer ++ log) = lastCopied log := by
  rw [lastCopied, List.findSome?_append, List.findSome?_eq_none_iff.mpr plain]
  rfl

/-- Settings are unchanged behind such events if none of them changes any. -/
theorem unchangedSince_append (plain : ∀ event ∈ newer, event.copies? = none) :
    UnchangedSince (newer ++ log) ↔
      (∀ event ∈ newer, event.changesSettings = false) ∧ UnchangedSince log := by
  unfold UnchangedSince
  rw [since_append_inside log fun event member => by rw [plain event member]; rfl]
  exact List.forall_mem_append

/-- A task stays backed when such events are logged. -/
theorem Backed.append {task : ProvTask} (backed : Backed log task)
    (plain : ∀ event ∈ newer, event.copies? = none) : Backed (newer ++ log) task := by
  intro copies holds
  obtain ⟨last, reached⟩ := backed copies holds
  exact ⟨(lastCopied_append plain).trans last, reached.append newer⟩

/-- Validated settings stay validated. -/
theorem CommitsValidated.append (validated : CommitsValidated log event) :
    CommitsValidated (newer ++ log) event := by
  cases event with
  | committed found ssid psk host port =>
    obtain ⟨waited, copies, reached, same⟩ := validated
    exact ⟨waited, copies, reached.append newer, same⟩
  | _ => trivial

end Log

variable {prov : Provision}

/-- A step that copies no settings keeps the order, if each new task, each new report, each new commit
and what it logs has its grounds. -/
theorem OrderKept.next (kept : OrderKept prov) {next : Provision} {newer : List ProvEvent}
    (logged : next.log = newer ++ prov.log)
    (plain : ∀ event ∈ newer, event.copies? = none)
    (justified : Justified CommitsValidated next.log)
    (tasks : ∀ task ∈ next.tasks, task ∈ prov.tasks ∨ Backed next.log task)
    (state : next.session.state = .reportWait → prov.session.state = .reportWait ∨
      ∃ copies, lastCopied prov.log = some copies ∧ Validated copies prov.log)
    (temp : next.session.temp = prov.session.temp ∨
      ∃ event ∈ newer, event.changesSettings = true)
    (committing : ∀ commit, next.committing = some commit →
      prov.committing = some commit ∨ CommitsValidated prov.log commit.event) :
    OrderKept next := by
  -- What is logged is no copy, so the last copies and what was logged since them stay known.
  constructor
  · intro task member
    rcases tasks task member with before | backed
    · rw [logged]
      exact (kept.running task before).append plain
    · exact backed
  · intro waits
    have found : ∃ copies, lastCopied prov.log = some copies ∧ Validated copies prov.log := by
      rcases state waits with before | found
      · exact kept.reported before
      · exact found
    obtain ⟨copies, last, validated⟩ := found
    rw [logged, lastCopied_append plain]
    exact ⟨copies, last, validated.append newer⟩
  · intro copies last unchanged
    rw [logged] at last unchanged
    rw [lastCopied_append plain] at last
    obtain ⟨still, before⟩ := (unchangedSince_append plain).mp unchanged
    rcases temp with same | ⟨event, member, changes⟩
    · exact same.trans (kept.unchanged copies last before)
    · exact absurd (still event member) (by rw [changes]; decide)
  · intro commit waits
    rw [logged]
    rcases committing commit waits with before | validated
    · exact (kept.pending commit before).append
    · exact validated.append
  · exact justified

/-- A step that logs nothing and changes neither tasks nor settings nor commits. -/
theorem OrderKept.same (kept : OrderKept prov) {next : Provision} (logged : next.log = prov.log)
    (tasks : ∀ task ∈ next.tasks, task ∈ prov.tasks ∨ Backed next.log task)
    (state : next.session.state = .reportWait → prov.session.state = .reportWait)
    (temp : next.session.temp = prov.session.temp)
    (committing : next.committing = prov.committing) : OrderKept next :=
  have none : next.log = [] ++ prov.log := logged
  kept.next none (fun _ member => nomatch member) (logged ▸ kept.justified) tasks
    (fun waits => .inl (state waits)) (.inl temp)
    (fun _ waits => .inl (committing.symm.trans waits))

/-- A task without copies needs no backing. -/
theorem Backed.of_none {log : List ProvEvent} {task : ProvTask} (none : task.copies = none) :
    Backed log task := fun _ holds => nomatch none.symm.trans holds

/-- After a task went on, every task is an old one or the one it became. -/
theorem tasks_set {tasks : List ProvTask} {position : Nat} {log : List ProvEvent}
    {became : ProvTask} (backed : Backed log became) :
    ∀ task ∈ tasks.set position became, task ∈ tasks ∨ Backed log task := by
  intro task member
  rcases List.mem_or_eq_of_mem_set member with before | rfl
  · exact .inl before
  · exact .inr backed

/-- After a task deleted itself, every task is an old one. -/
theorem tasks_eraseIdx {tasks : List ProvTask} {position : Nat} {log : List ProvEvent} :
    ∀ task ∈ tasks.eraseIdx position, task ∈ tasks ∨ Backed log task :=
  fun _ member => .inl (List.mem_of_mem_eraseIdx member)

/-- After a task was created, every task is an old one or the new one. -/
theorem tasks_spawn {tasks : List ProvTask} {log : List ProvEvent} {task : ProvTask}
    (none : task.copies = none) : ∀ other ∈ tasks ++ [task], other ∈ tasks ∨ Backed log other := by
  intro other member
  rcases List.mem_append.mp member with before | new
  · exact .inl before
  · exact .inr (.of_none (List.mem_singleton.mp new ▸ none))

/-- A task that passes a stage with its copies keeps the order. -/
theorem OrderKept.pass (kept : OrderKept prov) (stage : ProvEvent → Prop)
    {task became : ProvTask} {position : Nat} {copies : ProvSettings} {event : ProvEvent}
    (waits : prov.tasks[position]? = some task) (holds : task.copies = some copies)
    (now : stage event) (plain : event.copies? = none)
    (unwritten : CommitsValidated prov.log event)
    (copied : became.copies = some copies)
    (passed : became.passed copies = stage :: task.passed copies) :
    OrderKept ((prov.record event).goTo position became) := by
  -- The new stage stands on those the task had been through.
  obtain ⟨last, reached⟩ := kept.running task (List.mem_of_getElem? waits) copies holds
  have plain' : ∀ other ∈ [event], other.copies? = none := by simpa using plain
  have logged : ((prov.record event).goTo position became).log = [event] ++ prov.log := rfl
  refine kept.next logged plain' ⟨unwritten, kept.justified⟩ (tasks_set ?_) .inl (.inl rfl)
    fun _ writing => .inl writing
  intro other same
  obtain rfl := Option.some.inj (copied.symm.trans same)
  rw [passed]
  exact ⟨(lastCopied_append plain').trans last, .push now reached⟩

/-- A task that only goes on with its copies keeps the order. -/
theorem OrderKept.goOn (kept : OrderKept prov) {next : Provision} {task : ProvTask}
    (became : ProvTask) {position : Nat} {copies : ProvSettings} (waits : prov.tasks[position]? = some task)
    (holds : task.copies = some copies) (copied : became.copies = some copies)
    (passed : became.passed copies = task.passed copies ∨ became.passed copies = [])
    (logged : next.log = prov.log) (tasks : next.tasks = prov.tasks.set position became)
    (state : next.session.state = .reportWait → prov.session.state = .reportWait)
    (temp : next.session.temp = prov.session.temp)
    (committing : next.committing = prov.committing) : OrderKept next := by
  -- The stages it had been through are still in the log, or it gives them up.
  obtain ⟨last, reached⟩ := kept.running task (List.mem_of_getElem? waits) copies holds
  refine kept.same logged ?_ state temp committing
  rw [tasks, logged]
  refine tasks_set fun other same => ?_
  obtain rfl := Option.some.inj (copied.symm.trans same)
  refine ⟨last, ?_⟩
  rcases passed with same | none
  · rwa [same]
  · rw [none]
    trivial

/-- A validation that takes its copies is the last one, and the settings are what it copied. -/
theorem OrderKept.copy (kept : OrderKept prov) {position : Nat}
    (alone : ∀ task ∈ prov.tasks, task.copies = none) :
    OrderKept (((prov.enter .sslValidate).record (.copied prov.session.temp)).goTo position
      (.validationCopied prov.session.temp)) where
  running := by
    -- No other task holds copies that could be out of date now.
    intro task member
    rcases List.mem_or_eq_of_mem_set member with before | rfl
    · exact .of_none (alone task before)
    · intro copies same
      obtain rfl := Option.some.inj same
      exact ⟨rfl, trivial⟩
  reported waits := nomatch waits
  unchanged copies last _ := Option.some.inj last
  pending commit writing :=
    @CommitsValidated.append prov.log [.copied prov.session.temp] _ (kept.pending commit writing)
  justified := ⟨trivial, kept.justified⟩

/-- A task that runs on keeps the order. -/
theorem OrderKept.advance (kept : OrderKept prov) {position : Nat} {task : ProvTask}
    (waits : prov.tasks[position]? = some task) (ordered : StageInOrder prov task)
    (answer : NetworkAnswer) : OrderKept (prov.advanceTask position answer task) := by
  -- Point by point: only a report makes the session wait, and only validations log stages.
  cases task with
  | wifiStarts =>
    exact kept.same rfl (tasks_set (.of_none rfl)) (fun waits => nomatch waits) rfl rfl
  | wifiCopied ssid psk => exact kept.same rfl (tasks_set (.of_none rfl)) id rfl rfl
  | wifiWaits => exact kept.same rfl (tasks_set (.of_none rfl)) id rfl rfl
  | wifiReturned ok =>
    cases ok <;> exact kept.same rfl tasks_eraseIdx (fun waits => nomatch waits) rfl rfl
  | scanStarts => exact kept.same rfl (tasks_set (.of_none rfl)) id rfl rfl
  | scanWaits =>
    refine kept.same rfl tasks_eraseIdx (fun waits => ?_) rfl rfl
    cases acknowledged : prov.scanAckReceived <;>
      simp [Provision.advanceTask, Provision.enter, Provision.delete, acknowledged] at waits
  | validationStarts => exact kept.copy ordered
  | validationCopied copies =>
    unfold Provision.advanceTask
    dsimp only
    split
    · rename_i connected
      rw [ordered connected]
      exact kept.pass (wifiStage copies) waits rfl rfl rfl trivial rfl rfl
    -- A new attempt is made with the task's own copies.
    · exact kept.goOn (.validationJoins copies) waits rfl rfl (.inl rfl) rfl rfl id rfl rfl
  | validationJoins copies =>
    unfold Provision.advanceTask
    dsimp only
    split
    · rename_i connected
      rw [ordered connected]
      exact kept.pass (wifiStage copies) waits rfl rfl rfl trivial rfl rfl
    · exact kept.same rfl tasks_eraseIdx id rfl rfl
  | sslStarts copies =>
    unfold Provision.advanceTask
    dsimp only
    -- A result that failed is carried to its end without a stage.
    split
    · rename_i failed
      exact kept.goOn (.sslChecked copies (validateSsl prov.cert answer) prov.cert) waits rfl rfl
        (.inr (if_pos failed)) rfl rfl id rfl rfl
    · rename_i accepted
      exact kept.pass (sslStage copies) waits rfl rfl rfl trivial rfl
        (if_neg accepted)
  | sslChecked copies result cert =>
    exact kept.goOn (.sslStored copies result) waits rfl rfl (.inl rfl) rfl rfl id rfl rfl
  | sslStored copies result =>
    unfold Provision.advanceTask
    dsimp only
    split
    · exact kept.same rfl tasks_eraseIdx (fun waits => nomatch waits) rfl rfl
    · rename_i accepted
      exact kept.goOn (.udpWaits copies) waits rfl rfl (.inl (if_neg accepted).symm) rfl rfl
        (fun waits => nomatch waits) rfl rfl
  | udpWaits copies =>
    unfold Provision.advanceTask
    dsimp only
    split
    · exact kept.pass (udpStage copies) waits rfl rfl rfl trivial rfl rfl
    · exact kept.same rfl (tasks_set (.of_none rfl)) id rfl rfl
  | udpMatched copies =>
    exact kept.goOn (.reports copies) waits rfl rfl (.inl rfl) rfl rfl id rfl rfl
  | udpFailed => exact kept.same rfl tasks_eraseIdx (fun waits => nomatch waits) rfl rfl
  | reports copies =>
    -- The report of the last validation is the one that makes the session wait.
    have backed := kept.running _ (List.mem_of_getElem? waits) copies rfl
    have none : (prov.advanceTask position answer (.reports copies)).log = [] ++ prov.log := rfl
    exact kept.next none (fun _ member => nomatch member) kept.justified tasks_eraseIdx
      (fun _ => .inr ⟨copies, backed⟩) (.inl rfl) fun _ writing => .inl writing

/-- An event that changes the settings keeps the order; whatever was validated is out of date. -/
theorem OrderKept.change (kept : OrderKept prov) {next : Provision} {event : ProvEvent}
    (logged : next.log = event :: prov.log) (changes : event.changesSettings = true)
    (tasks : next.tasks = prov.tasks)
    (state : next.session.state = .reportWait → prov.session.state = .reportWait)
    (committing : next.committing = prov.committing) : OrderKept next := by
  -- Such an event is neither a copy nor a commit.
  have plain : event.copies? = none ∧ CommitsValidated prov.log event := by
    cases event with
    | wifiSent ssid psk => exact ⟨rfl, trivial⟩
    | serverSent host port => exact ⟨rfl, trivial⟩
    | cleared => exact ⟨rfl, trivial⟩
    | _ => cases changes
  have one : next.log = [event] ++ prov.log := logged
  refine kept.next one (by simpa using plain.1) ?_ (fun _ member => .inl (tasks ▸ member))
    (fun waits => .inl (state waits)) (.inr ⟨event, List.mem_singleton.mpr rfl, changes⟩)
    fun _ writing => .inl (committing.symm.trans writing)
  rw [logged]
  exact ⟨plain.2, kept.justified⟩

theorem OrderKept.putWifi (kept : OrderKept prov) (ssid psk : Bytes) :
    OrderKept (prov.putWifi ssid psk) := kept.change rfl rfl rfl id rfl

theorem OrderKept.putServer (kept : OrderKept prov) (host : Bytes) (port : Int)
    (uport : Option Int) (nonce : Nat) : OrderKept (prov.putServer host port uport nonce) :=
  kept.change rfl rfl rfl id rfl

/-- A task that has not copied yet may be created at any time. -/
theorem OrderKept.spawn (kept : OrderKept prov) {task : ProvTask} (none : task.copies = none) :
    OrderKept (prov.spawn task) := kept.same rfl (tasks_spawn none) id rfl rfl

/-- A confirmation that is in order takes settings that were validated. -/
theorem OrderKept.confirm (kept : OrderKept prov) (waits : prov.session.state = .reportWait)
    (still : UnchangedSince prov.log) : OrderKept prov.confirm := by
  -- The last validation reported its copies, and the settings are still these.
  obtain ⟨copies, last, validated⟩ := kept.reported waits
  have same := kept.unchanged copies last still
  have none : prov.confirm.log = [] ++ prov.log := rfl
  refine kept.next none (fun _ member => nomatch member) kept.justified (fun _ => .inl)
    (fun now => nomatch now) (.inl rfl) fun commit writing => .inr ?_
  obtain rfl := Option.some.inj writing
  exact ⟨waits, copies, validated, by rw [same], by rw [same], by rw [same], by rw [same]⟩

/-- A command that is in order keeps the order. -/
theorem OrderKept.command (kept : OrderKept prov) (nonce : Nat) (cmd : ProvCommand)
    (ordered : cmd = .confirmProvision →
      prov.session.state = .reportWait ∧ UnchangedSince prov.log) :
    OrderKept (prov.processJsonCommand nonce cmd) := by
  -- New settings put the validated ones out of date; new tasks have copied nothing yet.
  cases cmd with
  | sendWifi ssid psk =>
    unfold Provision.processJsonCommand
    dsimp only
    split
    · exact (kept.putWifi _ _).spawn rfl
    · exact kept
  | sendServer host port uport =>
    unfold Provision.processJsonCommand
    dsimp only
    split
    · exact kept.putServer _ _ _ _
    · exact kept
  | sendCreds ssid psk host port uport =>
    unfold Provision.processJsonCommand
    dsimp only
    split
    · exact (kept.putWifi _ _).putServer _ _ _ _
    · exact kept
  | setCert chunk data =>
    unfold Provision.processJsonCommand
    dsimp only
    split
    · unfold Provision.appendCert
      dsimp only
      split <;> split <;> exact kept.same rfl (fun _ => .inl) id rfl rfl
    · exact kept
  | scanAck => exact kept.same rfl (fun _ => .inl) id rfl rfl
  | rescan => exact kept.spawn rfl
  | commit => exact kept.spawn rfl
  | confirmProvision =>
    obtain ⟨waits, still⟩ := ordered rfl
    exact kept.confirm waits still
  | _ => exact kept

/-- Writing the settings keeps the order: the grounds were there when they were taken. -/
theorem OrderKept.finish (kept : OrderKept prov) {commit : ProvCommit}
    (writes : prov.committing = some commit) : OrderKept (prov.finishCommit commit) := by
  have one : (prov.finishCommit commit).log = [commit.event] ++ prov.log := rfl
  exact kept.next one (by simp [ProvCommit.event, ProvEvent.copies?])
    ⟨kept.pending commit writes, kept.justified⟩ (fun _ => .inl) .inl (.inl rfl)
    fun _ writing => nomatch writing

/-- As long as the events are in order, the order is kept. -/
theorem OrderKept.step (kept : OrderKept prov) {input : ProvInput}
    (ordered : ConfirmsInOrder prov input) : OrderKept (provStep prov input) := by
  -- The condition is needed for commands and tasks only.
  cases input with
  | connect succeeded =>
    unfold provStep
    dsimp only
    split
    · exact kept.same rfl (fun _ => .inl) id rfl rfl
    · exact kept
  | disconnect =>
    unfold provStep
    dsimp only
    split
    · exact kept
    · exact kept.change rfl rfl rfl (fun waits => nomatch waits) rfl
  | subscribe isTx curNotify =>
    unfold provStep
    dsimp only
    split
    · exact kept.same rfl (tasks_spawn rfl) (fun waits => nomatch waits) rfl rfl
    · exact kept
  | clearCert =>
    unfold provStep
    dsimp only
    split
    · exact kept.same rfl (fun _ => .inl) id rfl rfl
    · exact kept
  | command cmd nonce =>
    unfold provStep
    dsimp only
    split
    · rename_i free
      refine kept.command nonce cmd ?_
      rintro rfl
      exact ordered free
    · exact kept
  | finishCommit =>
    unfold provStep
    dsimp only
    split
    · exact kept
    · rename_i commit writes
      exact kept.finish writes
  | advance position answer =>
    unfold provStep
    dsimp only
    split
    · exact kept
    · rename_i task waits
      exact kept.advance waits (ordered task waits) answer
  | gotIp => exact kept.same rfl (fun _ => .inl) id rfl rfl
  | staDisconnected => exact kept.same rfl (fun _ => .inl) id rfl rfl

/-- The settings of a run: a network, its password and a server. -/
def sampleCreds (psk : Bytes) : ProvCommand :=
  .sendCreds (some [0x61]) (some psk) (some [0x62]) (some 443) none

/-- A network that lets every stage pass, for a session id and a nonce. -/
def sampleNetwork (drawn nonce : Nat) : NetworkAnswer :=
  ⟨true, true, some (textBytes "YKP_PROBE:" ++
    (hexString (BigEndian.writeU32 drawn) ++ hexString (BigEndian.writeU32 nonce)))⟩

/-- Settings are sent, validated stage by stage, confirmed and written. -/
def provisions (psk : Bytes) : List ProvInput :=
  [.connect true, .subscribe true true, .command (sampleCreds psk) 2, .command .commit 0,
    .advance 1 (sampleNetwork 1 2), .advance 1 (sampleNetwork 1 2), .gotIp] ++
  List.replicate 7 (.advance 1 (sampleNetwork 1 2)) ++
  [.command .confirmProvision 0, .finishCommit]

/-- Settings are sent and confirmed at once. -/
def unvalidated : List ProvInput :=
  [.connect true, .subscribe true true, .command (sampleCreds [0x63]) 2,
    .command .confirmProvision 0, .finishCommit]

end Ykp.Firmware
