import Ykp.Firmware.Provision
import Ykp.Firmware.WifiScan

/-! The handler of a JSON command: the items it looks up, and the strings it takes from them. -/

namespace Ykp.Firmware

/-- An item of a parsed text. Of a number only the integer is kept. -/
inductive CJson
  | null
  | false
  | true
  | number (valueint : Int32)
  | string (valuestring : Bytes)
  | array (items : List CJson)
  | object (members : List (Bytes × CJson))

/-- A letter in lower case. -/
def tolower (letter : UInt8) : UInt8 :=
  if 0x41 ≤ letter ∧ letter ≤ 0x5A then letter + 0x20 else letter

/-- Two strings are the same, and they are up to the case of their letters. -/
def strcmp (first second : Bytes) : Bool := cString first == cString second

def caseInsensitiveStrcmp (first second : Bytes) : Bool :=
  (cString first).map tolower == (cString second).map tolower

/-- The functions that strings are passed to. -/
inductive StringFunction
  | strcmp | strncpy | strlen | strcat
  deriving DecidableEq, Repr

/-- A pointer is passed to a function that does not expect it to be null. -/
def pass (function : StringFunction) : Option Bytes → Except StringFunction Bytes
  | none => .error function
  | some text => .ok text

/-- The names of the commands. -/
inductive CommandName
  | ping | queryState | scanAck | sendWifi | sendServer | sendCreds | rescan | setCert | commit
  | reportAck | confirmProvision
  deriving DecidableEq, Repr

/-- The names as they are written, in the order in which a command is compared with them. -/
def commandNames : List (String × CommandName) :=
  [("ping", .ping), ("query_state", .queryState), ("scan_ack", .scanAck), ("send_wifi", .sendWifi),
    ("send_server", .sendServer), ("send_creds", .sendCreds), ("rescan", .rescan),
    ("set_cert", .setCert), ("commit", .commit), ("report_ack", .reportAck),
    ("confirm_provision", .confirmProvision)]

def commandName (cmd : Bytes) : Option CommandName :=
  (commandNames.find? fun entry => strcmp cmd (textBytes entry.1)).map Prod.snd

/-- An answer with the number of the command behind its other members. -/
def ackMsg (members : Bytes) (seq : UInt32) : Bytes :=
  textBytes "\x7b" ++ members ++ textBytes ",\"seq\":" ++ decimalBytes seq.toNat ++ textBytes "\x7d"

/-- The answer to a certificate chunk. -/
def certAckMsg (chunk : Int) (status : String) (seq : UInt32) : Bytes :=
  ackMsg (textBytes "\"ack\":\"set_cert\",\"chunk\":" ++ intBytes chunk ++
    textBytes (",\"status\":\"" ++ status ++ "\"")) seq

/-- The answer to a server, with the nonce the probe is to bring. -/
def credsAckMsg (session : ProvSession) (seq : UInt32) : Bytes :=
  ackMsg (textBytes "\"status\":\"creds_ok\",\"udp_nonce\":\"" ++ session.udpNonce ++
    textBytes "\",\"session_id\":\"" ++ decimalBytes session.sessionId ++ textBytes "\"") seq

namespace CJson

/-- The string an item points to. -/
def valuestring : CJson → Option Bytes
  | .string text => some text
  | _ => none

/-- The integer of an item. -/
def valueint : CJson → Int32
  | .true => 1
  | .number value => value
  | _ => 0

/-- The first member with a name. The items of an array have no names. -/
def getObjectItem (object : CJson) (name : String) : Option CJson :=
  match object with
  | .object members =>
    (members.find? fun member => caseInsensitiveStrcmp (textBytes name) member.1).map Prod.snd
  | _ => none

-- The object of a command, the number of the command, and what is drawn at random.
variable (root : CJson) (prov : Provision) (seq : UInt32) (nonce : Nat)

/-- The handlers of the commands that take strings. Each leaves the service as it found it and answers
nothing if it misses an argument. -/
def sendWifi : Except StringFunction (Provision × Option Bytes) :=
  match root.getObjectItem "ssid", root.getObjectItem "psk" with
  | some ssid, some psk => do
    let ssid ← pass .strncpy ssid.valuestring
    let psk ← pass .strncpy psk.valuestring
    return ((prov.putWifi ssid psk).spawn .wifiStarts,
      some (ackMsg (textBytes "\"status\":\"wifi_connecting\"") seq))
  | _, _ => return (prov, none)

def sendServer : Except StringFunction (Provision × Option Bytes) :=
  match root.getObjectItem "host", root.getObjectItem "port" with
  | some host, some port => do
    let host ← pass .strncpy host.valuestring
    let uport := (root.getObjectItem "udp_port").map fun item => item.valueint.toInt
    let after := prov.putServer host port.valueint.toInt uport nonce
    return (after, some (credsAckMsg after.session seq))
  | _, _ => return (prov, none)

def sendCreds : Except StringFunction (Provision × Option Bytes) :=
  match root.getObjectItem "ssid", root.getObjectItem "psk", root.getObjectItem "host",
    root.getObjectItem "port" with
  | some ssid, some psk, some host, some port => do
    let ssid ← pass .strncpy ssid.valuestring
    let psk ← pass .strncpy psk.valuestring
    let host ← pass .strncpy host.valuestring
    let uport := (root.getObjectItem "udp_port").map fun item => item.valueint.toInt
    let after := (prov.putWifi ssid psk).putServer host port.valueint.toInt uport nonce
    return (after, some (credsAckMsg after.session seq))
  | _, _, _, _ => return (prov, none)

def setCert : Except StringFunction (Provision × Option Bytes) :=
  match root.getObjectItem "chunk", root.getObjectItem "data" with
  | some chunkIdx, some data =>
    -- This is the only command that looks whether its argument is a string.
    if data.valuestring.isSome then do
      let chunk := chunkIdx.valueint.toInt
      let cert := if chunk = 1 then [] else prov.cert
      let measured ← pass .strlen data.valuestring
      if cert.length + (cString measured).length < certBufSize - 1 then
        let appended ← pass .strcat data.valuestring
        return ({ prov with cert := cert ++ cString appended }, some (certAckMsg chunk "ok" seq))
      else return ({ prov with cert := cert }, some (certAckMsg chunk "error" seq))
    else return (prov, none)
  | _, _ => return (prov, none)

/-- A command is handled: the service afterwards and its answer, or the function that was passed a
null pointer. -/
def handle : CommandName → Except StringFunction (Provision × Option Bytes)
  | .ping => return (prov, some (textBytes "\x7b\"cmd\":\"pong\"\x7d"))
  | .queryState =>
    return (prov, some (ackMsg (textBytes "\"status\":\"state_report\",\"state\":\"" ++
      decimalBytes prov.session.state.ctorIdx ++ textBytes "\",\"session_id\":\"" ++
      decimalBytes prov.session.sessionId ++ textBytes "\"") seq))
  | .scanAck =>
    return ({ prov with scanAckReceived := Bool.true },
      some (ackMsg (textBytes "\"ack\":\"scan_ack\",\"status\":\"ok\"") seq))
  | .sendWifi => root.sendWifi prov seq
  | .sendServer => root.sendServer prov seq nonce
  | .sendCreds => root.sendCreds prov seq nonce
  | .rescan =>
    return (prov.spawn .scanStarts,
      some (ackMsg (textBytes "\"ack\":\"rescan\",\"status\":\"ok\"") seq))
  | .setCert => root.setCert prov seq
  | .commit =>
    return (prov.spawn .validationStarts, some (ackMsg (textBytes "\"status\":\"commit_ack\"") seq))
  | .reportAck =>
    return (prov, some (ackMsg (textBytes "\"ack\":\"report_ack\",\"status\":\"ok\"") seq))
  -- The answer follows the writes, in front of the restart.
  | .confirmProvision =>
    return (prov.confirm, some (ackMsg (textBytes "\"status\":\"commit_ok\"") seq))

/-- The handler of an object; one without a command, or with a command it does not know, is ignored. -/
def processJsonCommand : Except StringFunction (Provision × Option Bytes) :=
  match root.getObjectItem "cmd" with
  | none => return (prov, none)
  | some cmdItem =>
    if cmdItem.valuestring.isSome then do
      let currentSeq := (root.getObjectItem "seq").elim 0 fun item => item.valueint.toUInt32
      -- One pointer is compared with all names.
      let cmd ← pass .strcmp cmdItem.valuestring
      match commandName cmd with
      | none => return (prov, none)
      | some name => root.handle prov currentSeq nonce name
    else return (prov, none)

/-- The string of a member. -/
def text (name : String) : Option Bytes := (root.getObjectItem name).bind valuestring

/-- The integer of a member. -/
def int (name : String) : Option Int :=
  (root.getObjectItem name).map fun item => item.valueint.toInt

/-- The command an object names, and its number. -/
def command : Option CommandName := (root.text "cmd").bind commandName

def currentSeq : UInt32 := (root.getObjectItem "seq").elim 0 fun item => item.valueint.toUInt32

end CJson

/-- The members that a command finds before it copies strings, and those it copies. -/
def CommandName.checked : CommandName → List String
  | .sendWifi => ["ssid", "psk"]
  | .sendServer => ["host", "port"]
  | .sendCreds => ["ssid", "psk", "host", "port"]
  | _ => []

def CommandName.copied : CommandName → List String
  | .sendWifi => ["ssid", "psk"]
  | .sendServer => ["host"]
  | .sendCreds => ["ssid", "psk", "host"]
  | _ => []

namespace CJson

variable (root : CJson) (prov : Provision) (seq : UInt32) (nonce : Nat)

/-- If the members that a command checks are all there, the ones it copies are strings. -/
def CopiesStrings (name : CommandName) : Prop :=
  (∀ member ∈ name.checked, (root.getObjectItem member).isSome) →
    ∀ member ∈ name.copied, (root.text member).isSome

/-- The command with the arguments that an object has for it. -/
def provCommand : CommandName → ProvCommand
  | .ping => .ping
  | .queryState => .queryState
  | .scanAck => .scanAck
  | .sendWifi => .sendWifi (root.text "ssid") (root.text "psk")
  | .sendServer => .sendServer (root.text "host") (root.int "port") (root.int "udp_port")
  | .sendCreds =>
    .sendCreds (root.text "ssid") (root.text "psk") (root.text "host") (root.int "port")
      (root.int "udp_port")
  | .rescan => .rescan
  | .setCert => .setCert (root.int "chunk") (root.text "data")
  | .commit => .commit
  | .reportAck => .reportAck
  | .confirmProvision => .confirmProvision

end CJson

/-- No function was passed a null pointer. -/
def Passes {α : Type} (result : Except StringFunction α) : Prop :=
  ∀ function, result ≠ .error function

theorem passes_pure {α : Type} (value : α) : Passes (pure value) := nofun

/-- What follows on a pointer that is passed is reached with the string it points to. -/
theorem passes_pass_bind {α : Type} (function : StringFunction) (pointer : Option Bytes)
    (next : Bytes → Except StringFunction α) :
    Passes (pass function pointer >>= next) ↔ ∃ text, pointer = some text ∧ Passes (next text) := by
  cases pointer with
  | none => simp [Passes, pass, bind, Except.bind]
  | some text => simp [pass, bind, Except.bind]

namespace CJson

variable (root : CJson) (prov : Provision) (seq : UInt32) (nonce : Nat)

/-- An object is handled by the handler of its command. -/
theorem processJsonCommand_eq :
    root.processJsonCommand prov nonce =
      match root.command with
      | none => .ok (prov, none)
      | some name => root.handle prov root.currentSeq nonce name := by
  unfold processJsonCommand command text currentSeq
  -- The check of the string and its use look at the same item.
  cases root.getObjectItem "cmd" with
  | none => rfl
  | some cmdItem =>
    cases found : cmdItem.valuestring with
    | none => simp [found, pure, Except.pure]
    | some cmd =>
      simp only [Option.bind_some, found, Option.isSome_some, if_true, pass]
      rfl

/-- A member that is there has the string of its item. -/
theorem text_eq {name : String} {item : CJson} (found : root.getObjectItem name = some item) :
    root.text name = item.valuestring := by
  rw [text, found, Option.bind_some]

theorem sendWifi_passes : Passes (root.sendWifi prov seq) ↔ root.CopiesStrings .sendWifi := by
  unfold sendWifi CopiesStrings
  simp only [CommandName.checked, CommandName.copied, List.forall_mem_cons,
    Option.isSome_iff_exists]
  -- What is passed are the strings of the members that were found.
  split
  · rename_i ssid psk ssidFound pskFound
    simp only [passes_pass_bind, passes_pure, text_eq root ssidFound, text_eq root pskFound,
      ssidFound, pskFound, and_true, exists_and_right]
    simp
  · rename_i missing
    refine iff_of_true (passes_pure _) ?_
    rintro ⟨⟨ssid, ssidFound⟩, ⟨psk, pskFound⟩, -⟩
    exact absurd pskFound (missing ssid psk ssidFound)

theorem sendServer_passes :
    Passes (root.sendServer prov seq nonce) ↔ root.CopiesStrings .sendServer := by
  unfold sendServer CopiesStrings
  simp only [CommandName.checked, CommandName.copied, List.forall_mem_cons,
    Option.isSome_iff_exists]
  -- The port is only read as a number.
  split
  · rename_i host port hostFound portFound
    simp only [passes_pass_bind, passes_pure, text_eq root hostFound, hostFound, portFound, and_true]
    simp
  · rename_i missing
    refine iff_of_true (passes_pure _) ?_
    rintro ⟨⟨host, hostFound⟩, ⟨port, portFound⟩, -⟩
    exact absurd portFound (missing host port hostFound)

theorem sendCreds_passes :
    Passes (root.sendCreds prov seq nonce) ↔ root.CopiesStrings .sendCreds := by
  unfold sendCreds CopiesStrings
  simp only [CommandName.checked, CommandName.copied, List.forall_mem_cons,
    Option.isSome_iff_exists]
  -- Three of the four members are passed.
  split
  · rename_i ssid psk host port ssidFound pskFound hostFound portFound
    simp only [passes_pass_bind, passes_pure, text_eq root ssidFound, text_eq root pskFound,
      text_eq root hostFound, ssidFound, pskFound, hostFound, portFound, and_true, exists_and_right]
    simp
  · rename_i missing
    refine iff_of_true (passes_pure _) ?_
    rintro ⟨⟨ssid, ssidFound⟩, ⟨psk, pskFound⟩, ⟨host, hostFound⟩, ⟨port, portFound⟩, -⟩
    exact absurd portFound (missing ssid psk host port ssidFound pskFound hostFound)

/-- A certificate chunk is only appended if it is a string. -/
theorem setCert_passes : Passes (root.setCert prov seq) := by
  unfold setCert
  split
  · rename_i chunkIdx data _ _
    cases string : data.valuestring with
    | none => exact passes_pure _
    | some text =>
      rw [Option.isSome_some, if_pos rfl, passes_pass_bind]
      refine ⟨text, rfl, ?_⟩
      generalize (if chunkIdx.valueint.toInt = 1 then [] else prov.cert) = cert
      split
      · rw [passes_pass_bind]
        exact ⟨text, rfl, passes_pure _⟩
      · exact passes_pure _
  · exact passes_pure _

/-- A command is handled without a null pointer exactly when the members it copies are strings. -/
theorem handle_passes (name : CommandName) :
    Passes (root.handle prov seq nonce name) ↔ root.CopiesStrings name := by
  cases name
  case sendWifi => exact root.sendWifi_passes prov seq
  case sendServer => exact root.sendServer_passes prov seq nonce
  case sendCreds => exact root.sendCreds_passes prov seq nonce
  case setCert => exact iff_of_true (root.setCert_passes prov seq) (fun _ => nofun)
  -- The others copy nothing.
  all_goals exact iff_of_true (passes_pure _) (fun _ => nofun)

/-- Only strings that are there are passed to the string library exactly when the object names no
command, or one that either misses a member it checks or finds strings in all those it copies. -/
theorem strings_passed_iff :
    Passes (root.processJsonCommand prov nonce) ↔
      ∀ name ∈ root.command, root.CopiesStrings name := by
  rw [processJsonCommand_eq]
  cases root.command with
  | none => exact iff_of_true (passes_pure _) nofun
  | some name => simp [handle_passes]

end CJson

/-- A network whose name is a number; the check only asks whether the member is there. -/
def numberedNetwork : CJson :=
  .object [(textBytes "cmd", .string (textBytes "send_wifi")), (textBytes "ssid", .number 7),
    (textBytes "psk", .string (textBytes "secret"))]

theorem number_copied : ¬ ∀ (root : CJson) (prov : Provision) (nonce : Nat),
    Passes (root.processJsonCommand prov nonce) := by
  intro passes
  exact passes numberedNetwork (.start (fun _ => []) emptyNvs 0) 0 .strncpy rfl

/-- A function that returned was passed a string. -/
theorem pass_bind_ok {α : Type} {function : StringFunction} {pointer : Option Bytes}
    {next : Bytes → Except StringFunction α} {result : α}
    (returned : (pass function pointer >>= next) = .ok result) :
    ∃ text, pointer = some text ∧ next text = .ok result := by
  cases pointer with
  | none => exact absurd returned nofun
  | some text => exact ⟨text, rfl, returned⟩

namespace CJson

variable {root : CJson} {prov : Provision} {seq : UInt32} {nonce : Nat}
  {outcome : Provision × Option Bytes}

/-- A command was handled: the service did what the command asks with the arguments it has, and without
an answer nothing was done. -/
structure Served (root : CJson) (prov : Provision) (nonce : Nat) (name : CommandName)
    (outcome : Provision × Option Bytes) : Prop where
  service : outcome.1 = prov.processJsonCommand nonce (root.provCommand name)
  unanswered : outcome.2 = none → outcome.1 = prov

/-- A member that has a string is there. -/
theorem item_of_text {name : String} {text : Bytes} (given : root.text name = some text) :
    ∃ item, root.getObjectItem name = some item := by
  obtain ⟨item, found, -⟩ := Option.bind_eq_some_iff.mp given
  exact ⟨item, found⟩

theorem item_of_int {name : String} {value : Int} (given : root.int name = some value) :
    ∃ item, root.getObjectItem name = some item := by
  obtain ⟨item, found, -⟩ := Option.map_eq_some_iff.mp given
  exact ⟨item, found⟩

theorem sendWifi_served (handled : root.sendWifi prov seq = .ok outcome) :
    root.Served prov nonce .sendWifi outcome := by
  unfold sendWifi at handled
  -- Either both members were found and both are strings, or nothing was done.
  split at handled
  · rename_i ssid psk ssidFound pskFound
    obtain ⟨ssid, ssidString, handled⟩ := pass_bind_ok handled
    obtain ⟨psk, pskString, handled⟩ := pass_bind_ok handled
    cases handled
    rw [← text_eq root ssidFound] at ssidString
    rw [← text_eq root pskFound] at pskString
    refine ⟨?_, nofun⟩
    simp only [provCommand, Provision.processJsonCommand, ssidString, pskString]
  · rename_i missing
    cases handled
    refine ⟨?_, fun _ => rfl⟩
    simp only [provCommand, Provision.processJsonCommand]
    split
    · rename_i ssidString pskString
      obtain ⟨ssid, ssidFound⟩ := item_of_text ssidString
      obtain ⟨psk, pskFound⟩ := item_of_text pskString
      exact absurd pskFound (missing ssid psk ssidFound)
    · rfl

theorem sendServer_served (handled : root.sendServer prov seq nonce = .ok outcome) :
    root.Served prov nonce .sendServer outcome := by
  unfold sendServer at handled
  -- A port without a host, or a host without a port, does nothing.
  split at handled
  · rename_i host port hostFound portFound
    obtain ⟨host, hostString, handled⟩ := pass_bind_ok handled
    cases handled
    rw [← text_eq root hostFound] at hostString
    refine ⟨?_, nofun⟩
    simp only [provCommand, Provision.processJsonCommand, hostString, int, portFound,
      Option.map_some]
  · rename_i missing
    cases handled
    refine ⟨?_, fun _ => rfl⟩
    simp only [provCommand, Provision.processJsonCommand]
    split
    · rename_i hostString portInt
      obtain ⟨host, hostFound⟩ := item_of_text hostString
      obtain ⟨port, portFound⟩ := item_of_int portInt
      exact absurd portFound (missing host port hostFound)
    · rfl

theorem sendCreds_served (handled : root.sendCreds prov seq nonce = .ok outcome) :
    root.Served prov nonce .sendCreds outcome := by
  unfold sendCreds at handled
  -- One missing member is enough for nothing to be done.
  split at handled
  · rename_i ssid psk host port ssidFound pskFound hostFound portFound
    obtain ⟨ssid, ssidString, handled⟩ := pass_bind_ok handled
    obtain ⟨psk, pskString, handled⟩ := pass_bind_ok handled
    obtain ⟨host, hostString, handled⟩ := pass_bind_ok handled
    cases handled
    rw [← text_eq root ssidFound] at ssidString
    rw [← text_eq root pskFound] at pskString
    rw [← text_eq root hostFound] at hostString
    refine ⟨?_, nofun⟩
    simp only [provCommand, Provision.processJsonCommand, ssidString, pskString, hostString, int,
      portFound, Option.map_some]
  · rename_i missing
    cases handled
    refine ⟨?_, fun _ => rfl⟩
    simp only [provCommand, Provision.processJsonCommand]
    split
    · rename_i ssidString pskString hostString portInt
      obtain ⟨ssid, ssidFound⟩ := item_of_text ssidString
      obtain ⟨psk, pskFound⟩ := item_of_text pskString
      obtain ⟨host, hostFound⟩ := item_of_text hostString
      obtain ⟨port, portFound⟩ := item_of_int portInt
      exact absurd portFound (missing ssid psk host port ssidFound pskFound hostFound)
    · rfl

theorem setCert_served (handled : root.setCert prov seq = .ok outcome) :
    root.Served prov nonce .setCert outcome := by
  unfold setCert at handled
  split at handled
  · rename_i chunkIdx data chunkFound dataFound
    have chunkInt : root.int "chunk" = some chunkIdx.valueint.toInt := by
      rw [int, chunkFound, Option.map_some]
    cases string : data.valuestring with
    | none =>
      rw [string] at handled
      cases handled
      refine ⟨?_, fun _ => rfl⟩
      simp only [provCommand, Provision.processJsonCommand, chunkInt, text_eq root dataFound, string]
    | some text =>
      rw [string, Option.isSome_some, if_pos rfl] at handled
      obtain ⟨_, ⟨⟩, handled⟩ := pass_bind_ok handled
      have service : outcome.1 = prov.appendCert chunkIdx.valueint.toInt text ∧ outcome.2 ≠ none := by
        unfold Provision.appendCert
        generalize (if chunkIdx.valueint.toInt = 1 then [] else prov.cert) = cert at handled ⊢
        dsimp only at handled ⊢
        -- Whether the chunk fits is asked in the same way.
        split at handled
        · rename_i fits
          obtain ⟨_, ⟨⟩, handled⟩ := pass_bind_ok handled
          cases handled
          rw [if_pos fits]
          exact ⟨rfl, nofun⟩
        · rename_i full
          cases handled
          rw [if_neg full]
          exact ⟨rfl, nofun⟩
      refine ⟨?_, fun unanswered => absurd unanswered service.2⟩
      simp only [provCommand, Provision.processJsonCommand, chunkInt, text_eq root dataFound, string,
        service.1]
  · rename_i missing
    cases handled
    refine ⟨?_, fun _ => rfl⟩
    simp only [provCommand, Provision.processJsonCommand]
    split
    · rename_i chunkInt dataString
      obtain ⟨chunk, chunkFound⟩ := item_of_int chunkInt
      obtain ⟨data, dataFound⟩ := item_of_text dataString
      exact absurd dataFound (missing chunk data chunkFound)
    · rfl

theorem handle_served {name : CommandName}
    (handled : root.handle prov seq nonce name = .ok outcome) :
    root.Served prov nonce name outcome := by
  cases name
  case sendWifi => exact sendWifi_served handled
  case sendServer => exact sendServer_served handled
  case sendCreds => exact sendCreds_served handled
  case setCert => exact setCert_served handled
  -- The others need no argument, and are always answered.
  all_goals
    cases handled
    exact ⟨rfl, nofun⟩

/-- An object whose handling comes to its end did to the service what its command does there, and an
object without an answer did nothing. -/
theorem processJsonCommand_served (handled : root.processJsonCommand prov nonce = .ok outcome) :
    outcome.1 = root.command.elim prov
        (fun name => prov.processJsonCommand nonce (root.provCommand name)) ∧
      (outcome.2 = none → outcome.1 = prov) := by
  rw [processJsonCommand_eq] at handled
  cases named : root.command with
  | none =>
    rw [named] at handled
    cases handled
    exact ⟨rfl, fun _ => rfl⟩
  | some name =>
    rw [named] at handled
    have served := handle_served handled
    exact ⟨served.service, served.unanswered⟩

end CJson

end Ykp.Firmware
