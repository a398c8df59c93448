import Ykp.Firmware.ProvisionAnswers
import Mathlib.Data.List.Forall2

/-! The texts of notifications: they stand for their fields, on one line, and no buffer cuts them. -/

namespace Ykp.Firmware

open Json

/-- Every notification but a list of networks is the text of its fields. -/
def Notification.IsScan : Notification → Prop
  | .scanResults _ => True
  | _ => False

instance : (notification : Notification) → Decidable notification.IsScan
  | .scanResults _ => .isTrue trivial
  | .bleReady _ | .pong | .stateReport _ _ _ | .scanAck _ | .wifiConnecting _ | .credsOk _ _ _
  | .rescan _ | .setCert _ _ _ | .commitAck _ | .reportAck _ | .commitOk _ | .validating
  | .wifiOk _ _ | .wifiFail | .scanTimeout | .sslProgress _ | .sslDone _ | .udpReady _ | .udpOk
  | .udpTimeout | .report _ _ _ _ _ => .isFalse id

/-- A text consists of at most sixteen hexadecimal digits. -/
def NonceText (text : Bytes) : Prop :=
  text.length ≤ 16 ∧ ∀ digit ∈ text, ∃ value < 16, digit = hexDigit value

/-- The nonce of a notification, if it has one, is empty or consists of sixteen digits. -/
def Notification.NonceWritten : Notification → Prop
  | .credsOk udpNonce _ _ => NonceText udpNonce
  | .udpReady udpNonce => NonceText udpNonce
  | _ => True

/-- Hexadecimal digits need no escapes, and are ASCII. -/
theorem NonceText.legible {text : Bytes} (written : NonceText text) :
    Plain text ∧ ∀ byte ∈ text, byte < 0x80 := by
  have digits : ∀ value < 16, special (hexDigit value) = false ∧ hexDigit value < 0x80 := by decide
  constructor <;> intro byte member <;> obtain ⟨value, small, rfl⟩ := written.2 byte member
  · exact (digits value small).1
  · exact (digits value small).2

section Sizes

/-- What a member takes in a text, with the comma or the brace behind it. -/
def fieldSize (member : Bytes × Json) : Nat := (renderMember member).length + 1

/-- The members of an object take their sizes. -/
theorem renderMembers_length {all : List (Bytes × Json)} (filled : all ≠ []) :
    (renderMembers all).length = (all.map fieldSize).sum := by
  induction all with
  | nil => exact absurd rfl filled
  | cons first rest ih =>
    cases rest with
    | nil => simp [renderMembers, fieldSize]
    | cons second others =>
      have later := ih (List.cons_ne_nil _ _)
      have shape : renderMembers (first :: second :: others) =
          renderMember first ++ comma :: renderMembers (second :: others) := by
        rw [renderMembers]
        simp
      have total : ((first :: second :: others).map fieldSize).sum =
          (renderMember first).length + 1 + ((second :: others).map fieldSize).sum := rfl
      rw [shape, List.length_append, List.length_cons, later, total]
      omega

/-- Members that are no longer make a text that is no longer. -/
theorem object_length_le {all others : List (Bytes × Json)}
    (shorter : List.Forall₂ (fun one other => fieldSize one ≤ fieldSize other) all others)
    (filled : all ≠ []) :
    (render (.object all)).length ≤ (render (.object others)).length := by
  have filled' : others ≠ [] := by
    rintro rfl
    cases shorter
    exact filled rfl
  have sums : (all.map fieldSize).sum ≤ (others.map fieldSize).sum := by
    clear filled filled'
    induction shorter with
    | nil => exact Nat.le_refl _
    | cons here _ ih =>
      simp only [List.map_cons, List.sum_cons]
      omega
  rw [render, render, List.length_cons, List.length_cons, renderMembers_length filled,
    renderMembers_length filled']
  omega

/-- A member with a string that needs no escapes. -/
theorem stringField_size (name : String) {text : Bytes} (plain : Plain text) :
    fieldSize (stringField name text) = (quoted (textBytes name)).length + text.length + 4 := by
  simp [fieldSize, stringField, renderMember, render, quoted_plain plain]
  omega

/-- A member with a number. -/
theorem numberField_size (name : String) (value : Int) :
    fieldSize (numberField name value) =
      (quoted (textBytes name)).length + (intText value).length + 2 := by
  simp [fieldSize, numberField, renderMember, render]
  omega

/-- Decimal digits need no escapes. -/
theorem decimalBytes_plain (value : Nat) : Plain (decimalBytes value) := by
  intro digit member
  have range := isDigit_iff.mp ((decimal_digits value).1 digit member)
  have other (byte : UInt8) (outside : byte.toNat < 0x30 ∨ 0x39 < byte.toNat) : digit ≠ byte := by
    rintro rfl
    omega
  simp only [special, Bool.or_eq_false_iff, decide_eq_false_iff_not, beq_eq_false_iff_ne,
    UInt8.lt_iff_toNat_lt]
  refine ⟨⟨?_, other _ (by decide)⟩, other _ (by decide)⟩
  have bound : (0x20 : UInt8).toNat = 0x20 := rfl
  omega

/-- A number below a power of ten has no more digits than its exponent. -/
theorem decimalBytes_length_lt {value digits : Nat} (positive : 0 < digits)
    (small : value < 10 ^ digits) : (decimalBytes value).length ≤ digits := by
  rw [decimalBytes, List.length_map]
  exact (Nat.length_toDigits_le_iff (by decide) positive).mpr small

/-- Each member takes no more than the other one with the same name. -/
theorem stringField_le (name : String) {text other : Bytes} (plain : Plain text) (plain' : Plain other)
    (shorter : text.length ≤ other.length) :
    fieldSize (stringField name text) ≤ fieldSize (stringField name other) := by
  rw [stringField_size name plain, stringField_size name plain']
  omega

theorem numberField_le (name : String) {value other : Int}
    (shorter : (intText value).length ≤ (intText other).length) :
    fieldSize (numberField name value) ≤ fieldSize (numberField name other) := by
  rw [numberField_size, numberField_size]
  omega

/-- An unsigned number is written with its digits. -/
theorem intText_natCast (value : Nat) : intText value = decimalBytes value := by
  unfold intText
  rw [if_neg (by omega)]
  rfl

end Sizes

/-- The widest notification of each kind. -/
def Notification.widest : Notification → Notification
  | .bleReady _ => .bleReady 0xFFFFFFFF
  | .stateReport _ _ _ => .stateReport .idle 0xFFFFFFFF 0xFFFFFFFF
  | .scanAck _ => .scanAck 0xFFFFFFFF
  | .wifiConnecting _ => .wifiConnecting 0xFFFFFFFF
  | .credsOk _ _ _ => .credsOk (List.replicate 16 0x30) 0xFFFFFFFF 0xFFFFFFFF
  | .rescan _ => .rescan 0xFFFFFFFF
  | .setCert _ _ _ => .setCert (-2147483648) false 0xFFFFFFFF
  | .commitAck _ => .commitAck 0xFFFFFFFF
  | .reportAck _ => .reportAck 0xFFFFFFFF
  | .commitOk _ => .commitOk 0xFFFFFFFF
  | .wifiOk _ _ => .wifiOk (some ⟨255, 255, 255, 255⟩) (-128)
  | .sslProgress _ => .sslProgress .failed
  | .sslDone _ => .sslDone .caFailedFallbackFailed
  | .udpReady _ => .udpReady (List.replicate 16 0x30)
  | .report _ _ _ _ _ =>
    .report 0xFFFFFFFF (-128) (some ⟨255, 255, 255, 255⟩) .caFailedFallbackFailed 65535
  | other => other

section Widest

/-- A sequence number, and a session id in its string, are no wider than the greatest ones. -/
theorem seqField_le (seq : UInt32) : fieldSize (seqField seq) ≤ fieldSize (seqField 0xFFFFFFFF) := by
  refine numberField_le "seq" ?_
  rw [intText_natCast]
  exact Nat.le_trans (sessionId_length seq) (by decide)

theorem sessionIdField_le (sessionId : UInt32) :
    fieldSize (sessionIdField sessionId) ≤ fieldSize (sessionIdField 0xFFFFFFFF) :=
  stringField_le "session_id" (decimalBytes_plain _) (decimalBytes_plain _)
    (Nat.le_trans (sessionId_length sessionId) (by decide))

/-- A signal strength is no wider than the weakest one. -/
theorem rssiField_le (name : String) (rssi : Int8) :
    fieldSize (numberField name rssi.toInt) ≤ fieldSize (numberField name (-128 : Int8).toInt) := by
  refine numberField_le name ?_
  have lower := rssi.le_toInt
  have upper := rssi.toInt_lt
  have digits : (decimal rssi.toInt.natAbs).length ≤ 3 :=
    decimalBytes_length_lt (by decide) (by omega)
  have widest : (intText (-128 : Int8).toInt).length = 4 := by decide
  rw [widest, intText]
  split
  · rw [List.length_cons]
    omega
  · omega

/-- An address is plain and no wider than the greatest one. -/
theorem ipText_written (ip : Option IpAddress) : Plain (ipText ip) ∧ (ipText ip).length ≤ 15 := by
  cases ip with
  | none => exact ⟨fun _ member => absurd member List.not_mem_nil, Nat.zero_le _⟩
  | some ip =>
    have digits (part : UInt8) : (decimalBytes part.toNat).length ≤ 3 :=
      decimalBytes_length_lt (by decide) (Nat.lt_trans part.toNat_lt (by decide))
    have point : Plain (textBytes ".") ∧ (textBytes ".").length = 1 := by decide +kernel
    have first := digits ip.first
    have second := digits ip.second
    have third := digits ip.third
    have fourth := digits ip.fourth
    constructor
    · intro byte member
      simp only [ipText, List.mem_append] at member
      rcases member with (((((one | dot) | two) | dot) | three) | dot) | four
      · exact decimalBytes_plain _ _ one
      · exact point.1 _ dot
      · exact decimalBytes_plain _ _ two
      · exact point.1 _ dot
      · exact decimalBytes_plain _ _ three
      · exact point.1 _ dot
      · exact decimalBytes_plain _ _ four
    · simp only [ipText, List.length_append, point.2]
      omega

theorem ipField_le (name : String) (ip : Option IpAddress) :
    fieldSize (stringField name (ipText ip)) ≤
      fieldSize (stringField name (ipText (some ⟨255, 255, 255, 255⟩))) :=
  stringField_le name (ipText_written ip).1 (ipText_written _).1
    (Nat.le_trans (ipText_written ip).2 (by decide))

/-- A result of the TLS checks is plain and no wider than the widest one. -/
theorem resultField_le (name : String) (result : SslResult) :
    fieldSize (textField name result.text) ≤
      fieldSize (textField name SslResult.caFailedFallbackFailed.text) := by
  have written : Plain (textBytes result.text) ∧ (textBytes result.text).length ≤ 25 := by
    cases result <;> decide +kernel
  exact stringField_le name written.1 (by decide +kernel) (Nat.le_trans written.2 (by decide))

/-- A nonce is no wider than sixteen digits. -/
theorem nonceField_le {udpNonce : Bytes} (written : NonceText udpNonce) :
    fieldSize (stringField "udp_nonce" udpNonce) ≤
      fieldSize (stringField "udp_nonce" (List.replicate 16 0x30)) :=
  stringField_le "udp_nonce" written.legible.1 (by decide +kernel) (by simpa using written.1)

/-- No notification is wider than the widest one of its kind. -/
theorem text_length_le_widest {notification : Notification} (nonce : notification.NonceWritten) :
    notification.text.length ≤ notification.widest.text.length := by
  -- Member by member; the fixed ones are the same.
  cases notification with
  | bleReady sessionId =>
    exact object_length_le (.cons (Nat.le_refl _) (.cons (sessionIdField_le sessionId)
      (.cons (Nat.le_refl _) .nil))) (List.cons_ne_nil _ _)
  | stateReport state sessionId seq =>
    have number : fieldSize (stringField "state" (decimalBytes state.code)) ≤
        fieldSize (stringField "state" (decimalBytes ProvState.idle.code)) := by
      refine stringField_le "state" (decimalBytes_plain _) (decimalBytes_plain _) ?_
      cases state <;> decide
    exact object_length_le (.cons (Nat.le_refl _) (.cons number (.cons (sessionIdField_le sessionId)
      (.cons (seqField_le seq) .nil)))) (List.cons_ne_nil _ _)
  | scanAck seq | rescan seq | reportAck seq =>
    exact object_length_le (.cons (Nat.le_refl _) (.cons (Nat.le_refl _) (.cons (seqField_le seq)
      .nil))) (List.cons_ne_nil _ _)
  | wifiConnecting seq | commitAck seq | commitOk seq =>
    exact object_length_le (.cons (Nat.le_refl _) (.cons (seqField_le seq) .nil))
      (List.cons_ne_nil _ _)
  | credsOk udpNonce sessionId seq =>
    exact object_length_le (.cons (Nat.le_refl _) (.cons (nonceField_le nonce)
      (.cons (sessionIdField_le sessionId) (.cons (seqField_le seq) .nil)))) (List.cons_ne_nil _ _)
  | setCert chunk ok seq =>
    have number : fieldSize (numberField "chunk" chunk.toInt) ≤
        fieldSize (numberField "chunk" (-2147483648 : Int32).toInt) := by
      refine numberField_le "chunk" ?_
      have lower := chunk.le_toInt
      have upper := chunk.toInt_lt
      have digits : (decimal chunk.toInt.natAbs).length ≤ 10 :=
        decimalBytes_length_lt (by decide) (by omega)
      have widest : (intText (-2147483648 : Int32).toInt).length = 11 := by decide
      rw [widest, intText]
      split
      · rw [List.length_cons]
        omega
      · omega
    have status : fieldSize (textField "status" (if ok then "ok" else "error")) ≤
        fieldSize (textField "status" "error") := by
      cases ok <;> decide +kernel
    exact object_length_le (.cons (Nat.le_refl _) (.cons number (.cons status
      (.cons (seqField_le seq) .nil)))) (List.cons_ne_nil _ _)
  | wifiOk ip rssi =>
    exact object_length_le (.cons (Nat.le_refl _) (.cons (ipField_le "ip" ip)
      (.cons (rssiField_le "rssi" rssi) (.cons (Nat.le_refl _) .nil)))) (List.cons_ne_nil _ _)
  | sslProgress ca => cases ca <;> decide +kernel
  | sslDone result =>
    exact object_length_le (.cons (Nat.le_refl _) (.cons (resultField_le "result" result) .nil))
      (List.cons_ne_nil _ _)
  | udpReady udpNonce =>
    exact object_length_le (.cons (Nat.le_refl _) (.cons (nonceField_le nonce) .nil))
      (List.cons_ne_nil _ _)
  | report sessionId rssi ip sslResult udpPort =>
    have port : fieldSize (numberField "udp_port" udpPort.toNat) ≤
        fieldSize (numberField "udp_port" (65535 : UInt16).toNat) := by
      refine numberField_le "udp_port" ?_
      rw [intText_natCast]
      have digits : (decimalBytes udpPort.toNat).length ≤ 5 :=
        decimalBytes_length_lt (by decide) (Nat.lt_trans udpPort.toNat_lt (by decide))
      exact Nat.le_trans digits (by decide)
    exact object_length_le (.cons (Nat.le_refl _) (.cons (Nat.le_refl _)
      (.cons (sessionIdField_le sessionId) (.cons (rssiField_le "wifi_rssi" rssi)
      (.cons (rssiField_le "wifi_rssi_avg" rssi) (.cons (Nat.le_refl _)
      (.cons (ipField_le "wifi_ip" ip) (.cons (resultField_le "ssl_status" sslResult)
      (.cons (Nat.le_refl _) (.cons port (.cons (Nat.le_refl _) (.cons (Nat.le_refl _)
      (.cons (Nat.le_refl _) .nil))))))))))))) (List.cons_ne_nil _ _)
  | _ => exact Nat.le_refl _

/-- The widest notification of all is a report. -/
theorem widest_length {notification : Notification} (other : ¬ notification.IsScan) :
    notification.widest.text.length ≤ 335 := by
  cases notification with
  | scanResults formatted => exact absurd trivial other
  | _ =>
    dsimp only [Notification.widest]
    decide +kernel

end Widest

/-- No field has a fraction. -/
theorem fields_exact (notification : Notification) :
    (Json.object notification.fields).Exact := by
  -- Texts, numbers, and one object of three truth values.
  rw [Exact]
  cases notification with
  | sslProgress ca =>
    cases ca <;> simp [Notification.fields, SslProgress.fields, textField, ExactMembers, ExactMember,
      Exact]
  | _ =>
    simp [Notification.fields, textField, stringField, numberField, sessionIdField, seqField,
      ExactMembers, ExactMember, Exact]

/-- Decimal digits are ASCII, and so are addresses. -/
theorem decimalBytes_ascii (value : Nat) : ∀ byte ∈ decimalBytes value, byte < 0x80 := by
  intro byte member
  have range := isDigit_iff.mp ((decimal_digits value).1 byte member)
  exact UInt8.lt_iff_toNat_lt.mpr (Nat.lt_of_le_of_lt range.2 (by decide))

theorem ipText_ascii (ip : Option IpAddress) : ∀ byte ∈ ipText ip, byte < 0x80 := by
  have point : ∀ byte ∈ textBytes ".", byte < 0x80 := by decide +kernel
  cases ip with
  | none => exact nofun
  | some ip =>
    simp only [ipText, List.forall_mem_append]
    exact ⟨⟨⟨⟨⟨⟨decimalBytes_ascii _, point⟩, decimalBytes_ascii _⟩, point⟩, decimalBytes_ascii _⟩,
      point⟩, decimalBytes_ascii _⟩

/-- All fields are ASCII. -/
theorem fields_ascii {notification : Notification} (nonce : notification.NonceWritten) :
    (Json.object notification.fields).Ascii := by
  -- The names and the fixed texts are, and what is filled in are digits.
  rw [Ascii]
  cases notification with
  | scanResults formatted => simp [Notification.fields, AsciiMembers]
  | sslProgress ca =>
    cases ca <;> simp only [Notification.fields, SslProgress.fields, textField, AsciiMembers,
      AsciiMember, Ascii] <;> decide +kernel
  | setCert chunk ok seq =>
    cases ok <;> simp only [Notification.fields, textField, numberField, seqField, AsciiMembers,
      AsciiMember, Ascii] <;> decide +kernel
  | sslDone result =>
    cases result <;> simp only [Notification.fields, textField, AsciiMembers, AsciiMember, Ascii] <;>
      decide +kernel
  | credsOk udpNonce sessionId seq =>
    simp only [Notification.fields, textField, stringField, sessionIdField, seqField, numberField,
      AsciiMembers, AsciiMember, Ascii]
    exact ⟨by decide +kernel, ⟨by decide +kernel, nonce.legible.2⟩,
      ⟨by decide +kernel, decimalBytes_ascii _⟩, by decide +kernel⟩
  | udpReady udpNonce =>
    simp only [Notification.fields, textField, stringField, AsciiMembers, AsciiMember, Ascii]
    exact ⟨by decide +kernel, ⟨by decide +kernel, nonce.legible.2⟩, trivial⟩
  | bleReady sessionId =>
    simp only [Notification.fields, textField, stringField, sessionIdField, numberField,
      AsciiMembers, AsciiMember, Ascii]
    exact ⟨by decide +kernel, ⟨by decide +kernel, decimalBytes_ascii _⟩, by decide +kernel⟩
  | stateReport state sessionId seq =>
    simp only [Notification.fields, textField, stringField, sessionIdField, seqField, numberField,
      AsciiMembers, AsciiMember, Ascii]
    exact ⟨by decide +kernel, ⟨by decide +kernel, decimalBytes_ascii _⟩,
      ⟨by decide +kernel, decimalBytes_ascii _⟩, by decide +kernel⟩
  | wifiOk ip rssi =>
    simp only [Notification.fields, textField, stringField, numberField, AsciiMembers, AsciiMember,
      Ascii]
    exact ⟨by decide +kernel, ⟨by decide +kernel, ipText_ascii ip⟩, by decide +kernel⟩
  | report sessionId rssi ip sslResult udpPort =>
    simp only [Notification.fields, textField, stringField, sessionIdField, numberField,
      AsciiMembers, AsciiMember, Ascii]
    refine ⟨by decide +kernel, by decide +kernel, ⟨by decide +kernel, decimalBytes_ascii _⟩,
      by decide +kernel, by decide +kernel, by decide +kernel, ⟨by decide +kernel, ipText_ascii ip⟩,
      ⟨by decide +kernel, ?_⟩, by decide +kernel⟩
    cases sslResult <;> decide +kernel
  | _ =>
    simp only [Notification.fields, textField, seqField, numberField, AsciiMembers, AsciiMember,
      Ascii]
    decide +kernel

/-- A notification that is no list of networks is the text of its fields. -/
theorem text_eq {notification : Notification} (other : ¬ notification.IsScan) :
    notification.text = render (.object notification.fields) := by
  cases notification with
  | scanResults formatted => exact absurd trivial other
  | _ => rfl

/-- It stands for its fields, in one line of at most 335 bytes. -/
theorem text_written {notification : Notification} (other : ¬ notification.IsScan)
    (nonce : notification.NonceWritten) :
    parse notification.text = some (.object notification.fields) ∧
      (∀ byte ∈ notification.text, Visible byte) ∧ notification.text.length ≤ 335 := by
  refine ⟨?_, ?_, Nat.le_trans (text_length_le_widest nonce) (widest_length other)⟩
  · rw [text_eq other]
    exact parse_render (fields_exact notification)
  · rw [text_eq other]
    exact render_visible (fields_exact notification) (fields_ascii nonce)

section Nonces

/-- The nonce of a session is empty or consists of sixteen digits. -/
def NonceKept (prov : Provision) : Prop :=
  NonceText prov.session.udpNonce

/-- Eight bytes are written with sixteen digits. -/
theorem hexString_written {bytes : Bytes} (eight : bytes.length = 8) :
    NonceText (hexString bytes) :=
  ⟨Nat.le_of_eq (by rw [hexString_length, eight]), fun _ member => digit_of_mem_hexString member⟩

/-- A command for the server renews the nonce. -/
theorem putServer_nonce (prov : Provision) (host : Bytes) (port : Int) (uport : Option Int)
    (nonce : Nat) : NonceKept (prov.putServer host port uport nonce) := by
  have joined : (prov.putServer host port uport nonce).session.udpNonce =
      hexString (BigEndian.writeU32 prov.session.sessionId ++ BigEndian.writeU32 nonce) := by
    simp [Provision.putServer, Provision.record, hexString]
  unfold NonceKept
  rw [joined]
  exact hexString_written (by simp)

/-- No task changes the nonce. -/
theorem advanceTask_nonce (prov : Provision) (position : Nat) (answer : NetworkAnswer)
    (task : ProvTask) :
    (prov.advanceTask position answer task).session.udpNonce = prov.session.udpNonce := by
  cases task with
  | wifiReturned ok => cases ok <;> rfl
  | validationCopied copies | validationJoins copies | sslStarts copies | sslStored copies result
  | udpWaits copies =>
    unfold Provision.advanceTask
    dsimp only
    split <;> rfl
  | _ => rfl

/-- No event spoils the nonce. -/
theorem provStep_nonce (prov : Provision) (input : ProvInput) (kept : NonceKept prov) :
    NonceKept (provStep prov input) := by
  cases input with
  | connect succeeded | clearCert =>
    unfold provStep
    dsimp only
    split <;> exact kept
  | disconnect =>
    unfold provStep
    dsimp only
    split
    · exact kept
    · exact ⟨Nat.zero_le _, fun _ member => absurd member List.not_mem_nil⟩
  | subscribe isTx curNotify =>
    unfold provStep
    dsimp only
    split <;> exact kept
  | command cmd nonce =>
    unfold provStep
    dsimp only
    split
    · -- Only the commands with a server draw a nonce.
      cases cmd with
      | sendWifi ssid psk =>
        unfold Provision.processJsonCommand
        dsimp only
        split <;> exact kept
      | sendServer host port uport =>
        unfold Provision.processJsonCommand
        dsimp only
        split
        · exact putServer_nonce _ _ _ _ _
        · exact kept
      | sendCreds ssid psk host port uport =>
        unfold Provision.processJsonCommand
        dsimp only
        split
        · exact putServer_nonce _ _ _ _ _
        · exact kept
      | setCert chunk data =>
        unfold Provision.processJsonCommand Provision.appendCert
        dsimp only
        split
        · -- Whether the chunk starts anew, and whether it has room.
          split <;> split <;> exact kept
        · exact kept
      | _ => exact kept
    · exact kept
  | finishCommit =>
    unfold provStep
    dsimp only
    split <;> exact kept
  | advance position answer =>
    unfold provStep
    dsimp only
    split
    · exact kept
    · unfold NonceKept
      rw [advanceTask_nonce]
      exact kept
  | gotIp => exact kept
  | staDisconnected => exact kept

/-- Where a notification has its nonce or its list of networks from. -/
def Notification.Grounded (prov : Provision) (env : AnswerEnv) : Notification → Prop
  | .credsOk udpNonce _ _ => NonceText udpNonce
  | .udpReady udpNonce => udpNonce = prov.session.udpNonce
  | .scanResults formatted =>
    formatted = formatScan prov.sessionId32 (wifiManagerScan scanBufSize env.scan)
  | _ => True

/-- The answer to a command has its nonce from what was just drawn. -/
theorem commandAnswers_grounded (prov : Provision) (nonce : Nat) (env : AnswerEnv)
    (cmd : ProvCommand) :
    ∀ answer ∈ prov.commandAnswers nonce env cmd, answer.Grounded prov env := by
  intro answer member
  unfold Provision.commandAnswers at member
  split at member
  case h_5 | h_6 =>
    -- The answers to a server.
    rw [List.mem_singleton.mp member]
    exact putServer_nonce _ _ _ _ _
  case h_11 => exact absurd member List.not_mem_nil
  all_goals
    rw [List.mem_singleton.mp member]
    trivial

/-- What a task queues has its nonce from the session, and its list from a scan. -/
theorem taskAnswers_grounded (prov : Provision) (env : AnswerEnv) (answer : NetworkAnswer)
    (task : ProvTask) :
    ∀ notification ∈ prov.taskAnswers env answer task, notification.Grounded prov env := by
  have one {notification : Notification} (grounded : notification.Grounded prov env) :
      ∀ other ∈ [notification], other.Grounded prov env := by simpa using grounded
  have none : ∀ other ∈ ([] : List Notification), other.Grounded prov env := by simp
  cases task with
  | wifiCopied ssid psk => exact one trivial
  | wifiReturned ok => cases ok <;> exact one trivial
  | scanStarts => exact one rfl
  | scanWaits | validationCopied copies | validationJoins copies =>
    unfold Provision.taskAnswers
    dsimp only
    split
    · exact none
    · exact one trivial
  | sslStarts copies =>
    unfold Provision.taskAnswers
    dsimp only
    refine List.forall_mem_cons.mpr ⟨trivial, ?_⟩
    split
    · split <;> exact one trivial
    · exact one trivial
  | sslStored copies result =>
    unfold Provision.taskAnswers
    dsimp only
    split
    · exact one trivial
    · exact List.forall_mem_cons.mpr ⟨trivial, one rfl⟩
  | udpMatched copies => exact one trivial
  | udpFailed => exact one trivial
  | reports copies => exact one trivial
  | _ => exact none

/-- Every answer has its nonce and its list of networks from there. -/
theorem answers_grounded (prov : Provision) (env : AnswerEnv) (input : ProvInput) :
    ∀ answer ∈ prov.answers env input, answer.Grounded prov env := by
  have none : ∀ other ∈ ([] : List Notification), other.Grounded prov env := by simp
  cases input with
  | command cmd nonce =>
    unfold Provision.answers
    dsimp only
    split
    · exact commandAnswers_grounded prov nonce env cmd
    · exact none
  | subscribe isTx curNotify =>
    unfold Provision.answers
    dsimp only
    split
    · exact List.forall_mem_singleton.mpr trivial
    · exact none
  | finishCommit =>
    unfold Provision.answers
    dsimp only
    split
    · exact List.forall_mem_singleton.mpr trivial
    · exact none
  | advance position answer =>
    unfold Provision.answers
    dsimp only
    split
    · exact none
    · exact taskAnswers_grounded prov env answer _
  | _ => exact none

/-- A nonce that has its grounds is written like the session's. -/
theorem Notification.Grounded.nonceWritten {prov : Provision} {env : AnswerEnv}
    {answer : Notification} (grounded : answer.Grounded prov env) (kept : NonceKept prov) :
    answer.NonceWritten := by
  cases answer with
  | credsOk udpNonce sessionId seq => exact grounded
  | udpReady udpNonce =>
    obtain rfl := grounded
    exact kept
  | _ => trivial

end Nonces

end Ykp.Firmware
