import Ykp.Firmware.NotificationTexts
import Ykp.System.Notifications

/-! The provisioning service and its notifications as one system: which of its answers the app handles. -/

namespace Ykp.System

open Firmware

/-- What happens at the device: an event of the service, or a turn of the notify task. -/
inductive ServiceEvent
  | service (input : ProvInput) (env : AnswerEnv)
  | notifyTask (allocated : Bool)

/-- The service after an event. -/
def serviceStep (prov : Provision) : ServiceEvent → Provision
  | .service input _ => provStep prov input
  | .notifyTask _ => prov

/-- What an event makes the service queue. -/
def ServiceEvent.answers (prov : Provision) : ServiceEvent → List Notification
  | .service input env => prov.answers env input
  | .notifyTask _ => []

/-- What an event means for the notifications; the host task handles no GAP event while it clears. -/
def notifyInputs (prov : Provision) : ServiceEvent → List NotifyInput
  | .notifyTask allocated => [.notifyTask allocated]
  | .service (.connect succeeded) _ => if prov.clearing then [] else [.connect succeeded]
  | .service .disconnect _ => if prov.clearing then [] else [.disconnect]
  | .service (.subscribe isTx curNotify) _ =>
    if prov.clearing then [] else [.subscribe isTx curNotify prov.sessionId32]
  | .service input env => (prov.answers env input).map fun answer => .enqueue answer.text

/-- The events of the notifications in a run of the service. -/
def serviceTrace : Provision → List ServiceEvent → List NotifyInput
  | _, [] => []
  | prov, event :: rest => notifyInputs prov event ++ serviceTrace (serviceStep prov event) rest

/-- All answers of a run. -/
def serviceAnswers : Provision → List ServiceEvent → List Notification
  | _, [] => []
  | prov, event :: rest => event.answers prov ++ serviceAnswers (serviceStep prov event) rest

/-- The answers of a run that are no longer queued. -/
def takenAnswers (prov : Provision) (events : List ServiceEvent) : List Notification :=
  let answers := serviceAnswers prov events
  answers.take (answers.length - (notifyRun (serviceTrace prov events)).notifyQueue.queue.length)

/-- No name of a network that a scan finds has a line end in it. -/
def ServiceEvent.NamesOnOneLine : ServiceEvent → Prop
  | .service _ env => ∀ aps allocated, env.scan = .found aps allocated → ∀ ap ∈ aps, 0x0A ∉ ap.ssid
  | .notifyTask _ => True

section Texts

/-- The message for a phone that has subscribed is a notification like the others. -/
theorem readyMessage_text (sessionId : UInt32) :
    readyMessage sessionId = (Notification.bleReady sessionId).text := by
  have digits := decimalBytes_plain sessionId.toNat
  have front : textBytes "\x7b\"status\":\"ble_ready\",\"session_id\":\"" =
      Json.openBrace :: (Json.quoted (textBytes "status") ++ Json.colon ::
        (Json.quoted (textBytes "ble_ready") ++ Json.comma ::
          (Json.quoted (textBytes "session_id") ++ [Json.colon, Json.quote]))) := by decide +kernel
  have back : textBytes "\",\"mtu\":512\x7d" =
      Json.quote :: Json.comma :: (Json.quoted (textBytes "mtu") ++ Json.colon ::
        (Json.intText 512 ++ [Json.closeBrace])) := by decide +kernel
  rw [readyMessage, front, back]
  simp [Notification.text, Notification.fields, textField, sessionIdField, stringField, numberField,
    Json.render, Json.renderMembers, Json.renderMember, Json.quoted_plain digits]

/-- The answers of an event are the messages it queues. -/
theorem notifyInputs_messages (prov : Provision) (event : ServiceEvent) :
    (notifyInputs prov event).flatMap NotifyInput.messages =
      (event.answers prov).map Notification.text := by
  have queued (answers : List Notification) :
      (answers.map fun answer => NotifyInput.enqueue answer.text).flatMap NotifyInput.messages =
        answers.map Notification.text := by
    induction answers with
    | nil => rfl
    | cons answer rest ih =>
      rw [List.map_cons, List.flatMap_cons, ih]
      rfl
  cases event with
  | notifyTask allocated => rfl
  | service input env =>
    cases input with
    | connect succeeded =>
      simp only [notifyInputs]
      split <;> rfl
    | disconnect =>
      simp only [notifyInputs]
      split <;> rfl
    | subscribe isTx curNotify =>
      -- A subscription is ignored while the session is cleared, or when it is switched off.
      simp only [notifyInputs, ServiceEvent.answers, Provision.answers]
      cases prov.clearing <;> cases isTx <;> cases curNotify <;>
        simp [NotifyInput.messages, readyMessage_text]
    | _ => exact queued _

/-- The answers of a run are the messages of its events. -/
theorem serviceTrace_messages (prov : Provision) (events : List ServiceEvent) :
    (serviceTrace prov events).flatMap NotifyInput.messages =
      (serviceAnswers prov events).map Notification.text := by
  induction events generalizing prov with
  | nil => rfl
  | cons event rest ih =>
    rw [serviceTrace, serviceAnswers, List.flatMap_append, notifyInputs_messages, ih, List.map_append]

end Texts

section Lists

/-- Decimal digits end no line. -/
theorem decimalBytes_lineFree (value : Nat) : (0x0A : UInt8) ∉ decimalBytes value :=
  fun member => absurd (decimalBytes_plain value _ member) (by decide)

/-- A network whose name has no line end is listed without one. -/
theorem scanEntry_lineFree {ap : ApRecord} (name : 0x0A ∉ ap.ssid) (last : Bool) :
    0x0A ∉ scanEntry ap last := by
  have texts : (0x0A : UInt8) ∉ textBytes "\x7b\"ssid\":\"" ∧
      (0x0A : UInt8) ∉ textBytes "\",\"rssi\":" ∧ (0x0A : UInt8) ∉ textBytes "\x7d" ∧
      (0x0A : UInt8) ∉ textBytes "," := by decide
  have number : (0x0A : UInt8) ∉ intBytes ap.rssi := by
    unfold intBytes
    split
    · simpa using decimalBytes_lineFree _
    · exact decimalBytes_lineFree _
  unfold scanEntry
  cases last <;> simp [texts, number, name]

/-- The entries that fit are listed without line end. -/
theorem scanEntries_lineFree (maxLen : Nat) {json : Bytes} {aps : List ApRecord}
    (start : 0x0A ∉ json) (names : ∀ ap ∈ aps, 0x0A ∉ ap.ssid) :
    0x0A ∉ scanEntries maxLen json aps := by
  induction aps generalizing json with
  | nil => exact start
  | cons ap rest ih =>
    have entry := scanEntry_lineFree (names ap List.mem_cons_self) rest.isEmpty
    rw [scanEntries]
    refine ih ?_ fun other member => names other (List.mem_cons_of_mem _ member)
    split
    · simpa using ⟨start, entry⟩
    · exact start

/-- A part of a text without line end has none. -/
theorem snprintf_lineFree {text : Bytes} (free : 0x0A ∉ text) (size : Nat) :
    0x0A ∉ snprintf size text := fun member => free (List.mem_of_mem_take member)

/-- A list of networks whose names have no line end has none. -/
theorem wifiManagerScan_lineFree (maxLen : Nat) {outcome : ScanOutcome}
    (names : ∀ aps allocated, outcome = .found aps allocated → ∀ ap ∈ aps, 0x0A ∉ ap.ssid) :
    0x0A ∉ wifiManagerScan maxLen outcome := by
  have texts : (0x0A : UInt8) ∉ emptyScan ∧ (0x0A : UInt8) ∉ textBytes "\x7b\"scan_results\":[" ∧
      (0x0A : UInt8) ∉ textBytes "]\x7d" := by decide
  cases outcome with
  | failed => exact snprintf_lineFree texts.1 _
  | found aps allocated =>
    simp only [wifiManagerScan]
    split
    · exact snprintf_lineFree texts.1 _
    · split
      · exact snprintf_lineFree texts.1 _
      · -- The entries that were kept, and the end of the list.
        rw [List.mem_append, not_or]
        refine ⟨scanEntries_lineFree _ (snprintf_lineFree texts.2.1 _) fun ap member => ?_,
          snprintf_lineFree texts.2.2 _⟩
        exact names aps allocated rfl ap (List.mem_of_mem_take member)

/-- What stands in front of a list of networks: a brace first, and no line end. -/
theorem scanPrefix_front (sessionId : UInt32) :
    (∃ rest, scanPrefix sessionId = 0x7B :: rest) ∧ 0x0A ∉ scanPrefix sessionId := by
  have texts : (0x0A : UInt8) ∉ textBytes "\x7b\"status\":\"scan_results\",\"session_id\":" ∧
      (0x0A : UInt8) ∉ textBytes ",\"networks\":" := by decide
  have start : textBytes "\x7b\"status\":\"scan_results\",\"session_id\":" =
      0x7B :: textBytes "\"status\":\"scan_results\",\"session_id\":" := by decide
  constructor
  · exact ⟨_, by rw [scanPrefix, start, List.cons_append, List.cons_append]⟩
  · simp [scanPrefix, texts, decimalBytes_lineFree]

/-- A list of networks as it is queued: a brace first, and no line end. -/
theorem formatScan_front (sessionId : UInt32) {scanBuf : Bytes} (free : 0x0A ∉ scanBuf) :
    (∃ rest, formatScan sessionId scanBuf = 0x7B :: rest) ∧
      0x0A ∉ formatScan sessionId scanBuf := by
  obtain ⟨⟨rest, start⟩, none⟩ := scanPrefix_front sessionId
  have formatted {array : Bytes} (free : 0x0A ∉ array) :
      (∃ rest, snprintf formattedScanBufSize (scanPrefix sessionId ++ array) = 0x7B :: rest) ∧
        0x0A ∉ snprintf formattedScanBufSize (scanPrefix sessionId ++ array) := by
    refine ⟨⟨_, by rw [snprintf, start]; rfl⟩, snprintf_lineFree ?_ _⟩
    simpa using ⟨none, free⟩
  unfold formatScan
  split
  · exact formatted (by decide)
  · exact formatted fun member => free ((List.dropWhile_sublist _).subset member)

end Lists

/-- A text that starts with a brace is not blank. -/
theorem lineText_brace (rest : Bytes) : lineText (0x7B :: rest) ≠ [] := by
  have decoded : utf8Decode (0x7B :: rest) = 0x7B :: utf8DecodeFrom .idle rest :=
    utf8DecodeFrom_ascii idle_reachable [] (by decide) rest
  have visible : isKotlinSpace 0x7B = false := by decide
  intro blank
  rw [lineText, decoded, kotlinTrim, List.dropWhile_cons_of_neg (by simp [visible]),
    List.reverse_eq_nil_iff, List.dropWhile_eq_nil_iff] at blank
  -- The brace itself is no white space.
  have space := blank 0x7B (by simp)
  rw [visible] at space
  cases space

/-- An answer is one line that is not blank, and its nonce is written in digits. -/
structure Answered (answer : Notification) : Prop where
  nonce : answer.NonceWritten
  oneLine : 0x0A ∉ answer.text
  filled : lineText answer.text ≠ []

/-- An answer of a service whose nonce is kept is one line, if the names of networks are. -/
theorem answered_of_grounded {prov : Provision} {env : AnswerEnv} {answer : Notification}
    (grounded : answer.Grounded prov env) (kept : NonceKept prov)
    (names : ∀ aps allocated, env.scan = .found aps allocated → ∀ ap ∈ aps, 0x0A ∉ ap.ssid) :
    Answered answer := by
  have nonce := grounded.nonceWritten kept
  by_cases scan : answer.IsScan
  · cases answer with
    | scanResults formatted =>
      obtain ⟨⟨rest, start⟩, free⟩ :=
        formatScan_front prov.sessionId32 (wifiManagerScan_lineFree scanBufSize names)
      obtain rfl := grounded
      refine ⟨nonce, free, ?_⟩
      rw [Notification.text, start]
      exact lineText_brace rest
    | _ => exact absurd scan id
  · obtain ⟨-, printable, -⟩ := text_written scan nonce
    refine ⟨nonce, fun member => absurd (printable _ member) (by decide), ?_⟩
    rw [text_eq scan, Json.render]
    exact lineText_brace _

/-- Every answer of a run is one line. -/
theorem serviceAnswers_answered {prov : Provision} (kept : NonceKept prov) {events : List ServiceEvent}
    (names : ∀ event ∈ events, event.NamesOnOneLine) :
    ∀ answer ∈ serviceAnswers prov events, Answered answer := by
  induction events generalizing prov with
  | nil => exact fun _ member => absurd member List.not_mem_nil
  | cons event rest ih =>
    have here := names event List.mem_cons_self
    have kept' : NonceKept (serviceStep prov event) := by
      cases event with
      | service input env => exact provStep_nonce prov input kept
      | notifyTask allocated => exact kept
    rw [serviceAnswers, List.forall_mem_append]
    refine ⟨?_, ih kept' fun other member => names other (List.mem_cons_of_mem _ member)⟩
    cases event with
    | service input env =>
      intro answer member
      exact answered_of_grounded (answers_grounded prov env input answer member) kept here
    | notifyTask allocated => exact fun _ member => absurd member List.not_mem_nil

/-- The messages that left the queue are the answers that did. -/
theorem takenMessages_answers (prov : Provision) (events : List ServiceEvent) :
    takenMessages (serviceTrace prov events) = (takenAnswers prov events).map Notification.text := by
  rw [takenMessages, takenAnswers, serviceTrace_messages, List.map_take, List.length_map]

/-- A phone connects and subscribes, and sends its first command; two messages have been taken. -/
def sampleService : List ServiceEvent :=
  [.service (.connect true) ⟨0, 0, none, .failed⟩, .service (.subscribe true true) ⟨0, 0, none, .failed⟩,
    .notifyTask true, .service (.command .ping 0) ⟨1, 0, none, .failed⟩, .notifyTask true,
    .service (.advance 0 ⟨true, true, none⟩) ⟨0, 0, none, .found [longNetwork] true⟩]

end Ykp.System
