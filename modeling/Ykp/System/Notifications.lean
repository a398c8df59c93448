import Ykp.Codec.Utf8Ascii
import Ykp.Firmware.Notify
import Ykp.Foundation.Lines

/-! Notifications on their way into the app: what the radio carries, and the lines the app handles. -/

namespace Ykp.System

open Firmware Lines

/-- The unit that ends a line. -/
abbrev lineEnd : Nat := 10

/-- The units the app trims: white space and the separators of Unicode. -/
def isKotlinSpace (unit : Nat) : Bool :=
  (9 ≤ unit && unit ≤ 13) || (0x1C ≤ unit && unit ≤ 0x20) || unit == 0xA0 || unit == 0x1680 ||
    (0x2000 ≤ unit && unit ≤ 0x200A) || unit == 0x2028 || unit == 0x2029 || unit == 0x202F ||
    unit == 0x205F || unit == 0x3000

/-- A text without white space at its ends. -/
def kotlinTrim (text : JsString) : JsString :=
  (text.dropWhile isKotlinSpace).reverse.dropWhile isKotlinSpace |>.reverse

/-- The lines that are handled: trimmed, and not empty then. -/
def handledLines (lines : List JsString) : List JsString :=
  (lines.map kotlinTrim).filter (· ≠ [])

/-- The app's buffer of notifications, and the lines it has handled, the oldest first. -/
structure NotificationReader where
  notificationBuffer : JsString
  lines : List JsString
  deriving DecidableEq, Repr

/-- The reader before the first notification. -/
def NotificationReader.start : NotificationReader := ⟨[], []⟩

/-- A notification is decoded by itself and appended; then all complete lines are taken. -/
def onCharacteristicChanged (reader : NotificationReader) (value : Bytes) : NotificationReader :=
  let notificationBuffer := reader.notificationBuffer ++ utf8Decode value
  if lineEnd ∈ notificationBuffer then
    { notificationBuffer := unfinished lineEnd notificationBuffer
      lines := reader.lines ++ handledLines (complete lineEnd notificationBuffer) }
  else { reader with notificationBuffer := notificationBuffer }

/-- A notification carries as much of a message as fits with its opcode and handle. -/
def carried (mtu : Nat) (message : Bytes) : Bytes := message.take (mtu - 3)

/-- The app's reader after the messages that were handed to the Bluetooth stack. -/
def received (mtu : Nat) (delivered : List Bytes) : NotificationReader :=
  Machine.run onCharacteristicChanged .start (delivered.map (carried mtu))

/-- The line the app should handle for a message. -/
def lineText (message : Bytes) : JsString := kotlinTrim (utf8Decode message)

/-- A message and its line end fit into the queue's buffer and into a notification. -/
def Fits (mtu : Nat) (message : Bytes) : Prop :=
  message.length + 1 < notifyMsgSize ∧ message.length + 1 ≤ mtu - 3

instance (mtu : Nat) (message : Bytes) : Decidable (Fits mtu message) :=
  inferInstanceAs (Decidable (_ ∧ _))

/-- Behind a buffer without line end, a notification completes the lines it ends. -/
theorem onCharacteristicChanged_feed {reader : NotificationReader}
    (free : lineEnd ∉ reader.notificationBuffer) (value : Bytes) :
    onCharacteristicChanged reader value =
      ⟨(feed lineEnd reader.notificationBuffer (utf8Decode value)).2,
        reader.lines ++
          handledLines (feed lineEnd reader.notificationBuffer (utf8Decode value)).1⟩ := by
  -- Feeding behind the buffer is feeding both at once.
  have both : feed lineEnd [] (reader.notificationBuffer ++ utf8Decode value) =
      feed lineEnd reader.notificationBuffer (utf8Decode value) := by
    rw [feed_append, feed_of_notMem free]
    rfl
  simp only [onCharacteristicChanged, complete, unfinished]
  split
  · rw [both]
  · rename_i none
    have absent := feed_of_notMem none []
    rw [both] at absent
    rw [absent]
    simp [handledLines]

/-- The lines handled are those of the decoded notifications, one behind the other. -/
theorem run_onCharacteristicChanged (values : List Bytes) :
    Machine.run onCharacteristicChanged .start values =
      ⟨unfinished lineEnd (values.flatMap utf8Decode),
        handledLines (complete lineEnd (values.flatMap utf8Decode))⟩ := by
  induction values using List.reverseRecOn with
  | nil => rfl
  | append_singleton earlier value ih =>
    -- The newest notification continues what the earlier ones left unfinished.
    rw [Machine.run_append, ih, Machine.run_cons, Machine.run_nil,
      onCharacteristicChanged_feed (notMem_unfinished _ _), List.flatMap_append,
      List.flatMap_singleton, unfinished_append, complete_append]
    simp [handledLines]

/-- The text that reaches the app of a message. -/
def arrivingText (mtu : Nat) (message : Bytes) : JsString :=
  utf8Decode (carried mtu (bleNotifyEnqueue message))

/-- A message that fits reaches the app with its line end. -/
theorem arrivingText_fits {mtu : Nat} {message : Bytes} (fits : Fits mtu message) :
    arrivingText mtu message = utf8Decode message ++ [lineEnd] := by
  have length : (message ++ [(0x0A : UInt8)]).length = message.length + 1 := by simp
  rw [arrivingText, bleNotifyEnqueue, snprintf_fits (by rw [length]; exact fits.1), carried,
    List.take_of_length_le (by rw [length]; exact fits.2), utf8Decode_line]

/-- A message that does not fit loses its line end. -/
theorem arrivingText_cut {mtu : Nat} {message : Bytes} (oneLine : 0x0A ∉ message)
    (long : ¬ Fits mtu message) : lineEnd ∉ arrivingText mtu message := by
  -- What is left is a part of the message, as the line end is its last byte.
  have part : carried mtu (bleNotifyEnqueue message) =
      message.take (min (mtu - 3) (notifyMsgSize - 1)) := by
    rw [carried, bleNotifyEnqueue, snprintf, List.take_take,
      List.take_append_of_le_length (by unfold Fits at long; omega)]
  rw [arrivingText, part]
  exact utf8Decode_lineFree fun inside => oneLine (List.mem_of_mem_take inside)

/-- A message of one line brings a line end exactly when it fits. -/
theorem arrivingText_count {mtu : Nat} {message : Bytes} (oneLine : 0x0A ∉ message) :
    (arrivingText mtu message).count lineEnd = if Fits mtu message then 1 else 0 := by
  split
  · rename_i fits
    rw [arrivingText_fits fits, List.count_append,
      List.count_eq_zero_of_not_mem (utf8Decode_lineFree oneLine)]
    rfl
  · rename_i long
    exact List.count_eq_zero_of_not_mem (arrivingText_cut oneLine long)

/-- The stream of queued messages as it reaches the app. -/
theorem received_queued (mtu : Nat) (messages : List Bytes) :
    (received mtu (messages.map bleNotifyEnqueue)).lines =
      handledLines (complete lineEnd (messages.flatMap (arrivingText mtu))) := by
  rw [received, run_onCharacteristicChanged, List.map_map, List.flatMap_map]
  rfl

/-- No more lines are handled than messages fit. -/
theorem received_length_le {mtu : Nat} {messages : List Bytes}
    (oneLine : ∀ message ∈ messages, 0x0A ∉ message) :
    (received mtu (messages.map bleNotifyEnqueue)).lines.length ≤
      messages.countP fun message => decide (Fits mtu message) := by
  rw [received_queued]
  refine Nat.le_trans (List.length_filter_le _ _) ?_
  rw [List.length_map, complete, feed_count]
  -- The line ends are counted message by message.
  induction messages with
  | nil => exact Nat.le_refl _
  | cons message rest ih =>
    have others := ih fun other member => oneLine other (List.mem_cons_of_mem _ member)
    rw [List.flatMap_cons, List.count_append, arrivingText_count (oneLine _ List.mem_cons_self),
      List.countP_cons]
    simp only [decide_eq_true_eq]
    omega

/-- Messages that all fit complete one line each. -/
theorem complete_fits {mtu : Nat} {messages : List Bytes}
    (oneLine : ∀ message ∈ messages, 0x0A ∉ message) (fits : ∀ message ∈ messages, Fits mtu message) :
    complete lineEnd (messages.flatMap (arrivingText mtu)) = messages.map utf8Decode := by
  induction messages with
  | nil => rfl
  | cons message rest ih =>
    have others := ih (fun other member => oneLine other (List.mem_cons_of_mem _ member))
      fun other member => fits other (List.mem_cons_of_mem _ member)
    have line := feed_line (utf8Decode_lineFree (oneLine _ List.mem_cons_self)) []
      (rest.flatMap (arrivingText mtu))
    rw [List.flatMap_cons, arrivingText_fits (fits _ List.mem_cons_self), List.append_assoc,
      List.singleton_append, complete, line, others]
    rfl

/-- Messages that all fit, and none of which is blank, are handled one by one. -/
theorem received_fits {mtu : Nat} {messages : List Bytes}
    (oneLine : ∀ message ∈ messages, 0x0A ∉ message)
    (filled : ∀ message ∈ messages, lineText message ≠ [])
    (fits : ∀ message ∈ messages, Fits mtu message) :
    (received mtu (messages.map bleNotifyEnqueue)).lines = messages.map lineText := by
  rw [received_queued, complete_fits oneLine fits, handledLines, List.map_map]
  refine List.filter_eq_self.mpr fun line member => ?_
  obtain ⟨message, among, rfl⟩ := List.mem_map.mp member
  exact decide_eq_true (filled message among)

/-- The messages of a run that are no longer in the queue. -/
def takenMessages (inputs : List NotifyInput) : List Bytes :=
  let messages := inputs.flatMap NotifyInput.messages
  messages.take (messages.length - (notifyRun inputs).notifyQueue.queue.length)

/-- Without loss, what was delivered are the messages that are no longer in the queue. -/
theorem delivered_of_lossless {inputs : List NotifyInput}
    (lossless : (notifyRun inputs).notifyQueue.Lossless) :
    (notifyRun inputs).notifyQueue.delivered = (takenMessages inputs).map bleNotifyEnqueue := by
  unfold Mailbox.Lossless at lossless
  rw [notifyRun_offered] at lossless
  have count := congrArg List.length lossless
  rw [List.length_append, List.length_map] at count
  -- The delivered ones are as many of the first as are not waiting.
  rw [takenMessages, List.map_take, ← lossless]
  exact (List.take_left' (by omega)).symm

/-- In every run, the app has handled exactly the messages that are no longer queued, each as a line of
its own, exactly when none met a full queue, none was taken for nobody, and each of them fits. -/
theorem notifications_arrive_iff (mtu : Nat) (inputs : List NotifyInput)
    (oneLine : ∀ message ∈ inputs.flatMap NotifyInput.messages, 0x0A ∉ message)
    (filled : ∀ message ∈ inputs.flatMap NotifyInput.messages, lineText message ≠ []) :
    (received mtu (notifyRun inputs).notifyQueue.delivered).lines =
        (takenMessages inputs).map lineText ↔
      Machine.Always notifyStep (fun channel input => input.Keeps channel) .start inputs ∧
        ∀ message ∈ takenMessages inputs, Fits mtu message := by
  have sound := notifyRun_sound inputs
  have taken {message : Bytes} (member : message ∈ takenMessages inputs) :
      message ∈ inputs.flatMap NotifyInput.messages := List.mem_of_mem_take member
  rw [← notifyRun_lossless_iff]
  constructor
  · intro arrives
    -- As many lines were handled as messages left the queue, so none of these was lost.
    have offered := notifyRun_offered inputs
    obtain ⟨kept, within, layout⟩ := List.sublist_map_iff.mp (offered ▸ sound.delivered)
    have fitting (messages : List Bytes) :
        messages.countP (fun message => decide (Fits mtu message)) ≤ messages.length :=
      List.countP_le_length
    have handled := @received_length_le mtu kept fun message member =>
      oneLine message (within.subset member)
    rw [← layout, arrives, List.length_map] at handled
    have count := sound.ordered.length_le
    have least := fitting kept
    have many : (takenMessages inputs).length = (inputs.flatMap NotifyInput.messages).length -
        (notifyRun inputs).notifyQueue.queue.length := by
      rw [takenMessages, List.length_take]
      omega
    rw [List.length_append, offered, layout, List.length_map, List.length_map] at count
    have lossless : (notifyRun inputs).notifyQueue.Lossless := by
      refine sound.ordered.eq_of_length ?_
      rw [List.length_append, offered, layout, List.length_map, List.length_map]
      omega
    refine ⟨lossless, ?_⟩
    -- Each of these messages has to bring its line end.
    rw [delivered_of_lossless lossless] at arrives
    have ends := @received_length_le mtu (takenMessages inputs) fun message member =>
      oneLine message (taken member)
    rw [arrives, List.length_map] at ends
    have all := List.countP_eq_length.mp (Nat.le_antisymm (fitting _) ends)
    exact fun message member => of_decide_eq_true (all message member)
  · rintro ⟨lossless, fits⟩
    rw [delivered_of_lossless lossless]
    exact received_fits (fun message member => oneLine message (taken member))
      (fun message member => filled message (taken member)) fits

/-- A phone subscribes, and the answer to its first command is still waiting. -/
def sampleNotifications : List NotifyInput :=
  [.connect true, .subscribe true true 7, .enqueue (textBytes "\x7b\"cmd\":\"pong\"\x7d"),
    .notifyTask true]

theorem notifications_arrive_sample :
    (received 512 (notifyRun sampleNotifications).notifyQueue.delivered).lines =
        (takenMessages sampleNotifications).map lineText ↔
      Machine.Always notifyStep (fun channel input => input.Keeps channel) .start
          sampleNotifications ∧
        ∀ message ∈ takenMessages sampleNotifications, Fits 512 message :=
  notifications_arrive_iff 512 sampleNotifications (by decide +kernel) (by decide +kernel)

end Ykp.System
