import Ykp.Firmware.WifiScan
import Ykp.Foundation.Machine
import Ykp.Foundation.Mailbox

/-! Notifications of the provisioning service: the queue, the task that empties it, and the phone. -/

namespace Ykp.Firmware

/-- Messages the queue has room for. -/
abbrev notifyQueueLen : Nat := 4

/-- The queue of notifications, and the event bits about the phone. What is delivered is what was
handed to the Bluetooth stack. -/
structure NotifyChannel where
  notifyQueue : Mailbox Bytes
  bleConnected : Bool
  notifyEnabled : Bool
  deriving DecidableEq, Repr

/-- What concerns the notifications. -/
inductive NotifyInput
  /-- Some task queues a message. -/
  | enqueue (message : Bytes)
  /-- The notify task takes a message; there is memory for it or not. -/
  | notifyTask (allocated : Bool)
  /-- GAP events; a subscription is for a characteristic, and on or off. -/
  | connect (succeeded : Bool)
  | disconnect
  | subscribe (isTx curNotify : Bool) (sessionId : UInt32)
  deriving DecidableEq, Repr

namespace NotifyChannel

/-- The channel before a phone has connected. -/
def start : NotifyChannel := ⟨.empty, false, false⟩

/-- A message is queued with its line end, unless the queue is full. -/
def enqueue (channel : NotifyChannel) (message : Bytes) : NotifyChannel :=
  { channel with
    notifyQueue := channel.notifyQueue.offer notifyQueueLen (bleNotifyEnqueue message) }

end NotifyChannel

/-- The message for a phone that has subscribed. -/
def readyMessage (sessionId : UInt32) : Bytes :=
  textBytes "\x7b\"status\":\"ble_ready\",\"session_id\":\"" ++ decimalBytes sessionId.toNat ++
    textBytes "\",\"mtu\":512\x7d"

/-- An event of the channel. -/
def notifyStep (channel : NotifyChannel) : NotifyInput → NotifyChannel
  | .enqueue message => channel.enqueue message
  | .notifyTask allocated =>
    -- A message for a phone that is gone, or has not subscribed, is taken and dropped.
    { channel with
      notifyQueue := channel.notifyQueue.take
        (channel.bleConnected && channel.notifyEnabled && allocated) }
  | .connect succeeded => if succeeded then { channel with bleConnected := true } else channel
  | .disconnect => { channel with bleConnected := false, notifyEnabled := false }
  | .subscribe isTx curNotify sessionId =>
    if isTx ∧ curNotify then
      { channel with notifyEnabled := true }.enqueue (readyMessage sessionId)
    else channel

/-- The channel after a list of events since the service was started. -/
def notifyRun (inputs : List NotifyInput) : NotifyChannel :=
  Machine.run notifyStep .start inputs

/-- The messages an event queues. -/
def NotifyInput.messages : NotifyInput → List Bytes
  | .enqueue message => [message]
  | .subscribe isTx curNotify sessionId =>
    if isTx ∧ curNotify then [readyMessage sessionId] else []
  | _ => []

/-- An event neither meets a full queue with its messages, nor takes a message for nobody. -/
def NotifyInput.Keeps (channel : NotifyChannel) (input : NotifyInput) : Prop :=
  (input.messages ≠ [] → channel.notifyQueue.queue.length < notifyQueueLen) ∧
    ∀ allocated, input = .notifyTask allocated → channel.notifyQueue.queue ≠ [] →
      channel.bleConnected = true ∧ channel.notifyEnabled = true ∧ allocated = true

/-- An event offers its messages, in the form in which they are queued. -/
theorem notifyStep_offered (channel : NotifyChannel) (input : NotifyInput) :
    (notifyStep channel input).notifyQueue.offered =
      channel.notifyQueue.offered ++ input.messages.map bleNotifyEnqueue := by
  cases input with
  | enqueue message => rfl
  | notifyTask allocated =>
    simp only [notifyStep, NotifyInput.messages, List.map_nil, List.append_nil]
    unfold Mailbox.take
    split <;> rfl
  | connect succeeded =>
    cases succeeded <;> simp [notifyStep, NotifyInput.messages]
  | disconnect => simp [notifyStep, NotifyInput.messages]
  | subscribe isTx curNotify sessionId =>
    simp only [notifyStep, NotifyInput.messages]
    split
    · rfl
    · simp

/-- No event makes the queue unsound. -/
theorem notifyStep_sound (channel : NotifyChannel) (input : NotifyInput)
    (sound : channel.notifyQueue.Sound notifyQueueLen) :
    (notifyStep channel input).notifyQueue.Sound notifyQueueLen := by
  cases input with
  | enqueue message => exact sound.offer _
  | notifyTask allocated => exact sound.take _
  | connect succeeded => cases succeeded <;> exact sound
  | disconnect => exact sound
  | subscribe isTx curNotify sessionId =>
    simp only [notifyStep]
    split
    · exact sound.offer _
    · exact sound

/-- An event loses nothing exactly when nothing was lost before and it keeps what it touches. -/
theorem notifyStep_lossless_iff (channel : NotifyChannel) (input : NotifyInput)
    (sound : channel.notifyQueue.Sound notifyQueueLen) :
    (notifyStep channel input).notifyQueue.Lossless ↔
      channel.notifyQueue.Lossless ∧ input.Keeps channel := by
  cases input with
  | enqueue message =>
    simp [notifyStep, NotifyChannel.enqueue, Mailbox.offer_lossless_iff sound, NotifyInput.Keeps,
      NotifyInput.messages]
  | notifyTask allocated =>
    -- A message is dropped when one of the three conditions fails.
    simp only [notifyStep, Mailbox.take_lossless_iff sound, NotifyInput.Keeps,
      NotifyInput.messages, Bool.and_eq_true]
    refine and_congr_right fun _ => ⟨fun taken => ⟨fun none => absurd rfl none, ?_⟩, ?_⟩
    · rintro same ⟨rfl⟩ waiting
      obtain ⟨⟨connected, enabled⟩, memory⟩ := taken.resolve_left waiting
      exact ⟨connected, enabled, memory⟩
    · rintro ⟨-, delivers⟩
      refine or_iff_not_imp_left.mpr fun waiting => ?_
      obtain ⟨connected, enabled, memory⟩ := delivers allocated rfl waiting
      exact ⟨⟨connected, enabled⟩, memory⟩
  | connect succeeded =>
    cases succeeded <;> simp [notifyStep, NotifyInput.Keeps, NotifyInput.messages]
  | disconnect => simp [notifyStep, NotifyInput.Keeps, NotifyInput.messages]
  | subscribe isTx curNotify sessionId =>
    simp only [notifyStep, NotifyInput.Keeps, NotifyInput.messages]
    split
    · rw [NotifyChannel.enqueue, Mailbox.offer_lossless_iff sound]
      simp
    · simp

/-- The queue is sound whatever happens. -/
theorem notifyRun_sound (inputs : List NotifyInput) :
    (notifyRun inputs).notifyQueue.Sound notifyQueueLen :=
  Machine.invariant_reached (fun channel input sound => notifyStep_sound channel input sound) inputs
    Mailbox.empty_sound

/-- What was offered are the messages of the events, in order. -/
theorem notifyRun_offered (inputs : List NotifyInput) :
    (notifyRun inputs).notifyQueue.offered =
      (inputs.flatMap NotifyInput.messages).map bleNotifyEnqueue := by
  -- Each event appends its own messages.
  have general (channel : NotifyChannel) :
      (Machine.run notifyStep channel inputs).notifyQueue.offered =
        channel.notifyQueue.offered ++
          (inputs.flatMap NotifyInput.messages).map bleNotifyEnqueue := by
    induction inputs generalizing channel with
    | nil => simp
    | cons input rest ih =>
      rw [Machine.run_cons, ih, notifyStep_offered, List.flatMap_cons, List.map_append,
        List.append_assoc]
  exact (general .start).trans (List.nil_append _)

/-- Nothing is lost in a run exactly when each event keeps what it touches. -/
theorem notifyRun_lossless_iff (inputs : List NotifyInput) :
    (notifyRun inputs).notifyQueue.Lossless ↔
      Machine.Always notifyStep (fun channel input => input.Keeps channel) .start inputs := by
  have run := @Machine.always_iff_run NotifyChannel NotifyInput notifyStep .start
    (fun channel => channel.notifyQueue.Sound notifyQueueLen)
    (fun channel => channel.notifyQueue.Lossless) (fun channel input => input.Keeps channel)
    notifyStep_sound notifyStep_lossless_iff inputs Mailbox.empty_sound
  exact run.trans (and_iff_right rfl)

end Ykp.Firmware
