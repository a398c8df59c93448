import Ykp.Backend.Handlers
import Ykp.Codec.Digits
import Ykp.Foundation.JsonText

/-! The live stream: the server's events, and the browsers that are told those of their user's devices. -/

namespace Ykp.Backend

/-- A request for the stream, and the account it is made for. -/
abbrev StreamId := Nat
abbrev UserId := Nat

/-- What the server announces. -/
inductive LiveEvent
  | stateChanged (deviceId : JsString) (relayState : Bool)
  | presenceChanged (deviceId : JsString) (isOnline : Bool)
  deriving DecidableEq, Repr

def LiveEvent.deviceId : LiveEvent → JsString
  | .stateChanged deviceId _ => deviceId
  | .presenceChanged deviceId _ => deviceId

/-- What is written to a stream. -/
inductive StreamMessage
  | connected (timestamp : Nat)
  | event (event : LiveEvent)
  | ping
  deriving DecidableEq, Repr

/-- A member that holds a text. -/
def textMember (name : String) (text : Bytes) : Bytes × Json := (textBytes name, .string text)

/-- A message as an object. -/
def StreamMessage.json : StreamMessage → Json
  | .connected timestamp =>
    .object [textMember "type" (textBytes "CONNECTED"), (textBytes "timestamp", .int timestamp)]
  | .event (.stateChanged deviceId relayState) =>
    .object [textMember "type" (textBytes "DEVICE_STATE_CHANGED"),
      textMember "deviceId" (utf8Encode deviceId), (textBytes "relay_state", .bool relayState)]
  | .event (.presenceChanged deviceId isOnline) =>
    .object [textMember "type" (textBytes "DEVICE_PRESENCE_CHANGED"),
      textMember "deviceId" (utf8Encode deviceId), (textBytes "is_online", .bool isOnline)]
  | .ping => .object [textMember "type" (textBytes "PING")]

/-- A message as it is written. -/
def StreamMessage.text (message : StreamMessage) : Bytes :=
  textBytes "data: " ++ message.json.render ++ [0x0A, 0x0A]

/-- How far a request has come. The set of devices is looked up once, before the stream begins. -/
inductive StreamPhase
  /-- The database looks the devices up, and has found them or not yet. -/
  | fetching (rows : Option (List JsString))
  /-- The stream has begun; its listeners and its timer are registered until it is closed. -/
  | begun (userDevices : List JsString) (registered : Bool)
  deriving DecidableEq, Repr

/-- A request for the stream. The messages behind what was written are not in the code. -/
structure EventClient where
  userId : UserId
  phase : StreamPhase
  /-- Whether the connection of the request stands. -/
  connected : Bool
  written : Bytes
  messages : List StreamMessage
  deriving DecidableEq, Repr

namespace EventClient

/-- A request that was just made. -/
def request (userId : UserId) : EventClient := ⟨userId, .fetching none, true, [], []⟩

/-- The response takes a message, unless the connection is gone. -/
def write (client : EventClient) (message : StreamMessage) : EventClient :=
  if client.connected then
    { client with
      written := client.written ++ message.text
      messages := client.messages ++ [message] }
  else client

/-- An event meets the listeners of a request. -/
def onEvent (client : EventClient) (event : LiveEvent) : EventClient :=
  match client.phase with
  | .begun userDevices true =>
    if event.deviceId ∈ userDevices then client.write (.event event) else client
  | _ => client

/-- The database has read the devices. -/
def read (client : EventClient) (rows : List JsString) : EventClient :=
  match client.phase with
  | .fetching none => { client with phase := .fetching (some rows) }
  | _ => client

/-- The handler goes on with the devices, or with none when they could not be looked up. -/
def begin (client : EventClient) (ok : Bool) (now : Nat) : EventClient :=
  match client.phase with
  | .fetching rows =>
    match ok, rows with
    | true, none => client
    | true, some devices => { client.write (.connected now) with phase := .begun devices true }
    | false, _ => { client.write (.connected now) with phase := .begun [] true }
  | .begun _ _ => client

/-- The timer of a stream fires. -/
def heartbeat (client : EventClient) : EventClient :=
  match client.phase with
  | .begun _ true => client.write .ping
  | _ => client

/-- The connection is closed. Nobody is told of it before the stream has begun. -/
def close (client : EventClient) : EventClient :=
  if client.connected then
    match client.phase with
    | .begun userDevices _ =>
      { client with
        connected := false
        phase := .begun userDevices false }
    | .fetching _ => { client with connected := false }
  else client

end EventClient

/-- The server with its database of devices, its streams, and the acknowledgements whose state is being
stored. The events emitted so far, the oldest first, are not in the code. -/
structure LiveServer where
  server : Server
  devices : List (JsString × UserId)
  streams : StreamId → Option EventClient
  acks : List LiveEvent
  emitted : List LiveEvent

/-- The server before any request. -/
def startLive : LiveServer := ⟨startServer, [], fun _ => none, [], []⟩

/-- The event of an acknowledgement that is handed to its service. -/
def relayEvent (event : ServerEvent) : Option LiveEvent := do
  let pkt ← dispatchedPacket event
  if Service.ofByte pkt.header.serviceId = some .relay ∧
      pkt.header.actionId = RelayAction.ack.byte then
    (handleRelayAck pkt).findSome? fun
      | .deviceStateChanged deviceId relayState => some (.stateChanged deviceId relayState)
      | _ => none
  else none

/-- The event of a device that was marked online or offline. -/
def presenceEvent : ServerEvent → Option LiveEvent
  | .presenceChanged deviceId isOnline => some (.presenceChanged deviceId isOnline)
  | _ => none

namespace LiveServer

/-- A change to a request. -/
def update (live : LiveServer) (id : StreamId) (change : EventClient → EventClient) : LiveServer :=
  { live with streams := Function.update live.streams id ((live.streams id).map change) }

/-- An event reaches every listener. -/
def emit (live : LiveServer) (event : LiveEvent) : LiveServer :=
  { live with
    streams := fun id => (live.streams id).map (·.onEvent event)
    emitted := live.emitted ++ [event] }

/-- Events one after the other. -/
def emitAll (live : LiveServer) (events : List LiveEvent) : LiveServer := events.foldl emit live

/-- The rows of the devices of a user. -/
def devicesOf (live : LiveServer) (userId : UserId) : List JsString :=
  (live.devices.filter (·.2 = userId)).map Prod.fst

end LiveServer

/-- What happens at the server. -/
inductive LiveInput
  | server (input : ServerInput)
  /-- The state of an acknowledgement is stored, or cannot be. -/
  | stored (position : Nat) (ok : Bool)
  /-- A device is given to a user, or to nobody. -/
  | own (deviceId : JsString) (userId : Option UserId)
  /-- A request passes the check of its token. -/
  | request (id : StreamId) (userId : UserId)
  /-- The database reads the devices of a request, and the handler goes on. -/
  | read (id : StreamId)
  | begin (id : StreamId) (ok : Bool) (now : Nat)
  | heartbeat (id : StreamId)
  | close (id : StreamId)

/-- One event. -/
def liveStep (crypto : ServerCrypto) (live : LiveServer) : LiveInput → LiveServer
  | .server input =>
    let server := serverStep crypto live.server input
    let newer := (History.newerThan live.server.log server.log).reverse
    { live with
      server := server
      acks := live.acks ++ newer.filterMap relayEvent }.emitAll (newer.filterMap presenceEvent)
  | .stored position ok =>
    match live.acks[position]? with
    | none => live
    | some event =>
      let live := { live with acks := live.acks.eraseIdx position }
      if ok then live.emit event else live
  | .own deviceId userId =>
    let others := live.devices.filter (·.1 ≠ deviceId)
    { live with devices := others ++ (userId.map fun user => (deviceId, user)).toList }
  | .request id userId =>
    match live.streams id with
    | none =>
      { live with streams := Function.update live.streams id (some (.request userId)) }
    | some _ => live
  | .read id => live.update id fun client => client.read (live.devicesOf client.userId)
  | .begin id ok now => live.update id (·.begin ok now)
  | .heartbeat id => live.update id (·.heartbeat)
  | .close id => live.update id (·.close)

/-- The server after a list of events. -/
def liveRun (crypto : ServerCrypto) (inputs : List LiveInput) : LiveServer :=
  Machine.run (liveStep crypto) startLive inputs

section Streams

variable {live : LiveServer}

/-- Events one after the other reach every listener. -/
theorem emitAll_eq (live : LiveServer) (events : List LiveEvent) :
    live.emitAll events =
      { live with
        streams := fun id => (live.streams id).map fun client => events.foldl (·.onEvent ·) client
        emitted := live.emitted ++ events } := by
  induction events generalizing live with
  | nil => simp [LiveServer.emitAll]
  | cons event rest ih =>
    have later := ih (live.emit event)
    rw [LiveServer.emitAll, List.foldl_cons, ← LiveServer.emitAll, later]
    simp [LiveServer.emit, Function.comp_def]

/-- The request that an event of the server makes. -/
def LiveInput.requested (id : StreamId) : LiveInput → Option EventClient
  | .request other userId => if other = id then some (.request userId) else none
  | _ => none

/-- What an event of the server does to a request, beside what it announces. -/
def LiveInput.onClient (live : LiveServer) (id : StreamId) (client : EventClient) :
    LiveInput → EventClient
  | .read other => if other = id then client.read (live.devicesOf client.userId) else client
  | .begin other ok now => if other = id then client.begin ok now else client
  | .heartbeat other => if other = id then client.heartbeat else client
  | .close other => if other = id then client.close else client
  | _ => client

theorem update_streams (live : LiveServer) (other id : StreamId)
    (change : EventClient → EventClient) :
    (live.update other change).streams id =
      (live.streams id).map fun client => if other = id then change client else client := by
  by_cases same : other = id
  · subst same
    simp [LiveServer.update]
  · have others : id ≠ other := fun same' => same same'.symm
    simp [LiveServer.update, Function.update_of_ne others, same]

/-- What one event does to the streams: it announces some events, and changes or makes one request. -/
theorem liveStep_streams (crypto : ServerCrypto) (live : LiveServer) (input : LiveInput) :
    ∃ events, (liveStep crypto live input).emitted = live.emitted ++ events ∧
      ∀ id, (liveStep crypto live input).streams id =
        ((live.streams id).map fun client =>
          input.onClient live id (events.foldl (·.onEvent ·) client)).or (input.requested id) := by
  cases input with
  | server input =>
    simp only [liveStep, emitAll_eq]
    exact ⟨_, rfl, fun id => by simp [LiveInput.onClient, LiveInput.requested]⟩
  | stored position ok =>
    simp only [liveStep]
    split
    · exact ⟨[], by simp, fun id => by simp [LiveInput.onClient, LiveInput.requested]⟩
    · rename_i event found
      cases ok with
      | true =>
        exact ⟨[event], rfl, fun id => by
          simp [LiveServer.emit, LiveInput.onClient, LiveInput.requested]⟩
      | false => exact ⟨[], by simp, fun id => by simp [LiveInput.onClient, LiveInput.requested]⟩
  | own deviceId userId =>
    exact ⟨[], by simp [liveStep], fun id => by
      simp [liveStep, LiveInput.onClient, LiveInput.requested]⟩
  | request other userId =>
    refine ⟨[], ?_, fun id => ?_⟩
    · simp only [liveStep]
      split <;> simp
    · simp only [liveStep, LiveInput.requested, LiveInput.onClient, List.foldl_nil, Option.map_id']
      by_cases same : other = id
      · subst same
        cases found : live.streams other <;> simp [found]
      · have others : id ≠ other := fun same' => same same'.symm
        split <;> simp [Function.update_of_ne others, same]
  | read other | begin other ok now | heartbeat other | close other =>
    refine ⟨[], by simp [liveStep, LiveServer.update], fun id => ?_⟩
    simp only [liveStep, update_streams, LiveInput.requested, LiveInput.onClient, List.foldl_nil,
      Option.or_none]

/-- A stream behind one event was one before, or was just requested. -/
theorem liveStep_found {crypto : ServerCrypto} {input : LiveInput} {id : StreamId}
    {after : EventClient} (found : (liveStep crypto live input).streams id = some after) :
    (∃ events client, live.streams id = some client ∧
        (liveStep crypto live input).emitted = live.emitted ++ events ∧
        after = input.onClient live id (events.foldl (·.onEvent ·) client)) ∨
      live.streams id = none ∧ ∃ userId, after = .request userId := by
  obtain ⟨events, emitted, streams⟩ := liveStep_streams crypto live input
  rw [streams id] at found
  cases before : live.streams id with
  | some client =>
    rw [before] at found
    exact .inl ⟨events, client, rfl, emitted, (Option.some.inj found).symm⟩
  | none =>
    rw [before] at found
    refine .inr ⟨rfl, ?_⟩
    cases input with
    | request other userId =>
      simp only [LiveInput.requested, Option.map_none, Option.none_or] at found
      split at found
      · exact ⟨userId, (Option.some.inj found).symm⟩
      · cases found
    | _ => cases found

end Streams

section Clients

variable (client : EventClient)

@[simp] theorem write_phase (message : StreamMessage) :
    (client.write message).phase = client.phase := by
  unfold EventClient.write
  split <;> rfl

@[simp] theorem write_connected (message : StreamMessage) :
    (client.write message).connected = client.connected := by
  unfold EventClient.write
  split <;> rfl

/-- Events change neither how far a request has come nor its connection. -/
theorem onEvent_same (event : LiveEvent) :
    (client.onEvent event).phase = client.phase ∧
      (client.onEvent event).connected = client.connected := by
  unfold EventClient.onEvent
  split
  · split <;> simp
  · exact ⟨rfl, rfl⟩

theorem foldl_onEvent_same (events : List LiveEvent) :
    (events.foldl (·.onEvent ·) client).phase = client.phase ∧
      (events.foldl (·.onEvent ·) client).connected = client.connected := by
  induction events generalizing client with
  | nil => exact ⟨rfl, rfl⟩
  | cons event rest ih =>
    have here := onEvent_same client event
    have later := ih (client.onEvent event)
    exact ⟨later.1.trans here.1, later.2.trans here.2⟩

theorem heartbeat_same :
    client.heartbeat.phase = client.phase ∧ client.heartbeat.connected = client.connected := by
  unfold EventClient.heartbeat
  split <;> simp

end Clients

section Listeners

variable {live : LiveServer}

/-- Listeners and a timer that nothing removes: the connection was gone when they were registered. -/
def EventClient.Left (client : EventClient) : Prop :=
  client.connected = false ∧ ∃ userDevices, client.phase = .begun userDevices true

/-- No stream has left any. -/
def LiveServer.NothingLeft (live : LiveServer) : Prop :=
  ∀ id client, live.streams id = some client → ¬ client.Left

/-- The handler of a request can go on. -/
def EventClient.Begins (client : EventClient) (ok : Bool) : Prop :=
  ∃ rows, client.phase = .fetching rows ∧ (ok = true → rows ≠ none)

/-- A handler only goes on while the connection of its request stands. -/
def BeginsConnected (live : LiveServer) : LiveInput → Prop
  | .begin id ok _ => ∀ client, live.streams id = some client → client.Begins ok → client.connected
  | _ => True

theorem left_congr {client other : EventClient}
    (same : client.phase = other.phase ∧ client.connected = other.connected) :
    client.Left ↔ other.Left := by
  rw [EventClient.Left, EventClient.Left, same.1, same.2]

theorem left_read (client : EventClient) (rows : List JsString) :
    (client.read rows).Left ↔ client.Left := by
  unfold EventClient.read
  split
  · rename_i fetching
    simp [EventClient.Left, fetching]
  · exact Iff.rfl

/-- Closing leaves nothing, unless the connection was gone before. -/
theorem left_close (client : EventClient) : client.close.Left ↔ client.Left := by
  unfold EventClient.close
  split
  · rename_i connected
    split <;> simp [EventClient.Left, *]
  · exact Iff.rfl

/-- Going on leaves something if the connection is gone. -/
theorem left_begin (client : EventClient) (ok : Bool) (now : Nat) :
    (client.begin ok now).Left ↔ client.Left ∨ client.Begins ok ∧ client.connected = false := by
  unfold EventClient.begin
  cases phase : client.phase with
  | begun userDevices registered => simp [EventClient.Left, EventClient.Begins, phase]
  | fetching rows =>
    cases ok with
    | false => simp [EventClient.Left, EventClient.Begins, phase]
    | true => cases rows <;> simp [EventClient.Left, EventClient.Begins, phase]

/-- One event leaves nothing exactly if nothing was left before and no handler goes on without a
connection. -/
theorem nothingLeft_step (crypto : ServerCrypto) (live : LiveServer) (input : LiveInput) :
    (liveStep crypto live input).NothingLeft ↔ live.NothingLeft ∧ BeginsConnected live input := by
  have streams := fun id client found => @liveStep_found live crypto input id client found
  obtain ⟨events, -, after⟩ := liveStep_streams crypto live input
  -- What a step does to a request, beside announcing events, decides.
  have one (id : StreamId) (client : EventClient) (found : live.streams id = some client) :
      (input.onClient live id (events.foldl (·.onEvent ·) client)).Left ↔
        client.Left ∨ ∃ ok now, input = .begin id ok now ∧ client.Begins ok ∧
          client.connected = false := by
    have same := foldl_onEvent_same client events
    have before := left_congr same
    cases input with
    | read other =>
      simp only [LiveInput.onClient]
      split <;> simp [left_read, before]
    | heartbeat other =>
      simp only [LiveInput.onClient]
      split
      · simp [left_congr (heartbeat_same _), before]
      · simp [before]
    | close other =>
      simp only [LiveInput.onClient]
      split <;> simp [left_close, before]
    | begin other ok now =>
      simp only [LiveInput.onClient]
      split
      · rename_i mine
        subst mine
        rw [left_begin, before, EventClient.Begins, same.1, same.2]
        simp [EventClient.Begins]
      · rename_i another
        simp [before, another]
    | server _ | stored _ _ | own _ _ | request _ _ => simp [LiveInput.onClient, before]
  constructor
  · intro nothing
    have kept (id : StreamId) (client : EventClient) (found : live.streams id = some client) :=
      nothing id _ (by rw [after id, found]; rfl)
    refine ⟨fun id client found left => kept id client found ((one id client found).mpr (.inl left)),
      ?_⟩
    cases input with
    | begin id ok now =>
      intro client found begins
      by_contra gone
      exact kept id client found ((one id client found).mpr
        (.inr ⟨ok, now, rfl, begins, Bool.eq_false_iff.mpr gone⟩))
    | _ => trivial
  · rintro ⟨nothing, connected⟩ id client found left
    rw [after id] at found
    cases before : live.streams id with
    | some old =>
      rw [before] at found
      obtain rfl := Option.some.inj found
      rcases (one id old before).mp left with early | ⟨ok, now, rfl, begins, gone⟩
      · exact nothing id old before early
      · simp [connected old before begins] at gone
    | none =>
      rcases streams id client (by rw [after id]; exact found) with ⟨_, _, some', -⟩ | ⟨-, _, rfl⟩
      · rw [before] at some'
        cases some'
      · simp [EventClient.Left, EventClient.request] at left

/-- No listener and no timer is left behind exactly if no request is closed while its devices are looked
up and its handler goes on all the same. -/
theorem listeners_left_iff (crypto : ServerCrypto) (inputs : List LiveInput) :
    (liveRun crypto inputs).NothingLeft ↔
      Machine.Always (liveStep crypto) BeginsConnected startLive inputs := by
  have start : startLive.NothingLeft := fun id client found => by cases found
  have run := @Machine.always_iff_run LiveServer LiveInput (liveStep crypto) startLive
    (fun _ => True) LiveServer.NothingLeft BeginsConnected (fun _ _ _ => trivial)
    (fun live input _ => nothingLeft_step crypto live input) inputs trivial
  rw [liveRun, run]
  exact and_iff_right start

end Listeners

end Ykp.Backend
