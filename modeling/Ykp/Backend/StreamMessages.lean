import Ykp.Backend.LiveStream

/-! What a stream tells: the events about the devices that its user had, each once and in order. -/

namespace Ykp.Backend

variable {live : LiveServer}

/-- The devices that were found for a request. -/
def EventClient.listed (client : EventClient) : List JsString :=
  match client.phase with
  | .fetching rows => rows.getD []
  | .begun userDevices _ => userDevices

/-- What was written to a stream are its messages: none before it begins, and none about other devices
than those that were found. -/
structure EventClient.Orderly (client : EventClient) : Prop where
  written : client.written = client.messages.flatMap StreamMessage.text
  untold : ∀ rows, client.phase = .fetching rows → client.messages = []
  told : ∀ event, .event event ∈ client.messages → event.deviceId ∈ client.listed

section Keeping

variable {client : EventClient}

/-- A stream that has begun stays orderly with a message about one of its devices. -/
theorem EventClient.Orderly.write (kept : client.Orderly) {userDevices : List JsString} {registered : Bool}
    (begun : client.phase = .begun userDevices registered) {message : StreamMessage}
    (mine : ∀ event, message = .event event → event.deviceId ∈ userDevices) :
    (client.write message).Orderly := by
  unfold EventClient.write
  split
  · refine ⟨?_, fun rows fetching => ?_, fun event member => ?_⟩
    · simp only [List.flatMap_append, List.flatMap_singleton, kept.written]
    · simp [begun] at fetching
    · simp only [EventClient.listed, begun]
      rcases List.mem_append.mp member with old | new
      · have listed := kept.told event old
        rwa [EventClient.listed, begun] at listed
      · exact mine event (List.mem_singleton.mp new).symm
  · exact kept

theorem EventClient.Orderly.onEvent (kept : client.Orderly) (event : LiveEvent) :
    (client.onEvent event).Orderly := by
  unfold EventClient.onEvent
  split
  · rename_i userDevices begun
    split
    · rename_i mine
      refine kept.write begun fun other same => ?_
      cases same
      exact mine
    · exact kept
  · exact kept

theorem EventClient.Orderly.onEvents (kept : client.Orderly) (events : List LiveEvent) :
    (events.foldl (·.onEvent ·) client).Orderly := by
  induction events generalizing client with
  | nil => exact kept
  | cons event rest ih => exact ih (kept.onEvent event)

/-- A request whose stream begins is told so first. -/
theorem EventClient.Orderly.begin (kept : client.Orderly) (ok : Bool) (now : Nat) :
    (client.begin ok now).Orderly := by
  have first {rows : Option (List JsString)} (fetching : client.phase = .fetching rows)
      (userDevices : List JsString) :
      EventClient.Orderly { client.write (.connected now) with phase := .begun userDevices true } := by
    have untold := kept.untold rows fetching
    unfold EventClient.write
    split
    · refine ⟨?_, fun _ same => (by cases same), fun event member => ?_⟩
      · simp [kept.written, untold]
      · simp [untold] at member
    · refine ⟨kept.written, fun _ same => (by cases same), fun event member => ?_⟩
      simp [untold] at member
  unfold EventClient.begin
  split
  · rename_i rows fetching
    split
    · exact kept
    · exact first fetching _
    · exact first fetching _
  · exact kept

theorem EventClient.Orderly.onClient (kept : client.Orderly) (id : StreamId) (input : LiveInput) :
    (input.onClient live id client).Orderly := by
  cases input with
  | read other =>
    simp only [LiveInput.onClient, EventClient.read]
    split
    · split
      · rename_i fetching
        have untold := kept.untold none fetching
        exact ⟨kept.written, fun _ _ => untold, fun event member => by simp [untold] at member⟩
      · exact kept
    · exact kept
  | begin other ok now =>
    simp only [LiveInput.onClient]
    split
    · exact kept.begin ok now
    · exact kept
  | heartbeat other =>
    simp only [LiveInput.onClient, EventClient.heartbeat]
    split
    · split
      · rename_i begun
        exact kept.write begun fun _ same => by cases same
      · exact kept
    · exact kept
  | close other =>
    simp only [LiveInput.onClient, EventClient.close]
    split
    · split
      · split
        · rename_i userDevices _ begun
          refine ⟨kept.written, fun _ same => (by cases same), fun event member => ?_⟩
          have listed := kept.told event member
          rwa [EventClient.listed, begun] at listed
        · exact ⟨kept.written, kept.untold, kept.told⟩
      · exact kept
    · exact kept
  | server _ | stored _ _ | own _ _ | request _ _ => exact kept

end Keeping

/-- Every stream is orderly in every run. -/
theorem orderly_run (crypto : ServerCrypto) (inputs : List LiveInput) {id : StreamId}
    {client : EventClient} (found : (liveRun crypto inputs).streams id = some client) :
    client.Orderly := by
  have keeps (live : LiveServer) (input : LiveInput)
      (kept : ∀ id client, live.streams id = some client → client.Orderly) :
      ∀ id client, (liveStep crypto live input).streams id = some client → client.Orderly := by
    intro id client found
    rcases liveStep_found found with ⟨events, old, before, -, rfl⟩ | ⟨-, userId, rfl⟩
    · exact ((kept id old before).onEvents events).onClient id input
    · exact ⟨rfl, fun _ _ => rfl, fun event member => by cases member⟩
  exact Machine.invariant_reached keeps inputs (fun _ _ none => by cases none) id client found

/-- What was written stays written. -/
theorem write_written (client : EventClient) (message : StreamMessage) :
    client.written <+: (client.write message).written := by
  unfold EventClient.write
  split
  · exact List.prefix_append _ _
  · exact List.prefix_refl _

theorem onEvents_written (client : EventClient) (events : List LiveEvent) :
    client.written <+: (events.foldl (·.onEvent ·) client).written := by
  induction events generalizing client with
  | nil => exact List.prefix_refl _
  | cons event rest ih =>
    refine List.IsPrefix.trans ?_ (ih (client.onEvent event))
    unfold EventClient.onEvent
    split
    · split
      · exact write_written client _
      · exact List.prefix_refl _
    · exact List.prefix_refl _

theorem onClient_written (client : EventClient) (id : StreamId) (input : LiveInput) :
    client.written <+: (input.onClient live id client).written := by
  cases input with
  | read other =>
    simp only [LiveInput.onClient, EventClient.read]
    split
    · split <;> exact List.prefix_refl _
    · exact List.prefix_refl _
  | begin other ok now =>
    simp only [LiveInput.onClient, EventClient.begin]
    split
    · split
      · split
        · exact List.prefix_refl _
        · exact write_written client _
        · exact write_written client _
      · exact List.prefix_refl _
    · exact List.prefix_refl _
  | heartbeat other =>
    simp only [LiveInput.onClient, EventClient.heartbeat]
    split
    · split
      · exact write_written client _
      · exact List.prefix_refl _
    · exact List.prefix_refl _
  | close other =>
    simp only [LiveInput.onClient, EventClient.close]
    split
    · split
      · split <;> exact List.prefix_refl _
      · exact List.prefix_refl _
    · exact List.prefix_refl _
  | server _ | stored _ _ | own _ _ | request _ _ => exact List.prefix_refl _

/-- A stream stays, with all that was written to it. -/
theorem liveStep_written (crypto : ServerCrypto) (input : LiveInput) {id : StreamId}
    {client : EventClient} (found : live.streams id = some client) :
    ∃ after, (liveStep crypto live input).streams id = some after ∧
      client.written <+: after.written := by
  obtain ⟨events, -, streams⟩ := liveStep_streams crypto live input
  refine ⟨input.onClient live id (events.foldl (·.onEvent ·) client), ?_, ?_⟩
  · rw [streams id, found]
    rfl
  · exact (onEvents_written client events).trans (onClient_written _ id input)

/-- Writing changes neither the user nor the devices of a request. -/
theorem write_listed (client : EventClient) (message : StreamMessage) :
    (client.write message).listed = client.listed ∧
      (client.write message).userId = client.userId := by
  unfold EventClient.write
  split <;> exact ⟨rfl, rfl⟩

theorem onEvents_listed (client : EventClient) (events : List LiveEvent) :
    (events.foldl (·.onEvent ·) client).listed = client.listed ∧
      (events.foldl (·.onEvent ·) client).userId = client.userId := by
  refine ⟨?_, ?_⟩
  · rw [EventClient.listed, (foldl_onEvent_same client events).1, EventClient.listed]
  · induction events generalizing client with
    | nil => rfl
    | cons event rest ih =>
      rw [List.foldl_cons, ih, EventClient.onEvent]
      split
      · split
        · exact (write_listed client _).2
        · rfl
      · rfl

/-- Only the database adds devices, those of the user. -/
theorem onClient_listed (client : EventClient) (id : StreamId) (input : LiveInput) :
    (input.onClient live id client).userId = client.userId ∧
      ∀ deviceId ∈ (input.onClient live id client).listed,
        deviceId ∈ client.listed ∨ deviceId ∈ live.devicesOf client.userId := by
  cases input with
  | read other =>
    simp only [LiveInput.onClient, EventClient.read]
    split
    · split
      · exact ⟨rfl, fun deviceId member => .inr member⟩
      · exact ⟨rfl, fun deviceId member => .inl member⟩
    · exact ⟨rfl, fun deviceId member => .inl member⟩
  | begin other ok now =>
    simp only [LiveInput.onClient, EventClient.begin]
    split
    · split
      · rename_i rows fetching
        split
        · exact ⟨rfl, fun deviceId member => .inl member⟩
        · refine ⟨(write_listed client _).2, fun deviceId member => .inl ?_⟩
          rw [EventClient.listed, fetching]
          exact member
        · exact ⟨(write_listed client _).2, fun deviceId member => by cases member⟩
      · exact ⟨rfl, fun deviceId member => .inl member⟩
    · exact ⟨rfl, fun deviceId member => .inl member⟩
  | heartbeat other =>
    simp only [LiveInput.onClient, EventClient.heartbeat]
    split
    · split
      · have same := write_listed client .ping
        exact ⟨same.2, fun deviceId member => .inl (same.1 ▸ member)⟩
      · exact ⟨rfl, fun deviceId member => .inl member⟩
    · exact ⟨rfl, fun deviceId member => .inl member⟩
  | close other =>
    simp only [LiveInput.onClient, EventClient.close]
    split
    · split
      · split
        · rename_i begun
          refine ⟨rfl, fun deviceId member => .inl ?_⟩
          rw [EventClient.listed, begun]
          exact member
        · exact ⟨rfl, fun deviceId member => .inl member⟩
      · exact ⟨rfl, fun deviceId member => .inl member⟩
    · exact ⟨rfl, fun deviceId member => .inl member⟩
  | server _ | stored _ _ | own _ _ | request _ _ =>
    exact ⟨rfl, fun deviceId member => .inl member⟩

/-- The devices of a stream were found under its user at some time. -/
theorem listed_run (crypto : ServerCrypto) (inputs : List LiveInput) {id : StreamId}
    {client : EventClient} (found : (liveRun crypto inputs).streams id = some client) :
    ∀ deviceId ∈ client.listed, ∃ earlier, earlier <+: inputs ∧
      deviceId ∈ (liveRun crypto earlier).devicesOf client.userId := by
  -- What the last step adds was found in the state before it.
  induction inputs using List.reverseRecOn generalizing client with
  | nil => cases found
  | append_singleton before input ih =>
    have last : liveRun crypto (before ++ [input]) = liveStep crypto (liveRun crypto before) input :=
      Machine.run_append before [input]
    rw [last] at found
    intro deviceId member
    rcases liveStep_found found with ⟨events, old, was, -, rfl⟩ | ⟨-, userId, rfl⟩
    · have same := onEvents_listed old events
      have kept := @onClient_listed (liveRun crypto before)
        (events.foldl (·.onEvent ·) old) id input
      rw [kept.1, same.2]
      rcases kept.2 deviceId member with early | read
      · rw [same.1] at early
        obtain ⟨earlier, within, owned⟩ := ih was deviceId early
        exact ⟨earlier, within.trans (List.prefix_append _ _), owned⟩
      · rw [same.2] at read
        exact ⟨before, List.prefix_append _ _, read⟩
    · cases member

/-- A stream that has begun tells, behind what it told at first, the events about its devices since
then. -/
structure Follows (userDevices : List JsString) (first : List StreamMessage) (since : Nat)
    (emitted : List LiveEvent) (client : EventClient) : Prop where
  phase : client.phase = .begun userDevices true
  connected : client.connected = true
  later : since ≤ emitted.length
  told : client.messages.filter (· ≠ .ping) =
    first ++ ((emitted.drop since).filter (·.deviceId ∈ userDevices)).map .event

section Following

variable {userDevices : List JsString} {first : List StreamMessage} {since : Nat}
  {emitted : List LiveEvent} {client : EventClient}

theorem Follows.onEvent (follows : Follows userDevices first since emitted client)
    (event : LiveEvent) :
    Follows userDevices first since (emitted ++ [event]) (client.onEvent event) := by
  have drop : (emitted ++ [event]).drop since = emitted.drop since ++ [event] :=
    List.drop_append_of_le_length follows.later
  have later : since ≤ (emitted ++ [event]).length := by
    have before := follows.later
    simp only [List.length_append, List.length_singleton]
    omega
  have told := follows.told
  simp only [EventClient.onEvent, follows.phase]
  split
  · rename_i mine
    refine ⟨by simp [follows.phase], by simp [follows.connected], later, ?_⟩
    simp only [EventClient.write, follows.connected, if_true]
    rw [List.filter_append, told, drop, List.filter_append]
    simp [mine]
  · rename_i other
    refine ⟨follows.phase, follows.connected, later, ?_⟩
    rw [told, drop, List.filter_append]
    simp [other]

theorem Follows.onEvents (follows : Follows userDevices first since emitted client)
    (events : List LiveEvent) :
    Follows userDevices first since (emitted ++ events) (events.foldl (·.onEvent ·) client) := by
  induction events generalizing emitted client with
  | nil => rwa [List.append_nil]
  | cons event rest ih =>
    have later := ih (follows.onEvent event)
    rwa [List.append_assoc, List.singleton_append] at later

/-- Only closing its request ends that. -/
theorem Follows.onClient (follows : Follows userDevices first since emitted client) {id : StreamId}
    {input : LiveInput} (stays : input ≠ .close id) :
    Follows userDevices first since emitted (input.onClient live id client) := by
  cases input with
  | read other =>
    simp only [LiveInput.onClient, EventClient.read, follows.phase, ite_self]
    exact follows
  | begin other ok now =>
    simp only [LiveInput.onClient, EventClient.begin, follows.phase, ite_self]
    exact follows
  | heartbeat other =>
    simp only [LiveInput.onClient, EventClient.heartbeat, follows.phase]
    split
    · refine ⟨by simp [follows.phase], by simp [follows.connected], follows.later, ?_⟩
      simp only [EventClient.write, follows.connected, if_true]
      rw [List.filter_append, follows.told]
      simp
    · exact follows
  | close other =>
    have another : other ≠ id := fun same => stays (by rw [same])
    simp only [LiveInput.onClient, if_neg another]
    exact follows
  | server _ | stored _ _ | own _ _ | request _ _ => exact follows

end Following

/-- A stream that has begun goes on so until its request is closed. -/
theorem follows_run (crypto : ServerCrypto) {userDevices : List JsString}
    {first : List StreamMessage} {since : Nat} {id : StreamId} {client : EventClient}
    (found : live.streams id = some client)
    (follows : Follows userDevices first since live.emitted client) {inputs : List LiveInput}
    (stays : ∀ input ∈ inputs, input ≠ .close id) :
    ∃ after, (Machine.run (liveStep crypto) live inputs).streams id = some after ∧
      Follows userDevices first since (Machine.run (liveStep crypto) live inputs).emitted after := by
  induction inputs generalizing live client with
  | nil => exact ⟨client, found, follows⟩
  | cons input rest ih =>
    obtain ⟨events, emitted, streams⟩ := liveStep_streams crypto live input
    have next : (liveStep crypto live input).streams id =
        some (input.onClient live id (events.foldl (·.onEvent ·) client)) := by
      rw [streams id, found]
      rfl
    have still : Follows userDevices first since (live.emitted ++ events)
        (input.onClient live id (events.foldl (·.onEvent ·) client)) :=
      (follows.onEvents events).onClient (stays input List.mem_cons_self)
    rw [← emitted] at still
    exact ih next still fun other member => stays other (List.mem_cons_of_mem _ member)

/-- When the handler of a request goes on with the devices that the database has found, the stream
begins: from then on, until the request is closed, it tells the events about these devices in their
order, each one once, and nothing else but its timer. -/
theorem begun_follows (crypto : ServerCrypto) (before after : List LiveInput) {id : StreamId}
    {client : EventClient} {userDevices : List JsString} (now : Nat)
    (found : (liveRun crypto before).streams id = some client)
    (fetched : client.phase = .fetching (some userDevices)) (connected : client.connected = true)
    (stays : ∀ input ∈ after, input ≠ .close id) :
    ∃ later, (liveRun crypto (before ++ .begin id true now :: after)).streams id = some later ∧
      Follows userDevices [.connected now] (liveRun crypto before).emitted.length
        (liveRun crypto (before ++ .begin id true now :: after)).emitted later := by
  have untold := (orderly_run crypto before found).untold _ fetched
  have begun : (liveStep crypto (liveRun crypto before) (.begin id true now)).streams id =
      some (client.begin true now) := by
    simp [liveStep, update_streams, found]
  have follows : Follows userDevices [.connected now] (liveRun crypto before).emitted.length
      (liveStep crypto (liveRun crypto before) (.begin id true now)).emitted
      (client.begin true now) := by
    simp only [EventClient.begin, fetched, EventClient.write, connected, if_true, untold]
    exact ⟨rfl, rfl, Nat.le_refl _, by simp [liveStep, LiveServer.update]⟩
  rw [liveRun, Machine.run_append, Machine.run_cons]
  exact follows_run crypto begun follows stays

end Ykp.Backend
