import Ykp.Backend.Presence

/-! The server's handlers drive the presence engine: every run of the server is one of the engine. -/

namespace Ykp.Backend

/-- The call of the presence engine that a handler waits in. -/
def Task.presenceCall : Task → Option PresenceCall
  | .markOnline _ deviceId ip _ _ => some (.markOnline deviceId ip)
  | .markOffline deviceId => some (.markOffline deviceId)
  | _ => none

/-- What the database holds after the writes of a log. -/
def writtenOnline (deviceId : JsString) : List PresenceEvent → Bool
  | [] => false
  | .written other _ online :: older =>
    if other = deviceId then online else writtenOnline deviceId older
  | _ :: older => writtenOnline deviceId older

/-- A presence engine in the state the server keeps of it. -/
structure Shows (server : Server) (engine : PresenceEngine) : Prop where
  heartbeats : server.heartbeats = engine.heartbeats
  timers : server.timers = engine.timers
  nextTimer : server.nextTimer = engine.nextTimer
  isOnline : ∀ deviceId, server.isOnline deviceId = writtenOnline deviceId engine.log
  calls : server.tasks.filterMap Task.presenceCall = engine.calls

/-- What a server keeps for its presence engine, apart from the handlers that wait. -/
def Server.presence (server : Server) :
    (JsString → Option TimerId) × (TimerId → Option (JsString × JsString)) × TimerId ×
      (JsString → Bool) :=
  (server.heartbeats, server.timers, server.nextTimer, server.isOnline)

/-- A server that keeps the same shows the same presence engine. -/
theorem Shows.of_same {before after : Server} {engine : PresenceEngine}
    (shows_ : Shows before engine) (same : after.presence = before.presence)
    (calls : after.tasks.filterMap Task.presenceCall =
      before.tasks.filterMap Task.presenceCall) : Shows after engine := by
  obtain ⟨heartbeats, timers, nextTimer, isOnline⟩ :
      after.heartbeats = before.heartbeats ∧ after.timers = before.timers ∧
        after.nextTimer = before.nextTimer ∧ after.isOnline = before.isOnline := by
    simpa [Server.presence] using same
  exact ⟨heartbeats.trans shows_.heartbeats, timers.trans shows_.timers,
    nextTimer.trans shows_.nextTimer, isOnline ▸ shows_.isOnline, calls.trans shows_.calls⟩

theorem sendToDevice_presence (server : Server) (deviceId : JsString) (raw : Bytes) :
    (sendToDevice server deviceId raw).presence = server.presence := by
  unfold sendToDevice
  split <;> rfl

/-- Sending a packet does not touch the presence engine. -/
theorem sendYkpPacket_presence (crypto : ServerCrypto) (server : Server) (deviceId : JsString)
    (opts : BuildPacketOptions) :
    (sendYkpPacket crypto server deviceId opts).presence = server.presence := by
  unfold sendYkpPacket
  dsimp only
  -- Without session the packet goes out as it is, else with or without a payload to encrypt.
  split
  · split
    · rfl
    · exact sendToDevice_presence server deviceId _
  · split
    · split
      · rfl
      · exact sendToDevice_presence _ deviceId _
    · split
      · rfl
      · split
        · rfl
        · exact sendToDevice_presence _ deviceId _

/-- Reacting to a data packet neither touches the presence engine nor waits. -/
theorem handleData_presence (crypto : ServerCrypto) (server : Server) (conn : ConnId)
    (pkt : ServerPacket) :
    (handleData crypto server conn pkt).presence = server.presence ∧
      (handleData crypto server conn pkt).tasks = server.tasks := by
  unfold handleData
  dsimp only
  -- The checks drop the packet one after the other.
  split
  · exact ⟨rfl, rfl⟩
  · split
    · exact ⟨rfl, rfl⟩
    · split
      · exact ⟨rfl, rfl⟩
      · split
        · exact ⟨rfl, rfl⟩
        · unfold acknowledgeAndDispatch
          dsimp only
          split
          · split <;> exact ⟨rfl, rfl⟩
          · exact ⟨rfl, rfl⟩

/-- A HELLO that continues does not touch the presence engine. -/
theorem resumeHello_presence (server : Server) (ref : HelloRef) (packetId : Nat) (draws : Draws) :
    (resumeHello server ref packetId draws).presence = server.presence ∧
      (resumeHello server ref packetId draws).tasks = server.tasks := by
  unfold resumeHello
  dsimp only
  split
  · exact ⟨rfl, rfl⟩
  · exact ⟨rfl, rfl⟩
  · split <;> exact ⟨rfl, rfl⟩

theorem resumeSessionActive_presence (server : Server) (conn : ConnId)
    (packetId sessionId : Nat) :
    (resumeSessionActive server conn packetId sessionId).presence = server.presence ∧
      (resumeSessionActive server conn packetId sessionId).tasks = server.tasks := by
  unfold resumeSessionActive
  dsimp only
  split
  · exact ⟨rfl, rfl⟩
  · split <;> exact ⟨rfl, rfl⟩

/-- A handler that starts to wait is a call that starts to wait. -/
theorem filterMap_await (server : Server) (task : Task) :
    (server.await task).tasks.filterMap Task.presenceCall =
      server.tasks.filterMap Task.presenceCall ++ task.presenceCall.toList := by
  rw [Server.await, List.filterMap_append]
  cases found : task.presenceCall <;> simp [found]

/-- A server that shows the presence engine marks a device online as the engine does. -/
theorem Shows.markOnline {server : Server} {engine : PresenceEngine}
    (shows_ : Shows server engine) (conn : ConnId) (deviceId ip : JsString)
    (packetId sessionId : Nat) :
    Shows ((setDeviceOnline server deviceId true).await
        (.markOnline conn deviceId ip packetId sessionId))
      (Machine.run presenceStep engine [.markOnline deviceId ip]) where
  heartbeats := shows_.heartbeats
  timers := shows_.timers
  nextTimer := shows_.nextTimer
  isOnline other := by
    change Function.update server.isOnline deviceId true other =
      writtenOnline other (.written deviceId ip true :: .onlineStarted deviceId :: engine.log)
    -- The event that was written last decides for its own device only.
    by_cases same : other = deviceId
    · simp [writtenOnline, same]
    · simp [writtenOnline, same, Ne.symm same, shows_.isOnline]
  calls := by
    -- Both wait for the same call, behind those that waited before.
    rw [filterMap_await]
    exact congrArg (· ++ [PresenceCall.markOnline deviceId ip]) shows_.calls

/-- It clears the timer of a device as the engine does. -/
theorem Shows.clearHeartbeat {server : Server} {engine : PresenceEngine}
    (shows_ : Shows server engine) (deviceId : JsString) :
    Shows (stopHeartbeat server deviceId) (engine.clearHeartbeat deviceId) := by
  unfold stopHeartbeat PresenceEngine.clearHeartbeat
  rw [shows_.heartbeats]
  cases engine.heartbeats deviceId with
  | none => exact shows_
  | some timer =>
    exact ⟨rfl, by rw [shows_.timers], shows_.nextTimer, shows_.isOnline, shows_.calls⟩

/-- It marks a device offline as the engine does. -/
theorem Shows.markOffline {server : Server} {engine : PresenceEngine}
    (shows_ : Shows server engine) (deviceId : JsString) :
    Shows (markOffline server deviceId)
      (Machine.run presenceStep engine [.markOffline deviceId]) := by
  have started : Shows server (engine.record (.offlineStarted deviceId)) :=
    ⟨shows_.heartbeats, shows_.timers, shows_.nextTimer, shows_.isOnline, shows_.calls⟩
  -- The timer is cleared first, and what is written behind it leaves the timers alone.
  have cleared := started.clearHeartbeat deviceId
  refine ⟨cleared.heartbeats, cleared.timers, cleared.nextTimer, fun other => ?_, ?_⟩
  · change Function.update (stopHeartbeat server deviceId).isOnline deviceId false other =
      writtenOnline other (.written deviceId [] false ::
        ((engine.record (.offlineStarted deviceId)).clearHeartbeat deviceId).log)
    by_cases same : other = deviceId
    · simp [writtenOnline, same]
    · rw [Function.update_of_ne same, writtenOnline, if_neg (Ne.symm same)]
      exact cleared.isOnline other
  · rw [Ykp.Backend.markOffline, filterMap_await]
    exact congrArg (· ++ [PresenceCall.markOffline deviceId]) cleared.calls

/-- The handlers in front of one that continues tell which call continues. -/
theorem filterMap_eraseIdx {α β : Type*} (f : α → Option β) {items : List α} {position : Nat}
    {item : α} (found : items[position]? = some item) :
    (items.eraseIdx position).filterMap f =
        (if (f item).isSome then (items.filterMap f).eraseIdx ((items.take position).filterMap f).length
        else items.filterMap f) ∧
      ∀ image, f item = some image →
        (items.filterMap f)[((items.take position).filterMap f).length]? = some image := by
  obtain ⟨bound, rfl⟩ := List.getElem?_eq_some_iff.mp found
  have split : items = items.take position ++ items[position] :: items.drop (position + 1) := by
    rw [List.getElem_cons_drop, List.take_append_drop]
  -- The image of the item, if any, stands behind those of the items in front.
  have whole : items.filterMap f = (items.take position).filterMap f ++
      ((f items[position]).toList ++ (items.drop (position + 1)).filterMap f) := by
    conv_lhs => rw [split]
    rw [List.filterMap_append, List.filterMap_cons]
    cases f items[position] <;> rfl
  rw [List.eraseIdx_eq_take_drop_succ, List.filterMap_append]
  cases image : f items[position] with
  | none =>
    rw [image] at whole
    exact ⟨whole.symm, fun _ absent => nomatch absent⟩
  | some value =>
    rw [image] at whole
    refine ⟨?_, fun _ same => ?_⟩
    · rw [if_pos Option.isSome_some, whole,
        List.eraseIdx_append_of_length_le (Nat.le_refl _), Nat.sub_self]
      rfl
    · rw [whole, List.getElem?_append_right (Nat.le_refl _), Nat.sub_self]
      exact same

/-- It continues a handler as the engine continues the call the handler waits in, if any. -/
theorem Shows.resumeTask {server : Server} {engine : PresenceEngine}
    (shows_ : Shows server engine) {position : Nat} {task : Task} (ok : Bool) (draws : Draws)
    (waits : server.tasks[position]? = some task) :
    ∃ inputs, Shows
      (resumeTask { server with tasks := server.tasks.eraseIdx position } ok draws task)
      (Machine.run presenceStep engine inputs) := by
  obtain ⟨erased, reached⟩ := filterMap_eraseIdx Task.presenceCall waits
  rw [shows_.calls] at erased reached
  -- The call stands in the engine's list behind as many calls as wait in front of its handler.
  generalize ((server.tasks.take position).filterMap Task.presenceCall).length = place
    at erased reached
  -- A handler outside the presence engine continues without it.
  have outside {after : Server} (free : task.presenceCall = none)
      (same : after.presence = server.presence ∧ after.tasks = server.tasks.eraseIdx position) :
      ∃ inputs, Shows after (Machine.run presenceStep engine inputs) := by
    refine ⟨[], shows_.of_same same.1 ?_⟩
    rw [same.2, erased, free, shows_.calls]
    rfl
  -- A call that finishes leaves the waiting list.
  have finished {call : PresenceCall} (inside : task.presenceCall = some call) :
      Shows { server with tasks := server.tasks.eraseIdx position }
        { engine with calls := engine.calls.eraseIdx place } := by
    refine ⟨shows_.heartbeats, shows_.timers, shows_.nextTimer, shows_.isOnline, ?_⟩
    rw [inside] at erased
    exact erased
  have stepped {call : PresenceCall} (inside : task.presenceCall = some call) :
      Machine.run presenceStep engine [.resume place ok] =
        PresenceEngine.resume { engine with calls := engine.calls.eraseIdx place } ok call := by
    rw [Machine.run_cons, Machine.run_nil]
    simp only [presenceStep, reached call inside]
  cases task with
  | hello ref packetId =>
    cases ok with
    | false => exact outside rfl ⟨rfl, rfl⟩
    | true => exact outside rfl (resumeHello_presence _ ref packetId draws)
  | sessionActive conn packetId sessionId =>
    exact outside rfl (resumeSessionActive_presence _ conn packetId sessionId)
  | markOffline deviceId =>
    refine ⟨[.resume place ok], ?_⟩
    rw [stepped rfl]
    have rest := finished rfl
    cases ok with
    | false => exact rest
    | true => exact ⟨rest.heartbeats, rest.timers, rest.nextTimer, rest.isOnline, rest.calls⟩
  | markOnline conn deviceId ip packetId sessionId =>
    refine ⟨[.resume place ok], ?_⟩
    rw [stepped rfl]
    have rest := finished rfl
    cases ok with
    | false => exact rest
    | true =>
      refine ⟨?_, ?_, ?_, rest.isOnline, ?_⟩
      · change Function.update server.heartbeats deviceId (some server.nextTimer) = _
        rw [shows_.heartbeats, shows_.nextTimer]
        rfl
      · change Function.update server.timers server.nextTimer (some (deviceId, ip)) = _
        rw [shows_.timers, shows_.nextTimer]
        rfl
      · exact congrArg (· + 1) shows_.nextTimer
      · refine (filterMap_await _ _).trans ?_
        exact (List.append_nil _).trans rest.calls

/-- A message is handled as by the presence engine alone. -/
theorem Shows.handlePacket {server : Server} {engine : PresenceEngine} (crypto : ServerCrypto)
    (shows_ : Shows server engine) (conn : ConnId) (pkt : ServerPacket) :
    ∃ inputs, Shows (handlePacket crypto server conn pkt)
      (Machine.run presenceStep engine inputs) := by
  unfold Ykp.Backend.handlePacket
  dsimp only
  -- A HELLO waits outside the presence engine; an ECDH_RESPONSE may mark its device online.
  split
  · refine ⟨[], shows_.of_same rfl ?_⟩
    rw [handleHello, filterMap_await]
    exact List.append_nil _
  · split
    · unfold handleEcdhResponse
      dsimp only
      split
      · exact ⟨[], shows_.of_same rfl rfl⟩
      · split
        · exact ⟨[], shows_.of_same rfl rfl⟩
        · -- The session is stored before the presence engine is called.
          refine ⟨[.markOnline _ _], Shows.markOnline ?_ _ _ _ _ _⟩
          exact shows_.of_same rfl rfl
    · obtain ⟨same, tasks⟩ := handleData_presence crypto server conn pkt
      exact ⟨[], shows_.of_same same (congrArg (List.filterMap Task.presenceCall) tasks)⟩

/-- One event of the server is a list of events of its presence engine. -/
theorem Shows.step {server : Server} {engine : PresenceEngine} (crypto : ServerCrypto)
    (shows_ : Shows server engine) (input : ServerInput) :
    ∃ inputs, Shows (serverStep crypto server input)
      (Machine.run presenceStep engine inputs) := by
  cases input with
  | connect conn ip =>
    unfold serverStep
    dsimp only
    split <;> exact ⟨[], shows_.of_same rfl rfl⟩
  | message conn data =>
    unfold serverStep handleMessage
    dsimp only
    have received : Shows { server with seq := server.seq + 1 } engine :=
      shows_.of_same rfl rfl
    split
    · split
      · exact ⟨[], received⟩
      · exact received.handlePacket crypto conn _
    · exact ⟨[], shows_⟩
  | resume position ok draws =>
    unfold serverStep
    dsimp only
    split
    · exact ⟨[], shows_⟩
    · rename_i task waits
      exact shows_.resumeTask ok draws waits
  | close conn =>
    unfold serverStep handleClose
    dsimp only
    split
    · split
      · exact ⟨[], shows_.of_same rfl rfl⟩
      · -- The sessions of the connection are removed before the presence engine is called.
        refine ⟨[.markOffline _], Shows.markOffline ?_ _⟩
        exact shows_.of_same rfl rfl
    · exact ⟨[], shows_⟩
  | heartbeat timer =>
    unfold serverStep
    dsimp only
    refine ⟨[.fire timer], ?_⟩
    rw [Machine.run_cons, Machine.run_nil, presenceStep, shows_.timers]
    cases engine.timers timer with
    | none => exact shows_
    | some entry =>
      -- The callback writes the device it captured.
      refine ⟨shows_.heartbeats, shows_.timers, shows_.nextTimer, fun other => ?_, shows_.calls⟩
      by_cases same : other = entry.1
      · simp [setDeviceOnline, PresenceEngine.setDeviceOnline, PresenceEngine.record,
          writtenOnline, same]
      · simp [setDeviceOnline, PresenceEngine.setDeviceOnline, PresenceEngine.record,
          writtenOnline, same, Ne.symm same, shows_.isOnline]
  | command deviceId service action packetId =>
    unfold serverStep
    dsimp only
    split
    · exact ⟨[], shows_⟩
    · exact ⟨[], shows_.of_same (sendYkpPacket_presence crypto server deviceId _)
        (by rw [sendYkpPacket_tasks])⟩
  | otaStart job packetId =>
    unfold serverStep
    dsimp only
    split
    · exact ⟨[], shows_⟩
    · exact ⟨[], shows_.of_same (sendYkpPacket_presence crypto server job.deviceId _)
        (by rw [sendYkpPacket_tasks])⟩
  | automationAction target service action packetId =>
    exact ⟨[], shows_.of_same (sendYkpPacket_presence crypto server target _)
      (by rw [serverStep, sendYkpPacket_tasks])⟩

/-- Every run of the server is a run of its presence engine. -/
theorem serverRun_presence (crypto : ServerCrypto) (inputs : List ServerInput) :
    ∃ calls, Shows (serverRun crypto inputs) (presenceRun calls) := by
  have step (server : Server) (input : ServerInput)
      (before : ∃ calls, Shows server (presenceRun calls)) :
      ∃ calls, Shows (serverStep crypto server input) (presenceRun calls) := by
    obtain ⟨calls, shows_⟩ := before
    obtain ⟨more, next⟩ := shows_.step crypto input
    exact ⟨calls ++ more, by rwa [presenceRun, Machine.run_append]⟩
  exact Machine.invariant_reached step inputs ⟨[], rfl, rfl, rfl, fun _ => rfl, rfl⟩

end Ykp.Backend
