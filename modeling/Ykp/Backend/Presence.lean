import Ykp.Backend.Steps

/-! The presence engine: overlapping calls that wait for the database, and the timers they leave. -/

namespace Ykp.Backend

open History

/-- A call of the presence engine that waits for the database. -/
inductive PresenceCall
  | markOnline (deviceId ip : JsString)
  | markOffline (deviceId : JsString)
  deriving DecidableEq, Repr

/-- The device a call is about. -/
def PresenceCall.deviceId : PresenceCall → JsString
  | .markOnline deviceId _ => deviceId
  | .markOffline deviceId => deviceId

/-- What the presence engine was asked to do, and what it did. -/
inductive PresenceEvent
  | onlineStarted (deviceId : JsString)
  | offlineStarted (deviceId : JsString)
  /-- A call of `markOnline` continued behind its await. -/
  | wentOnline (deviceId : JsString)
  /-- The database was told whether a device is online, and under which address. -/
  | written (deviceId ip : JsString) (online : Bool)
  deriving DecidableEq, Repr

/-- The presence engine: the timer it remembers for each device, the timers that fire, with what
their callbacks captured, the calls that wait, and a log kept newest entry first. -/
structure PresenceEngine where
  heartbeats : JsString → Option TimerId
  timers : TimerId → Option (JsString × JsString)
  nextTimer : TimerId
  calls : List PresenceCall
  log : List PresenceEvent

namespace PresenceEngine

/-- The presence engine after the server's start. -/
def start : PresenceEngine := ⟨fun _ => none, fun _ => none, 0, [], []⟩

/-- A log entry. -/
def record (engine : PresenceEngine) (event : PresenceEvent) : PresenceEngine :=
  { engine with log := event :: engine.log }

/-- The database is told whether a device is online. -/
def setDeviceOnline (engine : PresenceEngine) (deviceId ip : JsString) (online : Bool) :
    PresenceEngine :=
  engine.record (.written deviceId ip online)

/-- `markOnline` up to its await. -/
def markOnline (engine : PresenceEngine) (deviceId ip : JsString) : PresenceEngine :=
  let engine := (engine.record (.onlineStarted deviceId)).setDeviceOnline deviceId ip true
  { engine with calls := engine.calls ++ [.markOnline deviceId ip] }

/-- `markOnline` behind its await: a new timer is remembered in the place of any other. -/
def resumeMarkOnline (engine : PresenceEngine) (deviceId ip : JsString) : PresenceEngine :=
  { engine with
    heartbeats := Function.update engine.heartbeats deviceId (some engine.nextTimer)
    timers := Function.update engine.timers engine.nextTimer (some (deviceId, ip))
    nextTimer := engine.nextTimer + 1 }.record (.wentOnline deviceId)

/-- The timer that is remembered for a device is cleared and forgotten. -/
def clearHeartbeat (engine : PresenceEngine) (deviceId : JsString) : PresenceEngine :=
  match engine.heartbeats deviceId with
  | none => engine
  | some timer =>
    { engine with
      timers := Function.update engine.timers timer none
      heartbeats := Function.update engine.heartbeats deviceId none }

/-- `markOffline` up to its await. -/
def markOffline (engine : PresenceEngine) (deviceId : JsString) : PresenceEngine :=
  let engine := (engine.record (.offlineStarted deviceId)).clearHeartbeat deviceId
  let engine := engine.setDeviceOnline deviceId [] false
  { engine with calls := engine.calls ++ [.markOffline deviceId] }

/-- A call continues; behind its await `markOffline` only reports. -/
def resume (engine : PresenceEngine) (ok : Bool) : PresenceCall → PresenceEngine
  | .markOnline deviceId ip => if ok then engine.resumeMarkOnline deviceId ip else engine
  | .markOffline _ => engine

end PresenceEngine

/-- The events the presence engine reacts to. -/
inductive PresenceInput
  | markOnline (deviceId ip : JsString)
  | markOffline (deviceId : JsString)
  /-- The database answers the call at a position of the waiting list. -/
  | resume (position : Nat) (ok : Bool)
  | fire (timer : TimerId)
  deriving DecidableEq, Repr

/-- One event. -/
def presenceStep (engine : PresenceEngine) : PresenceInput → PresenceEngine
  | .markOnline deviceId ip => engine.markOnline deviceId ip
  | .markOffline deviceId => engine.markOffline deviceId
  | .resume position ok =>
    match engine.calls[position]? with
    | none => engine
    | some call => { engine with calls := engine.calls.eraseIdx position }.resume ok call
  | .fire timer =>
    match engine.timers timer with
    | none => engine
    | some (deviceId, ip) => engine.setDeviceOnline deviceId ip true

/-- The presence engine after a list of events since the server's start. -/
def presenceRun (inputs : List PresenceInput) : PresenceEngine :=
  Machine.run presenceStep .start inputs

section Device

-- The device all of this is about.
variable (deviceId : JsString)

/-- What a log says about a device since the last call of `markOffline` for it. -/
def sinceOffline (log : List PresenceEvent) : List PresenceEvent :=
  since (· == .offlineStarted deviceId) log

/-- The last call for the device was `markOffline`. -/
def OfflineLast (log : List PresenceEvent) : Prop :=
  .offlineStarted deviceId ∈ log ∧ .onlineStarted deviceId ∉ sinceOffline deviceId log

/-- Since the last call of `markOffline` for the device, a `markOnline` continued. -/
def OnlineSince (log : List PresenceEvent) : Prop :=
  .wentOnline deviceId ∈ sinceOffline deviceId log

/-- A timer refreshes the device. -/
def PresenceEngine.Live (engine : PresenceEngine) (timer : TimerId) : Prop :=
  (engine.timers timer).map Prod.fst = some deviceId

/-- Every call for the device has finished, and the last one was `markOffline`. -/
def PresenceEngine.Settled (engine : PresenceEngine) : Prop :=
  (∀ call ∈ engine.calls, call.deviceId ≠ deviceId) ∧ OfflineLast deviceId engine.log

/-- The device is not written online by any later event as long as `markOnline` is not called. -/
def PresenceEngine.StaysOffline (engine : PresenceEngine) : Prop :=
  ∀ later, (∀ ip, .markOnline deviceId ip ∉ later) → ∀ ip,
    .written deviceId ip true ∉ newerThan engine.log (Machine.run presenceStep engine later).log

/-- At most one timer of the device is live, and none once its calls have settled offline. -/
structure PresenceEngine.TimersEnd (engine : PresenceEngine) : Prop where
  single : ∀ first second, engine.Live deviceId first → engine.Live deviceId second →
    first = second
  stopped : engine.Settled deviceId →
    (∀ timer, ¬ engine.Live deviceId timer) ∧ engine.StaysOffline deviceId

/-- A call goes online when it is a `markOnline` that the database answered. -/
def PresenceCall.GoesOnline (ok : Bool) : PresenceCall → Prop
  | .markOnline _ _ => ok = true
  | .markOffline _ => False

/-- The calls for the device take turns: one that goes online is the first to do so since the last
call of `markOffline`; and when the last open call finishes after a `markOffline` was called last,
none went online since. -/
def TakeTurns (engine : PresenceEngine) : PresenceInput → Prop
  | .resume position ok =>
    ∀ call, engine.calls[position]? = some call → call.deviceId = deviceId →
      (call.GoesOnline ok → ¬ OnlineSince deviceId engine.log) ∧
      (OfflineLast deviceId engine.log →
        (∀ other ∈ engine.calls.eraseIdx position, other.deviceId ≠ deviceId) →
          ¬ (OnlineSince deviceId engine.log ∨ call.GoesOnline ok))
  | _ => True

end Device

section Device

variable {deviceId : JsString}

/-- A call of `markOffline` for the device starts a new period; everything else belongs to it. -/
theorem sinceOffline_cons (event : PresenceEvent) (log : List PresenceEvent) :
    sinceOffline deviceId (event :: log) =
      if event = .offlineStarted deviceId then [] else event :: sinceOffline deviceId log := by
  unfold sinceOffline
  split
  · rename_i closes
    exact since_cons_boundary log (beq_iff_eq.mpr closes)
  · rename_i inside
    exact since_cons_inside log (beq_eq_false_iff_ne.mpr inside)

/-- A `markOnline` that continues counts until the next call of `markOffline`. -/
@[simp] theorem onlineSince_cons (event : PresenceEvent) (log : List PresenceEvent) :
    OnlineSince deviceId (event :: log) ↔
      event ≠ .offlineStarted deviceId ∧
        (.wentOnline deviceId = event ∨ OnlineSince deviceId log) := by
  unfold OnlineSince
  rw [sinceOffline_cons]
  split
  · rename_i closes
    simp [closes]
  · rename_i inside
    rw [List.mem_cons, and_iff_right inside]

/-- Only the two calls for the device change which of them was the last one. -/
@[simp] theorem offlineLast_cons (event : PresenceEvent) (log : List PresenceEvent) :
    OfflineLast deviceId (event :: log) ↔
      .offlineStarted deviceId = event ∨
        (.onlineStarted deviceId ≠ event ∧ OfflineLast deviceId log) := by
  unfold OfflineLast
  rw [sinceOffline_cons]
  split
  · rename_i closes
    simp [closes]
  · rename_i inside
    rw [List.mem_cons, List.mem_cons, or_iff_right (Ne.symm inside), not_or,
      or_iff_right (Ne.symm inside)]
    exact and_left_comm

/-- The timer of a device is forgotten. -/
@[simp] theorem clearHeartbeat_heartbeats (engine : PresenceEngine) (other : JsString) :
    (engine.clearHeartbeat other).heartbeats = Function.update engine.heartbeats other none := by
  unfold PresenceEngine.clearHeartbeat
  split
  · rename_i none
    rw [← none, Function.update_eq_self]
  · rfl

@[simp] theorem clearHeartbeat_log (engine : PresenceEngine) (other : JsString) :
    (engine.clearHeartbeat other).log = engine.log := by
  unfold PresenceEngine.clearHeartbeat
  split <;> rfl

@[simp] theorem clearHeartbeat_calls (engine : PresenceEngine) (other : JsString) :
    (engine.clearHeartbeat other).calls = engine.calls := by
  unfold PresenceEngine.clearHeartbeat
  split <;> rfl

@[simp] theorem clearHeartbeat_nextTimer (engine : PresenceEngine) (other : JsString) :
    (engine.clearHeartbeat other).nextTimer = engine.nextTimer := by
  unfold PresenceEngine.clearHeartbeat
  split <;> rfl

/-- Every timer fires on but the one that is remembered for the device. -/
theorem clearHeartbeat_timers (engine : PresenceEngine) (other : JsString) (timer : TimerId) :
    (engine.clearHeartbeat other).timers timer =
      if engine.heartbeats other = some timer then none else engine.timers timer := by
  unfold PresenceEngine.clearHeartbeat
  split
  · rename_i none
    rw [none, if_neg (by simp)]
  · rename_i remembered found
    by_cases same : timer = remembered
    · simp [found, same]
    · simp [found, Function.update_of_ne same, Ne.symm same]

/-- The bookkeeping of the presence engine, and that it has not lost track of the device: every live
timer is the remembered one, and none is remembered once the calls have settled offline. -/
structure Tracked (deviceId : JsString) (engine : PresenceEngine) : Prop where
  fresh : ∀ timer, engine.nextTimer ≤ timer → engine.timers timer = none
  owner : ∀ other timer, engine.heartbeats other = some timer → engine.Live other timer
  remembered : engine.heartbeats deviceId ≠ none ↔ OnlineSince deviceId engine.log
  kept : ∀ timer, engine.Live deviceId timer → engine.heartbeats deviceId = some timer
  settled : engine.Settled deviceId → engine.heartbeats deviceId = none

/-- A timer is live for one device only. -/
theorem live_unique {engine : PresenceEngine} {first second : JsString} {timer : TimerId}
    (one : engine.Live first timer) (two : engine.Live second timer) : first = second :=
  Option.some.inj (one.symm.trans two)

theorem tracked_start : Tracked deviceId .start where
  fresh _ _ := rfl
  owner _ _ found := nomatch found
  remembered := by simp [PresenceEngine.start, OnlineSince, sinceOffline]
  kept _ live := nomatch live
  settled _ := rfl

/-- Calling `markOnline` starts no timer yet. -/
theorem Tracked.markOnline {engine : PresenceEngine} (tracked : Tracked deviceId engine)
    (other ip : JsString) : Tracked deviceId (engine.markOnline other ip) where
  fresh := tracked.fresh
  owner := tracked.owner
  remembered := by
    rw [show (engine.markOnline other ip).heartbeats = engine.heartbeats from rfl,
      tracked.remembered]
    simp [PresenceEngine.markOnline, PresenceEngine.setDeviceOnline, PresenceEngine.record]
  kept := tracked.kept
  settled := by
    rintro ⟨closed, last⟩
    -- A call for the device itself is still open.
    refine tracked.settled ⟨fun call member => closed call (List.mem_append_left _ member), ?_⟩
    simp only [PresenceEngine.markOnline, PresenceEngine.setDeviceOnline, PresenceEngine.record,
      offlineLast_cons, reduceCtorEq, false_or] at last
    exact last.2.2

/-- A call of `markOffline` clears the timer that is remembered for its device, and no other. -/
theorem markOffline_timers (engine : PresenceEngine) (other : JsString) (timer : TimerId) :
    (engine.markOffline other).timers timer =
      if engine.heartbeats other = some timer then none else engine.timers timer :=
  clearHeartbeat_timers (engine.record (.offlineStarted other)) other timer

/-- A call of `markOffline` is logged, and what it writes. -/
theorem markOffline_log (engine : PresenceEngine) (other : JsString) :
    (engine.markOffline other).log =
      .written other [] false :: .offlineStarted other :: engine.log :=
  congrArg (PresenceEvent.written other [] false :: ·)
    (clearHeartbeat_log (engine.record (.offlineStarted other)) other)

/-- A call of `markOffline` waits for the database. -/
theorem markOffline_calls (engine : PresenceEngine) (other : JsString) :
    (engine.markOffline other).calls = engine.calls ++ [.markOffline other] :=
  congrArg (· ++ [PresenceCall.markOffline other])
    (clearHeartbeat_calls (engine.record (.offlineStarted other)) other)

/-- What is live behind a call of `markOffline` was live before, and is not what it cleared. -/
theorem live_of_markOffline {engine : PresenceEngine} {other owner : JsString} {timer : TimerId}
    (alive : (engine.markOffline other).Live owner timer) :
    engine.Live owner timer ∧ engine.heartbeats other ≠ some timer := by
  rw [PresenceEngine.Live, markOffline_timers] at alive
  split at alive
  · cases alive
  · rename_i different
    exact ⟨alive, different⟩

/-- Calling `markOffline` for the device leaves it without a timer; for another device it leaves it
alone. -/
theorem Tracked.markOffline {engine : PresenceEngine} (tracked : Tracked deviceId engine)
    (other : JsString) : Tracked deviceId (engine.markOffline other) := by
  have heartbeats : (engine.markOffline other).heartbeats =
      Function.update engine.heartbeats other none :=
    clearHeartbeat_heartbeats (engine.record (.offlineStarted other)) other
  have next : (engine.markOffline other).nextTimer = engine.nextTimer :=
    clearHeartbeat_nextTimer (engine.record (.offlineStarted other)) other
  constructor
  · intro timer above
    rw [markOffline_timers]
    split
    · rfl
    · exact tracked.fresh timer (next ▸ above)
  · intro owner timer found
    rw [heartbeats] at found
    by_cases same : owner = other
    · rw [same, Function.update_self] at found
      cases found
    · rw [Function.update_of_ne same] at found
      have alive := tracked.owner owner timer found
      -- The timer that is cleared belongs to the other device, so this one is not it.
      rw [PresenceEngine.Live, markOffline_timers, if_neg fun cleared =>
        same (live_unique alive (tracked.owner other timer cleared))]
      exact alive
  · rw [heartbeats, markOffline_log]
    by_cases same : deviceId = other
    · simp [same]
    · simp [Function.update_of_ne same, Ne.symm same, tracked.remembered]
  · intro timer alive
    obtain ⟨before, different⟩ := live_of_markOffline alive
    have found := tracked.kept timer before
    rw [heartbeats]
    by_cases same : deviceId = other
    · exact absurd (same ▸ found) different
    · rw [Function.update_of_ne same, found]
  · rintro ⟨closed, last⟩
    rw [heartbeats]
    by_cases same : deviceId = other
    · rw [same, Function.update_self]
    · rw [Function.update_of_ne same]
      refine tracked.settled ⟨fun call member => closed call ?_, ?_⟩
      · rw [markOffline_calls]
        exact List.mem_append_left _ member
      · simpa [markOffline_log, same] using last

/-- Calls that finish lose no track of the device, unless they settle with a timer left behind. -/
theorem Tracked.finish {engine : PresenceEngine} (tracked : Tracked deviceId engine)
    {calls : List PresenceCall}
    (ends : OfflineLast deviceId engine.log → (∀ call ∈ calls, call.deviceId ≠ deviceId) →
      ¬ OnlineSince deviceId engine.log) :
    Tracked deviceId { engine with calls := calls } where
  fresh := tracked.fresh
  owner := tracked.owner
  remembered := tracked.remembered
  kept := tracked.kept
  settled settled := by
    by_contra found
    exact ends settled.2 settled.1 (tracked.remembered.mp found)

/-- The new timer is live for its device, and every other timer is live as before. -/
theorem live_resumeMarkOnline (engine : PresenceEngine) (owner other ip : JsString)
    (timer : TimerId) : (engine.resumeMarkOnline other ip).Live owner timer ↔
      if timer = engine.nextTimer then other = owner else engine.Live owner timer := by
  unfold PresenceEngine.Live
  split
  · rename_i new
    simp [PresenceEngine.resumeMarkOnline, PresenceEngine.record, new]
  · rename_i old
    simp [PresenceEngine.resumeMarkOnline, PresenceEngine.record, Function.update_of_ne old]

/-- A device that goes online gets the one timer it has, if it had none and has not settled. -/
theorem Tracked.goOnline {engine : PresenceEngine} (tracked : Tracked deviceId engine)
    {other : JsString} (ip : JsString) (first : other = deviceId → ¬ OnlineSince deviceId engine.log)
    (unsettled : other = deviceId → ¬ engine.Settled deviceId) :
    Tracked deviceId (engine.resumeMarkOnline other ip) := by
  have heartbeats : (engine.resumeMarkOnline other ip).heartbeats =
      Function.update engine.heartbeats other (some engine.nextTimer) := rfl
  -- A timer that was live has a number below the next one.
  have below {owner : JsString} {timer : TimerId} (live : engine.Live owner timer) :
      timer ≠ engine.nextTimer := by
    rintro rfl
    rw [PresenceEngine.Live, tracked.fresh _ (Nat.le_refl _)] at live
    cases live
  constructor
  · intro timer above
    have bound : engine.nextTimer + 1 ≤ timer := above
    exact (Function.update_of_ne (Nat.ne_of_gt bound) _ _).trans
      (tracked.fresh timer (Nat.le_of_succ_le bound))
  · intro owner timer found
    rw [heartbeats] at found
    rw [live_resumeMarkOnline]
    by_cases same : owner = other
    · rw [same, Function.update_self] at found
      rw [if_pos (Option.some.inj found).symm, same]
    · rw [Function.update_of_ne same] at found
      have live := tracked.owner owner timer found
      rwa [if_neg (below live)]
  · rw [heartbeats]
    by_cases same : deviceId = other
    · simp [same, PresenceEngine.resumeMarkOnline, PresenceEngine.record]
    · simp [same, tracked.remembered, PresenceEngine.resumeMarkOnline, PresenceEngine.record]
  · intro timer live
    rw [live_resumeMarkOnline] at live
    rw [heartbeats]
    split at live
    · rename_i new
      rw [live, new, Function.update_self]
    · -- An older live timer of the device itself would have been remembered.
      have found := tracked.kept timer live
      by_cases same : deviceId = other
      · exact absurd (tracked.remembered.mp (by simp [found])) (first same.symm)
      · rw [Function.update_of_ne same, found]
  · rintro ⟨closed, last⟩
    have settled : engine.Settled deviceId := by
      refine ⟨closed, ?_⟩
      simpa [PresenceEngine.resumeMarkOnline, PresenceEngine.record] using last
    by_cases same : deviceId = other
    · exact absurd settled (unsettled same.symm)
    · rw [heartbeats, Function.update_of_ne same]
      exact tracked.settled settled

/-- As long as its calls take turns, the presence engine loses no track of the device. -/
theorem Tracked.step {engine : PresenceEngine} {input : PresenceInput}
    (tracked : Tracked deviceId engine) (turns : TakeTurns deviceId engine input) :
    Tracked deviceId (presenceStep engine input) := by
  cases input with
  | markOnline other ip => exact tracked.markOnline other ip
  | markOffline other => exact tracked.markOffline other
  | resume position ok =>
    unfold presenceStep
    dsimp only
    split
    · exact tracked
    · rename_i call waits
      -- Without the call that finishes, the device settles only if it has no timer.
      have finished : Tracked deviceId { engine with calls := engine.calls.eraseIdx position } := by
        refine tracked.finish fun last closed => ?_
        by_cases own : call.deviceId = deviceId
        · exact fun online => (turns call waits own).2 last closed (.inl online)
        · refine fun online => tracked.remembered.mpr online (tracked.settled ⟨?_, last⟩)
          intro other member
          by_cases same : other = call
          · rwa [same]
          · obtain ⟨index, found⟩ := List.mem_iff_getElem?.mp member
            refine closed other (List.mem_eraseIdx_iff_getElem?.mpr ⟨index, ?_, found⟩)
            rintro rfl
            exact same (Option.some.inj (found.symm.trans waits))
      cases call with
      | markOffline other => exact finished
      | markOnline other ip =>
        cases ok with
        | false => exact finished
        | true =>
          refine finished.goOnline ip (fun own => (turns _ waits own).1 rfl) fun own settled => ?_
          exact (turns _ waits own).2 settled.2 settled.1 (.inr rfl)
  | fire timer =>
    unfold presenceStep
    dsimp only
    split
    · exact tracked
    · -- A timer that fires only writes, which changes neither period.
      refine ⟨tracked.fresh, tracked.owner, ?_, tracked.kept, fun settled => tracked.settled ?_⟩
      · exact tracked.remembered.trans
          (by simp [PresenceEngine.setDeviceOnline, PresenceEngine.record])
      · refine ⟨settled.1, ?_⟩
        simpa [PresenceEngine.setDeviceOnline, PresenceEngine.record] using settled.2

/-- Neither a timer nor a waiting call is about to bring the device online. -/
structure Quiet (deviceId : JsString) (engine : PresenceEngine) : Prop where
  unfired : ∀ timer, ¬ engine.Live deviceId timer
  uncalled : ∀ ip, .markOnline deviceId ip ∉ engine.calls

/-- Without a call of `markOnline` a quiet device stays quiet and is not written online. -/
theorem Quiet.step {engine : PresenceEngine} (quiet : Quiet deviceId engine) {input : PresenceInput}
    (silent : ∀ ip, .markOnline deviceId ip ≠ input) :
    Quiet deviceId (presenceStep engine input) ∧
      ∃ newer, (presenceStep engine input).log = newer ++ engine.log ∧
        ∀ ip, .written deviceId ip true ∉ newer := by
  cases input with
  | markOnline other ip =>
    have different : deviceId ≠ other := fun same => silent ip (by rw [same])
    refine ⟨⟨quiet.unfired, fun ip' member => ?_⟩,
      [.written other ip true, .onlineStarted other], rfl, by simp [different]⟩
    rcases List.mem_append.mp member with before | new
    · exact quiet.uncalled ip' before
    · exact different (PresenceCall.markOnline.inj (List.mem_singleton.mp new)).1
  | markOffline other =>
    refine ⟨⟨fun timer live => quiet.unfired timer (live_of_markOffline live).1,
      fun ip member => ?_⟩, [.written other [] false, .offlineStarted other], ?_, by simp⟩
    · rw [presenceStep, markOffline_calls] at member
      rcases List.mem_append.mp member with before | new
      · exact quiet.uncalled ip before
      · exact nomatch List.mem_singleton.mp new
    · exact markOffline_log engine other
  | resume position ok =>
    unfold presenceStep
    dsimp only
    split
    · exact ⟨quiet, [], rfl, fun _ => List.not_mem_nil⟩
    · rename_i call waits
      have finished : Quiet deviceId { engine with calls := engine.calls.eraseIdx position } :=
        ⟨quiet.unfired, fun ip member => quiet.uncalled ip (List.mem_of_mem_eraseIdx member)⟩
      cases call with
      | markOffline other => exact ⟨finished, [], rfl, fun _ => List.not_mem_nil⟩
      | markOnline other ip =>
        cases ok with
        | false => exact ⟨finished, [], rfl, fun _ => List.not_mem_nil⟩
        | true =>
          -- Only another device can go online.
          refine ⟨⟨fun timer live => ?_, finished.uncalled⟩, [.wentOnline other], rfl, by simp⟩
          rw [PresenceEngine.resume, if_pos rfl, live_resumeMarkOnline] at live
          split at live
          · exact quiet.uncalled ip (live ▸ List.mem_of_getElem? waits)
          · exact quiet.unfired timer live
  | fire timer =>
    unfold presenceStep
    dsimp only
    split
    · exact ⟨quiet, [], rfl, fun _ => List.not_mem_nil⟩
    · rename_i other ip fires
      -- The timer belongs to another device, for which it writes.
      refine ⟨⟨quiet.unfired, quiet.uncalled⟩, [.written other ip true], rfl, fun ip' member => ?_⟩
      obtain ⟨rfl, -⟩ := PresenceEvent.written.inj (List.mem_singleton.mp member)
      exact quiet.unfired timer (by rw [PresenceEngine.Live, fires]; rfl)

/-- Without calls of `markOnline` a quiet device stays offline. -/
theorem Quiet.staysOffline {engine : PresenceEngine} (quiet : Quiet deviceId engine) :
    engine.StaysOffline deviceId := by
  intro later silent ip
  -- What each event logs lies on top of what was logged before.
  have grows : ∃ newer, (Machine.run presenceStep engine later).log = newer ++ engine.log ∧
      ∀ ip, .written deviceId ip true ∉ newer := by
    induction later generalizing engine with
    | nil => exact ⟨[], rfl, fun _ => List.not_mem_nil⟩
    | cons input rest ih =>
      obtain ⟨next, first, logged, unwritten⟩ :=
        quiet.step fun ip same => silent ip (same ▸ List.mem_cons_self)
      obtain ⟨newer, whole, unwritten'⟩ :=
        ih next fun ip member => silent ip (List.mem_cons_of_mem _ member)
      refine ⟨newer ++ first, ?_, by simp [unwritten, unwritten']⟩
      rw [Machine.run_cons, whole, logged, List.append_assoc]
  obtain ⟨newer, logged, unwritten⟩ := grows
  rw [logged, newerThan_append]
  exact unwritten ip

/-- A presence engine that keeps track of the device ends its timers. -/
theorem Tracked.timersEnd {engine : PresenceEngine} (tracked : Tracked deviceId engine) :
    engine.TimersEnd deviceId where
  single first second one two :=
    Option.some.inj ((tracked.kept first one).symm.trans (tracked.kept second two))
  stopped settled := by
    have none (timer : TimerId) (live : engine.Live deviceId timer) : False := by
      have found := tracked.kept timer live
      rw [tracked.settled settled] at found
      cases found
    exact ⟨none, Quiet.staysOffline ⟨none, fun ip member => settled.1 _ member rfl⟩⟩

/-- From a presence engine that keeps track of the device, one event ends in one that ends the
device's timers exactly when the calls take turns. -/
theorem Tracked.step_timersEnd_iff {engine : PresenceEngine} (tracked : Tracked deviceId engine)
    (input : PresenceInput) :
    (presenceStep engine input).TimersEnd deviceId ↔ TakeTurns deviceId engine input := by
  refine ⟨fun ends => ?_, fun turns => (tracked.step turns).timersEnd⟩
  -- Only a call that continues can be out of turn; it would leave a timer that must not be live.
  cases input with
  | resume position ok =>
    intro call waits own
    have stepped : presenceStep engine (.resume position ok) =
        PresenceEngine.resume { engine with calls := engine.calls.eraseIdx position } ok call := by
      simp only [presenceStep, waits]
    rw [stepped] at ends
    -- A device that was online is still served by the timer it got then.
    have older (online : OnlineSince deviceId engine.log) :
        ∃ timer, engine.Live deviceId timer ∧ timer ≠ engine.nextTimer := by
      obtain ⟨timer, found⟩ := Option.ne_none_iff_exists'.mp (tracked.remembered.mpr online)
      refine ⟨timer, tracked.owner _ _ found, ?_⟩
      rintro rfl
      have live := tracked.owner _ _ found
      rw [PresenceEngine.Live, tracked.fresh _ (Nat.le_refl _)] at live
      cases live
    cases call with
    | markOffline other =>
      refine ⟨False.elim, fun last closed online => ?_⟩
      obtain ⟨timer, live, -⟩ := older (online.resolve_right id)
      exact (ends.stopped ⟨closed, last⟩).1 timer live
    | markOnline other ip =>
      cases ok with
      | false =>
        refine ⟨fun answered => absurd answered (by simp [PresenceCall.GoesOnline]),
          fun last closed online => ?_⟩
        obtain ⟨timer, live, -⟩ :=
          older (online.resolve_right (by simp [PresenceCall.GoesOnline]))
        exact (ends.stopped ⟨closed, last⟩).1 timer live
      | true =>
        rw [PresenceEngine.resume, if_pos rfl] at ends
        have new := (live_resumeMarkOnline { engine with calls := engine.calls.eraseIdx position }
          deviceId other ip engine.nextTimer).mpr (by rw [if_pos rfl]; exact own)
        constructor
        · -- The new timer is a second one beside the older.
          intro _ online
          obtain ⟨timer, live, different⟩ := older online
          refine different (ends.single timer engine.nextTimer ?_ new)
          rw [live_resumeMarkOnline, if_neg different]
          exact live
        · -- The new timer is live although the device has settled.
          intro last closed _
          refine (ends.stopped ⟨closed, ?_⟩).1 engine.nextTimer new
          simpa [PresenceEngine.resumeMarkOnline, PresenceEngine.record] using last
  | _ => trivial

end Device

/-- Over every order of calls, answers and timers, the timers of a device end as they should exactly
when the calls for the device take turns. -/
theorem presence_timersEnd_iff (deviceId : JsString) (inputs : List PresenceInput) :
    (∀ earlier, earlier <+: inputs → (presenceRun earlier).TimersEnd deviceId) ↔
      Machine.Always presenceStep (TakeTurns deviceId) .start inputs :=
  Machine.prefixes_iff_always (fun _ input tracked => Tracked.step_timersEnd_iff tracked input)
    (fun _ _ tracked turns => tracked.step turns) tracked_start tracked_start.timersEnd

/-- A device that is marked online again, and one whose `markOnline` waits while it goes offline. -/
def onlineTwice (deviceId : JsString) : List PresenceInput :=
  [.markOnline deviceId [], .resume 0 true, .markOnline deviceId [], .resume 0 true]

def offlineMeanwhile (deviceId : JsString) : List PresenceInput :=
  [.markOnline deviceId [], .markOffline deviceId, .resume 0 true, .resume 0 true]

/-- Two timers are live after the first, and one is live although the device settled offline after
the second. -/
theorem presence_leaks :
    ¬ (presenceRun (onlineTwice [])).TimersEnd [] ∧
      ¬ (presenceRun (offlineMeanwhile [])).TimersEnd [] := by
  refine ⟨fun ends => ?_, fun ends => ?_⟩
  · exact absurd (ends.single 0 1 rfl rfl) (by decide)
  · refine (ends.stopped ⟨?_, ?_⟩).1 0 rfl
    · exact fun _ member => nomatch member
    · unfold OfflineLast
      decide +kernel

end Ykp.Backend
