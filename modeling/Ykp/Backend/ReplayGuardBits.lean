import Ykp.Backend.ReplayGuard
import Ykp.Foundation.Machine

/-! How many bits the server's replay guard holds over whole runs of checks and resets. -/

namespace Ykp.Backend

open SlidingWindow

/-- What a guard is asked: to check a packet id, which has 32 bits, or to start anew. -/
inductive GuardCall
  | check (packetId : Nat) (small : packetId < 2 ^ 32)
  | reset

/-- The guard after one call. -/
def ReplayGuard.called (guard : ReplayGuard) : GuardCall → ReplayGuard
  | .check packetId _ => (guard.check packetId).2
  | .reset => .reset

/-- The guard after a list of calls. -/
def guardRun (calls : List GuardCall) : ReplayGuard :=
  Machine.run ReplayGuard.called .reset calls

/-- A guard, and the ids accepted since its mask was last set to a single bit. -/
structure GuardHistory where
  guard : ReplayGuard
  ids : List Nat

/-- Whether a check sets the mask to a single bit: the first, and one far above the highest id. -/
def ReplayGuard.restarts (guard : ReplayGuard) (packetId : Nat) : Bool :=
  !guard.initialised || decide (guard.highestId + ykpReplayWindowSize ≤ packetId)

/-- One call, with the ids it leaves. -/
def GuardHistory.called (history : GuardHistory) (call : GuardCall) : GuardHistory where
  guard := history.guard.called call
  ids :=
    match call with
    | .reset => []
    | .check packetId _ =>
      if (history.guard.check packetId).1 = false then history.ids
      else if history.guard.restarts packetId then [packetId]
      else packetId :: history.ids

/-- A new guard. -/
def GuardHistory.start : GuardHistory := ⟨.reset, []⟩

/-- An id that moves the window, but not over all of it, stands less than the window size above
every id accepted since the mask was last set to a single bit. -/
def StaysNear (history : GuardHistory) : GuardCall → Prop
  | .reset => True
  | .check packetId _ =>
    history.guard.initialised = true → history.guard.highestId < packetId →
      packetId < history.guard.highestId + ykpReplayWindowSize →
        ∀ earlier ∈ history.ids, packetId < earlier + ykpReplayWindowSize

/-- The mask fits the window. -/
def ReplayGuard.Narrow (guard : ReplayGuard) : Prop := guard.windowBits < 2 ^ 64

/-- The bits of the mask are the ids of the history, counted down from the highest one. -/
structure GuardHistory.Marks (history : GuardHistory) : Prop where
  unused : history.guard.initialised = false → history.guard.windowBits = 0 ∧ history.ids = []
  below : ∀ packetId ∈ history.ids, packetId ≤ history.guard.highestId
  bit : ∀ distance, history.guard.windowBits.testBit distance = true ↔
    ∃ packetId ∈ history.ids, packetId + distance = history.guard.highestId

/-- The mask fits the window exactly when all its ids do. -/
theorem GuardHistory.Marks.narrow_iff {history : GuardHistory} (marks : history.Marks) :
    history.guard.Narrow ↔
      ∀ packetId ∈ history.ids, history.guard.highestId < packetId + ykpReplayWindowSize := by
  unfold ReplayGuard.Narrow
  constructor
  · intro narrow packetId member
    have within := marks.below packetId member
    -- An id further down would have a bit above the window.
    apply Nat.lt_of_not_le
    intro far
    dsimp only [ykpReplayWindowSize] at far
    have set := (marks.bit (history.guard.highestId - packetId)).mpr
      ⟨packetId, member, Nat.add_sub_cancel' within⟩
    have high : 2 ^ 64 ≤ 2 ^ (history.guard.highestId - packetId) :=
      Nat.pow_le_pow_right (by decide) (by omega)
    rw [Nat.testBit_lt_two_pow (Nat.lt_of_lt_of_le narrow high)] at set
    cases set
  · intro near
    apply Nat.lt_pow_two_of_testBit
    intro distance high
    cases set : history.guard.windowBits.testBit distance with
    | false => rfl
    | true =>
      obtain ⟨packetId, member, at_⟩ := (marks.bit distance).mp set
      have bound := near packetId member
      dsimp only [ykpReplayWindowSize] at bound
      omega

/-- A check rejects the id, sets the mask to a single bit, moves it, or sets one more bit in it. -/
theorem ReplayGuard.check_cases (guard : ReplayGuard) (packetId : Nat) :
    (guard.check packetId = (false, guard) ∧
      (guard.initialised = true → packetId ≤ guard.highestId)) ∨
    (guard.restarts packetId = true ∧ guard.check packetId = (true, ⟨packetId, 1, true⟩)) ∨
    (guard.initialised = true ∧ guard.highestId < packetId ∧
      packetId < guard.highestId + ykpReplayWindowSize ∧
      guard.check packetId = (true, { guard with
        highestId := packetId
        windowBits := guard.windowBits <<< (packetId - guard.highestId) ||| 1 })) ∨
    (guard.initialised = true ∧ packetId ≤ guard.highestId ∧
      guard.highestId < packetId + ykpReplayWindowSize ∧
      guard.check packetId = (true, { guard with
        windowBits := guard.windowBits ||| 1 <<< (guard.highestId - packetId) })) := by
  unfold ReplayGuard.check ReplayGuard.restarts
  dsimp only [ykpReplayWindowSize]
  -- The checks in the order of the code: zero, the first id, a new highest one, too old, seen.
  split_ifs with zero fresh above jump old seen
  · exact .inl ⟨rfl, fun _ => zero ▸ Nat.zero_le _⟩
  · exact .inr (.inl ⟨by simp [fresh], rfl⟩)
  · -- A jump over the window starts the mask again, as the first id does.
    have used : guard.initialised = true := by simpa using fresh
    have far : guard.highestId + 64 ≤ packetId := by omega
    exact .inr (.inl ⟨by simp [far], by rw [used]⟩)
  · exact .inr (.inr (.inl ⟨by simpa using fresh, above, by omega, rfl⟩))
  · exact .inl ⟨rfl, fun _ => Nat.le_of_not_lt above⟩
  · exact .inl ⟨rfl, fun _ => Nat.le_of_not_lt above⟩
  · exact .inr (.inr (.inr ⟨by simpa using fresh, Nat.le_of_not_lt above, by omega, rfl⟩))

/-- Moving the mask moves the bits of its ids, and the new id has the lowest bit. -/
theorem GuardHistory.Marks.moved {history : GuardHistory} (marks : history.Marks) {packetId : Nat}
    (above : history.guard.highestId < packetId) (distance : Nat) :
    (history.guard.windowBits <<< (packetId - history.guard.highestId) ||| 1).testBit distance =
        true ↔ ∃ other ∈ packetId :: history.ids, other + distance = packetId := by
  rw [testBit_shifted, Bool.or_eq_true, Bool.and_eq_true, decide_eq_true_eq, decide_eq_true_eq,
    marks.bit]
  -- Each bit moves up as far as the highest id does, so it still marks the same id.
  constructor
  · rintro (rfl | ⟨shifted, other, member, at_⟩)
    · exact ⟨packetId, List.mem_cons_self, rfl⟩
    · exact ⟨other, List.mem_cons_of_mem _ member, by omega⟩
  · rintro ⟨other, member, at_⟩
    cases List.mem_cons.mp member with
    | inl same => exact .inl (by omega)
    | inr earlier =>
      have within := marks.below other earlier
      exact .inr ⟨by omega, other, earlier, by omega⟩

/-- Setting the bit of an id that is not above the highest one adds this id. -/
theorem GuardHistory.Marks.added {history : GuardHistory} (marks : history.Marks) {packetId : Nat}
    (within : packetId ≤ history.guard.highestId) (distance : Nat) :
    (history.guard.windowBits ||| 1 <<< (history.guard.highestId - packetId)).testBit distance =
        true ↔ ∃ other ∈ packetId :: history.ids, other + distance = history.guard.highestId := by
  rw [Nat.testBit_or, Bool.or_eq_true, Nat.one_shiftLeft, Nat.testBit_two_pow, decide_eq_true_eq,
    marks.bit]
  constructor
  · rintro (⟨other, member, at_⟩ | at_)
    · exact ⟨other, List.mem_cons_of_mem _ member, at_⟩
    · exact ⟨packetId, List.mem_cons_self, by omega⟩
  · rintro ⟨other, member, at_⟩
    cases List.mem_cons.mp member with
    | inl same => exact .inr (by omega)
    | inr earlier => exact .inl ⟨other, earlier, at_⟩

/-- A mask with a single bit marks a single id. -/
theorem marks_single (packetId : Nat) : GuardHistory.Marks ⟨⟨packetId, 1, true⟩, [packetId]⟩ where
  unused := by simp
  below := by simp
  bit := by
    intro distance
    rw [testBit_one, decide_eq_true_eq]
    simp only [List.mem_singleton, exists_eq_left]
    omega

/-- A new guard marks no id. -/
theorem marks_start : GuardHistory.start.Marks where
  unused := fun _ => ⟨rfl, rfl⟩
  below := by simp [GuardHistory.start]
  bit := by simp [GuardHistory.start, ReplayGuard.reset]

/-- What a check does to the history: nothing, a restart, a move of the mask, or one more bit. -/
theorem GuardHistory.called_cases (history : GuardHistory) (packetId : Nat)
    (small : packetId < 2 ^ 32) :
    (history.called (.check packetId small) = history ∧
      (history.guard.initialised = true → packetId ≤ history.guard.highestId)) ∨
    (history.guard.restarts packetId = true ∧
      history.called (.check packetId small) = ⟨⟨packetId, 1, true⟩, [packetId]⟩) ∨
    (history.guard.initialised = true ∧ history.guard.highestId < packetId ∧
      packetId < history.guard.highestId + ykpReplayWindowSize ∧
      history.called (.check packetId small) = ⟨{ history.guard with
        highestId := packetId
        windowBits := history.guard.windowBits <<< (packetId - history.guard.highestId) ||| 1 },
        packetId :: history.ids⟩) ∨
    (history.guard.initialised = true ∧ packetId ≤ history.guard.highestId ∧
      history.guard.highestId < packetId + ykpReplayWindowSize ∧
      history.called (.check packetId small) = ⟨{ history.guard with
        windowBits := history.guard.windowBits ||| 1 <<< (history.guard.highestId - packetId) },
        packetId :: history.ids⟩) := by
  -- An id close enough to the highest one of a used guard does not restart the mask.
  have goes_on (used : history.guard.initialised = true)
      (close : packetId < history.guard.highestId + ykpReplayWindowSize) :
      ¬ history.guard.restarts packetId = true := by
    unfold ReplayGuard.restarts
    simp [used, close]
  unfold GuardHistory.called ReplayGuard.called
  obtain ⟨same, within⟩ | ⟨restarts, set⟩ | ⟨used, above, close, set⟩ |
      ⟨used, within, close, set⟩ := history.guard.check_cases packetId
  · refine .inl ⟨?_, within⟩
    simp [same]
  · refine .inr (.inl ⟨restarts, ?_⟩)
    simp [set, restarts]
  · refine .inr (.inr (.inl ⟨used, above, close, ?_⟩))
    simp [set, goes_on used close]
  · refine .inr (.inr (.inr ⟨used, within, close, ?_⟩))
    have below : packetId < history.guard.highestId + ykpReplayWindowSize :=
      Nat.lt_of_le_of_lt within (Nat.lt_add_of_pos_right (by decide))
    simp [set, goes_on used below]

/-- After every call the bits of the mask are still the ids of the history. -/
theorem GuardHistory.Marks.called {history : GuardHistory} (marks : history.Marks)
    (call : GuardCall) : (history.called call).Marks := by
  -- One case for each way a check can go; the ids stay at or below the highest one.
  cases call with
  | reset => exact marks_start
  | check packetId small =>
    obtain ⟨same, -⟩ | ⟨-, set⟩ | ⟨used, above, -, set⟩ | ⟨used, within, -, set⟩ :=
      history.called_cases packetId small
    · rw [same]
      exact marks
    · rw [set]
      exact marks_single packetId
    · rw [set]
      refine ⟨fun fresh => ?_, fun other member => ?_, marks.moved above⟩
      · cases used.symm.trans fresh
      cases List.mem_cons.mp member with
      | inl newest => exact Nat.le_of_eq newest
      | inr earlier => exact Nat.le_of_lt (Nat.lt_of_le_of_lt (marks.below other earlier) above)
    · rw [set]
      refine ⟨fun fresh => ?_, fun other member => ?_, marks.added within⟩
      · cases used.symm.trans fresh
      cases List.mem_cons.mp member with
      | inl newest => exact newest ▸ within
      | inr earlier => exact marks.below other earlier

/-- A call leaves a mask that fits the window exactly when its id stays near the ids of the
history. -/
theorem GuardHistory.Marks.narrow_called {history : GuardHistory} (marks : history.Marks)
    (narrow : history.guard.Narrow) (call : GuardCall) :
    (history.called call).guard.Narrow ↔ StaysNear history call := by
  have after := (marks.called call).narrow_iff
  cases call with
  | reset => exact iff_of_true (Nat.two_pow_pos 64) trivial
  | check packetId small =>
    obtain ⟨same, within⟩ | ⟨restarts, set⟩ | ⟨used, above, close, set⟩ |
        ⟨used, within, close, set⟩ := history.called_cases packetId small
    · -- A rejected id moves nothing.
      rw [same]
      exact iff_of_true narrow fun used above => absurd (within used) (Nat.not_le_of_lt above)
    · -- One bit fits, and a restart does not move the mask that was there.
      rw [set]
      have single : 1 < 2 ^ 64 := by decide
      refine iff_of_true single fun used _ close => ?_
      simp [ReplayGuard.restarts, used, Nat.not_le_of_lt close] at restarts
    · -- The bits of all earlier ids move up, however far they are by now.
      rw [set] at after ⊢
      rw [after]
      simp only [List.forall_mem_cons, StaysNear]
      constructor
      · intro near _ _ _
        exact near.2
      · intro near
        exact ⟨Nat.lt_add_of_pos_right (by decide), near used above close⟩
    · -- The new bit lies inside the window, and the others stay where they are.
      rw [set] at after ⊢
      refine iff_of_true (after.mpr ?_) fun _ above => absurd within (Nat.not_le_of_lt above)
      exact List.forall_mem_cons.mpr ⟨close, marks.narrow_iff.mp narrow⟩

/-- The guard of the history is the guard itself. -/
theorem guard_run (calls : List GuardCall) (history : GuardHistory) :
    (Machine.run GuardHistory.called history calls).guard =
      Machine.run ReplayGuard.called history.guard calls := by
  -- The ids only watch; no call reads them.
  induction calls generalizing history with
  | nil => rfl
  | cons call rest ih =>
    rw [Machine.run_cons, Machine.run_cons, ih]
    rfl

/-- Over every sequence of calls, the mask fits the window in every state reached exactly when every
id that moves it stays less than the window size above the ids it marks. -/
theorem guard_bits_bounded_iff (calls : List GuardCall) :
    (∀ earlier, earlier <+: calls → (guardRun earlier).windowBits < 2 ^ 64) ↔
      Machine.Always GuardHistory.called StaysNear GuardHistory.start calls := by
  have exactly := @Machine.prefixes_iff_always GuardHistory GuardCall GuardHistory.called
    GuardHistory.start (fun history => history.Marks ∧ history.guard.Narrow)
    (fun history => history.guard.Narrow) StaysNear
    (fun history call holds => holds.1.narrow_called holds.2 call)
    (fun history call holds near =>
      ⟨holds.1.called call, (holds.1.narrow_called holds.2 call).mpr near⟩)
    calls ⟨marks_start, Nat.two_pow_pos 64⟩ (Nat.two_pow_pos 64)
  simp only [guard_run] at exactly
  exact exactly

/-- Checks of the ids from one on, in order. -/
def countUp : (count : Nat) → count < 2 ^ 32 → List GuardCall
  | 0, _ => []
  | count + 1, small =>
    countUp count (Nat.lt_of_succ_lt small) ++ [.check (count + 1) small]

/-- Ids that count up from one set one more bit each, and none of them is ever cleared. -/
theorem guardRun_countUp (count : Nat) (small : count + 1 < 2 ^ 32) :
    guardRun (countUp (count + 1) small) = ⟨count + 1, 2 ^ (count + 1) - 1, true⟩ := by
  -- The last check finds a guard whose bits are all set.
  induction count with
  | zero => rfl
  | succ count ih =>
    rw [countUp, guardRun, Machine.run_append, ← guardRun, ih]
    -- Moving all ones up by one and setting the lowest bit gives one more of them.
    have ones : (2 ^ (count + 1) - 1) <<< 1 ||| 1 = 2 ^ (count + 2) - 1 := by
      have positive := Nat.two_pow_pos (count + 1)
      have doubled : 2 ^ (count + 2) = 2 ^ (count + 1) * 2 := Nat.pow_succ 2 (count + 1)
      rw [← Nat.shiftLeft_add_eq_or_of_lt (by decide), Nat.shiftLeft_eq]
      omega
    simp [ReplayGuard.called, ReplayGuard.check, ykpReplayWindowSize, ones]

/-- Sixty-five ids in order leave a mask of sixty-five bits. -/
theorem guard_bits_outgrow_window :
    ¬ ∀ earlier, earlier <+: countUp 65 (by decide) → (guardRun earlier).windowBits < 2 ^ 64 := by
  intro bounded
  have whole := bounded _ (List.prefix_refl _)
  rw [guardRun_countUp] at whole
  exact absurd whole (by decide)

end Ykp.Backend
