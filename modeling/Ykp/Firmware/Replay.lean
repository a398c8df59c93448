import Ykp.Constants
import Ykp.Foundation.Machine
import Ykp.Foundation.SlidingWindow

/-! The firmware's replay window, and that it refines the sliding window over accepted numbers. -/

namespace Ykp.Firmware

open SlidingWindow

/-- The replay context: the highest packet id seen and a 64-bit mask of the ids below it. -/
structure YkpReplayCtx where
  highestId : Nat
  windowBits : Nat
  initialised : Bool
  deriving DecidableEq, Repr

/-- A fresh context. -/
def ykpReplayInit : YkpReplayCtx := ⟨0, 0, true⟩

/-- A new session starts with a fresh context. -/
def ykpReplayReset : YkpReplayCtx := ykpReplayInit

/-- The context a check works on: an uninitialised one is initialised first. -/
def YkpReplayCtx.ready (ctx : YkpReplayCtx) : YkpReplayCtx :=
  if ctx.initialised then ctx else ykpReplayInit

/-- Whether a packet id is valid, and the context that has registered it. -/
def ykpReplayCheck (ctx : YkpReplayCtx) (pktId : Nat) : Bool × YkpReplayCtx :=
  let ctx := ctx.ready
  -- The id zero is reserved.
  if pktId = 0 then (false, ctx)
  -- The first packet is accepted.
  else if ctx.highestId = 0 ∧ ctx.windowBits = 0 then
    (true, { ctx with highestId := pktId, windowBits := 1 })
  else if ctx.highestId < pktId then
    let shift := pktId - ctx.highestId
    -- Too large a jump clears the window completely.
    let bits := if ykpReplayWindowSize ≤ shift then 1
      else ctx.windowBits <<< shift % 2 ^ 64 ||| 1
    (true, { ctx with highestId := pktId, windowBits := bits })
  else
    let diff := ctx.highestId - pktId
    if ykpReplayWindowSize ≤ diff then (false, ctx)
    else if ctx.windowBits &&& 1 <<< diff ≠ 0 then (false, ctx)
    else (true, { ctx with windowBits := ctx.windowBits ||| 1 <<< diff })

/-- The mask a context holds. -/
def YkpReplayCtx.mask (ctx : YkpReplayCtx) : Mask := ⟨ctx.highestId, ctx.windowBits⟩

/-- A context keeps track of the ids accepted since it was fresh. -/
def YkpReplayCtx.Tracks (ctx : YkpReplayCtx) : List Nat → Prop
  | [] => ctx.ready.highestId = 0 ∧ ctx.ready.windowBits = 0
  | accepted => ctx.initialised = true ∧ Represents ykpReplayWindowSize ctx.mask accepted

/-- A fresh context has accepted nothing. -/
theorem tracks_reset : ykpReplayReset.Tracks [] := ⟨rfl, rfl⟩

/-- A context that was made ready is ready. -/
@[simp] theorem ready_ready (ctx : YkpReplayCtx) : ctx.ready.ready = ctx.ready := by
  unfold YkpReplayCtx.ready
  split <;> simp_all [ykpReplayInit]

@[simp] theorem ready_initialised (ctx : YkpReplayCtx) : ctx.ready.initialised = true := by
  unfold YkpReplayCtx.ready
  split <;> simp_all [ykpReplayInit]

/-- The mask a check goes by. -/
def YkpReplayCtx.window (ctx : YkpReplayCtx) : Mask := ctx.ready.mask

/-- A check accepts exactly the ids its mask admits. -/
theorem ykpReplayCheck_iff (ctx : YkpReplayCtx) (pktId : Nat) :
    (ykpReplayCheck ctx pktId).1 = true ↔ ctx.window.Admits ykpReplayWindowSize pktId := by
  unfold ykpReplayCheck Mask.Admits YkpReplayCtx.window YkpReplayCtx.mask
  -- The checks in the order of the code; an empty context takes any id for its first one.
  by_cases zero : pktId = 0
  · simp [zero]
  by_cases first : ctx.ready.highestId = 0 ∧ ctx.ready.windowBits = 0
  · simp [zero, first, Nat.pos_of_ne_zero zero]
  by_cases above : ctx.ready.highestId < pktId
  · simp [zero, first, above]
  by_cases old : ykpReplayWindowSize ≤ ctx.ready.highestId - pktId
  · simp [zero, first, above, old, Nat.not_lt_of_le old]
  have bit := and_bit_ne_zero ctx.ready.windowBits (ctx.ready.highestId - pktId)
  cases seen : ctx.ready.windowBits.testBit (ctx.ready.highestId - pktId) <;>
    simp [zero, first, above, old, Nat.lt_of_not_le old, seen, bit]

/-- A rejected id leaves the window. -/
theorem ykpReplayCheck_rejected {ctx : YkpReplayCtx} {pktId : Nat}
    (rejected : (ykpReplayCheck ctx pktId).1 = false) : (ykpReplayCheck ctx pktId).2 = ctx.ready := by
  unfold ykpReplayCheck at rejected ⊢
  dsimp only at rejected ⊢
  split_ifs at rejected ⊢ <;> rfl

/-- An accepted id is registered. -/
theorem ykpReplayCheck_registers {ctx : YkpReplayCtx} {pktId : Nat}
    (accepted : (ykpReplayCheck ctx pktId).1 = true) :
    ctx.window.Registers ykpReplayWindowSize pktId (ykpReplayCheck ctx pktId).2.mask := by
  unfold ykpReplayCheck at accepted ⊢
  dsimp only at accepted ⊢
  split_ifs at accepted ⊢ with zero first above jump old seen
  · -- The first id finds the empty mask.
    have empty : ctx.window = ⟨0, 0⟩ := by
      rw [YkpReplayCtx.window, YkpReplayCtx.mask, first.1, first.2]
    rw [empty]
    exact registers_first zero
  · -- A new highest id jumps over the window, or moves it.
    exact registers_jump above jump
  · exact registers_cut above
  · -- Any other accepted id lies inside the window.
    exact registers_mark (Nat.le_of_not_lt above)

/-- The context a check leaves behind is ready. -/
theorem ykpReplayCheck_initialised (ctx : YkpReplayCtx) (pktId : Nat) :
    (ykpReplayCheck ctx pktId).2.initialised = true := by
  have ready := ready_initialised ctx
  unfold ykpReplayCheck
  dsimp only
  split_ifs <;> exact ready

/-- A ready context goes by its own mask. -/
theorem YkpReplayCtx.window_own {ctx : YkpReplayCtx} (initialised : ctx.initialised = true) :
    ctx.window = ctx.mask := by
  rw [YkpReplayCtx.window, YkpReplayCtx.ready, if_pos initialised]

/-- An accepted id is not accepted again. -/
theorem ykpReplayCheck_accepted {ctx : YkpReplayCtx} {pktId : Nat}
    (accepted : (ykpReplayCheck ctx pktId).1 = true) :
    ¬ (ykpReplayCheck ctx pktId).2.window.Admits ykpReplayWindowSize pktId := by
  rw [YkpReplayCtx.window_own (ykpReplayCheck_initialised ctx pktId)]
  exact (ykpReplayCheck_registers accepted).spent (by decide)

/-- A check keeps the mask of a context grounded. -/
theorem ykpReplayCheck_grounded {ctx : YkpReplayCtx} (pktId : Nat)
    (grounded : ctx.ready.mask.Grounded ykpReplayWindowSize) :
    (ykpReplayCheck ctx pktId).2.ready.mask.Grounded ykpReplayWindowSize := by
  cases verdict : (ykpReplayCheck ctx pktId).1 with
  | false =>
    rw [ykpReplayCheck_rejected verdict, ready_ready]
    exact grounded
  | true =>
    have own := YkpReplayCtx.window_own (ykpReplayCheck_initialised ctx pktId)
    rw [YkpReplayCtx.window] at own
    rw [own]
    exact grounded.registers (ykpReplayCheck_registers verdict)

/-- A context that keeps track of ids does so by the mask it goes by. -/
theorem YkpReplayCtx.Tracks.window {ctx : YkpReplayCtx} {accepted : List Nat}
    (tracks : ctx.Tracks accepted) : ctx.window.Tracks ykpReplayWindowSize accepted := by
  cases accepted with
  | nil =>
    obtain ⟨highest, bits⟩ := tracks
    show ctx.window = ⟨0, 0⟩
    rw [YkpReplayCtx.window, YkpReplayCtx.mask, highest, bits]
  | cons latest earlier =>
    obtain ⟨initialised, represents⟩ := tracks
    rw [YkpReplayCtx.window_own initialised]
    exact represents

/-- Making a context ready changes nothing it keeps track of. -/
theorem YkpReplayCtx.Tracks.ready {ctx : YkpReplayCtx} {accepted : List Nat}
    (tracks : ctx.Tracks accepted) : ctx.ready.Tracks accepted := by
  cases accepted with
  | nil =>
    show ctx.ready.ready.highestId = 0 ∧ ctx.ready.ready.windowBits = 0
    rw [ready_ready]
    exact tracks
  | cons latest earlier =>
    have same : ctx.ready = ctx := if_pos tracks.1
    rw [same]
    exact tracks

/-- A check accepts exactly the ids the sliding window accepts, and registers them. -/
theorem ykpReplayCheck_refines {ctx : YkpReplayCtx} {accepted : List Nat} (pktId : Nat)
    (tracks : ctx.Tracks accepted) :
    ((ykpReplayCheck ctx pktId).1 = true ↔ Accepts ykpReplayWindowSize accepted pktId) ∧
      (ykpReplayCheck ctx pktId).2.Tracks
        (if (ykpReplayCheck ctx pktId).1 then pktId :: accepted else accepted) := by
  have admits := ykpReplayCheck_iff ctx pktId
  refine ⟨admits.trans (tracks.window.admits_iff (by decide)), ?_⟩
  -- A rejected id leaves the context as it was made ready.
  cases verdict : (ykpReplayCheck ctx pktId).1 with
  | false =>
    rw [ykpReplayCheck_rejected verdict]
    exact tracks.ready
  | true =>
    exact ⟨ykpReplayCheck_initialised ctx pktId,
      tracks.window.registers (admits.mp verdict).1 (ykpReplayCheck_registers verdict)⟩

/-- A context, and the ids its checks have accepted, the latest first. -/
structure ReplayHistory where
  ctx : YkpReplayCtx
  accepted : List Nat
  deriving DecidableEq, Repr

/-- One call of the check. -/
def ReplayHistory.feed (history : ReplayHistory) (pktId : Nat) : ReplayHistory :=
  let checked := ykpReplayCheck history.ctx pktId
  -- Only an id for which the call returned true joins the accepted ones.
  ⟨checked.2, if checked.1 then pktId :: history.accepted else history.accepted⟩

/-- The calls with a list of ids since the initialisation, the first id first. -/
def replayRun (ids : List Nat) : ReplayHistory :=
  Machine.run ReplayHistory.feed ⟨ykpReplayInit, []⟩ ids

/-- The context keeps track of the ids accepted so far, and its mask is grounded. -/
structure ReplayHistory.Exact (history : ReplayHistory) : Prop where
  tracks : history.ctx.Tracks history.accepted
  grounded : history.ctx.ready.mask.Grounded ykpReplayWindowSize

/-- Every history of calls is exact. -/
theorem replayRun_exact (ids : List Nat) : (replayRun ids).Exact := by
  have keeps (history : ReplayHistory) (pktId : Nat) (exact_ : history.Exact) :
      (history.feed pktId).Exact :=
    ⟨(ykpReplayCheck_refines pktId exact_.tracks).2, ykpReplayCheck_grounded pktId exact_.grounded⟩
  have initial : ReplayHistory.Exact ⟨ykpReplayInit, []⟩ := by
    refine ⟨tracks_reset, fun distance _ set => ?_⟩
    -- No bit of a fresh context is set.
    simp [YkpReplayCtx.mask, YkpReplayCtx.ready, ykpReplayInit] at set
  exact Machine.invariant_reached keeps ids initial

/-- The bits of an exact history are the accepted ids, counted down from the highest. -/
theorem ReplayHistory.Exact.bit_iff {history : ReplayHistory} (exact_ : history.Exact)
    {distance : Nat} (inside : distance < ykpReplayWindowSize) :
    history.ctx.ready.windowBits.testBit distance = true ↔
      ∃ pktId ∈ history.accepted, pktId + distance = history.ctx.ready.highestId := by
  obtain ⟨tracks, grounded⟩ := exact_
  -- Before the first accepted id no bit is set; from then on the mask represents the list.
  cases accepted : history.accepted with
  | nil =>
    rw [accepted] at tracks
    simp [tracks.2]
  | cons latest earlier =>
    rw [accepted] at tracks
    obtain ⟨initialised, represents⟩ := tracks
    have same : history.ctx.ready = history.ctx := if_pos initialised
    rw [same] at grounded ⊢
    exact represents.bit_iff grounded inside

/-- Whatever ids were checked since the initialisation, the next call accepts exactly the ids that
are not zero, were not accepted before, and lie less than the window size below the highest accepted
one; and the context holds this highest id and one bit for each accepted id of the window. -/
theorem replay_window_exact (ids : List Nat) (pktId : Nat) :
    let history : ReplayHistory := replayRun ids
    ((ykpReplayCheck history.ctx pktId).1 = true ↔
        pktId ≠ 0 ∧ pktId ∉ history.accepted ∧
          ∀ highest ∈ history.accepted.max?, highest < pktId + ykpReplayWindowSize) ∧
      history.ctx.highestId = history.accepted.max?.getD 0 ∧
      ∀ k < ykpReplayWindowSize, history.ctx.windowBits.testBit k = true ↔
        ∃ accepted ∈ history.accepted, accepted + k = history.ctx.highestId := by
  intro history
  have exact_ : history.Exact := replayRun_exact ids
  -- The initialisation has set the flag, and no call clears it.
  have ready : history.ctx.ready = history.ctx := by
    have keeps (history : ReplayHistory) (pktId : Nat) (_ : history.ctx.initialised = true) :
        (history.feed pktId).ctx.initialised = true := ykpReplayCheck_initialised _ _
    exact if_pos (Machine.invariant_reached keeps ids rfl)
  have bits := @ReplayHistory.Exact.bit_iff history exact_
  rw [ready] at bits
  refine ⟨?_, ?_, fun k inside => bits inside⟩
  · rw [(ykpReplayCheck_refines pktId exact_.tracks).1, accepts_iff_max]
  · have tracks := exact_.tracks
    cases accepted : history.accepted with
    | nil =>
      rw [accepted] at tracks
      rw [← ready]
      exact tracks.1
    | cons latest earlier =>
      rw [accepted] at tracks
      exact (congrArg (Option.getD · 0) tracks.2.max).symm

end Ykp.Firmware
