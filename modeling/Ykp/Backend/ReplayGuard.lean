import Ykp.Constants
import Ykp.Foundation.SlidingWindow

/-! The server's replay guard, and that it refines the sliding window over accepted numbers. -/

namespace Ykp.Backend

open SlidingWindow

/-- The guard: the highest packet id seen and an unbounded mask of the ids below it. -/
structure ReplayGuard where
  highestId : Nat
  windowBits : Nat
  initialised : Bool
  deriving DecidableEq, Repr

/-- A new guard; resetting one gives the same. -/
def ReplayGuard.reset : ReplayGuard := ⟨0, 0, false⟩

/-- Whether a packet id is valid, and the guard that has registered it. -/
def ReplayGuard.check (guard : ReplayGuard) (packetId : Nat) : Bool × ReplayGuard :=
  -- The id zero is reserved.
  if packetId = 0 then (false, guard)
  else if guard.initialised = false then (true, ⟨packetId, 1, true⟩)
  else if guard.highestId < packetId then
    let shift := packetId - guard.highestId
    -- A shifted mask keeps the bits that leave the window.
    let bits := if ykpReplayWindowSize ≤ shift then 1 else guard.windowBits <<< shift ||| 1
    (true, { guard with highestId := packetId, windowBits := bits })
  else
    let diff := guard.highestId - packetId
    if ykpReplayWindowSize ≤ diff then (false, guard)
    else if guard.windowBits &&& 1 <<< diff ≠ 0 then (false, guard)
    else (true, { guard with windowBits := guard.windowBits ||| 1 <<< diff })

/-- The mask a guard holds. -/
def ReplayGuard.mask (guard : ReplayGuard) : Mask := ⟨guard.highestId, guard.windowBits⟩

/-- A guard keeps track of the ids accepted since it was new. -/
def ReplayGuard.Tracks (guard : ReplayGuard) : List Nat → Prop
  | [] => guard.initialised = false
  | accepted => guard.initialised = true ∧ Represents ykpReplayWindowSize guard.mask accepted

/-- A new guard has accepted nothing. -/
theorem tracks_reset : ReplayGuard.reset.Tracks [] := rfl

/-- The mask a check goes by: a guard that was not used yet goes by an empty one. -/
def ReplayGuard.window (guard : ReplayGuard) : Mask :=
  if guard.initialised then guard.mask else ⟨0, 0⟩

/-- A check accepts exactly the ids its mask admits. -/
theorem ReplayGuard.check_iff (guard : ReplayGuard) (packetId : Nat) :
    (guard.check packetId).1 = true ↔ guard.window.Admits ykpReplayWindowSize packetId := by
  unfold ReplayGuard.check Mask.Admits ReplayGuard.window ReplayGuard.mask
  -- The checks in the order of the code: zero, the first id, a new highest one, too old, seen.
  by_cases zero : packetId = 0
  · simp [zero]
  cases used : guard.initialised with
  | false => simp [zero, Nat.pos_of_ne_zero zero]
  | true =>
    by_cases above : guard.highestId < packetId
    · simp [zero, above]
    by_cases old : ykpReplayWindowSize ≤ guard.highestId - packetId
    · simp [zero, above, old, Nat.not_lt_of_le old]
    have bit := and_bit_ne_zero guard.windowBits (guard.highestId - packetId)
    cases seen : guard.windowBits.testBit (guard.highestId - packetId) <;>
      simp [zero, above, old, Nat.lt_of_not_le old, seen, bit]

/-- A rejected id leaves the guard. -/
theorem ReplayGuard.check_rejected {guard : ReplayGuard} {packetId : Nat}
    (rejected : (guard.check packetId).1 = false) : (guard.check packetId).2 = guard := by
  unfold ReplayGuard.check at rejected ⊢
  dsimp only at rejected ⊢
  split_ifs at rejected ⊢ <;> rfl

/-- An accepted id is registered, and the guard is in use from then on. -/
theorem ReplayGuard.check_registers {guard : ReplayGuard} {packetId : Nat}
    (accepted : (guard.check packetId).1 = true) :
    (guard.check packetId).2.initialised = true ∧
      guard.window.Registers ykpReplayWindowSize packetId (guard.check packetId).2.mask := by
  -- A guard in use goes by its own mask.
  have own (used : ¬ guard.initialised = false) : guard.window = guard.mask :=
    if_pos (by simpa using used)
  unfold ReplayGuard.check at accepted ⊢
  dsimp only at accepted ⊢
  split_ifs at accepted ⊢ with zero fresh above jump old seen
  · -- The first id finds the empty mask.
    have empty : guard.window = ⟨0, 0⟩ := if_neg (by simp [fresh])
    rw [empty]
    exact ⟨rfl, registers_first zero⟩
  · -- A new highest id jumps over the window, or moves it.
    rw [own fresh]
    exact ⟨by simpa using fresh, registers_jump above jump⟩
  · rw [own fresh]
    exact ⟨by simpa using fresh, registers_shift above⟩
  · -- Any other accepted id lies inside the window.
    rw [own fresh]
    exact ⟨by simpa using fresh, registers_mark (Nat.le_of_not_lt above)⟩

/-- An accepted id is not accepted again. -/
theorem ReplayGuard.check_accepted {guard : ReplayGuard} {packetId : Nat}
    (accepted : (guard.check packetId).1 = true) :
    ¬ (guard.check packetId).2.window.Admits ykpReplayWindowSize packetId := by
  obtain ⟨used, registers⟩ := ReplayGuard.check_registers accepted
  rw [ReplayGuard.window, if_pos used]
  exact registers.spent (by decide)

/-- A guard that keeps track of ids does so by the mask it goes by. -/
theorem ReplayGuard.Tracks.window {guard : ReplayGuard} {accepted : List Nat}
    (tracks : guard.Tracks accepted) : guard.window.Tracks ykpReplayWindowSize accepted := by
  cases accepted with
  | nil =>
    have fresh : guard.initialised = false := tracks
    exact if_neg (by simp [fresh])
  | cons latest earlier =>
    obtain ⟨used, represents⟩ := tracks
    rw [ReplayGuard.window, if_pos used]
    exact represents

/-- A check accepts exactly the ids the sliding window accepts, and registers them. -/
theorem ReplayGuard.check_refines {guard : ReplayGuard} {accepted : List Nat} (packetId : Nat)
    (tracks : guard.Tracks accepted) :
    ((guard.check packetId).1 = true ↔ Accepts ykpReplayWindowSize accepted packetId) ∧
      (guard.check packetId).2.Tracks
        (if (guard.check packetId).1 then packetId :: accepted else accepted) := by
  have admits := guard.check_iff packetId
  refine ⟨admits.trans (tracks.window.admits_iff (by decide)), ?_⟩
  -- A rejected id changes neither the guard nor the list.
  cases verdict : (guard.check packetId).1 with
  | false =>
    rw [ReplayGuard.check_rejected verdict]
    exact tracks
  | true =>
    obtain ⟨used, registers⟩ := ReplayGuard.check_registers verdict
    exact ⟨used, tracks.window.registers (admits.mp verdict).1 registers⟩

end Ykp.Backend
