import Ykp.Backend.ReplayGuard
import Ykp.Firmware.Replay

/-! The replay guards of both ends take the same decisions. -/

namespace Ykp.System

open Firmware Backend SlidingWindow

/-- What is done to a replay guard: an id is checked, or the guard is reset. -/
inductive GuardCall
  | check (packetId : Nat)
  | reset
  deriving DecidableEq, Repr

/-- The server's guard behind a call. -/
def serverGuardStep (guard : ReplayGuard) : GuardCall → ReplayGuard
  | .check packetId => (guard.check packetId).2
  | .reset => ReplayGuard.reset

/-- What the server's guard decides at a call. -/
def serverDecision (guard : ReplayGuard) : GuardCall → Option Bool
  | .check packetId => some (guard.check packetId).1
  | .reset => none

/-- The device's context behind a call. -/
def deviceGuardStep (ctx : YkpReplayCtx) : GuardCall → YkpReplayCtx
  | .check packetId => (ykpReplayCheck ctx packetId).2
  | .reset => ykpReplayReset

/-- What the device's context decides at a call. -/
def deviceDecision (ctx : YkpReplayCtx) : GuardCall → Option Bool
  | .check packetId => some (ykpReplayCheck ctx packetId).1
  | .reset => none

/-- Both guards keep track of the same accepted ids, whatever else they hold. -/
def Alike (guard : ReplayGuard) (ctx : YkpReplayCtx) : Prop :=
  ∃ accepted, guard.Tracks accepted ∧ ctx.Tracks accepted

/-- Guards that keep track of the same ids decide alike. -/
theorem Alike.decides {guard : ReplayGuard} {ctx : YkpReplayCtx} (alike : Alike guard ctx)
    (packetId : Nat) : (guard.check packetId).1 = (ykpReplayCheck ctx packetId).1 := by
  obtain ⟨accepted, server, device⟩ := alike
  -- Both decisions are the one the sliding window takes.
  rw [Bool.eq_iff_iff, (guard.check_refines packetId server).1,
    (ykpReplayCheck_refines packetId device).1]

/-- A call leaves both guards with the same accepted ids again. -/
theorem Alike.step {guard : ReplayGuard} {ctx : YkpReplayCtx} (alike : Alike guard ctx)
    (call : GuardCall) : Alike (serverGuardStep guard call) (deviceGuardStep ctx call) := by
  cases call with
  | check packetId =>
    have same := alike.decides packetId
    obtain ⟨accepted, server, device⟩ := alike
    have server := (guard.check_refines packetId server).2
    have device := (ykpReplayCheck_refines packetId device).2
    -- Deciding alike, they register the id alike.
    rw [← same] at device
    exact ⟨_, server, device⟩
  | reset => exact ⟨[], Backend.tracks_reset, Firmware.tracks_reset⟩

/-- Over every list of checks and resets, the server's guard and the device's context take the same
decision at every step. -/
theorem guards_decide_alike (calls : List GuardCall) :
    Machine.answers serverGuardStep serverDecision ReplayGuard.reset calls =
      Machine.answers deviceGuardStep deviceDecision ykpReplayInit calls := by
  -- The relation is kept by every call, and makes both sides decide alike.
  have keeps (guard : ReplayGuard) (ctx : YkpReplayCtx) (call : GuardCall)
      (alike : Alike guard ctx) := alike.step call
  have same (guard : ReplayGuard) (ctx : YkpReplayCtx) (call : GuardCall)
      (alike : Alike guard ctx) : serverDecision guard call = deviceDecision ctx call := by
    cases call with
    | check packetId => exact congrArg some (alike.decides packetId)
    | reset => rfl
  have initial : Alike ReplayGuard.reset ykpReplayInit :=
    ⟨[], Backend.tracks_reset, Firmware.tracks_reset⟩
  exact Machine.answers_eq_of_simulation keeps same initial calls

end Ykp.System
