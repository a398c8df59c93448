import Mathlib.Computability.StateTransition
import Mathlib.Data.Finset.Card

/-! Walks that take one step at a time: when they end, and within how many steps. -/

namespace Walk

open StateTransition Relation

variable {State : Type*}

/-- The state a walk is in after a number of steps, unless it has ended before. -/
def after (next : State → Option State) : Nat → State → Option State
  | 0, state => some state
  | steps + 1, state => (next state).bind (after next steps)

/-- A walk ends. -/
def Ends (next : State → Option State) (start : State) : Prop :=
  ∃ steps, after next steps start = none

variable {next : State → Option State} {start : State}

@[simp] theorem after_zero (state : State) : after next 0 state = some state := rfl

theorem after_succ (steps : Nat) (state : State) :
    after next (steps + 1) state = (next state).bind (after next steps) := rfl

/-- The states a walk is in are those it reaches. -/
theorem reaches_iff_after {state : State} :
    Reaches next start state ↔ ∃ steps, after next steps start = some state := by
  constructor
  · intro reached
    induction reached using ReflTransGen.head_induction_on with
    | refl => exact ⟨0, rfl⟩
    | head step _ ih =>
      obtain ⟨steps, there⟩ := ih
      exact ⟨steps + 1, by rw [after_succ, Option.mem_def.mp step, Option.bind_some, there]⟩
  · rintro ⟨steps, there⟩
    -- The first step is taken off the walk.
    induction steps generalizing start with
    | zero =>
      obtain rfl := Option.some.inj there
      exact .refl
    | succ steps ih =>
      obtain ⟨second, step, rest⟩ := Option.bind_eq_some_iff.mp there
      exact .head step (ih rest)

/-- A walk that ends goes on from no state to itself. -/
theorem Ends.no_cycle (ends : Ends next start) {state : State} (reached : Reaches next start state) :
    ¬ Reaches₁ next state state := by
  obtain ⟨steps, ended⟩ := ends
  -- The same walk, started one step later, ends one step earlier.
  have here {steps : Nat} {state : State} (ended : after next steps state = none) :
      ¬ Reaches₁ next state state := by
    intro cycle
    induction steps generalizing state with
    | zero => cases ended
    | succ steps ih =>
      obtain ⟨second, step, back⟩ := TransGen.head'_iff.mp cycle
      rw [after_succ, Option.mem_def.mp step, Option.bind_some] at ended
      exact ih ended (TransGen.tail' back step)
  induction steps generalizing start with
  | zero => cases ended
  | succ steps ih =>
    rcases ReflTransGen.cases_head reached with rfl | ⟨second, step, rest⟩
    · exact here ended
    · rw [after_succ, Option.mem_def.mp step, Option.bind_some] at ended
      exact ih rest ended

/-- A walk without cycles, of which only finitely many states go on, has ended by one step more than
there are such states. -/
theorem after_card_of_no_cycle (going : Finset State)
    (confined : ∀ state second, Reaches next start state → second ∈ next state → state ∈ going)
    (acyclic : ∀ state, Reaches next start state → ¬ Reaches₁ next state state) :
    after next (going.card + 1) start = none := by
  classical
  -- A state that was left is never reached again, so it can be taken out.
  induction count : going.card generalizing going start with
  | zero =>
    cases step : next start with
    | none => rw [after_succ, step, Option.bind_none]
    | some second =>
      have inside := confined start second .refl step
      rw [Finset.card_eq_zero.mp count] at inside
      cases inside
  | succ rest ih =>
    cases step : next start with
    | none => rw [after_succ, step, Option.bind_none]
    | some second =>
      have inside := confined start second .refl step
      rw [after_succ, step, Option.bind_some]
      refine ih (going.erase start) (fun state third reached goes => ?_)
        (fun state reached => acyclic state (.head step reached)) ?_
      · refine Finset.mem_erase.mpr ⟨?_, confined state third (.head step reached) goes⟩
        rintro rfl
        exact acyclic state .refl (TransGen.head' step reached)
      · rw [Finset.card_erase_of_mem inside, count, Nat.add_sub_cancel]

/-- A walk of which only finitely many states go on ends exactly when it has no cycle. -/
theorem ends_iff_no_cycle (going : Finset State)
    (confined : ∀ state second, Reaches next start state → second ∈ next state → state ∈ going) :
    Ends next start ↔ ∀ state, Reaches next start state → ¬ Reaches₁ next state state :=
  ⟨fun ends _ reached => ends.no_cycle reached,
    fun acyclic => ⟨_, after_card_of_no_cycle going confined acyclic⟩⟩

/-- A walk whose steps all lead upwards has no cycle. -/
theorem no_cycle_of_grows (height : State → Nat)
    (grows : ∀ state second, Reaches next start state → second ∈ next state →
      height state < height second) {state : State} (reached : Reaches next start state) :
    ¬ Reaches₁ next state state := by
  have higher {last : State} (path : Reaches₁ next state last) : height state < height last := by
    induction path with
    | single step => exact grows _ _ reached step
    | tail path step ih =>
      exact Nat.lt_trans ih (grows _ _ (reached.trans path.to_reflTransGen) step)
  exact fun cycle => Nat.lt_irrefl _ (higher cycle)

end Walk
