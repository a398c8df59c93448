import Mathlib.Data.List.Basic
import Mathlib.Data.Nat.Find
import Mathlib.Tactic.Common

/-! Lists cut into numbered pieces, each with room for so many items. -/

namespace Pieces

variable {α : Type*}

/-- So many pieces from the start of a list, the first one with a given number. -/
def cut (room : Nat → Nat) : Nat → Nat → List α → List (List α)
  | 0, _, _ => []
  | count + 1, number, items =>
    items.take (room number) :: cut room count (number + 1) (items.drop (room number))

/-- What is left behind so many pieces. -/
def left (room : Nat → Nat) : Nat → Nat → List α → List α
  | 0, _, items => items
  | count + 1, number, items => left room count (number + 1) (items.drop (room number))

variable {room : Nat → Nat}

@[simp] theorem cut_length (count number : Nat) (items : List α) :
    (cut room count number items).length = count := by
  -- Every turn cuts one piece.
  induction count generalizing number items with
  | zero => rfl
  | succ count ih => rw [cut, List.length_cons, ih]

/-- The pieces and what is left are the list, in order. -/
theorem cut_flatten (count number : Nat) (items : List α) :
    (cut room count number items).flatten ++ left room count number items = items := by
  -- What one turn takes and what it leaves to the others are the list.
  induction count generalizing number items with
  | zero => rfl
  | succ count ih =>
    rw [cut, left, List.flatten_cons, List.append_assoc, ih, List.take_append_drop]

/-- No piece exceeds the room of its number. -/
theorem cut_getElem_length_le {count number : Nat} {items : List α} {index : Nat}
    (inside : index < (cut room count number items).length) :
    ((cut room count number items)[index]).length ≤ room (number + index) := by
  induction count generalizing number items index with
  | zero => cases inside
  | succ count ih =>
    -- The first piece, or one of those behind it.
    cases index with
    | zero => exact List.length_take_le _ _
    | succ index =>
      have behind : index < (cut room count (number + 1) (items.drop (room number))).length := by
        simpa [cut] using inside
      have shifted : number + (index + 1) = number + 1 + index := by omega
      rw [shifted]
      exact ih behind

/-- Nothing is left behind pieces with room for as many items as the list has. -/
theorem left_eq_nil_of_le {step count number : Nat} {items : List α}
    (wide : ∀ index < count, step ≤ room (number + index)) (enough : items.length ≤ count * step) :
    left room count number items = [] := by
  -- Every turn takes one step off the list, or all that is left.
  induction count generalizing number items with
  | zero =>
    rw [Nat.zero_mul] at enough
    exact List.eq_nil_of_length_eq_zero (Nat.le_zero.mp enough)
  | succ count ih =>
    have first := wide 0 (Nat.succ_pos count)
    rw [Nat.add_zero] at first
    rw [left]
    apply ih
    · intro index small
      have later := wide (index + 1) (by omega)
      rwa [Nat.add_right_comm]
    · rw [Nat.succ_mul] at enough
      rw [List.length_drop]
      omega

/-- Wider pieces leave nothing of a list that is no longer either. -/
theorem left_eq_nil_of_wider {room' : Nat → Nat} {count number : Nat} {items items' : List α}
    (wider : ∀ index < count, room (number + index) ≤ room' (number + index))
    (shorter : items'.length ≤ items.length) (none : left room count number items = []) :
    left room' count number items' = [] := by
  -- After every turn the list behind the wider pieces is still no longer than the other one.
  induction count generalizing number items items' with
  | zero =>
    have empty : items = [] := none
    rw [empty] at shorter
    exact List.eq_nil_of_length_eq_zero (Nat.le_zero.mp shorter)
  | succ count ih =>
    have first := wider 0 (Nat.succ_pos count)
    rw [left] at none ⊢
    refine ih ?_ ?_ none
    · intro index small
      have later := wider (index + 1) (by omega)
      rwa [Nat.add_right_comm]
    · rw [Nat.add_zero] at first
      rw [List.length_drop, List.length_drop]
      omega

/-- When so many pieces leave nothing, there is a first number of pieces that does. -/
theorem exists_first_left {count number : Nat} {items : List α}
    (none : left room count number items = []) :
    ∃ least ≤ count, left room least number items = [] ∧
      ∀ fewer < least, left room fewer number items ≠ [] := by
  classical
  have exists_ : ∃ pieces, left room pieces number items = [] := ⟨count, none⟩
  exact ⟨Nat.find exists_, Nat.find_min' exists_ none, Nat.find_spec exists_,
    fun fewer below => Nat.find_min exists_ below⟩

end Pieces
