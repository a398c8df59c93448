import Mathlib.Data.List.TakeWhile
import Mathlib.Tactic.Common

/-! Buffers of a fixed size whose accesses are checked: writing and reading a range, and strings that
end at a terminator. -/

namespace Buffer

variable {α : Type*}

/-- Items are written from a position on, or nothing is if one of them would fall outside. -/
def store (buffer : List α) (position : Int) (items : List α) : Option (List α) :=
  if 0 ≤ position ∧ position + items.length ≤ buffer.length then
    some (buffer.take position.toNat ++ items ++ buffer.drop (position.toNat + items.length))
  else none

/-- A number of items is read from a position on. -/
def load (buffer : List α) (position count : Int) : Option (List α) :=
  if 0 ≤ position ∧ 0 ≤ count ∧ position + count ≤ buffer.length then
    some ((buffer.drop position.toNat).take count.toNat)
  else none

variable [DecidableEq α]

/-- The string that starts at a position; without a terminator it would be read past the end. -/
def stringAt (stop : α) (buffer : List α) (position : Nat) : Option (List α) :=
  if stop ∈ buffer.drop position then some ((buffer.drop position).takeWhile (· != stop)) else none

/-- The first position of an item in the string at the start, if it occurs there. Reading ends at the
item or at the terminator. -/
def search (stop item : α) (buffer : List α) : Option (Option Nat) :=
  if stop ∈ buffer ∨ item ∈ buffer then
    some ((buffer.takeWhile (· != stop)).findIdx? (· == item))
  else none

omit [DecidableEq α] in
/-- A write within the buffer replaces as many items as it brings. -/
theorem store_append (front items : List α) {rest : List α} (fits : items.length ≤ rest.length) :
    store (front ++ rest) front.length items =
      some (front ++ items ++ rest.drop items.length) := by
  unfold store
  rw [if_pos (by rw [List.length_append]; omega), Int.toNat_natCast, List.take_left,
    ← List.drop_drop, List.drop_left]

omit [DecidableEq α] in
/-- A write at the start. -/
theorem store_zero {buffer items : List α} (fits : items.length ≤ buffer.length) :
    store buffer 0 items = some (items ++ buffer.drop items.length) :=
  store_append [] items fits

omit [DecidableEq α] in
/-- One item is replaced. -/
theorem store_item (front back : List α) (old new : α) :
    store (front ++ old :: back) front.length [new] = some (front ++ new :: back) := by
  rw [store_append front [new] (by simp)]
  simp

omit [DecidableEq α] in
/-- What stands between two parts is read as a whole. -/
theorem load_append (front items back : List α) :
    load (front ++ items ++ back) front.length items.length = some items := by
  unfold load
  rw [if_pos (by simp only [List.length_append]; omega), Int.toNat_natCast, Int.toNat_natCast,
    List.append_assoc, List.drop_left, List.take_left]

omit [DecidableEq α] in
/-- A write keeps the size of the buffer. -/
theorem length_store {buffer items after : List α} {position : Int}
    (stored : store buffer position items = some after) : after.length = buffer.length := by
  unfold store at stored
  split at stored
  · cases stored
    simp only [List.length_append, List.length_take, List.length_drop]
    omega
  · exact absurd stored nofun

/-- In front of a terminator a string is cut as it is without one. -/
theorem takeWhile_terminated (stop : α) (text back : List α) :
    (text ++ stop :: back).takeWhile (· != stop) = text.takeWhile (· != stop) := by
  -- The terminator stops the string if nothing in the text did.
  induction text with
  | nil => simp
  | cons item rest ih =>
    rw [List.cons_append, List.takeWhile_cons, List.takeWhile_cons, ih]

/-- A string without a terminator inside ends at the one behind it. -/
theorem stringAt_append {stop : α} (front : List α) {text : List α} (free : stop ∉ text)
    (back : List α) : stringAt stop (front ++ (text ++ stop :: back)) front.length = some text := by
  unfold stringAt
  rw [List.drop_left, if_pos (by simp), takeWhile_terminated]
  exact congrArg some (List.takeWhile_eq_self_iff.mpr (by
    intro item member
    simpa using fun same : item = stop => free (same ▸ member)))

/-- In front of a terminator an item is looked for in the string alone. -/
theorem search_terminated (stop item : α) (text back : List α) :
    search stop item (text ++ stop :: back) =
      some ((text.takeWhile (· != stop)).findIdx? (· == item)) := by
  unfold search
  rw [if_pos (.inl (by simp)), takeWhile_terminated]

end Buffer
