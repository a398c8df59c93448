import Mathlib.Logic.Function.Basic
import Mathlib.Tactic.Common

/-! Event logs kept newest entry first: what each entry rests on, and what happened since when. -/

namespace History

variable {Event : Type*}

/-- Every entry of a log stands in a relation to the entries older than it. -/
def Justified (rel : List Event → Event → Prop) : List Event → Prop
  | [] => True
  -- The newest entry sees the whole older log.
  | event :: older => rel older event ∧ Justified rel older

instance decidableJustified (rel : List Event → Event → Prop)
    [∀ older event, Decidable (rel older event)] :
    (log : List Event) → Decidable (Justified rel log)
  | [] => .isTrue trivial
  | event :: older =>
    have := decidableJustified rel older
    inferInstanceAs (Decidable (rel older event ∧ Justified rel older))

@[simp] theorem justified_nil {rel : List Event → Event → Prop} : Justified rel [] := trivial

@[simp] theorem justified_cons {rel : List Event → Event → Prop} (event : Event)
    (older : List Event) :
    Justified rel (event :: older) ↔ rel older event ∧ Justified rel older := Iff.rfl

/-- Entries that the relation does not constrain can be put on top of a justified log. -/
theorem justified_append {rel : List Event → Event → Prop} {newer log : List Event}
    (free : ∀ event ∈ newer, ∀ older, rel older event) :
    Justified rel (newer ++ log) ↔ Justified rel log := by
  -- The newer entries are peeled off one at a time.
  induction newer with
  | nil => exact Iff.rfl
  | cons event rest ih =>
    have head : rel (rest ++ log) event := free event List.mem_cons_self _
    have tail := ih fun event member => free event (List.mem_cons_of_mem _ member)
    simp only [List.cons_append, justified_cons, head, true_and, tail]

/-- A justified log explains each of its entries by the entries below it. -/
theorem Justified.of_split {rel : List Event → Event → Prop} {newer older : List Event}
    {event : Event} (justified : Justified rel (newer ++ event :: older)) : rel older event := by
  -- Dropping the newer entries leaves the entry on top of its own past.
  induction newer with
  | nil => exact justified.1
  | cons _ rest ih => exact ih justified.2

/-- The entries logged since the last boundary, without the boundary itself. -/
def since (boundary : Event → Bool) (log : List Event) : List Event :=
  -- The newest entries come first, so the walk stops at the last boundary.
  log.takeWhile fun event => !boundary event

variable {boundary : Event → Bool}

@[simp] theorem since_nil : since boundary [] = [] := rfl

/-- A boundary entry starts a new period. -/
@[simp] theorem since_cons_boundary {event : Event} (log : List Event)
    (closes : boundary event = true) : since boundary (event :: log) = [] := by
  simp [since, closes]

/-- Every other entry extends the current period. -/
@[simp] theorem since_cons_inside {event : Event} (log : List Event)
    (inside : boundary event = false) :
    since boundary (event :: log) = event :: since boundary log := by
  simp [since, inside]

/-- A batch without boundaries extends the current period. -/
theorem since_append_inside {newer : List Event} (log : List Event)
    (inside : ∀ event ∈ newer, boundary event = false) :
    since boundary (newer ++ log) = newer ++ since boundary log := by
  -- The batch is walked over entry by entry.
  induction newer with
  | nil => rfl
  | cons event rest ih =>
    have head := inside event List.mem_cons_self
    rw [List.cons_append, since_cons_inside _ head,
      ih fun event member => inside event (List.mem_cons_of_mem _ member), List.cons_append]

/-- What was logged on top of an older log. -/
def newerThan (older log : List Event) : List Event := log.take (log.length - older.length)

@[simp] theorem newerThan_append (newer older : List Event) :
    newerThan older (newer ++ older) = newer := by
  have count : (newer ++ older).length - older.length = newer.length := by
    rw [List.length_append, Nat.add_sub_cancel]
  rw [newerThan, count, List.take_left' rfl]

/-- A list of stages, the latest first, was gone through in order. -/
def Reached : List (Event → Prop) → List Event → Prop
  | [], _ => True
  -- The latest stage happened, and the earlier ones happened before it.
  | stage :: earlier, log =>
    ∃ newer event older, log = newer ++ event :: older ∧ stage event ∧ Reached earlier older

/-- Logging further entries forgets no stage. -/
theorem Reached.cons {stages : List (Event → Prop)} {log : List Event} (event : Event)
    (reached : Reached stages log) : Reached stages (event :: log) := by
  -- The new entry only lengthens what is newer than the latest stage.
  cases stages with
  | nil => trivial
  | cons stage earlier =>
    obtain ⟨newer, at_, older, rfl, holds, before⟩ := reached
    exact ⟨event :: newer, at_, older, rfl, holds, before⟩

/-- Logging a batch of entries forgets no stage. -/
theorem Reached.append {stages : List (Event → Prop)} {log : List Event}
    (newer : List Event) (reached : Reached stages log) : Reached stages (newer ++ log) := by
  -- The batch is logged entry by entry.
  induction newer with
  | nil => exact reached
  | cons event rest ih => exact ih.cons event

/-- An entry of the next stage on top of the earlier stages completes it. -/
theorem Reached.push {stage : Event → Prop} {stages : List (Event → Prop)} {log : List Event}
    {event : Event} (holds : stage event) (reached : Reached stages log) :
    Reached (stage :: stages) (event :: log) :=
  -- The new entry is the latest stage and everything older is already in place.
  ⟨[], event, log, rfl, holds, reached⟩

/-- An entry of another kind leaves the latest stage where it was. -/
theorem reached_cons_other {stage : Event → Prop} {stages : List (Event → Prop)}
    {log : List Event} {event : Event} (other : ¬ stage event) :
    Reached (stage :: stages) (event :: log) ↔ Reached (stage :: stages) log := by
  constructor
  · rintro ⟨newer, at_, older, split, holds, before⟩
    -- The latest stage is not the new entry, so it lies further down.
    cases newer with
    | nil =>
      obtain ⟨rfl, -⟩ := List.cons.inj split
      exact absurd holds other
    | cons _ rest => exact ⟨rest, at_, older, (List.cons.inj split).2, holds, before⟩
  · exact fun reached => reached.cons event

/-- A single stage was gone through exactly when some entry is of that stage. -/
theorem reached_one {stage : Event → Prop} {log : List Event} :
    Reached [stage] log ↔ ∃ event ∈ log, stage event := by
  constructor
  · rintro ⟨newer, event, older, rfl, holds, -⟩
    exact ⟨event, by simp, holds⟩
  · rintro ⟨event, member, holds⟩
    obtain ⟨newer, older, rfl⟩ := List.append_of_mem member
    exact ⟨newer, event, older, rfl, holds, trivial⟩

end History
