import Mathlib.Data.List.Basic
import Mathlib.Tactic.Common

/-! Streams cut into lines: what a separator has completed, and what is still unfinished. -/

namespace Lines

variable {α : Type*} [DecidableEq α]

/-- Items fed behind an unfinished line: the lines they complete, and what is unfinished then. -/
def feed (sep : α) : List α → List α → List (List α) × List α
  | unfinished, [] => ([], unfinished)
  | unfinished, item :: rest =>
    if item = sep then (unfinished :: (feed sep [] rest).1, (feed sep [] rest).2)
    else feed sep (unfinished ++ [item]) rest

/-- The complete lines of a stream, without their separators. -/
def complete (sep : α) (stream : List α) : List (List α) := (feed sep [] stream).1

/-- What stands behind the last separator of a stream. -/
def unfinished (sep : α) (stream : List α) : List α := (feed sep [] stream).2

/-- Feeding two parts one after the other is feeding them as one. -/
theorem feed_append (sep : α) (start first second : List α) :
    feed sep start (first ++ second) =
      ((feed sep start first).1 ++ (feed sep (feed sep start first).2 second).1,
        (feed sep (feed sep start first).2 second).2) := by
  -- The first part is consumed item by item.
  induction first generalizing start with
  | nil => rfl
  | cons item rest ih =>
    simp only [List.cons_append, feed]
    split
    · rw [ih]
      rfl
    · exact ih _

/-- Items without separator only lengthen the unfinished line. -/
theorem feed_of_notMem {sep : α} {items : List α} (free : sep ∉ items) (start : List α) :
    feed sep start items = ([], start ++ items) := by
  -- Only the first branch of `feed` is excluded, so every item is appended to the start.
  induction items generalizing start with
  | nil => simp [feed]
  | cons item rest ih =>
    have other : item ≠ sep := fun same => free (same ▸ List.mem_cons_self)
    rw [feed, if_neg other, ih (fun member => free (List.mem_cons_of_mem _ member)),
      List.append_assoc, List.singleton_append]

/-- A separator behind items without one completes a line. -/
theorem feed_line {sep : α} {items : List α} (free : sep ∉ items) (start rest : List α) :
    feed sep start (items ++ sep :: rest) =
      ((start ++ items) :: complete sep rest, unfinished sep rest) := by
  rw [feed_append, feed_of_notMem free]
  simp [feed, complete, unfinished]

/-- As many lines are completed as separators are fed. -/
theorem feed_count (sep : α) (start items : List α) :
    (feed sep start items).1.length = items.count sep := by
  -- The start is general, as a separator empties it.
  induction items generalizing start with
  | nil => rfl
  | cons item rest ih =>
    unfold feed
    split
    · rename_i same
      rw [same, List.length_cons, ih, List.count_cons_self]
    · rename_i other
      rw [ih, List.count_cons_of_ne other]

/-- What is fed is the completed lines with their separators, and the unfinished one. -/
theorem feed_flatten (sep : α) (start items : List α) :
    (feed sep start items).1.flatMap (· ++ [sep]) ++ (feed sep start items).2 =
      start ++ items := by
  induction items generalizing start with
  | nil => simp [feed]
  | cons item rest ih =>
    unfold feed
    split
    · rename_i same
      -- Behind a separator the feeding goes on with nothing unfinished.
      have others := ih []
      rw [List.nil_append] at others
      rw [List.flatMap_cons, List.append_assoc, others, same]
      simp
    · rw [ih]
      simp

/-- Nothing unfinished contains a separator. -/
theorem feed_free {sep : α} {start : List α} (free : sep ∉ start) (items : List α) :
    sep ∉ (feed sep start items).2 := by
  induction items generalizing start with
  | nil => exact free
  | cons item rest ih =>
    unfold feed
    split
    · exact ih List.not_mem_nil
    · rename_i other
      -- The item was appended because it is no separator.
      refine ih fun member => ?_
      rcases List.mem_append.mp member with inside | last
      · exact free inside
      · exact other (List.mem_singleton.mp last).symm

/-- A further part completes lines behind those of a stream. -/
theorem complete_append (sep : α) (first second : List α) :
    complete sep (first ++ second) =
      complete sep first ++ (feed sep (unfinished sep first) second).1 := by
  unfold complete unfinished
  rw [feed_append]

/-- A further part continues the unfinished line of a stream. -/
theorem unfinished_append (sep : α) (first second : List α) :
    unfinished sep (first ++ second) = (feed sep (unfinished sep first) second).2 := by
  unfold unfinished
  rw [feed_append]

/-- The unfinished line contains no separator. -/
theorem notMem_unfinished (sep : α) (stream : List α) : sep ∉ unfinished sep stream :=
  feed_free List.not_mem_nil stream

/-- The unfinished line is the end of its stream. -/
theorem unfinished_suffix (sep : α) (stream : List α) : unfinished sep stream <:+ stream :=
  ⟨_, (feed_flatten sep [] stream).trans (List.nil_append stream)⟩

end Lines
