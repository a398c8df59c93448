import Mathlib.Data.List.Infix
import Mathlib.Tactic.Common

/-! Bounded queues between tasks: a full queue refuses an item, and what is taken may be dropped. -/

/-- A queue, with what was offered to it and what was delivered from it, the oldest first. -/
structure Mailbox (α : Type*) where
  queue : List α
  offered : List α
  delivered : List α
  deriving DecidableEq, Repr

namespace Mailbox

variable {α : Type*} {capacity : Nat}

/-- A queue nothing was offered to. -/
def empty : Mailbox α := ⟨[], [], []⟩

/-- An item is offered; a full queue refuses it. -/
def offer (capacity : Nat) (box : Mailbox α) (item : α) : Mailbox α where
  queue := if box.queue.length < capacity then box.queue ++ [item] else box.queue
  offered := box.offered ++ [item]
  delivered := box.delivered

/-- The item that waits longest is taken, and delivered or dropped. -/
def take (box : Mailbox α) (delivers : Bool) : Mailbox α :=
  match box.queue with
  | [] => box
  | item :: rest =>
    { box with
      queue := rest
      delivered := if delivers then box.delivered ++ [item] else box.delivered }

/-- The queue is within its capacity; what is delivered and what waits was offered in that order. -/
structure Sound (capacity : Nat) (box : Mailbox α) : Prop where
  bounded : box.queue.length ≤ capacity
  ordered : (box.delivered ++ box.queue).Sublist box.offered

/-- Nothing offered so far was refused or dropped. -/
def Lossless (box : Mailbox α) : Prop := box.delivered ++ box.queue = box.offered

/-- The empty queue is sound. -/
theorem empty_sound : Sound capacity (empty : Mailbox α) :=
  ⟨Nat.zero_le _, List.Sublist.refl _⟩

/-- Offering keeps a queue sound. -/
theorem Sound.offer {box : Mailbox α} (sound : Sound capacity box) (item : α) :
    Sound capacity (offer capacity box item) := by
  obtain ⟨bounded, ordered⟩ := sound
  unfold Mailbox.offer
  by_cases room : box.queue.length < capacity
  · simp only [if_pos room]
    refine ⟨by simp only [List.length_append, List.length_singleton]; omega, ?_⟩
    -- The item is appended on both sides.
    rw [← List.append_assoc]
    exact ordered.append (List.Sublist.refl _)
  · simp only [if_neg room]
    exact ⟨bounded, ordered.trans (List.sublist_append_left _ _)⟩

/-- Taking keeps a queue sound. -/
theorem Sound.take {box : Mailbox α} (sound : Sound capacity box) (delivers : Bool) :
    Sound capacity (take box delivers) := by
  obtain ⟨bounded, ordered⟩ := sound
  unfold Mailbox.take
  cases waiting : box.queue with
  | nil => exact ⟨bounded, ordered⟩
  | cons item rest =>
    rw [waiting] at bounded ordered
    refine ⟨Nat.le_of_succ_le bounded, ?_⟩
    cases delivers with
    | true => simpa using ordered
    | false =>
      -- A dropped item leaves a sublist of what there was.
      exact ((List.Sublist.refl _).append (List.sublist_cons_self item rest)).trans ordered

/-- An offer loses nothing exactly when nothing was lost before and the queue has room. -/
theorem offer_lossless_iff {box : Mailbox α} (sound : Sound capacity box) (item : α) :
    (offer capacity box item).Lossless ↔ box.Lossless ∧ box.queue.length < capacity := by
  unfold Lossless offer
  by_cases room : box.queue.length < capacity
  · rw [if_pos room, ← List.append_assoc, List.append_left_inj, and_iff_left room]
  · -- One item more was offered than can have been kept.
    have count := sound.ordered.length_le
    rw [if_neg room]
    refine iff_of_false (fun same => ?_) fun kept => room kept.2
    have lengths := congrArg List.length same
    simp only [List.length_append, List.length_singleton] at lengths count
    omega

/-- Taking loses nothing exactly when nothing was lost before and what is taken is delivered. -/
theorem take_lossless_iff {box : Mailbox α} (sound : Sound capacity box) (delivers : Bool) :
    (take box delivers).Lossless ↔ box.Lossless ∧ (box.queue = [] ∨ delivers = true) := by
  have count := sound.ordered.length_le
  unfold Lossless take
  cases waiting : box.queue with
  | nil => simp [waiting]
  | cons item rest =>
    rw [waiting] at count
    cases delivers with
    | true => simp
    | false =>
      simp only [Bool.false_eq_true, if_false, reduceCtorEq, or_self, and_false, iff_false]
      intro same
      have lengths := congrArg List.length same
      simp only [List.length_append, List.length_cons] at lengths count
      omega

/-- What is delivered was offered, in the same order. -/
theorem Sound.delivered {box : Mailbox α} (sound : Sound capacity box) :
    box.delivered.Sublist box.offered :=
  (List.sublist_append_left _ _).trans sound.ordered

end Mailbox
