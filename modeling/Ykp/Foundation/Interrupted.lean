import Mathlib.Data.List.TakeDrop
import Mathlib.Tactic.Common

/-! Writes to the places of a store, one after another, of which perhaps only the first are made. -/

namespace Interrupted

variable {Store Write Place : Type*}

/-- A write replaces what an earlier one put at its place, and leaves the other places alone. -/
structure Overwrites (make : Store → Write → Store) (place : Write → Place) : Prop where
  replaces : ∀ (store : Store) {first second : Write}, place first = place second →
    make (make store first) second = make store second
  apart : ∀ (store : Store) {first second : Write}, place first ≠ place second →
    make (make store first) second = make (make store second) first

/-- The store after all of some writes. -/
def makeAll (make : Store → Write → Store) (store : Store) (writes : List Write) : Store :=
  -- The first write is made first.
  writes.foldl make store

variable {make : Store → Write → Store} {place : Write → Place}

@[simp] theorem makeAll_nil (store : Store) : makeAll make store [] = store := rfl

@[simp] theorem makeAll_cons (store : Store) (write : Write) (rest : List Write) :
    makeAll make store (write :: rest) = makeAll make (make store write) rest := rfl

theorem makeAll_append (store : Store) (first second : List Write) :
    makeAll make store (first ++ second) = makeAll make (makeAll make store first) second :=
  List.foldl_append

/-- The writes up to a position are those in front of it, and then the one at it. -/
theorem makeAll_take_succ (store : Store) {writes : List Write} {reached : Nat}
    (more : reached < writes.length) :
    makeAll make store (writes.take (reached + 1)) =
      make (makeAll make store (writes.take reached)) (writes.get ⟨reached, more⟩) := by
  rw [List.take_succ_eq_append_getElem more, makeAll_append]
  rfl

namespace Overwrites

variable (laws : Overwrites make place)

include laws

/-- A write is hidden by later ones of which one is made to its place. -/
theorem hidden (store : Store) {write : Write} {later : List Write}
    (among : place write ∈ later.map place) :
    makeAll make (make store write) later = makeAll make store later := by
  -- The write is moved behind the later ones until it meets one to its own place.
  induction later generalizing store with
  | nil => cases among
  | cons first rest ih =>
    rw [makeAll_cons, makeAll_cons]
    by_cases same : place write = place first
    · rw [laws.replaces store same]
    · have behind : place write ∈ rest.map place := by
        rw [List.map_cons] at among
        exact (List.mem_cons.mp among).resolve_left same
      rw [laws.apart store same, ih (make store first) behind]

/-- Writes are hidden by later ones that are made to all of their places. -/
theorem hidden_all (store : Store) {earlier later : List Write}
    (covered : ∀ write ∈ earlier, place write ∈ later.map place) :
    makeAll make (makeAll make store earlier) later = makeAll make store later := by
  induction earlier generalizing store with
  | nil => rfl
  | cons first rest ih =>
    have others : ∀ write ∈ rest, place write ∈ later.map place := fun write member =>
      covered write (List.mem_cons_of_mem _ member)
    rw [makeAll_cons, ih (make store first) others]
    exact laws.hidden store (covered first List.mem_cons_self)

/-- Where two sequences write to the same places in the same order, what was made of the one is
hidden once as much is made of the other. -/
theorem hidden_take (store : Store) (earlier later : List Write) {made remade : Nat}
    (alike : earlier.map place = later.map place) (further : made ≤ remade) :
    makeAll make (makeAll make store (earlier.take made)) (later.take remade) =
      makeAll make store (later.take remade) := by
  refine laws.hidden_all store fun write member => ?_
  -- The places of the first writes are among those of as many or more.
  have among : place write ∈ (earlier.map place).take made := by
    rw [← List.map_take]
    exact List.mem_map_of_mem member
  rw [alike] at among
  rw [List.map_take]
  exact List.take_subset_take_left _ further among

end Overwrites

end Interrupted
