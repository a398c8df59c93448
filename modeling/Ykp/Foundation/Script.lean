import Mathlib.Data.List.Basic
import Ykp.Foundation.Machine

/-! Scripts: processes that go on when an event is right for them, and give up when it is wrong. -/

/-- A step of a script: the events it goes on with, and those it gives up on. -/
structure ScriptStep (Event : Type*) where
  accepts : Event → Bool
  aborts : Event → Bool

namespace Script

variable {Event : Type*}

/-- One event, for what is left of a script, or for one that was given up. -/
def step : Option (List (ScriptStep Event)) → Event → Option (List (ScriptStep Event))
  | none, _ => none
  | some [], _ => some []
  | some (first :: rest), event =>
    if first.accepts event then some rest
    else if first.aborts event then none
    else some (first :: rest)

/-- Events that a step neither goes on with nor gives up on. -/
def Ignores (first : ScriptStep Event) (events : List Event) : Prop :=
  ∀ event ∈ events, first.accepts event = false ∧ first.aborts event = false

/-- Events take a script to its end: each step ignores what comes before the event it accepts. -/
def Followed : List (ScriptStep Event) → List Event → Prop
  | [], _ => True
  | first :: rest, events =>
    ∃ idle event later, events = idle ++ event :: later ∧ Ignores first idle ∧
      first.accepts event = true ∧ Followed rest later

/-- A script that was given up, or is through, stays so. -/
theorem run_none (events : List Event) : Machine.run step none events = none := by
  induction events with
  | nil => rfl
  | cons event rest ih => exact ih

theorem run_nil (events : List Event) : Machine.run step (some []) events = some [] := by
  induction events with
  | nil => rfl
  | cons event rest ih => exact ih

/-- What a step ignores in front only delays the script. -/
theorem followed_cons_ignored {first : ScriptStep Event} {rest : List (ScriptStep Event)}
    {event : Event} {events : List Event} (accepts : first.accepts event = false)
    (aborts : first.aborts event = false) :
    Followed (first :: rest) (event :: events) ↔ Followed (first :: rest) events := by
  constructor
  · rintro ⟨idle, right, later, layout, ignored, accepted, followed⟩
    cases idle with
    | nil =>
      obtain ⟨rfl, -⟩ := List.cons.inj layout
      rw [accepts] at accepted
      cases accepted
    | cons other idle =>
      obtain ⟨-, layout⟩ := List.cons.inj layout
      exact ⟨idle, right, later, layout, fun event member => ignored event (List.mem_cons_of_mem _ member),
        accepted, followed⟩
  · rintro ⟨idle, right, later, rfl, ignored, accepted, followed⟩
    refine ⟨event :: idle, right, later, rfl, ?_, accepted, followed⟩
    exact List.forall_mem_cons.mpr ⟨⟨accepts, aborts⟩, ignored⟩

/-- A script is through exactly when the events take it to its end. -/
theorem run_iff_followed (steps : List (ScriptStep Event)) (events : List Event) :
    Machine.run step (some steps) events = some [] ↔ Followed steps events := by
  induction events generalizing steps with
  | nil =>
    cases steps with
    | nil => exact iff_of_true rfl trivial
    | cons first rest =>
      refine iff_of_false nofun ?_
      rintro ⟨idle, event, later, layout, -⟩
      exact absurd layout.symm (by simp)
  | cons event events ih =>
    rw [Machine.run_cons]
    cases steps with
    | nil => exact iff_of_true (run_nil events) trivial
    | cons first rest =>
      simp only [step]
      -- The event is right for the first step, or wrong for it, or does not concern it.
      split
      · rename_i accepts
        rw [ih]
        constructor
        · exact fun followed => ⟨[], event, events, rfl, nofun, accepts, followed⟩
        · rintro ⟨idle, right, later, layout, ignored, -, followed⟩
          cases idle with
          | nil =>
            obtain ⟨-, rfl⟩ := List.cons.inj layout
            exact followed
          | cons other idle =>
            obtain ⟨rfl, -⟩ := List.cons.inj layout
            rw [(ignored event List.mem_cons_self).1] at accepts
            cases accepts
      · rename_i accepts
        split
        · rename_i aborts
          refine iff_of_false (by rw [run_none]; nofun) ?_
          rintro ⟨idle, right, later, layout, ignored, accepted, -⟩
          cases idle with
          | nil =>
            obtain ⟨rfl, -⟩ := List.cons.inj layout
            exact accepts accepted
          | cons other idle =>
            obtain ⟨rfl, -⟩ := List.cons.inj layout
            rw [(ignored event List.mem_cons_self).2] at aborts
            cases aborts
        · rename_i aborts
          rw [ih, followed_cons_ignored (by simpa using accepts) (by simpa using aborts)]

/-- More events at the end change nothing about a script that is through. -/
theorem Followed.append {steps : List (ScriptStep Event)} {events : List Event}
    (followed : Followed steps events) (later : List Event) : Followed steps (events ++ later) := by
  rw [← run_iff_followed] at followed ⊢
  rw [Machine.run_append, followed, run_nil]

/-- A script in two parts is gone through one part after the other. -/
theorem Followed.split {front back : List (ScriptStep Event)} {events : List Event}
    (followed : Followed (front ++ back) events) :
    ∃ early late, events = early ++ late ∧ Followed front early ∧ Followed back late := by
  induction front generalizing events with
  | nil => exact ⟨[], events, rfl, trivial, followed⟩
  | cons first rest ih =>
    obtain ⟨idle, event, later, rfl, ignored, accepted, followed⟩ := followed
    obtain ⟨early, late, rfl, through, left⟩ := ih followed
    refine ⟨idle ++ event :: early, late, by simp, ?_, left⟩
    exact ⟨idle, event, early, rfl, ignored, accepted, through⟩

/-- A step that is not reached in time misses what it needs: if the steps in front of it are not through
with the early events, and none of the late ones is right for it, the script never ends. -/
theorem not_followed_of_missed {front rest : List (ScriptStep Event)} {awaits : ScriptStep Event}
    {early late : List Event} (behind : ¬ Followed front early)
    (missed : ∀ event ∈ late, awaits.accepts event = false) :
    ¬ Followed (front ++ awaits :: rest) (early ++ late) := by
  intro followed
  obtain ⟨before, after, layout, through, idle, event, others, rfl, -, accepted, -⟩ :=
    followed.split
  rcases List.append_eq_append_iff.mp layout with ⟨more, rfl, rest_⟩ | ⟨more, rfl, rest_⟩
  · -- The steps in front took some of the late events, so what is accepted is late as well.
    have member : event ∈ late := by
      rw [rest_]
      simp
    rw [missed event member] at accepted
    cases accepted
  · exact behind (through.append more)

end Script
