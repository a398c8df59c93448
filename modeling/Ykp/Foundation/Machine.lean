import Mathlib.Logic.Function.Basic
import Mathlib.Tactic.Common

/-! Machines driven by a list of inputs: runs, conditions on every step, and the invariant rule. -/

namespace Machine

variable {State Input : Type*}

/-- The state a machine reaches after consuming its inputs in order. -/
def run (step : State → Input → State) (start : State) (inputs : List Input) : State :=
  -- The oldest input is consumed first.
  inputs.foldl step start

/-- A relation between the state before a step and the input of that step, at every step of a run. -/
def Always (step : State → Input → State) (rel : State → Input → Prop) :
    State → List Input → Prop
  | _, [] => True
  -- The rest of the run starts in the state the first step leaves behind.
  | state, input :: rest => rel state input ∧ Always step rel (step state input) rest

instance decidableAlways (step : State → Input → State) (rel : State → Input → Prop)
    [∀ state input, Decidable (rel state input)] :
    (state : State) → (inputs : List Input) → Decidable (Always step rel state inputs)
  | _, [] => .isTrue trivial
  | state, input :: rest =>
    have := decidableAlways step rel (step state input) rest
    inferInstanceAs (Decidable (rel state input ∧ Always step rel (step state input) rest))

variable {step : State → Input → State} {start : State}

@[simp] theorem run_nil : run step start [] = start := rfl

@[simp] theorem run_cons (input : Input) (rest : List Input) :
    run step start (input :: rest) = run step (step start input) rest := rfl

/-- A run over two input lists is the second run started where the first one ended. -/
theorem run_append (first second : List Input) :
    run step start (first ++ second) = run step (run step start first) second := by
  -- Folding over an appended list is folding over its two parts.
  simp [run, List.foldl_append]

@[simp] theorem always_nil {rel : State → Input → Prop} : Always step rel start [] := trivial

@[simp] theorem always_cons {rel : State → Input → Prop} (input : Input) (rest : List Input) :
    Always step rel start (input :: rest) ↔
      rel start input ∧ Always step rel (step start input) rest := Iff.rfl

/-- A condition on a run over two input lists is one on both parts. -/
theorem always_append {rel : State → Input → Prop} (first second : List Input) :
    Always step rel start (first ++ second) ↔
      Always step rel start first ∧ Always step rel (run step start first) second := by
  -- The first part is consumed input by input.
  induction first generalizing start with
  | nil => simp
  | cons input rest ih => rw [List.cons_append, always_cons, ih, always_cons, run_cons, and_assoc]

/-- An invariant that every admitted step keeps holds wherever an admitted run ends. -/
theorem invariant_run {inv : State → Prop} {admitted : State → Input → Prop}
    (keeps : ∀ state input, inv state → admitted state input → inv (step state input))
    {inputs : List Input} (initial : inv start) (meets : Always step admitted start inputs) :
    inv (run step start inputs) := by
  -- Each input consumes one condition and passes the invariant on.
  induction inputs generalizing start with
  | nil => exact initial
  | cons input rest ih => exact ih (keeps start input initial meets.1) meets.2

/-- What an invariant and an admitted step give at one step, an admitted run gives at every step. -/
theorem always_of_invariant {inv : State → Prop} {admitted goal : State → Input → Prop}
    (keeps : ∀ state input, inv state → admitted state input → inv (step state input))
    (gives : ∀ state input, inv state → admitted state input → goal state input)
    {inputs : List Input} (initial : inv start) (meets : Always step admitted start inputs) :
    Always step goal start inputs := by
  -- The invariant is carried to the front of each remaining run.
  induction inputs generalizing start with
  | nil => trivial
  | cons input rest ih =>
    exact ⟨gives start input initial meets.1, ih (keeps start input initial meets.1) meets.2⟩

/-- Two conditions that agree where an invariant holds, which steps under the second one keep, hold
along the same runs. -/
theorem always_iff_of_invariant {inv : State → Prop} {first second : State → Input → Prop}
    (same : ∀ state input, inv state → (first state input ↔ second state input))
    (keeps : ∀ state input, inv state → second state input → inv (step state input))
    {inputs : List Input} (initial : inv start) :
    Always step first start inputs ↔ Always step second start inputs := by
  constructor
  · intro meets
    exact always_of_invariant
      (fun state input holds here => keeps state input holds ((same state input holds).mp here))
      (fun state input holds => (same state input holds).mp) initial meets
  · intro meets
    exact always_of_invariant keeps (fun state input holds => (same state input holds).mpr) initial
      meets

/-- An invariant that no step can break holds in every state a machine reaches. -/
theorem invariant_reached {inv : State → Prop}
    (keeps : ∀ state input, inv state → inv (step state input))
    (inputs : List Input) (initial : inv start) : inv (run step start inputs) := by
  -- Without a condition on the steps the induction only carries the invariant.
  induction inputs generalizing start with
  | nil => exact initial
  | cons input rest ih => exact ih (keeps start input initial)

/-- What holds of every single step holds at every step of a run. -/
theorem always_of_forall {rel : State → Input → Prop} (holds : ∀ state input, rel state input)
    (inputs : List Input) : Always step rel start inputs := by
  -- One conjunct for each event.
  induction inputs generalizing start with
  | nil => trivial
  | cons input rest ih => exact ⟨holds start input, ih⟩

/-- A condition on every input is one on every step. -/
theorem always_of_mem {cond : Input → Prop} {inputs : List Input}
    (holds : ∀ input ∈ inputs, cond input) :
    Always step (fun _ input => cond input) start inputs := by
  induction inputs generalizing start with
  | nil => trivial
  | cons input rest ih =>
    exact ⟨holds input List.mem_cons_self, ih fun other member =>
      holds other (List.mem_cons_of_mem _ member)⟩

/-- What no step makes smaller stays below a bound throughout a run that ends below it. -/
theorem always_lt_of_run {size : State → Nat} {bound : Nat}
    (grows : ∀ state input, size state ≤ size (step state input)) {inputs : List Input}
    (small : size (run step start inputs) < bound) :
    Always step (fun state input => size (step state input) < bound) start inputs := by
  induction inputs generalizing start with
  | nil => trivial
  | cons input rest ih =>
    -- The rest of the run only grows further.
    have keeps (state : State) (other : Input) (least : size (step start input) ≤ size state) :
        size (step start input) ≤ size (step state other) :=
      Nat.le_trans least (grows state other)
    have further := invariant_reached keeps rest (Nat.le_refl _)
    exact ⟨Nat.lt_of_le_of_lt further small, ih small⟩

/-- Two step relations that agree everywhere hold along the same runs. -/
theorem always_congr {first second : State → Input → Prop}
    (same : ∀ state input, first state input ↔ second state input) {inputs : List Input} :
    Always step first start inputs ↔ Always step second start inputs := by
  induction inputs generalizing start with
  | nil => exact Iff.rfl
  | cons input rest ih => exact and_congr (same start input) ih

/-- Two conditions on every step are one condition on every step. -/
theorem always_and {first second : State → Input → Prop} {inputs : List Input} :
    Always step (fun state input => first state input ∧ second state input) start inputs ↔
      Always step first start inputs ∧ Always step second start inputs := by
  induction inputs generalizing start with
  | nil => simp
  | cons input rest ih =>
    simp only [always_cons, ih]
    exact and_and_and_comm

/-- A property of the final state that each step keeps exactly under a condition holds exactly
when every step of the run met the condition. -/
theorem always_iff_run {inv good : State → Prop} {cond : State → Input → Prop}
    (keeps : ∀ state input, inv state → inv (step state input))
    (exactly : ∀ state input, inv state → (good (step state input) ↔ good state ∧ cond state input))
    {inputs : List Input} (initial : inv start) :
    good (run step start inputs) ↔ good start ∧ Always step cond start inputs := by
  -- Unrolling the run turns each step's equivalence into one conjunct.
  induction inputs generalizing start with
  | nil => simp
  | cons input rest ih =>
    rw [run_cons, ih (keeps start input initial), exactly start input initial, always_cons,
      and_assoc]

/-- A property that each admitted step establishes exactly under a condition holds in every state an
admitted run reaches exactly when every step met the condition. -/
theorem prefixes_iff_admitted {inv good : State → Prop} {admitted cond : State → Input → Prop}
    (exactly : ∀ state input, inv state → admitted state input →
      (good (step state input) ↔ cond state input))
    (keeps : ∀ state input, inv state → admitted state input → cond state input →
      inv (step state input))
    {inputs : List Input} (initial : inv start) (first : good start)
    (meets : Always step admitted start inputs) :
    (∀ earlier, earlier <+: inputs → good (run step start earlier)) ↔
      Always step cond start inputs := by
  -- The states reached are the first one and those reached from the second one on.
  induction inputs generalizing start with
  | nil =>
    refine iff_of_true (fun earlier within => ?_) trivial
    rwa [List.prefix_nil.mp within]
  | cons input rest ih =>
    obtain ⟨here, after⟩ := meets
    rw [always_cons]
    constructor
    · intro holds
      have cond := (exactly start input initial here).mp (holds [input] ⟨rest, rfl⟩)
      refine ⟨cond, (ih (keeps start input initial here cond) (holds [input] ⟨rest, rfl⟩)
        after).mp ?_⟩
      exact fun earlier within => holds (input :: earlier) (List.cons_prefix_cons.mpr ⟨rfl, within⟩)
    · rintro ⟨cond, later⟩ earlier within
      have second := (exactly start input initial here).mpr cond
      cases earlier with
      | nil => exact first
      | cons other earlier =>
        obtain ⟨rfl, inside⟩ := List.cons_prefix_cons.mp within
        exact (ih (keeps start other initial here cond) second after).mpr later earlier inside

/-- A property that each step establishes exactly under a condition holds in every state reached
exactly when every step met the condition. -/
theorem prefixes_iff_always {inv good : State → Prop} {cond : State → Input → Prop}
    (exactly : ∀ state input, inv state → (good (step state input) ↔ cond state input))
    (keeps : ∀ state input, inv state → cond state input → inv (step state input))
    {inputs : List Input} (initial : inv start) (first : good start) :
    (∀ earlier, earlier <+: inputs → good (run step start earlier)) ↔
      Always step cond start inputs :=
  prefixes_iff_admitted (fun state input holds _ => exactly state input holds)
    (fun state input holds _ => keeps state input holds) initial first
    (always_of_forall (fun _ _ => trivial) inputs)

section Answers

variable {State' Output : Type*}

/-- What a machine answers to each of its inputs, in the state it has reached by then. -/
def answers (step : State → Input → State) (answer : State → Input → Output) :
    State → List Input → List Output
  | _, [] => []
  -- The rest is answered from the state the first step leaves behind.
  | state, input :: rest => answer state input :: answers step answer (step state input) rest

@[simp] theorem answers_nil {answer : State → Input → Output} :
    answers step answer start [] = [] := rfl

@[simp] theorem answers_cons {answer : State → Input → Output} (input : Input)
    (rest : List Input) :
    answers step answer start (input :: rest) =
      answer start input :: answers step answer (step start input) rest := rfl

/-- Two machines give the same answers when a relation between their states is kept by every step
and makes them answer alike. -/
theorem answers_eq_of_simulation {step' : State' → Input → State'} {start' : State'}
    {answer : State → Input → Output} {answer' : State' → Input → Output}
    {sim : State → State' → Prop}
    (keeps : ∀ state state' input, sim state state' → sim (step state input) (step' state' input))
    (alike : ∀ state state' input, sim state state' → answer state input = answer' state' input)
    (initial : sim start start') (inputs : List Input) :
    answers step answer start inputs = answers step' answer' start' inputs := by
  -- Each input is answered alike, and the relation is passed on to the rest.
  induction inputs generalizing start start' with
  | nil => rfl
  | cons input rest ih =>
    rw [answers_cons, answers_cons, alike start start' input initial,
      ih (keeps start start' input initial)]

end Answers

end Machine
