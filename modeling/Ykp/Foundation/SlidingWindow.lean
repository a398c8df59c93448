import Mathlib.Data.Nat.Bitwise
import Mathlib.Tactic.Common

/-! The sliding replay window as a set of accepted numbers, and bit masks that represent it. -/

namespace SlidingWindow

/-- A number may be accepted when it is not the reserved zero, was not accepted before, and is
less than the window size below every accepted number. -/
def Accepts (size : Nat) (accepted : List Nat) (number : Nat) : Prop :=
  number ≠ 0 ∧ number ∉ accepted ∧ ∀ earlier ∈ accepted, earlier < number + size

/-- The highest accepted number and one bit for each of the numbers just below it. -/
structure Mask where
  highest : Nat
  bits : Nat
  deriving DecidableEq, Repr

/-- A mask represents a non-empty accepted list: its highest number is the greatest accepted one
and the bits inside the window say which numbers below it were accepted. -/
structure Represents (size : Nat) (mask : Mask) (accepted : List Nat) : Prop where
  /-- Only numbers other than the reserved zero were accepted. -/
  positive : 0 ∉ accepted
  /-- The highest number was accepted. -/
  highest_mem : mask.highest ∈ accepted
  /-- No accepted number is above the highest one. -/
  highest_le : ∀ number ∈ accepted, number ≤ mask.highest
  /-- Each bit of the window tells whether its number was accepted. -/
  bit : ∀ number, number ≤ mask.highest → mask.highest - number < size →
    (mask.bits.testBit (mask.highest - number) = true ↔ number ∈ accepted)

variable {size number : Nat} {mask : Mask} {accepted : List Nat}

/-- A mask admits a number other than zero that is above its highest one, or that stands inside the
window and has its bit not set. -/
def Mask.Admits (size : Nat) (mask : Mask) (number : Nat) : Prop :=
  number ≠ 0 ∧ (mask.highest < number ∨
    mask.highest - number < size ∧ mask.bits.testBit (mask.highest - number) = false)

instance : Decidable (mask.Admits size number) := inferInstanceAs (Decidable (_ ∧ _))

/-- A mask does not admit a number whose bit is set. -/
theorem not_admits_of_bit (below : number ≤ mask.highest)
    (set : mask.bits.testBit (mask.highest - number) = true) : ¬ mask.Admits size number := by
  rintro ⟨-, above | ⟨-, clear⟩⟩
  · exact absurd below (Nat.not_le_of_lt above)
  · rw [set] at clear
    cases clear

/-- The first number is accepted unless it is the reserved one. -/
theorem accepts_nil : Accepts size [] number ↔ number ≠ 0 := by simp [Accepts]

/-- A number above the highest one is always accepted. -/
theorem Represents.accepts_above (represents : Represents size mask accepted)
    (above : mask.highest < number) : Accepts size accepted number := by
  refine ⟨by omega, fun member => ?_, fun earlier member => ?_⟩
  · have := represents.highest_le number member
    omega
  · have := represents.highest_le earlier member
    omega

/-- Accepting a number above the highest one moves the window up by their difference. -/
theorem Represents.advance (represents : Represents size mask accepted)
    (above : mask.highest < number) {bits : Nat}
    (moved : ∀ distance < size, bits.testBit distance =
      (decide (distance = 0) || (decide (number - mask.highest ≤ distance) &&
        mask.bits.testBit (distance - (number - mask.highest))))) :
    Represents size ⟨number, bits⟩ (number :: accepted) where
  positive := by
    simp only [List.mem_cons, not_or]
    exact ⟨by omega, represents.positive⟩
  highest_mem := by simp
  highest_le := by
    intro other member
    rcases List.mem_cons.mp member with rfl | old
    · exact le_rfl
    · exact (represents.highest_le other old).trans above.le
  bit := by
    intro other below inside
    change other ≤ number at below
    change number - other < size at inside
    rw [moved _ inside]
    simp only [Bool.or_eq_true, Bool.and_eq_true, decide_eq_true_eq, List.mem_cons]
    -- The new number has distance zero; an older one moved up by the shift.
    by_cases same : other = number
    · simp [same]
    · have apart : number - other ≠ 0 := by omega
      simp only [apart, false_or, same]
      constructor
      · rintro ⟨shifted, set⟩
        have distance : number - other - (number - mask.highest) = mask.highest - other := by omega
        rw [distance] at set
        exact (represents.bit other (by omega) (by omega)).mp set
      · intro old
        have upper := represents.highest_le other old
        have distance : number - other - (number - mask.highest) = mask.highest - other := by omega
        refine ⟨by omega, ?_⟩
        rw [distance]
        exact (represents.bit other upper (by omega)).mpr old

/-- Only the lowest bit of one is set. -/
theorem testBit_one (distance : Nat) : Nat.testBit 1 distance = decide (distance = 0) := by
  rw [Bool.eq_iff_iff, Nat.testBit_one_eq_true_iff_self_eq_zero, decide_eq_true_eq]

/-- The bits of a mask that was shifted up and got a new lowest bit. -/
theorem testBit_shifted (bits shift distance : Nat) :
    (bits <<< shift ||| 1).testBit distance =
      (decide (distance = 0) || (decide (shift ≤ distance) && bits.testBit (distance - shift))) := by
  rw [Nat.testBit_or, Nat.testBit_shiftLeft, testBit_one, Bool.or_comm]

/-- Cutting a shifted mask at a width changes no bit below that width. -/
theorem testBit_cut (bits shift : Nat) {width distance : Nat} (inside : distance < width) :
    (bits <<< shift % 2 ^ width ||| 1).testBit distance =
      (bits <<< shift ||| 1).testBit distance := by
  simp [Nat.testBit_or, Nat.testBit_mod_two_pow, inside]

/-- A number's bit is set in a mask exactly when the mask and the bit overlap. -/
theorem and_bit_ne_zero (bits distance : Nat) :
    bits &&& 1 <<< distance ≠ 0 ↔ bits.testBit distance = true := by
  rw [Nat.one_shiftLeft, ne_eq, Nat.and_two_pow]
  cases bits.testBit distance <;> simp

/-- A number that fell out of the window is rejected. -/
theorem Represents.rejects_old (represents : Represents size mask accepted)
    (old : size ≤ mask.highest - number) (wide : 0 < size) : ¬ Accepts size accepted number := by
  rintro ⟨-, -, recent⟩
  have := recent _ represents.highest_mem
  omega

/-- Inside the window the bit of a number decides. -/
theorem Represents.accepts_inside (represents : Represents size mask accepted)
    (positive : number ≠ 0) (below : number ≤ mask.highest)
    (inside : mask.highest - number < size) :
    Accepts size accepted number ↔ mask.bits.testBit (mask.highest - number) = false := by
  rw [← Bool.not_eq_true, represents.bit number below inside]
  constructor
  · exact fun accepts => accepts.2.1
  · intro fresh
    refine ⟨positive, fresh, fun earlier member => ?_⟩
    have := represents.highest_le earlier member
    omega

/-- Accepting a number inside the window sets its bit and keeps the highest number. -/
theorem Represents.mark (represents : Represents size mask accepted)
    (positive : number ≠ 0) (below : number ≤ mask.highest) :
    Represents size ⟨mask.highest, mask.bits ||| 1 <<< (mask.highest - number)⟩
      (number :: accepted) where
  positive := by
    simp only [List.mem_cons, not_or]
    exact ⟨positive.symm, represents.positive⟩
  highest_mem := List.mem_cons_of_mem _ represents.highest_mem
  highest_le := by
    intro other member
    rcases List.mem_cons.mp member with rfl | old
    · exact below
    · exact represents.highest_le other old
  bit := by
    intro other upper inside
    change other ≤ mask.highest at upper
    change mask.highest - other < size at inside
    rw [Nat.testBit_or, Bool.or_eq_true, represents.bit other upper inside, List.mem_cons,
      Nat.one_shiftLeft, Nat.testBit_two_pow, decide_eq_true_eq, or_comm]
    -- Equal distances below the same highest number belong to equal numbers.
    have same : mask.highest - number = mask.highest - other ↔ other = number := by omega
    rw [same]

/-- Every bit of the window that is set stands for a number, not for a place below zero. -/
def Mask.Grounded (size : Nat) (mask : Mask) : Prop :=
  -- The bit at a distance stands for the number that far below the highest one.
  ∀ distance < size, mask.bits.testBit distance = true → distance ≤ mask.highest

/-- Moving the window up keeps a mask grounded. -/
theorem Mask.Grounded.advance (grounded : mask.Grounded size) (above : mask.highest < number)
    {bits : Nat} (moved : ∀ distance < size, bits.testBit distance =
      (decide (distance = 0) || (decide (number - mask.highest ≤ distance) &&
        mask.bits.testBit (distance - (number - mask.highest))))) :
    Mask.Grounded size ⟨number, bits⟩ := by
  intro distance inside set
  change bits.testBit distance = true at set
  change distance ≤ number
  rw [moved distance inside, Bool.or_eq_true, Bool.and_eq_true, decide_eq_true_eq,
    decide_eq_true_eq] at set
  rcases set with rfl | ⟨shifted, old⟩
  · exact Nat.zero_le _
  · -- The bit moved up together with the highest number.
    have := grounded _ (by omega) old
    omega

/-- Setting the bit of a number keeps a mask grounded. -/
theorem Mask.Grounded.mark (grounded : mask.Grounded size) (number : Nat) :
    Mask.Grounded size ⟨mask.highest, mask.bits ||| 1 <<< (mask.highest - number)⟩ := by
  intro distance inside set
  change (mask.bits ||| 1 <<< (mask.highest - number)).testBit distance = true at set
  change distance ≤ mask.highest
  rw [Nat.testBit_or, Bool.or_eq_true, Nat.one_shiftLeft, Nat.testBit_two_pow,
    decide_eq_true_eq] at set
  rcases set with old | rfl
  · exact grounded distance inside old
  · exact Nat.sub_le _ _

/-- The next mask has registered a number: a number above the highest one moves the window up to it,
and one below sets its bit. -/
structure Mask.Registers (size : Nat) (mask : Mask) (number : Nat) (next : Mask) : Prop where
  above : mask.highest < number → next.highest = number ∧ ∀ distance < size,
    next.bits.testBit distance = (decide (distance = 0) ||
      (decide (number - mask.highest ≤ distance) &&
        mask.bits.testBit (distance - (number - mask.highest))))
  below : number ≤ mask.highest →
    next = ⟨mask.highest, mask.bits ||| 1 <<< (mask.highest - number)⟩

/-- The first number is registered by its bit alone. -/
theorem registers_first (positive : number ≠ 0) :
    Mask.Registers size ⟨0, 0⟩ number ⟨number, 1⟩ := by
  refine ⟨fun _ => ⟨rfl, fun distance _ => ?_⟩, fun below => ?_⟩
  · -- The empty mask has no bit that could move up.
    simp [testBit_one]
  · exact absurd (Nat.le_zero.mp below) positive

/-- A jump by the window size or more leaves no older bit. -/
theorem registers_jump (above : mask.highest < number) (jump : size ≤ number - mask.highest) :
    mask.Registers size number ⟨number, 1⟩ := by
  refine ⟨fun _ => ⟨rfl, fun distance inside => ?_⟩, fun below => ?_⟩
  · have far : ¬ number - mask.highest ≤ distance := by omega
    simp [far, testBit_one]
  · exact absurd below (Nat.not_le_of_lt above)

/-- Shifting the mask by the difference registers a number above the highest one. -/
theorem registers_shift (above : mask.highest < number) :
    mask.Registers size number ⟨number, mask.bits <<< (number - mask.highest) ||| 1⟩ :=
  ⟨fun _ => ⟨rfl, fun _ _ => testBit_shifted _ _ _⟩,
    fun below => absurd below (Nat.not_le_of_lt above)⟩

/-- The bits that a shift moves out of the window may be cut off. -/
theorem registers_cut (above : mask.highest < number) :
    mask.Registers size number
      ⟨number, mask.bits <<< (number - mask.highest) % 2 ^ size ||| 1⟩ := by
  refine ⟨fun _ => ⟨rfl, fun distance inside => ?_⟩, fun below => ?_⟩
  · rw [testBit_cut _ _ inside, testBit_shifted]
  · exact absurd below (Nat.not_le_of_lt above)

/-- Setting its bit registers a number below the highest one. -/
theorem registers_mark (below : number ≤ mask.highest) :
    mask.Registers size number ⟨mask.highest, mask.bits ||| 1 <<< (mask.highest - number)⟩ :=
  ⟨fun above => absurd below (Nat.not_le_of_lt above), fun _ => rfl⟩

/-- Registering an accepted number keeps a mask representing the accepted ones. -/
theorem Represents.registers {next : Mask} (represents : Represents size mask accepted)
    (positive : number ≠ 0) (registers : mask.Registers size number next) :
    Represents size next (number :: accepted) := by
  -- The number lies above the highest one, or the window does not move.
  by_cases above : mask.highest < number
  · obtain ⟨rfl, moved⟩ := registers.above above
    exact represents.advance above moved
  · rw [registers.below (Nat.le_of_not_lt above)]
    exact represents.mark positive (Nat.le_of_not_lt above)

/-- Registering a number keeps a mask grounded. -/
theorem Mask.Grounded.registers {next : Mask} (grounded : mask.Grounded size)
    (registers : mask.Registers size number next) : next.Grounded size := by
  by_cases above : mask.highest < number
  · obtain ⟨rfl, moved⟩ := registers.above above
    exact grounded.advance above moved
  · rw [registers.below (Nat.le_of_not_lt above)]
    exact grounded.mark number

/-- A registered number is not admitted again. -/
theorem Mask.Registers.spent {next : Mask} (registers : mask.Registers size number next)
    (wide : 0 < size) : ¬ next.Admits size number := by
  by_cases above : mask.highest < number
  · -- The number is the highest one now, and its bit is the lowest.
    obtain ⟨rfl, moved⟩ := registers.above above
    apply not_admits_of_bit le_rfl
    rw [Nat.sub_self, moved 0 wide]
    rfl
  · rw [registers.below (Nat.le_of_not_lt above)]
    apply not_admits_of_bit
    · exact Nat.le_of_not_lt above
    · simp [Nat.testBit_or, Nat.one_shiftLeft]

/-- A mask keeps track of accepted numbers: the empty mask of none, and any other mask of those that
it represents. -/
def Mask.Tracks (size : Nat) (mask : Mask) : List Nat → Prop
  | [] => mask = ⟨0, 0⟩
  | accepted => Represents size mask accepted

/-- A mask that keeps track of the accepted numbers admits exactly the ones that may be accepted. -/
theorem Mask.Tracks.admits_iff (tracks : mask.Tracks size accepted) (wide : 0 < size) :
    mask.Admits size number ↔ Accepts size accepted number := by
  -- The reserved zero is neither admitted nor accepted.
  by_cases positive : number = 0
  · exact ⟨fun admits => absurd positive admits.1, fun accepts => absurd positive accepts.1⟩
  cases accepted with
  | nil =>
    obtain rfl : mask = ⟨0, 0⟩ := tracks
    rw [accepts_nil]
    exact ⟨And.left, fun _ => ⟨positive, .inl (Nat.pos_of_ne_zero positive)⟩⟩
  | cons latest earlier =>
    have represents : Represents size mask (latest :: earlier) := tracks
    -- Above the window, below it, or inside it, where the bit of the number decides.
    by_cases above : mask.highest < number
    · exact ⟨fun _ => represents.accepts_above above, fun _ => ⟨positive, .inl above⟩⟩
    by_cases old : size ≤ mask.highest - number
    · refine iff_of_false ?_ (represents.rejects_old old wide)
      rintro ⟨-, higher | ⟨inside, -⟩⟩
      · exact above higher
      · exact absurd old (Nat.not_le_of_lt inside)
    · have inside := Nat.lt_of_not_le old
      rw [represents.accepts_inside positive (Nat.le_of_not_lt above) inside]
      constructor
      · rintro ⟨-, higher | ⟨-, clear⟩⟩
        · exact absurd higher above
        · exact clear
      · exact fun clear => ⟨positive, .inr ⟨inside, clear⟩⟩

/-- Registering an accepted number keeps track of it. -/
theorem Mask.Tracks.registers {next : Mask} (tracks : mask.Tracks size accepted)
    (positive : number ≠ 0) (registers : mask.Registers size number next) :
    Represents size next (number :: accepted) := by
  cases accepted with
  | cons latest earlier =>
    exact Represents.registers tracks positive registers
  | nil =>
    obtain rfl : mask = ⟨0, 0⟩ := tracks
    obtain ⟨rfl, moved⟩ := registers.above (Nat.pos_of_ne_zero positive)
    refine ⟨by simpa using positive.symm, by simp, by simp, fun other below inside => ?_⟩
    -- Only the lowest bit is set, and it stands for the number itself.
    rw [moved _ inside, Nat.zero_testBit, Bool.and_false, Bool.or_false, decide_eq_true_eq,
      List.mem_singleton]
    omega

/-- The bits of a grounded mask that represents a list are exactly its numbers near the highest. -/
theorem Represents.bit_iff (represents : Represents size mask accepted)
    (grounded : mask.Grounded size) {distance : Nat} (inside : distance < size) :
    mask.bits.testBit distance = true ↔ ∃ number ∈ accepted, number + distance = mask.highest := by
  constructor
  · -- A bit that is set stands for a number that is not below zero.
    intro set
    have below := grounded distance inside set
    have back : mask.highest - (mask.highest - distance) = distance := by omega
    refine ⟨mask.highest - distance, ?_, by omega⟩
    apply (represents.bit _ (Nat.sub_le _ _) (by omega)).mp
    rw [back]
    exact set
  · rintro ⟨number, member, same⟩
    have back : mask.highest - number = distance := by omega
    rw [← back]
    exact (represents.bit number (by omega) (by omega)).mpr member

/-- The highest number of a represented list is its maximum. -/
theorem Represents.max (represents : Represents size mask accepted) :
    accepted.max? = some mask.highest :=
  List.max?_eq_some_iff.mpr ⟨represents.highest_mem, represents.highest_le⟩

/-- A number is accepted exactly when it is not zero, was not accepted before, and is less than the
window size below the highest accepted number, if there is one. -/
theorem accepts_iff_max : Accepts size accepted number ↔
    number ≠ 0 ∧ number ∉ accepted ∧ ∀ highest ∈ accepted.max?, highest < number + size := by
  refine and_congr_right fun _ => and_congr_right fun _ => ?_
  constructor
  · intro recent highest maximum
    exact recent highest (List.max?_eq_some_iff.mp maximum).1
  · intro recent earlier member
    -- A list with a member has a maximum.
    cases maximum : accepted.max? with
    | none => simp [List.max?_eq_none_iff.mp maximum] at member
    | some highest =>
      have := (List.max?_eq_some_iff.mp maximum).2 earlier member
      have := recent highest maximum
      omega

/-- A number above every accepted one is accepted. -/
theorem accepts_of_above (above : ∀ earlier ∈ accepted, earlier < number) (positive : number ≠ 0) :
    Accepts size accepted number := by
  refine ⟨positive, fun member => ?_, fun earlier member => ?_⟩
  · exact absurd (above number member) (Nat.lt_irrefl _)
  · exact Nat.lt_of_lt_of_le (above earlier member) (Nat.le_add_right _ _)

end SlidingWindow
