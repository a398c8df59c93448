import Mathlib.Data.Finset.Range
import Ykp.Codec.MapLookup
import Ykp.Foundation.Walk

/-! The device's walk over the fields of a received map, and when it ends. -/

namespace Ykp

open BigEndian StateTransition

/-- The index of the next field, behind a field of another type. -/
def nextField (buf : Memory) (bufLen : Nat) (type : UInt8) (indefinite : Bool) (i : Nat) :
    Option Nat :=
  if FieldAt buf bufLen indefinite i ∧ fieldKey buf i ≠ type then
    some (ykpTlvSkip buf (fieldValue buf i))
  else none

/-- The first field of a map, and whether the map is indefinite; nothing where there is no map. -/
def mapStart (buf : Memory) (bufLen : Nat) : Option (Bool × Nat) :=
  if bufLen < 2 then none
  else if buf 0 = 0xBF then some (true, 1)
  else if buf 0 &&& 0xE0 = 0xA0 then some (false, if buf 0 &&& 0x1F = 0x18 then 2 else 1)
  else none

/-- A lookup whose loop may run a number of times. -/
def ykpTlvFindWithin (fuel : Nat) (buf : Memory) (bufLen : Nat) (type : UInt8) : TlvLookup :=
  match mapStart buf bufLen with
  | none => .absent
  | some (indefinite, start) => ykpTlvFindLoop buf bufLen type indefinite fuel start

/-- The loop of a lookup ends after finitely many iterations. -/
def FindTerminates (buf : Memory) (bufLen : Nat) (type : UInt8) : Prop :=
  ∃ fuel, ykpTlvFindWithin fuel buf bufLen type ≠ .diverges

/-- A lookup is one whose loop may visit every index once. -/
theorem ykpTlvFind_eq (buf : Memory) (bufLen : Nat) (type : UInt8) :
    ykpTlvFind buf bufLen type = ykpTlvFindWithin (bufLen + 1) buf bufLen type := by
  unfold ykpTlvFind ykpTlvFindWithin mapStart
  dsimp only
  split_ifs <;> rfl

/-- A loop has not ended while its walk goes on. -/
theorem ykpTlvFindLoop_diverges (buf : Memory) (bufLen : Nat) (type : UInt8) (indefinite : Bool)
    (fuel i : Nat) :
    ykpTlvFindLoop buf bufLen type indefinite fuel i = .diverges ↔
      Walk.after (nextField buf bufLen type indefinite) fuel i ≠ none := by
  -- Each iteration is one step of the walk.
  induction fuel generalizing i with
  | zero => simp [ykpTlvFindLoop]
  | succ fuel ih =>
    rw [ykpTlvFindLoop_succ, Walk.after_succ, nextField]
    by_cases field : FieldAt buf bufLen indefinite i
    · by_cases asked : fieldKey buf i = type
      · simp [field, asked]
      · rw [if_neg (not_not.mpr field), if_neg asked, if_pos ⟨field, asked⟩, Option.bind_some, ih]
    · simp [field]

/-- What is found behind fields of other types stands behind its key, whatever became of its value. -/
theorem ykpTlvFind_start {fields : List Field} {key : UInt8} {bytes rest : Bytes} {beyond : Memory}
    {tlv : YkpTlv} (layout : bytes = [0xBF] ++ (fieldBytes fields ++ (keyBytes key ++ rest)))
    (apart : ∀ other ∈ fields, other.key ≠ key) (small : bytes.length ≤ 65535)
    (found : ykpTlvFind (memoryOf bytes beyond) bytes.length key = .found tlv) :
    tlv.start = 1 + (fieldBytes fields).length + (keyBytes key).length := by
  have total := congrArg List.length layout
  simp only [List.length_append, List.length_singleton] at total
  have count := fieldBytes_length fields
  obtain ⟨fuel, enough⟩ : ∃ fuel, bytes.length + 1 = fuel + 1 + fields.length :=
    ⟨bytes.length - fields.length, by omega⟩
  -- The walk comes past everything in front, and then reads the key.
  have walked := @ykpTlvFindLoop_skip fields [0xBF] (keyBytes key ++ rest) beyond bytes.length key
    (fuel + 1) apart (by simp only [List.length_singleton]; omega) small
  obtain ⟨first, more, written⟩ := keyBytes_eq_cons key
  have width := congrArg List.length written
  rw [List.length_cons] at width
  have here := @field_of_key ([0xBF] ++ fieldBytes fields) rest key beyond bytes.length true
    (by simp only [List.length_append, List.length_singleton]; omega)
    (by simp only [List.length_append, List.length_singleton]; omega)
  rw [List.append_assoc, ← layout, List.length_append, List.length_singleton] at here
  obtain ⟨field, asked, value⟩ := here
  have opened : mapStart (memoryOf bytes beyond) bytes.length = some (true, 1) := by
    rw [mapStart, if_neg (by omega), layout]
    rfl
  rw [← layout, List.length_singleton, ykpTlvFindLoop_succ, if_neg (not_not.mpr field), asked, value,
    if_pos rfl] at walked
  simp only [ykpTlvFind_eq, ykpTlvFindWithin, opened, enough, walked] at found
  rw [← TlvLookup.found.inj found]

/-- A value that is found behind them and reaches to the end ends in the last byte. -/
theorem ykpTlvFind_last {fields : List Field} {key final last : UInt8} {bytes init : Bytes}
    {tlv : YkpTlv}
    (layout : bytes = [0xBF] ++ (fieldBytes fields ++ (keyBytes key ++ init)) ++ [last])
    (apart : ∀ other ∈ fields, other.key ≠ key) (small : bytes.length ≤ 65535)
    (found : ykpTlvFind (byteAt bytes) bytes.length key = .found tlv)
    (read : readBytes (byteAt bytes) tlv.start tlv.length = init ++ [final]) : final = last := by
  have behind : bytes = [0xBF] ++ (fieldBytes fields ++ (keyBytes key ++ (init ++ [last]))) := by
    rw [layout]
    simp only [List.append_assoc]
  have start := ykpTlvFind_start behind apart small found
  obtain ⟨-, same⟩ := getElem_of_readBytes read
  -- What was read behind the rest of the value is the byte that stands there.
  have here := same init.length (by simp)
  have end_ := memoryOf_front ([0xBF] ++ (fieldBytes fields ++ (keyBytes key ++ init))) last []
    fun _ => 0
  have place : tlv.start + init.length =
      ([0xBF] ++ (fieldBytes fields ++ (keyBytes key ++ init))).length := by
    simp only [start, List.length_append, List.length_singleton, Nat.add_assoc]
  rw [place, byteAt, layout, end_, List.getElem_concat_length rfl] at here
  exact here

/-- The walk over the fields, up to the first of the asked type, comes back to a field that it has
passed: some field announces an end that is a multiple of 2^16 behind an earlier one. -/
def ComesRound (buf : Memory) (bufLen : Nat) (type : UInt8) : Prop :=
  ∃ indefinite start, mapStart buf bufLen = some (indefinite, start) ∧
    ∃ i, Reaches (nextField buf bufLen type indefinite) start i ∧
      Reaches₁ (nextField buf bufLen type indefinite) i i

/-- The walk goes on from indices inside the buffer only. -/
theorem nextField_inside {buf : Memory} {bufLen : Nat} {type : UInt8} {indefinite : Bool}
    {i j : Nat} (step : j ∈ nextField buf bufLen type indefinite i) : i ∈ Finset.range bufLen := by
  unfold nextField at step
  split at step
  · rename_i goes
    exact Finset.mem_range.mpr goes.1.1
  · cases step

/-- A loop ends exactly when its walk has no cycle, and then within one iteration for each byte and
one more. -/
theorem ykpTlvFindLoop_ends_iff (buf : Memory) (bufLen : Nat) (type : UInt8) (indefinite : Bool)
    (start : Nat) :
    ((∃ fuel, ykpTlvFindLoop buf bufLen type indefinite fuel start ≠ .diverges) ↔
      ¬ ∃ i, Reaches (nextField buf bufLen type indefinite) start i ∧
        Reaches₁ (nextField buf bufLen type indefinite) i i) ∧
    ((∃ fuel, ykpTlvFindLoop buf bufLen type indefinite fuel start ≠ .diverges) →
      ykpTlvFindLoop buf bufLen type indefinite (bufLen + 1) start ≠ .diverges) := by
  have confined : ∀ i j, Reaches (nextField buf bufLen type indefinite) start i →
      j ∈ nextField buf bufLen type indefinite i → i ∈ Finset.range bufLen :=
    fun _ _ _ step => nextField_inside step
  -- The walk goes on from the indices below the end only, of which there are finitely many.
  have acyclic := Walk.ends_iff_no_cycle (Finset.range bufLen) confined
  simp only [ne_eq, ykpTlvFindLoop_diverges, not_not]
  constructor
  · rw [not_exists]
    simp only [not_and]
    exact acyclic
  · intro ends
    have within := Walk.after_card_of_no_cycle _ confined (acyclic.mp ends)
    rwa [Finset.card_range] at within

/-- A lookup ends exactly when its walk does not come round. -/
theorem findTerminates_iff (buf : Memory) (bufLen : Nat) (type : UInt8) :
    FindTerminates buf bufLen type ↔ ¬ ComesRound buf bufLen type := by
  unfold FindTerminates ComesRound ykpTlvFindWithin
  cases map : mapStart buf bufLen with
  | none => simp
  | some opened =>
    obtain ⟨indefinite, start⟩ := opened
    refine (ykpTlvFindLoop_ends_iff buf bufLen type indefinite start).1.trans (not_congr ?_)
    constructor
    · exact fun round => ⟨indefinite, start, rfl, round⟩
    · rintro ⟨_, _, same, round⟩
      obtain ⟨rfl, rfl⟩ := Prod.mk.inj (Option.some.inj same)
      exact round

/-- A lookup ends after finitely many iterations exactly when its walk does not come back to a field
that it has passed; and if it ends, it does so within one iteration for each byte and one more. -/
theorem ykpTlvFind_terminates_iff (buf : Memory) (bufLen : Nat) (type : UInt8) :
    (FindTerminates buf bufLen type ↔ ¬ ComesRound buf bufLen type) ∧
      (FindTerminates buf bufLen type ↔ ykpTlvFind buf bufLen type ≠ .diverges) := by
  refine ⟨findTerminates_iff buf bufLen type, fun ends => ?_, fun ended => ?_⟩
  · rw [ykpTlvFind_eq]
    unfold FindTerminates ykpTlvFindWithin at *
    cases map : mapStart buf bufLen with
    | none => simp
    | some opened =>
      rw [map] at ends
      exact (ykpTlvFindLoop_ends_iff buf bufLen type opened.1 opened.2).2 ends
  · exact ⟨_, ykpTlvFind_eq buf bufLen type ▸ ended⟩

/-- A string of 65532 bytes that ends 2^16 bytes behind the start of its field. -/
theorem ykpTlvFind_runs_on : ¬ ∀ buf bufLen type, bufLen ≤ 512 → FindTerminates buf bufLen type := by
  intro claim
  obtain ⟨fuel, ended⟩ := claim (byteAt [0xBF, 0x01, 0x59, 0xFF, 0xFC]) 5 2 (by decide)
  have round : nextField (byteAt [0xBF, 0x01, 0x59, 0xFF, 0xFC]) 5 2 true 1 = some 1 := by decide
  -- Every step leads back to the first field.
  have stays (steps : Nat) : Walk.after (nextField (byteAt [0xBF, 0x01, 0x59, 0xFF, 0xFC]) 5 2 true)
      steps 1 = some 1 := by
    induction steps with
    | zero => rfl
    | succ steps ih => rw [Walk.after_succ, round, Option.bind_some, ih]
  refine ended ((ykpTlvFindLoop_diverges _ _ _ _ _ _).mpr ?_)
  rw [stays]
  exact Option.some_ne_none 1

/-- A lookup in a buffer that a packet can deliver ends if no field in it announces an end beyond the
16-bit range. -/
theorem ykpTlvFind_terminates {buf : Memory} {bufLen : Nat} (small : bufLen ≤ 512)
    (ends : ∀ i < bufLen, announcedEnd buf (fieldValue buf i) < 65536) (type : UInt8) :
    FindTerminates buf bufLen type := by
  refine (findTerminates_iff buf bufLen type).mpr ?_
  rintro ⟨indefinite, start, -, i, reached, cycle⟩
  refine Walk.no_cycle_of_grows id (fun i j _ step => ?_) reached cycle
  have inside := Finset.mem_range.mp (nextField_inside step)
  -- The value starts behind the key, and ends behind its start.
  have key : i < fieldValue buf i := by
    unfold fieldValue
    split <;> omega
  have value := start_lt_announcedEnd buf (fieldValue buf i)
  unfold nextField at step
  split at step
  · obtain rfl := Option.some.inj step
    rw [id, id, ykpTlvSkip_eq (ends i inside)]
    exact Nat.lt_trans key value
  · cases step

end Ykp
