import Mathlib.Algebra.Group.Int.Defs
import Ykp.Foundation.Pieces
import Ykp.System.HmacAgreement

/-! How the app cuts a payload into numbered chunks for writing it over Bluetooth. -/

namespace Ykp.System

open Pieces

/-- The text in front of a chunk: its number, and how many there are. -/
def chunkHeader (index total : Int32) : Bytes :=
  utf8Encode (decimalText index.toInt ++ [0x2F] ++ decimalText total.toInt ++ [0x3A])

/-- The smaller of two integers. -/
def mathMin (first second : Int32) : Int32 := if first ≤ second then first else second

/-- One chunk from an offset on, and the offset behind it; nothing when less than no bytes would
have to be copied. -/
def indexedChunk (rawBytes : Bytes) (maxChunkSize total index offset : Int32) :
    Option (Bytes × Int32) :=
  let headerBytes := chunkHeader index total
  let remaining := Int32.ofNat rawBytes.length - offset
  let takeSize := mathMin remaining (maxChunkSize - Int32.ofNat headerBytes.length)
  if takeSize < 0 then none
  else
    let taken := (rawBytes.drop offset.toNatClampNeg).take takeSize.toNatClampNeg
    some (headerBytes ++ taken, offset + takeSize)

/-- The first pass: chunks until the payload is used up. -/
def whileChunks (rawBytes : Bytes) (maxChunkSize tempTotal : Int32) :
    Nat → Int32 → Int32 → Option (List Bytes)
  | 0, _, _ => none
  | fuel + 1, chunkIndex, offset =>
    if offset < Int32.ofNat rawBytes.length then do
      let (chunk, next) ← indexedChunk rawBytes maxChunkSize tempTotal chunkIndex offset
      let later ← whileChunks rawBytes maxChunkSize tempTotal fuel (chunkIndex + 1) next
      return chunk :: later
    else some []

/-- The second pass: so many chunks. -/
def forChunks (rawBytes : Bytes) (maxChunkSize exactTotal : Int32) :
    Nat → Int32 → Int32 → Option (List Bytes)
  | 0, _, _ => some []
  | turns + 1, i, offset => do
    let (chunk, next) ← indexedChunk rawBytes maxChunkSize exactTotal i offset
    let later ← forChunks rawBytes maxChunkSize exactTotal turns (i + 1) next
    return chunk :: later

/-- The chunks of a payload, given by its UTF-8 bytes; nothing when an operation throws, or when the
first pass takes more turns than allowed. -/
def buildIndexedChunks (fuel : Nat) (rawBytes : Bytes) (maxChunkSize : Int32) :
    Option (List Bytes) :=
  let payloadStep := maxChunkSize - 20
  if payloadStep = 0 then none
  else do
    let estimate := (Int32.ofNat rawBytes.length + payloadStep - 1) / payloadStep
    let tempTotal := if estimate ≤ 0 then 1 else estimate
    let chunks ← whileChunks rawBytes maxChunkSize tempTotal fuel 1 0
    let exactTotal := Int32.ofNat chunks.length
    -- The headers of the first pass name the estimate, so they are only right if it is.
    if exactTotal ≠ tempTotal then
      forChunks rawBytes maxChunkSize exactTotal chunks.length 1 0
    else some chunks

/-- The header of a chunk with a positive number and total. -/
def chunkHeaderBytes (index total : Nat) : Bytes :=
  decimalBytes index ++ [0x2F] ++ decimalBytes total ++ [0x3A]

/-- The bytes of a chunk that its header leaves room for. -/
def chunkRoom (maxChunkSize total : Nat) (index : Nat) : Nat :=
  maxChunkSize - (chunkHeaderBytes index total).length

/-- Pieces behind their headers, the first one with a given number. -/
def framed (total : Nat) : Nat → List Bytes → List Bytes
  | _, [] => []
  | index, piece :: later =>
    (chunkHeaderBytes index total ++ piece) :: framed total (index + 1) later

/-- The header of a number and a total that fit. -/
theorem chunkHeader_eq {index total : Int32} {i n : Nat} (numbered : index.toInt = i)
    (totalled : total.toInt = n) : chunkHeader index total = chunkHeaderBytes i n := by
  have ascii : ∀ unit ∈ decimalText i ++ [0x2F] ++ decimalText n ++ [0x3A], unit < 0x80 := by
    intro unit member
    simp only [List.mem_append, List.mem_singleton] at member
    obtain ((first | slash) | second) | colon := member
    · exact decimalText_ascii i unit first
    · omega
    · exact decimalText_ascii n unit second
    · omega
  have pieces (first second : JsString) :
      asciiBytes (first ++ second) = asciiBytes first ++ asciiBytes second := List.map_append
  unfold chunkHeader chunkHeaderBytes
  rw [numbered, totalled, utf8Encode_ascii ascii, pieces, pieces, pieces, asciiBytes_decimalText,
    asciiBytes_decimalText]
  rfl

/-- A number below a power of ten has no more digits than its exponent. -/
theorem decimalBytes_length_le_iff {value digits : Nat} (positive : 0 < digits) :
    (decimalBytes value).length ≤ digits ↔ value < 10 ^ digits := by
  rw [decimalBytes, List.length_map]
  exact Nat.length_toDigits_le_iff (by decide) positive

/-- Smaller numbers have no more digits. -/
theorem decimalBytes_length_mono {first second : Nat} (le : first ≤ second) :
    (decimalBytes first).length ≤ (decimalBytes second).length := by
  have positive : 0 < (decimalBytes second).length := by
    rw [decimalBytes, List.length_map]
    exact List.length_pos_iff.mpr Nat.toDigits_ne_nil
  have below := (decimalBytes_length_le_iff positive).mp (Nat.le_refl _)
  exact (decimalBytes_length_le_iff positive).mpr (Nat.lt_of_le_of_lt le below)

/-- Two numbers below 10^9 leave all but twenty bytes of a chunk. -/
theorem chunkHeaderBytes_length_le {index total : Nat} (small : index < 10 ^ 9)
    (few : total < 10 ^ 9) : (chunkHeaderBytes index total).length ≤ 20 := by
  have first := (decimalBytes_length_le_iff (by decide)).mpr small
  have second := (decimalBytes_length_le_iff (by decide)).mpr few
  simp only [chunkHeaderBytes, List.length_append, List.length_singleton]
  omega

/-- A smaller total leaves no less room. -/
theorem chunkRoom_mono {maxChunkSize total total' : Nat} (le : total ≤ total') (index : Nat) :
    chunkRoom maxChunkSize total' index ≤ chunkRoom maxChunkSize total index := by
  have digits := decimalBytes_length_mono le
  simp only [chunkRoom, chunkHeaderBytes, List.length_append, List.length_singleton]
  omega

/-- Sums and differences of integers that fit are exact. -/
theorem toInt_add_of_range {first second : Int32} (low : -2 ^ 31 ≤ first.toInt + second.toInt)
    (high : first.toInt + second.toInt < 2 ^ 31) :
    (first + second).toInt = first.toInt + second.toInt := by
  rw [Int32.toInt_add, Int.bmod_eq_of_le (by omega) (by omega)]

theorem toInt_sub_of_range {first second : Int32} (low : -2 ^ 31 ≤ first.toInt - second.toInt)
    (high : first.toInt - second.toInt < 2 ^ 31) :
    (first - second).toInt = first.toInt - second.toInt := by
  rw [Int32.toInt_sub, Int.bmod_eq_of_le (by omega) (by omega)]

/-- The smaller of two integers is the smaller of their values. -/
theorem toInt_mathMin (first second : Int32) :
    (mathMin first second).toInt = min first.toInt second.toInt := by
  unfold mathMin
  split
  · rename_i below
    have values := Int32.le_iff_toInt_le.mp below
    omega
  · rename_i above
    have values : ¬ first.toInt ≤ second.toInt := fun le => above (Int32.le_iff_toInt_le.mpr le)
    omega

/-- A payload and a size of chunks that the numbers of the code are wide enough for. -/
structure ChunksFit (rawBytes : Bytes) (maxChunkSize : Int32) : Prop where
  small : rawBytes.length < 2 ^ 30
  large : 230 ≤ maxChunkSize.toInt

/-- A chunk is its header with the bytes there is room for, and the next one starts behind them. -/
theorem indexedChunk_eq {rawBytes : Bytes} {maxChunkSize total index offset : Int32} {i n k : Nat}
    (fit : ChunksFit rawBytes maxChunkSize) (numbered : index.toInt = i) (totalled : total.toInt = n)
    (at_ : offset.toInt = k) (low : i < 10 ^ 9) (few : n < 10 ^ 9)
    (within : k ≤ rawBytes.length) :
    ∃ next, indexedChunk rawBytes maxChunkSize total index offset =
        some (chunkHeaderBytes i n ++
          (rawBytes.drop k).take (chunkRoom maxChunkSize.toInt.toNat n i), next) ∧
      next.toInt = min rawBytes.length (k + chunkRoom maxChunkSize.toInt.toNat n i) := by
  obtain ⟨small, large⟩ := fit
  have header := chunkHeaderBytes_length_le low few
  have top : maxChunkSize.toInt < 2 ^ 31 := maxChunkSize.toInt_lt
  have size : (Int32.ofNat rawBytes.length).toInt = rawBytes.length :=
    Int32.toInt_ofNat_of_lt (by omega)
  have headerSize : (Int32.ofNat (chunkHeaderBytes i n).length).toInt =
      (chunkHeaderBytes i n).length := Int32.toInt_ofNat_of_lt (by omega)
  have room : (maxChunkSize - Int32.ofNat (chunkHeaderBytes i n).length).toInt =
      chunkRoom maxChunkSize.toInt.toNat n i := by
    rw [toInt_sub_of_range (by omega) (by omega), headerSize, chunkRoom]
    omega
  have remaining : (Int32.ofNat rawBytes.length - offset).toInt = (rawBytes.length - k : Nat) := by
    rw [toInt_sub_of_range (by omega) (by omega), size, at_]
    omega
  -- None of the numbers of the code leaves its range.
  unfold indexedChunk
  rw [chunkHeader_eq numbered totalled]
  dsimp only
  generalize taken : mathMin (Int32.ofNat rawBytes.length - offset)
    (maxChunkSize - Int32.ofNat (chunkHeaderBytes i n).length) = takeSize
  have takes : takeSize.toInt =
      (min (rawBytes.length - k) (chunkRoom maxChunkSize.toInt.toNat n i) : Nat) := by
    rw [← taken, toInt_mathMin, remaining, room]
    omega
  have forward : ¬ takeSize < 0 := by
    intro negative
    have values := Int32.lt_iff_toInt_lt.mp negative
    rw [takes, Int32.toInt_zero] at values
    omega
  have start : offset.toNatClampNeg = k := by
    unfold Int32.toNatClampNeg
    rw [at_, Int.toNat_natCast]
  have count : takeSize.toNatClampNeg =
      min (rawBytes.length - k) (chunkRoom maxChunkSize.toInt.toNat n i) := by
    unfold Int32.toNatClampNeg
    rw [takes, Int.toNat_natCast]
  rw [if_neg forward, start, count]
  refine ⟨offset + takeSize, ?_, ?_⟩
  · -- Taking more bytes than there are takes all of them.
    have whole : (rawBytes.drop k).take
        (min (rawBytes.length - k) (chunkRoom maxChunkSize.toInt.toNat n i)) =
          (rawBytes.drop k).take (chunkRoom maxChunkSize.toInt.toNat n i) := by
      rw [← List.length_drop, Nat.min_comm, ← List.take_take, List.take_length]
    rw [whole]
  · rw [toInt_add_of_range (by omega) (by omega), takes, at_]
    omega

/-- Behind a chunk the payload goes on without the bytes that were taken. -/
theorem drop_min (rawBytes : Bytes) (k room : Nat) :
    rawBytes.drop (min rawBytes.length (k + room)) = (rawBytes.drop k).drop room := by
  rw [List.drop_drop]
  by_cases within : k + room ≤ rawBytes.length
  · rw [Nat.min_eq_right within]
  · -- Past the end nothing is left either way.
    rw [Nat.min_eq_left (by omega), List.drop_length, List.drop_eq_nil_of_le (by omega)]

section Passes

variable {rawBytes : Bytes} {maxChunkSize total : Int32} {n : Nat}

/-- The second pass frames as many pieces as it is told to. -/
theorem forChunks_eq (fit : ChunksFit rawBytes maxChunkSize) (totalled : total.toInt = n)
    (few : n < 10 ^ 9) {turns i k : Nat} {index offset : Int32} (numbered : index.toInt = i)
    (at_ : offset.toInt = k) (low : i + turns ≤ 10 ^ 9) (within : k ≤ rawBytes.length) :
    forChunks rawBytes maxChunkSize total turns index offset =
      some (framed n i (cut (chunkRoom maxChunkSize.toInt.toNat n) turns i (rawBytes.drop k))) := by
  -- Each turn frames one piece and goes on behind it, with the next number.
  induction turns generalizing i k index offset with
  | zero => rfl
  | succ turns ih =>
    obtain ⟨next, chunk, behind⟩ :=
      indexedChunk_eq fit numbered totalled at_ (by omega) few within
    have following : (index + 1).toInt = (i + 1 : Nat) := by
      rw [toInt_add_of_range] <;> simp only [numbered, Int32.toInt_one] <;> omega
    have rest := ih following behind (by omega) (Nat.min_le_left _ _)
    rw [drop_min] at rest
    rw [forChunks, chunk, Option.bind_eq_bind, Option.bind_some]
    dsimp only
    rw [rest]
    rfl

/-- The first pass frames pieces until none of the payload is left. -/
theorem whileChunks_eq (fit : ChunksFit rawBytes maxChunkSize) (totalled : total.toInt = n)
    (few : n < 10 ^ 9) {turns fuel i k : Nat} {index offset : Int32} (numbered : index.toInt = i)
    (at_ : offset.toInt = k) (low : i + turns ≤ 10 ^ 9) (within : k ≤ rawBytes.length)
    (used : left (chunkRoom maxChunkSize.toInt.toNat n) turns i (rawBytes.drop k) = [])
    (first : ∀ fewer < turns,
      left (chunkRoom maxChunkSize.toInt.toNat n) fewer i (rawBytes.drop k) ≠ [])
    (enough : turns < fuel) :
    whileChunks rawBytes maxChunkSize total fuel index offset =
      some (framed n i (cut (chunkRoom maxChunkSize.toInt.toNat n) turns i (rawBytes.drop k))) := by
  have small := fit.small
  have size : (Int32.ofNat rawBytes.length).toInt = rawBytes.length :=
    Int32.toInt_ofNat_of_lt (by omega)
  -- Each turn spends one unit of fuel; that nothing was left earlier keeps the loop going.
  induction turns generalizing fuel i k index offset with
  | zero =>
    obtain ⟨fuel, rfl⟩ := Nat.exists_eq_succ_of_ne_zero (Nat.ne_of_gt enough)
    -- Nothing is left, so the offset is at the end.
    have done : rawBytes.length ≤ k := List.drop_eq_nil_iff.mp used
    have stops : ¬ offset < Int32.ofNat rawBytes.length := by
      rw [Int32.lt_iff_toInt_lt, size, at_]
      omega
    rw [whileChunks, if_neg stops]
    rfl
  | succ turns ih =>
    obtain ⟨fuel, rfl⟩ := Nat.exists_eq_succ_of_ne_zero (Nat.ne_of_gt (Nat.zero_lt_of_lt enough))
    have more : k < rawBytes.length := by
      have some_ := first 0 (Nat.succ_pos turns)
      exact Nat.lt_of_not_le fun done => some_ (List.drop_eq_nil_of_le done)
    have goes : offset < Int32.ofNat rawBytes.length := by
      rw [Int32.lt_iff_toInt_lt, size, at_]
      omega
    obtain ⟨next, chunk, behind⟩ :=
      indexedChunk_eq fit numbered totalled at_ (by omega) few within
    have following : (index + 1).toInt = (i + 1 : Nat) := by
      rw [toInt_add_of_range] <;> simp only [numbered, Int32.toInt_one] <;> omega
    have rest := @ih fuel _ _ _ _ following behind (by omega) (Nat.min_le_left _ _)
    rw [drop_min] at rest
    rw [whileChunks, if_pos goes, chunk, Option.bind_eq_bind, Option.bind_some]
    dsimp only
    rw [rest used (fun fewer below => first (fewer + 1) (by omega)) (by omega)]
    rfl

end Passes

/-- Dividing rounded up: the quotient is no more than the dividend, and suffices. -/
theorem ceil_div {size step : Nat} (filled : 0 < size) (wide : 210 ≤ step) (small : size < 2 ^ 30) :
    let quotient := (size + step - 1) / step
    0 < quotient ∧ quotient ≤ size ∧ quotient < 10 ^ 8 ∧ size ≤ quotient * step := by
  intro quotient
  have sums : size - 1 + step = size + step - 1 := by omega
  have split : quotient = (size - 1) / step + 1 := by
    rw [← Nat.add_div_right _ (by omega), sums]
  have below : (size - 1) / step ≤ size - 1 := Nat.div_le_self _ _
  have few : (size - 1) / step ≤ (size - 1) / 210 := Nat.div_le_div_left wide (by decide)
  have whole := Nat.div_add_mod (size - 1) step
  have rest := Nat.mod_lt (size - 1) (show 0 < step by omega)
  rw [split]
  -- From here on the quotient is only a number.
  generalize (size - 1) / step = less at *
  refine ⟨Nat.succ_pos less, by omega, by omega, ?_⟩
  rw [Nat.succ_mul, Nat.mul_comm]
  omega

/-- The total the first pass names: a number of chunks that suffices when each has a header of
twenty bytes. -/
theorem estimate_suffices {rawBytes : Bytes} {maxChunkSize : Int32}
    (fit : ChunksFit rawBytes maxChunkSize) (nonempty : rawBytes ≠ []) :
    let payloadStep := maxChunkSize - 20
    let estimate := (Int32.ofNat rawBytes.length + payloadStep - 1) / payloadStep
    ∃ T : Nat, (if estimate ≤ 0 then 1 else estimate).toInt = T ∧
      T ≤ rawBytes.length ∧ T < 10 ^ 8 ∧
      rawBytes.length ≤ T * (maxChunkSize.toInt.toNat - 20) := by
  intro payloadStep estimate
  obtain ⟨small, large⟩ := fit
  have top : maxChunkSize.toInt < 2 ^ 31 := maxChunkSize.toInt_lt
  have filled : 0 < rawBytes.length := List.length_pos_iff.mpr nonempty
  have twenty : (20 : Int32).toInt = 20 := rfl
  obtain ⟨step, stepValue⟩ : ∃ step, step = maxChunkSize.toInt.toNat - 20 := ⟨_, rfl⟩
  have size : (Int32.ofNat rawBytes.length).toInt = rawBytes.length :=
    Int32.toInt_ofNat_of_lt (by omega)
  have stepInt : payloadStep.toInt = step := by
    rw [toInt_sub_of_range (by omega) (by omega), twenty]
    omega
  have sum : (Int32.ofNat rawBytes.length + payloadStep - 1).toInt =
      ((rawBytes.length + step - 1 : Nat) : Int).bmod (2 ^ 32) := by
    rw [Int32.toInt_sub, Int32.toInt_add, size, stepInt, Int32.toInt_one, Int.bmod_sub_bmod]
    congr 1
    omega
  -- Only a divisor of minus one could overflow.
  have quotient : estimate.toInt =
      (((rawBytes.length + step - 1 : Nat) : Int).bmod (2 ^ 32)).tdiv step := by
    have forward : payloadStep ≠ -1 := by
      intro same
      rw [same] at stepInt
      have value : (-1 : Int32).toInt = -1 := rfl
      omega
    rw [Int32.toInt_div_of_ne_right _ _ forward, sum, stepInt]
  rw [← stepValue]
  by_cases exact_ : rawBytes.length + step - 1 < 2 ^ 31
  · -- The sum fits, and its quotient is positive.
    obtain ⟨positive, atMost, few, enough⟩ :=
      @ceil_div rawBytes.length step filled (by omega) small
    rw [Int.bmod_eq_of_le (by omega) (by omega), ← Int.ofNat_tdiv] at quotient
    have above : ¬ estimate ≤ 0 := by
      rw [Int32.le_iff_toInt_le, quotient, Int32.toInt_zero]
      omega
    rw [if_neg above]
    exact ⟨_, quotient, atMost, few, enough⟩
  · -- The sum comes out negative, and one chunk has room for everything.
    obtain ⟨missing, short⟩ : ∃ missing : Nat, rawBytes.length + step - 1 + missing = 2 ^ 32 :=
      ⟨2 ^ 32 - (rawBytes.length + step - 1), by omega⟩
    have wrapped : ((rawBytes.length + step - 1 : Nat) : Int).bmod (2 ^ 32) = -missing := by
      have shifted : ((rawBytes.length + step - 1 : Nat) : Int) = -missing + (2 ^ 32 : Nat) := by
        omega
      rw [shifted, Int.add_bmod_right, Int.bmod_eq_of_le (by omega) (by omega)]
    have below : estimate ≤ 0 := by
      rw [Int32.le_iff_toInt_le, quotient, Int32.toInt_zero, wrapped, Int.neg_tdiv,
        ← Int.ofNat_tdiv]
      exact Int.neg_nonpos_of_nonneg (Int.natCast_nonneg _)
    rw [if_pos below]
    exact ⟨1, rfl, filled, by omega, by omega⟩

@[simp] theorem framed_length (total index : Nat) (pieces : List Bytes) :
    (framed total index pieces).length = pieces.length := by
  -- Every piece gets one header.
  induction pieces generalizing index with
  | nil => rfl
  | cons piece later ih => rw [framed, List.length_cons, ih, List.length_cons]

/-- Each chunk is a piece behind the header of its number. -/
theorem framed_eq_mapIdx (total first : Nat) (pieces : List Bytes) :
    framed total first pieces =
      pieces.mapIdx fun index piece => chunkHeaderBytes (first + index) total ++ piece := by
  induction pieces generalizing first with
  | nil => rfl
  | cons piece later ih =>
    have shifted : (fun index piece => chunkHeaderBytes (first + 1 + index) total ++ piece) =
        fun index piece => chunkHeaderBytes (first + (index + 1)) total ++ piece := by
      funext index piece
      rw [Nat.add_assoc, Nat.add_comm 1 index]
    rw [framed, ih, List.mapIdx_cons, shifted, Nat.add_zero]

/-- The header of a number and a total, as a text. -/
theorem chunkHeaderBytes_eq_text (index total : Nat) :
    chunkHeaderBytes index total = textBytes (toString index ++ "/" ++ toString total ++ ":") := by
  have digits (value : Nat) : decimalBytes value = textBytes (toString value) := by
    have text : (toString value).toList = Nat.toDigits 10 value := Nat.toList_repr
    rw [textBytes, text, decimalBytes]
  have pieces (first second : String) :
      textBytes (first ++ second) = textBytes first ++ textBytes second := by
    rw [textBytes, String.toList_append, List.map_append]
    rfl
  rw [chunkHeaderBytes, pieces, pieces, pieces, digits, digits]
  rfl

/-- The chunks of a payload that fits: pieces that leave nothing of it, behind headers that name as
many chunks as there are. -/
theorem buildIndexedChunks_eq {rawBytes : Bytes} {maxChunkSize : Int32}
    (fit : ChunksFit rawBytes maxChunkSize) (nonempty : rawBytes ≠ []) :
    ∃ n < 10 ^ 8, left (chunkRoom maxChunkSize.toInt.toNat n) n 1 rawBytes = [] ∧
      ∀ fuel, rawBytes.length < fuel → buildIndexedChunks fuel rawBytes maxChunkSize =
        some (framed n 1 (cut (chunkRoom maxChunkSize.toInt.toNat n) n 1 rawBytes)) := by
  obtain ⟨T, totalled, atMost, few, suffices_⟩ := estimate_suffices fit nonempty
  have large := fit.large
  -- Headers of at most twenty bytes leave enough room in the chunks that were estimated.
  have wide : ∀ index < T, maxChunkSize.toInt.toNat - 20 ≤
      chunkRoom maxChunkSize.toInt.toNat T (1 + index) := by
    intro index below
    have header := @chunkHeaderBytes_length_le (1 + index) T (by omega) (by omega)
    rw [chunkRoom]
    omega
  obtain ⟨n, within, used, first⟩ := exists_first_left (left_eq_nil_of_le wide suffices_)
  -- With the exact total there is no less room.
  have stillUsed : left (chunkRoom maxChunkSize.toInt.toNat n) n 1 rawBytes = [] :=
    left_eq_nil_of_wider (fun index _ => chunkRoom_mono within _) (Nat.le_refl _) used
  refine ⟨n, by omega, stillUsed, ?_⟩
  intro fuel enough
  have zero : (0 : Int32).toInt = (0 : Nat) := rfl
  have one : (1 : Int32).toInt = (1 : Nat) := rfl
  have total : (Int32.ofNat n).toInt = n := Int32.toInt_ofNat_of_lt (by omega)
  have divides : maxChunkSize - 20 ≠ 0 := by
    intro same
    have value := congrArg Int32.toInt same
    have twenty : (20 : Int32).toInt = 20 := rfl
    have top : maxChunkSize.toInt < 2 ^ 31 := maxChunkSize.toInt_lt
    rw [toInt_sub_of_range (by omega) (by omega), twenty, Int32.toInt_zero] at value
    omega
  unfold buildIndexedChunks
  dsimp only at totalled ⊢
  generalize (if (Int32.ofNat rawBytes.length + (maxChunkSize - 20) - 1) / (maxChunkSize - 20) ≤ 0
    then 1 else (Int32.ofNat rawBytes.length + (maxChunkSize - 20) - 1) / (maxChunkSize - 20)) =
      tempTotal at totalled ⊢
  have passed : whileChunks rawBytes maxChunkSize tempTotal fuel 1 0 =
      some (framed T 1 (cut (chunkRoom maxChunkSize.toInt.toNat T) n 1 rawBytes)) :=
    whileChunks_eq fit totalled (by omega) one zero (by omega) (Nat.zero_le _) used first (by omega)
  rw [if_neg divides, passed, Option.bind_eq_bind, Option.bind_some, framed_length, cut_length]
  by_cases same : n = T
  · -- The estimate was right.
    have equal : Int32.ofNat n = tempTotal := by
      apply Int32.toInt_inj.mp
      rw [total, totalled, same]
    rw [if_neg (not_not_intro equal), same]
  · have differs : Int32.ofNat n ≠ tempTotal := by
      intro equal
      rw [← equal, total] at totalled
      omega
    rw [if_pos differs]
    exact forChunks_eq fit total (by omega) one zero (by omega) (Nat.zero_le _)

/-- Every payload below 2^30 bytes is cut into chunks of at most the asked size, each behind a header
with its number and their count; and what stands behind the headers is the payload. -/
theorem indexed_chunks_lossless {rawBytes : Bytes} {maxChunkSize : Int32} (nonempty : rawBytes ≠ [])
    (small : rawBytes.length < 2 ^ 30) (large : 230 ≤ maxChunkSize.toInt) :
    ∃ chunks pieces : List Bytes,
      (∀ fuel, rawBytes.length < fuel →
        buildIndexedChunks fuel rawBytes maxChunkSize = some chunks) ∧
      chunks = pieces.mapIdx (fun index piece =>
        textBytes (toString (index + 1) ++ "/" ++ toString chunks.length ++ ":") ++ piece) ∧
      (∀ chunk ∈ chunks, chunk.length ≤ maxChunkSize.toInt) ∧
      pieces.flatten = rawBytes := by
  obtain ⟨n, few, used, built⟩ := buildIndexedChunks_eq ⟨small, large⟩ nonempty
  -- The chunks are these pieces behind their headers.
  let pieces := cut (chunkRoom maxChunkSize.toInt.toNat n) n 1 rawBytes
  have count : (framed n 1 pieces).length = n := by
    rw [framed_length]
    exact cut_length n 1 rawBytes
  refine ⟨framed n 1 pieces, pieces, built, ?_, ?_, ?_⟩
  · rw [count, framed_eq_mapIdx]
    simp only [chunkHeaderBytes_eq_text, Nat.add_comm 1]
  · intro chunk member
    rw [framed_eq_mapIdx] at member
    obtain ⟨index, inside, rfl⟩ := List.mem_mapIdx.mp member
    have room : (pieces[index]).length ≤ chunkRoom maxChunkSize.toInt.toNat n (1 + index) :=
      cut_getElem_length_le inside
    have number : index < n := by
      rw [← cut_length n 1 rawBytes]
      exact inside
    have header := @chunkHeaderBytes_length_le (1 + index) n (by omega) (by omega)
    rw [chunkRoom] at room
    rw [List.length_append]
    omega
  · -- Nothing of the payload is left behind the pieces.
    have whole := @cut_flatten _ (chunkRoom maxChunkSize.toInt.toNat n) n 1 rawBytes
    rwa [used, List.append_nil] at whole

/-- A payload of three hundred letters is cut into two chunks. -/
theorem indexed_chunks_sample :
    ∃ chunks pieces : List Bytes,
      (∀ fuel, (List.replicate 300 0x61 : Bytes).length < fuel →
        buildIndexedChunks fuel (List.replicate 300 0x61) 230 = some chunks) ∧
      chunks = pieces.mapIdx (fun index piece =>
        textBytes (toString (index + 1) ++ "/" ++ toString chunks.length ++ ":") ++ piece) ∧
      (∀ chunk ∈ chunks, chunk.length ≤ (230 : Int32).toInt) ∧
      pieces.flatten = List.replicate 300 0x61 :=
  indexed_chunks_lossless (List.ne_nil_of_length_pos (by rw [List.length_replicate]; decide))
    (by rw [List.length_replicate]; decide) (by decide)

end Ykp.System
