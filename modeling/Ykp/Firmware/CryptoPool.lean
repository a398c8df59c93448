import Mathlib.Order.CompletePartialOrder
import Mathlib.Order.Interval.Set.Disjoint
import Ykp.Constants
import Ykp.Foundation.Machine

/-! The static memory pool that the crypto library allocates from, over any number of handshakes. -/

namespace Ykp.Firmware

/-- The size of the pool. -/
abbrev mbedtlsPoolSize : UInt32 := 8192

/-- The pool: the bytes by their position, and the position behind the last block handed out. -/
structure MbedtlsPool where
  bytes : Nat → UInt8
  offset : UInt32

/-- The pool at boot. -/
def mbedtlsPoolInit : MbedtlsPool := ⟨fun _ => 0, 0⟩

/-- The bytes an allocation takes: the product rounded up to four, all in 32 bits. -/
def alignedTotal (n size : UInt32) : UInt32 := (n * size + 3) &&& ~~~3

/-- A block of the pool. -/
structure PoolBlock where
  start : Nat
  length : Nat
  deriving DecidableEq, Repr

/-- The positions of a block. -/
def PoolBlock.positions (block : PoolBlock) : Set Nat :=
  Set.Ico block.start (block.start + block.length)

/-- Two blocks share no byte. -/
def PoolBlock.Apart (block other : PoolBlock) : Prop :=
  Disjoint block.positions other.positions

/-- Blocks share no byte when the first end does not lie behind the last start. -/
theorem PoolBlock.apart_iff {block other : PoolBlock} :
    block.Apart other ↔
      min (block.start + block.length) (other.start + other.length) ≤
        max block.start other.start := by
  unfold PoolBlock.Apart PoolBlock.positions
  exact Set.Ico_disjoint_Ico

instance (block other : PoolBlock) : Decidable (block.Apart other) :=
  decidable_of_iff _ PoolBlock.apart_iff.symm

/-- An allocation: the block, zeroed, or nothing when the pool has no room left. -/
def mbedtlsPoolCalloc (pool : MbedtlsPool) (n size : UInt32) : Option PoolBlock × MbedtlsPool :=
  let total := alignedTotal n size
  if pool.offset + total ≤ mbedtlsPoolSize then
    let block : PoolBlock := ⟨pool.offset.toNat, total.toNat⟩
    (some block,
      { bytes := fun position =>
          if block.start ≤ position ∧ position < block.start + block.length then 0
          else pool.bytes position
        offset := pool.offset + total })
  else (none, pool)

/-- Freeing does nothing: the memory comes back when the offset is reset. -/
def mbedtlsPoolFree (pool : MbedtlsPool) : MbedtlsPool := pool

/-- What generating an ephemeral key does to the pool before it calls the library: the offset is
reset, unless there is no context. -/
def genEphemeralPool (ctxGiven : Bool) (pool : MbedtlsPool) : MbedtlsPool :=
  if ctxGiven then { pool with offset := 0 } else pool

/-- The pool with its blocks in use, each with its number, how many blocks were returned, and how many
of them before the offset was reset last. -/
structure PoolUse where
  pool : MbedtlsPool
  live : List (Nat × PoolBlock)
  returned : Nat
  renewed : Nat

/-- The pool at boot, with nothing in use. -/
def poolUseInit : PoolUse := ⟨mbedtlsPoolInit, [], 0, 0⟩

/-- The calls that concern the pool. -/
inductive PoolCall
  | calloc (n size : UInt32)
  /-- The block with a number is freed. -/
  | free (number : Nat)
  | genEphemeral (ctxGiven : Bool)
  deriving DecidableEq, Repr

/-- One call. -/
def poolStep (state : PoolUse) : PoolCall → PoolUse
  | .calloc n size =>
    match mbedtlsPoolCalloc state.pool n size with
    | (none, pool) => { state with pool := pool }
    | (some block, pool) =>
      { state with
        pool := pool
        live := (state.returned, block) :: state.live
        returned := state.returned + 1 }
  | .free number =>
    { state with
      pool := mbedtlsPoolFree state.pool
      live := state.live.filter (·.1 ≠ number) }
  | .genEphemeral ctxGiven =>
    { state with
      pool := genEphemeralPool ctxGiven state.pool
      renewed := if ctxGiven then state.returned else state.renewed }

/-- A block that is returned lies in the pool, has the bytes that were asked for, and shares none with
a block in use. -/
def SoundBlock (state : PoolUse) : PoolCall → Prop
  | .calloc n size => ∀ block ∈ (mbedtlsPoolCalloc state.pool n size).1,
      block.start + block.length ≤ mbedtlsPoolSize.toNat ∧ n.toNat * size.toNat ≤ block.length ∧
        ∀ earlier ∈ state.live, block.Apart earlier.2
  | _ => True

instance (state : PoolUse) : DecidablePred (SoundBlock state) := fun call => by
  cases call <;> unfold SoundBlock <;> infer_instance

/-- The next bytes of the pool, as many as an allocation needs. -/
def PoolUse.nextBytes (state : PoolUse) (n size : UInt32) : PoolBlock :=
  ⟨state.pool.offset.toNat, (n.toNat * size.toNat + 3) / 4 * 4⟩

/-- An allocation that is not refused asks for no more than the pool's size, and what it gets is not in
use since before the offset was reset. -/
def FitsUnused (state : PoolUse) : PoolCall → Prop
  | .calloc n size => state.pool.offset + alignedTotal n size ≤ mbedtlsPoolSize →
      n.toNat * size.toNat ≤ mbedtlsPoolSize.toNat ∧
        ∀ earlier ∈ state.live, earlier.1 < state.renewed →
          (state.nextBytes n size).Apart earlier.2
  | _ => True

/-- Clearing the lowest bits of a word rounds it down. -/
theorem and_highMask {word width low : Nat} (small : word < 2 ^ width) (below : low ≤ width) :
    word &&& (2 ^ (width - low) - 1) * 2 ^ low = word / 2 ^ low * 2 ^ low := by
  -- Both sides have the same bits from `low` on, and none below.
  apply Nat.eq_of_testBit_eq
  intro i
  rw [Nat.testBit_and, Nat.testBit_mul_two_pow, Nat.testBit_mul_two_pow,
    Nat.testBit_two_pow_sub_one, Nat.testBit_div_two_pow]
  by_cases kept : low ≤ i
  · rw [Nat.sub_add_cancel kept]
    by_cases within : i < width
    · simp [kept, show i - low < width - low by omega]
    · -- Above its width the word has no bits that could be kept.
      have high : word.testBit i = false :=
        Nat.testBit_lt_two_pow
          (Nat.lt_of_lt_of_le small (Nat.pow_le_pow_right (by decide) (by omega)))
      simp [high]
  · simp [kept]

/-- What an allocation takes, as a number. -/
theorem alignedTotal_toNat (n size : UInt32) :
    (alignedTotal n size).toNat = (n.toNat * size.toNat + 3) % 2 ^ 32 / 4 * 4 := by
  have mask : (~~~3 : UInt32).toNat = (2 ^ (32 - 2) - 1) * 2 ^ 2 := by decide
  have three : (3 : UInt32).toNat = 3 := by decide
  unfold alignedTotal
  rw [UInt32.toNat_and, mask, and_highMask (UInt32.toNat_lt _) (by decide), UInt32.toNat_add,
    UInt32.toNat_mul, three, Nat.mod_add_mod]
  rfl

/-- An allocation, with its check as one on numbers. -/
theorem mem_calloc {pool : MbedtlsPool} {n size : UInt32} {block : PoolBlock} :
    block ∈ (mbedtlsPoolCalloc pool n size).1 ↔
      pool.offset + alignedTotal n size ≤ mbedtlsPoolSize ∧
        block = ⟨pool.offset.toNat, (alignedTotal n size).toNat⟩ := by
  unfold mbedtlsPoolCalloc
  by_cases room : pool.offset + alignedTotal n size ≤ mbedtlsPoolSize
  · simp [room, eq_comm]
  · simp [room]

/-- When the product is within the pool's size and there is room, an allocation takes the product
rounded up, and ends within the pool. -/
theorem calloc_fits {offset n size : UInt32} (within : offset ≤ mbedtlsPoolSize)
    (fits : n.toNat * size.toNat ≤ mbedtlsPoolSize.toNat)
    (room : offset + alignedTotal n size ≤ mbedtlsPoolSize) :
    (alignedTotal n size).toNat = (n.toNat * size.toNat + 3) / 4 * 4 ∧
      (offset + alignedTotal n size).toNat = offset.toNat + (alignedTotal n size).toNat ∧
      offset.toNat + (alignedTotal n size).toNat ≤ mbedtlsPoolSize.toNat := by
  have total := alignedTotal_toNat n size
  have pool : mbedtlsPoolSize.toNat = 8192 := by decide
  rw [UInt32.le_iff_toNat_le, pool] at within
  rw [UInt32.le_iff_toNat_le, UInt32.toNat_add, pool] at room
  rw [pool] at fits
  rw [UInt32.toNat_add, pool]
  -- Neither the sum nor the rounding leaves 32 bits.
  rw [Nat.mod_eq_of_lt (by omega)] at total
  rw [Nat.mod_eq_of_lt (by omega)] at room ⊢
  exact ⟨total, rfl, room⟩

/-- The offset lies in the pool, and the blocks in use that were returned since it was reset lie below
it. -/
structure PoolUse.Bounded (state : PoolUse) : Prop where
  within : state.pool.offset ≤ mbedtlsPoolSize
  numbered : ∀ entry ∈ state.live, entry.1 < state.returned
  below : ∀ entry ∈ state.live, state.renewed ≤ entry.1 →
    entry.2.start + entry.2.length ≤ state.pool.offset.toNat
  renewed : state.renewed ≤ state.returned

/-- Calls keep the bounds as long as no product that is served exceeds the pool's size. -/
theorem PoolUse.Bounded.step {state : PoolUse} (bounded : state.Bounded) {call : PoolCall}
    (fits : FitsUnused state call) : (poolStep state call).Bounded := by
  cases call with
  | calloc n size =>
    by_cases room : state.pool.offset + alignedTotal n size ≤ mbedtlsPoolSize
    · obtain ⟨product, unused⟩ := fits room
      obtain ⟨-, added, inside⟩ := calloc_fits bounded.within product room
      simp only [poolStep, mbedtlsPoolCalloc, room, ↓reduceIte]
      refine ⟨room, ?_, ?_, Nat.le_succ_of_le bounded.renewed⟩
      · intro entry member
        rcases List.mem_cons.mp member with rfl | member
        · exact Nat.lt_succ_self _
        · exact Nat.lt_succ_of_lt (bounded.numbered entry member)
      · intro entry member later
        show _ ≤ (state.pool.offset + alignedTotal n size).toNat
        rw [added]
        rcases List.mem_cons.mp member with rfl | member
        · exact Nat.le_refl _
        · exact Nat.le_trans (bounded.below entry member later) (Nat.le_add_right _ _)
    · simpa only [poolStep, mbedtlsPoolCalloc, room, ↓reduceIte] using bounded
  | free number =>
    refine ⟨bounded.within, ?_, ?_, bounded.renewed⟩
    · intro entry member
      exact bounded.numbered entry (List.mem_filter.mp member).1
    · intro entry member
      exact bounded.below entry (List.mem_filter.mp member).1
  | genEphemeral ctxGiven =>
    cases ctxGiven with
    | false => exact bounded
    | true =>
      have empty : (0 : UInt32) ≤ mbedtlsPoolSize := by decide
      refine ⟨empty, bounded.numbered, ?_, Nat.le_refl _⟩
      -- Every block in use was returned before the reset.
      intro entry member later
      have earlier := bounded.numbered entry member
      have later : state.returned ≤ entry.1 := later
      omega

/-- A block that is returned is sound exactly when its product fits and its bytes are not in use. -/
theorem soundBlock_iff {state : PoolUse} (bounded : state.Bounded) (call : PoolCall) :
    SoundBlock state call ↔ FitsUnused state call := by
  cases call with
  | free | genEphemeral => exact Iff.rfl
  | calloc n size =>
    unfold SoundBlock FitsUnused
    simp only [mem_calloc, and_imp, forall_eq_apply_imp_iff]
    apply imp_congr_right
    intro room
    constructor
    · rintro ⟨inside, enough, apart⟩
      -- A block that is long enough for the product leaves no room for it to wrap around.
      have product : n.toNat * size.toNat ≤ mbedtlsPoolSize.toNat :=
        Nat.le_trans enough (Nat.le_trans (Nat.le_add_left _ _) inside)
      refine ⟨product, ?_⟩
      intro earlier member _
      unfold PoolUse.nextBytes
      rw [← (calloc_fits bounded.within product room).1]
      exact apart earlier member
    · rintro ⟨product, unused⟩
      obtain ⟨total, -, inside⟩ := calloc_fits bounded.within product room
      refine ⟨inside, ?_, ?_⟩
      · show _ ≤ (alignedTotal n size).toNat
        omega
      · intro earlier member
        by_cases old : earlier.1 < state.renewed
        · rw [total]
          exact unused earlier member old
        · -- A block returned since the reset ends where the new one starts, or before.
          have below := bounded.below earlier member (Nat.le_of_not_lt old)
          rw [PoolBlock.apart_iff]
          dsimp only
          omega

/-- An allocation changes only the bytes of the block it returns. -/
theorem calloc_bytes_other {pool : MbedtlsPool} {n size : UInt32} {position : Nat}
    (outside : ∀ block ∈ (mbedtlsPoolCalloc pool n size).1, position ∉ block.positions) :
    (mbedtlsPoolCalloc pool n size).2.bytes position = pool.bytes position := by
  by_cases room : pool.offset + alignedTotal n size ≤ mbedtlsPoolSize
  · have outside := outside _ (mem_calloc.mpr ⟨room, rfl⟩)
    simp only [mbedtlsPoolCalloc, room, ↓reduceIte]
    exact if_neg outside
  · simp only [mbedtlsPoolCalloc, room, ↓reduceIte]

/-- Nothing is in use at boot. -/
theorem poolUseInit_bounded : poolUseInit.Bounded :=
  ⟨by decide, (fun _ member => nomatch member), (fun _ member => nomatch member), Nat.le_refl _⟩

/-- In every run each block that is returned lies in the pool, has the bytes that were asked for and
shares none with a block in use, exactly when no allocation that is served exceeds the pool's size as a
product, or is given bytes in use since before the offset was reset. -/
theorem blocks_sound_iff (calls : List PoolCall) :
    Machine.Always poolStep SoundBlock poolUseInit calls ↔
      Machine.Always poolStep FitsUnused poolUseInit calls := by
  exact Machine.always_iff_of_invariant (fun _ call bounded => soundBlock_iff bounded call)
    (fun _ _ bounded fits => bounded.step fits) poolUseInit_bounded

/-- A block that stays in use over a handshake is handed out again, and a product that wraps around is
served with an empty block. -/
theorem blocks_not_always_sound :
    ¬ Machine.Always poolStep SoundBlock poolUseInit
        [.calloc 1 16, .genEphemeral true, .calloc 1 16] ∧
      ¬ Machine.Always poolStep SoundBlock poolUseInit [.calloc 65536 65536] := by
  decide

/-- Under the same condition no call changes a byte of a block in use. -/
theorem live_bytes_kept {calls : List PoolCall}
    (fits : Machine.Always poolStep FitsUnused poolUseInit calls) :
    Machine.Always poolStep
      (fun state call => ∀ entry ∈ state.live, ∀ position ∈ entry.2.positions,
        (poolStep state call).pool.bytes position = state.pool.bytes position)
      poolUseInit calls := by
  have keeps : ∀ state call, PoolUse.Bounded state → FitsUnused state call →
      (poolStep state call).Bounded := fun _ _ bounded fits => bounded.step fits
  -- Only an allocation writes, and what it writes lies in its own block.
  refine Machine.always_of_invariant keeps ?_ poolUseInit_bounded fits
  intro state call bounded fits entry member position inside
  cases call with
  | free => rfl
  | genEphemeral ctxGiven => cases ctxGiven <;> rfl
  | calloc n size =>
    have sound := (soundBlock_iff bounded _).mpr fits
    have kept : (mbedtlsPoolCalloc state.pool n size).2.bytes position =
        state.pool.bytes position := by
      apply calloc_bytes_other
      intro block returned shared
      exact Set.disjoint_left.mp ((sound block returned).2.2 entry member) shared inside
    unfold poolStep
    dsimp only
    split <;> rename_i out <;> rw [out] at kept <;> exact kept

/-- An allocation asks for no more than the pool's size, and a key is generated only when no block is
in use. -/
def IdleHandshake (state : PoolUse) : PoolCall → Prop
  | .calloc n size => n.toNat * size.toNat ≤ mbedtlsPoolSize.toNat
  | .genEphemeral _ => state.live = []
  | .free _ => True

/-- No block in use was returned before the offset was reset last. -/
structure PoolUse.Fresh (state : PoolUse) : Prop where
  renewed : state.renewed ≤ state.returned
  live : ∀ entry ∈ state.live, state.renewed ≤ entry.1

/-- Handshakes that start with nothing in use leave no older block in use. -/
theorem PoolUse.Fresh.step {state : PoolUse} (fresh : state.Fresh) {call : PoolCall}
    (idle : IdleHandshake state call) : (poolStep state call).Fresh := by
  cases call with
  | calloc n size =>
    unfold poolStep
    dsimp only
    split
    · exact ⟨fresh.renewed, fresh.live⟩
    · refine ⟨Nat.le_succ_of_le fresh.renewed, ?_⟩
      intro entry member
      rcases List.mem_cons.mp member with rfl | member
      · exact fresh.renewed
      · exact fresh.live entry member
  | free number =>
    exact ⟨fresh.renewed, fun entry member => fresh.live entry (List.mem_filter.mp member).1⟩
  | genEphemeral ctxGiven =>
    -- The reset renews everything, and nothing is in use that could be older.
    have none : state.live = [] := idle
    have empty : (poolStep state (.genEphemeral ctxGiven)).live = [] := none
    constructor
    · show (if ctxGiven then state.returned else state.renewed) ≤ state.returned
      split
      · exact Nat.le_refl _
      · exact fresh.renewed
    · simp [empty]

/-- Handshakes that start with nothing in use hand out unused bytes only. -/
theorem fitsUnused_of_idle {calls : List PoolCall}
    (idle : Machine.Always poolStep IdleHandshake poolUseInit calls) :
    Machine.Always poolStep FitsUnused poolUseInit calls := by
  have start : poolUseInit.Fresh := ⟨Nat.le_refl _, fun _ member => nomatch member⟩
  have keeps : ∀ state call, PoolUse.Fresh state → IdleHandshake state call →
      (poolStep state call).Fresh := fun _ _ fresh idle => fresh.step idle
  refine Machine.always_of_invariant keeps ?_ start idle
  intro state call fresh idle
  cases call with
  | free | genEphemeral => trivial
  | calloc n size =>
    intro _
    refine ⟨idle, ?_⟩
    intro earlier member old
    -- No block in use is as old as the condition asks for.
    have young := fresh.live earlier member
    omega

end Ykp.Firmware
