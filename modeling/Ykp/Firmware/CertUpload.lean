import Ykp.Firmware.Provision

/-! The upload of a certificate in chunks: its buffer, and what an acknowledgement says about it. -/

namespace Ykp.Firmware

/-- A string is appended to the one that an array holds; the array is as long as it was if there is
room for the string and its terminator. -/
def strcat (dest src : Bytes) : Bytes :=
  let length := (cString dest).length
  dest.take length ++ cString src ++ 0 :: dest.drop (length + (cString src).length + 1)

/-- The buffer of the certificate and the length counted beside it. The last field is not in the code:
the chunks that were appended since the buffer was cleared, the oldest first. -/
structure CertStore where
  certBuffer : Bytes
  certAccumulationLen : Nat
  upload : List (Int × Bytes)
  deriving DecidableEq, Repr

/-- The buffer as it is cleared. -/
def CertStore.cleared : CertStore := ⟨List.replicate certBufSize 0, 0, []⟩

/-- What a chunk is answered with. -/
structure CertAck where
  chunk : Int
  ok : Bool
  deriving DecidableEq, Repr

/-- A chunk is appended. -/
def CertStore.append (store : CertStore) (chunk : Int) (data : Bytes) : CertStore where
  certBuffer := strcat store.certBuffer data
  certAccumulationLen := store.certAccumulationLen + (cString data).length
  upload := store.upload ++ [(chunk, cString data)]

/-- The buffer that a chunk finds: only the first one is told from the others. -/
def CertStore.begin (store : CertStore) (chunk : Int) : CertStore :=
  if chunk = 1 then .cleared else store

/-- A chunk arrives; one that does not fit is refused. -/
def CertStore.setCert (store : CertStore) (chunk : Int) (data : Bytes) : CertAck × CertStore :=
  let begun := store.begin chunk
  if begun.certAccumulationLen + (cString data).length < certBufSize - 1 then
    (⟨chunk, true⟩, begun.append chunk data)
  else (⟨chunk, false⟩, begun)

/-- What concerns the certificate: a command, an argument of which may be missing, or the session is
cleared. -/
inductive CertInput
  | setCert (chunk : Option Int) (data : Option Bytes)
  | clear
  deriving DecidableEq, Repr

/-- One input. -/
def certStep (store : CertStore) : CertInput → CertStore
  | .setCert (some chunk) (some data) => (store.setCert chunk data).2
  -- Without an argument the command does nothing and is not answered.
  | .setCert _ _ => store
  | .clear => .cleared

/-- The answer to an input. -/
def certAnswer (store : CertStore) : CertInput → Option CertAck
  | .setCert (some chunk) (some data) => some (store.setCert chunk data).1
  | _ => none

/-- The text of the chunks that were appended. -/
def CertStore.text (store : CertStore) : Bytes := store.upload.flatMap Prod.snd

/-- The numbers from one on. -/
def chunkNumbers (count : Nat) : List Int := (List.range count).map fun i => (i : Int) + 1

/-- The buffer is the text of the chunks from one to some number, each of them once and in order, with
its terminator and its length. -/
structure CertStore.Holds (store : CertStore) (last : Int) : Prop where
  chunks : store.upload.map Prod.fst = chunkNumbers last.toNat
  string : cString store.certBuffer = store.text
  length : store.certAccumulationLen = store.text.length
  terminated : store.certBuffer[store.certAccumulationLen]? = some 0

/-- An acknowledgement is honest: after a chunk that is accepted the buffer holds all chunks up to it,
and after one that is not it is what it was. -/
def AckHonest (store : CertStore) (input : CertInput) : Prop :=
  ∀ ack ∈ certAnswer store input,
    (ack.ok = true → (certStep store input).Holds ack.chunk) ∧
      (ack.ok = false → (certStep store input).certBuffer = store.certBuffer)

/-- A chunk that fits is the first one or the next one, and a first one that does not fit finds nothing
in the buffer. -/
def ChunkInOrder (store : CertStore) : CertInput → Prop
  | .setCert (some chunk) (some data) =>
    if (store.begin chunk).certAccumulationLen + (cString data).length < certBufSize - 1 then
      chunk = 1 ∨ chunk = store.upload.length + 1
    else chunk = 1 → store.certAccumulationLen = 0
  | _ => True

/-- The buffer is the text of the chunks, and zeros behind it. -/
structure CertStore.Laid (store : CertStore) : Prop where
  noNul : ∀ byte ∈ store.text, byte ≠ 0
  room : store.text.length < certBufSize - 1
  buffer : store.certBuffer = store.text ++ List.replicate (certBufSize - store.text.length) 0
  length : store.certAccumulationLen = store.text.length

theorem cleared_laid : CertStore.cleared.Laid :=
  ⟨(fun _ member => nomatch member), by decide, rfl, rfl⟩

/-- A string in front of a terminator ends there. -/
theorem cString_append_zero {text : Bytes} (noNul : ∀ byte ∈ text, byte ≠ 0) (rest : Bytes) :
    cString (text ++ 0 :: rest) = text := by
  unfold cString
  rw [List.takeWhile_append_of_pos (by simpa using noNul)]
  simp

/-- A C string has no terminator inside. -/
theorem cString_noNul (str : Bytes) : ∀ byte ∈ cString str, byte ≠ 0 := by
  intro byte member
  simpa using List.all_eq_true.mp List.all_takeWhile byte member

/-- A string that fits is appended in front of the zeros. -/
theorem strcat_zeros {text : Bytes} (noNul : ∀ byte ∈ text, byte ≠ 0) (data : Bytes) {size : Nat}
    (fits : text.length + (cString data).length < size) :
    strcat (text ++ List.replicate (size - text.length) 0) data =
      text ++ cString data ++ List.replicate (size - (text ++ cString data).length) 0 := by
  -- The first zero is the terminator; the string and a new one go over it.
  have begun : text ++ List.replicate (size - text.length) 0 =
      text ++ 0 :: List.replicate (size - text.length - 1) 0 := by
    rw [← List.replicate_succ, Nat.sub_add_cancel (by omega)]
  have string : cString (text ++ List.replicate (size - text.length) 0) = text := by
    rw [begun, cString_append_zero noNul]
  have ended : size - (text ++ cString data).length =
      size - text.length - ((cString data).length + 1) + 1 := by
    rw [List.length_append]
    omega
  unfold strcat
  dsimp only
  rw [string, List.take_left, Nat.add_assoc, List.drop_append, List.drop_of_length_le (by omega),
    ended, List.replicate_succ, List.drop_replicate]
  simp

/-- A chunk that fits keeps the layout of the buffer. -/
theorem CertStore.Laid.append {store : CertStore} (laid : store.Laid) (chunk : Int) {data : Bytes}
    (fits : store.certAccumulationLen + (cString data).length < certBufSize - 1) :
    (store.append chunk data).Laid := by
  -- The chunk counts up to its first zero byte.
  have text : (store.append chunk data).text = store.text ++ cString data := by
    simp [CertStore.text, CertStore.append]
  rw [laid.length] at fits
  constructor
  · rw [text]
    intro byte member
    rcases List.mem_append.mp member with front | back
    · exact laid.noNul byte front
    · exact cString_noNul data byte back
  · rw [text, List.length_append]
    exact fits
  · rw [text, CertStore.append, laid.buffer]
    exact strcat_zeros laid.noNul data (Nat.lt_of_lt_of_le fits (Nat.sub_le _ _))
  · rw [text, List.length_append, CertStore.append, laid.length]

theorem CertStore.Laid.begin {store : CertStore} (laid : store.Laid) (chunk : Int) :
    (store.begin chunk).Laid := by
  unfold CertStore.begin
  split
  · exact cleared_laid
  · exact laid

/-- Every input keeps the layout of the buffer. -/
theorem CertStore.Laid.step {store : CertStore} (laid : store.Laid) (input : CertInput) :
    (certStep store input).Laid := by
  rcases input with ⟨_ | chunk, _ | data⟩ | _
  case setCert.some.some =>
    simp only [certStep, CertStore.setCert]
    split
    · rename_i fits
      exact (laid.begin chunk).append chunk fits
    · exact laid.begin chunk
  case clear => exact cleared_laid
  all_goals exact laid

/-- The chunks in the buffer are those from one on, each of them once. -/
def CertStore.InOrder (store : CertStore) : Prop :=
  store.upload.map Prod.fst = chunkNumbers store.upload.length

theorem chunkNumbers_succ (count : Nat) :
    chunkNumbers (count + 1) = chunkNumbers count ++ [(count : Int) + 1] := by
  simp [chunkNumbers, List.range_succ]

/-- With the next number the chunks stay in order, and with any other one they do not. -/
theorem CertStore.InOrder.append_iff {store : CertStore} (ordered : store.InOrder) (chunk : Int)
    (data : Bytes) :
    (store.append chunk data).upload.map Prod.fst = chunkNumbers chunk.toNat ↔
      chunk = store.upload.length + 1 := by
  have numbers : ∀ count, (chunkNumbers count).length = count := by simp [chunkNumbers]
  rw [CertStore.append, List.map_append, ordered]
  constructor
  · intro same
    -- The lists are equally long, and their last numbers are the same.
    have lengths := congrArg List.length same
    rw [List.length_append, numbers, numbers] at lengths
    simp only [List.map_cons, List.map_nil, List.length_singleton] at lengths
    omega
  · rintro rfl
    rw [show ((store.upload.length : Int) + 1).toNat = store.upload.length + 1 by omega,
      chunkNumbers_succ]
    rfl

/-- A buffer in its layout holds its text as a string. -/
theorem CertStore.Laid.string {store : CertStore} (laid : store.Laid) :
    cString store.certBuffer = store.text ∧ store.certBuffer[store.text.length]? = some 0 := by
  have room := laid.room
  have begun : store.certBuffer =
      store.text ++ 0 :: List.replicate (certBufSize - store.text.length - 1) 0 := by
    rw [laid.buffer, ← List.replicate_succ, Nat.sub_add_cancel (by omega)]
  rw [begun]
  refine ⟨cString_append_zero laid.noNul _, ?_⟩
  rw [List.getElem?_append_right (Nat.le_refl _)]
  simp

/-- A buffer in its layout holds the chunks up to a number exactly when these are its chunks. -/
theorem CertStore.Laid.holds_iff {store : CertStore} (laid : store.Laid) (last : Int) :
    store.Holds last ↔ store.upload.map Prod.fst = chunkNumbers last.toNat := by
  constructor
  · intro holds
    exact holds.chunks
  · intro chunks
    refine ⟨chunks, laid.string.1, laid.length, ?_⟩
    rw [laid.length]
    exact laid.string.2

/-- A buffer in its layout is the cleared one exactly when no byte was counted. -/
theorem CertStore.Laid.buffer_cleared_iff {store : CertStore} (laid : store.Laid) :
    CertStore.cleared.certBuffer = store.certBuffer ↔ store.certAccumulationLen = 0 := by
  rw [laid.length, List.length_eq_zero_iff]
  constructor
  · intro same
    have string := congrArg cString same
    rw [laid.string.1, cleared_laid.string.1] at string
    exact string.symm
  · intro empty
    rw [laid.buffer, empty]
    rfl

/-- An acknowledgement is honest exactly when the chunk comes in order. -/
theorem ackHonest_iff {store : CertStore} (laid : store.Laid) (ordered : store.InOrder)
    (input : CertInput) : AckHonest store input ↔ ChunkInOrder store input := by
  rcases input with ⟨_ | chunk, _ | data⟩ | _
  case setCert.some.some =>
    unfold AckHonest ChunkInOrder
    simp only [certStep, certAnswer, CertStore.setCert, Option.mem_def, Option.some.injEq,
      forall_eq']
    split
    · -- What is accepted is honest if the chunk has the next number.
      rename_i fits
      have holds := ((laid.begin chunk).append chunk fits).holds_iff chunk
      simp only [forall_const, reduceCtorEq, false_imp_iff, and_true, holds]
      unfold CertStore.begin
      split
      · rename_i first
        have empty : CertStore.cleared.InOrder := rfl
        rw [empty.append_iff]
        exact iff_of_true first (.inl first)
      · rename_i later
        rw [ordered.append_iff]
        simp [later]
    · -- What is refused is honest if it did not clear the buffer before.
      simp only [reduceCtorEq, false_imp_iff, true_and, forall_const]
      unfold CertStore.begin
      split
      · rename_i first
        rw [laid.buffer_cleared_iff]
        simp [first]
      · rename_i later
        simp [later]
  all_goals simp [AckHonest, ChunkInOrder, certAnswer]

/-- A chunk that comes in order keeps the order. -/
theorem CertStore.InOrder.step {store : CertStore} (ordered : store.InOrder) {input : CertInput}
    (next : ChunkInOrder store input) : (certStep store input).InOrder := by
  have begun : ∀ chunk, (store.begin chunk).InOrder := by
    intro chunk
    unfold CertStore.begin
    split
    · rfl
    · exact ordered
  rcases input with ⟨_ | chunk, _ | data⟩ | _
  case setCert.some.some =>
    simp only [ChunkInOrder] at next
    simp only [certStep, CertStore.setCert]
    split at next
    · rename_i fits
      rw [if_pos fits]
      -- The first chunk finds nothing, and any other one has the next number.
      have number : chunk = (store.begin chunk).upload.length + 1 := by
        unfold CertStore.begin
        split
        · assumption
        · rename_i later
          exact next.resolve_left later
      have same := ((begun chunk).append_iff chunk data).mpr number
      rw [CertStore.InOrder, same]
      congr 1
      simp only [CertStore.append, List.length_append, List.length_singleton]
      omega
    · rename_i full
      rw [if_neg full]
      exact begun chunk
  case clear => rfl
  all_goals exact ordered

/-- In every run each acknowledgement is honest exactly when each chunk that fits is the first one or
the next one, and no first one that does not fit finds bytes in the buffer. -/
theorem acks_honest_iff (inputs : List CertInput) :
    Machine.Always certStep AckHonest .cleared inputs ↔
      Machine.Always certStep ChunkInOrder .cleared inputs := by
  have same : ∀ store input, CertStore.Laid store ∧ store.InOrder →
      (AckHonest store input ↔ ChunkInOrder store input) :=
    fun _ input kept => ackHonest_iff kept.1 kept.2 input
  have keeps : ∀ store input, CertStore.Laid store ∧ store.InOrder → ChunkInOrder store input →
      (certStep store input).Laid ∧ (certStep store input).InOrder :=
    fun _ input kept next => ⟨kept.1.step input, kept.2.step next⟩
  exact Machine.always_iff_of_invariant same keeps ⟨cleared_laid, rfl⟩

/-- A chunk that is sent twice is appended twice and acknowledged both times. -/
theorem chunk_appended_twice : ¬ ∀ inputs, Machine.Always certStep AckHonest .cleared inputs := by
  intro honest
  have twice := honest [.setCert (some 1) (some [0x61]), .setCert (some 2) (some [0x62]),
    .setCert (some 2) (some [0x62])]
  have last := (twice.2.2.1 ⟨2, true⟩ (by decide +kernel)).1 rfl
  exact absurd last.chunks (by decide +kernel)

/-- The buffer holds, as a string, the certificate that the provisioning service keeps. -/
theorem appendCert_string {store : CertStore} (laid : store.Laid) {prov : Provision}
    (same : prov.cert = cString store.certBuffer) (chunk : Int) (data : Bytes) :
    (prov.appendCert chunk data).cert =
      cString (certStep store (.setCert (some chunk) (some data))).certBuffer := by
  have after := (laid.step (.setCert (some chunk) (some data))).string.1
  have found := laid.begin chunk
  -- The buffer that the chunk finds is cleared where the service's certificate is.
  have begun : (if chunk = 1 then [] else prov.cert) = (store.begin chunk).text := by
    unfold CertStore.begin
    split
    · rfl
    · rw [same, laid.string.1]
  rw [after]
  simp only [certStep, CertStore.setCert, Provision.appendCert, begun, found.length]
  split
  · simp [CertStore.text, CertStore.append]
  · rfl

end Ykp.Firmware
