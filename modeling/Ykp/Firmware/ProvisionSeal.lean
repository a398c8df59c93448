import Mathlib.Algebra.Group.Int.Defs
import Ykp.Firmware.Provision
import Ykp.Foundation.Crc

/-! The seal of the provisioning session: its sentinels and its checksum, over all critical sections. -/

namespace Ykp.Firmware

open BigEndian

abbrev sentinelValue : Nat := 0xDEADBEEF

/-- Numbers as the processor lays them out, low byte first. -/
def littleU16 (value : Nat) : Bytes := (writeU16 value).reverse
def littleU32 (value : Nat) : Bytes := (writeU32 value).reverse

/-- The number of a state in its enumeration. -/
def ProvState.code : ProvState → Nat
  | .idle => 0
  | .scan => 1
  | .credsRecv => 2
  | .wifiConnect => 3
  | .sslValidate => 4
  | .udpProbe => 5
  | .reportWait => 6
  | .nvsCommit => 7
  | .reboot => 8
  | .fault => 9

/-- The text that a result of the TLS checks is kept as. -/
def SslResult.text : SslResult → String
  | .unset => ""
  | .caOk => "ca_ok"
  | .caFailedFallbackOk => "ca_failed_fallback_ok"
  | .caFailedFallbackFailed => "ca_failed_fallback_failed"

/-- A character array of a size. -/
abbrev CharArray (size : Nat) := { bytes : Bytes // bytes.length = size }

/-- An array of zeros. -/
def CharArray.zero (size : Nat) : CharArray size := ⟨List.replicate size 0, List.length_replicate⟩

/-- A string is copied to the front of an array with its terminator; what it does not reach stays. -/
def CharArray.strcpy {size : Nat} (array : CharArray size) (text : Bytes)
    (fits : text.length < size) : CharArray size :=
  ⟨text ++ 0 :: array.1.drop (text.length + 1), by
    have length := array.2
    simp only [List.length_append, List.length_cons, List.length_drop]
    omega⟩

/-- The bytes of an array that holds a string, and zeros behind it. -/
def paddedTo (size : Nat) (str : Bytes) : Bytes := (str ++ List.replicate size 0).take size

/-- The service with the rest of its session record. The result of the TLS checks is kept as text in an
array that a shorter text does not fill. -/
structure SealedProvision where
  prov : Provision
  sentinelStart : Nat
  lastSeq : Nat
  udpSock : Int
  sslResult : CharArray 32
  crc : UInt32
  sentinelEnd : Nat
  lastHeartbeatTime : Nat

/-- The bytes of the record up to its checksum. -/
def SealedProvision.sessionBytes (s : SealedProvision) : Bytes :=
  let session := s.prov.session
  littleU32 s.sentinelStart ++ littleU32 session.state.code ++ littleU32 session.sessionId ++
    littleU32 s.lastSeq ++ [session.stagesComplete] ++ paddedTo 33 session.udpNonce ++
    littleU32 (s.udpSock % 2 ^ 32).toNat ++ s.sslResult.1 ++ [session.udpResult.toUInt8] ++
    [session.commitStarted.toUInt8] ++ [session.nonceValid.toUInt8] ++
    paddedTo 64 session.temp.ssid ++ paddedTo 64 session.temp.psk ++
    paddedTo 128 session.temp.host ++ littleU16 session.temp.port ++
    littleU16 session.temp.udpPort ++ session.hmacKey

section Checksum

-- The checksum function of the processor's ROM: a checksum so far, and further bytes.
variable (espRomCrc32Le : UInt32 → Bytes → UInt32)

def calculateCrc32 (data : Bytes) : UInt32 := espRomCrc32Le 0xFFFFFFFF data ^^^ 0xFFFFFFFF

namespace SealedProvision

def calculateSessionCrc (s : SealedProvision) : UInt32 :=
  calculateCrc32 espRomCrc32Le s.sessionBytes

def updateCrc (s : SealedProvision) : SealedProvision :=
  { s with crc := s.calculateSessionCrc espRomCrc32Le }

/-- Whether the sentinels and the checksum are what they should be. -/
def crcVerify (s : SealedProvision) : Bool :=
  if s.sentinelStart = sentinelValue ∧ s.sentinelEnd = sentinelValue then
    s.crc == s.calculateSessionCrc espRomCrc32Le
  else false

/-- The session record is cleared, with the fields that the service keeps. -/
def clear (s : SealedProvision) : SealedProvision :=
  updateCrc espRomCrc32Le
    { s with
      sentinelStart := sentinelValue
      lastSeq := 0
      udpSock := -1
      sslResult := .zero 32
      sentinelEnd := sentinelValue
      lastHeartbeatTime := 0 }

/-- What a command's critical section does beyond the fields that the service keeps. -/
def afterCommand (s : SealedProvision) (now : Nat) : ProvCommand → SealedProvision
  -- The time of the heartbeat lies behind the checksum.
  | .ping => { s with lastHeartbeatTime := now }
  | .sendWifi (some _) (some _) => s.updateCrc espRomCrc32Le
  | .sendServer (some _) (some _) _ => s.updateCrc espRomCrc32Le
  | .sendCreds (some _) (some _) (some _) (some _) _ => s.updateCrc espRomCrc32Le
  -- The state and the mark of the commit are set, and the checksum is not calculated again.
  | .confirmProvision => s
  | _ => s

/-- What a task's critical section does beyond the fields that the service keeps. -/
def afterTask (s : SealedProvision) : ProvTask → SealedProvision
  | .wifiStarts => s.updateCrc espRomCrc32Le
  | .wifiReturned _ => s.updateCrc espRomCrc32Le
  | .scanWaits => s.updateCrc espRomCrc32Le
  | .validationStarts => s.updateCrc espRomCrc32Le
  | .sslChecked _ result _ =>
    updateCrc espRomCrc32Le
      { s with sslResult := s.sslResult.strcpy (textBytes result.text) (by cases result <;> decide) }
  | .sslStored _ _ => s.updateCrc espRomCrc32Le
  | .udpMatched _ => s.updateCrc espRomCrc32Le
  | .udpFailed => s.updateCrc espRomCrc32Le
  | .reports _ => s.updateCrc espRomCrc32Le
  | _ => s

end SealedProvision

/-- One event at a time in seconds. It has at most one critical section, which runs to its end: between
two events no task holds the mutex of the session. -/
def sealedStep (s : SealedProvision) (event : Nat × ProvInput) : SealedProvision :=
  let next := { s with prov := provStep s.prov event.2 }
  match event.2 with
  | .disconnect => if s.prov.clearing then next else next.clear espRomCrc32Le
  | .subscribe isTx curNotify =>
    if !s.prov.clearing ∧ isTx ∧ curNotify then
      { next with lastHeartbeatTime := event.1 }.updateCrc espRomCrc32Le
    else next
  | .command cmd _ =>
    if s.prov.takesCommands then next.afterCommand espRomCrc32Le event.1 cmd else next
  | .advance position _ =>
    match s.prov.tasks[position]? with
    | none => next
    | some task => next.afterTask espRomCrc32Le task
  | _ => next

/-- The service after its start: the record is cleared, and sealed again with its id and key. -/
def sealedStart (sha256 : Bytes → Bytes) (nvs : Nvs) (drawn : Nat) : SealedProvision :=
  SealedProvision.clear espRomCrc32Le
    { prov := .start sha256 nvs drawn
      sentinelStart := 0
      lastSeq := 0
      udpSock := 0
      sslResult := .zero 32
      crc := 0
      sentinelEnd := 0
      lastHeartbeatTime := 0 }

/-- The service after a list of events since its start, each with its time. -/
def sealedRun (sha256 : Bytes → Bytes) (nvs : Nvs) (drawn : Nat) (events : List (Nat × ProvInput)) :
    SealedProvision :=
  Machine.run (sealedStep espRomCrc32Le) (sealedStart espRomCrc32Le sha256 nvs drawn) events

end Checksum

/-- The event is no `confirm_provision` that the JSON task takes. -/
def TakesNoConfirm (s : SealedProvision) (event : Nat × ProvInput) : Prop :=
  match event.2 with
  | .command .confirmProvision _ => s.prov.takesCommands = false
  | _ => True

section Lemmas

variable {espRomCrc32Le : UInt32 → Bytes → UInt32}

namespace SealedProvision

/-- The sentinels and the checksum, without the order in which the code looks at them. -/
theorem crcVerify_iff {s : SealedProvision} :
    s.crcVerify espRomCrc32Le = true ↔ s.sentinelStart = sentinelValue ∧
      s.sentinelEnd = sentinelValue ∧ s.crc = s.calculateSessionCrc espRomCrc32Le := by
  unfold crcVerify
  split
  · rename_i sentinels
    simp [sentinels]
  · rename_i broken
    simp only [Bool.false_eq_true, false_iff]
    exact fun all => broken ⟨all.1, all.2.1⟩

variable (espRomCrc32Le) in
/-- The record is sealed, and no commit has been started. -/
structure Intact (s : SealedProvision) : Prop where
  verified : s.crcVerify espRomCrc32Le = true
  uncommitted : s.prov.session.commitStarted = false

/-- The checksum that is calculated seals a record whose sentinels are right. -/
theorem intact_updateCrc {s : SealedProvision} (first : s.sentinelStart = sentinelValue)
    (last : s.sentinelEnd = sentinelValue) (uncommitted : s.prov.session.commitStarted = false) :
    (s.updateCrc espRomCrc32Le).Intact espRomCrc32Le := by
  refine ⟨?_, uncommitted⟩
  rw [crcVerify_iff]
  -- The checksum is not among the bytes it is calculated from.
  exact ⟨first, last, rfl⟩

/-- A record of which nothing that the checksum covers has changed stays sealed. -/
theorem Intact.same {s : SealedProvision} (intact : s.Intact espRomCrc32Le) {prov : Provision}
    {time : Nat} (same : prov.session = s.prov.session) :
    Intact espRomCrc32Le { s with prov := prov, lastHeartbeatTime := time } := by
  -- The bytes under the checksum are those of the session, which is the same.
  constructor
  · have verified := intact.verified
    rw [crcVerify_iff] at verified ⊢
    refine ⟨verified.1, verified.2.1, verified.2.2.trans ?_⟩
    unfold calculateSessionCrc sessionBytes
    dsimp only
    rw [same]
  · dsimp only
    rw [same]
    exact intact.uncommitted

/-- A task's critical section leaves the record sealed. -/
theorem Intact.afterTask {s : SealedProvision} (intact : s.Intact espRomCrc32Le) (position : Nat)
    (answer : NetworkAnswer) (task : ProvTask) :
    Intact espRomCrc32Le (SealedProvision.afterTask espRomCrc32Le
      { s with prov := s.prov.advanceTask position answer task } task) := by
  obtain ⟨first, last, -⟩ := crcVerify_iff.mp intact.verified
  -- Where the checksum is not calculated again, nothing it covers was written.
  cases task with
  | wifiCopied | wifiWaits | scanStarts => exact intact.same rfl
  | validationCopied copies | validationJoins copies | sslStarts copies | udpWaits copies =>
    refine intact.same ?_
    unfold Provision.advanceTask
    dsimp only
    split <;> rfl
  | wifiReturned ok => cases ok <;> exact intact_updateCrc first last intact.uncommitted
  | sslStored copies result =>
    refine intact_updateCrc first last ?_
    unfold Provision.advanceTask
    dsimp only
    split <;> exact intact.uncommitted
  | _ => exact intact_updateCrc first last intact.uncommitted

/-- A command's critical section leaves the record sealed, unless the command confirms. -/
theorem Intact.afterCommand {s : SealedProvision} (intact : s.Intact espRomCrc32Le)
    (now nonce : Nat) {cmd : ProvCommand} (other : cmd ≠ .confirmProvision) :
    Intact espRomCrc32Le (SealedProvision.afterCommand espRomCrc32Le
      { s with prov := s.prov.processJsonCommand nonce cmd } now cmd) := by
  obtain ⟨first, last, -⟩ := crcVerify_iff.mp intact.verified
  cases cmd with
  | confirmProvision => exact absurd rfl other
  -- A command without its arguments writes nothing.
  | sendWifi ssid psk =>
    cases ssid <;> cases psk
    case some.some => exact intact_updateCrc first last intact.uncommitted
    all_goals exact intact.same rfl
  | sendServer host port uport =>
    cases host <;> cases port
    case some.some => exact intact_updateCrc first last intact.uncommitted
    all_goals exact intact.same rfl
  | sendCreds ssid psk host port uport =>
    cases ssid <;> cases psk <;> cases host <;> cases port
    case some.some.some.some => exact intact_updateCrc first last intact.uncommitted
    all_goals exact intact.same rfl
  | setCert chunk data =>
    refine intact.same ?_
    cases chunk <;> cases data
    case some.some =>
      unfold Provision.processJsonCommand Provision.appendCert
      dsimp only
      split <;> split <;> rfl
    all_goals rfl
  | _ => exact intact.same rfl

/-- An event that is no confirmation leaves the record sealed. -/
theorem Intact.step {s : SealedProvision} (intact : s.Intact espRomCrc32Le)
    {event : Nat × ProvInput} (other : TakesNoConfirm s event) :
    (sealedStep espRomCrc32Le s event).Intact espRomCrc32Le := by
  obtain ⟨first, last, -⟩ := crcVerify_iff.mp intact.verified
  obtain ⟨now, input⟩ := event
  cases input with
  -- These write to nothing that the checksum covers.
  | connect succeeded | clearCert | finishCommit =>
    refine intact.same ?_
    unfold provStep
    dsimp only
    split <;> rfl
  | disconnect =>
    unfold sealedStep provStep
    dsimp only
    by_cases clearing : s.prov.clearing = true
    · rw [if_pos clearing, if_pos clearing]
      exact intact
    · rw [if_neg clearing, if_neg clearing]
      exact intact_updateCrc rfl rfl rfl
  | subscribe isTx curNotify =>
    unfold sealedStep provStep
    dsimp only
    by_cases heard : (!s.prov.clearing) = true ∧ isTx = true ∧ curNotify = true
    · rw [if_pos heard, if_pos heard]
      exact intact_updateCrc first last intact.uncommitted
    · rw [if_neg heard, if_neg heard]
      exact intact
  | command cmd nonce =>
    unfold sealedStep provStep
    dsimp only
    by_cases free : s.prov.takesCommands = true
    · rw [if_pos free, if_pos free]
      apply intact.afterCommand
      rintro rfl
      exact absurd (other.symm.trans free) (by decide)
    · rw [if_neg free, if_neg free]
      exact intact
  | advance position answer =>
    unfold sealedStep provStep
    dsimp only
    cases s.prov.tasks[position]? with
    | none => exact intact
    | some task => exact intact.afterTask position answer task
  | gotIp | staDisconnected => exact intact.same rfl

/-- The bytes of the record around the state and the mark of a commit: 79 stand between them. -/
theorem sessionBytes_layout (s : SealedProvision) :
    ∃ front middle back : Bytes, middle.length = 79 ∧
      ∀ (prov : Provision) (state : ProvState) (commitStarted : Bool),
        prov.session = { s.prov.session with state := state, commitStarted := commitStarted } →
          sessionBytes { s with prov := prov } =
            front ++ (littleU32 state.code ++ middle ++ [commitStarted.toUInt8]) ++ back := by
  let session := s.prov.session
  -- The fields in front of the state, those between it and the mark, and those behind.
  refine ⟨littleU32 s.sentinelStart,
    littleU32 session.sessionId ++ littleU32 s.lastSeq ++ [session.stagesComplete] ++
      paddedTo 33 session.udpNonce ++ littleU32 (s.udpSock % 2 ^ 32).toNat ++ s.sslResult.1 ++
      [session.udpResult.toUInt8],
    [session.nonceValid.toUInt8] ++ paddedTo 64 session.temp.ssid ++ paddedTo 64 session.temp.psk ++
      paddedTo 128 session.temp.host ++ littleU16 session.temp.port ++
      littleU16 session.temp.udpPort ++ session.hmacKey, ?_, ?_⟩
  · have little : ∀ value, (littleU32 value).length = 4 := fun _ => rfl
    have padded : ∀ str, (paddedTo 33 str).length = 33 := by
      intro str
      simp [paddedTo]
    simp only [List.length_append, little, padded, s.sslResult.2, List.length_singleton]
  · intro prov state commitStarted same
    unfold sessionBytes
    dsimp only
    rw [same]
    simp only [List.append_assoc, session]

end SealedProvision

/-- The register that 79 zero bytes leave at one. -/
theorem register_zeros : Crc.register Crc.ieee 3547011945 (List.replicate 79 0) = 1 := by
  -- The register is calculated in five parts, each starting where the one before ended.
  have parts : List.replicate 79 (0 : UInt8) = List.replicate 15 0 ++ List.replicate 16 0 ++
      List.replicate 16 0 ++ List.replicate 16 0 ++ List.replicate 16 0 := by decide
  have first : Crc.register Crc.ieee 3547011945 (List.replicate 15 0) = 3755923436 := by
    decide +kernel
  have second : Crc.register Crc.ieee 3755923436 (List.replicate 16 0) = 2029133444 := by
    decide +kernel
  have third : Crc.register Crc.ieee 2029133444 (List.replicate 16 0) = 1230508458 := by
    decide +kernel
  have fourth : Crc.register Crc.ieee 1230508458 (List.replicate 16 0) = 1822566122 := by
    decide +kernel
  have last : Crc.register Crc.ieee 1822566122 (List.replicate 16 0) = 1 := by decide +kernel
  rw [parts, Crc.register_append, Crc.register_append, Crc.register_append, Crc.register_append,
    first, second, third, fourth, last]

/-- The polynomial divides no difference that the start of a commit makes in the record. -/
theorem commit_difference (state : ProvState) {middle : Bytes} (length : middle.length = 79) :
    Crc.register Crc.ieee 0 (List.zipWith (· ^^^ ·)
      (littleU32 state.code ++ middle ++ [false.toUInt8])
      (littleU32 ProvState.nvsCommit.code ++ middle ++ [true.toUInt8])) ≠ 0 := by
  have full : 2 ^ 31 ≤ Crc.ieee.toNat := by decide
  have zeros : List.zipWith (· ^^^ ·) middle middle = List.replicate 79 0 := by
    simp [List.zipWith_self, length]
  intro empty
  rw [List.zipWith_append (by simp [littleU32]), List.zipWith_append (by simp [littleU32]), zeros,
    Crc.register_append, Crc.register_append] at empty
  -- Step by step backwards: the last byte is one, and the zeros before it are taken back.
  have one := Crc.register_injective (b := 1) full [1] (empty.trans (by decide))
  have start := Crc.register_injective full _ (one.trans register_zeros.symm)
  revert start
  cases state <;> decide +kernel

/-- The checksum of the processor's ROM, on data as the code hands it over. -/
theorem calculateCrc32_inj (rom : ∀ crc data, espRomCrc32Le crc data = Crc.crc32Le crc data)
    (first second : Bytes) :
    calculateCrc32 espRomCrc32Le first = calculateCrc32 espRomCrc32Le second ↔
      Crc.register Crc.ieee 0 first = Crc.register Crc.ieee 0 second := by
  have turned : ~~~(0xFFFFFFFF : UInt32) = 0 := by decide
  unfold calculateCrc32
  rw [UInt32.xor_left_inj, rom, rom, Crc.crc32Le, Crc.crc32Le, turned]
  exact UInt32.not_inj

/-- A confirmation that is taken breaks the seal. -/
theorem confirm_breaks (rom : ∀ crc data, espRomCrc32Le crc data = Crc.crc32Le crc data)
    {s : SealedProvision} (intact : s.Intact espRomCrc32Le) (free : s.prov.takesCommands = true)
    (now nonce : Nat) :
    (sealedStep espRomCrc32Le s (now, .command .confirmProvision nonce)).crcVerify espRomCrc32Le =
      false := by
  have next : sealedStep espRomCrc32Le s (now, .command .confirmProvision nonce) =
      { s with prov := s.prov.confirm } := by
    unfold sealedStep provStep
    dsimp only
    rw [if_pos free, if_pos free]
    rfl
  rw [next, Bool.eq_false_iff]
  intro verified
  obtain ⟨front, middle, back, length, layout⟩ := s.sessionBytes_layout
  have before := layout s.prov s.prov.session.state false (by rw [← intact.uncommitted])
  have after := layout s.prov.confirm .nvsCommit true rfl
  -- The checksum is the one from before, so it would have to be that of both records.
  have old := (SealedProvision.crcVerify_iff.mp intact.verified).2.2
  have new := (SealedProvision.crcVerify_iff.mp verified).2.2
  have same : calculateCrc32 espRomCrc32Le s.sessionBytes =
      calculateCrc32 espRomCrc32Le
        (SealedProvision.sessionBytes { s with prov := s.prov.confirm }) := old.symm.trans new
  rw [calculateCrc32_inj rom, show s.sessionBytes = _ from before, after,
    Crc.register_eq_iff (by decide) _ (by simp [littleU32])] at same
  exact commit_difference s.prov.session.state length same

end Lemmas

/-- Between any two events the session is sealed exactly as long as no confirmation was taken. -/
theorem session_sealed_iff (espRomCrc32Le : UInt32 → Bytes → UInt32)
    (rom : ∀ crc data, espRomCrc32Le crc data = Crc.crc32Le crc data) (sha256 : Bytes → Bytes)
    (nvs : Nvs) (drawn : Nat) (events : List (Nat × ProvInput)) :
    (∀ earlier, earlier <+: events →
      (sealedRun espRomCrc32Le sha256 nvs drawn earlier).crcVerify espRomCrc32Le = true) ↔
        Machine.Always (sealedStep espRomCrc32Le) TakesNoConfirm
          (sealedStart espRomCrc32Le sha256 nvs drawn) events := by
  have start : (sealedStart espRomCrc32Le sha256 nvs drawn).Intact espRomCrc32Le :=
    SealedProvision.intact_updateCrc rfl rfl rfl
  -- One event breaks the seal exactly when it is a confirmation that is taken.
  have exactly : ∀ s event, SealedProvision.Intact espRomCrc32Le s →
      ((sealedStep espRomCrc32Le s event).crcVerify espRomCrc32Le = true ↔
        TakesNoConfirm s event) := by
    intro s event intact
    constructor
    · intro verified
      obtain ⟨now, input⟩ := event
      unfold TakesNoConfirm
      split
      · rename_i nonce same
        cases same
        by_contra taken
        have free : s.prov.takesCommands = true := by simpa using taken
        rw [confirm_breaks rom intact free now nonce] at verified
        cases verified
      · trivial
    · intro other
      exact (intact.step other).verified
  have keeps : ∀ s event, SealedProvision.Intact espRomCrc32Le s → TakesNoConfirm s event →
      (sealedStep espRomCrc32Le s event).Intact espRomCrc32Le :=
    fun _ _ intact other => intact.step other
  exact @Machine.prefixes_iff_always _ _ _ _ _ (fun s => s.crcVerify espRomCrc32Le = true) _
    exactly keeps _ start start.verified

/-- Settings are sent over a connection, and nothing is confirmed yet. -/
theorem session_sealed_iff_sample :
    (∀ earlier, earlier <+: [(1, .connect true), (2, .subscribe true true),
        (3, .command (.sendWifi (some (textBytes "home")) (some (textBytes "secret"))) 0)] →
      (sealedRun Crc.crc32Le id emptyNvs 7 earlier).crcVerify Crc.crc32Le = true) ↔
        Machine.Always (sealedStep Crc.crc32Le) TakesNoConfirm
          (sealedStart Crc.crc32Le id emptyNvs 7) [(1, .connect true), (2, .subscribe true true),
            (3, .command (.sendWifi (some (textBytes "home")) (some (textBytes "secret"))) 0)] :=
  session_sealed_iff Crc.crc32Le (fun _ _ => rfl) id emptyNvs 7 _

/-- A confirmation leaves the session with the checksum it had before. -/
theorem confirm_unseals :
    ¬ ∀ events, (sealedRun Crc.crc32Le id emptyNvs 7 events).crcVerify Crc.crc32Le = true := by
  intro sealed
  have start : (sealedStart Crc.crc32Le id emptyNvs 7).Intact Crc.crc32Le :=
    SealedProvision.intact_updateCrc rfl rfl rfl
  have broken := confirm_breaks (fun _ _ => rfl) start rfl 1 0
  have verified := sealed [(1, .command .confirmProvision 0)]
  rw [sealedRun, Machine.run_cons, Machine.run_nil, broken] at verified
  cases verified

end Ykp.Firmware
