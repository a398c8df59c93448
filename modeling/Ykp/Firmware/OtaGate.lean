import Ykp.Firmware.Ota
import Ykp.Foundation.History
import Ykp.Foundation.Machine

/-! When the update service installs: its transfers over whole runs of messages. -/

namespace Ykp.Firmware

open BigEndian History

/-- A message for the update service and the outcomes of the calls it leads to. -/
structure OtaMessage where
  env : OtaEnv
  buf : Memory
  len : Nat
  actionId : UInt8

/-- One message; after a restart or in an endless lookup none is handled. -/
def otaStep (sha256 : Bytes → Bytes) (deviceId : DeviceId) (s : OtaService) (m : OtaMessage) :
    OtaService :=
  if s.halted then s else (otaServiceHandle sha256 deviceId m.env m.buf m.len m.actionId s).1

/-- The entry a transfer starts with. -/
def startsTransfer (event : OtaEvent) : Bool := event == .beginReceived

/-- The entries of a transfer that has failed. -/
def OtaEvent.Failure : OtaEvent → Prop
  | .opened ok => ok = false
  | .wrote _ ok => ok = false
  | .hashCompared computed declared => computed ≠ declared
  | .ended ok => ok = false
  | _ => False

/-- A comparison that found the digests equal. -/
def OtaEvent.HashEqual (event : OtaEvent) : Prop := ∃ digest, event = .hashCompared digest digest

/-- The partition was closed successfully. -/
def OtaEvent.EndedOk (event : OtaEvent) : Prop := event = .ended true

/-- The entries of the current transfer, those since the most recent announcement. -/
def transfer (log : List OtaEvent) : List OtaEvent := since startsTransfer log

/-- Since the most recent announcement the digests were found equal, then the partition was closed
successfully, and nothing failed. -/
structure Verified (log : List OtaEvent) : Prop where
  begun : .beginReceived ∈ log
  clean : ∀ event ∈ transfer log, ¬ event.Failure
  checked : Reached [OtaEvent.EndedOk, OtaEvent.HashEqual] (transfer log)

/-- The boot partition is set and the chip restarted only after a verified transfer. -/
def InstallJustified (older : List OtaEvent) : OtaEvent → Prop
  | .bootPartitionSet _ => Verified older
  | .restarted => Verified older
  | _ => True

/-- The entries that say something about the current transfer. -/
def OtaEvent.Neutral (event : OtaEvent) : Prop :=
  startsTransfer event = false ∧ ¬ event.Failure ∧ ¬ event.EndedOk

/-- A neutral entry neither verifies a transfer nor takes that back. -/
theorem verified_cons_neutral {event : OtaEvent} {log : List OtaEvent} (neutral : event.Neutral) :
    Verified (event :: log) ↔ Verified log := by
  obtain ⟨inside, harmless, other⟩ := neutral
  have extended : transfer (event :: log) = event :: transfer log :=
    since_cons_inside log inside
  have notBegin : event ≠ .beginReceived := by
    rintro rfl
    exact absurd inside (by decide)
  -- The three parts of a verified transfer each disregard the entry.
  constructor
  · rintro ⟨begun, clean, checked⟩
    rw [extended] at clean checked
    refine ⟨?_, fun e member => clean e (List.mem_cons_of_mem _ member),
      (reached_cons_other other).mp checked⟩
    simpa [notBegin.symm] using begun
  · rintro ⟨begun, clean, checked⟩
    refine ⟨List.mem_cons_of_mem _ begun, ?_, ?_⟩
    · rw [extended]
      exact List.forall_mem_cons.mpr ⟨harmless, clean⟩
    · rw [extended]
      exact checked.cons event

/-- A failure takes back what was verified. -/
theorem not_verified_failure {event : OtaEvent} {log : List OtaEvent}
    (inside : startsTransfer event = false) (failure : event.Failure) :
    ¬ Verified (event :: log) := by
  rintro ⟨-, clean, -⟩
  have extended : transfer (event :: log) = event :: transfer log := since_cons_inside log inside
  rw [extended] at clean
  exact clean event List.mem_cons_self failure

/-- A transfer that has just been announced is not verified. -/
theorem not_verified_begun (log : List OtaEvent) : ¬ Verified (.beginReceived :: log) := by
  rintro ⟨-, -, checked⟩
  have fresh : transfer (.beginReceived :: log) = [] := since_cons_boundary log rfl
  rw [fresh] at checked
  obtain ⟨newer, event, older, split, -⟩ := checked
  simp at split

/-- What the service's record says about its log. -/
structure GateInv (s : OtaService) : Prop where
  /-- While no transfer is active, none is verified. -/
  idle : s.state.active = false → ¬ Verified s.log
  /-- An active transfer was announced and has not failed, and its digest is finished exactly when
  it was verified. -/
  active : s.state.active = true → .beginReceived ∈ s.log ∧
    (∀ event ∈ transfer s.log, ¬ event.Failure) ∧
    (Reached [OtaEvent.EndedOk, OtaEvent.HashEqual] (transfer s.log) ↔ s.shaCtx = none)

/-- The record tells whether the transfer is verified: it is active and its digest finished. -/
theorem GateInv.verified_iff {s : OtaService} (inv : GateInv s) :
    Verified s.log ↔ s.state.active = true ∧ s.shaCtx = none := by
  constructor
  -- A verified transfer is active, and by the invariant its digest is finished.
  · intro verified
    cases running : s.state.active with
    | false => exact absurd verified (inv.idle running)
    | true => exact ⟨rfl, (inv.active running).2.2.mp verified.checked⟩
  · rintro ⟨running, finished⟩
    obtain ⟨begun, clean, checked⟩ := inv.active running
    exact ⟨begun, clean, checked.mpr finished⟩

/-- An announcement leads to an inactive transfer, or to an active one with a fresh digest. -/
theorem handleOtaBegin_cases (deviceId : DeviceId) (env : OtaEnv) (buf : Memory) (len : Nat)
    (s : OtaService) :
    let after := (handleOtaBegin deviceId env buf len s).1
    (after.state.active = false ∧ after.log = .beginReceived :: s.log) ∨
      (after.state.active = false ∧ after.log = .opened false :: .beginReceived :: s.log) ∨
      (after.state.active = true ∧ after.log = .opened true :: .beginReceived :: s.log ∧
        after.shaCtx = some []) := by
  -- Every early return leaves the zeroed record inactive.
  simp only [handleOtaBegin]
  split
  · split
    · exact .inl ⟨rfl, rfl⟩
    · split
      · exact .inl ⟨rfl, rfl⟩
      · split
        · exact .inl ⟨rfl, rfl⟩
        · split
          · exact .inr (.inl ⟨rfl, rfl⟩)
          · exact .inr (.inr ⟨rfl, rfl, rfl⟩)
  · exact .inl ⟨rfl, rfl⟩

/-- A chunk changes nothing, fails an active transfer, or extends it and its digest. -/
theorem handleOtaChunk_cases (deviceId : DeviceId) (env : OtaEnv) (buf : Memory) (len : Nat)
    (s : OtaService) :
    let after := (handleOtaChunk deviceId env buf len s).1
    (after.state = s.state ∧ after.log = s.log ∧ after.shaCtx = s.shaCtx) ∨
      s.state.active = true ∧ ∃ data,
        (after.state.active = false ∧ after.log = .wrote data false :: s.log) ∨
        (after.state.active = true ∧ after.log = .wrote data true :: s.log ∧
          after.shaCtx = s.shaCtx.map (· ++ data)) := by
  simp only [handleOtaChunk]
  -- An inactive service ignores the chunk.
  cases running : s.state.active with
  | false => exact .inl ⟨rfl, rfl, rfl⟩
  | true =>
    simp only [Bool.not_true, Bool.false_eq_true, if_false]
    -- A chunk that is out of order or without data changes nothing, nor does a lookup without end.
    split
    · exact .inl ⟨rfl, rfl, rfl⟩
    · split
      · exact .inl ⟨rfl, rfl, rfl⟩
      · split
        · exact .inl ⟨rfl, rfl, rfl⟩
        · exact .inl ⟨rfl, rfl, rfl⟩
        · rename_i tlv _
          refine .inr ⟨trivial, readBytes buf tlv.start tlv.length, ?_⟩
          cases written : env.writeOk with
          | false => exact .inl ⟨rfl, rfl⟩
          | true => exact .inr ⟨running, rfl, rfl⟩

/-- Completing an active transfer finishes its digest, and ends in a failure or in a comparison of
equal digests and a closed partition. -/
theorem handleOtaComplete_cases (sha256 : Bytes → Bytes) (deviceId : DeviceId) (env : OtaEnv)
    (s : OtaService) :
    let after := (handleOtaComplete sha256 deviceId env s).1
    (s.state.active = false ∧ after = s) ∨
      s.state.active = true ∧ after.shaCtx = none ∧
        ((∃ computed declared, computed ≠ declared ∧ after.state.active = false ∧
            after.log = .aborted :: .hashCompared computed declared :: s.log) ∨
          (∃ digest, after.state.active = false ∧
            after.log = .ended false :: .hashCompared digest digest :: s.log) ∨
          (∃ digest, after.state.active = true ∧
            after.log = .ended true :: .hashCompared digest digest :: s.log)) := by
  simp only [handleOtaComplete]
  cases running : s.state.active with
  | false => exact .inl ⟨rfl, rfl⟩
  | true =>
    simp only [Bool.not_true, Bool.false_eq_true, if_false]
    refine .inr ⟨trivial, ?_⟩
    -- The digest is finished before it is compared, so it is gone in either case.
    split
    · rename_i differ
      exact ⟨rfl, .inl ⟨_, _, differ, rfl, rfl⟩⟩
    · rename_i same
      have same := not_ne_iff.mp same
      rw [same]
      cases closed : env.endOk with
      | false => exact ⟨rfl, .inr (.inl ⟨s.state.sha256, rfl, rfl⟩)⟩
      | true => exact ⟨rfl, .inr (.inr ⟨s.state.sha256, running, rfl⟩)⟩

/-- Installing checks nothing: the boot partition is set, and on success the chip restarts. -/
theorem handleOtaInstall_cases (deviceId : DeviceId) (env : OtaEnv) (s : OtaService) :
    let after := (handleOtaInstall deviceId env s).1
    after.state = s.state ∧ after.shaCtx = s.shaCtx ∧
      (after.log = .bootPartitionSet false :: s.log ∨
        after.log = .restarted :: .bootPartitionSet true :: s.log) := by
  simp only [handleOtaInstall]
  cases env.setBootOk with
  | false => exact ⟨rfl, rfl, .inl rfl⟩
  | true => exact ⟨rfl, rfl, .inr rfl⟩

/-- A record that ends inactive, behind an entry that announces or fails a transfer. -/
theorem gateInv_inactive {s : OtaService} {event : OtaEvent} {older : List OtaEvent}
    (inactive : s.state.active = false) (logged : s.log = event :: older)
    (undone : event = .beginReceived ∨ (startsTransfer event = false ∧ event.Failure)) :
    GateInv s := by
  refine ⟨fun _ => ?_, fun running => absurd running (by simp [inactive])⟩
  rw [logged]
  -- Neither an announcement nor a failure on top leaves a verified transfer.
  rcases undone with rfl | ⟨inside, failure⟩
  · exact not_verified_begun older
  · exact not_verified_failure inside failure

/-- Neutral entries on top of the log keep the invariant while the record stays what it was. -/
theorem GateInv.neutral {s s' : OtaService} {event : OtaEvent} (inv : GateInv s)
    (neutral : event.Neutral) (logged : s'.log = event :: s.log)
    (same : s'.state.active = s.state.active)
    (digest : s'.shaCtx = none ↔ s.shaCtx = none) : GateInv s' := by
  have extended : transfer (event :: s.log) = event :: transfer s.log :=
    since_cons_inside s.log neutral.1
  -- The entry changes neither what the log verifies nor what the record says.
  refine ⟨fun inactive => ?_, fun running => ?_⟩
  · rw [logged, verified_cons_neutral neutral]
    exact inv.idle (same ▸ inactive)
  · obtain ⟨begun, clean, checked⟩ := inv.active (same ▸ running)
    rw [logged, extended, reached_cons_other neutral.2.2, checked, digest]
    exact ⟨List.mem_cons_of_mem _ begun, List.forall_mem_cons.mpr ⟨neutral.2.1, clean⟩, Iff.rfl⟩

/-- A boot partition that is set, and a restart, say nothing about the transfer. -/
private theorem install_neutral :
    (∀ ok, (OtaEvent.bootPartitionSet ok).Neutral) ∧ OtaEvent.restarted.Neutral := by
  refine ⟨fun ok => ⟨rfl, id, ?_⟩, rfl, id, ?_⟩ <;> simp [OtaEvent.EndedOk]

/-- Every message keeps the invariant. -/
theorem otaServiceHandle_gateInv (sha256 : Bytes → Bytes) (deviceId : DeviceId) (env : OtaEnv)
    (buf : Memory) (len : Nat) (actionId : UInt8) {s : OtaService} (inv : GateInv s) :
    GateInv (otaServiceHandle sha256 deviceId env buf len actionId s).1 := by
  -- One case for each action the service knows.
  unfold otaServiceHandle
  split
  · obtain ⟨inactive, logged⟩ | ⟨inactive, logged⟩ | ⟨running, logged, digest⟩ :=
      handleOtaBegin_cases deviceId env buf len s
    · exact gateInv_inactive inactive logged (.inl rfl)
    · exact gateInv_inactive inactive logged (.inr ⟨rfl, rfl⟩)
    · -- The new transfer holds one entry, and its digest has just been started.
      refine ⟨fun inactive => absurd running (by simp [inactive]), fun _ => ?_⟩
      have fresh : transfer (.opened true :: .beginReceived :: s.log) = [.opened true] := rfl
      rw [logged, fresh, digest]
      refine ⟨by simp, by simp [OtaEvent.Failure], ?_⟩
      rw [reached_cons_other (by simp [OtaEvent.EndedOk])]
      constructor
      · rintro ⟨newer, event, older, split, -⟩
        simp at split
      · intro none
        cases none
  · obtain ⟨state, logged, digest⟩ | ⟨running, data, ⟨inactive, logged⟩ | ⟨active, logged, digest⟩⟩ :=
      handleOtaChunk_cases deviceId env buf len s
    · exact ⟨fun inactive => logged ▸ inv.idle (state ▸ inactive),
        fun active => by rw [logged, digest]; exact inv.active (state ▸ active)⟩
    · exact gateInv_inactive inactive logged (.inr ⟨rfl, rfl⟩)
    · have neutral : (OtaEvent.wrote data true).Neutral :=
        ⟨rfl, by simp [OtaEvent.Failure], by simp [OtaEvent.EndedOk]⟩
      exact inv.neutral neutral logged (active.trans running.symm) (by simp [digest])
  · obtain ⟨-, same⟩ | ⟨running, digest, complete⟩ :=
      handleOtaComplete_cases sha256 deviceId env s
    · rw [same]
      exact inv
    obtain ⟨computed, declared, differ, inactive, logged⟩ | ⟨computed, inactive, logged⟩ |
      ⟨computed, active, logged⟩ := complete
    · -- The mismatch stays in the transfer below the entry of the abort.
      have neutral : OtaEvent.aborted.Neutral := ⟨rfl, id, by simp [OtaEvent.EndedOk]⟩
      refine ⟨fun _ => ?_, fun active => absurd active (by simp [inactive])⟩
      rw [logged, verified_cons_neutral neutral]
      exact not_verified_failure rfl differ
    · exact gateInv_inactive inactive logged (.inr ⟨rfl, rfl⟩)
    · -- Equal digests and then a closed partition are what verifies a transfer.
      obtain ⟨begun, clean, -⟩ := inv.active running
      have extended : transfer (.ended true :: .hashCompared computed computed :: s.log) =
          .ended true :: .hashCompared computed computed :: transfer s.log := rfl
      refine ⟨fun inactive => absurd active (by simp [inactive]), fun _ => ?_⟩
      rw [logged, extended, digest]
      refine ⟨by simp [begun], ?_, iff_of_true ?_ rfl⟩
      · simpa [OtaEvent.Failure] using clean
      · exact .push rfl (.push ⟨computed, rfl⟩ trivial)
  · obtain ⟨state, digest, logged | logged⟩ := handleOtaInstall_cases deviceId env s
    · exact inv.neutral (install_neutral.1 false) logged (by rw [state]) (by rw [digest])
    · -- The two entries are put on top of the log one after the other.
      have first : GateInv { s with log := .bootPartitionSet true :: s.log } :=
        inv.neutral (install_neutral.1 true) rfl rfl Iff.rfl
      exact first.neutral install_neutral.2 logged (by rw [state]) (by rw [digest])
  · exact inv

/-- The service at boot meets the invariant. -/
theorem gateInv_init : GateInv otaServiceInit := by
  refine ⟨fun _ verified => ?_, fun active => absurd active (by decide)⟩
  exact absurd verified.begun (by decide)

/-- When an installation is requested, the transfer is active and its digest finished. -/
def InstallReady (s : OtaService) (m : OtaMessage) : Prop :=
  s.halted = false → OtaAction.ofByte m.actionId = some .install →
    s.state.active = true ∧ s.shaCtx = none

/-- One message leaves every installation justified exactly when a requested one was ready. -/
theorem otaStep_justified_iff (sha256 : Bytes → Bytes) (deviceId : DeviceId) (s : OtaService)
    (m : OtaMessage) (inv : GateInv s) :
    Justified InstallJustified (otaStep sha256 deviceId s m).log ↔
      Justified InstallJustified s.log ∧ InstallReady s m := by
  unfold otaStep InstallReady
  cases halted : s.halted with
  | true => simp
  | false =>
    simp only [Bool.false_eq_true, if_false, forall_const]
    unfold otaServiceHandle
    -- Only an installation logs entries that need a justification.
    split <;> rename_i action
    · simp only [action, Option.some.injEq, reduceCtorEq, false_implies, and_true]
      obtain ⟨-, logged⟩ | ⟨-, logged⟩ | ⟨-, logged, -⟩ :=
        handleOtaBegin_cases deviceId m.env m.buf m.len s
      all_goals simp [logged, InstallJustified]
    · simp only [action, Option.some.injEq, reduceCtorEq, false_implies, and_true]
      obtain ⟨-, logged, -⟩ | ⟨-, data, ⟨-, logged⟩ | ⟨-, logged, -⟩⟩ :=
        handleOtaChunk_cases deviceId m.env m.buf m.len s
      all_goals simp [logged, InstallJustified]
    · simp only [action, Option.some.injEq, reduceCtorEq, false_implies, and_true]
      obtain ⟨-, same⟩ | ⟨-, -, ⟨_, _, -, -, logged⟩ | ⟨_, -, logged⟩ | ⟨_, -, logged⟩⟩ :=
        handleOtaComplete_cases sha256 deviceId m.env s
      · rw [same]
      all_goals simp [logged, InstallJustified]
    · simp only [action, forall_const, ← inv.verified_iff]
      obtain ⟨-, -, logged | logged⟩ := handleOtaInstall_cases deviceId m.env s
      · simp only [logged, justified_cons, InstallJustified]
        exact and_comm
      · simp only [logged, justified_cons, InstallJustified,
          verified_cons_neutral (install_neutral.1 true)]
        tauto
    · exact ⟨fun justified => ⟨justified, fun install => (action install).elim⟩, And.left⟩

/-- Over every sequence of messages, with arbitrary payloads and outcomes, the boot partition is
set and the chip restarted only after a verified transfer exactly when every installation was
requested while the transfer was active and its digest finished. -/
theorem install_justified_iff (sha256 : Bytes → Bytes) (deviceId : DeviceId)
    (messages : List OtaMessage) :
    Justified InstallJustified (Machine.run (otaStep sha256 deviceId) otaServiceInit messages).log ↔
      Machine.Always (otaStep sha256 deviceId) InstallReady otaServiceInit messages := by
  have keeps (s : OtaService) (m : OtaMessage) (inv : GateInv s) :
      GateInv (otaStep sha256 deviceId s m) := by
    unfold otaStep
    split
    · exact inv
    · exact otaServiceHandle_gateInv sha256 deviceId m.env m.buf m.len m.actionId inv
  -- One message under the invariant, unrolled over all of them.
  have unrolled := @Machine.always_iff_run _ _ _ _ GateInv
    (fun s => Justified InstallJustified s.log) InstallReady keeps
    (otaStep_justified_iff sha256 deviceId) messages gateInv_init
  simpa [otaServiceInit] using unrolled

/-- A device with the identifier "D1". -/
def sampleDevice : DeviceId := ⟨[0x44, 0x31], by simp, by simp⟩

/-- Every call outside the service succeeds. -/
def sampleOtaEnv : OtaEnv := ⟨true, true, true, true, true, true, true, []⟩

/-- An announcement without metadata, and an installation requested right behind it. -/
def beginThenInstall : List OtaMessage :=
  [⟨sampleOtaEnv, fun _ => 0, 0, OtaAction.begin.byte⟩,
    ⟨sampleOtaEnv, fun _ => 0, 0, OtaAction.install.byte⟩]

/-- An installation requested before the transfer was verified is carried out all the same. -/
theorem install_without_verification :
    ¬ Justified InstallJustified
      (Machine.run (otaStep id sampleDevice) otaServiceInit beginThenInstall).log := by
  have logged : (Machine.run (otaStep id sampleDevice) otaServiceInit beginThenInstall).log =
      [.restarted, .bootPartitionSet true, .opened true, .beginReceived] := by decide
  have opened : (OtaEvent.opened true).Neutral :=
    ⟨rfl, by simp [OtaEvent.Failure], by simp [OtaEvent.EndedOk]⟩
  rw [logged]
  rintro ⟨-, verified, -⟩
  -- Nothing was compared since the announcement.
  exact not_verified_begun [] ((verified_cons_neutral opened).mp verified)

end Ykp.Firmware
