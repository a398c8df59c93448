import Mathlib.Data.List.Infix
import Mathlib.Logic.Relation
import Ykp.Firmware.ProvisionSurvival
import Ykp.Foundation.Interrupted

/-! The life of a device over its starts: what it stores, and where it is when the power is lost. -/

namespace Ykp.Firmware

open History Interrupted

/-- A single write to the stored configuration. -/
inductive NvsWrite
  | str (key : NvsKey) (value : Bytes)
  | u32 (key : NvsKey) (value : Nat)
  deriving DecidableEq, Repr

/-- A write that is made. -/
def makeWrite (nvs : Nvs) : NvsWrite → Nvs
  | .str key value => nvsConfigSetStr nvs key value
  | .u32 key value => nvsConfigSetU32 nvs key value

/-- Where a write is made: strings and numbers are kept apart. -/
def NvsWrite.place : NvsWrite → Bool × NvsKey
  | .str key _ => (true, key)
  | .u32 key _ => (false, key)

/-- The writes of `confirm_provision` that every commit makes, in their order. -/
def commitWrites (commit : ProvCommit) : List NvsWrite :=
  [.str .wifiSsid commit.ssid, .str .wifiPassword commit.psk, .str .serverUrl commit.host,
    .u32 .controlPort commit.port]

/-- The write of the certificate, behind the others. -/
def certWrite (commit : ProvCommit) (cert : Bytes) : Option NvsWrite :=
  if commit.sslRes = .caOk ∧ 0 < cert.length then some (.str .sslCert cert) else none

/-- What `ykp_ws_init` makes of the stored certificate. -/
inductive CustomCert
  | absent
  /-- Without an end, it is not used, and it stays where it is. -/
  | discarded
  /-- The library cannot parse it: it is not used, and it is erased. -/
  | refused
  | loaded (cert : Bytes)
  deriving DecidableEq, Repr

/-- A text with line ends where a backslash and an n spell one, as far as there is room. -/
def spelledLines : Nat → Bytes → Bytes
  | 0, _ => []
  | _ + 1, [] => []
  | room + 1, [byte] => byte :: spelledLines room []
  | room + 1, first :: second :: rest =>
    if first = 0x5C ∧ second = 0x6E then 0x0A :: spelledLines room rest
    else first :: spelledLines room (second :: rest)

/-- The certificate as it is handed to the library: its last line is ended. -/
def cleanedCert (cert : Bytes) : Bytes :=
  let text := spelledLines 2046 cert
  if text = [] ∨ text.getLast? = some 0x0A then text else text ++ [0x0A]

/-- The certificate of the WebSocket client; the library says which texts it parses. -/
def ykpWsInit (parses : Bytes → Bool) (stored : Option Bytes) : CustomCert :=
  match stored with
  | none => .absent
  | some cert =>
    if cert = [] then .absent
    else if ¬ textBytes "-----END CERTIFICATE-----" <:+: cleanedCert cert then .discarded
    else if parses (cleanedCert cert) then .loaded (cleanedCert cert)
    else .refused

/-- What outlasts a restart: the stored configuration, and how often the device was started. -/
structure Flash where
  nvs : Nvs
  restartCount : Option Nat

/-- Where a device is between two starts. -/
inductive LifePhase
  | off
  /-- It waits for a phone; a commit has got as far as a number of its writes. -/
  | provisioning (prov : Provision) (reached : Nat)
  /-- It works with what it has read; so many polls in a row found it without connection. -/
  | operating (boot : Boot) (customCert : CustomCert) (failCount : Nat)

deriving instance DecidableEq for Boot

inductive LifeEvent
  | erased
  | booted (boot : Boot)
  | confirmed (commit : ProvCommit)
  /-- The write at a position among those of a commit is made. -/
  | wrote (commit : ProvCommit) (position : Nat)
  deriving DecidableEq

/-- A device over its starts; the log is kept newest entry first. -/
structure Life where
  flash : Flash
  phase : LifePhase
  log : List LifeEvent

/-- What is found out during one start. -/
structure BootEnv where
  /-- Whether the storage had to be erased, and whether it can be used. -/
  nvsErased : Bool
  nvsOk : Bool
  /-- Whether the count of the starts and the erasure of a certificate can be written. -/
  counted : Bool
  certErased : Bool
  bleStarts : Bool
  drawn : Nat
  securityOk : Bool

inductive LifeInput
  | powerOn (env : BootEnv)
  /-- Something happens to the provisioning service. -/
  | provision (input : ProvInput)
  /-- The commit goes on to its next write, which is made or fails. -/
  | write (done : Bool)
  /-- The connection manager looks whether the WebSocket is connected. -/
  | poll (connected : Bool)
  | powerLost

namespace Life

/-- A device that leaves the factory. -/
def start (factory : Nvs) : Life := ⟨⟨factory, none⟩, .off, []⟩

/-- The storage is erased, and the key of the device with it. -/
def erase (life : Life) : Life :=
  { life with flash := ⟨emptyNvs, none⟩, log := .erased :: life.log }

/-- `nvs_config_incr_restart_count`. -/
def countRestart (flash : Flash) (counted : Bool) : Flash :=
  if counted then { flash with restartCount := some ((flash.restartCount.getD 0 + 1) % 2 ^ 32) }
  else flash

/-- The services start, or the device restarts. -/
def operate (parses : Bytes → Bool) (life : Life) (boot : Boot) (env : BootEnv) : Life :=
  if env.securityOk then
    let customCert := ykpWsInit parses boot.sslCert
    let nvs := life.flash.nvs
    -- Only a certificate that cannot be parsed is erased; one without an end is left.
    { life with
      flash := { life.flash with
        nvs := if customCert = .refused ∧ env.certErased then nvsConfigSetStr nvs .sslCert []
          else nvs }
      phase := .operating boot customCert 0 }
  -- The device restarts when the security library cannot be set up.
  else { life with phase := .off }

/-- `app_main` behind the storage. -/
def bootFrom (sha256 : Bytes → Bytes) (parses : Bytes → Bool) (life : Life) (env : BootEnv) :
    Life :=
  let flash := countRestart life.flash env.counted
  let boot := appMain flash.nvs
  let life : Life := { flash := flash, phase := .off, log := .booted boot :: life.log }
  -- Without the provisioning service an unprovisioned device goes on like a provisioned one.
  if !boot.isProvisioned && env.bleStarts then
    { life with phase := .provisioning (.start sha256 flash.nvs env.drawn) 0 }
  else life.operate parses boot env

/-- `app_main`; without storage the device restarts. -/
def boot (sha256 : Bytes → Bytes) (parses : Bytes → Bool) (life : Life) (env : BootEnv) : Life :=
  let life := if env.nvsErased then life.erase else life
  if env.nvsOk then life.bootFrom sha256 parses env else life

/-- The commit that an event confirms. -/
def confirmedBy (before after : Provision) : List LifeEvent :=
  if before.committing.isNone then (after.committing.map LifeEvent.confirmed).toList else []

/-- The write a commit has reached; behind the last one the device restarts. -/
def writeNext (life : Life) (prov : Provision) (commit : ProvCommit) (reached : Nat) (done : Bool) :
    Life :=
  match (commitWrites commit)[reached]? with
  | some write =>
    -- Whether a write was made is not looked at: the commit goes on either way.
    if done then
      { flash := { life.flash with nvs := makeWrite life.flash.nvs write }
        phase := .provisioning prov (reached + 1)
        log := .wrote commit reached :: life.log }
    else { life with phase := .provisioning prov (reached + 1) }
  | none =>
    -- The certificate comes last, and the device restarts behind it.
    let nvs := life.flash.nvs
    { life with
      flash := { life.flash with
        nvs := if done then (certWrite commit prov.cert).elim nvs (makeWrite nvs) else nvs }
      phase := .off }

end Life

/-- Polls without connection after which the device restarts. -/
abbrev maxFails : Nat := 90

/-- One event; what does not belong to the phase the device is in does not happen. -/
def lifeStep (sha256 : Bytes → Bytes) (parses : Bytes → Bool) (life : Life) : LifeInput → Life
  | .powerOn env =>
    match life.phase with
    | .off => life.boot sha256 parses env
    | _ => life
  | .provision input =>
    match life.phase, input with
    -- The writes of a commit are steps of their own here.
    | .provisioning _ _, .finishCommit => life
    | .provisioning prov reached, input =>
      let next := provStep prov input
      { life with
        phase := .provisioning next reached
        log := Life.confirmedBy prov next ++ life.log }
    | _, _ => life
  | .write done =>
    match life.phase with
    | .provisioning prov reached =>
      match prov.committing with
      | none => life
      | some commit => life.writeNext prov commit reached done
    | _ => life
  | .poll connected =>
    match life.phase with
    | .operating boot customCert failCount =>
      -- A poll that finds a connection starts the count again.
      let failCount := if connected then 0 else failCount + 1
      { life with
        phase := if maxFails ≤ failCount then .off else .operating boot customCert failCount }
    | _ => life
  | .powerLost => { life with phase := .off }

/-- The device after a list of events since it left the factory. -/
def lifeRun (sha256 : Bytes → Bytes) (parses : Bytes → Bool) (factory : Nvs)
    (inputs : List LifeInput) : Life :=
  Machine.run (lifeStep sha256 parses) (.start factory) inputs

/-- A write replaces an earlier one of the same kind under the same key. -/
theorem makeWrite_laws : Overwrites makeWrite NvsWrite.place := by
  constructor
  · intro nvs first second same
    -- Of two writes to one place, both are strings or both are numbers.
    cases first <;> cases second <;> simp only [NvsWrite.place, Prod.mk.injEq] at same
    · simp [makeWrite, nvsConfigSetStr, same.2]
    · exact absurd same.1 (by decide)
    · exact absurd same.1 (by decide)
    · simp [makeWrite, nvsConfigSetU32, same.2]
  · intro nvs first second differ
    cases first <;> cases second <;>
      simp only [NvsWrite.place, ne_eq, Prod.mk.injEq, true_and] at differ
    · simp only [makeWrite, nvsConfigSetStr, Function.update_comm differ]
    · rfl
    · rfl
    · simp only [makeWrite, nvsConfigSetU32, Function.update_comm differ]

/-- A commit that is not cut off writes what the provisioning service writes at once. -/
theorem confirmWrites_eq (nvs : Nvs) (commit : ProvCommit) (cert : Bytes) :
    confirmWrites nvs commit cert =
      makeAll makeWrite nvs (commitWrites commit ++ (certWrite commit cert).toList) := by
  unfold confirmWrites certWrite
  split <;> rfl

/-- A commit whose power lasts stores what the provisioning service writes at once, and restarts. -/
theorem commit_uncut {sha256 : Bytes → Bytes} {parses : Bytes → Bool} {life : Life}
    {prov : Provision} {commit : ProvCommit} (before : life.phase = .provisioning prov 0)
    (waits : prov.committing = some commit) :
    let written := Machine.run (lifeStep sha256 parses) life (List.replicate 5 (.write true))
    written.flash.nvs = confirmWrites life.flash.nvs commit prov.cert ∧ written.phase = .off := by
  -- Four writes leave the service waiting, and the fifth step ends it.
  have one (flash : Flash) (reached : Nat) (log : List LifeEvent) :
      lifeStep sha256 parses ⟨flash, .provisioning prov reached, log⟩ (.write true) =
        Life.writeNext ⟨flash, .provisioning prov reached, log⟩ prov commit reached true := by
    simp only [lifeStep, waits]
  obtain ⟨flash, phase, log⟩ := life
  obtain rfl : phase = .provisioning prov 0 := before
  simp only [List.replicate, Machine.run_cons, Machine.run_nil, one, Life.writeNext, commitWrites,
    List.getElem?_cons_zero, List.getElem?_cons_succ, List.getElem?_nil, if_true]
  refine ⟨?_, trivial⟩
  rw [confirmWrites_eq, makeAll_append]
  cases certWrite commit prov.cert <;> rfl

/-- The stored configuration but for the certificate, which the device may erase later. -/
def Nvs.withoutCert (nvs : Nvs) : Nvs := { nvs with str := Function.update nvs.str .sslCert none }

/-- What a boot reads but for the certificate. -/
def Boot.settings (boot : Boot) : Bool × Option Bytes × Option Bytes × Bytes :=
  (boot.isProvisioned, boot.ssid, boot.password, boot.serverUrl)

@[simp] theorem withoutCert_str {nvs : Nvs} {key : NvsKey} (other : key ≠ .sslCert) :
    nvs.withoutCert.str key = nvs.str key := Function.update_of_ne other ..

@[simp] theorem withoutCert_setCert (nvs : Nvs) (cert : Bytes) :
    (nvsConfigSetStr nvs .sslCert cert).withoutCert = nvs.withoutCert := by
  simp [Nvs.withoutCert, nvsConfigSetStr]

/-- The other settings are read as if there were no certificate. -/
theorem appMain_withoutCert (nvs : Nvs) :
    (appMain nvs.withoutCert).settings = (appMain nvs).settings := by
  simp [appMain, Boot.settings, nvsConfigGetDeviceId, nvsConfigGetWifiSsid,
    nvsConfigGetWifiPassword, nvsConfigGetServerUrl, nvsConfigGetStr]

theorem settings_of_withoutCert {first second : Nvs}
    (same : first.withoutCert = second.withoutCert) :
    (appMain first).settings = (appMain second).settings := by
  rw [← appMain_withoutCert, same, appMain_withoutCert]

/-- The first writes of a commit leave the certificate and the device id alone. -/
theorem makeWrite_withoutCert {commit : ProvCommit} {write : NvsWrite}
    (among : write ∈ commitWrites commit) (nvs : Nvs) :
    (makeWrite nvs write).withoutCert = makeWrite nvs.withoutCert write := by
  -- None of the four keys is that of the certificate.
  simp only [commitWrites, List.mem_cons, List.not_mem_nil, or_false] at among
  rcases among with rfl | rfl | rfl | rfl
  · simp [makeWrite, nvsConfigSetStr, Nvs.withoutCert, Function.update_comm]
  · simp [makeWrite, nvsConfigSetStr, Nvs.withoutCert, Function.update_comm]
  · simp [makeWrite, nvsConfigSetStr, Nvs.withoutCert, Function.update_comm]
  · rfl

theorem makeWrite_deviceId {commit : ProvCommit} {write : NvsWrite}
    (among : write ∈ commitWrites commit) (nvs : Nvs) :
    (makeWrite nvs write).str .deviceId = nvs.str .deviceId := by
  simp only [commitWrites, List.mem_cons, List.not_mem_nil, or_false] at among
  rcases among with rfl | rfl | rfl | rfl <;> simp [makeWrite]

/-- A commit that is being written keeps the service until the restart. -/
theorem provStep_committing {prov : Provision} {commit : ProvCommit}
    (waits : prov.committing = some commit) {input : ProvInput} (other : input ≠ .finishCommit) :
    (provStep prov input).committing = some commit := by
  have taken : prov.takesCommands = false := by simp [Provision.takesCommands, waits]
  cases input with
  | command cmd nonce => simp [provStep, taken, waits]
  | finishCommit => exact absurd rfl other
  | connect succeeded | disconnect | subscribe isTx curNotify | clearCert =>
    unfold provStep
    dsimp only
    split <;> exact waits
  | advance position answer =>
    unfold provStep
    dsimp only
    split
    · exact waits
    · -- No point of a task touches the commit.
      rename_i task _
      cases task with
      | wifiReturned ok => cases ok <;> exact waits
      | validationCopied copies | validationJoins copies | sslStored copies result
      | udpWaits copies =>
        unfold Provision.advanceTask
        dsimp only
        split <;> exact waits
      | sslStarts copies =>
        unfold Provision.advanceTask
        dsimp only
        split <;> exact waits
      | _ => exact waits
  | gotIp | staDisconnected => exact waits

/-- The device waits for a phone. -/
def LifePhase.Serves : LifePhase → Prop
  | .provisioning _ _ => True
  | _ => False

/-- The ways in which a device moves on, as far as its settings and the log tell; whether a write
may fail is up to the event. -/
inductive LifeMoves (fails : Prop) (life next : Life) : Prop
  | rests (kept : next.flash.nvs.withoutCert = life.flash.nvs.withoutCert)
      (logged : next.log = life.log) (phase : next.phase = life.phase ∨ ¬ next.phase.Serves) :
      LifeMoves fails life next
  | served (prov : Provision) (reached : Nat) (input : ProvInput) (other : input ≠ .finishCommit)
      (before : life.phase = .provisioning prov reached)
      (after : next.phase = .provisioning (provStep prov input) reached)
      (kept : next.flash = life.flash)
      (logged : next.log = Life.confirmedBy prov (provStep prov input) ++ life.log) :
      LifeMoves fails life next
  | wrote (prov : Provision) (reached : Nat) (commit : ProvCommit) (write : NvsWrite)
      (before : life.phase = .provisioning prov reached)
      (waits : prov.committing = some commit)
      (among : (commitWrites commit)[reached]? = some write)
      (after : next.phase = .provisioning prov (reached + 1))
      (stored : next.flash.nvs = makeWrite life.flash.nvs write)
      (logged : next.log = .wrote commit reached :: life.log) : LifeMoves fails life next
  | skipped (failed : fails) (before : life.phase.Serves)
      (kept : next.flash = life.flash) (logged : next.log = life.log) : LifeMoves fails life next
  | erased (off : ¬ life.phase.Serves) (after : ¬ next.phase.Serves)
      (lost : next.flash.nvs = emptyNvs) (logged : next.log = .erased :: life.log) :
      LifeMoves fails life next
  /-- A boot waits for a phone only if it finds the device unprovisioned. -/
  | booted (found : Boot) (off : ¬ life.phase.Serves) (read : found = appMain life.flash.nvs)
      (kept : next.flash.nvs.withoutCert = life.flash.nvs.withoutCert)
      (logged : next.log = .booted found :: life.log)
      (after : ¬ next.phase.Serves ∨ found.isProvisioned = false ∧ ∃ sha256 drawn,
        next.phase = .provisioning (.start sha256 life.flash.nvs drawn) 0) :
      LifeMoves fails life next

variable {sha256 : Bytes → Bytes} {parses : Bytes → Bool} {life next : Life} {fails : Prop}

/-- The services start with the settings as they are. -/
theorem operate_keeps (parses : Bytes → Bool) (life : Life) (boot : Boot) (env : BootEnv) :
    (life.operate parses boot env).flash.nvs.withoutCert = life.flash.nvs.withoutCert ∧
      (life.operate parses boot env).log = life.log ∧
      ¬ (life.operate parses boot env).phase.Serves := by
  unfold Life.operate
  split
  · refine ⟨?_, rfl, id⟩
    -- At most a certificate is erased.
    dsimp only
    split
    · exact withoutCert_setCert _ _
    · rfl
  · exact ⟨rfl, rfl, id⟩

theorem bootFrom_moves (off : ¬ life.phase.Serves) (env : BootEnv) :
    LifeMoves fails life (life.bootFrom sha256 parses env) := by
  have counted : (Life.countRestart life.flash env.counted).nvs = life.flash.nvs := by
    unfold Life.countRestart
    split <;> rfl
  unfold Life.bootFrom
  dsimp only
  -- The count of the starts is no setting, so the boot reads what was stored before it.
  split
  · rename_i waits
    rw [Bool.and_eq_true, Bool.not_eq_true'] at waits
    rw [counted] at waits ⊢
    exact .booted _ off rfl (by rw [counted]) rfl (.inr ⟨waits.1, sha256, env.drawn, rfl⟩)
  · obtain ⟨kept, logged, works⟩ := operate_keeps parses
      ⟨Life.countRestart life.flash env.counted, .off,
        .booted (appMain (Life.countRestart life.flash env.counted).nvs) :: life.log⟩
      (appMain (Life.countRestart life.flash env.counted).nvs) env
    refine .booted (appMain life.flash.nvs) off rfl ?_ ?_ (.inl works)
    · rw [kept, counted]
    · rw [logged, counted]

/-- A commit moves on to its next write, or the device restarts behind the last one. -/
theorem writeNext_moves {prov : Provision} {reached : Nat} {commit : ProvCommit} {done : Bool}
    (before : life.phase = .provisioning prov reached) (waits : prov.committing = some commit)
    (failed : done = false → fails) :
    LifeMoves fails life (life.writeNext prov commit reached done) := by
  have serves : life.phase.Serves := by rw [before]; trivial
  unfold Life.writeNext
  split
  · rename_i write among
    -- A write that fails is passed over like one that is made.
    split
    · exact .wrote prov reached commit write before waits among rfl rfl rfl
    · rename_i undone
      exact .skipped (failed (Bool.eq_false_iff.mpr undone)) serves rfl rfl
  · refine .rests ?_ rfl (.inr id)
    -- Behind the others only the certificate is written.
    dsimp only
    split
    · unfold certWrite
      split
      · exact withoutCert_setCert _ _
      · rfl
    · rfl

/-- One event moves a device on in some of these ways, and fails to write only if it says so. -/
theorem lifeStep_moves (life : Life) (input : LifeInput) :
    Relation.ReflTransGen (LifeMoves (input = .write false)) life
      (lifeStep sha256 parses life input) := by
  unfold lifeStep
  cases input with
  | powerOn env =>
    dsimp only
    split
    · rename_i isOff
      have off : ¬ life.phase.Serves := by rw [isOff]; exact id
      unfold Life.boot
      -- The storage may be erased first, and there may be no boot behind that.
      have first : Relation.ReflTransGen (LifeMoves (LifeInput.powerOn env = .write false)) life
          (if env.nvsErased then life.erase else life) ∧
          ¬ (if env.nvsErased then life.erase else life).phase.Serves := by
        split
        · exact ⟨.single (.erased off off rfl rfl), off⟩
        · exact ⟨.refl, off⟩
      dsimp only
      split
      · exact first.1.tail (bootFrom_moves first.2 env)
      · exact first.1
    · exact .refl
  | provision input =>
    dsimp only
    split
    · exact .refl
    · rename_i prov reached before other
      exact .single (.served prov reached _ other before rfl rfl rfl)
    · exact .refl
  | write done =>
    dsimp only
    split
    · rename_i prov reached before
      split
      · exact .refl
      · rename_i commit waits
        exact .single (writeNext_moves before waits fun undone => by rw [undone])
    · exact .refl
  | poll connected =>
    dsimp only
    split
    · rename_i boot customCert failCount _
      refine .single (.rests rfl rfl (.inr ?_))
      -- The device goes on, or restarts.
      dsimp only
      generalize (if connected then 0 else failCount + 1) = count
      split <;> exact id
    · exact .refl
  | powerLost => exact .single (.rests rfl rfl (.inr id))

/-- What every move keeps is kept by every event. -/
theorem moves_keep {inv : Life → Prop}
    (keeps : ∀ life next, inv life → LifeMoves fails life next → inv next)
    (moves : Relation.ReflTransGen (LifeMoves fails) life next) (holds : inv life) : inv next := by
  induction moves with
  | refl => exact holds
  | tail _ last ih => exact keeps _ _ ih last

end Ykp.Firmware
