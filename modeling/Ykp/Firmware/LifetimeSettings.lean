import Mathlib.Tactic.IntervalCases
import Ykp.Firmware.Lifetime

/-! What a device reads at its starts, whenever the power was lost before. -/

namespace Ykp.Firmware

open History Interrupted

/-- The entries since the storage was last erased. -/
def sinceErased (log : List LifeEvent) : List LifeEvent := since (· == .erased) log

/-- An earlier boot since the storage was erased that found the device provisioned. -/
def ProvisionedBefore (older : List LifeEvent) (earlier : Boot) : Prop :=
  .booted earlier ∈ sinceErased older ∧ earlier.isProvisioned = true

/-- A boot reads what an earlier one read that found the device provisioned, and is unprovisioned
once the storage was erased. -/
def ReadsAgain (older : List LifeEvent) : LifeEvent → Prop
  | .booted later =>
    (∀ earlier, ProvisionedBefore older earlier → later.settings = earlier.settings) ∧
      (.erased ∈ older → later.isProvisioned = false)
  | _ => True

/-- What a device stores is what its boots have read. -/
structure Settled (life : Life) : Prop where
  lost : .erased ∈ life.log → life.flash.nvs.str .deviceId = none
  reads : ∀ earlier, ProvisionedBefore life.log earlier →
    (appMain life.flash.nvs).settings = earlier.settings ∧ ¬ life.phase.Serves
  boots : Justified ReadsAgain life.log

section Log

variable {log : List LifeEvent} {entry : LifeEvent}

theorem sinceErased_cons (other : entry ≠ .erased) :
    sinceErased (entry :: log) = entry :: sinceErased log :=
  since_cons_inside log (beq_eq_false_iff_ne.mpr other)

theorem sinceErased_erased : sinceErased (.erased :: log) = [] :=
  since_cons_boundary log (beq_self_eq_true _)

/-- An entry that is neither a boot nor an erasure changes nothing about the boots. -/
theorem provisionedBefore_cons {earlier : Boot} (unerased : entry ≠ .erased)
    (other : ∀ boot, entry ≠ .booted boot) :
    ProvisionedBefore (entry :: log) earlier ↔ ProvisionedBefore log earlier := by
  rw [ProvisionedBefore, ProvisionedBefore, sinceErased_cons unerased, List.mem_cons]
  refine and_congr_left fun _ => ⟨fun among => ?_, .inr⟩
  exact among.resolve_left fun same => other earlier same.symm

/-- What is confirmed is logged, and nothing else. -/
theorem mem_confirmedBy {before after : Provision}
    (among : entry ∈ Life.confirmedBy before after) :
    ∃ commit, entry = .confirmed commit ∧ after.committing = some commit := by
  unfold Life.confirmedBy at among
  split at among
  · rw [Option.mem_toList, Option.map_eq_some_iff] at among
    obtain ⟨commit, confirmed, rfl⟩ := among
    exact ⟨commit, rfl, confirmed⟩
  · cases among

/-- At most one commit is confirmed at a time. -/
theorem confirmedBy_eq (before after : Provision) :
    Life.confirmedBy before after = [] ∨
      ∃ commit, Life.confirmedBy before after = [.confirmed commit] ∧
        after.committing = some commit := by
  unfold Life.confirmedBy
  cases before.committing with
  | some _ => exact .inl rfl
  | none =>
    cases confirmed : after.committing with
    | none => exact .inl rfl
    | some commit => exact .inr ⟨commit, rfl, rfl⟩

end Log

variable {life next : Life} {fails : Prop}

/-- Without a device id no boot finds the device provisioned. -/
theorem unprovisioned_of_lost {nvs : Nvs} (lost : nvs.str .deviceId = none) :
    (appMain nvs).isProvisioned = false := by
  simp [appMain, nvsConfigGetDeviceId, nvsConfigGetStr, lost]

/-- The device id does not depend on the certificate. -/
theorem deviceId_of_withoutCert {first second : Nvs}
    (same : first.withoutCert = second.withoutCert) :
    first.str .deviceId = second.str .deviceId :=
  calc first.str .deviceId
    _ = first.withoutCert.str .deviceId := (withoutCert_str (by decide)).symm
    _ = second.withoutCert.str .deviceId := by rw [same]
    _ = second.str .deviceId := withoutCert_str (by decide)

/-- An entry of the service leaves what boots have read as it is. -/
theorem Settled.logged (settled : Settled life) {entry : LifeEvent} (unerased : entry ≠ .erased)
    (other : ∀ boot, entry ≠ .booted boot) (serves : life.phase.Serves)
    (lost : life.flash.nvs.str .deviceId = none → next.flash.nvs.str .deviceId = none)
    (log : next.log = entry :: life.log) : Settled next := by
  constructor
  · intro erased
    rw [log] at erased
    rcases List.mem_cons.mp erased with same | before
    · exact absurd same.symm unerased
    · exact lost (settled.lost before)
  · -- A device that waits for a phone was never found provisioned.
    intro earlier found
    rw [log, provisionedBefore_cons unerased other] at found
    exact absurd serves (settled.reads earlier found).2
  · rw [log, justified_cons]
    refine ⟨?_, settled.boots⟩
    cases entry with
    | booted boot => exact absurd rfl (other boot)
    | _ => trivial

/-- A move that logs nothing. -/
theorem Settled.silent (settled : Settled life)
    (kept : next.flash.nvs.withoutCert = life.flash.nvs.withoutCert)
    (phase : life.phase.Serves ∨ ¬ next.phase.Serves) (log : next.log = life.log) :
    Settled next := by
  constructor
  · intro erased
    rw [log] at erased
    rw [deviceId_of_withoutCert kept]
    exact settled.lost erased
  · intro earlier found
    rw [log] at found
    obtain ⟨reads, works⟩ := settled.reads earlier found
    exact ⟨(settings_of_withoutCert kept).trans reads, phase.resolve_left works⟩
  · rw [log]
    exact settled.boots

/-- A boot reads what is stored. -/
theorem Settled.booted (settled : Settled life) {found : Boot}
    (read : found = appMain life.flash.nvs)
    (kept : next.flash.nvs.withoutCert = life.flash.nvs.withoutCert)
    (logged : next.log = .booted found :: life.log)
    (after : ¬ next.phase.Serves ∨ found.isProvisioned = false) : Settled next := by
  have same : (appMain next.flash.nvs).settings = found.settings := by
    rw [read]
    exact settings_of_withoutCert kept
  constructor
  · intro erased
    rw [logged] at erased
    rw [deviceId_of_withoutCert kept]
    exact settled.lost ((List.mem_cons.mp erased).resolve_left (by simp))
  · intro earlier ⟨among, provisioned⟩
    rw [logged, sinceErased_cons (by simp), List.mem_cons] at among
    -- It is this boot, or one before that has read the same.
    have equal : found.settings = earlier.settings := by
      rcases among with here | before
      · rw [LifeEvent.booted.inj here]
      · rw [read]
        exact (settled.reads earlier ⟨before, provisioned⟩).1
    refine ⟨same.trans equal, after.resolve_right fun unprovisioned => ?_⟩
    have flags := congrArg Prod.fst equal
    rw [Boot.settings, Boot.settings, provisioned, unprovisioned] at flags
    cases flags
  · rw [logged, justified_cons]
    refine ⟨⟨fun earlier before => ?_, fun erased => ?_⟩, settled.boots⟩
    · rw [read]
      exact (settled.reads earlier before).1
    · rw [read]
      exact unprovisioned_of_lost (settled.lost erased)

/-- Every move keeps the settings of a device that was found provisioned. -/
theorem Settled.moves (settled : Settled life) (move : LifeMoves fails life next) :
    Settled next := by
  cases move with
  | rests kept logged phase =>
    refine settled.silent kept ?_ logged
    -- The device stays where it is, or no longer waits.
    rcases phase with same | works
    · rw [same]
      exact em _
    · exact .inr works
  | served prov reached input other before after kept logged =>
    have serves : life.phase.Serves := by rw [before]; trivial
    rcases confirmedBy_eq prov (provStep prov input) with none | ⟨commit, confirmed, -⟩
    · rw [none, List.nil_append] at logged
      exact settled.silent (by rw [kept]) (.inl serves) logged
    · rw [confirmed, List.singleton_append] at logged
      exact settled.logged (by simp) (by simp) serves (fun lost => by rw [kept, lost]) logged
  | wrote prov reached commit write before waits among after stored logged =>
    have serves : life.phase.Serves := by rw [before]; trivial
    refine settled.logged (by simp) (by simp) serves (fun lost => ?_) logged
    rw [stored, makeWrite_deviceId (List.mem_of_getElem? among), lost]
  | skipped failed before kept logged =>
    exact settled.silent (by rw [kept]) (.inl before) logged
  | erased off after lost logged =>
    constructor
    · intro _
      rw [lost]
      rfl
    · -- Nothing was read since.
      intro earlier ⟨among, _⟩
      rw [logged, sinceErased_erased] at among
      cases among
    · rw [logged, justified_cons]
      exact ⟨trivial, settled.boots⟩
  | booted found off read kept logged after =>
    exact settled.booted read kept logged (after.imp_right And.left)

/-- A start at which nothing goes wrong. -/
def plainBoot : BootEnv where
  nvsErased := false
  nvsOk := true
  counted := false
  certErased := false
  bleStarts := true
  drawn := 1
  securityOk := true

/-- A commit is confirmed, so many of its writes are made, and the power is lost and comes back. -/
def cutOff (psk : Bytes) (made : Nat) : List LifeInput :=
  [.powerOn plainBoot, .provision (.command (sampleCreds psk) 2),
    .provision (.command .confirmProvision 0)] ++
  List.replicate made (.write true) ++ [.powerLost, .powerOn plainBoot]

/-- In every run, a boot after one that found the device provisioned finds it provisioned exactly if
the storage was not erased in between, and then it reads the same settings. -/
theorem provisioned_for_good (sha256 : Bytes → Bytes) (parses : Bytes → Bool) (factory : Nvs)
    (inputs : List LifeInput) {newest between oldest : List LifeEvent} {later earlier : Boot}
    (log : (lifeRun sha256 parses factory inputs).log =
      newest ++ .booted later :: (between ++ .booted earlier :: oldest))
    (found : earlier.isProvisioned = true) :
    (later.isProvisioned = true ↔ LifeEvent.erased ∉ between) ∧
      (later.isProvisioned = true → later.ssid = earlier.ssid ∧
        later.password = earlier.password ∧ later.serverUrl = earlier.serverUrl) := by
  have initial : Settled (Life.start factory) :=
    { lost := fun erased => absurd erased List.not_mem_nil
      reads := fun _ before => absurd before.1 List.not_mem_nil
      boots := trivial }
  have settled : Settled (lifeRun sha256 parses factory inputs) :=
    Machine.invariant_reached
      (fun life input holds =>
        moves_keep (fun _ _ => Settled.moves) (lifeStep_moves life input) holds)
      inputs initial
  have boots := settled.boots
  rw [log] at boots
  obtain ⟨again, lost⟩ := boots.of_split
  -- An erasure between the two boots is one before the later boot.
  have unerased (provisioned : later.isProvisioned = true) : LifeEvent.erased ∉ between := by
    intro erased
    rw [lost (List.mem_append_left _ erased)] at provisioned
    cases provisioned
  have same (kept : LifeEvent.erased ∉ between) : later.settings = earlier.settings := by
    refine again earlier ⟨?_, found⟩
    have inside : ∀ event ∈ between, (event == LifeEvent.erased) = false := fun event member =>
      beq_eq_false_iff_ne.mpr fun erased => kept (erased ▸ member)
    rw [sinceErased, since_append_inside _ inside, ← sinceErased, sinceErased_cons (by simp)]
    exact List.mem_append_right _ List.mem_cons_self
  refine ⟨⟨unerased, fun kept => ?_⟩, fun provisioned => ?_⟩
  · -- Whether the device is provisioned is the first of the settings.
    exact (congrArg Prod.fst (same kept)).trans found
  · have equal := same (unerased provisioned)
    exact ⟨congrArg (·.2.1) equal, congrArg (·.2.2.1) equal, congrArg (·.2.2.2) equal⟩

/-- A device that was provisioned and loses its power once more. -/
def restarted : List LifeInput := cutOff [0x63] 4 ++ [.powerLost, .powerOn plainBoot]

/-- What it reads at both of its last two starts. -/
def restartedBoot : Boot := appMain (lifeRun id (fun _ => true) deviceNvs restarted).flash.nvs

theorem provisioned_for_good_sample :
    (restartedBoot.isProvisioned = true ↔ LifeEvent.erased ∉ []) ∧
      (restartedBoot.isProvisioned = true → restartedBoot.ssid = restartedBoot.ssid ∧
        restartedBoot.password = restartedBoot.password ∧
          restartedBoot.serverUrl = restartedBoot.serverUrl) := by
  have log : (lifeRun id (fun _ => true) deviceNvs restarted).log =
      [] ++ .booted restartedBoot :: ([] ++ .booted restartedBoot ::
        (lifeRun id (fun _ => true) deviceNvs restarted).log.drop 2) := by decide +kernel
  exact provisioned_for_good id (fun _ => true) deviceNvs restarted log (by decide +kernel)

/-- The strings of a commit fit the buffers that a boot reads them into. -/
def ProvCommit.Fits (commit : ProvCommit) : Prop :=
  commit.ssid.length ≤ 63 ∧ commit.psk.length ≤ 63 ∧ commit.host.length ≤ 127

/-- So many writes of a commit over the settings from the factory. -/
def overFactory (factory : Nvs) (commit : ProvCommit) (made : Nat) : Nvs :=
  makeAll makeWrite factory ((commitWrites commit).take made)

/-- As a log tells, so many writes of a commit are made; of others, at most the first one was. -/
structure MadeOf (factory : Nvs) (commit : ProvCommit) (made : Nat) (log : List LifeEvent) :
    Prop where
  within : made ≤ 4
  known : 0 < made → .confirmed commit ∈ log
  fits : 0 < made → commit.Fits
  wrote : ∀ other position, 0 < position →
    (.wrote other position ∈ log ↔ other = commit ∧ position < made)
  untouched : (appMain factory).isProvisioned = true → made = 0

/-- A boot that finds the device provisioned reads what the writes of one commit have made of the
settings from the factory. -/
def BootsOnCommit (factory : Nvs) (older : List LifeEvent) : LifeEvent → Prop
  | .booted found => found.isProvisioned = true → ∃ commit made, MadeOf factory commit made older ∧
      found.settings = (appMain (overFactory factory commit made)).settings
  | _ => True

/-- A provisioning service that was started over the writes of an earlier commit. -/
structure StartedOver (commit : ProvCommit) (made : Nat) (log : List LifeEvent) (prov : Provision)
    (reached : Nat) : Prop where
  mirrored : ∃ nvs, Mirrored nvs prov
  known : ∀ confirmed, prov.committing = some confirmed → .confirmed confirmed ∈ log
  -- An earlier commit was cut off before its second write, or the device would be provisioned.
  fresh : reached = 0 → made ≤ 1
  goesOn : 0 < reached → prov.committing = some commit ∧ made = reached

/-- A device with an id stores what the writes of one commit have made of the settings from the
factory. -/
structure Overlaid (factory : Nvs) (life : Life) (commit : ProvCommit) (made : Nat) : Prop where
  id : (nvsConfigGetDeviceId factory 9).isSome
  history : MadeOf factory commit made life.log
  stored : life.flash.nvs.withoutCert = (overFactory factory commit made).withoutCert
  works : (appMain factory).isProvisioned = true → ¬ life.phase.Serves
  service : ∀ prov reached, life.phase = .provisioning prov reached →
    StartedOver commit made life.log prov reached

section Overlay

variable {factory : Nvs} {commit : ProvCommit} {made : Nat}

/-- What is stored under each key that a boot reads. -/
theorem overFactory_str (factory : Nvs) (commit : ProvCommit) (within : made ≤ 4) :
    (overFactory factory commit made).str .deviceId = factory.str .deviceId ∧
      (overFactory factory commit made).str .wifiSsid =
        (if 0 < made then some commit.ssid else factory.str .wifiSsid) ∧
      (overFactory factory commit made).str .wifiPassword =
        (if 1 < made then some commit.psk else factory.str .wifiPassword) ∧
      (overFactory factory commit made).str .serverUrl =
        (if 2 < made then some commit.host else factory.str .serverUrl) := by
  -- From none of the writes up to all four of them.
  interval_cases made <;> simp [overFactory, commitWrites, makeAll, makeWrite]

/-- A string that is written and fits is read, and the factory's is read until then. -/
theorem nvsConfigGetStr_overlay {nvs : Nvs} {key : NvsKey} (maxLen : Nat) {value : Bytes}
    {written : Prop} [Decidable written] (fits : written → value.length + 1 ≤ maxLen)
    (stored : nvs.str key = if written then some value else factory.str key) :
    nvsConfigGetStr nvs key maxLen =
      if written then some value else nvsConfigGetStr factory key maxLen := by
  unfold nvsConfigGetStr
  rw [stored]
  split
  · -- The string and its terminator fit the buffer, so it is not refused.
    rename_i done
    rw [Option.filter_some, if_pos (decide_eq_true (fits done))]
  · rfl

/-- What a boot reads behind so many writes of a commit. -/
theorem overFactory_boot (factory : Nvs) (within : made ≤ 4) (fits : 0 < made → commit.Fits) :
    let boot := appMain (overFactory factory commit made)
    boot.ssid = (if 0 < made then some commit.ssid else (appMain factory).ssid) ∧
      boot.password = (if 1 < made then some commit.psk else (appMain factory).password) ∧
      boot.serverUrl = (if 2 < made then commit.host else (appMain factory).serverUrl) ∧
      (boot.isProvisioned = true ↔ (nvsConfigGetDeviceId factory 9).isSome ∧ boot.ssid.isSome ∧
        boot.password.isSome) := by
  obtain ⟨deviceId, ssid, password, host⟩ :=
    overFactory_str factory commit within
  have readSsid := nvsConfigGetStr_overlay 64 (fun done => by
    have := (fits done).1
    omega) ssid
  have readPassword := nvsConfigGetStr_overlay 64 (fun done => by
    have := (fits (by omega)).2.1
    omega) password
  have readHost := nvsConfigGetStr_overlay 128 (fun done => by
    have := (fits (by omega)).2.2
    omega) host
  have id : nvsConfigGetDeviceId (overFactory factory commit made) 9 =
      nvsConfigGetDeviceId factory 9 := by
    rw [nvsConfigGetDeviceId, nvsConfigGetStr, deviceId]
    rfl
  refine ⟨readSsid, readPassword, ?_, ?_⟩
  · -- Behind the third write the address is there, so the fixed one is not taken.
    simp only [appMain, nvsConfigGetServerUrl, readHost]
    split <;> rfl
  · simp only [appMain, id, Bool.and_eq_true, and_assoc]

/-- A boot that finds the device unprovisioned follows at most one write. -/
theorem made_le_one (within : made ≤ 4) (fits : 0 < made → commit.Fits)
    (known : (nvsConfigGetDeviceId factory 9).isSome)
    (unprovisioned : (appMain (overFactory factory commit made)).isProvisioned = false) :
    made ≤ 1 := by
  obtain ⟨ssid, password, -, provisioned⟩ := overFactory_boot factory within fits
  by_contra more
  -- Network and password are stored, and nothing else is asked for.
  have found := provisioned.mpr ⟨known, by rw [ssid, if_pos (by omega)]; rfl,
    by rw [password, if_pos (by omega)]; rfl⟩
  rw [unprovisioned] at found
  cases found

/-- An entry of another kind tells the same about the writes. -/
theorem MadeOf.cons {log : List LifeEvent} (history : MadeOf factory commit made log)
    {entry : LifeEvent} (other : ∀ commit position, entry ≠ .wrote commit position) :
    MadeOf factory commit made (entry :: log) where
  within := history.within
  known some := List.mem_cons_of_mem _ (history.known some)
  fits := history.fits
  wrote another position later := by
    rw [List.mem_cons, or_iff_right (other another position).symm]
    exact history.wrote another position later
  untouched := history.untouched

/-- The first write of a commit hides that of an earlier one. -/
theorem overFactory_first (confirmed : ProvCommit) (least : made ≤ 1) :
    makeWrite (overFactory factory commit made) (.str .wifiSsid confirmed.ssid) =
      overFactory factory confirmed 1 :=
  makeWrite_laws.hidden_take factory (commitWrites commit) (commitWrites confirmed) rfl least

/-- A further write of the same commit. -/
theorem overFactory_next {write : NvsWrite} (among : (commitWrites commit)[made]? = some write) :
    makeWrite (overFactory factory commit made) write = overFactory factory commit (made + 1) := by
  obtain ⟨more, rfl⟩ := List.getElem?_eq_some_iff.mp among
  exact (makeAll_take_succ factory more).symm

end Overlay

/-- The service mirrors what was sent from its start on. -/
theorem mirrored_start (sha256 : Bytes → Bytes) (nvs : Nvs) (drawn : Nat) :
    Mirrored nvs (.start sha256 nvs drawn) where
  temp := ⟨rfl, rfl⟩
  committing _ writing := by cases writing
  committed _ _ written := by cases written
  untouched _ := rfl

section Commits

variable {factory : Nvs} {commit : ProvCommit} {made : Nat}

/-- A move that neither stores settings nor logs. -/
theorem Overlaid.silent (overlaid : Overlaid factory life commit made)
    (kept : next.flash.nvs.withoutCert = life.flash.nvs.withoutCert)
    (phase : next.phase = life.phase ∨ ¬ next.phase.Serves) (log : next.log = life.log) :
    Overlaid factory next commit made where
  id := overlaid.id
  history := by
    rw [log]
    exact overlaid.history
  stored := kept.trans overlaid.stored
  works provisioned := by
    rcases phase with same | works
    · rw [same]
      exact overlaid.works provisioned
    · exact works
  service prov reached at_ := by
    rcases phase with same | works
    · rw [log]
      exact overlaid.service prov reached (same ▸ at_)
    · rw [at_] at works
      exact absurd trivial works

/-- The service goes on; what it confirms is logged. -/
theorem StartedOver.served {log : List LifeEvent} {prov : Provision} {reached : Nat}
    (started : StartedOver commit made log prov reached) {input : ProvInput}
    (other : input ≠ .finishCommit) :
    StartedOver commit made (Life.confirmedBy prov (provStep prov input) ++ log)
      (provStep prov input) reached where
  mirrored := started.mirrored.imp fun _ mirrored => mirrored.step input
  known confirmed waits := by
    -- The commit is new and logged, or it is the one that was confirmed before.
    cases before : prov.committing with
    | none =>
      refine List.mem_append_left _ ?_
      rw [Life.confirmedBy, before, waits]
      exact List.mem_singleton_self _
    | some earlier =>
      have same := provStep_committing before other
      rw [waits] at same
      obtain rfl := Option.some.inj same
      exact List.mem_append_right _ (started.known confirmed before)
  fresh := started.fresh
  goesOn further := by
    obtain ⟨waits, count⟩ := started.goesOn further
    exact ⟨provStep_committing waits other, count⟩

/-- The service goes on without storing anything. -/
theorem Overlaid.served (overlaid : Overlaid factory life commit made) {prov : Provision}
    {reached : Nat} {input : ProvInput} (other : input ≠ .finishCommit)
    (before : life.phase = .provisioning prov reached)
    (after : next.phase = .provisioning (provStep prov input) reached)
    (kept : next.flash = life.flash)
    (logged : next.log = Life.confirmedBy prov (provStep prov input) ++ life.log) :
    Overlaid factory next commit made where
  id := overlaid.id
  history := by
    rw [logged]
    -- At most one entry is new, and it tells nothing about writes.
    rcases confirmedBy_eq prov (provStep prov input) with none | ⟨confirmed, one, -⟩
    · rw [none]
      exact overlaid.history
    · rw [one]
      exact overlaid.history.cons (by simp)
  stored := by
    rw [kept]
    exact overlaid.stored
  works provisioned := by
    have works := overlaid.works provisioned
    rw [before] at works
    exact absurd trivial works
  service _ _ at_ := by
    rw [after] at at_
    obtain ⟨rfl, rfl⟩ := LifePhase.provisioning.inj at_
    rw [logged]
    exact (overlaid.service prov reached before).served other

/-- Before a write of a commit, the log tells of exactly the writes of that commit so far. -/
theorem Overlaid.earlier (overlaid : Overlaid factory life commit made) {prov : Provision}
    {reached : Nat} {confirmed : ProvCommit} (before : life.phase = .provisioning prov reached)
    (waits : prov.committing = some confirmed) (other : ProvCommit) {position : Nat}
    (later : 0 < position) :
    LifeEvent.wrote other position ∈ life.log ↔ other = confirmed ∧ position < reached := by
  have started := overlaid.service prov reached before
  rw [overlaid.history.wrote other position later]
  rcases Nat.eq_zero_or_pos reached with rfl | further
  · -- An earlier commit got no further than its first write.
    have least := started.fresh rfl
    constructor
    · rintro ⟨-, below⟩
      omega
    · rintro ⟨-, below⟩
      omega
  · obtain ⟨same, rfl⟩ := started.goesOn further
    obtain rfl := Option.some.inj (waits.symm.trans same)
    rfl

/-- What a write makes of the old overlay is the new one: the first write of a commit starts it, and
the others carry on with it. -/
theorem Overlaid.overlay (overlaid : Overlaid factory life commit made) {prov : Provision}
    {reached : Nat} {confirmed : ProvCommit} {write : NvsWrite}
    (before : life.phase = .provisioning prov reached) (waits : prov.committing = some confirmed)
    (among : (commitWrites confirmed)[reached]? = some write) :
    makeWrite (overFactory factory commit made) write =
      overFactory factory confirmed (reached + 1) := by
  have started := overlaid.service prov reached before
  rcases Nat.eq_zero_or_pos reached with rfl | further
  · have first : write = .str .wifiSsid confirmed.ssid := (Option.some.inj among).symm
    rw [first]
    exact overFactory_first confirmed (started.fresh rfl)
  · obtain ⟨same, rfl⟩ := started.goesOn further
    obtain rfl := Option.some.inj (waits.symm.trans same)
    exact overFactory_next among

/-- A log that tells of the writes of a commit so far tells of one more behind the next write. -/
theorem madeOf_write {log : List LifeEvent} {reached : Nat} (within : reached + 1 ≤ 4)
    (known : .confirmed commit ∈ log) (fits : commit.Fits)
    (earlier : ∀ other position, 0 < position →
      (.wrote other position ∈ log ↔ other = commit ∧ position < reached))
    (unprovisioned : ¬ (appMain factory).isProvisioned = true) :
    MadeOf factory commit (reached + 1) (.wrote commit reached :: log) where
  within := within
  known _ := List.mem_cons_of_mem _ known
  fits _ := fits
  wrote other position later := by
    rw [List.mem_cons, earlier other position later, LifeEvent.wrote.injEq]
    constructor
    · rintro (⟨rfl, rfl⟩ | ⟨rfl, below⟩)
      · exact ⟨rfl, by omega⟩
      · exact ⟨rfl, by omega⟩
    · rintro ⟨rfl, below⟩
      rcases Nat.lt_succ_iff_lt_or_eq.mp below with less | equal
      · exact .inr ⟨rfl, less⟩
      · exact .inl ⟨rfl, equal⟩
  untouched provisioned := absurd provisioned unprovisioned

/-- A write of a commit leaves a device that follows this commit. -/
theorem Overlaid.wrote (overlaid : Overlaid factory life commit made) {prov : Provision}
    {reached : Nat} {confirmed : ProvCommit} {write : NvsWrite}
    (before : life.phase = .provisioning prov reached) (waits : prov.committing = some confirmed)
    (among : (commitWrites confirmed)[reached]? = some write)
    (after : next.phase = .provisioning prov (reached + 1))
    (stored : next.flash.nvs = makeWrite life.flash.nvs write)
    (logged : next.log = .wrote confirmed reached :: life.log) :
    Overlaid factory next confirmed (reached + 1) := by
  obtain ⟨⟨nvs, mirrored⟩, known, -, -⟩ := overlaid.service prov reached before
  have serves : life.phase.Serves := by rw [before]; trivial
  have unprovisioned : ¬ (appMain factory).isProvisioned = true := fun provisioned =>
    overlaid.works provisioned serves
  refine ⟨overlaid.id, ?_, ?_, fun provisioned => absurd provisioned unprovisioned, ?_⟩
  · rw [logged]
    -- The service has confirmed what it mirrors, and that fits its buffers.
    exact madeOf_write (List.getElem?_eq_some_iff.mp among).1 (known confirmed waits)
      (mirrored.committing confirmed waits).1.fit
      (fun other _ later => overlaid.earlier before waits other later) unprovisioned
  · have written := List.mem_of_getElem? among
    rw [stored, ← overlaid.overlay before waits among, makeWrite_withoutCert written,
      overlaid.stored, ← makeWrite_withoutCert written]
  · intro other position at_
    rw [after] at at_
    obtain ⟨rfl, rfl⟩ := LifePhase.provisioning.inj at_
    rw [logged]
    exact
      { mirrored := ⟨nvs, mirrored⟩
        known := fun commit waits => List.mem_cons_of_mem _ (known commit waits)
        fresh := fun none => absurd none (Nat.succ_ne_zero _)
        goesOn := fun _ => ⟨waits, rfl⟩ }

/-- A boot waits for a phone with a service that has confirmed nothing yet. -/
theorem Overlaid.booted (overlaid : Overlaid factory life commit made) {found : Boot}
    (read : found = appMain life.flash.nvs)
    (kept : next.flash.nvs.withoutCert = life.flash.nvs.withoutCert)
    (logged : next.log = .booted found :: life.log)
    (after : ¬ next.phase.Serves ∨ found.isProvisioned = false ∧ ∃ sha256 drawn,
      next.phase = .provisioning (.start sha256 life.flash.nvs drawn) 0) :
    Overlaid factory next commit made := by
  have settings : found.settings = (appMain (overFactory factory commit made)).settings := by
    rw [read]
    exact settings_of_withoutCert overlaid.stored
  refine ⟨overlaid.id, ?_, kept.trans overlaid.stored, fun provisioned => ?_, ?_⟩
  · rw [logged]
    exact overlaid.history.cons (by simp)
  · -- A device that is provisioned in the factory has nothing written over that.
    refine after.resolve_right fun waits => ?_
    have none := overlaid.history.untouched provisioned
    rw [none] at settings
    have flags := congrArg Prod.fst settings
    rw [Boot.settings, waits.1] at flags
    exact Bool.noConfusion (flags.trans provisioned)
  · intro prov reached at_
    have waits := after.resolve_left (by rw [at_]; exact not_not_intro trivial)
    obtain ⟨unprovisioned, sha256, drawn, phase⟩ := waits
    rw [at_] at phase
    obtain ⟨rfl, rfl⟩ := LifePhase.provisioning.inj phase
    refine ⟨⟨_, mirrored_start sha256 life.flash.nvs drawn⟩, fun _ waits => ?_, fun _ => ?_,
      fun further => absurd further (Nat.lt_irrefl 0)⟩
    · cases waits
    · refine made_le_one overlaid.history.within overlaid.history.fits overlaid.id ?_
      rw [← unprovisioned]
      exact (congrArg Prod.fst settings).symm

end Commits

/-- A device without an id that can be read is never found provisioned. -/
theorem unprovisioned_of_noId {nvs : Nvs} (noId : nvsConfigGetDeviceId nvs 9 = none) :
    (appMain nvs).isProvisioned = false := by
  simp [appMain, noId]

/-- The device id is read alike if only the certificate differs. -/
theorem readId_of_withoutCert {first second : Nvs}
    (same : first.withoutCert = second.withoutCert) :
    nvsConfigGetDeviceId first 9 = nvsConfigGetDeviceId second 9 := by
  rw [nvsConfigGetDeviceId, nvsConfigGetStr, deviceId_of_withoutCert same]
  rfl

/-- No move gives a device an id. -/
theorem noId_moves (noId : nvsConfigGetDeviceId life.flash.nvs 9 = none)
    (move : LifeMoves fails life next) : nvsConfigGetDeviceId next.flash.nvs 9 = none := by
  cases move with
  | rests kept | booted _ _ _ kept => rw [readId_of_withoutCert kept, noId]
  | served _ _ _ _ _ _ kept | skipped _ _ kept => rw [kept, noId]
  | wrote prov reached commit write before waits among after written =>
    rw [nvsConfigGetDeviceId, nvsConfigGetStr, written,
      makeWrite_deviceId (List.mem_of_getElem? among)]
    exact noId
  | erased off after lost =>
    rw [lost]
    rfl

/-- A device that follows one commit goes on to follow one, unless it loses its id. -/
theorem Overlaid.moves {factory : Nvs} {commit : ProvCommit} {made : Nat}
    (overlaid : Overlaid factory life commit made) (succeeds : ¬ fails)
    (move : LifeMoves fails life next) :
    nvsConfigGetDeviceId next.flash.nvs 9 = none ∨
      ∃ commit made, Overlaid factory next commit made := by
  cases move with
  | rests kept logged phase => exact .inr ⟨commit, made, overlaid.silent kept phase logged⟩
  | served prov reached input other before after kept logged =>
    exact .inr ⟨commit, made, overlaid.served other before after kept logged⟩
  | wrote prov reached confirmed write before waits among after written logged =>
    -- From the first write of a commit on it is that one.
    exact .inr ⟨confirmed, reached + 1, overlaid.wrote before waits among after written logged⟩
  | skipped failed before kept logged => exact absurd failed succeeds
  | erased off after lost logged =>
    refine .inl ?_
    rw [lost]
    rfl
  | booted found off read kept logged after =>
    exact .inr ⟨commit, made, overlaid.booted read kept logged after⟩

/-- A device has no id that can be read, or follows one commit; its boots follow one commit. -/
structure FollowsCommit (factory : Nvs) (life : Life) : Prop where
  stored : nvsConfigGetDeviceId life.flash.nvs 9 = none ∨
    ∃ commit made, Overlaid factory life commit made
  boots : Justified (BootsOnCommit factory) life.log

/-- A boot finds the device provisioned only with what the writes of one commit have made. -/
theorem FollowsCommit.bootsOn {factory : Nvs} (follows : FollowsCommit factory life) :
    BootsOnCommit factory life.log (.booted (appMain life.flash.nvs)) := by
  intro provisioned
  rcases follows.stored with noId | ⟨commit, made, overlaid⟩
  · rw [unprovisioned_of_noId noId] at provisioned
    cases provisioned
  · exact ⟨commit, made, overlaid.history, settings_of_withoutCert overlaid.stored⟩

/-- Every move keeps this, unless it fails to write. -/
theorem FollowsCommit.moves {factory : Nvs} (follows : FollowsCommit factory life)
    (succeeds : ¬ fails) (move : LifeMoves fails life next) : FollowsCommit factory next := by
  constructor
  · rcases follows.stored with noId | ⟨commit, made, overlaid⟩
    · exact .inl (noId_moves noId move)
    · exact overlaid.moves succeeds move
  · -- Of the entries that a move logs, only a boot has to be justified.
    have boots := follows.boots
    cases move with
    | rests _ logged | skipped _ _ _ logged => rwa [logged]
    | served prov reached input other before after kept logged =>
      rw [logged, justified_append]
      · exact boots
      · intro entry among older
        obtain ⟨commit, rfl, -⟩ := mem_confirmedBy among
        trivial
    | wrote _ _ _ _ _ _ _ _ _ logged | erased _ _ _ logged =>
      rw [logged, justified_cons]
      exact ⟨trivial, boots⟩
    | booted found off read kept logged after =>
      rw [logged, justified_cons, read]
      exact ⟨follows.bootsOn, boots⟩

/-- No write of a commit fails; the power may be lost between any two of them. -/
def WritesSucceed (inputs : List LifeInput) : Prop := ∀ input ∈ inputs, input ≠ .write false

/-- Nothing is written over what the factory has stored. -/
theorem overlaid_start {factory : Nvs} (id : (nvsConfigGetDeviceId factory 9).isSome)
    (commit : ProvCommit) : Overlaid factory (.start factory) commit 0 where
  id := id
  history :=
    { within := by decide
      known := fun some => absurd some (Nat.lt_irrefl 0)
      fits := fun some => absurd some (Nat.lt_irrefl 0)
      wrote := fun other position _ =>
        iff_of_false List.not_mem_nil fun ⟨_, below⟩ => absurd below (Nat.not_lt_zero position)
      untouched := fun _ => rfl }
  stored := rfl
  works _ := not_false
  service _ _ at_ := by cases at_

theorem followsCommit_run (sha256 : Bytes → Bytes) (parses : Bytes → Bool) (factory : Nvs)
    {inputs : List LifeInput} (writes : WritesSucceed inputs) :
    FollowsCommit factory (lifeRun sha256 parses factory inputs) := by
  have initial : FollowsCommit factory (.start factory) := by
    refine ⟨?_, trivial⟩
    cases id : nvsConfigGetDeviceId factory 9 with
    | none => exact .inl id
    | some deviceId =>
      exact .inr ⟨⟨[], [], [], 0, .unset, .idle, [], []⟩, 0, overlaid_start (by rw [id]; rfl) _⟩
  exact Machine.invariant_run
    (fun life input holds succeeds =>
      moves_keep (fun _ _ follows => follows.moves succeeds) (lifeStep_moves life input) holds)
    initial (Machine.always_of_mem writes)

/-- In every run in which no write fails, a device that came without a Wi-Fi password is found
provisioned only with network and password of one commit, and with its address if the power lasted
for the third write. -/
theorem boots_on_commit (sha256 : Bytes → Bytes) (parses : Bytes → Bool) {factory : Nvs}
    (blank : nvsConfigGetWifiPassword factory 64 = none) {inputs : List LifeInput}
    (writes : WritesSucceed inputs) {newer older : List LifeEvent} {found : Boot}
    (log : (lifeRun sha256 parses factory inputs).log = newer ++ .booted found :: older)
    (provisioned : found.isProvisioned = true) :
    ∃ commit, .confirmed commit ∈ older ∧ found.ssid = some commit.ssid ∧
      found.password = some commit.psk ∧
      found.serverUrl = if .wrote commit 2 ∈ older then commit.host
        else nvsConfigGetServerUrl factory 128 := by
  have boots := (followsCommit_run sha256 parses factory writes).boots
  rw [log] at boots
  obtain ⟨commit, made, history, settings⟩ := boots.of_split provisioned
  obtain ⟨ssid, password, serverUrl, whole⟩ :=
    overFactory_boot factory history.within history.fits
  -- The password can only have come with the second write.
  have second : 1 < made := by
    have asked := (whole.mp ((congrArg Prod.fst settings).symm.trans provisioned)).2.2
    rw [password] at asked
    by_contra few
    rw [if_neg few] at asked
    rw [show (appMain factory).password = none from blank] at asked
    cases asked
  refine ⟨commit, history.known (by omega), ?_, ?_, ?_⟩
  · rw [if_pos (by omega)] at ssid
    exact (congrArg (·.2.1) settings).trans ssid
  · rw [if_pos second] at password
    exact (congrArg (·.2.2.1) settings).trans password
  · have third : LifeEvent.wrote commit 2 ∈ older ↔ 2 < made :=
      (history.wrote commit 2 (by decide)).trans (and_iff_right rfl)
    rw [if_congr third rfl rfl]
    exact (congrArg (·.2.2.2) settings).trans serverUrl

theorem cutOff_succeeds (psk : Bytes) (made : Nat) : WritesSucceed (cutOff psk made) := by
  intro input among
  simp only [cutOff, List.mem_append, List.mem_cons, List.mem_replicate, List.not_mem_nil,
    or_false] at among
  rcases among with ((rfl | rfl | rfl) | ⟨-, rfl⟩) | rfl | rfl <;> simp

/-- A device whose power is lost behind the second write, and what it reads then. -/
def halfWritten : Life := lifeRun id (fun _ => true) deviceNvs (cutOff [0x63] 2)

theorem boots_on_commit_sample :
    ∃ commit, .confirmed commit ∈ halfWritten.log.tail ∧
      (appMain halfWritten.flash.nvs).ssid = some commit.ssid ∧
      (appMain halfWritten.flash.nvs).password = some commit.psk ∧
      (appMain halfWritten.flash.nvs).serverUrl =
        if .wrote commit 2 ∈ halfWritten.log.tail then commit.host
        else nvsConfigGetServerUrl deviceNvs 128 := by
  have log : halfWritten.log =
      [] ++ .booted (appMain halfWritten.flash.nvs) :: halfWritten.log.tail := by decide +kernel
  exact boots_on_commit id (fun _ => true) (by decide) (cutOff_succeeds [0x63] 2) log
    (by decide +kernel)

/-- Network and password were both stored in the factory, or belong to one commit. -/
def OfOneSource (factory : Nvs) (older : List LifeEvent) (found : Boot) : Prop :=
  (found.ssid = (appMain factory).ssid ∧ found.password = (appMain factory).password) ∨
    ∃ commit, .confirmed commit ∈ older ∧ found.ssid = some commit.ssid ∧
      found.password = some commit.psk

/-- A commit whose first write is made over a password from the factory leaves its network with that
password. -/
theorem cutOff_mixes (sha256 : Bytes → Bytes) (parses : Bytes → Bool) {factory : Nvs}
    {password : Bytes} (id : (nvsConfigGetDeviceId factory 9).isSome)
    (stored : nvsConfigGetWifiPassword factory 64 = some password)
    (noSsid : nvsConfigGetWifiSsid factory 64 = none) (psk : Bytes) :
    ∃ found commit, (lifeRun sha256 parses factory (cutOff psk 1)).log =
        [.booted found, .wrote commit 0, .confirmed commit, .booted (appMain factory)] ∧
      found.isProvisioned = true ∧ found.ssid = some [0x61] ∧ found.password = some password ∧
      commit.psk = strncpyInto 64 psk := by
  have unprovisioned : (appMain factory).isProvisioned = false := by simp [appMain, noSsid]
  -- The service is started, and keeps what it is sent until the commit is confirmed.
  have waits : lifeStep sha256 parses (.start factory) (.powerOn plainBoot) =
      ⟨⟨factory, none⟩, .provisioning (.start sha256 factory 1) 0,
        [.booted (appMain factory)]⟩ := by
    simp [lifeStep, Life.start, Life.boot, Life.bootFrom, Life.countRestart, plainBoot,
      unprovisioned]
  let sent := provStep (.start sha256 factory 1) (.command (sampleCreds psk) 2)
  let confirmed := provStep sent (.command .confirmProvision 0)
  let commit : ProvCommit := ⟨[0x61], strncpyInto 64 psk, [0x62], 443, .unset, .idle, [], sent.log⟩
  let nvs := nvsConfigSetStr factory .wifiSsid [0x61]
  have fits : 0 < 1 → commit.Fits := fun _ =>
    ⟨Nat.le_add_left 1 62, List.length_take_le 63 _, Nat.le_add_left 1 126⟩
  obtain ⟨ssid, readPassword, -, whole⟩ := overFactory_boot factory (by decide : 1 ≤ 4) fits
  have provisioned : (appMain nvs).isProvisioned = true :=
    whole.mpr ⟨id, by rw [ssid]; rfl, by rw [readPassword, appMain, stored]; rfl⟩
  have restarts : lifeStep sha256 parses
      ⟨⟨nvs, none⟩, .off, [.wrote commit 0, .confirmed commit, .booted (appMain factory)]⟩
      (.powerOn plainBoot) = ⟨⟨nvs, none⟩, .operating (appMain nvs)
        (ykpWsInit parses (appMain nvs).sslCert) 0, [.booted (appMain nvs), .wrote commit 0,
          .confirmed commit, .booted (appMain factory)]⟩ := by
    simp [lifeStep, Life.boot, Life.bootFrom, Life.countRestart, Life.operate, plainBoot,
      provisioned]
  refine ⟨appMain nvs, commit, ?_, provisioned, ssid, readPassword.trans stored, rfl⟩
  unfold lifeRun cutOff
  simp only [List.cons_append, List.nil_append, List.replicate_one, Machine.run_cons, waits]
  exact congrArg Life.log restarts

/-- No run in which no write fails mixes the network of one source with the password of another,
exactly if a readable id and password from the factory come with a readable network from there. -/
theorem wifi_pair_whole_iff (sha256 : Bytes → Bytes) (parses : Bytes → Bool) (factory : Nvs) :
    (∀ inputs, WritesSucceed inputs → ∀ newer found older,
      (lifeRun sha256 parses factory inputs).log = newer ++ .booted found :: older →
        found.isProvisioned = true → OfOneSource factory older found) ↔
    ((nvsConfigGetDeviceId factory 9).isSome → (nvsConfigGetWifiPassword factory 64).isSome →
      (nvsConfigGetWifiSsid factory 64).isSome) := by
  constructor
  · intro unmixed id password
    obtain ⟨password, stored⟩ := Option.isSome_iff_exists.mp password
    by_contra noSsid
    rw [Option.not_isSome_iff_eq_none] at noSsid
    -- The phone sends another password than the one that is stored.
    obtain ⟨psk, short, other⟩ : ∃ psk : Bytes, strncpyInto 64 psk = psk ∧ psk ≠ password := by
      by_cases empty : password = []
      · exact ⟨[0x62], by decide, by rw [empty]; decide⟩
      · exact ⟨[], rfl, fun same => empty same.symm⟩
    obtain ⟨found, commit, log, provisioned, ssid, read, sent⟩ :=
      cutOff_mixes sha256 parses id stored noSsid psk
    rcases unmixed (cutOff psk 1) (cutOff_succeeds psk 1) [] found _ log provisioned with
      ⟨same, -⟩ | ⟨source, among, -, same⟩
    · -- The factory had no network to read.
      rw [ssid, appMain, noSsid] at same
      cases same
    · -- The only commit came with the password that was not written.
      simp only [List.mem_cons, reduceCtorEq, LifeEvent.confirmed.injEq, List.not_mem_nil,
        or_false, false_or] at among
      rw [read, among, sent, short] at same
      exact other (Option.some.inj same).symm
  · intro together inputs writes newer found older log provisioned
    have boots := (followsCommit_run sha256 parses factory writes).boots
    rw [log] at boots
    obtain ⟨commit, made, history, settings⟩ := boots.of_split provisioned
    obtain ⟨ssid, password, -, whole⟩ :=
      overFactory_boot factory history.within history.fits
    have readSsid : found.ssid = _ := (congrArg (·.2.1) settings).trans ssid
    have readPassword : found.password = _ := (congrArg (·.2.2.1) settings).trans password
    obtain ⟨id, -, asked⟩ := whole.mp ((congrArg Prod.fst settings).symm.trans provisioned)
    rcases Nat.lt_or_ge 1 made with both | few
    · -- Behind the second write both are those of the commit.
      rw [if_pos (by omega)] at readSsid
      rw [if_pos both] at readPassword
      exact .inr ⟨commit, history.known (by omega), readSsid, readPassword⟩
    · -- With the password from the factory, the device was provisioned when it left.
      rw [password, if_neg (by omega)] at asked
      have known := together id asked
      have leaves : (appMain factory).isProvisioned = true := by
        simp only [appMain, Bool.and_eq_true]
        exact ⟨⟨id, known⟩, asked⟩
      have none := history.untouched leaves
      rw [if_neg (by omega)] at readSsid readPassword
      exact .inl ⟨readSsid, readPassword⟩

end Ykp.Firmware
