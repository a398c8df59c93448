import Mathlib.Data.List.TakeDrop
import Ykp.Firmware.ProvisionCommit
import Ykp.Firmware.ProvisionSteps

/-! What the next boot reads back of the settings a phone sent, whatever was stored before. -/

namespace Ykp.Firmware

open History

/-- The network and password of an event that brings them. -/
def ProvEvent.wifi? : ProvEvent → Option (Bytes × Bytes)
  | .wifiSent ssid psk => some (ssid, psk)
  | _ => none

/-- The server of an event that brings one. -/
def ProvEvent.host? : ProvEvent → Option Bytes
  | .serverSent host _ => some host
  | _ => none

/-- What the phone sent last, or nothing. -/
def sentWifi (log : List ProvEvent) : Bytes × Bytes := (log.findSome? ProvEvent.wifi?).getD ([], [])

def sentHost (log : List ProvEvent) : Bytes := (log.findSome? ProvEvent.host?).getD []

/-- The events since the session was cleared. -/
def sinceCleared (log : List ProvEvent) : List ProvEvent := since (· == .cleared) log

/-- What the phone sent last since the session was cleared. -/
def keptWifi (log : List ProvEvent) : Option (Bytes × Bytes) :=
  (sinceCleared log).findSome? ProvEvent.wifi?

def keptHost (log : List ProvEvent) : Option Bytes := (sinceCleared log).findSome? ProvEvent.host?

/-- A network and its password, cut to their buffers. -/
def cutWifi (wifi : Bytes × Bytes) : Bytes × Bytes := (wifi.1.take 63, wifi.2.take 63)

/-- The next boot finds the device provisioned and reads back what the phone sent, and the certificate
that was checked if it was the one that was accepted. -/
structure SurvivesReboot (nvs : Nvs) (commit : ProvCommit) : Prop where
  isProvisioned : (appMain nvs).isProvisioned = true
  ssid : (appMain nvs).ssid = some (sentWifi commit.history).1
  password : (appMain nvs).password = some (sentWifi commit.history).2
  host : (appMain nvs).serverUrl = sentHost commit.history
  sslCert : commit.sslRes = .caOk → (appMain nvs).sslCert = some commit.checkedCert

/-- The commit can be read back: a device id was stored before and fits; network, password and server
were sent since the session was cleared, unless they are empty, and fit; and an accepted certificate
fits and is what the buffer holds by then, or what was stored before if the buffer is empty. -/
structure ReadsBack (nvs : Nvs) (commit : ProvCommit) (cert : Bytes) : Prop where
  deviceId : ∃ deviceId, nvs.str .deviceId = some deviceId ∧ deviceId.length ≤ 8
  wifi : sentWifi commit.history = ([], []) ∨ (keptWifi commit.history).isSome ∧
    (sentWifi commit.history).1.length ≤ 63 ∧ (sentWifi commit.history).2.length ≤ 63
  host : sentHost commit.history = [] ∨
    (keptHost commit.history).isSome ∧ (sentHost commit.history).length ≤ 127
  sslCert : commit.sslRes = .caOk → commit.checkedCert.length ≤ 2047 ∧
    if cert = [] then nvs.str .sslCert = some commit.checkedCert else cert = commit.checkedCert

/-- The settings are what was sent since the session was cleared, cut to their buffers. -/
structure Mirrors (ssid psk host : Bytes) (log : List ProvEvent) : Prop where
  wifi : (ssid, psk) = ((keptWifi log).map cutWifi).getD ([], [])
  host : host = ((keptHost log).map (·.take 127)).getD []

/-- What the service keeps of the settings, and what it writes of them. -/
structure Mirrored (nvs : Nvs) (prov : Provision) : Prop where
  temp : Mirrors prov.core.temp.ssid prov.core.temp.psk prov.core.temp.host prov.log
  committing : ∀ commit, prov.core.committing = some commit →
    Mirrors commit.ssid commit.psk commit.host commit.history ∧ prov.core.committed = none
  committed : ∀ commit cert, prov.core.committed = some (commit, cert) →
    Mirrors commit.ssid commit.psk commit.host commit.history ∧
      prov.core.nvs = confirmWrites nvs commit cert
  untouched : prov.core.committed = none → prov.core.nvs = nvs

section Log

variable {log : List ProvEvent} {event : ProvEvent}

/-- An entry that does not clear the session belongs to the period that lasts. -/
theorem sinceCleared_cons (inside : event ≠ .cleared) :
    sinceCleared (event :: log) = event :: sinceCleared log :=
  since_cons_inside log (beq_eq_false_iff_ne.mpr inside)

theorem sinceCleared_cleared : sinceCleared (.cleared :: log) = [] :=
  since_cons_boundary log (beq_self_eq_true _)

/-- What was sent since the session was cleared was sent last of all. -/
theorem findSome?_since {α : Type*} {pick : ProvEvent → Option α} {value : α}
    (kept : (sinceCleared log).findSome? pick = some value) : log.findSome? pick = some value := by
  -- The period that lasts is the newest part of the log.
  have whole : log = sinceCleared log ++ log.dropWhile fun event => !(event == .cleared) :=
    (List.takeWhile_append_dropWhile ..).symm
  rw [whole, List.findSome?_append, kept]
  rfl

/-- A newer entry decides what was sent, if it brings anything. -/
theorem keptWifi_cons (inside : event ≠ .cleared) :
    keptWifi (event :: log) = event.wifi?.or (keptWifi log) := by
  rw [keptWifi, sinceCleared_cons inside, List.findSome?_cons]
  cases event.wifi? <;> rfl

theorem keptHost_cons (inside : event ≠ .cleared) :
    keptHost (event :: log) = event.host?.or (keptHost log) := by
  rw [keptHost, sinceCleared_cons inside, List.findSome?_cons]
  cases event.host? <;> rfl

/-- Stages of a validation bring nothing. -/
theorem Mirrors.append_stages {ssid psk host : Bytes} (mirrors : Mirrors ssid psk host log)
    {newer : List ProvEvent} (stages : ∀ event ∈ newer, event.IsStage) :
    Mirrors ssid psk host (newer ++ log) := by
  -- The stages are put on top one by one.
  induction newer with
  | nil => exact mirrors
  | cons event rest ih =>
    have before := ih fun other member => stages other (List.mem_cons_of_mem _ member)
    have stage := stages event List.mem_cons_self
    have plain : event ≠ .cleared ∧ event.wifi? = none ∧ event.host? = none := by
      cases event with
      | copied copies => exact ⟨nofun, rfl, rfl⟩
      | wifiPassed config copies => exact ⟨nofun, rfl, rfl⟩
      | sslPassed copies => exact ⟨nofun, rfl, rfl⟩
      | udpPassed copies => exact ⟨nofun, rfl, rfl⟩
      | _ => exact False.elim stage
    refine ⟨?_, ?_⟩
    · rw [List.cons_append, keptWifi_cons plain.1, plain.2.1]
      exact before.wifi
    · rw [List.cons_append, keptHost_cons plain.1, plain.2.2]
      exact before.host

/-- A cleared session mirrors that nothing was sent since. -/
theorem mirrors_cleared : Mirrors [] [] [] (.cleared :: log) := by
  constructor
  · rw [keptWifi, sinceCleared_cleared]
    rfl
  · rw [keptHost, sinceCleared_cleared]
    rfl

end Log

variable {nvs : Nvs} {prov : Provision}

/-- The settings of a service mirror what was sent. -/
def Provision.MirrorsSent (prov : Provision) : Prop :=
  Mirrors prov.core.temp.ssid prov.core.temp.psk prov.core.temp.host prov.log

/-- A network that is received is kept, cut to its buffers. -/
theorem Provision.MirrorsSent.putWifi (mirrors : prov.MirrorsSent) (ssid psk : Bytes) :
    (prov.putWifi ssid psk).MirrorsSent := by
  have inside : ProvEvent.wifiSent (cString ssid) (cString psk) ≠ .cleared := nofun
  constructor
  · exact congrArg (fun kept => (Option.map cutWifi kept).getD ([], []))
      (keptWifi_cons inside).symm
  · exact mirrors.host.trans (congrArg (fun kept => (Option.map (·.take 127) kept).getD [])
      (keptHost_cons inside).symm)

/-- A server that is received is kept, cut to its buffer. -/
theorem Provision.MirrorsSent.putServer (mirrors : prov.MirrorsSent) (host : Bytes) (port : Int)
    (uport : Option Int) (nonce : Nat) : (prov.putServer host port uport nonce).MirrorsSent := by
  have inside : ProvEvent.serverSent (cString host) (portOf port) ≠ .cleared := nofun
  constructor
  · exact mirrors.wifi.trans (congrArg (fun kept => (Option.map cutWifi kept).getD ([], []))
      (keptWifi_cons inside).symm)
  · exact congrArg (fun kept => (Option.map (·.take 127) kept).getD [])
      (keptHost_cons inside).symm

/-- While commands are taken, no commit is being written and none is written. -/
theorem takesCommands_iff :
    prov.takesCommands = true ↔ prov.committing = none ∧ prov.committed = none := by
  rw [Provision.takesCommands, Bool.and_eq_true, Option.isNone_iff_eq_none,
    Option.isNone_iff_eq_none]

/-- A step that changes nothing of the commits keeps the mirror if the settings do. -/
theorem Mirrored.of_same (mirrored : Mirrored nvs prov) {next : Provision}
    (temp : next.MirrorsSent) (committing : next.core.committing = prov.core.committing)
    (committed : next.core.committed = prov.core.committed) (stored : next.core.nvs = prov.core.nvs) :
    Mirrored nvs next := by
  refine ⟨temp, ?_, ?_, ?_⟩
  · rw [committing, committed]
    exact mirrored.committing
  · rw [committed, stored]
    exact mirrored.committed
  · rw [committed, stored]
    exact mirrored.untouched

/-- The mirror is kept by every event. -/
theorem Mirrored.step (mirrored : Mirrored nvs prov) (input : ProvInput) :
    Mirrored nvs (provStep prov input) := by
  -- Settings change with what is sent and cleared; commits are taken, written and then stay.
  cases provStep_moves prov input with
  | quiet newer logged stages same =>
    refine mirrored.of_same ?_ (by rw [same]) (by rw [same]) (by rw [same])
    rw [Provision.MirrorsSent, same, logged]
    exact mirrored.temp.append_stages stages
  | cleared logged changed =>
    refine mirrored.of_same ?_ (by rw [changed]) (by rw [changed]) (by rw [changed])
    rw [Provision.MirrorsSent, changed, logged]
    exact mirrors_cleared
  | subscribed ready logged changed =>
    refine mirrored.of_same ?_ (by rw [changed]) (by rw [changed]) (by rw [changed])
    rw [Provision.MirrorsSent, changed, logged]
    exact mirrored.temp
  | wifi free ssid psk logged changed =>
    refine mirrored.of_same ?_ (by rw [changed]; rfl) (by rw [changed]; rfl) (by rw [changed]; rfl)
    rw [Provision.MirrorsSent, changed, logged]
    exact Provision.MirrorsSent.putWifi mirrored.temp ssid psk
  | server free host port uport nonce logged changed =>
    refine mirrored.of_same ?_ (by rw [changed]; rfl) (by rw [changed]; rfl) (by rw [changed]; rfl)
    rw [Provision.MirrorsSent, changed, logged]
    exact Provision.MirrorsSent.putServer mirrored.temp host port uport nonce
  | creds free ssid psk host port uport nonce logged changed =>
    refine mirrored.of_same ?_ (by rw [changed]; rfl) (by rw [changed]; rfl) (by rw [changed]; rfl)
    rw [Provision.MirrorsSent, changed, logged]
    exact (Provision.MirrorsSent.putWifi mirrored.temp ssid psk).putServer host port uport nonce
  | confirmed free logged changed =>
    -- The copies are taken from the settings as they are, and so mirror the same history.
    obtain ⟨-, unwritten⟩ := takesCommands_iff.mp free
    refine ⟨?_, fun commit writing => ?_, ?_, ?_⟩
    · rw [changed, logged]
      exact mirrored.temp
    · rw [changed] at writing
      obtain rfl := Option.some.inj writing
      exact ⟨mirrored.temp, by rw [changed]; exact unwritten⟩
    · rw [changed]
      exact mirrored.committed
    · rw [changed]
      exact mirrored.untouched
  | finished commit waits logged changed =>
    obtain ⟨mirrors, unwritten⟩ := mirrored.committing commit waits
    have stored : prov.nvs = nvs := mirrored.untouched unwritten
    refine ⟨?_, fun _ writing => ?_, fun other cert written => ?_, fun none => ?_⟩
    · rw [changed, logged]
      have inside : ProvEvent.committed commit.found commit.ssid commit.psk commit.host
          commit.port ≠ .cleared := nofun
      constructor
      · exact mirrored.temp.wifi.trans (congrArg
          (fun kept => (Option.map cutWifi kept).getD ([], [])) (keptWifi_cons inside).symm)
      · exact mirrored.temp.host.trans (congrArg
          (fun kept => (Option.map (·.take 127) kept).getD []) (keptHost_cons inside).symm)
    · rw [changed] at writing
      cases writing
    · rw [changed] at written ⊢
      obtain ⟨rfl, rfl⟩ := Prod.mk.inj (Option.some.inj written)
      refine ⟨mirrors, ?_⟩
      rw [← stored]
      rfl
    · rw [changed] at none
      cases none

/-- What is kept of a value, cut, is what was sent exactly when that is blank, or is kept and is not
cut. -/
theorem cut_kept_iff {α : Type*} {cut : α → α} {short : α → Prop} {blank sent : α}
    {kept : Option α} (whole : ∀ value, cut value = value ↔ short value)
    (small : short blank) (last : ∀ value, kept = some value → sent = value) :
    (kept.map cut).getD blank = sent ↔ sent = blank ∨ kept.isSome ∧ short sent := by
  -- Nothing kept is read as blank; what is kept is what was sent, and only cutting can change it.
  cases kept with
  | none => simp [eq_comm]
  | some value =>
    obtain rfl := last value rfl
    rw [Option.map_some, Option.getD_some, whole]
    refine ⟨fun fits => .inr ⟨rfl, fits⟩, ?_⟩
    rintro (rfl | ⟨-, fits⟩)
    · exact small
    · exact fits

theorem cutWifi_eq_iff (wifi : Bytes × Bytes) :
    cutWifi wifi = wifi ↔ wifi.1.length ≤ 63 ∧ wifi.2.length ≤ 63 := by
  rw [cutWifi, Prod.ext_iff, List.take_eq_self_iff, List.take_eq_self_iff]

/-- The stored network is what was sent exactly when it was sent since the session was cleared and
fits, unless it is blank. -/
theorem Mirrors.wifi_iff {ssid psk host : Bytes} {log : List ProvEvent}
    (mirrors : Mirrors ssid psk host log) :
    (ssid, psk) = sentWifi log ↔ sentWifi log = ([], []) ∨ (keptWifi log).isSome ∧
      (sentWifi log).1.length ≤ 63 ∧ (sentWifi log).2.length ≤ 63 := by
  rw [mirrors.wifi]
  refine cut_kept_iff cutWifi_eq_iff (by simp) fun value kept => ?_
  rw [sentWifi, findSome?_since kept]
  rfl

theorem Mirrors.host_iff {ssid psk host : Bytes} {log : List ProvEvent}
    (mirrors : Mirrors ssid psk host log) :
    host = sentHost log ↔
      sentHost log = [] ∨ (keptHost log).isSome ∧ (sentHost log).length ≤ 127 := by
  rw [mirrors.host]
  refine cut_kept_iff (fun _ => List.take_eq_self_iff _) (by simp) fun value kept => ?_
  rw [sentHost, findSome?_since kept]
  rfl

/-- The settings that are stored fit into the buffers they are read into. -/
theorem Mirrors.fit {ssid psk host : Bytes} {log : List ProvEvent}
    (mirrors : Mirrors ssid psk host log) :
    ssid.length ≤ 63 ∧ psk.length ≤ 63 ∧ host.length ≤ 127 := by
  have wifi := mirrors.wifi
  have server := mirrors.host
  -- Nothing is kept, or what was sent is kept as far as its buffer goes.
  refine ⟨?_, ?_, ?_⟩
  · rw [(Prod.mk.inj wifi).1]
    cases keptWifi log with
    | none => exact Nat.zero_le 63
    | some kept => exact List.length_take_le 63 kept.1
  · rw [(Prod.mk.inj wifi).2]
    cases keptWifi log with
    | none => exact Nat.zero_le 63
    | some kept => exact List.length_take_le 63 kept.2
  · rw [server]
    cases keptHost log with
    | none => exact Nat.zero_le 127
    | some kept => exact List.length_take_le 127 kept

/-- What is stored under each key once a commit is written. -/
theorem confirmWrites_str (nvs : Nvs) (commit : ProvCommit) (cert : Bytes) :
    (confirmWrites nvs commit cert).str .deviceId = nvs.str .deviceId ∧
      (confirmWrites nvs commit cert).str .wifiSsid = some commit.ssid ∧
      (confirmWrites nvs commit cert).str .wifiPassword = some commit.psk ∧
      (confirmWrites nvs commit cert).str .serverUrl = some commit.host ∧
      (commit.sslRes = .caOk → (confirmWrites nvs commit cert).str .sslCert =
        if cert = [] then nvs.str .sslCert else some cert) := by
  unfold confirmWrites
  dsimp only
  -- The certificate is written or not; the other keys are written in either case.
  split
  · rename_i written
    have received : cert ≠ [] := List.length_pos_iff.mp written.2
    simp [received]
  · rename_i unwritten
    refine ⟨by simp, by simp, by simp, by simp, fun accepted => ?_⟩
    have absent : cert = [] := by simpa [accepted] using unwritten
    simp [absent]

/-- A written commit survives the reboot exactly when it can be read back. -/
theorem survivesReboot_iff {commit : ProvCommit}
    (mirrors : Mirrors commit.ssid commit.psk commit.host commit.history) (cert : Bytes) :
    SurvivesReboot (confirmWrites nvs commit cert) commit ↔ ReadsBack nvs commit cert := by
  obtain ⟨deviceId, wifiSsid, wifiPassword, serverUrl, sslCert⟩ :=
    confirmWrites_str nvs commit cert
  obtain ⟨shortSsid, shortPsk, shortHost⟩ := mirrors.fit
  -- Network, password and server always fit, so they are read as they were written.
  have ssid : (appMain (confirmWrites nvs commit cert)).ssid = some commit.ssid :=
    nvsConfigGetStr_eq_some.mpr ⟨wifiSsid, by omega⟩
  have password : (appMain (confirmWrites nvs commit cert)).password = some commit.psk :=
    nvsConfigGetStr_eq_some.mpr ⟨wifiPassword, by omega⟩
  have host : (appMain (confirmWrites nvs commit cert)).serverUrl = commit.host := by
    have read : nvsConfigGetStr (confirmWrites nvs commit cert) .serverUrl 128 = some commit.host :=
      nvsConfigGetStr_eq_some.mpr ⟨serverUrl, by omega⟩
    simp only [appMain, nvsConfigGetServerUrl, read, Option.getD_some]
  -- The boot check comes down to the one key that the commit does not write.
  have provisioned : (appMain (confirmWrites nvs commit cert)).isProvisioned = true ↔
      ∃ id, nvs.str .deviceId = some id ∧ id.length ≤ 8 := by
    have known : (nvsConfigGetDeviceId (confirmWrites nvs commit cert) 9).isSome ↔
        ∃ id, nvs.str .deviceId = some id ∧ id.length ≤ 8 := by
      rw [Option.isSome_iff_exists]
      refine exists_congr fun id => ?_
      rw [nvsConfigGetDeviceId, nvsConfigGetStr_eq_some, deviceId]
      exact and_congr_right fun _ => Nat.add_le_add_iff_right
    have wifi : nvsConfigGetWifiSsid (confirmWrites nvs commit cert) 64 = some commit.ssid := ssid
    have pass : nvsConfigGetWifiPassword (confirmWrites nvs commit cert) 64 = some commit.psk :=
      password
    simp only [appMain, wifi, pass, Option.isSome_some, Bool.and_true]
    exact known
  -- Behind the certificate stands what was written now, or else what was stored before.
  have certificate (accepted : commit.sslRes = .caOk) :
      (appMain (confirmWrites nvs commit cert)).sslCert = some commit.checkedCert ↔
        commit.checkedCert.length ≤ 2047 ∧
          if cert = [] then nvs.str .sslCert = some commit.checkedCert
          else cert = commit.checkedCert := by
    rw [appMain, nvsConfigGetStr_eq_some, sslCert accepted, and_comm]
    refine and_congr Nat.add_le_add_iff_right ?_
    split
    · exact Iff.rfl
    · exact Option.some_inj
  have wifi := mirrors.wifi_iff
  have server := mirrors.host_iff
  constructor
  · intro survives
    refine ⟨provisioned.mp survives.isProvisioned, wifi.mp (Prod.ext ?_ ?_), server.mp ?_,
      fun accepted => (certificate accepted).mp (survives.sslCert accepted)⟩
    · exact Option.some.inj (ssid.symm.trans survives.ssid)
    · exact Option.some.inj (password.symm.trans survives.password)
    · exact host.symm.trans survives.host
  · intro reads
    have sent := wifi.mpr reads.wifi
    refine ⟨provisioned.mpr reads.deviceId, ?_, ?_, host.trans (server.mpr reads.host),
      fun accepted => (certificate accepted).mpr (reads.sslCert accepted)⟩
    · exact ssid.trans (congrArg some (congrArg Prod.fst sent))
    · exact password.trans (congrArg some (congrArg Prod.snd sent))

/-- A configuration in which only a device id is stored. -/
def deviceNvs : Nvs := nvsConfigSetStr emptyNvs .deviceId [0x64]

/-- The commit of a run that writes one. -/
def writtenCommit (nvs : Nvs) (psk : Bytes)
    (written : (provRun id nvs 1 (provisions psk)).committed.isSome) : ProvCommit :=
  ((provRun id nvs 1 (provisions psk)).committed.get written).1

end Ykp.Firmware
