import Ykp.Backend.Numbering

/-! What one session object writes over a whole run, number by number. -/

namespace Ykp.Backend

/-- Whether a device's session is a given session object. -/
def Server.holds (server : Server) (deviceId : JsString) (serial : Nat) : Bool :=
  (server.numbers deviceId).any fun numbers => numbers.1 = serial

/-- The packets an event writes under a session object of a device, if it takes a number of it. -/
def writtenUnder (crypto : ServerCrypto) (deviceId : JsString) (serial : Nat) (server : Server)
    (input : ServerInput) : Option (List Bytes) :=
  if takesNumber crypto deviceId server input && server.holds deviceId serial then
    some (sentBytes (History.newerThan server.log (serverStep crypto server input).log))
  else none

/-- What was written from a server on at each number taken, the first number first. -/
def writtenFrom (crypto : ServerCrypto) (deviceId : JsString) (serial : Nat) (server : Server)
    (inputs : List ServerInput) : List (List Bytes) :=
  (Machine.answers (serverStep crypto) (writtenUnder crypto deviceId serial) server inputs).filterMap
    id

/-- Numbers are taken one after the other, each carried by at most one packet. -/
def NumberedFrom : Nat → List (List Bytes) → Prop
  | _, [] => True
  | number, sent :: rest => Carry sent number ∧ NumberedFrom (number + 1) rest

/-- The number a session object of a device takes next. -/
def Server.nextNumber (server : Server) (deviceId : JsString) (serial : Nat) : Nat :=
  match server.numbers deviceId with
  | some (own, counter) => if own = serial then counter + 1 else 1
  | none => 1

/-- A device's session object is older than any still to come. -/
def OlderSession (deviceId : JsString) (server : Server) : Prop :=
  ∀ numbers ∈ server.numbers deviceId, numbers.1 < server.serial

/-- A session object that is not there, but would have come before, does not come back. -/
def Past (deviceId : JsString) (serial : Nat) (server : Server) : Prop :=
  serial < server.serial ∧ server.holds deviceId serial = false

/-- Under a session object that is not held nothing is written in one event. -/
theorem writtenUnder_absent {crypto : ServerCrypto} {deviceId : JsString} {serial : Nat}
    {server : Server} (absent : server.holds deviceId serial = false) (input : ServerInput) :
    writtenUnder crypto deviceId serial server input = none := by
  simp [writtenUnder, absent]

/-- The numbers of a device with a session. -/
theorem numbers_of_session {server : Server} {deviceId : JsString} {session : DeviceSession}
    (found : server.sessions deviceId = some session) :
    server.numbers deviceId = some (session.serial, session.packetCounter) := by
  rw [Server.numbers, found]
  rfl

/-- The next number of a session object in terms of what a device holds. -/
theorem nextNumber_of_numbers {server : Server} {deviceId : JsString} {own counter : Nat}
    (numbers : server.numbers deviceId = some (own, counter)) (serial : Nat) :
    server.nextNumber deviceId serial = (if own = serial then counter + 1 else 1) ∧
      server.holds deviceId serial = decide (own = serial) := by
  simp [Server.nextNumber, Server.holds, numbers]

theorem nextNumber_of_none {server : Server} {deviceId : JsString}
    (numbers : server.numbers deviceId = none) (serial : Nat) :
    server.nextNumber deviceId serial = 1 ∧ server.holds deviceId serial = false := by
  simp [Server.nextNumber, Server.holds, numbers]

/-- What a device holds decides the next number. -/
theorem nextNumber_same {before after : Server} {deviceId : JsString}
    (numbers : after.numbers deviceId = before.numbers deviceId) (serial : Nat) :
    after.nextNumber deviceId serial = before.nextNumber deviceId serial ∧
      after.holds deviceId serial = before.holds deviceId serial := by
  simp [Server.nextNumber, Server.holds, numbers]

/-- A session object that is not there takes one as its first number. -/
theorem nextNumber_absent {server : Server} {deviceId : JsString} {serial : Nat}
    (absent : server.holds deviceId serial = false) : server.nextNumber deviceId serial = 1 := by
  cases numbers : server.numbers deviceId with
  | none => exact (nextNumber_of_none numbers serial).1
  | some pair =>
    -- Another session object is held in its place.
    obtain ⟨next, holds⟩ := nextNumber_of_numbers numbers serial
    rw [next, if_neg (of_decide_eq_false (holds.symm.trans absent))]

/-- A session object that is held is older than those to come. -/
theorem OlderSession.held {deviceId : JsString} {server : Server}
    (older : OlderSession deviceId server) {serial : Nat}
    (held : server.holds deviceId serial = true) : serial < server.serial := by
  cases numbers : server.numbers deviceId with
  | none => exact absurd (held.symm.trans (nextNumber_of_none numbers serial).2) (by simp)
  | some pair =>
    have own := of_decide_eq_true ((nextNumber_of_numbers numbers serial).2.symm.trans held)
    exact own ▸ older pair numbers

/-- A session object that does not come back stays away. -/
theorem Past.step (crypto : ServerCrypto) {deviceId : JsString} {serial : Nat} {server : Server}
    (past : Past deviceId serial server) (input : ServerInput) :
    Past deviceId serial (serverStep crypto server input) := by
  obtain ⟨old, absent⟩ := past
  rcases serverStep_counts_or_keeps crypto deviceId server input with
    ⟨-, session, found, counts⟩ | ⟨-, keeps⟩
  · -- Counting keeps the session object that is held.
    have before := numbers_of_session found
    refine ⟨counts.serial ▸ old, ?_⟩
    rw [(nextNumber_of_numbers counts.numbers serial).2]
    exact (nextNumber_of_numbers before serial).2.symm.trans absent
  · cases keeps with
    | same numbers later =>
      exact ⟨Nat.lt_of_lt_of_le old later, (nextNumber_same numbers serial).2.trans absent⟩
    | gone numbers same => exact ⟨same ▸ old, (nextNumber_of_none numbers serial).2⟩
    -- A new session object is a later one.
    | fresh numbers next =>
      refine ⟨next ▸ Nat.lt_succ_of_lt old, ?_⟩
      rw [(nextNumber_of_numbers numbers serial).2]
      exact decide_eq_false (Nat.ne_of_gt old)

/-- A device's session object stays older than those to come. -/
theorem OlderSession.step (crypto : ServerCrypto) {deviceId : JsString} {server : Server}
    (older : OlderSession deviceId server) (input : ServerInput) :
    OlderSession deviceId (serverStep crypto server input) := by
  rcases serverStep_counts_or_keeps crypto deviceId server input with
    ⟨-, session, found, counts⟩ | ⟨-, keeps⟩
  · have before := older (session.serial, session.packetCounter) (numbers_of_session found)
    intro numbers held
    rw [counts.numbers] at held
    obtain rfl := Option.some.inj held
    exact counts.serial ▸ before
  · intro numbers held
    cases keeps with
    | same same later =>
      exact Nat.lt_of_lt_of_le (older numbers (same ▸ held)) later
    | gone none _ => cases none.symm.trans held
    -- The new session object has the number in front of those to come.
    | fresh fresh next =>
      obtain rfl := Option.some.inj (fresh.symm.trans held)
      exact next ▸ Nat.lt_succ_self _

/-- What one event writes stands in front of what the rest writes. -/
theorem writtenFrom_cons (crypto : ServerCrypto) (deviceId : JsString) (serial : Nat)
    (server : Server) (input : ServerInput) (rest : List ServerInput) :
    writtenFrom crypto deviceId serial server (input :: rest) =
      (writtenUnder crypto deviceId serial server input).toList ++
        writtenFrom crypto deviceId serial (serverStep crypto server input) rest := by
  unfold writtenFrom
  rw [Machine.answers_cons]
  -- An event that takes no number leaves nothing in front.
  cases writtenUnder crypto deviceId serial server input <;> rfl

/-- A session object that is not there before an event has one as its first number behind it. -/
theorem nextNumber_absent_step (crypto : ServerCrypto) {deviceId : JsString} {serial : Nat}
    {server : Server} (absent : server.holds deviceId serial = false) (input : ServerInput) :
    (serverStep crypto server input).nextNumber deviceId serial = 1 := by
  rcases serverStep_counts_or_keeps crypto deviceId server input with
    ⟨-, session, found, counts⟩ | ⟨-, keeps⟩
  · have before := numbers_of_session found
    have other := of_decide_eq_false ((nextNumber_of_numbers before serial).2.symm.trans absent)
    rw [(nextNumber_of_numbers counts.numbers serial).1, if_neg other]
  · cases keeps with
    | same numbers _ => exact (nextNumber_same numbers serial).1.trans (nextNumber_absent absent)
    | gone numbers _ => exact (nextNumber_of_none numbers serial).1
    -- A new session object has not counted yet, be it the one in question or not.
    | fresh numbers _ => exact (nextNumber_of_numbers numbers serial).1.trans (ite_self 1)

/-- Under a session object that does not come back nothing is written. -/
theorem writtenFrom_past {crypto : ServerCrypto} {deviceId : JsString} {serial : Nat}
    {server : Server} (past : Past deviceId serial server) (inputs : List ServerInput) :
    writtenFrom crypto deviceId serial server inputs = [] := by
  -- No event of the run brings the session object back.
  induction inputs generalizing server with
  | nil => rfl
  | cons input rest ih =>
    rw [writtenFrom_cons, writtenUnder_absent past.2, ih (past.step crypto input)]
    rfl

/-- From every server on, a session object takes its next numbers in order. -/
theorem writtenFrom_numbered {crypto : ServerCrypto} {deviceId : JsString} {server : Server}
    (older : OlderSession deviceId server) (serial : Nat) (inputs : List ServerInput) :
    NumberedFrom (server.nextNumber deviceId serial)
      (writtenFrom crypto deviceId serial server inputs) := by
  -- Event by event, the rest being numbered from the server that the event leaves behind.
  induction inputs generalizing server with
  | nil => trivial
  | cons input rest ih =>
    have later := ih (older.step crypto input)
    rw [writtenFrom_cons]
    cases held : server.holds deviceId serial with
    | false =>
      -- The session object is not there: whatever comes next, its first number is one.
      rw [writtenUnder_absent held, nextNumber_absent held]
      exact nextNumber_absent_step crypto held input ▸ later
    | true =>
      rcases serverStep_counts_or_keeps crypto deviceId server input with
        ⟨takes, session, found, counts⟩ | ⟨spares, keeps⟩
      · -- The event takes the next number, and the rest goes on behind it.
        have before := numbers_of_session found
        have own := of_decide_eq_true ((nextNumber_of_numbers before serial).2.symm.trans held)
        obtain ⟨newer, logged, carry⟩ := counts.sent
        have wrote : writtenUnder crypto deviceId serial server input = some (sentBytes newer) := by
          unfold writtenUnder
          rw [takes, held, logged, History.newerThan_append]
          rfl
        rw [(nextNumber_of_numbers counts.numbers serial).1, if_pos own] at later
        rw [wrote, (nextNumber_of_numbers before serial).1, if_pos own]
        exact ⟨carry, later⟩
      · have wrote : writtenUnder crypto deviceId serial server input = none := by
          simp [writtenUnder, spares]
        rw [wrote]
        have old : serial < server.serial := older.held held
        -- A session object that is removed or replaced does not come back.
        cases keeps with
        | same numbers _ => exact (nextNumber_same numbers serial).1 ▸ later
        | gone numbers same =>
          rw [writtenFrom_past ⟨same ▸ old, (nextNumber_of_none numbers serial).2⟩]
          trivial
        | fresh numbers next =>
          have absent := (nextNumber_of_numbers numbers serial).2.trans
            (decide_eq_false (Nat.ne_of_gt old))
          rw [writtenFrom_past ⟨next ▸ Nat.lt_succ_of_lt old, absent⟩]
          trivial

/-- What a session object wrote at each number it took since the server's start. -/
def written (crypto : ServerCrypto) (deviceId : JsString) (serial : Nat)
    (inputs : List ServerInput) : List (List Bytes) :=
  writtenFrom crypto deviceId serial startServer inputs

/-- Every session object numbers its packets from one on. -/
theorem written_numbered (crypto : ServerCrypto) (deviceId : JsString) (serial : Nat)
    (inputs : List ServerInput) : NumberedFrom 1 (written crypto deviceId serial inputs) := by
  have older : OlderSession deviceId startServer := fun _ held => by cases held
  exact writtenFrom_numbered older serial inputs

/-- At each position of the numbers taken stands what carries the number. -/
theorem NumberedFrom.carries {number : Nat} {taken : List (List Bytes)}
    (numbered : NumberedFrom number taken) {position : Nat} {sent : List Bytes}
    (at_ : taken[position]? = some sent) : Carry sent (number + position) := by
  -- Each position further on is one number further on.
  induction taken generalizing number position with
  | nil => cases at_
  | cons first rest ih =>
    cases position with
    | zero => exact Option.some.inj at_ ▸ numbered.1
    | succ position => exact Nat.succ_add_eq_add_succ number position ▸ ih numbered.2 at_

/-- The ids that are written increase, and are among the numbers taken. -/
theorem NumberedFrom.sublist {number : Nat} {taken : List (List Bytes)}
    (numbered : NumberedFrom number taken) :
    (taken.flatten.map packetIdOf).Sublist (List.range' number taken.length) := by
  induction taken generalizing number with
  | nil => exact List.Sublist.slnil
  | cons sent rest ih =>
    obtain ⟨⟨single, carries⟩, later⟩ := numbered
    rw [List.length_cons, List.range'_succ, List.flatten_cons, List.map_append]
    -- The number is carried by the packet that leaves, or skipped.
    match sent with
    | [] => exact (ih later).cons number
    | [raw] => exact carries raw (by simp) ▸ (ih later).cons_cons _
    | _ :: _ :: _ => simp at single

end Ykp.Backend
