import Ykp.Firmware.LegacyUdp

/-! What one turn of the UDP server can do: in front of a datagram, and once it passed the checks. -/

namespace Ykp.Firmware

open LittleEndian

/-- The opcodes that are answered. -/
def answers (opcode : UInt8) : Bool := opcode == cmdOn || opcode == cmdOff || opcode == cmdState

/-- The IV of a session id and a counter. -/
def udpIv (sessionId counter : UInt32) : Bytes :=
  writeWord sessionId ++ writeWord counter ++ [0, 0, 0, 0]

/-- A datagram that passes every check: the server in front of it, its opcode, and whether a reply
to it can be sealed. -/
structure Acceptance where
  front : UdpServer
  rx : Bytes
  opcode : UInt8
  answered : Bool

/-- The datagram of an input, if it passes every check. -/
def UdpServer.accepts (gcm : AesGcm) (server : UdpServer) : UdpInput → Option Acceptance
  | .elsewhere _ => none
  | .datagram bytes env =>
    (server.letIn env).bind fun front =>
      (front.opened gcm env (bytes.take udpRxSize)).map fun opcode =>
        ⟨front, bytes.take udpRxSize, opcode, answers opcode && env.encryptOk⟩

/-- The session id that an input which comes late makes the server draw. -/
def UdpServer.draws (server : UdpServer) : UdpInput → Option UInt32
  | .elsewhere _ => none
  | .datagram _ env =>
    if 300000 < env.nowMs - server.lastActivityMs then some env.espRandom else none

/-- A server that only answered pings since. -/
structure UdpServer.Idles (before after : UdpServer) : Prop where
  session : after.currentSessionId = before.currentSessionId
  lastRx : after.lastAppRxCounter = before.lastAppRxCounter
  nextTx : after.esp32TxCounter = before.esp32TxCounter
  log : ∃ pongs, after.log = pongs ++ before.log ∧ ∀ event ∈ pongs, ∃ ack, event = .ponged ack

/-- A server that only started a session since. -/
structure UdpServer.Renews (before after : UdpServer) : Prop where
  lastRx : after.lastAppRxCounter = 0
  nextTx : after.esp32TxCounter = before.esp32TxCounter
  log : after.log = .expired after.currentSessionId :: before.log

/-- What can have happened by the time the datagram of an input is looked at. -/
def UdpServer.Fronts (server : UdpServer) (input : UdpInput) (front : UdpServer) : Prop :=
  server.Idles front ∨ server.draws input = some front.currentSessionId ∧ server.Renews front

/-- What happens once a datagram passed the checks. -/
structure Acceptance.Acts (passed : Acceptance) (after : UdpServer) : Prop where
  length : passed.rx.length = sealedSize
  current : datagramSession passed.rx = passed.front.currentSessionId
  newer : passed.front.lastAppRxCounter = 0 ∨
    passed.front.lastAppRxCounter < datagramCounter passed.rx
  session : after.currentSessionId = passed.front.currentSessionId
  lastRx : after.lastAppRxCounter = datagramCounter passed.rx
  nextTx : after.esp32TxCounter =
    if passed.answered then passed.front.esp32TxCounter + 1 else passed.front.esp32TxCounter
  log : ∃ txPacket, after.log =
    (if passed.answered then
      [.replied (udpIv passed.front.currentSessionId passed.front.esp32TxCounter) txPacket] else [])
      ++ .accepted passed.rx passed.opcode :: passed.front.log

/-- A server is one that only answered pings since. -/
theorem UdpServer.Idles.refl (server : UdpServer) : server.Idles server :=
  ⟨rfl, rfl, rfl, [], rfl, by simp⟩

/-- The rate check touches neither the session nor the time of the last activity. -/
theorem rateChecked_eq (server : UdpServer) (nowMs : UInt32) :
    ∃ count last, server.rateChecked nowMs =
      { server with packetCount := count, lastRateCheckMs := last } := by
  unfold UdpServer.rateChecked
  split
  · exact ⟨_, _, rfl⟩
  · exact ⟨_, _, rfl⟩

/-- In front of a datagram a new session has started, or nothing has happened. -/
theorem UdpServer.letIn_fronts {server front : UdpServer} {bytes : Bytes} {env : UdpEnv}
    (admits : server.letIn env = some front) : server.Fronts (.datagram bytes env) front := by
  obtain ⟨count, last, checked⟩ := rateChecked_eq server env.nowMs
  unfold UdpServer.letIn at admits
  rw [checked] at admits
  dsimp only at admits
  split at admits
  · cases admits
  · cases admits
    unfold UdpServer.expire
    -- Either five minutes went by without activity, or the session goes on.
    split
    · rename_i late
      exact .inr ⟨if_pos late, rfl, rfl, rfl⟩
    · exact .inl ⟨rfl, rfl, rfl, [], rfl, by simp⟩

/-- An opened datagram has passed the checks on its length, its session id and its counter. -/
theorem UdpServer.opened_checks {gcm : AesGcm} {env : UdpEnv} {server : UdpServer} {rx : Bytes}
    {opcode : UInt8} (opened : server.opened gcm env rx = some opcode) :
    rx.length = sealedSize ∧ datagramSession rx = server.currentSessionId ∧
      (server.lastAppRxCounter = 0 ∨ server.lastAppRxCounter < datagramCounter rx) := by
  unfold UdpServer.opened at opened
  split_ifs at opened with long other old failed
  refine ⟨Decidable.not_not.mp long, Decidable.not_not.mp other, ?_⟩
  -- The counter is only compared when the session has one.
  by_cases first : server.lastAppRxCounter = 0
  · exact .inl first
  · exact .inr (UInt32.not_le.mp fun below => old ⟨below, first⟩)

/-- A reply takes the next counter, unless it cannot be sealed. -/
theorem UdpServer.reply_eq (gcm : AesGcm) (env : UdpEnv) (server : UdpServer)
    (txPlaintext : UInt8) :
    ∃ txPacket, server.reply gcm env txPlaintext =
      if env.encryptOk then
        { server.record
            (.replied (udpIv server.currentSessionId server.esp32TxCounter) txPacket) with
          esp32TxCounter := server.esp32TxCounter + 1 }
      else server := by
  unfold UdpServer.reply
  cases env.encryptOk with
  | true => exact ⟨_, rfl⟩
  | false => exact ⟨[], rfl⟩

/-- An opened command is answered with one reply at most, whatever it does to the relay. -/
theorem UdpServer.act_eq (gcm : AesGcm) (env : UdpEnv) (server : UdpServer) (opcode : UInt8) :
    ∃ device txPacket, server.act gcm env opcode =
      if answers opcode && env.encryptOk then
        { server.record
            (.replied (udpIv server.currentSessionId server.esp32TxCounter) txPacket) with
          esp32TxCounter := server.esp32TxCounter + 1
          device := device }
      else { server with device := device } := by
  unfold UdpServer.act answers
  -- Switching on, switching off, asking for the state, and any other opcode.
  by_cases on : opcode = cmdOn
  · obtain ⟨txPacket, replied⟩ := (server.switchRelay env .on).reply_eq gcm env cmdAck
    rw [if_pos on, replied]
    exact ⟨_, txPacket, by simp [on]; rfl⟩
  by_cases off : opcode = cmdOff
  · obtain ⟨txPacket, replied⟩ := (server.switchRelay env .off).reply_eq gcm env cmdAck
    rw [if_neg on, if_pos off, replied]
    exact ⟨_, txPacket, by simp [off]; rfl⟩
  by_cases state : opcode = cmdState
  · obtain ⟨txPacket, replied⟩ :=
      server.reply_eq gcm env (if server.device.relayState then cmdOn else cmdOff)
    rw [if_neg on, if_neg off, if_pos state, replied]
    exact ⟨server.device, txPacket, by simp [state]; rfl⟩
  · rw [if_neg on, if_neg off, if_neg state]
    exact ⟨server.device, [], by simp [on, off, state]⟩

/-- Only a datagram of the length of a sealed one is opened. -/
theorem UdpServer.opened_short {gcm : AesGcm} {env : UdpEnv} {server : UdpServer} {rx : Bytes}
    (short : rx.length ≠ sealedSize) : server.opened gcm env rx = none := by
  unfold UdpServer.opened
  rw [if_pos short]

/-- A datagram that passes the checks is acted upon. -/
theorem UdpServer.handle_acts {gcm : AesGcm} {env : UdpEnv} {front : UdpServer} {rx : Bytes}
    {opcode : UInt8} (opened : front.opened gcm env rx = some opcode) :
    Acceptance.Acts ⟨front, rx, opcode, answers opcode && env.encryptOk⟩
      (front.handle gcm env rx) := by
  obtain ⟨length, current, newer⟩ := UdpServer.opened_checks opened
  -- A ping is shorter.
  have sealed_ : rx ≠ [cmdPing] := by
    rintro rfl
    exact absurd length (by decide)
  let counted : UdpServer := { front.record (.accepted rx opcode) with
    lastAppRxCounter := datagramCounter rx
    lastActivityMs := env.nowMs }
  have handled : front.handle gcm env rx = counted.act gcm env opcode := by
    unfold UdpServer.handle
    rw [if_neg sealed_, opened]
  obtain ⟨device, txPacket, acted⟩ := counted.act_eq gcm env opcode
  rw [handled, acted]
  refine ⟨length, current, newer, ?_, ?_, ?_, txPacket, ?_⟩
  -- With a reply and without one.
  all_goals cases answers opcode && env.encryptOk <;> rfl

/-- Any other datagram is a ping or is dropped. -/
theorem UdpServer.handle_idles {gcm : AesGcm} {env : UdpEnv} {front : UdpServer} {rx : Bytes}
    (unopened : front.opened gcm env rx = none) : front.Idles (front.handle gcm env rx) := by
  unfold UdpServer.handle
  rw [unopened]
  dsimp only
  split
  · exact ⟨rfl, rfl, rfl, [.ponged _], rfl, by simp⟩
  · exact .refl front

/-- One turn acts upon a datagram that passes the checks, and answers pings at most otherwise. -/
theorem udpServerTask_moves (gcm : AesGcm) (server : UdpServer) (input : UdpInput) :
    match server.accepts gcm input with
    | none => ∃ front, server.Fronts input front ∧ front.Idles (udpServerTask gcm server input)
    | some passed =>
      server.Fronts input passed.front ∧ passed.Acts (udpServerTask gcm server input) := by
  cases input with
  | elsewhere device => exact ⟨server, .inl (.refl server), rfl, rfl, rfl, [], rfl, by simp⟩
  | datagram bytes env =>
    unfold UdpServer.accepts udpServerTask
    dsimp only
    -- An empty datagram is no datagram, and one too many within a second is dropped.
    cases admits : server.letIn env with
    | none =>
      obtain ⟨count, last, checked⟩ := rateChecked_eq server env.nowMs
      refine ⟨server, .inl (.refl server), ?_⟩
      split
      · exact .refl server
      · dsimp only
        rw [checked]
        exact ⟨rfl, rfl, rfl, [], rfl, by simp⟩
    | some front =>
      have fronts : server.Fronts (.datagram bytes env) front := UdpServer.letIn_fronts admits
      dsimp only [Option.bind]
      cases opened : front.opened gcm env (bytes.take udpRxSize) with
      | none =>
        dsimp only [Option.map]
        split
        · exact ⟨server, .inl (.refl server), .refl server⟩
        · exact ⟨front, fronts, UdpServer.handle_idles opened⟩
      | some opcode =>
        have nonempty : (bytes.take udpRxSize).length ≠ 0 := by
          rw [(UdpServer.opened_checks opened).1]
          decide
        rw [if_neg nonempty]
        exact ⟨fronts, UdpServer.handle_acts opened⟩

section Turns

variable {gcm : AesGcm} {server : UdpServer} {input : UdpInput} {known good : UdpServer → Prop}

/-- What is known in front of a datagram decides what holds after a turn: it holds after pings, and
after a datagram that passed the checks exactly under a condition on that one. -/
theorem udpServerTask_iff {cond : Acceptance → Prop}
    (fronts : ∀ front, server.Fronts input front → known front)
    (idles : ∀ front, front.Idles (udpServerTask gcm server input) → known front →
      good (udpServerTask gcm server input))
    (acts : ∀ passed : Acceptance, passed.Acts (udpServerTask gcm server input) →
      known passed.front → (good (udpServerTask gcm server input) ↔ cond passed)) :
    good (udpServerTask gcm server input) ↔ ∀ passed ∈ server.accepts gcm input, cond passed := by
  have moves := udpServerTask_moves gcm server input
  -- Without a datagram there is nothing the condition could fail of.
  cases found : server.accepts gcm input with
  | none =>
    rw [found] at moves
    obtain ⟨front, before, quiet⟩ := moves
    exact iff_of_true (idles front quiet (fronts front before)) (by simp)
  | some passed =>
    rw [found] at moves
    obtain ⟨before, acted⟩ := moves
    rw [acts passed acted (fronts passed.front before)]
    simp

/-- What holds after pings and after whatever passed the checks holds after every turn. -/
theorem udpServerTask_keeps (fronts : ∀ front, server.Fronts input front → known front)
    (idles : ∀ front, front.Idles (udpServerTask gcm server input) → known front →
      good (udpServerTask gcm server input))
    (acts : ∀ passed : Acceptance, passed.Acts (udpServerTask gcm server input) →
      known passed.front → good (udpServerTask gcm server input)) :
    good (udpServerTask gcm server input) :=
  -- The condition on the datagram is none.
  (udpServerTask_iff fronts idles fun passed acted before =>
    iff_of_true (acts passed acted before) trivial).mpr fun _ _ => trivial

end Turns

end Ykp.Firmware
