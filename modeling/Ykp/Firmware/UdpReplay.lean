import Ykp.Firmware.CommandGate
import Ykp.Firmware.UdpTurns
import Ykp.Foundation.History

/-! Which datagrams the UDP server acts upon: counters within a session, and replays. -/

namespace Ykp.Firmware

open History

/-- The entry a session starts with. -/
def startsSession : UdpEvent → Bool
  | .expired _ => true
  | _ => false

/-- The datagram an entry says was acted upon. -/
def acceptedDatagram : UdpEvent → Option Bytes
  | .accepted rx _ => some rx
  | _ => none

/-- The session id an entry says was drawn. -/
def drawnSession : UdpEvent → Option UInt32
  | .expired sessionId => some sessionId
  | _ => none

/-- The datagrams acted upon, the latest first. -/
def acceptedDatagrams (log : List UdpEvent) : List Bytes := log.filterMap acceptedDatagram

/-- The datagrams acted upon since the session started. -/
def sessionDatagrams (log : List UdpEvent) : List Bytes :=
  acceptedDatagrams (since startsSession log)

/-- The ids that sessions have had; the first session has the id zero. -/
def sessionIds (log : List UdpEvent) : List UInt32 := log.filterMap drawnSession ++ [0]

/-- The counters of the datagrams acted upon in the current session strictly increase. -/
def UdpServer.CountsUp (server : UdpServer) : Prop :=
  ((sessionDatagrams server.log).map datagramCounter).Pairwise (· > ·)

/-- A datagram with the counter zero passes the checks only before any other of its session. -/
def ZeroFirst (gcm : AesGcm) (server : UdpServer) (input : UdpInput) : Prop :=
  ∀ passed ∈ server.accepts gcm input,
    datagramCounter passed.rx = 0 → sessionDatagrams passed.front.log = []

/-- A session id that is drawn is new. -/
def DrawsNew (server : UdpServer) (input : UdpInput) : Prop :=
  ∀ sessionId ∈ server.draws input, sessionId ∉ sessionIds server.log

/-- The server knows the latest counter of the session. -/
def UdpServer.TracksCounter (server : UdpServer) : Prop :=
  server.lastAppRxCounter = ((sessionDatagrams server.log).map datagramCounter).headD 0

/-- No datagram was acted upon twice, and those of the current session are known by its id. -/
structure UdpServer.ActedOnce (server : UdpServer) : Prop where
  unique : (acceptedDatagrams server.log).Nodup
  sessions : ∀ rx ∈ acceptedDatagrams server.log, datagramSession rx ∈ sessionIds server.log
  here : ∀ rx ∈ acceptedDatagrams server.log,
    datagramSession rx = server.currentSessionId → rx ∈ sessionDatagrams server.log
  current : server.currentSessionId ∈ sessionIds server.log

/-- Pongs are neither datagrams nor sessions. -/
theorem pongs_quiet {pongs : List UdpEvent} (log : List UdpEvent)
    (pong : ∀ event ∈ pongs, ∃ ack, event = .ponged ack) :
    sessionDatagrams (pongs ++ log) = sessionDatagrams log ∧
      acceptedDatagrams (pongs ++ log) = acceptedDatagrams log ∧
      sessionIds (pongs ++ log) = sessionIds log := by
  -- The pongs are dropped one by one.
  induction pongs with
  | nil => exact ⟨rfl, rfl, rfl⟩
  | cons event rest ih =>
    obtain ⟨ack, rfl⟩ := pong event List.mem_cons_self
    exact ih fun other member => pong other (List.mem_cons_of_mem _ member)

/-- A datagram that is acted upon, answered or not, comes in front of those of its session. -/
theorem Acceptance.Acts.datagrams {passed : Acceptance} {after : UdpServer}
    (acts : passed.Acts after) :
    sessionDatagrams after.log = passed.rx :: sessionDatagrams passed.front.log ∧
      acceptedDatagrams after.log = passed.rx :: acceptedDatagrams passed.front.log ∧
      sessionIds after.log = sessionIds passed.front.log := by
  obtain ⟨txPacket, logged⟩ := acts.log
  rw [logged]
  cases passed.answered <;> exact ⟨rfl, rfl, rfl⟩

/-- In front of a datagram the counters of the session still increase, and are still known. -/
theorem UdpServer.Fronts.counts {server front : UdpServer} {input : UdpInput}
    (fronts : server.Fronts input front) (up : server.CountsUp) (tracks : server.TracksCounter) :
    front.CountsUp ∧ front.TracksCounter := by
  unfold UdpServer.CountsUp UdpServer.TracksCounter at *
  cases fronts with
  | inl idles =>
    obtain ⟨pongs, logged, pong⟩ := idles.log
    rw [logged, (pongs_quiet server.log pong).1, idles.lastRx]
    exact ⟨up, tracks⟩
  | inr renewed =>
    -- A new session has seen no datagram.
    have fresh : sessionDatagrams front.log = [] := by rw [renewed.2.log]; rfl
    rw [fresh, renewed.2.lastRx]
    exact ⟨.nil, rfl⟩

/-- With increasing counters in front of it, a datagram goes on with them exactly when it does not
carry the counter zero behind another one. -/
theorem Acceptance.Acts.counts_iff {passed : Acceptance} {after : UdpServer}
    (acts : passed.Acts after) (up : passed.front.CountsUp) (tracks : passed.front.TracksCounter) :
    after.CountsUp ↔
      (datagramCounter passed.rx = 0 → sessionDatagrams passed.front.log = []) := by
  unfold UdpServer.CountsUp UdpServer.TracksCounter at *
  have newer := acts.newer
  rw [acts.datagrams.1, List.map_cons, List.pairwise_cons]
  -- The first datagram of a session has no counter to exceed.
  cases earlier : sessionDatagrams passed.front.log with
  | nil => simp
  | cons latest older =>
    rw [earlier, List.map_cons] at up tracks
    have highest := (List.pairwise_cons.mp up).1
    rw [List.headD_cons] at tracks
    simp only [reduceCtorEq, imp_false]
    constructor
    · -- Zero is above no counter.
      rintro ⟨above, -⟩ zero
      have below := above _ (by rw [List.map_cons]; exact List.mem_cons_self)
      rw [zero] at below
      exact absurd below (UInt32.not_lt.mpr (UInt32.zero_le))
    · intro positive
      -- The check compared with the latest counter, or was off because that one was zero.
      have above : datagramCounter latest < datagramCounter passed.rx := by
        rw [← tracks]
        cases newer with
        | inl first =>
          rw [first]
          exact UInt32.pos_iff_ne_zero.mpr positive
        | inr above => exact above
      refine ⟨?_, up⟩
      intro counter member
      rw [List.map_cons] at member
      cases List.mem_cons.mp member with
      | inl same => exact same ▸ above
      | inr below => exact UInt32.lt_trans (highest counter below) above

/-- One turn goes on with increasing counters exactly when a counter of zero comes first. -/
theorem countsUp_step_iff (gcm : AesGcm) {server : UdpServer} (input : UdpInput)
    (up : server.CountsUp) (tracks : server.TracksCounter) :
    (udpServerTask gcm server input).CountsUp ↔ ZeroFirst gcm server input := by
  refine udpServerTask_iff (fun front fronts => fronts.counts up tracks) ?_ ?_
  · intro front idles counts
    have last : front.Fronts input (udpServerTask gcm server input) := .inl idles
    exact (last.counts counts.1 counts.2).1
  · intro passed acts counts
    exact acts.counts_iff counts.1 counts.2

/-- The server knows the latest counter after every turn. -/
theorem tracksCounter_step (gcm : AesGcm) {server : UdpServer} (input : UdpInput)
    (up : server.CountsUp) (tracks : server.TracksCounter) :
    (udpServerTask gcm server input).TracksCounter := by
  refine udpServerTask_keeps (fun front fronts => fronts.counts up tracks) ?_ ?_
  · intro front idles counts
    have last : front.Fronts input (udpServerTask gcm server input) := .inl idles
    exact (last.counts counts.1 counts.2).2
  · intro passed acts _
    unfold UdpServer.TracksCounter
    rw [acts.datagrams.1, acts.lastRx, List.map_cons, List.headD_cons]

/-- A server that only answered pings still has acted upon no datagram twice. -/
theorem UdpServer.Idles.actedOnce {before after : UdpServer} (idles : before.Idles after)
    (once : before.ActedOnce) : after.ActedOnce := by
  obtain ⟨pongs, logged, pong⟩ := idles.log
  obtain ⟨session, accepted, ids⟩ := pongs_quiet before.log pong
  rw [← logged] at session accepted ids
  constructor
  · exact accepted ▸ once.unique
  · rw [accepted, ids]
    exact once.sessions
  · rw [accepted, session, idles.session]
    exact once.here
  · rw [ids, idles.session]
    exact once.current

/-- Under a new id no datagram of an earlier session is one of the current session. -/
theorem UdpServer.Fronts.actedOnce {server front : UdpServer} {input : UdpInput}
    (fronts : server.Fronts input front) (fresh : DrawsNew server input)
    (once : server.ActedOnce) : front.ActedOnce := by
  cases fronts with
  | inl idles => exact idles.actedOnce once
  | inr renewed =>
    obtain ⟨drawn, renews⟩ := renewed
    have unused := fresh front.currentSessionId drawn
    have accepted : acceptedDatagrams front.log = acceptedDatagrams server.log := by
      rw [renews.log]
      rfl
    have ids : sessionIds front.log = front.currentSessionId :: sessionIds server.log := by
      rw [renews.log]
      rfl
    constructor
    · exact accepted ▸ once.unique
    · intro rx member
      rw [ids]
      exact List.mem_cons_of_mem _ (once.sessions rx (accepted ▸ member))
    · -- The id of an earlier datagram was in use before, and the drawn one was not.
      intro rx member same
      exact absurd (same ▸ once.sessions rx (accepted ▸ member)) unused
    · rw [ids]
      exact List.mem_cons_self

/-- A datagram that goes on with increasing counters was not acted upon before. -/
theorem Acceptance.Acts.actedOnce {passed : Acceptance} {after : UdpServer}
    (acts : passed.Acts after) (up : after.CountsUp) (once : passed.front.ActedOnce) :
    after.ActedOnce := by
  obtain ⟨session, accepted, ids⟩ := acts.datagrams
  have current : passed.rx ∉ acceptedDatagrams passed.front.log := by
    intro again
    -- It would be one of the current session, and stand below its own counter.
    have here := once.here passed.rx again acts.current
    unfold UdpServer.CountsUp at up
    rw [session, List.map_cons, List.pairwise_cons] at up
    exact UInt32.lt_irrefl _ (up.1 _ (List.mem_map_of_mem here))
  constructor
  · rw [accepted]
    exact List.nodup_cons.mpr ⟨current, once.unique⟩
  · intro rx member
    rw [accepted] at member
    rw [ids]
    cases List.mem_cons.mp member with
    | inl same =>
      rw [same, acts.current]
      exact once.current
    | inr earlier => exact once.sessions rx earlier
  · intro rx member same
    rw [accepted] at member
    rw [session]
    cases List.mem_cons.mp member with
    | inl here => exact here ▸ List.mem_cons_self
    | inr earlier =>
      rw [acts.session] at same
      exact List.mem_cons_of_mem _ (once.here rx earlier same)
  · rw [ids, acts.session]
    exact once.current

/-- One turn acts upon no datagram again while counters increase and drawn ids are new. -/
theorem actedOnce_step (gcm : AesGcm) {server : UdpServer} (input : UdpInput)
    (fresh : DrawsNew server input) (up : (udpServerTask gcm server input).CountsUp)
    (once : server.ActedOnce) : (udpServerTask gcm server input).ActedOnce := by
  refine udpServerTask_keeps (fun front fronts => fronts.actedOnce fresh once) ?_ ?_
  · intro front idles
    exact idles.actedOnce
  · intro passed acts
    exact acts.actedOnce up

variable (gcm : AesGcm) (sharedAesKey : Bytes) (nowMs : UInt32) (device : Device)

/-- In every run the counters acted upon within each session strictly increase exactly when a
counter of zero comes first in its session; and then no datagram is acted upon twice, as long as the
session ids drawn are new. -/
theorem udp_counters_increase_iff (inputs : List UdpInput) :
    let start := udpServerStart sharedAesKey nowMs device
    ((∀ earlier, earlier <+: inputs →
        (udpServerRun gcm sharedAesKey nowMs device earlier).CountsUp) ↔
      Machine.Always (udpServerTask gcm) (ZeroFirst gcm) start inputs) ∧
    (Machine.Always (udpServerTask gcm) (ZeroFirst gcm) start inputs →
      Machine.Always (udpServerTask gcm) DrawsNew start inputs →
      (acceptedDatagrams (udpServerRun gcm sharedAesKey nowMs device inputs).log).Nodup) := by
  intro start
  have initial : start.CountsUp ∧ start.TracksCounter := ⟨.nil, rfl⟩
  constructor
  · have keeps (server : UdpServer) (input : UdpInput)
        (counts : server.CountsUp ∧ server.TracksCounter) (first : ZeroFirst gcm server input) :
        (udpServerTask gcm server input).CountsUp ∧
          (udpServerTask gcm server input).TracksCounter :=
      ⟨(countsUp_step_iff gcm input counts.1 counts.2).mpr first,
        tracksCounter_step gcm input counts.1 counts.2⟩
    exact Machine.prefixes_iff_always
      (fun server input counts => countsUp_step_iff gcm input counts.1 counts.2) keeps initial
      initial.1
  · intro first fresh
    -- The counters are carried along, since they tell the datagrams of a session apart.
    let inv (server : UdpServer) : Prop :=
      (server.CountsUp ∧ server.TracksCounter) ∧ server.ActedOnce
    have keeps (server : UdpServer) (input : UdpInput) (holds : inv server)
        (admitted : ZeroFirst gcm server input ∧ DrawsNew server input) :
        inv (udpServerTask gcm server input) := by
      obtain ⟨⟨up, tracks⟩, once⟩ := holds
      have still := (countsUp_step_iff gcm input up tracks).mpr admitted.1
      exact ⟨⟨still, tracksCounter_step gcm input up tracks⟩,
        actedOnce_step gcm input admitted.2 still once⟩
    have once : start.ActedOnce := by
      constructor <;> simp [start, udpServerStart, acceptedDatagrams, sessionIds]
    exact (Machine.invariant_run keeps ⟨initial, once⟩
      (Machine.always_and.mpr ⟨first, fresh⟩)).2.unique

/-- A library that leaves texts as they are, with a tag of zeros behind. -/
def plainGcm : AesGcm where
  encrypt tagSize _ _ text := text ++ List.replicate tagSize 0
  decrypt tagSize _ _ sealedText :=
    let text := sealedText.take (sealedText.length - tagSize)
    if sealedText.drop (sealedText.length - tagSize) = List.replicate tagSize 0 then some text
    else none

/-- An environment in which no call fails, three seconds after the start. -/
def sampleUdpEnv : UdpEnv := ⟨3000, 9, true, true, sampleEnv⟩

/-- A datagram of the first session that switches the relay on. -/
def switchOn (counter : UInt32) : UdpInput :=
  .datagram (LittleEndian.writeWord 0 ++ LittleEndian.writeWord counter ++
    plainGcm.encrypt 16 [] [] [cmdOn]) sampleUdpEnv

/-- A datagram with the counter zero is acted upon each time it is sent again. -/
theorem udp_counter_zero_replayed :
    ¬ (udpServerRun plainGcm [] 0 (bootDevice sampleDevice) [switchOn 0, switchOn 0]).CountsUp ∧
      ¬ (acceptedDatagrams (udpServerRun plainGcm [] 0 (bootDevice sampleDevice)
        [switchOn 0, switchOn 0]).log).Nodup := by
  unfold UdpServer.CountsUp
  decide +kernel

end Ykp.Firmware
