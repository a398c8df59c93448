import Ykp.Firmware.UdpReplay

/-! The IVs the UDP server seals replies under, beside those of the datagrams it has opened. -/

namespace Ykp.Firmware

open History LittleEndian

/-- The IV an entry says a reply was sealed under. -/
def replyIv : UdpEvent → Option Bytes
  | .replied iv _ => some iv
  | _ => none

/-- The IVs of replies, the latest first. -/
def replyIvs (log : List UdpEvent) : List Bytes := log.filterMap replyIv

/-- The IVs of the datagrams acted upon, the latest first. -/
def acceptedIvs (log : List UdpEvent) : List Bytes := (acceptedDatagrams log).map datagramIv

/-- A reply is sealed under an IV of no earlier reply and of no datagram acted upon so far. -/
def ReplyIvNew (older : List UdpEvent) : UdpEvent → Prop
  | .replied iv _ => iv ∉ replyIvs older ∧ iv ∉ acceptedIvs older
  | _ => True

instance (older : List UdpEvent) : (event : UdpEvent) → Decidable (ReplyIvNew older event)
  | .replied iv _ => inferInstanceAs (Decidable (iv ∉ replyIvs older ∧ iv ∉ acceptedIvs older))
  | .expired _ | .ponged _ | .accepted _ _ => .isTrue trivial

/-- A datagram that is acted upon has the IV of no earlier reply. -/
def DatagramIvNew (older : List UdpEvent) : UdpEvent → Prop
  | .accepted rx _ => datagramIv rx ∉ replyIvs older
  | _ => True

/-- Every reply was under a new IV at its time. -/
def UdpServer.RepliesNew (server : UdpServer) : Prop := Justified ReplyIvNew server.log

/-- No two replies share an IV, and no reply has that of a datagram acted upon. -/
structure UdpServer.IvsApart (server : UdpServer) : Prop where
  replies : (replyIvs server.log).Nodup
  datagrams : ∀ iv ∈ replyIvs server.log, iv ∉ acceptedIvs server.log

/-- A datagram that is answered finds the server's counter at that of no datagram acted upon under
the current session id, itself included. -/
def Acceptance.AnswerApart (passed : Acceptance) : Prop :=
  passed.answered = true → ∀ rx ∈ passed.rx :: acceptedDatagrams passed.front.log,
    datagramSession rx = passed.front.currentSessionId →
      datagramCounter rx ≠ passed.front.esp32TxCounter

/-- The counter of a datagram is that of no reply under its session id. -/
def Acceptance.CounterApart (passed : Acceptance) : Prop :=
  ∀ iv ∈ replyIvs passed.front.log, datagramSession iv = datagramSession passed.rx →
    datagramCounter iv ≠ datagramCounter passed.rx

/-- Whatever passes the checks is answered apart from all datagrams of its session. -/
def AnswersApart (gcm : AesGcm) (server : UdpServer) (input : UdpInput) : Prop :=
  ∀ passed ∈ server.accepts gcm input, passed.AnswerApart

/-- Whatever passes the checks does so apart from all replies, and is answered apart. -/
def TurnsApart (gcm : AesGcm) (server : UdpServer) (input : UdpInput) : Prop :=
  ∀ passed ∈ server.accepts gcm input, passed.AnswerApart ∧ passed.CounterApart

/-- The first eight bytes of a datagram are its session id and its counter. -/
theorem datagramIv_eq {raw : Bytes} (long : 8 ≤ raw.length) :
    datagramIv raw = udpIv (datagramSession raw) (datagramCounter raw) := by
  have session : writeWord (datagramSession raw) = raw.take 4 := writeWord_readWord (by omega)
  have counter : writeWord (datagramCounter raw) = (raw.drop 4).take 4 :=
    writeWord_readWord (by rw [List.length_drop]; omega)
  have both : raw.take 4 ++ (raw.drop 4).take 4 = raw.take 8 := (List.take_add (i := 4)).symm
  rw [datagramIv, udpIv, session, counter, both]

/-- The session id an IV was made from. -/
@[simp] theorem datagramSession_udpIv (sessionId counter : UInt32) :
    datagramSession (udpIv sessionId counter) = sessionId := by
  rw [datagramSession, udpIv, List.append_assoc, readWord_append]

/-- The counter an IV was made from. -/
@[simp] theorem datagramCounter_udpIv (sessionId counter : UInt32) :
    datagramCounter (udpIv sessionId counter) = counter := by
  rw [datagramCounter, udpIv, List.append_assoc, List.drop_left' (writeWord_length sessionId),
    readWord_append]

/-- IVs differ as soon as their session ids or their counters do. -/
theorem udpIv_inj {sessionId counter sessionId' counter' : UInt32} :
    udpIv sessionId counter = udpIv sessionId' counter' ↔
      sessionId = sessionId' ∧ counter = counter' := by
  constructor
  · intro same
    have session := congrArg datagramSession same
    have count := congrArg datagramCounter same
    simp only [datagramSession_udpIv, datagramCounter_udpIv] at session count
    exact ⟨session, count⟩
  · rintro ⟨rfl, rfl⟩
    rfl

/-- Replies are numbered from one on, as far as the counter reaches, and no sealed datagram is
shorter than its IV. -/
structure UdpServer.Numbered (server : UdpServer) : Prop where
  nextTx : server.esp32TxCounter = UInt32.ofNat ((replyIvs server.log).length + 1)
  used : ∀ iv ∈ replyIvs server.log, ∃ sessionId number,
    iv = udpIv sessionId (UInt32.ofNat number) ∧ 1 ≤ number ∧
      number ≤ (replyIvs server.log).length
  sized : ∀ rx ∈ acceptedDatagrams server.log, rx.length = sealedSize

/-- A server that neither replied nor acted upon a datagram since. -/
structure UdpServer.Rests (before after : UdpServer) : Prop where
  nextTx : after.esp32TxCounter = before.esp32TxCounter
  log : ∃ newer, after.log = newer ++ before.log ∧
    ∀ event ∈ newer, replyIv event = none ∧ acceptedDatagram event = none

theorem UdpServer.Idles.rests {before after : UdpServer} (idles : before.Idles after) :
    before.Rests after := by
  obtain ⟨pongs, logged, pong⟩ := idles.log
  refine ⟨idles.nextTx, pongs, logged, ?_⟩
  intro event member
  obtain ⟨ack, rfl⟩ := pong event member
  exact ⟨rfl, rfl⟩

theorem UdpServer.Fronts.rests {server front : UdpServer} {input : UdpInput}
    (fronts : server.Fronts input front) : server.Rests front := by
  cases fronts with
  | inl idles => exact idles.rests
  | inr renewed =>
    refine ⟨renewed.2.nextTx, [.expired front.currentSessionId], renewed.2.log, ?_⟩
    intro event member
    cases List.mem_singleton.mp member
    exact ⟨rfl, rfl⟩

/-- Without replies and datagrams the IVs and the datagrams stay. -/
theorem UdpServer.Rests.same {before after : UdpServer} (rests : before.Rests after) :
    replyIvs after.log = replyIvs before.log ∧
      acceptedDatagrams after.log = acceptedDatagrams before.log := by
  obtain ⟨newer, logged, quiet⟩ := rests.log
  have noReplies : newer.filterMap replyIv = [] :=
    List.filterMap_eq_nil_iff.mpr fun event member => (quiet event member).1
  have noDatagrams : newer.filterMap acceptedDatagram = [] :=
    List.filterMap_eq_nil_iff.mpr fun event member => (quiet event member).2
  rw [replyIvs, acceptedDatagrams, logged, List.filterMap_append, List.filterMap_append, noReplies,
    noDatagrams]
  exact ⟨rfl, rfl⟩

/-- Whatever only constrains replies and datagrams goes on to hold. -/
theorem UdpServer.Rests.justified_iff {before after : UdpServer} (rests : before.Rests after)
    {rel : List UdpEvent → UdpEvent → Prop}
    (free : ∀ event, replyIv event = none → acceptedDatagram event = none →
      ∀ older, rel older event) :
    Justified rel after.log ↔ Justified rel before.log := by
  obtain ⟨newer, logged, quiet⟩ := rests.log
  rw [logged]
  apply justified_append
  intro event member
  exact free event (quiet event member).1 (quiet event member).2

/-- The replies are numbered as before. -/
theorem UdpServer.Rests.numbered {before after : UdpServer} (rests : before.Rests after)
    (numbered : before.Numbered) : after.Numbered := by
  obtain ⟨ivs, datagrams⟩ := rests.same
  constructor
  · rw [ivs, rests.nextTx]
    exact numbered.nextTx
  · rw [ivs]
    exact numbered.used
  · rw [datagrams]
    exact numbered.sized

/-- What is logged of a datagram that is acted upon: its reply, if any, on top of it. -/
theorem Acceptance.Acts.ivs {passed : Acceptance} {after : UdpServer} (acts : passed.Acts after) :
    replyIvs after.log =
      if passed.answered then
        udpIv passed.front.currentSessionId passed.front.esp32TxCounter ::
          replyIvs passed.front.log
      else replyIvs passed.front.log := by
  obtain ⟨txPacket, logged⟩ := acts.log
  rw [logged]
  cases passed.answered <;> rfl

/-- A reply takes the next number. -/
theorem Acceptance.Acts.numbered {passed : Acceptance} {after : UdpServer}
    (acts : passed.Acts after) (numbered : passed.front.Numbered) : after.Numbered := by
  have sized (rx : Bytes) (member : rx ∈ acceptedDatagrams after.log) : rx.length = sealedSize := by
    rw [acts.datagrams.2.1] at member
    cases List.mem_cons.mp member with
    | inl same => exact same ▸ acts.length
    | inr earlier => exact numbered.sized rx earlier
  have nextTx := acts.nextTx
  have ivs := acts.ivs
  -- Only an answer moves the counter.
  cases answered : passed.answered with
  | false =>
    rw [answered] at nextTx ivs
    constructor
    · rw [ivs, nextTx]
      exact numbered.nextTx
    · rw [ivs]
      exact numbered.used
    · exact sized
  | true =>
    rw [answered, if_pos rfl] at nextTx ivs
    constructor
    · rw [ivs, nextTx, numbered.nextTx, List.length_cons, UInt32.ofNat_add (_ + 1) 1]
      rfl
    · -- The newest IV has the number the counter stood at; the others keep theirs.
      intro iv member
      rw [ivs, List.length_cons]
      rw [ivs] at member
      cases List.mem_cons.mp member with
      | inl same =>
        refine ⟨passed.front.currentSessionId, (replyIvs passed.front.log).length + 1, ?_, by omega,
          Nat.le_refl _⟩
        rw [same, numbered.nextTx]
      | inr earlier =>
        obtain ⟨sessionId, number, made, low, high⟩ := numbered.used iv earlier
        exact ⟨sessionId, number, made, low, by omega⟩
    · exact sized

/-- While the counter has not come round, its next value is that of no earlier reply. -/
theorem UdpServer.Numbered.unused {server : UdpServer} (numbered : server.Numbered)
    (few : (replyIvs server.log).length + 1 < 2 ^ 32) (sessionId : UInt32) :
    udpIv sessionId server.esp32TxCounter ∉ replyIvs server.log := by
  intro member
  obtain ⟨_, number, made, low, high⟩ := numbered.used _ member
  -- Equal words below the bound are equal numbers.
  have same := (udpIv_inj.mp made).2
  rw [numbered.nextTx] at same
  have numbers := congrArg UInt32.toNat same
  rw [UInt32.toNat_ofNat', UInt32.toNat_ofNat', Nat.mod_eq_of_lt few,
    Nat.mod_eq_of_lt (by omega)] at numbers
  omega

/-- No datagram has an IV exactly when none has its session id and counter. -/
theorem notMem_datagramIvs {datagrams : List Bytes}
    (sized : ∀ rx ∈ datagrams, rx.length = sealedSize) (sessionId counter : UInt32) :
    udpIv sessionId counter ∉ datagrams.map datagramIv ↔
      ∀ rx ∈ datagrams, datagramSession rx = sessionId → datagramCounter rx ≠ counter := by
  -- A sealed datagram is long enough for both words.
  have made (rx : Bytes) (member : rx ∈ datagrams) :
      datagramIv rx = udpIv (datagramSession rx) (datagramCounter rx) :=
    datagramIv_eq (by rw [sized rx member]; decide)
  constructor
  · intro absent rx member session counts
    refine absent (List.mem_map.mpr ⟨rx, member, ?_⟩)
    rw [made rx member, session, counts]
  · intro apart present
    obtain ⟨rx, member, same⟩ := List.mem_map.mp present
    rw [made rx member] at same
    obtain ⟨session, counts⟩ := udpIv_inj.mp same
    exact apart rx member session counts

/-- A reply is under a new IV exactly when the answered datagram finds the counters apart. -/
theorem Acceptance.Acts.reply_iff {passed : Acceptance} {after : UdpServer}
    (acts : passed.Acts after) (numbered : passed.front.Numbered)
    (few : (replyIvs after.log).length < 2 ^ 32)
    (before : Justified ReplyIvNew passed.front.log) :
    Justified ReplyIvNew after.log ↔ passed.AnswerApart := by
  obtain ⟨txPacket, logged⟩ := acts.log
  have ivs := acts.ivs
  unfold Acceptance.AnswerApart
  cases answered : passed.answered with
  | false =>
    rw [logged, answered]
    exact iff_of_true ⟨trivial, before⟩ (by simp)
  | true =>
    rw [answered, if_pos rfl] at ivs
    rw [ivs, List.length_cons] at few
    rw [logged, answered, if_pos rfl]
    -- No earlier reply has this IV, so only datagrams matter.
    have unused := numbered.unused few passed.front.currentSessionId
    have sized : ∀ rx ∈ passed.rx :: acceptedDatagrams passed.front.log,
        rx.length = sealedSize := by
      intro rx member
      cases List.mem_cons.mp member with
      | inl same => exact same ▸ acts.length
      | inr earlier => exact numbered.sized rx earlier
    have apart := notMem_datagramIvs sized passed.front.currentSessionId
      passed.front.esp32TxCounter
    simp only [forall_const]
    rw [← apart]
    constructor
    · intro justified
      exact justified.1.2
    · intro absent
      exact ⟨⟨unused, absent⟩, trivial, before⟩

/-- A datagram has a new IV exactly when its counter is apart from those of the replies. -/
theorem Acceptance.Acts.datagram_iff {passed : Acceptance} {after : UdpServer}
    (acts : passed.Acts after) (numbered : passed.front.Numbered)
    (before : Justified DatagramIvNew passed.front.log) :
    Justified DatagramIvNew after.log ↔ passed.CounterApart := by
  obtain ⟨txPacket, logged⟩ := acts.log
  -- The reply on top does not matter.
  have free : Justified DatagramIvNew after.log ↔
      Justified DatagramIvNew (.accepted passed.rx passed.opcode :: passed.front.log) := by
    rw [logged]
    cases passed.answered with
    | false => exact Iff.rfl
    | true => exact ⟨And.right, And.intro trivial⟩
  have entry : DatagramIvNew passed.front.log (.accepted passed.rx passed.opcode) ↔
      udpIv (datagramSession passed.rx) (datagramCounter passed.rx) ∉
        replyIvs passed.front.log := by
    have long : 8 ≤ passed.rx.length := by
      rw [acts.length]
      decide
    rw [← datagramIv_eq long]
    exact Iff.rfl
  rw [free, justified_cons, entry]
  unfold Acceptance.CounterApart
  -- Every IV of a reply is known by its session id and its counter.
  constructor
  · rintro ⟨absent, -⟩ iv member session counts
    obtain ⟨sessionId, number, rfl, -, -⟩ := numbered.used iv member
    rw [datagramSession_udpIv] at session
    rw [datagramCounter_udpIv] at counts
    exact absent (session ▸ counts ▸ member)
  · intro apart
    refine ⟨?_, before⟩
    intro member
    exact apart _ member (datagramSession_udpIv _ _) (datagramCounter_udpIv _ _)

/-- Replies are numbered after every turn. -/
theorem numbered_step (gcm : AesGcm) {server : UdpServer} (input : UdpInput)
    (numbered : server.Numbered) : (udpServerTask gcm server input).Numbered := by
  refine udpServerTask_keeps (fun front fronts => fronts.rests.numbered numbered) ?_ ?_
  · intro front idles
    exact idles.rests.numbered
  · intro passed acts
    exact acts.numbered

/-- No turn forgets a reply. -/
theorem replies_grow (gcm : AesGcm) (server : UdpServer) (input : UdpInput) :
    (replyIvs server.log).length ≤ (replyIvs (udpServerTask gcm server input).log).length := by
  let grown (after : UdpServer) : Prop := (replyIvs server.log).length ≤ (replyIvs after.log).length
  have turn : grown (udpServerTask gcm server input) := by
    refine udpServerTask_keeps (fun front fronts => fronts.rests.same.1) ?_ ?_
    · intro front idles same
      unfold grown
      rw [idles.rests.same.1, same]
    · intro passed acts same
      unfold grown
      rw [acts.ivs, ← same]
      cases passed.answered <;> simp
  exact turn

/-- All replies and datagrams have new IVs exactly when no two replies share one and no reply has
that of a datagram. -/
theorem justified_ivs_iff (log : List UdpEvent) :
    Justified ReplyIvNew log ∧ Justified DatagramIvNew log ↔
      (replyIvs log).Nodup ∧ ∀ iv ∈ replyIvs log, iv ∉ acceptedIvs log := by
  -- The newest entry is a datagram, a reply or neither.
  induction log with
  | nil => simp [replyIvs]
  | cons event older ih =>
    cases event with
    | expired sessionId =>
      rw [justified_cons, justified_cons]
      exact (and_congr (and_iff_right trivial) (and_iff_right trivial)).trans ih
    | ponged ackPacket =>
      rw [justified_cons, justified_cons]
      exact (and_congr (and_iff_right trivial) (and_iff_right trivial)).trans ih
    | accepted rx opcode =>
      have replies : replyIvs (.accepted rx opcode :: older) = replyIvs older := rfl
      have datagrams : acceptedIvs (.accepted rx opcode :: older) =
          datagramIv rx :: acceptedIvs older := rfl
      rw [justified_cons, justified_cons, replies, datagrams]
      constructor
      · rintro ⟨⟨-, one⟩, absent, two⟩
        obtain ⟨unique, apart⟩ := ih.mp ⟨one, two⟩
        refine ⟨unique, ?_⟩
        intro iv member again
        cases List.mem_cons.mp again with
        | inl same => exact absent (same ▸ member)
        | inr earlier => exact apart iv member earlier
      · rintro ⟨unique, apart⟩
        have earlier := ih.mpr ⟨unique, fun iv member again =>
          apart iv member (List.mem_cons_of_mem _ again)⟩
        exact ⟨⟨trivial, earlier.1⟩, fun member => apart _ member List.mem_cons_self, earlier.2⟩
    | replied iv txPacket =>
      have replies : replyIvs (.replied iv txPacket :: older) = iv :: replyIvs older := rfl
      have datagrams : acceptedIvs (.replied iv txPacket :: older) = acceptedIvs older := rfl
      rw [justified_cons, justified_cons, replies, datagrams, List.nodup_cons]
      constructor
      · rintro ⟨⟨⟨unused, absent⟩, one⟩, -, two⟩
        obtain ⟨unique, apart⟩ := ih.mp ⟨one, two⟩
        refine ⟨⟨unused, unique⟩, ?_⟩
        intro other member
        cases List.mem_cons.mp member with
        | inl same => exact same ▸ absent
        | inr earlier => exact apart other earlier
      · rintro ⟨⟨unused, unique⟩, apart⟩
        have earlier := ih.mpr ⟨unique, fun other member =>
          apart other (List.mem_cons_of_mem _ member)⟩
        exact ⟨⟨⟨unused, apart iv List.mem_cons_self⟩, earlier.1⟩, trivial, earlier.2⟩

/-- IVs are apart exactly when all of them were new at their time. -/
theorem UdpServer.ivsApart_iff {server : UdpServer} :
    server.IvsApart ↔ server.RepliesNew ∧ Justified DatagramIvNew server.log := by
  have both := justified_ivs_iff server.log
  constructor
  · intro apart
    exact both.mpr ⟨apart.replies, apart.datagrams⟩
  · intro new
    obtain ⟨replies, datagrams⟩ := both.mp new
    exact ⟨replies, datagrams⟩

/-- Replies stay new while there are no others. -/
theorem UdpServer.Rests.repliesNew {before after : UdpServer} (rests : before.Rests after)
    (new : before.RepliesNew) : after.RepliesNew := by
  refine (rests.justified_iff ?_).mpr new
  intro event noReply _ older
  cases event with
  | replied iv txPacket => cases noReply
  | _ => trivial

/-- IVs stay apart while there are no others. -/
theorem UdpServer.Rests.ivsApart {before after : UdpServer} (rests : before.Rests after)
    (apart : before.IvsApart) : after.IvsApart := by
  obtain ⟨ivs, datagrams⟩ := rests.same
  constructor
  · rw [ivs]
    exact apart.replies
  · rw [ivs, acceptedIvs, datagrams]
    exact apart.datagrams

/-- While replies can be told apart by their counters, a turn goes on with new IVs for them exactly
when it answers apart from the datagrams. -/
theorem repliesNew_step_iff {gcm : AesGcm} {server : UdpServer} {input : UdpInput}
    (few : (replyIvs (udpServerTask gcm server input).log).length < 2 ^ 32)
    (holds : server.Numbered ∧ server.RepliesNew) :
    (udpServerTask gcm server input).RepliesNew ↔ AnswersApart gcm server input := by
  refine udpServerTask_iff (fun front fronts =>
    And.intro (fronts.rests.numbered holds.1) (fronts.rests.repliesNew holds.2)) ?_ ?_
  · intro front idles before
    exact idles.rests.repliesNew before.2
  · intro passed acts before
    exact acts.reply_iff before.1 few before.2

/-- And it goes on with all IVs apart exactly when the datagram is apart from the replies too. -/
theorem ivsApart_step_iff {gcm : AesGcm} {server : UdpServer} {input : UdpInput}
    (few : (replyIvs (udpServerTask gcm server input).log).length < 2 ^ 32)
    (holds : server.Numbered ∧ server.IvsApart) :
    (udpServerTask gcm server input).IvsApart ↔ TurnsApart gcm server input := by
  refine udpServerTask_iff (fun front fronts =>
    And.intro (fronts.rests.numbered holds.1) (fronts.rests.ivsApart holds.2)) ?_ ?_
  · intro front idles before
    exact idles.rests.ivsApart before.2
  · intro passed acts before
    -- Apart over the whole log is new at the time of each entry, on both sides of the turn.
    obtain ⟨numbered, apart⟩ := before
    rw [UdpServer.ivsApart_iff] at apart ⊢
    exact and_congr (acts.reply_iff numbered few apart.1) (acts.datagram_iff numbered apart.2)

variable (gcm : AesGcm) (sharedAesKey : Bytes) (nowMs : UInt32) (device : Device)

end Ykp.Firmware
