import Mathlib.Data.List.Perm.Subperm
import Ykp.Backend.LiveStream

/-! What is announced: presence as it changes, and the state of each acknowledgement once. -/

namespace Ykp.Backend

variable {live : LiveServer}

/-- An event about the state of a relay. -/
def LiveEvent.IsState : LiveEvent → Bool
  | .stateChanged _ _ => true
  | .presenceChanged _ _ => false

theorem relayEvent_isState {event : ServerEvent} {announced : LiveEvent}
    (from_ : relayEvent event = some announced) : announced.IsState := by
  unfold relayEvent at from_
  cases packet : dispatchedPacket event with
  | none => simp [packet] at from_
  | some pkt =>
    simp only [packet, Option.bind_eq_bind, Option.bind_some] at from_
    split at from_
    · simp only [handleRelayAck, List.findSome?_cons, Option.some.injEq] at from_
      rw [← from_]
      rfl
    · cases from_

theorem presenceEvent_isState {event : ServerEvent} {announced : LiveEvent}
    (from_ : presenceEvent event = some announced) : announced.IsState = false := by
  cases event with
  | presenceChanged deviceId isOnline =>
    rw [← Option.some.inj from_]
    rfl
  | _ => cases from_

/-- The presence that the server has logged, the oldest first. -/
def Server.presenceLog (server : Server) : List LiveEvent :=
  server.log.reverse.filterMap presenceEvent

/-- The acknowledgements that were handed to their service, the oldest first. -/
def Server.ackLog (server : Server) : List LiveEvent := server.log.reverse.filterMap relayEvent

/-- The states that were announced. -/
def LiveServer.states (live : LiveServer) : List LiveEvent := live.emitted.filter (·.IsState)

/-- What is announced is what happened: presence in its order, and no state that was not acknowledged. -/
structure Announced (live : LiveServer) : Prop where
  presence : live.emitted.filter (!·.IsState) = live.server.presenceLog
  states : (live.states ++ live.acks).Subperm live.server.ackLog
  waiting : ∀ event ∈ live.acks, event.IsState

/-- An acknowledgement whose state is stored is announced, and no longer waits. -/
theorem states_stored {position : Nat} {event : LiveEvent} (announced : Announced live)
    (found : live.acks[position]? = some event) :
    (({ live with acks := live.acks.eraseIdx position }.emit event).states ++
      live.acks.eraseIdx position).Perm (live.states ++ live.acks) := by
  have isState := announced.waiting event (List.mem_of_getElem? found)
  obtain ⟨inside, same⟩ := List.getElem?_eq_some_iff.mp found
  have back : (event :: live.acks.eraseIdx position).Perm live.acks := by
    rw [← same]
    exact List.getElem_cons_eraseIdx_perm inside
  have shape : ({ live with acks := live.acks.eraseIdx position }.emit event).states =
      live.states ++ [event] := by
    simp [LiveServer.states, LiveServer.emit, List.filter_append, isState]
  rw [shape, List.append_assoc, List.singleton_append]
  exact back.append_left _

/-- A step of the server lets what was handed to services wait, and tells the presence it logs. -/
theorem server_announces (crypto : ServerCrypto) (live : LiveServer) (input : ServerInput) :
    ∃ acks told,
      (liveStep crypto live (.server input)).server.ackLog = live.server.ackLog ++ acks ∧
      (liveStep crypto live (.server input)).acks = live.acks ++ acks ∧
      (liveStep crypto live (.server input)).server.presenceLog = live.server.presenceLog ++ told ∧
      (liveStep crypto live (.server input)).emitted = live.emitted ++ told ∧
      (∀ event ∈ acks, event.IsState) ∧ ∀ event ∈ told, event.IsState = false := by
  obtain ⟨newer, logged, -⟩ := serverStep_moves crypto live.server input
  refine ⟨newer.reverse.filterMap relayEvent, newer.reverse.filterMap presenceEvent, ?_⟩
  simp only [liveStep, emitAll_eq, Server.ackLog, Server.presenceLog, logged,
    History.newerThan_append, List.reverse_append, List.filterMap_append, true_and]
  constructor <;> intro event member <;> obtain ⟨entry, -, from_⟩ := List.mem_filterMap.mp member
  · exact relayEvent_isState from_
  · exact presenceEvent_isState from_

/-- Presence adds no state to what was announced. -/
theorem states_told {after : LiveServer} {told : List LiveEvent}
    (emitted : after.emitted = live.emitted ++ told)
    (silent : ∀ event ∈ told, event.IsState = false) : after.states = live.states := by
  have none : told.filter (·.IsState) = [] := by
    rw [List.filter_eq_nil_iff]
    intro event member
    simp [silent event member]
  rw [LiveServer.states, LiveServer.states, emitted, List.filter_append, none, List.append_nil]

theorem Announced.step (announced : Announced live) (crypto : ServerCrypto) (input : LiveInput) :
    Announced (liveStep crypto live input) := by
  cases input with
  | server input =>
    obtain ⟨acks, told, ackLog, waiting, presenceLog, emitted, isState, silent⟩ :=
      server_announces crypto live input
    refine ⟨?_, ?_, ?_⟩
    · have all : told.filter (!·.IsState) = told := by
        rw [List.filter_eq_self]
        intro event member
        rw [silent event member]
        rfl
      rw [emitted, presenceLog, List.filter_append, announced.presence, all]
    · rw [states_told emitted silent, waiting, ackLog, ← List.append_assoc]
      exact announced.states.append (List.Subperm.refl _)
    · rw [waiting, List.forall_mem_append]
      exact ⟨announced.waiting, isState⟩
  | stored position ok =>
    simp only [liveStep]
    split
    · exact announced
    · rename_i event found
      have waiting : ∀ other ∈ live.acks.eraseIdx position, other.IsState := fun other member =>
        announced.waiting other (List.mem_of_mem_eraseIdx member)
      cases ok with
      | true =>
        have isState := announced.waiting event (List.mem_of_getElem? found)
        refine ⟨?_, ?_, waiting⟩
        · simp only [if_true, LiveServer.emit, List.filter_append, announced.presence]
          simp [isState]
        · exact (states_stored announced found).subperm.trans announced.states
      | false =>
        refine ⟨announced.presence, ?_, waiting⟩
        exact List.Subperm.trans (((List.eraseIdx_sublist _ _).append_left _).subperm)
          announced.states
  | own _ _ => exact ⟨announced.presence, announced.states, announced.waiting⟩
  | request _ _ =>
    simp only [liveStep]
    split <;> exact ⟨announced.presence, announced.states, announced.waiting⟩
  | read _ | begin _ _ _ | heartbeat _ | close _ =>
    exact ⟨announced.presence, announced.states, announced.waiting⟩

/-- Every acknowledgement that waits is stored. -/
def Stores (live : LiveServer) : LiveInput → Prop
  | .stored position ok => position < live.acks.length → ok
  | _ => True

/-- Each acknowledgement was announced once, or still waits. -/
def AllAnnounced (live : LiveServer) : Prop :=
  (live.states ++ live.acks).Perm live.server.ackLog

/-- One event announces and stores all exactly if nothing was lost before and no state is lost. -/
theorem allAnnounced_step (crypto : ServerCrypto) (live : LiveServer) (input : LiveInput)
    (announced : Announced live) :
    AllAnnounced (liveStep crypto live input) ↔ AllAnnounced live ∧ Stores live input := by
  cases input with
  | server input =>
    obtain ⟨acks, told, ackLog, waiting, -, emitted, -, silent⟩ := server_announces crypto live input
    have states := states_told emitted silent
    rw [AllAnnounced, states, waiting, ackLog, ← List.append_assoc, List.perm_append_right_iff]
    exact (and_iff_left trivial).symm
  | stored position ok =>
    simp only [liveStep, Stores]
    split
    · rename_i outside
      have beyond := List.getElem?_eq_none_iff.mp outside
      exact (and_iff_left fun inside => absurd inside (Nat.not_lt.mpr beyond)).symm
    · rename_i event found
      obtain ⟨inside, -⟩ := List.getElem?_eq_some_iff.mp found
      cases ok with
      | true =>
        have same := states_stored announced found
        rw [and_iff_left fun _ => rfl]
        exact ⟨fun all => same.symm.trans all, fun all => same.trans all⟩
      | false =>
        -- One state fewer than there are acknowledgements.
        have fewer := announced.states.length_le
        have erased := List.length_eraseIdx_of_lt inside
        refine iff_of_false (fun all => ?_) fun both => by simpa using both.2 inside
        have equal := all.length_eq
        simp only [LiveServer.states, List.length_append, Bool.false_eq_true, if_false] at fewer equal
        omega
  | own _ _ => exact (and_iff_left trivial).symm
  | request _ _ =>
    simp only [liveStep]
    split <;> exact (and_iff_left trivial).symm
  | read _ | begin _ _ _ | heartbeat _ | close _ => exact (and_iff_left trivial).symm

end Ykp.Backend
