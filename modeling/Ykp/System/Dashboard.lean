import Ykp.Backend.Binding
import Ykp.Backend.StreamMessages
import Ykp.Foundation.EventStream

/-! The dashboard: a page that listens to the live stream, and what it shows of what the server
announces. -/

namespace Ykp.System

open Backend EventStream

/-- A value is an object of a certain type. -/
def hasType (value : Json) (word : String) : Bool :=
  match value with
  | .object members =>
    match Json.get? members (textBytes "type") with
    | some (.string text) => text = textBytes word
    | _ => false
  | _ => false

/-- What a page shows of the stream: at most fifty events, the newest first, and the last one of each
type. -/
@[ext] structure Dashboard where
  events : List Json
  few : events.length ≤ 50
  lastStateChange : Option Json
  lastPresenceChange : Option Json

namespace Dashboard

/-- An event is shown. -/
def add (page : Dashboard) (value : Json) : Dashboard :=
  let page :=
    { page with
      events := (value :: page.events).take 50
      few := List.length_take_le 50 _ }
  if hasType value "DEVICE_STATE_CHANGED" then { page with lastStateChange := some value }
  else if hasType value "DEVICE_PRESENCE_CHANGED" then { page with lastPresenceChange := some value }
  else page

/-- The data of a message. A ping is not shown, nor is what cannot be read; null has no type to look at. -/
def onmessage (page : Dashboard) (data : Bytes) : Dashboard :=
  match Json.parse data with
  | none | some .null => page
  | some value => if hasType value "PING" then page else page.add value

/-- Messages of other types than the usual one have no handler. -/
def handle (page : Dashboard) (message : Message) : Dashboard :=
  if message.type = messageType then page.onmessage message.data else page

end Dashboard

/-- The stream as a page receives it: the reader, the bytes received so far, and what the page shows.
What it showed when the stream was opened is not in the code. -/
structure Browser where
  reader : Reader
  received : Nat
  page : Dashboard
  opened : Dashboard

/-- A page opens a stream. -/
def Browser.start (page : Dashboard) : Browser := ⟨.between [], 0, page, page⟩

/-- A piece of what was written arrives, and the messages that it completes are handled. -/
def Browser.receive (browser : Browser) (written : Bytes) (count : Nat) : Browser :=
  let piece := (written.drop browser.received).take count
  let reader := Machine.run Reader.step browser.reader piece
  let newer := reader.messages.drop browser.reader.messages.length
  { browser with
    reader := reader
    received := browser.received + piece.length
    page := newer.foldl Dashboard.handle browser.page }

/-- The server and the pages that listen to it. -/
structure LiveSystem where
  live : LiveServer
  browsers : StreamId → Option Browser

inductive PageInput
  | live (input : LiveInput)
  /-- A page opens a stream; what it shows by then came from streams before. -/
  | opens (id : StreamId) (userId : UserId) (page : Dashboard)
  | receive (id : StreamId) (count : Nat)

/-- One event at the server or at a page. -/
def pageStep (crypto : ServerCrypto) (sys : LiveSystem) : PageInput → LiveSystem
  | .live input => { sys with live := liveStep crypto sys.live input }
  | .opens id userId page =>
    match sys.live.streams id with
    | none =>
      { live := liveStep crypto sys.live (.request id userId)
        browsers := Function.update sys.browsers id (some (.start page)) }
    | some _ => sys
  | .receive id count =>
    match sys.live.streams id, sys.browsers id with
    | some client, some browser =>
      { sys with
        browsers := Function.update sys.browsers id (some (browser.receive client.written count)) }
    | _, _ => sys

def pageRun (crypto : ServerCrypto) (inputs : List PageInput) : LiveSystem :=
  Machine.run (pageStep crypto) ⟨startLive, fun _ => none⟩ inputs

/-- What the server sees of an event. -/
def PageInput.atServer : PageInput → Option LiveInput
  | .live input => some input
  | .opens id userId _ => some (.request id userId)
  | .receive _ _ => none

/-- To the server a run is a run of its own. -/
theorem pageRun_live (crypto : ServerCrypto) (inputs : List PageInput) :
    (pageRun crypto inputs).live = liveRun crypto (inputs.filterMap PageInput.atServer) := by
  have run (sys : LiveSystem) : (Machine.run (pageStep crypto) sys inputs).live =
      Machine.run (liveStep crypto) sys.live (inputs.filterMap PageInput.atServer) := by
    induction inputs generalizing sys with
    | nil => rfl
    | cons input rest ih =>
      rw [Machine.run_cons, ih]
      cases input with
      | live input => rfl
      | receive id count =>
        simp only [pageStep]
        split <;> rfl
      | opens id userId page =>
        simp only [pageStep]
        split
        · rfl
        · rename_i client taken
          -- A request that was made before is not made again.
          simp [PageInput.atServer, liveStep, taken]
  exact run _

section Showing

/-- The type of a message. -/
def messageName : StreamMessage → String
  | .connected _ => "CONNECTED"
  | .event (.stateChanged _ _) => "DEVICE_STATE_CHANGED"
  | .event (.presenceChanged _ _) => "DEVICE_PRESENCE_CHANGED"
  | .ping => "PING"

/-- The last message of a type. -/
def latest (name : String) (messages : List StreamMessage) : Option Json :=
  ((messages.filter (messageName · = name)).getLast?).map StreamMessage.json

/-- What a page shows behind messages other than pings. -/
def Dashboard.shows (page : Dashboard) (messages : List StreamMessage) : Dashboard where
  events := ((messages.map StreamMessage.json).reverse ++ page.events).take 50
  few := List.length_take_le 50 _
  lastStateChange := (latest "DEVICE_STATE_CHANGED" messages).or page.lastStateChange
  lastPresenceChange := (latest "DEVICE_PRESENCE_CHANGED" messages).or page.lastPresenceChange

theorem latest_append (name : String) (first second : List StreamMessage) :
    latest name (first ++ second) = (latest name second).or (latest name first) := by
  rw [latest, latest, latest, List.filter_append, List.getLast?_append]
  cases (second.filter (messageName · = name)).getLast? <;> rfl

theorem shows_shows (page : Dashboard) (first second : List StreamMessage) :
    (page.shows first).shows second = page.shows (first ++ second) := by
  simp only [Dashboard.shows, latest_append, List.map_append, List.reverse_append, Option.or_assoc,
    List.append_assoc, Dashboard.mk.injEq, and_true]
  -- What was cut from the older events would be cut again.
  rw [List.take_append, List.take_take, List.take_append (i := 50)]
  congr 2
  omega

/-- A message names its type. -/
theorem hasType_json (message : StreamMessage) (word : String) :
    hasType message.json word ↔ textBytes (messageName message) = textBytes word := by
  have names : textBytes "timestamp" ≠ textBytes "type" ∧ textBytes "deviceId" ≠ textBytes "type" ∧
      textBytes "relay_state" ≠ textBytes "type" ∧ textBytes "is_online" ≠ textBytes "type" := by
    decide +kernel
  cases message with
  | event event =>
    cases event <;>
      simp [hasType, StreamMessage.json, Json.get?, textMember, messageName, names]
  | _ => simp [hasType, StreamMessage.json, Json.get?, textMember, messageName, names]

/-- No message has a fraction. -/
theorem json_exact (message : StreamMessage) : message.json.Exact := by
  cases message with
  | event event =>
    cases event <;> simp [StreamMessage.json, textMember, Json.Exact, Json.ExactMembers,
      Json.ExactMember]
  | _ => simp [StreamMessage.json, textMember, Json.Exact, Json.ExactMembers, Json.ExactMember]

/-- A message other than a ping is added. -/
theorem add_json (page : Dashboard) (message : StreamMessage) :
    page.add message.json = page.shows [message] := by
  have words : textBytes "CONNECTED" ≠ textBytes "DEVICE_STATE_CHANGED" ∧
      textBytes "CONNECTED" ≠ textBytes "DEVICE_PRESENCE_CHANGED" ∧
      textBytes "DEVICE_PRESENCE_CHANGED" ≠ textBytes "DEVICE_STATE_CHANGED" ∧
      textBytes "PING" ≠ textBytes "DEVICE_STATE_CHANGED" ∧
      textBytes "PING" ≠ textBytes "DEVICE_PRESENCE_CHANGED" := by
    decide +kernel
  cases message with
  | event event =>
    cases event <;>
      simp [Dashboard.add, hasType_json, messageName, Dashboard.shows, latest, words]
  | _ => simp [Dashboard.add, hasType_json, messageName, Dashboard.shows, latest, words]

/-- A page reads what a message was written as. -/
theorem onmessage_json (page : Dashboard) (message : StreamMessage) :
    page.onmessage message.json.render =
      if message = .ping then page else page.shows [message] := by
  have words : textBytes "CONNECTED" ≠ textBytes "PING" ∧
      textBytes "DEVICE_STATE_CHANGED" ≠ textBytes "PING" ∧
      textBytes "DEVICE_PRESENCE_CHANGED" ≠ textBytes "PING" := by
    decide +kernel
  have type := hasType_json message "PING"
  have added := add_json page message
  rw [Dashboard.onmessage, Json.parse_render (json_exact message)]
  cases message with
  | event event =>
    cases event <;> simp_all [messageName, StreamMessage.json]
  | _ => simp_all [messageName, StreamMessage.json]

/-- Messages one after the other. -/
theorem foldl_onmessage (page : Dashboard) (messages : List StreamMessage) :
    (messages.map fun message => message.json.render).foldl Dashboard.onmessage page =
      page.shows (messages.filter (· ≠ .ping)) := by
  induction messages generalizing page with
  | nil => simp [Dashboard.shows, latest, List.take_of_length_le page.few]
  | cons message rest ih =>
    rw [List.map_cons, List.foldl_cons, ih, onmessage_json, List.filter_cons]
    split
    · rename_i ping
      simp [ping]
    · rename_i other
      simp only [ne_eq, other, not_false_eq_true, decide_true, if_true]
      rw [shows_shows, List.singleton_append]

end Showing

section Receiving

/-- A message is written as a block of its text. -/
theorem text_eq_block (message : StreamMessage) : message.text = block message.json.render := by
  have front : textBytes "data: " = dataName ++ [colon, space] := by decide +kernel
  rw [StreamMessage.text, front, block, List.append_assoc, List.append_assoc]
  rfl

/-- It takes one line. -/
theorem oneLine_json (message : StreamMessage) : OneLine message.json.render := by
  intro byte member
  have printed := (Json.render_printed message.json (json_exact message) byte member).1
  constructor <;> rintro rfl <;> exact absurd printed (by decide)

/-- What a page has received was read from the front of what was written, and handled. -/
structure Browser.Reads (browser : Browser) (written : Bytes) : Prop where
  inside : browser.received ≤ written.length
  reader : browser.reader =
    Machine.run Reader.step (.between []) (written.take browser.received)
  page : browser.page = browser.reader.messages.foldl Dashboard.handle browser.opened

theorem reads_start (page : Dashboard) (written : Bytes) : (Browser.start page).Reads written :=
  ⟨Nat.zero_le _, rfl, rfl⟩

/-- More that is written changes nothing of it. -/
theorem Browser.Reads.more {browser : Browser} {written after : Bytes} (reads : browser.Reads written)
    (more : written <+: after) : browser.Reads after := by
  refine ⟨Nat.le_trans reads.inside more.length_le, ?_, reads.page⟩
  obtain ⟨rest, rfl⟩ := more
  rw [List.take_append_of_le_length reads.inside]
  exact reads.reader

theorem Browser.Reads.receive {browser : Browser} {written : Bytes} (reads : browser.Reads written)
    (count : Nat) : (browser.receive written count).Reads written := by
  have inside := reads.inside
  have piece : ((written.drop browser.received).take count).length ≤
      written.length - browser.received := by
    rw [← List.length_drop]
    exact List.length_take_le' count _
  refine ⟨?_, ?_, ?_⟩
  · simp only [Browser.receive]
    omega
  · simp only [Browser.receive]
    rw [reads.reader, ← Machine.run_append]
    congr 1
    -- The piece is what follows in what was written.
    rw [List.take_add, List.length_take, List.length_drop]
    congr 1
    rw [← List.length_drop, ← List.take_eq_take_min]
  · obtain ⟨newer, same⟩ :=
      run_messages browser.reader ((written.drop browser.received).take count)
    simp only [Browser.receive]
    rw [← same, List.drop_left, List.foldl_append, reads.page]

/-- What a page has received of a stream that is orderly is the front of its messages. -/
theorem Browser.Reads.shows {browser : Browser} {client : EventClient} (reads : browser.Reads client.written)
    (orderly : client.Orderly) :
    ∃ shown, shown <+: client.messages.filter (· ≠ .ping) ∧
      browser.page = browser.opened.shows shown ∧
      (browser.received = client.written.length → shown = client.messages.filter (· ≠ .ping)) := by
  let texts := client.messages.map fun message => message.json.render
  have written : client.written = texts.flatMap block := by
    rw [orderly.written, List.flatMap_map]
    exact congrArg List.flatten (List.map_congr_left fun message _ => text_eq_block message)
  have single : ∀ data ∈ texts, OneLine data := by
    rw [List.forall_mem_map]
    exact fun message _ => oneLine_json message
  have read : browser.reader.messages = (wholeWithin texts browser.received).map Message.plain := by
    rw [reads.reader, written, run_take single, List.nil_append]
  -- The messages that are whole are as many of the first ones.
  obtain ⟨count, whole⟩ : ∃ count, wholeWithin texts browser.received = texts.take count :=
    ⟨_, List.prefix_iff_eq_take.mp (wholeWithin_front texts browser.received)⟩
  refine ⟨(client.messages.take count).filter (· ≠ .ping), (List.take_prefix _ _).filter _, ?_, ?_⟩
  · have handled (page : Dashboard) (data : Bytes) : page.handle (.plain data) = page.onmessage data :=
      if_pos rfl
    rw [reads.page, read, whole, List.foldl_map, ← foldl_onmessage]
    simp only [handled, texts, ← List.map_take]
  · intro all
    have everything : wholeWithin texts browser.received = texts :=
      wholeWithin_all (Nat.le_of_eq (by rw [all, written]))
    rw [everything] at whole
    have enough : client.messages.length ≤ count := by
      have lengths := congrArg List.length whole
      rw [List.length_take, List.length_map] at lengths
      omega
    rw [List.take_of_length_le enough]

/-- Every page reads from the stream that it opened. -/
def LiveSystem.AllRead (sys : LiveSystem) : Prop :=
  ∀ id browser, sys.browsers id = some browser →
    ∃ client, sys.live.streams id = some client ∧ browser.Reads client.written

theorem LiveSystem.AllRead.step (crypto : ServerCrypto) {sys : LiveSystem} (kept : sys.AllRead)
    (input : PageInput) : (pageStep crypto sys input).AllRead := by
  have live (input : LiveInput) (id : StreamId) (browser : Browser)
      (watched : sys.browsers id = some browser) :
      ∃ client, (liveStep crypto sys.live input).streams id = some client ∧
        browser.Reads client.written := by
    obtain ⟨client, found, reads⟩ := kept id browser watched
    obtain ⟨after, still, more⟩ := liveStep_written crypto input found
    exact ⟨after, still, reads.more more⟩
  cases input with
  | live input => exact live input
  | opens id userId page =>
    simp only [pageStep]
    split
    · rename_i fresh
      intro other browser watched
      by_cases same : other = id
      · subst same
        simp only [Function.update_self, Option.some.injEq] at watched
        refine ⟨.request userId, ?_, watched ▸ reads_start page _⟩
        simp [liveStep, fresh]
      · simp only [Function.update_of_ne same] at watched
        exact live (.request id userId) other browser watched
    · exact kept
  | receive id count =>
    simp only [pageStep]
    split
    · rename_i client browser found watched
      intro other later watched'
      by_cases same : other = id
      · subst same
        simp only [Function.update_self, Option.some.injEq] at watched'
        obtain ⟨client', found', reads⟩ := kept other browser watched
        obtain rfl : client = client' := Option.some.inj (found.symm.trans found')
        exact ⟨client, found, watched' ▸ reads.receive count⟩
      · simp only [Function.update_of_ne same] at watched'
        exact kept other later watched'
    · exact kept

theorem allRead_run (crypto : ServerCrypto) (inputs : List PageInput) :
    (pageRun crypto inputs).AllRead := by
  have start : LiveSystem.AllRead ⟨startLive, fun _ => none⟩ := fun _ _ none => by cases none
  have keeps (sys : LiveSystem) (input : PageInput) (kept : sys.AllRead) :
      (pageStep crypto sys input).AllRead := kept.step crypto input
  exact Machine.invariant_reached keeps inputs start

end Receiving

/-- A page with nothing to show. -/
def blankPage : Dashboard := ⟨[], Nat.zero_le _, none, none⟩

/-- A page opens a stream, and its user's devices are looked up. -/
def samplePage : List PageInput :=
  [.live (.own sampleId (some 7)), .opens 0 7 blankPage, .live (.read 0)]

/-- A device connects and is disconnected, and the page receives what it is told. -/
def sampleDisconnect : List PageInput :=
  [.live (.server (.connect 1 [])), .live (.server (.message 1 (sampleHello 4))),
    .live (.server (.close 1)), .live (.heartbeat 0), .live (.server (.resume 1 true sampleDraws)),
    .receive 0 60, .receive 0 1000]

/-- Whatever a page shows of the streams is about devices that belonged to its user at some time. -/
theorem shown_owned (crypto : ServerCrypto) (inputs : List PageInput) {id : StreamId}
    {browser : Browser} (watched : (pageRun crypto inputs).browsers id = some browser) :
    ∃ client shown, (pageRun crypto inputs).live.streams id = some client ∧
      browser.page = browser.opened.shows shown ∧
      ∀ event, .event event ∈ shown → ∃ earlier, earlier <+: inputs.filterMap PageInput.atServer ∧
        event.deviceId ∈ (liveRun crypto earlier).devicesOf client.userId := by
  obtain ⟨client, found, reads⟩ := allRead_run crypto inputs id browser watched
  have atServer := found
  rw [pageRun_live] at atServer
  have orderly := orderly_run crypto _ atServer
  obtain ⟨shown, front, page, -⟩ := reads.shows orderly
  refine ⟨client, shown, found, page, fun event member => ?_⟩
  have among := List.mem_of_mem_filter (front.subset member)
  exact listed_run crypto _ atServer event.deviceId (orderly.told event among)

theorem shown_owned_sample :
    ∃ browser shown, (pageRun openCrypto (samplePage ++ .live (.begin 0 true 1) ::
        sampleDisconnect)).browsers 0 = some browser ∧
      browser.page = browser.opened.shows shown ∧
      ∀ event, StreamMessage.event event ∈ shown → ∃ earlier, earlier <+:
        (samplePage ++ .live (.begin 0 true 1) :: sampleDisconnect).filterMap PageInput.atServer ∧
        event.deviceId ∈ (liveRun openCrypto earlier).devicesOf 7 := by
  obtain ⟨browser, watched⟩ := Option.isSome_iff_exists.mp (show ((pageRun openCrypto
    (samplePage ++ .live (.begin 0 true 1) :: sampleDisconnect)).browsers 0).isSome by
      decide +kernel)
  obtain ⟨client, shown, found, page, owned⟩ := shown_owned openCrypto _ watched
  have user : ((pageRun openCrypto (samplePage ++ .live (.begin 0 true 1) ::
      sampleDisconnect)).live.streams 0).map (·.userId) = some 7 := by decide +kernel
  rw [found] at user
  have seven : client.userId = 7 := Option.some.inj user
  rw [seven] at owned
  exact ⟨browser, shown, watched, page, owned⟩

end Ykp.System
