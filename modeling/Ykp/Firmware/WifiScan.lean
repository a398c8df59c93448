import Mathlib.Algebra.GroupWithZero.Nat
import Mathlib.Data.List.Forall2
import Ykp.Codec.Digits
import Ykp.Foundation.Json

/-! Scan results on their way to the phone: the list of networks, and the notification it becomes. -/

namespace Ykp.Firmware

/-- A network as the driver reports it. -/
structure ApRecord where
  ssid : Bytes
  rssi : Int
  short : ssid.length ≤ 32
  noNul : ∀ byte ∈ ssid, byte ≠ 0

/-- What a scan ends with: a failure, or networks, and whether there is memory for a list of them. -/
inductive ScanOutcome
  | failed
  | found (aps : List ApRecord) (allocated : Bool)

/-- The string that `snprintf` leaves in a buffer of a size: the last byte is the terminator's. -/
def snprintf (size : Nat) (text : Bytes) : Bytes := text.take (size - 1)

/-- An integer in decimal digits. -/
def intBytes (value : Int) : Bytes :=
  if value < 0 then 0x2D :: decimalBytes value.natAbs else decimalBytes value.natAbs

/-- A network in the list, with the comma that separates it from the next one. -/
def scanEntry (ap : ApRecord) (last : Bool) : Bytes :=
  textBytes "\x7b\"ssid\":\"" ++ ap.ssid ++ textBytes "\",\"rssi\":" ++ intBytes ap.rssi ++
    textBytes "\x7d" ++ if last then [] else textBytes ","

/-- The entries that fit behind what is written; one that does not is overwritten by the next. -/
def scanEntries (maxLen : Nat) : Bytes → List ApRecord → Bytes
  | json, [] => json
  | json, ap :: rest =>
    let entry := scanEntry ap rest.isEmpty
    -- The offset stays where it is when the entry was cut.
    let json := if entry.length < maxLen - json.length then json ++ entry else json
    scanEntries maxLen json rest

/-- The list without networks. -/
def emptyScan : Bytes := textBytes "\x7b\"scan_results\":[]\x7d"

/-- The list of at most ten networks. -/
def wifiManagerScan (maxLen : Nat) : ScanOutcome → Bytes
  | .failed => snprintf maxLen emptyScan
  | .found aps allocated =>
    if aps = [] then snprintf maxLen emptyScan
    else if allocated = false then snprintf maxLen emptyScan
    else
      let json := scanEntries maxLen (snprintf maxLen (textBytes "\x7b\"scan_results\":["))
        (aps.take 10)
      json ++ snprintf (maxLen - json.length) (textBytes "]\x7d")

/-- The sizes of the buffers on the way. -/
abbrev scanBufSize : Nat := 1280
abbrev formattedScanBufSize : Nat := 1536
abbrev notifyMsgSize : Nat := 512

/-- What stands in front of the list in its notification. -/
def scanPrefix (sessionId : UInt32) : Bytes :=
  textBytes "\x7b\"status\":\"scan_results\",\"session_id\":" ++ decimalBytes sessionId.toNat ++
    textBytes ",\"networks\":"

/-- The list in its notification, from its bracket on. -/
def formatScan (sessionId : UInt32) (scanBuf : Bytes) : Bytes :=
  match scanBuf.dropWhile (· != 0x5B) with
  | [] => snprintf formattedScanBufSize (scanPrefix sessionId ++ textBytes "[]\x7d")
  | arrayStart => snprintf formattedScanBufSize (scanPrefix sessionId ++ arrayStart)

/-- A message as it is queued, with the end of its line. -/
def bleNotifyEnqueue (message : Bytes) : Bytes := snprintf notifyMsgSize (message ++ [0x0A])

/-- The notification about a scan. -/
def wifiScanTask (sessionId : UInt32) (outcome : ScanOutcome) : Bytes :=
  bleNotifyEnqueue (formatScan sessionId (wifiManagerScan scanBufSize outcome))

/-- A network is listed by an object with its name and its strength. -/
def ListsNetwork (item : Json) (ap : ApRecord) : Prop :=
  ∃ members, item = .object members ∧
    Json.get? members (textBytes "ssid") = some (.string ap.ssid) ∧
    Json.get? members (textBytes "rssi") = some (.int ap.rssi)

/-- A notification is one line, ended by the only line end in it, and a JSON object that lists exactly
some networks in their order. -/
def DeliversNetworks (notification : Bytes) (aps : List ApRecord) : Prop :=
  ∃ line members items, notification = line ++ [0x0A] ∧ 0x0A ∉ line ∧
    Json.parse line = some (.object members) ∧
    Json.get? members (textBytes "networks") = some (.array items) ∧
    List.Forall₂ ListsNetwork items aps

/-- No name needs an escape, and the whole message with its line end fits into a notification. -/
def ScanFits (sessionId : UInt32) (aps : List ApRecord) : Prop :=
  (∀ ap ∈ aps, Json.Plain ap.ssid) ∧
    52 + (decimalBytes sessionId.toNat).length +
      (aps.map fun ap => 20 + ap.ssid.length + (intBytes ap.rssi).length).sum ≤ notifyMsgSize - 2

/-- The entries one behind the other. -/
def entriesText : List ApRecord → Bytes
  | [] => []
  | ap :: rest => scanEntry ap rest.isEmpty ++ entriesText rest

/-- A text that fits into a buffer is written as a whole. -/
theorem snprintf_fits {size : Nat} {text : Bytes} (fits : text.length < size) :
    snprintf size text = text :=
  List.take_of_length_le (by omega)

/-- Entries that fit are all kept. -/
theorem scanEntries_fits {maxLen : Nat} {json : Bytes} {aps : List ApRecord}
    (fits : json.length + (entriesText aps).length < maxLen) :
    scanEntries maxLen json aps = json ++ entriesText aps := by
  induction aps generalizing json with
  | nil => simp [scanEntries, entriesText]
  | cons ap rest ih =>
    rw [entriesText, List.length_append] at fits
    rw [scanEntries, if_pos (by omega), ih (by rw [List.length_append]; omega), entriesText,
      List.append_assoc]

/-- What a network takes of the message; the last one is followed by a bracket instead of a comma. -/
theorem entriesText_length (aps : List ApRecord) :
    (entriesText aps).length + (if aps = [] then 0 else 1) =
      (aps.map fun ap => 20 + ap.ssid.length + (intBytes ap.rssi).length).sum := by
  induction aps with
  | nil => rfl
  | cons ap rest ih =>
    have entry : (scanEntry ap rest.isEmpty).length =
        19 + ap.ssid.length + (intBytes ap.rssi).length + if rest = [] then 0 else 1 := by
      -- Only the texts around the name and the number have a fixed length.
      have front : (textBytes "\x7b\"ssid\":\"").length = 9 := by decide
      have middle : (textBytes "\",\"rssi\":").length = 9 := by decide
      have back : (textBytes "\x7d").length = 1 := by decide
      have separator : (textBytes ",").length = 1 := by decide
      unfold scanEntry
      cases rest <;> simp [front, middle, back, separator] <;> omega
    rw [entriesText, List.length_append, entry, List.map_cons, List.sum_cons, ← ih]
    simp only [List.cons_ne_nil, ↓reduceIte]
    omega

/-- The length of what stands in front of the list. -/
theorem scanPrefix_length (sessionId : UInt32) :
    (scanPrefix sessionId).length = 50 + (decimalBytes sessionId.toNat).length := by
  have front : (textBytes "\x7b\"status\":\"scan_results\",\"session_id\":").length = 38 := by decide
  have back : (textBytes ",\"networks\":").length = 12 := by decide
  simp only [scanPrefix, List.length_append, front, back]
  omega

/-- A session id has at most ten digits. -/
theorem sessionId_length (sessionId : UInt32) : (decimalBytes sessionId.toNat).length ≤ 10 := by
  have range := sessionId.toNat_lt
  unfold decimalBytes
  rw [List.length_map, Nat.length_toDigits_le_iff (by decide) (by decide)]
  omega

/-- The list of networks in its notification. -/
def networksText (aps : List ApRecord) : Bytes := 0x5B :: entriesText aps ++ textBytes "]\x7d"

/-- Behind the first bracket of the list the search for it ends. -/
theorem dropWhile_scan (rest : Bytes) :
    (textBytes "\x7b\"scan_results\":[" ++ rest).dropWhile (· != 0x5B) = 0x5B :: rest := rfl

/-- A list with all its networks is formatted from its bracket on. -/
theorem formatScan_fits {sessionId : UInt32} {rest : Bytes}
    (fits : (scanPrefix sessionId).length + rest.length + 1 < formattedScanBufSize) :
    formatScan sessionId (textBytes "\x7b\"scan_results\":[" ++ rest) =
      scanPrefix sessionId ++ 0x5B :: rest := by
  unfold formatScan
  rw [dropWhile_scan]
  exact snprintf_fits (by simpa [Nat.add_assoc] using fits)

/-- The list of all networks, when they fit. -/
theorem wifiManagerScan_fits {maxLen : Nat} {aps : List ApRecord} {allocated : Bool}
    (few : aps.length ≤ 10) (memory : allocated = true ∨ aps = [])
    (fits : 20 + (entriesText aps).length ≤ maxLen) :
    wifiManagerScan maxLen (.found aps allocated) =
      textBytes "\x7b\"scan_results\":[" ++ (entriesText aps ++ textBytes "]\x7d") := by
  have front : (textBytes "\x7b\"scan_results\":[").length = 17 := by decide
  have back : (textBytes "]\x7d").length = 2 := by decide
  have whole : emptyScan.length = 19 := by decide
  simp only [wifiManagerScan]
  by_cases empty : aps = []
  · -- An empty list is a text of its own, which is the same.
    rw [if_pos empty, snprintf_fits (by omega), empty]
    rfl
  · rw [if_neg empty, if_neg (by simpa using memory.resolve_right empty), snprintf_fits (by omega),
      List.take_of_length_le few, scanEntries_fits (by omega),
      snprintf_fits (by rw [List.length_append]; omega), List.append_assoc]

/-- A list that fits becomes a whole line. -/
theorem wifiScanTask_fits {sessionId : UInt32} {aps : List ApRecord} {allocated : Bool}
    (few : aps.length ≤ 10) (memory : allocated = true ∨ aps = [])
    (fits : (scanPrefix sessionId).length + (networksText aps).length ≤ notifyMsgSize - 2) :
    wifiScanTask sessionId (.found aps allocated) =
      scanPrefix sessionId ++ networksText aps ++ [0x0A] := by
  have shape : networksText aps = 0x5B :: (entriesText aps ++ textBytes "]\x7d") := rfl
  have back : (textBytes "]\x7d").length = 2 := by decide
  have sizes : scanBufSize = 1280 ∧ formattedScanBufSize = 1536 ∧ notifyMsgSize = 512 := by decide
  rw [shape] at fits ⊢
  simp only [List.length_cons, List.length_append, back] at fits
  unfold wifiScanTask
  rw [wifiManagerScan_fits few memory (by omega),
    formatScan_fits (by rw [List.length_append, back]; omega)]
  apply snprintf_fits
  simp only [List.length_append, List.length_cons, List.length_nil, back]
  omega

/-- The names in the notification. -/
def statusName : Bytes := textBytes "status"
def sessionIdName : Bytes := textBytes "session_id"
def networksName : Bytes := textBytes "networks"

section Parsing

open Json

/-- The start of a notification, part by part. -/
theorem scanPrefix_shape (sessionId : UInt32) (text : Bytes) :
    scanPrefix sessionId ++ text = openBrace :: quote :: (statusName ++ quote :: colon ::
      quote :: (textBytes "scan_results" ++ quote :: comma :: quote :: (sessionIdName ++ quote ::
        colon :: (intText sessionId.toNat ++ comma :: quote :: (networksName ++ quote :: colon ::
          text))))) := by
  have front : textBytes "\x7b\"status\":\"scan_results\",\"session_id\":" =
      openBrace :: quote :: (statusName ++ quote :: colon :: quote :: (textBytes "scan_results" ++
        quote :: comma :: quote :: (sessionIdName ++ [quote, colon]))) := by decide
  have back : textBytes ",\"networks\":" =
      comma :: quote :: (networksName ++ [quote, colon]) := by decide
  have written : intText (sessionId.toNat : Int) = decimalBytes sessionId.toNat := by
    unfold intText
    rw [if_neg (by omega)]
    rfl
  rw [scanPrefix, front, back, written]
  simp only [List.cons_append, List.append_assoc, List.nil_append]

/-- The start of a notification is read as the first two members of an object. -/
theorem value_scanPrefix (fuel : Nat) (sessionId : UInt32) (text : Bytes) :
    value (fuel + 4) (scanPrefix sessionId ++ text) =
      (members (fuel + 1) (quote :: (networksName ++ quote :: colon :: text))).map fun out =>
        (.object ((statusName, .string (textBytes "scan_results")) ::
          (sessionIdName, .int sessionId.toNat) :: out.1), out.2) := by
  have plain : Plain statusName ∧ Plain sessionIdName ∧ Plain (textBytes "scan_results") := by
    decide +kernel
  have ends : EndsNumber (comma :: quote :: (networksName ++ quote :: colon :: text)) := by
    intro byte first
    cases first
    decide
  have comma_ : isSpace comma = false := by decide
  rw [scanPrefix_shape, value_object,
    members_plain plain.1 comma_ (value_string plain.2.2 _ _), if_pos rfl,
    members_plain plain.2.1 comma_ (value_int _ _ ends), if_pos rfl, Option.map_map, Option.map_map]
  rfl

/-- A network's entry is read as the object that lists it. -/
theorem value_scanEntry {ap : ApRecord} (plain : Plain ap.ssid) (fuel : Nat) (rest : Bytes) :
    value (fuel + 4) (scanEntry ap true ++ rest) =
      some (.object [(textBytes "ssid", .string ap.ssid), (textBytes "rssi", .int ap.rssi)], rest) := by
  have names : Plain (textBytes "ssid") ∧ Plain (textBytes "rssi") := by decide +kernel
  have spaces : isSpace comma = false ∧ isSpace closeBrace = false := by decide
  have ends : EndsNumber (closeBrace :: rest) := by
    intro byte first
    cases first
    decide
  have shape : scanEntry ap true ++ rest = openBrace :: quote :: (textBytes "ssid" ++ quote :: colon ::
      quote :: (ap.ssid ++ quote :: comma :: quote :: (textBytes "rssi" ++ quote :: colon ::
        (intText ap.rssi ++ closeBrace :: rest)))) := by
    have front : textBytes "\x7b\"ssid\":\"" =
        openBrace :: quote :: (textBytes "ssid" ++ [quote, colon, quote]) := by decide
    have middle : textBytes "\",\"rssi\":" =
        quote :: comma :: quote :: (textBytes "rssi" ++ [quote, colon]) := by decide
    have back : textBytes "\x7d" = [closeBrace] := by decide
    have written : intBytes ap.rssi = intText ap.rssi := rfl
    rw [scanEntry, front, middle, back, written]
    simp only [List.cons_append, List.append_assoc, List.nil_append, ↓reduceIte]
  rw [shape, value_object, members_plain names.1 spaces.1 (value_string plain _ _), if_pos rfl,
    members_plain names.2 spaces.2 (value_int _ _ ends), if_neg (by decide), if_pos rfl]
  rfl

/-- The object that lists a network. -/
def networkJson (ap : ApRecord) : Json :=
  .object [(textBytes "ssid", .string ap.ssid), (textBytes "rssi", .int ap.rssi)]

/-- The entries are read as the items of an array. -/
theorem items_entries {aps : List ApRecord} (filled : aps ≠ []) (plain : ∀ ap ∈ aps, Plain ap.ssid)
    (fuel : Nat) (rest : Bytes) :
    items (fuel + aps.length + 4) (entriesText aps ++ closeBracket :: rest) =
      some (aps.map networkJson, rest) := by
  have spaces : isSpace comma = false ∧ isSpace closeBracket = false := by decide
  induction aps with
  | nil => exact absurd rfl filled
  | cons ap others ih =>
    have here := plain ap List.mem_cons_self
    have fuels : fuel + (ap :: others).length + 4 = fuel + others.length + 4 + 1 := by
      rw [List.length_cons]
      omega
    rw [fuels, entriesText]
    cases others with
    | nil =>
      -- The last entry stands in front of the bracket.
      have last : scanEntry ap true ++ entriesText [] ++ closeBracket :: rest =
          scanEntry ap true ++ closeBracket :: rest := by simp [entriesText]
      rw [List.isEmpty_nil, last,
        items_plain spaces.2 (value_scanEntry here _ (closeBracket :: rest)),
        if_neg (by decide), if_pos rfl]
      rfl
    | cons next others =>
      have entry : scanEntry ap (next :: others).isEmpty ++ entriesText (next :: others) ++
          closeBracket :: rest =
            scanEntry ap true ++ comma :: (entriesText (next :: others) ++ closeBracket :: rest) := by
        have separator : textBytes "," = [comma] := by decide
        simp [scanEntry, separator]
      have later := ih (by simp) (fun ap member => plain ap (List.mem_cons_of_mem _ member))
      rw [entry, items_plain spaces.1 (value_scanEntry here _ _), if_pos rfl, later]
      rfl

/-- The list is read as the array of its networks. -/
theorem value_networks {aps : List ApRecord} (plain : ∀ ap ∈ aps, Plain ap.ssid) (fuel : Nat) :
    value (fuel + aps.length + 5) (networksText aps) =
      some (.array (aps.map networkJson), [closeBrace]) := by
  have back : textBytes "]\x7d" = [closeBracket, closeBrace] := by decide
  -- An empty array is a case of its own for the parser, too.
  cases aps with
  | nil => exact value_emptyArray _ _
  | cons ap others =>
    have read := items_entries (List.cons_ne_nil ap others) plain fuel [closeBrace]
    have start : ∃ more, entriesText (ap :: others) ++ [closeBracket, closeBrace] =
        openBrace :: more := by
      have front : textBytes "\x7b\"ssid\":\"" =
        openBrace :: quote :: (textBytes "ssid" ++ [quote, colon, quote]) := by decide
      exact ⟨_, by rw [entriesText, scanEntry, front]; rfl⟩
    obtain ⟨more, start⟩ := start
    have shape : networksText (ap :: others) = openBracket :: openBrace :: more := by
      rw [networksText, back, ← start]
      rfl
    rw [shape, value_array, ← start, read]
    rfl

/-- A whole notification without its line end is read as an object that lists the networks. -/
theorem parse_scan {sessionId : UInt32} {aps : List ApRecord} (few : aps.length ≤ 10)
    (plain : ∀ ap ∈ aps, Plain ap.ssid) :
    parse (scanPrefix sessionId ++ networksText aps) =
      some (.object [(statusName, .string (textBytes "scan_results")),
        (sessionIdName, .int sessionId.toNat),
        (networksName, .array (aps.map networkJson))]) := by
  have name : Plain networksName := by decide +kernel
  have space : isSpace closeBrace = false := by decide
  -- The text has more bytes than the object has parts, so its length is fuel enough.
  have long : aps.length + 8 ≤ (scanPrefix sessionId ++ networksText aps).length := by
    rw [List.length_append, scanPrefix_length]
    omega
  obtain ⟨fuel, enough⟩ := Nat.exists_eq_add_of_le long
  have fuels : (scanPrefix sessionId ++ networksText aps).length + 1 =
      fuel + aps.length + 5 + 4 := by omega
  unfold parse
  rw [fuels, value_scanPrefix, members_plain name space (value_networks plain fuel),
    if_neg (by decide), if_pos rfl]
  rfl

/-- Whatever stands behind the start of a notification is longer than the value it gives the
networks. -/
theorem parse_scanPrefix {sessionId : UInt32} {text : Bytes} {all : List (Text × Json)} {found : Json}
    (read : parse (scanPrefix sessionId ++ text) = some (.object all))
    (got : get? all networksName = some found) : cost found + 1 ≤ text.length := by
  have long : 3 ≤ (scanPrefix sessionId ++ text).length := by
    rw [List.length_append, scanPrefix_length]
    omega
  obtain ⟨fuel, enough⟩ := Nat.exists_eq_add_of_le long
  have fuels : (scanPrefix sessionId ++ text).length + 1 = fuel + 4 := by omega
  unfold parse at read
  rw [fuels, value_scanPrefix] at read
  cases later : members (fuel + 1) (quote :: (networksName ++ quote :: colon :: text)) with
  | none => simp [later] at read
  | some out =>
    simp only [later, Option.map_some] at read
    split at read
    · cases read
      -- The first two members have other names.
      have names : networksName ≠ statusName ∧ networksName ≠ sessionIdName := by decide
      have member : (networksName, found) ∈ out.1 := by
        rcases List.mem_cons.mp (get?_mem got) with first | second
        · exact absurd (congrArg Prod.fst first) names.1
        · rcases List.mem_cons.mp second with second | third
          · exact absurd (congrArg Prod.fst second) names.2
          · exact third
      have taken := (parts_cost (fuel + 1)).2.2 _ _ later
      have part := memberCost_le member
      have name : memberCost (networksName, found) = 10 + 1 + cost found := rfl
      have length : networksName.length = 8 := by decide
      simp only [List.length_cons, List.length_append, length] at taken
      omega
    · cases read

/-- An array that lists some networks takes what their entries take, and more for each byte that needs
an escape. -/
theorem itemsCost_networks {listed : List Json} {aps : List ApRecord}
    (lists : List.Forall₂ ListsNetwork listed aps) :
    (aps.map fun ap => 20 + ap.ssid.length + (intBytes ap.rssi).length).sum +
      (aps.map fun ap => ap.ssid.countP special).sum ≤ itemsCost listed := by
  induction lists with
  | nil => exact Nat.le_refl _
  | @cons item ap rest others here _ ih =>
    -- A name and a signal are two members, so the object takes what both of them take.
    obtain ⟨all, rfl, ssid, rssi⟩ := here
    have names : textBytes "ssid" ≠ textBytes "rssi" := by decide
    have both := memberCost_add_le (fun same => names (congrArg Prod.fst same)) (get?_mem ssid)
      (get?_mem rssi)
    have first : memberCost (textBytes "ssid", .string ap.ssid) =
        6 + 1 + (2 + ap.ssid.length + ap.ssid.countP special) := rfl
    have second : memberCost (textBytes "rssi", .int ap.rssi) =
        6 + 1 + (intBytes ap.rssi).length := rfl
    have whole : itemsCost (.object all :: rest) = 1 + membersCost all + 1 + itemsCost rest := rfl
    rw [whole]
    simp only [List.map_cons, List.sum_cons]
    omega

end Parsing

/-- A notification starts with the text in front of the list, and at least one more byte. -/
theorem wifiScanTask_front (sessionId : UInt32) (outcome : ScanOutcome) :
    scanPrefix sessionId <+: wifiScanTask sessionId outcome ∧
      (scanPrefix sessionId).length + 2 ≤ (wifiScanTask sessionId outcome).length ∧
      (wifiScanTask sessionId outcome).length ≤ notifyMsgSize - 1 := by
  have digits := sessionId_length sessionId
  have length := scanPrefix_length sessionId
  have sizes : formattedScanBufSize = 1536 ∧ notifyMsgSize = 512 := by decide
  -- Whatever the scan ends with, something stands behind the text, and both buffers have room for it.
  obtain ⟨array, filled, formatted⟩ : ∃ array : Bytes, 0 < array.length ∧
      formatScan sessionId (wifiManagerScan scanBufSize outcome) =
        snprintf formattedScanBufSize (scanPrefix sessionId ++ array) := by
    unfold formatScan
    split
    · exact ⟨_, by decide, rfl⟩
    · rename_i other
      exact ⟨_, List.length_pos_iff.mpr other, rfl⟩
  unfold wifiScanTask bleNotifyEnqueue
  rw [formatted]
  unfold snprintf
  refine ⟨?_, ?_, ?_⟩
  · rw [List.prefix_take_iff]
    refine ⟨List.IsPrefix.trans ?_ (List.prefix_append _ _), by omega⟩
    rw [List.prefix_take_iff]
    exact ⟨List.prefix_append _ _, by omega⟩
  · simp only [List.length_take, List.length_append, List.length_singleton]
    omega
  · simp only [List.length_take]
    omega

/-- A notification that lists some networks is long enough for their entries. -/
theorem delivers_length {sessionId : UInt32} {outcome : ScanOutcome} {aps : List ApRecord}
    (delivers : DeliversNetworks (wifiScanTask sessionId outcome) aps) :
    (scanPrefix sessionId).length + 3 +
        (aps.map fun ap => 20 + ap.ssid.length + (intBytes ap.rssi).length).sum +
        (aps.map fun ap => ap.ssid.countP Json.special).sum ≤
      (wifiScanTask sessionId outcome).length := by
  obtain ⟨line, members, items, whole, -, read, got, lists⟩ := delivers
  obtain ⟨front, long, -⟩ := wifiScanTask_front sessionId outcome
  rw [whole] at front long ⊢
  rw [List.length_append, List.length_singleton] at long ⊢
  -- The line is the text and some value behind it, which costs as many bytes as its items.
  obtain ⟨text, rfl⟩ : scanPrefix sessionId <+: line :=
    List.prefix_of_prefix_length_le front (List.prefix_append _ _) (by omega)
  have enough := parse_scanPrefix read got
  have entries := itemsCost_networks lists
  have array : Json.cost (.array items) = 1 + Json.itemsCost items := rfl
  rw [List.length_append]
  omega

/-- Neither digits nor plain names end a line. -/
theorem noNewline (sessionId : UInt32) {aps : List ApRecord}
    (plain : ∀ ap ∈ aps, Json.Plain ap.ssid) :
    (0x0A : UInt8) ∉ scanPrefix sessionId ++ networksText aps := by
  -- The message consists of digits, of plain names and of fixed texts.
  have digits : ∀ value, (0x0A : UInt8) ∉ decimalBytes value := by
    intro value member
    exact absurd ((Json.decimal_digits value).1 _ member) (by decide)
  have number : ∀ value, (0x0A : UInt8) ∉ intBytes value := by
    intro value
    unfold intBytes
    split
    · simpa using digits _
    · exact digits _
  have front : (0x0A : UInt8) ∉
      textBytes "\x7b\"status\":\"scan_results\",\"session_id\":" := by decide
  have texts : (0x0A : UInt8) ∉ textBytes ",\"networks\":" ∧ (0x0A : UInt8) ∉ textBytes "]\x7d" ∧
      (0x0A : UInt8) ∉ textBytes "\x7b\"ssid\":\"" ∧ (0x0A : UInt8) ∉ textBytes "\",\"rssi\":" ∧
      (0x0A : UInt8) ∉ textBytes "\x7d" ∧ (0x0A : UInt8) ∉ textBytes "," := by decide
  have entries : (0x0A : UInt8) ∉ entriesText aps := by
    induction aps with
    | nil => simp [entriesText]
    | cons ap rest ih =>
      have name : (0x0A : UInt8) ∉ ap.ssid := by
        intro member
        exact absurd (plain ap List.mem_cons_self _ member) (by decide)
      have later := ih (fun ap member => plain ap (List.mem_cons_of_mem _ member))
      rw [entriesText, scanEntry]
      cases rest.isEmpty <;> simp [texts, number, name, later]
  simp [scanPrefix, networksText, front, texts, digits, entries]

/-- The whole message fits when the entries do. -/
theorem networksText_fits {sessionId : UInt32} {aps : List ApRecord}
    (fits : 52 + (decimalBytes sessionId.toNat).length +
      (aps.map fun ap => 20 + ap.ssid.length + (intBytes ap.rssi).length).sum ≤ notifyMsgSize - 2) :
    (scanPrefix sessionId).length + (networksText aps).length ≤ notifyMsgSize - 2 := by
  have sizes : notifyMsgSize = 512 := rfl
  have digits := sessionId_length sessionId
  have entries := entriesText_length aps
  have back : (textBytes "]\x7d").length = 2 := by decide
  rw [scanPrefix_length, networksText, List.length_append, List.length_cons, back]
  -- Every entry but the last one is followed by a comma.
  cases aps with
  | nil =>
    simp only [entriesText, List.length_nil]
    omega
  | cons ap rest =>
    rw [if_neg (List.cons_ne_nil ap rest)] at entries
    omega

/-- Without memory for a list none is reported. -/
theorem wifiScanTask_unallocated (sessionId : UInt32) {aps : List ApRecord} (filled : aps ≠ []) :
    (wifiScanTask sessionId (.found aps false)).length = (scanPrefix sessionId).length + 4 := by
  have digits := sessionId_length sessionId
  have length := scanPrefix_length sessionId
  have sizes : formattedScanBufSize = 1536 ∧ notifyMsgSize = 512 := by decide
  have back : (textBytes "]\x7d").length = 2 := by decide
  have empty : wifiManagerScan scanBufSize (.found aps false) =
      textBytes "\x7b\"scan_results\":[" ++ textBytes "]\x7d" := by
    simp only [wifiManagerScan]
    rw [if_neg filled, if_pos trivial]
    decide
  have written : (scanPrefix sessionId ++ 0x5B :: textBytes "]\x7d" ++ [0x0A]).length =
      (scanPrefix sessionId).length + 4 := by simp [back]
  unfold wifiScanTask bleNotifyEnqueue
  rw [empty, formatScan_fits (by omega), snprintf_fits (by omega), written]

/-- The notification about a scan is one line that lists exactly the networks found exactly when there
was memory for a list of them, no name needs an escape, and the message fits. -/
theorem scan_delivered_iff (sessionId : UInt32) {aps : List ApRecord} (few : aps.length ≤ 10)
    (allocated : Bool) :
    DeliversNetworks (wifiScanTask sessionId (.found aps allocated)) aps ↔
      ScanFits sessionId aps ∧ (allocated = true ∨ aps = []) := by
  have sizes : notifyMsgSize = 512 := rfl
  have prefixLength := scanPrefix_length sessionId
  constructor
  · intro delivers
    have long := delivers_length delivers
    have short := (wifiScanTask_front sessionId (.found aps allocated)).2.2
    have fits : 52 + (decimalBytes sessionId.toNat).length +
        (aps.map fun ap => 20 + ap.ssid.length + (intBytes ap.rssi).length).sum ≤
          notifyMsgSize - 2 := by omega
    cases aps with
    | nil => exact ⟨⟨(fun ap member => nomatch member), fits⟩, .inr rfl⟩
    | cons ap rest =>
      have filled : ap :: rest ≠ [] := List.cons_ne_nil ap rest
      -- Without memory the message would be too short for a network.
      have memory : allocated = true := by
        by_contra none
        rw [Bool.not_eq_true] at none
        rw [none, wifiScanTask_unallocated sessionId filled] at long
        simp only [List.map_cons, List.sum_cons] at long
        omega
      refine ⟨⟨?_, fits⟩, .inl memory⟩
      -- The message is exactly as long as it must be without an escape.
      have entries := entriesText_length (ap :: rest)
      have back : (textBytes "]\x7d").length = 2 := by decide
      rw [wifiScanTask_fits few (.inl memory) (networksText_fits fits)] at long
      rw [if_neg filled] at entries
      simp only [List.length_append, networksText, List.length_cons, List.length_nil, back] at long
      have none : ((ap :: rest).map fun ap => ap.ssid.countP Json.special).sum = 0 := by omega
      rw [List.sum_eq_zero_iff_forall_eq_nat] at none
      intro other member byte inside
      have plain := List.countP_eq_zero.mp (none _ (List.mem_map_of_mem member)) byte inside
      simpa using plain
  · rintro ⟨⟨plain, fits⟩, memory⟩
    refine ⟨_, _, _, wifiScanTask_fits few memory (networksText_fits fits),
      noNewline sessionId plain, parse_scan few plain, rfl, ?_⟩
    rw [List.forall₂_map_left_iff, List.forall₂_same]
    intro ap _
    exact ⟨_, rfl, rfl, rfl⟩

/-- A network whose name has a quote in it, and one whose name has all 32 bytes. -/
def quotedNetwork : ApRecord := ⟨[0x61, 0x22, 0x62], -50, by decide, by decide +kernel⟩
def longNetwork : ApRecord := ⟨List.replicate 32 0x61, -50, by decide, by decide +kernel⟩

theorem scan_delivered_iff_sample :
    DeliversNetworks (wifiScanTask 7 (.found [longNetwork, longNetwork] true))
        [longNetwork, longNetwork] ↔
      ScanFits 7 [longNetwork, longNetwork] ∧ (true = true ∨ [longNetwork, longNetwork] = []) :=
  scan_delivered_iff 7 (by decide) true

/-- Neither one network with a quote in its name nor ten networks with long names are delivered. -/
theorem scan_not_delivered :
    ¬ DeliversNetworks (wifiScanTask 7 (.found [quotedNetwork] true)) [quotedNetwork] ∧
      ¬ DeliversNetworks (wifiScanTask 7 (.found (List.replicate 10 longNetwork) true))
        (List.replicate 10 longNetwork) := by
  -- Both messages are shorter than a list of the networks would have to be.
  constructor
  · intro delivers
    have long := delivers_length delivers
    revert long
    decide +kernel
  · intro delivers
    have long := delivers_length delivers
    revert long
    decide +kernel

end Ykp.Firmware
