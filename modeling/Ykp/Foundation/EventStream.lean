import Mathlib.Data.List.TakeWhile
import Ykp.Foundation.Machine

/-! Event streams: messages written as blocks of lines, and a reader that takes them byte by byte. -/

namespace EventStream

abbrev Text := List UInt8

abbrev lineFeed : UInt8 := 0x0A
abbrev carriageReturn : UInt8 := 0x0D
abbrev colon : UInt8 := 0x3A
abbrev space : UInt8 := 0x20

/-- The fields that a message consists of, and the type of a message without one. -/
def dataName : Text := [0x64, 0x61, 0x74, 0x61]
def eventName : Text := [0x65, 0x76, 0x65, 0x6E, 0x74]
def messageType : Text := [0x6D, 0x65, 0x73, 0x73, 0x61, 0x67, 0x65]

/-- A message: its type and its data. -/
structure Message where
  type : Text
  data : Text
  deriving DecidableEq, Repr

/-- A message of the usual type. -/
def Message.plain (data : Text) : Message := ⟨messageType, data⟩

/-- A message as a block: a line of data, and an empty line. -/
def block (data : Text) : Text := dataName ++ colon :: space :: data ++ [lineFeed, lineFeed]

/-- A reader: the line it is in, whether it stands behind a carriage return, the fields of the message
it is in, and the messages it has dispatched. -/
structure Reader where
  line : Text
  afterReturn : Bool
  eventType : Text
  data : Text
  messages : List Message
  deriving DecidableEq, Repr

namespace Reader

/-- A reader between two messages. -/
def between (messages : List Message) : Reader := ⟨[], false, [], [], messages⟩

/-- An empty line dispatches what was read, unless there is no data. -/
def dispatch (reader : Reader) : Reader :=
  if reader.data = [] then { reader with eventType := [] }
  else
    let type := if reader.eventType = [] then messageType else reader.eventType
    -- Every line of data was put behind the others with a line feed.
    { reader with
      eventType := []
      data := []
      messages := reader.messages ++ [⟨type, reader.data.dropLast⟩] }

/-- A field; what is neither data nor a type is skipped. -/
def field (reader : Reader) (name value : Text) : Reader :=
  if name = dataName then { reader with data := reader.data ++ value ++ [lineFeed] }
  else if name = eventName then { reader with eventType := value }
  else reader

/-- The value of a field stands behind the colon, and behind a space if there is one. -/
def fieldValue (line : Text) : Text :=
  let value := (line.dropWhile (· != colon)).tail
  if value.head? = some space then value.tail else value

/-- A line ends. One that starts with a colon is a comment. -/
def endLine (reader : Reader) : Reader :=
  let line := reader.line
  let reader := { reader with line := [] }
  if line = [] then reader.dispatch
  else if line.head? = some colon then reader
  else reader.field (line.takeWhile (· != colon)) (fieldValue line)

/-- The next byte; a carriage return ends a line with or without a line feed behind it. -/
def step (reader : Reader) (byte : UInt8) : Reader :=
  if byte = lineFeed then
    if reader.afterReturn then { reader with afterReturn := false } else reader.endLine
  else if byte = carriageReturn then { reader.endLine with afterReturn := true }
  else { reader with
    line := reader.line ++ [byte]
    afterReturn := false }

end Reader

/-- What is in one line. -/
def OneLine (text : Text) : Prop := ∀ byte ∈ text, byte ≠ lineFeed ∧ byte ≠ carriageReturn

/-- The messages that are whole within the first bytes of a stream. -/
def wholeWithin : List Text → Nat → List Text
  | [], _ => []
  | data :: rest, count =>
    if (block data).length ≤ count then data :: wholeWithin rest (count - (block data).length) else []

/-- They are the first ones. -/
theorem wholeWithin_front (all : List Text) (count : Nat) : wholeWithin all count <+: all := by
  induction all generalizing count with
  | nil => exact List.nil_prefix
  | cons data rest ih =>
    rw [wholeWithin]
    split
    · exact List.cons_prefix_cons.mpr ⟨rfl, ih _⟩
    · exact List.nil_prefix

/-- In the whole stream it is all of them. -/
theorem wholeWithin_all {all : List Text} {count : Nat}
    (enough : (all.flatMap block).length ≤ count) : wholeWithin all count = all := by
  induction all generalizing count with
  | nil => rfl
  | cons data rest ih =>
    rw [List.flatMap_cons, List.length_append] at enough
    rw [wholeWithin, if_pos (by omega), ih (by omega)]

/-- A byte completes a message or none. -/
theorem step_messages (reader : Reader) (byte : UInt8) :
    reader.messages <+: (reader.step byte).messages := by
  have line : reader.messages <+: reader.endLine.messages := by
    simp only [Reader.endLine]
    split
    · simp only [Reader.dispatch]
      split
      · exact List.prefix_refl _
      · exact List.prefix_append _ _
    · split
      · exact List.prefix_refl _
      · simp only [Reader.field]
        split
        · exact List.prefix_refl _
        · split <;> exact List.prefix_refl _
  unfold Reader.step
  split
  · split
    · exact List.prefix_refl _
    · exact line
  · split
    · exact line
    · exact List.prefix_refl _

/-- More of a stream only adds messages. -/
theorem run_messages (reader : Reader) (text : Text) :
    reader.messages <+: (Machine.run Reader.step reader text).messages := by
  induction text generalizing reader with
  | nil => exact List.prefix_refl _
  | cons byte rest ih => exact (step_messages reader byte).trans (ih _)

section Reading

variable {messages : List Message}

/-- Bytes within a line are put behind it. -/
theorem run_line {text : Text} (single : OneLine text) (line eventType data : Text) :
    Machine.run Reader.step ⟨line, false, eventType, data, messages⟩ text =
      ⟨line ++ text, false, eventType, data, messages⟩ := by
  induction text generalizing line with
  | nil => rw [List.append_nil, Machine.run_nil]
  | cons byte rest ih =>
    have here := single byte List.mem_cons_self
    have later := ih (fun other member => single other (List.mem_cons_of_mem _ member))
      (line ++ [byte])
    rw [Machine.run_cons, Reader.step, if_neg here.1, if_neg here.2, later, List.append_assoc,
      List.singleton_append]

/-- The line of data in a block. -/
def dataLine (data : Text) : Text := dataName ++ colon :: space :: data

theorem oneLine_dataLine {data : Text} (single : OneLine data) : OneLine (dataLine data) := by
  have front : OneLine (dataName ++ [colon, space]) := by
    unfold OneLine
    decide
  rw [show dataLine data = (dataName ++ [colon, space]) ++ data by simp [dataLine]]
  exact List.forall_mem_append.mpr ⟨front, single⟩

/-- It ends, and is the data of the next message. -/
theorem endLine_dataLine (data : Text) :
    Reader.endLine ⟨dataLine data, false, [], [], messages⟩ =
      ⟨[], false, [], data ++ [lineFeed], messages⟩ := by
  have name : (dataLine data).takeWhile (· != colon) = dataName := rfl
  have value : Reader.fieldValue (dataLine data) = data := rfl
  simp only [Reader.endLine, name, value]
  rfl

/-- A line feed ends a line, unless a carriage return has just ended one. -/
theorem step_lineFeed (line eventType data : Text) :
    Reader.step ⟨line, false, eventType, data, messages⟩ lineFeed =
      Reader.endLine ⟨line, false, eventType, data, messages⟩ := rfl

/-- Data behind an empty line is a message. -/
theorem endLine_empty (data : Text) :
    Reader.endLine ⟨[], false, [], data ++ [lineFeed], messages⟩ =
      .between (messages ++ [.plain data]) := by
  simp [Reader.endLine, Reader.dispatch, Reader.between, Message.plain]

/-- A block is a message. -/
theorem run_block {data : Text} (single : OneLine data) :
    Machine.run Reader.step (.between messages) (block data) =
      .between (messages ++ [.plain data]) := by
  have shape : block data = dataLine data ++ [lineFeed, lineFeed] := by simp [block, dataLine]
  rw [shape, Machine.run_append, Reader.between, run_line (oneLine_dataLine single),
    List.nil_append, Machine.run_cons, Machine.run_cons, Machine.run_nil]
  -- The first line feed ends the data, the second one dispatches it.
  rw [step_lineFeed, endLine_dataLine, step_lineFeed, endLine_empty]

/-- The front of a block is none yet. -/
theorem run_unfinished {data : Text} (single : OneLine data) {count : Nat}
    (short : count < (block data).length) :
    (Machine.run Reader.step (.between messages) ((block data).take count)).messages = messages := by
  have shape : block data = (dataLine data ++ [lineFeed]) ++ [lineFeed] := by simp [block, dataLine]
  have line := oneLine_dataLine single
  have size : (block data).length = (dataLine data).length + 2 := by
    simp [shape]
  rw [Reader.between]
  by_cases inside : count ≤ (dataLine data).length
  · -- The line of data is not over.
    rw [shape, List.append_assoc, List.take_append_of_le_length inside,
      run_line fun byte member => line byte (List.mem_of_mem_take member)]
  · have whole : (block data).take count = dataLine data ++ [lineFeed] := by
      rw [shape]
      exact List.take_left' (by simp; omega)
    rw [whole, Machine.run_append, run_line line, List.nil_append, Machine.run_cons, Machine.run_nil,
      step_lineFeed, endLine_dataLine]

/-- From the first bytes of a stream exactly the messages are read that are whole in them. -/
theorem run_take {all : List Text} (single : ∀ data ∈ all, OneLine data) (count : Nat) :
    (Machine.run Reader.step (.between messages) ((all.flatMap block).take count)).messages =
      messages ++ (wholeWithin all count).map Message.plain := by
  induction all generalizing count messages with
  | nil => simp [wholeWithin, Reader.between]
  | cons data rest ih =>
    have here := single data List.mem_cons_self
    rw [List.flatMap_cons, wholeWithin, List.take_append]
    split
    · rename_i enough
      rw [List.take_of_length_le enough, Machine.run_append, run_block here,
        ih fun other member => single other (List.mem_cons_of_mem _ member), List.map_cons,
        List.append_assoc, List.singleton_append]
    · rename_i short
      rw [Nat.not_le] at short
      rw [Nat.sub_eq_zero_of_le (Nat.le_of_lt short), List.take_zero, List.append_nil,
        run_unfinished here short, List.map_nil, List.append_nil]

end Reading

end EventStream
