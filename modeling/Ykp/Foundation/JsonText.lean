import Ykp.Foundation.Json

/-! JSON values as texts without white space, and back: every value but a fraction survives. -/

namespace Json

/-- What holds of all bytes of a text is decided along the text, not over all bytes. -/
instance (priority := 2000) decidableAllBytes (p : UInt8 → Prop) [DecidablePred p] (text : Text) :
    Decidable (∀ byte ∈ text, p byte) :=
  List.decidableBAll p text

/-- A hexadecimal digit in lower case. -/
def hexLetter (value : Nat) : UInt8 := UInt8.ofNat (if value < 10 then 0x30 + value else 0x57 + value)

/-- A byte of a string: a control character, a quote and a backslash need an escape. -/
def escaped (byte : UInt8) : Text :=
  if byte = quote ∨ byte = backslash then [backslash, byte]
  else if byte = 0x08 then [backslash, 0x62]
  else if byte = 0x0C then [backslash, 0x66]
  else if byte = 0x0A then [backslash, 0x6E]
  else if byte = 0x0D then [backslash, 0x72]
  else if byte = 0x09 then [backslash, 0x74]
  else if byte < 0x20 then
    [backslash, 0x75, zero, zero, hexLetter (byte.toNat / 16), hexLetter (byte.toNat % 16)]
  else [byte]

/-- A string in its quotes. -/
def quoted (text : Text) : Text := quote :: (text.flatMap escaped ++ [quote])

mutual

/-- A value as a text. -/
def render : Json → Text
  | .null => [0x6E, 0x75, 0x6C, 0x6C]
  | .bool true => [0x74, 0x72, 0x75, 0x65]
  | .bool false => [0x66, 0x61, 0x6C, 0x73, 0x65]
  | .int value => intText value
  | .real literal => literal
  | .string text => quoted text
  | .array items => openBracket :: renderItems items
  | .object members => openBrace :: renderMembers members

/-- The items of an array, up to its end. -/
def renderItems : List Json → Text
  | [] => [closeBracket]
  | [last] => render last ++ [closeBracket]
  | first :: rest => render first ++ comma :: renderItems rest

/-- The members of an object, up to its end. -/
def renderMembers : List (Text × Json) → Text
  | [] => [closeBrace]
  | [last] => renderMember last ++ [closeBrace]
  | first :: rest => renderMember first ++ comma :: renderMembers rest

def renderMember : Text × Json → Text
  | (name, value) => quoted name ++ colon :: render value

end

mutual

/-- A value without a number that is kept as it is written. -/
def Exact : Json → Prop
  | .real _ => False
  | .array items => ExactItems items
  | .object members => ExactMembers members
  | _ => True

def ExactItems : List Json → Prop
  | [] => True
  | first :: rest => Exact first ∧ ExactItems rest

def ExactMembers : List (Text × Json) → Prop
  | [] => True
  | first :: rest => ExactMember first ∧ ExactMembers rest

def ExactMember : Text × Json → Prop
  | (_, value) => Exact value

end

mutual

/-- The strings of a value, names included, are ASCII. -/
def Ascii : Json → Prop
  | .string text => ∀ byte ∈ text, byte < 0x80
  | .array items => AsciiItems items
  | .object members => AsciiMembers members
  | _ => True

def AsciiItems : List Json → Prop
  | [] => True
  | first :: rest => Ascii first ∧ AsciiItems rest

def AsciiMembers : List (Text × Json) → Prop
  | [] => True
  | first :: rest => AsciiMember first ∧ AsciiMembers rest

def AsciiMember : Text × Json → Prop
  | (name, value) => (∀ byte ∈ name, byte < 0x80) ∧ Ascii value

end

/-- A byte that is printed: ASCII, and no control character. -/
def Visible (byte : UInt8) : Prop := 0x20 ≤ byte ∧ byte < 0x80

instance (byte : UInt8) : Decidable (Visible byte) := inferInstanceAs (Decidable (_ ∧ _))

/-- The byte of a control character, by its number in hexadecimal digits. -/
theorem controlEscape : ∀ code < 0x20, hexValue (hexLetter (code / 16)) = some (code / 16) ∧
    hexValue (hexLetter (code % 16)) = some (code % 16) ∧ utf8 code = [UInt8.ofNat code] := by
  decide

/-- A control character is read back from its number. -/
theorem unicodeEscape_control {code : Nat} (control : code < 0x20) (rest : Text) :
    unicodeEscape (zero :: zero :: hexLetter (code / 16) :: hexLetter (code % 16) :: rest) =
      some ([UInt8.ofNat code], rest) := by
  obtain ⟨high, low, byte⟩ := controlEscape code control
  have none : hexValue zero = some 0 := by decide
  have unit : hexUnit (zero :: zero :: hexLetter (code / 16) :: hexLetter (code % 16) :: rest) =
      some (code, rest) := by
    simp only [hexUnit, none, high, low]
    rw [show ((0 * 16 + 0) * 16 + code / 16) * 16 + code % 16 = code by omega]
  rw [unicodeEscape, unit]
  dsimp only
  -- The number is too small for one half of a character.
  rw [if_neg (by omega), if_neg (by omega), byte]

/-- A byte of a string is read back, whether it is escaped or not. -/
theorem body_escaped (byte : UInt8) (fuel : Nat) (text : Text) :
    body (fuel + 1) (escaped byte ++ text) =
      (body fuel text).map fun out => (byte :: out.1, out.2) := by
  have behind {letter : UInt8} {rest : Text} (reads : escape (letter :: rest) = some ([byte], text)) :
      body (fuel + 1) (backslash :: letter :: rest) =
        (body fuel text).map fun out => (byte :: out.1, out.2) := by
    rw [body, if_neg (by decide), if_pos rfl, reads]
    rfl
  unfold escaped
  -- One case for each kind of escape.
  split_ifs with same backspace feed line return_ tab control
  · refine behind ?_
    rcases same with rfl | rfl <;> rfl
  · subst backspace
    exact behind rfl
  · subst feed
    exact behind rfl
  · subst line
    exact behind rfl
  · subst return_
    exact behind rfl
  · subst tab
    exact behind rfl
  · refine behind ?_
    have small : byte.toNat < 0x20 := UInt8.lt_iff_toNat_lt.mp control
    have read := unicodeEscape_control small text
    rw [UInt8.ofNat_toNat] at read
    exact read
  · rw [List.singleton_append, body, if_neg fun quote_ => same (.inl quote_),
      if_neg fun back => same (.inr back), if_neg control]

/-- Every byte takes one at least. -/
theorem escaped_length (byte : UInt8) : 1 ≤ (escaped byte).length := by
  unfold escaped
  split_ifs <;> simp

theorem flatMap_escaped_length (text : Text) : text.length ≤ (text.flatMap escaped).length := by
  induction text with
  | nil => exact Nat.le_refl _
  | cons byte rest ih =>
    have one := escaped_length byte
    rw [List.flatMap_cons, List.length_append, List.length_cons]
    omega

/-- A string behind its opening quote is read back. -/
theorem body_quoted {fuel : Nat} {text : Text} (enough : text.length < fuel) (rest : Text) :
    body fuel (text.flatMap escaped ++ quote :: rest) = some (text, rest) := by
  -- Each byte takes one step, and the closing quote the last one.
  induction text generalizing fuel with
  | nil =>
    cases fuel with
    | zero => cases enough
    | succ fuel => rfl
  | cons byte text ih =>
    cases fuel with
    | zero => cases enough
    | succ fuel =>
      rw [List.flatMap_cons, List.append_assoc, body_escaped,
        ih (Nat.lt_of_succ_lt_succ enough)]
      rfl

/-- A string among the parts of a value. -/
theorem value_quoted (text : Text) (fuel : Nat) (rest : Text) :
    value (fuel + 1) (quoted text ++ rest) = some (.string text, rest) := by
  have shape : quoted text ++ rest = quote :: (text.flatMap escaped ++ quote :: rest) := by
    simp [quoted]
  have start : skipSpace (quote :: (text.flatMap escaped ++ quote :: rest)) =
      quote :: (text.flatMap escaped ++ quote :: rest) := rfl
  have inside := flatMap_escaped_length text
  rw [shape, value, start]
  dsimp only
  rw [if_pos rfl, body_quoted (by rw [List.length_append]; omega)]
  rfl

/-- A member whose value is followed by a comma or by the end of the object. -/
theorem members_quoted (name : Text) {fuel : Nat} {text rest : Text} {first : Json} {byte : UInt8}
    (space : isSpace byte = false) (read : value fuel text = some (first, byte :: rest)) :
    members (fuel + 1) (quoted name ++ colon :: text) =
      if byte = comma then (members fuel rest).map fun out => ((name, first) :: out.1, out.2)
      else if byte = closeBrace then some ([(name, first)], rest) else none := by
  have shape : quoted name ++ colon :: text =
      quote :: (name.flatMap escaped ++ quote :: colon :: text) := by simp [quoted]
  have start : skipSpace (quote :: (name.flatMap escaped ++ quote :: colon :: text)) =
      quote :: (name.flatMap escaped ++ quote :: colon :: text) := rfl
  have middle : skipSpace (colon :: text) = colon :: text := rfl
  have stop : skipSpace (byte :: rest) = byte :: rest := by
    unfold skipSpace
    rw [List.dropWhile_cons_of_neg (by simp [space])]
  have inside := flatMap_escaped_length name
  have enough : name.length <
      (quote :: (name.flatMap escaped ++ quote :: colon :: text)).length + 1 := by
    simp only [List.length_cons, List.length_append]
    omega
  rw [shape, members, start, List.head?_cons, if_pos rfl, List.tail_cons, body_quoted enough]
  dsimp only
  rw [middle, List.head?_cons, if_pos rfl, List.tail_cons, read]
  dsimp only
  rw [stop]

/-- A value starts with a byte that neither is white space nor ends an array. -/
theorem render_start {v : Json} (exact_ : v.Exact) :
    ∃ byte more, render v = byte :: more ∧ isSpace byte = false ∧ byte ≠ closeBracket := by
  cases v with
  | null => exact ⟨_, _, render.eq_1, by decide⟩
  | bool value => cases value <;> exact ⟨_, _, by rw [render], by decide⟩
  | int value =>
    obtain ⟨digits, first, others, shape, -⟩ := decimal_digits value.natAbs
    rw [render, intText]
    split
    · exact ⟨minus, _, rfl, by decide⟩
    · have digit := digits first (by rw [shape]; exact List.mem_cons_self)
      refine ⟨first, others, shape, (numberStart (.inr digit)).1, ?_⟩
      rintro rfl
      exact absurd digit (by decide)
  | real literal => exact absurd exact_ (by rw [Exact]; exact id)
  | string text => exact ⟨quote, _, by rw [render, quoted], by decide⟩
  | array items => exact ⟨openBracket, _, by rw [render], by decide⟩
  | object members => exact ⟨openBrace, _, by rw [render], by decide⟩

/-- Nothing that follows a value in a text could be a part of a number. -/
theorem endsNumber_cons {byte : UInt8} (rest : Text)
    (other : byte = comma ∨ byte = closeBracket ∨ byte = closeBrace) : EndsNumber (byte :: rest) := by
  intro first same
  obtain rfl := Option.some.inj same
  rcases other with rfl | rfl | rfl <;> decide

/-- The items of an array that is not empty start like a value. -/
theorem renderItems_start {all : List Json} (exact_ : ExactItems all) (filled : all ≠ []) :
    ∃ byte more, renderItems all = byte :: more ∧ isSpace byte = false ∧ byte ≠ closeBracket := by
  cases all with
  | nil => exact absurd rfl filled
  | cons first rest =>
    rw [ExactItems] at exact_
    obtain ⟨byte, more, shape, start⟩ := render_start exact_.1
    cases rest with
    | nil => exact ⟨byte, _, by rw [renderItems, shape, List.cons_append], start⟩
    | cons second others => exact ⟨byte, _, by rw [renderItems, shape, List.cons_append]; simp, start⟩

/-- The members of an object that is not empty start with a quote. -/
theorem renderMembers_start {all : List (Text × Json)} (filled : all ≠ []) :
    ∃ more, renderMembers all = quote :: more := by
  cases all with
  | nil => exact absurd rfl filled
  | cons first rest =>
    obtain ⟨name, v⟩ := first
    cases rest with
    | nil => exact ⟨_, by rw [renderMembers, renderMember, quoted, List.cons_append, List.cons_append]⟩
    | cons second others =>
      exact ⟨_, by rw [renderMembers, renderMember, quoted, List.cons_append, List.cons_append]; simp⟩

/-- An array that does not end at once. -/
theorem value_items {byte : UInt8} (space : isSpace byte = false) (other : byte ≠ closeBracket)
    (fuel : Nat) (more : Text) :
    value (fuel + 1) (openBracket :: byte :: more) =
      (items fuel (byte :: more)).map fun out => (.array out.1, out.2) := by
  have start : skipSpace (openBracket :: byte :: more) = openBracket :: byte :: more := rfl
  have inside : skipSpace (byte :: more) = byte :: more := by
    unfold skipSpace
    rw [List.dropWhile_cons_of_neg (by simp [space])]
  rw [value, start]
  dsimp only
  rw [if_neg (by decide), if_neg (by decide), if_pos rfl, inside, List.head?_cons,
    if_neg fun same => other (Option.some.inj same)]

/-- An object that is closed at once. -/
theorem value_emptyObject (fuel : Nat) (rest : Text) :
    value (fuel + 1) (openBrace :: closeBrace :: rest) = some (.object [], rest) := by
  have start : skipSpace (openBrace :: closeBrace :: rest) = openBrace :: closeBrace :: rest := rfl
  have inside : skipSpace (closeBrace :: rest) = closeBrace :: rest := rfl
  rw [value, start]
  dsimp only
  rw [if_neg (by decide), if_pos rfl, inside, List.head?_cons, if_pos rfl, List.tail_cons]

mutual

/-- A value is read back from its text, whatever stands behind it. -/
theorem value_render : (v : Json) → v.Exact → ∀ {fuel : Nat} {rest : Text},
    (render v).length ≤ fuel → EndsNumber rest →
      value (fuel + 1) (render v ++ rest) = some (v, rest)
  | .null, _, fuel, rest, _, _ => by rw [render]; rfl
  | .bool true, _, fuel, rest, _, _ => by rw [render]; rfl
  | .bool false, _, fuel, rest, _, _ => by rw [render]; rfl
  | .int k, _, fuel, rest, _, ends => by rw [render]; exact value_int k fuel ends
  | .real literal, exact_, _, _, _, _ => absurd exact_ (by rw [Exact]; exact id)
  | .string text, _, fuel, rest, _, _ => by rw [render]; exact value_quoted text fuel rest
  | .array [], _, fuel, rest, _, _ => by
    rw [render, renderItems]
    exact value_emptyArray fuel rest
  | .array (first :: others), exact_, 0, rest, enough, _ => by
    rw [render] at enough
    cases enough
  | .array (first :: others), exact_, fuel + 1, rest, enough, _ => by
    rw [Exact] at exact_
    rw [render, List.length_cons] at enough
    -- The items take one step less than the whole array.
    have read := @items_render (first :: others) exact_ (List.cons_ne_nil _ _) fuel rest (by omega)
    obtain ⟨byte, more, shape, space, other⟩ := renderItems_start exact_ (List.cons_ne_nil _ _)
    rw [shape, List.cons_append] at read
    rw [render, shape, List.cons_append, List.cons_append, value_items space other, read]
    rfl
  | .object [], _, fuel, rest, _, _ => by
    rw [render, renderMembers]
    exact value_emptyObject fuel rest
  | .object (first :: others), exact_, 0, rest, enough, _ => by
    rw [render] at enough
    cases enough
  | .object (first :: others), exact_, fuel + 1, rest, enough, _ => by
    rw [Exact] at exact_
    rw [render, List.length_cons] at enough
    have read := @members_render (first :: others) exact_ (List.cons_ne_nil _ _) fuel rest (by omega)
    obtain ⟨more, shape⟩ := renderMembers_start (List.cons_ne_nil first others)
    rw [shape, List.cons_append] at read
    rw [render, shape, List.cons_append, List.cons_append, value_object, read]
    rfl

/-- Items are read back up to the end of their array. -/
theorem items_render : (all : List Json) → ExactItems all → all ≠ [] → ∀ {fuel : Nat} {rest : Text},
    (renderItems all).length ≤ fuel →
      items (fuel + 1) (renderItems all ++ rest) = some (all, rest)
  | [], _, filled, _, _, _ => absurd rfl filled
  | [_], _, _, 0, _, enough => by
    rw [renderItems, List.length_append, List.length_singleton] at enough
    omega
  | [last], exact_, _, fuel + 1, rest, enough => by
    rw [ExactItems] at exact_
    rw [renderItems, List.length_append, List.length_singleton] at enough
    have read := @value_render last exact_.1 fuel (closeBracket :: rest) (by omega)
      (endsNumber_cons rest (.inr (.inl rfl)))
    rw [renderItems, List.append_assoc, List.singleton_append, items_plain (by decide) read,
      if_neg (by decide), if_pos rfl]
  | _ :: _ :: _, _, _, 0, _, enough => by
    rw [renderItems, List.length_append, List.length_cons] at enough
    · omega
    · simp
  | first :: second :: others, exact_, _, fuel + 1, rest, enough => by
    rw [ExactItems] at exact_
    have shape : renderItems (first :: second :: others) =
        render first ++ comma :: renderItems (second :: others) := by
      rw [renderItems]
      simp
    rw [shape, List.length_append, List.length_cons] at enough
    -- The first item and its comma leave steps enough for the others.
    have here := @value_render first exact_.1 fuel (comma :: (renderItems (second :: others) ++ rest))
      (by omega) (endsNumber_cons _ (.inl rfl))
    have later := @items_render (second :: others) exact_.2 (List.cons_ne_nil _ _) fuel rest
      (by omega)
    rw [shape, List.append_assoc, List.cons_append, items_plain (by decide) here, if_pos rfl, later]
    rfl

/-- Members are read back up to the end of their object. -/
theorem members_render : (all : List (Text × Json)) → ExactMembers all → all ≠ [] →
    ∀ {fuel : Nat} {rest : Text}, (renderMembers all).length ≤ fuel →
      members (fuel + 1) (renderMembers all ++ rest) = some (all, rest)
  | [], _, filled, _, _, _ => absurd rfl filled
  | [(_, _)], _, _, 0, _, enough => by
    rw [renderMembers, List.length_append, List.length_singleton] at enough
    omega
  | [(name, v)], exact_, _, fuel + 1, rest, enough => by
    rw [ExactMembers, ExactMember] at exact_
    rw [renderMembers, renderMember, List.length_append, List.length_append, List.length_cons,
      List.length_singleton] at enough
    have read := @value_render v exact_.1 fuel (closeBrace :: rest) (by omega)
      (endsNumber_cons rest (.inr (.inr rfl)))
    have shape : renderMembers [(name, v)] ++ rest =
        quoted name ++ colon :: (render v ++ closeBrace :: rest) := by
      rw [renderMembers, renderMember]
      simp
    rw [shape, members_quoted name (by decide) read, if_neg (by decide), if_pos rfl]
  | (_, _) :: _ :: _, _, _, 0, _, enough => by
    rw [renderMembers, List.length_append, List.length_cons] at enough
    · omega
    · simp
  | (name, v) :: second :: others, exact_, _, fuel + 1, rest, enough => by
    rw [ExactMembers, ExactMember] at exact_
    have shape : renderMembers ((name, v) :: second :: others) =
        quoted name ++ colon :: (render v ++ comma :: renderMembers (second :: others)) := by
      rw [renderMembers, renderMember]
      · simp
      · simp
    rw [shape, List.length_append, List.length_cons, List.length_append, List.length_cons] at enough
    have here := @value_render v exact_.1 fuel
      (comma :: (renderMembers (second :: others) ++ rest)) (by omega)
      (endsNumber_cons _ (.inl rfl))
    have later := @members_render (second :: others) exact_.2 (List.cons_ne_nil _ _) fuel rest
      (by omega)
    rw [shape, List.append_assoc, List.cons_append, List.append_assoc, List.cons_append,
      members_quoted name (by decide) here, if_pos rfl, later]
    rfl

end

/-- No control character, and ASCII where the strings are. -/
def Printed (ascii : Prop) (byte : UInt8) : Prop := 0x20 ≤ byte ∧ (ascii → byte < 0x80)

theorem Visible.printed {byte : UInt8} (visible : Visible byte) (ascii : Prop) : Printed ascii byte :=
  ⟨visible.1, fun _ => visible.2⟩

theorem Printed.mono {byte : UInt8} {ascii other : Prop} (printed : Printed ascii byte)
    (more : other → ascii) : Printed other byte :=
  ⟨printed.1, fun holds => printed.2 (more holds)⟩

/-- A string is printed in its quotes. -/
theorem quoted_printed (text : Text) :
    ∀ byte ∈ quoted text, Printed (∀ byte ∈ text, byte < 0x80) byte := by
  have one (byte : UInt8) : ∀ other ∈ escaped byte, Printed (byte < 0x80) other := by
    have letters : ∀ value < 16, Visible (hexLetter value) := by decide
    have pair {first second : UInt8} (visible : Visible first ∧ Visible second) :
        ∀ other ∈ [first, second], Printed (byte < 0x80) other := by
      simp [visible.1.printed, visible.2.printed]
    have range := byte.toNat_lt
    unfold escaped
    split_ifs with same _ _ _ _ _ control
    · rcases same with rfl | rfl <;> exact pair (by decide)
    · exact pair (by decide)
    · exact pair (by decide)
    · exact pair (by decide)
    · exact pair (by decide)
    · exact pair (by decide)
    · have high := (letters (byte.toNat / 16) (by omega)).printed (byte < 0x80)
      have low := (letters (byte.toNat % 16) (by omega)).printed (byte < 0x80)
      simp only [List.forall_mem_cons]
      refine ⟨?_, ?_, ?_, ?_, high, low, nofun⟩ <;> exact Visible.printed (by decide) _
    · exact List.forall_mem_singleton.mpr ⟨by simpa using control, id⟩
  intro byte member
  rw [quoted, List.mem_cons, List.mem_append, List.mem_singleton] at member
  rcases member with rfl | inside | rfl
  · exact Visible.printed (by decide) _
  · obtain ⟨other, among, escapes⟩ := List.mem_flatMap.mp inside
    exact (one other byte escapes).mono fun ascii => ascii other among
  · exact Visible.printed (by decide) _

mutual

/-- The text of a value is printed. -/
theorem render_printed : (v : Json) → v.Exact → ∀ byte ∈ render v, Printed v.Ascii byte
  | .null, _ => by
    have word : ∀ byte ∈ render .null, Visible byte := by rw [render]; decide +kernel
    exact fun byte member => (word byte member).printed _
  | .bool true, _ => by
    have word : ∀ byte ∈ render (.bool true), Visible byte := by rw [render]; decide +kernel
    exact fun byte member => (word byte member).printed _
  | .bool false, _ => by
    have word : ∀ byte ∈ render (.bool false), Visible byte := by rw [render]; decide +kernel
    exact fun byte member => (word byte member).printed _
  | .int k, _ => by
    have digits (digit : UInt8) (member : digit ∈ decimal k.natAbs) : Visible digit := by
      have range := isDigit_iff.mp ((decimal_digits k.natAbs).1 digit member)
      exact ⟨UInt8.le_iff_toNat_le.mpr (Nat.le_trans (by decide) range.1),
        UInt8.lt_iff_toNat_lt.mpr (Nat.lt_of_le_of_lt range.2 (by decide))⟩
    intro byte member
    rw [render, intText] at member
    split at member
    · rcases List.mem_cons.mp member with rfl | digit
      · exact Visible.printed (by decide) _
      · exact (digits byte digit).printed _
    · exact (digits byte member).printed _
  | .real literal, exact_ => absurd exact_ (by rw [Exact]; exact id)
  | .string text, _ => by
    rw [render, Ascii]
    exact quoted_printed text
  | .array all, exact_ => by
    rw [Exact] at exact_
    rw [render, Ascii, List.forall_mem_cons]
    exact ⟨Visible.printed (by decide) _, renderItems_printed all exact_⟩
  | .object all, exact_ => by
    rw [Exact] at exact_
    rw [render, Ascii, List.forall_mem_cons]
    exact ⟨Visible.printed (by decide) _, renderMembers_printed all exact_⟩

theorem renderItems_printed : (all : List Json) → ExactItems all →
    ∀ byte ∈ renderItems all, Printed (AsciiItems all) byte
  | [], _ => by
    rw [renderItems, List.forall_mem_singleton]
    exact Visible.printed (by decide) _
  | [last], exact_ => by
    rw [ExactItems] at exact_
    rw [renderItems, List.forall_mem_append, List.forall_mem_singleton, AsciiItems]
    exact ⟨fun byte member => (render_printed last exact_.1 byte member).mono And.left,
      Visible.printed (by decide) _⟩
  | first :: second :: others, exact_ => by
    rw [ExactItems] at exact_
    have here := render_printed first exact_.1
    have later := renderItems_printed (second :: others) exact_.2
    rw [renderItems, List.forall_mem_append, List.forall_mem_cons, AsciiItems]
    · exact ⟨fun byte member => (here byte member).mono And.left, Visible.printed (by decide) _,
        fun byte member => (later byte member).mono And.right⟩
    · simp

theorem renderMembers_printed : (all : List (Text × Json)) → ExactMembers all →
    ∀ byte ∈ renderMembers all, Printed (AsciiMembers all) byte
  | [], _ => by
    rw [renderMembers, List.forall_mem_singleton]
    exact Visible.printed (by decide) _
  | [(name, v)], exact_ => by
    rw [ExactMembers, ExactMember] at exact_
    rw [renderMembers, renderMember, List.forall_mem_append, List.forall_mem_append,
      List.forall_mem_cons, List.forall_mem_singleton, AsciiMembers, AsciiMember]
    exact ⟨⟨fun byte member => (quoted_printed name byte member).mono fun ascii => ascii.1.1,
      Visible.printed (by decide) _,
      fun byte member => (render_printed v exact_.1 byte member).mono fun ascii => ascii.1.2⟩,
      Visible.printed (by decide) _⟩
  | (name, v) :: second :: others, exact_ => by
    rw [ExactMembers, ExactMember] at exact_
    have here := render_printed v exact_.1
    have later := renderMembers_printed (second :: others) exact_.2
    rw [renderMembers, renderMember, List.forall_mem_append, List.forall_mem_append,
      List.forall_mem_cons, List.forall_mem_cons, AsciiMembers, AsciiMember]
    · exact ⟨⟨fun byte member => (quoted_printed name byte member).mono fun ascii => ascii.1.1,
        Visible.printed (by decide) _, fun byte member => (here byte member).mono fun ascii => ascii.1.2⟩,
        Visible.printed (by decide) _, fun byte member => (later byte member).mono And.right⟩
    · simp

end

/-- The text of a value whose strings are ASCII is visible. -/
theorem render_visible {v : Json} (exact_ : v.Exact) (ascii : v.Ascii) :
    ∀ byte ∈ render v, Visible byte :=
  fun byte member =>
    ⟨(render_printed v exact_ byte member).1, (render_printed v exact_ byte member).2 ascii⟩

/-- A string that needs no escapes takes its bytes and its quotes. -/
theorem quoted_plain {text : Text} (plain : Plain text) : quoted text = quote :: (text ++ [quote]) := by
  have same : text.flatMap escaped = text := by
    induction text with
    | nil => rfl
    | cons byte rest ih =>
      have ordinary := plain byte List.mem_cons_self
      have others := ih fun other member => plain other (List.mem_cons_of_mem _ member)
      have one : escaped byte = [byte] := by
        simp only [special, Bool.or_eq_false_iff, decide_eq_false_iff_not, beq_eq_false_iff_ne]
          at ordinary
        obtain ⟨⟨printable, noQuote⟩, noBackslash⟩ := ordinary
        -- Every other branch asks for a control character.
        have other (control : UInt8) (small : control < 0x20) : byte ≠ control := by
          rintro rfl
          exact printable small
        unfold escaped
        rw [if_neg (by simp [noQuote, noBackslash]), if_neg (other _ (by decide)),
          if_neg (other _ (by decide)), if_neg (other _ (by decide)), if_neg (other _ (by decide)),
          if_neg (other _ (by decide)), if_neg printable]
      rw [List.flatMap_cons, one, others, List.singleton_append]
  rw [quoted, same]

/-- A value is what its text stands for. -/
theorem parse_render {v : Json} (exact_ : v.Exact) : parse (render v) = some v := by
  have read := @value_render v exact_ (render v).length [] (Nat.le_refl _)
    (fun _ none => nomatch none)
  rw [List.append_nil] at read
  rw [parse, read]
  rfl

end Json
