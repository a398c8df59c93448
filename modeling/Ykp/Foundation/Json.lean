import Mathlib.Data.List.Induction
import Mathlib.Tactic.Common

/-! JSON texts as bytes: a parser of the whole language, what a text must at least be long to stand for
a value, and how it reads texts without escapes. -/

/-- The values. A number with a fraction or an exponent is kept as it is written, a string as the
bytes of its characters, and the members of an object in their order. -/
inductive Json
  | null
  | bool (value : Bool)
  | int (value : Int)
  | real (literal : List UInt8)
  | string (text : List UInt8)
  | array (items : List Json)
  | object (members : List (List UInt8 × Json))

namespace Json

abbrev Text := List UInt8

/-- The bytes that make up the structure of a text. -/
abbrev quote : UInt8 := 0x22
abbrev backslash : UInt8 := 0x5C
abbrev comma : UInt8 := 0x2C
abbrev colon : UInt8 := 0x3A
abbrev minus : UInt8 := 0x2D
abbrev zero : UInt8 := 0x30
abbrev openBracket : UInt8 := 0x5B
abbrev closeBracket : UInt8 := 0x5D
abbrev openBrace : UInt8 := 0x7B
abbrev closeBrace : UInt8 := 0x7D

/-- White space between the parts of a text. -/
def isSpace (byte : UInt8) : Bool := byte == 0x20 || byte == 0x09 || byte == 0x0A || byte == 0x0D

def skipSpace (text : Text) : Text := text.dropWhile isSpace

def isDigit (byte : UInt8) : Bool := decide (0x30 ≤ byte) && decide (byte ≤ 0x39)

/-- The value of a string of digits. -/
def digitsValue (digits : Text) : Nat :=
  digits.foldl (fun value digit => 10 * value + (digit.toNat - 0x30)) 0

def hexValue (byte : UInt8) : Option Nat :=
  if 0x30 ≤ byte ∧ byte ≤ 0x39 then some (byte.toNat - 0x30)
  else if 0x41 ≤ byte ∧ byte ≤ 0x46 then some (byte.toNat - 0x37)
  else if 0x61 ≤ byte ∧ byte ≤ 0x66 then some (byte.toNat - 0x57)
  else none

/-- Four hexadecimal digits. -/
def hexUnit : Text → Option (Nat × Text)
  | a :: b :: c :: d :: rest =>
    match hexValue a, hexValue b, hexValue c, hexValue d with
    | some a, some b, some c, some d => some (((a * 16 + b) * 16 + c) * 16 + d, rest)
    | _, _, _, _ => none
  | _ => none

/-- The bytes of a character by its number. -/
def utf8 (code : Nat) : Text := String.utf8EncodeChar (Char.ofNat code)

/-- The escapes of one letter. -/
def simpleEscape (letter : UInt8) : Option UInt8 :=
  if letter = quote ∨ letter = backslash ∨ letter = 0x2F then some letter
  else if letter = 0x62 then some 0x08
  else if letter = 0x66 then some 0x0C
  else if letter = 0x6E then some 0x0A
  else if letter = 0x72 then some 0x0D
  else if letter = 0x74 then some 0x09
  else none

/-- A character by its number; one outside the basic plane is two numbers, and half of one is none. -/
def unicodeEscape (text : Text) : Option (Text × Text) :=
  match hexUnit text with
  | none => none
  | some high =>
    if 0xDC00 ≤ high.1 ∧ high.1 < 0xE000 then none
    else if 0xD800 ≤ high.1 ∧ high.1 < 0xDC00 then
      if high.2.take 2 = [backslash, 0x75] then
        match hexUnit (high.2.drop 2) with
        | none => none
        | some low =>
          if 0xDC00 ≤ low.1 ∧ low.1 < 0xE000 then
            some (utf8 (0x10000 + (high.1 - 0xD800) * 0x400 + (low.1 - 0xDC00)), low.2)
          else none
      else none
    else some (utf8 high.1, high.2)

/-- What stands behind a backslash, as bytes, and the rest. -/
def escape : Text → Option (Text × Text)
  | [] => none
  | letter :: rest =>
    if letter = 0x75 then unicodeEscape rest
    else (simpleEscape letter).map fun byte => ([byte], rest)

/-- A string behind its opening quote, and the rest behind its closing one. -/
def body : Nat → Text → Option (Text × Text)
  | 0, _ => none
  | _ + 1, [] => none
  | fuel + 1, byte :: rest =>
    if byte = quote then some ([], rest)
    else if byte = backslash then
      match escape rest with
      | none => none
      | some escaped => (body fuel escaped.2).map fun out => (escaped.1 ++ out.1, out.2)
    else if byte < 0x20 then none
    else (body fuel rest).map fun out => (byte :: out.1, out.2)

/-- The text behind an optional fraction. -/
def fraction (text : Text) : Option Text :=
  if text.head? = some 0x2E then
    if (text.tail.takeWhile isDigit) = [] then none else some (text.tail.dropWhile isDigit)
  else some text

/-- The text behind an optional exponent. -/
def exponent (text : Text) : Option Text :=
  if text.head? = some 0x65 ∨ text.head? = some 0x45 then
    let signed := text.tail
    let digits :=
      if signed.head? = some 0x2B ∨ signed.head? = some minus then signed.tail else signed
    if (digits.takeWhile isDigit) = [] then none else some (digits.dropWhile isDigit)
  else some text

/-- A number; without fraction and exponent it is an integer. -/
def number (text : Text) : Option (Json × Text) :=
  let unsigned := if text.head? = some minus then text.tail else text
  let digits := unsigned.takeWhile isDigit
  let rest := unsigned.dropWhile isDigit
  if digits = [] ∨ (digits.head? = some zero ∧ 1 < digits.length) then none
  else
    match (fraction rest).bind exponent with
    | none => none
    | some behind =>
      if behind.length = rest.length then
        some (.int (if text.head? = some minus then -digitsValue digits else digitsValue digits), rest)
      else some (.real (text.take (text.length - behind.length)), behind)

/-- A word that stands for a value. -/
def keyword (word : Text) (value : Json) (text : Text) : Option (Json × Text) :=
  if word.isPrefixOf text then some (value, text.drop word.length) else none

mutual

/-- A value, and the rest. -/
def value : Nat → Text → Option (Json × Text)
  | 0, _ => none
  | fuel + 1, text =>
    match skipSpace text with
    | [] => none
    | byte :: rest =>
      if byte = quote then (body (rest.length + 1) rest).map fun out => (.string out.1, out.2)
      else if byte = openBrace then
        if (skipSpace rest).head? = some closeBrace then some (.object [], (skipSpace rest).tail)
        else (members fuel rest).map fun out => (.object out.1, out.2)
      else if byte = openBracket then
        if (skipSpace rest).head? = some closeBracket then some (.array [], (skipSpace rest).tail)
        else (items fuel rest).map fun out => (.array out.1, out.2)
      else if byte = 0x74 then keyword [0x74, 0x72, 0x75, 0x65] (.bool true) (byte :: rest)
      else if byte = 0x66 then keyword [0x66, 0x61, 0x6C, 0x73, 0x65] (.bool false) (byte :: rest)
      else if byte = 0x6E then keyword [0x6E, 0x75, 0x6C, 0x6C] .null (byte :: rest)
      else number (byte :: rest)

/-- The values of an array up to its end, at least one. -/
def items : Nat → Text → Option (List Json × Text)
  | 0, _ => none
  | fuel + 1, text =>
    match value fuel text with
    | none => none
    | some first =>
      match skipSpace first.2 with
      | [] => none
      | byte :: rest =>
        if byte = comma then (items fuel rest).map fun out => (first.1 :: out.1, out.2)
        else if byte = closeBracket then some ([first.1], rest)
        else none

/-- The members of an object up to its end, at least one. -/
def members : Nat → Text → Option (List (Text × Json) × Text)
  | 0, _ => none
  | fuel + 1, text =>
    if (skipSpace text).head? = some quote then
      match body (text.length + 1) (skipSpace text).tail with
      | none => none
      | some key =>
        if (skipSpace key.2).head? = some colon then
          match value fuel (skipSpace key.2).tail with
          | none => none
          | some first =>
            match skipSpace first.2 with
            | [] => none
            | byte :: rest =>
              if byte = comma then
                (members fuel rest).map fun out => ((key.1, first.1) :: out.1, out.2)
              else if byte = closeBrace then some ([(key.1, first.1)], rest)
              else none
        else none
    else none

end

/-- A whole text. Every value that is begun takes a byte, so its length bounds the depth. -/
def parse (text : Text) : Option Json :=
  match value (text.length + 1) text with
  | none => none
  | some out => if skipSpace out.2 = [] then some out.1 else none

/-- The value of a member; of several under one name it is the last one's. -/
def get? (members : List (Text × Json)) (name : Text) : Option Json :=
  ((members.filter fun member => member.1 == name).getLast?).map Prod.snd

section Cost

/-- A number in decimal digits. -/
def decimal (value : Nat) : Text :=
  (Nat.toDigits 10 value).map fun digit => UInt8.ofNat digit.toNat

/-- An integer in decimal digits. -/
def intText (value : Int) : Text :=
  if value < 0 then minus :: decimal value.natAbs else decimal value.natAbs

/-- The bytes that a string cannot hold without an escape. -/
def special (byte : UInt8) : Bool := decide (byte < 0x20) || byte == quote || byte == backslash

/-- What a string takes at least: an escape has two bytes or more. -/
def stringCost (text : Text) : Nat := 2 + text.length + text.countP special

mutual

/-- What a value takes at least. -/
def cost : Json → Nat
  | .null => 4
  | .bool _ => 4
  | .int value => (intText value).length
  | .real _ => 1
  | .string text => stringCost text
  | .array items => 1 + itemsCost items
  | .object members => 1 + membersCost members

/-- Every item is followed by a comma or the end. -/
def itemsCost : List Json → Nat
  | [] => 0
  | first :: rest => cost first + 1 + itemsCost rest

def membersCost : List (Text × Json) → Nat
  | [] => 0
  | first :: rest => memberCost first + 1 + membersCost rest

def memberCost : Text × Json → Nat
  | (name, value) => stringCost name + 1 + cost value

end

theorem skipSpace_length (text : Text) : (skipSpace text).length ≤ text.length :=
  (List.dropWhile_sublist _).length_le

/-- A character takes at most four bytes, and one of the basic plane at most three. -/
theorem utf8_length (code : Nat) :
    (utf8 code).length ≤ 4 ∧ (code < 0x10000 → (utf8 code).length ≤ 3) := by
  unfold utf8
  rw [String.length_utf8EncodeChar]
  refine ⟨Char.utf8Size_le_four _, ?_⟩
  intro small
  -- A number that stands for no character is written as the character zero.
  have number : (Char.ofNat code).val ≤ 0xFFFF := by
    rw [UInt32.le_iff_toNat_le]
    by_cases valid : code.isValidChar
    · rw [Char.ofNat, dif_pos valid]
      show code ≤ 0xFFFF
      omega
    · rw [Char.ofNat, dif_neg valid]
      decide
  have sizes : (Char.ofNat code).utf8Size = if (Char.ofNat code).val ≤ 0x7F then 1 else
      if (Char.ofNat code).val ≤ 0x7FF then 2 else
        if (Char.ofNat code).val ≤ 0xFFFF then 3 else 4 := rfl
  rw [sizes, if_pos number]
  split_ifs <;> omega

/-- A hexadecimal digit is below sixteen. -/
theorem hexValue_lt {byte : UInt8} {value : Nat} (read : hexValue byte = some value) :
    value < 16 := by
  unfold hexValue at read
  simp only [UInt8.le_iff_toNat_le, UInt8.reduceToNat] at read
  -- A digit, a capital or a small letter; anything else has no value.
  split_ifs at read
  all_goals
    cases read
    omega

/-- Four digits are a number of 16 bits. -/
theorem hexUnit_length {text : Text} {out : Nat × Text} (read : hexUnit text = some out) :
    out.1 < 0x10000 ∧ text.length = out.2.length + 4 := by
  unfold hexUnit at read
  split at read
  · split at read
    · rename_i first second third fourth
      cases read
      have first := hexValue_lt first
      have second := hexValue_lt second
      have third := hexValue_lt third
      have fourth := hexValue_lt fourth
      refine ⟨?_, rfl⟩
      dsimp only
      omega
    · cases read
  · cases read

/-- An escape takes more bytes than the string it stands for, by one for each that needs it. -/
theorem unicodeEscape_cost {text : Text} {out : Text × Text}
    (read : unicodeEscape text = some out) :
    out.1.length + out.1.countP special + out.2.length ≤ text.length + 2 := by
  have most : ∀ bytes : Text, bytes.countP special ≤ bytes.length := fun _ => List.countP_le_length
  unfold unicodeEscape at read
  cases units : hexUnit text with
  | none => simp [units] at read
  | some high =>
    obtain ⟨small, length⟩ := hexUnit_length units
    simp only [units] at read
    split_ifs at read with half pair second
    · -- The first half of a character needs the second one.
      cases units' : hexUnit (high.2.drop 2) with
      | none => simp [units'] at read
      | some low =>
        simp only [units'] at read
        split_ifs at read
        generalize 0x10000 + (high.1 - 0xD800) * 0x400 + (low.1 - 0xDC00) = code at read
        cases read
        -- Twelve bytes in all, one of them read before, stand for four at most.
        have taken := (hexUnit_length units').2
        have size := (utf8_length code).1
        have specials := most (utf8 code)
        have shape : min 2 high.2.length = 2 := by
          rw [← List.length_take, second]
          rfl
        rw [List.length_drop] at taken
        dsimp only
        omega
    · cases read
      have size := (utf8_length high.1).2 small
      have specials := most (utf8 high.1)
      dsimp only
      omega

/-- So does any escape. -/
theorem escape_cost {text : Text} {out : Text × Text} (read : escape text = some out) :
    out.1.length + out.1.countP special + out.2.length ≤ text.length + 1 := by
  cases text with
  | nil => cases read
  | cons letter rest =>
    simp only [escape] at read
    split at read
    · exact Nat.le_trans (unicodeEscape_cost read) (by simp)
    · obtain ⟨byte, -, rfl⟩ := Option.map_eq_some_iff.mp read
      have one : [byte].countP special ≤ 1 := List.countP_le_length
      simp only [List.length_cons, List.length_nil]
      omega

/-- A string takes what it holds, an extra byte for each one that needs an escape, and its quotes. -/
theorem body_cost {fuel : Nat} {text : Text} {out : Text × Text}
    (read : body fuel text = some out) :
    stringCost out.1 + out.2.length ≤ text.length + 1 := by
  -- The induction is on the bytes that may be read.
  induction fuel generalizing text out with
  | zero => cases read
  | succ fuel ih =>
    cases text with
    | nil => cases read
    | cons byte rest =>
      unfold body at read
      by_cases closing : byte = quote
      · rw [if_pos closing] at read
        cases read
        simp [stringCost]
        omega
      · rw [if_neg closing] at read
        by_cases escaped : byte = backslash
        · rw [if_pos escaped] at read
          cases unit : escape rest with
          | none => simp [unit] at read
          | some unit' =>
            simp only [unit] at read
            obtain ⟨inner, readInner, rfl⟩ := Option.map_eq_some_iff.mp read
            have rest := ih readInner
            have taken := escape_cost unit
            simp only [stringCost, List.length_append, List.countP_append,
              List.length_cons] at rest ⊢
            omega
        · rw [if_neg escaped] at read
          split at read
          · cases read
          · rename_i printable
            obtain ⟨inner, readInner, rfl⟩ := Option.map_eq_some_iff.mp read
            have rest := ih readInner
            have plain : special byte = false := by simp [special, closing, escaped, printable]
            simp only [stringCost, List.length_cons, List.countP_cons, plain] at rest ⊢
            simp only [Bool.false_eq_true, ↓reduceIte]
            omega

theorem digitsValue_concat (digits : Text) (digit : UInt8) :
    digitsValue (digits ++ [digit]) = 10 * digitsValue digits + (digit.toNat - 0x30) := by
  simp [digitsValue]

/-- The last digit of a number, and the others. -/
theorem decimal_eq (value : Nat) :
    decimal value = if value < 10 then [UInt8.ofNat (0x30 + value)]
      else decimal (value / 10) ++ [UInt8.ofNat (0x30 + value % 10)] := by
  have digit : ∀ digit < 10, UInt8.ofNat digit.digitChar.toNat = UInt8.ofNat (0x30 + digit) := by
    decide
  unfold decimal
  rw [Nat.toDigits_eq_if (by decide)]
  split
  · rename_i small
    rw [List.map_singleton, digit value small]
  · rw [List.map_append, List.map_singleton, digit _ (Nat.mod_lt _ (by decide))]

/-- A digit stands for a number below ten. -/
theorem isDigit_iff {byte : UInt8} : isDigit byte = true ↔ 0x30 ≤ byte.toNat ∧ byte.toNat ≤ 0x39 := by
  simp [isDigit, UInt8.le_iff_toNat_le]

/-- A number is written with no more digits than any string of digits that has its value. -/
theorem decimal_length {digits : Text} (all : ∀ digit ∈ digits, isDigit digit = true)
    (filled : digits ≠ []) : (decimal (digitsValue digits)).length ≤ digits.length := by
  -- The last digit is taken off on both sides.
  induction digits using List.reverseRecOn with
  | nil => exact absurd rfl filled
  | append_singleton front last ih =>
    have range := isDigit_iff.mp (all last (by simp))
    rw [digitsValue_concat, decimal_eq]
    split
    · simp
    · rename_i large
      have front_filled : front ≠ [] := by
        rintro rfl
        have none : digitsValue [] = 0 := rfl
        omega
      have shorter := ih (fun digit member => all digit (List.mem_append_left _ member)) front_filled
      rw [show (10 * digitsValue front + (last.toNat - 0x30)) / 10 = digitsValue front by omega]
      simp only [List.length_append, List.length_singleton]
      omega

/-- An optional fraction takes nothing back. -/
theorem fraction_length {text rest : Text} (read : fraction text = some rest) :
    rest.length ≤ text.length := by
  have shorter := (List.dropWhile_sublist (l := text.tail) isDigit).length_le
  have tail : text.tail.length ≤ text.length := by simp
  unfold fraction at read
  split_ifs at read
  all_goals
    cases read
    omega

/-- Nor does an optional exponent. -/
theorem exponent_length {text rest : Text} (read : exponent text = some rest) :
    rest.length ≤ text.length := by
  -- The letter, its sign and the digits are each taken from the front.
  have tail : ∀ text : Text, text.tail.length ≤ text.length := by
    intro text
    simp
  have shorter : ∀ text : Text, (text.dropWhile isDigit).length ≤ text.length :=
    fun text => (List.dropWhile_sublist _).length_le
  unfold exponent at read
  dsimp only at read
  split_ifs at read
  · cases read
    exact Nat.le_trans (shorter _) (Nat.le_trans (tail _) (tail _))
  · cases read
    exact Nat.le_trans (shorter _) (tail _)
  · cases read
    exact Nat.le_refl _

/-- A number takes its sign and its digits. -/
theorem number_cost {text : Text} {out : Json × Text} (read : number text = some out) :
    cost out.1 + out.2.length ≤ text.length := by
  unfold number at read
  dsimp only at read
  generalize unsignedIs : (if text.head? = some minus then text.tail else text) = unsigned at read
  -- The sign, the digits and what is left behind them are the text.
  have parts := congrArg List.length (List.takeWhile_append_dropWhile (p := isDigit) (l := unsigned))
  rw [List.length_append] at parts
  split at read
  · cases read
  · rename_i digits
    rw [not_or] at digits
    have filled := List.length_pos_iff.mpr digits.1
    have written := decimal_length
      (fun digit member => List.all_eq_true.mp List.all_takeWhile digit member) digits.1
    split at read
    · cases read
    · rename_i behind found
      obtain ⟨middle, first, second⟩ := Option.bind_eq_some_iff.mp found
      have left := Nat.le_trans (exponent_length second) (fraction_length first)
      have signs : unsigned.length + (if text.head? = some minus then 1 else 0) = text.length := by
        rw [← unsignedIs]
        cases text <;> split <;> simp_all
      split at read
      · -- An integer is not longer without leading zeros; any other number costs one byte.
        cases read
        unfold cost intText
        split_ifs at signs ⊢
        all_goals simp only [List.length_cons, Int.natAbs_neg, Int.natAbs_natCast]; omega
      · cases read
        show 1 + behind.length ≤ text.length
        omega

theorem keyword_cost {word text : Text} {word_ : Json} {out : Json × Text}
    (enough : cost word_ ≤ word.length) (read : keyword word word_ text = some out) :
    cost out.1 + out.2.length ≤ text.length := by
  unfold keyword at read
  split at read
  · rename_i front
    cases read
    have length := (List.isPrefixOf_iff_prefix.mp front).length_le
    simp only [List.length_drop]
    omega
  · cases read

/-- What a reader that has taken a part must have had. -/
def TakesCost {Part : Type} (partCost : Part → Nat) (read : Text → Option (Part × Text)) : Prop :=
  ∀ text out, read text = some out → partCost out.1 + out.2.length ≤ text.length

/-- A value, when the parts one level below take what they cost. -/
theorem value_cost {fuel : Nat} (ofItems : TakesCost itemsCost (items fuel))
    (ofMembers : TakesCost membersCost (members fuel)) : TakesCost cost (value (fuel + 1)) := by
  intro text out read
  have begun := skipSpace_length text
  unfold value at read
  cases shape : skipSpace text with
  | nil => simp [shape] at read
  | cons byte rest =>
    rw [shape, List.length_cons] at begun
    have inside := skipSpace_length rest
    simp only [shape] at read
    -- The first byte says which value it is.
    split_ifs at read with string object empty array none true_ false_ null
    · obtain ⟨inner, readInner, rfl⟩ := Option.map_eq_some_iff.mp read
      have taken := body_cost readInner
      show stringCost inner.1 + inner.2.length ≤ text.length
      omega
    · cases read
      have closed := List.length_pos_of_mem (List.mem_of_mem_head? empty)
      show 1 + 0 + (skipSpace rest).tail.length ≤ text.length
      rw [List.length_tail]
      omega
    · obtain ⟨inner, readInner, rfl⟩ := Option.map_eq_some_iff.mp read
      have taken := ofMembers _ _ readInner
      show 1 + membersCost inner.1 + inner.2.length ≤ text.length
      omega
    · cases read
      have closed := List.length_pos_of_mem (List.mem_of_mem_head? none)
      show 1 + 0 + (skipSpace rest).tail.length ≤ text.length
      rw [List.length_tail]
      omega
    · obtain ⟨inner, readInner, rfl⟩ := Option.map_eq_some_iff.mp read
      have taken := ofItems _ _ readInner
      show 1 + itemsCost inner.1 + inner.2.length ≤ text.length
      omega
    · exact Nat.le_trans (keyword_cost (by decide) read) begun
    · exact Nat.le_trans (keyword_cost (by decide) read) begun
    · exact Nat.le_trans (keyword_cost (by decide) read) begun
    · exact Nat.le_trans (number_cost read) begun

/-- The items of an array, when a value and the items one level below take what they cost. -/
theorem items_cost {fuel : Nat} (ofValue : TakesCost cost (value fuel))
    (ofItems : TakesCost itemsCost (items fuel)) : TakesCost itemsCost (items (fuel + 1)) := by
  intro text out read
  unfold items at read
  cases first : value fuel text with
  | none => simp [first] at read
  | some item =>
    have taken := ofValue _ _ first
    have begun := skipSpace_length item.2
    -- A comma or the closing bracket stands behind the value.
    simp only [first] at read
    cases shape : skipSpace item.2 with
    | nil => simp [shape] at read
    | cons byte rest =>
      rw [shape, List.length_cons] at begun
      simp only [shape] at read
      split_ifs at read
      · obtain ⟨inner, readInner, rfl⟩ := Option.map_eq_some_iff.mp read
        have others := ofItems _ _ readInner
        show cost item.1 + 1 + itemsCost inner.1 + inner.2.length ≤ text.length
        omega
      · cases read
        show cost item.1 + 1 + 0 + rest.length ≤ text.length
        omega

/-- The members of an object, when a value and the members one level below take what they cost. -/
theorem members_cost {fuel : Nat} (ofValue : TakesCost cost (value fuel))
    (ofMembers : TakesCost membersCost (members fuel)) :
    TakesCost membersCost (members (fuel + 1)) := by
  intro text out read
  have begun := skipSpace_length text
  unfold members at read
  split at read
  · rename_i quoted
    -- The name, the colon, the value and what ends the member are taken one after the other.
    have opening := List.length_pos_of_mem (List.mem_of_mem_head? quoted)
    cases named : body (text.length + 1) (skipSpace text).tail with
    | none => simp [named] at read
    | some key =>
      have name := body_cost named
      have between := skipSpace_length key.2
      simp only [named] at read
      split at read
      · rename_i separated
        have separator := List.length_pos_of_mem (List.mem_of_mem_head? separated)
        cases first : value fuel (skipSpace key.2).tail with
        | none => simp [first] at read
        | some item =>
          have taken := ofValue _ _ first
          have behind := skipSpace_length item.2
          rw [List.length_tail] at name taken
          simp only [first] at read
          cases shape : skipSpace item.2 with
          | nil => simp [shape] at read
          | cons byte rest =>
            rw [shape, List.length_cons] at behind
            simp only [shape] at read
            split_ifs at read
            · obtain ⟨inner, readInner, rfl⟩ := Option.map_eq_some_iff.mp read
              have others := ofMembers _ _ readInner
              show stringCost key.1 + 1 + cost item.1 + 1 + membersCost inner.1 +
                inner.2.length ≤ text.length
              omega
            · cases read
              show stringCost key.1 + 1 + cost item.1 + 1 + 0 + rest.length ≤ text.length
              omega
      · cases read
  · cases read

/-- A value, an array's items and an object's members take at least what they cost. -/
theorem parts_cost (fuel : Nat) :
    TakesCost cost (value fuel) ∧ TakesCost itemsCost (items fuel) ∧
      TakesCost membersCost (members fuel) := by
  -- All three go down to the same fuel, so they are proved together.
  induction fuel with
  | zero =>
    refine ⟨?_, ?_, ?_⟩
    all_goals
      intro text out read
      cases read
  | succ fuel ih =>
    obtain ⟨ofValue, ofItems, ofMembers⟩ := ih
    exact ⟨value_cost ofItems ofMembers, items_cost ofValue ofItems,
      members_cost ofValue ofMembers⟩

/-- A member of an object is part of what its members take. -/
theorem memberCost_le {member : Text × Json} {all : List (Text × Json)} (mem : member ∈ all) :
    memberCost member + 1 ≤ membersCost all := by
  induction all with
  | nil => cases mem
  | cons first rest ih =>
    show _ ≤ memberCost first + 1 + membersCost rest
    rcases List.mem_cons.mp mem with rfl | later
    · omega
    · have others := ih later
      omega

/-- So are two different ones. -/
theorem memberCost_add_le {first second : Text × Json} {all : List (Text × Json)}
    (different : first ≠ second) (memFirst : first ∈ all) (memSecond : second ∈ all) :
    memberCost first + 1 + (memberCost second + 1) ≤ membersCost all := by
  induction all with
  | nil => cases memFirst
  | cons head rest ih =>
    show _ ≤ memberCost head + 1 + membersCost rest
    -- At most one of the two is the first member.
    rcases List.mem_cons.mp memFirst with rfl | laterFirst
    · rcases List.mem_cons.mp memSecond with rfl | laterSecond
      · exact absurd rfl different
      · have other := memberCost_le laterSecond
        omega
    · rcases List.mem_cons.mp memSecond with rfl | laterSecond
      · have other := memberCost_le laterFirst
        omega
      · have both := ih laterFirst laterSecond
        omega

/-- What is found under a name is a member of that name. -/
theorem get?_mem {all : List (Text × Json)} {name : Text} {found : Json}
    (got : get? all name = some found) : (name, found) ∈ all := by
  obtain ⟨member, last, rfl⟩ := Option.map_eq_some_iff.mp got
  obtain ⟨mem, named⟩ := List.mem_filter.mp (List.mem_of_getLast? last)
  rwa [← eq_of_beq named]

end Cost

section Reading

/-- A string that needs no escapes. -/
def Plain (text : Text) : Prop := ∀ byte ∈ text, special byte = false

instance (text : Text) : Decidable (Plain text) := inferInstanceAs (Decidable (∀ byte ∈ text, _))

/-- A plain string ends at the first quote. -/
theorem body_plain {fuel : Nat} {text : Text} (plain : Plain text) (enough : text.length < fuel)
    (rest : Text) : body fuel (text ++ quote :: rest) = some (text, rest) := by
  -- No byte of the text ends the string or stands for another one.
  induction text generalizing fuel with
  | nil =>
    cases fuel with
    | zero => cases enough
    | succ fuel => rfl
  | cons byte text ih =>
    cases fuel with
    | zero => cases enough
    | succ fuel =>
      have ordinary := plain byte List.mem_cons_self
      simp only [special, Bool.or_eq_false_iff, decide_eq_false_iff_not, beq_eq_false_iff_ne]
        at ordinary
      have others := ih (fun other member => plain other (List.mem_cons_of_mem _ member))
        (Nat.lt_of_succ_lt_succ enough)
      rw [List.cons_append, body, if_neg ordinary.1.2, if_neg ordinary.2, if_neg ordinary.1.1,
        others]
      rfl

/-- A plain string is read as it is. -/
theorem value_string {text : Text} (plain : Plain text) (fuel : Nat) (rest : Text) :
    value (fuel + 1) (quote :: (text ++ quote :: rest)) = some (.string text, rest) := by
  have inside : text.length < (text ++ quote :: rest).length + 1 := by
    rw [List.length_append]
    omega
  have start : skipSpace (quote :: (text ++ quote :: rest)) = quote :: (text ++ quote :: rest) :=
    rfl
  rw [value, start]
  dsimp only
  rw [if_pos rfl, body_plain plain inside]
  rfl

/-- The digits of a number have its value. -/
theorem digitsValue_decimal (value : Nat) : digitsValue (decimal value) = value := by
  induction value using Nat.strongRecOn with
  | _ value ih =>
    have digit : ∀ digit < 10, (UInt8.ofNat (0x30 + digit)).toNat - 0x30 = digit := by decide
    rw [decimal_eq]
    split
    · rename_i small
      rw [← List.nil_append [_], digitsValue_concat, digit _ small]
      simp [digitsValue]
    · rw [digitsValue_concat, ih _ (by omega), digit _ (Nat.mod_lt _ (by decide))]
      omega

/-- They are digits, and the first of them is no zero unless it is the only one. -/
theorem decimal_digits (value : Nat) :
    (∀ digit ∈ decimal value, isDigit digit = true) ∧
      ∃ first rest, decimal value = first :: rest ∧ (first = zero → rest = []) ∧
        (value ≠ 0 → first ≠ zero) := by
  -- A single digit, or those of the quotient with one more behind.
  induction value using Nat.strongRecOn with
  | _ value ih =>
    have digit : ∀ digit < 10, isDigit (UInt8.ofNat (0x30 + digit)) = true ∧
        (UInt8.ofNat (0x30 + digit) = zero → digit = 0) := by decide
    rw [decimal_eq]
    split
    · rename_i small
      refine ⟨?_, _, _, rfl, fun _ => rfl, ?_⟩
      · intro other member
        rw [List.mem_singleton.mp member]
        exact (digit value small).1
      · intro positive empty
        exact positive ((digit value small).2 empty)
    · obtain ⟨digits, first, rest, shape, -, leads⟩ := ih (value / 10) (by omega)
      have nonzero := leads (by omega)
      rw [shape]
      refine ⟨?_, first, rest ++ [_], rfl, fun empty => absurd empty nonzero, fun _ => nonzero⟩
      intro other member
      rcases List.mem_append.mp member with front | last
      · exact digits other (shape ▸ front)
      · rw [List.mem_singleton.mp last]
        exact (digit _ (Nat.mod_lt _ (by decide))).1

/-- What may stand behind an integer: nothing that would be read as a part of it. -/
def EndsNumber (rest : Text) : Prop :=
  ∀ byte ∈ rest.head?, isDigit byte = false ∧ byte ≠ 0x2E ∧ byte ≠ 0x65 ∧ byte ≠ 0x45

/-- Digits in front of a text that goes on without one are taken and dropped as a whole. -/
theorem span_digits {digits rest : Text} (all : ∀ digit ∈ digits, isDigit digit = true)
    (ends : EndsNumber rest) :
    (digits ++ rest).takeWhile isDigit = digits ∧ (digits ++ rest).dropWhile isDigit = rest := by
  rw [List.takeWhile_append_of_pos all, List.dropWhile_append_of_pos all]
  cases rest with
  | nil => simp
  | cons byte rest => simp [(ends byte (by simp)).1]

/-- The text of an integer starts with a minus exactly when it is negative. -/
theorem intText_sign (k : Int) (rest : Text) :
    (intText k ++ rest).head? = some minus ↔ k < 0 := by
  obtain ⟨digits, first, others, shape, -⟩ := decimal_digits k.natAbs
  unfold intText
  split
  · rename_i negative
    simp [negative]
  · rename_i positive
    -- Any other one starts with a digit.
    have digit := digits first (by rw [shape]; exact List.mem_cons_self)
    rw [shape]
    simp only [List.cons_append, List.head?_cons, Option.some.injEq, positive, iff_false]
    rintro rfl
    exact absurd digit (by decide)

/-- Decimal digits are not refused: there is one, and no zero leads others. -/
theorem decimal_wellFormed (value : Nat) :
    ¬ (decimal value = [] ∨ ((decimal value).head? = some zero ∧ 1 < (decimal value).length)) := by
  obtain ⟨-, first, others, shape, leading, -⟩ := decimal_digits value
  rw [shape]
  rintro (empty | ⟨zeros, long⟩)
  · cases empty
  · rw [leading (by simpa using zeros)] at long
    exact Nat.lt_irrefl 1 long

/-- An integer is read back. -/
theorem number_intText (k : Int) {rest : Text} (ends : EndsNumber rest) :
    number (intText k ++ rest) = some (.int k, rest) := by
  have sign := intText_sign k rest
  have unsigned : (if (intText k ++ rest).head? = some minus then (intText k ++ rest).tail
      else intText k ++ rest) = decimal k.natAbs ++ rest := by
    simp only [sign]
    unfold intText
    split <;> rfl
  obtain ⟨taken, dropped⟩ := span_digits (decimal_digits k.natAbs).1 ends
  -- What stands behind is neither a point nor an exponent.
  have noFraction : fraction rest = some rest := by
    apply if_neg
    intro point
    exact (ends _ point).2.1 rfl
  have noExponent : exponent rest = some rest := by
    apply if_neg
    rintro (small | capital)
    · exact (ends _ small).2.2.1 rfl
    · exact (ends _ capital).2.2.2 rfl
  unfold number
  dsimp only
  rw [unsigned, taken, dropped, if_neg (decimal_wellFormed k.natAbs), noFraction, Option.bind_some, noExponent]
  dsimp only
  rw [if_pos rfl, digitsValue_decimal]
  simp only [sign, Option.some.injEq, Prod.mk.injEq, Json.int.injEq, and_true]
  split <;> omega

/-- A number starts like no other value. -/
theorem numberStart {byte : UInt8} (starts : byte = minus ∨ isDigit byte = true) :
    isSpace byte = false ∧ byte ≠ quote ∧ byte ≠ openBrace ∧ byte ≠ openBracket ∧ byte ≠ 0x74 ∧
      byte ≠ 0x66 ∧ byte ≠ 0x6E := by
  rcases starts with rfl | digit
  · decide
  · have range := isDigit_iff.mp digit
    have other : ∀ another : UInt8, isDigit another = false → byte ≠ another := by
      rintro another none rfl
      rw [digit] at none
      cases none
    refine ⟨?_, other _ (by decide), other _ (by decide), other _ (by decide), other _ (by decide),
      other _ (by decide), other _ (by decide)⟩
    simp only [isSpace, Bool.or_eq_false_iff, beq_eq_false_iff_ne]
    exact ⟨⟨⟨other _ (by decide), other _ (by decide)⟩, other _ (by decide)⟩, other _ (by decide)⟩

/-- An integer among the parts of a value. -/
theorem value_int (k : Int) (fuel : Nat) {rest : Text} (ends : EndsNumber rest) :
    value (fuel + 1) (intText k ++ rest) = some (.int k, rest) := by
  obtain ⟨byte, more, shape, starts⟩ :
      ∃ byte more, intText k ++ rest = byte :: more ∧ (byte = minus ∨ isDigit byte = true) := by
    obtain ⟨digits, first, others, shape, -⟩ := decimal_digits k.natAbs
    have digit := digits first (by rw [shape]; exact List.mem_cons_self)
    unfold intText
    split
    · exact ⟨minus, _, rfl, .inl rfl⟩
    · rw [shape]
      exact ⟨first, _, rfl, .inr digit⟩
  have read := number_intText k ends
  rw [shape] at read ⊢
  -- No other kind of value starts with this byte.
  obtain ⟨space, string, object, array, true_, false_, null⟩ := numberStart starts
  have begun : skipSpace (byte :: more) = byte :: more := by
    unfold skipSpace
    rw [List.dropWhile_cons_of_neg (by simp [space])]
  rw [value, begun]
  dsimp only
  rw [if_neg string, if_neg object, if_neg array, if_neg true_, if_neg false_, if_neg null, read]

/-- A member with a plain name, whose value is followed by a comma or by the end of the object. -/
theorem members_plain {name : Text} (plain : Plain name) {fuel : Nat} {text rest : Text}
    {first : Json} {byte : UInt8} (space : isSpace byte = false)
    (read : value fuel text = some (first, byte :: rest)) :
    members (fuel + 1) (quote :: (name ++ quote :: colon :: text)) =
      if byte = comma then (members fuel rest).map fun out => ((name, first) :: out.1, out.2)
      else if byte = closeBrace then some ([(name, first)], rest) else none := by
  have start : skipSpace (quote :: (name ++ quote :: colon :: text)) =
      quote :: (name ++ quote :: colon :: text) := rfl
  have middle : skipSpace (colon :: text) = colon :: text := rfl
  have stop : skipSpace (byte :: rest) = byte :: rest := by
    unfold skipSpace
    rw [List.dropWhile_cons_of_neg (by simp [space])]
  have inside : name.length < (quote :: (name ++ quote :: colon :: text)).length + 1 := by
    simp
    omega
  rw [members, start, List.head?_cons, if_pos rfl, List.tail_cons, body_plain plain inside]
  dsimp only
  rw [middle, List.head?_cons, if_pos rfl, List.tail_cons, read]
  dsimp only
  rw [stop]

/-- An item that is followed by a comma or by the end of the array. -/
theorem items_plain {fuel : Nat} {text rest : Text} {first : Json} {byte : UInt8}
    (space : isSpace byte = false) (read : value fuel text = some (first, byte :: rest)) :
    items (fuel + 1) text =
      if byte = comma then (items fuel rest).map fun out => (first :: out.1, out.2)
      else if byte = closeBracket then some ([first], rest) else none := by
  have stop : skipSpace (byte :: rest) = byte :: rest := by
    unfold skipSpace
    rw [List.dropWhile_cons_of_neg (by simp [space])]
  rw [items, read]
  dsimp only
  rw [stop]

/-- An object whose first member follows at once. -/
theorem value_object (fuel : Nat) (text : Text) :
    value (fuel + 1) (openBrace :: quote :: text) =
      (members fuel (quote :: text)).map fun out => (.object out.1, out.2) := by
  have start : skipSpace (openBrace :: quote :: text) = openBrace :: quote :: text := rfl
  have inside : skipSpace (quote :: text) = quote :: text := rfl
  rw [value, start]
  dsimp only
  rw [if_neg (by decide), if_pos rfl, inside, List.head?_cons, if_neg (by decide)]

/-- An array whose first item is an object that follows at once. -/
theorem value_array (fuel : Nat) (text : Text) :
    value (fuel + 1) (openBracket :: openBrace :: text) =
      (items fuel (openBrace :: text)).map fun out => (.array out.1, out.2) := by
  have start : skipSpace (openBracket :: openBrace :: text) = openBracket :: openBrace :: text := rfl
  have inside : skipSpace (openBrace :: text) = openBrace :: text := rfl
  rw [value, start]
  dsimp only
  rw [if_neg (by decide), if_neg (by decide), if_pos rfl, inside, List.head?_cons,
    if_neg (by decide)]

/-- An array that is closed at once. -/
theorem value_emptyArray (fuel : Nat) (rest : Text) :
    value (fuel + 1) (openBracket :: closeBracket :: rest) = some (.array [], rest) := by
  have start : skipSpace (openBracket :: closeBracket :: rest) =
    openBracket :: closeBracket :: rest := rfl
  have inside : skipSpace (closeBracket :: rest) = closeBracket :: rest := rfl
  rw [value, start]
  dsimp only
  rw [if_neg (by decide), if_neg (by decide), if_pos rfl, inside, List.head?_cons, if_pos rfl,
    List.tail_cons]

end Reading

end Json
