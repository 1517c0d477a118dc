import Worksheet.Json.Basic

/-!
# Reading JSON

The reader follows the grammar of JSON without extensions: no comments, no trailing commas, no
leading zeros, no plus sign before a numeral, and no control characters inside strings.  Blanks,
tabs and the two line ends may stand between any two parts, and nothing else may stand behind the
value.  Each function returns the characters that it leaves with a proof that there are fewer of
them.

The grammar alone decides here.  What a numeral is worth, which members count and how deep values
may nest is decided where a value is made from the tree.
-/

namespace Worksheet.Json

/-- Is the character white space between the parts of a text? -/
def isSpace (c : Char) : Bool :=
  c = ' ' || c = '\n' || c = '\t' || c = '\r'

/-- The characters from the first one that is no white space. -/
def skip (s : List Char) : List Char :=
  s.dropWhile isSpace

theorem length_skip_le (s : List Char) : (skip s).length ≤ s.length :=
  (List.dropWhile_sublist _).length_le

/-! ### Numbers -/

/-- How many characters an exponent at the front takes; nothing if its digits are missing. -/
def exponentLength? : List Char → Option Nat
  | [] => some 0
  | c :: rest =>
    if c = 'e' || c = 'E' then
      let sign := match rest with
        | '+' :: _ => 1
        | '-' :: _ => 1
        | _ => 0
      let digits := (rest.drop sign).takeWhile Char.isDigit
      if digits.isEmpty then none else some (1 + sign + digits.length)
    else some 0

/-- How many characters a fraction and an exponent at the front take. -/
def tailLength? : List Char → Option Nat
  | '.' :: rest =>
    let digits := rest.takeWhile Char.isDigit
    if digits.isEmpty then none
    else (exponentLength? (rest.dropWhile Char.isDigit)).map (1 + digits.length + ·)
  | s => exponentLength? s

/-- How many characters an unsigned numeral at the front takes. -/
def unsignedLength? (s : List Char) : Option Nat :=
  let whole := s.takeWhile Char.isDigit
  if whole.isEmpty || (whole.head? == some '0' && 1 < whole.length) then none
  else (tailLength? (s.dropWhile Char.isDigit)).map (whole.length + ·)

/-- How many characters the numeral at the front takes. -/
def numeralLength? : List Char → Option Nat
  | '-' :: rest => (unsignedLength? rest).map (1 + ·)
  | s => unsignedLength? s

/-! ### Strings -/

/-- The value of a hexadecimal digit. -/
def hexValue? (c : Char) : Option Nat :=
  if c.isDigit then some (c.toNat - '0'.toNat)
  else if 'a' ≤ c && c ≤ 'f' then some (c.toNat - 'a'.toNat + 10)
  else if 'A' ≤ c && c ≤ 'F' then some (c.toNat - 'A'.toNat + 10)
  else none

/-- The code unit that four hexadecimal digits name. -/
def hexUnit? (a b c d : Char) : Option Nat := do
  let a ← hexValue? a
  let b ← hexValue? b
  let c ← hexValue? c
  let d ← hexValue? d
  return ((a * 16 + b) * 16 + c) * 16 + d

/-- The low half of a surrogate pair, if its escape stands at the front. -/
def lowSurrogate? : List Char → Option Nat
  | '\\' :: 'u' :: a :: b :: c :: d :: _ =>
    (hexUnit? a b c d).filter fun unit => 0xDC00 ≤ unit && unit ≤ 0xDFFF
  | _ => none

/-- The character of an escape that is one letter. -/
def escaped? (c : Char) : Option Char :=
  if c = '"' || c = '\\' || c = '/' then some c
  else if c = 'n' then some '\n'
  else if c = 'r' then some '\r'
  else if c = 't' then some '\t'
  else if c = 'b' then some '\x08'
  else if c = 'f' then some '\x0c'
  else none

/-- A character read from a string, or nothing where the escapes name half of a surrogate pair, and
how many characters it took. -/
def readChar? : List Char → Option (Option Char × Nat)
  | '\\' :: 'u' :: a :: b :: c :: d :: rest => do
    let unit ← hexUnit? a b c d
    if 0xD800 ≤ unit && unit ≤ 0xDBFF then
      match lowSurrogate? rest with
      | some low =>
        return (some (Char.ofNat (0x10000 + (unit - 0xD800) * 0x400 + (low - 0xDC00))), 12)
      | none => return (none, 6)
    else if 0xDC00 ≤ unit && unit ≤ 0xDFFF then return (none, 6)
    else return (some (Char.ofNat unit), 6)
  | '\\' :: c :: _ => (escaped? c).map fun c => (some c, 2)
  | c :: _ => if c = '\\' || c.toNat < 0x20 then none else some (some c, 1)
  | [] => none

/-- A character put in front of a text; no text comes of half a character. -/
def prepend : Option Char → Option (List Char) → Option (List Char)
  | some c, some s => some (c :: s)
  | _, _ => none

/-- A string read from behind its opening quote, and the characters after it. -/
structure ReadString (s : List Char) where
  text : Option (List Char)
  rest : List Char
  shorter : rest.length < s.length

/-- Reads a string from behind its opening quote to the closing one. -/
def readString (s : List Char) : Option (ReadString s) :=
  match s with
  | [] => none
  | '"' :: rest => some ⟨some [], rest, by simp⟩
  | c :: rest =>
    match readChar? (c :: rest) with
    | none => none
    | some (char, n) =>
      have no_longer : (rest.drop (n - 1)).length ≤ rest.length :=
        (List.drop_sublist _ _).length_le
      (readString (rest.drop (n - 1))).map fun r =>
        ⟨prepend char r.text, r.rest,
          Nat.lt_succ_of_lt (Nat.lt_of_lt_of_le r.shorter no_longer)⟩
termination_by s.length
decreasing_by exact Nat.lt_succ_of_le no_longer

/-! ### Values -/

/-- A value read from the front of a text, and the characters after it. -/
structure ReadValue (s : List Char) where
  value : Json
  rest : List Char
  shorter : rest.length < s.length

/-- Items or members read up to the closing bracket, and the characters after it. -/
structure ReadParts (α : Type) (s : List Char) where
  parts : List α
  rest : List Char
  shorter : rest.length < s.length

/-- The key of a member, with its colon, and the characters after it. -/
structure ReadKey (s : List Char) where
  key : Option String
  rest : List Char
  shorter : rest.length < s.length

/-- Reads the key of a member and the colon behind it. -/
def readKey (s : List Char) : Option (ReadKey s) :=
  match h : skip s with
  | '"' :: inside => do
    let key ← readString inside
    match h' : skip key.rest with
    | ':' :: rest =>
      return ⟨key.text.map String.ofList, rest, by
        have := length_skip_le s
        have := length_skip_le key.rest
        have := key.shorter
        simp only [h, h', List.length_cons] at *
        omega⟩
    | _ => none
  | _ => none

/-- Reads the value that a word stands for, or a number. -/
def readLeaf (s : List Char) : Option (ReadValue s) :=
  match s with
  | 'n' :: 'u' :: 'l' :: 'l' :: rest =>
    some ⟨null, rest, by simp only [List.length_cons]; omega⟩
  | 't' :: 'r' :: 'u' :: 'e' :: rest =>
    some ⟨bool true, rest, by simp only [List.length_cons]; omega⟩
  | 'f' :: 'a' :: 'l' :: 's' :: 'e' :: rest =>
    some ⟨bool false, rest, by simp only [List.length_cons]; omega⟩
  | c :: rest =>
    (numeralLength? (c :: rest)).map fun n =>
      ⟨number ((c :: rest).take n), rest.drop (n - 1), by
        simp only [List.length_cons, List.length_drop]; omega⟩
  | [] => none

mutual

/-- Reads one value. -/
def readValue (s : List Char) : Option (ReadValue s) :=
  have := length_skip_le s
  match h : skip s with
  | [] => none
  | '"' :: inside => do
    let r ← readString inside
    return ⟨string (r.text.map String.ofList), r.rest, by
      have := r.shorter; simp only [h, List.length_cons] at *; omega⟩
  | '[' :: inside =>
    have := length_skip_le inside
    match h' : skip inside with
    | ']' :: rest =>
      some ⟨array [], rest, by simp only [h, h', List.length_cons] at *; omega⟩
    | _ => do
      have : inside.length < s.length := by simp only [h, List.length_cons] at *; omega
      let r ← readItems inside
      return ⟨array r.parts, r.rest, by have := r.shorter; omega⟩
  | '\x7b' :: inside =>
    have := length_skip_le inside
    match h' : skip inside with
    | '\x7d' :: rest =>
      some ⟨object [], rest, by simp only [h, h', List.length_cons] at *; omega⟩
    | _ => do
      have : inside.length < s.length := by simp only [h, List.length_cons] at *; omega
      let r ← readMembers inside
      return ⟨object r.parts, r.rest, by have := r.shorter; omega⟩
  | c :: rest => do
    let r ← readLeaf (c :: rest)
    return ⟨r.value, r.rest, by
      have := r.shorter; simp only [h, List.length_cons] at *; omega⟩
termination_by 2 * s.length

/-- Reads at least one item, and all that follow it after commas. -/
def readItems (s : List Char) : Option (ReadParts Json s) := do
  let first ← readValue s
  have := first.shorter
  have := length_skip_le first.rest
  match h : skip first.rest with
  | ']' :: rest => return ⟨[first.value], rest, by simp only [h, List.length_cons] at *; omega⟩
  | ',' :: rest =>
    have : rest.length < s.length := by simp only [h, List.length_cons] at *; omega
    let others ← readItems rest
    return ⟨first.value :: others.parts, others.rest, by have := others.shorter; omega⟩
  | _ => none
termination_by 2 * s.length + 1

/-- Reads at least one member, and all that follow it after commas. -/
def readMembers (s : List Char) : Option (ReadParts (Option String × Json) s) := do
  let key ← readKey s
  have := key.shorter
  let value ← readValue key.rest
  have := value.shorter
  have := length_skip_le value.rest
  match h : skip value.rest with
  | '\x7d' :: rest =>
    return ⟨[(key.key, value.value)], rest, by simp only [h, List.length_cons] at *; omega⟩
  | ',' :: rest =>
    have : rest.length < s.length := by simp only [h, List.length_cons] at *; omega
    let others ← readMembers rest
    return ⟨(key.key, value.value) :: others.parts, others.rest, by
      have := others.shorter; omega⟩
  | _ => none
termination_by 2 * s.length + 1

end

/-- The value that a whole text writes. -/
def ofChars? (s : List Char) : Option Json := do
  let r ← readValue s
  if (skip r.rest).isEmpty then return r.value else none

/-- The value that a whole text writes. -/
def ofText? (s : String) : Option Json :=
  ofChars? s.toList

end Worksheet.Json
