import Worksheet.Json.Basic

/-!
# Writing JSON

`compact` writes a value on one line without blanks, `pretty` with one item or member to a line and
two blanks of indentation; an array or object without parts is a pair of brackets in both.  A
string escapes quotes, backslashes and control characters, by a letter where there is one and by
four lower-case hexadecimal digits otherwise, and nothing else.  Members are written in the order in
which they stand.
-/

namespace Worksheet.Json

/-- The hexadecimal digit of a number below sixteen. -/
def hexDigit (n : Nat) : Char :=
  if n < 10 then Char.ofNat ('0'.toNat + n) else Char.ofNat ('a'.toNat + (n - 10))

/-- How a character is written inside a string. -/
def escape (c : Char) : List Char :=
  if c = '"' then ['\\', '"']
  else if c = '\\' then ['\\', '\\']
  else if c = '\n' then ['\\', 'n']
  else if c = '\r' then ['\\', 'r']
  else if c = '\t' then ['\\', 't']
  else if c = '\x08' then ['\\', 'b']
  else if c = '\x0c' then ['\\', 'f']
  else if c.toNat < 0x20 then
    ['\\', 'u', '0', '0', hexDigit (c.toNat / 16), hexDigit (c.toNat % 16)]
  else [c]

/-- The characters of a string; one that is no text is written as if it were empty. -/
def writeString (s : Option String) : List Char :=
  '"' :: (s.getD "").toList.flatMap escape ++ ['"']

/-- The characters of the values that have no parts. -/
def writeLeaf : Json → List Char
  | null => ['n', 'u', 'l', 'l']
  | bool true => ['t', 'r', 'u', 'e']
  | bool false => ['f', 'a', 'l', 's', 'e']
  | number numeral => numeral
  | string s => writeString s
  | array _ => ['[', ']']
  | object _ => ['\x7b', '\x7d']

mutual

/-- The characters of a value, without blanks. -/
def compact : Json → List Char
  | array items => '[' :: compactItems items ++ [']']
  | object members => '\x7b' :: compactMembers members ++ ['\x7d']
  | leaf => writeLeaf leaf

/-- The characters of some items, with commas between them. -/
def compactItems : List Json → List Char
  | [] => []
  | [item] => item.compact
  | item :: rest => item.compact ++ ',' :: compactItems rest

/-- The characters of some members, with commas between them. -/
def compactMembers : List (Option String × Json) → List Char
  | [] => []
  | [member] => compactMember member
  | member :: rest => compactMember member ++ ',' :: compactMembers rest

/-- The characters of a member. -/
def compactMember : Option String × Json → List Char
  | (key, value) => writeString key ++ ':' :: value.compact

end

/-- A new line with its indentation. -/
def newline (level : Nat) : List Char :=
  '\n' :: List.replicate (2 * level) ' '

mutual

/-- The characters of a value whose first line is indented by so many levels. -/
def pretty (level : Nat) : Json → List Char
  | array (item :: rest) =>
    '[' :: prettyItems (level + 1) (item :: rest) ++ newline level ++ [']']
  | object (member :: rest) =>
    '\x7b' :: prettyMembers (level + 1) (member :: rest) ++ newline level ++ ['\x7d']
  | leaf => writeLeaf leaf

/-- The characters of some items, each on a new line. -/
def prettyItems (level : Nat) : List Json → List Char
  | [] => []
  | [item] => newline level ++ item.pretty level
  | item :: rest => newline level ++ item.pretty level ++ ',' :: prettyItems level rest

/-- The characters of some members, each on a new line. -/
def prettyMembers (level : Nat) : List (Option String × Json) → List Char
  | [] => []
  | [member] => prettyMember level member
  | member :: rest => prettyMember level member ++ ',' :: prettyMembers level rest

/-- The characters of a member on a new line. -/
def prettyMember (level : Nat) : Option String × Json → List Char
  | (key, value) => newline level ++ writeString key ++ ':' :: ' ' :: value.pretty level

end

/-- The value on one line. -/
def toLine (j : Json) : String :=
  String.ofList j.compact

/-- The value over several lines. -/
def toLines (j : Json) : String :=
  String.ofList (j.pretty 0)

end Worksheet.Json
