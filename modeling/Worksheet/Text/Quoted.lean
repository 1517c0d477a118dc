import Worksheet.Text.HiddenTable

/-!
# Quoted text in messages

A text is shown between double quotes.  Quotes, backslashes and the common controls take a
backslash, and a character that would not show is written by its code point in hexadecimal.
-/

namespace Worksheet.Text

/-- How one character is written inside quotes. -/
def quotedChar (c : Char) : List Char :=
  match c with
  | '"' => ['\\', '"']
  | '\\' => ['\\', '\\']
  | '\n' => ['\\', 'n']
  | '\r' => ['\\', 'r']
  | '\t' => ['\\', 't']
  | '\x00' => ['\\', '0']
  | c =>
    if hiddenSpans.has c then
      '\\' :: 'u' :: '\x7b' :: Nat.toDigits 16 c.toNat ++ ['\x7d']
    else
      [c]

/-- The text between quotes, every hidden character made visible. -/
def quoted (s : String) : String :=
  String.ofList ('"' :: s.toList.flatMap quotedChar ++ ['"'])

end Worksheet.Text
