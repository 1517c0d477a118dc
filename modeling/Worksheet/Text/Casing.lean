import Worksheet.Text.CaseTable

/-!
# Upper and lower case

The full case mappings of the character standard: a letter may have several letters as its capital
(`ß` becomes `SS`), and a capital sigma becomes the final form `ς` where it ends a word.  ASCII
letters take a short way that gives what the tables give.
-/

namespace Worksheet.Text

/-- The code point that the first fitting run gives. -/
def runImage? (runs : List CaseRun) (n : Nat) : Option Nat :=
  runs.findSome? (·.imageOf? n)

/-- The capital of one character, one letter or several. -/
def upperChar (c : Char) : List Char :=
  if c.toNat < 0x80 then [c.toUpper]
  else match upperSpellings.lookup c.toNat with
    | some letters => letters.map Char.ofNat
    | none => [Char.ofNat ((runImage? upperRuns c.toNat).getD c.toNat)]

/-- The small form of one character, where its neighbours do not matter. -/
def lowerChar (c : Char) : List Char :=
  if c.toNat < 0x80 then [c.toLower]
  else if c = 'İ' then ['i', '\u0307']
  else [Char.ofNat ((runImage? lowerRuns c.toNat).getD c.toNat)]

/-- Does a letter follow, when the characters that case ignores are passed over? -/
def meetsLetter (s : List Char) : Bool :=
  match s.dropWhile ignorableSpans.has with
  | [] => false
  | c :: _ => casedSpans.has c

/-- The small form of a text; `before` holds the characters that stand before it, nearest first.
A capital sigma ends a word when a letter stands before it and none after it. -/
def lowerAfter (before : List Char) : List Char → List Char
  | [] => []
  | c :: rest =>
    (if c = 'Σ' then [if meetsLetter before && !meetsLetter rest then 'ς' else 'σ']
      else lowerChar c) ++ lowerAfter (c :: before) rest

/-- The text in upper case. -/
def upper (s : String) : String :=
  String.ofList (s.toList.flatMap upperChar)

/-- The text in lower case. -/
def lower (s : String) : String :=
  String.ofList (lowerAfter [] s.toList)

end Worksheet.Text
