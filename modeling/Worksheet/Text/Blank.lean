import Worksheet.Text.Spans

/-!
# White space and trimming

`isBlank` is the `White_Space` property of the character standard: beside the ASCII blanks it holds
the no-break space, the line and paragraph separators and the wide spaces, but neither the
zero-width space nor the byte order mark.  `trim` takes the blanks off both ends of a text.
-/

namespace Worksheet.Text

/-- The code points with the `White_Space` property. -/
def blankSpans : Spans :=
  [(0x9, 0xD), (0x20, 0x20), (0x85, 0x85), (0xA0, 0xA0), (0x1680, 0x1680), (0x2000, 0x200A),
    (0x2028, 0x2029), (0x202F, 0x202F), (0x205F, 0x205F), (0x3000, 0x3000)]

/-- Is the character white space? -/
def isBlank (c : Char) : Bool :=
  blankSpans.has c

/-- The text without the blanks at its end. -/
def trimEnd (s : List Char) : List Char :=
  (s.reverse.dropWhile isBlank).reverse

/-- The text without the blanks at its two ends. -/
def trimChars (s : List Char) : List Char :=
  trimEnd (s.dropWhile isBlank)

/-- The text without the blanks at its two ends. -/
def trim (s : String) : String :=
  String.ofList (trimChars s.toList)

/-- How many bytes the characters take in UTF-8. -/
def byteLength (s : List Char) : Nat :=
  s.foldr (fun c n => c.utf8Size + n) 0

end Worksheet.Text
