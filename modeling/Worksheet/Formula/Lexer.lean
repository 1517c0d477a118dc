import Worksheet.Formula.TextLiteral
import Worksheet.Formula.Token
import Worksheet.Number.Numeral
import Worksheet.Value.Coercion

/-!
# Splitting a formula into tokens

`Token.lexeme` finds the token at the front of a text and how many characters it takes;
`Token.scan` goes through a text lexeme by lexeme, over the blanks between them.  A word is an
address only if it has the form of one and no bracket follows it; two addresses around a colon are a
range.
-/

namespace Worksheet.Token

/-- Can the character stand in a word? -/
def isWordChar (c : Char) : Bool :=
  c.isAlphanum || c = '_' || c = '$' || c = '.'

/-- Can a word begin with the character? -/
def startsWord (c : Char) : Bool :=
  c.isAlpha || c = '$' || c = '_'

/-- Does a numeral begin here?  A point begins one only in front of a digit. -/
def startsNumeral : List Char → Bool
  | '.' :: c :: _ => c.isDigit
  | c :: _ => c.isDigit
  | [] => false

/-- How many characters the power of ten at the front takes; without digits it is none. -/
def scaleLength : List Char → Nat
  | [] => 0
  | c :: rest =>
    if c = 'e' || c = 'E' then
      let sign := match rest with
        | '+' :: _ => 1
        | '-' :: _ => 1
        | _ => 0
      let digits := (rest.drop sign).takeWhile Char.isDigit
      if digits.isEmpty then 0 else 1 + sign + digits.length
    else 0

/-- How many characters the numeral at the front takes. -/
def numeralLength (s : List Char) : Nat :=
  let whole := (s.takeWhile Char.isDigit).length
  match s.dropWhile Char.isDigit with
  | '.' :: rest =>
    whole + 1 + (rest.takeWhile Char.isDigit).length + scaleLength (rest.dropWhile Char.isDigit)
  | rest => whole + scaleLength rest

/-- The operator at the front, and how many characters follow its first one. -/
def operatorLexeme? : Char → List Char → Option (Operator × Nat)
  | '+', _ => some (.arithmetic .add, 0)
  | '-', _ => some (.arithmetic .subtract, 0)
  | '*', _ => some (.arithmetic .multiply, 0)
  | '/', _ => some (.arithmetic .divide, 0)
  | '%', _ => some (.arithmetic .modulo, 0)
  | '=', _ => some (.relation .equal, 0)
  | '<', '=' :: _ => some (.relation .lessEqual, 1)
  | '<', '>' :: _ => some (.relation .notEqual, 1)
  | '<', _ => some (.relation .less, 0)
  | '>', '=' :: _ => some (.relation .greaterEqual, 1)
  | '>', _ => some (.relation .greater, 0)
  | _, _ => none

/-- The address that a word at this position writes. -/
def wordAddress (position : Nat) (word : List Char) : Except FormulaError Address :=
  (Address.readTrimmed word).mapError fun _ => .badToken position (String.ofList word)

/-- The token of a word that is not read as an address; `called` tells that a bracket follows. -/
def nameToken (position : Nat) (word : List Char) (called : Bool) : Except FormulaError Token :=
  if word.contains '$' then .error (.badToken position (String.ofList word))
  else
    let upper := Text.asciiUpper (String.ofList word)
    if called then .ok (.name upper)
    else match Value.truthOfWord? upper with
      | some b => .ok (.boolean b)
      | none => .ok (.name upper)

/-- The token that begins with a word at this position, and how many characters it takes. -/
def wordLexeme (position : Nat) (word rest : List Char) : Except FormulaError (Token × Nat) :=
  let called := rest.head? == some '('
  if called || !Address.hasForm word then
    (nameToken position word called).map fun token => (token, word.length)
  else do
    let first ← wordAddress position word
    match rest with
    | ':' :: after =>
      let second := after.takeWhile isWordChar
      if Address.hasForm second then
        let last ← wordAddress (position + Text.byteLength word + 1) second
        return (.range (.spanning first last), word.length + 1 + second.length)
      else
        throw (.badToken position (String.ofList (word ++ ':' :: second)))
    | _ => return (.cell first, word.length)

/-- The token that begins with `c` at this position, and how many characters it takes. -/
def lexeme (position : Nat) (c : Char) (rest : List Char) : Except FormulaError (Token × Nat) :=
  match operatorLexeme? c rest with
  | some (op, n) => .ok (.operator op, 1 + n)
  | none =>
    if c = '(' then .ok (.leftParen, 1)
    else if c = ')' then .ok (.rightParen, 1)
    else if c = ',' then .ok (.comma, 1)
    else if c = '"' then
      match TextLiteral.read rest with
      | some (s, n) => .ok (.text (String.ofList s), 1 + n)
      | none => .error (.openText position)
    else if startsNumeral (c :: rest) then
      let numeral := (c :: rest).take (numeralLength (c :: rest))
      match Number.readFinite? numeral with
      | some n => .ok (.number n, numeral.length)
      | none => .error (.badToken position (String.ofList numeral))
    else if startsWord c then
      wordLexeme position (c :: rest.takeWhile isWordChar) (rest.dropWhile isWordChar)
    else .error (.strayChar position c)

/-- The tokens of a text that begins at this position. -/
def scan (position : Nat) : List Char → Except FormulaError (List Token)
  | [] => .ok []
  | c :: rest =>
    if Text.isBlank c then scan (position + c.utf8Size) rest
    else do
      let (token, n) ← lexeme position c rest
      let tokens ← scan (position + Text.byteLength (c :: rest.take (n - 1))) (rest.drop (n - 1))
      return token :: tokens
termination_by s => s.length

/-- The tokens of a whole text. -/
def ofText (s : String) : Except FormulaError (List Token) :=
  scan 0 s.toList

end Worksheet.Token
