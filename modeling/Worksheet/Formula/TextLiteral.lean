/-!
# Text literals

A text stands in a formula between double quotes, and a quote inside it is written twice.  Reading
takes a text up to its closing quote and tells how many characters that were; what was written is
read back (`read_body`).
-/

namespace Worksheet.TextLiteral

/-- The characters between the quotes. -/
def body : List Char → List Char
  | [] => []
  | c :: rest => if c = '"' then '"' :: '"' :: body rest else c :: body rest

/-- The literal of a text. -/
def write (s : List Char) : List Char :=
  '"' :: body s ++ ['"']

/-- The text from behind an opening quote up to the closing one, and the number of characters with
the closing quote; nothing if no quote closes it. -/
def read : List Char → Option (List Char × Nat)
  | [] => none
  | '"' :: '"' :: rest => (read rest).map fun (s, n) => ('"' :: s, n + 2)
  | '"' :: _ => some ([], 1)
  | c :: rest => (read rest).map fun (s, n) => (c :: s, n + 1)

theorem read_quote_quote (rest : List Char) :
    read ('"' :: '"' :: rest) = (read rest).map fun (s, n) => ('"' :: s, n + 2) := by
  rw [read]

theorem read_cons {c : Char} (h : c ≠ '"') (rest : List Char) :
    read (c :: rest) = (read rest).map fun (s, n) => (c :: s, n + 1) := by
  rw [read]
  all_goals simp_all

theorem read_close {rest : List Char} (h : rest.head? ≠ some '"') :
    read ('"' :: rest) = some ([], 1) := by
  cases rest with
  | nil => rfl
  | cons c rest =>
    rw [read]
    rintro r ⟨⟩
    exact h rfl

/-- A literal is read back, unless another quote follows it at once. -/
theorem read_body (s : List Char) {rest : List Char} (h : rest.head? ≠ some '"') :
    read (body s ++ '"' :: rest) = some (s, (body s).length + 1) := by
  induction s with
  | nil => exact read_close h
  | cons c s ih =>
    by_cases hc : c = '"'
    · simp [body, hc, read_quote_quote, ih]
    · simp [body, hc, read_cons hc, ih]

end Worksheet.TextLiteral
