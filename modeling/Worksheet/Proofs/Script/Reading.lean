import Worksheet.Proofs.Except
import Worksheet.Proofs.Text.Runs
import Worksheet.Script.Basic

/-!
# What a script is read as

A script is cut into its lines (`isCutInto_lines`).  A line that is not blank and does not begin
with `#` is to write: its first word is an address, and the rest is typed into the cell.  If the
words of all these lines are addresses, the script is read as their writes (`ofText_of_isValid`),
and otherwise as an error that names the first line whose word is none (`ofText_of_not_isValid`).
-/

namespace Worksheet.Script

/-! ### Lines -/

theorem lines_nil : lines [] = [] := by
  rw [lines]
  rfl

theorem lines_append_cons {line rest : List Char} (h : '\n' ∉ line) :
    lines (line ++ '\n' :: rest) = line :: lines rest := by
  have hline : ∀ c ∈ line, (c != '\n') = true := fun c hc =>
    bne_iff_ne.2 fun heq => h (heq ▸ hc)
  have hstop : Text.Stops (· != '\n') ('\n' :: rest) := Text.stops_cons rfl
  rw [lines, if_neg (by simp), Text.takeWhile_run hline hstop, Text.dropWhile_run hline hstop,
    List.drop_one, List.tail_cons]

/-- Lines that are all ended are found again. -/
theorem lines_flatMap {ended : List (List Char)} (h : ∀ line ∈ ended, '\n' ∉ line) :
    lines (ended.flatMap (· ++ ['\n'])) = ended := by
  induction ended with
  | nil => exact lines_nil
  | cons line rest ih =>
    rw [List.forall_mem_cons] at h
    rw [List.flatMap_cons, List.append_assoc, List.singleton_append, lines_append_cons h.1, ih h.2]

/-- The text has these lines: those that a line feed ends, and what stands after the last of them
if anything does. -/
def IsCutInto (s : List Char) (ls : List (List Char)) : Prop :=
  ∃ (ended : List (List Char)) (last : List Char),
    s = ended.flatMap (· ++ ['\n']) ++ last ∧ (∀ line ∈ ended, '\n' ∉ line) ∧ '\n' ∉ last ∧
      ls = ended ++ if last.isEmpty then [] else [last]

theorem isCutInto_lines (s : List Char) : IsCutInto s (lines s) := by
  fun_induction lines s with
  | case1 s hs =>
    obtain rfl := List.isEmpty_iff.1 hs
    exact ⟨[], [], rfl, List.forall_mem_nil _, List.not_mem_nil, rfl⟩
  | case2 s hs ih =>
    have hsplit := List.takeWhile_append_dropWhile (p := (· != '\n')) (l := s)
    have hline : '\n' ∉ s.takeWhile (· != '\n') := fun h => by
      simpa using List.mem_takeWhile_imp h
    cases hrest : s.dropWhile (· != '\n') with
    | nil =>
      rw [hrest, List.append_nil] at hsplit
      rw [hsplit] at hline ⊢
      exact ⟨[], s, rfl, List.forall_mem_nil _, hline, by simp [hs, lines_nil]⟩
    | cons c rest =>
      obtain rfl : c = '\n' := by
        have hhead := List.head?_dropWhile_not (· != '\n') s
        rw [hrest] at hhead
        simpa using hhead
      rw [hrest, List.drop_one, List.tail_cons] at ih
      rw [List.drop_one, List.tail_cons]
      rw [hrest] at hsplit
      obtain ⟨ended, last, rfl, hended, hlast, hlines⟩ := ih
      refine ⟨s.takeWhile (· != '\n') :: ended, last, ?_, List.forall_mem_cons.2 ⟨hline, hended⟩,
        hlast, by rw [hlines, List.cons_append]⟩
      rw [List.flatMap_cons, List.append_assoc, List.append_assoc]
      exact hsplit.symm

theorem not_mem_of_mem_lines {s line : List Char} (h : line ∈ lines s) : '\n' ∉ line := by
  obtain ⟨ended, last, -, hended, hlast, hlines⟩ := isCutInto_lines s
  rw [hlines] at h
  rcases List.mem_append.1 h with h | h
  · exact hended line h
  · split at h
    · cases h
    · rwa [List.mem_singleton.1 h]

/-! ### Lines that write -/

/-- Is there a write on the line, or what should be one? -/
def isWrite (line : List Char) : Bool :=
  match Text.trimChars line with
  | [] => false
  | c :: _ => c != '#'

/-- The first word of a line. -/
def word (line : List Char) : List Char :=
  (Text.trimChars line).takeWhile fun c => !Text.isBlank c

/-- What stands on a line after its first word. -/
def typed (line : List Char) : List Char :=
  Text.trimChars ((Text.trimChars line).dropWhile fun c => !Text.isBlank c)

/-- Is the first word of the line an address? -/
def IsAddressed (line : List Char) : Prop :=
  ∃ a, Address.ofText (String.ofList (word line)) = .ok a

/-- The line writes this: its word is the address, and the rest is what is typed into the cell. -/
structure Writes (line : List Char) (w : ScriptWrite) : Prop where
  address : Address.ofText (String.ofList (word line)) = .ok w.address
  input : w.input = .ofText (String.ofList (typed line))

/-- A line with an address alone clears the cell. -/
theorem Writes.input_eq_empty {line : List Char} {w : ScriptWrite} (h : Writes line w)
    (htyped : typed line = []) : w.input = .empty := by
  rw [h.input, htyped]
  rfl

/-- There are no blanks in a word, so none are trimmed off it. -/
theorem ofText_word (line : List Char) :
    Address.ofText (String.ofList (word line)) = Address.readTrimmed (word line) := by
  have hword : ∀ c ∈ word line, Text.isBlank c = false := fun c hc => by
    simpa using List.mem_takeWhile_imp hc
  rw [Address.ofText, String.toList_ofList, Text.trimChars_eq_self (Text.stops_of_all hword)
    (Text.stops_of_all fun c hc => hword c (List.mem_reverse.1 hc))]

theorem readLine_of_not_isWrite {line : List Char} (h : isWrite line = false) (number : ℕ) :
    readLine number line = .ok none := by
  unfold isWrite at h
  unfold readLine
  split at h
  · next hnil => rw [hnil]
  · next c rest hcons =>
    obtain rfl : c = '#' := by simpa using h
    rw [hcons]
    rfl

theorem readLine_of_isWrite {line : List Char} (h : isWrite line = true) (number : ℕ) :
    readLine number line = match Address.ofText (String.ofList (word line)) with
      | .error _ => .error ⟨number, String.ofList (word line)⟩
      | .ok a => .ok (some ⟨a, .ofText (String.ofList (typed line))⟩) := by
  rw [ofText_word]
  unfold isWrite at h
  unfold readLine
  split
  · next hnil => simp [hnil] at h
  · next rest hcons => simp [hcons] at h
  · rfl

theorem readLine_of_isAddressed {line : List Char} (h : isWrite line = true)
    (haddress : IsAddressed line) (number : ℕ) :
    ∃ w, Writes line w ∧ readLine number line = .ok (some w) := by
  obtain ⟨a, ha⟩ := haddress
  refine ⟨⟨a, .ofText (String.ofList (typed line))⟩, ⟨ha, by dsimp only⟩, ?_⟩
  rw [readLine_of_isWrite h, ha]

theorem readLine_of_not_isAddressed {line : List Char} (h : isWrite line = true)
    (haddress : ¬ IsAddressed line) (number : ℕ) :
    readLine number line = .error ⟨number, String.ofList (word line)⟩ := by
  rw [readLine_of_isWrite h]
  cases ha : Address.ofText (String.ofList (word line)) with
  | ok a => exact absurd ⟨a, ha⟩ haddress
  | error e => rfl

/-! ### All lines -/

/-- **If every line that should write names an address, all of them write.** -/
theorem readLines_of_isAddressed {ls : List (List Char)}
    (h : ∀ line ∈ ls, isWrite line = true → IsAddressed line) (number : ℕ) :
    ∃ writes, List.Forall₂ Writes (ls.filter isWrite) writes ∧
      readLines number ls = .ok writes := by
  induction ls generalizing number with
  | nil => exact ⟨[], .nil, rfl⟩
  | cons line rest ih =>
    rw [List.forall_mem_cons] at h
    obtain ⟨writes, hwrites, hrest⟩ := ih h.2 (number + 1)
    cases hline : isWrite line with
    | false =>
      refine ⟨writes, ?_, ?_⟩
      · rwa [List.filter_cons_of_neg (by rw [hline]; exact Bool.false_ne_true)]
      · rw [readLines, readLine_of_not_isWrite hline, hrest]
        rfl
    | true =>
      obtain ⟨w, hw, hread⟩ := readLine_of_isAddressed hline (h.1 hline) number
      refine ⟨w :: writes, ?_, ?_⟩
      · rw [List.filter_cons_of_pos hline]
        exact .cons hw hwrites
      · rw [readLines, hread, hrest]
        rfl

/-- **The first line that should write and names no address is the error**, whatever follows it. -/
theorem readLines_of_not_isAddressed {before after : List (List Char)} {line : List Char}
    (hbefore : ∀ l ∈ before, isWrite l = true → IsAddressed l) (hline : isWrite line = true)
    (haddress : ¬ IsAddressed line) (number : ℕ) :
    readLines number (before ++ line :: after) =
      .error ⟨number + before.length, String.ofList (word line)⟩ := by
  induction before generalizing number with
  | nil =>
    rw [List.nil_append, readLines, readLine_of_not_isAddressed hline haddress]
    rfl
  | cons first rest ih =>
    rw [List.forall_mem_cons] at hbefore
    have hfirst : ∃ w?, readLine number first = .ok w? := by
      cases hwrite : isWrite first with
      | false => exact ⟨none, readLine_of_not_isWrite hwrite number⟩
      | true =>
        obtain ⟨w, -, hread⟩ := readLine_of_isAddressed hwrite (hbefore.1 hwrite) number
        exact ⟨some w, hread⟩
    obtain ⟨w?, hread⟩ := hfirst
    rw [List.cons_append, readLines, hread, ih hbefore.2, List.length_cons, Nat.add_assoc,
      Nat.add_comm 1]
    rfl

/-! ### Scripts -/

/-- Every line that should write has an address as its first word. -/
def IsValid (script : String) : Prop :=
  ∀ line ∈ lines script.toList, isWrite line = true → IsAddressed line

/-- Each line that should write stands for one of the writes, in the same order. -/
def Means (script : String) (writes : List ScriptWrite) : Prop :=
  List.Forall₂ Writes ((lines script.toList).filter isWrite) writes

/-- The error names the first line that should write and has no address as its first word, and this
word; all lines before it are counted. -/
def FirstError (script : String) (e : ScriptError) : Prop :=
  ∃ before line after, lines script.toList = before ++ line :: after ∧
    (∀ l ∈ before, isWrite l = true → IsAddressed l) ∧ isWrite line = true ∧ ¬ IsAddressed line ∧
      e = ⟨before.length + 1, String.ofList (word line)⟩

theorem ofText_of_isValid {script : String} (h : IsValid script) :
    ∃ writes, ofText script = .ok writes ∧ Means script writes := by
  obtain ⟨writes, hwrites, hread⟩ := readLines_of_isAddressed h 1
  exact ⟨writes, hread, hwrites⟩

theorem ofText_of_not_isValid {script : String} (h : ¬ IsValid script) :
    ∃ e, ofText script = .error e ∧ FirstError script e := by
  classical
  have hfound : ∃ line, (lines script.toList).find?
      (fun l => decide (isWrite l = true ∧ ¬ IsAddressed l)) = some line := by
    rw [← Option.isSome_iff_exists, List.find?_isSome]
    simpa [IsValid] using h
  obtain ⟨line, hfound⟩ := hfound
  obtain ⟨hline, before, after, hlines, hbefore⟩ := List.find?_eq_some_iff_append.1 hfound
  rw [decide_eq_true_eq] at hline
  have hgood : ∀ l ∈ before, isWrite l = true → IsAddressed l := by
    intro l hl hwrite
    by_contra hnot
    simpa [hwrite, hnot] using hbefore l hl
  refine ⟨_, ?_, before, line, after, hlines, hgood, hline.1, hline.2, rfl⟩
  rw [ofText, hlines, readLines_of_not_isAddressed hgood hline.1 hline.2, Nat.add_comm 1]

-- The comment and the blank line are counted, and a carriage return is white space.
example : (ofText "# note\r\n\n A1 5\r\nB 7").map List.length = .error ⟨4, "B"⟩ := by
  decide +kernel

theorem means_of_ofText {script : String} {writes : List ScriptWrite}
    (h : ofText script = .ok writes) : Means script writes := by
  by_cases hvalid : IsValid script
  · obtain ⟨writes', hread, hmeans⟩ := ofText_of_isValid hvalid
    rw [h] at hread
    cases hread
    exact hmeans
  · obtain ⟨e, hread, -⟩ := ofText_of_not_isValid hvalid
    rw [h] at hread
    cases hread

end Worksheet.Script
