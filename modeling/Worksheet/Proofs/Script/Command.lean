import Worksheet.Proofs.Grid.Walk
import Worksheet.Proofs.Script.OneLine
import Worksheet.Proofs.Sheet.Used
import Worksheet.Script.Command

/-!
# Scripts apply fully or not at all

A command first reads its script and then its arguments, and prints only when both can be read
(`all_or_nothing`).  What `run` prints has one line for each cell, with the value that the sheet has
after all writes.
-/

namespace Worksheet

namespace Sheet

/-- Cells in use are listed row by row. -/
theorem pairwise_used (s : Sheet) :
    s.used.Pairwise fun a b => a.row < b.row ∨ a.row = b.row ∧ a.col < b.col := by
  refine List.Pairwise.imp (fun {a b} h => ?_) Std.ExtTreeMap.ordered_keys
  rw [Address.compare_def, Nat.compare_eq_lt] at h
  exact Address.before_iff_index_lt.2 h

end Sheet

namespace Script

/-- The writes as actions on a sheet. -/
def actions (writes : List ScriptWrite) : List Sheet.Action :=
  writes.map fun w => .set w.address w.input

theorem apply_new (o : Options) (writes : List ScriptWrite) :
    apply (Sheet.new o) writes = Sheet.run o (actions writes) := by
  rw [apply, Sheet.run, actions, List.foldl_map]
  rfl

theorem Writes.oneLine {line : List Char} {w : ScriptWrite} (h : Writes line w)
    (hline : '\n' ∉ line) : w.input.OneLine := by
  have htyped : (typed line).Sublist line :=
    (Text.trimChars_sublist _).trans
      ((List.dropWhile_sublist _).trans (Text.trimChars_sublist line))
  have honeLine : Text.OneLine (String.ofList (typed line)) := by
    rw [Text.OneLine, String.toList_ofList]
    exact fun hmem => hline (htyped.subset hmem)
  have hinput := Input.oneLine_ofText honeLine
  rwa [h.input]

/-- The writes of a script give values on one line. -/
theorem Means.oneLine_get {script : String} {writes : List ScriptWrite} (h : Means script writes)
    (o : Options) (a : Address) :
    Text.OneLine ((Sheet.run o (actions writes)).get a).1.display := by
  suffices hwrites : ∀ action ∈ actions writes, ∀ input, action.input? = some input →
      input.OneLine from (Sheet.oneLine_run o hwrites a).display
  rintro action hmem input hinput
  obtain ⟨w, hw, rfl⟩ := List.mem_map.1 hmem
  obtain rfl := Option.some.inj hinput
  obtain ⟨i, hi, rfl⟩ := List.getElem_of_mem hw
  obtain ⟨hlength, hread⟩ := List.forall₂_iff_get.1 h
  have hline := List.mem_of_mem_filter (List.get_mem _ ⟨i, hlength ▸ hi⟩)
  exact (hread i (hlength ▸ hi) hi).oneLine (not_mem_of_mem_lines hline)

end Script

namespace Command

/-! ### Arguments -/

/-- The addresses among the arguments of the command, as they are written. -/
def addresses : Command → List String
  | run cells => cells
  | snapshot cell => [cell]
  | info => []

/-- Is the text an address? -/
def IsAddress (text : String) : Prop :=
  ∃ a, Address.ofText text = .ok a

theorem readCell_of_not_isAddress {text : String} (h : ¬ IsAddress text) :
    ∃ e, readCell text = .error e := by
  cases ha : Address.ofText text with
  | ok a => exact absurd ⟨a, ha⟩ h
  | error e => exact ⟨.address text e, by rw [readCell, ha]; rfl⟩

theorem mapM_readCell_of_isAddress {cells : List String} (h : ∀ cell ∈ cells, IsAddress cell) :
    ∃ requested, List.Forall₂ (fun cell a => Address.ofText cell = .ok a) cells requested ∧
      cells.mapM readCell = .ok requested := by
  induction cells with
  | nil => exact ⟨[], .nil, rfl⟩
  | cons cell rest ih =>
    rw [List.forall_mem_cons] at h
    obtain ⟨a, ha⟩ := h.1
    obtain ⟨requested, hrequested, hrest⟩ := ih h.2
    refine ⟨a :: requested, .cons ha hrequested, ?_⟩
    rw [List.mapM_cons, readCell, ha, hrest]
    rfl

theorem mapM_readCell_of_not_isAddress {cells : List String}
    (h : ∃ cell ∈ cells, ¬ IsAddress cell) : ∃ e, cells.mapM readCell = .error e := by
  induction cells with
  | nil => simp at h
  | cons cell rest ih =>
    rw [List.mapM_cons]
    cases hread : readCell cell with
    | error e => exact ⟨e, rfl⟩
    | ok a =>
      -- this one is an address, so a later one is not
      obtain ⟨bad, hbad, hnot⟩ := h
      rcases List.mem_cons.1 hbad with rfl | hbad
      · obtain ⟨e, he⟩ := readCell_of_not_isAddress hnot
        rw [hread] at he
        cases he
      · obtain ⟨e, he⟩ := ih ⟨bad, hbad, hnot⟩
        exact ⟨e, by rw [he]; rfl⟩

/-! ### What is printed -/

/-- The cells that `run` prints: those that are named, in this order, or if none is named all cells
in use, row by row. -/
def Requests (s : Sheet) (cells : List String) (requested : List Address) : Prop :=
  if cells = [] then
    requested.Pairwise (fun a b => a.row < b.row ∨ a.row = b.row ∧ a.col < b.col) ∧
      ∀ a : Address, a ∈ requested ↔ s.cells[a]? ≠ none
  else List.Forall₂ (fun cell a => Address.ofText cell = .ok a) cells requested

theorem exists_output_run (s : Sheet) {cells : List String} (h : ∀ cell ∈ cells, IsAddress cell) :
    ∃ requested, Requests s cells requested ∧
      (run cells).output s = .ok (printValues s requested) := by
  unfold Requests
  split
  · next hnil =>
    subst hnil
    exact ⟨s.used, ⟨s.pairwise_used, fun a => Sheet.mem_used_iff⟩, rfl⟩
  · next hne =>
    obtain ⟨requested, hrequested, hread⟩ := mapM_readCell_of_isAddress h
    refine ⟨requested, hrequested, ?_⟩
    rw [output, hread]
    · rfl
    · exact hne

/-- A command that is given addresses does not fail. -/
theorem exists_output_eq_ok {command : Command} (s : Sheet)
    (h : ∀ cell ∈ command.addresses, IsAddress cell) : ∃ text, command.output s = .ok text := by
  cases command with
  | run cells =>
    obtain ⟨requested, -, houtput⟩ := exists_output_run s h
    exact ⟨_, houtput⟩
  | snapshot cell =>
    obtain ⟨a, ha⟩ := h cell (List.mem_singleton_self cell)
    exact ⟨_, by rw [output, readCell, ha]; rfl⟩
  | info => exact ⟨_, rfl⟩

theorem exists_output_eq_error {command : Command} (s : Sheet)
    (h : ∃ cell ∈ command.addresses, ¬ IsAddress cell) : ∃ e, command.output s = .error e := by
  cases command with
  | run cells =>
    have hread : ∃ e, cells.mapM readCell = .error e := mapM_readCell_of_not_isAddress h
    obtain ⟨e, he⟩ := hread
    cases cells with
    | nil => cases he
    | cons cell rest =>
      refine ⟨e, ?_⟩
      rw [output, he]
      · rfl
      · exact nofun
  | snapshot cell =>
    obtain ⟨bad, hbad, hnot⟩ := h
    obtain rfl := List.mem_singleton.1 hbad
    obtain ⟨e, he⟩ := readCell_of_not_isAddress hnot
    exact ⟨e, by rw [output, he]; rfl⟩
  | info => simp [addresses] at h

/-- The line for a cell, without the line feed behind it. -/
def shownLine (s : Sheet) (a : Address) : String :=
  a.text ++ "\t" ++ (s.get a).1.display

/-- The text has one line for each of the cells, in this order, and nothing else. -/
def Prints (s : Sheet) (requested : List Address) (text : String) : Prop :=
  text = String.join (requested.map fun a => shownLine s a ++ "\n") ∧
    Script.lines text.toList = requested.map fun a => (shownLine s a).toList

theorem printValues_eq {s : Sheet} (hl : s.Linked) (hs : s.Settled) (requested : List Address) :
    printValues s requested = String.join (requested.map fun a => shownLine s a ++ "\n") := by
  have hvalues : (Sheet.getAll requested s).1 = requested.map fun a => (s.get a).1 :=
    (Sheet.onlyCleans_getAll hl hs requested).1
  have hzip : List.zipWith valueLine requested (requested.map fun a => (s.get a).1) =
      requested.map fun a => shownLine s a ++ "\n" := by
    rw [List.zipWith_map_right, List.zipWith_self]
    rfl
  rw [printValues, hvalues, hzip]

theorem oneLine_shownLine {s : Sheet} {a : Address} (h : Text.OneLine (s.get a).1.display) :
    Text.OneLine (shownLine s a) := by
  have haddress : '\n' ∉ a.chars := by
    intro hmem
    rcases List.mem_append.1 hmem with hmem | hmem
    · exact absurd (Column.isAlpha_of_mem_letters hmem) (by decide)
    · exact absurd (Address.isDigit_of_mem_digits hmem) (by decide)
  simp only [Text.OneLine, shownLine, String.toList_append, List.mem_append, not_or]
  refine ⟨⟨?_, by decide⟩, h⟩
  rwa [Address.text, String.toList_ofList]

/-- Where every value stands on one line, so does what is printed for a cell. -/
theorem prints_printValues {s : Sheet} (hl : s.Linked) (hs : s.Settled)
    (hline : ∀ a, Text.OneLine (s.get a).1.display) (requested : List Address) :
    Prints s requested (printValues s requested) := by
  have hlines : ∀ line ∈ requested.map fun a => (shownLine s a).toList, '\n' ∉ line := by
    intro line hmem
    obtain ⟨a, -, rfl⟩ := List.mem_map.1 hmem
    exact oneLine_shownLine (hline a)
  refine ⟨printValues_eq hl hs requested, ?_⟩
  rw [printValues_eq hl hs, ← Script.lines_flatMap hlines, String.toList_join, List.flatMap_map,
    List.flatMap_map]
  simp only [String.toList_append]
  rfl

/-! ### Commands -/

theorem execute_of_error {script : String} {e : ScriptError} (h : Script.ofText script = .error e)
    (o : Options) (command : Command) :
    command.execute o script = ⟨1, "", (CommandError.script scriptName e).report⟩ := by
  rw [execute, h]

section Executed

variable {script : String} {writes : List ScriptWrite} (h : Script.ofText script = .ok writes)
  (o : Options) {command : Command}
include h

theorem execute_of_not_isAddress (hcells : ∃ cell ∈ command.addresses, ¬ IsAddress cell) :
    (command.execute o script).code = 1 ∧ (command.execute o script).stdout = "" := by
  obtain ⟨e, he⟩ := exists_output_eq_error (Script.apply (Sheet.new o) writes) hcells
  have hexecute : command.execute o script =
      ⟨1, "", applied (Script.apply (Sheet.new o) writes) ++ e.report⟩ := by
    rw [execute, h]
    dsimp only
    rw [he]
  rw [hexecute]
  exact ⟨rfl, rfl⟩

theorem execute_of_output {text : String}
    (htext : command.output (Sheet.run o (Script.actions writes)) = .ok text) :
    (command.execute o script).code = 0 ∧ (command.execute o script).stdout = text := by
  have hexecute : command.execute o script =
      ⟨0, text, applied (Sheet.run o (Script.actions writes))⟩ := by
    rw [execute, h]
    dsimp only
    rw [Script.apply_new, htext]
  rw [hexecute]
  exact ⟨rfl, rfl⟩

theorem execute_run {cells : List String} (hcells : ∀ cell ∈ cells, IsAddress cell) :
    ∃ requested, Requests (Sheet.run o (Script.actions writes)) cells requested ∧
      Prints (Sheet.run o (Script.actions writes)) requested
        ((run cells).execute o script).stdout := by
  obtain ⟨requested, hrequested, houtput⟩ :=
    exists_output_run (Sheet.run o (Script.actions writes)) hcells
  refine ⟨requested, hrequested, ?_⟩
  rw [(execute_of_output h o houtput).2]
  exact prints_printValues (Sheet.linked_run o _) (Sheet.settled_run o _)
    ((Script.means_of_ofText h).oneLine_get o) requested

end Executed

/-- **Scripts apply fully or not at all.**  A script is cut into lines, and those that are not blank
and do not begin with `#` are to write.  If the first words of these are addresses, it is read as
their writes in the order of the lines, an address alone clearing the cell, and otherwise as an
error that names the first line whose word is none.  A command on a script that is not read, or with
an argument that is no address, fails and prints nothing but its report.  Every other command
succeeds, and `run` prints one line for each cell that is named, or for each cell in use, with the
value that the sheet has after all writes. -/
theorem all_or_nothing (script : String) :
    Script.IsCutInto script.toList (Script.lines script.toList) ∧
    (Script.IsValid script →
      ∃ writes, Script.ofText script = .ok writes ∧ Script.Means script writes) ∧
    (∀ (line : List Char) (w : ScriptWrite), Script.Writes line w → Script.typed line = [] →
      w.input = .empty) ∧
    (¬ Script.IsValid script →
      ∃ e, Script.ofText script = .error e ∧ Script.FirstError script e) ∧
    (∀ (o : Options) (command : Command) (e : ScriptError), Script.ofText script = .error e →
      command.execute o script = ⟨1, "", (CommandError.script scriptName e).report⟩) ∧
    ∀ (o : Options) (command : Command) (writes : List ScriptWrite),
      Script.ofText script = .ok writes →
      ((∃ cell ∈ command.addresses, ¬ IsAddress cell) →
        (command.execute o script).code = 1 ∧ (command.execute o script).stdout = "") ∧
      ((∀ cell ∈ command.addresses, IsAddress cell) →
        (command.execute o script).code = 0 ∧ ∀ cells, command = run cells →
          ∃ requested, Requests (Sheet.run o (Script.actions writes)) cells requested ∧
            Prints (Sheet.run o (Script.actions writes)) requested
              (command.execute o script).stdout) := by
  refine ⟨Script.isCutInto_lines _, Script.ofText_of_isValid,
    fun line w => Script.Writes.input_eq_empty, Script.ofText_of_not_isValid,
    fun o command e h => execute_of_error h o command,
    fun o command writes h => ⟨execute_of_not_isAddress h o, fun hcells => ⟨?_, ?_⟩⟩⟩
  · obtain ⟨text, htext⟩ := exists_output_eq_ok (Sheet.run o (Script.actions writes)) hcells
    exact (execute_of_output h o htext).1
  · rintro cells rfl
    exact execute_run h o hcells

end Command

end Worksheet
