import KeywordBridge.Token.Source

/-!
# Reading the lines of a program

Only the mode passes from one line to the next, and numbers only count. So each
line is read in the mode that the lines above leave behind, two lists of lines are
read one after the other, and lines that are counted from another number on are
read alike.
-/

namespace KeywordBridge

/-- The line some lines further down. -/
def SourceLine.moveDown (offset : Nat) (line : SourceLine) : SourceLine :=
  { line with number := line.number + offset }

namespace Table

variable (table : Table)

/-- The lexemes of a line make up the line. -/
theorem source_scanLine (mode : Mode) (line : Text) :
    Lexeme.source (table.scanLine mode line).1 = line :=
  source_scanFrom table.surfaces mode none line

theorem readFrom_cons (number : Nat) (mode : Mode) (line : Text) (rest : List Text) :
    table.readFrom number mode (line :: rest) =
      ⟨number, line.dropReturns, mode, (table.scanLine mode line.dropReturns).1⟩
        :: table.readFrom (number + 1) (table.scanLine mode line.dropReturns).2 rest :=
  rfl

/-- A line is read in the mode behind the lines above it. -/
theorem getElem?_readFrom (number : Nat) (mode : Mode) (lines : List Text) (index : Nat) :
    (table.readFrom number mode lines)[index]? =
      lines[index]?.map fun line =>
        let start := table.modeAfter mode (lines.take index)
        ⟨number + index, line.dropReturns, start, (table.scanLine start line.dropReturns).1⟩ := by
  induction lines generalizing number mode index with
  | nil => rfl
  | cons line rest ih =>
      cases index with
      | zero => rfl
      | succ before =>
          rw [readFrom_cons, List.getElem?_cons_succ, List.getElem?_cons_succ, ih, List.take_succ_cons,
            modeAfter, Nat.add_assoc, Nat.add_comm 1]

/-- A line that is read is a line of the program behind those above it. -/
theorem exists_of_mem_read {program : Text} {line : SourceLine}
    (member : line ∈ table.read program) :
    ∃ index text, program.lines[index]? = some text ∧
      let start := table.modeAfter .code (program.lines.take index)
      line = ⟨1 + index, text.dropReturns, start, (table.scanLine start text.dropReturns).1⟩ := by
  obtain ⟨index, isLine⟩ := List.getElem?_of_mem member
  rw [read, getElem?_readFrom, Option.map_eq_some_iff] at isLine
  obtain ⟨text, isText, same⟩ := isLine
  exact ⟨index, text, isText, same.symm⟩

/-- Lines behind others are read in the mode that these leave behind. -/
theorem readFrom_append (number : Nat) (mode : Mode) (first second : List Text) :
    table.readFrom number mode (first ++ second) =
      table.readFrom number mode first
        ++ table.readFrom (number + first.length) (table.modeAfter mode first) second := by
  induction first generalizing number mode with
  | nil => rfl
  | cons line rest ih =>
      rw [List.cons_append, readFrom_cons, readFrom_cons, ih, modeAfter, List.length_cons,
        List.cons_append, Nat.add_assoc, Nat.add_comm 1]

/-- The number of the first line does not matter to how the lines are read. -/
theorem readFrom_add (number offset : Nat) (mode : Mode) (lines : List Text) :
    table.readFrom (number + offset) mode lines =
      (table.readFrom number mode lines).map (SourceLine.moveDown offset) := by
  induction lines generalizing number mode with
  | nil => rfl
  | cons line rest ih =>
      rw [readFrom_cons, readFrom_cons, List.map_cons, ← ih, Nat.add_right_comm]
      rfl

/-- Lines are numbered consecutively. -/
theorem number_of_mem_readFrom {number : Nat} {mode : Mode} {lines : List Text}
    {line : SourceLine} (member : line ∈ table.readFrom number mode lines) :
    number ≤ line.number ∧ line.number < number + lines.length := by
  obtain ⟨index, isLine⟩ := List.getElem?_of_mem member
  rw [getElem?_readFrom, Option.map_eq_some_iff] at isLine
  obtain ⟨text, isText, rfl⟩ := isLine
  obtain ⟨inside, -⟩ := List.getElem?_eq_some_iff.1 isText
  exact ⟨Nat.le_add_right number index, Nat.add_lt_add_left inside number⟩

/-- The text of a line that is read is made of characters of the lines. -/
theorem source_of_mem_readFrom {number : Nat} {mode : Mode} {lines : List Text}
    {line : SourceLine} (member : line ∈ table.readFrom number mode lines) :
    ∃ text ∈ lines, Lexeme.source line.lexemes = text.dropReturns := by
  obtain ⟨index, isLine⟩ := List.getElem?_of_mem member
  rw [getElem?_readFrom, Option.map_eq_some_iff] at isLine
  obtain ⟨text, isText, rfl⟩ := isLine
  exact ⟨text, List.mem_of_getElem? isText, table.source_scanLine _ _⟩

end Table

end KeywordBridge
