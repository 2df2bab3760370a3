import KeywordBridge.Token.Scan

/-!
# The lines of a program

A program is read line by line: carriage returns at the end of a line are
dropped, and every line starts in the mode that the line before left behind. A
line that starts inside a triple-quoted string continues that string.
-/

namespace KeywordBridge

/-- One line of a program as it was read. -/
structure SourceLine where
  number : Nat
  text : Text
  /-- The mode in which the line starts. -/
  mode : Mode
  lexemes : List Lexeme

namespace SourceLine

/-- Does the line start inside a triple-quoted string? -/
def continuesString (line : SourceLine) : Bool :=
  line.mode.isTriple

/-- The line without its comment. -/
def code (line : SourceLine) : Text :=
  Lexeme.source (line.lexemes.filter (·.kind != .comment))

/-- Is there more on the line than blanks and a comment? -/
def hasCode (line : SourceLine) : Bool :=
  !line.code.isBlank

/-- The tokens of the line. -/
def tokens (line : SourceLine) : List Token :=
  Lexeme.place line.number 1 line.lexemes

end SourceLine

namespace Table

/-- Read consecutive lines, the first of which has the given number and starts
in the given mode. -/
def readFrom (table : Table) : (number : Nat) → Mode → List Text → List SourceLine
  | _, _, [] => []
  | number, mode, line :: rest =>
      let text := line.dropReturns
      let (lexemes, next) := table.scanLine mode text
      ⟨number, text, mode, lexemes⟩ :: readFrom table (number + 1) next rest

/-- The lines of a program. -/
def read (table : Table) (program : Text) : List SourceLine :=
  table.readFrom 1 .code program.lines

/-- The mode behind consecutive lines. -/
def modeAfter (table : Table) : Mode → List Text → Mode
  | mode, [] => mode
  | mode, line :: rest => table.modeAfter (table.scanLine mode line.dropReturns).2 rest

/-- The tokens of a program, one group for every line. -/
def tokenizeLines (table : Table) (program : Text) : List (List Token) :=
  (table.read program).map (·.tokens)

/-- The tokens of consecutive lines in one list, where the first line has the
given number and starts in the given mode. -/
def tokenizeFrom (table : Table) : (number : Nat) → Mode → List Text → List Token
  | _, _, [] => []
  | number, mode, line :: rest =>
      let (tokens, next) := table.tokenizeLine mode number line.dropReturns
      tokens ++ tokenizeFrom table (number + 1) next rest

/-- The tokens of a program in one list. -/
def tokenize (table : Table) (program : Text) : List Token :=
  if program.isEmpty then [] else table.tokenizeFrom 1 .code program.lines

/-- Reading gives one line for every line of the text. -/
theorem length_readFrom (table : Table) (number : Nat) (mode : Mode) (lines : List Text) :
    (table.readFrom number mode lines).length = lines.length := by
  induction lines generalizing number mode with
  | nil => rfl
  | cons line rest ih => simp [readFrom, ih]

end Table

end KeywordBridge
