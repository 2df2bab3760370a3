import KeywordBridge.Diagnostic.Basic
import KeywordBridge.Program.Definition
import KeywordBridge.Program.Indentation
import KeywordBridge.Token.Source

/-!
# Validation

The checks look at one line at a time and, for the indentation of blocks, at the
next line that has code. They know nothing of expressions that run over several
lines. A line is checked as far as it has code, which is what remains without
its comment; blank lines and lines that hold a comment alone are passed over. A
line that continues a triple-quoted string is not looked at as the head of a
block, but its parentheses, target keywords and broken strings count.

The words that the checks look for are the surface keywords of the table. A rule
whose keyword is missing from the table does not apply, except that a missing
word for functions or for the plain alternative is replaced by the target word.
-/

namespace KeywordBridge

/-! ## Heads of blocks -/

/-- The longest of the words with which the code starts and behind which a blank
or a parenthesis follows. -/
def headWord? (words : List Text) (code : Text) : Option Text :=
  longest? <| words.filter fun word =>
    match Text.dropStart? word code with
    | some (c :: _) => isBlankChar c || c == '('
    | _ => false

/-- Does the code start with one of the words, as a whole word, and end with a
colon behind it? -/
def isHead (words : List Text) (code : Text) : Bool :=
  words.any fun word =>
    match Text.dropStart? word code with
    | some rest => Text.isBoundary word.getLast? rest.head? && rest.getLast? == some ':'
    | none => false

namespace Table

/-- The words in front of a condition or of the items of a loop. -/
def conditionWords (table : Table) : List Text :=
  table.wordsFor ["if", "elif", "for"]

/-- The word in front of the condition of a loop. -/
def loopWords (table : Table) : List Text :=
  table.wordsFor ["while"]

/-- The words of the remaining statements that open a block. -/
def statementWords (table : Table) : List Text :=
  table.wordsFor ["class", "except", "with"]

/-- The words that may stand alone in front of a block. -/
def bareWords (table : Table) : List Text :=
  table.wordsFor ["else", "try", "finally", "except"]

/-- The words that open a block. -/
def blockWords (table : Table) : List Text :=
  table.wordsFor
    ["if", "elif", "else", "for", "while", "def", "class", "try", "except", "finally", "with"]

/-- The problems of code, trimmed of blanks, that lacks a colon at its end. -/
def colonProblems (table : Table) (code : Text) : List Problem :=
  if code.getLast? == some ':' then []
  else
    (if (headWord? table.conditionWords code).isSome then [.conditionWithoutColon] else [])
      ++ (if table.bareWords.contains code then [.bareWordWithoutColon code] else [])
      ++ (if (functionHere? table.functionWord code).isSome then [.functionWithoutColon] else [])
      ++ (if (headWord? table.loopWords code).isSome then [.loopWithoutColon] else [])
      ++ ((headWord? table.statementWords code).map Problem.statementWithoutColon).toList

/-- The missing colons of a line. The place of the advice is where the colon
should be typed, behind the last character of the code that is not blank. -/
def colonDiagnostics (table : Table) (line : SourceLine) : List Diagnostic :=
  let column := line.code.trimEnd.length + 1
  (table.colonProblems line.code.trim).map fun problem =>
    ⟨line.number, column, column + 1, problem⟩

/-- The missing indentation of the block that a line opens. It is reported where
the next line with code starts, unless that line continues a string. -/
def indentationDiagnostics (table : Table) (line : SourceLine) (following : List SourceLine) :
    List Diagnostic :=
  if isHead table.blockWords line.code.trim then
    match following.find? (·.hasCode) with
    | none => []
    | some next =>
        if next.continuesString || indentation line.text < indentation next.text then []
        else [⟨next.number, 1, 2, .missingIndentation⟩]
  else []

/-- The target keyword or the broken string that a token may be. -/
def tokenProblem? (table : Table) (token : Token) : Option Problem :=
  match token.kind with
  | .identifier =>
      (table.surfaceFor? token.value).map fun surface => .targetKeyword surface token.value
  | .brokenString => some .brokenString
  | _ => none

/-- The target keywords and broken strings of a line. -/
def tokenDiagnostics (table : Table) (line : SourceLine) : List Diagnostic :=
  line.tokens.filterMap fun token =>
    (table.tokenProblem? token).map fun problem =>
      ⟨line.number, token.column, token.endColumn, problem⟩

end Table

/-- How often a bracket occurs on the line as a bracket. -/
def SourceLine.countBracket (line : SourceLine) (bracket : Char) : Nat :=
  line.lexemes.countP fun lexeme => lexeme.kind == .bracket && lexeme.value == [bracket]

/-- The parentheses of a line that do not balance. -/
def SourceLine.parenthesisDiagnostics (line : SourceLine) : List Diagnostic :=
  if line.countBracket '(' = line.countBracket ')' then []
  else [⟨line.number, 1, 2, .unbalancedParentheses⟩]

namespace Table

/-- The diagnostics that a line gives rise to, in front of the lines that follow
it. -/
def lineDiagnostics (table : Table) (line : SourceLine) (following : List SourceLine) :
    List Diagnostic :=
  if line.hasCode then
    (if line.continuesString then []
      else table.colonDiagnostics line ++ table.indentationDiagnostics line following)
      ++ line.parenthesisDiagnostics ++ table.tokenDiagnostics line
  else []

/-- The diagnostics of consecutive lines in the order in which they are found. -/
def diagnose (table : Table) : List SourceLine → List Diagnostic
  | [] => []
  | line :: following => table.lineDiagnostics line following ++ table.diagnose following

/-- The diagnostics of a program in their order. -/
def validate (table : Table) (program : Text) : List Diagnostic :=
  (table.diagnose (table.read program)).mergeSort Diagnostic.le

end Table

end KeywordBridge
