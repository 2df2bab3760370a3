import KeywordBridge.Number.Decimal

/-!
# Diagnostics

A diagnostic is advice about one place of a program: which problem was found, on
which line, and which columns it covers. Diagnostics are listed by line, then by
column, then by the code of their problem.
-/

namespace KeywordBridge

/-- What may be wrong with a line. -/
inductive Problem where
  /-- A condition or the head of a counting loop lacks its colon. -/
  | conditionWithoutColon
  /-- A word that stands alone on its line lacks its colon. -/
  | bareWordWithoutColon (word : Text)
  /-- The head of a function lacks its colon. -/
  | functionWithoutColon
  /-- The head of a conditional loop lacks its colon. -/
  | loopWithoutColon
  /-- The line opens and closes parentheses a different number of times. -/
  | unbalancedParentheses
  /-- The line behind the head of a block is not indented deeper than the head. -/
  | missingIndentation
  /-- A target keyword stands where `surface` is expected. -/
  | targetKeyword (surface word : Text)
  /-- A string is not closed on its line. -/
  | brokenString
  /-- A statement that opens a block lacks its colon. -/
  | statementWithoutColon (word : Text)
deriving DecidableEq

namespace Problem

/-- The number by which a kind of problem is known. -/
def number : Problem → Nat
  | conditionWithoutColon => 101
  | bareWordWithoutColon _ => 102
  | functionWithoutColon => 103
  | loopWithoutColon => 104
  | unbalancedParentheses => 105
  | missingIndentation => 106
  | targetKeyword _ _ => 107
  | brokenString => 108
  | statementWithoutColon _ => 109

/-- The code of a kind of problem: the letter E and its number. -/
def code (problem : Problem) : Text :=
  'E' :: Text.ofNat problem.number

/-- The advice that is shown. -/
def message : Problem → Text
  | conditionWithoutColon => "Expected ':' after condition"
  | bareWordWithoutColon word => "Expected ':' after '" ++ word ++ "'"
  | functionWithoutColon => "Expected ':' after function definition"
  | loopWithoutColon => "Expected ':' after while condition"
  | unbalancedParentheses => "Unmatched parentheses"
  | missingIndentation => "Expected indented block"
  | targetKeyword surface word => "Use '" ++ surface ++ "' instead of '" ++ word ++ "'"
  | brokenString => "Unterminated string literal"
  | statementWithoutColon word => "Expected ':' after '" ++ word ++ "' statement"

end Problem

/-- A problem with its place. Lines and columns count from one, and the end
column lies behind the last column covered. -/
structure Diagnostic where
  line : Nat
  column : Nat
  endColumn : Nat
  problem : Problem
deriving DecidableEq

namespace Diagnostic

/-- Every diagnostic is an error. -/
def severity : Text := "error"

/-- The owner under which hosts keep the markers of diagnostics. -/
def source : Text := "isipython"

/-- The order in which diagnostics are listed: by line, column and code. -/
def le (first second : Diagnostic) : Bool :=
  if first.line ≠ second.line then first.line < second.line
  else if first.column ≠ second.column then first.column < second.column
  else first.problem.number ≤ second.problem.number

/-- The diagnostic as one line of text. -/
def format (diagnostic : Diagnostic) : Text :=
  "[" ++ diagnostic.problem.code ++ "] line " ++ Text.ofNat diagnostic.line ++ ", col "
    ++ Text.ofNat diagnostic.column ++ ": " ++ diagnostic.problem.message

end Diagnostic

end KeywordBridge
