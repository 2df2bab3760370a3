import KeywordBridge.Suggestion.Definitions
import KeywordBridge.Token.Source

/-!
# Completions at a cursor

Completions are asked for at a cursor, which is a line and a column or the end
of the program. A cursor outside the program is moved to the nearest place
inside. What has been typed of a name in front of the cursor selects the
suggestions whose labels start with it, regardless of case. Nothing is suggested
inside a string or a comment, as far as the line in front of the cursor tells.
-/

namespace KeywordBridge

/-- How many suggestions are given at most unless asked otherwise. -/
def defaultLimit : Int := 200

/-- The integer nearest to `value` between one and `upper`. -/
def clampToOne (value : Int) (upper : Nat) : Nat :=
  min (max value 1).toNat upper

/-- A place in a program: the lines above and the text in front of it on its own
line. -/
structure Place where
  above : List Text
  before : Text

/-- The place of a cursor with a line and a column, or of the end of the
program. Carriage returns at the end of the line do not count as columns. -/
def Place.ofCursor (program : Text) (cursor : Option (Int × Int)) : Place :=
  let lines := program.lines
  match cursor with
  | none => ⟨lines.dropLast, (lines.getLastD []).dropReturns⟩
  | some (line, column) =>
      let number := clampToOne line lines.length
      let text := (lines.getD (number - 1) []).dropReturns
      ⟨lines.take (number - 1), text.take (clampToOne column (text.length + 1) - 1)⟩

/-- What has been typed of a name in front of the place. -/
def Place.typed (place : Place) : Text :=
  place.before.lastName

namespace Table

/-- Does the place lie in a string or a comment? The line in front of it leaves
a string open or ends with a comment or a broken string. -/
def isQuiet (table : Table) (place : Place) : Bool :=
  let (lexemes, final) := table.scanLine (table.modeAfter .code place.above) place.before
  final != .code ||
    (lexemes.getLast?.any fun last => last.kind == .comment || last.kind == .brokenString)

/-- All suggestions for a program: its own names, then the fixed suggestions
that they do not replace. -/
def allSuggestions (table : Table) (program : Text) : List Suggestion :=
  let dynamic := table.definitions program
  dynamic ++ table.staticSuggestions.filter fun suggestion =>
    !dynamic.any (·.label == suggestion.label)

/-- The suggestions for a program at a cursor, at most `limit` of them. -/
def complete (table : Table) (limit : Int) (program : Text) (cursor : Option (Int × Int)) :
    List Suggestion :=
  let place := Place.ofCursor program cursor
  if table.isQuiet place then []
  else
    let typed := foldCase place.typed
    let matching :=
      (table.allSuggestions program).filter fun suggestion =>
        typed.isPrefixOf (foldCase suggestion.label)
    Text.takeInt limit (matching.mergeSort Suggestion.le)

end Table

end KeywordBridge
