import KeywordBridge.CommandLine.Arguments
import KeywordBridge.Diagnostic.Validation
import KeywordBridge.Files.Source
import KeywordBridge.Json.Writer
import KeywordBridge.Report
import KeywordBridge.Suggestion.Completion
import KeywordBridge.Suggestion.Cursor

/-!
# Commands

A command reads a program, works on it and prints what it found, as text for a
reader or as JSON. Files are read as programs with surface keywords, except by
the commands that are there to translate whatever a file holds. The exit code is
one if a program has diagnostics and two if it could not be read.
-/

namespace KeywordBridge

namespace CommandLine

/-- What a command does to the world outside. -/
structure Outcome where
  exit : Nat := 0
  stdout : Text := []
  stderr : Text := []
  /-- The service that is started. -/
  served : Option Service := none

/-- What a command reads. -/
inductive Reading where
  | nothing
  | standardInput
  /-- A file that is loaded as a program with surface keywords. -/
  | program (path : Text)
  /-- A file that is read as it is. -/
  | plainText (path : Text)
deriving DecidableEq

/-- The path that stands for the standard input. -/
def standardInput : Text := "-"

namespace Arguments

/-- What the command reads. -/
def reading (arguments : Arguments) : Reading :=
  match arguments.command with
  | .serve | .keywords => .nothing
  | .reverse | .auto =>
      if arguments.path = standardInput then .standardInput else .plainText arguments.path
  | _ => if arguments.path = standardInput then .standardInput else .program arguments.path

end Arguments

/-- The text that a command works on. -/
def Reading.text (table : Table) (input : Text) (find : Text → Found) :
    Reading → Except FileError Text
  | nothing => .ok []
  | standardInput => .ok input.unifyLineEnds
  | program path => (find path).program table path
  | plainText path => (find path).text path

/-! ## Printing -/

/-- A text followed by spaces up to a width. -/
def padded (width : Nat) (text : Text) : Text :=
  text ++ List.replicate (width - text.length) ' '

/-- A line of output. -/
def printed (text : Text) : Text :=
  text ++ ['\n']

/-- Lines of output. -/
def printedLines (lines : List Text) : Text :=
  lines.flatMap printed

/-- JSON as output, laid out over several lines. -/
def printedJson (value : Json) : Text :=
  printed value.indented

/-- A text as output, with a line feed at its end unless it is empty. -/
def printedText (text : Text) : Text :=
  if text.isEmpty || text.getLast? == some '\n' then text else printed text

/-- An entry of the table in columns. -/
def entryLine (entry : Entry) : Text :=
  padded 18 entry.surface ++ [' '] ++ padded 10 entry.target ++ [' '] ++ entry.meaning

/-- A diagnostic behind the name of the file it belongs to. -/
def diagnosticLine (file : Text) (diagnostic : Diagnostic) : Text :=
  file ++ [':'] ++ Text.ofNat diagnostic.line ++ [':'] ++ Text.ofNat diagnostic.column
    ++ ": " ++ Diagnostic.severity ++ " [" ++ diagnostic.problem.code ++ "] "
    ++ diagnostic.problem.message

/-- A token with its place in columns. -/
def tokenLine (token : Token) : Text :=
  Text.ofInt token.line ++ [':'] ++ padded 4 (Text.ofNat token.column) ++ [' ']
    ++ padded 18 token.kind.name ++ [' '] ++ token.value.quoted

/-- The heading over suggestions. -/
def suggestionHeading : Text :=
  "#   Prio  Kind      Label                Detail"

/-- A suggestion with its number in columns. -/
def suggestionLine (number : Nat) (suggestion : Suggestion) : Text :=
  padded 3 (Text.ofNat number) ++ [' '] ++ padded 5 (Text.ofNat suggestion.priority)
    ++ [' '] ++ padded 9 suggestion.kind.name ++ [' '] ++ padded 20 suggestion.label
    ++ [' '] ++ suggestion.detail

/-! ## The commands -/

namespace Arguments

/-- The name of the file in diagnostics. -/
def fileName (arguments : Arguments) : Text :=
  if arguments.path = standardInput then "<stdin>" else arguments.path

/-- A translated program, as text or with the given report. -/
def showCode (arguments : Arguments) (code : Text) (report : Json) : Outcome :=
  { stdout := if arguments.json then printedJson report else printedText code }

/-- The report of a translation in a direction that was asked for. -/
def codeReport (code : Text) : Json :=
  .record [("translatedCode", .string code)]

/-- Suggestions as a table, or as JSON. -/
def showSuggestions (arguments : Arguments) (suggestions : List Suggestion) : Outcome :=
  { stdout :=
      if arguments.json then printedJson (reports Suggestion.report suggestions)
      else if suggestions.isEmpty then printed "(no suggestions)"
      else printedLines (suggestionHeading ::
        suggestions.mapIdx fun index suggestion => suggestionLine (index + 1) suggestion) }

/-- The outcome of a command on a text. A place that is withheld has no members. -/
def outcome (table : Table) (arguments : Arguments) (text : Text) :
    Except CursorError Outcome :=
  match arguments.command with
  | .serve => .ok { served := some arguments.service }
  | .keywords =>
      .ok {
        stdout :=
          if arguments.json then printedJson (reports Entry.report table.entries)
          else printedLines (table.entries.map entryLine) }
  | .forward =>
      let code := table.forward text
      .ok (arguments.showCode code (codeReport code))
  | .reverse =>
      let code := table.reverse text
      .ok (arguments.showCode code (codeReport code))
  | .auto =>
      let translation := table.translateAuto text
      .ok (arguments.showCode translation.code translation.report)
  | .validate =>
      let diagnostics := table.validate text
      .ok {
        exit := if diagnostics.isEmpty then 0 else 1
        stdout :=
          if arguments.json then printedJson (reports Diagnostic.report diagnostics)
          else if diagnostics.isEmpty then printed "(no problems)"
          else printedLines (diagnostics.map (diagnosticLine arguments.fileName)) }
  | .tokens =>
      let tokens := table.tokenize text
      .ok {
        stdout :=
          if arguments.json then printedJson (reports Token.report tokens)
          else printedLines ((tokens.filter (·.kind != .white)).map tokenLine) }
  | .complete none => .error (.tooFewMembers 0)
  | .complete (some place) =>
      .ok (arguments.showSuggestions (table.complete defaultLimit text (some place)))

end Arguments

/-- Is a failure to read reported to the user? The others are failures of the
command itself. -/
def isReported : FileError → Bool
  | .cannotOpen _ .isADirectory => false
  | .cannotOpen _ (.path .notADirectory) => false
  | .cannotOpen _ (.path .nameTooLong) => false
  | _ => true

/-- Why a command fails. -/
inductive Failure where
  | file (cause : FileError)
  | cursor (cause : CursorError)

/-- The wording of a failure. -/
def Failure.message : Failure → Text
  | file cause => Text.escapedPoints cause.message
  | cursor cause => cause.message

/-- Carry out a command. -/
def run (table : Table) (input : Text) (find : Text → Found) (arguments : Arguments) :
    Except Failure Outcome :=
  match arguments.reading.text table input find with
  | .ok text => (arguments.outcome table text).mapError .cursor
  | .error cause =>
      if isReported cause then
        .ok { exit := 2, stderr := printed ("error: " ++ Text.escapedPoints cause.message) }
      else .error (.file cause)

/-- The complaint that is printed when a command line is not carried out. -/
def Stop.complaint : Stop → Text
  | help => []
  | misuse error => "isipython: error: " ++ error.message

/-- The exit code when a command line is not carried out. -/
def Stop.exit : Stop → Nat
  | help => 0
  | misuse _ => 2

end CommandLine

end KeywordBridge
