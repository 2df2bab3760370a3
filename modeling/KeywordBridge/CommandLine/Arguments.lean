import KeywordBridge.CommandLine.Grammar
import KeywordBridge.Number.Integer

/-!
# The arguments of the command line

A command line asks for one command, names at most one file, and may set a few
options. Its texts are taken one after the other, and the first that cannot be
taken is reported. Only then it is found out whether a command is missing and
whether texts are left over, in this order. A request for help ends everything at
the point where it stands.

The service has a command line of its own with some of the same options, where
nothing has to be asked for and no file may be named.
-/

namespace KeywordBridge

namespace CommandLine

/-- The options that ask for a command. -/
inductive CommandOption where
  | forward
  | reverse
  | auto
  | validate
  | tokens
  | complete
  | keywords
  | serve
deriving DecidableEq

/-- The spelling of an option that asks for a command. -/
def CommandOption.spelling : CommandOption → Text
  | forward => "--forward"
  | reverse => "--reverse"
  | auto => "--auto"
  | validate => "--validate"
  | tokens => "--tokens"
  | complete => "--complete"
  | keywords => "--keywords"
  | serve => "--serve"

/-- The options that ask for a command, in the order in which they are listed. -/
def CommandOption.all : List CommandOption :=
  [forward, reverse, auto, validate, tokens, complete, keywords, serve]

/-- What is to be done. -/
inductive Command where
  | forward
  | reverse
  | auto
  | validate
  | tokens
  /-- Complete the word in front of a place, given by its line and its column
  unless it is withheld. -/
  | complete (place : Option (Int × Int))
  | keywords
  | serve
deriving DecidableEq

/-- The option that asks for a command. -/
def Command.option : Command → CommandOption
  | forward => .forward
  | reverse => .reverse
  | auto => .auto
  | validate => .validate
  | tokens => .tokens
  | complete _ => .complete
  | keywords => .keywords
  | serve => .serve

/-- The options. -/
inductive Key where
  | help
  | command (option : CommandOption)
  | json
  | host
  | port
  | verbose
deriving DecidableEq

/-- Does an option take a value? -/
def Key.takesValue : Key → Bool
  | command .complete => true
  | host => true
  | port => true
  | _ => false

/-- The spellings of the request for help. -/
def helpSpellings : List (Text × Key) :=
  [("-h", .help), ("--help", .help)]

/-- The spellings of the options that ask for a command. -/
def commandSpellings : List (Text × Key) :=
  CommandOption.all.map fun option => (option.spelling, .command option)

/-- The spelling of the option that chooses the form of the output. -/
def outputSpellings : List (Text × Key) :=
  [("--json", .json)]

/-- The spellings of the options that describe a service. -/
def serviceSpellings : List (Text × Key) :=
  [("--host", .host), ("--port", .port), ("--verbose", .verbose)]

/-- The options of the program. -/
def grammar : Grammar Key where
  spellings := helpSpellings ++ commandSpellings ++ outputSpellings ++ serviceSpellings
  takesValue := Key.takesValue

/-- The options of the service. -/
def serviceGrammar : Grammar Key where
  spellings := helpSpellings ++ serviceSpellings
  takesValue := Key.takesValue

/-- What is wrong with a command line. Options are given by their names. -/
inductive UsageError where
  | ambiguous (cause : Ambiguity)
  | missingValue (option : Text)
  | unwantedValue (option value : Text)
  | noInteger (option value : Text)
  | noPlace (option value : Text)
  /-- Two different commands are asked for. -/
  | conflict (option earlier : Text)
  | noCommand
  | leftOver (texts : List Text)
deriving DecidableEq

/-- The wording of a complaint. -/
def UsageError.message : UsageError → Text
  | .ambiguous ⟨written, candidates⟩ =>
      "ambiguous option: " ++ written ++ " could match "
        ++ List.intercalate ", ".toList candidates
  | .missingValue option => "argument " ++ option ++ ": expected one argument"
  | .unwantedValue option value =>
      "argument " ++ option ++ ": ignored explicit argument " ++ value.quoted
  | .noInteger option value =>
      "argument " ++ option ++ ": invalid int value: " ++ value.quoted
  | .noPlace option value =>
      "argument " ++ option ++ ": expected LINE:COL, got " ++ value.quoted
  | .conflict option earlier =>
      "argument " ++ option ++ ": not allowed with argument " ++ earlier
  | .noCommand =>
      "one of the arguments "
        ++ List.intercalate [' '] (CommandOption.all.map CommandOption.spelling)
        ++ " is required"
  | .leftOver texts => "unrecognized arguments: " ++ List.intercalate [' '] texts

/-- Why a command line is not carried out. -/
inductive Stop where
  /-- Help was asked for. -/
  | help
  | misuse (error : UsageError)
deriving DecidableEq

/-- May an argument still name the file? Two dashes are dropped as long as it may
and directly behind the argument that does. -/
inductive Slot where
  | vacant
  | justTaken
  | taken
deriving DecidableEq

/-- Where a service listens, and whether it tells what it does. A host or a port
that is withheld is none at all. -/
structure Service where
  host : Option Text := some "127.0.0.1"
  port : Option Int := some 8000
  verbose : Bool := false
deriving DecidableEq

/-- What a command line has said so far. -/
structure Settings where
  command : Option Command := none
  path : Text := "-"
  slot : Slot := .vacant
  json : Bool := false
  service : Service := {}
  leftOver : List Text := []

/-- The arguments of a command line. -/
structure Arguments where
  command : Command
  path : Text
  json : Bool
  service : Service
deriving DecidableEq

/-- Read a line and a column with a colon between them. -/
def place? (text : Text) : Option (Int × Int) :=
  match Text.cutAt ':' text with
  | [line, column] =>
      match Text.toInteger line, Text.toInteger column with
      | .ok line, .ok column => some (line, column)
      | _, _ => none
  | _ => none

namespace Settings

/-- Ask for a command. -/
def ask (settings : Settings) (command : Command) : Except UsageError Settings :=
  match settings.command with
  | some earlier =>
      if earlier.option = command.option then .ok { settings with command := some command }
      else .error (.conflict command.option.spelling earlier.option.spelling)
  | none => .ok { settings with command := some command }

/-- Take a flag. -/
def takeFlag (settings : Settings) : Key → Except Stop Settings
  | .help => .error .help
  | .json => .ok { settings with json := true }
  | .verbose => .ok { settings with service := { settings.service with verbose := true } }
  | .command .forward => (settings.ask .forward).mapError .misuse
  | .command .reverse => (settings.ask .reverse).mapError .misuse
  | .command .auto => (settings.ask .auto).mapError .misuse
  | .command .validate => (settings.ask .validate).mapError .misuse
  | .command .tokens => (settings.ask .tokens).mapError .misuse
  | .command .keywords => (settings.ask .keywords).mapError .misuse
  | .command .serve => (settings.ask .serve).mapError .misuse
  | .command .complete | .host | .port => .ok settings

/-- Take an option with its value. -/
def takeValue (grammar : Grammar Key) (settings : Settings) (key : Key) (value : Text) :
    Except UsageError Settings :=
  match key with
  | .command .complete =>
      match place? value with
      | some place => settings.ask (.complete place)
      | none => .error (.noPlace (grammar.name key) value)
  | .host => .ok { settings with service := { settings.service with host := some value } }
  | .port =>
      match value.toInteger with
      | .ok port => .ok { settings with service := { settings.service with port := some port } }
      | .error _ => .error (.noInteger (grammar.name key) value)
  | _ => .ok settings

/-- Take an option whose value is withheld. -/
def withhold (settings : Settings) : Key → Except UsageError Settings
  | .command .complete => settings.ask (.complete none)
  | .host => .ok { settings with service := { settings.service with host := none } }
  | .port => .ok { settings with service := { settings.service with port := none } }
  | _ => .ok settings

/-- Take an argument. -/
def takeArgument (settings : Settings) (text : Text) : Settings :=
  match settings.slot with
  | .vacant => { settings with path := text, slot := .justTaken }
  | _ => { settings with leftOver := settings.leftOver ++ [text], slot := .taken }

/-- Take two dashes that stand alone. -/
def takeDelimiter (settings : Settings) : Settings :=
  match settings.slot with
  | .vacant => settings
  | .justTaken => { settings with slot := .taken }
  | .taken => { settings with leftOver := settings.leftOver ++ [['-', '-']] }

/-- Something other than an argument comes in between. -/
def interrupted (settings : Settings) : Settings :=
  match settings.slot with
  | .justTaken => { settings with slot := .taken }
  | _ => settings

/-- Take one step of what a command line says. -/
def take (grammar : Grammar Key) (settings : Settings) : Occurrence Key → Except Stop Settings
  | .flag key => settings.interrupted.takeFlag key
  | .value key text => (settings.interrupted.takeValue grammar key text).mapError .misuse
  | .withheld key => (settings.interrupted.withhold key).mapError .misuse
  | .argument text => .ok (settings.takeArgument text)
  | .delimiter => .ok settings.takeDelimiter
  | .unknown text =>
      .ok { settings.interrupted with leftOver := settings.leftOver ++ [text] }
  | .misused (.missingValue key) => .error (.misuse (.missingValue (grammar.name key)))
  | .misused (.unwantedValue key value) =>
      .error (.misuse (.unwantedValue (grammar.name key) value))

/-- Take everything that a command line says. -/
def read (grammar : Grammar Key) (settings : Settings) (texts : List Text) :
    Except Stop Settings := do
  let occurrences ← (grammar.read texts).mapError (.misuse <| .ambiguous ·)
  occurrences.foldlM (take grammar) settings

end Settings

/-- The arguments on the command line of the program. -/
def parse (texts : List Text) : Except Stop Arguments := do
  let settings ← Settings.read grammar {} texts
  match settings.command with
  | none => throw (.misuse .noCommand)
  | some command =>
      if settings.leftOver.isEmpty then
        return ⟨command, settings.path, settings.json, settings.service⟩
      else throw (.misuse (.leftOver settings.leftOver))

/-- The service that the command line of the service describes. -/
def parseService (texts : List Text) : Except Stop Service := do
  let settings ← Settings.read serviceGrammar { slot := .taken } texts
  if settings.leftOver.isEmpty then return settings.service
  else throw (.misuse (.leftOver settings.leftOver))

end CommandLine

end KeywordBridge
