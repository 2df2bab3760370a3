import KeywordBridge.Text.Basic

/-!
# The grammar of command lines

A command line is a list of texts. A text that starts with a dash may be an
option, which is either a flag or takes a value. A long option starts with two
dashes and may be cut short as long as no other long option starts in the same
way; its value is the next text or what follows an equals sign, where two dashes
withhold it. An option of one letter is a flag, and several of them may share one
dash; an equals sign behind the first of them is passed over. Every other text is
an argument, and so is everything behind two dashes that stand alone.

A text is first taken for what it is by itself, so a text that looks like an
option never serves as the value of another. Negative numbers and texts with
spaces are no options unless they are spelled like one.
-/

namespace KeywordBridge

/-- The options of a program. -/
structure Grammar (κ : Type) where
  /-- The spellings of the options, in the order in which messages list them. -/
  spellings : List (Text × κ)
  /-- Does the option take a value? -/
  takesValue : κ → Bool

/-- What one text of a command line is. -/
inductive Word (κ : Type) where
  | argument (text : Text)
  | option (key : κ)
  /-- An option with what follows its equals sign. -/
  | assigned (key : κ) (value : Text)
  /-- An option of one letter with the letters that share its dash. -/
  | letters (key : κ) (rest : Text)
  /-- Two dashes that stand alone. -/
  | delimiter
  /-- A text that looks like an option and is none. -/
  | unknown (text : Text)

/-- A text that may be short for several options. -/
structure Ambiguity where
  written : Text
  candidates : List Text
deriving DecidableEq

/-- What is wrong with the use of an option. -/
inductive OptionError (κ : Type) where
  | missingValue (key : κ)
  | unwantedValue (key : κ) (value : Text)

/-- What a command line says, step by step. -/
inductive Occurrence (κ : Type) where
  | flag (key : κ)
  | value (key : κ) (text : Text)
  /-- An option whose value is withheld. -/
  | withheld (key : κ)
  | argument (text : Text)
  | delimiter
  | unknown (text : Text)
  | misused (cause : OptionError κ)

namespace Text

/-- What stands in front of an equals sign, and what follows it if there is
one. -/
def splitAtEquals : Text → Text × Option Text
  | [] => ([], none)
  | '=' :: rest => ([], some rest)
  | c :: rest =>
      let (name, value) := splitAtEquals rest
      (c :: name, value)

/-- Does the text consist of decimal digits, at least one of them? -/
def isNumeral (text : Text) : Bool :=
  !text.isEmpty && text.all isDecimalDigit

/-- Is this a negative number? It may have a fraction, even without a whole part,
and a line feed may follow it. -/
def isNegativeNumber : Text → Bool
  | '-' :: rest =>
      let digits : Text := if rest.getLast? == some '\n' then rest.dropLast else rest
      match cutAt '.' digits with
      | [whole] => isNumeral whole
      | [whole, fraction] => whole.all isDecimalDigit && isNumeral fraction
      | _ => false
  | _ => false

end Text

namespace Grammar

variable {κ : Type} [DecidableEq κ]

/-- The option with this spelling. -/
def key? (grammar : Grammar κ) (spelling : Text) : Option κ :=
  grammar.spellings.lookup spelling

/-- What messages call an option: all its spellings. -/
def name (grammar : Grammar κ) (key : κ) : Text :=
  List.intercalate ['/'] ((grammar.spellings.filter (·.2 == key)).map Prod.fst)

/-- The options that a text may stand for which is no spelling itself, by their
spellings. -/
def candidates (grammar : Grammar κ) (text : Text) : List (Text × Word κ) :=
  match text with
  | '-' :: '-' :: _ =>
      let (name, value) := text.splitAtEquals
      (grammar.spellings.filter fun (spelling, _) => name.isPrefixOf spelling).map
        fun (spelling, key) => (spelling,
          match value with
          | some value => .assigned key value
          | none => .option key)
  | '-' :: letter :: rest =>
      (grammar.spellings.filter fun (spelling, _) => spelling == ['-', letter]).map
        fun (spelling, key) => (spelling, .letters key rest)
  | _ => []

/-- What a text is that starts with a dash and is no spelling. -/
def abbreviation (grammar : Grammar κ) (text : Text) : Except Ambiguity (Word κ) :=
  match grammar.candidates text with
  | [] =>
      if text.isNegativeNumber || text.contains ' ' then .ok (.argument text)
      else .ok (.unknown text)
  | [(_, word)] => .ok word
  | several => .error ⟨text, several.map Prod.fst⟩

/-- What an option is by its spelling and the text behind the equals sign. -/
def assignment (spelling : Text) (key : κ) (value : Text) : Word κ :=
  if spelling.length = 2 then .letters key value else .assigned key value

/-- What a text is by itself. -/
def word (grammar : Grammar κ) (text : Text) : Except Ambiguity (Word κ) :=
  if text.head? != some '-' then .ok (.argument text)
  else
    match grammar.key? text with
    | some key => .ok (.option key)
    | none =>
        if text.length = 1 then .ok (.argument text)
        else
          let (name, value) := text.splitAtEquals
          match value, grammar.key? name with
          | some value, some key => .ok (assignment name key value)
          | _, _ => grammar.abbreviation text

/-- What the texts of a command line are. -/
def words (grammar : Grammar κ) : List Text → Except Ambiguity (List (Word κ))
  | [] => .ok []
  | text :: rest =>
      if text == ['-', '-'] then .ok (.delimiter :: rest.map .argument)
      else do
        let word ← grammar.word text
        return word :: (← words grammar rest)

/-- The flags that share a dash, from the one that is given. There is at least
one letter more, and each of them has to be known. -/
def sharedDash (grammar : Grammar κ) (key : κ) :
    Text → Except (OptionError κ) (List (Occurrence κ))
  | [] => .error (.unwantedValue key [])
  | letter :: rest =>
      match grammar.key? ['-', letter] with
      | none => .error (.unwantedValue key (letter :: rest))
      | some next =>
          if rest.isEmpty then .ok [.flag key, .flag next]
          else do return .flag key :: (← sharedDash grammar next rest)

/-- What words say. Nothing is said behind an option that is misused. -/
def occurrences (grammar : Grammar κ) : List (Word κ) → List (Occurrence κ)
  | [] => []
  | .argument text :: rest => .argument text :: occurrences grammar rest
  | .delimiter :: rest => .delimiter :: occurrences grammar rest
  | .unknown text :: rest => .unknown text :: occurrences grammar rest
  | .assigned key value :: rest =>
      if grammar.takesValue key then
        if value = ['-', '-'] then .withheld key :: occurrences grammar rest
        else .value key value :: occurrences grammar rest
      else [.misused (.unwantedValue key value)]
  | .letters key letters :: rest =>
      match grammar.sharedDash key letters with
      | .ok flags => flags ++ occurrences grammar rest
      | .error cause => [.misused cause]
  | .option key :: rest =>
      if grammar.takesValue key then
        match rest with
        | .argument text :: rest => .value key text :: occurrences grammar rest
        | _ => [.misused (.missingValue key)]
      else .flag key :: occurrences grammar rest

/-- What a command line says. -/
def read (grammar : Grammar κ) (texts : List Text) :
    Except Ambiguity (List (Occurrence κ)) := do
  return grammar.occurrences (← grammar.words texts)

end Grammar

end KeywordBridge
