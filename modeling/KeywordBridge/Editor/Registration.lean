import KeywordBridge.Editor.Configuration
import KeywordBridge.Editor.Theme

/-!
# Registration with an editor

An editor learns about the language step by step: the language has to be known
before anything can be attached to it, and the theme has to be there before text
is shown in it. Tokens and completions are attached as services of the library,
which the editor calls when it needs them.
-/

namespace KeywordBridge

/-- One step of a registration. -/
inductive RegistrationStep where
  /-- Make the language known. -/
  | language (language : Text)
  /-- Attach the tokenizer. -/
  | tokens (language : Text)
  | theme (name : Text) (theme : Json)
  | configuration (language : Text) (configuration : Json)
  /-- Attach the completions. -/
  | completions (language : Text)

namespace Registration

/-- The name under which the language is known to an editor. -/
def languageName : Text := "isipython"

/-- The steps of a registration in their order. -/
def steps : List RegistrationStep :=
  [
    .language languageName,
    .tokens languageName,
    .theme Theme.name Theme.toJson,
    .configuration languageName Configuration.toJson,
    .completions languageName
  ]

end Registration

end KeywordBridge
