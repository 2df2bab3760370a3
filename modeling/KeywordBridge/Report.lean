import KeywordBridge.Diagnostic.Basic
import KeywordBridge.Json.Basic
import KeywordBridge.Suggestion.Basic
import KeywordBridge.Token.Basic
import KeywordBridge.Translation

/-!
# Reports

Clients of the command line and of the web service receive results as JSON
records. Every kind of result has one record, whose members come in a fixed
order.
-/

namespace KeywordBridge

/-- A token by its kind, its text and its place. -/
def Token.report (token : Token) : Json :=
  .record [
    ("kind", .string token.kind.name),
    ("value", .string token.value),
    ("line", .int token.line),
    ("column", .int token.column)]

/-- A diagnostic by its place, its advice and its code. -/
def Diagnostic.report (diagnostic : Diagnostic) : Json :=
  .record [
    ("line", .int diagnostic.line),
    ("column", .int diagnostic.column),
    ("endColumn", .int diagnostic.endColumn),
    ("message", .string diagnostic.problem.message),
    ("severity", .string Diagnostic.severity),
    ("code", .string diagnostic.problem.code),
    ("source", .string Diagnostic.source)]

/-- A suggestion by what it shows and what it inserts. -/
def Suggestion.report (suggestion : Suggestion) : Json :=
  .record [
    ("label", .string suggestion.label),
    ("kind", .string suggestion.kind.name),
    ("insertText", .string suggestion.insertText),
    ("detail", .string suggestion.detail),
    ("priority", .int suggestion.priority),
    ("isSnippet", .bool suggestion.isSnippet)]

/-- An entry of a table by its two words and their meaning. -/
def Entry.report (entry : Entry) : Json :=
  .record [
    (String.ofList Language.surface.name, .string entry.surface),
    (String.ofList Language.target.name, .string entry.target),
    ("meaning", .string entry.meaning),
    ("category", .string entry.category)]

/-- A translation by its code and its two languages. -/
def Translation.report (translation : Translation) : Json :=
  .record [
    ("translatedCode", .string translation.code),
    ("sourceLanguage", .string translation.source.name),
    ("targetLanguage", .string translation.target.name)]

/-- A list of results. -/
def reports {α : Type} (report : α → Json) (items : List α) : Json :=
  .array (items.map report)

end KeywordBridge
