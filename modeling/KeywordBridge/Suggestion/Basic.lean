import KeywordBridge.Keyword.Table
import KeywordBridge.Text.CaseFolding

/-!
# Suggestions

A suggestion offers to complete a word that is being typed. The fixed ones come
from the keyword table and from a few built-in functions; the others are names
that the program itself defines. Names of the program rank first, keywords
second, built-in functions last; within a rank the labels are in alphabetical
order regardless of case.
-/

namespace KeywordBridge

/-- What a suggestion names. -/
inductive SuggestionKind where
  | keyword
  | functionName
  | variableName
  | className
deriving DecidableEq

/-- The public name of a kind. -/
def SuggestionKind.name : SuggestionKind → Text
  | keyword => "keyword"
  | functionName => "function"
  | variableName => "variable"
  | className => "class"

/-- Where a suggestion comes from. -/
inductive Origin where
  /-- The program that is being edited. -/
  | program
  /-- The keyword table. -/
  | table
  /-- The built-in functions. -/
  | builtin
deriving DecidableEq

/-- Suggestions of a higher priority are listed first. -/
def Origin.priority : Origin → Nat
  | program => 100
  | table => 50
  | builtin => 40

/-- An offer to complete a word. -/
structure Suggestion where
  label : Text
  kind : SuggestionKind
  /-- What is inserted, possibly with numbered places to fill in. -/
  insertText : Text
  detail : Text
  origin : Origin
deriving DecidableEq

namespace Suggestion

/-- The rank of the suggestion. -/
def priority (suggestion : Suggestion) : Nat :=
  suggestion.origin.priority

/-- Does the suggestion come from the program? -/
def isDynamic (suggestion : Suggestion) : Bool :=
  suggestion.origin == .program

/-- A dollar sign marks a place to fill in. -/
def isSnippet (suggestion : Suggestion) : Bool :=
  suggestion.insertText.contains '$'

/-- The order in which suggestions are listed. -/
def le (first second : Suggestion) : Bool :=
  if first.priority ≠ second.priority then second.priority < first.priority
  else if foldCase first.label ≠ foldCase second.label then
    foldCase first.label < foldCase second.label
  else !(second.label < first.label)

/-- The suggestion of a keyword: its snippet where it has one. -/
def ofEntry (entry : Entry) : Suggestion :=
  { label := entry.surface
    kind := .keyword
    insertText :=
      match entry.snippet with
      | some (first :: others) => first :: others
      | _ => entry.surface
    detail := entry.target ++ " - means \"" ++ entry.meaning ++ "\""
    origin := .table }

/-- The suggestion of a built-in function. -/
def ofBuiltin (label insertText detail : Text) : Suggestion :=
  ⟨label, .functionName, insertText, detail, .builtin⟩

/-- The built-in functions that are offered. -/
def builtins : List Suggestion :=
  [
    ofBuiltin "print" "print($\x7b1:umlayezo\x7d)" "print - show a message on the screen",
    ofBuiltin "input" "input($\x7b1:prompt\x7d)" "input - read a line typed by the user",
    ofBuiltin "len" "len($\x7b1:obj\x7d)" "len - number of items",
    ofBuiltin "range" "range($\x7b1:stop\x7d)" "range - a sequence of numbers",
    ofBuiltin "int" "int($\x7b1:value\x7d)" "int - convert to a whole number",
    ofBuiltin "float" "float($\x7b1:value\x7d)" "float - convert to a decimal number",
    ofBuiltin "str" "str($\x7b1:value\x7d)" "str - convert to text",
    ofBuiltin "list" "list($\x7b1:iterable\x7d)" "list - build a list",
    ofBuiltin "dict" "dict($0)" "dict - build a dictionary"
  ]

end Suggestion

/-- The fixed suggestions of a table: its keywords, then the built-in
functions. -/
def Table.staticSuggestions (table : Table) : List Suggestion :=
  table.entries.map Suggestion.ofEntry ++ Suggestion.builtins

end KeywordBridge
