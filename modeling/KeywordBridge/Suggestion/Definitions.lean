import KeywordBridge.Program.Definition
import KeywordBridge.Suggestion.Basic

/-!
# Names that a program defines

Every line may introduce a function, a class and a variable. Read line by line,
the program offers each of these names once, in the form in which it is
introduced first. Keywords of either side are not offered again as names.
-/

namespace KeywordBridge

namespace Suggestion

/-- The suggestion of a function that the program defines. -/
def ofFunction (name : Text) : Suggestion :=
  ⟨name, .functionName, name ++ "($0)", "user-defined function", .program⟩

/-- The suggestion of a class that the program defines. -/
def ofClass (name : Text) : Suggestion :=
  ⟨name, .className, name, "user-defined class", .program⟩

/-- The suggestion of a variable that the program defines. -/
def ofVariable (name : Text) : Suggestion :=
  ⟨name, .variableName, name, "user-defined variable", .program⟩

/-- Keep the first suggestion of every label that is not among those seen
before. -/
def keepFirst (seen : List Text) : List Suggestion → List Suggestion
  | [] => []
  | suggestion :: rest =>
      if seen.contains suggestion.label then keepFirst seen rest
      else suggestion :: keepFirst (suggestion.label :: seen) rest

end Suggestion

namespace Table

/-- The names that a line introduces. -/
def introducedOn (table : Table) (line : Text) : List Suggestion :=
  ((functionName? table.functionWord line).map Suggestion.ofFunction).toList
    ++ ((className? table.classWord line).map Suggestion.ofClass).toList
    ++ ((variableName? line).map Suggestion.ofVariable).toList

/-- The names that a program defines, each where it is introduced first. -/
def definitions (table : Table) (program : Text) : List Suggestion :=
  Suggestion.keepFirst [] <|
    (program.lines.flatMap table.introducedOn).filter (!table.isReserved ·.label)

end Table

end KeywordBridge
