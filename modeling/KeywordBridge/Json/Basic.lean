import KeywordBridge.Number.Decimal
import KeywordBridge.Text.Quoted

/-!
# JSON values

Requests reach the library as JSON. Integers and other numbers are told apart by
how they are written, because an integer is exact whatever its size while a
number with a fraction or an exponent is a double. A string is a list of code
points, because it may hold a surrogate that stands alone. The members of an
object keep the order in which their names first occur.
-/

namespace KeywordBridge

/-- A JSON value. -/
inductive Json where
  | null
  | bool (value : Bool)
  | int (value : Int)
  | float (value : Float)
  | string (points : List CodePoint)
  | array (elements : List Json)
  | object (members : List (List CodePoint × Json))
deriving Inhabited

namespace Json

/-- The name by which messages call the kind of a value. -/
def kindName : Json → Text
  | null => "NoneType"
  | bool _ => "bool"
  | int _ => "int"
  | float _ => "float"
  | string _ => "str"
  | array _ => "list"
  | object _ => "dict"

/-- A value counts as absent when it is null, false, zero or empty. -/
def isAbsent : Json → Bool
  | null => true
  | bool value => !value
  | int value => value == 0
  | float value => value == 0
  | string points => points.isEmpty
  | array elements => elements.isEmpty
  | object members => members.isEmpty

/-- The member of an object with a given name. -/
def member? (name : List CodePoint) : Json → Option Json
  | object members => members.lookup name
  | _ => none

/-- Give a member a value: it keeps its place if the name is known and joins at
the end otherwise. -/
def setMember (name : List CodePoint) (value : Json) :
    List (List CodePoint × Json) → List (List CodePoint × Json)
  | [] => [(name, value)]
  | (other, old) :: rest =>
      if other == name then (other, value) :: rest
      else (other, old) :: setMember name value rest

/-- An object from members with literal names. -/
def record (members : List (String × Json)) : Json :=
  object (members.map fun (name, value) => (Text.toPoints name, value))

/-- An array of texts. -/
def texts (items : List Text) : Json :=
  array (items.map fun (item : Text) => string item)

mutual

/-- How a message shows a value: words for the constants, quoted texts, and
brackets around the items of arrays and objects. -/
def shown : Json → Text
  | null => "None"
  | bool value => if value then "True" else "False"
  | int value => Text.ofInt value
  | float value => (Binary64.ofFloat value).toText
  | string points => Text.quotedPoints points
  | array elements => "[" ++ List.intercalate ", ".toList (shownElements elements) ++ "]"
  | object members =>
      "\x7b" ++ List.intercalate ", ".toList (shownMembers members) ++ "\x7d"

/-- The elements of an array as a message shows them. -/
def shownElements : List Json → List Text
  | [] => []
  | element :: rest => element.shown :: shownElements rest

/-- The members of an object as a message shows them. -/
def shownMembers : List (List CodePoint × Json) → List Text
  | [] => []
  | (name, value) :: rest => (Text.quotedPoints name ++ ": " ++ value.shown) :: shownMembers rest

end

end Json

end KeywordBridge
