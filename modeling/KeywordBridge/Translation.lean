import KeywordBridge.Keyword.Default
import KeywordBridge.Keyword.Segment

/-!
# Translation

A program is translated by replacing every keyword of the one side by its
counterpart and keeping everything else. This works on the text alone: keywords
inside string literals and comments are replaced as well. A text of blanks
translates to the empty text in both directions.

Which side a text is written in is told by the keywords it contains. A text with
keywords of both sides is taken for a program with surface keywords, since stray
target keywords are the exception there, and a text without any is left alone.
-/

namespace KeywordBridge

/-- The text with every keyword replaced by its image. -/
def replaceKeywords (words : List Text) (image : Text → Text) (text : Text) : Text :=
  if text.isBlank then [] else (segments words text).flatMap (Segment.render image)

/-- Does some keyword of the list occur in the text? -/
def containsKeyword (words : List Text) (text : Text) : Bool :=
  (segments words text).any Segment.isKeyword

/-- The languages between which programs are translated. -/
inductive Language where
  /-- The language with surface keywords. -/
  | surface
  /-- The language with target keywords. -/
  | target
  /-- No keyword tells the language of the text. -/
  | unknown
  /-- There is nothing to translate to. -/
  | none
deriving DecidableEq

/-- The public name of a language. -/
def Language.name : Language → Text
  | surface => "isipython"
  | target => "python"
  | unknown => "unknown"
  | none => "none"

/-- Which sides of a table contribute keywords to a text. -/
inductive Dominance where
  | surface
  | target
  | both
  | neither
deriving DecidableEq

/-- The public name of a dominance. -/
def Dominance.name : Dominance → Text
  | surface => "surface"
  | target => "target"
  | both => "both"
  | neither => "neither"

/-- A translated program with the languages it was translated between. -/
structure Translation where
  code : Text
  source : Language
  target : Language
deriving DecidableEq

namespace Table

/-- The counterpart of a surface keyword; any other word is its own. -/
def forwardWord (table : Table) (word : Text) : Text :=
  (table.targetFor? word).getD word

/-- The counterpart of a target keyword; any other word is its own. -/
def reverseWord (table : Table) (word : Text) : Text :=
  (table.surfaceFor? word).getD word

/-- The program with target keywords for a program with surface keywords. -/
def forward (table : Table) (text : Text) : Text :=
  replaceKeywords table.surfaces table.forwardWord text

/-- The program with surface keywords for a program with target keywords. -/
def reverse (table : Table) (text : Text) : Text :=
  replaceKeywords table.targets table.reverseWord text

/-- The lines of a program with surface keywords, each translated by itself. -/
def forwardLines (table : Table) (lines : List Text) : List Text :=
  lines.map table.forward

/-- The lines of a program with target keywords, each translated by itself. -/
def reverseLines (table : Table) (lines : List Text) : List Text :=
  lines.map table.reverse

/-- Does the text contain a surface keyword? -/
def containsSurface (table : Table) (text : Text) : Bool :=
  containsKeyword table.surfaces text

/-- Does the text contain a target keyword? -/
def containsTarget (table : Table) (text : Text) : Bool :=
  containsKeyword table.targets text

/-- Which sides of the table the text draws its keywords from. -/
def dominance (table : Table) (text : Text) : Dominance :=
  match table.containsSurface text, table.containsTarget text with
  | true, true => .both
  | true, false => .surface
  | false, true => .target
  | false, false => .neither

/-- Translate to the other language, whichever the text is written in. -/
def translateAuto (table : Table) (text : Text) : Translation :=
  if text.isBlank then ⟨[], .unknown, .none⟩
  else
    match table.dominance text with
    | .surface | .both => ⟨table.forward text, .surface, .target⟩
    | .target => ⟨table.reverse text, .target, .surface⟩
    | .neither => ⟨text, .unknown, .none⟩

end Table

end KeywordBridge
