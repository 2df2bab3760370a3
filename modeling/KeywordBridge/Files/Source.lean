import KeywordBridge.Files.Path
import KeywordBridge.Number.Decimal
import KeywordBridge.Text.Lowercase
import KeywordBridge.Translation

/-!
# Reading programs from files

The extension of a file, in lower case, tells which language it is written in. A
program with target keywords is translated when it is loaded, so that whatever
is loaded has surface keywords. A file may also be read as it is, whatever its
name.
-/

namespace KeywordBridge

/-- Why a node cannot be read as a file. -/
inductive OpenError where
  | path (cause : PathError)
  | isADirectory
deriving DecidableEq

/-- Why no program can be had from a file or from a number of roots. -/
inductive FileError where
  /-- No node stands where a program is to be loaded. -/
  | notFound (path : Path)
  | cannotOpen (path : Path) (cause : OpenError)
  /-- No language goes with the extension. -/
  | unsupported (extension : NodeName)
  /-- No root is given to look for programs. -/
  | noRoots
deriving DecidableEq

namespace Source

/-- The extensions of programs with surface keywords. -/
def surfaceExtensions : List NodeName := [".isi", ".isipy", ".txt"]

/-- The extensions of programs with target keywords. -/
def targetExtensions : List NodeName := [".py"]

/-- All extensions of programs. -/
def extensions : List NodeName := surfaceExtensions ++ targetExtensions

/-- Does a name, or a path, end like the name of a program? -/
def isName (name : NodeName) : Bool :=
  extensions.any (·.isSuffixOf (lowerCase name))

end Source

/-! ## The wording of failures -/

/-- What is said of a path with a surrogate that stands for no octet: where it is, or
where the surrogates are that follow each other from there on. -/
def Path.surrogateComplaint (path : Path) : Text :=
  let front := path.takeWhile (·.octets?.isSome)
  match (path.drop front.length).takeWhile CodePoint.isSurrogate with
  | [.surrogate offset] =>
      "'utf-8' codec can't encode character '" ++ Text.escapedSurrogate offset
        ++ "' in position " ++ Text.ofNat front.length ++ ": surrogates not allowed"
  | run =>
      "'utf-8' codec can't encode characters in position " ++ Text.ofNat front.length ++ "-"
        ++ Text.ofNat (front.length + run.length - 1) ++ ": surrogates not allowed"

/-- What a failure of opening says, less the path: the number by which the
operating system knows it, and its description. A path that a file system cannot be
asked for never reaches the operating system. -/
def OpenError.report? : OpenError → Option (Nat × Text)
  | .path .missing => some (2, "No such file or directory")
  | .path .notADirectory => some (20, "Not a directory")
  | .isADirectory => some (21, "Is a directory")
  | .path .nameTooLong => some (36, "File name too long")
  | .path .zeroCharacter | .path .loneSurrogate => none

/-- The wording of a failure. -/
def FileError.message : FileError → List CodePoint
  | .notFound path => path
  | .cannotOpen _ (.path .zeroCharacter) => "embedded null byte"
  | .cannotOpen path cause =>
      match cause.report? with
      | some (number, description) =>
          "[Errno " ++ Text.ofNat number ++ "] " ++ description ++ ": " ++ Text.quotedPoints path
      | none => path.surrogateComplaint
  | .unsupported extension =>
      "unsupported file type " ++ Text.quotedPoints extension ++ " (expected one of "
        ++ List.intercalate ", ".toList (Source.extensions.map Text.ofPoints) ++ ")"
  | .noRoots => "iter_source_files(): at least one root is required"

/-- Where looking for a node at a path has led. -/
abbrev Found := Except PathError FileTree

namespace Found

/-- The text of the file that was found. Its lines end with line feeds, and
malformed octets are replaced. -/
def text (path : Path) : Found → Except FileError Text
  | .ok (.file content) => .ok (Utf8.decode content).unifyLineEnds
  | .ok (.directory _) => .error (.cannotOpen path .isADirectory)
  | .error cause => .error (.cannotOpen path (.path cause))

/-- The program with surface keywords in the file that was found. -/
def program (table : Table) (path : Path) (found : Found) : Except FileError Text :=
  match found with
  | .error _ => .error (.notFound path)
  | .ok node =>
      let extension := lowerCase (Path.extension path)
      if extension ∈ Source.targetExtensions then
        (Found.text path (.ok node)).map table.reverse
      else if extension ∈ Source.surfaceExtensions then Found.text path (.ok node)
      else .error (.unsupported extension)

end Found

end KeywordBridge
