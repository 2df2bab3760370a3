import KeywordBridge.Files.Tree

/-!
# Paths

A path names a node by the names on the way to it, with slashes between them. A
path that starts with a slash starts at the root, every other path at the
current directory. A dot stands for the directory that has been reached, and two
dots for the one above it; the directory above the root is the root.

A path can be read in two ways. Following it looks at every node on the way, so
each step but the last has to lead to a directory. Simplifying it looks at the
names alone: two dots take back the name before them, whether or not there is
such a directory.

Not every list of code points is a path that a file system can be asked for: each
of them has to stand for octets, and none may be the character zero.
-/

namespace KeywordBridge

/-- A path, in the code points that its octets are known by. -/
abbrev Path := List CodePoint

/-- Why a path leads to no node. -/
inductive PathError where
  /-- There is no node with one of the names. -/
  | missing
  /-- Something is looked for in a file. -/
  | notADirectory
  /-- A name or the path is longer than a file system allows. -/
  | nameTooLong
  /-- The path holds the character zero. -/
  | zeroCharacter
  /-- The path holds a surrogate that stands for no octet. -/
  | loneSurrogate
deriving DecidableEq

/-- Is it for the path itself that a file system cannot be asked for it? -/
def PathError.isOfPath : PathError → Bool
  | zeroCharacter | loneSurrogate => true
  | _ => false

namespace Path

/-- How many octets a name may have. -/
def nameLimit : Nat := 255

/-- How many octets a path has to stay below. -/
def pathLimit : Nat := 4096

/-- May a node have a name of this length? -/
def isShortName (name : NodeName) : Bool :=
  (Utf8.encode? name).any (·.length ≤ nameLimit)

/-- Is the path short enough to be looked up? -/
def isShort (path : Path) : Bool :=
  (Utf8.encode? path).any (·.length < pathLimit)

/-- The parts of a path between slashes. -/
def parts (path : Path) : List NodeName :=
  Text.cutAt (.char '/') path

/-- Does the path start at the root? -/
def startsAtRoot (path : Path) : Bool :=
  path.head? == some (.char '/')

/-- Does a part lead nowhere? -/
def staysPut (part : NodeName) : Bool :=
  part == [] || part == "."

/-- Does a part lead to the directory above? -/
def leadsUp (part : NodeName) : Bool :=
  part == ".."

/-- Follow a part of a path. The nodes on the way are kept, the last one first. -/
def follow : (nodes : List FileTree) → (part : NodeName) → Except PathError (List FileTree)
  | .directory members :: above, part =>
      let node := FileTree.directory members
      if staysPut part then .ok (node :: above)
      else if leadsUp part then .ok (if above.isEmpty then [node] else above)
      else if !isShortName part then .error .nameTooLong
      else
        match node.member? part with
        | none => .error .missing
        | some member => .ok (member :: node :: above)
  | _, _ => .error .notADirectory

/-- The names on the way to a node, after a part of a path was taken by its name
alone. -/
def simplifyStep (names : List NodeName) (part : NodeName) : List NodeName :=
  if staysPut part then names
  else if leadsUp part then names.dropLast
  else names ++ [part]

/-- The names on the way to a node, read off its path alone. -/
def simplify (current : List NodeName) (path : Path) : List NodeName :=
  (parts path).foldl simplifyStep (if startsAtRoot path then [] else current)

/-- The path of a member of a directory. -/
def join (directory : Path) (name : NodeName) : Path :=
  if directory.getLast? == some (.char '/') then directory ++ name
  else directory ++ .char '/' :: name

/-- The path of a node below a directory, by the names on the way to it. -/
def below (directory : Path) (names : List NodeName) : Path :=
  names.foldl join directory

/-- The root as a path starts with it. Two slashes, though not more of them, are kept,
as they may have a meaning of their own. -/
def rootOf (path : Path) : Path :=
  if Text.toPoints "//" <+: path ∧ ¬ Text.toPoints "///" <+: path then "//" else "/"

/-- The path from the root that a path is short for. -/
def absolute (current : List NodeName) (path : Path) : Path :=
  below (rootOf path) (simplify current path)

/-- The last part of a path. -/
def lastPart (path : Path) : NodeName :=
  (parts path).getLastD []

/-- The extension of a path: the last dot of its last part with what follows it.
Dots at the start of a name begin no extension. -/
def extension (path : Path) : NodeName :=
  let name := lastPart path
  let ending := (name.reverse.takeWhile (· != .char '.')).reverse
  let stem := name.take (name.length - (ending.length + 1))
  if stem.all (· == .char '.') then [] else .char '.' :: ending

end Path

/-- A file system: a tree with a current directory in it. -/
structure FileSystem where
  root : FileTree
  current : List NodeName := []

namespace FileSystem

/-- The node that a path leads to. -/
def find (system : FileSystem) (path : Path) : Except PathError FileTree := do
  if (Utf8.encode? path).isNone then throw .loneSurrogate
  if path.contains (.char '\x00') then throw .zeroCharacter
  if path.isEmpty then throw .missing
  if !path.isShort then throw .nameTooLong
  let start := if Path.startsAtRoot path then [] else system.current
  let nodes ← (start ++ Path.parts path).foldlM Path.follow [system.root]
  match nodes with
  | node :: _ => return node
  | [] => throw .missing

/-- The node with given names below the root. -/
def node? (system : FileSystem) (names : List NodeName) : Option FileTree :=
  names.foldlM FileTree.member? system.root

end FileSystem

end KeywordBridge
