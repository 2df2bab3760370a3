import KeywordBridge.Files.Source

/-!
# Discovery of programs

A root is a file or a directory in which programs are looked for. A directory
lists its own programs first, by name, and then those of its subdirectories,
again by name. Directories that tools keep for themselves are passed over, unless
one of them is the root. A root that does not exist holds no programs, and neither
does a directory whose path is too long to be looked up. A root that a file system
cannot be asked for ends the search.
-/

namespace KeywordBridge

namespace Source

/-- The names of directories that are passed over. -/
def passedOver : List NodeName :=
  [".git", ".hg", ".svn", ".idea", ".vscode", "node_modules", "__pycache__", ".venv"]

/-- The order of names, by code points. -/
def nameLe (first second : NodeName) : Bool :=
  !(second < first)

end Source

namespace FileTree

/-- The names of the programs among the members of a directory. -/
def ownPrograms (members : List (NodeName × FileTree)) : List NodeName :=
  (members.filter fun (name, node) => !node.isDirectory && Source.isName name).map Prod.fst

mutual

/-- The programs below a directory with a given path, by the names on the way to
them. -/
def programs (path : Path) : FileTree → List (List NodeName)
  | file _ => []
  | directory members =>
      if path.isShort then
        (ownPrograms members).mergeSort Source.nameLe |>.map ([·]) |>.append
          (((programsBelow path members).mergeSort fun first second =>
            Source.nameLe first.1 second.1).flatMap fun (name, found) => found.map (name :: ·))
      else []

/-- The subdirectories to look into, with the programs below each of them. -/
def programsBelow (path : Path) :
    List (NodeName × FileTree) → List (NodeName × List (List NodeName))
  | [] => []
  | (name, node) :: rest =>
      if node.isDirectory && !Source.passedOver.contains name then
        (name, node.programs (path.join name)) :: programsBelow path rest
      else programsBelow path rest

end

end FileTree

namespace FileSystem

/-- The paths of the programs at a root. -/
def programsAt (system : FileSystem) (root : Path) : Except FileError (List Path) :=
  match system.find root with
  | .ok (.file _) => .ok (if Source.isName root then [root] else [])
  | .ok (.directory members) =>
      .ok (((FileTree.directory members).programs root).map root.below)
  | .error cause => if cause.isOfPath then .error (.cannotOpen root (.path cause)) else .ok []

/-- The paths of the programs at all roots, one root after the other. -/
def discover (system : FileSystem) (roots : List Path) : Except FileError (List Path) :=
  if roots.isEmpty then .error .noRoots
  else do
    let found ← roots.mapM fun root => system.programsAt (root.absolute system.current)
    return found.flatten

end FileSystem

end KeywordBridge
