import KeywordBridge.Text.Utf8

/-!
# File trees

Files are looked at through a tree: a node is a file with its octets or a
directory with named members. A file system tells names by their octets, so the
octets of the names of the members of one directory differ.
-/

namespace KeywordBridge

/-- The name of a node, in the code points that its octets are known by. -/
abbrev NodeName := List CodePoint

/-- A file or a directory. -/
inductive FileTree where
  | file (content : List UInt8)
  | directory (members : List (NodeName × FileTree))

namespace FileTree

/-- A directory without members. -/
def empty : FileTree := directory []

instance : Inhabited FileTree := ⟨empty⟩

/-- Is the node a directory? -/
def isDirectory : FileTree → Bool
  | directory _ => true
  | file _ => false

/-- The members of a directory; a file has none. -/
def members : FileTree → List (NodeName × FileTree)
  | directory members => members
  | file _ => []

/-- The member whose name has the same octets. -/
def member? (tree : FileTree) (name : NodeName) : Option FileTree :=
  (tree.members.find? fun member => Utf8.encode? member.1 == Utf8.encode? name).map Prod.snd

/-- Give a name a node: it keeps its place if it is known and joins at the end
otherwise. -/
def setMember (name : NodeName) (node : FileTree) :
    List (NodeName × FileTree) → List (NodeName × FileTree)
  | [] => [(name, node)]
  | (other, old) :: rest =>
      if Utf8.encode? other == Utf8.encode? name then (other, node) :: rest
      else (other, old) :: setMember name node rest

/-- Put a node at a path of names. Directories on the way are made where they are
missing, and a directory that is there already keeps its members. -/
def put (node : FileTree) : (path : List NodeName) → FileTree → FileTree
  | [], old => if node.isDirectory && old.isDirectory then old else node
  | name :: rest, tree =>
      directory (setMember name (put node rest ((tree.member? name).getD empty)) tree.members)

/-- What has been put somewhere is found there. -/
theorem member?_setMember (name : NodeName) (node : FileTree)
    (members : List (NodeName × FileTree)) :
    (directory (setMember name node members)).member? name = some node := by
  induction members with
  | nil => simp [setMember, member?, FileTree.members]
  | cons member rest ih =>
      obtain ⟨other, old⟩ := member
      by_cases h : Utf8.encode? other = Utf8.encode? name
      · simp [setMember, member?, FileTree.members, h]
      · simp only [member?, FileTree.members] at ih
        simp [setMember, member?, FileTree.members, h, ih]

end FileTree

end KeywordBridge
