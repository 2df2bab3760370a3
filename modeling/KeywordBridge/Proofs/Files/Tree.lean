import KeywordBridge.Files.Path
import Mathlib.Data.List.Nodup

/-!
# The trees of file systems

A tree stands for a directory of a file system if the members of each of its directories
have names with different octets, which are names that a file system admits. Then a member
is found under its name, and so is every node below it under the names on the way. A name
that is spelled in other code points leads to the same member if its octets are the same.
-/

namespace KeywordBridge

namespace Path

/-- Does a part of a path lead to a member of a directory, and to nothing else? -/
structure IsPlain (name : NodeName) : Prop where
  nonempty : name ≠ []
  notDot : name ≠ "."
  notDots : name ≠ ".."
  noSlash : .char '/' ∉ name

/-- May a node have this name? -/
structure IsNodeName (name : NodeName) : Prop extends IsPlain name where
  noZero : .char '\x00' ∉ name
  short : isShortName name = true

instance (name : NodeName) : Decidable (IsNodeName name) :=
  decidable_of_iff
    (name ≠ [] ∧ name ≠ "." ∧ name ≠ ".." ∧ .char '/' ∉ name ∧ .char '\x00' ∉ name ∧
      isShortName name = true)
    ⟨fun ⟨nonempty, notDot, notDots, noSlash, noZero, short⟩ =>
        ⟨⟨nonempty, notDot, notDots, noSlash⟩, noZero, short⟩,
      fun ⟨⟨nonempty, notDot, notDots, noSlash⟩, noZero, short⟩ =>
        ⟨nonempty, notDot, notDots, noSlash, noZero, short⟩⟩

end Path

namespace FileTree

/-- The trees that a file system holds: the members of a directory have names with different
octets, and each of them may be the name of a node. -/
inductive IsProper : FileTree → Prop
  | file (content : List UInt8) : IsProper (file content)
  | directory {members : List (NodeName × FileTree)}
      (distinct : (members.map fun member => Utf8.encode? member.1).Nodup)
      (named : ∀ member ∈ members, Path.IsNodeName member.1)
      (below : ∀ member ∈ members, IsProper member.2) : IsProper (directory members)

/-- Is there a node below a node, with these names on the way to it? -/
inductive Holds : FileTree → List NodeName → FileTree → Prop
  | here (tree : FileTree) : Holds tree [] tree
  | member {members : List (NodeName × FileTree)} {name : NodeName} {names : List NodeName}
      {tree node : FileTree} (listed : (name, tree) ∈ members) (below : Holds tree names node) :
      Holds (directory members) (name :: names) node

/-- The node that names lead to below a node. -/
def node? (tree : FileTree) (names : List NodeName) : Option FileTree :=
  names.foldlM member? tree

theorem node?_cons (tree : FileTree) (name : NodeName) (names : List NodeName) :
    tree.node? (name :: names) = (tree.member? name).bind (·.node? names) :=
  List.foldlM_cons

theorem node?_append (tree : FileTree) (names others : List NodeName) :
    tree.node? (names ++ others) = (tree.node? names).bind (·.node? others) :=
  List.foldlM_append

/-- What a name leads to is a member whose name has the same octets. -/
theorem exists_of_member? {tree node : FileTree} {name : NodeName}
    (found : tree.member? name = some node) :
    ∃ members other, tree = directory members ∧ (other, node) ∈ members ∧
      Utf8.encode? other = Utf8.encode? name := by
  rw [member?] at found
  obtain ⟨⟨other, _⟩, listed, rfl⟩ := Option.map_eq_some_iff.1 found
  have same := List.find?_some listed
  rw [beq_iff_eq] at same
  have member := List.mem_of_find?_eq_some listed
  cases tree with
  | file => cases member
  | directory members => exact ⟨members, other, rfl, member, same⟩

namespace IsProper

variable {tree : FileTree}

theorem distinct_names {members : List (NodeName × FileTree)}
    (distinct : (members.map fun member => Utf8.encode? member.1).Nodup) :
    (members.map Prod.fst).Nodup := by
  have composed : (members.map fun member => Utf8.encode? member.1) =
      (members.map Prod.fst).map Utf8.encode? := by
    rw [List.map_map]
    rfl
  rw [composed] at distinct
  exact distinct.of_map

/-- A member is found under its name. -/
theorem member?_of_mem {members : List (NodeName × FileTree)}
    (proper : (FileTree.directory members).IsProper) {name : NodeName} {node : FileTree}
    (listed : (name, node) ∈ members) :
    (FileTree.directory members).member? name = some node := by
  cases proper with
  | directory distinct =>
      cases found : members.find? fun member => Utf8.encode? member.1 == Utf8.encode? name with
      | none =>
          have absent := List.find?_eq_none.1 found (name, node) listed
          exact absurd (beq_self_eq_true _) absent
      | some other =>
          have octets := List.find?_some found
          rw [beq_iff_eq] at octets
          -- Two members of one directory with the same octets are the same member.
          have same : other = (name, node) :=
            List.inj_on_of_nodup_map distinct (List.mem_of_find?_eq_some found) listed octets
          rw [member?, FileTree.members, found, same]
          rfl

/-- What a name leads to below a proper tree is proper, and the name is not too long. -/
theorem of_member? (proper : tree.IsProper) {name : NodeName} {node : FileTree}
    (found : tree.member? name = some node) :
    node.IsProper ∧ Path.isShortName name = true := by
  obtain ⟨members, other, rfl, listed, same⟩ := exists_of_member? found
  cases proper with
  | directory distinct named below =>
      refine ⟨below _ listed, ?_⟩
      rw [Path.isShortName, ← same]
      exact (named _ listed).short

theorem of_node? (proper : tree.IsProper) {names : List NodeName} {node : FileTree}
    (found : tree.node? names = some node) : node.IsProper := by
  induction names generalizing tree with
  | nil =>
      cases found
      exact proper
  | cons name others ih =>
      rw [node?_cons, Option.bind_eq_some_iff] at found
      obtain ⟨member, here, behind⟩ := found
      exact ih (proper.of_member? here).1 behind

/-- The names on the way to a node lead to it, and each of them is admitted. -/
theorem of_holds (proper : tree.IsProper) {names : List NodeName} {node : FileTree}
    (holds : tree.Holds names node) :
    tree.node? names = some node ∧ ∀ name ∈ names, Path.IsNodeName name := by
  induction holds with
  | here => exact ⟨rfl, by simp⟩
  | @member members name names tree node listed below ih =>
      have found := proper.member?_of_mem listed
      cases proper with
      | directory distinct named inner =>
          obtain ⟨leads, others⟩ := ih (inner _ listed)
          refine ⟨?_, List.forall_mem_cons.2 ⟨named _ listed, others⟩⟩
          rw [node?_cons, found]
          exact leads

end IsProper

end FileTree

/-- The file systems that there are: all trees in them are proper, and the current directory
is one of their directories. -/
structure FileSystem.IsProper (system : FileSystem) : Prop where
  root : system.root.IsProper
  current : ∃ members, system.root.Holds system.current (.directory members)

theorem FileSystem.node?_eq (system : FileSystem) (names : List NodeName) :
    system.node? names = system.root.node? names :=
  rfl

/-- The root of a file system is a directory. -/
theorem FileSystem.IsProper.exists_root {system : FileSystem} (proper : system.IsProper) :
    ∃ members, system.root = .directory members := by
  obtain ⟨members, holds⟩ := proper.current
  generalize system.root = tree at holds
  generalize system.current = names at holds
  cases holds with
  | here => exact ⟨members, rfl⟩
  | member => exact ⟨_, rfl⟩

theorem FileSystem.IsProper.isPlain_of_mem_current {system : FileSystem}
    (proper : system.IsProper) {name : NodeName} (member : name ∈ system.current) :
    Path.IsPlain name := by
  obtain ⟨members, holds⟩ := proper.current
  exact ((proper.root.of_holds holds).2 name member).toIsPlain

end KeywordBridge
