import KeywordBridge.Proofs.Files.ProgramNames
import Mathlib.Data.List.Forall2

/-!
# What is discovered, and in which order

The programs below a directory are the files whose names end with an extension of
programs, that no directory passed over leads to, and whose own directory has a path that
is not too long. Each is listed once. A directory lists its own programs by name in front
of those of its subdirectories, which follow each other by name. Membership and order
determine the list, so they say what is discovered without the walk over the tree.
-/

namespace KeywordBridge

/-! ## What belongs to a list of programs -/

/-- The order of the programs below a directory, by the names on the way to them. -/
inductive Path.ComesBefore : List NodeName → List NodeName → Prop
  /-- The programs of one directory are ordered by name. -/
  | name {first second : NodeName} (less : first < second) : ComesBefore [first] [second]
  /-- The programs of a directory come before those of its subdirectories. -/
  | own {first second next : NodeName} {rest : List NodeName} :
      ComesBefore [first] (second :: next :: rest)
  /-- The subdirectories are ordered by name. -/
  | directory {first second next other : NodeName} {rest others : List NodeName}
      (less : first < second) : ComesBefore (first :: next :: rest) (second :: other :: others)
  /-- The order is the same in every subdirectory. -/
  | within {name : NodeName} {first second : List NodeName} (before : ComesBefore first second) :
      ComesBefore (name :: first) (name :: second)

namespace FileTree

/-- Is there a program with these names below a directory with this path, such that the way
to it leads through no directory that is passed over or whose path is too long? -/
structure HasProgram (tree : FileTree) (path : Path) (names : List NodeName) : Prop where
  isFile : ∃ content, tree.Holds names (file content)
  isNamed : Source.HasExtension (names.getLastD [])
  isReached : ∀ name ∈ names.dropLast, name ∉ Source.passedOver
  isLookedUp : (path.below names.dropLast).isShort = true

/-- Are these the programs below a directory, each of them once and in order? -/
structure Lists (tree : FileTree) (path : Path) (found : List (List NodeName)) : Prop where
  mem_iff : ∀ names, names ∈ found ↔ tree.HasProgram path names
  nodup : found.Nodup
  ordered : found.Pairwise Path.ComesBefore

end FileTree

/-- The list of programs at a root, which is given by its path and by the names on the way
to it. -/
inductive FileSystem.ListsAt (system : FileSystem) (path : Path) (names : List NodeName) :
    List Path → Prop
  /-- Where nothing is, no programs are. -/
  | nothing (missing : system.node? names = none) : ListsAt system path names []
  /-- A file may be a program itself. -/
  | program {content : List UInt8} (found : system.node? names = some (.file content))
      (named : Source.HasExtension (names.getLastD [])) (short : path.isShort = true) :
      ListsAt system path names [path]
  | otherFile {content : List UInt8} (found : system.node? names = some (.file content))
      (other : ¬ (Source.HasExtension (names.getLastD []) ∧ path.isShort = true)) :
      ListsAt system path names []
  /-- A directory holds the programs below it. -/
  | directory {members : List (NodeName × FileTree)} {found : List (List NodeName)}
      (here : system.node? names = some (.directory members))
      (lists : (FileTree.directory members).Lists path found) :
      ListsAt system path names (found.map path.below)

namespace Path.ComesBefore

theorem ne_nil {first second : List NodeName} (before : ComesBefore first second) :
    first ≠ [] ∧ second ≠ [] := by
  cases before <;> exact ⟨List.cons_ne_nil _ _, List.cons_ne_nil _ _⟩

/-- No program comes before one that comes before it. -/
theorem asymm {first second : List NodeName} (before : ComesBefore first second) :
    ¬ ComesBefore second first := by
  induction before with
  | name less =>
      intro after
      cases after with
      | name greater => exact lt_asymm less greater
      | within inner => exact inner.ne_nil.1 rfl
  | own =>
      intro after
      cases after with
      | within inner => exact inner.ne_nil.2 rfl
  | directory less =>
      intro after
      cases after with
      | directory greater => exact lt_asymm less greater
      | within => exact lt_irrefl _ less
  | within before ih =>
      intro after
      cases after with
      | name => exact before.ne_nil.1 rfl
      | own => exact before.ne_nil.2 rfl
      | directory less => exact lt_irrefl _ less
      | within inner => exact ih inner

theorem irrefl (names : List NodeName) : ¬ ComesBefore names names := fun before =>
  before.asymm before

end Path.ComesBefore

namespace FileTree

/-! ## The programs below a directory -/

theorem programsBelow_eq (path : Path) (members : List (NodeName × FileTree)) :
    programsBelow path members =
      (members.filter fun member =>
        member.2.isDirectory && !Source.passedOver.contains member.1).map
        fun member => (member.1, member.2.programs (path.join member.1)) := by
  induction members with
  | nil => rw [programsBelow, List.filter_nil, List.map_nil]
  | cons member others ih =>
      obtain ⟨name, node⟩ := member
      rw [programsBelow, ih, List.filter_cons]
      split <;> rfl

theorem mem_ownPrograms_iff {members : List (NodeName × FileTree)} {name : NodeName} :
    name ∈ ownPrograms members ↔
      (∃ content, (name, file content) ∈ members) ∧ Source.HasExtension name := by
  simp only [ownPrograms, List.mem_map, List.mem_filter, Prod.exists, exists_and_right,
    exists_eq_right, Bool.and_eq_true, Bool.not_eq_true', Source.isName_iff]
  constructor
  · rintro ⟨node, listed, isFile, named⟩
    cases node with
    | file content => exact ⟨⟨content, listed⟩, named⟩
    | directory => cases isFile
  · rintro ⟨⟨content, listed⟩, named⟩
    exact ⟨file content, listed, rfl, named⟩

theorem mem_programsBelow_iff {path : Path} {members : List (NodeName × FileTree)}
    {name : NodeName} {found : List (List NodeName)} :
    (name, found) ∈ programsBelow path members ↔ name ∉ Source.passedOver ∧
      ∃ inner, (name, directory inner) ∈ members ∧
        (directory inner).programs (path.join name) = found := by
  rw [programsBelow_eq]
  simp only [List.mem_map, List.mem_filter, Prod.exists, Prod.mk.injEq, Bool.and_eq_true,
    Bool.not_eq_true', List.contains_eq_mem, decide_eq_false_iff_not]
  constructor
  · rintro ⟨other, node, ⟨listed, isDirectory, looked⟩, rfl, rfl⟩
    cases node with
    | file => cases isDirectory
    | directory inner => exact ⟨looked, inner, listed, rfl⟩
  · rintro ⟨looked, inner, listed, rfl⟩
    exact ⟨name, directory inner, ⟨listed, rfl, looked⟩, rfl, rfl⟩

/-- The programs of a directory are its own and those of the subdirectories looked into. -/
theorem mem_programs_directory_iff {path : Path} {members : List (NodeName × FileTree)}
    {names : List NodeName} :
    names ∈ (directory members).programs path ↔ path.isShort = true ∧
      ((∃ name ∈ ownPrograms members, names = [name]) ∨
        ∃ name inner rest, name ∉ Source.passedOver ∧ (name, directory inner) ∈ members ∧
          rest ∈ (directory inner).programs (path.join name) ∧ names = name :: rest) := by
  rw [programs]
  split
  · rename_i short
    simp only [short, true_and, List.append_eq, List.mem_append, List.mem_map,
      List.mem_mergeSort, List.mem_flatMap, Prod.exists, mem_programsBelow_iff]
    grind
  · rename_i long
    exact iff_of_false List.not_mem_nil fun found => long found.1

/-- A directory with a single program in it. -/
theorem programs_singleton {path : Path} (short : path.isShort = true) {name : NodeName}
    (named : Source.isName name = true) (content : List UInt8) :
    (directory [(name, file content)]).programs path = [[name]] := by
  simp [programs, programsBelow, ownPrograms, isDirectory, named, short]

/-- A node itself is no program below it. -/
theorem not_hasProgram_nil (tree : FileTree) (path : Path) : ¬ tree.HasProgram path [] :=
  fun program => Source.not_hasExtension_nil program.isNamed

theorem not_hasProgram_file (content : List UInt8) (path : Path) (names : List NodeName) :
    ¬ (file content).HasProgram path names := by
  rintro ⟨⟨_, holds⟩, named, -, -⟩
  cases holds
  exact Source.not_hasExtension_nil named

section

variable {path : Path} {members : List (NodeName × FileTree)} {name : NodeName}

theorem hasProgram_singleton_iff :
    (directory members).HasProgram path [name] ↔
      path.isShort = true ∧ name ∈ ownPrograms members := by
  rw [mem_ownPrograms_iff]
  constructor
  · rintro ⟨⟨content, holds⟩, named, -, short⟩
    cases holds with
    | member listed below =>
        cases below
        exact ⟨short, ⟨content, listed⟩, named⟩
  · rintro ⟨short, ⟨content, listed⟩, named⟩
    exact ⟨⟨content, .member listed (.here _)⟩, named, by simp, short⟩

theorem hasProgram_cons_iff {rest : List NodeName} (nonempty : rest ≠ []) :
    (directory members).HasProgram path (name :: rest) ↔ name ∉ Source.passedOver ∧
      ∃ inner, (name, directory inner) ∈ members ∧
        (directory inner).HasProgram (path.join name) rest := by
  have last : (name :: rest).getLastD [] = rest.getLastD [] := by
    cases rest with
    | nil => exact absurd rfl nonempty
    | cons => rfl
  have front : (name :: rest).dropLast = name :: rest.dropLast :=
    List.dropLast_cons_of_ne_nil nonempty
  constructor
  · rintro ⟨⟨content, holds⟩, named, reached, short⟩
    rw [front, List.forall_mem_cons] at reached
    rw [last] at named
    rw [front, Path.below_cons] at short
    cases holds with
    | @member _ _ _ node _ listed below =>
        cases node with
        | file => cases below; exact absurd rfl nonempty
        | directory inner =>
            exact ⟨reached.1, inner, listed, ⟨content, below⟩, named, reached.2, short⟩
  · rintro ⟨looked, inner, listed, ⟨content, below⟩, named, reached, short⟩
    refine ⟨⟨content, .member listed below⟩, last ▸ named, ?_, ?_⟩
    · rw [front, List.forall_mem_cons]
      exact ⟨looked, reached⟩
    · rw [front, Path.below_cons]
      exact short

end

/-- The walk finds the programs that are there and no others. -/
theorem IsProper.mem_programs_iff {tree : FileTree} (proper : tree.IsProper) {path : Path}
    {names : List NodeName} : names ∈ tree.programs path ↔ tree.HasProgram path names := by
  induction proper generalizing path names with
  | file content =>
      rw [programs]
      exact iff_of_false List.not_mem_nil (not_hasProgram_file content path names)
  | @directory members distinct named below ih =>
      rw [mem_programs_directory_iff]
      match names with
      | [] =>
          refine iff_of_false ?_ (not_hasProgram_nil _ _)
          rintro ⟨-, ⟨_, -, same⟩ | ⟨_, _, _, -, -, -, same⟩⟩
          · exact List.cons_ne_nil _ _ same.symm
          · exact List.cons_ne_nil _ _ same.symm
      | [name] =>
          rw [hasProgram_singleton_iff]
          refine and_congr_right fun _ => ⟨?_, fun own => .inl ⟨name, own, rfl⟩⟩
          rintro (⟨_, own, same⟩ | ⟨other, inner, rest, -, listed, within, same⟩)
          · rw [List.singleton_inj] at same
            exact same ▸ own
          · obtain ⟨rfl, rfl⟩ := List.cons.inj same
            exact absurd ((ih _ listed).1 within) (not_hasProgram_nil _ _)
      | name :: next :: rest =>
          rw [hasProgram_cons_iff (List.cons_ne_nil _ _)]
          constructor
          · rintro ⟨-, ⟨_, -, same⟩ | ⟨other, inner, within, looked, listed, found, same⟩⟩
            · exact absurd (List.cons.inj same).2 (List.cons_ne_nil _ _)
            · obtain ⟨rfl, rfl⟩ := List.cons.inj same
              exact ⟨looked, inner, listed, (ih _ listed).1 found⟩
          · rintro ⟨looked, inner, listed, found⟩
            -- What is below a directory with a path that is short has a short path above it.
            have short : (path.join name).isShort = true := Path.isShort_of_below found.isLookedUp
            have shorter : path.isShort = true := @Path.isShort_of_below path [name] short
            exact ⟨shorter, .inr ⟨name, inner, _, looked, listed, (ih _ listed).2 found, rfl⟩⟩

theorem ne_nil_of_mem_programs {tree : FileTree} (proper : tree.IsProper) {path : Path}
    {names : List NodeName} (found : names ∈ tree.programs path) : names ≠ [] := by
  rintro rfl
  exact not_hasProgram_nil tree path (proper.mem_programs_iff.1 found)

/-! ## The order of the programs -/

/-- Sorting by different names leaves each in front of the greater ones. -/
theorem pairwise_lt_mergeSort {α : Type} (key : α → NodeName) {items : List α}
    (distinct : (items.map key).Nodup) :
    (items.mergeSort fun first second => Source.nameLe (key first) (key second)).Pairwise
      fun first second => key first < key second := by
  have sorted :
      (items.mergeSort fun first second => Source.nameLe (key first) (key second)).Pairwise
        fun first second => Source.nameLe (key first) (key second) = true :=
    List.pairwise_mergeSort
      (fun first second third => Source.nameLe_trans (key first) (key second) (key third))
      (fun first second => Source.nameLe_total (key first) (key second)) items
  have differ := (List.pairwise_map.1 distinct).perm
    (List.mergeSort_perm items fun first second => Source.nameLe (key first) (key second)).symm
    fun apart => apart.symm
  exact sorted.imp₂ (fun first second le ne => lt_of_le_of_ne ((Source.nameLe_iff _ _).1 le) ne)
    differ

theorem nodup_ownPrograms {members : List (NodeName × FileTree)}
    (distinct : (members.map Prod.fst).Nodup) : (ownPrograms members).Nodup :=
  (List.filter_sublist.map Prod.fst).nodup distinct

theorem nodup_programsBelow {members : List (NodeName × FileTree)} (path : Path)
    (distinct : (members.map Prod.fst).Nodup) :
    ((programsBelow path members).map Prod.fst).Nodup := by
  rw [programsBelow_eq, List.map_map]
  exact (List.filter_sublist.map Prod.fst).nodup distinct

/-- The walk finds the programs in order. -/
theorem IsProper.pairwise_programs {tree : FileTree} (proper : tree.IsProper) (path : Path) :
    (tree.programs path).Pairwise Path.ComesBefore := by
  induction proper generalizing path with
  | file content =>
      rw [programs]
      exact List.Pairwise.nil
  | @directory members distinct named below ih =>
      have distinct := IsProper.distinct_names distinct
      -- Programs of a subdirectory are named by its name and at least one more.
      have inside {name : NodeName} {found : List (List NodeName)}
          (listed : (name, found) ∈ programsBelow path members) :
          found.Pairwise Path.ComesBefore ∧ ∀ rest ∈ found, rest ≠ [] := by
        obtain ⟨-, inner, member, rfl⟩ := mem_programsBelow_iff.1 listed
        exact ⟨ih _ member _, fun rest found => ne_nil_of_mem_programs (below _ member) found⟩
      rw [programs]
      split
      case isFalse => exact List.Pairwise.nil
      case isTrue =>
        rw [List.append_eq, List.pairwise_append]
        refine ⟨?own, ?subdirectories, ?between⟩
        case own =>
          have different : ((ownPrograms members).map id).Nodup := by
            rw [List.map_id]
            exact nodup_ownPrograms distinct
          have sorted := pairwise_lt_mergeSort id different
          exact List.pairwise_map.2 (sorted.imp fun less => .name less)
        case subdirectories =>
          rw [List.pairwise_flatMap]
          constructor
          · rintro ⟨name, found⟩ listed
            have ordered := (inside (List.mem_mergeSort.1 listed)).1
            exact List.pairwise_map.2 (ordered.imp fun before => .within before)
          · have sorted := pairwise_lt_mergeSort Prod.fst (nodup_programsBelow path distinct)
            refine sorted.imp_of_mem fun {first second} firstListed secondListed less => ?_
            intro names found others foundToo
            obtain ⟨rest, member, rfl⟩ := List.mem_map.1 found
            obtain ⟨more, memberToo, rfl⟩ := List.mem_map.1 foundToo
            have nonempty := (inside (List.mem_mergeSort.1 firstListed)).2 rest member
            have nonemptyToo := (inside (List.mem_mergeSort.1 secondListed)).2 more memberToo
            obtain ⟨_, _, rfl⟩ := List.exists_cons_of_ne_nil nonempty
            obtain ⟨_, _, rfl⟩ := List.exists_cons_of_ne_nil nonemptyToo
            exact .directory less
        case between =>
          intro names own others found
          obtain ⟨name, -, rfl⟩ := List.mem_map.1 own
          obtain ⟨⟨other, inner⟩, listed, found⟩ := List.mem_flatMap.1 found
          obtain ⟨rest, member, rfl⟩ := List.mem_map.1 found
          have nonempty := (inside (List.mem_mergeSort.1 listed)).2 rest member
          obtain ⟨_, _, rfl⟩ := List.exists_cons_of_ne_nil nonempty
          exact .own

/-- The walk over a tree lists its programs. -/
theorem IsProper.lists_programs {tree : FileTree} (proper : tree.IsProper) (path : Path) :
    tree.Lists path (tree.programs path) where
  mem_iff names := proper.mem_programs_iff
  nodup := by
    refine (proper.pairwise_programs path).imp fun before => ?_
    rintro rfl
    exact Path.ComesBefore.irrefl _ before
  ordered := proper.pairwise_programs path

/-- There is only one list of the programs below a directory. -/
theorem Lists.eq {tree : FileTree} {path : Path} {found others : List (List NodeName)}
    (lists : tree.Lists path found) (listsToo : tree.Lists path others) : found = others := by
  have same : found.Perm others := (List.perm_ext_iff_of_nodup lists.nodup listsToo.nodup).2
    fun names => (lists.mem_iff names).trans (listsToo.mem_iff names).symm
  exact same.eq_of_pairwise (fun _ _ _ _ before after => absurd after before.asymm)
    lists.ordered listsToo.ordered

end FileTree

namespace FileSystem

/-! ## The programs at several roots -/

section

variable {system : FileSystem}

theorem programsAt_of_isRefused {path : Path} {cause : PathError}
    (refused : path.IsRefused cause) :
    system.programsAt path = .error (.cannotOpen path (.path cause)) := by
  obtain ⟨stops, isOfPath⟩ := @find_of_isRefused system path cause refused
  rw [programsAt, stops]
  simp only [isOfPath, if_true]

theorem discover_eq {roots : List Path} (nonempty : roots ≠ []) :
    system.discover roots =
      (roots.mapM fun root => system.programsAt (root.absolute system.current)).map
        List.flatten := by
  rw [discover, List.isEmpty_eq_false_iff.2 nonempty, if_neg Bool.false_ne_true]
  rfl

/-- A file or directory is not found by a path that is too long. -/
theorem programsAt_of_long {path : Path} (admitted : ∀ point ∈ path, Path.Admits point)
    (nonempty : path ≠ []) (long : path.isShort = false) : system.programsAt path = .ok [] := by
  rw [programsAt, find_eq admitted nonempty, long]
  rfl

section

variable (proper : system.IsProper)

include proper

/-- A root that a file system can be asked for has a list of programs. -/
theorem exists_listsAt {root : Path}
    (admitted : ∀ point ∈ root.absolute system.current, Path.Admits point) :
    ∃ found, system.programsAt (root.absolute system.current) = .ok found ∧
      system.ListsAt (root.absolute system.current) (root.simplify system.current) found := by
  have current : ∀ name ∈ system.current, Path.IsPlain name := fun _ =>
    proper.isPlain_of_mem_current
  have plain := Path.isPlain_of_mem_simplify current root
  have spells := Path.spells_absolute current root
  generalize root.absolute system.current = path at *
  generalize root.simplify system.current = names at *
  cases here : system.node? names with
  | none =>
      obtain ⟨cause, missing, other⟩ := find_of_missing proper spells plain admitted here
      refine ⟨[], ?_, .nothing here⟩
      rw [programsAt, missing]
      simp only [other, Bool.false_eq_true, if_false]
  | some node =>
      by_cases short : path.isShort = true
      · have found := find_of_node? proper spells plain admitted short here
        rw [programsAt, found]
        cases node with
        | file content =>
            have named : Source.isName path = true ↔ Source.HasExtension (names.getLastD []) := by
              rw [Source.isName_path_iff, spells.lastPart]
            by_cases isNamed : Source.isName path = true
            · exact ⟨_, by rw [if_pos isNamed], .program here (named.1 isNamed) short⟩
            · exact ⟨_, by rw [if_neg isNamed],
                .otherFile here fun both => isNamed (named.2 both.1)⟩
        | directory members =>
            exact ⟨_, rfl, .directory here ((proper.root.of_node? here).lists_programs path)⟩
      · refine ⟨[], programsAt_of_long admitted spells.ne_nil (eq_false_of_ne_true short), ?_⟩
        cases node with
        | file content => exact .otherFile here fun both => short both.2
        | directory members =>
            have lists := (proper.root.of_node? here).lists_programs path
            rw [FileTree.programs, if_neg short] at lists
            exact .directory here lists

end

/-- There is only one list of the programs at a root. -/
theorem ListsAt.eq {path : Path} {names : List NodeName} {found others : List Path}
    (lists : system.ListsAt path names found) (listsToo : system.ListsAt path names others) :
    found = others := by
  cases lists with
  | nothing missing =>
      cases listsToo with
      | nothing => rfl
      | program here => rw [missing] at here; cases here
      | otherFile => rfl
      | directory here => rw [missing] at here; cases here
  | program here named short =>
      cases listsToo with
      | nothing missing => rw [missing] at here; cases here
      | program => rfl
      | otherFile _ other => exact absurd ⟨named, short⟩ other
      | directory directory => rw [directory] at here; cases here
  | otherFile here other =>
      cases listsToo with
      | nothing => rfl
      | program _ named short => exact absurd ⟨named, short⟩ other
      | otherFile => rfl
      | directory directory => rw [directory] at here; cases here
  | directory here lists =>
      cases listsToo with
      | nothing missing => rw [missing] at here; cases here
      | program file => rw [file] at here; cases here
      | otherFile file => rw [file] at here; cases here
      | directory hereToo listsToo =>
          rw [hereToo] at here
          cases here
          rw [lists.eq listsToo]

/-- Roots that a file system can be asked for have lists of programs. -/
theorem exists_listings (proper : system.IsProper) {roots : List Path}
    (admitted : ∀ root ∈ roots, ∀ point ∈ root.absolute system.current, Path.Admits point) :
    ∃ listings, (roots.mapM fun root => system.programsAt (root.absolute system.current)) =
        .ok listings ∧
      List.Forall₂ (fun root found => system.ListsAt (root.absolute system.current)
        (root.simplify system.current) found) roots listings := by
  induction roots with
  | nil => exact ⟨[], rfl, .nil⟩
  | cons root roots ih =>
      rw [List.forall_mem_cons] at admitted
      obtain ⟨found, here, lists⟩ := exists_listsAt proper admitted.1
      obtain ⟨listings, behind, others⟩ := ih admitted.2
      refine ⟨found :: listings, ?_, .cons lists others⟩
      rw [List.mapM_cons, here, behind]
      rfl

/-- The first root that a file system cannot be asked for ends the search. -/
theorem discover_of_isRefused (proper : system.IsProper) {before after : List Path} {root : Path}
    {cause : PathError}
    (admitted : ∀ other ∈ before, ∀ point ∈ other.absolute system.current, Path.Admits point)
    (refused : (root.absolute system.current).IsRefused cause) :
    system.discover (before ++ root :: after) =
      .error (.cannotOpen (root.absolute system.current) (.path cause)) := by
  obtain ⟨listings, found, -⟩ := exists_listings proper admitted
  rw [discover_eq (List.append_ne_nil_of_right_ne_nil before (List.cons_ne_nil root after)),
    List.mapM_append, found, List.mapM_cons, programsAt_of_isRefused refused]
  rfl

end

/-- Discovery lists the programs of all roots, one root after the other, if a file system
can be asked for each of them. What it lists at a root is determined by the files that are
there. Otherwise it fails, by the first root that a file system cannot be asked for. -/
theorem discovery_exact {system : FileSystem} (proper : system.IsProper) {roots : List Path}
    (nonempty : roots ≠ []) :
    let place := Path.absolute system.current
    ((∀ root ∈ roots, ∀ cause, ¬ (place root).IsRefused cause) →
        ∃ listings, system.discover roots = .ok listings.flatten ∧
          ∀ others, List.Forall₂ (fun root found =>
            system.ListsAt (place root) (root.simplify system.current) found) roots others ↔
              others = listings) ∧
      ∀ before root after cause, roots = before ++ root :: after →
        (∀ other ∈ before, ∀ cause, ¬ (place other).IsRefused cause) →
          (place root).IsRefused cause →
            system.discover roots = .error (.cannotOpen (place root) (.path cause)) := by
  intro place
  simp only [Path.not_isRefused_iff]
  constructor
  · intro admitted
    obtain ⟨listings, found, lists⟩ := exists_listings proper admitted
    refine ⟨listings, ?_, fun others => ⟨fun listsToo => ?_, ?_⟩⟩
    · rw [discover_eq nonempty, found]
      rfl
    · have unique : Relator.RightUnique fun (root : Path) (found : List Path) =>
          system.ListsAt (place root) (root.simplify system.current) found :=
        fun _ _ _ first second => first.eq second
      exact unique.forall₂ listsToo lists
    · rintro rfl
      exact lists
  · rintro before root after cause rfl admitted refused
    exact discover_of_isRefused proper admitted refused

/-- A directory that is passed over below the first root, but not as a root itself, a
program in capitals and a root that does not exist. A surrogate that stands for no octet is
blamed in front of a character zero in a later root. -/
theorem discovery_exact_passedOver :
    let system : FileSystem :=
      ⟨.directory [("b.py", .file []), (".venv", .directory [("c.txt", .file [])]),
        ("A", .directory [("Z.ISI", .file [])])], []⟩
    let roots : List Path := [".", "A/../.venv", "missing"]
    let refused : List Path := [[.surrogate 0], "\x00"]
    system.IsProper ∧ roots ≠ [] ∧
      (∀ root ∈ roots, ∀ cause, ¬ (root.absolute system.current).IsRefused cause) ∧
      (∃ listings, List.Forall₂
        (fun root found => system.ListsAt (root.absolute system.current)
          (root.simplify system.current) found) roots listings ∧
        system.discover roots = .ok listings.flatten) ∧
      system.discover roots = .ok ["/b.py", "/A/Z.ISI", "/.venv/c.txt"] ∧
      system.discover (roots ++ refused) =
        .error (.cannotOpen [.char '/', .surrogate 0] (.path .loneSurrogate)) := by
  intro system roots refused
  have proper : system.IsProper := by
    refine ⟨.directory (by decide +kernel) (by decide +kernel) ?_, _, .here _⟩
    simp only [List.forall_mem_cons, List.not_mem_nil, false_imp_iff, implies_true, and_true]
    refine ⟨.file _, .directory (by decide +kernel) (by decide +kernel) ?_,
      .directory (by decide +kernel) (by decide +kernel) ?_⟩
    · exact List.forall_mem_singleton.2 (.file _)
    · exact List.forall_mem_singleton.2 (.file _)
  have nonempty : roots ≠ [] := List.cons_ne_nil _ _
  have free : ∀ root ∈ roots, ∀ cause, ¬ (root.absolute system.current).IsRefused cause := by
    simp only [Path.not_isRefused_iff]
    decide +kernel
  obtain ⟨listings, found, only⟩ := (discovery_exact proper nonempty).1 free
  refine ⟨proper, nonempty, free, ⟨listings, (only listings).2 rfl, found⟩, ?_, ?_⟩
  · have capitals : (FileTree.directory [("Z.ISI", .file [])]).programs "/A" =
        [[("Z.ISI" : NodeName)]] :=
      FileTree.programs_singleton (by decide +kernel) (by decide +kernel) []
    have hidden : (FileTree.directory [("c.txt", .file [])]).programs "/.venv" =
        [[("c.txt" : NodeName)]] :=
      FileTree.programs_singleton (by decide +kernel) (by decide +kernel) []
    have own : FileTree.ownPrograms system.root.members = [("b.py" : NodeName)] := by decide +kernel
    have below : FileTree.programsBelow "/" system.root.members =
        [(("A" : NodeName), [[("Z.ISI" : NodeName)]])] := by
      rw [FileTree.programsBelow_eq, ← capitals]
      rfl
    have top : (FileTree.directory system.root.members).programs "/" =
        [[("b.py" : NodeName)], ["A", "Z.ISI"]] := by
      rw [FileTree.programs, if_pos (by decide +kernel), own, below, List.mergeSort_singleton,
        List.mergeSort_singleton]
      rfl
    have all : (roots.mapM fun root => system.programsAt (root.absolute system.current)) =
        .ok [((FileTree.directory system.root.members).programs "/").map (Path.below "/"),
          ((FileTree.directory [("c.txt", .file [])]).programs "/.venv").map
            (Path.below "/.venv"), []] :=
      rfl
    rw [discover_eq nonempty, all, top, hidden]
    rfl
  · exact (discovery_exact proper (List.append_ne_nil_of_left_ne_nil nonempty refused)).2 roots
      [.surrogate 0] ["\x00"] .loneSurrogate rfl free
      (.loneSurrogate (List.mem_cons_of_mem _ List.mem_cons_self) (by decide))

/-- Nothing is at a root with the character zero, but looking for programs there fails. -/
theorem discover_missing_with_zero :
    let system : FileSystem := ⟨.directory [("a.py", .file [])], []⟩
    system.IsProper ∧ system.node? (Path.simplify system.current "b\x00") = none ∧
      system.discover ["a.py", "b\x00"] =
        .error (.cannotOpen "/b\x00" (.path .zeroCharacter)) := by
  intro system
  have proper : system.IsProper := by
    refine ⟨.directory (by decide +kernel) (by decide +kernel) ?_, _, .here _⟩
    exact List.forall_mem_singleton.2 (.file _)
  refine ⟨proper, rfl, ?_⟩
  refine @discover_of_isRefused system proper ["a.py"] [] "b\x00" .zeroCharacter ?_ ?_
  · decide +kernel
  · exact .zeroCharacter (by decide +kernel) (by decide +kernel)

end FileSystem

end KeywordBridge
