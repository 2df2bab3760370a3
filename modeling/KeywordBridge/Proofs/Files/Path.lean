import KeywordBridge.Proofs.Files.Tree
import KeywordBridge.Proofs.Text.Lines

/-!
# Paths of nodes and extensions of names

A path from the root names the nodes on the way one after the other, behind empty parts.
Such a path leads where its names lead, if it is not too long and a file system can be
asked for it. The extension of a path starts at the last dot of the last name, unless only
dots stand in front of this dot: all of them then begin the name.
-/

namespace KeywordBridge

/-! ## The octets of a path -/

namespace Utf8

theorem encode?_append (front back : List CodePoint) :
    encode? (front ++ back) =
      (encode? front).bind fun octets => (encode? back).map (octets ++ ·) := by
  induction front with
  | nil => simp [encode?]
  | cons point rest ih =>
      rw [List.cons_append, encode?, encode?, ih]
      cases point.octets? <;> cases encode? rest <;> cases encode? back <;> simp

theorem isSome_encode?_iff {points : List CodePoint} :
    (encode? points).isSome = true ↔ ∀ point ∈ points, point.octets?.isSome = true := by
  induction points with
  | nil => simp [encode?]
  | cons point rest ih =>
      rw [encode?, List.forall_mem_cons, ← ih]
      cases point.octets? <;> cases encode? rest <;> simp

end Utf8

namespace Path

theorem isShort_of_append {front back : Path} (short : isShort (front ++ back) = true) :
    front.isShort = true := by
  rw [isShort, Option.any_eq_true] at short ⊢
  obtain ⟨octets, encoded, less⟩ := short
  rw [Utf8.encode?_append, Option.bind_eq_some_iff] at encoded
  obtain ⟨first, here, behind⟩ := encoded
  obtain ⟨second, -, rfl⟩ := Option.map_eq_some_iff.1 behind
  rw [decide_eq_true_eq, List.length_append] at less
  exact ⟨first, here, decide_eq_true (by omega)⟩

/-- Why a file system cannot be asked for a path: it holds a surrogate that stands for no
octet, or else the character zero. -/
inductive IsRefused (path : Path) : PathError → Prop
  | loneSurrogate {point : CodePoint} (member : point ∈ path) (missing : point.octets? = none) :
      IsRefused path .loneSurrogate
  | zeroCharacter (encoded : ∀ point ∈ path, point.octets?.isSome = true)
      (member : .char '\x00' ∈ path) : IsRefused path .zeroCharacter

/-- May a code point stand in a path? -/
def Admits (point : CodePoint) : Prop :=
  point.octets?.isSome = true ∧ point ≠ .char '\x00'

instance (point : CodePoint) : Decidable (Admits point) :=
  inferInstanceAs (Decidable (_ ∧ _))

theorem not_isRefused_iff {path : Path} :
    (∀ cause, ¬ path.IsRefused cause) ↔ ∀ point ∈ path, Admits point := by
  constructor
  · intro free
    have encoded : ∀ point ∈ path, point.octets?.isSome = true := by
      intro point member
      cases octets : point.octets? with
      | none => exact absurd (.loneSurrogate member octets) (free _)
      | some => rfl
    refine fun point member => ⟨encoded point member, ?_⟩
    rintro rfl
    exact free _ (.zeroCharacter encoded member)
  · rintro admitted _ (⟨member, missing⟩ | ⟨-, member⟩)
    · have encoded := (admitted _ member).1
      rw [missing] at encoded
      cases encoded
    · exact (admitted _ member).2 rfl

theorem IsNodeName.admits {name : NodeName} (named : IsNodeName name) :
    ∀ point ∈ name, Admits point := by
  have encoded : (Utf8.encode? name).isSome = true := by
    have short := named.short
    rw [isShortName, Option.any_eq_true] at short
    obtain ⟨octets, encoded, -⟩ := short
    rw [encoded]
    rfl
  refine fun point member => ⟨Utf8.isSome_encode?_iff.1 encoded point member, ?_⟩
  rintro rfl
  exact named.noZero member

/-! ## The path of a node below a directory -/

theorem below_cons (directory : Path) (name : NodeName) (names : List NodeName) :
    directory.below (name :: names) = (directory.join name).below names :=
  rfl

theorem below_append (directory : Path) (names others : List NodeName) :
    directory.below (names ++ others) = (directory.below names).below others :=
  List.foldl_append

theorem exists_join_eq (directory : Path) (name : NodeName) :
    ∃ front, front ⊆ [.char '/'] ∧ directory.join name = directory ++ (front ++ name) := by
  rw [join]
  split
  · exact ⟨[], List.nil_subset _, rfl⟩
  · exact ⟨[.char '/'], List.Subset.refl _, rfl⟩

/-- The path of a directory is continued with slashes and the names on the way. -/
theorem exists_below_eq (directory : Path) (names : List NodeName) :
    ∃ behind, directory.below names = directory ++ behind ∧
      ∀ point ∈ behind, point = .char '/' ∨ ∃ name ∈ names, point ∈ name := by
  induction names generalizing directory with
  | nil => exact ⟨[], (List.append_nil _).symm, by simp⟩
  | cons name names ih =>
      obtain ⟨front, slashes, joined⟩ := exists_join_eq directory name
      obtain ⟨behind, further, inside⟩ := ih (directory.join name)
      refine ⟨front ++ name ++ behind, ?_, fun point member => ?_⟩
      · rw [below_cons, further, joined, List.append_assoc]
      · rcases List.mem_append.1 member with here | later
        · rcases List.mem_append.1 here with slash | within
          · exact .inl (List.mem_singleton.1 (slashes slash))
          · exact .inr ⟨name, List.mem_cons_self, within⟩
        · exact (inside point later).imp_right fun ⟨other, listed, within⟩ =>
            ⟨other, List.mem_cons_of_mem _ listed, within⟩

/-- A directory is looked up by a shorter path than what is below it. -/
theorem isShort_of_below {directory : Path} {names : List NodeName}
    (short : (directory.below names).isShort = true) : directory.isShort = true := by
  obtain ⟨behind, same, -⟩ := exists_below_eq directory names
  rw [same] at short
  exact isShort_of_append short

theorem admits_of_mem_below {directory : Path} {names : List NodeName}
    (admitted : ∀ point ∈ directory, Admits point)
    (named : ∀ name ∈ names, ∀ point ∈ name, Admits point) :
    ∀ point ∈ directory.below names, Admits point := by
  obtain ⟨behind, same, inside⟩ := exists_below_eq directory names
  rw [same, List.forall_mem_append]
  refine ⟨admitted, fun point member => ?_⟩
  rcases inside point member with rfl | ⟨name, listed, within⟩
  · exact ⟨rfl, by decide⟩
  · exact named name listed point within

/-- The path goes from the root through nodes with these names, one after the other. -/
structure Spells (path : Path) (names : List NodeName) : Prop where
  starts : startsAtRoot path = true
  parts : ∃ count, parts path = List.replicate count [] ++ names

/-- A path that ends with a name, and the path of a member there. -/
theorem parts_join {directory : Path} {name : NodeName} (noSlash : .char '/' ∉ name)
    (ends : directory.getLast? ≠ some (.char '/')) :
    parts (directory.join name) = parts directory ++ [name] := by
  have other : (directory.getLast? == some (.char '/')) = false := by simpa using ends
  rw [join, other, if_neg Bool.false_ne_true, parts, Text.cutAt_append_mark,
    Text.cutAt_of_not_mem noSlash]
  rfl

theorem getLast?_join_ne {directory : Path} {name : NodeName} (plain : IsPlain name) :
    (directory.join name).getLast? ≠ some (.char '/') := by
  obtain ⟨front, -, same⟩ := exists_join_eq directory name
  rw [same, ← List.append_assoc, List.getLast?_append_of_ne_nil _ plain.nonempty]
  exact fun last => plain.noSlash (List.mem_of_getLast? last)

theorem parts_below {directory : Path} {names : List NodeName}
    (plain : ∀ name ∈ names, IsPlain name) (ends : directory.getLast? ≠ some (.char '/')) :
    parts (directory.below names) = parts directory ++ names := by
  induction names generalizing directory with
  | nil => rw [List.append_nil]; rfl
  | cons name names ih =>
      rw [List.forall_mem_cons] at plain
      rw [below_cons, ih plain.2 (getLast?_join_ne plain.1), parts_join plain.1.noSlash ends,
        List.append_assoc, List.singleton_append]

theorem parts_slashes (count : Nat) (name : NodeName) (noSlash : .char '/' ∉ name) :
    parts (List.replicate count (.char '/') ++ name) = List.replicate count [] ++ [name] := by
  induction count with
  | zero => exact Text.cutAt_of_not_mem noSlash
  | succ count ih =>
      rw [List.replicate_succ, List.cons_append, parts, Text.cutAt_of_mark]
      exact congrArg _ ih

theorem spells_below_slashes (count : Nat) {names : List NodeName}
    (plain : ∀ name ∈ names, IsPlain name) :
    Spells (below (List.replicate (count + 1) (.char '/')) names) names := by
  cases names with
  | nil =>
      refine ⟨rfl, count + 2, ?_⟩
      have slashes := parts_slashes (count + 1) [] List.not_mem_nil
      rw [List.append_nil] at slashes
      rw [List.append_nil, List.replicate_succ' (n := count + 1)]
      exact slashes
  | cons name names =>
      rw [List.forall_mem_cons] at plain
      have joined : join (List.replicate (count + 1) (.char '/')) name =
          List.replicate (count + 1) (.char '/') ++ name := by
        rw [join, List.replicate_succ', List.getLast?_concat, if_pos (by decide)]
      obtain ⟨behind, same, -⟩ :=
        exists_below_eq (List.replicate (count + 1) (.char '/')) (name :: names)
      refine ⟨?_, count + 1, ?_⟩
      · rw [same]
        rfl
      · have ends : (join (List.replicate (count + 1) (.char '/')) name).getLast? ≠
            some (.char '/') := getLast?_join_ne plain.1
        rw [below_cons, parts_below plain.2 ends, joined, parts_slashes _ _ plain.1.noSlash,
          List.append_assoc, List.singleton_append]

/-! ## The names that a path is simplified to -/

/-- A name that is plain is no step of another kind. -/
theorem IsPlain.moves {name : NodeName} (plain : IsPlain name) :
    staysPut name = false ∧ leadsUp name = false := by
  rw [staysPut, leadsUp, Bool.or_eq_false_iff, beq_eq_false_iff_ne, beq_eq_false_iff_ne,
    beq_eq_false_iff_ne]
  exact ⟨⟨plain.nonempty, plain.notDot⟩, plain.notDots⟩

theorem foldl_simplifyStep {names : List NodeName} (plain : ∀ name ∈ names, IsPlain name)
    (front : List NodeName) : names.foldl simplifyStep front = front ++ names := by
  induction names generalizing front with
  | nil => exact (List.append_nil _).symm
  | cons name names ih =>
      rw [List.forall_mem_cons] at plain
      rw [List.foldl_cons, ih plain.2, simplifyStep, plain.1.moves.1, plain.1.moves.2,
        if_neg Bool.false_ne_true, if_neg Bool.false_ne_true, List.append_assoc,
        List.singleton_append]

theorem foldl_simplifyStep_empties (count : Nat) (names : List NodeName) :
    (List.replicate count []).foldl simplifyStep names = names := by
  induction count with
  | zero => rfl
  | succ count ih => exact ih

theorem isPlain_simplifyStep {names : List NodeName} {part : NodeName}
    (plain : ∀ name ∈ names, IsPlain name) (noSlash : .char '/' ∉ part) :
    ∀ name ∈ simplifyStep names part, IsPlain name := by
  rw [simplifyStep]
  split
  · exact plain
  · rename_i moves
    split
    · exact fun name member => plain name ((List.dropLast_sublist _).mem member)
    · rename_i down
      simp only [staysPut, leadsUp, Bool.or_eq_true, beq_iff_eq, not_or] at moves down
      rw [List.forall_mem_append, List.forall_mem_singleton]
      exact ⟨plain, moves.1, moves.2, down, noSlash⟩

theorem isPlain_of_mem_simplify {current : List NodeName} (plain : ∀ name ∈ current, IsPlain name)
    (path : Path) : ∀ name ∈ simplify current path, IsPlain name := by
  have noSlash : ∀ part ∈ parts path, .char '/' ∉ part := fun part listed inside =>
    (Text.mem_of_mem_cutAt listed inside).2 rfl
  rw [simplify]
  generalize parts path = rest at noSlash
  have start : ∀ name ∈ if startsAtRoot path then [] else current, IsPlain name := by
    split
    · simp
    · exact plain
  generalize (if startsAtRoot path then [] else current) = names at start
  induction rest generalizing names with
  | nil => exact start
  | cons part rest ih =>
      rw [List.forall_mem_cons] at noSlash
      exact ih noSlash.2 _ (isPlain_simplifyStep start noSlash.1)

theorem spells_below_rootOf (path : Path) {names : List NodeName}
    (plain : ∀ name ∈ names, IsPlain name) : Spells ((rootOf path).below names) names := by
  rw [rootOf]
  split
  · exact spells_below_slashes 1 plain
  · exact spells_below_slashes 0 plain

/-- The absolute path of a node names what its path is simplified to. -/
theorem spells_absolute {current : List NodeName} (plain : ∀ name ∈ current, IsPlain name)
    (path : Path) : Spells (path.absolute current) (simplify current path) :=
  spells_below_rootOf path (isPlain_of_mem_simplify plain path)

namespace Spells

variable {path : Path} {names : List NodeName}

theorem ne_nil (spells : Spells path names) : path ≠ [] := by
  rintro rfl
  cases spells.starts

theorem lastPart (spells : Spells path names) : path.lastPart = names.getLastD [] := by
  obtain ⟨count, parts⟩ := spells.parts
  rw [Path.lastPart, parts]
  rcases List.eq_nil_or_concat' names with rfl | ⟨front, name, rfl⟩
  · rw [List.append_nil]
    cases count with
    | zero => rfl
    | succ count => rw [List.replicate_succ', List.getLastD_concat]; rfl
  · rw [← List.append_assoc, List.getLastD_concat, List.getLastD_concat]

/-- A path from the root is simplified to the names it goes through. -/
theorem simplify_eq (spells : Spells path names) (plain : ∀ name ∈ names, IsPlain name)
    (current : List NodeName) : simplify current path = names := by
  obtain ⟨count, parts⟩ := spells.parts
  rw [simplify, spells.starts, if_pos rfl, parts, List.foldl_append, foldl_simplifyStep_empties,
    foldl_simplifyStep plain, List.nil_append]

end Spells

/-! ## Following a path -/

/-- Empty parts do not leave a directory. -/
theorem foldlM_follow_empties (count : Nat) (members : List (NodeName × FileTree))
    (above : List FileTree) :
    (List.replicate count []).foldlM follow (.directory members :: above) =
      .ok (.directory members :: above) := by
  induction count with
  | zero => rfl
  | succ count ih => exact ih

/-- A member of a directory is reached by its name. -/
theorem follow_member {tree member : FileTree} {name : NodeName} (proper : tree.IsProper)
    (plain : IsPlain name) (found : tree.member? name = some member) (above : List FileTree) :
    follow (tree :: above) name = .ok (member :: tree :: above) := by
  have short := (proper.of_member? found).2
  cases tree with
  | file => cases found
  | directory members =>
      simp only [follow, plain.moves.1, plain.moves.2, short, found, Bool.not_true,
        Bool.false_eq_true, if_false]

/-- Where a name leads nowhere, it is not the path that is at fault. -/
theorem follow_missing {tree : FileTree} {name : NodeName} (plain : IsPlain name)
    (missing : tree.member? name = none) (above : List FileTree) :
    ∃ cause, follow (tree :: above) name = .error cause ∧ cause.isOfPath = false := by
  cases tree with
  | file => exact ⟨_, rfl, rfl⟩
  | directory members =>
      simp only [follow, plain.moves.1, plain.moves.2, missing, Bool.false_eq_true, if_false]
      split
      · exact ⟨_, rfl, rfl⟩
      · exact ⟨_, rfl, rfl⟩

/-- The names on the way to a node lead to it. -/
theorem foldlM_follow {tree node : FileTree} {names : List NodeName} (proper : tree.IsProper)
    (plain : ∀ name ∈ names, IsPlain name) (found : tree.node? names = some node)
    (above : List FileTree) :
    ∃ onWay, names.foldlM follow (tree :: above) = .ok (node :: onWay) := by
  induction names generalizing tree above with
  | nil =>
      cases found
      exact ⟨above, rfl⟩
  | cons name names ih =>
      rw [List.forall_mem_cons] at plain
      rw [FileTree.node?_cons, Option.bind_eq_some_iff] at found
      obtain ⟨member, here, behind⟩ := found
      obtain ⟨onWay, reached⟩ := ih (proper.of_member? here).1 plain.2 behind (tree :: above)
      refine ⟨onWay, ?_⟩
      rw [List.foldlM_cons, follow_member proper plain.1 here above]
      exact reached

/-- Names with no node lead nowhere. -/
theorem foldlM_follow_missing {tree : FileTree} {names : List NodeName} (proper : tree.IsProper)
    (plain : ∀ name ∈ names, IsPlain name) (missing : tree.node? names = none)
    (above : List FileTree) :
    ∃ cause, names.foldlM follow (tree :: above) = .error cause ∧ cause.isOfPath = false := by
  induction names generalizing tree above with
  | nil => cases missing
  | cons name names ih =>
      rw [List.forall_mem_cons] at plain
      rw [FileTree.node?_cons] at missing
      rw [List.foldlM_cons]
      cases here : tree.member? name with
      | none =>
          obtain ⟨cause, stops, other⟩ := follow_missing plain.1 here above
          refine ⟨cause, ?_, other⟩
          rw [stops]
          rfl
      | some member =>
          rw [here] at missing
          obtain ⟨cause, stops, other⟩ :=
            ih (proper.of_member? here).1 plain.2 missing (tree :: above)
          refine ⟨cause, ?_, other⟩
          rw [follow_member proper plain.1 here above]
          exact stops

/-! ## Extensions -/

/-- Does a name have dots at its start only? -/
def DotsLead (name : NodeName) : Prop :=
  .char '.' ∉ name.dropWhile (· == .char '.')

instance (name : NodeName) : Decidable (DotsLead name) :=
  inferInstanceAs (Decidable (.char '.' ∉ name.dropWhile (· == .char '.')))

theorem ending_eq (stem : NodeName) {ending : NodeName} (free : .char '.' ∉ ending) :
    ((stem ++ .char '.' :: ending).reverse.takeWhile (· != .char '.')).reverse = ending := by
  have all : ∀ point ∈ ending.reverse, (point != .char '.') = true := by
    intro point member
    rw [bne_iff_ne]
    rintro rfl
    exact free (List.mem_reverse.1 member)
  rw [List.reverse_append, List.reverse_cons, List.append_assoc, List.singleton_append,
    List.takeWhile_append_of_pos all, List.takeWhile_cons_of_neg (by decide), List.append_nil,
    List.reverse_reverse]

/-- What follows the last dot does not depend on where one starts to read. -/
theorem dot_cons_suffix_iff {front back ending : NodeName} (free : .char '.' ∉ ending)
    (freeBack : .char '.' ∉ back) :
    .char '.' :: ending <:+ front ++ .char '.' :: back ↔ ending = back := by
  constructor
  · rintro ⟨stem, same⟩
    rw [← ending_eq stem free, same, ending_eq front freeBack]
  · rintro rfl
    exact List.suffix_append _ _

theorem dotsLead_iff {stem ending : NodeName} (free : .char '.' ∉ ending) :
    DotsLead (stem ++ .char '.' :: ending) ↔ stem.all (· == .char '.') = true := by
  rw [DotsLead, List.dropWhile_append]
  by_cases all : stem.all (· == .char '.') = true
  · have dropped : stem.dropWhile (· == .char '.') = [] :=
      List.dropWhile_eq_nil_iff.2 (List.all_eq_true.1 all)
    have rest : .char '.' ∉ ending.dropWhile (· == .char '.') := fun member =>
      free ((List.dropWhile_sublist _).mem member)
    rw [dropped, List.isEmpty_nil, if_pos rfl, List.dropWhile_cons_of_pos (by decide)]
    exact iff_of_true rest all
  · have remains : (stem.dropWhile (· == .char '.')).isEmpty = false := by
      rw [List.isEmpty_eq_false_iff, ne_eq, List.dropWhile_eq_nil_iff]
      exact fun each => all (List.all_eq_true.2 each)
    rw [remains, if_neg Bool.false_ne_true]
    exact iff_of_false (fun missing => missing (List.mem_append_right _ List.mem_cons_self)) all

/-- The extension of a path, by the last dot of its last part. -/
theorem extension_eq {path : Path} {stem ending : NodeName}
    (last : lastPart path = stem ++ .char '.' :: ending) (free : .char '.' ∉ ending) :
    extension path = if DotsLead (lastPart path) then [] else .char '.' :: ending := by
  have length : (stem ++ .char '.' :: ending).length - (ending.length + 1) = stem.length := by
    rw [List.length_append, List.length_cons, Nat.add_sub_cancel]
  rw [extension, last]
  simp only [ending_eq stem free, length, List.take_left, dotsLead_iff free]

end Path

/-! ## Looking a path up -/

namespace FileSystem

variable {system : FileSystem} {path : Path}

/-- A file system is not asked for a path that is refused. -/
theorem find_of_isRefused {cause : PathError} (refused : path.IsRefused cause) :
    system.find path = .error cause ∧ cause.isOfPath = true := by
  cases refused with
  | @loneSurrogate point member missing =>
      have unencoded : (Utf8.encode? path).isNone = true := by
        rw [← Option.not_isSome, Bool.not_eq_true', ← Bool.not_eq_true, Utf8.isSome_encode?_iff]
        intro encoded
        have here := encoded point member
        rw [missing] at here
        cases here
      rw [find, unencoded]
      exact ⟨rfl, rfl⟩
  | zeroCharacter encoded member =>
      have encoded : (Utf8.encode? path).isNone = false := by
        rw [← Option.not_isSome, Utf8.isSome_encode?_iff.2 encoded]
        rfl
      have zero : path.contains (.char '\x00') = true := List.contains_iff_mem.2 member
      rw [find, encoded, zero]
      exact ⟨rfl, rfl⟩

/-- A path that is not refused is looked up, unless it is too long. -/
theorem find_eq (admitted : ∀ point ∈ path, Path.Admits point) (nonempty : path ≠ []) :
    system.find path =
      if path.isShort then do
        let start := if path.startsAtRoot then [] else system.current
        let nodes ← (start ++ path.parts).foldlM Path.follow [system.root]
        match nodes with
        | node :: _ => return node
        | [] => throw .missing
      else .error .nameTooLong := by
  have encoded : (Utf8.encode? path).isNone = false := by
    have all : ∀ point ∈ path, point.octets?.isSome = true := fun point member =>
      (admitted point member).1
    rw [← Option.not_isSome, Utf8.isSome_encode?_iff.2 all]
    rfl
  have noZero : path.contains (.char '\x00') = false := by
    rw [← Bool.not_eq_true, List.contains_iff_mem]
    exact fun member => (admitted _ member).2 rfl
  have given : path.isEmpty = false := List.isEmpty_eq_false_iff.2 nonempty
  rw [find, encoded, noZero, given]
  cases path.isShort <;> rfl

section

variable (proper : system.IsProper) {names : List NodeName} (spells : path.Spells names)
  (plain : ∀ name ∈ names, Path.IsPlain name)

include proper spells

/-- A path from the root is followed by its names alone. -/
theorem foldlM_parts :
    path.parts.foldlM Path.follow [system.root] = names.foldlM Path.follow [system.root] := by
  obtain ⟨members, top⟩ := proper.exists_root
  obtain ⟨count, parts⟩ := spells.parts
  rw [parts, top, List.foldlM_append, Path.foldlM_follow_empties]
  rfl

include plain

theorem find_of_node? (admitted : ∀ point ∈ path, Path.Admits point) (short : path.isShort = true)
    {node : FileTree} (found : system.node? names = some node) : system.find path = .ok node := by
  obtain ⟨onWay, reached⟩ := Path.foldlM_follow proper.root plain found []
  simp only [find_eq admitted spells.ne_nil, short, spells.starts, if_true, List.nil_append,
    foldlM_parts proper spells, reached]
  rfl

theorem find_of_missing (admitted : ∀ point ∈ path, Path.Admits point)
    (missing : system.node? names = none) :
    ∃ cause, system.find path = .error cause ∧ cause.isOfPath = false := by
  rw [find_eq admitted spells.ne_nil]
  split
  · obtain ⟨cause, stops, other⟩ := Path.foldlM_follow_missing proper.root plain missing []
    refine ⟨cause, ?_, other⟩
    simp only [spells.starts, if_true, List.nil_append, foldlM_parts proper spells, stops]
    rfl
  · exact ⟨_, rfl, rfl⟩

end

end FileSystem

end KeywordBridge
