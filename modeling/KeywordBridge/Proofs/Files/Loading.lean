import KeywordBridge.Proofs.Files.Discovery

/-!
# Loading what is discovered

Discovery looks at the end of a name, loading at the extension of a path. Both look for
the same endings, each of which is a dot with letters behind it. They part where the dots
of a name all stand at its start: such a name has no extension, but may well end like one.
-/

namespace KeywordBridge

/-! ## Loading a file by its name -/

/-- How a file loads whose name has an extension of programs. -/
theorem Found.program_file (table : Table) {path : Path}
    (named : Source.HasExtension (Path.lastPart path)) (content : List UInt8) :
    let text := (Utf8.decode content).unifyLineEnds
    Found.program table path (.ok (.file content)) =
      if Path.DotsLead (Path.lastPart path) then .error (.unsupported [])
      else .ok (if Source.HasTargetExtension (Path.lastPart path) then table.reverse text
        else text) := by
  intro text
  obtain ⟨stem, ending, last, free⟩ := named.exists_eq
  rw [Found.program, Path.extension_eq last free]
  split
  · rfl
  · have known : lowerCase (.char '.' :: ending) ∈ Source.extensions :=
      (Source.exists_suffix_lowerCase_iff (List.Subset.refl _) free).1 (last ▸ named)
    have language : Source.HasTargetExtension (Path.lastPart path) ↔
        lowerCase (.char '.' :: ending) ∈ Source.targetExtensions := by
      rw [last]
      exact Source.exists_suffix_lowerCase_iff (List.subset_append_right _ _) free
    by_cases target : lowerCase (.char '.' :: ending) ∈ Source.targetExtensions
    · simp only [language, target, if_true]
      rfl
    · have surface := (List.mem_append.1 known).resolve_right target
      simp only [language, target, surface, if_true, if_false]
      rfl

/-- What comes of a list of tasks that succeed comes of one of them. -/
theorem exists_of_mapM_eq_ok {α β ε : Type} {task : α → Except ε β} {items : List α}
    {results : List β} (done : items.mapM task = .ok results) {result : β}
    (member : result ∈ results) : ∃ item ∈ items, task item = .ok result := by
  induction items generalizing results with
  | nil =>
      cases done
      cases member
  | cons item items ih =>
      rw [List.mapM_cons] at done
      cases here : task item with
      | error => rw [here] at done; cases done
      | ok first =>
          cases behind : items.mapM task with
          | error => rw [here, behind] at done; cases done
          | ok others =>
              rw [here, behind] at done
              cases done
              rcases List.mem_cons.1 member with rfl | later
              · exact ⟨item, List.mem_cons_self, here⟩
              · obtain ⟨other, listed, found⟩ := ih behind later
                exact ⟨other, List.mem_cons_of_mem _ listed, found⟩

namespace FileSystem

section

variable {system : FileSystem} (proper : system.IsProper)

include proper

/-- What is listed at a root is a program: a file whose name has an extension of programs. Its
path names the nodes on the way to it, and a file system can be asked for it. -/
theorem ListsAt.of_mem {root path : Path} {found : List Path}
    (admitted : ∀ point ∈ root.absolute system.current, Path.Admits point)
    (lists : system.ListsAt (root.absolute system.current) (root.simplify system.current) found)
    (listed : path ∈ found) :
    ∃ names content, path.Spells names ∧ (∀ name ∈ names, Path.IsPlain name) ∧
      (∀ point ∈ path, Path.Admits point) ∧ system.node? names = some (.file content) ∧
        Source.HasExtension (names.getLastD []) := by
  have current : ∀ name ∈ system.current, Path.IsPlain name := fun _ =>
    proper.isPlain_of_mem_current
  have plain := Path.isPlain_of_mem_simplify current root
  cases lists with
  | nothing => cases listed
  | program here named =>
      rw [List.mem_singleton.1 listed]
      exact ⟨_, _, Path.spells_absolute current root, plain, admitted, here, named⟩
  | otherFile => cases listed
  | directory here lists =>
      obtain ⟨inner, member, rfl⟩ := List.mem_map.1 listed
      obtain ⟨⟨content, holds⟩, named, -, -⟩ := (lists.mem_iff inner).1 member
      obtain ⟨below, isNodeName⟩ := (proper.root.of_node? here).of_holds holds
      have plainToo : ∀ name ∈ root.simplify system.current ++ inner, Path.IsPlain name :=
        List.forall_mem_append.2 ⟨plain, fun name listed => (isNodeName name listed).toIsPlain⟩
      have last : (root.simplify system.current ++ inner).getLastD [] = inner.getLastD [] := by
        rcases List.eq_nil_or_concat' inner with rfl | ⟨front, name, rfl⟩
        · exact absurd named Source.not_hasExtension_nil
        · rw [← List.append_assoc, List.getLastD_concat, List.getLastD_concat]
      refine ⟨_, content, ?_, plainToo, ?_, ?_, last ▸ named⟩
      · rw [Path.absolute, ← Path.below_append]
        exact Path.spells_below_rootOf root plainToo
      · exact Path.admits_of_mem_below admitted fun name listed => (isNodeName name listed).admits
      · rw [node?_eq] at here ⊢
        rw [FileTree.node?_append, here]
        exact below

theorem of_mem_discover {roots found : List Path} (discovered : system.discover roots = .ok found)
    {path : Path} (listed : path ∈ found) :
    ∃ names content, path.Spells names ∧ (∀ name ∈ names, Path.IsPlain name) ∧
      (∀ point ∈ path, Path.Admits point) ∧ system.node? names = some (.file content) ∧
        Source.HasExtension (names.getLastD []) := by
  have nonempty : roots ≠ [] := by
    rintro rfl
    cases discovered
  rw [discover_eq nonempty] at discovered
  cases searched : roots.mapM fun root => system.programsAt (root.absolute system.current) with
  | error => rw [searched] at discovered; cases discovered
  | ok listings =>
      rw [searched] at discovered
      cases discovered
      obtain ⟨listing, here, member⟩ := List.mem_flatten.1 listed
      obtain ⟨root, -, done⟩ := exists_of_mapM_eq_ok searched here
      have admitted : ∀ point ∈ root.absolute system.current, Path.Admits point := by
        rw [← Path.not_isRefused_iff]
        intro cause refused
        rw [programsAt_of_isRefused refused] at done
        cases done
      obtain ⟨others, doneToo, lists⟩ := exists_listsAt proper admitted
      rw [doneToo] at done
      cases done
      exact lists.of_mem proper admitted member

end

/-- Whatever is discovered loads, as a program of the language that its name tells, unless
its path is too long to be looked up or all dots of its name stand at the start. -/
theorem loading_discovered (table : Table) {system : FileSystem} (proper : system.IsProper)
    {roots found : List Path} (discovered : system.discover roots = .ok found) {path : Path}
    (listed : path ∈ found) :
    ∃ content, system.node? (path.simplify system.current) = some (.file content) ∧
      Found.program table path (system.find path) =
        if path.isShort then
          if Path.DotsLead path.lastPart then .error (.unsupported [])
          else
            let text := (Utf8.decode content).unifyLineEnds
            .ok (if Source.HasTargetExtension path.lastPart then table.reverse text else text)
        else .error (.notFound path) := by
  obtain ⟨names, content, spells, plain, admitted, here, named⟩ :=
    of_mem_discover proper discovered listed
  rw [spells.simplify_eq plain]
  refine ⟨content, here, ?_⟩
  split
  · rename_i short
    rw [find_of_node? proper spells plain admitted short here,
      Found.program_file table (spells.lastPart.symm ▸ named)]
  · rename_i long
    rw [find_eq admitted spells.ne_nil, if_neg long]
    rfl

/-- A name with a dot at its start and another one behind, in mixed case, and a carriage
return in the file. -/
theorem loading_discovered_mixedCase :
    let system : FileSystem :=
      ⟨.directory [("A", .directory [(".b.Py", .file [0x78, 0x0d])])], ["A"]⟩
    let path : Path := "/A/.b.Py"
    system.IsProper ∧ system.discover [".b.Py"] = .ok [path] ∧ path ∈ [path] ∧
      Found.program Table.default path (system.find path) =
        .ok (Table.default.reverse "x\n") := by
  intro system path
  have inner : (FileTree.directory [(".b.Py", .file [0x78, 0x0d])]).IsProper :=
    .directory (by decide +kernel) (by decide +kernel) (List.forall_mem_singleton.2 (.file _))
  have proper : system.IsProper :=
    ⟨.directory (by decide +kernel) (by decide +kernel) (List.forall_mem_singleton.2 inner),
      _, .member List.mem_cons_self (.here _)⟩
  have discovered : system.discover [".b.Py"] = .ok [path] := rfl
  have listed : path ∈ [path] := List.mem_singleton_self _
  refine ⟨proper, discovered, listed, ?_⟩
  obtain ⟨content, here, loads⟩ := loading_discovered Table.default proper discovered listed
  have same : FileTree.file [0x78, 0x0d] = .file content := Option.some.inj here
  cases same
  have target : Source.HasTargetExtension path.lastPart := by decide +kernel
  rw [loads, if_pos (by decide +kernel), if_neg (by decide +kernel)]
  simp only [target, if_true]
  rfl

/-- A name that is nothing but an extension is discovered, but does not load. -/
theorem discovered_bareExtension_unsupported :
    let system : FileSystem := ⟨.directory [(".py", .file [])], []⟩
    let path : Path := "/.py"
    system.IsProper ∧ system.discover ["."] = .ok [path] ∧
      Found.program Table.default path (system.find path) = .error (.unsupported []) := by
  intro system path
  have proper : system.IsProper :=
    ⟨.directory (by decide +kernel) (by decide +kernel) (List.forall_mem_singleton.2 (.file _)),
      _, .here _⟩
  have below : system.root.programs "/" = [[(".py" : NodeName)]] :=
    FileTree.programs_singleton (by decide +kernel) (by decide +kernel) []
  have all : ([("." : Path)].mapM fun (root : Path) =>
      system.programsAt (root.absolute system.current)) =
      .ok [(system.root.programs "/").map (Path.below "/")] := rfl
  have discovered : system.discover ["."] = .ok [path] := by
    rw [discover_eq (List.cons_ne_nil _ _), all, below]
    rfl
  exact ⟨proper, discovered, rfl⟩

end FileSystem

end KeywordBridge
