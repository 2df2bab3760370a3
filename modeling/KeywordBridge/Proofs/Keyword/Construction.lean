import KeywordBridge.Proofs.Keyword.Lookup

/-!
# Tables from lists of entries

A list of entries becomes a table if no entry clashes with one in front of it. Then the
table is a dictionary in both directions: its keywords are those of the list, in order and
without repetition, and each side of an entry leads to the other side and to nothing else.
Otherwise the first entry that clashes is refused, and the refusal says how it clashes.

Only different entries are compared. An entry with the same word on both sides clashes with
no other entry, so its word becomes a surface keyword and a target keyword at once, and such
entries are the only reason why the two sides of a table share a word.
-/

namespace KeywordBridge

/-- What is said when an entry is refused behind the entries in front of it. A repeated
surface keyword is named first, then a repeated target keyword, and only then a word that
changes sides. -/
inductive Entry.IsRefused (earlier : List Entry) (entry : Entry) : Text → Prop where
  | repeatedSurface (holder : Entry) (listed : holder ∈ earlier)
      (same : holder.surface = entry.surface) :
      IsRefused earlier entry ("duplicate surface keyword: " ++ entry.surface.quoted)
  | repeatedTarget (newSurface : ∀ other ∈ earlier, other.surface ≠ entry.surface)
      (holder : Entry) (listed : holder ∈ earlier) (same : holder.target = entry.target) :
      IsRefused earlier entry
        ("target keyword " ++ entry.target.quoted ++ " already mapped from "
          ++ holder.surface.quoted ++ "; cannot also map " ++ entry.surface.quoted)
  | onBothSides (newSurface : ∀ other ∈ earlier, other.surface ≠ entry.surface)
      (newTarget : ∀ other ∈ earlier, other.target ≠ entry.target)
      (crosses : ∃ other ∈ earlier,
        other.target = entry.surface ∨ other.surface = entry.target) :
      IsRefused earlier entry
        ("keyword " ++ entry.surface.quoted ++ "/" ++ entry.target.quoted
          ++ " appears on both sides")

/-- An entry that is refused clashes with an earlier one. -/
theorem Entry.IsRefused.exists_clash {earlier : List Entry} {entry : Entry} {message : Text}
    (refused : entry.IsRefused earlier message) :
    ∃ other ∈ earlier, ¬ Entry.Compatible other entry := by
  cases refused with
  | repeatedSurface holder listed same => exact ⟨holder, listed, fun apart => apart.1 same⟩
  | repeatedTarget _ holder listed same => exact ⟨holder, listed, fun apart => apart.2.1 same⟩
  | onBothSides _ _ crosses =>
      obtain ⟨other, listed, same | same⟩ := crosses
      · exact ⟨other, listed, fun apart => apart.2.2.1 same⟩
      · exact ⟨other, listed, fun apart => apart.2.2.2 same⟩

namespace Table

/-- The table reads the entries in both directions: the keywords of either side are listed
in order, none of them twice, and the two words of an entry lead to each other. -/
structure IsDictionaryOf (table : Table) (entries : List Entry) : Prop where
  surfaces_eq : table.surfaces = entries.map (·.surface)
  targets_eq : table.targets = entries.map (·.target)
  nodup_surfaces : table.surfaces.Nodup
  nodup_targets : table.targets.Nodup
  inverse : ∀ surface target,
    table.targetFor? surface = some target ↔ table.surfaceFor? target = some surface
  lookup : ∀ surface target, table.surfaceFor? target = some surface ↔
    ∃ entry ∈ entries, entry.surface = surface ∧ entry.target = target

/-! ## Reading a table -/

theorem isSurface_iff {table : Table} {word : Text} :
    table.isSurface word = true ↔ ∃ entry ∈ table.entries, entry.surface = word := by
  rw [isSurface, surfaces, List.contains_iff_mem, List.mem_map]

theorem isTarget_iff {table : Table} {word : Text} :
    table.isTarget word = true ↔ ∃ entry ∈ table.entries, entry.target = word := by
  rw [isTarget, targets, List.contains_iff_mem, List.mem_map]

/-- A table is the dictionary of its own entries. -/
theorem isDictionaryOf_entries (table : Table) : table.IsDictionaryOf table.entries where
  surfaces_eq := rfl
  targets_eq := rfl
  nodup_surfaces := List.pairwise_map.2 (table.compatible.imp fun apart => apart.1)
  nodup_targets := List.pairwise_map.2 (table.compatible.imp fun apart => apart.2.1)
  inverse _ _ := targetFor?_eq_some_iff.trans surfaceFor?_eq_some_iff.symm
  lookup _ _ := surfaceFor?_eq_some_iff

/-! ## Adding one entry -/

theorem exists_extend_of_free {table : Table} {entry : Entry}
    (free : table.conflict? entry = none) :
    ∃ next, table.extend entry = .ok next ∧ next.entries = table.entries ++ [entry] := by
  unfold extend
  split
  · rename_i conflict found
    rw [free] at found
    cases found
  · exact ⟨_, rfl, rfl⟩

theorem extend_of_conflict {table : Table} {entry : Entry} {conflict : TableError}
    (found : table.conflict? entry = some conflict) : table.extend entry = .error conflict := by
  unfold extend
  split
  · rename_i other isOther
    rw [found, Option.some_inj] at isOther
    rw [isOther]
  · rename_i free
    rw [free] at found
    cases found

/-- A conflict that is found is a reason to refuse the entry. -/
theorem isRefused_of_conflict {table : Table} {entry : Entry} {conflict : TableError}
    (found : table.conflict? entry = some conflict) :
    entry.IsRefused table.entries conflict.message := by
  unfold conflict? at found
  split at found
  · rename_i repeated
    cases found
    obtain ⟨holder, listed, same⟩ := isSurface_iff.1 repeated
    exact .repeatedSurface holder listed same
  · rename_i unlisted
    have newSurface : ∀ other ∈ table.entries, other.surface ≠ entry.surface :=
      fun other listed same => unlisted (isSurface_iff.2 ⟨other, listed, same⟩)
    split at found
    · rename_i holder isHolder
      cases found
      obtain ⟨listed, same⟩ := byTarget?_eq_some_iff.1 isHolder
      exact .repeatedTarget newSurface holder listed same
    · rename_i missing
      have newTarget : ∀ other ∈ table.entries, other.target ≠ entry.target := by
        simpa [byTarget?] using missing
      split at found
      · rename_i crossing
        cases found
        refine .onBothSides newSurface newTarget ?_
        rw [Bool.or_eq_true, isTarget_iff, isSurface_iff] at crossing
        rcases crossing with ⟨other, listed, same⟩ | ⟨other, listed, same⟩
        · exact ⟨other, listed, .inl same⟩
        · exact ⟨other, listed, .inr same⟩
      · cases found

/-! ## Adding a list of entries -/

/-- Entries are added to a table up to the first one that is refused. -/
theorem foldlM_extend (entries : List Entry) (table : Table) :
    (∃ next, entries.foldlM extend table = .ok next ∧
        next.entries = table.entries ++ entries) ∨
      ∃ conflict, entries.foldlM extend table = .error conflict ∧
        ∃ earlier entry later, entries = earlier ++ entry :: later ∧
          (table.entries ++ earlier).Pairwise Entry.Compatible ∧
          entry.IsRefused (table.entries ++ earlier) conflict.message := by
  induction entries generalizing table with
  | nil => exact .inl ⟨table, rfl, (List.append_nil _).symm⟩
  | cons entry others ih =>
      rw [List.foldlM_cons]
      cases found : table.conflict? entry with
      | some conflict =>
          rw [extend_of_conflict found]
          refine .inr ⟨conflict, rfl, [], entry, others, rfl, ?_, ?_⟩
          · rw [List.append_nil]
            exact table.compatible
          · rw [List.append_nil]
            exact isRefused_of_conflict found
      | none =>
          obtain ⟨next, isNext, added⟩ := exists_extend_of_free found
          rw [isNext]
          rcases ih next with ⟨last, isLast, all⟩ | ⟨conflict, failed, earlier, bad, later, cut,
            fit, refused⟩
          · refine .inl ⟨last, isLast, ?_⟩
            rw [all, added, List.append_assoc, List.singleton_append]
          · rw [added, List.append_assoc, List.singleton_append] at fit refused
            refine .inr ⟨conflict, failed, entry :: earlier, bad, later, ?_, fit, refused⟩
            rw [cut, List.cons_append]

/-- A table that is built from a list has the entries of the list. -/
theorem entries_of_ofEntries {entries : List Entry} {table : Table}
    (accepted : ofEntries entries = .ok table) : table.entries = entries := by
  rcases foldlM_extend entries empty with ⟨next, isNext, all⟩ | ⟨conflict, failed, -⟩
  · rw [ofEntries, isNext] at accepted
    cases accepted
    exact all
  · rw [ofEntries, failed] at accepted
    cases accepted

/-- Every table is built from the list of its entries. -/
theorem ofEntries_entries (table : Table) : ofEntries table.entries = .ok table := by
  rcases foldlM_extend table.entries empty with ⟨next, isNext, all⟩ | ⟨conflict, -, earlier,
    entry, later, cut, -, refused⟩
  · obtain ⟨entries, compatible⟩ := next
    obtain rfl : entries = table.entries := all
    exact isNext
  · obtain ⟨other, listed, clash⟩ := refused.exists_clash
    have compatible := table.compatible
    rw [cut] at compatible
    exact absurd ((List.pairwise_append.1 compatible).2.2 other listed entry List.mem_cons_self)
      clash

/-- From a list of entries either their dictionary is built, in both directions, or the
first entry that clashes with an earlier one is refused. -/
theorem dictionary_or_refusal (entries : List Entry) :
    (∃ table, ofEntries entries = .ok table ∧ entries.Pairwise Entry.Compatible ∧
        table.IsDictionaryOf entries) ∨
      ∃ conflict, ofEntries entries = .error conflict ∧
        ∃ earlier entry later, entries = earlier ++ entry :: later ∧
          earlier.Pairwise Entry.Compatible ∧ entry.IsRefused earlier conflict.message := by
  rcases foldlM_extend entries empty with ⟨table, isTable, all⟩ | refusal
  · have same : table.entries = entries := all
    refine .inl ⟨table, isTable, ?_, ?_⟩
    · rw [← same]
      exact table.compatible
    · rw [← same]
      exact table.isDictionaryOf_entries
  · exact .inr refusal

/-! ## Words on both sides -/

/-- A word that stands on both sides has them in a single entry. -/
theorem isSurface_and_isTarget_iff {table : Table} {word : Text} :
    table.isSurface word = true ∧ table.isTarget word = true ↔
      ∃ entry ∈ table.entries, entry.surface = word ∧ entry.target = word := by
  rw [isSurface_iff, isTarget_iff]
  constructor
  · rintro ⟨⟨first, listed, rfl⟩, second, member, same⟩
    obtain rfl := table.eq_of_surface_eq_target listed member same.symm
    exact ⟨first, listed, rfl, same⟩
  · rintro ⟨entry, listed, isSurface, isTarget⟩
    exact ⟨⟨entry, listed, isSurface⟩, entry, listed, isTarget⟩

/-- In a table that is built from a list, a word stands on both sides exactly if one entry
of the list has it on both sides. So the two sides share no word if and only if every entry
has two different words. -/
theorem bothSides_iff {entries : List Entry} {table : Table}
    (accepted : ofEntries entries = .ok table) :
    (∀ word, table.isSurface word = true ∧ table.isTarget word = true ↔
        ∃ entry ∈ entries, entry.surface = word ∧ entry.target = word) ∧
      (table.surfaces.Disjoint table.targets ↔
        ∀ entry ∈ entries, entry.surface ≠ entry.target) := by
  obtain rfl := entries_of_ofEntries accepted
  refine ⟨fun word => isSurface_and_isTarget_iff, fun apart entry listed same => ?_,
    fun apart word isSurface isTarget => ?_⟩
  · have isTarget : entry.surface ∈ table.targets := List.mem_map.2 ⟨entry, listed, same.symm⟩
    exact apart (List.mem_map_of_mem listed) isTarget
  · have both : table.isSurface word = true ∧ table.isTarget word = true :=
      ⟨List.contains_iff_mem.2 isSurface, List.contains_iff_mem.2 isTarget⟩
    obtain ⟨entry, listed, rfl, same⟩ := isSurface_and_isTarget_iff.1 both
    exact apart entry listed same.symm

/-- A table with a keyword that both languages share. -/
def loanWords : Table :=
  ⟨[⟨"ukuba", "if", "if / when", "control", none⟩,
    ⟨"print", "print", "write", "function", none⟩], by decide +kernel⟩

theorem bothSides_loanWords :
    ofEntries loanWords.entries = .ok loanWords ∧
      (loanWords.isSurface "print" = true ∧ loanWords.isTarget "print" = true) ∧
      ¬ (loanWords.isSurface "if" = true ∧ loanWords.isTarget "if" = true) ∧
      ¬ loanWords.surfaces.Disjoint loanWords.targets := by
  have accepted := ofEntries_entries loanWords
  obtain ⟨both, disjoint⟩ := bothSides_iff accepted
  refine ⟨accepted, (both "print").2 ?_, fun isBoth => ?_, fun apart => ?_⟩
  · exact ⟨⟨"print", "print", "write", "function", none⟩, by decide +kernel, rfl, rfl⟩
  · exact absurd ((both "if").1 isBoth) (by decide +kernel)
  · exact absurd (disjoint.1 apart) (by decide +kernel)

/-- An accepted list of entries may put a word on both sides. -/
theorem exists_word_on_bothSides :
    ∃ table, ofEntries [⟨"x", "x", [], [], none⟩] = .ok table ∧
      table.isSurface "x" = true ∧ table.isTarget "x" = true ∧
      ¬ table.surfaces.Disjoint table.targets := by
  have accepted := ofEntries_entries ⟨[⟨"x", "x", [], [], none⟩], List.pairwise_singleton _ _⟩
  refine ⟨_, accepted, by decide, by decide, fun apart => ?_⟩
  exact apart (a := "x".toList) (by decide) (by decide)

end Table

end KeywordBridge
