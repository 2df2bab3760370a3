import KeywordBridge.Text.Quoted

/-!
# Keyword tables

A keyword table pairs the words that a student types, the surface keywords, with
the words that the programming language reserves, the target keywords. A table
can be read in both directions, so no surface keyword and no target keyword may
occur twice, and a word of one entry may not stand on the other side of another
entry. A table is built entry by entry, and the first entry that clashes with an
earlier one is reported.
-/

namespace KeywordBridge

/-- One pair of words, with a gloss and a category for listings. A keyword that
opens a block has a snippet, the skeleton of that block. -/
structure Entry where
  surface : Text
  target : Text
  meaning : Text
  category : Text
  snippet : Option Text := none
deriving DecidableEq

namespace Entry

/-- A keyword with a snippet opens a block. -/
def opensBlock (entry : Entry) : Bool :=
  entry.snippet.isSome

/-- Two different entries of one table share no word, on either side. -/
def Compatible (first second : Entry) : Prop :=
  first.surface ≠ second.surface ∧ first.target ≠ second.target ∧
    first.target ≠ second.surface ∧ first.surface ≠ second.target

instance (first second : Entry) : Decidable (Compatible first second) :=
  inferInstanceAs (Decidable (_ ∧ _ ∧ _ ∧ _))

end Entry

/-- Why an entry cannot join a table. -/
inductive TableError where
  /-- The surface keyword already has an entry. -/
  | repeatedSurface (surface : Text)
  /-- The target keyword already belongs to the surface keyword `holder`. -/
  | repeatedTarget (target holder surface : Text)
  /-- One of the words stands on the other side of an earlier entry. -/
  | onBothSides (surface target : Text)
deriving DecidableEq

/-- The wording of a refusal. -/
def TableError.message : TableError → Text
  | .repeatedSurface surface => "duplicate surface keyword: " ++ surface.quoted
  | .repeatedTarget target holder surface =>
      "target keyword " ++ target.quoted ++ " already mapped from " ++ holder.quoted
        ++ "; cannot also map " ++ surface.quoted
  | .onBothSides surface target =>
      "keyword " ++ surface.quoted ++ "/" ++ target.quoted ++ " appears on both sides"

/-- A list of entries that are pairwise compatible. -/
structure Table where
  entries : List Entry
  compatible : entries.Pairwise Entry.Compatible

namespace Table

/-! ## Reading a table -/

/-- The entry of a surface keyword. -/
def bySurface? (table : Table) (word : Text) : Option Entry :=
  table.entries.find? (·.surface == word)

/-- The entry of a target keyword. -/
def byTarget? (table : Table) (word : Text) : Option Entry :=
  table.entries.find? (·.target == word)

/-- The target keyword that a surface keyword stands for. -/
def targetFor? (table : Table) (surface : Text) : Option Text :=
  (table.bySurface? surface).map (·.target)

/-- The surface keyword that stands for a target keyword. -/
def surfaceFor? (table : Table) (target : Text) : Option Text :=
  (table.byTarget? target).map (·.surface)

/-- The entry of a word of either side; the surface side is looked at first. -/
def entry? (table : Table) (word : Text) : Option Entry :=
  table.bySurface? word <|> table.byTarget? word

/-- The surface keywords in the order of the table. -/
def surfaces (table : Table) : List Text :=
  table.entries.map (·.surface)

/-- The target keywords in the order of the table. -/
def targets (table : Table) : List Text :=
  table.entries.map (·.target)

/-- Is the word a surface keyword? -/
def isSurface (table : Table) (word : Text) : Bool :=
  table.surfaces.contains word

/-- Is the word a target keyword? -/
def isTarget (table : Table) (word : Text) : Bool :=
  table.targets.contains word

/-- Is the word a keyword of either side? -/
def isReserved (table : Table) (word : Text) : Bool :=
  table.isSurface word || table.isTarget word

/-! ## Building a table -/

/-- The table without entries. -/
def empty : Table :=
  ⟨[], .nil⟩

/-- The first reason why an entry cannot join the table. -/
def conflict? (table : Table) (entry : Entry) : Option TableError :=
  if table.isSurface entry.surface then some (.repeatedSurface entry.surface)
  else
    match table.byTarget? entry.target with
    | some holder => some (.repeatedTarget entry.target holder.surface entry.surface)
    | none =>
        if table.isTarget entry.surface || table.isSurface entry.target then
          some (.onBothSides entry.surface entry.target)
        else none

/-- Where no conflict is found, the entry is compatible with all entries of the
table. -/
theorem compatible_of_conflict?_eq_none {table : Table} {entry : Entry}
    (free : table.conflict? entry = none) :
    ∀ earlier ∈ table.entries, Entry.Compatible earlier entry := by
  intro earlier listed
  unfold conflict? at free
  split at free
  · simp at free
  · rename_i newSurface
    split at free
    · simp at free
    · rename_i newTarget
      split at free
      · simp at free
      · rename_i apart
        simp only [isSurface, surfaces, isTarget, targets, List.contains_iff_mem, List.mem_map,
          not_exists, not_and, byTarget?, List.find?_eq_none, beq_iff_eq, Bool.or_eq_true,
          not_or] at newSurface newTarget apart
        exact ⟨newSurface _ listed, newTarget _ listed, apart.1 _ listed, apart.2 _ listed⟩

/-- The table with one more entry at its end. -/
def extend (table : Table) (entry : Entry) : Except TableError Table :=
  match found : table.conflict? entry with
  | some conflict => .error conflict
  | none =>
      .ok {
        entries := table.entries ++ [entry]
        compatible := by
          refine List.pairwise_append.2 ⟨table.compatible, List.pairwise_singleton _ _, ?_⟩
          intro earlier listed last isLast
          rw [List.mem_singleton.1 isLast]
          exact compatible_of_conflict?_eq_none found earlier listed }

/-- The table of a list of entries, or the first conflict met while adding them
in order. -/
def ofEntries (entries : List Entry) : Except TableError Table :=
  entries.foldlM extend empty

end Table

end KeywordBridge
