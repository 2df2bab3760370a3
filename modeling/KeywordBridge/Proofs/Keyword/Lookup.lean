import KeywordBridge.Translation
import Mathlib.Data.List.Pairwise

/-!
# Looking up keywords

No two entries of a table share a word on either side, so the entry that is found
under a word is the only one with that word. Hence the counterpart of a surface
keyword leads back to it, and so does the counterpart of a target keyword.
-/

namespace KeywordBridge

/-- Where no two entries have the same key, each is found under its own. -/
theorem find?_key_of_mem {key : Entry → Text} {entries : List Entry}
    (distinct : entries.Pairwise fun first second => key first ≠ key second)
    {entry : Entry} (listed : entry ∈ entries) :
    entries.find? (key · == key entry) = some entry := by
  induction entries with
  | nil => simp at listed
  | cons first others ih =>
      obtain ⟨apart, distinct⟩ := List.pairwise_cons.1 distinct
      rcases List.mem_cons.1 listed with rfl | later
      · exact List.find?_cons_of_pos (beq_self_eq_true _)
      · rw [List.find?_cons_of_neg]
        · exact ih distinct later
        · simpa using apart entry later

/-- An entry is found under its own key and under no other. -/
theorem find?_key_eq_some_iff {key : Entry → Text} {entries : List Entry}
    (distinct : entries.Pairwise fun first second => key first ≠ key second) {word : Text}
    {entry : Entry} :
    entries.find? (key · == word) = some entry ↔ entry ∈ entries ∧ key entry = word := by
  constructor
  · intro found
    exact ⟨List.mem_of_find?_eq_some found, by simpa using List.find?_some found⟩
  · rintro ⟨listed, rfl⟩
    exact find?_key_of_mem distinct listed

instance : Std.Symm Entry.Compatible where
  symm _ _ apart := ⟨apart.1.symm, apart.2.1.symm, apart.2.2.2.symm, apart.2.2.1.symm⟩

namespace Table

theorem bySurface?_eq_some_iff {table : Table} {word : Text} {entry : Entry} :
    table.bySurface? word = some entry ↔ entry ∈ table.entries ∧ entry.surface = word :=
  find?_key_eq_some_iff (table.compatible.imp fun apart => apart.1)

theorem byTarget?_eq_some_iff {table : Table} {word : Text} {entry : Entry} :
    table.byTarget? word = some entry ↔ entry ∈ table.entries ∧ entry.target = word :=
  find?_key_eq_some_iff (table.compatible.imp fun apart => apart.2.1)

theorem targetFor?_eq_some_iff {table : Table} {surface target : Text} :
    table.targetFor? surface = some target ↔
      ∃ entry ∈ table.entries, entry.surface = surface ∧ entry.target = target := by
  simp only [targetFor?, Option.map_eq_some_iff, bySurface?_eq_some_iff, and_assoc]

theorem surfaceFor?_eq_some_iff {table : Table} {surface target : Text} :
    table.surfaceFor? target = some surface ↔
      ∃ entry ∈ table.entries, entry.surface = surface ∧ entry.target = target := by
  simp only [surfaceFor?, Option.map_eq_some_iff, byTarget?_eq_some_iff]
  refine exists_congr fun entry => ⟨?_, ?_⟩
  · rintro ⟨⟨listed, isTarget⟩, isSurface⟩
    exact ⟨listed, isSurface, isTarget⟩
  · rintro ⟨listed, isSurface, isTarget⟩
    exact ⟨⟨listed, isTarget⟩, isSurface⟩

theorem targetFor?_surface (table : Table) {entry : Entry} (listed : entry ∈ table.entries) :
    table.targetFor? entry.surface = some entry.target :=
  targetFor?_eq_some_iff.2 ⟨entry, listed, rfl, rfl⟩

theorem surfaceFor?_target (table : Table) {entry : Entry} (listed : entry ∈ table.entries) :
    table.surfaceFor? entry.target = some entry.surface :=
  surfaceFor?_eq_some_iff.2 ⟨entry, listed, rfl, rfl⟩

theorem forwardWord_eq_target (table : Table) {entry : Entry} (listed : entry ∈ table.entries) :
    table.forwardWord entry.surface = entry.target := by
  rw [forwardWord, table.targetFor?_surface listed, Option.getD_some]

theorem reverseWord_eq_surface (table : Table) {entry : Entry}
    (listed : entry ∈ table.entries) : table.reverseWord entry.target = entry.surface := by
  rw [reverseWord, table.surfaceFor?_target listed, Option.getD_some]

/-- The counterpart of a surface keyword is a target keyword and leads back. -/
theorem forwardWord_of_mem_surfaces (table : Table) {word : Text}
    (listed : word ∈ table.surfaces) :
    table.forwardWord word ∈ table.targets ∧
      table.reverseWord (table.forwardWord word) = word := by
  obtain ⟨entry, member, rfl⟩ := List.mem_map.1 listed
  rw [table.forwardWord_eq_target member, table.reverseWord_eq_surface member]
  exact ⟨List.mem_map_of_mem member, rfl⟩

/-- A word that one entry has as its surface keyword and one as its target keyword belongs
to a single entry. -/
theorem eq_of_surface_eq_target (table : Table) {first second : Entry}
    (listed : first ∈ table.entries) (member : second ∈ table.entries)
    (same : first.surface = second.target) : first = second := by
  by_contra apart
  obtain ⟨-, -, -, noWord⟩ := table.compatible.forall listed member apart
  exact noWord same

/-- A target keyword has no other target keyword as its counterpart. -/
theorem forwardWord_of_mem_targets (table : Table) {word : Text}
    (listed : word ∈ table.targets) : table.forwardWord word = word := by
  obtain ⟨entry, member, rfl⟩ := List.mem_map.1 listed
  cases found : table.bySurface? entry.target with
  | none => rw [forwardWord, targetFor?, found, Option.map_none, Option.getD_none]
  | some other =>
      obtain ⟨isOther, shared⟩ := bySurface?_eq_some_iff.1 found
      rw [forwardWord, targetFor?, found, Option.map_some, Option.getD_some,
        table.eq_of_surface_eq_target isOther member shared]

/-- The counterpart of a target keyword is a surface keyword and leads back. -/
theorem reverseWord_of_mem_targets (table : Table) {word : Text}
    (listed : word ∈ table.targets) :
    table.reverseWord word ∈ table.surfaces ∧
      table.forwardWord (table.reverseWord word) = word := by
  obtain ⟨entry, member, rfl⟩ := List.mem_map.1 listed
  rw [table.reverseWord_eq_surface member, table.forwardWord_eq_target member]
  exact ⟨List.mem_map_of_mem member, rfl⟩

end Table

end KeywordBridge
