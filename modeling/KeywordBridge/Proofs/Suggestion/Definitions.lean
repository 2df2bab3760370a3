import KeywordBridge.Keyword.Default
import KeywordBridge.Proofs.Text.Lines
import KeywordBridge.Suggestion.Definitions

/-!
# The names of a program, part by part

Names are collected from above, and a name that was introduced before is passed over, in
whatever form it appears again. So the names of a program are those of its upper part,
followed by those of the lower part that are new, and each of them appears as it was
introduced first. A keyword is passed over everywhere, which does not depend on what was
seen before it.
-/

namespace KeywordBridge

namespace Suggestion

/-- The labels of suggestions. -/
abbrev labels (suggestions : List Suggestion) : List Text :=
  suggestions.map label

section

variable {seen : List Text} {suggestion : Suggestion} (rest : List Suggestion)

theorem keepFirst_of_mem (known : suggestion.label ∈ seen) :
    keepFirst seen (suggestion :: rest) = keepFirst seen rest := by
  rw [keepFirst, if_pos (List.contains_iff_mem.2 known)]

theorem keepFirst_of_not_mem (isNew : suggestion.label ∉ seen) :
    keepFirst seen (suggestion :: rest) =
      suggestion :: keepFirst (suggestion.label :: seen) rest := by
  rw [keepFirst, if_neg (List.contains_iff_mem.not.2 isNew)]

end

/-- Of the labels seen before, only those matter that occur again. -/
theorem keepFirst_congr {seen others : List Text} {suggestions : List Suggestion}
    (same : ∀ suggestion ∈ suggestions, suggestion.label ∈ seen ↔ suggestion.label ∈ others) :
    keepFirst seen suggestions = keepFirst others suggestions := by
  induction suggestions generalizing seen others with
  | nil => rfl
  | cons first rest ih =>
      rw [List.forall_mem_cons] at same
      by_cases known : first.label ∈ seen
      · rw [keepFirst_of_mem rest known, keepFirst_of_mem rest (same.1.1 known), ih same.2]
      · rw [keepFirst_of_not_mem rest known, keepFirst_of_not_mem rest (same.1.not.1 known)]
        congr 1
        apply ih
        intro suggestion member
        rw [List.mem_cons, List.mem_cons, same.2 suggestion member]

/-- Labels are left out before or after looking for the first ones. -/
theorem keepFirst_filter (p : Text → Bool) (seen : List Text) (suggestions : List Suggestion) :
    keepFirst seen (suggestions.filter fun suggestion => p suggestion.label) =
      (keepFirst seen suggestions).filter fun suggestion => p suggestion.label := by
  induction suggestions generalizing seen with
  | nil => rfl
  | cons first rest ih =>
      by_cases known : first.label ∈ seen
      · rw [keepFirst_of_mem rest known, ← ih, List.filter_cons]
        split
        · rw [keepFirst_of_mem _ known]
        · rfl
      · rw [keepFirst_of_not_mem rest known, List.filter_cons, List.filter_cons]
        by_cases kept : p first.label = true
        · rw [if_pos kept, if_pos kept, keepFirst_of_not_mem _ known, ih]
        · rw [if_neg kept, if_neg kept, ← ih]
          apply keepFirst_congr
          intro suggestion member
          -- The label that is left out does not occur among those that are kept.
          have other : suggestion.label ≠ first.label := by
            intro same
            rw [← same] at kept
            exact kept (List.mem_filter.1 member).2
          rw [List.mem_cons, or_iff_right other]

/-- Labels seen before are left out of what is found without them. -/
theorem keepFirst_append_seen (known seen : List Text) (suggestions : List Suggestion) :
    keepFirst (known ++ seen) suggestions =
      (keepFirst seen suggestions).filter (·.label ∉ known) := by
  rw [← keepFirst_filter (· ∉ known)]
  induction suggestions generalizing seen with
  | nil => rfl
  | cons first rest ih =>
      by_cases inKnown : first.label ∈ known
      · rw [keepFirst_of_mem rest (List.mem_append_left seen inKnown), ih,
          List.filter_cons_of_neg (by simpa using inKnown)]
      · rw [List.filter_cons_of_pos (by simpa using inKnown)]
        by_cases inSeen : first.label ∈ seen
        · rw [keepFirst_of_mem rest (List.mem_append_right known inSeen), ih,
            keepFirst_of_mem _ inSeen]
        · have isNew : first.label ∉ known ++ seen := by
            rw [List.mem_append, not_or]
            exact ⟨inKnown, inSeen⟩
          rw [keepFirst_of_not_mem rest isNew, keepFirst_of_not_mem _ inSeen, ← ih]
          congr 1
          apply keepFirst_congr
          intro suggestion _
          simp only [List.mem_cons, List.mem_append]
          exact or_left_comm

/-- What comes first is kept as if nothing followed, and its labels are known behind it. -/
theorem keepFirst_append (seen : List Text) (first second : List Suggestion) :
    keepFirst seen (first ++ second) =
      keepFirst seen first ++ keepFirst (labels (keepFirst seen first) ++ seen) second := by
  induction first generalizing seen with
  | nil => rfl
  | cons suggestion rest ih =>
      by_cases known : suggestion.label ∈ seen
      · rw [List.cons_append, keepFirst_of_mem _ known, keepFirst_of_mem _ known, ih]
      · rw [List.cons_append, keepFirst_of_not_mem _ known, keepFirst_of_not_mem _ known, ih,
          List.cons_append]
        congr 2
        apply keepFirst_congr
        intro other _
        simp only [labels, List.map_cons, List.mem_cons, List.mem_append]
        rw [or_left_comm, or_assoc]

/-- An item of a list is the first one, or it stands behind the first one. -/
theorem exists_split_cons {α : Type} {P : List α → Prop} {first item : α} {rest : List α} :
    (∃ front back, first :: rest = front ++ item :: back ∧ P front) ↔
      item = first ∧ P [] ∨
        ∃ front back, rest = front ++ item :: back ∧ P (first :: front) := by
  constructor
  · rintro ⟨front, back, split, holds⟩
    cases front with
    | nil =>
        obtain ⟨rfl, -⟩ := List.cons.inj split
        exact .inl ⟨rfl, holds⟩
    | cons other front =>
        obtain ⟨rfl, behind⟩ := List.cons.inj split
        exact .inr ⟨front, back, behind, holds⟩
  · rintro (⟨rfl, holds⟩ | ⟨front, back, rfl, holds⟩)
    · exact ⟨[], rest, rfl, holds⟩
    · exact ⟨first :: front, back, rfl, holds⟩

/-- Exactly the suggestions are kept whose labels neither were seen before nor occur
further to the front. -/
theorem mem_keepFirst_iff {seen : List Text} {suggestions : List Suggestion}
    {suggestion : Suggestion} :
    suggestion ∈ keepFirst seen suggestions ↔
      suggestion.label ∉ seen ∧ ∃ front back, suggestions = front ++ suggestion :: back ∧
        suggestion.label ∉ labels front := by
  induction suggestions generalizing seen with
  | nil => simp [keepFirst]
  | cons first rest ih =>
      rw [exists_split_cons]
      simp only [labels, List.map_cons, List.map_nil, List.mem_cons, List.not_mem_nil, not_or,
        not_false_eq_true, and_true]
      by_cases known : first.label ∈ seen
      · rw [keepFirst_of_mem rest known, ih]
        constructor
        · rintro ⟨isNew, front, back, split, unseen⟩
          refine ⟨isNew, .inr ⟨front, back, split, ?_, unseen⟩⟩
          rintro same
          exact isNew (same ▸ known)
        · rintro ⟨isNew, rfl | ⟨front, back, split, -, unseen⟩⟩
          · exact absurd known isNew
          · exact ⟨isNew, front, back, split, unseen⟩
      · rw [keepFirst_of_not_mem rest known, List.mem_cons, ih]
        constructor
        · rintro (rfl | ⟨isNew, front, back, split, unseen⟩)
          · exact ⟨known, .inl rfl⟩
          · rw [List.mem_cons, not_or] at isNew
            exact ⟨isNew.2, .inr ⟨front, back, split, isNew.1, unseen⟩⟩
        · rintro ⟨isNew, rfl | ⟨front, back, split, other, unseen⟩⟩
          · exact .inl rfl
          · refine .inr ⟨?_, front, back, split, unseen⟩
            rw [List.mem_cons, not_or]
            exact ⟨other, isNew⟩

/-- No label is kept twice. -/
theorem nodup_labels_keepFirst (seen : List Text) (suggestions : List Suggestion) :
    (labels (keepFirst seen suggestions)).Nodup := by
  induction suggestions generalizing seen with
  | nil => exact .nil
  | cons first rest ih =>
      by_cases known : first.label ∈ seen
      · rw [keepFirst_of_mem rest known]
        exact ih seen
      · rw [keepFirst_of_not_mem rest known, labels, List.map_cons, List.nodup_cons]
        refine ⟨fun again => ?_, ih _⟩
        obtain ⟨suggestion, member, same⟩ := List.mem_map.1 again
        have isNew := (mem_keepFirst_iff.1 member).1
        rw [same] at isNew
        exact isNew List.mem_cons_self

end Suggestion

namespace Table

open Suggestion

variable (table : Table)

/-- The names that the lines of a program introduce one after the other, keywords and
repetitions included. -/
def introduced (program : Text) : List Suggestion :=
  program.lines.flatMap table.introducedOn

theorem introduced_append (upper lower : Text) :
    table.introduced (upper ++ '\n' :: lower) =
      table.introduced upper ++ table.introduced lower := by
  rw [introduced, Text.lines_append_newline, List.flatMap_append]
  rfl

/-- Keywords are passed over before or after looking for the first introductions. -/
theorem definitions_eq_filter (program : Text) :
    table.definitions program =
      (keepFirst [] (table.introduced program)).filter (!table.isReserved ·.label) :=
  keepFirst_filter (!table.isReserved ·) [] (table.introduced program)

/-- The names of a program are those of its upper part, followed by the new ones of its
lower part. -/
theorem definitions_append (upper lower : Text) :
    table.definitions (upper ++ '\n' :: lower) =
      table.definitions upper ++
        (table.definitions lower).filter (·.label ∉ labels (table.definitions upper)) := by
  have whole (program : Text) : table.definitions program =
      keepFirst [] ((table.introduced program).filter (!table.isReserved ·.label)) := rfl
  rw [whole, introduced_append, List.filter_append, keepFirst_append, ← whole,
    keepFirst_append_seen, ← whole]

theorem isReserved_eq_false {word : Text} :
    table.isReserved word = false ↔ word ∉ table.surfaces ∧ word ∉ table.targets := by
  simp [isReserved, isSurface, isTarget]

/-- A name of a program is no keyword, and it is offered in the form in which the program
introduces it first. -/
theorem mem_definitions_iff {program : Text} {suggestion : Suggestion} :
    suggestion ∈ table.definitions program ↔
      suggestion.label ∉ table.surfaces ∧ suggestion.label ∉ table.targets ∧
        ∃ earlier later, table.introduced program = earlier ++ suggestion :: later ∧
          suggestion.label ∉ labels earlier := by
  rw [definitions_eq_filter, List.mem_filter, mem_keepFirst_iff, Bool.not_eq_true',
    isReserved_eq_false, and_comm, and_assoc]
  simp only [List.not_mem_nil, not_false_eq_true, true_and]

/-- For every table, the names of a program are those of its upper part, followed by those
of its lower part whose labels are new. No label is offered twice, none is a keyword of
either side, and what is offered of a label is its first introduction. -/
theorem definitions_incremental :
    (∀ upper lower, table.definitions (upper ++ '\n' :: lower) =
        table.definitions upper ++
          (table.definitions lower).filter (·.label ∉ labels (table.definitions upper))) ∧
      ∀ program, (labels (table.definitions program)).Nodup ∧
        (∀ suggestion ∈ table.definitions program,
          suggestion.label ∉ table.surfaces ∧ suggestion.label ∉ table.targets) ∧
        ∀ suggestion, suggestion ∈ table.definitions program ↔
          suggestion.label ∉ table.surfaces ∧ suggestion.label ∉ table.targets ∧
            ∃ earlier later, program.lines.flatMap table.introducedOn =
                earlier ++ suggestion :: later ∧
              suggestion.label ∉ labels earlier := by
  refine ⟨table.definitions_append, fun program => ⟨nodup_labels_keepFirst [] _, ?_,
    fun suggestion => table.mem_definitions_iff⟩⟩
  intro suggestion member
  obtain ⟨noSurface, noTarget, -⟩ := table.mem_definitions_iff.1 member
  exact ⟨noSurface, noTarget⟩

/-- A variable and a class of the upper part stay what they are, although the lower part
introduces their names again. -/
theorem definitions_incremental_again :
    let upper : Text := "x = 1\niklasi Inja:"
    let lower : Text := "chaza x():\nInja = 2\ny = 3\nukuba = 4"
    default.definitions (upper ++ '\n' :: lower) =
        default.definitions upper ++ [ofVariable "y"] ∧
      ofVariable "x" ∈ default.definitions (upper ++ '\n' :: lower) := by
  intro upper lower
  obtain ⟨parts, whole⟩ := default.definitions_incremental
  constructor
  · have isNew : (default.definitions lower).filter
        (·.label ∉ labels (default.definitions upper)) = [ofVariable "y"] := by
      decide +kernel
    rw [parts, isNew]
  · obtain ⟨-, -, introduced⟩ := whole (upper ++ '\n' :: lower)
    exact (introduced _).2 ⟨by decide, by decide, [], _, rfl, List.not_mem_nil⟩

end Table

end KeywordBridge
