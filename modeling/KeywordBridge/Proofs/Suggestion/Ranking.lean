import KeywordBridge.Keyword.Default
import KeywordBridge.Proofs.Suggestion.Definitions
import KeywordBridge.Proofs.Text.CharacterClass
import KeywordBridge.Proofs.Token.CodeRuns
import KeywordBridge.Suggestion.Completion
import Mathlib.Algebra.Order.Ring.Int
import Mathlib.Data.Char
import Mathlib.Data.List.DropRight
import Mathlib.Data.List.Lex
import Mathlib.Data.List.Nodup
import Mathlib.Data.Prod.Lex

/-!
# Which suggestions are listed, and in which order

What has been typed of a name selects labels: those that the program defines, and the
fixed ones that it does not define itself. There is one suggestion for each of them, the
program's own where there is one. They are listed by priority, then by their labels
regardless of case, and at last by the labels as they are. Since the labels differ, this
order is strict, and no fixed suggestion comes in front of a name of the program.
-/

namespace KeywordBridge

/-! ## What has been typed of a name -/

namespace Text

/-- The last word of the text, which goes on up to its end, is some decimal digits and
then the name, which does not start with one. -/
def EndsWithName (text name : Text) : Prop :=
  ∃ front digits, text = front ++ (digits ++ name) ∧ isWordSide front.getLast? = false ∧
    (∀ c ∈ digits, isDecimalDigit c = true) ∧ (∀ c ∈ name, isWordChar c = true) ∧
    ∀ c ∈ name.head?, isDecimalDigit c = false

theorem lastName_eq (text : Text) :
    text.lastName = (text.rtakeWhile isWordChar).dropWhile isDecimalDigit :=
  rfl

theorem endsWithName_lastName (text : Text) : text.EndsWithName text.lastName := by
  have split := List.rdropWhile_append_rtakeWhile (p := isWordChar) (l := text)
  have run := (text.rtakeWhile isWordChar).takeWhile_append_dropWhile (p := isDecimalDigit)
  refine ⟨text.rdropWhile isWordChar, (text.rtakeWhile isWordChar).takeWhile isDecimalDigit,
    ?_, ?_, ?_, ?_, ?_⟩
  · rw [lastName_eq, run, split]
  · rw [List.rdropWhile, List.getLast?_reverse]
    exact isWordSide_head?_dropWhile _
  · exact fun c member => List.mem_takeWhile_imp member
  · intro c member
    exact List.mem_rtakeWhile_imp ((List.dropWhile_sublist _).subset member)
  · exact head?_dropWhile_eq_false _

end Text

namespace Suggestion

/-! ## The order of suggestions -/

/-- What decides the place of a suggestion: the priority, the higher the further to the
front, then the label regardless of case, then the label. -/
def rank (suggestion : Suggestion) : ℤ ×ₗ Text ×ₗ Text :=
  toLex (-(suggestion.priority : ℤ), toLex (foldCase suggestion.label, suggestion.label))

/-- Suggestions are ordered as their ranks. -/
theorem le_iff {first second : Suggestion} :
    le first second = true ↔ first.rank ≤ second.rank := by
  unfold le rank
  rw [Prod.Lex.toLex_le_toLex, Prod.Lex.toLex_le_toLex]
  split
  · rename_i other
    simp [other]
  · rename_i samePriority
    rw [ne_eq, Decidable.not_not] at samePriority
    split
    · rename_i otherFolded
      simp [samePriority, otherFolded]
    · rename_i sameFolded
      rw [ne_eq, Decidable.not_not] at sameFolded
      simp [samePriority, sameFolded]

theorem le_trans (first second third : Suggestion) (below : le first second = true)
    (above : le second third = true) : le first third = true := by
  rw [le_iff] at *
  exact below.trans above

theorem le_total (first second : Suggestion) : (le first second || le second first) = true := by
  rw [Bool.or_eq_true, le_iff, le_iff]
  exact LinearOrder.le_total _ _

/-- Suggestions in order with different labels are in strict order. -/
theorem rank_lt_of_le {first second : Suggestion} (ordered : le first second = true)
    (differ : first.label ≠ second.label) : first.rank < second.rank := by
  refine lt_of_le_of_ne (le_iff.1 ordered) fun same => differ ?_
  exact congrArg (fun rank => (ofLex (ofLex rank).2).2) same

theorem priority_le_of_le {first second : Suggestion} (ordered : le first second = true) :
    second.priority ≤ first.priority := by
  rw [le_iff, rank, rank, Prod.Lex.toLex_le_toLex] at ordered
  omega

end Suggestion

namespace Table

open Suggestion

variable (table : Table)

/-! ## What is listed -/

/-- The labels that a program offers where a name has been typed so far: those that it
defines, then the fixed ones that it does not define, as far as they go on with the name
regardless of case. -/
def labelsFor (program typed : Text) : List Text :=
  let own := labels (table.definitions program)
  (own ++ (labels table.staticSuggestions).filter (!own.contains ·)).filter fun label =>
    (foldCase typed).isPrefixOf (foldCase label)

/-- The suggestions for a program where a name has been typed so far, in their order. -/
def ranked (program typed : Text) : List Suggestion :=
  ((table.allSuggestions program).filter fun suggestion =>
    (foldCase typed).isPrefixOf (foldCase suggestion.label)).mergeSort Suggestion.le

theorem complete_eq {program : Text} {cursor : Option (Int × Int)}
    (visible : table.isQuiet (Place.ofCursor program cursor) = false) (limit : Int) :
    table.complete limit program cursor =
      Text.takeInt limit (table.ranked program (Place.ofCursor program cursor).typed) := by
  rw [complete, visible]
  rfl

theorem labels_allSuggestions (program : Text) :
    labels (table.allSuggestions program) =
      labels (table.definitions program) ++
        (labels table.staticSuggestions).filter
          (!(labels (table.definitions program)).contains ·) := by
  have known (suggestion : Suggestion) :
      (table.definitions program).any (·.label == suggestion.label) =
        (labels (table.definitions program)).contains suggestion.label := by
    rw [Bool.eq_iff_iff]
    simp [labels]
  simp only [allSuggestions, known]
  rw [labels, List.map_append, List.filter_map]
  rfl

/-- There is one suggestion for every label that the program offers. -/
theorem labels_ranked_perm (program typed : Text) :
    (labels (table.ranked program typed)).Perm (table.labelsFor program typed) := by
  have sorted := (List.mergeSort_perm ((table.allSuggestions program).filter fun suggestion =>
    (foldCase typed).isPrefixOf (foldCase suggestion.label)) Suggestion.le).map label
  rw [labelsFor, ← labels_allSuggestions, List.filter_map]
  exact sorted

/-- Either the program defines the label of a suggestion, and the suggestion is its own,
or the suggestion is a fixed one. -/
theorem mem_allSuggestions_iff {program : Text} {suggestion : Suggestion} :
    suggestion ∈ table.allSuggestions program ↔
      suggestion ∈ table.definitions program ∨
        suggestion ∈ table.staticSuggestions ∧
          suggestion.label ∉ labels (table.definitions program) := by
  rw [allSuggestions, List.mem_append, List.mem_filter]
  simp [labels]

variable {table}

theorem mem_allSuggestions_of_mem_ranked {program typed : Text} {suggestion : Suggestion}
    (member : suggestion ∈ table.ranked program typed) :
    suggestion ∈ table.allSuggestions program :=
  (List.mem_filter.1 (List.mem_mergeSort.1 member)).1

/-- A limit that is large enough for all suggestions cuts off none of those listed. -/
theorem complete_eq_ranked {program : Text} {cursor : Option (Int × Int)} {limit : Int}
    (visible : table.isQuiet (Place.ofCursor program cursor) = false)
    (large : (table.allSuggestions program).length ≤ limit) :
    table.complete limit program cursor =
      table.ranked program (Place.ofCursor program cursor).typed := by
  have fewer : (table.ranked program (Place.ofCursor program cursor).typed).length ≤
      (table.allSuggestions program).length := by
    rw [ranked, List.length_mergeSort]
    exact List.length_filter_le _ _
  rw [table.complete_eq visible, Text.takeInt_of_length_le (by omega)]

/-- The names of a program have a priority of their own. -/
theorem priority_of_mem_definitions {program : Text} {suggestion : Suggestion}
    (member : suggestion ∈ table.definitions program) :
    suggestion.priority = Origin.program.priority := by
  obtain ⟨-, -, earlier, later, split, -⟩ := table.mem_definitions_iff.1 member
  have introduced : suggestion ∈ table.introduced program := by
    rw [split]
    exact List.mem_append_right earlier List.mem_cons_self
  obtain ⟨line, -, onLine⟩ := List.mem_flatMap.1 introduced
  simp only [introducedOn, List.mem_append, Option.mem_toList, Option.map_eq_some_iff] at onLine
  rcases onLine with (⟨name, -, rfl⟩ | ⟨name, -, rfl⟩) | ⟨name, -, rfl⟩ <;> rfl

theorem priority_of_mem_staticSuggestions {suggestion : Suggestion}
    (member : suggestion ∈ table.staticSuggestions) :
    suggestion.priority < Origin.program.priority := by
  rcases List.mem_append.1 member with keyword | builtin
  · obtain ⟨entry, -, rfl⟩ := List.mem_map.1 keyword
    exact Nat.lt_of_sub_eq_succ rfl
  · have builtins : ∀ suggestion ∈ Suggestion.builtins,
        suggestion.priority < Origin.program.priority := by
      decide
    exact builtins suggestion builtin

theorem pairwise_le_ranked (program typed : Text) :
    (table.ranked program typed).Pairwise fun first second =>
      Suggestion.le first second = true :=
  List.pairwise_mergeSort Suggestion.le_trans Suggestion.le_total _

/-- No fixed suggestion comes in front of a name of the program. -/
theorem pairwise_definitions_ranked (program typed : Text) :
    (table.ranked program typed).Pairwise fun first second =>
      second ∈ table.definitions program → first ∈ table.definitions program := by
  apply (pairwise_le_ranked program typed).imp_of_mem
  intro first second isFirst _ ordered isOwn
  rcases table.mem_allSuggestions_iff.1 (mem_allSuggestions_of_mem_ranked isFirst) with
    own | ⟨fixed, -⟩
  · exact own
  · have lower := priority_of_mem_staticSuggestions fixed
    have higher := Suggestion.priority_le_of_le ordered
    rw [priority_of_mem_definitions isOwn] at higher
    omega

section

variable (distinct : (labels table.staticSuggestions).Nodup)

include distinct

/-- No label is offered twice, if the fixed ones differ. -/
theorem nodup_labelsFor (program typed : Text) : (table.labelsFor program typed).Nodup := by
  apply List.Nodup.filter
  apply (nodup_labels_keepFirst [] _).append (distinct.filter _)
  intro label own fixed
  have listed : (labels (table.definitions program)).contains label = true :=
    List.contains_iff_mem.2 own
  have other := (List.mem_filter.1 fixed).2
  rw [listed] at other
  cases other

theorem nodup_labels_ranked (program typed : Text) :
    (labels (table.ranked program typed)).Nodup :=
  (table.labels_ranked_perm program typed).nodup_iff.2 (nodup_labelsFor distinct program typed)

theorem pairwise_rank_ranked (program typed : Text) :
    (table.ranked program typed).Pairwise fun first second => first.rank < second.rank := by
  have differ := List.pairwise_map.1 (nodup_labels_ranked distinct program typed)
  exact (pairwise_le_ranked program typed).imp₂ (fun _ _ => rank_lt_of_le) differ

end

theorem default_labels_nodup : (labels default.staticSuggestions).Nodup := by
  decide +kernel

/-- For the keywords of the project, every program and every place that does not look like
one in a string or a comment: there is exactly one suggestion for each label that the
program offers for the name that ends in front of the place, and it is the program's own
where the program defines the label. The suggestions rise strictly by rank, no fixed one
precedes one of the program, and what is listed is as many of the first as there may be. -/
theorem completion_ranking {program : Text} {cursor : Option (Int × Int)}
    (visible : default.isQuiet (Place.ofCursor program cursor) = false) :
    let place := Place.ofCursor program cursor
    place.before.EndsWithName place.typed ∧
      ∃ suggestions : List Suggestion,
        (labels suggestions).Perm (default.labelsFor program place.typed) ∧
        (labels suggestions).Nodup ∧
        (∀ suggestion ∈ suggestions, suggestion ∈ default.definitions program ∨
          suggestion ∈ default.staticSuggestions ∧
            suggestion.label ∉ labels (default.definitions program)) ∧
        suggestions.Pairwise (fun first second => first.rank < second.rank) ∧
        suggestions.Pairwise (fun first second =>
          second ∈ default.definitions program → first ∈ default.definitions program) ∧
        ∀ limit : Nat, default.complete limit program cursor = suggestions.take limit := by
  intro place
  refine ⟨place.before.endsWithName_lastName, default.ranked program place.typed,
    default.labels_ranked_perm program place.typed,
    nodup_labels_ranked default_labels_nodup program place.typed, ?_,
    pairwise_rank_ranked default_labels_nodup program place.typed,
    pairwise_definitions_ranked program place.typed, fun limit => ?_⟩
  · intro suggestion member
    exact default.mem_allSuggestions_iff.1 (mem_allSuggestions_of_mem_ranked member)
  · rw [default.complete_eq visible, Text.takeInt, if_neg (by omega), Int.natAbs_natCast]

/-- A capital letter makes no difference to what has been typed, but the built-in function
is not shadowed by a name that differs from it in a letter. -/
theorem completion_ranking_capital :
    let program : Text := "Print = 1\nphaka = 2\nx = 2p"
    default.isQuiet (Place.ofCursor program none) = false ∧
      Text.EndsWithName "x = 2p" "p" ∧
      ∃ suggestions : List Suggestion,
        (labels suggestions).Perm ["Print", "phaka", "phakamisa", "print"] ∧
        suggestions.Pairwise (fun first second => first.rank < second.rank) ∧
        ∀ limit : Nat, default.complete limit program none = suggestions.take limit := by
  intro program
  have visible : default.isQuiet (Place.ofCursor program none) = false := by decide +kernel
  obtain ⟨typed, suggestions, offered, -, -, rising, -, listed⟩ := completion_ranking visible
  have name : (Place.ofCursor program none).typed = "p" := by decide +kernel
  have own : labels (default.definitions program) = (["Print", "phaka", "x"] : List Text) := by
    decide +kernel
  have offers : default.labelsFor program "p" =
      (["Print", "phaka", "phakamisa", "print"] : List Text) := by
    rw [labelsFor, own]
    decide +kernel
  rw [name] at typed offered
  rw [offers] at offered
  exact ⟨visible, typed, suggestions, offered, rising, listed⟩

end Table

end KeywordBridge
