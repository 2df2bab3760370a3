import KeywordBridge.Diagnostic.Basic
import KeywordBridge.Proofs.Text.WordRuns

/-!
# Sorting diagnostics

Diagnostics are sorted by line, column and code, and those that agree in all three
keep their order. So sorting puts an element where the sorted others stop to come
before it, and lists none of whose elements comes before one of an earlier list are
sorted one by one.
-/

namespace KeywordBridge

section

variable {α : Type} {le : α → α → Bool}
  (trans : ∀ first second third, le first second = true → le second third = true →
    le first third = true)
  (total : ∀ first second, (le first second || le second first) = true)

include trans total

/-- An element is put behind those that it does not come before. -/
theorem mergeSort_cons_eq (item : α) (items : List α) :
    (item :: items).mergeSort le =
      (items.mergeSort le).takeWhile (fun other => !le item other)
        ++ item :: (items.mergeSort le).dropWhile fun other => !le item other := by
  obtain ⟨front, back, whole, others, passed⟩ := List.mergeSort_cons trans total item items
  have sorted := List.pairwise_mergeSort trans total (item :: items)
  rw [whole, List.pairwise_append] at sorted
  have stops : ∀ other ∈ back, (!le item other) = false := by
    intro other member
    rw [(List.pairwise_cons.1 sorted.2.1).1 other member, Bool.not_true]
  rw [whole, others, takeWhile_append_of_stops stops, dropWhile_append_of_stops stops,
    List.takeWhile_eq_self_iff.2 passed, List.dropWhile_eq_nil_iff.2 passed, List.nil_append]

/-- Lists that come one before the other are sorted one by one. -/
theorem mergeSort_append {first second : List α}
    (apart : ∀ item ∈ first, ∀ other ∈ second, le item other = true) :
    (first ++ second).mergeSort le = first.mergeSort le ++ second.mergeSort le := by
  induction first with
  | nil => rw [List.nil_append, List.mergeSort_nil, List.nil_append]
  | cons item items ih =>
      rw [List.forall_mem_cons] at apart
      have stops : ∀ other ∈ second.mergeSort le, (!le item other) = false := by
        intro other member
        rw [apart.1 other (List.mem_mergeSort.1 member), Bool.not_true]
      rw [List.cons_append, mergeSort_cons_eq trans total, mergeSort_cons_eq trans total,
        ih apart.2, takeWhile_append_of_stops stops, dropWhile_append_of_stops stops,
        List.append_assoc, List.cons_append]

/-- What is kept of a list in its order is kept of the sorted list in this order. -/
theorem filter_mergeSort {items : List α} {p : α → Bool}
    (sorted : (items.filter p).Pairwise fun first second => le first second = true) :
    (items.mergeSort le).filter p = items.filter p := by
  have inside : (items.filter p).Sublist (items.mergeSort le) :=
    List.sublist_mergeSort trans total sorted List.filter_sublist
  have kept := inside.filter p
  simp only [List.filter_filter, Bool.and_self] at kept
  apply Eq.symm
  apply kept.eq_of_length
  exact ((List.mergeSort_perm items le).filter p).length_eq.symm

end

namespace Diagnostic

/-- The order compares lines, then columns, then the numbers of the problems. -/
theorem le_iff {first second : Diagnostic} :
    le first second = true ↔
      first.line < second.line ∨ first.line = second.line ∧
        (first.column < second.column ∨ first.column = second.column ∧
          first.problem.number ≤ second.problem.number) := by
  unfold le
  split
  · rw [decide_eq_true_iff]
    omega
  · split
    · rw [decide_eq_true_iff]
      omega
    · rw [decide_eq_true_iff]
      omega

theorem le_trans (first second third : Diagnostic) (below : le first second = true)
    (above : le second third = true) : le first third = true := by
  rw [le_iff] at *
  omega

theorem le_total (first second : Diagnostic) : (le first second || le second first) = true := by
  rw [Bool.or_eq_true, le_iff, le_iff]
  omega

/-- A diagnostic of an earlier line comes first. -/
theorem le_of_line_lt {first second : Diagnostic} (above : first.line < second.line) :
    le first second = true :=
  le_iff.2 (.inl above)

end Diagnostic

end KeywordBridge
