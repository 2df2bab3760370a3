import KeywordBridge.Program.Indentation
import KeywordBridge.Token.Scan

/-!
# Indentation and tab stops

The indentation of a line is counted along its leading blanks. Expanding all tabs of the
line first and counting the spaces at its start gives the same. What follows the first
visible character does not matter.
-/

namespace KeywordBridge

/-- The indentation of a line is decided by its first character that is neither a space
nor a tab. -/
theorem indentationFrom_append {front : Text} (stops : ∃ c ∈ front, isBlankChar c = false)
    (column : Nat) (back : Text) :
    indentationFrom column (front ++ back) = indentationFrom column front := by
  induction front generalizing column with
  | nil =>
      obtain ⟨c, member, -⟩ := stops
      cases member
  | cons d rest ih =>
      have behind (blank : isBlankChar d = true) : ∃ c ∈ rest, isBlankChar c = false := by
        obtain ⟨c, member, visible⟩ := stops
        rcases List.mem_cons.1 member with rfl | later
        · rw [blank] at visible
          cases visible
        · exact ⟨c, later, visible⟩
      rw [List.cons_append, indentationFrom, indentationFrom]
      split
      · rename_i space
        exact ih (behind (by rw [space]; decide)) _
      · split
        · rename_i tab
          exact ih (behind (by rw [tab]; decide)) _
        · rfl

/-! ## Tab stops -/

namespace Text

/-- The text with every tab replaced by the spaces that lead to the next tab stop, of which
there is one every four columns, if the text starts at `column`. Behind the end of a line the columns start anew. -/
def expandTabsFrom (column : Nat) : Text → Text
  | [] => []
  | c :: rest =>
      if c = '\t' then
        let width := 4 - column % 4
        List.replicate width ' ' ++ expandTabsFrom (column + width) rest
      else c :: expandTabsFrom (if c = '\n' ∨ c = '\r' then 0 else column + 1) rest

/-- The text with every tab replaced by spaces. -/
def expandTabs (text : Text) : Text :=
  text.expandTabsFrom 0

/-- The number of spaces at the start of the text. -/
def leadingSpaces (text : Text) : Nat :=
  text.countWhile (· == ' ')

example : expandTabs "a\tb\t\tc" = "a   b       c" := rfl

theorem leadingSpaces_replicate_append (count : Nat) (text : Text) :
    leadingSpaces (List.replicate count ' ' ++ text) = count + text.leadingSpaces := by
  have spaces : ∀ c ∈ List.replicate count ' ', (c == ' ') = true := by
    intro c member
    rw [List.eq_of_mem_replicate member, beq_self_eq_true]
  rw [leadingSpaces, countWhile, List.takeWhile_append_of_pos spaces, List.length_append,
    List.length_replicate]
  rfl

end Text

theorem indentationFrom_eq_expandTabsFrom (column : Nat) (line : Text) :
    indentationFrom column line = column + (line.expandTabsFrom column).leadingSpaces := by
  induction line generalizing column with
  | nil => rfl
  | cons c rest ih =>
      rw [indentationFrom, Text.expandTabsFrom]
      by_cases space : c = ' '
      · subst space
        have one := Text.leadingSpaces_replicate_append 1 (Text.expandTabsFrom (column + 1) rest)
        rw [if_pos rfl, if_neg (by decide), if_neg (by decide), ih, Nat.add_assoc, ← one]
        rfl
      · rw [if_neg space]
        by_cases tab : c = '\t'
        · rw [if_pos tab, if_pos tab, ih, Text.leadingSpaces_replicate_append, Nat.add_assoc,
            tabWidth]
        · have stops (others : Text) : Text.leadingSpaces (c :: others) = 0 := by
            rw [Text.leadingSpaces, Text.countWhile,
              List.takeWhile_cons_of_neg (by simpa using space), List.length_nil]
          rw [if_neg tab, if_neg tab, stops, Nat.add_zero]

/-- The column that the leading blanks of a line reach is the number of spaces that the
line starts with when its tabs are expanded. -/
theorem indentation_eq_expandTabs (line : Text) :
    indentation line = line.expandTabs.leadingSpaces := by
  rw [indentation, indentationFrom_eq_expandTabsFrom, Nat.zero_add]
  rfl

end KeywordBridge
