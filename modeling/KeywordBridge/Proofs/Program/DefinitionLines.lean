import KeywordBridge.Proofs.Text.CharacterClass
import KeywordBridge.Proofs.Text.WordRuns
import KeywordBridge.Program.Definition

/-!
# Definitions on lines that end with blanks

The introduction of a name ends with the name itself, with a parenthesis or with an
equals sign, none of which is a blank. So a blank at the end of a line introduces no
name and takes none away, as long as the introducing words do not hold it. In
particular the names of a line do not depend on the returns at its end.
-/

namespace KeywordBridge

theorem introduced?_nil (word : Text) : introduced? word [] = none := by
  cases word <;> rfl

section

variable {blank : Char} (isBlank : isBlankChar blank = true)

include isBlank

namespace Text

theorem isWordChar_blank : isWordChar blank = false := by
  cases word : isWordChar blank with
  | false => rfl
  | true =>
      rw [isBlankChar_eq_false_of_isWordChar word] at isBlank
      exact Bool.noConfusion isBlank

theorem dropWhile_append_blank (text : Text) :
    (text ++ [blank]).dropWhile isBlankChar = [] ∧ text.dropWhile isBlankChar = [] ∨
      ∃ c rest, (text ++ [blank]).dropWhile isBlankChar = c :: (rest ++ [blank]) ∧
        text.dropWhile isBlankChar = c :: rest := by
  rw [List.dropWhile_append]
  cases remaining : text.dropWhile isBlankChar with
  | nil => exact .inl ⟨List.dropWhile_cons_of_pos isBlank, rfl⟩
  | cons c rest => exact .inr ⟨c, rest, rfl, rfl⟩

theorem head?_dropWhile_append_blank (text : Text) :
    ((text ++ [blank]).dropWhile isBlankChar).head? = (text.dropWhile isBlankChar).head? := by
  rcases dropWhile_append_blank isBlank text with ⟨longer, shorter⟩ | ⟨c, rest, longer, shorter⟩
  · rw [longer, shorter]
  · rw [longer, shorter]
    rfl

/-- A name ends in front of a blank. -/
theorem name?_append_blank (text : Text) :
    name? (text ++ [blank]) = text.name?.map fun found => (found.1, found.2 ++ [blank]) := by
  have noWord := isWordChar_blank isBlank
  have stops : ∀ c ∈ [blank], isWordChar c = false := by
    intro c member
    rw [List.mem_singleton.1 member, noWord]
  cases text with
  | nil => simp [name?, startsName, noWord]
  | cons c rest =>
      rw [List.cons_append, name?, name?]
      split
      · rw [takeWhile_append_of_stops stops, dropWhile_append_of_stops stops, Option.map_some]
      · rfl

theorem name?_dropWhile_append_blank (text : Text) :
    name? ((text ++ [blank]).dropWhile isBlankChar) =
      (name? (text.dropWhile isBlankChar)).map fun found => (found.1, found.2 ++ [blank]) := by
  rcases dropWhile_append_blank isBlank text with ⟨longer, shorter⟩ | ⟨c, rest, longer, shorter⟩
  · rw [longer, shorter]
    rfl
  · rw [longer, shorter, ← List.cons_append, name?_append_blank isBlank]

omit isBlank in
/-- A word that does not hold the character at the end starts a text with it or without
it. -/
theorem dropStart?_append_singleton {c : Char} {word : Text} (outside : c ∉ word) (text : Text) :
    dropStart? word (text ++ [c]) = (dropStart? word text).map (· ++ [c]) := by
  have same : word <+: text ++ [c] ↔ word <+: text := by
    rw [List.prefix_concat_iff, or_iff_right]
    rintro rfl
    exact outside (List.mem_append_right text List.mem_cons_self)
  unfold dropStart?
  simp only [List.isPrefixOf_iff_prefix, same]
  split
  · rename_i starts
    rw [List.drop_append_of_le_length starts.length_le, Option.map_some]
  · rfl

end Text

variable {word : Text} (outside : blank ∉ word)

include outside

theorem introduced?_append_blank (text : Text) :
    introduced? word (text ++ [blank]) =
      (introduced? word text).map fun found => (found.1, found.2 ++ [blank]) := by
  unfold introduced?
  rw [Text.dropStart?_append_singleton outside]
  cases Text.dropStart? word text with
  | none => rfl
  | some rest =>
      cases rest with
      | nil => simp [Text.dropBlanks?, isBlank, Text.name?]
      | cons c rest =>
          simp only [Text.dropBlanks?, Option.map_some, Option.bind_eq_bind, Option.bind_some,
            List.cons_append]
          split
          · exact Text.name?_dropWhile_append_blank isBlank rest
          · rfl

theorem functionHere?_append_blank (text : Text) :
    functionHere? word (text ++ [blank]) = functionHere? word text := by
  unfold functionHere?
  rw [introduced?_append_blank isBlank outside]
  cases introduced? word text with
  | none => rfl
  | some found =>
      simp only [Option.map_some, Option.bind_eq_bind, Option.bind_some,
        Text.head?_dropWhile_append_blank isBlank]

theorem functionFrom?_append_blank (before : Option Char) (text : Text) :
    functionFrom? word before (text ++ [blank]) = functionFrom? word before text := by
  induction text generalizing before with
  | nil =>
      -- The blank is one more place to look at, and nothing is introduced there.
      have here := functionHere?_append_blank isBlank outside []
      rw [List.nil_append, functionHere?, functionHere?, introduced?_nil] at here
      rw [List.nil_append, functionFrom?, functionFrom?, functionFrom?, functionHere?, here]
      cases Text.isBoundary before (some blank) <;> rfl
  | cons c rest ih =>
      have here := functionHere?_append_blank isBlank outside (c :: rest)
      rw [List.cons_append] at here
      rw [List.cons_append, functionFrom?, functionFrom?, here, ih]

theorem className?_append_blank (text : Text) :
    className? word (text ++ [blank]) = className? word text := by
  induction text with
  | nil =>
      have here := introduced?_append_blank isBlank outside []
      rw [List.nil_append, introduced?_nil] at here
      rw [List.nil_append, className?, className?, here, isBlank]
      rfl
  | cons c rest ih =>
      have here := introduced?_append_blank isBlank outside (c :: rest)
      rw [List.cons_append] at here
      rw [List.cons_append, className?, className?, here, ih]
      cases introduced? word (c :: rest) with
      | none => rfl
      | some found => rfl

omit outside in
theorem variableName?_append_blank (line : Text) :
    variableName? (line ++ [blank]) = variableName? line := by
  unfold variableName?
  rw [Text.name?_dropWhile_append_blank isBlank]
  cases Text.name? (line.dropWhile isBlankChar) with
  | none => rfl
  | some found =>
      simp only [Option.map_some, Option.bind_eq_bind, Option.bind_some]
      rcases Text.dropWhile_append_blank isBlank found.2 with
        ⟨longer, shorter⟩ | ⟨c, rest, longer, shorter⟩
      · rw [longer, shorter]
      · rw [longer, shorter]
        by_cases equals : c = '='
        · subst equals
          have notEquals : blank ≠ '=' := by
            rintro rfl
            exact absurd isBlank (by decide)
          cases rest with
          | nil => simp [notEquals]
          | cons next others => rfl
        · simp [equals]

end

end KeywordBridge
