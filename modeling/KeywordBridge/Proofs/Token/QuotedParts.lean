import KeywordBridge.Proofs.Program.Indentation
import KeywordBridge.Proofs.Text.Lines
import KeywordBridge.Proofs.Token.Rules
import Mathlib.Data.Option.Basic

/-!
# Texts that differ between quotes only

Two texts may agree except for what stands between the quotes of strings, where the one
has as many characters as the other. Then they start with the same words and end with the
same character, and what is left of them without the blanks at their ends agrees in the
same way, as long as no quote takes part.
-/

namespace KeywordBridge

namespace Text

/-- Do the texts agree except for what stands between quotes, and is that equally long? -/
inductive AlikeOutsideQuotes : Text → Text → Prop
  | nil : AlikeOutsideQuotes [] []
  | same (c : Char) {rest other : Text} (behind : AlikeOutsideQuotes rest other) :
      AlikeOutsideQuotes (c :: rest) (c :: other)
  | quoted (quote : Quote) {content filling rest other : Text}
      (length : filling.length = content.length) (behind : AlikeOutsideQuotes rest other) :
      AlikeOutsideQuotes (quote.mark :: (content ++ quote.mark :: rest))
        (quote.mark :: (filling ++ quote.mark :: other))

/-! ## Blanks at the end -/

theorem isBlank_iff_trimEnd (text : Text) : text.isBlank = true ↔ text.trimEnd = [] := by
  rw [isBlank, List.all_eq_true, trimEnd, dropEndWhile, List.reverse_eq_nil_iff,
    List.dropWhile_eq_nil_iff]
  simp only [List.mem_reverse]

/-- Blanks in front of blanks are dropped with them. -/
theorem trimEnd_cons (c : Char) (rest : Text) :
    trimEnd (c :: rest) =
      if isBlankChar c = true ∧ rest.trimEnd = [] then [] else c :: rest.trimEnd :=
  dropEndWhile_cons isBlankChar c rest

/-- The blanks at the end may be dropped first. -/
theorem trim_eq_dropWhile (text : Text) : text.trim = text.trimEnd.dropWhile isBlankChar := by
  induction text with
  | nil => rfl
  | cons c rest ih =>
      rw [trim] at ih ⊢
      by_cases blank : isBlankChar c = true
      · rw [List.dropWhile_cons_of_pos blank, ih, trimEnd_cons]
        by_cases empty : trimEnd rest = []
        · rw [if_pos ⟨blank, empty⟩, empty]
        · rw [if_neg (fun both => empty both.2), List.dropWhile_cons_of_pos blank]
      · rw [List.dropWhile_cons_of_neg blank, trimEnd_cons, if_neg (fun both => blank both.1),
          List.dropWhile_cons_of_neg blank]

/-! ## Texts that differ between quotes -/

namespace AlikeOutsideQuotes

theorem refl (text : Text) : AlikeOutsideQuotes text text := by
  induction text with
  | nil => exact .nil
  | cons c rest ih => exact .same c ih

variable {text other : Text}

theorem symm (alike : AlikeOutsideQuotes text other) : AlikeOutsideQuotes other text := by
  induction alike with
  | nil => exact .nil
  | same c behind ih => exact .same c ih
  | quoted quote length behind ih => exact .quoted quote length.symm ih

theorem length_eq (alike : AlikeOutsideQuotes text other) : other.length = text.length := by
  induction alike with
  | nil => rfl
  | same c behind ih => rw [List.length_cons, List.length_cons, ih]
  | quoted quote length behind ih =>
      simp only [List.length_cons, List.length_append, length, ih]

theorem head?_eq (alike : AlikeOutsideQuotes text other) : other.head? = text.head? := by
  cases alike <;> rfl

theorem getLast?_eq (alike : AlikeOutsideQuotes text other) :
    other.getLast? = text.getLast? := by
  induction alike with
  | nil => rfl
  | same c behind ih => rw [List.getLast?_cons, List.getLast?_cons, ih]
  | quoted quote length behind ih =>
      simp only [List.getLast?_cons, List.getLast?_append, ih, Option.getD_some, Option.some_or]

/-- Texts without quotes do not differ. -/
theorem eq_of_no_marks (alike : AlikeOutsideQuotes text other)
    (noMark : ∀ quote : Quote, quote.mark ∉ text) : other = text := by
  induction alike with
  | nil => rfl
  | same c behind ih =>
      rw [ih fun quote member => noMark quote (List.mem_cons_of_mem c member)]
  | quoted quote => exact absurd List.mem_cons_self (noMark quote)

/-- The same text may stand in front. -/
theorem trimEnd_append (front : Text) (alike : AlikeOutsideQuotes text.trimEnd other.trimEnd) :
    AlikeOutsideQuotes (trimEnd (front ++ text)) (trimEnd (front ++ other)) := by
  induction front with
  | nil => exact alike
  | cons c rest ih =>
      have empty : trimEnd (rest ++ other) = [] ↔ trimEnd (rest ++ text) = [] := by
        rw [← List.length_eq_zero_iff, ← List.length_eq_zero_iff, ih.length_eq]
      rw [List.cons_append, List.cons_append, trimEnd_cons, trimEnd_cons]
      simp only [empty]
      split
      · exact .nil
      · exact .same c ih

section

variable {p : Char → Bool} (outside : ∀ quote : Quote, p quote.mark = false)

include outside

theorem takeWhile_eq (alike : AlikeOutsideQuotes text other) :
    other.takeWhile p = text.takeWhile p := by
  induction alike with
  | nil => rfl
  | same c behind ih => rw [List.takeWhile_cons, List.takeWhile_cons, ih]
  | quoted quote =>
      have stops : ¬ p quote.mark = true := Bool.eq_false_iff.1 (outside quote)
      rw [List.takeWhile_cons_of_neg stops, List.takeWhile_cons_of_neg stops]

theorem dropWhile (alike : AlikeOutsideQuotes text other) :
    AlikeOutsideQuotes (text.dropWhile p) (other.dropWhile p) := by
  induction alike with
  | nil => exact .nil
  | same c behind ih =>
      rw [List.dropWhile_cons, List.dropWhile_cons]
      split
      · exact ih
      · exact .same c behind
  | quoted quote length behind =>
      have stops : ¬ p quote.mark = true := Bool.eq_false_iff.1 (outside quote)
      rw [List.dropWhile_cons_of_neg stops, List.dropWhile_cons_of_neg stops]
      exact .quoted quote length behind

end

/-- A word without quotes starts both texts or none. -/
theorem dropStart? (alike : AlikeOutsideQuotes text other) {word : Text}
    (noMark : ∀ quote : Quote, quote.mark ∉ word) :
    Option.Rel AlikeOutsideQuotes (dropStart? word text) (dropStart? word other) := by
  induction word generalizing text other with
  | nil => exact .some alike
  | cons d others ih =>
      have step (c : Char) (rest : Text) :
          Text.dropStart? (d :: others) (c :: rest) =
            if d = c then Text.dropStart? others rest else none := by
        unfold Text.dropStart?
        rw [List.isPrefixOf_cons_cons]
        by_cases same : d = c
        · simp [same]
        · simp [same]
      cases alike with
      | nil => exact .none
      | same c behind =>
          rw [step, step]
          split
          · exact ih behind fun quote member => noMark quote (List.mem_cons_of_mem d member)
          · exact .none
      | quoted quote =>
          have apart : d ≠ quote.mark := by
            rintro rfl
            exact noMark quote List.mem_cons_self
          rw [step, step, if_neg apart, if_neg apart]
          exact .none

theorem dropBlanks? (alike : AlikeOutsideQuotes text other) :
    Option.Rel AlikeOutsideQuotes (dropBlanks? text) (dropBlanks? other) := by
  cases alike with
  | nil => exact .none
  | same c behind =>
      rw [Text.dropBlanks?, Text.dropBlanks?]
      split
      · exact .some (behind.dropWhile Quote.isBlankChar_mark)
      · exact .none
  | quoted quote =>
      rw [Text.dropBlanks?, Text.dropBlanks?, quote.isBlankChar_mark]
      exact .none

/-- The texts start with the same name, and go on alike behind it. -/
theorem name? (alike : AlikeOutsideQuotes text other) :
    Option.Rel (fun found there => there.1 = found.1 ∧ AlikeOutsideQuotes found.2 there.2)
      (name? text) (name? other) := by
  cases alike with
  | nil => exact .none
  | same c behind =>
      rw [Text.name?, Text.name?]
      split
      · exact .some ⟨by rw [behind.takeWhile_eq Quote.isWordChar_mark],
          behind.dropWhile Quote.isWordChar_mark⟩
      · exact .none
  | quoted quote =>
      have noName : ¬ startsName quote.mark = true := by cases quote <;> decide
      rw [Text.name?, Text.name?, if_neg noName, if_neg noName]
      exact .none

/-- What is visible keeps its place behind the leading blanks. -/
theorem indentationFrom_eq (alike : AlikeOutsideQuotes text other) (column : Nat) :
    indentationFrom column other = indentationFrom column text := by
  induction alike generalizing column with
  | nil => rfl
  | same c behind ih => rw [indentationFrom, indentationFrom, ih, ih]
  | quoted quote => cases quote <;> rfl

end AlikeOutsideQuotes

end Text

end KeywordBridge
