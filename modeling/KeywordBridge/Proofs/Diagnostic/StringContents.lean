import KeywordBridge.Proofs.Diagnostic.AlikePrograms

/-!
# The contents of strings do not change the diagnostics

What stands between the quotes of a string that is closed on its line may be replaced by
as many other characters, and a line that lies in a triple-quoted string by any other
line, as long as the strings still end where they did: the same is reported.
-/

namespace KeywordBridge

/-- May the character stand in place of the content of a string? It is neither a quote nor
a backslash nor a line feed. -/
def isFilling (c : Char) : Bool :=
  !("\"'\\\n" : Text).contains c

theorem isPlainIn_of_isFilling (quote : Quote) {c : Char} (filling : isFilling c = true) :
    isPlainIn quote c = true := by
  rcases mark_or_backslash_or_plain quote c with rfl | rfl | plain
  · cases quote <;> exact absurd filling (by decide)
  · exact absurd filling (by decide)
  · exact plain

namespace Zone

/-- Does the second text have other characters than the first one only between the quotes
of strings, if they are read from the zone on? The strings are opened by a single quote
and closed, and the characters are as many. -/
inductive Refills : Zone → Text → Text → Prop
  /-- Nothing more is replaced. -/
  | same (zone : Zone) (text : Text) : Refills zone text text
  /-- A character stays with those that it holds. -/
  | kept {zone : Zone} {c : Char} {held rest other : Text}
      (length : (zone.read c (held ++ rest)).held = held.length)
      (behind : Refills (zone.read c (held ++ rest)).zone rest other) :
      Refills zone (c :: (held ++ rest)) (c :: (held ++ other))
  /-- The content of a string is replaced. -/
  | literal {quote : Quote} {content filling rest other : Text}
      (closes : IsContent quote content rest) (length : filling.length = content.length)
      (plain : ∀ c ∈ filling, isFilling c = true) (behind : Refills code rest other) :
      Refills code (quote.mark :: (content ++ quote.mark :: rest))
        (quote.mark :: (filling ++ quote.mark :: other))

variable {zone : Zone} {text other : Text}

theorem Refills.head?_eq (refills : Refills zone text other) : other.head? = text.head? := by
  cases refills <;> rfl

/-- Behind the same characters, two quotes stand in both texts if these start alike. -/
theorem take_two_of_head? {rest other : Text} (first : other.head? = rest.head?) (c : Char)
    (held : Text) : (c :: (held ++ other)).take 2 = (c :: (held ++ rest)).take 2 := by
  cases held with
  | nil =>
      rw [List.nil_append, List.nil_append, List.take_succ_cons, List.take_succ_cons,
        List.take_one, List.take_one, first]
  | cons d more => rfl

/-- The content of a string does not start with the quote of the string. -/
theorem ne_mark_of_staysOpen {quote : Quote} {c : Char} {rest : Text}
    (stays : staysOpen quote (c :: rest) = true) : c ≠ quote.mark := by
  rintro rfl
  rw [staysOpen_of_mark] at stays
  cases stays

/-- Two quotes that follow stand in both texts. -/
theorem Refills.take_two_iff (refills : Refills zone text other) (quote : Quote) :
    other.take 2 = [quote.mark, quote.mark] ↔ text.take 2 = [quote.mark, quote.mark] := by
  cases refills with
  | same => exact Iff.rfl
  | @kept zone c held rest other length behind => rw [take_two_of_head? behind.head?_eq]
  | @literal opening content filling rest other closes length plain behind =>
      have single {inside : Char} {more : Text} (apart : inside ≠ opening.mark) :
          (opening.mark :: (inside :: more)).take 2 ≠ [quote.mark, quote.mark] := by
        intro two
        obtain ⟨same, second⟩ := List.cons.inj two
        exact apart ((List.cons.inj second).1.trans same.symm)
      cases content with
      | nil =>
          obtain rfl := List.length_eq_zero_iff.1 length
          exact Iff.rfl
      | cons c more =>
          cases filling with
          | nil => cases length
          | cons d others =>
              have apart := isPlainIn_iff.1
                (isPlainIn_of_isFilling opening (plain d List.mem_cons_self))
              exact iff_of_false (single apart.1) (single (ne_mark_of_staysOpen closes.stays))

/-- A string still ends where it did. -/
theorem isContent_of_isFilling {quote : Quote} {content filling rest other : Text}
    (closes : IsContent quote content rest) (length : filling.length = content.length)
    (plain : ∀ c ∈ filling, isFilling c = true) (first : other.head? = rest.head?) :
    IsContent quote filling other where
  stays := by
    have whole := staysOpen_append (fun c member =>
      isPlainIn_of_isFilling quote (plain c member)) []
    rwa [List.append_nil] at whole
  single := by
    have isSingle := closes.single
    rw [← Bool.not_eq_true, take_two_of_completesTriple] at isSingle ⊢
    cases filling with
    | nil =>
        obtain rfl := List.length_eq_zero_iff.1 length.symm
        rwa [List.nil_append, ← List.nil_append other, take_two_of_head? first]
    | cons d others =>
        have apart := isPlainIn_iff.1 (isPlainIn_of_isFilling quote (plain d List.mem_cons_self))
        exact fun two => apart.1 (List.cons.inj two).1

/-- Texts that differ in the contents of strings are read alike. -/
theorem Refills.readAlike (refills : Refills zone text other) : ReadAlike zone text other := by
  induction refills with
  | same zone text => exact .same zone text
  | @kept zone c held rest other length behind ih =>
      refine .kept rfl ?_ length ih
      apply read_of_take_two
      intro quote
      cases held with
      | nil => exact behind.take_two_iff quote
      | cons d more =>
          rw [List.cons_append, List.cons_append, take_two_of_head? behind.head?_eq]
  | literal closes length plain behind ih =>
      exact .refilled closes (isContent_of_isFilling closes length plain behind.head?_eq) length ih

end Zone

namespace Table

/-- Do the second lines differ from the first ones in the contents of strings alone, if
the first line starts in the given mode? Lines that lie in a triple-quoted string are
replaced altogether. -/
inductive StringsRefilled (table : Table) : Mode → List Text → List Text → Prop
  | nil (mode : Mode) : StringsRefilled table mode [] []
  | line {mode : Mode} {line other : Text} {rest others : List Text}
      (refills : (Zone.ofMode mode).Refills line.dropReturns other.dropReturns)
      (behind : StringsRefilled table (table.scanLine mode line.dropReturns).2 rest others) :
      StringsRefilled table mode (line :: rest) (other :: others)
  | inside {quote : Quote} {line other : Text} {rest others : List Text}
      (lies : line.dropReturns.LiesIn quote) (plain : ∀ c ∈ other, isFilling c = true)
      (behind : StringsRefilled table (.inTriple quote) rest others) :
      StringsRefilled table (.inTriple quote) (line :: rest) (other :: others)

theorem StringsRefilled.linesAlike {table : Table} {mode : Mode} {lines others : List Text}
    (refilled : table.StringsRefilled mode lines others) : table.LinesAlike mode lines others := by
  induction refilled with
  | nil mode => exact .nil mode
  | line refills behind ih => exact .alike refills.readAlike ih
  | @inside quote line other rest others lies plain behind ih =>
      refine .inside lies (Text.liesIn_of_plain fun c member => ?_) ih
      exact isPlainIn_of_isFilling quote (plain c (Text.mem_of_mem_dropReturns member))

/-- The contents of strings do not change the diagnostics. -/
theorem stringContents_irrelevant {program other : Text}
    (refilled : default.StringsRefilled .code program.lines other.lines) :
    default.validate other = default.validate program :=
  default_hasWordKeywords.validate_of_linesAlike default_hasHeadsApart (by decide +kernel)
    refilled.linesAlike

/-- A string with an escaped quote, a line of a docstring that becomes blank, and a string
behind the docstring: the parenthesis in front and the keyword behind are still found. -/
theorem stringContents_irrelevant_docstring :
    let program : Text := "(x\"i\\\")\"\n\"\"\"\nif '(\n\"\"\"+'def' if"
    let other : Text := "(x\"a: b\"\n\"\"\"\n\n\"\"\"+'xyz' if"
    default.StringsRefilled .code program.lines other.lines ∧
      default.validate program =
        [⟨1, 1, 2, .unbalancedParentheses⟩, ⟨4, 11, 13, .targetKeyword "ukuba" "if"⟩] ∧
      default.validate other = default.validate program := by
  intro program other
  have lines : program.lines = ["(x\"i\\\")\"", "\"\"\"", "if '(", "\"\"\"+'def' if"] ∧
      other.lines = ["(x\"a: b\"", "\"\"\"", "", "\"\"\"+'xyz' if"] := by decide
  have modes : (default.scanLine .code (Text.dropReturns "(x\"i\\\")\"")).2 = .code ∧
      (default.scanLine .code (Text.dropReturns "\"\"\"")).2 = .inTriple .double ∧
      default.diagnose (default.read program) =
        [⟨1, 1, 2, .unbalancedParentheses⟩, ⟨4, 11, 13, .targetKeyword "ukuba" "if"⟩] := by
    decide +kernel
  obtain ⟨next, opened, found⟩ := modes
  have refilled : default.StringsRefilled .code program.lines other.lines := by
    rw [lines.1, lines.2]
    refine .line ?_ ?_
    · have literal : Zone.code.Refills "\"i\\\")\"" "\"a: b\"" :=
        @Zone.Refills.literal .double "i\\\")" "a: b" [] [] ⟨by decide, by decide⟩ rfl
          (List.all_eq_true.1 (by decide)) (.same .code [])
      have behind : Zone.code.Refills "x\"i\\\")\"" "x\"a: b\"" :=
        @Zone.Refills.kept .code 'x' [] _ _ rfl literal
      exact @Zone.Refills.kept .code '(' [] _ _ rfl behind
    · rw [next]
      refine .line (.same _ _) ?_
      rw [opened]
      refine .inside (Text.liesIn_of_plain (List.all_eq_true.1 (by decide)))
        (List.forall_mem_nil _) (.line ?_ (.nil _))
      have literal : Zone.code.Refills "'def' if" "'xyz' if" :=
        @Zone.Refills.literal .single "def" "xyz" " if" " if" ⟨by decide, by decide⟩ rfl
          (List.all_eq_true.1 (by decide)) (.same .code " if")
      have behind : Zone.code.Refills "+'def' if" "+'xyz' if" :=
        @Zone.Refills.kept .code '+' [] _ _ rfl literal
      exact @Zone.Refills.kept (.inTriple .double) '"' "\"\"" _ _ rfl behind
  refine ⟨refilled, ?_, stringContents_irrelevant refilled⟩
  rw [validate, found, List.mergeSort_of_pairwise (by decide)]

end Table

end KeywordBridge
