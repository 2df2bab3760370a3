import KeywordBridge.Proofs.Diagnostic.Placement
import KeywordBridge.Proofs.Token.CodeCharacters

/-!
# Parentheses and target keywords in code

The checks of parentheses and of target keywords go by the tokens of a line. What they
report can be said without tokens: the parentheses of a line are unbalanced if its code
characters hold more of one kind than of the other, and a target keyword is reported
wherever it stands in code as a whole run of word characters. The only other place for
such a report is directly behind the digits of a number, which are word characters too.
-/

namespace KeywordBridge

/-- Are unbalanced parentheses reported? -/
def Diagnostic.reportsParentheses (diagnostic : Diagnostic) : Bool :=
  diagnostic.problem.number = 105

/-- A line on which a bracket stands has code. -/
theorem SourceLine.hasCode_of_countBracket {line : SourceLine} {bracket : Char}
    (visible : isBlankChar bracket = false) (found : line.countBracket bracket ≠ 0) :
    line.hasCode = true := by
  obtain ⟨lexeme, listed, isBracket⟩ := List.countP_pos_iff.1 (Nat.pos_of_ne_zero found)
  rw [Bool.and_eq_true, beq_iff_eq, beq_iff_eq] at isBracket
  apply hasCode_of_mem listed
  · rw [isBracket.1]
    exact TokenKind.noConfusion
  · rw [isBracket.2, Text.isBlank, List.all_cons, visible, Bool.false_and]

namespace Table

variable {table : Table}

/-! ## Parentheses -/

/-- What is reported for parentheses comes from the brackets of one line. -/
theorem mem_validate_parentheses {program : Text} {diagnostic : Diagnostic} :
    diagnostic ∈ table.validate program ∧ diagnostic.reportsParentheses = true ↔
      ∃ line ∈ table.read program, diagnostic ∈ line.parenthesisDiagnostics := by
  rw [validate, List.mem_mergeSort, mem_diagnose]
  constructor
  · rintro ⟨⟨above, line, below, split, found⟩, reports⟩
    have isLine : line ∈ table.read program := by
      rw [split]
      exact List.mem_append_right above List.mem_cons_self
    have number : diagnostic.problem.number = 105 := of_decide_eq_true reports
    have other {numbers : List Nat} {found : List Diagnostic}
        (within : Diagnostic.DifferWithin numbers found) (apart : 105 ∉ numbers) :
        diagnostic ∉ found := fun member => apart (number ▸ within.kinds _ member)
    have whole : line.IsWhole := SourceLine.isWhole_of_mem_readFrom isLine
    obtain ⟨-, ⟨-, colon | indentation⟩ | parentheses | tokens⟩ :=
      table.mem_lineDiagnostics.1 found
    · exact absurd colon (other (table.differWithin_colonDiagnostics line) (by decide))
    · exact absurd indentation
        (other (table.differWithin_indentationDiagnostics line below) (by decide))
    · exact ⟨line, isLine, parentheses⟩
    · exact absurd tokens (other (table.differWithin_tokenDiagnostics whole) (by decide))
  · rintro ⟨line, isLine, found⟩
    obtain ⟨above, below, split⟩ := List.append_of_mem isLine
    have unbalanced : line.countBracket '(' ≠ line.countBracket ')' := by
      intro balanced
      rw [SourceLine.parenthesisDiagnostics, if_pos balanced] at found
      cases found
    have written : line.hasCode = true := by
      by_cases opening : line.countBracket '(' = 0
      · rw [opening] at unbalanced
        exact line.hasCode_of_countBracket (by decide) unbalanced.symm
      · exact line.hasCode_of_countBracket (by decide) opening
    refine ⟨⟨above, line, below, split, ?_⟩, ?_⟩
    · exact table.mem_lineDiagnostics.2 ⟨written, .inr (.inl found)⟩
    · rw [eq_of_mem_parenthesisDiagnostics found]
      rfl

/-- A line is reported for its parentheses alone, and once. -/
theorem filter_validate_parentheses {program : Text} {line : SourceLine}
    (isLine : line ∈ table.read program) :
    (table.validate program).filter
        (fun diagnostic => diagnostic.reportsParentheses && diagnostic.line == line.number) =
      line.parenthesisDiagnostics := by
  have numbers : ((table.read program).map SourceLine.number).Nodup :=
    List.pairwise_map.2 ((pairwise_number_readFrom 1 .code program.lines).imp Nat.ne_of_lt)
  have only : ∀ diagnostic ∈ table.validate program,
      (diagnostic.reportsParentheses && diagnostic.line == line.number) = true ↔
        diagnostic = ⟨line.number, 1, 2, .unbalancedParentheses⟩ := by
    intro diagnostic reported
    rw [Bool.and_eq_true, beq_iff_eq]
    constructor
    · rintro ⟨reports, number⟩
      obtain ⟨other, -, found⟩ := mem_validate_parentheses.1 ⟨reported, reports⟩
      obtain rfl := eq_of_mem_parenthesisDiagnostics found
      rw [← number]
    · rintro rfl
      exact ⟨rfl, rfl⟩
  have found : ⟨line.number, 1, 2, .unbalancedParentheses⟩ ∈ table.validate program ↔
      line.parenthesisDiagnostics = [⟨line.number, 1, 2, .unbalancedParentheses⟩] := by
    constructor
    · intro reported
      obtain ⟨other, isOther, found⟩ := mem_validate_parentheses.1 ⟨reported, rfl⟩
      have same := congrArg Diagnostic.line (eq_of_mem_parenthesisDiagnostics found)
      obtain rfl := List.inj_on_of_nodup_map numbers isLine isOther same
      rw [SourceLine.parenthesisDiagnostics] at found ⊢
      split at found
      · cases found
      · rename_i unbalanced
        rw [if_neg unbalanced]
    · intro one
      refine (mem_validate_parentheses.2 ⟨line, isLine, ?_⟩).1
      rw [one]
      exact List.mem_singleton_self _
  rw [table.filter_validate_of_only program only]
  simp only [found]
  rw [SourceLine.parenthesisDiagnostics]
  split <;> simp

/-! ## Target keywords -/

variable (words : table.HasWordKeywords)

include words

/-- What is reported as a target keyword is a word in code that stops where the report
ends. In front of it the word goes on with nothing but the digits of a number. -/
theorem HasWordKeywords.exists_code_of_targetKeyword {program : Text} {diagnostic : Diagnostic}
    (reported : diagnostic ∈ table.validate program) (reports : diagnostic.reportsTarget = true) :
    ∃ chars front word back, program.classified[diagnostic.line - 1]? = some chars ∧
      chars = front ++ (Text.asCode word ++ back) ∧
      diagnostic.column = front.length + 1 ∧
      diagnostic.endColumn = front.length + word.length + 1 ∧ word ∈ table.targets ∧
      Text.isWordSide (back.map Prod.fst).head? = false ∧
      (Text.isWordSide (front.map Prod.fst).getLast? = true →
        (front.map Prod.fst).getLast?.any isDecimalDigit = true) := by
  obtain ⟨line, isLine, here⟩ :=
    words.mem_validate_iff.1 ⟨reported, of_decide_eq_true reports⟩
  obtain ⟨index, isHere⟩ := List.getElem?_of_mem isLine
  have isChars : program.classified[index]? = some (line.lexemes.flatMap Lexeme.classified) := by
    rw [words.classified_eq, List.getElem?_map, isHere, Option.map_some]
  obtain ⟨mode, known, text, oneLine, -, isScan⟩ := words.exists_of_classified isChars
  obtain rfl := Option.some.inj (isHere.symm.trans isScan)
  obtain ⟨earlier, ⟨kind, word⟩, later, split, found⟩ := mem_targetDiagnostics.1 here
  obtain ⟨surface, isSurface, rfl⟩ := Option.map_eq_some_iff.1 found
  obtain ⟨rfl, isTarget⟩ := replacement?_eq_some.1 isSurface
  change (scanFrom table.surfaces mode none text).1 = _ at split
  have length : (Lexeme.source earlier).length = (earlier.flatMap Lexeme.classified).length := by
    rw [← Lexeme.map_fst_classified, List.length_map]
  obtain ⟨-, stop⟩ := isName_of_identifier words.isWord_of_mem_surfaces known split
  refine ⟨_, earlier.flatMap Lexeme.classified, word, later.flatMap Lexeme.classified, isChars,
    ?_, ?_, ?_, mem_targets_of_surfaceFor? isTarget, ?_, ?_⟩
  · change (scanFrom table.surfaces mode none text).1.flatMap Lexeme.classified = _
    rw [split, List.flatMap_append, List.flatMap_cons]
    rfl
  · change 1 + (Lexeme.source earlier).length = _
    rw [length, Nat.add_comm]
  · change 1 + (Lexeme.source earlier).length + word.length = _
    omega
  · rwa [Lexeme.map_fst_classified]
  · rw [Lexeme.map_fst_classified, ← Option.or_none (o := (Lexeme.source earlier).getLast?)]
    intro inside
    apply cutsBehindDigit_of_identifier words.isWord_of_mem_surfaces known oneLine _ split inside
    intro none
    cases none

/-- A target keyword that stands in code as a whole run of word characters is reported,
and reported once. -/
theorem HasWordKeywords.filter_validate_targetKeyword {program : Text} {index : Nat}
    {front back : List (Char × Region)} {word : Text}
    (isLine : program.classified[index]? = some (front ++ (word.asCode ++ back)))
    (maximal : Text.IsMaximalRun (front.map Prod.fst) word (back.map Prod.fst))
    (isName : word.IsName) (unlisted : word ∉ table.surfaces) {surface : Text}
    (isTarget : table.surfaceFor? word = some surface) :
    (table.validate program).filter
        (fun diagnostic => diagnostic.reportsTarget && diagnostic.line == index + 1
          && diagnostic.column == front.length + 1
          && diagnostic.endColumn == front.length + word.length + 1) =
      [⟨index + 1, front.length + 1, front.length + word.length + 1,
        .targetKeyword surface word⟩] := by
  obtain ⟨mode, known, text, oneLine, chars, isScan⟩ := words.exists_of_classified isLine
  obtain ⟨earlier, later, split, rfl⟩ :=
    exists_identifier_of_run words.isWord_of_mem_surfaces known chars.symm maximal isName unlisted
  have length : (Lexeme.source earlier).length = (earlier.flatMap Lexeme.classified).length := by
    rw [← Lexeme.map_fst_classified, List.length_map]
  set front := earlier.flatMap Lexeme.classified with front_eq
  have found : (⟨index + 1, front.length + 1, front.length + word.length + 1,
      .targetKeyword surface word⟩ : Diagnostic) ∈ table.validate program := by
    refine (words.mem_validate_iff.2 ⟨_, List.mem_of_getElem? isScan,
      mem_targetDiagnostics.2 ⟨earlier, _, later, split, ?_⟩⟩).1
    rw [targetDiagnostic?, replacement?_eq_some.2 ⟨rfl, isTarget⟩, Option.map_some, length]
    congr 2
    · exact Nat.add_comm 1 _
    · change 1 + front.length + word.length = _
      omega
  have only : ∀ diagnostic ∈ table.validate program,
      (diagnostic.reportsTarget && diagnostic.line == index + 1
          && diagnostic.column == front.length + 1
          && diagnostic.endColumn == front.length + word.length + 1) = true ↔
        diagnostic = ⟨index + 1, front.length + 1, front.length + word.length + 1,
          .targetKeyword surface word⟩ := by
    intro diagnostic reported
    simp only [Bool.and_eq_true, beq_iff_eq]
    constructor
    · rintro ⟨⟨⟨reports, line⟩, column⟩, -⟩
      exact table.eq_of_mem_validate reported found line column (of_decide_eq_true reports)
    · rintro rfl
      exact ⟨⟨⟨rfl, rfl⟩, rfl⟩, rfl⟩
  rw [table.filter_validate_of_only program only, if_pos found]

/-- The brackets of a line are those among its code characters. -/
theorem HasWordKeywords.countBracket_eq {program : Text} {index : Nat}
    {chars : List (Char × Region)} (isLine : program.classified[index]? = some chars)
    {line : SourceLine} (isHere : (table.read program)[index]? = some line) {bracket : Char}
    (isBracket : isBracket bracket = true) :
    line.countBracket bracket = chars.count (bracket, .code) := by
  obtain ⟨mode, known, text, -, rfl, isScan⟩ := words.exists_of_classified isLine
  obtain rfl := Option.some.inj (isHere.symm.trans isScan)
  exact countP_bracket_eq words.isWord_of_mem_surfaces known none text isBracket

omit words in
/-- The target keywords of the default table are names that are no surface keywords, and
each has a surface keyword. -/
theorem default_targets_apart : ∀ word ∈ default.targets,
    word.IsName ∧ word ∉ default.surfaces ∧ (default.surfaceFor? word).isSome = true := by
  decide +kernel

omit words in
/-- The parentheses of a line are reported, once, exactly if its code characters hold more
of one than of the other. A target keyword is reported once wherever it is a whole run of
word characters in code, and every report of one covers a target keyword in code that
stops there and follows no word character but a decimal digit. -/
theorem code_reports (program : Text) :
    (∀ index chars, program.classified[index]? = some chars →
      (default.validate program).filter
          (fun diagnostic => diagnostic.reportsParentheses && diagnostic.line == index + 1) =
        if chars.count ('(', .code) = chars.count (')', .code) then []
        else [⟨index + 1, 1, 2, .unbalancedParentheses⟩]) ∧
      (∀ index front word back,
        program.classified[index]? = some (front ++ (Text.asCode word ++ back)) →
        Text.IsMaximalRun (front.map Prod.fst) word (back.map Prod.fst) →
        word ∈ default.targets → ∃ surface,
          (default.validate program).filter
              (fun diagnostic => diagnostic.reportsTarget && diagnostic.line == index + 1
                && diagnostic.column == front.length + 1
                && diagnostic.endColumn == front.length + word.length + 1) =
            [⟨index + 1, front.length + 1, front.length + word.length + 1,
              .targetKeyword surface word⟩]) ∧
      ∀ diagnostic ∈ default.validate program, diagnostic.reportsTarget = true →
        ∃ chars front word back, program.classified[diagnostic.line - 1]? = some chars ∧
          chars = front ++ (Text.asCode word ++ back) ∧
          diagnostic.column = front.length + 1 ∧
          diagnostic.endColumn = front.length + word.length + 1 ∧ word ∈ default.targets ∧
          Text.isWordSide (back.map Prod.fst).head? = false ∧
          (Text.isWordSide (front.map Prod.fst).getLast? = true →
            (front.map Prod.fst).getLast?.any isDecimalDigit = true) := by
  have words := default_hasWordKeywords
  refine ⟨fun index chars isLine => ?_, fun index front word back isLine maximal isTarget => ?_,
    fun diagnostic reported reports => words.exists_code_of_targetKeyword reported reports⟩
  · obtain ⟨_, _, _, _, _, isHere⟩ := words.exists_of_classified isLine
    have counts (bracket : Char) (known : isBracket bracket = true) :=
      words.countBracket_eq isLine isHere known
    have reports := filter_validate_parentheses (List.mem_of_getElem? isHere)
    rw [SourceLine.parenthesisDiagnostics, counts '(' (by decide),
      counts ')' (by decide)] at reports
    exact reports
  · obtain ⟨isName, unlisted, isSome⟩ := default_targets_apart word isTarget
    obtain ⟨surface, isSurface⟩ := Option.isSome_iff_exists.1 isSome
    exact ⟨surface,
      words.filter_validate_targetKeyword isLine maximal isName unlisted isSurface⟩

omit words in
/-- Behind a string that ends on its second line, a program has one parenthesis too many,
a target keyword behind a number and another below. -/
theorem code_reports_behind_string :
    let program : Text := "x = \"\"\"(\n if \"\"\" + 2if(\nwhile \")\""
    (default.validate program).filter
        (fun diagnostic => diagnostic.reportsParentheses && diagnostic.line == 2) =
        [⟨2, 1, 2, .unbalancedParentheses⟩] ∧
      (∃ surface, (default.validate program).filter
          (fun diagnostic => diagnostic.reportsTarget && diagnostic.line == 3
            && diagnostic.column == 1 && diagnostic.endColumn == 6) =
          [⟨3, 1, 6, .targetKeyword surface "while"⟩]) ∧
      ∀ diagnostic ∈ default.validate program, diagnostic.reportsTarget = true →
        diagnostic.endColumn - diagnostic.column ∈ default.targets.map List.length := by
  intro program
  obtain ⟨parentheses, runs, reports⟩ := code_reports program
  refine ⟨?_, ?_, fun diagnostic reported target => ?_⟩
  · have second := parentheses 1 _ rfl
    rwa [if_neg (by decide)] at second
  · exact runs 2 [] "while" ([(' ', .code)] ++ ("\")\"" : Text).map fun c => (c, .string)) rfl
      ⟨by decide, rfl, rfl⟩ (by decide +kernel)
  · obtain ⟨_, front, word, _, -, -, column, endColumn, isTarget, -, -⟩ :=
      reports diagnostic reported target
    rw [column, endColumn]
    exact List.mem_map.2 ⟨word, isTarget, by omega⟩

end Table

end KeywordBridge
