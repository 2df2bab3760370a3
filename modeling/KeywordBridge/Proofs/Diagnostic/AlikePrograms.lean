import KeywordBridge.Proofs.Diagnostic.MissingColons
import KeywordBridge.Proofs.Token.AlikeTokens

/-!
# Programs that are read alike

The checks are blind to what strings and comments hold. Of the code of a line they use
its first words, its last character and its length, of its tokens the names, the brackets
and the broken strings, and of the lines below it the place and the indentation of the
next one with code, if that starts outside strings. All of this agrees for lines that are
read alike, and so do the diagnostics. A line that lies in a string altogether is reported
for nothing, and whether it has code makes no difference, since the next line with code
starts in a string in any case.
-/

namespace KeywordBridge

/-! ## The checks of a head -/

section

variable {code other : Text} (alike : code.AlikeOutsideQuotes other)

include alike

theorem headWord?_of_alike {words : List Text} (isWord : ∀ word ∈ words, word.IsWord) :
    headWord? words other = headWord? words code := by
  unfold headWord?
  congr 1
  apply List.filter_congr
  intro word listed
  have starts := alike.dropStart? fun quote => (isWord word listed).not_mem quote.isWordChar_mark
  generalize Text.dropStart? word code = rest at starts
  generalize Text.dropStart? word other = rest' at starts
  cases starts with
  | none => rfl
  | some behind => cases behind <;> rfl

theorem functionHere?_of_alike {word : Text} (isWord : word.IsWord) :
    functionHere? word other = functionHere? word code := by
  have starts := alike.dropStart? fun quote => isWord.not_mem quote.isWordChar_mark
  unfold functionHere? introduced?
  generalize Text.dropStart? word code = first at starts
  generalize Text.dropStart? word other = first' at starts
  cases starts with
  | none => rfl
  | @some rest rest' behind =>
      simp only [Option.bind_eq_bind, Option.bind_some]
      have blanks := behind.dropBlanks?
      generalize Text.dropBlanks? rest = second at blanks
      generalize Text.dropBlanks? rest' = second' at blanks
      cases blanks with
      | none => rfl
      | @some text text' behind =>
          simp only [Option.bind_some]
          have name := behind.name?
          generalize Text.name? text = third at name
          generalize Text.name? text' = third' at name
          cases name with
          | none => rfl
          | some found =>
              have next := (found.2.dropWhile Quote.isBlankChar_mark).head?_eq
              simp only [Option.bind_some, found.1, next]

theorem isHead_of_alike {words : List Text} (isWord : ∀ word ∈ words, word.IsWord) :
    isHead words other = isHead words code := by
  rw [Bool.eq_iff_iff, isHead_iff isWord, isHead_iff isWord, alike.getLast?_eq,
    alike.takeWhile_eq Quote.isWordChar_mark]

/-- A missing colon is found for both codes or for none. -/
theorem Table.HasHeadsApart.colonProblems_of_alike {table : Table} (apart : table.HasHeadsApart) :
    table.colonProblems other = table.colonProblems code := by
  have isWord := apart.isWord
  simp only [List.forall_mem_cons, List.forall_mem_append] at isWord
  obtain ⟨isFunction, ⟨⟨isCondition, isBare⟩, isLoop⟩, isStatement⟩ := isWord
  have noMark {text : Text} (listed : text ∈ table.bareWords) (quote : Quote) :
      quote.mark ∉ text := (isBare text listed).not_mem quote.isWordChar_mark
  have bare : (if table.bareWords.contains other then [Problem.bareWordWithoutColon other]
      else []) = if table.bareWords.contains code then [.bareWordWithoutColon code] else [] := by
    by_cases same : other = code
    · rw [same]
    · have absent : ¬ table.bareWords.contains code = true := fun listed =>
        same (alike.eq_of_no_marks (noMark (List.contains_iff_mem.1 listed)))
      have absentOther : ¬ table.bareWords.contains other = true := fun listed =>
        same (alike.symm.eq_of_no_marks (noMark (List.contains_iff_mem.1 listed))).symm
      rw [if_neg absent, if_neg absentOther]
  unfold Table.colonProblems
  rw [alike.getLast?_eq, headWord?_of_alike alike isCondition, headWord?_of_alike alike isLoop,
    headWord?_of_alike alike isStatement, functionHere?_of_alike alike isFunction, bare]

end

/-! ## What the checks see of a line -/

/-- The checks of the two lines see the same. -/
structure SourceLine.CheckedAlike (first second : SourceLine) : Prop where
  number : second.number = first.number
  mode : second.mode = first.mode
  code : Text.AlikeOutsideQuotes first.code.trimEnd second.code.trimEnd
  tokens : Lexeme.checked first.number 1 second.lexemes =
    Lexeme.checked first.number 1 first.lexemes
  front : first.code <+: first.text
  frontOther : second.code <+: second.text

/-- The place and the indentation of the next line with code, if that starts outside
strings. -/
def SourceLine.nextOutside? (lines : List SourceLine) : Option (Nat × Nat) :=
  (lines.find? (·.hasCode)).bind fun next =>
    if next.continuesString then none else some (next.number, indentation next.text)

/-- Only checked tokens give rise to diagnostics. -/
theorem Table.isChecked_of_tokenProblem? {table : Table} {token : Token} {problem : Problem}
    (found : table.tokenProblem? token = some problem) : token.kind.isChecked = true := by
  unfold tokenProblem? at found
  split at found
  · rename_i kind
    rw [kind]
    rfl
  · rename_i kind
    rw [kind]
    rfl
  · cases found

theorem Table.tokenDiagnostics_eq_checked (table : Table) (line : SourceLine) :
    table.tokenDiagnostics line =
      (Lexeme.checked line.number 1 line.lexemes).filterMap fun token =>
        (table.tokenProblem? token).map fun problem =>
          ⟨line.number, token.column, token.endColumn, problem⟩ := by
  rw [Lexeme.checked, List.filterMap_filter]
  apply List.filterMap_congr
  intro token _
  split
  · rfl
  · rename_i unchecked
    cases found : table.tokenProblem? token with
    | none => rfl
    | some problem => exact absurd (isChecked_of_tokenProblem? found) unchecked

theorem SourceLine.countBracket_eq_checked (line : SourceLine) (bracket : Char) :
    line.countBracket bracket =
      (Lexeme.checked line.number 1 line.lexemes).countP fun token =>
        token.kind == .bracket && token.value == [bracket] := by
  rw [countBracket, Lexeme.checked, List.countP_filter]
  conv_lhs => rw [← Lexeme.place_values line.number 1 line.lexemes, List.countP_map]
  apply List.countP_congr
  intro token _
  simp only [Function.comp_apply, Bool.and_eq_true, beq_iff_eq]
  constructor
  · rintro ⟨kind, value⟩
    refine ⟨⟨kind, value⟩, ?_⟩
    rw [kind]
    rfl
  · exact And.left

/-- A line with code is indented as far as its code. -/
theorem SourceLine.indentation_eq_of_hasCode {line : SourceLine} (front : line.code <+: line.text)
    (written : line.hasCode = true) : indentation line.text = indentation line.code.trimEnd := by
  have visible := exists_visible_of_hasCode written
  have inCode : line.code.trimEnd <+: line.code := ⟨_, Text.trimEnd_append_trailing line.code⟩
  obtain ⟨rest, whole⟩ := inCode.trans front
  rw [← whole, indentation, indentationFrom_append visible, indentation]

/-- A head blames the next line with code, if that starts outside strings. -/
theorem Table.indentationDiagnostics_eq_next (table : Table) (line : SourceLine)
    (following : List SourceLine) :
    table.indentationDiagnostics line following =
      if isHead table.blockWords line.code.trim then
        match SourceLine.nextOutside? following with
        | none => []
        | some (number, depth) =>
            if indentation line.text < depth then [] else [⟨number, 1, 2, .missingIndentation⟩]
      else [] := by
  unfold indentationDiagnostics SourceLine.nextOutside?
  cases following.find? (·.hasCode) with
  | none => rfl
  | some next =>
      cases outside : next.continuesString with
      | true => simp [outside]
      | false => simp [outside]

namespace SourceLine.CheckedAlike

variable {first second : SourceLine} (alike : first.CheckedAlike second)

include alike

theorem continuesString_eq : second.continuesString = first.continuesString := by
  rw [continuesString, alike.mode, continuesString]

theorem hasCode_eq : second.hasCode = first.hasCode := by
  rw [hasCode, hasCode, Bool.eq_iff_iff, Bool.not_eq_true', Bool.not_eq_true', Bool.eq_false_iff,
    Bool.eq_false_iff, ne_eq, ne_eq, Text.isBlank_iff_trimEnd, Text.isBlank_iff_trimEnd,
    ← List.length_eq_zero_iff, ← List.length_eq_zero_iff, alike.code.length_eq]

theorem trim : Text.AlikeOutsideQuotes first.code.trim second.code.trim := by
  rw [Text.trim_eq_dropWhile, Text.trim_eq_dropWhile]
  exact alike.code.dropWhile Quote.isBlankChar_mark

/-- The lines are indented alike, if they have code. -/
theorem indentation_eq (written : first.hasCode = true) :
    indentation second.text = indentation first.text := by
  have writtenOther := alike.hasCode_eq.trans written
  rw [indentation_eq_of_hasCode alike.frontOther writtenOther,
    indentation_eq_of_hasCode alike.front written]
  exact alike.code.indentationFrom_eq 0

theorem colonDiagnostics_eq {table : Table} (apart : table.HasHeadsApart) :
    table.colonDiagnostics second = table.colonDiagnostics first := by
  unfold Table.colonDiagnostics
  rw [alike.code.length_eq, alike.number, apart.colonProblems_of_alike alike.trim]

theorem parenthesisDiagnostics_eq :
    second.parenthesisDiagnostics = first.parenthesisDiagnostics := by
  have brackets (bracket : Char) : second.countBracket bracket = first.countBracket bracket := by
    rw [countBracket_eq_checked, countBracket_eq_checked, alike.number, alike.tokens]
  rw [parenthesisDiagnostics, parenthesisDiagnostics, brackets, brackets, alike.number]

theorem tokenDiagnostics_eq (table : Table) :
    table.tokenDiagnostics second = table.tokenDiagnostics first := by
  rw [table.tokenDiagnostics_eq_checked, table.tokenDiagnostics_eq_checked, alike.number,
    alike.tokens]

/-- A head looks for the next line with code. -/
theorem indentationDiagnostics_eq {table : Table} (isWord : ∀ word ∈ table.blockWords, word.IsWord)
    (written : first.hasCode = true) {following others : List SourceLine}
    (next : nextOutside? others = nextOutside? following) :
    table.indentationDiagnostics second others = table.indentationDiagnostics first following := by
  rw [table.indentationDiagnostics_eq_next, table.indentationDiagnostics_eq_next, next,
    isHead_of_alike alike.trim isWord, alike.indentation_eq written]

/-- The lines are reported alike. -/
theorem lineDiagnostics_eq {table : Table} (apart : table.HasHeadsApart)
    (isWord : ∀ word ∈ table.blockWords, word.IsWord) {following others : List SourceLine}
    (next : nextOutside? others = nextOutside? following) :
    table.lineDiagnostics second others = table.lineDiagnostics first following := by
  rw [Table.lineDiagnostics, Table.lineDiagnostics, alike.hasCode_eq]
  split
  · rename_i written
    rw [alike.continuesString_eq, alike.colonDiagnostics_eq apart,
      alike.indentationDiagnostics_eq isWord written next, alike.parenthesisDiagnostics_eq,
      alike.tokenDiagnostics_eq]
  · rfl

/-- Lines further up see the same of the lines. -/
theorem nextOutside?_cons {following others : List SourceLine}
    (next : nextOutside? others = nextOutside? following) :
    nextOutside? (second :: others) = nextOutside? (first :: following) := by
  rw [nextOutside?, nextOutside?, List.find?_cons, List.find?_cons, alike.hasCode_eq]
  split
  · rename_i written
    simp only [Option.bind_some, alike.continuesString_eq, alike.number,
      alike.indentation_eq written]
  · exact next

end SourceLine.CheckedAlike

/-! ## Lines that lie in a string -/

/-- Does the text lie in a triple-quoted string altogether, if it starts there? -/
def Text.LiesIn (quote : Quote) (text : Text) : Prop :=
  ∀ front, front <+: text → ((Zone.inTriple quote).scan 0 front).2 = .inTriple quote

theorem Text.liesIn_of_plain {quote : Quote} {text : Text}
    (plain : ∀ c ∈ text, isPlainIn quote c = true) : text.LiesIn quote := by
  intro front isFront
  have whole := Zone.scan_append (fun c member =>
    Zone.read_inTriple_of_plain (plain c (isFront.subset member))) []
  rw [List.append_nil] at whole
  rw [whole]
  rfl

theorem Zone.scan_inTriple_of_stays {quote : Quote} {held : Nat} {text : Text}
    (stays : ∀ front, front <+: text → ((inTriple quote).scan held front).2 = inTriple quote) :
    (inTriple quote).scan held text = (List.replicate text.length .string, inTriple quote) := by
  induction text generalizing held with
  | nil => rfl
  | cons c rest ih =>
      cases held with
      | succ held =>
          have behind : (inTriple quote).scan held rest = _ := ih fun front isFront =>
            stays (c :: front) ((List.prefix_cons_inj c).2 isFront)
          rw [scan_held_cons, behind]
          rfl
      | zero =>
          have onward (held : Nat) (read : ∀ front, front <+: rest →
              (inTriple quote).read c front = ⟨.string, .inTriple quote, held⟩) :
              (inTriple quote).scan 0 (c :: rest) =
                (List.replicate (rest.length + 1) .string, inTriple quote) := by
            have behind : (inTriple quote).scan held rest = _ := ih fun front isFront => by
              have whole := stays (c :: front) ((List.prefix_cons_inj c).2 isFront)
              rwa [scan_cons, read front isFront] at whole
            rw [scan_cons, read rest List.prefix_rfl, behind]
            rfl
          rcases mark_or_backslash_or_plain quote c with rfl | rfl | plain
          · by_cases triple : completesTriple quote rest = true
            · -- Three quotes would lead out of the string.
              have leads (text : Text) (two : text.take 2 = [quote.mark, quote.mark]) :
                  (inTriple quote).read quote.mark text = ⟨.string, code, 2⟩ := by
                rw [read_inTriple_of_mark, if_pos two]
              have reads := scan_of_completesTriple triple leads []
              have whole := stays (quote.mark :: rest.take 2)
                ((List.prefix_cons_inj _).2 (List.take_prefix 2 rest))
              rw [List.append_nil] at reads
              rw [reads] at whole
              cases whole
            · refine onward 0 fun front isFront => ?_
              rw [read_inTriple_of_mark, if_neg]
              exact fun two =>
                triple (completesTriple_of_part isFront (take_two_of_completesTriple.2 two))
          · exact onward 1 fun _ _ => rfl
          · exact onward 0 fun front _ => read_inTriple_of_plain plain front

theorem isPlainIn_of_isBlankChar (quote : Quote) {c : Char} (blank : isBlankChar c = true) :
    isPlainIn quote c = true :=
  Zone.isPlainIn_of_isInert (Zone.isInert_of_isBlankChar blank) quote

/-- Where the code of a line that starts in a string is blank, the line is. -/
theorem Zone.isBlank_of_codePart {quote : Quote} {text : Text}
    (blank : ((inTriple quote).codePart 0 text).isBlank = true) : text.isBlank = true := by
  induction text with
  | nil => rfl
  | cons c rest ih =>
      have outside : ((inTriple quote).read c rest).region ≠ .comment := by
        have inString : inTriple quote ≠ .comment := Zone.noConfusion
        rcases read_cases inString c rest with ⟨known, -⟩ | ⟨same, -⟩
        · exact known
        · cases same
      rw [codePart_cons outside, Text.isBlank, List.all_cons, Bool.and_eq_true] at blank
      rw [read_inTriple_of_plain (isPlainIn_of_isBlankChar quote blank.1)] at blank
      rw [Text.isBlank, List.all_cons, Bool.and_eq_true]
      exact ⟨blank.1, ih blank.2⟩

namespace Table.HasWordKeywords

variable {table : Table} (words : table.HasWordKeywords)

include words

/-- No token is checked in a line that lies in a string, and the next line starts there. -/
theorem unchecked_of_liesIn {quote : Quote} {text : Text} (oneLine : '\n' ∉ text)
    (lies : text.LiesIn quote) :
    Lexeme.Unchecked (table.scanLine (.inTriple quote) text).1 ∧
      (table.scanLine (.inTriple quote) text).2 = .inTriple quote := by
  have agrees := words.lineAgrees (.inr ⟨quote, rfl⟩) oneLine
  have reading : (Zone.ofMode (.inTriple quote)).scan 0 text = _ :=
    Zone.scan_inTriple_of_stays lies
  rw [reading] at agrees
  refine ⟨fun lexeme listed => ?_, agrees.mode⟩
  have nonempty : lexeme.value.length ≠ 0 := fun none =>
    value_ne_nil_of_mem_scanFrom _ _ _ _ lexeme listed (List.length_eq_zero_iff.1 none)
  have region : lexeme.kind.region ∈ List.replicate text.length Region.string := by
    have regions : _ = List.replicate text.length Region.string := agrees.regions
    rw [← regions]
    exact List.mem_flatMap_of_mem listed (List.mem_replicate.2 ⟨nonempty, rfl⟩)
  have inString := List.eq_of_mem_replicate region
  have whole := agrees.whole rfl lexeme listed
  generalize lexeme.kind = kind at inString whole
  cases kind with
  | string | escape => rfl
  | brokenString => exact absurd rfl whole
  | _ => cases inString

/-- Where a line starts in a string, so does the next line with code. -/
theorem nextOutside?_readFrom (quote : Quote) {lines : List Text}
    (oneLine : ∀ line ∈ lines, '\n' ∉ line.dropReturns) (number : Nat) :
    SourceLine.nextOutside? (table.readFrom number (.inTriple quote) lines) = none := by
  induction lines generalizing number with
  | nil => rfl
  | cons line rest ih =>
      rw [List.forall_mem_cons] at oneLine
      rw [table.readFrom_cons, SourceLine.nextOutside?, List.find?_cons]
      split
      · rfl
      · rename_i noCode
        have isCode := words.source_filter_scanLine (.inr ⟨quote, rfl⟩) oneLine.1
        have blank : line.dropReturns.isBlank = true := by
          apply @Zone.isBlank_of_codePart quote
          rw [SourceLine.hasCode, Bool.not_eq_false'] at noCode
          exact isCode ▸ noCode
        rw [Text.isBlank, List.all_eq_true] at blank
        have lies : line.dropReturns.LiesIn quote :=
          Text.liesIn_of_plain fun c member => isPlainIn_of_isBlankChar quote (blank c member)
        rw [(words.unchecked_of_liesIn oneLine.1 lies).2]
        exact ih oneLine.2 (number + 1)

end Table.HasWordKeywords

/-! ## Programs -/

namespace Table

/-- Are the lines read alike one by one, the first in the given mode, or do they lie in
the same string? -/
inductive LinesAlike (table : Table) : Mode → List Text → List Text → Prop
  | nil (mode : Mode) : LinesAlike table mode [] []
  | alike {mode : Mode} {line other : Text} {rest others : List Text}
      (reads : (Zone.ofMode mode).ReadAlike line.dropReturns other.dropReturns)
      (behind : LinesAlike table (table.scanLine mode line.dropReturns).2 rest others) :
      LinesAlike table mode (line :: rest) (other :: others)
  | inside {quote : Quote} {line other : Text} {rest others : List Text}
      (lies : line.dropReturns.LiesIn quote) (liesOther : other.dropReturns.LiesIn quote)
      (behind : LinesAlike table (.inTriple quote) rest others) :
      LinesAlike table (.inTriple quote) (line :: rest) (other :: others)

/-- Nothing is reported for a line that lies in a string. -/
theorem lineDiagnostics_of_unchecked {table : Table} {line : SourceLine}
    (inside : line.continuesString = true) (unchecked : Lexeme.Unchecked line.lexemes)
    (following : List SourceLine) : table.lineDiagnostics line following = [] := by
  have noTokens : table.tokenDiagnostics line = [] := by
    rw [table.tokenDiagnostics_eq_checked, unchecked.checked_eq]
    rfl
  have noBrackets (bracket : Char) : line.countBracket bracket = 0 := by
    rw [line.countBracket_eq_checked, unchecked.checked_eq]
    rfl
  rw [lineDiagnostics, inside, noTokens, SourceLine.parenthesisDiagnostics, noBrackets, noBrackets]
  simp

namespace HasWordKeywords

variable {table : Table} (words : table.HasWordKeywords)

include words

/-- The checks of lines that are read alike see the same. -/
theorem checkedAlike {mode : Mode} (start : mode.StartsLine) {line other : Text}
    (oneLine : '\n' ∉ line) (oneLineOther : '\n' ∉ other)
    (reads : (Zone.ofMode mode).ReadAlike line other) (number : Nat) :
    SourceLine.CheckedAlike ⟨number, line, mode, (table.scanLine mode line).1⟩
      ⟨number, other, mode, (table.scanLine mode other).1⟩ := by
  have isCode {text : Text} (oneLine : '\n' ∉ text) :
      SourceLine.code ⟨number, text, mode, (table.scanLine mode text).1⟩ =
        (Zone.ofMode mode).codePart 0 text := words.source_filter_scanLine start oneLine
  have outside : Zone.ofMode mode ≠ .comment := by
    rcases start with rfl | ⟨quote, rfl⟩
    · exact Zone.noConfusion
    · exact Zone.noConfusion
  have front {text : Text} (oneLine : '\n' ∉ text) :
      SourceLine.code ⟨number, text, mode, (table.scanLine mode text).1⟩ <+: text := by
    obtain ⟨comment, whole, -⟩ := Zone.exists_comment outside 0 text
    rw [isCode oneLine]
    exact ⟨comment, whole.symm⟩
  refine ⟨rfl, rfl, ?_, ?_, front oneLine, front oneLineOther⟩
  · rw [isCode oneLine, isCode oneLineOther]
    exact reads.codePart
  · exact reads.checked_eq words.isWord_of_mem_surfaces start.ne_blanks oneLine
      oneLineOther none number 1

/-- Lines that are read alike are reported alike, and the lines above see the same of
them. -/
theorem diagnose_of_linesAlike (apart : table.HasHeadsApart)
    (isWord : ∀ word ∈ table.blockWords, word.IsWord) {mode : Mode} {lines others : List Text}
    (alike : table.LinesAlike mode lines others) (start : mode.StartsLine)
    (oneLine : ∀ line ∈ lines, '\n' ∉ line.dropReturns)
    (oneLineOther : ∀ line ∈ others, '\n' ∉ line.dropReturns) (number : Nat) :
    SourceLine.nextOutside? (table.readFrom number mode others) =
        SourceLine.nextOutside? (table.readFrom number mode lines) ∧
      table.diagnose (table.readFrom number mode others) =
        table.diagnose (table.readFrom number mode lines) := by
  induction alike generalizing number with
  | nil => exact ⟨rfl, rfl⟩
  | @alike mode line other rest others reads behind ih =>
      have below := words.startsLine_scanLine start (oneLine line List.mem_cons_self)
      rw [List.forall_mem_cons] at oneLine oneLineOther
      have nextMode : (table.scanLine mode other.dropReturns).2 =
          (table.scanLine mode line.dropReturns).2 := by
        rw [(words.lineAgrees start oneLine.1).mode, (words.lineAgrees start oneLineOther.1).mode]
        exact reads.nextMode_eq
      obtain ⟨next, reports⟩ := ih below oneLine.2 oneLineOther.2 (number + 1)
      have here := words.checkedAlike start oneLine.1 oneLineOther.1 reads number
      rw [table.readFrom_cons, table.readFrom_cons, nextMode, diagnose, diagnose, reports,
        here.lineDiagnostics_eq apart isWord next]
      exact ⟨here.nextOutside?_cons next, rfl⟩
  | @inside quote line other rest others lies liesOther behind ih =>
      have below : (Mode.inTriple quote).StartsLine := .inr ⟨quote, rfl⟩
      refine ⟨?_, ?_⟩
      · rw [words.nextOutside?_readFrom quote oneLine,
          words.nextOutside?_readFrom quote oneLineOther]
      rw [List.forall_mem_cons] at oneLine oneLineOther
      obtain ⟨unchecked, next⟩ := words.unchecked_of_liesIn oneLine.1 lies
      obtain ⟨uncheckedOther, nextOther⟩ := words.unchecked_of_liesIn oneLineOther.1 liesOther
      obtain ⟨-, reports⟩ := ih below oneLine.2 oneLineOther.2 (number + 1)
      rw [table.readFrom_cons, table.readFrom_cons, next, nextOther, diagnose, diagnose, reports,
        lineDiagnostics_of_unchecked rfl uncheckedOther, lineDiagnostics_of_unchecked rfl unchecked]

/-- Programs that are read alike are reported alike. -/
theorem validate_of_linesAlike (apart : table.HasHeadsApart)
    (isWord : ∀ word ∈ table.blockWords, word.IsWord) {program other : Text}
    (alike : table.LinesAlike .code program.lines other.lines) :
    table.validate other = table.validate program := by
  obtain ⟨-, reports⟩ := words.diagnose_of_linesAlike apart isWord alike (.inl rfl)
    (fun _ => Text.newline_not_mem_dropReturns) (fun _ => Text.newline_not_mem_dropReturns) 1
  rw [validate, validate, read, read, reports]

end HasWordKeywords

end Table

end KeywordBridge
